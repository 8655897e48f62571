import Mathlib.Algebra.Group.Nat.Defs

/-! Fixed-width unsigned arithmetic as it is used by counters: saturating and
wrapping addition over natural numbers. -/

namespace Kore.Foundation

def u64Max : Nat := 2 ^ 64 - 1

def i64Max : Nat := 2 ^ 63 - 1

def satAdd (first second : Nat) : Nat := min (first + second) u64Max

def wrapAdd (first second : Nat) : Nat := (first + second) % 2 ^ 64

theorem satAdd_exact {first second : Nat} (fits : first + second ≤ u64Max) :
    satAdd first second = first + second := Nat.min_eq_left fits

end Kore.Foundation
