import Kore.Proofs.Repetition

/-! Counting at the ends of the 64-bit range. The sum is formed with plain addition, and a
decrement is negated first: in a build with overflow checks a result that does not fit is a
panic, in a build without it wraps around. Counting is exact just when nothing overflows. -/

namespace Kore.Proofs.CounterArithmetic
open Foundation Protocol Cache Repetition Keyspace Option

variable {F : Type} {now : Nat} {key : Bytes} {keyspace : Keyspace F} {delta : Int}

/-- What a build makes of arithmetic that overflows. -/
inductive Build where
  | checked
  | wrapping
  deriving DecidableEq

/-- The numbers of a signed word. -/
def Fits (value : Int) : Prop := -(2 ^ 63) ≤ value ∧ value ≤ i64Max

instance (value : Int) : Decidable (Fits value) := inferInstanceAs (Decidable (_ ∧ _))

/-- The result of an operation on signed words; nothing stands for a panic. -/
def Build.word (build : Build) (value : Int) : Option Int :=
  if Fits value then some value
  else match build with
    | .checked => none
    | .wrapping => some (wrapI64 value)

section
variable (build : Build) (now : Nat) (key : Bytes) (delta : Int) (keyspace : Keyspace F)

/-- `incr_decr` as a build runs it, with the keyspace that it leaves behind. -/
def incrDecr : Option (Keyspace F × Except Error Int) :=
  let add (current : Int) (expiresAt : Option Nat) : EntryAction × Option (Except Error Int) :=
    match build.word (current + delta) with
    | none => (.keep, none)
    | some sum => (.set (integerText sum) expiresAt, some (.ok sum))
  let callback (current : Option Bytes) (slotExpires : Option Nat) : EntryAction × Option (Except Error Int) :=
    match current with
    | some value =>
      if slotTtlLive now slotExpires then
        match i64OfText value with
        | some number => add number slotExpires
        | none => (.keep, some (.error (.invalidArgument (ascii "value is not a valid integer"))))
      else add 0 none
    | none => add 0 none
  match keyspace.mutateString key callback with
  | .error error => some (keyspace, .error error)
  | .ok (after, result) => result.map fun result => (after, result)

def incr : Option (Keyspace F × Except Error Int) :=
  incrDecr build now key delta keyspace

def decr : Option (Keyspace F × Except Error Int) :=
  (build.word (-delta)).bind fun negated => incrDecr build now key negated keyspace

end

/-- The number that a counter stands at and the expiry that it keeps; nothing if the key does not hold a number. -/
def standing (now : Nat) (key : Bytes) (keyspace : Keyspace F) : Option (Int × Option Nat) :=
  match keyspace.lookup key with
  | none => some (0, none)
  | some ⟨expiresAt, .string text⟩ =>
    if slotTtlLive now expiresAt then (i64OfText text).map fun number => (number, expiresAt) else some (0, none)
  | some _ => none

/-- A counter that moves moves by what was asked; one that refuses stays. -/
def Exact (now : Nat) (key : Bytes) (change : Int) (keyspace : Keyspace F) (outcome : Option (Keyspace F × Except Error Int)) : Prop :=
  match standing now key keyspace with
  | none => ∃ error, outcome = some (keyspace, .error error)
  | some (number, expiresAt) => outcome =
      some (keyspace.insert key ⟨expiresAt, .string (integerText (number + change))⟩, .ok (number + change)) ∨
        ∃ error, outcome = some (keyspace, .error error)

/-- A counter command refuses what is not a number and otherwise stores the word that the build comes up with. -/
theorem incrDecr_eq (build : Build) (now : Nat) (key : Bytes) (delta : Int) (keyspace : Keyspace F) :
    match standing now key keyspace with
    | none => ∃ error, incrDecr build now key delta keyspace = some (keyspace, .error error)
    | some (number, expiresAt) => incrDecr build now key delta keyspace = (build.word (number + delta)).map fun sum =>
        (keyspace.insert key ⟨expiresAt, .string (integerText sum)⟩, .ok sum) := by
  unfold incrDecr standing mutateString
  cases found : keyspace.lookup key with
  | none =>
    dsimp only
    cases build.word (0 + delta) <;> rfl
  | some slot =>
    obtain ⟨expiresAt, value⟩ := slot
    cases value with
    | string text =>
      dsimp only
      cases slotTtlLive now expiresAt with
      | false =>
        simp only [Bool.false_eq_true, if_false]
        cases build.word (0 + delta) <;> rfl
      | true =>
        cases i64OfText text with
        | none => exact ⟨_, rfl⟩
        | some number =>
          simp only [if_true, map_some]
          cases build.word (number + delta) <;> rfl
    | _ => exact ⟨_, rfl⟩

private theorem wrapI64_of_fits {value : Int} (fits : Fits value) : wrapI64 value = value := by
  unfold Fits i64Max at fits
  rw [wrapI64, Int.bmod_eq_of_le (by omega) (by omega)]

private theorem word_wrapping (value : Int) : Build.wrapping.word value = some (wrapI64 value) := by
  unfold Build.word
  split
  next fits => rw [wrapI64_of_fits fits]
  next => rfl

private theorem word_exact_iff {build : Build} {value : Int} : build.word value = some value ↔ Fits value := by
  constructor
  · intro exact
    by_contra large
    cases build with
    | checked => simp [Build.word, large] at exact
    | wrapping =>
      rw [word_wrapping] at exact
      have below : -(((2 ^ 64 : Nat) : Int) / 2) ≤ wrapI64 value := Int.le_bmod (by decide)
      have above : wrapI64 value < (((2 ^ 64 : Nat) : Int) + 1) / 2 := Int.bmod_lt (by decide)
      rw [some.inj exact] at below above
      exact large ⟨by omega, by unfold i64Max; omega⟩
  · intro fits
    exact if_pos fits

private theorem exact_iff_word {build : Build} {change : Int} :
    Exact now key change keyspace (incrDecr build now key delta keyspace) ↔
      ∀ number expiresAt, standing now key keyspace = some (number, expiresAt) → build.word (number + delta) = some (number + change) := by
  have counted := incrDecr_eq build now key delta keyspace
  unfold Exact
  cases found : standing now key keyspace with
  | none =>
    rw [found] at counted
    exact iff_of_true counted nofun
  | some pair =>
    rw [found] at counted
    obtain ⟨number, expiresAt⟩ := pair
    rw [counted]
    constructor
    · rintro (exact | ⟨error, refused⟩) _ _ same
      · obtain ⟨rfl, rfl⟩ := Prod.mk.inj (some.inj same)
        obtain ⟨sum, formed, stored⟩ := map_eq_some_iff.mp exact
        rw [formed, Except.ok.inj (Prod.mk.inj stored).2]
      · obtain ⟨sum, _, stored⟩ := map_eq_some_iff.mp refused
        cases (Prod.mk.inj stored).2
    · intro formed
      rw [formed number expiresAt rfl]
      exact .inl rfl

/-- Counting up is exact just when the sum fits. Counting down is exact just when the difference
fits and, where overflow is checked, so does the negated step. -/
theorem counting_exact_iff (build : Build) (now : Nat) (key : Bytes) (delta : Int) (keyspace : Keyspace F) :
    (Exact now key delta keyspace (incr build now key delta keyspace) ↔
      ∀ number expiresAt, standing now key keyspace = some (number, expiresAt) → Fits (number + delta)) ∧
    (Exact now key (-delta) keyspace (decr build now key delta keyspace) ↔ (build = .checked → Fits (-delta)) ∧
      ∀ number expiresAt, standing now key keyspace = some (number, expiresAt) → Fits (number - delta)) := by
  constructor
  · unfold incr
    simp [exact_iff_word, word_exact_iff]
  · unfold decr
    by_cases fits : Fits (-delta)
    · rw [word_exact_iff.mpr fits, bind_some, exact_iff_word]
      simp [word_exact_iff, fits, Int.sub_eq_add_neg]
    · cases build with
      | checked =>
        rw [show Build.checked.word (-delta) = none from if_neg fits]
        refine iff_of_false ?_ fun right => fits (right.1 rfl)
        unfold Exact
        split <;> simp
      | wrapping =>
        -- the difference is formed modulo the word, so that the wrapped step does not show
        have negated (number : Int) : Build.wrapping.word (number + wrapI64 (-delta)) = Build.wrapping.word (number + -delta) := by
          rw [word_wrapping, word_wrapping, wrapI64, wrapI64, wrapI64, Int.add_bmod_bmod]
        rw [word_wrapping, bind_some, exact_iff_word]
        simp [negated, word_exact_iff, Int.sub_eq_add_neg]

/-- The largest number, stored without an expiry. -/
def largest : Keyspace Int := (∅ : Keyspace Int).insert (ascii "n") ⟨none, .string (ascii "9223372036854775807")⟩

/-- Counting up from the largest number panics or arrives at the smallest. -/
theorem largest_overflows : incr .checked 0 (ascii "n") 1 largest = none ∧
    (incr .wrapping 0 (ascii "n") 1 largest).map (fun outcome => outcome.2.toOption) = some (some (-9223372036854775808)) ∧
    ∀ build, ¬Exact 0 (ascii "n") 1 largest (incr build 0 (ascii "n") 1 largest) := by
  refine ⟨by decide +kernel, by decide +kernel, ?_⟩
  intro build exact
  have told : ((incr build 0 (ascii "n") 1 largest).map fun outcome => outcome.2.toOption) ∈
      [some (some (9223372036854775807 + 1)), some none] := by
    rcases exact with counted | ⟨error, refused⟩
    · rw [counted]
      exact List.mem_cons_self
    · rw [refused]
      exact List.mem_cons_of_mem _ List.mem_cons_self
  revert told
  cases build <;> decide +kernel

end Kore.Proofs.CounterArithmetic
