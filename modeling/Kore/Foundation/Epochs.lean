import Mathlib.Data.List.Basic
import Mathlib.Data.Nat.Basic

/-! A register that takes over a value announced with a greater epoch, but takes no note of
the epoch of an announcement that repeats the value it has. In which order announcements
come does not matter just when no other value has an epoch between two epochs of the one
that should win. -/

namespace Kore.Foundation.Epochs
open List
variable {A M : Type} [DecidableEq A] (value : M → A) (epoch : M → Nat)

def adopt (held : A × Nat) (msg : M) : A × Nat :=
  if held.2 < epoch msg ∧ value msg ≠ held.1 then (value msg, epoch msg) else held

variable (start : A × Nat) (messages : List M)

/-- The value and epoch with which the register starts or which a message carries. -/
def Carried (pair : A × Nat) : Prop := pair = start ∨ ∃ msg ∈ messages, pair = (value msg, epoch msg)

/-- Messages with different values have different epochs. -/
def Distinct : Prop := ∀ one ∈ messages, ∀ other ∈ messages, epoch one = epoch other → value one = value other

structure Greatest (top : A × Nat) : Prop where
  carried : Carried value epoch start messages top
  most : ∀ other, Carried value epoch start messages other → other.2 ≤ top.2

/-- What the register can hold: it starts with a value, or takes one over. -/
def Within (held : A × Nat) : Prop := held = start ∨ start.2 < held.2

/-- Above an epoch of the winning value that the register can have there is no other value. -/
def Unbroken (top : A × Nat) : Prop :=
  ∀ low, Carried value epoch start messages low → low.1 = top.1 → Within start low →
    ∀ msg ∈ messages, low.2 < epoch msg → value msg = top.1

variable {value epoch start messages} {top : A × Nat}

omit [DecidableEq A] in
theorem carried_iff_mem {pair : A × Nat} :
    Carried value epoch start messages pair ↔ pair ∈ start :: messages.map fun msg => (value msg, epoch msg) := by
  simp [Carried, eq_comm]

omit [DecidableEq A] in
theorem Greatest.mem (greatest : Greatest value epoch start messages top) :
    (top ∈ start :: messages.map fun msg => (value msg, epoch msg)) ∧
      ∀ other ∈ start :: messages.map fun msg => (value msg, epoch msg), other.2 ≤ top.2 :=
  ⟨carried_iff_mem.mp greatest.carried, fun other member => greatest.most other (carried_iff_mem.mpr member)⟩

omit [DecidableEq A] in
theorem greatest_exists : ∃ top, Greatest value epoch start messages top := by
  induction messages with
  | nil =>
    refine ⟨start, .inl rfl, fun other carried => ?_⟩
    rcases carried with rfl | ⟨msg, missing, -⟩
    · exact le_rfl
    · exact absurd missing not_mem_nil
  | cons msg messages ih =>
    obtain ⟨top, carried, most⟩ := ih
    have earlier : Carried value epoch start (msg :: messages) top :=
      carried.imp_right fun ⟨other, member, same⟩ => ⟨other, mem_cons_of_mem _ member, same⟩
    have bound {best : Nat} (enough : top.2 ≤ best) (here : epoch msg ≤ best) :
        ∀ other, Carried value epoch start (msg :: messages) other → other.2 ≤ best := by
      intro other carried
      rcases carried with first | ⟨later, member, rfl⟩
      · exact le_trans (most other (.inl first)) enough
      · rcases mem_cons.mp member with rfl | inside
        · exact here
        · exact le_trans (most _ (.inr ⟨later, inside, rfl⟩)) enough
    rcases le_total (epoch msg) top.2 with less | more
    · exact ⟨top, earlier, bound le_rfl less⟩
    · exact ⟨(value msg, epoch msg), .inr ⟨msg, mem_cons_self, rfl⟩, bound more le_rfl⟩

omit [DecidableEq A] in
/-- Once a message is above the start, all that have the greatest epoch have one value. -/
theorem Greatest.unique (distinct : Distinct value epoch messages) {other : A × Nat} (greatest : Greatest value epoch start messages top)
    (greatest' : Greatest value epoch start messages other) {msg : M} (member : msg ∈ messages) (above : start.2 < epoch msg) :
    other.1 = top.1 := by
  have sent {best : A × Nat} (greatest : Greatest value epoch start messages best) :
      ∃ msg ∈ messages, best = (value msg, epoch msg) := by
    refine greatest.carried.resolve_left fun first => ?_
    have most := greatest.most (value msg, epoch msg) (.inr ⟨msg, member, rfl⟩)
    rw [first] at most
    exact absurd above (not_lt.mpr most)
  obtain ⟨one, inside, rfl⟩ := sent greatest
  obtain ⟨two, inside', rfl⟩ := sent greatest'
  exact distinct two inside' one inside (le_antisymm (greatest.most _ greatest'.carried) (greatest'.most _ greatest.carried))

private theorem foldl_adopt_carried (order : List M) (known : ∀ msg ∈ order, msg ∈ messages) {held : A × Nat}
    (carried : Carried value epoch start messages held) (within : Within start held) :
    Carried value epoch start messages (order.foldl (adopt value epoch) held) ∧ Within start (order.foldl (adopt value epoch) held) := by
  induction order generalizing held with
  | nil => exact ⟨carried, within⟩
  | cons msg order ih =>
    apply ih fun later member => known later (mem_cons_of_mem _ member)
    · unfold adopt
      split
      · exact .inr ⟨msg, known msg mem_cons_self, rfl⟩
      · exact carried
    · unfold adopt
      split
      next taken =>
        have least : start.2 ≤ held.2 := within.elim (fun same => same ▸ le_rfl) le_of_lt
        exact .inr (lt_of_le_of_lt least taken.1)
      next => exact within

private theorem foldl_adopt_stays (unbroken : Unbroken value epoch start messages top) (order : List M)
    (known : ∀ msg ∈ order, msg ∈ messages) {held : A × Nat} (carried : Carried value epoch start messages held)
    (within : Within start held) (won : held.1 = top.1) : (order.foldl (adopt value epoch) held).1 = top.1 := by
  induction order with
  | nil => exact won
  | cons msg order ih =>
    have same : adopt value epoch held msg = held := by
      apply if_neg
      intro ⟨greater, other⟩
      exact other ((unbroken held carried won within msg (known msg mem_cons_self) greater).trans won.symm)
    rw [foldl_cons, same]
    exact ih fun later member => known later (mem_cons_of_mem _ member)

/-- Without another value in between every order ends with the value of the greatest epoch. On
a tie with a message the value of the start stays. -/
theorem settles (distinct : Distinct value epoch messages) (greatest : Greatest value epoch start messages top)
    (tie : top.2 = start.2 → top = start) (unbroken : Unbroken value epoch start messages top)
    {order : List M} (same : ∀ msg, msg ∈ order ↔ msg ∈ messages) :
    (order.foldl (adopt value epoch) start).1 = top.1 := by
  rcases greatest.carried with rfl | ⟨msg, member, rfl⟩
  · exact foldl_adopt_stays unbroken order (fun msg inside => (same msg).mp inside) (.inl rfl) (.inl rfl) rfl
  · -- When the message with the greatest epoch has come, its value is there.
    obtain ⟨before, after, rfl⟩ := append_of_mem ((same msg).mpr member)
    have known : ∀ other, other ∈ before ∨ other = msg ∨ other ∈ after → other ∈ messages := by
      intro other either
      exact (same other).mp (by simpa using either)
    obtain ⟨carried, within⟩ := @foldl_adopt_carried A M _ value epoch start messages before
      (fun other inside => known other (.inl inside)) start (.inl rfl) (.inl rfl)
    rw [foldl_append, foldl_cons]
    generalize before.foldl (adopt value epoch) start = held at carried within
    have arrived : Carried value epoch start messages (adopt value epoch held msg) ∧ Within start (adopt value epoch held msg) :=
      @foldl_adopt_carried A M _ value epoch start messages [msg]
        (fun other inside => mem_singleton.mp inside ▸ member) held carried within
    apply foldl_adopt_stays unbroken after (fun other inside => known other (.inr (.inr inside))) arrived.1 arrived.2
    unfold adopt
    split
    next => rfl
    next refused =>
      by_contra other
      have least : epoch msg ≤ held.2 := by
        by_contra greater
        exact refused ⟨not_le.mp greater, fun same => other same.symm⟩
      have equal : held.2 = epoch msg := le_antisymm (greatest.most held carried) least
      rcases carried with rfl | ⟨winner, inside, rfl⟩
      · exact other (congrArg Prod.fst (tie equal.symm)).symm
      · exact other (distinct winner inside msg member equal)

private theorem foldl_adopt_leaves (order : List M) (others : ∀ msg ∈ order, value msg ≠ top.1) {held : A × Nat}
    (gone : held.1 ≠ top.1 ∨ ∃ msg ∈ order, held.2 < epoch msg) : (order.foldl (adopt value epoch) held).1 ≠ top.1 := by
  induction order generalizing held with
  | nil => exact gone.resolve_right fun ⟨_, missing, _⟩ => absurd missing not_mem_nil
  | cons msg order ih =>
    apply ih fun later member => others later (mem_cons_of_mem _ member)
    unfold adopt
    split
    next => exact .inl (others msg mem_cons_self)
    next refused =>
      by_cases here : held.1 = top.1
      · obtain ⟨later, member, greater⟩ := gone.resolve_left fun other => other here
        rcases mem_cons.mp member with rfl | inner
        · exact absurd ⟨greater, fun same => others later mem_cons_self (same.trans here)⟩ refused
        · exact .inr ⟨later, inner, greater⟩
      · exact .inl here

private theorem foldl_adopt_repeats (order : List M) {held : A × Nat} (repeats : ∀ msg ∈ order, value msg = held.1) :
    order.foldl (adopt value epoch) held = held := by
  induction order with
  | nil => rfl
  | cons msg order ih =>
    rw [foldl_cons, adopt, if_neg fun taken => taken.2 (repeats msg mem_cons_self)]
    exact ih fun later member => repeats later (mem_cons_of_mem _ member)

/-- With another value in between some order ends with the wrong value. -/
theorem strays (broken : ¬ Unbroken value epoch start messages top) :
    (∃ msg ∈ messages, start.2 < epoch msg) ∧
      ∃ order : List M, (∀ msg, msg ∈ order ↔ msg ∈ messages) ∧ (order.foldl (adopt value epoch) start).1 ≠ top.1 := by
  unfold Unbroken at broken
  push Not at broken
  obtain ⟨low, carried, sameValue, within, mid, member, greater, other⟩ := broken
  have least : start.2 ≤ low.2 := within.elim (fun same => same ▸ le_rfl) le_of_lt
  refine ⟨⟨mid, member, lt_of_le_of_lt least greater⟩, ?_⟩
  -- First the winning value comes with its low epoch, then with all its others, then everything else.
  have first : ∃ lead : List M, (∀ msg ∈ lead, msg ∈ messages) ∧ (lead.foldl (adopt value epoch) start).1 = top.1 ∧
      (lead.foldl (adopt value epoch) start).2 < epoch mid := by
    by_cases here : start.1 = top.1
    · exact ⟨[], fun _ missing => absurd missing not_mem_nil, here, lt_of_le_of_lt least greater⟩
    · have above : start.2 < low.2 := within.resolve_left fun same => here (same ▸ sameValue)
      obtain ⟨msg, inside, rfl⟩ := carried.resolve_left fun same => here (same ▸ sameValue)
      refine ⟨[msg], fun _ single => mem_singleton.mp single ▸ inside, ?_⟩
      have taken : adopt value epoch start msg = (value msg, epoch msg) :=
        if_pos ⟨above, fun same => here (same.symm.trans sameValue)⟩
      rw [foldl_cons, foldl_nil, taken]
      exact ⟨sameValue, greater⟩
  obtain ⟨lead, known, won, below⟩ := first
  refine ⟨lead ++ messages.filter (fun msg => value msg = top.1) ++ messages.filter (fun msg => value msg ≠ top.1), ?_, ?_⟩
  · intro msg
    simp only [mem_append, mem_filter, decide_eq_true_eq]
    constructor
    · intro either
      rcases either with (early | ⟨inside, _⟩) | ⟨inside, _⟩
      · exact known msg early
      · exact inside
      · exact inside
    · intro inside
      by_cases same : value msg = top.1
      · exact .inl (.inr ⟨inside, same⟩)
      · exact .inr ⟨inside, same⟩
  · rw [foldl_append, foldl_append]
    have same : ∀ msg ∈ messages.filter fun msg => value msg = top.1, value msg = (lead.foldl (adopt value epoch) start).1 := fun msg inside =>
      (of_decide_eq_true (mem_filter.mp inside).2).trans won.symm
    rw [foldl_adopt_repeats _ same]
    apply foldl_adopt_leaves
    · intro msg inside
      exact of_decide_eq_true (mem_filter.mp inside).2
    · exact .inr ⟨mid, mem_filter.mpr ⟨member, decide_eq_true other⟩, below⟩

/-! A register that takes over whatever comes with a greater epoch. -/

def raise (held claim : A × Nat) : A × Nat := if held.2 < claim.2 then claim else held

omit [DecidableEq A] in
/-- Whatever the order and the repetitions, the register ends with a claim of the greatest epoch. -/
theorem foldl_raise (claims : List (A × Nat)) (held : A × Nat) :
    claims.foldl raise held ∈ held :: claims ∧ ∀ claim ∈ held :: claims, claim.2 ≤ (claims.foldl raise held).2 := by
  induction claims generalizing held with
  | nil => exact ⟨mem_cons_self, fun claim member => (mem_singleton.mp member) ▸ le_rfl⟩
  | cons claim claims ih =>
    obtain ⟨inside, most⟩ := ih (raise held claim)
    rw [foldl_cons]
    by_cases greater : held.2 < claim.2
    · rw [raise, if_pos greater] at inside most ⊢
      refine ⟨mem_cons_of_mem _ inside, fun other member => ?_⟩
      rcases mem_cons.mp member with rfl | rest
      · exact le_trans (le_of_lt greater) (most claim mem_cons_self)
      · exact most other rest
    · rw [raise, if_neg greater] at inside most ⊢
      refine ⟨(sublist_cons_self claim claims).cons_cons held |>.subset inside, fun other member => ?_⟩
      rcases mem_cons.mp member with rfl | rest
      · exact most other mem_cons_self
      rcases mem_cons.mp rest with rfl | later
      · exact le_trans (not_lt.mp greater) (most held mem_cons_self)
      · exact most other (mem_cons_of_mem _ later)

end Kore.Foundation.Epochs
