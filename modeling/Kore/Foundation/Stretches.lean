import Mathlib.Data.Prod.Basic

/-! A list as the stretches of equal neighbours in it, each with its first and last position. -/

namespace Kore.Foundation

structure Stretch (α : Type) where
  first : Nat
  last : Nat
  value : α

variable {α : Type} {items rest : List α} {first next place : Nat} {value : α}

def Stretch.covers (stretch : Stretch α) (place : Nat) : Bool := stretch.first ≤ place && place ≤ stretch.last

theorem Stretch.covers_iff {stretch : Stretch α} : stretch.covers place = true ↔ stretch.first ≤ place ∧ place ≤ stretch.last := by
  rw [covers, Bool.and_eq_true, decide_eq_true_eq, decide_eq_true_eq]

/-- A stretch lies inside the list and its value stands at each of its positions. -/
structure Stretch.Of (stretch : Stretch α) (items : List α) : Prop where
  ordered : stretch.first ≤ stretch.last
  inside : stretch.last < items.length
  value_at : ∀ place, stretch.covers place = true → items[place]? = some stretch.value

private theorem Stretch.of_passed (started : first < next)
    (passed : ∀ place, first ≤ place → place < next → items[place]? = some value) : (Stretch.mk first (next - 1) value).Of items := by
  refine ⟨Nat.le_sub_one_of_lt started, ?_, fun place covers => ?_⟩
  · exact (List.getElem?_eq_some_iff.mp (passed (next - 1) (by omega) (by omega))).1
  · obtain ⟨above, below⟩ := covers_iff.mp covers
    exact passed place above (Nat.lt_of_le_sub_one (by omega) below)

variable [DecidableEq α]

/-- Stretches from `first` on, where `next` is the next position to look at and `value` stands at
all positions in between. -/
def stretchesFrom (first next : Nat) (value : α) : List α → List (Stretch α)
  | [] => [⟨first, next - 1, value⟩]
  | other :: rest =>
    if other ≠ value then ⟨first, next - 1, value⟩ :: stretchesFrom next (next + 1) other rest
    else stretchesFrom first (next + 1) value rest

def stretches : List α → List (Stretch α)
  | [] => []
  | value :: rest => stretchesFrom 0 1 value rest

private theorem stretchesFrom_spec (started : first < next)
    (passed : ∀ place, first ≤ place → place < next → items[place]? = some value) (ahead : items.drop next = rest) :
    (∀ stretch ∈ stretchesFrom first next value rest, stretch.Of items) ∧
      ∀ place, first ≤ place → place < items.length → ∃ stretch ∈ stretchesFrom first next value rest, stretch.covers place = true := by
  induction rest generalizing first next value with
  | nil =>
    have length := List.drop_eq_nil_iff.mp ahead
    refine ⟨fun stretch member => List.mem_singleton.mp member ▸ Stretch.of_passed started passed, fun place above below => ?_⟩
    exact ⟨_, List.mem_singleton_self _, Stretch.covers_iff.mpr ⟨above, Nat.le_sub_one_of_lt (by omega)⟩⟩
  | cons other rest ih =>
    have here : items[next]? = some other := by rw [← List.head?_drop, ahead, List.head?_cons]
    have beyond : items.drop (next + 1) = rest := by rw [← List.tail_drop, ahead, List.tail_cons]
    rw [stretchesFrom]
    split
    next changed =>
      obtain ⟨later, covered⟩ := ih (Nat.lt_succ_self next)
        (fun place above below => (Nat.le_antisymm above (Nat.le_of_lt_succ below)) ▸ here) beyond
      refine ⟨fun stretch member => ?_, fun place above below => ?_⟩
      · rcases List.mem_cons.mp member with rfl | member
        · exact Stretch.of_passed started passed
        · exact later stretch member
      · by_cases early : place < next
        · exact ⟨_, List.mem_cons_self, Stretch.covers_iff.mpr ⟨above, Nat.le_sub_one_of_lt early⟩⟩
        · obtain ⟨stretch, member, covers⟩ := covered place (Nat.le_of_not_lt early) below
          exact ⟨stretch, List.mem_cons_of_mem _ member, covers⟩
    next repeated =>
      cases not_not.mp repeated
      refine ih (Nat.lt_succ_of_lt started) (fun place above below => ?_) beyond
      rcases Nat.lt_succ_iff_lt_or_eq.mp below with early | rfl
      · exact passed place above early
      · exact here

theorem stretches_spec (items : List α) :
    (∀ stretch ∈ stretches items, stretch.Of items) ∧
      ∀ place < items.length, ∃ stretch ∈ stretches items, stretch.covers place = true := by
  cases items with
  | nil => exact ⟨nofun, nofun⟩
  | cons value rest =>
    obtain ⟨each, covered⟩ := @stretchesFrom_spec _ (value :: rest) rest 0 1 value _ Nat.one_pos
      (fun place _ first => by rw [Nat.lt_one_iff.mp first, List.getElem?_cons_zero]) rfl
    exact ⟨each, fun place => covered place (Nat.zero_le place)⟩

theorem exists_stretch_iff : (∃ stretch ∈ stretches items, stretch.value = value ∧ stretch.covers place = true) ↔ items[place]? = some value := by
  constructor
  · rintro ⟨stretch, member, rfl, covers⟩
    exact ((stretches_spec items).1 stretch member).value_at place covers
  · intro here
    obtain ⟨stretch, member, covers⟩ := (stretches_spec items).2 place (List.getElem?_eq_some_iff.mp here).1
    have told := ((stretches_spec items).1 stretch member).value_at place covers
    exact ⟨stretch, member, Option.some.inj (told.symm.trans here), covers⟩

end Kore.Foundation
