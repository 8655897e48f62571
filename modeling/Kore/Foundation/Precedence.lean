import Mathlib.Data.List.Basic

/-! The order of two elements of a list, and how it passes to parts of the list. -/

namespace Kore.Foundation
open List
variable {α β : Type}

def Before (items : List α) (first second : α) : Prop := [first, second].Sublist items

instance Before.decidable [DecidableEq α] (items : List α) (first second : α) : Decidable (Before items first second) :=
  inferInstanceAs (Decidable ([first, second].Sublist items))

namespace Before
variable {items part : List α} {first second : α}

theorem mono (before : Before part first second) (within : part.Sublist items) : Before items first second :=
  List.Sublist.trans before within

section
variable (before : Before items first second)
include before

theorem left : first ∈ items := before.subset mem_cons_self

theorem right : second ∈ items :=
  before.subset (mem_cons_of_mem _ mem_cons_self)

theorem ne (distinct : items.Nodup) : first ≠ second := by
  have pair := distinct.sublist before
  simpa using pair

end

theorem total (here : first ∈ items) (there : second ∈ items) (apart : first ≠ second) :
    Before items first second ∨ Before items second first := by
  induction items with
  | nil => cases here
  | cons item items ih =>
    rcases mem_cons.mp here with rfl | later
    · have rest : second ∈ items := (mem_cons.mp there).resolve_left apart.symm
      exact .inl ((singleton_sublist.mpr rest).cons_cons _)
    · rcases mem_cons.mp there with rfl | rest
      · exact .inr ((singleton_sublist.mpr later).cons_cons _)
      · rcases ih later rest with before | after
        · exact .inl (before.cons _)
        · exact .inr (after.cons _)

theorem trans {third : α} (distinct : items.Nodup) (before : Before items first second) (after : Before items second third) :
    Before items first third := by
  induction items with
  | nil => cases before
  | cons item items ih =>
    obtain ⟨absent, rest⟩ := nodup_cons.mp distinct
    cases before with
    | cons _ before =>
      cases after with
      | cons _ after => exact (ih rest before after).cons _
      | cons_cons _ tail => exact (absent (right before)).elim
    | cons_cons _ tail =>
      cases after with
      | cons _ after => exact (singleton_sublist.mpr (right after)).cons_cons _
      | cons_cons _ other => exact (absent (tail.subset mem_cons_self)).elim

theorem asymm (distinct : items.Nodup) (before : Before items first second) : ¬ Before items second first :=
  fun after => (before.trans distinct after).ne distinct rfl

theorem part_iff (distinct : items.Nodup) (within : part.Sublist items) (here : first ∈ part) (there : second ∈ part) :
    Before part first second ↔ Before items first second := by
  constructor
  · intro before
    exact before.mono within
  · intro before
    rcases total here there (before.ne distinct) with same | swapped
    · exact same
    · exact (before.asymm distinct (swapped.mono within)).elim

theorem filterMap_iff {pick : α → Option β} {left right : β} {start finish : α} (starts : ∀ item, pick item = some left ↔ item = start)
    (finishes : ∀ item, pick item = some right ↔ item = finish) :
    Before (items.filterMap pick) left right ↔ Before items start finish := by
  constructor
  · intro before
    obtain ⟨chosen, within, selected⟩ := sublist_filterMap_iff.mp before
    obtain ⟨skipped, head, rest, rfl, -, picked, later⟩ := filterMap_eq_cons_iff.mp selected.symm
    obtain ⟨between, last, tail, rfl, -, final, -⟩ := filterMap_eq_cons_iff.mp later
    rw [(starts head).mp picked, (finishes last).mp final] at within
    refine List.Sublist.trans ?_ within
    exact (singleton_sublist.mpr (by simp)).cons_cons start |>.trans (sublist_append_right _ _)
  · intro before
    have mapped := List.Sublist.filterMap pick before
    rwa [filterMap_cons_some ((starts start).mpr rfl), filterMap_cons_some ((finishes finish).mpr rfl),
      filterMap_nil] at mapped

end Before
end Kore.Foundation
