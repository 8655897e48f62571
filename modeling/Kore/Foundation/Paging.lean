import Mathlib.Data.Finset.Sort

/-! Iteration over a set that changes between the calls, with a cursor that is an index into
the sorted elements. An element that stays in the set is missed only when so many smaller
ones disappear that it slips in front of the cursor. -/

namespace Kore.Foundation.Paging
open List Finset
variable {α : Type}
variable {item : α} {cursor : Nat}

def page (items : List α) (cursor count : Nat) : Nat × List α :=
  if items.length ≤ cursor then (0, [])
  else (if items.length ≤ min (cursor + count) items.length then 0 else min (cursor + count) items.length,
    (items.take (min (cursor + count) items.length)).drop cursor)

variable [LinearOrder α]

abbrev Call (α : Type) := Finset α × Nat

def pageAt (cursor : Nat) (call : Call α) : Nat × List α := page call.1.sort cursor call.2

def returned (cursor : Nat) : List (Call α) → List α
  | [] => []
  | call :: calls => (pageAt cursor call).2 ++ returned (pageAt cursor call).1 calls

/-- The last call, and no call before it, returns the cursor 0. -/
def Complete (cursor : Nat) : List (Call α) → Prop
  | [] => False
  | [call] => (pageAt cursor call).1 = 0
  | call :: next :: calls => (pageAt cursor call).1 ≠ 0 ∧ Complete (pageAt cursor call).1 (next :: calls)

def rank (item : α) (items : Finset α) : Nat := (items.filter (· < item)).card

/-- No call before the one that returns the element finds it in front of the cursor. -/
def StaysAhead (item : α) (cursor : Nat) : List (Call α) → Prop
  | [] => True
  | call :: calls =>
    cursor ≤ rank item call.1 ∧ (item ∉ (pageAt cursor call).2 → StaysAhead item (pageAt cursor call).1 calls)

private theorem getElem?_of_sorted {items : List α} (sorted : items.Pairwise (· < ·)) (member : item ∈ items) :
    items[(items.filter (· < item)).length]? = some item := by
  induction items with
  | nil => exact absurd member not_mem_nil
  | cons head items ih =>
    obtain ⟨above, rest⟩ := pairwise_cons.mp sorted
    rcases mem_cons.mp member with rfl | later
    · have nothing : items.filter (· < item) = [] :=
        filter_eq_nil_iff.mpr fun other inside => by simpa using (above other inside).le
      simp [nothing]
    · simp [above item later, ih rest later]

theorem sort_getElem?_rank {items : Finset α} (member : item ∈ items) : items.sort[rank item items]? = some item := by
  have counted : rank item items = (items.sort.filter (· < item)).length := by
    rw [rank, card_def, filter_val, ← sort_eq items (· ≤ ·), Multiset.filter_coe, Multiset.coe_card]
  rw [counted]
  exact getElem?_of_sorted (sortedLT_sort items).pairwise ((mem_sort _).mpr member)

theorem rank_lt_length {items : Finset α} (member : item ∈ items) : rank item items < items.sort.length :=
  (List.getElem?_eq_some_iff.mp (sort_getElem?_rank member)).1

theorem mem_pageAt {call : Call α} (member : item ∈ call.1) (ahead : cursor ≤ rank item call.1)
    (reached : rank item call.1 < cursor + call.2) : item ∈ (pageAt cursor call).2 := by
  have inside := rank_lt_length member
  have notPast : ¬call.1.sort.length ≤ cursor := by omega
  rw [pageAt, page, if_neg notPast]
  refine mem_iff_getElem?.mpr ⟨rank item call.1 - cursor, ?_⟩
  rw [getElem?_drop, getElem?_take_of_lt (by omega), Nat.add_sub_cancel' ahead]
  exact sort_getElem?_rank member

/-- A page that leaves out an element ahead of its cursor is not the last one. -/
private theorem pageAt_next {call : Call α} (member : item ∈ call.1) (ahead : cursor ≤ rank item call.1)
    (positive : 0 < call.2) (missed : item ∉ (pageAt cursor call).2) : (pageAt cursor call).1 ≠ 0 := by
  have inside := rank_lt_length member
  have beyond : cursor + call.2 ≤ rank item call.1 := not_lt.mp fun reached => missed (mem_pageAt member ahead reached)
  rw [pageAt, page, if_neg (by omega), if_neg (by omega)]
  omega

/-- An element that is in the set at every call, and never slips in front of the cursor, is returned. -/
theorem StaysAhead.mem_returned {calls : List (Call α)} (ahead : StaysAhead item cursor calls)
    (complete : Complete cursor calls) (present : ∀ call ∈ calls, item ∈ call.1) (positive : ∀ call ∈ calls, 0 < call.2) :
    item ∈ returned cursor calls := by
  induction calls generalizing cursor with
  | nil => exact complete.elim
  | cons call calls ih =>
    by_cases found : item ∈ (pageAt cursor call).2
    · exact mem_append_left _ found
    · have next := pageAt_next (present call mem_cons_self) ahead.1 (positive call mem_cons_self) found
      cases calls with
      | nil => exact absurd complete next
      | cons later calls =>
        exact mem_append_right _ (ih (ahead.2 found) complete.2
          (fun call member => present call (mem_cons_of_mem _ member))
          (fun call member => positive call (mem_cons_of_mem _ member)))

end Kore.Foundation.Paging
