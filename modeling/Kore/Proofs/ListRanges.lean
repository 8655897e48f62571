import Kore.Commands.Collections

/-! Ranges of a list by index. Both range commands bring an end that lies before the list up to
its first element, which is right for the start and wrong for the stop: a range that ends
before the list takes its first element along. -/

namespace Kore.Proofs.ListRanges
open Foundation Commands List SortedSet

def meant (length : Nat) (index : Int) : Int := if index < 0 then length + index else index

def between (first last : Int) (items : List Bytes) : List Bytes :=
  (items.zipIdx.filter fun pair => decide (first ≤ pair.2 ∧ (pair.2 : Int) ≤ last)).map Prod.fst

variable {first last start stop : Int} {items : List Bytes}

private theorem filter_zipIdx (offset : Nat) :
    ((items.zipIdx offset).filter fun pair => decide (first ≤ pair.2 ∧ (pair.2 : Int) ≤ last)).map Prod.fst =
      (items.take (last + 1 - offset).toNat).drop (first - offset).toNat := by
  induction items generalizing offset with
  | nil => simp
  | cons item items ih =>
    rw [zipIdx_cons, filter_cons]
    have later := ih (offset + 1)
    by_cases past : last < offset
    · have none : (last + 1 - offset).toNat = 0 := by omega
      have still : (last + 1 - (offset + 1 : Nat)).toNat = 0 := by omega
      rw [still] at later
      simp only [none, take_zero, drop_nil]
      rw [if_neg (by simp; omega), later, take_zero, drop_nil]
    · have more : (last + 1 - offset).toNat = (last + 1 - (offset + 1 : Nat)).toNat + 1 := by omega
      rw [more, take_succ_cons]
      by_cases early : (offset : Int) < first
      · have skip : (first - offset).toNat = (first - (offset + 1 : Nat)).toNat + 1 := by omega
        rw [skip, drop_succ_cons, if_neg (by simp; omega), later]
      · have here : (first - offset).toNat = 0 := by omega
        have there : (first - (offset + 1 : Nat)).toNat = 0 := by omega
        rw [there, drop_zero] at later
        rw [here, drop_zero, if_pos (by simp; omega), map_cons, later]

theorem between_eq : between first last items = (items.take (last + 1).toNat).drop first.toNat := by
  simpa only [between, Nat.cast_zero, sub_zero] using filter_zipIdx 0

/-- A range is empty if it ends before the list, starts behind it, or ends before it starts. -/
theorem between_empty {first last : Int} {items : List Bytes} (outside : last < 0 ∨ items.length ≤ first ∨ last < first) :
    between first last items = [] := by
  rw [between_eq, drop_eq_nil_iff, length_take]
  omega

private theorem rangeEnd_eq (length : Nat) {index : Int} : rangeEnd length index = max (meant length index) 0 := by
  unfold rangeEnd meant
  split <;> omega

theorem lrange_eq_ltrim : lrange start stop items = ltrim start stop items := by
  unfold lrange ltrim
  dsimp only
  split
  next empty => rw [length_eq_zero_iff.mp empty]
  next =>
    split
    · rfl
    next inside =>
      rw [drop_take]
      congr 1
      simp only [rangeEnd_eq] at inside ⊢
      omega

/-- What the commands take: the range that is meant, with an end before the list brought up to it. -/
theorem ltrim_eq : ltrim start stop items = between (meant items.length start) (max (meant items.length stop) 0) items := by
  unfold ltrim
  rw [between_eq, rangeEnd_eq, rangeEnd_eq]
  dsimp only
  split
  next empty => rw [length_eq_zero_iff.mp empty, take_nil, drop_nil]
  next some =>
    split
    next outside =>
      symm
      rw [drop_eq_nil_iff, length_take]
      omega
    next inside =>
      have ends : take ((min (max (meant items.length stop) 0) (items.length - 1)).toNat + 1) items =
          take (max (meant items.length stop) 0 + 1).toNat items := by
        rw [take_eq_take_iff]
        omega
      rw [ends]
      congr 1
      omega

/-- The range that the indices mean, for both commands; in particular nothing if there is none. -/
structure Exact (start stop : Int) (items : List Bytes) : Prop where
  lrange : lrange start stop items = between (meant items.length start) (meant items.length stop) items
  ltrim : ltrim start stop items = between (meant items.length start) (meant items.length stop) items
  empty : meant items.length stop < 0 ∨ items.length ≤ meant items.length start ∨
    meant items.length stop < meant items.length start → Commands.lrange start stop items = [] ∧ Commands.ltrim start stop items = []

private theorem ltrim_exact_iff : ltrim start stop items = between (meant items.length start) (meant items.length stop) items ↔
    items = [] ∨ 0 ≤ meant items.length stop ∨ 0 < meant items.length start := by
  rw [ltrim_eq]
  constructor
  · intro exact
    by_contra wrong
    obtain ⟨some, early, late⟩ : items ≠ [] ∧ meant items.length stop < 0 ∧ meant items.length start ≤ 0 := by
      simpa only [not_or, not_le, not_lt] using wrong
    rw [between_empty (.inl early), max_eq_right early.le, between_eq, drop_eq_nil_iff, length_take] at exact
    have length := length_pos_iff.mpr some
    omega
  · rintro (rfl | inside | behind)
    · rfl
    · rw [max_eq_left inside]
    · rcases le_or_gt 0 (meant items.length stop) with inside | before
      · rw [max_eq_left inside]
      · rw [between_empty (.inl before), between_empty (.inr (.inr (by omega)))]

/-- Only a stop before the list goes wrong, and only when the range starts at the first element or before it. -/
theorem ranges_exact_iff (start stop : Int) (items : List Bytes) :
    Exact start stop items ↔ items = [] ∨ 0 ≤ meant items.length stop ∨ 0 < meant items.length start := by
  rw [← ltrim_exact_iff]
  refine ⟨Exact.ltrim, fun taken => ⟨lrange_eq_ltrim.trans taken, taken, ?_⟩⟩
  intro outside
  rw [lrange_eq_ltrim, taken, between_empty outside]
  exact ⟨rfl, rfl⟩

/-- From the first element to the fourth before the last of three: the first element. -/
theorem first_element_left : ¬Exact 0 (-4) [ascii "a", ascii "b", ascii "c"] := by
  rintro ⟨-, exact, -⟩
  exact absurd exact (by decide)

/-! Members of a sorted set by rank. -/

def view (reverse : Bool) (ranked : List Bytes) : List Bytes := if reverse then ranked.reverse else ranked

@[simp] private theorem length_view (reverse : Bool) : (view reverse items).length = items.length := by
  cases reverse <;> simp [view]

private theorem filterMap_getElem (first count : Nat) :
    (range' first count).filterMap (items[·]?) = (items.drop first).take count := by
  induction count generalizing first with
  | zero => simp
  | succ count ih =>
    rw [range'_succ, filterMap_cons, ih]
    cases found : items[first]? with
    | none =>
      have short := getElem?_eq_none_iff.mp found
      rw [drop_eq_nil_of_le short, drop_eq_nil_of_le (by omega), take_nil, take_nil]
    | some item =>
      have split : items.drop first = item :: items.drop (first + 1) := by
        rw [drop_eq_getElem?_toList_append, found]
        rfl
      rw [split, take_succ_cons]

private theorem range_eq_ltrim (reverse : Bool) : SortedSet.range start stop reverse items = ltrim start stop (view reverse items) := by
  rw [← lrange_eq_ltrim]
  unfold SortedSet.range lrange
  simp only [length_view, rangeEnd_eq]
  split
  · rfl
  split
  · rfl
  rw [← filterMap_getElem]
  refine filterMap_congr fun rank member => ?_
  have below : rank < items.length := by
    have ends := (mem_range'_1.mp member).2
    omega
  cases reverse with
  | false => rfl
  | true => exact (getElem?_reverse below).symm

private theorem removed (members : List Bytes) {ranked : List Bytes} (inside : members ⊆ ranked) (distinct : members.Nodup) (count : Nat) :
    members.foldl (fun (left, count) member => if member ∈ left then (left.erase member, count + 1) else (left, count)) (ranked, count) =
      (ranked.diff members, count + members.length) := by
  induction members generalizing ranked count with
  | nil => rfl
  | cons member members ih =>
    obtain ⟨fresh, distinct⟩ := nodup_cons.mp distinct
    obtain ⟨here, later⟩ := cons_subset.mp inside
    simp only [foldl_cons, here, if_true]
    rw [ih ?_ distinct, diff_cons, length_cons, Nat.add_right_comm, add_assoc]
    · intro other listed
      exact (mem_erase_of_ne (ne_of_mem_of_not_mem listed fresh)).mpr (later listed)

def elements (start stop : Int) (items : List Bytes) : List Bytes := between (meant items.length start) (meant items.length stop) items

/-- The members that the indices mean are returned, in either direction, and removed, just when the stop is not before the set or the
start is behind its first member. -/
theorem rank_ranges_iff (start stop : Int) (set : { ranked : List Bytes // ranked.Nodup }) :
    (∀ reverse, range start stop reverse set.1 = elements start stop (view reverse set.1)) ∧
        removeRangeByRank start stop set.1 = (set.1.filter (· ∉ elements start stop set.1), (elements start stop set.1).length) ↔
      set.1 = [] ∨ 0 ≤ meant set.1.length stop ∨ 0 < meant set.1.length start := by
  obtain ⟨ranked, distinct⟩ := set
  have directed (reverse : Bool) : range start stop reverse ranked = elements start stop (view reverse ranked) ↔
      ranked = [] ∨ 0 ≤ meant ranked.length stop ∨ 0 < meant ranked.length start := by
    rw [range_eq_ltrim, elements, ltrim_exact_iff, length_view]
    cases reverse <;> simp [view]
  refine ⟨fun right => (directed false).mp (right.1 false), fun right => ⟨fun reverse => (directed reverse).mpr right, ?_⟩⟩
  have taken : range start stop false ranked = elements start stop ranked := (directed false).mpr right
  have sub : elements start stop ranked <+ ranked := by
    rw [elements, between_eq]
    exact (drop_sublist _ _).trans (take_sublist _ _)
  rw [removeRangeByRank, taken, removed _ sub.subset (sub.nodup distinct), distinct.sdiff_eq_filter, zero_add]

/-- The lowest member, though the range ends before the set. -/
theorem lowest_member_removed : removeRangeByRank 0 (-4) [ascii "a", ascii "b", ascii "c"] = ([ascii "b", ascii "c"], 1) ∧
    elements 0 (-4) [ascii "a", ascii "b", ascii "c"] = [] := by
  decide

end Kore.Proofs.ListRanges
