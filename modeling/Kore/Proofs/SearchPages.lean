import Kore.Foundation.Ties
import Kore.Search.Query
import Mathlib.Order.RelClasses

/-! Which totals and which pages of a search are right. -/

namespace Kore.Proofs.SearchPages
open Foundation Foundation.Ties Search.QueryExecutor List

variable {S : Type} [LT S] [DecidableLT S] {found : List Bytes} (text : Option (Bytes → Option S))

private theorem sorted_perm (listing : HashOrder found) :
    ((sortByScore (scoredResults none text listing.order)).map (·.1)).Perm found := by
  have scored : (scoredResults none text listing.order).map (·.1) = listing.order := by
    unfold scoredResults
    cases text <;> simp [Function.comp_def]
  refine Perm.trans (Perm.map _ ?_) (scored ▸ listing.same)
  unfold sortByScore
  split
  · exact mergeSort_perm _ _
  · exact .refl _

variable (listings : Nat → HashOrder found) (size : Nat)

/-- The search for a page of `size + 1` documents. -/
def page (number : Nat) : SearchResult S := search text (listings number).order (size + 1) (number * (size + 1))

def pages : List Bytes := (range found.length).flatMap fun number => (page text listings size number).documents.map (·.1)

private theorem total_eq (listing : HashOrder found) (limit offset : Nat) :
    (search text listing.order limit offset).total = min limit (found.length - offset) := by
  simp [search, execute, ← (sorted_perm text listing).length_eq]

private theorem pages_perm (fits : found.length ≤ size + 1) : (pages text listings size).Perm found := by
  cases count : found.length with
  | zero => simp [pages, length_eq_zero_iff.mp count]
  | succ more =>
    have later (number : Nat) : (page text listings size (number + 1)).documents = [] := by
      have total := total_eq text (listings (number + 1)) (size + 1) ((number + 1) * (size + 1))
      have beyond := fits.trans (Nat.le_mul_of_pos_left (size + 1) number.succ_pos)
      rw [Nat.sub_eq_zero_of_le beyond, Nat.min_zero] at total
      exact length_eq_zero_iff.mp total
    rw [pages, count, range_succ_eq_map, flatMap_cons, flatMap_map]
    simp only [later, map_nil, flatMap_eq_nil_iff.mpr fun _ _ => rfl, append_nil]
    have first := sorted_perm text (listings 0)
    rw [page, search, execute, zero_mul, drop_zero, take_of_length_le (by rwa [← length_map (·.1), first.length_eq])]
    exact first

/-! The ranking that the scores make. -/

/-- A document may come before another one. -/
def ranks (one other : Bytes) : Bool := notBelow (text.bind (· one)) (text.bind (· other))

private theorem notBelow_none (one : Option S) : notBelow one none = true := by cases one <;> rfl

section order
variable [IsStrictWeakOrder S (· < ·)]

private theorem notBelow_total (one other : Option S) : (notBelow one other || notBelow other one) = true := by
  cases one with
  | none => rw [notBelow_none, Bool.or_true]
  | some one =>
    cases other with
    | none => rfl
    | some other =>
      by_cases less : one < other
      · simp [notBelow, asymm less]
      · simp [notBelow, less]

private theorem notBelow_trans (one two three : Option S) (first : notBelow one two = true) (second : notBelow two three = true) :
    notBelow one three = true := by
  cases three with
  | none => exact notBelow_none one
  | some three =>
    cases two with
    | none => cases second
    | some two =>
      cases one with
      | none => cases first
      | some one =>
        simp only [notBelow, Bool.not_eq_true', decide_eq_false_iff_not] at *
        intro less
        by_cases back : two < one
        · exact second (IsTrans.trans two one three back less)
        by_cases next : three < two
        · exact first (IsTrans.trans one three two less next)
        · exact (IsStrictWeakOrder.incomp_trans one two three ⟨first, back⟩ ⟨second, next⟩).1 less

end order

omit [LT S] [DecidableLT S] in
private theorem scored_eq (order : List Bytes) : scoredResults none text order = order.map fun id => (id, text.bind (· id)) := by
  unfold scoredResults
  cases text <;> rfl

private theorem sorted_ranking [IsStrictWeakOrder S (· < ·)] (listing : HashOrder found) :
    Ranking (ranks text) found ((sortByScore (scoredResults none text listing.order)).map (·.1)) := by
  refine ⟨?_, sorted_perm text listing⟩
  rw [scored_eq, pairwise_map, sortByScore]
  split
  · have sorted := @pairwise_mergeSort _ (fun (one other : Bytes × Option S) => notBelow one.2 other.2)
      (fun _ _ _ => notBelow_trans _ _ _) (fun _ _ => notBelow_total _ _) (listing.order.map fun id => (id, text.bind (· id)))
    refine sorted.imp_of_mem fun {one other} member member' before => ?_
    rw [mem_mergeSort, mem_map] at member member'
    obtain ⟨id, -, rfl⟩ := member
    obtain ⟨id', -, rfl⟩ := member'
    exact before
  next unscored =>
    rw [pairwise_map]
    refine pairwise_of_forall_mem_list fun one _ other member => ?_
    have missing : text.bind (· other) = none := by
      by_contra scored
      exact unscored (any_eq_true.mpr ⟨_, mem_map_of_mem member, Option.isSome_iff_ne_none.mpr scored⟩)
    rw [ranks, missing, notBelow_none]

private theorem sorted_self {order : List Bytes} (ranking : Ranking (ranks text) found order) :
    (sortByScore (scoredResults none text order)).map (·.1) = order := by
  have sorted : (scoredResults none text order).Pairwise fun one other => notBelow one.2 other.2 = true := by
    rw [scored_eq, pairwise_map]
    exact ranking.sorted
  have same : sortByScore (scoredResults none text order) = scoredResults none text order := by
    unfold sortByScore
    split
    · exact mergeSort_of_pairwise sorted
    · rfl
  rw [same, scored_eq, map_map]
  exact map_id order

private theorem pages_eq : pages text listings size =
    slices (fun number => (sortByScore (scoredResults none text (listings number).order)).map (·.1)) (size + 1) found.length := by
  simp only [pages, page, search, execute, slices, slice, map_take, map_drop]

/-- A total is right only if nothing is cut off, so that totals and pages are all right just when one
page holds every match. The pages alone are right, whatever the hash orders, just when no documents
that tie lie across the boundary of two pages. -/
theorem pages_right_iff :
    (∀ number limit offset, (search text (listings number).order limit offset).total = found.length ↔
        found = [] ∨ offset = 0 ∧ found.length ≤ limit) ∧
      ((∀ number, number * (size + 1) < found.length → (page text listings size number).total = found.length) ∧
        (pages text listings size).Perm found ↔ found.length ≤ size + 1) ∧
      (IsStrictWeakOrder S (· < ·) → found.Nodup →
        ((∀ listings : Nat → HashOrder found, (pages text listings size).Perm found) ↔
          ∀ number, Undivided (ranks text) found (number * (size + 1)))) := by
  have total (number limit offset : Nat) : (search text (listings number).order limit offset).total = found.length ↔
      found = [] ∨ offset = 0 ∧ found.length ≤ limit := by
    rw [total_eq, ← length_eq_zero_iff]
    omega
  refine ⟨total, ⟨fun right => ?_, fun fits => ⟨fun number inside => ?_, pages_perm text listings size fits⟩⟩, fun order nodup => ?_⟩
  · by_contra more
    have cut := right.1 0 (by omega)
    rw [page, total_eq] at cut
    omega
  · have start : number = 0 := by
      by_contra later
      have := Nat.le_mul_of_pos_left (size + 1) (pos_of_ne_zero later)
      omega
    exact (total number _ _).mpr (.inr ⟨by simp [start], fits⟩)
  · rw [← @slices_perm_iff _ (ranks text) found (size + 1) (fun _ _ _ => notBelow_trans _ _ _) (fun _ _ => notBelow_total _ _) nodup
      size.succ_pos]
    constructor
    · intro right lists rankings
      have cut := right fun number => ⟨lists number, (rankings number).perm⟩
      simpa only [pages_eq, sorted_self text (rankings _)] using cut
    · intro right listings
      rw [pages_eq]
      exact right _ fun number => sorted_ranking text (listings number)

/-- Two documents that are scored apart, and one without a score. -/
private def scores : Bytes → Option Nat := fun id => if id = ascii "a" then some 7 else if id = ascii "b" then some 5 else none

/-- Every document is on its own page, in whatever order the hash set has them. -/
theorem untied_pages_right :
    [ascii "a", ascii "b", ascii "c"].Nodup ∧
      ∀ listings : Nat → HashOrder [ascii "a", ascii "b", ascii "c"],
        (pages (some scores) listings 0).Perm [ascii "a", ascii "b", ascii "c"] := by
  have nodup : [ascii "a", ascii "b", ascii "c"].Nodup := by decide
  have right := (pages_right_iff (some scores) (fun _ => ⟨_, .refl [ascii "a", ascii "b", ascii "c"]⟩) 0).2.2
  refine ⟨nodup, (right isStrictWeakOrder_of_isOrderConnected nodup).mpr fun number one member => ?_⟩
  have narrow : ∀ one ∈ [ascii "a", ascii "b", ascii "c"], reach (ranks (some scores)) [ascii "a", ascii "b", ascii "c"] one ≤
      leading (ranks (some scores)) [ascii "a", ascii "b", ascii "c"] one + 1 := by decide
  have single := narrow one member
  omega

/-- Two matches, in another order in the second call: a total is one, and one match is on both pages. -/
theorem match_repeated :
    let listings : Nat → HashOrder [ascii "a", ascii "b"]
      | 0 => ⟨_, .refl _⟩
      | _ => ⟨[ascii "b", ascii "a"], .swap _ _ []⟩
    (@page Nat _ _ _ none listings 0 0).total = 1 ∧ @pages Nat _ _ _ none listings 0 = [ascii "a", ascii "a"] := by
  decide

end Kore.Proofs.SearchPages
