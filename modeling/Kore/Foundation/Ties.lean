import Mathlib.Data.List.Nodup
import Mathlib.Data.List.Perm.Basic

/-! Pages of a ranking with ties. Every page is cut out of a list of its own: all of them are
sorted, and elements that tie stand in any order. The pages fit together just when no ties lie
across the boundary of two pages. -/

namespace Kore.Foundation.Ties
open List

variable {α : Type} (ahead : α → α → Bool)

/-- How many elements come before one in every sorted list. -/
def leading (found : List α) (one : α) : Nat := found.countP fun other => !ahead one other

/-- How many elements come no later than one and all that tie with it. -/
def reach (found : List α) (one : α) : Nat := found.countP fun other => ahead other one

/-- No elements that tie are found on both sides of the boundary. -/
def Undivided (found : List α) (bound : Nat) : Prop :=
  ∀ one ∈ found, ¬ (leading ahead found one < bound ∧ bound < reach ahead found one)

def slice (size : Nat) (list : List α) (number : Nat) : List α := (list.drop (number * size)).take size

def slices (lists : Nat → List α) (size count : Nat) : List α := (range count).flatMap fun number => slice size (lists number) number

/-- A list that has the elements in an order that the ranking allows. -/
structure Ranking (found list : List α) : Prop where
  sorted : list.Pairwise fun one other => ahead one other = true
  perm : list.Perm found

variable {ahead} {found list other : List α} {bound size : Nat}

private theorem filter_eq_take {chosen : α → Bool} (first : list.Pairwise fun one other => chosen other = true → chosen one = true) :
    list.filter chosen = list.take (list.countP chosen) := by
  induction list with
  | nil => rfl
  | cons one list ih =>
    obtain ⟨head, tail⟩ := pairwise_cons.mp first
    by_cases takes : chosen one = true
    · rw [filter_cons_of_pos takes, countP_cons_of_pos takes, take_succ_cons, ih tail]
    · have none : ∀ other ∈ list, ¬ chosen other = true := fun other member taken => takes (head other member taken)
      rw [filter_cons_of_neg takes, countP_cons_of_neg takes, countP_eq_zero.mpr none, filter_eq_nil_iff.mpr none, take_zero]

theorem slices_same (list : List α) (count : Nat) : slices (fun _ => list) size count = list.take (count * size) := by
  induction count with
  | zero => simp [slices]
  | succ count ih => rw [slices, range_succ, flatMap_append, flatMap_singleton, ← slices, ih, slice, Nat.succ_mul, take_add]

private theorem Ranking.swap {front back : List α} {one two : α} (ranking : Ranking ahead found (front ++ one :: two :: back))
    (tied : ahead two one = true) : Ranking ahead found (front ++ two :: one :: back) := by
  refine ⟨?_, ((Perm.swap _ _ _).append_left front).trans ranking.perm⟩
  have sorted := ranking.sorted
  simp only [pairwise_append, pairwise_cons, mem_cons] at sorted ⊢
  grind

private theorem mem_slice {number : Nat} {one : α} (index : Nat) (here : list[number * size + index]? = some one) (inside : index < size) :
    one ∈ slice size list number := by
  refine mem_iff_getElem?.mpr ⟨index, ?_⟩
  rw [slice, getElem?_take_of_lt inside, getElem?_drop, here]

section order
variable (trans : ∀ one two three, ahead one two = true → ahead two three = true → ahead one three = true)

section
include trans

private theorem Ranking.ahead_of_leading (ranking : Ranking ahead found list) {front back : List α} {one two : α}
    (split : list = front ++ two :: back) (few : leading ahead found one ≤ front.length) : ahead one two = true := by
  by_contra behind
  have sorted := ranking.sorted
  rw [split, pairwise_append] at sorted
  have all : front.countP (fun other => !ahead one other) = front.length := by
    refine countP_eq_length.mpr fun other member => ?_
    by_contra before
    exact behind (trans one other two (by simpa using before) (sorted.2.2 other member two mem_cons_self))
  rw [leading, ← ranking.perm.countP_eq, split, countP_append, all, countP_cons, if_pos (by simpa using behind)] at few
  omega

private theorem Ranking.ahead_of_reach (ranking : Ranking ahead found list) {front back : List α} {one two : α}
    (split : list = front ++ two :: back) (many : front.length < reach ahead found one) : ahead two one = true := by
  by_contra behind
  have sorted := ranking.sorted
  rw [split, pairwise_append, pairwise_cons] at sorted
  have none : (two :: back).countP (fun other => ahead other one) = 0 := by
    refine countP_eq_zero.mpr fun other member before => ?_
    rcases mem_cons.mp member with rfl | later
    · exact behind before
    · exact behind (trans two other one (sorted.2.1.1 other later) before)
  have few : front.countP (fun other => ahead other one) ≤ front.length := countP_le_length
  rw [reach, ← ranking.perm.countP_eq, split, countP_append, none] at many
  omega

end

variable (total : ∀ one two, (ahead one two || ahead two one) = true)
include total

private theorem ahead_self (one : α) : ahead one one = true := by simpa using total one one

private theorem Ranking.reach_ge (ranking : Ranking ahead found list) {front back : List α} {one : α} (split : list = front ++ one :: back) :
    front.length + 1 ≤ reach ahead found one := by
  have sorted := ranking.sorted
  rw [split, pairwise_append] at sorted
  have all : front.countP (fun other => ahead other one) = front.length :=
    countP_eq_length.mpr fun other member => sorted.2.2 other member one mem_cons_self
  rw [reach, ← ranking.perm.countP_eq, split, countP_append, all, countP_cons, if_pos (ahead_self total one)]
  omega

private theorem Ranking.leading_le (ranking : Ranking ahead found list) {front back : List α} {one : α} (split : list = front ++ one :: back) :
    leading ahead found one ≤ front.length := by
  have sorted := ranking.sorted
  rw [split, pairwise_append, pairwise_cons] at sorted
  have none : (one :: back).countP (fun other => !ahead one other) = 0 := by
    refine countP_eq_zero.mpr fun other member => ?_
    rcases mem_cons.mp member with rfl | later
    · simp [ahead_self total other]
    · simp [sorted.2.1.1 other later]
  rw [leading, ← ranking.perm.countP_eq, split, countP_append, none]
  exact countP_le_length

include trans

/-- Where no ties are divided, what is in front of the boundary does not depend on the list. -/
private theorem Ranking.take_eq (ranking : Ranking ahead found list) (undivided : Undivided ahead found bound) (inside : bound ≤ found.length) :
    list.take bound = list.filter fun one => decide (reach ahead found one ≤ bound) := by
  set chosen : α → Bool := fun one => decide (reach ahead found one ≤ bound) with choice
  have upward : list.Pairwise fun one other => chosen other = true → chosen one = true := by
    refine ranking.sorted.imp fun {one other} before taken => ?_
    refine decide_eq_true (Nat.le_trans (countP_mono_left fun third _ earlier => ?_) (of_decide_eq_true taken))
    exact trans third one other earlier before
  have cut := filter_eq_take upward
  have counted : (list.take (list.countP chosen)).countP chosen = list.countP chosen := by
    rw [← cut, countP_filter]
    simp
  have most : list.countP chosen ≤ list.length := countP_le_length
  have length := ranking.perm.length_eq
  suffices list.countP chosen = bound by rw [cut, this]
  generalize counts : list.countP chosen = count at *
  rcases Nat.lt_trichotomy count bound with less | same | more
  · -- The first element behind the chosen ones has its ties on both sides.
    exfalso
    have short : count < list.length := by omega
    have whole : list = list.take count ++ list[count] :: list.drop (count + 1) := by
      rw [← drop_eq_getElem_cons short, take_append_drop]
    have behind : ¬ chosen list[count] = true := by
      intro taken
      rw [whole, countP_append, counted, countP_cons, if_pos taken] at counts
      omega
    have early := ranking.leading_le total whole
    rw [length_take, Nat.min_eq_left most] at early
    have far : ¬ reach ahead found list[count] ≤ bound := fun within => behind (decide_eq_true within)
    exact undivided _ (ranking.perm.mem_iff.mp (getElem_mem short)) ⟨by omega, by omega⟩
  · exact same
  · exfalso
    obtain ⟨last, rfl⟩ : ∃ last, count = last + 1 := ⟨count - 1, by omega⟩
    have short : last < list.length := by omega
    have whole : list = list.take last ++ list[last] :: list.drop (last + 1) := by rw [← drop_eq_getElem_cons short, take_append_drop]
    have reached := ranking.reach_ge total whole
    have member : list[last] ∈ list.filter chosen := by
      rw [cut]
      exact mem_take_iff_getElem.mpr ⟨last, by omega, rfl⟩
    have within := of_decide_eq_true (mem_filter.mp member).2
    rw [length_take, Nat.min_eq_left (Nat.le_of_lt short)] at reached
    omega

private theorem Ranking.slice_perm (ranking : Ranking ahead found list) (ranking' : Ranking ahead found other)
    (undivided : ∀ number, Undivided ahead found (number * size)) (number : Nat) :
    (slice size list number).Perm (slice size other number) := by
  have fronts (number : Nat) : (list.take (number * size)).Perm (other.take (number * size)) := by
    rcases Nat.le_total (number * size) found.length with inside | beyond
    · rw [ranking.take_eq trans total (undivided number) inside, ranking'.take_eq trans total (undivided number) inside]
      exact (ranking.perm.trans ranking'.perm.symm).filter _
    · rw [take_of_length_le (ranking.perm.length_eq ▸ beyond), take_of_length_le (ranking'.perm.length_eq ▸ beyond)]
      exact ranking.perm.trans ranking'.perm.symm
  have longer := fronts (number + 1)
  rw [Nat.succ_mul, take_add, take_add] at longer
  exact (perm_append_left_iff _).mp (((fronts number).symm.append_right _).trans longer)

/-- All pages together have every element once, whichever lists they are cut from, just when no
boundary divides ties. -/
theorem slices_perm_iff (nodup : found.Nodup) (positive : 0 < size) :
    (∀ lists, (∀ number, Ranking ahead found (lists number)) → (slices lists size found.length).Perm found) ↔
      ∀ number, Undivided ahead found (number * size) := by
  have sorts : Ranking ahead found (found.mergeSort ahead) := ⟨pairwise_mergeSort trans total found, mergeSort_perm found ahead⟩
  constructor
  · intro right number one member ⟨early, late⟩
    -- The two elements at the boundary tie, and the second page is cut out of a list that has them the other way round.
    have short : number * size < (found.mergeSort ahead).length := by
      rw [sorts.perm.length_eq]
      exact Nat.lt_of_lt_of_le late countP_le_length
    generalize found.mergeSort ahead = list at sorts short
    obtain ⟨bound, edge⟩ : ∃ bound, number * size = bound + 1 := ⟨number * size - 1, by omega⟩
    rw [edge] at early late short
    have whole : list = list.take bound ++ list[bound] :: list[bound + 1] :: list.drop (bound + 1 + 1) := by
      rw [← drop_eq_getElem_cons short, ← drop_eq_getElem_cons (by omega), take_append_drop]
    obtain ⟨front, first, second, back, rfl, count⟩ :
        ∃ front first second back, list = front ++ first :: second :: back ∧ front.length = bound :=
      ⟨_, _, _, _, whole, by rw [length_take]; omega⟩
    have tied : ahead second first = true := by
      refine trans second one first ?_ (sorts.ahead_of_leading trans rfl (by omega))
      exact sorts.ahead_of_reach trans (append_cons ..) (by simp only [length_append, length_singleton]; omega)
    obtain ⟨before, rfl⟩ : ∃ before, number = before + 1 := Nat.exists_eq_succ_of_ne_zero (by rintro rfl; omega)
    have inside : before + 1 < found.length := by
      have grows := Nat.le_mul_of_pos_right (before + 1) positive
      rw [← sorts.perm.length_eq]
      omega
    have rankings (number : Nat) : Ranking ahead found
        (if number = before + 1 then front ++ second :: first :: back else front ++ first :: second :: back) := by
      split
      · exact sorts.swap tied
      · exact sorts
    have pairwise := (nodup_flatMap.mp ((right _ rankings).nodup_iff.mpr nodup)).2
    have apart := pairwise_iff_getElem.mp pairwise before (before + 1) (by simp; omega) (by simpa using inside) (Nat.lt_succ_self before)
    simp only [getElem_range, Function.onFun, if_neg (Nat.ne_of_lt (Nat.lt_succ_self before)), if_true] at apart
    rw [Nat.succ_mul] at edge
    have last : before * size + (size - 1) = front.length := by omega
    have next : (before + 1) * size + 0 = front.length + 1 := by rw [Nat.succ_mul]; omega
    have ends : first ∈ slice size (front ++ first :: second :: back) before :=
      mem_slice (size - 1) (by rw [last, getElem?_append_right (Nat.le_refl _)]; simp) (by omega)
    exact apart ends (mem_slice 0 (by rw [next, getElem?_append_right (by omega)]; simp) positive)
  · intro undivided lists rankings
    have same : (slices lists size found.length).Perm (slices (fun _ => lists 0) size found.length) :=
      Perm.flatMap_left _ fun number _ => (rankings number).slice_perm trans total (rankings 0) undivided number
    rw [slices_same, take_of_length_le] at same
    · exact same.trans (rankings 0).perm
    · rw [(rankings 0).perm.length_eq]
      exact Nat.le_mul_of_pos_right _ positive

end order

end Kore.Foundation.Ties
