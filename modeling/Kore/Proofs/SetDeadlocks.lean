import Kore.Commands.SetLocks
import Kore.Foundation.Runs
import Mathlib.Data.Finset.Max

/-! When the set algebra commands cannot deadlock. -/

namespace Kore.Proofs.SetDeadlocks
open Foundation Commands SetCommand List

variable {κ : Type} [LinearOrder κ] {commands : List (SetCommand κ)} {command other : SetCommand κ} {lock : κ}

/-- The sets to come are in order, above those that are held. -/
def Ordered : SetCommand κ → Prop
  | .reading held taking _ => taking.Pairwise (· < ·) ∧ ∀ lock ∈ taking, ∀ own ∈ held, own < lock
  | _ => True

theorem Ordered.advance (ordered : Ordered command) : Ordered command.advance := by
  cases command with
  | reading held taking dest =>
    cases taking with
    | nil =>
      cases dest with
      | none | some lock => trivial
    | cons lock taking =>
      obtain ⟨sorted, above⟩ := ordered
      obtain ⟨first, later⟩ := pairwise_cons.mp sorted
      refine ⟨later, fun next member own inside => ?_⟩
      rcases mem_cons.mp inside with rfl | old
      · exact first next member
      · exact above next (mem_cons_of_mem _ member) own old
  | waiting | writing | finished => trivial

theorem step_ordered (ordered : ∀ command ∈ commands, Ordered command) (index : Nat) :
    ∀ command ∈ step commands index, Ordered command := by
  unfold step
  split
  next => exact ordered
  next mine found =>
    split
    next => exact ordered
    next =>
      intro command member
      rcases mem_or_eq_of_mem_set member with old | rfl
      · exact ordered command old
      · exact (ordered mine (mem_of_getElem? found)).advance

/-- The lock that a command is about to take. -/
def wants : SetCommand κ → Option κ
  | .reading _ (lock :: _) _ => some lock
  | .waiting lock => some lock
  | _ => none

/-- A writer waits for readers, each of which waits for a lock further up. -/
private theorem wants_higher {stuck : List (SetCommand κ)} (ordered : ∀ command ∈ stuck, Ordered command)
    (waits : ∀ command ∈ stuck, ∃ other ∈ stuck, other.blocks command = true) (member : .waiting lock ∈ stuck) :
    ∃ higher ∈ stuck.filterMap wants, lock < higher := by
  obtain ⟨other, inside, blocked⟩ := waits _ member
  obtain ⟨third, -, blocking⟩ := waits other inside
  cases other with
  | reading held taking dest =>
    cases taking with
    | nil => simp [blocks] at blocking
    | cons next taking =>
      refine ⟨next, mem_filterMap.mpr ⟨_, inside, rfl⟩, ?_⟩
      exact (ordered _ inside).2 next mem_cons_self lock (by simpa [blocks] using blocked)
  | waiting | finished => simp [blocks] at blocked
  | writing => simp [blocks] at blocking

theorem Ordered.not_deadlocked (ordered : ∀ command ∈ commands, Ordered command) : ¬ Deadlocked commands := by
  rintro ⟨stuck, inside, some, waits⟩
  have writer {lock : κ} := @wants_higher κ _ lock stuck (fun command member => ordered command (inside member)) waits
  have reached : ∀ command ∈ stuck, ∃ lock ∈ stuck.filterMap wants, wants command = .some lock ∧
      ∃ higher ∈ stuck.filterMap wants, lock < higher := by
    intro command member
    obtain ⟨other, there, blocked⟩ := waits command member
    cases command with
    | reading held taking dest =>
      cases taking with
      | nil => simp [blocks] at blocked
      | cons lock taking =>
        refine ⟨lock, mem_filterMap.mpr ⟨_, member, rfl⟩, rfl, ?_⟩
        have either : other = .waiting lock ∨ other = .writing lock := by simpa [blocks] using blocked
        rcases either with rfl | rfl
        · exact writer there
        · obtain ⟨third, -, blocking⟩ := waits _ there
          simp [blocks] at blocking
    | waiting lock => exact ⟨lock, mem_filterMap.mpr ⟨_, member, rfl⟩, rfl, writer member⟩
    | writing | finished => simp [blocks] at blocked
  obtain ⟨first, member⟩ := exists_mem_of_ne_nil stuck some
  obtain ⟨start, known, -⟩ := reached first member
  obtain ⟨top, last, most⟩ := (stuck.filterMap wants).toFinset.exists_max_image id ⟨start, mem_toFinset.mpr known⟩
  obtain ⟨command, there, same⟩ := mem_filterMap.mp (mem_toFinset.mp last)
  obtain ⟨lock, -, wanted, higher, above, greater⟩ := reached command there
  obtain rfl : lock = top := by simpa [same] using wanted.symm
  exact absurd greater (not_lt.mpr (most higher (mem_toFinset.mpr above)))

/-- Commands that read their sets in one common order, each of them once, never deadlock. -/
theorem ordered_never_deadlock (ordered : ∀ command ∈ commands, ∃ keys dest, command = .reading [] keys dest ∧ keys.Pairwise (· < ·))
    (schedule : List Nat) : ¬ Deadlocked (run step commands schedule) := by
  apply Ordered.not_deadlocked
  refine run_invariant (fun commands => ∀ command ∈ commands, Ordered command) (fun _ index kept => step_ordered kept index) ?_ schedule
  intro command member
  obtain ⟨keys, dest, rfl, sorted⟩ := ordered command member
  exact ⟨sorted, by simp⟩

theorem stored_intersection_never_deadlocks :
    ¬ Deadlocked (run step [.reading [] [1, 2] (some 1), .reading [] [] (some 2)] [0, 1, 0, 1, 0]) :=
  ordered_never_deadlock (by simp [pairwise_cons]) _

/-- `SINTER a a` has read-locked the set once when an `SADD` begins to wait for it. -/
theorem repeated_key_deadlocks : Deadlocked (run step [.reading [] ["a", "a"] none, .reading [] [] (some "a")] [0, 1]) :=
  ⟨[.reading ["a"] ["a"] none, .waiting "a"], by decide, by decide, by decide⟩

end Kore.Proofs.SetDeadlocks
