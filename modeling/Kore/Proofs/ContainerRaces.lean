import Kore.Foundation.Runs
import Kore.Commands.Containers

/-! Pushes and pops of several connections on one key. A push may write to a container that
is no longer under the key, and a pop, a purge or an eviction may remove a container that is
not empty; as long as neither happens, every element whose addition was acknowledged is under
the key or was taken out. -/

namespace Kore.Proofs.ContainerRaces
open Foundation Commands Commands.Containers Collection Function List

variable {C κ : Type} [Collection C]
variable {shared : Shared C κ} {container : Nat}

def stored (shared : Shared C κ) : Multiset Bytes := (shared.linked.map fun slot => elements (shared.contents slot.container)).getD 0

def isLinked (shared : Shared C κ) (container : Nat) : Prop := shared.linked.map Slot.container = some container

instance isLinked.decidable (shared : Shared C κ) (container : Nat) : Decidable (isLinked shared container) :=
  inferInstanceAs (Decidable (_ = some container))

/-- A push writes to the container under the key, and a pop, a purge and an eviction remove
an empty one. -/
def Linked (shared : Shared C κ) : Event C κ → Prop
  | .proceed client =>
    match shared.stages client with
    | .locking (.push _) container => isLinked shared container
    | .unlinking | .removing _ => stored shared = 0
    | _ => True
  | .evict => stored shared = 0
  | _ => True

/-- Everything that was added is under the key or was taken out; containers elsewhere are empty. -/
structure Accounted (shared : Shared C κ) : Prop where
  ledger : shared.pushed = shared.popped + stored shared
  known : ∀ slot, shared.linked = some slot → slot.container < shared.fresh
  held : ∀ client command container, shared.stages client = .locking command container → container < shared.fresh
  detached : ∀ container < shared.fresh, ¬ isLinked shared container → elements (shared.contents container) = 0

variable [DecidableEq κ]

section
variable (acc : Accounted shared) (client : κ)
include acc client

private theorem held_update {stage : Stage C} {limit : Nat}
    (more : shared.fresh ≤ limit) (mine : ∀ command container, stage = .locking command container → container < limit) :
    ∀ other command container, update shared.stages client stage other = .locking command container → container < limit := by
  intro other command container locks
  by_cases same : other = client
  · subst other
    rw [update_self] at locks
    exact mine command container locks
  · rw [update_of_ne same] at locks
    exact (acc.held other command container locks).trans_le more

private theorem Accounted.moveTo (stage : Stage C)
    (mine : ∀ command container, stage = .locking command container → container < shared.fresh) :
    Accounted (shared.moveTo client stage) :=
  ⟨acc.ledger, acc.known, held_update acc client le_rfl mine, acc.detached⟩

private theorem Accounted.readExpiry (command : Command C) : Accounted (readExpiry client command shared) := by
  unfold Containers.readExpiry
  split <;> exact acc.moveTo client _ nofun

private theorem Accounted.lookUp (command : Command C) :
    Accounted (lookUp client command shared) := by
  unfold Containers.lookUp
  cases linked : shared.linked with
  | some slot =>
    refine acc.moveTo client _ fun _ _ same => ?_
    cases same
    exact acc.known slot linked
  | none =>
    cases command with
    | push push | pop pop => exact acc.moveTo client _ nofun

private theorem Accounted.create (push : Push C) :
    Accounted (create client push shared) := by
  unfold Containers.create
  split
  next slot found =>
    refine acc.moveTo client _ fun _ _ same => ?_
    cases same
    exact acc.known slot found
  next missing =>
    have nothing : stored shared = 0 := by rw [stored, missing]; rfl
    refine ⟨?_, ?_, held_update acc client (Nat.le_succ _) ?_, ?_⟩
    · simp only [stored, Option.map_some, Option.getD_some, update_self, elements_empty]
      rw [acc.ledger, nothing]
    · rintro slot ⟨⟩
      exact Nat.lt_succ_self _
    · rintro command container ⟨⟩
      exact Nat.lt_succ_self _
    · intro container bound apart
      have different : container ≠ shared.fresh := fun same => apart (congrArg some same.symm)
      dsimp only at bound ⊢
      rw [update_of_ne different]
      refine acc.detached container (by omega) ?_
      rw [isLinked, missing]
      exact nofun

end

omit [DecidableEq κ] in
private theorem stored_update (content : C) :
    (shared.linked.map fun slot => elements (update shared.contents container content slot.container)).getD 0 =
      if isLinked shared container then elements content else stored shared := by
  by_cases linked : isLinked shared container
  · rw [if_pos linked]
    obtain ⟨slot, found, rfl⟩ := Option.map_eq_some_iff.mp linked
    simp [found]
  · rw [if_neg linked, stored]
    cases found : shared.linked with
    | none => rfl
    | some slot =>
      have apart : slot.container ≠ container := fun same => linked (by rw [isLinked, found, Option.map_some, same])
      simp [apart]

omit [DecidableEq κ] in
private theorem stored_linked (linked : isLinked shared container) : stored shared = elements (shared.contents container) := by
  obtain ⟨slot, found, rfl⟩ := Option.map_eq_some_iff.mp linked
  rw [stored, found]
  rfl

section
variable (acc : Accounted shared)
include acc

private theorem Accounted.add (client : κ) (push : Push C) (linked : isLinked shared container) :
    Accounted (add client push container shared) := by
  refine ⟨?_, acc.known, held_update acc client le_rfl nofun, ?_⟩
  · have now : stored (Containers.add client push container shared) = elements (push.grow (shared.contents container)) :=
      (stored_update _).trans (if_pos linked)
    calc shared.pushed + push.added (shared.contents container)
        = shared.popped + (elements (shared.contents container) + push.added (shared.contents container)) := by
          rw [acc.ledger, stored_linked linked, add_assoc]
      _ = shared.popped + stored (Containers.add client push container shared) := by rw [now, push.grows]
  · intro other bound apart
    have different : other ≠ container := fun same => apart (same ▸ linked)
    dsimp only [Containers.add]
    rw [update_of_ne different]
    exact acc.detached other bound apart

private theorem Accounted.take (client : κ) (pop : Pop C)
    (bound : container < shared.fresh) : Accounted (take client pop container shared) := by
  unfold Containers.take
  dsimp only
  split
  · exact acc.moveTo client .idle nofun
  · have parts := pop.shrinks (shared.contents container)
    refine ⟨?_, acc.known, held_update acc client le_rfl ?_, ?_⟩
    · rw [stored, stored_update, acc.ledger, add_assoc]
      by_cases linked : isLinked shared container
      · rw [if_pos linked, stored_linked linked, parts, add_comm (elements (pop.shrink _))]
      · -- a container that is elsewhere has nothing to give
        rw [acc.detached container bound linked] at parts
        have nothing : pop.taken (shared.contents container) = 0 := Multiset.le_zero.mp (parts.symm ▸ Multiset.le_add_left _ _)
        rw [if_neg linked, nothing, zero_add]
    · intro command other same
      split at same <;> cases same
    · intro other known apart
      by_cases same : other = container
      · subst other
        rw [acc.detached container bound apart] at parts
        dsimp only
        rw [update_self]
        exact Multiset.le_zero.mp (parts.symm ▸ Multiset.le_add_right _ _)
      · dsimp only
        rw [update_of_ne same]
        exact acc.detached other known apart

omit [DecidableEq κ] in
private theorem Accounted.unlinked (nothing : stored shared = 0) : Accounted shared.unlinked := by
  refine ⟨?_, nofun, acc.held, ?_⟩
  · exact acc.ledger.trans (by rw [nothing]; rfl)
  · intro container bound _
    by_cases linked : isLinked shared container
    · exact (stored_linked linked).symm.trans nothing
    · exact acc.detached container bound linked

private theorem Accounted.step {event : Event C κ} (linked : Linked shared event) : Accounted (step shared event) := by
  cases event with
  | start client command =>
    simp only [Containers.step]
    split
    · exact acc.moveTo client _ (by cases command <;> exact nofun)
    · exact acc
  | tick elapsed => exact ⟨acc.ledger, acc.known, acc.held, acc.detached⟩
  | evict => exact acc.unlinked linked
  | refuse client =>
    simp only [Containers.step]
    split
    · exact acc.moveTo client _ nofun
    · exact acc.moveTo client _ nofun
    · exact acc
  | proceed client =>
    simp only [Linked] at linked
    simp only [Containers.step]
    cases stage : shared.stages client with
    | idle => exact acc
    | admitting push => exact acc.moveTo client _ nofun
    | purge command => exact acc.readExpiry client command
    | purging command expiry => exact acc.moveTo client _ (by split <;> exact nofun)
    | removing command =>
      rw [stage] at linked
      exact (acc.unlinked linked).moveTo client _ nofun
    | looking command => exact acc.lookUp client command
    | making push => exact acc.moveTo client _ nofun
    | creating push => exact acc.create client push
    | locking command container =>
      rw [stage] at linked
      cases command with
      | push push => exact acc.add client push linked
      | pop pop => exact acc.take client pop (acc.held client _ container stage)
    | unlinking =>
      rw [stage] at linked
      exact (acc.unlinked linked).moveTo client _ nofun

end

/-- In every run in which pushes write to the container under the key, and pops, purges and
evictions remove empty ones, the elements whose addition was acknowledged are those that were
taken out and those under the key. -/
theorem elements_accounted {start : Shared C κ} (acc : Accounted start) {events : List (Event C κ)}
    (linked : Guarded step Linked start events) :
    (run step start events).pushed =
      (run step start events).popped + stored (run step start events) :=
  (linked.invariant (fun _ _ acc linked => acc.step linked) acc).ledger

/-! One list, one client that pushes and one that pops. -/

def oneElement (expiresAt : Option Nat) : Shared (List Bytes) Bool :=
  ⟨fun _ => [ascii "a"], 1, some ⟨0, expiresAt⟩, 5, fun _ => .idle, [ascii "a"], 0⟩

/-- The push has found the list when the pop empties it; it writes before the pop unlinks the key. -/
def lostPush : List (Event (List Bytes) Bool) :=
  [.start true (lpushCommand [ascii "b"])] ++ replicate 3 (.proceed true) ++ [.start false (lpopCommand 1)] ++
    replicate 3 (.proceed false) ++ [.proceed true, .proceed false]

/-- A push has found the list expired; another one purges it and makes a new one, which the first then removes. -/
def purgedPush : List (Event (List Bytes) Bool) :=
  [.start true (lpushCommand [ascii "b"])] ++ replicate 3 (.proceed true) ++ [.start false (lpushCommand [ascii "c"])] ++
    replicate 8 (.proceed false) ++ [.proceed true]

theorem pushed_element_lost :
    (ascii "b" ∈ (run step (oneElement none) lostPush).pushed ∧ ascii "b" ∉ (run step (oneElement none) lostPush).popped ∧
      stored (run step (oneElement none) lostPush) = 0) ∧
    ascii "c" ∈ (run step (oneElement (some 4)) purgedPush).pushed ∧ ascii "c" ∉ (run step (oneElement (some 4)) purgedPush).popped ∧
      stored (run step (oneElement (some 4)) purgedPush) = 0 := by
  decide +kernel

theorem oneElement_accounted (expiresAt : Option Nat) : Accounted (oneElement expiresAt) where
  ledger := rfl
  known := by rintro slot ⟨⟩; exact Nat.one_pos
  held := nofun
  detached := by
    intro container bound apart
    exact absurd (congrArg some (Nat.lt_one_iff.mp bound).symm) apart

/-- The push while the pop is under way, and its writing after the pop has finished, with a list of its own. -/
def laterPush : List (Event (List Bytes) Bool) :=
  [.start true (lpushCommand [ascii "b"]), .start false (lpopCommand 1), .proceed true, .proceed false, .proceed false, .proceed false,
    .proceed true, .proceed false, .evict] ++ replicate 4 (.proceed true)

theorem later_push_accounted :
    (run step (oneElement none) laterPush).pushed =
      (run step (oneElement none) laterPush).popped + stored (run step (oneElement none) laterPush) := by
  apply elements_accounted (oneElement_accounted none)
  exact ⟨trivial, trivial, trivial, trivial, trivial, trivial, trivial, rfl, rfl, trivial, trivial, trivial, rfl, trivial⟩

end Kore.Proofs.ContainerRaces
