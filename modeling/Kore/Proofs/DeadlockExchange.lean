import Kore.Proofs.DeadlockDetection
import Kore.Foundation.Runs

/-! Deadlocks across processes. Every process records its own locks and waits; one of them
merges what the others export. A wait whose holder is not yet known is kept until a later
snapshot tells, so in whatever order the snapshots come, and however often, the merged
detector sees the waits of all processes on the holders of all processes. -/

namespace Kore.Proofs.DeadlockExchange
open Foundation Foundation.DepthFirst Deadlock Deadlock.DeadlockDetector DeadlockDetection List LockInfo Iteration FiniteMap

variable {edge : WaitEdge} {waiting : FiniteMap Bytes (List LockInfo)} {resource wanted : String} {client holder : Bytes}

def holderOf (detector : DeadlockDetector) (resource : String) : Option Bytes :=
  (detector.heldLocks.lookup resource).map clientId

def Waiting (detector : DeadlockDetector) (client : Bytes) (resource : String) : Prop :=
  ∃ info ∈ (detector.waitingFor.lookup client).getD [], info.resource = resource

/-- Every edge stands for a recorded wait on the recorded holder. -/
structure Coherent (detector : DeadlockDetector) : Prop where
  named : ∀ resource info, detector.heldLocks.lookup resource = some info → info.resource = resource
  waiting : ∀ edge ∈ detector.waitGraph, Waiting detector edge.waiter edge.resource
  held : ∀ edge ∈ detector.waitGraph, holderOf detector edge.resource = some edge.holder

/-- There is an edge for every wait on a resource that the detector knows to be held. -/
def Linked (detector : DeadlockDetector) : Prop :=
  ∀ client resource holder, Waiting detector client resource → holderOf detector resource = some holder →
    ∃ edge ∈ detector.waitGraph, edge.waiter = client ∧ edge.holder = holder ∧ edge.resource = resource

section Recording

/-- What a process records of its own locks. -/
inductive LocalEvent where
  | acquired (walk : Iteration Bytes (List LockInfo)) (now : Nat) (resource : String) (clientId : Bytes) (ttlMs : Nat)
  | released (resource : String) (clientId : Bytes)
  | waits (now : Nat) (resource : String) (clientId : Bytes) (ttlMs : Nat)
  | gaveUp (clientId : Bytes)
  | resolved (walk : Iteration String LockInfo) (clientId : Bytes)

def record (detector : DeadlockDetector) : LocalEvent → DeadlockDetector
  | .acquired walk now resource clientId ttlMs => detector.recordLockAcquired walk now resource clientId ttlMs
  | .released resource clientId => detector.recordLockReleased resource clientId
  | .waits now resource clientId ttlMs => detector.recordLockWait now resource clientId ttlMs
  | .gaveUp clientId => detector.removeFromWaiting clientId
  | .resolved walk clientId => (detector.releaseClientLocks walk clientId).2

variable {detector : DeadlockDetector}

private theorem foldl_pushUnseen (edges : List WaitEdge) (state : Finset (Bytes × String × Bytes) × List WaitEdge)
    (member : edge ∈ (edges.foldl pushUnseen state).2) : edge ∈ state.2 ∨ edge ∈ edges := by
  induction edges generalizing state with
  | nil => exact .inl member
  | cons head edges ih =>
    rcases ih _ member with older | later
    · unfold pushUnseen at older
      split at older
      · exact .inl older
      · rcases mem_append.mp older with old | new
        · exact .inl old
        · exact .inr (mem_singleton.mp new ▸ mem_cons_self)
    · exact .inr (mem_cons_of_mem _ later)

private theorem mem_pushUnseen {edges : List WaitEdge} (member : edge ∈ (edges.foldl pushUnseen (∅, [])).2) :
    edge ∈ edges :=
  (foldl_pushUnseen edges (∅, []) member).resolve_left not_mem_nil

private theorem waiting_after_acquired {clientId : Bytes}
    (before : ∃ info ∈ (waiting.lookup client).getD [], info.resource = wanted)
    (other : wanted ≠ resource ∨ client ≠ clientId) :
    ∃ info ∈ (((match waiting.lookup clientId with
      | none => waiting
      | some waitList =>
        match waitList.filter (·.resource ≠ resource) with
        | [] => waiting.erase clientId
        | kept => waiting.insert clientId kept) : FiniteMap Bytes (List LockInfo)).lookup client).getD [], info.resource = wanted := by
  obtain ⟨info, member, rfl⟩ := before
  by_cases same : client = clientId
  · subst same
    have different := other.resolve_right (fun distinct => distinct rfl)
    cases listed : waiting.lookup client with
    | none =>
      rw [listed] at member
      exact absurd member not_mem_nil
    | some waitList =>
      rw [listed, Option.getD_some] at member
      have kept : info ∈ waitList.filter (·.resource ≠ resource) := mem_filter.mpr ⟨member, decide_eq_true different⟩
      dsimp only
      split
      next empty => exact absurd (empty ▸ kept) not_mem_nil
      next =>
        refine ⟨info, ?_, rfl⟩
        rwa [Finmap.lookup_insert, Option.getD_some]
  · refine ⟨info, ?_, rfl⟩
    split
    · exact member
    · split
      · rwa [Finmap.lookup_erase_ne same]
      · rwa [Finmap.lookup_insert_of_ne _ same]

theorem recordLockAcquired_coherent (coherent : Coherent detector) (walk : Iteration Bytes (List LockInfo)) (now : Nat)
    (clientId : Bytes) (ttlMs : Nat) :
    Coherent (detector.recordLockAcquired walk now resource clientId ttlMs) := by
  have holder : ∀ wanted, holderOf (detector.recordLockAcquired walk now resource clientId ttlMs) wanted =
      if wanted = resource then some clientId else holderOf detector wanted := by
    intro wanted
    unfold holderOf recordLockAcquired
    dsimp only
    split
    next same => rw [same, Finmap.lookup_insert, Option.map_some]
    next different => rw [Finmap.lookup_insert_of_ne _ different]
  set after := detector.recordLockAcquired walk now resource clientId ttlMs
  -- An edge is either an old one, made to point to the new holder, or a wait found in the table.
  have origin : ∀ edge ∈ after.waitGraph,
      Waiting after edge.waiter edge.resource ∧ holderOf after edge.resource = some edge.holder := by
    intro edge member
    rcases mem_append.mp (mem_pushUnseen member) with old | new
    · obtain ⟨before, inside, rewritten⟩ := mem_filterMap.mp old
      rw [holder]
      split at rewritten
      next same =>
        split at rewritten
        next => cases rewritten
        next different =>
          cases rewritten
          exact ⟨waiting_after_acquired (coherent.waiting before inside) (.inr different), if_pos same⟩
      next different =>
        cases rewritten
        exact ⟨waiting_after_acquired (coherent.waiting edge inside) (.inl different),
          (if_neg different).trans (coherent.held edge inside)⟩
    · obtain ⟨⟨waiter, waitList⟩, listed, linked⟩ := mem_flatMap.mp new
      dsimp only at linked
      split at linked
      · exact absurd linked not_mem_nil
      obtain ⟨info, kept, rfl⟩ := mem_map.mp linked
      obtain ⟨inside, same⟩ := mem_filter.mp kept
      refine ⟨⟨info, ?_, of_decide_eq_true same⟩, (holder resource).trans (if_pos rfl)⟩
      have found : after.waitingFor.lookup waiter = some waitList := mem_entries.mp listed
      rw [found]
      exact inside
  refine ⟨?_, fun edge member => (origin edge member).1, fun edge member => (origin edge member).2⟩
  intro wanted info present
  have present' : (detector.heldLocks.insert resource ⟨resource, clientId, now, ttlMs⟩).lookup wanted = some info := present
  by_cases same : wanted = resource
  · rw [same, Finmap.lookup_insert] at present'
    cases present'
    exact same.symm
  · rw [Finmap.lookup_insert_of_ne _ same] at present'
    exact coherent.named wanted info present'

theorem recordLockReleased_coherent (coherent : Coherent detector) (resource : String) (clientId : Bytes) :
    Coherent (detector.recordLockReleased resource clientId) := by
  unfold recordLockReleased
  split
  next info present =>
    split
    next owned =>
      refine ⟨?_, fun edge member => coherent.waiting edge (mem_filter.mp member).1, ?_⟩
      · intro wanted info' present'
        by_cases same : wanted = resource
        · rw [same, Finmap.lookup_erase] at present'
          cases present'
        · rw [Finmap.lookup_erase_ne same] at present'
          exact coherent.named wanted info' present'
      · intro edge member
        obtain ⟨inside, kept⟩ := mem_filter.mp member
        have known := coherent.held edge inside
        by_cases same : edge.resource = resource
        · rw [holderOf, same, present, Option.map_some, owned] at known
          cases known
          simp [same] at kept
        · rw [holderOf, Finmap.lookup_erase_ne same]
          exact known
    next => exact coherent
  next => exact coherent

private theorem waiting_insert {other : Bytes} {info : LockInfo} :
    (∃ found ∈ ((waiting.insert client ((waiting.lookup client).getD [] ++ [info])).lookup other).getD [], found.resource = wanted) ↔
      (∃ found ∈ (waiting.lookup other).getD [], found.resource = wanted) ∨ other = client ∧ wanted = info.resource := by
  by_cases same : other = client
  · subst same
    rw [Finmap.lookup_insert, Option.getD_some]
    simp [or_and_right, exists_or, @eq_comm _ wanted]
  · rw [Finmap.lookup_insert_of_ne _ same]
    simp [same]

section
variable (coherent : Coherent detector)
include coherent

theorem recordLockWait_coherent (now : Nat) (resource : String) (clientId : Bytes) (ttlMs : Nat) :
    Coherent (detector.recordLockWait now resource clientId ttlMs) := by
  unfold recordLockWait
  split
  next info present =>
    refine ⟨coherent.named, ?_, ?_⟩
    · intro edge member
      apply waiting_insert.mpr
      rcases mem_append.mp member with old | new
      · exact .inl (coherent.waiting edge old)
      · rw [mem_singleton.mp new]
        exact .inr ⟨rfl, rfl⟩
    · have known : holderOf detector resource = some info.clientId := congrArg (Option.map LockInfo.clientId) present
      exact forall_mem_append.mpr ⟨coherent.held, forall_mem_singleton.mpr known⟩
  next => exact ⟨coherent.named, fun edge member => waiting_insert.mpr (.inl (coherent.waiting edge member)), coherent.held⟩

theorem removeFromWaiting_coherent (clientId : Bytes) : Coherent (detector.removeFromWaiting clientId) := by
  refine ⟨coherent.named, ?_, fun edge member => coherent.held edge (mem_filter.mp member).1⟩
  intro edge member
  obtain ⟨inside, other⟩ := mem_filter.mp member
  obtain ⟨info, listed, same⟩ := coherent.waiting edge inside
  refine ⟨info, ?_, same⟩
  show info ∈ ((detector.waitingFor.erase clientId).lookup edge.waiter).getD []
  rwa [Finmap.lookup_erase_ne (of_decide_eq_true other)]

theorem releaseClientLocks_coherent (walk : Iteration String LockInfo) (clientId : Bytes) :
    Coherent (detector.releaseClientLocks walk clientId).2 := by
  refine ⟨?_, ?_, ?_⟩
  · intro wanted info present
    have present' := (lookup_retain _ detector.heldLocks wanted).symm.trans present
    obtain ⟨old, listed, kept⟩ := Option.bind_eq_some_iff.mp present'
    split at kept
    · cases kept
    · cases kept
      exact coherent.named wanted info listed
  · intro edge member
    obtain ⟨inside, kept⟩ := mem_filter.mp member
    simp only [ne_eq, Bool.and_eq_true, decide_eq_true_eq] at kept
    obtain ⟨info, listed, same⟩ := coherent.waiting edge inside
    refine ⟨info, ?_, same⟩
    show info ∈ ((retain _ (detector.waitingFor.erase clientId)).lookup edge.waiter).getD []
    rw [lookup_retain, Finmap.lookup_erase_ne kept.1.1]
    cases waits : detector.waitingFor.lookup edge.waiter with
    | none =>
      rw [waits] at listed
      exact absurd listed not_mem_nil
    | some waitList =>
      rw [waits, Option.getD_some] at listed
      rw [Option.bind_some]
      have stays := decide_eq_true kept.2
      rw [← same] at stays
      split
      next empty => exact absurd stays (filter_eq_nil_iff.mp empty info listed)
      next => exact mem_filter.mpr ⟨listed, stays⟩
  · intro edge member
    obtain ⟨inside, kept⟩ := mem_filter.mp member
    simp only [ne_eq, Bool.and_eq_true, decide_eq_true_eq] at kept
    obtain ⟨info, listed, same⟩ := Option.map_eq_some_iff.mp (coherent.held edge inside)
    show ((retain _ detector.heldLocks).lookup edge.resource).map LockInfo.clientId = some edge.holder
    rw [lookup_retain, listed, Option.bind_some, if_neg (same ▸ kept.1.2), Option.map_some, same]

theorem record_coherent (event : LocalEvent) : Coherent (record detector event) := by
  cases event with
  | acquired walk now resource clientId ttlMs => exact recordLockAcquired_coherent coherent walk now clientId ttlMs
  | released resource clientId => exact recordLockReleased_coherent coherent resource clientId
  | waits now resource clientId ttlMs => exact recordLockWait_coherent coherent now resource clientId ttlMs
  | gaveUp clientId => exact removeFromWaiting_coherent coherent clientId
  | resolved walk clientId => exact releaseClientLocks_coherent coherent walk clientId

end

theorem new_coherent (maxWaitTimeMs : Nat) (autoResolve : Bool) (strategy : VictimSelectionStrategy) :
    Coherent (new maxWaitTimeMs autoResolve strategy) :=
  ⟨fun _ _ present => absurd present (by rw [new, Finmap.lookup_empty]; exact fun none => nomatch none),
    fun _ missing => absurd missing not_mem_nil, fun _ missing => absurd missing not_mem_nil⟩

end Recording

section Merging

variable {now : Nat}

/-- The holds known after a merge: the own ones as they were, the others from the snapshot. -/
private theorem foldl_mergeHold (remotes : List HeldLockSnapshot) (held : FiniteMap String LockInfo) :
    (∀ resource info, held.lookup resource = some info → (remotes.foldl (mergeHold now) held).lookup resource = some info) ∧
      (∀ resource info, (remotes.foldl (mergeHold now) held).lookup resource = some info → held.lookup resource = some info ∨
        ∃ remote ∈ remotes, remote.resource = resource ∧ info.resource = resource ∧ info.clientId = remote.clientId) ∧
      ∀ remote ∈ remotes, remote.ttlMs - remote.heldForMs ≠ 0 → ∃ info, (remotes.foldl (mergeHold now) held).lookup remote.resource = some info := by
  have keeps : ∀ (held : FiniteMap String LockInfo) remote resource info, held.lookup resource = some info →
      (mergeHold now held remote).lookup resource = some info := by
    intro held remote resource info present
    unfold mergeHold
    split
    next => exact present
    next missing =>
      split
      · exact present
      rw [Finmap.lookup_insert_of_ne]
      · exact present
      · intro same
        exact missing (same ▸ Finmap.lookup_isSome.mp (Option.isSome_iff_exists.mpr ⟨info, present⟩))
  induction remotes generalizing held with
  | nil => exact ⟨fun _ _ present => present, fun _ _ present => .inl present, fun _ missing => absurd missing not_mem_nil⟩
  | cons remote remotes ih =>
    obtain ⟨kept, origin, added⟩ := ih (mergeHold now held remote)
    refine ⟨fun resource info present => kept resource info (keeps held remote resource info present), ?_, ?_⟩
    · intro resource info present
      rcases origin resource info present with before | ⟨other, member, facts⟩
      · unfold mergeHold at before
        split at before
        · exact .inl before
        split at before
        · exact .inl before
        by_cases same : resource = remote.resource
        · rw [same, Finmap.lookup_insert] at before
          cases before
          exact .inr ⟨remote, mem_cons_self, same.symm, same.symm, rfl⟩
        · rw [Finmap.lookup_insert_of_ne _ same] at before
          exact .inl before
      · exact .inr ⟨other, mem_cons_of_mem _ member, facts⟩
    · intro other member lasting
      rcases mem_cons.mp member with rfl | later
      · have present : ∃ info, (mergeHold now held other).lookup other.resource = some info := by
          unfold mergeHold
          split
          next known => exact Option.isSome_iff_exists.mp (Finmap.lookup_isSome.mpr known)
          next => exact ⟨_, Finmap.lookup_insert _⟩
        obtain ⟨info, present⟩ := present
        exact ⟨info, kept _ info present⟩
      · exact added other later lasting

/-- A step of the merge that adds one wait at most. -/
private structure Adds (before after : DeadlockDetector) (about : Bytes × String) : Prop where
  coherent : Coherent after
  held : after.heldLocks = before.heldLocks
  waiting : ∀ client resource, Waiting after client resource ↔ Waiting before client resource ∨ (client, resource) = about

private theorem foldl_adds {α : Type} {step : DeadlockDetector → α → DeadlockDetector} {about : α → Bytes × String} {items : List α}
    {start : DeadlockDetector} (each : ∀ detector, ∀ item ∈ items, Coherent detector → detector.heldLocks = start.heldLocks →
      Adds detector (step detector item) (about item)) (coherent : Coherent start) :
    Coherent (items.foldl step start) ∧ (items.foldl step start).heldLocks = start.heldLocks ∧
      ∀ client resource, Waiting (items.foldl step start) client resource ↔
        Waiting start client resource ∨ ∃ item ∈ items, (client, resource) = about item := by
  induction items generalizing start with
  | nil => exact ⟨coherent, rfl, fun _ _ => by simp⟩
  | cons item items ih =>
    have first := each start item mem_cons_self coherent rfl
    obtain ⟨coherent', held, waiting⟩ := @ih (step start item)
      (fun detector later member coherent same => each detector later (mem_cons_of_mem _ member) coherent (same.trans first.held))
      first.coherent
    refine ⟨coherent', held.trans first.held, ?_⟩
    intro client resource
    rw [foldl_cons, waiting, first.waiting, or_assoc, exists_mem_cons_iff]

private theorem ensureWaiting_iff {maxWaitMs timestamp : Nat} {waiter : Bytes} :
    (∃ info ∈ ((ensureWaiting maxWaitMs waiter resource timestamp waiting).lookup client).getD [], info.resource = wanted) ↔
      (∃ info ∈ (waiting.lookup client).getD [], info.resource = wanted) ∨ (client, wanted) = (waiter, resource) := by
  unfold ensureWaiting
  split
  next already =>
    refine ⟨.inl, fun either => either.elim id ?_⟩
    intro same
    cases same
    obtain ⟨info, member, same⟩ := any_eq_true.mp already
    exact ⟨info, member, beq_iff_eq.mp same⟩
  next => rw [waiting_insert, Prod.mk.injEq]

variable {detector : DeadlockDetector}

private theorem linkWait_adds (coherent : Coherent detector) {waiter : Bytes} (elapsed : Nat)
    (known : holderOf detector resource = some holder) (other : holder ≠ waiter) :
    Adds detector (linkWait now waiter holder resource elapsed detector) (waiter, resource) := by
  unfold linkWait
  rw [if_neg other]
  split
  next present =>
    obtain ⟨edge, member, same⟩ := any_eq_true.mp present
    simp only [Bool.and_eq_true, beq_iff_eq] at same
    refine ⟨coherent, rfl, fun client wanted => ⟨.inl, fun either => either.elim id ?_⟩⟩
    intro about
    cases about
    exact same.1.1 ▸ same.2 ▸ coherent.waiting edge member
  next =>
    refine ⟨⟨coherent.named, ?_, ?_⟩, rfl, fun _ _ => ensureWaiting_iff⟩
    · intro edge member
      apply ensureWaiting_iff.mpr
      rcases mem_append.mp member with old | new
      · exact .inl (coherent.waiting edge old)
      · rw [mem_singleton.mp new]
        exact .inr rfl
    · exact forall_mem_append.mpr ⟨coherent.held, forall_mem_singleton.mpr known⟩

/-- Edges added for recorded waits: each stands for a wait on the known holder, and no wait on another client is left without one. -/
private structure Relinks (held : FiniteMap String LockInfo) (graph : List WaitEdge) (waits : List (Bytes × LockInfo))
    (before after : List WaitEdge) : Prop where
  kept : ∀ edge ∈ before, edge ∈ after
  origin : ∀ edge ∈ after, edge ∈ before ∨ ∃ wait ∈ waits, edge.waiter = wait.1 ∧ edge.resource = wait.2.resource ∧
    (held.lookup edge.resource).map clientId = some edge.holder
  linked : ∀ wait ∈ waits, ∀ holder, (held.lookup wait.2.resource).map clientId = some holder → holder ≠ wait.1 →
    ∃ edge ∈ graph ++ after, edge.waiter = wait.1 ∧ edge.holder = holder ∧ edge.resource = wait.2.resource

section
variable {held : FiniteMap String LockInfo} {graph : List WaitEdge}

private theorem Relinks.refl (edges : List WaitEdge) : Relinks held graph [] edges edges :=
  ⟨fun _ member => member, fun _ member => .inl member, fun _ missing => absurd missing not_mem_nil⟩

private theorem Relinks.trans {first second : List (Bytes × LockInfo)} {before middle after : List WaitEdge}
    (one : Relinks held graph first before middle) (other : Relinks held graph second middle after) :
    Relinks held graph (first ++ second) before after := by
  refine ⟨fun edge member => other.kept edge (one.kept edge member), ?_, ?_⟩
  · intro edge member
    rcases other.origin edge member with early | ⟨wait, inside, about⟩
    · rcases one.origin edge early with old | ⟨wait, inside, about⟩
      · exact .inl old
      · exact .inr ⟨wait, mem_append_left _ inside, about⟩
    · exact .inr ⟨wait, mem_append_right _ inside, about⟩
  · intro wait member holder known different
    rcases mem_append.mp member with early | late
    · obtain ⟨edge, inside, same⟩ := one.linked wait early holder known different
      rcases mem_append.mp inside with old | new
      · exact ⟨edge, mem_append_left _ old, same⟩
      · exact ⟨edge, mem_append_right _ (other.kept edge new), same⟩
    · exact other.linked wait late holder known different

private theorem relinkWait_relinks (waiter : Bytes) (relink : List WaitEdge) (info : LockInfo) :
    Relinks held graph [(waiter, info)] relink (relinkWait held graph waiter relink info) := by
  have unchanged : (∀ holder, (held.lookup info.resource).map clientId = some holder → holder ≠ waiter →
      ∃ edge ∈ graph ++ relink, edge.waiter = waiter ∧ edge.holder = holder ∧ edge.resource = info.resource) →
      Relinks held graph [(waiter, info)] relink relink := by
    intro linked
    refine ⟨fun _ member => member, fun _ member => .inl member, ?_⟩
    intro wait member
    rw [mem_singleton.mp member]
    exact linked
  unfold relinkWait
  split
  next missing =>
    apply unchanged
    intro holder known
    rw [missing] at known
    cases known
  next holderInfo present =>
    have sole : ∀ holder, (held.lookup info.resource).map clientId = some holder → holder = holderInfo.clientId := by
      intro holder known
      rw [present] at known
      cases known
      rfl
    split
    next own =>
      apply unchanged
      intro holder known different
      exact absurd ((sole holder known).trans own) different
    next =>
      split
      next there =>
        apply unchanged
        intro holder known _
        rw [sole holder known]
        have merged : edgeExists (graph ++ relink) waiter holderInfo.clientId info.resource := by
          rw [edgeExists, any_append]
          exact there
        obtain ⟨edge, member, same⟩ := any_eq_true.mp merged
        simp only [Bool.and_eq_true, beq_iff_eq, and_assoc] at same
        exact ⟨edge, member, same⟩
      next =>
        refine ⟨fun _ member => mem_append_left _ member, ?_, ?_⟩
        · intro edge member
          rcases mem_append.mp member with old | new
          · exact .inl old
          · rw [mem_singleton.mp new]
            exact .inr ⟨_, mem_singleton_self _, rfl, rfl, by rw [present, Option.map_some]⟩
        · intro wait member holder known _
          rw [mem_singleton.mp member] at known ⊢
          rw [sole holder known]
          exact ⟨_, mem_append_right _ (mem_append_right _ (mem_singleton_self _)), rfl, rfl, rfl⟩

private theorem relinkList_relinks (waiter : Bytes) (waitList : List LockInfo) (relink : List WaitEdge) :
    Relinks held graph (waitList.map (waiter, ·)) relink (waitList.foldl (relinkWait held graph waiter) relink) := by
  induction waitList generalizing relink with
  | nil => exact .refl relink
  | cons info waitList ih => exact (relinkWait_relinks waiter relink info).trans (ih _)

private theorem relinkAll_relinks (entries : List (Bytes × List LockInfo)) (relink : List WaitEdge) :
    Relinks held graph (entries.flatMap fun (waiter, waitList) => waitList.map (waiter, ·)) relink
      (entries.foldl (fun relink (waiter, waitList) => waitList.foldl (relinkWait held graph waiter) relink) relink) := by
  induction entries generalizing relink with
  | nil => exact .refl relink
  | cons entry entries ih => exact (relinkList_relinks entry.1 entry.2 relink).trans (ih _)

end

private theorem relinkWaiting_linked (coherent : Coherent detector) (walk : Iteration Bytes (List LockInfo))
    (selfless : ∀ client resource, Waiting detector client resource → holderOf detector resource ≠ some client) :
    Coherent (relinkWaiting walk detector) ∧ Linked (relinkWaiting walk detector) := by
  have relinks := @relinkAll_relinks detector.heldLocks detector.waitGraph (walk.entries detector.waitingFor) []
  constructor
  · have origin : ∀ edge ∈ (relinkWaiting walk detector).waitGraph, Waiting detector edge.waiter edge.resource ∧
        holderOf detector edge.resource = some edge.holder := by
      intro edge member
      rcases mem_append.mp member with old | new
      · exact ⟨coherent.waiting edge old, coherent.held edge old⟩
      obtain ⟨⟨waiter, info⟩, inside, sameWaiter, sameResource, known⟩ :=
        (relinks.origin edge new).resolve_left not_mem_nil
      obtain ⟨⟨client, waitList⟩, listed, given⟩ := mem_flatMap.mp inside
      obtain ⟨found, within, same⟩ := mem_map.mp given
      cases same
      refine ⟨⟨info, ?_, sameResource.symm⟩, known⟩
      rw [sameWaiter, mem_entries.mp listed]
      exact within
    exact ⟨coherent.named, fun edge member => (origin edge member).1, fun edge member => (origin edge member).2⟩
  · intro client resource holder waiting known
    have different : holder ≠ client := fun same => selfless client resource waiting (same ▸ known)
    obtain ⟨info, inside, rfl⟩ := waiting
    cases listed : detector.waitingFor.lookup client with
    | none =>
      have empty : (relinkWaiting walk detector).waitingFor.lookup client = none := listed
      rw [empty] at inside
      exact absurd inside not_mem_nil
    | some waitList =>
      have full : (relinkWaiting walk detector).waitingFor.lookup client = some waitList := listed
      rw [full, Option.getD_some] at inside
      apply relinks.linked (client, info) ?_ holder known different
      exact mem_flatMap.mpr ⟨(client, waitList), mem_entries.mpr listed, mem_map.mpr ⟨info, inside, rfl⟩⟩

/-- Edges that agree with the known holders are kept as they are. -/
private theorem mem_reconcile {held : FiniteMap String LockInfo} {graph : List WaitEdge}
    (known : ∀ edge ∈ graph, (held.lookup edge.resource).map clientId = some edge.holder)
    (member : edge ∈ reconcile held graph) : edge ∈ graph := by
  obtain ⟨before, inside, same⟩ := mem_filterMap.mp (mem_pushUnseen member)
  have agrees : knownHolder held before.resource before.holder = before.holder := by
    obtain ⟨info, listed, holder⟩ := Option.map_eq_some_iff.mp (known before inside)
    rw [knownHolder, listed]
    exact holder
  dsimp only at same
  rw [agrees] at same
  split at same
  · cases same
  · cases same
    exact inside

end Merging

section Processes

/-- A detector as a process leaves it that only records its own locks. -/
def Recorded (detector : DeadlockDetector) : Prop :=
  ∃ maxWaitTimeMs autoResolve strategy events,
    detector = run record (new maxWaitTimeMs autoResolve strategy) events

theorem Recorded.coherent {detector : DeadlockDetector} (recorded : Recorded detector) : Coherent detector := by
  obtain ⟨maxWaitTimeMs, autoResolve, strategy, events, rfl⟩ := recorded
  exact run_invariant Coherent (fun _ event kept => record_coherent kept event) (new_coherent maxWaitTimeMs autoResolve strategy) events

/-- After any history of its own locks a detector answers, and what it takes for a deadlock is
a circle of recorded waits, each for a resource that the next client is recorded to hold. -/
theorem detection_founded (allClients : Iteration Bytes (List (Bytes × String))) (now maxWaitTimeMs : Nat) (autoResolve : Bool)
    (strategy : VictimSelectionStrategy) (events : List LocalEvent) :
    let detector := run record (new maxWaitTimeMs autoResolve strategy) events
    detector.detectDeadlock allClients now = some .noDeadlock ∨
      ∃ client, Relation.TransGen (fun waiter holder => ∃ resource, Waiting detector waiter resource ∧
        holderOf detector resource = some holder) client client := by
  intro detector
  have coherent : Coherent detector := Recorded.coherent ⟨_, _, _, events, rfl⟩
  rcases detectFromGraph_spec allClients (detector.cleanupExpiredInto now).waitGraph with
    ⟨_, _, _, _, _, _, _, _, stopped, _⟩ | ⟨_, quiet⟩
  · obtain ⟨client, _, cycle⟩ := stopped.reachesCycle
    refine .inr ⟨client, cycle.lift id fun waiter holder ⟨resource, member⟩ => ?_⟩
    obtain ⟨edge, inside, rfl, rfl, rfl⟩ := mem_waits.mp member
    have recorded := mem_of_mem_filter inside
    exact ⟨_, coherent.waiting edge recorded, coherent.held edge recorded⟩
  · exact .inl quiet

/-- Processes with resources of their own. What a client waits for it does not hold in any of them. -/
structure Processes where
  members : List DeadlockDetector
  recorded : ∀ process ∈ members, Recorded process
  disjoint : members.Pairwise fun one other => ∀ resource, holderOf one resource = none ∨ holderOf other resource = none
  utf8 : ∀ process ∈ members, ∀ client resource,
    Waiting process client resource ∨ holderOf process resource = some client → isUtf8 client = true
  selfless : ∀ waiting ∈ members, ∀ holding ∈ members, ∀ client resource,
    Waiting waiting client resource → holderOf holding resource ≠ some client
  linked : ∀ process ∈ members, Linked process

def Lasting (now : Nat) (detector : DeadlockDetector) : Prop :=
  ∀ resource info, detector.heldLocks.lookup resource = some info → now - info.timestamp < info.ttlMs

def Unexpired (now : Nat) (detector : DeadlockDetector) : Prop :=
  Lasting now detector ∧ ∀ edge ∈ detector.waitGraph, now - edge.timestamp < detector.maxWaitTimeMs

/-- One process's snapshot, taken at some time, and its arrival. -/
structure Delivery where
  process : DeadlockDetector
  exportedAt : Nat
  heldWalk : Iteration String LockInfo
  waitingWalk : Iteration Bytes (List LockInfo)
  mergedAt : Nat
  mergeWalk : Iteration Bytes (List LockInfo)

def deliver (detector : DeadlockDetector) (delivery : Delivery) : DeadlockDetector :=
  detector.mergeSnapshot delivery.mergeWalk delivery.mergedAt
    (delivery.process.exportFromMaps delivery.heldWalk delivery.waitingWalk delivery.exportedAt)

/-- A client waits in some process for a resource that the other one holds in some process. -/
def UnionWaits (processes : Processes) (waiter holder : Bytes) : Prop :=
  ∃ waiting ∈ processes.members, ∃ holding ∈ processes.members, ∃ resource,
    Waiting waiting waiter resource ∧ holderOf holding resource = some holder

/-- The detector knows the locks and waits of the given processes. -/
structure Knows (detector : DeadlockDetector) (members : List DeadlockDetector) : Prop where
  coherent : Coherent detector
  linked : Linked detector
  holder : ∀ resource client, holderOf detector resource = some client ↔ ∃ process ∈ members, holderOf process resource = some client
  waiting : ∀ client resource, Waiting detector client resource ↔ ∃ process ∈ members, Waiting process client resource

variable {processes : Processes}

theorem Processes.sole (processes : Processes) {one other : DeadlockDetector} (inside : one ∈ processes.members)
    (inside' : other ∈ processes.members) {client' : Bytes} (holds : holderOf one resource = some client)
    (holds' : holderOf other resource = some client') : client = client' := by
  by_cases same : one = other
  · subst same
    exact Option.some.inj (holds.symm.trans holds')
  · have symmetric : Std.Symm fun one other : DeadlockDetector =>
        ∀ resource, holderOf one resource = none ∨ holderOf other resource = none := ⟨fun _ _ free resource => (free resource).symm⟩
    have apart := processes.disjoint.forall inside inside' same resource
    rw [holds, holds'] at apart
    rcases apart with none | none <;> cases none

section
variable {detector : DeadlockDetector} {members : List DeadlockDetector} {delivery : Delivery}

private theorem exported_waits (inside : delivery.process ∈ processes.members) (client : Bytes) (resource : String) :
    let snapshot := delivery.process.exportFromMaps delivery.heldWalk delivery.waitingWalk delivery.exportedAt
    (∃ remote ∈ snapshot.waits, (client, resource) = (remote.waiter, remote.resource)) ∨
        (∃ remote ∈ snapshot.orphanWaits, (client, resource) = (remote.waiter, remote.resource)) ↔
      Waiting delivery.process client resource := by
  have own := (processes.recorded _ inside).coherent
  have text : ∀ {client resource}, Waiting delivery.process client resource → clientIdToString client = client :=
    fun waiting => lossy_eq_self (processes.utf8 _ inside _ _ (.inl waiting))
  constructor
  · intro either
    rcases either with ⟨remote, member, same⟩ | ⟨remote, member, same⟩
    · obtain ⟨edge, listed, rfl⟩ := mem_map.mp member
      have waiting := own.waiting edge listed
      rw [text waiting] at same
      cases same
      exact waiting
    · obtain ⟨⟨waiter, waitList⟩, listed, given⟩ := mem_flatMap.mp member
      obtain ⟨info, kept, rfl⟩ := mem_map.mp given
      have waiting : Waiting delivery.process waiter info.resource := by
        refine ⟨info, ?_, rfl⟩
        rw [mem_entries.mp listed]
        exact (mem_filter.mp kept).1
      rw [text waiting] at same
      cases same
      exact waiting
  · intro waiting
    obtain ⟨info, listed, rfl⟩ := id waiting
    by_cases edges : delivery.process.waitGraph.any (fun edge => edge.waiter == client && edge.resource == info.resource) = true
    · obtain ⟨edge, member, same⟩ := any_eq_true.mp edges
      simp only [Bool.and_eq_true, beq_iff_eq] at same
      refine .inl ⟨_, mem_map.mpr ⟨edge, member, rfl⟩, ?_⟩
      rw [same.1, same.2, text waiting]
    · cases found : delivery.process.waitingFor.lookup client with
      | none =>
        rw [found] at listed
        exact absurd listed not_mem_nil
      | some waitList =>
        rw [found, Option.getD_some] at listed
        refine .inr ⟨_, mem_flatMap.mpr ⟨(client, waitList), mem_entries.mpr found, mem_map.mpr
          ⟨info, mem_filter.mpr ⟨listed, by simpa using edges⟩, rfl⟩⟩, ?_⟩
        rw [text waiting]

variable {now : Nat}

private theorem mergeOrphan_adds (coherent : Coherent detector) (orphan : OrphanWaitSnapshot)
    (other : ∀ holder, holderOf detector orphan.resource = some holder → holder ≠ orphan.waiter) :
    Adds detector (mergeOrphan now detector orphan) (orphan.waiter, orphan.resource) := by
  unfold mergeOrphan
  split
  next =>
    exact ⟨⟨coherent.named, fun edge member => ensureWaiting_iff.mpr (.inl (coherent.waiting edge member)), coherent.held⟩, rfl,
      fun _ _ => ensureWaiting_iff⟩
  next holderInfo present =>
    have known : holderOf detector orphan.resource = some holderInfo.clientId := by rw [holderOf, present, Option.map_some]
    exact linkWait_adds coherent orphan.waitElapsedMs known (other _ known)

private theorem mergeWait_adds (coherent : Coherent detector) (remote : WaitEdgeSnapshot)
    (known : holderOf detector remote.resource = some holder) (other : holder ≠ remote.waiter) :
    Adds detector (mergeWait now detector remote) (remote.waiter, remote.resource) := by
  have resolved : knownHolder detector.heldLocks remote.resource remote.holder = holder := by
    obtain ⟨info, listed, about⟩ := Option.map_eq_some_iff.mp known
    rw [knownHolder, listed]
    exact about
  rw [mergeWait, resolved]
  exact linkWait_adds coherent remote.waitElapsedMs known other

section
variable (known : ∀ process ∈ members, process ∈ processes.members)
include known

private theorem holds_united (knows : Knows detector members)
    (inside : delivery.process ∈ processes.members) (lasting : Lasting delivery.exportedAt delivery.process) :
    let held := (delivery.process.exportFromMaps delivery.heldWalk delivery.waitingWalk delivery.exportedAt).held.foldl
      (mergeHold delivery.mergedAt) detector.heldLocks
    (∀ resource info, held.lookup resource = some info → info.resource = resource) ∧
      ∀ resource client, (held.lookup resource).map clientId = some client ↔
        ∃ process ∈ delivery.process :: members, holderOf process resource = some client := by
  intro held
  set exported := delivery.process.exportFromMaps delivery.heldWalk delivery.waitingWalk delivery.exportedAt
  obtain ⟨kept, origin, added⟩ := foldl_mergeHold exported.held detector.heldLocks
  have coherent := (processes.recorded _ inside).coherent
  have from_export : ∀ remote ∈ exported.held, holderOf delivery.process remote.resource = some remote.clientId := by
    intro remote member
    obtain ⟨⟨resource, info⟩, listed, rfl⟩ := mem_map.mp member
    have present := mem_entries.mp listed
    have holds : holderOf delivery.process resource = some info.clientId := by rw [holderOf, present, Option.map_some]
    dsimp only
    rw [coherent.named resource info present, holds, clientIdToString, lossy_eq_self (processes.utf8 _ inside _ _ (.inr holds))]
  have sound : ∀ resource client, (held.lookup resource).map clientId = some client →
      ∃ process ∈ delivery.process :: members, holderOf process resource = some client := by
    intro resource client present
    obtain ⟨info, listed, rfl⟩ := Option.map_eq_some_iff.mp present
    rcases origin resource info listed with before | ⟨remote, member, rfl, _, same⟩
    · obtain ⟨process, found, holds⟩ := (knows.holder resource info.clientId).mp (by rw [holderOf, before, Option.map_some])
      exact ⟨process, mem_cons_of_mem _ found, holds⟩
    · exact ⟨delivery.process, mem_cons_self, same ▸ from_export remote member⟩
  refine ⟨?_, fun resource client => ⟨sound resource client, ?_⟩⟩
  · intro resource info listed
    rcases origin resource info listed with before | ⟨_, _, _, same, _⟩
    · exact knows.coherent.named resource info before
    · exact same
  · intro ⟨process, member, holds⟩
    rcases mem_cons.mp member with rfl | old
    · -- The resource is known afterwards, and only one client of all processes holds it.
      obtain ⟨info, present, rfl⟩ := Option.map_eq_some_iff.mp holds
      have listed : ⟨info.resource, clientIdToString info.clientId, info.ttlMs, delivery.exportedAt - info.timestamp⟩ ∈ exported.held :=
        mem_map.mpr ⟨(resource, info), mem_entries.mpr present, rfl⟩
      have remains : info.ttlMs - (delivery.exportedAt - info.timestamp) ≠ 0 := by
        have := lasting resource info present
        omega
      obtain ⟨found, there⟩ := added _ listed remains
      rw [coherent.named resource info present] at there
      have about : (held.lookup resource).map clientId = some found.clientId := by rw [there, Option.map_some]
      obtain ⟨other, member, holds'⟩ := sound resource found.clientId about
      have within : other ∈ processes.members := forall_mem_cons.mpr ⟨inside, known⟩ other member
      rw [about, processes.sole within inside holds' holds]
    · obtain ⟨info, present, rfl⟩ := Option.map_eq_some_iff.mp ((knows.holder resource client).mpr ⟨process, old, holds⟩)
      rw [kept resource info present, Option.map_some]

theorem deliver_knows (knows : Knows detector members)
    (inside : delivery.process ∈ processes.members) (lasting : Lasting delivery.exportedAt delivery.process) :
    Knows (deliver detector delivery) (delivery.process :: members) := by
  have all : ∀ process ∈ delivery.process :: members, process ∈ processes.members := by
    exact forall_mem_cons.mpr ⟨inside, known⟩
  obtain ⟨named, united⟩ := @holds_united processes detector members delivery known knows inside lasting
  have exported := @exported_waits processes delivery inside
  have edges : ∀ remote ∈ (delivery.process.exportFromMaps delivery.heldWalk delivery.waitingWalk delivery.exportedAt).waits,
      ∃ holder, holderOf delivery.process remote.resource = some holder := by
    intro remote member
    obtain ⟨edge, listed, rfl⟩ := mem_map.mp member
    exact ⟨edge.holder, (processes.recorded _ inside).coherent.held edge listed⟩
  unfold deliver mergeSnapshot
  generalize delivery.process.exportFromMaps delivery.heldWalk delivery.waitingWalk delivery.exportedAt = snapshot at *
  dsimp only at named united exported ⊢
  generalize snapshot.held.foldl (mergeHold delivery.mergedAt) detector.heldLocks = held at *
  have selfless : ∀ client resource holder, (∃ process ∈ delivery.process :: members, Waiting process client resource) →
      (held.lookup resource).map clientId = some holder → holder ≠ client := by
    intro client resource holder ⟨process, member, waiting⟩ holds same
    obtain ⟨other, member', holds'⟩ := (united resource holder).mp holds
    exact processes.selfless process (all process member) other (all other member') client resource waiting (same ▸ holds')
  -- The edges there were agree with the holders known now.
  have agree : ∀ edge ∈ detector.waitGraph, (held.lookup edge.resource).map clientId = some edge.holder := by
    intro edge member
    obtain ⟨process, found, holds⟩ := (knows.holder _ _).mp (knows.coherent.held edge member)
    exact (united _ _).mpr ⟨process, mem_cons_of_mem _ found, holds⟩
  have reconciled : Coherent { detector with heldLocks := held, waitGraph := reconcile held detector.waitGraph } :=
    ⟨named, fun edge member => knows.coherent.waiting edge (mem_reconcile agree member),
      fun edge member => agree edge (mem_reconcile agree member)⟩
  -- The waits that have an edge in the process, on the holder that is known now.
  obtain ⟨unitedCoherent, unitedHeld, unitedWaiting⟩ := @foldl_adds _ (mergeWait delivery.mergedAt) _ snapshot.waits _
    (fun detector remote member coherent same => by
      obtain ⟨holder, holds⟩ := edges remote member
      have now := (united _ _).mpr ⟨delivery.process, mem_cons_self, holds⟩
      have waiting := (exported remote.waiter remote.resource).mp (.inl ⟨remote, member, rfl⟩)
      exact mergeWait_adds coherent remote (by rw [holderOf, same, now])
        (selfless _ _ _ ⟨_, mem_cons_self, waiting⟩ now)) reconciled
  generalize snapshot.waits.foldl (mergeWait delivery.mergedAt) _ = second at *
  -- The waits that have none, linked if their holder is known here.
  obtain ⟨linkedCoherent, linkedHeld, linkedWaiting⟩ := @foldl_adds _ (mergeOrphan delivery.mergedAt) _ snapshot.orphanWaits second
    (fun detector orphan member coherent same => by
      have waiting := (exported orphan.waiter orphan.resource).mp (.inr ⟨orphan, member, rfl⟩)
      apply mergeOrphan_adds coherent orphan
      intro holder holds
      rw [holderOf, same, unitedHeld] at holds
      exact selfless _ _ _ ⟨_, mem_cons_self, waiting⟩ holds) unitedCoherent
  generalize snapshot.orphanWaits.foldl (mergeOrphan delivery.mergedAt) second = third at *
  have holder : ∀ resource client, holderOf third resource = some client ↔
      ∃ process ∈ delivery.process :: members, holderOf process resource = some client := by
    intro resource client
    rw [holderOf, linkedHeld, unitedHeld]
    exact united resource client
  have waiting : ∀ client resource, Waiting third client resource ↔
      ∃ process ∈ delivery.process :: members, Waiting process client resource := by
    intro client resource
    rw [linkedWaiting, unitedWaiting, or_assoc, exported, exists_mem_cons_iff, or_comm]
    exact or_congr_right (knows.waiting client resource)
  obtain ⟨coherent, linked⟩ := relinkWaiting_linked linkedCoherent delivery.mergeWalk (by
    intro client resource waits holds
    rw [holderOf, linkedHeld, unitedHeld] at holds
    exact selfless client resource client ((waiting client resource).mp waits) holds rfl)
  exact ⟨coherent, linked, holder, waiting⟩

end

theorem run_deliver_knows (deliveries : List Delivery)
    (sent : ∀ delivery ∈ deliveries, delivery.process ∈ processes.members ∧ Lasting delivery.exportedAt delivery.process)
    (known : ∀ process ∈ members, process ∈ processes.members) (knows : Knows detector members) :
    Knows (run deliver detector deliveries) ((deliveries.map Delivery.process).reverse ++ members) := by
  induction deliveries generalizing detector members with
  | nil => exact knows
  | cons delivery deliveries ih =>
    obtain ⟨inside, lasting⟩ := sent delivery mem_cons_self
    have further := ih (fun later member => sent later (mem_cons_of_mem _ member))
      (fun process member => (mem_cons.mp member).elim (fun same => same ▸ inside) (known process))
      (deliver_knows known knows inside lasting)
    rw [map_cons, reverse_cons, append_assoc]
    exact further

/-- The edges of a detector that knows some processes are the waits of these processes. -/
theorem Knows.waitsFor_iff (knows : Knows detector members) (waiter : Bytes) :
    WaitsFor detector.waitGraph waiter holder ↔ ∃ waiting ∈ members, ∃ holding ∈ members, ∃ resource,
      Waiting waiting waiter resource ∧ holderOf holding resource = some holder := by
  constructor
  · intro ⟨edge, member, sameWaiter, sameHolder⟩
    obtain ⟨waiting, inside, waits⟩ := (knows.waiting _ _).mp (knows.coherent.waiting edge member)
    obtain ⟨holding, inside', holds⟩ := (knows.holder _ _).mp (knows.coherent.held edge member)
    exact ⟨waiting, inside, holding, inside', edge.resource, sameWaiter ▸ waits, sameHolder ▸ holds⟩
  · intro ⟨waiting, inside, holding, inside', resource, waits, holds⟩
    obtain ⟨edge, member, sameWaiter, sameHolder, _⟩ := knows.linked waiter resource holder
      ((knows.waiting _ _).mpr ⟨waiting, inside, waits⟩) ((knows.holder _ _).mpr ⟨holding, inside', holds⟩)
    exact ⟨edge, member, sameWaiter, sameHolder⟩

theorem waitGraph_cleanup {now : Nat} (unexpired : Unexpired now detector) :
    (detector.cleanupExpiredInto now).waitGraph = detector.waitGraph := by
  apply filter_eq_self.mpr
  intro edge member
  have recent := unexpired.2 edge member
  dsimp only
  split
  next info present =>
    have lasting := unexpired.1 edge.resource info present
    simp only [isExpired, Bool.and_eq_true, Bool.not_eq_true', decide_eq_false_iff_not, decide_eq_true_eq]
    omega
  next => simpa using recent

end

/-- After one process has merged the snapshots of all others, in any order and any number of times, it reports a
deadlock just when some client waits, across the processes and directly or not, for itself. -/
theorem merged_reports_iff_union_cycle (processes : Processes) (self : DeadlockDetector) (others : List DeadlockDetector)
    (shape : processes.members = self :: others) (deliveries : List Delivery)
    (sent : ∀ delivery ∈ deliveries, delivery.process ∈ others ∧ Lasting delivery.exportedAt delivery.process)
    (complete : ∀ process ∈ others, ∃ delivery ∈ deliveries, delivery.process = process)
    (allClients : Iteration Bytes (List (Bytes × String))) (now : Nat) (unexpired : Unexpired now (run deliver self deliveries)) :
    (∃ cycle resources, (run deliver self deliveries).detectDeadlock allClients now = some (.deadlock cycle resources)) ↔
      ∃ client, Relation.TransGen (UnionWaits processes) client client := by
  have inside : self ∈ processes.members := shape ▸ mem_cons_self
  have alone : Knows self [self] := by
    refine ⟨(processes.recorded self inside).coherent, processes.linked self inside, ?_, ?_⟩ <;> simp
  have knows := @run_deliver_knows processes self [self] deliveries
    (fun delivery member => ⟨shape ▸ mem_cons_of_mem _ (sent delivery member).1, (sent delivery member).2⟩)
    (fun process member => mem_singleton.mp member ▸ inside) alone
  have members : ∀ process, process ∈ (deliveries.map Delivery.process).reverse ++ [self] ↔ process ∈ processes.members := by
    intro process
    rw [shape, mem_append, mem_reverse, mem_map, mem_singleton, mem_cons, or_comm]
    refine or_congr_right ⟨fun ⟨delivery, member, same⟩ => same ▸ (sent delivery member).1, complete process⟩
  have graph : WaitsFor (run deliver self deliveries).waitGraph = UnionWaits processes := by
    funext waiter holder
    apply propext
    refine (knows.waitsFor_iff waiter).trans ?_
    simp [members, UnionWaits]
  rw [detectDeadlock, waitGraph_cleanup unexpired, reports_iff_onCycle]
  unfold OnCycle
  rw [edge_waits, graph]

section
variable {detector : DeadlockDetector} {among : Bytes → String → Prop}

private theorem holder_among
    (all : ∀ entry ∈ detector.heldLocks.entries, among entry.2.clientId entry.1) (holds : holderOf detector resource = some holder) :
    among holder resource := by
  obtain ⟨info, present, rfl⟩ := Option.map_eq_some_iff.mp holds
  exact all ⟨resource, info⟩ (Finmap.lookup_eq_some_iff.mp present)

private theorem waiting_among
    (all : ∀ entry ∈ detector.waitingFor.entries, ∀ info ∈ entry.2, among entry.1 info.resource)
    (waiting : Waiting detector client resource) : among client resource := by
  obtain ⟨info, listed, rfl⟩ := waiting
  cases present : detector.waitingFor.lookup client with
  | none =>
    rw [present] at listed
    exact absurd listed not_mem_nil
  | some waitList =>
    rw [present] at listed
    exact all ⟨client, waitList⟩ (Finmap.lookup_eq_some_iff.mp present) info listed

private noncomputable def anyWalk : Iteration Bytes (List LockInfo) := preferring [ascii "x", ascii "y"]

/-- A process whose only client holds one resource and waits for another. -/
private noncomputable def half (held wanted : String) (client : Bytes) : DeadlockDetector :=
  run record (new 30000 false .youngest) [.acquired anyWalk 0 held client 10000, .waits 1 wanted client 10000]

private noncomputable def east : DeadlockDetector := half "accounts" "billing" (ascii "x")

private noncomputable def west : DeadlockDetector := half "billing" "accounts" (ascii "y")

private theorem east_holder (holds : holderOf east resource = some holder) :
    holder = ascii "x" ∧ resource = "accounts" :=
  @holder_among _ _ east (fun holder resource => holder = ascii "x" ∧ resource = "accounts") (by decide +kernel) holds

private theorem west_holder (holds : holderOf west resource = some holder) :
    holder = ascii "y" ∧ resource = "billing" :=
  @holder_among _ _ west (fun holder resource => holder = ascii "y" ∧ resource = "billing") (by decide +kernel) holds

private theorem east_waiting (waiting : Waiting east client resource) :
    client = ascii "x" ∧ resource = "billing" :=
  @waiting_among _ _ east (fun client resource => client = ascii "x" ∧ resource = "billing") (by decide +kernel) waiting

private theorem west_waiting (waiting : Waiting west client resource) :
    client = ascii "y" ∧ resource = "accounts" :=
  @waiting_among _ _ west (fun client resource => client = ascii "y" ∧ resource = "accounts") (by decide +kernel) waiting

private theorem mem_halves {process : DeadlockDetector} (member : process ∈ [east, west]) : process = east ∨ process = west := by
  simpa using member

private noncomputable def halves : Processes where
  members := [east, west]
  recorded process member := by
    rcases mem_halves member with rfl | rfl <;> exact ⟨_, _, _, _, rfl⟩
  disjoint := by
    refine List.pairwise_pair.mpr fun resource => ?_
    cases one : holderOf east resource with
    | none => exact .inl rfl
    | some holder =>
      cases other : holderOf west resource with
      | none => exact .inr rfl
      | some holder' => exact absurd ((east_holder one).2.symm.trans (west_holder other).2) (by decide)
  utf8 process member client resource either := by
    have either' : client = ascii "x" ∨ client = ascii "y" := by
      rcases mem_halves member with rfl | rfl
      · exact .inl (either.elim (fun waiting => (east_waiting waiting).1) fun holds => (east_holder holds).1)
      · exact .inr (either.elim (fun waiting => (west_waiting waiting).1) fun holds => (west_holder holds).1)
    rcases either' with rfl | rfl <;> decide
  selfless waiting member holding member' client resource waits holds := by
    rcases mem_halves member with rfl | rfl <;> rcases mem_halves member' with rfl | rfl
    · exact absurd ((east_waiting waits).2.symm.trans (east_holder holds).2) (by decide)
    · exact absurd ((east_waiting waits).1.symm.trans (west_holder holds).1) (by decide)
    · exact absurd ((west_waiting waits).1.symm.trans (east_holder holds).1) (by decide)
    · exact absurd ((west_waiting waits).2.symm.trans (west_holder holds).2) (by decide)
  linked process member client resource holder waits holds := by
    rcases mem_halves member with rfl | rfl
    · exact absurd ((east_waiting waits).2.symm.trans (east_holder holds).2) (by decide)
    · exact absurd ((west_waiting waits).2.symm.trans (west_holder holds).2) (by decide)

private noncomputable def anyHeld : Iteration String LockInfo := preferring ["accounts", "billing"]

/-- Two clients of two processes that wait for each other are found from either process's snapshot, merged twice. -/
theorem halves_reported :
    ∃ cycle resources, (run deliver east [⟨west, 2, anyHeld, anyWalk, 3, anyWalk⟩, ⟨west, 4, anyHeld, anyWalk, 5, anyWalk⟩]).detectDeadlock
      (preferring [ascii "x", ascii "y"]) 6 = some (.deadlock cycle resources) := by
  have lasting : ∀ {now}, now ≤ 4 → Lasting now west := by
    intro now early resource info present
    have all : ∀ entry ∈ west.heldLocks.entries, entry.2.timestamp = 0 ∧ entry.2.ttlMs = 10000 := by decide +kernel
    obtain ⟨start, ttl⟩ : info.timestamp = 0 ∧ info.ttlMs = 10000 := all ⟨resource, info⟩ (Finmap.lookup_eq_some_iff.mp present)
    omega
  apply (merged_reports_iff_union_cycle halves east [west] rfl
    [⟨west, 2, anyHeld, anyWalk, 3, anyWalk⟩, ⟨west, 4, anyHeld, anyWalk, 5, anyWalk⟩] ?_ ?_ _ 6 ⟨?_, ?_⟩).mpr
  · have there : UnionWaits halves (ascii "x") (ascii "y") :=
      ⟨east, mem_cons_self, west, mem_cons_of_mem _ mem_cons_self, "billing",
        ⟨⟨"billing", ascii "x", 1, 10000⟩, by decide +kernel, rfl⟩, by decide +kernel⟩
    have back : UnionWaits halves (ascii "y") (ascii "x") :=
      ⟨west, mem_cons_of_mem _ mem_cons_self, east, mem_cons_self, "accounts",
        ⟨⟨"accounts", ascii "y", 1, 10000⟩, by decide +kernel, rfl⟩, by decide +kernel⟩
    exact ⟨ascii "x", .head there (.single back)⟩
  · intro delivery member
    rcases mem_cons.mp member with rfl | later
    · exact ⟨mem_singleton_self _, lasting (by decide)⟩
    · rw [mem_singleton.mp later]
      exact ⟨mem_singleton_self _, lasting (by decide)⟩
  · intro process member
    rw [mem_singleton.mp member]
    exact ⟨_, mem_cons_self, rfl⟩
  · intro resource info present
    have all : ∀ entry ∈ (run deliver east [⟨west, 2, anyHeld, anyWalk, 3, anyWalk⟩, ⟨west, 4, anyHeld, anyWalk, 5, anyWalk⟩]).heldLocks.entries,
        6 - entry.2.timestamp < entry.2.ttlMs := by decide +kernel
    exact all ⟨resource, info⟩ (Finmap.lookup_eq_some_iff.mp present)
  · decide +kernel

end

end Processes

end Kore.Proofs.DeadlockExchange
