import Kore.Cluster.Failover
import Kore.Proofs.ClusterDemotion
import Kore.Proofs.ClusterReachability

/-! What becomes of a replica whose master has failed by the end of a gossip tick. It only
claims the slots in the tick that has flagged the master; otherwise it follows any live
master that has slots, of whatever shard. -/

namespace Kore.Proofs.ClusterFailover
open Foundation Cluster Cluster ClusterState ClusterInvariant ClusterDemotion List NodeTable

variable {state : ClusterState} {masterId id : String} {cluster : Cluster} {alarm : Alarm} {alarms : List Alarm}

/-! Roles. -/

def Attached (state : ClusterState) (masterId : String) : Prop :=
  ∃ me, state.nodes.get state.myId = some me ∧ me.master = false ∧ me.masterId = some masterId

theorem isReplicaOf_iff : state.isReplicaOf masterId = true ↔ Attached state masterId := by
  unfold isReplicaOf Attached
  cases state.nodes.get state.myId with
  | none | some me => simp

theorem Attached.unique {first second : String} (attached : Attached state first) (also : Attached state second) :
    first = second := by
  obtain ⟨me, found, -, master⟩ := attached
  obtain ⟨other, same, -, otherMaster⟩ := also
  rw [found] at same
  cases same
  rw [master] at otherMaster
  cases otherMaster
  rfl

theorem Attached.isReplicaOf_other {other : String} (attached : Attached state masterId)
    (different : other ≠ masterId) : state.isReplicaOf other = false :=
  Bool.eq_false_iff.mpr fun replica => different ((isReplicaOf_iff.mp replica).unique attached)

def Leads (state : ClusterState) : Prop := ∃ me, state.nodes.get state.myId = some me ∧ me.master = true

theorem Leads.isReplicaOf (leads : Leads state) (id : String) : state.isReplicaOf id = false := by
  obtain ⟨me, found, master⟩ := leads
  unfold ClusterState.isReplicaOf
  rw [found]
  simp [master]

private theorem configured {me : ClusterNode} (found : state.nodes.get state.myId = some me)
    (other : masterId ≠ state.myId) (known : state.nodes.containsKey masterId) :
    ∃ after, state.configureAsReplicaOf masterId = .ok after ∧ after.myId = state.myId ∧
      after.nodes.get state.myId = some { me with master := false, masterId := some masterId, fail := false } ∧
      ∀ id, id ≠ state.myId → (after.nodes.get id).map (·.fail) = (state.nodes.get id).map (·.fail) := by
  have mine : me.id = state.myId := (get_eq_some.mp found).2
  unfold configureAsReplicaOf
  rw [if_neg (by simpa using other), if_neg (by simp [known])]
  refine ⟨_, rfl, ?_, ?_, fun id peer => ?_⟩
  · dsimp only
    split <;> rfl
  · dsimp only
    split
    all_goals simp [get_modify, found, mine, Ne.symm other]
  · dsimp only
    split
    all_goals
      rw [get_modify, get_modify]
      cases present : state.nodes.get id with
      | none => rfl
      | some node =>
        have named : node.id ≠ state.myId := (get_eq_some.mp present).2 ▸ peer
        simp only [Option.map_some, if_neg named]
        split <;> rfl

/-- Re-pointing at another known node makes this process its replica, and the node alive. -/
theorem followNewMaster_attached {me : ClusterNode} {winner : String} (found : state.nodes.get state.myId = some me)
    (other : winner ≠ state.myId) (known : state.nodes.containsKey winner) (detached : state.isReplicaOf winner = false) :
    (state.followNewMaster winner).1.myId = state.myId ∧ Attached (state.followNewMaster winner).1 winner ∧
      ∀ node, (state.followNewMaster winner).1.nodes.get winner = some node → node.fail = false := by
  have mine : me.id = state.myId := (get_eq_some.mp found).2
  have marked : (state.markWinner winner).nodes.get (state.markWinner winner).myId = some me := by
    rw [markWinner, get_modify, found, Option.map_some, if_neg (by rw [mine]; exact Ne.symm other)]
  have present : (state.markWinner winner).nodes.containsKey winner := by
    rw [markWinner, containsKey_modify]
    exact known
  obtain ⟨after, done, sameId, role, flags⟩ := configured marked other present
  have reconfigured : state.reconfigureAsReplicaOfFailoverWinner winner = .ok after := by
    unfold reconfigureAsReplicaOfFailoverWinner
    rw [if_neg (by simpa using other), if_neg (by simp [detached]), if_neg (by simp [known])]
    exact done
  have followed : (state.followNewMaster winner).1 = after := by rw [followNewMaster, reconfigured]
  rw [followed]
  refine ⟨sameId, ⟨_, sameId ▸ role, rfl, rfl⟩, fun node here => ?_⟩
  have alive := flags winner other
  rw [here, markWinner, get_modify] at alive
  cases old : state.nodes.get winner with
  | none =>
    rw [old] at alive
    cases alive
  | some node =>
    simp only [old, Option.map_some, if_pos (get_eq_some.mp old).2, Option.some.injEq] at alive
    exact alive

/-! Elections. -/

theorem refreshed_state (cluster : Cluster) (offset : Option Nat) : (cluster.refreshed offset).toClusterState = cluster.toClusterState := by
  cases offset with
  | none => rfl
  | some offset =>
    change (cluster.setLocalReplOffset offset).toClusterState = _
    rw [setLocalReplOffset, setElection_state]

theorem mem_replicasOf :
    id ∈ cluster.replicasOf masterId ↔
      ∃ node ∈ cluster.nodes.entries, (node.fail = false ∧ node.master = false ∧ node.masterId = some masterId) ∧ node.id = id := by
  simp only [replicasOf, mem_dedup, mem_insertionSort, mem_map, mem_filter, Bool.and_eq_true,
    Bool.not_eq_true', beq_iff_eq]
  constructor
  · intro ⟨node, ⟨member, ⟨alive, replica⟩, master⟩, same⟩
    exact ⟨node, member, ⟨alive, replica, master⟩, same⟩
  · intro ⟨node, member, ⟨alive, replica, master⟩, same⟩
    exact ⟨node, ⟨member, ⟨alive, replica⟩, master⟩, same⟩

private theorem foldl_pick {ids : List String} {first : String} (test : String → String → Bool) :
    ids.foldl (fun best id => if test id best then best else id) first ∈ first :: ids := by
  induction ids generalizing first with
  | nil => exact mem_singleton_self first
  | cons id ids ih =>
    rw [foldl_cons]
    have picked := @ih (if test id first then first else id)
    rcases mem_cons.mp picked with same | later
    · rw [same]
      split
      · exact mem_cons_self
      · exact mem_cons_of_mem _ mem_cons_self
    · exact mem_cons_of_mem _ (mem_cons_of_mem _ later)

def rank (cluster : Cluster) (id : String) : Nat ×ₗ Nat ×ₗ String :=
  toLex ((cluster.priorityAndOffset id).1, toLex ((cluster.priorityAndOffset id).2, id))

theorem ranksBelow_iff {other : String} : cluster.ranksBelow id other = true ↔ rank cluster id < rank cluster other := by
  simp [ranksBelow, rank, Prod.Lex.toLex_lt_toLex]

theorem rank_le_foldl (ids : List String) (start : String) : ∀ id ∈ start :: ids,
    rank cluster id ≤ rank cluster (ids.foldl (fun best id => if cluster.ranksBelow id best then best else id) start) := by
  induction ids generalizing start with
  | nil =>
    intro id member
    rw [mem_singleton.mp member]
    exact le_rfl
  | cons next ids ih =>
    set best := if cluster.ranksBelow next start then start else next with chosen
    have better : rank cluster start ≤ rank cluster best ∧ rank cluster next ≤ rank cluster best := by
      rw [chosen]
      split
      next below => exact ⟨le_rfl, (ranksBelow_iff.mp below).le⟩
      next above => exact ⟨not_lt.mp (mt ranksBelow_iff.mpr above), le_rfl⟩
    have final := ih best
    intro id member
    rw [foldl_cons]
    rcases mem_cons.mp member with rfl | later
    · exact better.1.trans (final _ mem_cons_self)
    · rcases mem_cons.mp later with rfl | rest
      · exact better.2.trans (final _ mem_cons_self)
      · exact final id (mem_cons_of_mem _ rest)

structure Eligible (cluster : Cluster) (masterId id : String) : Prop where
  replica : ∃ node, cluster.nodes.get id = some node ∧ node.fail = false ∧ node.master = false ∧ node.masterId = some masterId
  promotable : 0 < (cluster.priorityAndOffset id).1

structure Best (cluster : Cluster) (masterId id : String) : Prop where
  eligible : Eligible cluster masterId id
  greatest : ∀ other, Eligible cluster masterId other → cluster.ranksBelow id other = false

theorem mem_candidates :
    id ∈ (cluster.replicasOf masterId).filter (fun id => 0 < (cluster.priorityAndOffset id).1) ↔ Eligible cluster masterId id := by
  rw [mem_filter, mem_replicasOf, decide_eq_true_iff]
  constructor
  · rintro ⟨⟨node, member, role, same⟩, promotable⟩
    exact ⟨⟨node, get_eq_some.mpr ⟨member, same⟩, role⟩, promotable⟩
  · rintro ⟨⟨node, found, role⟩, promotable⟩
    obtain ⟨member, same⟩ := get_eq_some.mp found
    exact ⟨⟨node, member, role, same⟩, promotable⟩

theorem winner_best {winner : String} (candidate : cluster.myId ∈ cluster.replicasOf masterId)
    (elected : cluster.failoverElectionWinner masterId = some winner) : Best cluster masterId winner := by
  unfold failoverElectionWinner at elected
  split at elected
  · cases elected
  split at elected
  next none => exact absurd candidate (none ▸ not_mem_nil)
  split at elected
  · cases elected
  next start rest shape =>
    cases elected
    have picked := @foldl_pick rest start cluster.ranksBelow
    have most := @rank_le_foldl cluster rest start
    rw [← shape] at picked most
    refine ⟨mem_candidates.mp picked, fun other eligible => ?_⟩
    exact Bool.eq_false_iff.mpr fun below => (ranksBelow_iff.mp below).not_ge (most other (mem_candidates.mpr eligible))

variable {offset : Option Nat} {persistent : Bool}

private theorem priority_refreshed : ((cluster.refreshed offset).priorityAndOffset id).1 = (cluster.priorityAndOffset id).1 := by
  cases offset with
  | none => rfl
  | some offset =>
    change ((cluster.setLocalReplOffset offset).priorityAndOffset id).1 = _
    unfold setLocalReplOffset setElection priorityAndOffset
    split
    next =>
      dsimp only
      split
      next => rfl
      next other => rw [Function.update_of_ne other]
    next =>
      split <;> rfl

theorem winner_none_refreshed (cluster : Cluster) (offset : Option Nat) (masterId : String)
    (nobody : cluster.failoverElectionWinner masterId = none) : (cluster.refreshed offset).failoverElectionWinner masterId = none := by
  have state := refreshed_state cluster offset
  have replicas : (cluster.refreshed offset).replicasOf masterId = cluster.replicasOf masterId := by
    unfold replicasOf
    rw [state]
  have priority : (cluster.refreshed offset).localReplPriority = cluster.localReplPriority := by
    cases offset with
    | none => rfl
    | some offset =>
      change (cluster.setLocalReplOffset offset).localReplPriority = _
      unfold setLocalReplOffset setElection
      split <;> rfl
  unfold failoverElectionWinner at nobody ⊢
  rw [state, replicas, priority]
  simp only [priority_refreshed]
  split at nobody
  next detached => rw [if_pos detached]
  next attached =>
    rw [if_neg attached]
    split at nobody
    next => exact nobody
    next =>
      split at nobody
      next => rfl
      next => cases nobody

/-! Masters with slots. -/

private theorem considered (nodes : List ClusterNode) {best : Option (Nat × String)} {count : Nat}
    (found : nodes.foldl state.considerMaster best = some (count, id)) :
    best = some (count, id) ∨ ∃ node ∈ nodes, node.id = id ∧ node.fail = false ∧ node.master = true ∧ node.id ≠ state.myId := by
  induction nodes generalizing best with
  | nil => exact .inl found
  | cons node nodes ih =>
    rcases ih found with chosen | ⟨other, member, facts⟩
    · have step : state.considerMaster best node = best ∨
          (∃ total, state.considerMaster best node = some (total, node.id)) ∧ node.fail = false ∧ node.master = true ∧ node.id ≠ state.myId := by
        unfold considerMaster
        split
        next => exact .inl rfl
        next kept =>
          simp only [Bool.or_eq_true, Bool.not_eq_true', beq_iff_eq, not_or, Bool.not_eq_true, Bool.not_eq_false] at kept
          obtain ⟨⟨⟨-, alive⟩, master⟩, other⟩ := kept
          dsimp only
          split
          · exact .inl rfl
          cases best with
          | none => exact .inr ⟨⟨_, rfl⟩, alive, master, other⟩
          | some pair =>
            dsimp only
            split
            · exact .inr ⟨⟨_, rfl⟩, alive, master, other⟩
            · exact .inl rfl
      rcases step with same | ⟨⟨total, taken⟩, alive, master, other⟩
      · exact .inl (same ▸ chosen)
      · rw [taken] at chosen
        cases chosen
        exact .inr ⟨node, mem_cons_self, rfl, alive, master, other⟩
    · exact .inr ⟨other, mem_cons_of_mem _ member, facts⟩

theorem otherMaster_live {rival : String} (found : state.otherMasterWithSlots = some rival) :
    ∃ node ∈ state.nodes.entries, node.id = rival ∧ node.fail = false ∧ node.master = true ∧ node.id ≠ state.myId := by
  obtain ⟨⟨count, id⟩, best, rfl⟩ := Option.map_eq_some_iff.mp found
  exact (considered _ best).resolve_left (by simp)

/-! A replica of a failed master. -/

structure Orphaned (cluster : Cluster) (masterId : String) : Prop where
  labelled : Labelled cluster.toClusterState
  replica : cluster.isReplicaOf masterId = true
  failed : cluster.nodeIsFail masterId = true

namespace Orphaned
variable {cluster : Cluster} {masterId : String}

section
variable (orphaned : Orphaned cluster masterId)
include orphaned

theorem attached : Attached cluster.toClusterState masterId := isReplicaOf_iff.mp orphaned.replica

theorem me :
    ∃ me, cluster.nodes.get cluster.myId = some me ∧ me.master = false ∧ me.masterId = some masterId ∧ me.fail = false := by
  obtain ⟨me, found, replica, master⟩ := orphaned.attached
  obtain ⟨member, mine⟩ := get_eq_some.mp found
  exact ⟨me, found, replica, master, (orphaned.labelled me member).2 mine⟩

theorem master : ∃ node, cluster.nodes.get masterId = some node ∧ node.fail := by
  have failed := orphaned.failed
  unfold nodeIsFail at failed
  cases found : cluster.nodes.get masterId with
  | none =>
    rw [found] at failed
    cases failed
  | some node =>
    rw [found] at failed
    exact ⟨node, rfl, failed⟩

theorem live_ne {node : ClusterNode} (member : node ∈ cluster.nodes.entries) (alive : node.fail = false) :
    node.id ≠ masterId := by
  intro same
  obtain ⟨failed, found, fail⟩ := orphaned.master
  rw [get_eq_some.mpr ⟨member, same⟩] at found
  cases found
  rw [alive] at fail
  cases fail

theorem other : masterId ≠ cluster.myId := by
  obtain ⟨me, found, -, -, alive⟩ := orphaned.me
  obtain ⟨member, mine⟩ := get_eq_some.mp found
  exact fun same => orphaned.live_ne member alive (mine.trans same.symm)

theorem candidate : cluster.myId ∈ cluster.replicasOf masterId := by
  obtain ⟨me, found, replica, master, alive⟩ := orphaned.me
  obtain ⟨member, mine⟩ := get_eq_some.mp found
  exact mem_replicasOf.mpr ⟨me, member, ⟨alive, replica, master⟩, mine⟩

theorem refreshed (offset : Option Nat) : Orphaned (cluster.refreshed offset) masterId := by
  have state := refreshed_state cluster offset
  refine ⟨?_, ?_, ?_⟩
  · rw [state]
    exact orphaned.labelled
  · rw [state]
    exact orphaned.replica
  · rw [nodeIsFail, state]
    exact orphaned.failed

theorem winner {winner : String} (elected : cluster.failoverElectionWinner masterId = some winner) :
    ∃ node, cluster.nodes.get winner = some node ∧ node.fail = false ∧ node.master = false ∧ node.masterId = some masterId :=
  (winner_best orphaned.candidate elected).eligible.replica

end

end Orphaned

/-! The claim. -/

variable {owners : List String}

private theorem countP_handed {failed me : String} (other : failed ≠ me) :
    (owners.map fun owner => if owner == failed then me else owner).countP (· == me) = owners.countP (· == me) + owners.countP (· == failed) := by
  induction owners with
  | nil => rfl
  | cons owner owners ih =>
    rw [map_cons, countP_cons, countP_cons, countP_cons, ih]
    by_cases taken : owner = failed
    · subst taken
      simp [other]
      omega
    · simp [taken]
      omega

private theorem countP_spared {failed me : String} (notMe : id ≠ me) (notFailed : id ≠ failed) :
    (owners.map fun owner => if owner == failed then me else owner).countP (· == id) = owners.countP (· == id) := by
  rw [countP_map]
  apply countP_congr
  intro owner _
  by_cases taken : owner = failed
  · simp [taken, Ne.symm notMe, Ne.symm notFailed]
  · simp [taken]

structure Claimed (before : ClusterState) (masterId : String) (after : ClusterState) : Prop where
  id : after.myId = before.myId
  owners : after.slotOwner.toList = before.slotOwner.toList.map fun owner => if owner == masterId then before.myId else owner
  nodes : after.nodes = before.nodes.modify before.myId (fun me => { me with master := true, masterId := none, fail := false }) fun _ => rfl
  votes : after.prepareNode = []

theorem claimSlotsFrom_claimed (known : state.nodes.containsKey masterId) :
    ∃ after claimed, state.claimSlotsFrom masterId = .ok (after, claimed) ∧ Claimed state masterId after := by
  unfold claimSlotsFrom
  rw [if_neg (by simp [known])]
  refine ⟨_, _, rfl, ?_⟩
  by_cases some : 0 < state.slotOwner.toList.countP (· == masterId)
  · simp only [if_pos some]
    exact ⟨rfl, Vector.toList_map, rfl, rfl⟩
  · simp only [if_neg some]
    refine ⟨rfl, ?_, rfl, rfl⟩
    -- The code hands nothing over then, and there is nothing to hand over.
    refine ((map_congr_left fun owner member => ?_).trans (map_id _)).symm
    rw [if_neg]
    · rfl
    · intro same
      exact some (countP_pos_iff.mpr ⟨owner, member, same⟩)

namespace Claimed
variable {cluster : Cluster} {masterId : String} {after : ClusterState}

section
variable (claimed : Claimed cluster.toClusterState masterId after)
include claimed

theorem slotsOf_other (notMe : id ≠ cluster.myId)
    (notMaster : id ≠ masterId) : slotsOf after id = slotsOf cluster.toClusterState id := by
  unfold slotsOf
  rw [claimed.owners]
  exact countP_spared notMe notMaster

theorem owner {slot : Nat} (owned : cluster.ownerIdOf slot = some masterId) :
    after.ownerIdOf slot = some cluster.myId := by
  unfold ownerIdOf at owned ⊢
  rw [claimed.owners, getElem?_map, owned]
  simp

section
variable (orphaned : Orphaned cluster masterId)
include orphaned

theorem slotsOf_me :
    slotsOf after after.myId = slotsOf cluster.toClusterState cluster.myId + slotsOf cluster.toClusterState masterId := by
  unfold slotsOf
  rw [claimed.owners, claimed.id]
  exact countP_handed orphaned.other

theorem me : ∃ me, after.nodes.get after.myId = some me ∧ me.master = true ∧ me.fail = false := by
  obtain ⟨me, found, -⟩ := orphaned.me
  rw [claimed.nodes, claimed.id, get_modify, found, Option.map_some, if_pos (get_eq_some.mp found).2]
  exact ⟨_, rfl, rfl, rfl⟩

theorem leads : Leads after := by
  obtain ⟨me, found, master, -⟩ := claimed.me orphaned
  exact ⟨me, found, master⟩

theorem otherMaster : after.otherMasterWithSlots = cluster.otherMasterWithSlots := by
  have step (best : Option (Nat × String)) (node : ClusterNode) (member : node ∈ cluster.nodes.entries) :
      after.considerMaster best (if node.id = cluster.myId then { node with master := true, masterId := none, fail := false } else node) =
        cluster.considerMaster best node := by
    unfold considerMaster
    by_cases mine : node.id = cluster.myId
    · simp [mine, claimed.id]
    rw [if_neg mine, claimed.id]
    split
    · rfl
    next kept =>
      have alive : node.fail = false := by
        simp only [Bool.or_eq_true, not_or, Bool.not_eq_true] at kept
        exact kept.1.1.2
      have counted := claimed.slotsOf_other mine (orphaned.live_ne member alive)
      unfold slotsOf at counted
      rw [counted]
  unfold otherMasterWithSlots
  rw [claimed.nodes]
  simp only [NodeTable.modify, foldl_map]
  congr 1
  exact foldl_ext _ _ _ fun best node member => step best node member

end

end

end Claimed

/-! The tick. -/

/-- The first alarm that this tick raises for a node. -/
def alarmFor (alarms : List Alarm) (masterId : String) : Option Alarm := alarms.find? fun alarm => alarm.failedId == masterId

private def answer (cluster : Cluster) (alarm : Alarm) : Cluster := (cluster.maybeFailoverOnMasterFail alarm).1

private theorem raiseAlarms_eq (progress : Cluster × List ReplicationOrder) :
    (alarms.foldl raiseAlarm progress).1 = alarms.foldl answer progress.1 := by
  induction alarms generalizing progress with
  | nil => rfl
  | cons alarm alarms ih => exact ih _

private theorem answer_detached (detached : cluster.isReplicaOf alarm.failedId = false) :
    answer cluster alarm = cluster := by
  unfold answer maybeFailoverOnMasterFail
  rw [if_pos (by simp [detached])]

private theorem answers_detached
    (detached : ∀ alarm ∈ alarms, cluster.isReplicaOf alarm.failedId = false) : alarms.foldl answer cluster = cluster := by
  induction alarms with
  | nil => rfl
  | cons alarm alarms ih =>
    rw [foldl_cons, answer_detached (detached alarm mem_cons_self)]
    exact ih fun later member => detached later (mem_cons_of_mem _ member)

private theorem answer_none (replica : cluster.isReplicaOf alarm.failedId)
    (nobody : (cluster.refreshed alarm.offset).failoverElectionWinner alarm.failedId = none) :
    answer cluster alarm = cluster.refreshed alarm.offset := by
  unfold answer maybeFailoverOnMasterFail
  rw [if_neg (by simp [replica])]
  simp only [shouldClaimOnFailover, nobody]
  rfl

private theorem answers_none (alarms : List Alarm) (orphaned : Orphaned cluster masterId)
    (nobody : cluster.failoverElectionWinner masterId = none) :
    (alarms.foldl answer cluster).toClusterState = cluster.toClusterState := by
  induction alarms generalizing cluster with
  | nil => rfl
  | cons alarm alarms ih =>
    rw [foldl_cons]
    by_cases mine : alarm.failedId = masterId
    · have still := winner_none_refreshed cluster alarm.offset masterId nobody
      rw [answer_none (mine ▸ orphaned.replica) (mine ▸ still)]
      exact (ih (orphaned.refreshed alarm.offset) still).trans (refreshed_state cluster alarm.offset)
    · rw [answer_detached (orphaned.attached.isReplicaOf_other mine)]
      exact ih orphaned nobody

private theorem autosave_claimed (votes : cluster.prepareNode = []) (save : Save) :
    (cluster.autosaveNodesConf save).toClusterState = cluster.toClusterState := by
  unfold autosaveNodesConf saveNodesConf
  split
  · split
    · simp only [purgeExpiredPrepares, votes, filter_nil]
      rw [← votes]
    · rfl
  · rfl

private theorem answer_claims (orphaned : Orphaned cluster alarm.failedId)
    (won : (cluster.refreshed alarm.offset).shouldClaimOnFailover alarm.failedId) :
    Claimed cluster.toClusterState alarm.failedId (answer cluster alarm).toClusterState := by
  obtain ⟨node, found, -⟩ := orphaned.master
  have known : cluster.nodes.containsKey alarm.failedId := by
    rw [containsKey, found]
    rfl
  obtain ⟨after, count, done, claimed⟩ := claimSlotsFrom_claimed known
  unfold answer maybeFailoverOnMasterFail
  rw [if_neg (by simp [orphaned.replica])]
  simp only [won, claimFrom, refreshed_state, done, Bool.not_true, Bool.false_eq_true, if_false]
  rw [autosave_claimed claimed.votes]
  exact claimed

private theorem answer_follows {winner : String} (replica : cluster.isReplicaOf alarm.failedId)
    (lost : (cluster.refreshed alarm.offset).shouldClaimOnFailover alarm.failedId = false)
    (elected : (cluster.refreshed alarm.offset).failoverElectionWinner alarm.failedId = some winner) :
    (answer cluster alarm).toClusterState = (cluster.followNewMaster winner).1 := by
  unfold answer maybeFailoverOnMasterFail
  rw [if_neg (by simp [replica])]
  simp [lost, elected, follow, refreshed_state]

private theorem failedMasters_orphaned (orphaned : Orphaned cluster masterId) :
    cluster.failedMasters = [masterId] := by
  obtain ⟨node, found, failed⟩ := orphaned.master
  obtain ⟨member, named⟩ := get_eq_some.mp found
  have here : masterId ∈ cluster.failedMasters := by
    refine mem_map.mpr ⟨node, mem_filter.mpr ⟨member, ?_⟩, named⟩
    have peer : node.myself = false := by
      rw [← Bool.not_eq_true, (orphaned.labelled node member).1, named]
      exact orphaned.other
    simp [peer, failed, named, orphaned.replica]
  have only (id : String) (listed : id ∈ cluster.failedMasters) : id = masterId := by
    obtain ⟨other, kept, rfl⟩ := mem_map.mp listed
    have replica : cluster.isReplicaOf other.id := by
      have chosen := (mem_filter.mp kept).2
      simp only [Bool.and_eq_true] at chosen
      exact chosen.2.2
    exact (isReplicaOf_iff.mp replica).unique orphaned.attached
  have once : cluster.failedMasters.Nodup := (filter_sublist.map _).nodup cluster.nodes.distinct
  exact (perm_singleton.mp ((perm_ext_iff_of_nodup once (nodup_singleton masterId)).mpr fun id =>
    ⟨fun listed => mem_singleton.mpr (only id listed), fun same => mem_singleton.mp same ▸ here⟩))

private theorem tryFollow_idle {offset : Option Nat}
    (idle : ∀ node ∈ cluster.nodes.entries, node.fail = true → cluster.isReplicaOf node.id = false) :
    cluster.tryFollowFailedMasters offset = (cluster, []) := by
  have nothing : cluster.failedMasters = [] := by
    refine map_eq_nil_iff.mpr (filter_eq_nil_iff.mpr fun node member => ?_)
    cases failed : node.fail with
    | false => simp
    | true => simp [idle node member failed]
  unfold tryFollowFailedMasters
  rw [nothing]

def Sibling (state : ClusterState) (masterId id : String) : Prop :=
  ∃ node, state.nodes.get id = some node ∧ node.master = false ∧ node.masterId = some masterId

namespace Orphaned
variable {cluster : Cluster} {masterId : String}

theorem follows (orphaned : Orphaned cluster masterId) {node : ClusterNode} {target : String} (found : cluster.nodes.get target = some node)
    (alive : node.fail = false) (other : target ≠ cluster.myId) :
    (cluster.followNewMaster target).1.myId = cluster.myId ∧ Attached (cluster.followNewMaster target).1 target ∧
      ∀ node, (cluster.followNewMaster target).1.nodes.get target = some node → node.fail = false := by
  obtain ⟨member, named⟩ := get_eq_some.mp found
  have different : target ≠ masterId := named ▸ orphaned.live_ne member alive
  obtain ⟨me, mine, -⟩ := orphaned.me
  exact followNewMaster_attached mine other (by rw [containsKey, found]; rfl) (orphaned.attached.isReplicaOf_other different)

/-- The retry turns to whatever live master has slots; without one, to the winner of the election. -/
theorem retries (orphaned : Orphaned cluster masterId) (offset : Option Nat) :
    ∃ target, Attached (cluster.tryFollowFailedMasters offset).1.toClusterState target ∧
      match cluster.otherMasterWithSlots with
      | some rival => target = rival
      | none => target = masterId ∨ Sibling cluster.toClusterState masterId target := by
  have state := refreshed_state cluster offset
  unfold tryFollowFailedMasters
  rw [failedMasters_orphaned orphaned]
  simp only [state]
  cases scan : cluster.otherMasterWithSlots with
  | some rival =>
    obtain ⟨node, member, rfl, alive, -, other⟩ := otherMaster_live scan
    obtain ⟨-, attached, -⟩ := orphaned.follows (get_eq_some.mpr ⟨member, rfl⟩) alive other
    have different : cluster.isReplicaOf node.id = false := orphaned.attached.isReplicaOf_other (orphaned.live_ne member alive)
    refine ⟨node.id, ?_, rfl⟩
    simp only [different, Bool.not_false, follow, state]
    exact attached
  | none =>
    simp only [foldl_cons, foldl_nil, followWinner]
    have stays : Attached (cluster.refreshed offset).toClusterState masterId := state ▸ orphaned.attached
    split
    next => exact ⟨masterId, stays, .inl rfl⟩
    next winner elected =>
      split
      next away =>
        obtain ⟨node, found, alive, replica, master⟩ := (orphaned.refreshed offset).winner elected
        rw [state] at found away
        obtain ⟨-, attached, -⟩ := orphaned.follows found alive away.1
        refine ⟨winner, ?_, .inr ⟨node, found, replica, master⟩⟩
        simp only [follow, state]
        exact attached
      next => exact ⟨masterId, stays, .inl rfl⟩

end Orphaned

private theorem demote_attached (attached : Attached cluster.toClusterState masterId) :
    (cluster.demoteIfSuperseded persistent).1.toClusterState = cluster.toClusterState := by
  obtain ⟨me, found, replica, -⟩ := attached
  have here : cluster.getNode cluster.myId = some me := found
  simp [demoteIfSuperseded, tryDemoteIfSuperseded, here, replica]

/-- A master with more slots than this process would have after the claim, or as many and a greater id. -/
def Supersedes (state : ClusterState) (masterId rival : String) : Prop :=
  slotsOf state state.myId + slotsOf state masterId < slotsOf state rival ∨
    slotsOf state rival = slotsOf state state.myId + slotsOf state masterId ∧ state.myId < rival

instance (state : ClusterState) (masterId rival : String) : Decidable (Supersedes state masterId rival) := inferInstanceAs (Decidable (_ ∨ _))

private theorem failoverSteps_eq : (cluster.failoverSteps alarms offset).1 =
      (((alarms.foldl answer cluster).tryFollowFailedMasters offset).1.demoteIfSuperseded offset.isSome).1 := by
  rw [← raiseAlarms_eq (cluster, [])]
  rfl

/-- What the tick leaves behind: the claim, unless a master supersedes it; the replica of the
winner that was elected; or whatever the retry turns to. -/
inductive Outcome (cluster : Cluster) (masterId : String) (alarm : Option Alarm) (after : ClusterState) : Prop where
  | claimed (first : Alarm) (raised : alarm = some first) (won : (cluster.refreshed first.offset).shouldClaimOnFailover masterId = true)
      (kept : ∀ rival, cluster.otherMasterWithSlots = some rival → ¬ Supersedes cluster.toClusterState masterId rival)
      (claimed : Claimed cluster.toClusterState masterId after)
  | superseded (first : Alarm) (raised : alarm = some first) (won : (cluster.refreshed first.offset).shouldClaimOnFailover masterId = true)
      (rival : String) (scan : cluster.otherMasterWithSlots = some rival) (supersedes : Supersedes cluster.toClusterState masterId rival)
      (attached : Attached after rival)
  | followed (first : Alarm) (raised : alarm = some first) (lost : (cluster.refreshed first.offset).shouldClaimOnFailover masterId = false)
      (winner : String) (elected : (cluster.refreshed first.offset).failoverElectionWinner masterId = some winner)
      (attached : Attached after winner)
  | retried (silent : ∀ first, alarm = some first → (cluster.refreshed first.offset).failoverElectionWinner masterId = none)
      (target : String) (attached : Attached after target)
      (chosen : match cluster.otherMasterWithSlots with
        | some rival => target = rival
        | none => target = masterId ∨ Sibling cluster.toClusterState masterId target)

theorem Attached.not_leads (attached : Attached state masterId) : ¬ Leads state :=
  fun leads => absurd (isReplicaOf_iff.mpr attached) (by simp [leads.isReplicaOf masterId])

section
variable (orphaned : Orphaned cluster masterId)
include orphaned

private theorem demote_claimed {after : Cluster} (claimed : Claimed cluster.toClusterState masterId after.toClusterState) :
    (∃ rival, cluster.otherMasterWithSlots = some rival ∧ Supersedes cluster.toClusterState masterId rival ∧
        Attached (after.demoteIfSuperseded persistent).1.toClusterState rival) ∨
      (∀ rival, cluster.otherMasterWithSlots = some rival → ¬ Supersedes cluster.toClusterState masterId rival) ∧
        (after.demoteIfSuperseded persistent).1.toClusterState = after.toClusterState := by
  obtain ⟨me, found, master, alive⟩ := claimed.me orphaned
  have here : after.getNode after.myId = some me := found
  simp only [demoteIfSuperseded, tryDemoteIfSuperseded, here, master, alive, Bool.not_true, Bool.or_self, Bool.false_eq_true, if_false,
    countP_ownsSlot, countP_ownerIdOf, claimed.otherMaster orphaned]
  cases scan : cluster.otherMasterWithSlots with
  | none => exact .inr ⟨fun rival impossible => (by cases impossible), rfl⟩
  | some rival =>
    obtain ⟨node, member, rfl, nodeAlive, -, other⟩ := otherMaster_live scan
    simp only [claimed.slotsOf_me orphaned, claimed.slotsOf_other other (orphaned.live_ne member nodeAlive)]
    have known : after.nodes.containsKey node.id := by
      rw [claimed.nodes, containsKey_modify, containsKey, get_eq_some.mpr ⟨member, rfl⟩]
      rfl
    split
    next kept =>
      refine .inr ⟨fun rival same => ?_, rfl⟩
      cases same
      simp only [Bool.not_eq_true', Bool.or_eq_false_iff, Bool.and_eq_false_iff, decide_eq_false_iff_not, beq_eq_false_iff_ne, claimed.id] at kept
      intro superseded
      rcases superseded with more | ⟨equal, greater⟩
      · exact kept.1.1 more
      · exact kept.1.2.elim (fun different => different equal) fun less => less greater
    next demoted =>
      have followed := followNewMaster_attached found (claimed.id ▸ other) known ((claimed.leads orphaned).isReplicaOf _)
      refine .inl ⟨node.id, rfl, ?_, followed.2.1⟩
      simp only [Bool.not_eq_true', Bool.not_eq_false, Bool.or_eq_true, Bool.and_eq_true, decide_eq_true_eq, beq_iff_eq, claimed.id] at demoted
      rcases demoted with (more | both) | ⟨empty, some⟩
      · exact .inl more
      · exact .inr both
      · exact .inl (empty ▸ some)

private theorem retried_outcome {quiet : Cluster}
    (offset : Option Nat) (answered : alarms.foldl answer cluster = quiet) (same : quiet.toClusterState = cluster.toClusterState)
    (silent : ∀ first, alarmFor alarms masterId = some first → (cluster.refreshed first.offset).failoverElectionWinner masterId = none) :
    Outcome cluster masterId (alarmFor alarms masterId) (cluster.failoverSteps alarms offset).1.toClusterState := by
  have still : Orphaned quiet masterId := by
    refine ⟨same ▸ orphaned.labelled, same ▸ orphaned.replica, ?_⟩
    rw [nodeIsFail, same]
    exact orphaned.failed
  obtain ⟨target, attached, chosen⟩ := still.retries offset
  rw [same] at chosen
  rw [failoverSteps_eq, answered]
  exact .retried silent target (demote_attached attached ▸ attached) chosen

theorem failoverSteps_outcome (flagged : ∀ alarm ∈ alarms, cluster.nodeIsFail alarm.failedId) (offset : Option Nat) :
    Outcome cluster masterId (alarmFor alarms masterId) (cluster.failoverSteps alarms offset).1.toClusterState := by
  cases raised : alarmFor alarms masterId with
  | none =>
    have others (alarm : Alarm) (member : alarm ∈ alarms) : cluster.isReplicaOf alarm.failedId = false := by
      refine orphaned.attached.isReplicaOf_other ?_
      simpa using find?_eq_none.mp raised alarm member
    have outcome := retried_outcome orphaned offset (answers_detached others) rfl (by rw [raised]; intro first impossible; cases impossible)
    rwa [raised] at outcome
  | some first =>
    obtain ⟨named, before, later, rfl, earlier⟩ := find?_eq_some_iff_append.mp raised
    have mine : first.failedId = masterId := by simpa using named
    subst mine
    have others (alarm : Alarm) (member : alarm ∈ before) : cluster.isReplicaOf alarm.failedId = false := by
      refine orphaned.attached.isReplicaOf_other ?_
      simpa using earlier alarm member
    have answered : (before ++ first :: later).foldl answer cluster = later.foldl answer (answer cluster first) := by
      rw [foldl_append, answers_detached others, foldl_cons]
    cases won : (cluster.refreshed first.offset).shouldClaimOnFailover first.failedId with
    | true =>
      have claimed := answer_claims orphaned won
      have master := claimed.leads orphaned
      have settled : later.foldl answer (answer cluster first) = answer cluster first :=
        answers_detached fun alarm _ => master.isReplicaOf alarm.failedId
      rw [failoverSteps_eq, answered, settled, tryFollow_idle fun node _ _ => master.isReplicaOf node.id]
      rcases demote_claimed orphaned claimed with ⟨rival, scan, supersedes, attached⟩ | ⟨kept, same⟩
      · exact .superseded first rfl won rival scan supersedes attached
      · exact .claimed first rfl won kept (same ▸ claimed)
    | false =>
      cases elected : (cluster.refreshed first.offset).failoverElectionWinner first.failedId with
      | none =>
        have quiet := answer_none orphaned.replica elected
        have same : (later.foldl answer (answer cluster first)).toClusterState = cluster.toClusterState := by
          rw [quiet]
          exact (answers_none later (orphaned.refreshed first.offset) elected).trans (refreshed_state cluster first.offset)
        have outcome := retried_outcome orphaned offset answered same (by rw [raised]; intro other equal; cases equal; exact elected)
        rwa [raised] at outcome
      | some winner =>
        obtain ⟨node, found, alive, -⟩ := (orphaned.refreshed first.offset).winner elected
        rw [refreshed_state] at found
        have away : winner ≠ cluster.myId := by
          intro same
          rw [shouldClaimOnFailover, elected, refreshed_state, same] at won
          simp at won
        obtain ⟨-, attached, live⟩ := orphaned.follows found alive away
        rw [← answer_follows orphaned.replica won elected] at attached live
        have settled : later.foldl answer (answer cluster first) = answer cluster first := by
          refine answers_detached fun alarm member => attached.isReplicaOf_other fun same => ?_
          -- an alarm is for a node that is flagged, and the winner is not
          have failed := flagged alarm (mem_append_right _ (mem_cons_of_mem _ member))
          rw [nodeIsFail, same, found] at failed
          rw [Option.any_some, alive] at failed
          cases failed
        have idle (node : ClusterNode) (member : node ∈ (answer cluster first).nodes.entries) (failed : node.fail) :
            (answer cluster first).isReplicaOf node.id = false := by
          refine attached.isReplicaOf_other fun same => ?_
          have clear := live node (get_eq_some.mpr ⟨member, same⟩)
          rw [failed] at clear
          cases clear
        rw [failoverSteps_eq, answered, settled, tryFollow_idle idle]
        exact .followed first rfl won winner elected (demote_attached attached ▸ attached)

private theorem rival_ne {rival : String} (scan : cluster.otherMasterWithSlots = some rival) : rival ≠ masterId := by
  obtain ⟨node, member, rfl, alive, -⟩ := otherMaster_live scan
  exact orphaned.live_ne member alive

end

/-- A node that replicates the failed master, or has taken over one of its slots. -/
def Heir (state : ClusterState) (masterId : String) (owned : Nat → Prop) (id : String) : Prop :=
  Sibling state masterId id ∨ ∃ slot, owned slot ∧ state.ownerIdOf slot = some id

/-- The winner of the election takes every slot of the failed master over; any other replica stays, or follows an heir. -/
structure FailsOver (before : Cluster) (masterId : String) (owned : Nat → Prop) (after : ClusterState) : Prop where
  winner : before.shouldClaimOnFailover masterId = true →
    Leads after ∧ ∀ slot, before.ownerIdOf slot = some masterId → after.ownerIdOf slot = some before.myId
  loser : before.shouldClaimOnFailover masterId = false →
    ∀ id, after.isReplicaOf id = true → id = masterId ∨ Heir before.toClusterState masterId owned id

/-- The winner hears of the failure in this very tick, it still wins with the offset it then
enters, and no other master supersedes it; for any other replica the master the retry would pick is an heir, or the
election of this tick settles the matter first. -/
structure Timely (cluster : Cluster) (masterId : String) (owned : Nat → Prop) (alarm : Option Alarm) : Prop where
  winner : cluster.shouldClaimOnFailover masterId = true →
    ∃ first, alarm = some first ∧ (cluster.refreshed first.offset).shouldClaimOnFailover masterId = true ∧
      ∀ rival, cluster.otherMasterWithSlots = some rival → ¬ Supersedes cluster.toClusterState masterId rival
  loser : cluster.shouldClaimOnFailover masterId = false →
    ∀ rival, cluster.otherMasterWithSlots = some rival → Heir cluster.toClusterState masterId owned rival ∨
      ∃ first, alarm = some first ∧
        if (cluster.refreshed first.offset).shouldClaimOnFailover masterId = true then ¬ Supersedes cluster.toClusterState masterId rival
        else ((cluster.refreshed first.offset).failoverElectionWinner masterId).isSome = true

private theorem failsOver_iff {cluster : Cluster} {masterId : String} {alarms : List Alarm} (orphaned : Orphaned cluster masterId)
    (flagged : ∀ alarm ∈ alarms, cluster.nodeIsFail alarm.failedId = true) (offset : Option Nat) (owned : Nat → Prop) :
    FailsOver cluster masterId owned (cluster.failoverSteps alarms offset).1.toClusterState ↔
      Timely cluster masterId owned (alarmFor alarms masterId) := by
  cases failoverSteps_outcome orphaned flagged offset with
  | claimed first raised won kept claimed =>
    have leads := claimed.leads orphaned
    constructor
    · intro _
      refine ⟨fun _ => ⟨first, raised, won, kept⟩, fun _ rival scan => .inr ⟨first, raised, ?_⟩⟩
      rw [if_pos won]
      exact kept rival scan
    · intro _
      refine ⟨fun _ => ⟨leads, fun slot owner => claimed.owner owner⟩, fun _ id attached => ?_⟩
      rw [leads.isReplicaOf] at attached
      cases attached
  | superseded first raised won rival scan supersedes attached =>
    constructor
    · intro fine
      refine ⟨fun mine => absurd (fine.winner mine).1 attached.not_leads, fun lost other found => ?_⟩
      rw [scan] at found
      cases found
      exact .inl ((fine.loser lost rival (isReplicaOf_iff.mpr attached)).resolve_left (rival_ne orphaned scan))
    · intro timely
      refine ⟨fun mine => ?_, fun lost id followed => ?_⟩
      · obtain ⟨_, _, _, kept⟩ := timely.winner mine
        exact absurd supersedes (kept rival scan)
      · cases (isReplicaOf_iff.mp followed).unique attached
        rcases timely.loser lost rival scan with heir | ⟨other, same, settled⟩
        · exact .inr heir
        · rw [raised] at same
          cases same
          rw [if_pos won] at settled
          exact absurd supersedes settled
  | followed first raised lost winner elected attached =>
    constructor
    · intro fine
      refine ⟨fun mine => absurd (fine.winner mine).1 attached.not_leads, fun _ rival _ => .inr ⟨first, raised, ?_⟩⟩
      rw [if_neg (by simp [lost]), elected]
      rfl
    · intro timely
      refine ⟨fun mine => ?_, fun _ id followed => ?_⟩
      · obtain ⟨other, same, won, -⟩ := timely.winner mine
        rw [raised] at same
        cases same
        rw [lost] at won
        cases won
      · cases (isReplicaOf_iff.mp followed).unique attached
        obtain ⟨node, found, -, sibling⟩ := (orphaned.refreshed first.offset).winner elected
        rw [refreshed_state] at found
        exact .inr (.inl ⟨node, found, sibling⟩)
  | retried silent target attached chosen =>
    have unheard {first : Alarm} (raised : alarmFor alarms masterId = some first) :
        (cluster.refreshed first.offset).shouldClaimOnFailover masterId = false := by
      rw [shouldClaimOnFailover, silent first raised]
      rfl
    constructor
    · intro fine
      refine ⟨fun mine => absurd (fine.winner mine).1 attached.not_leads, fun lost rival scan => ?_⟩
      rw [scan] at chosen
      subst chosen
      exact .inl ((fine.loser lost target (isReplicaOf_iff.mpr attached)).resolve_left (rival_ne orphaned scan))
    · intro timely
      refine ⟨fun mine => ?_, fun lost id followed => ?_⟩
      · obtain ⟨first, raised, won, -⟩ := timely.winner mine
        rw [unheard raised] at won
        cases won
      · cases (isReplicaOf_iff.mp followed).unique attached
        cases scan : cluster.otherMasterWithSlots with
        | none =>
          rw [scan] at chosen
          exact chosen.imp_right .inl
        | some rival =>
          rw [scan] at chosen
          subst chosen
          rcases timely.loser lost target scan with heir | ⟨first, raised, settled⟩
          · exact .inr heir
          · rw [if_neg (by simp [unheard raised]), silent first raised] at settled
            cases settled

/-! The alarms of a tick. -/

/-- Whatever the escalation has flagged by now has its flag. -/
private theorem escalateCandidate_flags {quorum : Nat} {progress : Cluster × List String} (candidate : String)
    (flagged : ∀ id ∈ progress.2, progress.1.nodeIsFail id = true) :
    ∀ id ∈ (escalateCandidate quorum progress candidate).2, (escalateCandidate quorum progress candidate).1.nodeIsFail id = true := by
  unfold escalateCandidate
  dsimp only
  split
  next => exact flagged
  next node found =>
    split
    next =>
      intro id member
      simp only [nodeIsFail, get_modify]
      rcases mem_append.mp member with old | new
      · have already := flagged id old
        rw [nodeIsFail] at already
        cases known : progress.1.nodes.get id with
        | none =>
          rw [known] at already
          cases already
        | some other =>
          rw [known] at already
          by_cases same : other.id = candidate
          · simp [same]
          · simpa [same] using already
      · rw [mem_singleton.mp new, found]
        simp [(get_eq_some.mp found).2]
    next => exact flagged

private theorem escalateFails_flags (order : List String) :
    ∀ id ∈ (cluster.escalateFails order).2, (cluster.escalateFails order).1.nodeIsFail id = true := by
  have kept (candidates : List String) : ∀ progress : Cluster × List String, (∀ id ∈ progress.2, progress.1.nodeIsFail id = true) →
      ∀ id ∈ (candidates.foldl (escalateCandidate cluster.failQuorumSize) progress).2,
        (candidates.foldl (escalateCandidate cluster.failQuorumSize) progress).1.nodeIsFail id = true := by
    induction candidates with
    | nil => exact fun _ flagged => flagged
    | cons candidate candidates ih => exact fun _ flagged => ih _ (escalateCandidate_flags candidate flagged)
  exact kept _ _ (forall_mem_nil _)

private theorem alarmFor_map (readings : String → Option Nat × Save) (newly : List String) :
    alarmFor (newly.map fun id => ⟨id, (readings id).1, (readings id).2⟩) masterId =
      if masterId ∈ newly then some ⟨masterId, (readings masterId).1, (readings masterId).2⟩ else none := by
  induction newly with
  | nil => rfl
  | cons id newly ih =>
    by_cases same : id = masterId
    · simp [alarmFor, same]
    · have other : ¬ masterId = id := fun equal => same equal.symm
      simp only [alarmFor, map_cons, find?_cons, beq_eq_false_iff_ne.mpr same, mem_cons, other, false_or] at ih ⊢
      exact ih

/-- A replica of a failed master comes out of the tick as it should just when the tick is timely for it. In a whole
tick the alarm is raised for just the nodes that its own escalation has flagged. -/
theorem fails_over_iff_timely {cluster : Cluster} {masterId : String} (labelled : Labelled cluster.toClusterState)
    (replica : cluster.isReplicaOf masterId = true) (failed : cluster.nodeIsFail masterId = true) (offset : Option Nat) (owned : Nat → Prop) :
    (∀ alarms, (∀ alarm ∈ alarms, cluster.nodeIsFail alarm.failedId = true) →
      (FailsOver cluster masterId owned (cluster.failoverSteps alarms offset).1.toClusterState ↔
        Timely cluster masterId owned (alarmFor alarms masterId))) ∧
    ∀ (before : Cluster) (outcome : String → Probe) (order newly : List String) (readings : String → Option Nat × Save),
      (before.probePeers outcome).1.escalateFails order = (cluster, newly) →
        (FailsOver cluster masterId owned (before.gossipTick outcome order readings offset).1.toClusterState ↔
          Timely cluster masterId owned
            (if masterId ∈ newly then some ⟨masterId, (readings masterId).1, (readings masterId).2⟩ else none)) := by
  have orphaned : Orphaned cluster masterId := ⟨labelled, replica, failed⟩
  refine ⟨fun alarms flagged => failsOver_iff orphaned flagged offset owned, fun before outcome order newly readings escalated => ?_⟩
  have flags := @escalateFails_flags (before.probePeers outcome).1 order
  rw [escalated] at flags
  have tick : (before.gossipTick outcome order readings offset).1 =
      (cluster.failoverSteps (newly.map fun id => ⟨id, (readings id).1, (readings id).2⟩) offset).1 := by
    simp only [gossipTick, escalated]
  rw [tick, failsOver_iff orphaned ?_ offset owned, alarmFor_map]
  intro alarm member
  obtain ⟨id, listed, rfl⟩ := mem_map.mp member
  exact flags id listed

/-- A replica "r" of "m", which has three slots, and the master "x" of another shard, which has two. -/
def twoShards : NodesConf where
  headerEpoch := none
  slotEpochs := []
  prepares := []
  announceIp := none
  announcePort := none
  replicaPriority := none
  lines := [⟨"r", "10.0.0.1", 7000, ["myself", "slave"], some "m", ⟨1, by unfold u64Max; omega⟩, []⟩,
    ⟨"m", "10.0.0.2", 7000, ["master"], none, ⟨1, by unfold u64Max; omega⟩, [(0, 2)]⟩,
    ⟨"x", "10.0.0.3", 7000, ["master"], none, ⟨1, by unfold u64Max; omega⟩, [(3, 4)]⟩]

/-- The only candidate takes over when its own tick flags the master, which the other master has reported. -/
theorem flagged_master_failed_over :
    ∃ start, (Boot.nodesConf "10.0.0.1" 7000 0 twoShards).start = .ok start ∧
      let before := start.perform (.ingestFailReports "x" ["m"])
      before.nodeIsFail "m" = false ∧ (before.escalateFails []).1.shouldClaimOnFailover "m" = true ∧
        FailsOver (before.escalateFails []).1 "m" (· < 3)
          (before.gossipTick (fun _ => .silent) [] (fun _ => (some 7, ⟨0, false⟩)) (some 7)).1.toClusterState := by
  obtain ⟨start, started⟩ : ∃ start, (Boot.nodesConf "10.0.0.1" 7000 0 twoShards).start = .ok start := ⟨_, rfl⟩
  have labelled := ClusterReachability.reached_labelled started [.ingestFailReports "x" ["m"], .escalateFails []]
  cases started
  refine ⟨_, rfl, by decide +kernel, by decide +kernel, ?_⟩
  apply ((fails_over_iff_timely labelled (by decide +kernel) (by decide +kernel) (some 7) (· < 3)).2 _ (fun _ => .silent) []
    ["m"] (fun _ => (some 7, ⟨0, false⟩)) ?_).mpr
  · rw [if_pos mem_cons_self]
    refine ⟨fun _ => ⟨⟨"m", some 7, ⟨0, false⟩⟩, rfl, by decide +kernel, fun rival scan => ?_⟩, fun lost => ?_⟩
    · have scanned : rival = "x" := Option.some_inj.mp (scan.symm.trans (by decide +kernel))
      rw [scanned]
      decide +kernel
    · exact absurd lost (by decide +kernel)
  · rfl

/-- The same replica when a bus message has flagged the master: it joins the other shard, and the slots stay with the failed node. -/
theorem announced_failure_unclaimed :
    ∃ start, (Boot.nodesConf "10.0.0.1" 7000 0 twoShards).start = .ok start ∧
      let cluster := start.perform (.markFail "m")
      let after := (cluster.gossipTick (fun _ => .silent) [] (fun _ => (some 7, ⟨0, false⟩)) (some 7)).1
      cluster.isReplicaOf "m" = true ∧ cluster.nodeIsFail "m" = true ∧ cluster.shouldClaimOnFailover "m" = true ∧
        after.isReplicaOf "x" = true ∧ after.ownerIdOf 0 = some "m" :=
  ⟨_, rfl, by decide +kernel⟩

end Kore.Proofs.ClusterFailover
