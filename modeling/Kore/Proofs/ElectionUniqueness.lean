import Kore.Proofs.ClusterFailover

/-! Who claims the slots of a failed master. Processes that see the same roles, failures,
priorities and offsets rank its replicas alike, and no process ever sees itself as failed. -/

namespace Kore.Proofs.ElectionUniqueness
open Foundation Cluster ClusterState ClusterInvariant ClusterReachability ClusterFailover NodeTable

variable {cluster first second : Cluster} {masterId id : String}

theorem claimant_best (labelled : Labelled cluster.toClusterState) (claims : cluster.shouldClaimOnFailover masterId) :
    Best cluster masterId cluster.myId := by
  have elected : cluster.failoverElectionWinner masterId = some cluster.myId := beq_iff_eq.mp claims
  have attached : cluster.isReplicaOf masterId := by
    by_contra detached
    rw [Cluster.failoverElectionWinner, if_pos (by simpa using detached)] at elected
    cases elected
  obtain ⟨me, found, replica, master⟩ := isReplicaOf_iff.mp attached
  obtain ⟨member, same⟩ := get_eq_some.mp found
  exact winner_best (mem_replicasOf.mpr ⟨me, member, ⟨(labelled me member).2 same, replica, master⟩, same⟩) elected

def role (cluster : Cluster) (id : String) : Option (Bool × Option String × Bool) :=
  (cluster.nodes.get id).map fun node => (node.master, node.masterId, node.fail)

/-- Two processes see the same roles and failures, and enter the same priorities and offsets into an election. -/
structure SameView (first second : Cluster) : Prop where
  roles : ∀ id, role first id = role second id
  keys : ∀ id, first.nodes.containsKey id = true → first.priorityAndOffset id = second.priorityAndOffset id

theorem SameView.of_entries (listed : ∀ node ∈ first.nodes.entries ++ second.nodes.entries,
    role first node.id = role second node.id ∧ first.priorityAndOffset node.id = second.priorityAndOffset node.id) :
    SameView first second := by
  constructor
  · intro id
    cases here : first.nodes.get id with
    | some node =>
      obtain ⟨member, rfl⟩ := get_eq_some.mp here
      exact (listed node (List.mem_append_left _ member)).1
    | none =>
      cases there : second.nodes.get id with
      | some node =>
        obtain ⟨member, rfl⟩ := get_eq_some.mp there
        exact (listed node (List.mem_append_right _ member)).1
      | none => rw [role, role, here, there]
  · intro id known
    obtain ⟨node, member, rfl⟩ := containsKey_iff.mp known
    exact (listed node (List.mem_append_left _ member)).2

theorem SameView.eligible (same : SameView first second) (eligible : Eligible first masterId id) :
    Eligible second masterId id ∧ rank second id = rank first id := by
  obtain ⟨⟨node, found, alive, replica, master⟩, promotable⟩ := eligible
  have role := same.roles id
  rw [ElectionUniqueness.role, found, Option.map_some] at role
  obtain ⟨other, present, equal⟩ := Option.map_eq_some_iff.mp role.symm
  simp only [Prod.mk.injEq] at equal
  have key := same.keys id (by rw [containsKey, found]; rfl)
  refine ⟨⟨⟨other, present, equal.2.2.trans alive, equal.1.trans replica, equal.2.1.trans master⟩, key ▸ promotable⟩, ?_⟩
  rw [rank, rank, key]

theorem best_unique {other : String} (same : SameView first second) (back : SameView second first) (best : Best first masterId id)
    (also : Best second masterId other) : id = other := by
  obtain ⟨here, ranked⟩ := same.eligible best.eligible
  obtain ⟨there, counted⟩ := back.eligible also.eligible
  have below := best.greatest other there
  have above := also.greatest id here
  rw [Bool.eq_false_iff, Ne, ranksBelow_iff, not_lt] at below above
  rw [ranked, ← counted] at above
  have equal : rank first other = rank first id := le_antisymm below above
  exact (congrArg (fun key => (ofLex (ofLex key).2).2) equal).symm

/-- A state that a process reaches, whatever its sections and their interleaving. -/
def Running (cluster : Cluster) : Prop :=
  ∃ (boot : Boot) (start : Cluster) (parts : List Section), boot.start = .ok start ∧ cluster = run Cluster.enter start parts

/-- Of running processes with the same view at most one claims the slots of a failed master: the replica that has not
failed, may be promoted and has the greatest priority, offset and id. -/
theorem claim_unique {nodes : Set Cluster} (running : ∀ cluster ∈ nodes, Running cluster)
    (alike : ∀ first ∈ nodes, ∀ second ∈ nodes, SameView first second) (masterId : String) :
    (∀ first ∈ nodes, ∀ second ∈ nodes, first.shouldClaimOnFailover masterId = true →
      second.shouldClaimOnFailover masterId = true → first.myId = second.myId) ∧
    ∀ cluster ∈ nodes, cluster.shouldClaimOnFailover masterId = true → Best cluster masterId cluster.myId := by
  have best : ∀ cluster ∈ nodes, cluster.shouldClaimOnFailover masterId = true → Best cluster masterId cluster.myId := by
    intro cluster member claims
    obtain ⟨boot, start, parts, started, rfl⟩ := running cluster member
    obtain ⟨sound, labelled, -⟩ := boot_start started
    exact claimant_best ((sections_upheld sound parts).labels labelled) claims
  refine ⟨fun first member second other claims also => ?_, best⟩
  exact best_unique (alike first member second other) (alike second other first member) (best first member claims) (best second other also)

/-- The file of one of two replicas of a master that has failed. -/
def replicaFile (me : String) : NodesConf where
  headerEpoch := none
  slotEpochs := []
  prepares := []
  announceIp := none
  announcePort := none
  replicaPriority := none
  lines := [⟨"m", "10.0.0.1", 7000, ["master", "fail"], none, ⟨1, show 0 < u64Max by decide⟩, [(0, 9)]⟩] ++
    ["a", "b"].map fun id => ⟨id, "10.0.0.2", 7000, "slave" :: if id = me then ["myself"] else [], some "m", ⟨1, show 0 < u64Max by decide⟩, []⟩

def replica (me : String) : Cluster :=
  match (Boot.nodesConf "10.0.0.2" 7000 0 (replicaFile me)).start with
  | .ok cluster => cluster
  | .error _ => Cluster.singleNode "10.0.0.2" 7000 me

/-- Both replicas see the same, and the second one claims. -/
theorem second_replica_claims : (replica "b").shouldClaimOnFailover "m" = true ∧ Best (replica "b") "m" (replica "b").myId ∧
    ((replica "a").shouldClaimOnFailover "m" = true → (replica "a").myId = (replica "b").myId) := by
  have claims : (replica "b").shouldClaimOnFailover "m" = true := by decide +kernel
  have started (me : String) (readable : (Boot.nodesConf "10.0.0.2" 7000 0 (replicaFile me)).start.isOk = true) : Running (replica me) := by
    refine ⟨.nodesConf "10.0.0.2" 7000 0 (replicaFile me), replica me, [], ?_, rfl⟩
    unfold replica
    split
    next same => exact same
    next unreadable =>
      rw [unreadable] at readable
      cases readable
  have running : ∀ cluster ∈ ({replica "a", replica "b"} : Set Cluster), Running cluster := by
    rintro cluster (rfl | rfl)
    · exact started "a" (by decide +kernel)
    · exact started "b" (by decide +kernel)
  have alike : ∀ first ∈ ({replica "a", replica "b"} : Set Cluster), ∀ second ∈ ({replica "a", replica "b"} : Set Cluster),
      SameView first second := by
    rintro first (rfl | rfl) second (rfl | rfl)
    all_goals exact .of_entries (by decide +kernel)
  obtain ⟨unique, best⟩ := claim_unique running alike "m"
  refine ⟨claims, best _ (.inr rfl) claims, fun also => unique _ (.inl rfl) _ (.inr rfl) also claims⟩

end Kore.Proofs.ElectionUniqueness
