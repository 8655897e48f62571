import Kore.Proofs.ClusterInvariant

/-! The invariant of the topology from the start of a process on. Owners, epochs and
transitions fit together in every state reached; the two failure flags exclude each other
just when the file that the process starts from does not set both. -/

namespace Kore.Proofs.ClusterReachability
open Foundation Cluster Cluster ClusterState ClusterInvariant OwnershipRanges List NodeTable Option

variable {cluster : Cluster} {owner : String} {slot epoch : Nat} {state : ClusterState}

/-! Operations are runs of sections. -/

def Reaches (cluster after : Cluster) : Prop := ∃ parts, after = run enter cluster parts

namespace Reaches

theorem refl (cluster : Cluster) : Reaches cluster cluster := ⟨[], rfl⟩

theorem one (cluster : Cluster) (part : Section) : Reaches cluster (cluster.enter part) := ⟨[part], rfl⟩

theorem trans {first second third : Cluster} (early : Reaches first second) (late : Reaches second third) : Reaches first third := by
  obtain ⟨parts, rfl⟩ := early
  obtain ⟨more, rfl⟩ := late
  exact ⟨parts ++ more, by rw [run, run, run, foldl_append]⟩

theorem upheld {after : Cluster} (reaches : Reaches cluster after) (sound : Sound cluster.toClusterState) :
    Upheld cluster.toClusterState after.toClusterState := by
  obtain ⟨parts, rfl⟩ := reaches
  exact sections_upheld sound parts

end Reaches

section
variable (cluster)

private theorem saveNodesConf_reaches (save : Save) : Reaches cluster (cluster.saveNodesConf save) := by
  unfold saveNodesConf
  split
  · exact .one cluster (.purgeExpiredPrepares save.now)
  · exact .refl cluster

private theorem autosaveNodesConf_reaches (save : Save) : Reaches cluster (cluster.autosaveNodesConf save) := by
  unfold autosaveNodesConf
  split
  · exact saveNodesConf_reaches cluster save
  · exact .refl cluster

private theorem takeHook_reaches (hook : Hook) : Reaches cluster (cluster.takeHook hook) :=
  .one cluster (.hook hook _)

private theorem clearedByHook_reaches (slot : Nat) : Reaches cluster (cluster.clearedByHook slot) := by
  unfold clearedByHook
  split
  · exact (takeHook_reaches cluster .commitRecheckClear).trans (.one _ (.removePrepare slot))
  · exact .refl cluster

private theorem setPrepareNode_reaches (now slot : Nat) (nodeId : String) (save : Save) :
    Reaches cluster (cluster.setPrepareNode now slot nodeId save).1 := by
  have recorded := Reaches.one cluster (.recordPrepare now slot nodeId)
  unfold setPrepareNode
  split
  · exact .refl cluster
  split
  · exact takeHook_reaches cluster .prepareFail
  rw [enter] at recorded
  split
  next same =>
    rw [same] at recorded
    exact recorded.trans (autosaveNodesConf_reaches _ save)
  next => exact recorded

private theorem abortPrepareNode_reaches (slot : Nat) (save : Save) :
    Reaches cluster (cluster.abortPrepareNode slot save).1 := by
  unfold abortPrepareNode
  split
  · exact .refl cluster
  · exact (Reaches.one cluster (.removePrepare slot)).trans (autosaveNodesConf_reaches _ save)

private theorem recheckVote_reaches (now slot : Nat) (nodeId : String) :
    Reaches cluster { cluster with toClusterState := (cluster.recheckVote now slot nodeId).1 } := by
  unfold recheckVote
  split
  · exact .refl cluster
  split
  · exact .refl cluster
  split
  · exact .one cluster (.removePrepare slot)
  · split
    · exact .refl cluster
    · exact .refl cluster

private theorem checkPrepareValid_reaches (now later slot : Nat) (nodeId : String) :
    Reaches cluster (cluster.checkPrepareValid now later slot nodeId).1 := by
  unfold checkPrepareValid
  split
  · exact .refl cluster
  · have purged := (clearedByHook_reaches cluster slot).trans (.one _ (.purgeExpiredPrepare now slot))
    exact purged.trans (recheckVote_reaches _ later slot nodeId)

private theorem commitPrepareNode_reaches (now later slot : Nat) (nodeId : String) (save : Save) :
    Reaches cluster (cluster.commitPrepareNode now later slot nodeId save).1 := by
  unfold commitPrepareNode
  split
  · exact .refl cluster
  split
  · exact takeHook_reaches cluster .sourceNodeFail
  have committed := (clearedByHook_reaches cluster slot).trans (.one _ (.commitVote now later slot nodeId))
  rw [enter] at committed
  dsimp only
  split
  next same =>
    rw [same] at committed
    exact committed.trans (autosaveNodesConf_reaches _ save)
  next same =>
    rw [same] at committed
    exact committed

private theorem setNode_reaches (slot : Nat) (nodeId : String) : Reaches cluster (cluster.setNode slot nodeId).1 := by
  unfold setNode
  split
  · exact takeHook_reaches cluster .sourceNodeFail
  · exact .one cluster (.reassignSlot slot nodeId)

private theorem mergeRoleMap_reaches (entries : List RoleMapEntry) : Reaches cluster (cluster.mergeRoleMap entries) := by
  induction entries generalizing cluster with
  | nil => exact .refl cluster
  | cons entry entries ih =>
    have first : Reaches cluster (cluster.mergeRole entry) := by
      unfold mergeRole
      split
      · exact .refl cluster
      · exact (Reaches.one cluster (.addNodeWithRole ..)).trans (.one _ (.setElection entry.id entry.election))
    exact first.trans (ih _)

private theorem manualFailover_reaches (mode : ManualFailoverMode) : Reaches cluster (cluster.manualFailover mode).1 := by
  unfold manualFailover
  split
  · exact .refl cluster
  next masterId _ =>
    have marked := Reaches.one cluster (.markFail masterId)
    split
    · split
      · exact .refl cluster
      · split
        · exact .refl cluster
        · exact .one cluster (.claimSlotsFrom masterId)
    · split
      · exact .refl cluster
      · exact marked.trans (.one _ (.claimSlotsFrom masterId))
    · exact marked.trans (.one _ (.claimSlotsFrom masterId))

private theorem reconfigure_reaches (winnerId : String) :
    Reaches cluster (cluster.settled (cluster.reconfigureAsReplicaOfFailoverWinner winnerId)).1 := by
  unfold reconfigureAsReplicaOfFailoverWinner
  split
  · exact .refl cluster
  split
  · exact .refl cluster
  split
  · exact .refl cluster
  cases done : (cluster.toClusterState.markWinner winnerId).configureAsReplicaOf winnerId with
  | error text => exact .refl cluster
  | ok state =>
    have marked := Reaches.one cluster (.markWinner winnerId)
    have demoted := marked.trans (.one _ (.configureAsReplicaOf winnerId))
    simp only [enter, done] at demoted
    exact demoted

private theorem noteUnreachable_reaches (id : String) (order : List String) :
    Reaches cluster (cluster.noteUnreachable id order).1 := by
  have noted := Reaches.one cluster (.notePfail id)
  unfold noteUnreachable
  rw [enter] at noted
  split
  · exact .refl cluster
  next after found =>
    rw [found] at noted
    exact noted.trans (.one after (.escalate after.failQuorumSize order))

private theorem addSlotRanges_reaches (ranges : List (Nat × Nat)) :
    Reaches cluster (cluster.settled (cluster.addSlotRanges ranges)).1 := by
  unfold addSlotRanges
  split
  · exact .refl cluster
  · exact .refl cluster
  next slots _ _ => exact .one cluster (.addSlots slots)

private theorem delSlotRanges_reaches (ranges : List (Nat × Nat)) :
    Reaches cluster (cluster.settled (cluster.delSlotRanges ranges)).1 := by
  unfold delSlotRanges
  split
  · exact .refl cluster
  · exact .refl cluster
  next slots _ _ => exact .one cluster (.delSlots slots)

private theorem reassignSlots_reaches (nodeId : String) (slots : List Nat) :
    Reaches cluster { cluster with toClusterState := (reassignSlots nodeId slots cluster.toClusterState).1 } := by
  induction slots generalizing cluster with
  | nil => exact .refl cluster
  | cons slot slots ih =>
    rw [reassignSlots]
    split
    · exact .refl cluster
    next state done =>
      have first := Reaches.one cluster (.reassignSlot slot nodeId)
      simp only [enter, done] at first
      exact first.trans (ih { cluster with toClusterState := state })

end

private theorem mergeRange_fst (progress : ClusterState × Tally) (range : OwnershipRange) :
    (mergeRange progress range).1 = (progress.1.applyOwnershipRange range).1 := by
  unfold mergeRange
  dsimp only
  split
  all_goals next same => rw [same]

theorem mergeOwnershipSnapshot_fst (state : ClusterState) (ranges : List OwnershipRange) :
    (state.mergeOwnershipSnapshot ranges).1 = ranges.foldl (fun state range => (state.applyOwnershipRange range).1) state := by
  unfold mergeOwnershipSnapshot
  generalize (⟨0, 0, 0⟩ : Tally) = tally
  induction ranges generalizing state tally with
  | nil => rfl
  | cons range ranges ih =>
    rw [foldl_cons, foldl_cons, ← mergeRange_fst (state, tally)]
    exact ih (mergeRange (state, tally) range).1 (mergeRange (state, tally) range).2

private theorem mergeOwnershipSnapshot_reaches (cluster : Cluster) (ranges : List ReceivedRange) :
    Reaches cluster { cluster with toClusterState := (cluster.mergeOwnershipSnapshot (ranges.map (·.1))).1 } := by
  rw [mergeOwnershipSnapshot_fst]
  induction ranges generalizing cluster with
  | nil => exact .refl cluster
  | cons range ranges ih => exact (Reaches.one cluster (.applyOwnershipRange range)).trans (ih _)

theorem perform_reaches (cluster : Cluster) (operation : Operation) : Reaches cluster (cluster.perform operation) := by
  cases operation with
  | setAnnounceIp ip => exact .one cluster (.setAnnounceIp ip)
  | setAnnouncePort port => exact .one cluster (.setAnnouncePort port)
  | setLocalReplOffset offset => exact .one cluster (.setLocalReplOffset offset)
  | setLocalReplPriority priority => exact .one cluster (.setLocalReplPriority priority)
  | resetClusterConfig => exact .one cluster .resetClusterConfig
  | touchPong id => exact .one cluster (.touchPong id)
  | ingestFailReports peer suspects => exact .one cluster (.ingestFailReports peer suspects)
  | saveNodesConfTo save => exact saveNodesConf_reaches cluster save
  | autosaveNodesConf save => exact autosaveNodesConf_reaches cluster save
  | addSlotRanges ranges => exact addSlotRanges_reaches cluster ranges
  | delSlotRanges ranges => exact delSlotRanges_reaches cluster ranges
  | mergeRoleMap entries => exact mergeRoleMap_reaches cluster entries
  | manualFailover mode => exact manualFailover_reaches cluster mode
  | reconfigureAsReplicaOfFailoverWinner winnerId => exact reconfigure_reaches cluster winnerId
  | noteUnreachable id order => exact noteUnreachable_reaches cluster id order
  | escalateFails order => exact .one cluster (.escalate cluster.failQuorumSize order)
  | reassignSlotRange first last nodeId =>
    simp only [perform, reassignSlotRange]
    split
    · exact .refl cluster
    · exact reassignSlots_reaches cluster nodeId _
  | setPrepareNode now slot nodeId save => exact setPrepareNode_reaches cluster now slot nodeId save
  | abortPrepareNode slot save => exact abortPrepareNode_reaches cluster slot save
  | checkPrepareValid now later slot nodeId => exact checkPrepareValid_reaches cluster now later slot nodeId
  | commitPrepareNode now later slot nodeId save => exact commitPrepareNode_reaches cluster now later slot nodeId save
  | setNode slot nodeId => exact setNode_reaches cluster slot nodeId
  | mergeOwnershipSnapshot ranges => exact mergeOwnershipSnapshot_reaches cluster ranges
  | _ =>
    rw [perform]
    exact .one cluster _

theorem operations_reach (cluster : Cluster) (operations : List Operation) : Reaches cluster (run perform cluster operations) := by
  induction operations generalizing cluster with
  | nil => exact .refl cluster
  | cons operation operations ih => exact (perform_reaches cluster operation).trans (ih _)

/-! Starting up. -/

theorem ownerAt_replicate (same : state.slotOwner = Vector.replicate slotCount owner) :
    state.ownerAt slot = "" ∨ state.ownerAt slot = owner := by
  rw [ownerAt, ownerIdOf, same, Vector.toList_replicate, getElem?_replicate]
  split
  · exact .inr rfl
  · exact .inl rfl

theorem slotEpoch_replicate (same : state.slotConfigEpoch = Vector.replicate slotCount epoch) : state.slotEpoch slot ≤ epoch := by
  rw [slotEpoch, same, Vector.toList_replicate, getElem?_replicate]
  split
  · exact le_rfl
  · exact Nat.zero_le _

theorem withIdentity_sound (ip : String) (port : Nat) (myId : String) (master : Bool) (masterId : Option String) (ownAllSlots : Bool)
    (positive : 1 ≤ epoch) (fits : epoch ≤ u64Max) :
    Sound { withIdentity ip port myId master masterId ownAllSlots with currentEpoch := epoch } := by
  have me : Known { withIdentity ip port myId master masterId ownAllSlots with currentEpoch := epoch } myId :=
    containsKey_iff.mpr ⟨_, mem_singleton_self _, rfl⟩
  refine ⟨me, fun slot => ?_, fun slot => le_trans (slotEpoch_replicate rfl) positive, fits,
    fun _ _ member => absurd member not_mem_nil, fun _ _ _ member => absurd member not_mem_nil⟩
  rcases @ownerAt_replicate _ slot { withIdentity ip port myId master masterId ownAllSlots with currentEpoch := epoch } rfl with unbound | owned
  · exact .inl unbound
  · rw [owned]
    cases ownAllSlots with
    | false => exact .inl rfl
    | true => exact .inr me

structure Loading (state : ClusterState) : Prop where
  sound : Sound state
  calm : state.migrating = []

theorem assignSlot_loading (loading : Loading state) (known : Known state owner)
    (bounded : epoch ≤ state.currentEpoch) : Loading (assignSlot owner epoch state slot) := by
  have sound := loading.sound
  refine ⟨⟨sound.me, fun other => ?_, fun other => ?_, sound.fits, fun other dest member => ?_, sound.apart⟩, loading.calm⟩
  · rw [ownerAt_assign]
    split
    · exact .inr known
    · exact sound.owners other
  · rw [slotEpoch_assign]
    split
    · exact bounded
    · exact sound.epochs other
  · change (other, dest) ∈ state.migrating at member
    rw [loading.calm] at member
    exact absurd member not_mem_nil

theorem assignSlots_loading (slots : List Nat) (loading : Loading state)
    (known : Known state owner) (bounded : epoch ≤ state.currentEpoch) :
    Loading (slots.foldl (assignSlot owner epoch) state) ∧ (slots.foldl (assignSlot owner epoch) state).currentEpoch = state.currentEpoch ∧
      (slots.foldl (assignSlot owner epoch) state).nodes = state.nodes ∧ (slots.foldl (assignSlot owner epoch) state).myId = state.myId := by
  induction slots generalizing state with
  | nil => exact ⟨loading, rfl, rfl, rfl⟩
  | cons slot slots ih => exact ih (assignSlot_loading loading known bounded) known bounded

theorem readLine_loading (loading : Loading state) (bounded : epoch ≤ state.currentEpoch)
    (line : ParsedNodesLine) :
    Loading (readLine epoch state line) ∧ (readLine epoch state line).currentEpoch = state.currentEpoch ∧
      (readLine epoch state line).nodes = lineTable state line ∧ (readLine epoch state line).myId = state.myId := by
  have sound := loading.sound
  have grows (id : String) (known : Known state id) : (lineTable state line).containsKey id := by
    unfold lineTable
    split
    · rw [containsKey_modify]
      exact known
    · rw [containsKey_insert, show state.nodes.containsKey id = true from known, Bool.true_or]
  have named : (lineTable state line).containsKey line.id := by
    unfold lineTable
    split
    next same =>
      rw [containsKey_modify, same]
      exact sound.me
    next => rw [containsKey_insert, show line.node.id = line.id from rfl, beq_self_eq_true, Bool.or_true]
  have listed : Loading { state with nodes := lineTable state line } := by
    refine ⟨⟨grows _ sound.me, fun slot => (sound.owners slot).imp_right (grows _), sound.epochs, sound.fits,
      fun slot dest member => ?_, sound.apart⟩, loading.calm⟩
    obtain ⟨mine, known⟩ := sound.migrating slot dest member
    exact ⟨mine, grows dest known⟩
  exact assignSlots_loading _ listed named bounded

theorem readSlotEpoch_loading (loading : Loading state) (entry : Nat × Nat × Epoch) :
    Loading (readSlotEpoch state entry) := by
  have sound := loading.sound
  have fits : max entry.2.2.1 1 ≤ u64Max := Nat.max_le.mpr ⟨entry.2.2.2, by unfold u64Max; omega⟩
  refine ⟨⟨sound.me, sound.owners, fun slot => ?_, Nat.max_le.mpr ⟨sound.fits, fits⟩, sound.migrating, sound.apart⟩, loading.calm⟩
  apply setEpochs_bounded
  · exact le_max_right _ _
  · intro other
    exact le_trans (sound.epochs other) (le_max_left _ _)

theorem readSlotEpochs_loading (entries : List (Nat × Nat × Epoch)) (loading : Loading state) :
    Loading (entries.foldl readSlotEpoch state) ∧ (entries.foldl readSlotEpoch state).nodes = state.nodes ∧
      (entries.foldl readSlotEpoch state).myId = state.myId := by
  induction entries generalizing state with
  | nil => exact ⟨loading, rfl, rfl⟩
  | cons entry entries ih => exact ih (readSlotEpoch_loading loading entry)

theorem readPrepares_votes (entries : List (Nat × PrepareVote)) (state : ClusterState) :
    ∃ votes, entries.foldl readPrepare state = { state with prepareNode := votes } := by
  induction entries generalizing state with
  | nil => exact ⟨state.prepareNode, rfl⟩
  | cons entry entries ih => exact ih (readPrepare state entry)

private theorem foldl_max_le {bound : Nat} (numbers : List Nat) {start : Nat} (first : start ≤ bound) (all : ∀ number ∈ numbers, number ≤ bound) :
    numbers.foldl max start ≤ bound := by
  induction numbers generalizing start with
  | nil => exact first
  | cons number numbers ih =>
    apply ih
    · exact Nat.max_le.mpr ⟨first, all number mem_cons_self⟩
    · exact fun other member => all other (mem_cons_of_mem _ member)

variable (conf : NodesConf)

theorem epoch_fits : conf.epoch ≤ u64Max := by
  apply Nat.max_le.mpr
  refine ⟨?_, by unfold u64Max; omega⟩
  cases conf.headerEpoch with
  | some epoch => exact epoch.2
  | none =>
    apply foldl_max_le _ (Nat.zero_le _)
    intro number member
    obtain ⟨line, -, rfl⟩ := mem_map.mp member
    exact line.epoch.2

/-- The topology after all lines of the file, and the entries it has for other nodes. -/
theorem readLines_loading (lines : List ParsedNodesLine) (loading : Loading state)
    (bounded : epoch ≤ state.currentEpoch)
    (clean : ∀ me, state.nodes.get state.myId = some me → me.myself = true ∧ me.pfail = false ∧ me.fail = false) :
    Loading (lines.foldl (readLine epoch) state) ∧ (lines.foldl (readLine epoch) state).myId = state.myId ∧
      (lines.foldl (readLine epoch) state).currentEpoch = state.currentEpoch ∧
      (∀ me, (lines.foldl (readLine epoch) state).nodes.get state.myId = some me → me.myself = true ∧ me.pfail = false ∧ me.fail = false) ∧
      ∀ id, id ≠ state.myId → (lines.foldl (readLine epoch) state).nodes.get id =
        ((lines.reverse.find? fun line => line.id == id).map ParsedNodesLine.node).or (state.nodes.get id) := by
  -- the last line that names a node is the one that stays, so the induction takes lines from the end
  induction lines using reverseRecOn with
  | nil => exact ⟨loading, rfl, rfl, clean, fun id _ => rfl⟩
  | append_singleton lines line ih =>
    obtain ⟨loaded, sameId, sameEpoch, cleanMe, entries⟩ := ih
    rw [foldl_append, foldl_cons, foldl_nil]
    generalize lines.foldl (readLine epoch) state = before at loaded sameId sameEpoch cleanMe entries
    obtain ⟨next, keptEpoch, table, keptId⟩ := readLine_loading loaded (sameEpoch ▸ bounded) line
    refine ⟨next, keptId.trans sameId, keptEpoch.trans sameEpoch, fun me found => ?_, fun id other => ?_⟩
    · rw [table, lineTable] at found
      split at found
      next =>
        rw [get_modify, sameId] at found
        obtain ⟨old, present, rfl⟩ := map_eq_some_iff.mp found
        rw [if_pos (get_eq_some.mp present).2]
        exact ⟨(cleanMe old present).1, rfl, rfl⟩
      next peer =>
        rw [sameId] at peer
        rw [get_insert, if_neg (show line.node.id ≠ state.myId from peer)] at found
        exact cleanMe me found
    · rw [table, lineTable, reverse_append, reverse_singleton, singleton_append, find?_cons]
      split
      next mine =>
        have different : line.id ≠ id := by
          rw [mine, sameId]
          exact Ne.symm other
        rw [beq_eq_false_iff_ne.mpr different, get_modify, entries id other]
        cases found : ((lines.reverse.find? fun line => line.id == id).map ParsedNodesLine.node).or (state.nodes.get id) with
        | none => rfl
        | some node =>
          rw [← entries id other] at found
          rw [map_some, if_neg]
          intro same
          rw [(get_eq_some.mp found).2, sameId] at same
          exact other same
      next peer =>
        rw [get_insert, entries id other]
        by_cases same : line.id = id
        · rw [if_pos (show line.node.id = id from same), beq_iff_eq.mpr same]
          rfl
        · rw [if_neg (show line.node.id ≠ id from same), beq_eq_false_iff_ne.mpr same]

def lastLine (id : String) : Option ParsedNodesLine := conf.lines.reverse.find? fun line => line.id == id

/-- The deciding line of no other node sets both `fail` and `fail?`. -/
def OneFlag (myId : String) : Prop :=
  ∀ id, id ≠ myId → ∀ line, lastLine conf id = some line → ¬(line.pfail = true ∧ line.fail = true)

private theorem unmixed_exact {table : NodeTable} {id : String} {update : ClusterNode → ClusterNode}
    {keeps : ∀ node, (update node).id = node.id} (exact : ∀ node, (update node).pfail = node.pfail ∧ (update node).fail = node.fail) :
    Unmixed (table.modify id update keeps) ↔ Unmixed table := by
  constructor
  · intro unmixed node member both
    apply unmixed _ (mem_modify.mpr ⟨node, member, rfl⟩)
    split
    · rw [(exact node).1, (exact node).2]
      exact both
    · exact both
  · intro unmixed
    apply unmixed.modify
    intro node member _ both
    rw [(exact node).1, (exact node).2] at both
    exact unmixed node member both

/-- A change that keeps the invariant and every failure flag. -/
def Harmless (before after : Cluster) : Prop :=
  (Sound before.toClusterState → Sound after.toClusterState ∧ (Labelled before.toClusterState → Labelled after.toClusterState)) ∧
    (Unmixed after.nodes ↔ Unmixed before.nodes)

private theorem Harmless.trans {first second third : Cluster} (early : Harmless first second) (late : Harmless second third) :
    Harmless first third := by
  refine ⟨fun sound => ?_, late.2.trans early.2⟩
  obtain ⟨between, labels⟩ := early.1 sound
  obtain ⟨kept, later⟩ := late.1 between
  exact ⟨kept, fun labelled => later (labels labelled)⟩

private theorem Harmless.elim {α : Type} {setting : Option α} {set : α → Cluster}
    (each : ∀ value, Harmless cluster (set value)) : Harmless cluster (setting.elim cluster set) := by
  cases setting with
  | none => exact ⟨fun sound => ⟨sound, id⟩, Iff.rfl⟩
  | some value => exact each value

private theorem refreshMyselfAdvertised_harmless (cluster : Cluster) : Harmless cluster cluster.refreshMyselfAdvertised := by
  constructor
  · intro sound
    have moves : Moves cluster.toClusterState cluster.refreshMyselfAdvertised.toClusterState := by
      refine tame_moves sound _ _ ?_ ?_
      · exact fun _ => ⟨id, id⟩
      · exact fun _ => rfl
    exact ⟨moves.sound sound, moves.labels⟩
  · apply unmixed_exact
    · exact fun _ => rfl
    · exact fun _ => ⟨rfl, rfl⟩

theorem restoreLiveFlags_harmless (cluster : Cluster) : Harmless cluster (conf.restoreLiveFlags cluster) := by
  refine Harmless.trans (Harmless.trans (Harmless.elim ?_) (Harmless.elim ?_)) (Harmless.elim ?_)
  · intro ip
    exact refreshMyselfAdvertised_harmless { cluster with announceIp := (some ip).filter (· ≠ "") }
  · intro port
    generalize conf.announceIp.elim cluster _ = announced
    exact refreshMyselfAdvertised_harmless { announced with announcePort := (some port).filter (0 < ·) }
  · intro priority
    rw [Harmless, setLocalReplPriority, setElection_state]
    exact ⟨fun sound => ⟨sound, id⟩, Iff.rfl⟩

theorem fromNodesConf_start {ip : String} {port now : Nat} {conf : NodesConf}
    (started : fromNodesConf ip port now conf = .ok cluster) :
    Sound cluster.toClusterState ∧ Labelled cluster.toClusterState ∧
      ∃ myself, conf.myselfLine ip port = some myself ∧ (Unmixed cluster.nodes ↔ OneFlag conf myself.id) := by
  unfold fromNodesConf at started
  split at started
  · cases started
  split at started
  · cases started
  next myself found =>
    dsimp only at started
    have positive : 1 ≤ conf.epoch := le_max_right _ _
    have identity := withIdentity_sound ip port myself.id myself.master myself.masterId false positive (epoch_fits conf)
    have first {id : String} {node : ClusterNode}
        (here : ({ withIdentity ip port myself.id myself.master myself.masterId false with currentEpoch := conf.epoch } :
          ClusterState).nodes.get id = some node) :
        node.id = id ∧ node.id = myself.id ∧ node.myself = true ∧ node.pfail = false ∧ node.fail = false := by
      obtain ⟨member, same⟩ := get_eq_some.mp here
      cases mem_singleton.mp member
      exact ⟨same, rfl, rfl, rfl, rfl⟩
    obtain ⟨loaded, sameId, -, cleanMe, entries⟩ :=
      readLines_loading conf.lines ⟨identity, rfl⟩ (le_refl conf.epoch) fun _ here => (first here).2.2
    have alone (id : String) (other : id ≠ myself.id) : ({ withIdentity ip port myself.id myself.master myself.masterId false with
        currentEpoch := conf.epoch } : ClusterState).nodes.get id = none :=
      eq_none_iff_forall_ne_some.mpr fun node here => other ((first here).1.symm.trans (first here).2.1)
    generalize conf.lines.foldl (readLine conf.epoch)
      { withIdentity ip port myself.id myself.master myself.masterId false with currentEpoch := conf.epoch } = listed
        at started loaded sameId cleanMe entries
    have labels : Labelled listed := by
      intro node member
      have present : listed.nodes.get node.id = some node := get_eq_some.mpr ⟨member, rfl⟩
      by_cases mine : node.id = myself.id
      · obtain ⟨flag, -, alive⟩ := cleanMe node (mine ▸ present)
        exact ⟨⟨fun _ => mine.trans sameId.symm, fun _ => flag⟩, fun _ => alive⟩
      · rw [entries node.id mine, alone node.id mine, or_none] at present
        obtain ⟨line, -, same⟩ := map_eq_some_iff.mp present
        have stranger : node.id ≠ listed.myId := fun equal => mine (equal.trans sameId)
        refine ⟨⟨fun flag => ?_, fun equal => absurd equal stranger⟩, fun equal => absurd equal stranger⟩
        rw [← same] at flag
        cases flag
    obtain ⟨dated, sameNodes, keptId⟩ := readSlotEpochs_loading conf.slotEpochs loaded
    generalize conf.slotEpochs.foldl readSlotEpoch listed = stamped at started dated sameNodes keptId
    obtain ⟨votes, voted⟩ := readPrepares_votes
      (conf.prepares.filter fun entry => !prepareVoteExpired now entry.2.preparedAtUnixMs) stamped
    rw [voted] at started
    cases started
    obtain ⟨keeps, unmixed⟩ := restoreLiveFlags_harmless conf (fresh { stamped with prepareNode := votes } ip port)
    obtain ⟨sound, relabel⟩ := keeps (dated.sound.of_votes votes)
    have kept : Labelled { stamped with prepareNode := votes } := by
      unfold Labelled
      rw [sameNodes, keptId]
      exact labels
    refine ⟨sound, relabel kept, myself, found, unmixed.trans ?_⟩
    rw [sameNodes]
    constructor
    · intro clear id other line last both
      have present : listed.nodes.get id = some line.node := by
        rw [entries id other, show conf.lines.reverse.find? (fun line => line.id == id) = some line from last]
        rfl
      exact clear line.node (get_eq_some.mp present).1 both
    · intro single node member both
      have present : listed.nodes.get node.id = some node := get_eq_some.mpr ⟨member, rfl⟩
      by_cases mine : node.id = myself.id
      · rw [mine] at present
        have clear := (cleanMe node present).2.1
        rw [both.1] at clear
        cases clear
      · rw [entries node.id mine, alone node.id mine, or_none] at present
        obtain ⟨line, last, rfl⟩ := map_eq_some_iff.mp present
        exact single line.node.id mine line last both

/-! What the claims of the topology amount to. -/

structure Consistent (state : ClusterState) : Prop where
  owners : ∀ slot owner, state.ownerIdOf slot = some owner → owner ≠ "" → state.nodes.containsKey owner = true
  epochs : ∀ slot, state.slotEpoch slot ≤ state.currentEpoch
  migrating : ∀ slot dest, state.migrating.lookup slot = some dest → state.ownsSlot slot = true ∧ state.nodes.containsKey dest = true
  apart : ∀ slot, ¬(state.isMigrating slot = true ∧ state.isImporting slot = true)
  flags : ∀ id node, state.getNode id = some node → ¬(node.pfail = true ∧ node.fail = true)

private theorem mem_of_lookup {V : Type} {map : List (Nat × V)} {value : V} (found : map.lookup slot = some value) :
    (slot, value) ∈ map := by
  obtain ⟨before, after, rfl, -⟩ := lookup_eq_some_iff.mp found
  exact mem_append_right _ mem_cons_self

private theorem ownsSlot_of (inside : slot < slotCount) (mine : state.ownerAt slot = state.myId) :
    state.ownsSlot slot := by
  have bound : slot < state.slotOwner.toList.length := by rwa [Vector.length_toList]
  rw [ownerAt, ownerIdOf, getElem?_eq_getElem bound, getD_some] at mine
  rw [ownsSlot, getElem?_eq_getElem bound, mine]
  exact beq_self_eq_true _

theorem consistent_iff (sound : Sound state) : Consistent state ↔ Unmixed state.nodes := by
  constructor
  · intro consistent node member
    exact consistent.flags node.id node (get_eq_some.mpr ⟨member, rfl⟩)
  · intro unmixed
    refine ⟨fun slot owner found bound => ?_, sound.epochs, fun slot dest found => ?_, fun slot both => ?_, fun id node found => ?_⟩
    · have same : state.ownerAt slot = owner := by rw [ownerAt, found, getD_some]
      exact same ▸ (sound.owners slot).resolve_left (same ▸ bound)
    · obtain ⟨⟨inside, mine⟩, known⟩ := sound.migrating slot dest (mem_of_lookup found)
      exact ⟨ownsSlot_of inside mine, known⟩
    · obtain ⟨dest, leaving⟩ := isSome_iff_exists.mp both.1
      obtain ⟨source, arriving⟩ := isSome_iff_exists.mp both.2
      exact sound.apart slot dest source (mem_of_lookup leaving) (mem_of_lookup arriving)
    · exact unmixed node (get_eq_some.mp found).1

/-- The file, if the process starts from one, gives no other node both failure flags. -/
def StartsUnmixed : Boot → Prop
  | .singleNode .. => True
  | .nodesConf ip port _ conf => ∀ myself, conf.myselfLine ip port = some myself → OneFlag conf myself.id

theorem boot_start {boot : Boot} (started : boot.start = .ok cluster) :
    Sound cluster.toClusterState ∧ Labelled cluster.toClusterState ∧ (Unmixed cluster.nodes ↔ StartsUnmixed boot) := by
  cases boot with
  | singleNode ip port generated =>
    cases started
    refine ⟨withIdentity_sound ip port generated true none true (le_refl 1) (by unfold u64Max; omega), fun node member => ?_, ?_⟩
    · cases mem_singleton.mp member
      exact ⟨⟨fun _ => rfl, fun _ => rfl⟩, fun _ => rfl⟩
    rw [StartsUnmixed, iff_true]
    intro node member
    cases mem_singleton.mp member
    exact fun both => absurd both.1 Bool.false_ne_true
  | nodesConf ip port now conf =>
    obtain ⟨sound, labelled, myself, found, unmixed⟩ := fromNodesConf_start started
    refine ⟨sound, labelled, unmixed.trans ?_⟩
    rw [StartsUnmixed, found]
    constructor
    · intro single other same
      cases same
      exact single
    · exact fun all => all myself rfl

/-- Every state that a process reaches knows itself, and never as failed. -/
theorem reached_labelled {boot : Boot} (started : boot.start = .ok cluster) (operations : List Operation) :
    Labelled (run perform cluster operations).toClusterState := by
  obtain ⟨sound, labelled, -⟩ := boot_start started
  exact ((operations_reach cluster operations).upheld sound).labels labelled

/-- From its start on, every state a process reaches is consistent just when its file gives no
other node both failure flags, and no operation ever lowers an epoch. -/
theorem reachable_consistent {boot : Boot} {cluster : Cluster} (started : boot.start = .ok cluster) :
    ((∀ operations, Consistent (run perform cluster operations).toClusterState) ↔ StartsUnmixed boot) ∧
      ∀ operations operation, Advances (run perform cluster operations).toClusterState
        ((run perform cluster operations).perform operation).toClusterState := by
  obtain ⟨sound, -, unmixed⟩ := boot_start started
  have reached (operations : List Operation) := (operations_reach cluster operations).upheld sound
  refine ⟨?_, fun operations operation => ?_⟩
  · rw [← unmixed]
    constructor
    · exact fun always => (consistent_iff sound).mp (always [])
    · intro clear operations
      exact (consistent_iff (reached operations).sound).mpr ((reached operations).flags clear)
  · exact ((perform_reaches _ operation).upheld (reached operations).sound).advances

/-- A file with this process and one other node, which owns the first slot. -/
def twoNodes (flags : List String) : NodesConf where
  headerEpoch := some ⟨3, by unfold u64Max; omega⟩
  slotEpochs := [(0, 0, ⟨2, by unfold u64Max; omega⟩)]
  prepares := []
  announceIp := none
  announcePort := none
  replicaPriority := none
  lines := [⟨"a", "10.0.0.1", 7000, ["myself", "master"], none, ⟨3, by unfold u64Max; omega⟩, [(1, 9)]⟩,
    ⟨"b", "10.0.0.2", 7000, flags, none, ⟨3, by unfold u64Max; omega⟩, [(0, 0)]⟩]

theorem failed_peer_consistent :
    ∃ cluster, (Boot.nodesConf "10.0.0.1" 7000 0 (twoNodes ["master", "fail"])).start = .ok cluster ∧
      ∀ operations, Consistent (run perform cluster operations).toClusterState := by
  obtain ⟨cluster, started⟩ : ∃ cluster, (Boot.nodesConf "10.0.0.1" 7000 0 (twoNodes ["master", "fail"])).start = .ok cluster := ⟨_, rfl⟩
  refine ⟨cluster, started, (reachable_consistent started).1.mpr ?_⟩
  intro myself found id other line last both
  have which : line ∈ (twoNodes ["master", "fail"]).lines := mem_reverse.mp (mem_of_find?_eq_some last)
  rcases mem_cons.mp which with rfl | rest
  · exact absurd both.1 (by decide)
  · cases mem_singleton.mp rest
    exact absurd both.1 (by decide)

/-- A line that carries both flags gives the node both. -/
theorem both_flags_loaded :
    ∃ cluster, (Boot.nodesConf "10.0.0.1" 7000 0 (twoNodes ["master", "fail", "fail?"])).start = .ok cluster ∧
      ∃ node, cluster.getNode "b" = some node ∧ node.pfail = true ∧ node.fail = true :=
  ⟨_, rfl, ⟨"b", "10.0.0.2", 7000, false, true, none, true, true⟩, by decide +kernel, rfl, rfl⟩

end Kore.Proofs.ClusterReachability
