import Kore.Proofs.ClusterReachability

/-! Votes as fences. Every vote in the map is traced back through the run to the section
that cast it; the epoch it carries tells a commit whether the slot has been touched since. -/

namespace Kore.Proofs.VoteFencing
open Foundation Cluster Cluster ClusterState ClusterInvariant ClusterReachability List

variable {slot now later : Nat} {cluster : Cluster} {nodeId text : String} {save : Save}

def reached (cluster : Cluster) (parts : List Section) : ClusterState := (run enter cluster parts).toClusterState

theorem reached_append (cluster : Cluster) (parts : List Section) (part : Section) :
    reached cluster (parts ++ [part]) = ((run enter cluster parts).enter part).toClusterState := by
  rw [reached, run, foldl_append]
  rfl

/-- The slot has the owner and epoch of the state after `before` all along. -/
def Steady (cluster : Cluster) (before since : List Section) (slot : Nat) : Prop :=
  ∀ more, more <+: since → (reached cluster (before ++ more)).ownerAt slot = (reached cluster before).ownerAt slot ∧
    (reached cluster (before ++ more)).slotEpoch slot = (reached cluster before).slotEpoch slot

/-- The date of a vote, which only the hook of tests can change. -/
def Dated (since : List Section) (slot castAt stamp : Nat) : Prop :=
  stamp = castAt ∨ ∃ now, .testExpirePrepare now slot ∈ since ∧ stamp = now - (prepareVoteTtlMs + 1000)

/-- `set_prepare_node` has recorded this vote with its last section. -/
def Cast (cluster : Cluster) (before : List Section) (slot : Nat) (vote : PrepareVote) : Prop :=
  ∃ earlier, before = earlier ++ [.recordPrepare vote.preparedAtUnixMs slot vote.targetId] ∧
    (∃ after, (reached cluster earlier).recordPrepare vote.preparedAtUnixMs slot vote.targetId = .ok after) ∧
    vote.slotEpoch = (reached cluster earlier).slotEpoch slot ∧
    (reached cluster before).ownerAt slot = (reached cluster earlier).ownerAt slot ∧
    (reached cluster before).slotEpoch slot = (reached cluster earlier).slotEpoch slot

/-- A vote as it was cast or found at the start, and what has come of it since. -/
structure Traced (cluster : Cluster) (parts : List Section) (slot : Nat) (vote : PrepareVote) where
  before : List Section
  since : List Section
  origin : PrepareVote
  split : parts = before ++ since
  target : vote.targetId = origin.targetId
  epoch : vote.slotEpoch = origin.slotEpoch
  dated : Dated since slot origin.preparedAtUnixMs vote.preparedAtUnixMs
  source : Cast cluster before slot origin ∨ before = [] ∧ (slot, origin) ∈ cluster.prepareNode
  fence : Steady cluster before since slot ∨ (reached cluster before).slotEpoch slot < (reached cluster parts).slotEpoch slot

variable {since : List Section}

theorem Dated.append {castAt stamp : Nat} (dated : Dated since slot castAt stamp) (part : Section) :
    Dated (since ++ [part]) slot castAt stamp :=
  dated.imp_right fun ⟨now, member, same⟩ => ⟨now, mem_append_left _ member, same⟩

variable {part : Section}

theorem Steady.append {before : List Section} (steady : Steady cluster before since slot)
    (same : (reached cluster (before ++ (since ++ [part]))).ownerAt slot = (reached cluster (before ++ since)).ownerAt slot ∧
      (reached cluster (before ++ (since ++ [part]))).slotEpoch slot = (reached cluster (before ++ since)).slotEpoch slot) :
    Steady cluster before (since ++ [part]) slot := by
  intro more within
  rcases prefix_concat_iff.mp within with rfl | early
  · have last := steady since prefix_rfl
    exact ⟨same.1.trans last.1, same.2.trans last.2⟩
  · exact steady more early

section Tracing
variable {cluster : Cluster} {parts : List Section} {slot : Nat}

/-- A vote that a section leaves, perhaps with a new date, is traced to where it was before. -/
theorem Traced.next {vote old : PrepareVote} (traced : Traced cluster parts slot old)
    (target : vote.targetId = old.targetId) (epoch : vote.slotEpoch = old.slotEpoch)
    (dated : vote.preparedAtUnixMs = old.preparedAtUnixMs ∨
      ∃ now, part = .testExpirePrepare now slot ∧ vote.preparedAtUnixMs = now - (prepareVoteTtlMs + 1000))
    (fence : (reached cluster (parts ++ [part])).ownerAt slot = (reached cluster parts).ownerAt slot ∧
      (reached cluster (parts ++ [part])).slotEpoch slot = (reached cluster parts).slotEpoch slot ∨
        (reached cluster parts).slotEpoch slot < (reached cluster (parts ++ [part])).slotEpoch slot) :
    Nonempty (Traced cluster (parts ++ [part]) slot vote) := by
  obtain ⟨before, since, origin, split, sameTarget, sameEpoch, oldDate, source, oldFence⟩ := traced
  have joined : parts ++ [part] = before ++ (since ++ [part]) := by rw [split, append_assoc]
  refine ⟨before, since ++ [part], origin, joined, target.trans sameTarget, epoch.trans sameEpoch, ?_, source, ?_⟩
  · rcases dated with kept | ⟨now, expired, stamp⟩
    · rw [kept]
      exact oldDate.append part
    · exact .inr ⟨now, mem_append_right _ (mem_singleton.mpr expired.symm), stamp⟩
  · have start : (reached cluster before).slotEpoch slot ≤ (reached cluster parts).slotEpoch slot := by
      rcases oldFence with steady | raised
      · rw [split, (steady since prefix_rfl).2]
      · exact le_of_lt raised
    rcases fence with same | raised
    · rcases oldFence with steady | lifted
      · left
        apply steady.append
        rw [← joined, ← split]
        exact same
      · right
        omega
    · right
      omega

end Tracing

theorem votes_traced (sound : Sound cluster.toClusterState) (parts : List Section) :
    ∀ slot vote, (slot, vote) ∈ (reached cluster parts).prepareNode → Nonempty (Traced cluster parts slot vote) := by
  induction parts using reverseRecOn with
  | nil =>
    intro slot vote member
    refine ⟨[], [], vote, rfl, rfl, rfl, .inl rfl, .inr ⟨rfl, member⟩, .inl fun more within => ?_⟩
    rw [prefix_nil.mp within, append_nil]
    exact ⟨rfl, rfl⟩
  | append_singleton parts part ih =>
    intro slot vote member
    have upheld := (sections_upheld sound parts).sound
    cases casts : Section.casts part with
    | false =>
      have kept := (enter_kept upheld part casts).votes slot vote
      rw [← reached_append] at kept
      obtain ⟨inside, fence⟩ := kept member
      obtain ⟨traced⟩ := ih slot vote inside
      exact traced.next rfl rfl (.inl rfl) fence
    | true =>
      cases part with
      | recordPrepare now target nodeId =>
        have step := reached_append cluster parts (.recordPrepare now target nodeId)
        rw [enter] at step
        cases done : (run enter cluster parts).recordPrepare now target nodeId with
        | error text =>
          rw [done] at step
          rw [step] at member
          obtain ⟨traced⟩ := ih slot vote member
          exact traced.next rfl rfl (.inl rfl) (.inl (by rw [step]; exact ⟨rfl, rfl⟩))
        | ok after =>
          rw [done, recordPrepare_eq done] at step
          change _ = { reached cluster parts with
            prepareNode := insertEntry target ⟨nodeId, (reached cluster parts).slotEpoch target, now⟩ (reached cluster parts).prepareNode } at step
          rw [step] at member
          rcases mem_cons.mp member with here | there
          · cases here
            have cast : Cast cluster (parts ++ [.recordPrepare now slot nodeId]) slot ⟨nodeId, (reached cluster parts).slotEpoch slot, now⟩ :=
              ⟨parts, rfl, ⟨after, done⟩, rfl, by rw [step]; exact ⟨rfl, rfl⟩⟩
            refine ⟨parts ++ [.recordPrepare now slot nodeId], [], ⟨nodeId, (reached cluster parts).slotEpoch slot, now⟩,
              (append_nil _).symm, rfl, rfl, .inl rfl, .inl cast, .inl fun more within => ?_⟩
            rw [prefix_nil.mp within, append_nil]
            exact ⟨rfl, rfl⟩
          · obtain ⟨traced⟩ := ih slot vote (mem_filter.mp there).1
            exact traced.next rfl rfl (.inl rfl) (.inl (by rw [step]; exact ⟨rfl, rfl⟩))
      | testExpirePrepare now target =>
        have step := reached_append cluster parts (.testExpirePrepare now target)
        rw [step] at member
        obtain ⟨⟨other, old⟩, inside, changed⟩ := mem_map.mp member
        split at changed
        next aged =>
          cases changed
          obtain ⟨traced⟩ := ih other old inside
          subst aged
          exact traced.next rfl rfl (.inr ⟨now, rfl, rfl⟩) (.inl (by rw [step]; exact ⟨rfl, rfl⟩))
        next =>
          cases changed
          obtain ⟨traced⟩ := ih slot vote inside
          exact traced.next rfl rfl (.inl rfl) (.inl (by rw [step]; exact ⟨rfl, rfl⟩))
      | _ => cases casts

variable {state : ClusterState}

theorem commitVote_ok (committed : (state.commitVote now later slot nodeId).2 = .ok ()) :
    ∃ vote, (slot, vote) ∈ state.prepareNode ∧ vote.targetId = nodeId ∧ prepareVoteExpired now vote.preparedAtUnixMs = false ∧
      prepareVoteExpired later vote.preparedAtUnixMs = false ∧ vote.slotEpoch = state.slotEpoch slot := by
  have checked : ((state.purgeExpiredPrepare now slot).recheckVote later slot nodeId).2 = .ok () := by
    unfold commitVote at committed
    split at committed
    · cases committed
    next same => rw [same]
  have missing : (removeEntry slot state.prepareNode).lookup slot = none := by
    rw [lookup_eq_none_iff]
    intro entry member
    exact bne_iff_ne.mpr (Ne.symm (mem_removeEntry.mp member).2)
  -- the vote that the check finds is one that the purge has spared
  have spared : ∀ vote, (state.purgeExpiredPrepare now slot).prepareNode.lookup slot = some vote →
      (slot, vote) ∈ state.prepareNode ∧ prepareVoteExpired now vote.preparedAtUnixMs = false ∧
        state.purgeExpiredPrepare now slot = state := by
    intro vote found
    unfold purgeExpiredPrepare at found ⊢
    split at found
    next other present =>
      split at found
      · rw [removePrepare, missing] at found
        cases found
      next fresh =>
        rw [present] at found
        cases found
        obtain ⟨front, back, shape, -⟩ := lookup_eq_some_iff.mp present
        rw [if_neg fresh, shape]
        exact ⟨mem_append_right _ mem_cons_self, Bool.eq_false_iff.mpr fresh, rfl⟩
    next absent =>
      rw [absent] at found
      cases found
  unfold recheckVote at checked
  split at checked
  · cases checked
  next vote found =>
    obtain ⟨member, unexpired, unpurged⟩ := spared vote found
    split at checked
    · cases checked
    next target =>
      split at checked
      · cases checked
      next fresh =>
        split at checked
        · cases checked
        next epoch =>
          rw [unpurged] at epoch
          exact ⟨vote, member, not_not.mp target, unexpired, Bool.eq_false_iff.mpr fresh, not_not.mp epoch⟩

theorem commitPrepareNode_ok
    (committed : (cluster.commitPrepareNode now later slot nodeId save).2 = .ok ()) :
    (cluster.commitVote now later slot nodeId).2 = .ok () := by
  unfold commitPrepareNode at committed
  split at committed
  · cases committed
  · split at committed
    · cases committed
    · dsimp only at committed
      have answered : ((cluster.clearedByHook slot).commitVote now later slot nodeId).2 = .ok () := by
        split at committed
        next same => rw [same]
        · cases committed
      unfold clearedByHook at answered
      split at answered
      · obtain ⟨vote, member, -⟩ := commitVote_ok answered
        exact absurd rfl (mem_removeEntry.mp member).2
      · exact answered

/-- A vote for `nodeId` that stands behind a commit: cast in this run, or read from the file
that the process started from. It has not expired, and the slot has its owner and epoch since. -/
def Authorized (cluster : Cluster) (parts : List Section) (now later slot : Nat) (nodeId : String) : Prop :=
  ∃ before since vote stamp, parts = before ++ since ∧ vote.targetId = nodeId ∧
    Dated since slot vote.preparedAtUnixMs stamp ∧ prepareVoteExpired now stamp = false ∧ prepareVoteExpired later stamp = false ∧
    vote.slotEpoch = (reached cluster parts).slotEpoch slot ∧
    (Cast cluster before slot vote ∧ Steady cluster before since slot ∨
      (before = [] ∧ (slot, vote) ∈ cluster.prepareNode) ∧
        (Steady cluster before since slot ∨ cluster.slotEpoch slot < vote.slotEpoch))

theorem commitVote_authorized (sound : Sound cluster.toClusterState) {parts : List Section}
    (committed : ((reached cluster parts).commitVote now later slot nodeId).2 = .ok ()) :
    Authorized cluster parts now later slot nodeId := by
  obtain ⟨vote, member, target, fresh, still, epoch⟩ := commitVote_ok committed
  obtain ⟨before, since, origin, split, sameTarget, sameEpoch, dated, source, fence⟩ := votes_traced sound parts slot vote member
  have current : origin.slotEpoch = (reached cluster parts).slotEpoch slot := sameEpoch.symm.trans epoch
  refine ⟨before, since, origin, vote.preparedAtUnixMs, split, sameTarget.symm.trans target, dated, fresh, still, current, ?_⟩
  rcases source with cast | ⟨start, restored⟩
  · left
    refine ⟨cast, ?_⟩
    obtain ⟨earlier, -, -, atCast, -, unchanged⟩ := cast
    rcases fence with steady | raised
    · exact steady
    · omega
  · right
    refine ⟨⟨start, restored⟩, ?_⟩
    rcases fence with steady | raised
    · exact .inl steady
    · right
      subst start
      rw [current]
      exact raised

/-! Refusals. -/

/-- Owners, epochs and transitions are as before. -/
structure SameTopology (before after : ClusterState) : Prop where
  owners : after.slotOwner = before.slotOwner
  epochs : after.slotConfigEpoch = before.slotConfigEpoch
  current : after.currentEpoch = before.currentEpoch
  migrating : after.migrating = before.migrating
  importing : after.importing = before.importing

theorem SameTopology.refl (state : ClusterState) : SameTopology state state := ⟨rfl, rfl, rfl, rfl, rfl⟩

theorem SameTopology.trans {first second third : ClusterState} (early : SameTopology first second) (late : SameTopology second third) :
    SameTopology first third :=
  ⟨late.owners.trans early.owners, late.epochs.trans early.epochs, late.current.trans early.current,
    late.migrating.trans early.migrating, late.importing.trans early.importing⟩

theorem setPrepareNode_refused
    (refused : (cluster.setPrepareNode now slot nodeId save).2 = .error text) :
    SameTopology cluster.toClusterState (cluster.setPrepareNode now slot nodeId save).1.toClusterState := by
  unfold setPrepareNode at refused ⊢
  split
  · exact .refl _
  next inside =>
    rw [if_neg inside] at refused
    split
    · exact .refl _
    next quiet =>
      rw [if_neg quiet] at refused
      cases done : cluster.toClusterState.recordPrepare now slot nodeId with
      | error reason => exact .refl _
      | ok after =>
        rw [done] at refused
        cases refused

theorem recheckVote_same (state : ClusterState) (now slot : Nat) (nodeId : String) :
    SameTopology state (state.recheckVote now slot nodeId).1 := by
  unfold recheckVote
  split
  · exact .refl _
  · split
    · exact .refl _
    · split
      · exact ⟨rfl, rfl, rfl, rfl, rfl⟩
      · split
        · exact .refl _
        · exact .refl _

theorem purgeExpiredPrepare_same (state : ClusterState) (now slot : Nat) : SameTopology state (state.purgeExpiredPrepare now slot) := by
  unfold purgeExpiredPrepare
  split
  · split
    · exact ⟨rfl, rfl, rfl, rfl, rfl⟩
    · exact .refl _
  · exact .refl _

theorem commitVote_refused (refused : (state.commitVote now later slot nodeId).2 = .error text) :
    SameTopology state (state.commitVote now later slot nodeId).1 := by
  have checked := (purgeExpiredPrepare_same state now slot).trans (recheckVote_same _ later slot nodeId)
  unfold commitVote at refused ⊢
  generalize (state.purgeExpiredPrepare now slot).recheckVote later slot nodeId = result at refused checked
  obtain ⟨after, answer⟩ := result
  cases answer with
  | error reason => exact checked
  | ok _ =>
    dsimp only at refused checked ⊢
    split
    · exact checked
    next known =>
      rw [if_neg known] at refused
      cases refused

theorem commitPrepareNode_refused
    (refused : (cluster.commitPrepareNode now later slot nodeId save).2 = .error text) :
    SameTopology cluster.toClusterState (cluster.commitPrepareNode now later slot nodeId save).1.toClusterState := by
  have cleared : SameTopology cluster.toClusterState (cluster.clearedByHook slot).toClusterState := by
    unfold clearedByHook
    split
    · exact ⟨rfl, rfl, rfl, rfl, rfl⟩
    · exact .refl _
  unfold commitPrepareNode at refused ⊢
  split
  · exact .refl _
  next inside =>
    rw [if_neg inside] at refused
    split
    · exact .refl _
    next quiet =>
      rw [if_neg quiet] at refused
      dsimp only at refused ⊢
      cases answered : (cluster.clearedByHook slot).commitVote now later slot nodeId with
      | mk state answer =>
        rw [answered] at refused
        cases answer with
        | ok _ => cases refused
        | error reason =>
          have same := @commitVote_refused slot now later nodeId reason (cluster.clearedByHook slot).toClusterState (by rw [answered])
          rw [answered] at same
          exact cleared.trans same

/-- Over every interleaving of sections from the start of a process on: a commit succeeds only
on a vote that stands behind it, and a refused prepare or commit leaves the topology alone. -/
theorem commit_fenced {boot : Boot} {cluster : Cluster} (started : boot.start = .ok cluster) (parts : List Section)
    (now later slot : Nat) (nodeId : String) (save : Save) :
    (((reached cluster parts).commitVote now later slot nodeId).2 = .ok () ∨
        ((run enter cluster parts).commitPrepareNode now later slot nodeId save).2 = .ok () →
      Authorized cluster parts now later slot nodeId) ∧
    (∀ text, ((run enter cluster parts).setPrepareNode now slot nodeId save).2 = .error text →
      SameTopology (reached cluster parts) ((run enter cluster parts).setPrepareNode now slot nodeId save).1.toClusterState) ∧
    ∀ text, ((run enter cluster parts).commitPrepareNode now later slot nodeId save).2 = .error text →
      SameTopology (reached cluster parts) ((run enter cluster parts).commitPrepareNode now later slot nodeId save).1.toClusterState := by
  obtain ⟨sound, -⟩ := boot_start started
  refine ⟨fun committed => ?_, fun text refused => setPrepareNode_refused refused, fun text refused => commitPrepareNode_refused refused⟩
  apply commitVote_authorized sound
  exact committed.elim id commitPrepareNode_ok

/-- A slot on its way to a node that has just been met. -/
def handover : List Section := [.addNodeWithRole "b" "10.0.0.2" 7000 none none, .setMigrating 0 "b", .recordPrepare 1000 0 "b"]

theorem handover_authorized :
    ((reached (singleNode "10.0.0.1" 7000 "a") handover).commitVote 2000 2001 0 "b").2 = .ok () ∧
      Authorized (singleNode "10.0.0.1" 7000 "a") handover 2000 2001 0 "b" := by
  have committed : ((reached (singleNode "10.0.0.1" 7000 "a") handover).commitVote 2000 2001 0 "b").2 = .ok () := by decide +kernel
  have started : (Boot.singleNode "10.0.0.1" 7000 "a").start = .ok (singleNode "10.0.0.1" 7000 "a") := rfl
  exact ⟨committed, (commit_fenced started handover 2000 2001 0 "b" ⟨0, false⟩).1 (.inl committed)⟩

end Kore.Proofs.VoteFencing
