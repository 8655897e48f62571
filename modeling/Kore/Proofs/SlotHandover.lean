import Kore.Cluster.Handover
import Kore.Proofs.ClusterInvariant

/-! When a handover leaves a slot with two owners: the destination has carried a commit out and
the source does not learn of it, or the source cannot commit and no request to hand the slot
back gets through. -/

namespace Kore.Proofs.SlotHandover
open Foundation Cluster Cluster ClusterState ClusterInvariant List Option Char NodeTable

variable {before after cluster source : Cluster} {slot : Nat} {handling : Handling} {command : Setslot} {text nodeId lastErr : String}
  {state : ClusterState} {call : Call}

/-! What operations leave alone. -/

/-- Nothing but votes differs in the topology. -/
def VotesOnly (before after : Cluster) : Prop := ∃ votes, after.toClusterState = { before.toClusterState with prepareNode := votes }

/-- Votes only go. -/
def Fades (before after : Cluster) : Prop :=
  ∃ votes, after.toClusterState = { before.toClusterState with prepareNode := votes } ∧ votes ⊆ before.prepareNode

theorem Fades.votesOnly (fades : Fades before after) : VotesOnly before after := by
  obtain ⟨votes, same, -⟩ := fades
  exact ⟨votes, same⟩

theorem Fades.refl (cluster : Cluster) : Fades cluster cluster := ⟨cluster.prepareNode, rfl, List.Subset.refl _⟩

theorem Fades.of_eq (same : after.toClusterState = before.toClusterState) : Fades before after :=
  ⟨before.prepareNode, same, List.Subset.refl _⟩

theorem Fades.trans {first second third : Cluster} (early : Fades first second) (late : Fades second third) : Fades first third := by
  obtain ⟨votes, same, fewer⟩ := early
  obtain ⟨left, also, least⟩ := late
  refine ⟨left, ?_, fun vote member => fewer ?_⟩
  · rw [also, same]
  · have kept := least member
    rwa [same] at kept

theorem VotesOnly.refl (cluster : Cluster) : VotesOnly cluster cluster := ⟨cluster.prepareNode, rfl⟩

theorem VotesOnly.trans {first second third : Cluster} (early : VotesOnly first second) (late : VotesOnly second third) :
    VotesOnly first third := by
  obtain ⟨votes, same⟩ := early
  obtain ⟨left, also⟩ := late
  exact ⟨left, by rw [also, same]⟩

section
variable (same : VotesOnly before after)
include same

theorem VotesOnly.ownsSlot (slot : Nat) : after.ownsSlot slot = before.ownsSlot slot := by
  obtain ⟨votes, same⟩ := same
  rw [same]
  rfl

theorem VotesOnly.ownerIdOf (slot : Nat) : after.ownerIdOf slot = before.ownerIdOf slot := by
  obtain ⟨votes, same⟩ := same
  rw [same]
  rfl

theorem VotesOnly.myId : after.myId = before.myId := by
  obtain ⟨votes, same⟩ := same
  rw [same]

end

section
variable (cluster)

private theorem takeHook_fades (hook : Hook) : Fades cluster (cluster.takeHook hook) := by
  cases hook
  all_goals exact .of_eq rfl

private theorem removePrepare_fades (slot : Nat) :
    Fades cluster { cluster with toClusterState := cluster.removePrepare slot } :=
  ⟨_, rfl, filter_sublist.subset⟩

private theorem saveNodesConf_fades (save : Save) : Fades cluster (cluster.saveNodesConf save) := by
  unfold saveNodesConf
  split
  · exact ⟨_, rfl, filter_sublist.subset⟩
  · exact .refl cluster

private theorem autosaveNodesConf_fades (save : Save) : Fades cluster (cluster.autosaveNodesConf save) := by
  unfold autosaveNodesConf
  split
  · exact saveNodesConf_fades cluster save
  · exact .refl cluster

private theorem tryAutosaveNodesConf_fades (handling : Handling) : Fades cluster (cluster.tryAutosaveNodesConf handling) :=
  Fades.trans (.of_eq rfl) (saveNodesConf_fades _ handling.autosave)

private theorem clearedByHook_fades (slot : Nat) : Fades cluster (cluster.clearedByHook slot) := by
  unfold clearedByHook
  split
  · exact ⟨_, rfl, filter_sublist.subset⟩
  · exact .refl cluster

private theorem purgeExpiredPrepare_fades (now slot : Nat) :
    Fades cluster { cluster with toClusterState := cluster.purgeExpiredPrepare now slot } := by
  unfold purgeExpiredPrepare
  split
  · split
    · exact removePrepare_fades cluster slot
    · exact .refl cluster
  · exact .refl cluster

private theorem recheckVote_fades (now slot : Nat) (nodeId : String) :
    Fades cluster { cluster with toClusterState := (cluster.recheckVote now slot nodeId).1 } := by
  unfold recheckVote
  split
  · exact .refl cluster
  split
  · exact .refl cluster
  split
  · exact removePrepare_fades cluster slot
  · split
    · exact .refl cluster
    · exact .refl cluster

theorem abortPrepareNode_fades (slot : Nat) (save : Save) : Fades cluster (cluster.abortPrepareNode slot save).1 := by
  unfold abortPrepareNode
  split
  · exact .refl cluster
  · exact (removePrepare_fades cluster slot).trans (autosaveNodesConf_fades _ save)

theorem checkPrepareValid_fades (now later slot : Nat) (nodeId : String) :
    Fades cluster (cluster.checkPrepareValid now later slot nodeId).1 := by
  unfold checkPrepareValid
  split
  · exact .refl cluster
  · have purged := (clearedByHook_fades cluster slot).trans (purgeExpiredPrepare_fades _ now slot)
    exact purged.trans (recheckVote_fades _ later slot nodeId)

theorem setPrepareNode_votes (now slot : Nat) (nodeId : String) (save : Save) :
    VotesOnly cluster (cluster.setPrepareNode now slot nodeId save).1 ∧
      ((cluster.setPrepareNode now slot nodeId save).2 = .ok () → cluster.nodes.containsKey nodeId = true ∧
        ∀ vote, (slot, vote) ∈ (cluster.setPrepareNode now slot nodeId save).1.prepareNode →
          vote.targetId = nodeId ∧ vote.slotEpoch = cluster.slotEpoch slot) := by
  unfold setPrepareNode
  split
  · exact ⟨.refl cluster, nofun⟩
  split
  · exact ⟨(takeHook_fades cluster .prepareFail).votesOnly, nofun⟩
  cases recorded : cluster.recordPrepare now slot nodeId with
  | error text => exact ⟨.refl cluster, nofun⟩
  | ok state =>
    have known : cluster.nodes.containsKey nodeId = true := by
      unfold recordPrepare at recorded
      split at recorded
      · cases recorded
      next known => simpa using known
    obtain rfl := recordPrepare_eq recorded
    have saved := autosaveNodesConf_fades
      { cluster with
        toClusterState := { cluster.toClusterState with
          prepareNode := insertEntry slot ⟨nodeId, cluster.slotEpoch slot, now⟩ cluster.prepareNode } } save
    simp only [settled]
    refine ⟨VotesOnly.trans ⟨_, rfl⟩ saved.votesOnly, fun _ => ⟨known, fun vote member => ?_⟩⟩
    obtain ⟨votes, same, fewer⟩ := saved
    rw [same] at member
    rcases mem_cons.mp (fewer member) with new | old
    · cases new
      exact ⟨rfl, rfl⟩
    · have other := (mem_filter.mp old).2
      simp at other

end

theorem setslot_refused (inside : slot < slotCount)
    (refused : cluster.setslotOperation slot handling command = (after, .error text)) :
    cluster.handleClusterSetslot slot handling command = (after, .error s!"ERR {text}") := by
  unfold handleClusterSetslot
  rw [if_neg (not_le.mpr inside), refused]

theorem setslot_done (inside : slot < slotCount)
    (done : cluster.setslotOperation slot handling command = (after, .ok ())) :
    ∃ saved, cluster.handleClusterSetslot slot handling command = (saved, .ok ()) ∧ Fades after saved := by
  unfold handleClusterSetslot
  rw [if_neg (not_le.mpr inside), done]
  cases command with
  | checkPrepare nodeId => exact ⟨after, rfl, .refl after⟩
  | _ => exact ⟨_, rfl, tryAutosaveNodesConf_fades after handling⟩

private theorem setslot_keeps {holds : Cluster → Prop}
    (start : holds cluster) (fading : ∀ after saved, holds after → Fades after saved → holds saved)
    (operation : slot < slotCount → holds (cluster.setslotOperation slot handling command).1) :
    holds (cluster.handleClusterSetslot slot handling command).1 := by
  unfold handleClusterSetslot
  split
  · exact start
  next inside =>
    have kept := operation (not_le.mp inside)
    split
    all_goals
      next same =>
        rw [same] at kept
        first
        | exact kept
        | exact fading _ _ kept (tryAutosaveNodesConf_fades _ handling)

def Committed (slot : Nat) (nodeId : String) (before after : Cluster) : Prop :=
  ∃ votes, after.toClusterState = { stampSlot nodeId before.bump slot with prepareNode := votes } ∧ ∀ vote, (slot, vote) ∉ votes

/-- Why a commit is refused: `checked` is the state in which the vote is looked at. -/
inductive Refused (cluster checked : Cluster) (later slot : Nat) (nodeId : String) : String → Prop where
  | range (outside : slotCount ≤ slot) : Refused cluster checked later slot nodeId "Slot out of range"
  | hook : Refused cluster checked later slot nodeId "injected source NODE failure"
  | vote (text : String) (verdict : (checked.recheckVote later slot nodeId).2 = .error text) : Refused cluster checked later slot nodeId text
  | unknown (missing : cluster.nodes.containsKey nodeId = false) : Refused cluster checked later slot nodeId s!"Unknown node {nodeId}"

/-- A commit is refused, or hands the slot over and uses the vote up. -/
theorem commitPrepareNode_cases (cluster : Cluster) (now later slot : Nat) (nodeId : String) (save : Save) :
    ∃ checked after, Fades cluster checked ∧
      ((∃ text, cluster.commitPrepareNode now later slot nodeId save = (after, .error text) ∧ Fades cluster after ∧
          Refused cluster checked later slot nodeId text) ∨
        cluster.commitPrepareNode now later slot nodeId save = (after, .ok ()) ∧ Committed slot nodeId cluster after ∧
          slot < slotCount ∧ cluster.nodes.containsKey nodeId = true ∧ (checked.recheckVote later slot nodeId).2 = .ok ()) := by
  unfold commitPrepareNode
  split
  next outside => exact ⟨cluster, _, .refl cluster, .inl ⟨_, rfl, .refl cluster, .range outside⟩⟩
  next inside =>
    split
    · exact ⟨cluster, _, .refl cluster, .inl ⟨_, rfl, takeHook_fades cluster .sourceNodeFail, .hook⟩⟩
    dsimp only
    have cleared := (clearedByHook_fades cluster slot).trans (purgeExpiredPrepare_fades _ now slot)
    generalize cluster.clearedByHook slot = ready at cleared
    have rechecked := cleared.trans (recheckVote_fades _ later slot nodeId)
    refine ⟨{ ready with toClusterState := ready.purgeExpiredPrepare now slot }, ?_⟩
    unfold commitVote
    cases answer : (ready.purgeExpiredPrepare now slot).recheckVote later slot nodeId with
    | mk state verdict =>
      rw [answer] at rechecked
      cases verdict with
      | error text => exact ⟨_, cleared, .inl ⟨_, rfl, rechecked, .vote _ (by rw [answer])⟩⟩
      | ok _ =>
        obtain ⟨votes, same, fewer⟩ := rechecked
        have stamped : state = { cluster.toClusterState with prepareNode := votes } := same
        by_cases known : state.nodes.containsKey nodeId = true
        · simp only [known, Bool.not_true]
          refine ⟨_, cleared, .inr ⟨rfl, ?_, not_le.mp inside, by rwa [stamped] at known, trivial⟩⟩
          obtain ⟨left, saved, least⟩ := autosaveNodesConf_fades { ready with toClusterState := stampSlot nodeId state.bump slot } save
          refine ⟨left, ?_, fun vote member => ?_⟩
          · rw [saved, stamped]
            rfl
          · have kept := (mem_filter.mp (least member)).2
            simp at kept
        · simp only [known, Bool.not_false]
          refine ⟨_, cleared, .inl ⟨_, rfl, ⟨votes, same, fewer⟩, .unknown ?_⟩⟩
          rw [stamped] at known
          simpa using known

private theorem ownerIdOf_stamp (inside : slot < slotCount) :
    (stampSlot nodeId state slot).ownerIdOf slot = some nodeId := by
  unfold stampSlot ownerIdOf
  simp only [Vector.toList_setIfInBounds]
  rw [getElem?_set_self]
  simpa using inside

theorem Committed.ownerIdOf (committed : Committed slot nodeId before after)
    (inside : slot < slotCount) : after.ownerIdOf slot = some nodeId := by
  obtain ⟨votes, same, -⟩ := committed
  rw [same]
  exact ownerIdOf_stamp inside

/-! Refusals at the destination. -/

private theorem unknownSubcommand_without (without : 'K' ∉ text.toList.map toUpper) : unknownSubcommand text = false := by
  refine decide_eq_false fun infixed => without ?_
  exact infixed.subset (by decide)

private theorem append_without {one other : String} (first : 'K' ∉ one.toList.map toUpper) (second : 'K' ∉ other.toList.map toUpper) :
    'K' ∉ (one ++ other).toList.map toUpper := by
  rw [String.toList_append, map_append, mem_append]
  exact fun either => either.elim first second

private theorem digits_without (number : Nat) : 'K' ∉ (toString number).toList.map toUpper := by
  intro member
  obtain ⟨char, inside, upper⟩ := mem_map.mp member
  change char ∈ (String.ofList (Nat.toDigits 10 number)).toList at inside
  rw [String.toList_ofList] at inside
  have digit := Nat.isDigit_of_mem_toDigits (by omega) (by omega) inside
  unfold isDigit at digit
  unfold toUpper at upper
  split at upper
  next letter =>
    simp only [Bool.and_eq_true, decide_eq_true_eq] at digit
    have above : char.val ≤ '9'.val := digit.2
    have below : 'a'.val ≤ char.val := letter.1
    exact absurd (Nat.le_trans below above) (by decide)
  next =>
    subst upper
    exact absurd digit (by decide)

private theorem prefixed_ne_ok {head : String} (long : 2 < head.length) (rest : String) : head ++ rest ≠ "ok" := by
  intro same
  have short := congrArg String.length same
  rw [String.length_append] at short
  have two : "ok".length = 2 := rfl
  omega

/-- The texts with which a destination refuses a commit during a handover. -/
def Refusal (slot : Nat) (text : String) : Prop :=
  text = "injected source NODE failure" ∨ text = s!"no prepare vote for slot {slot} (cleared, expired, or never set)" ∨
    text = s!"prepare vote expired for slot {slot}"

theorem Refusal.ne_ok (refusal : Refusal slot text) : text ≠ "ok" := by
  rcases refusal with rfl | rfl | rfl
  · decide
  · rw [String.append_assoc]
    exact prefixed_ne_ok (by decide) _
  · exact prefixed_ne_ok (by decide) _

theorem Refusal.understood (refusal : Refusal slot text) : unknownSubcommand s!"ERR {text}" = false := by
  apply unknownSubcommand_without
  have digits := digits_without slot
  rcases refusal with rfl | rfl | rfl
  · decide
  · exact append_without (by decide) (append_without (append_without (by decide) digits) (by decide))
  · exact append_without (by decide) (append_without (by decide) digits)

structure Tended (slot : Nat) (id : String) (dest : Cluster) : Prop where
  me : dest.myId = id
  inside : slot < slotCount
  known : dest.nodes.containsKey id = true
  ready : dest.isImporting slot = true ∨ dest.ownerIdOf slot = some id
  votes : ∀ vote, (slot, vote) ∈ dest.prepareNode → vote.targetId = id ∧ vote.slotEpoch = dest.slotEpoch slot

/-- It has taken the slot over, and the vote is used up. -/
structure Taken (slot : Nat) (id : String) (dest : Cluster) : Prop extends Tended slot id dest where
  owner : dest.ownerIdOf slot = some id
  voteless : ∀ vote, (slot, vote) ∉ dest.prepareNode

variable {slot : Nat} {id : String} {dest after : Cluster}

theorem Tended.fades (tended : Tended slot id dest) (fades : Fades dest after) : Tended slot id after := by
  obtain ⟨votes, same, fewer⟩ := fades
  obtain ⟨me, inside, known, ready, valid⟩ := tended
  refine ⟨?_, inside, ?_, ?_, fun vote member => ?_⟩
  all_goals rw [same] at *
  · exact me
  · exact known
  · exact ready
  · exact valid vote (fewer member)

theorem Taken.fades (taken : Taken slot id dest) (fades : Fades dest after) : Taken slot id after := by
  refine ⟨taken.toTended.fades fades, ?_, fun vote member => ?_⟩
  · rw [fades.votesOnly.ownerIdOf]
    exact taken.owner
  · obtain ⟨votes, same, fewer⟩ := fades
    rw [same] at member
    exact taken.voteless vote (fewer member)

theorem Tended.committed (tended : Tended slot id dest) (committed : Committed slot id dest after) : Taken slot id after := by
  have owner := committed.ownerIdOf tended.inside
  obtain ⟨votes, same, none⟩ := committed
  refine ⟨⟨?_, tended.inside, ?_, .inr owner, fun vote member => ?_⟩, owner, fun vote member => ?_⟩
  · rw [same]
    exact tended.me
  · rw [same]
    exact tended.known
  · rw [same] at member
    exact absurd member (none vote)
  · rw [same] at member
    exact absurd member (none vote)

private theorem lookup_mem {map : List (Nat × PrepareVote)} {vote : PrepareVote} (found : map.lookup slot = some vote) : (slot, vote) ∈ map := by
  obtain ⟨before, later, rfl, -⟩ := lookup_eq_some_iff.mp found
  exact mem_append_right _ mem_cons_self

/-- Only a missing or expired vote (or a hook of tests) makes such a destination refuse. -/
private theorem Tended.recheck (tended : Tended slot id dest) (now : Nat) :
    (∃ text, (dest.recheckVote now slot id).2 = .error text ∧ Refusal slot text) ∨
      (dest.recheckVote now slot id).2 = .ok () ∧ ∃ vote, (slot, vote) ∈ dest.prepareNode := by
  unfold recheckVote
  cases found : dest.prepareNode.lookup slot with
  | none => exact .inl ⟨_, rfl, .inr (.inl rfl)⟩
  | some vote =>
    have member := lookup_mem found
    obtain ⟨target, epoch⟩ := tended.votes vote member
    simp only [target, epoch, ne_eq, not_true_eq_false, if_false]
    split
    · exact .inl ⟨_, rfl, .inr (.inr rfl)⟩
    refine .inr ⟨?_, vote, member⟩
    unfold prepareTopologyReady topologyReady
    simp only [tended.me, if_true]
    rcases tended.ready with importing | owned
    · simp [importing]
    · have same : dest.ownerAt slot = id := by rw [ownerAt, owned, getD_some]
      simp [same]

theorem Tended.commit (tended : Tended slot id dest) (now later : Nat) (save : Save) :
    (∃ after text, dest.commitPrepareNode now later slot id save = (after, .error text) ∧ Refusal slot text ∧ Fades dest after) ∨
      ∃ after, dest.commitPrepareNode now later slot id save = (after, .ok ()) ∧ Committed slot id dest after ∧
        ∃ vote, (slot, vote) ∈ dest.prepareNode := by
  obtain ⟨checked, after, cleared, ⟨text, refused, fades, why⟩ | ⟨done, committed, -, -, verdict⟩⟩ :=
    commitPrepareNode_cases dest now later slot id save
  · refine .inl ⟨after, text, refused, ?_, fades⟩
    cases why with
    | range outside => exact absurd tended.inside (not_lt.mpr outside)
    | hook => exact .inl rfl
    | vote _ wrong =>
      rcases (tended.fades cleared).recheck later with ⟨same, verdict, refusal⟩ | ⟨fine, -⟩
      · rw [wrong] at verdict
        cases verdict
        exact refusal
      · rw [fine] at wrong
        cases wrong
    | unknown missing =>
      rw [tended.known] at missing
      cases missing
  · refine .inr ⟨after, done, committed, ?_⟩
    rcases (tended.fades cleared).recheck later with ⟨text, wrong, -⟩ | ⟨-, vote, member⟩
    · rw [verdict] at wrong
      cases wrong
    · obtain ⟨votes, same, fewer⟩ := cleared
      rw [same] at member
      exact ⟨vote, fewer member⟩

/-! Commit requests. -/

/-- A commit that reaches the destination, and whether its success is made known to the source. -/
structure CommitRequest where
  resp : Bool
  handling : Handling
  acknowledged : Bool

variable (calls : CommitTry)

def overBus : List CommitRequest :=
  if calls.bus.fate.arrives then [⟨false, calls.bus.handling, calls.bus.fate.completes⟩] else []

/-- Over the client protocol the owner is asked for once more. -/
def overResp : List CommitRequest :=
  if calls.connect.isNone && calls.commit.fate.arrives then
    [⟨true, calls.commit.handling, calls.commit.fate.completes && calls.verify.completes⟩]
  else []

def commitRequests : List CommitRequest :=
  if calls.injected then [] else overBus calls ++ if calls.bus.fate.completes then [] else overResp calls

def answerCommit (slot : Nat) (id : String) (dest : Cluster) (request : CommitRequest) : Cluster × Except String Unit :=
  if request.resp then dest.handleClusterSetslot slot request.handling (.commitPrepare id) else dest.handleCommit slot id request.handling

/-- A refusal that neither reads as a success nor as coming from an older peer. -/
def Plain (request : CommitRequest) (text : String) : Prop := text ≠ "ok" ∧ (request.resp = true → unknownSubcommand text = false)

theorem Tended.answer (tended : Tended slot id dest) (request : CommitRequest) :
    (∃ after text, answerCommit slot id dest request = (after, .error text) ∧ Plain request text ∧ Fades dest after) ∨
      ∃ after, answerCommit slot id dest request = (after, .ok ()) ∧ Taken slot id after ∧ ∃ vote, (slot, vote) ∈ dest.prepareNode := by
  obtain ⟨resp, handling, acknowledged⟩ := request
  have carried := tended.commit handling.now handling.later handling.save
  cases resp with
  | false =>
    rcases carried with ⟨after, text, refused, refusal, fades⟩ | ⟨after, done, committed, voted⟩
    · exact .inl ⟨after, text, refused, ⟨refusal.ne_ok, nofun⟩, fades⟩
    · exact .inr ⟨after, done, tended.committed committed, voted⟩
  | true =>
    rcases carried with ⟨after, text, refused, refusal, fades⟩ | ⟨after, done, committed, voted⟩
    · have operation : dest.setslotOperation slot handling (.commitPrepare id) = (after, .error text) := refused
      exact .inl ⟨after, _, setslot_refused tended.inside operation, ⟨prefixed_ne_ok (by decide) _, fun _ => refusal.understood⟩, fades⟩
    · have operation : dest.setslotOperation slot handling (.commitPrepare id) = (after, .ok ()) := done
      obtain ⟨saved, handled, fades⟩ := setslot_done tended.inside operation
      exact .inr ⟨saved, handled, (tended.committed committed).fades fades, voted⟩

/-- What an attempt comes to: refusals only; a commit of which the source learns; or one of which it does not. -/
inductive Attempt (slot : Nat) (id : String) (requests : List CommitRequest) (dest : Cluster) : Cluster × Option String → Prop where
  | refused (after : Cluster) (text : String) (wrong : text ≠ "ok") (fades : Fades dest after)
      (passes : ∀ rest, firstAccepted (answerCommit slot id) dest (requests ++ rest) = firstAccepted (answerCommit slot id) after rest) :
      Attempt slot id requests dest (after, some text)
  | heard (request : CommitRequest) (after : Cluster) (taken : Taken slot id after) (acknowledged : request.acknowledged = true)
      (first : ∀ rest, firstAccepted (answerCommit slot id) dest (requests ++ rest) = some (request, after)) :
      Attempt slot id requests dest (after, none)
  | unheard (request : CommitRequest) (committed after : Cluster) (text : String) (wrong : text ≠ "ok") (taken : Taken slot id after)
      (silent : request.acknowledged = false)
      (first : ∀ rest, firstAccepted (answerCommit slot id) dest (requests ++ rest) = some (request, committed)) :
      Attempt slot id requests dest (after, some text)

theorem Taken.verified (taken : Taken slot id dest) (named : id ≠ "") : verifyRemoteSlotOwner .delivered dest slot id = .ok () := by
  obtain ⟨node, found⟩ : ∃ node, dest.nodes.get id = some node := isSome_iff_exists.mp taken.known
  have shown : dest.ownerOf slot = some node := by
    rw [ownerOf, taken.owner, bind_some, if_neg named, found]
  have same : node.id = id := (get_eq_some.mp found).2
  simp [verifyRemoteSlotOwner, remoteSlotOwnerId, ask, shown, same]

theorem Taken.answer (taken : Taken slot id dest) (request : CommitRequest) :
    ∃ after text, answerCommit slot id dest request = (after, .error text) ∧ Plain request text ∧ Taken slot id after := by
  rcases taken.toTended.answer request with ⟨after, text, refused, plain, fades⟩ | ⟨_, _, _, vote, member⟩
  · exact ⟨after, text, refused, plain, taken.fades fades⟩
  · exact absurd member (taken.voteless vote)

/-! Attempts. -/

private theorem destSetslot_lost {failure : IoFailure} (lost : call.fate = .requestLost failure) :
    destSetslot call slot command dest = (dest, .error failure.text) := by
  rw [destSetslot, lost, exchange]

private theorem destSetslot_unheard {failure : IoFailure} (lost : call.fate = .replyLost failure) :
    destSetslot call slot command dest = ((dest.handleClusterSetslot slot call.handling command).1, .error failure.text) := by
  rw [destSetslot, lost, exchange]

private theorem destSetslot_delivered (delivered : call.fate = .delivered) :
    destSetslot call slot command dest = dest.handleClusterSetslot slot call.handling command := by
  rw [destSetslot, delivered, exchange]

/-- An attempt over the client protocol at a destination that has not taken the slot. -/
theorem Tended.overResp (tended : Tended slot id dest) (named : id ≠ "") (calls : CommitTry) :
    Attempt slot id (overResp calls) dest (applyDestOverResp calls slot id dest) := by
  unfold applyDestOverResp SlotHandover.overResp
  cases calls.connect with
  | some failure => exact .refused dest _ (prefixed_ne_ok (by decide) _) (.refl dest) fun _ => rfl
  | none =>
    unfold commitOverResp
    simp only [connectDest]
    cases fate : calls.commit.fate with
    | requestLost failure =>
      rw [destSetslot_lost fate]
      simp only [failure.ours]
      exact .refused dest _ failure.failure (.refl dest) fun _ => rfl
    | replyLost failure =>
      rw [destSetslot_unheard fate]
      simp only [failure.ours]
      rcases tended.answer ⟨true, calls.commit.handling, false⟩ with ⟨after, text, refused, -, fades⟩ | ⟨after, done, taken, -⟩
      · have handled : (dest.handleClusterSetslot slot calls.commit.handling (.commitPrepare id)).1 = after := congrArg Prod.fst refused
        rw [handled]
        exact .refused after _ failure.failure fades fun rest => firstAccepted_error refused rest
      · have handled : (dest.handleClusterSetslot slot calls.commit.handling (.commitPrepare id)).1 = after := congrArg Prod.fst done
        rw [handled]
        exact .unheard ⟨true, calls.commit.handling, false⟩ after after _ failure.failure taken rfl fun rest => firstAccepted_ok done rest
    | delivered =>
      rw [destSetslot_delivered fate]
      rcases tended.answer ⟨true, calls.commit.handling, calls.verify.completes⟩ with
        ⟨after, text, refused, plain, fades⟩ | ⟨after, done, taken, -⟩
      · have handled : dest.handleClusterSetslot slot calls.commit.handling (.commitPrepare id) = (after, .error text) := refused
        simp only [handled, plain.2 rfl]
        exact .refused after text plain.1 fades fun rest => firstAccepted_error refused rest
      · have handled : dest.handleClusterSetslot slot calls.commit.handling (.commitPrepare id) = (after, .ok ()) := done
        simp only [handled]
        cases verify : calls.verify with
        | delivered =>
          rw [verify] at done
          simp only [taken.verified named]
          exact .heard ⟨true, calls.commit.handling, true⟩ after taken rfl fun rest => firstAccepted_ok done rest
        | requestLost failure | replyLost failure =>
          rw [verify] at done
          exact .unheard ⟨true, calls.commit.handling, false⟩ after after _ (prefixed_ne_ok (by decide) _) taken rfl
            fun rest => firstAccepted_ok done rest

private theorem Taken.refuses (taken : Taken slot id dest) (requests : List CommitRequest) :
    firstAccepted (answerCommit slot id) dest requests = none := by
  induction requests generalizing dest with
  | nil => rfl
  | cons request requests ih =>
    obtain ⟨after, text, refused, -, still⟩ := taken.answer request
    rw [firstAccepted_error refused]
    exact ih still

theorem Taken.failed {requests : List CommitRequest} {result : Cluster × Option String} (taken : Taken slot id dest)
    (attempt : Attempt slot id requests dest result) : ∃ after text, result = (after, some text) ∧ text ≠ "ok" ∧ Taken slot id after := by
  cases attempt with
  | refused after text wrong fades => exact ⟨after, text, rfl, wrong, taken.fades fades⟩
  | heard request after _ _ first =>
    have accepted := first []
    rw [taken.refuses] at accepted
    cases accepted
  | unheard _ _ after text wrong still => exact ⟨after, text, rfl, wrong, still⟩

theorem Tended.attempt (tended : Tended slot id dest) (named : id ≠ "") (calls : CommitTry) :
    Attempt slot id (commitRequests calls) dest (applyDestNode calls slot id dest) := by
  unfold applyDestNode commitRequests
  cases calls.injected with
  | true => exact .refused dest _ (by decide) (.refl dest) fun _ => rfl
  | false =>
    simp only [overBus, busRpc]
    cases calls.bus.fate with
    | requestLost failure => exact tended.overResp named calls
    | replyLost failure =>
      simp only [exchange, Fate.arrives, Fate.completes]
      rcases tended.answer ⟨false, calls.bus.handling, false⟩ with ⟨middle, text, refused, -, fades⟩ | ⟨middle, done, taken, -⟩
      · have handled : (dest.handleCommit slot id calls.bus.handling).1 = middle := congrArg Prod.fst refused
        have skips (rest : List CommitRequest) := firstAccepted_error refused (SlotHandover.overResp calls ++ rest)
        rw [handled]
        -- The request came to nothing, so what counts is the one over the client protocol.
        have fallback := (tended.fades fades).overResp named calls
        generalize applyDestOverResp calls slot id middle = result at fallback
        cases fallback with
        | refused after text wrong later passes =>
          exact .refused after text wrong (fades.trans later) fun rest => (skips rest).trans (passes rest)
        | heard request after taken acknowledged first => exact .heard request after taken acknowledged fun rest => (skips rest).trans (first rest)
        | unheard request committed after text wrong taken silent first =>
          exact .unheard request committed after text wrong taken silent fun rest => (skips rest).trans (first rest)
      · have handled : (dest.handleCommit slot id calls.bus.handling).1 = middle := congrArg Prod.fst done
        obtain ⟨after, text, failed, wrong, still⟩ := taken.failed (taken.toTended.overResp named calls)
        rw [handled, failed]
        exact .unheard ⟨false, calls.bus.handling, false⟩ middle after text wrong still rfl fun rest => firstAccepted_ok done _
    | delivered =>
      simp only [exchange, Fate.arrives, Fate.completes]
      rcases tended.answer ⟨false, calls.bus.handling, true⟩ with ⟨after, text, refused, plain, fades⟩ | ⟨after, done, taken, -⟩
      · have handled : dest.handleCommit slot id calls.bus.handling = (after, .error text) := refused
        rw [handled]
        exact .refused after text plain.1 fades fun rest => firstAccepted_error refused rest
      · have handled : dest.handleCommit slot id calls.bus.handling = (after, .ok ()) := done
        rw [handled]
        exact .heard ⟨false, calls.bus.handling, true⟩ after taken rfl fun rest => firstAccepted_ok done rest

theorem Taken.retry (attempts : List CommitTry) (wrong : lastErr ≠ "ok") (taken : Taken slot id dest) (named : id ≠ "") :
    ∃ after text, applyDestNodeWithRetry slot id lastErr attempts dest = (after, text) ∧ text ≠ "ok" ∧ Taken slot id after := by
  induction attempts generalizing dest lastErr with
  | nil => exact ⟨dest, lastErr, rfl, wrong, taken⟩
  | cons calls attempts ih =>
    obtain ⟨after, text, failed, bad, still⟩ := taken.failed (taken.toTended.attempt named calls)
    rw [applyDestNodeWithRetry, failed]
    exact ih bad still

/-- All attempts together end with a success just when the source learns of the first commit that is carried out. -/
theorem Tended.retry (attempts : List CommitTry) (wrong : lastErr ≠ "ok") (tended : Tended slot id dest) (named : id ≠ "") :
    match firstAccepted (answerCommit slot id) dest (attempts.flatMap commitRequests) with
    | none => ∃ after text, applyDestNodeWithRetry slot id lastErr attempts dest = (after, text) ∧ text ≠ "ok" ∧ Fades dest after
    | some (request, committed) =>
      if request.acknowledged = true then
        applyDestNodeWithRetry slot id lastErr attempts dest = (committed, "ok") ∧ Taken slot id committed
      else ∃ after text, applyDestNodeWithRetry slot id lastErr attempts dest = (after, text) ∧ text ≠ "ok" ∧ Taken slot id after := by
  induction attempts generalizing dest lastErr with
  | nil => exact ⟨dest, lastErr, rfl, wrong, .refl dest⟩
  | cons calls attempts ih =>
    rw [flatMap_cons, applyDestNodeWithRetry]
    have attempt := tended.attempt named calls
    generalize applyDestNode calls slot id dest = result at attempt
    cases attempt with
    | refused after text bad fades passes =>
      rw [passes]
      have rest := ih bad (tended.fades fades)
      split at rest
      next =>
        obtain ⟨last, problem, same, worse, later⟩ := rest
        exact ⟨last, problem, same, worse, fades.trans later⟩
      next => exact rest
    | heard request after taken acknowledged first =>
      rw [first]
      simp only [acknowledged]
      exact ⟨trivial, taken⟩
    | unheard request committed after text bad taken silent first =>
      rw [first]
      simp only [silent]
      exact taken.retry attempts bad named

/-! The source. -/

def answerSource (slot : Nat) (id : String) (source : Cluster) (handling : Handling) : Cluster × Except String Unit :=
  source.commitPrepareNode handling.now handling.later slot id handling.save

private theorem recheckVote_ne_ok {now : Nat}
    (wrong : (state.recheckVote now slot nodeId).2 = .error text) : text ≠ "ok" := by
  unfold recheckVote prepareTopologyReady topologyReady at wrong
  dsimp only at wrong
  repeat' split at wrong
  all_goals cases wrong
  -- every text but the expired vote's goes on after the name
  all_goals try
    simp only [String.append_assoc]
    exact prefixed_ne_ok (by decide) _
  exact Refusal.ne_ok (.inr (.inr rfl))

theorem Refused.ne_ok {checked : Cluster} {later : Nat}
    (refused : Refused cluster checked later slot nodeId text) : text ≠ "ok" := by
  cases refused with
  | range | hook => decide
  | vote _ verdict => exact recheckVote_ne_ok verdict
  | unknown => exact prefixed_ne_ok (by decide) _

theorem source_retry (attempts : List Handling) (wrong : lastErr ≠ "ok") (named : id ≠ "") :
    match firstAccepted (answerSource slot id) source attempts with
    | none => ∃ after text, applySourceNodeWithRetry slot id lastErr attempts source = (after, text) ∧ text ≠ "ok" ∧ VotesOnly source after
    | some (_, after) => applySourceNodeWithRetry slot id lastErr attempts source = (after, "ok") ∧ after.ownerIdOf slot = some id ∧
        after.myId = source.myId := by
  induction attempts generalizing source lastErr with
  | nil => exact ⟨source, lastErr, rfl, wrong, .refl source⟩
  | cons handling attempts ih =>
    rw [applySourceNodeWithRetry]
    obtain ⟨checked, after, -, ⟨text, refused, fades, why⟩ | ⟨done, committed, inside, known, -⟩⟩ :=
      commitPrepareNode_cases source handling.now handling.later slot id handling.save
    · rw [firstAccepted_error (show answerSource slot id source handling = (after, .error text) from refused), refused]
      have rest := @ih after text why.ne_ok
      split at rest
      next =>
        obtain ⟨last, problem, same, worse, later⟩ := rest
        exact ⟨last, problem, same, worse, fades.votesOnly.trans later⟩
      next =>
        rw [fades.votesOnly.myId] at rest
        exact rest
    · rw [firstAccepted_ok (show answerSource slot id source handling = (after, .ok ()) from done), done]
      have owner := committed.ownerIdOf inside
      obtain ⟨votes, same, -⟩ := committed
      obtain ⟨node, found⟩ : ∃ node, after.nodes.get id = some node := by
        rw [same]
        exact isSome_iff_exists.mp known
      have owned : after.sourceOwnsAs slot id = true := by
        rw [sourceOwnsAs, ownerOf, owner, bind_some, if_neg named, found]
        simpa using (get_eq_some.mp found).2
      simp only [owned, if_true]
      exact ⟨trivial, owner, by rw [same]; rfl⟩

/-! Handing the slot back. -/

def rollbackRequests (calls : RollbackTry) : List Handling :=
  if calls.connect.isNone && calls.node.fate.arrives then [calls.node.handling] else []

def answerNode (slot : Nat) (sourceId : String) (dest : Cluster) (handling : Handling) : Cluster × Except String Unit :=
  dest.handleClusterSetslot slot handling (.node sourceId)

def HandedBack (slot : Nat) (sourceId id : String) (dest : Cluster) : Prop := dest.ownerIdOf slot = some sourceId ∧ dest.myId = id

variable {sourceId : String}

theorem HandedBack.votesOnly (back : HandedBack slot sourceId id dest) (same : VotesOnly dest after) : HandedBack slot sourceId id after :=
  ⟨(same.ownerIdOf slot).trans back.1, same.myId.trans back.2⟩

private theorem setNode_cases (dest : Cluster) (inside : slot < slotCount) :
    (∃ after text, dest.setNode slot sourceId = (after, .error text) ∧ VotesOnly dest after) ∨
      ∃ after, dest.setNode slot sourceId = (after, .ok ()) ∧ HandedBack slot sourceId dest.myId after := by
  unfold setNode reassignSlot
  split
  · exact .inl ⟨_, _, rfl, (takeHook_fades dest .sourceNodeFail).votesOnly⟩
  · rw [if_neg (not_le.mpr inside)]
    split
    · exact .inl ⟨dest, _, rfl, .refl dest⟩
    · exact .inr ⟨_, rfl, ownerIdOf_stamp inside, rfl⟩

theorem answerNode_cases : (∃ after text, answerNode slot sourceId dest handling = (after, .error text) ∧ VotesOnly dest after) ∨
      ∃ after, answerNode slot sourceId dest handling = (after, .ok ()) ∧ HandedBack slot sourceId dest.myId after := by
  by_cases inside : slot < slotCount
  · rcases @setNode_cases slot sourceId dest inside with ⟨after, text, refused, same⟩ | ⟨after, done, back⟩
    · have failed : dest.setslotOperation slot handling (.node sourceId) = (after, .error text) := refused
      exact .inl ⟨after, _, setslot_refused inside failed, same⟩
    · have passed : dest.setslotOperation slot handling (.node sourceId) = (after, .ok ()) := done
      obtain ⟨saved, handled, fades⟩ := setslot_done inside passed
      exact .inr ⟨saved, handled, back.votesOnly fades.votesOnly⟩
  · unfold answerNode handleClusterSetslot
    rw [if_pos (not_lt.mp inside)]
    exact .inl ⟨dest, _, rfl, .refl dest⟩

private theorem destSetslot_fst :
    (destSetslot call slot command dest).1 = (exchange call.fate (fun dest => dest.handleClusterSetslot slot call.handling command) dest).1 := by
  unfold destSetslot
  cases call.fate
  all_goals rfl

private theorem destSetslot_keeps {holds : Cluster → Prop}
    (keeps : ∀ dest, holds dest → holds (dest.handleClusterSetslot slot call.handling command).1) (start : holds dest) :
    holds (destSetslot call slot command dest).1 := by
  rw [destSetslot_fst]
  exact exchange_keeps keeps start

section
variable (back : HandedBack slot sourceId id dest)
include back

private theorem answerNode_keeps : HandedBack slot sourceId id (answerNode slot sourceId dest handling).1 := by
  rcases answerNode_cases with ⟨after, text, refused, same⟩ | ⟨after, done, handed⟩
  · rw [refused]
    exact back.votesOnly same
  · rw [done]
    exact back.2 ▸ handed

private theorem setImporting_keeps : HandedBack slot sourceId id (dest.handleClusterSetslot slot handling (.importing sourceId)).1 := by
  refine setslot_keeps back (fun _ _ here fades => here.votesOnly fades.votesOnly) fun inside => ?_
  unfold setslotOperation setImporting
  dsimp only
  rw [if_neg (not_le.mpr inside)]
  split
  · exact back
  · exact back

private theorem destImporting_keeps : HandedBack slot sourceId id (destSetslot call slot (.importing sourceId) dest).1 := by
  refine destSetslot_keeps (fun other here => ?_) back
  exact setImporting_keeps here

/-- A slot that has been handed back stays so. -/
private theorem rollbackDest_keeps (calls : RollbackTry) : HandedBack slot sourceId id (rollbackDest calls slot sourceId dest).1 := by
  have asked : HandedBack slot sourceId id (destSetslot calls.node slot (.node sourceId) dest).1 :=
    destSetslot_keeps (fun _ here => answerNode_keeps here) back
  unfold rollbackDest
  split
  · exact back
  split
  next same =>
    rw [same] at asked
    exact asked
  next same =>
    rw [same] at asked
    split
    · exact asked
    · exact destImporting_keeps asked

end

private theorem rollback_keeps (attempts : List RollbackTry) (back : HandedBack slot sourceId id dest) :
    HandedBack slot sourceId id (rollbackDestOwnershipToSource slot sourceId lastErr attempts dest).1 := by
  induction attempts generalizing dest lastErr with
  | nil => exact back
  | cons calls attempts ih =>
    have kept := rollbackDest_keeps back calls
    rw [rollbackDestOwnershipToSource.eq_2]
    split
    next same =>
      rw [same] at kept
      exact kept
    next same =>
      rw [same] at kept
      exact ih kept

/-- An attempt that no request of which is carried out changes nothing; otherwise the slot is handed back. -/
private theorem rollbackDest_cases (calls : RollbackTry) (dest : Cluster) :
    (∃ after text, rollbackDest calls slot sourceId dest = (after, some text) ∧ VotesOnly dest after ∧
        ∀ rest, firstAccepted (answerNode slot sourceId) dest (rollbackRequests calls ++ rest) =
          firstAccepted (answerNode slot sourceId) after rest) ∨
      HandedBack slot sourceId dest.myId (rollbackDest calls slot sourceId dest).1 ∧
        ∀ rest, (firstAccepted (answerNode slot sourceId) dest (rollbackRequests calls ++ rest)).isSome = true := by
  unfold rollbackDest rollbackRequests
  cases calls.connect with
  | some failure => exact .inl ⟨dest, _, rfl, .refl dest, fun _ => rfl⟩
  | none =>
    simp only [connectDest]
    rcases answerNode_cases with ⟨after, text, refused, same⟩ | ⟨after, done, back⟩
    · have handled : dest.handleClusterSetslot slot calls.node.handling (.node sourceId) = (after, .error text) := refused
      have passes (rest : List Handling) := firstAccepted_error refused rest
      cases fate : calls.node.fate with
      | requestLost failure =>
        rw [destSetslot_lost fate]
        exact .inl ⟨dest, _, rfl, .refl dest, fun _ => rfl⟩
      | replyLost failure =>
        rw [destSetslot_unheard fate, handled]
        exact .inl ⟨after, _, rfl, same, passes⟩
      | delivered =>
        rw [destSetslot_delivered fate, handled]
        exact .inl ⟨after, _, rfl, same, passes⟩
    · have handled : dest.handleClusterSetslot slot calls.node.handling (.node sourceId) = (after, .ok ()) := done
      have accepts (rest : List Handling) : (firstAccepted (answerNode slot sourceId) dest (calls.node.handling :: rest)).isSome = true := by
        rw [firstAccepted_ok done rest]
        rfl
      cases fate : calls.node.fate with
      | requestLost failure =>
        rw [destSetslot_lost fate]
        exact .inl ⟨dest, _, rfl, .refl dest, fun _ => rfl⟩
      | replyLost failure =>
        rw [destSetslot_unheard fate, handled]
        exact .inr ⟨back, accepts⟩
      | delivered =>
        rw [destSetslot_delivered fate, handled]
        refine .inr ⟨?_, accepts⟩
        dsimp only
        split
        · exact back
        · exact destImporting_keeps back

/-- The slot is handed back just when one of the requests is carried out. -/
theorem rollback_retry (attempts : List RollbackTry) (lastErr : String) (dest : Cluster) :
    if (firstAccepted (answerNode slot sourceId) dest (attempts.flatMap rollbackRequests)).isSome = true then
      HandedBack slot sourceId dest.myId (rollbackDestOwnershipToSource slot sourceId lastErr attempts dest).1
    else VotesOnly dest (rollbackDestOwnershipToSource slot sourceId lastErr attempts dest).1 := by
  induction attempts generalizing dest lastErr with
  | nil => exact .refl dest
  | cons calls attempts ih =>
    rw [flatMap_cons, rollbackDestOwnershipToSource.eq_2]
    rcases @rollbackDest_cases slot sourceId calls dest with ⟨after, text, failed, same, passes⟩ | ⟨back, accepts⟩
    · rw [passes, failed]
      have rest := ih text after
      split at rest
      next some =>
        rw [if_pos some]
        exact same.myId ▸ rest
      next none =>
        rw [if_neg none]
        exact same.trans rest
    · rw [if_pos (accepts _)]
      split
      next same =>
        rw [same] at back
        exact back
      next same =>
        rw [same] at back
        exact rollback_keeps attempts back

/-! The votes. -/

def Voted (slot : Nat) (id : String) (dest : Cluster) : Prop :=
  dest.nodes.containsKey id = true ∧ ∀ vote, (slot, vote) ∈ dest.prepareNode → vote.targetId = id ∧ vote.slotEpoch = dest.slotEpoch slot

private theorem Voted.of_prepared (done : (dest.setPrepareNode handling.now slot id handling.save) = (after, .ok ())) :
    Voted slot id after := by
  obtain ⟨⟨votes, same⟩, cast⟩ := setPrepareNode_votes dest handling.now slot id handling.save
  rw [done] at same cast
  obtain ⟨known, valid⟩ := cast rfl
  refine ⟨?_, fun vote member => ?_⟩
  · rw [same]
    exact known
  · obtain ⟨target, epoch⟩ := valid vote member
    refine ⟨target, epoch.trans ?_⟩
    rw [same]
    rfl

private theorem Voted.fades (voted : Voted slot id dest) (fades : Fades dest after) : Voted slot id after := by
  obtain ⟨votes, same, fewer⟩ := fades
  rw [Voted, same]
  exact ⟨voted.1, fun vote member => voted.2 vote (fewer member)⟩

private theorem handlePrepare_votesOnly (dest : Cluster) (handling : Handling) (command : Setslot)
    (quiet : command = .prepare id ∨ command = .abortPrepare) : VotesOnly dest (dest.handleClusterSetslot slot handling command).1 := by
  refine setslot_keeps (.refl dest) (fun _ _ same fades => same.trans fades.votesOnly) fun _ => ?_
  rcases quiet with rfl | rfl
  · exact (setPrepareNode_votes dest handling.now slot id handling.save).1
  · exact (abortPrepareNode_fades dest slot handling.save).votesOnly

private theorem busRpc_fst (handle : Cluster → Handling → Cluster × Except String Unit) :
    (busRpc call handle dest).1 = (exchange call.fate (fun dest => handle dest call.handling) dest).1 := by
  unfold busRpc
  cases call.fate with
  | requestLost | replyLost => rfl
  | delivered =>
    simp only [exchange]
    cases (handle dest call.handling).2 with
    | error text | ok => rfl

private theorem busRpc_votesOnly {handle : Cluster → Handling → Cluster × Except String Unit}
    (keeps : ∀ dest handling, VotesOnly dest (handle dest handling).1) : VotesOnly dest (busRpc call handle dest).1 := by
  rw [busRpc_fst]
  exact @exchange_keeps _ _ _ _ _ _ (VotesOnly dest) (fun other same => same.trans (keeps other call.handling)) (.refl dest)

private theorem destSetslot_votesOnly (call : Call) (command : Setslot) (quiet : command = .prepare id ∨ command = .abortPrepare) :
    VotesOnly dest (destSetslot call slot command dest).1 :=
  @destSetslot_keeps command call slot dest (VotesOnly dest)
    (fun other same => same.trans (handlePrepare_votesOnly other call.handling command quiet))
    (.refl dest)

private theorem busRpc_ok {handle : Cluster → Handling → Cluster × Except String Unit}
    (done : busRpc call handle dest = (after, .ok ())) : handle dest call.handling = (after, .ok ()) := by
  unfold busRpc at done
  cases fate : call.fate with
  | requestLost | replyLost =>
    rw [fate] at done
    cases done
  | delivered =>
    rw [fate] at done
    simp only [exchange] at done
    cases answer : handle dest call.handling with
    | mk middle result =>
      rw [answer] at done
      cases result with
      | error text => cases done
      | ok =>
        cases done
        rfl

private theorem destSetslot_ok (done : destSetslot call slot command dest = (after, .ok ())) :
    dest.handleClusterSetslot slot call.handling command = (after, .ok ()) := by
  cases fate : call.fate with
  | requestLost =>
    rw [destSetslot_lost fate] at done
    cases done
  | replyLost =>
    rw [destSetslot_unheard fate] at done
    cases done
  | delivered => exact (destSetslot_delivered fate).symm.trans done

/-- Asking for a vote changes nothing but votes, and a success means that there is one (unless it has expired meanwhile). -/
theorem prepareDestVote_votes (calls : PrepareCalls) (inside : slot < slotCount) (sourceId : String) (dest : Cluster) :
    VotesOnly dest (prepareDestVote calls slot id sourceId dest).1 ∧
      ((prepareDestVote calls slot id sourceId dest).2 = .ok () → Voted slot id (prepareDestVote calls slot id sourceId dest).1) := by
  have bus : VotesOnly dest (busRpc calls.bus (·.handlePrepare slot id) dest).1 :=
    busRpc_votesOnly fun dest handling => (setPrepareNode_votes dest handling.now slot id handling.save).1
  unfold prepareDestVote
  split
  · exact ⟨.refl dest, nofun⟩
  split
  next middle same =>
    rw [same] at bus
    exact ⟨bus, fun _ => .of_prepared (busRpc_ok same)⟩
  next middle text same =>
    rw [same] at bus
    exact ⟨bus, nofun⟩
  next middle same =>
    rw [same] at bus
    have resp := bus.trans (@destSetslot_votesOnly slot id middle calls.prepare (.prepare id) (.inl rfl))
    split
    · exact ⟨bus, nofun⟩
    split
    · exact ⟨bus, nofun⟩
    split
    · exact ⟨bus, nofun⟩
    dsimp only
    split
    · exact ⟨bus, nofun⟩
    split
    next last done =>
      rw [done] at resp
      refine ⟨resp, fun _ => ?_⟩
      have handled := destSetslot_ok done
      cases answer : middle.setslotOperation slot calls.prepare.handling (.prepare id) with
      | mk voted result =>
        cases result with
        | error text =>
          rw [setslot_refused inside answer] at handled
          cases handled
        | ok =>
          obtain ⟨saved, finished, fades⟩ := setslot_done inside answer
          rw [handled] at finished
          cases finished
          exact (Voted.of_prepared (show middle.setPrepareNode calls.prepare.handling.now slot id
            calls.prepare.handling.save = (voted, .ok ()) from answer)).fades fades
    next last text done =>
      rw [done] at resp
      exact ⟨resp, nofun⟩

theorem abortDestPrepare_votesOnly (calls : AbortCalls) (dest : Cluster) : VotesOnly dest (abortDestPrepare calls slot dest).1 := by
  have bus : VotesOnly dest (busRpc calls.bus (·.handleAbort slot) dest).1 :=
    busRpc_votesOnly fun dest handling => (abortPrepareNode_fades dest slot handling.save).votesOnly
  unfold abortDestPrepare
  split
  next same =>
    rw [same] at bus
    exact bus
  next same =>
    rw [same] at bus
    exact bus
  next middle same =>
    rw [same] at bus
    have resp := bus.trans (@destSetslot_votesOnly slot "" middle calls.abort .abortPrepare (.inr rfl))
    split
    · exact bus
    split
    next done =>
      rw [done] at resp
      exact resp
    next done =>
      rw [done] at resp
      exact resp

/-! The whole handover. -/

def BothOwn (slot : Nat) (ends : Cluster × Cluster) : Prop := ends.1.ownsSlot slot = true ∧ ends.2.ownsSlot slot = true

private theorem ownsSlot_iff : cluster.ownsSlot slot = true ↔ cluster.ownerIdOf slot = some cluster.myId := by
  unfold ownsSlot ClusterState.ownerIdOf
  cases cluster.slotOwner.toList[slot]? with
  | none | some owner => simp

variable (network : Network)

/-- The requests to commit, and to hand the slot back, that arrive at the destination. -/
def commitsArriving : List CommitRequest := network.commits.toList.flatMap commitRequests
def rollbacksArriving : List Handling := network.rollbacks.toList.flatMap rollbackRequests

/-- The source learns of the first commit that the destination carries out, and it can then commit itself or the destination
carries out a request to hand the slot back. -/
def Agreed (slot : Nat) (id : String) (source dest : Cluster) : Prop :=
  ∀ request after, firstAccepted (answerCommit slot id) dest (commitsArriving network) = some (request, after) →
    request.acknowledged = true ∧
      ((firstAccepted (answerSource slot id) source network.sourceCommits.toList).isSome = true ∨
        (firstAccepted (answerNode slot source.myId) after (rollbacksArriving network)).isSome = true)

private theorem setMigrating_keeps (source : Cluster) (slot : Nat) (id : String) :
    (source.settled (source.setMigrating slot id)).1.slotOwner = source.slotOwner ∧
      (source.settled (source.setMigrating slot id)).1.myId = source.myId := by
  unfold setMigrating
  split
  · exact ⟨rfl, rfl⟩
  split
  · exact ⟨rfl, rfl⟩
  · split
    · exact ⟨rfl, rfl⟩
    · exact ⟨rfl, rfl⟩

private theorem compensate_ends (slot : Nat) (id : String) (source dest : Cluster) (report : HandoverReport) :
    ∃ lastErr, (compensate network slot id source dest report).1.1 = (source.settled (source.setMigrating slot id)).1 ∧
      (compensate network slot id source dest report).1.2 =
        (rollbackDestOwnershipToSource slot source.myId lastErr network.rollbacks.toList dest).1 := by
  refine ⟨"dest rollback not attempted", ?_⟩
  have sameId := (setMigrating_keeps source slot id).2
  unfold compensate
  cases answer : source.settled (source.setMigrating slot id) with
  | mk next result =>
    rw [answer] at sameId
    cases result
    all_goals
      dsimp only at sameId ⊢
      rw [sameId]
      cases rolled : rollbackDestOwnershipToSource slot source.myId "dest rollback not attempted" network.rollbacks.toList dest with
      | mk last outcome =>
        cases outcome
        all_goals exact ⟨rfl, rfl⟩

theorem commitDualEnd_agreed (tended : Tended slot id dest) (named : id ≠ "")
    (owner : source.ownerIdOf slot = some source.myId) (apart : dest.ownerIdOf slot ≠ some id) (distinct : source.myId ≠ id) :
    ¬ BothOwn slot (commitDualEnd network slot id source dest).1 ↔ Agreed network slot id source dest := by
  have committing := tended.retry network.commits.toList (show "dest NODE not attempted" ≠ "ok" by decide) named
  unfold commitDualEnd Agreed commitsArriving
  cases first : firstAccepted (answerCommit slot id) dest (network.commits.toList.flatMap commitRequests) with
  | none =>
    rw [first] at committing
    obtain ⟨after, text, same, wrong, fades⟩ := committing
    simp only [same, wrong, if_false, false_and]
    refine ⟨nofun, fun _ both => apart ?_⟩
    have owned := (ownsSlot_iff).mp both.2
    rwa [fades.votesOnly.ownerIdOf, fades.votesOnly.myId, tended.me] at owned
  | some pair =>
    obtain ⟨request, committed⟩ := pair
    rw [first] at committing
    dsimp only at committing
    cases heard : request.acknowledged with
    | false =>
      rw [if_neg (by simp [heard])] at committing
      obtain ⟨after, text, same, wrong, taken⟩ := committing
      simp only [same, wrong, if_false, false_and]
      constructor
      · intro apart
        refine absurd ⟨(ownsSlot_iff).mpr owner, (ownsSlot_iff).mpr ?_⟩ apart
        rw [taken.me]
        exact taken.owner
      · intro agreed
        have acknowledged := (agreed request committed rfl).1
        rw [heard] at acknowledged
        cases acknowledged
    | true =>
      rw [if_pos heard] at committing
      obtain ⟨same, taken⟩ := committing
      have own := @source_retry source "source NODE not attempted" slot id network.sourceCommits.toList (by decide) named
      simp only [same, if_true, true_and]
      cases second : firstAccepted (answerSource slot id) source network.sourceCommits.toList with
      | some pair =>
        rw [second] at own
        obtain ⟨done, handed, sameId⟩ := own
        simp only [done, ne_eq, not_true_eq_false, false_and, if_false]
        refine ⟨fun _ other last found => ?_, fun _ both => distinct ?_⟩
        · cases found
          exact ⟨heard, .inl rfl⟩
        · have owned := (ownsSlot_iff).mp both.1
          rw [handed, sameId] at owned
          exact (some_inj.mp owned).symm
      | none =>
        rw [second] at own
        obtain ⟨last, text, failed, wrong, votes⟩ := own
        have still : last.ownsSlot slot = true := by
          rw [votes.ownsSlot]
          exact (ownsSlot_iff).mpr owner
        simp only [failed, wrong, still, ne_eq, not_false_eq_true, and_self, if_true]
        generalize (⟨text, "ok", summarizeDualEndStatus text "ok", none⟩ : HandoverReport) = report
        obtain ⟨lastErr, first, back⟩ := compensate_ends network slot id last committed report
        have sourceOwns : (compensate network slot id last committed report).1.1.ownsSlot slot = true := by
          obtain ⟨owners, sameId⟩ := setMigrating_keeps last slot id
          rw [first, ownsSlot, owners, sameId]
          exact still
        have rolled := @rollback_retry slot last.myId network.rollbacks.toList lastErr committed
        rw [← back, votes.myId] at rolled
        constructor
        · intro apart other after found
          cases found
          refine ⟨heard, .inr ?_⟩
          by_contra none
          rw [rollbacksArriving] at none
          rw [if_neg none] at rolled
          refine apart ⟨sourceOwns, ?_⟩
          rw [rolled.ownsSlot, ownsSlot_iff, taken.me]
          exact taken.owner
        · intro agreed both
          rcases (agreed request committed rfl).2 with impossible | accepted
          · cases impossible
          rw [rollbacksArriving] at accepted
          rw [if_pos accepted] at rolled
          have owned := (ownsSlot_iff).mp both.2
          rw [rolled.1, rolled.2, taken.me] at owned
          exact distinct (some_inj.mp owned)

/-- The source owns the slot and migrates it to the destination, which imports it. -/
structure HandoverStart (slot : Nat) (source dest : Cluster) : Prop where
  owner : source.ownerIdOf slot = some source.myId
  migrating : source.migrating.lookup slot = some dest.myId
  importing : dest.importing.lookup slot = some source.myId
  apart : dest.ownerIdOf slot ≠ some dest.myId
  distinct : source.myId ≠ dest.myId
  named : dest.myId ≠ ""

/-- The ends at the beginning of the commit phase, if the votes get that far. -/
def votesStand (slot : Nat) (id : String) (source dest : Cluster) : Option (Cluster × Cluster) :=
  match prepareDualEndNode network slot id source dest with
  | (_, .error _) => none
  | ((source, dest), .ok ()) =>
    match recheckPrepareBeforeCommit network.recheck slot id source dest with
    | (_, .error _) => none
    | (source, .ok ()) => some (source, dest)

private theorem inside_of_owner {owner : String} (found : state.ownerIdOf slot = some owner) : slot < slotCount := by
  have bound := (List.getElem?_eq_some_iff.mp found).1
  rwa [Vector.length_toList] at bound

private theorem prepareDualEndNode_votes (inside : slot < slotCount) (source dest : Cluster) :
    VotesOnly source (prepareDualEndNode network slot id source dest).1.1 ∧ VotesOnly dest (prepareDualEndNode network slot id source dest).1.2 ∧
      ((prepareDualEndNode network slot id source dest).2 = .ok () → Voted slot id (prepareDualEndNode network slot id source dest).1.2) := by
  have own := (setPrepareNode_votes source network.vote.now slot id network.vote.save).1
  unfold prepareDualEndNode
  split
  next same =>
    rw [same] at own
    exact ⟨own, .refl dest, nofun⟩
  next next same =>
    rw [same] at own
    have remote := @prepareDestVote_votes slot id network.prepare inside next.myId dest
    split
    next middle _ answer =>
      rw [answer] at remote
      refine ⟨own.trans (abortPrepareNode_fades next slot network.abortPrepare).votesOnly,
        remote.1.trans (abortDestPrepare_votesOnly network.abortDest middle), nofun⟩
    next middle answer =>
      rw [answer] at remote
      exact ⟨own, remote.1, remote.2⟩

private theorem recheck_votes (calls : RecheckCalls) (source dest : Cluster) :
    VotesOnly source (recheckPrepareBeforeCommit calls slot id source dest).1 := by
  have checked := (checkPrepareValid_fades source calls.now calls.later slot id).votesOnly
  unfold recheckPrepareBeforeCommit
  split
  next same =>
    rw [same] at checked
    exact checked
  next same =>
    rw [same] at checked
    split
    · exact checked
    split
    · exact checked
    · split
      · exact checked
      · exact checked

private theorem closeDualEnd_owns (source dest : Cluster) (report : HandoverReport) :
    BothOwn slot (closeDualEnd network slot id source dest report).1 ↔ BothOwn slot (source, dest) := by
  have own := (abortPrepareNode_fades source slot network.abortPrepare).votesOnly
  unfold closeDualEnd BothOwn
  dsimp only
  split
  · dsimp only
    rw [own.ownsSlot, (abortDestPrepare_votesOnly network.abortDest dest).ownsSlot]
  · split
    · dsimp only
      rw [own.ownsSlot]
    · dsimp only
      rw [own.ownsSlot]

private theorem not_complete (start : HandoverStart slot source dest) (network : Network) :
    alreadyComplete network slot dest.myId source dest = false := by
  have other : source.sourceOwnsAs slot dest.myId = false := by
    rw [sourceOwnsAs, ownerOf, start.owner, bind_some]
    split
    · rfl
    cases found : source.nodes.get source.myId with
    | none => rfl
    | some node =>
      rw [any_some, (get_eq_some.mp found).2]
      simpa using start.distinct
  rw [alreadyComplete, other, Bool.false_and, Bool.false_and]

/-- A handover that fails before the commits changes nothing but votes. -/
private theorem dualEnd_cases (start : HandoverStart slot source dest) :
    match votesStand network slot dest.myId source dest with
    | none => VotesOnly source (dualEndSetslotNode network slot dest.myId source dest).1.1 ∧
        VotesOnly dest (dualEndSetslotNode network slot dest.myId source dest).1.2
    | some (ready, voted) => VotesOnly source ready ∧ VotesOnly dest voted ∧ Voted slot dest.myId voted ∧
        (BothOwn slot (dualEndSetslotNode network slot dest.myId source dest).1 ↔
          BothOwn slot (commitDualEnd network slot dest.myId ready voted).1) := by
  have prepared := @prepareDualEndNode_votes slot dest.myId network (inside_of_owner start.owner) source dest
  unfold votesStand dualEndSetslotNode
  rw [not_complete start network]
  simp only [Bool.false_eq_true, if_false]
  cases answer : prepareDualEndNode network slot dest.myId source dest with
  | mk ends result =>
    rw [answer] at prepared
    obtain ⟨own, remote, cast⟩ := prepared
    obtain ⟨ready, voted⟩ := ends
    cases result with
    | error text => exact ⟨own, remote⟩
    | ok =>
      have checked := own.trans (@recheck_votes slot dest.myId network.recheck ready voted)
      dsimp only
      cases again : recheckPrepareBeforeCommit network.recheck slot dest.myId ready voted with
      | mk last verdict =>
        rw [again] at checked
        cases verdict with
        | error text =>
          exact ⟨checked.trans (abortPrepareNode_fades last slot network.abortPrepare).votesOnly,
            remote.trans (abortDestPrepare_votesOnly network.abortDest voted)⟩
        | ok => exact ⟨checked, remote, cast rfl, closeDualEnd_owns network _ _ _⟩

/-- The ends never both name themselves just when, once the votes stand, they agree on the commit. -/
theorem never_both_own_iff {source : Cluster} (start : HandoverStart slot source dest) (network : Network) :
    ¬ BothOwn slot (dualEndSetslotNode network slot dest.myId source dest).1 ↔
      ∀ ready voted, votesStand network slot dest.myId source dest = some (ready, voted) → Agreed network slot dest.myId ready voted := by
  have phases := dualEnd_cases network start
  cases stand : votesStand network slot dest.myId source dest with
  | none =>
    rw [stand] at phases
    refine ⟨nofun, fun _ both => start.apart ?_⟩
    have owned := both.2
    rw [phases.2.ownsSlot] at owned
    exact (ownsSlot_iff).mp owned
  | some ends =>
    obtain ⟨ready, voted⟩ := ends
    rw [stand] at phases
    obtain ⟨own, remote, cast, same⟩ := phases
    have tended : Tended slot dest.myId voted := by
      refine ⟨remote.myId, inside_of_owner start.owner, cast.1, .inl ?_, cast.2⟩
      obtain ⟨votes, state⟩ := remote
      rw [state, isImporting, start.importing]
      rfl
    have committing := commitDualEnd_agreed network tended start.named (show ready.ownerIdOf slot = some ready.myId by
      rw [own.ownerIdOf, own.myId]
      exact start.owner) (show voted.ownerIdOf slot ≠ some dest.myId by
      rw [remote.ownerIdOf]
      exact start.apart) (show ready.myId ≠ dest.myId by
      rw [own.myId]
      exact start.distinct)
    rw [same, committing]
    constructor
    · intro agreed one other equal
      cases equal
      exact agreed
    · exact fun all => all ready voted rfl

/-! A handover of slot 5 from "a" to "b". -/

def sampleSource : Cluster :=
  run perform (singleNode "10.0.0.1" 7000 "a") [.addNode "b" "10.0.0.2" 7000, .setMigrating 5 "b"]

def sampleDest : Cluster :=
  run perform (fresh (withIdentity "10.0.0.2" 7000 "b" true none false) "10.0.0.2" 7000)
    [.addNode "a" "10.0.0.1" 7000, .setImporting 5 "a"]

def timedOut : IoFailure := ⟨"read timed out", by decide, by decide⟩

def sampleHandling : Handling := ⟨1000, 1000, ⟨1000, false⟩, "", ⟨1000, false⟩⟩

/-- Only the commits over the bus have the given fate. -/
def sampleNetwork (commit : Fate IoFailure) : Network :=
  let call : Call := ⟨.delivered, sampleHandling⟩
  { connect := none
    owner := .delivered
    clear := ⟨1000, false⟩
    vote := sampleHandling
    prepare := ⟨false, call, none, .delivered, .delivered, call⟩
    abortPrepare := ⟨1000, false⟩
    abortDest := ⟨call, none, call⟩
    recheck := ⟨1000, 1000, none, .delivered⟩
    commits := Vector.replicate _ ⟨false, ⟨commit, sampleHandling⟩, none, call, call, .delivered⟩
    sourceCommits := Vector.replicate _ sampleHandling
    rollbacks := Vector.replicate _ ⟨none, call, .delivered, call⟩
    finalConnect := none
    finalOwner := .delivered }

private theorem sample_start : HandoverStart 5 sampleSource sampleDest := by
  refine ⟨?_, ?_, ?_, ?_, ?_, ?_⟩
  all_goals decide +kernel

/-- With the bus down the handover takes place over the client protocol. -/
theorem handover_without_bus :
    ¬ BothOwn 5 (dualEndSetslotNode (sampleNetwork (.requestLost timedOut)) 5 sampleDest.myId sampleSource sampleDest).1 := by
  apply (never_both_own_iff sample_start (sampleNetwork (.requestLost timedOut))).mpr
  have check : ((votesStand (sampleNetwork (.requestLost timedOut)) 5 sampleDest.myId sampleSource sampleDest).all fun ends =>
      (firstAccepted (answerCommit 5 sampleDest.myId) ends.2 (commitsArriving (sampleNetwork (.requestLost timedOut)))).all fun pair =>
        pair.1.acknowledged && (firstAccepted (answerSource 5 sampleDest.myId) ends.1
          (sampleNetwork (.requestLost timedOut)).sourceCommits.toList).isSome) = true := by
    decide +kernel
  intro ready voted stand request after found
  rw [stand, all_some, found, all_some, Bool.and_eq_true] at check
  exact ⟨check.1, .inl check.2⟩

/-- The reply to the first commit is lost: the destination has the slot, and the source keeps it. -/
theorem lost_commit_reply_both_own :
    let result := dualEndSetslotNode (sampleNetwork (.replyLost timedOut)) 5 sampleDest.myId sampleSource sampleDest
    HandoverStart 5 sampleSource sampleDest ∧ BothOwn 5 result.1 ∧ result.2.sourceNode = "skipped:dest NODE incomplete" := by
  refine ⟨sample_start, ⟨?_, ?_⟩, ?_⟩
  all_goals decide +kernel

end Kore.Proofs.SlotHandover
