import Kore.Sentinel.State

/-! The election of a failover leader among sentinels that know and reach each other. What a
sentinel knows of its masters is behind one lock and its epoch is an atomic number, so a vote,
an answer and a campaign are taken apart at every section under the lock, at every access to
the epoch and at every question to a peer: anything else may happen in between. Sentinels are
numbered in the order of their ids, in which a campaign asks them. -/

namespace Kore.Sentinel
open Foundation

/-- Where a call of `vote_leader` stands: it reads the epoch of the sentinel, raises it if the one asked for is higher, and
then looks at the vote there is. -/
inductive VoteStage where
  | reading
  | raising
  | casting (raised : Bool)
  deriving DecidableEq

structure Question where
  ip : Bytes
  port : Nat
  epoch : Nat
  runid : Bytes
  deriving DecidableEq

/-- Where a call of `is_master_down_by_addr` stands. -/
inductive AnswerStage where
  | finding
  | looking (name : Bytes)
  | voting (name : Bytes) (stage : VoteStage)
  | answered (down : Nat) (leader : Bytes) (epoch : Nat)
  deriving DecidableEq

/-- Where a call of `try_elect_leader` stands. From `timing` on it works with what it knew of the master before it counted
the live sentinels. -/
inductive Campaign (count : Nat) where
  | idle
  | expiring
  | clearing
  | refreshing
  | timing (master : MasterInfo)
  | opening (master : MasterInfo)
  | voting (epoch : Nat) (master : MasterInfo) (stage : VoteStage)
  | asking (epoch votes : Nat) (master : MasterInfo) (left : List (Fin count))
  | awaiting (epoch votes : Nat) (master : MasterInfo) (peer : Fin count) (left : List (Fin count)) (stage : AnswerStage)
  deriving DecidableEq

namespace SentinelState
variable (now : Nat) (sentinel : SentinelState)

/-- One section of a vote for the candidate, which is granted if the epoch is above that of the vote there is. The answer
is the vote. -/
def voteLeader (name : Bytes) (reqEpoch : Nat) (candidate : Bytes) : VoteStage → SentinelState × (VoteStage ⊕ (Bytes × Nat))
  | .reading =>
    if !isCandidate candidate then
      match sentinel.master name with
      | some master => (sentinel, .inr (master.leaderRunid, master.leaderEpoch))
      | none => (sentinel, .inr ([], 0))
    else if sentinel.currentEpoch < reqEpoch then (sentinel, .inl .raising)
    else (sentinel, .inl (.casting false))
  | .raising => ({ sentinel with currentEpoch := reqEpoch }, .inl (.casting true))
  | .casting _ =>
    match sentinel.master name with
    | none => (sentinel, .inr ([], 0))
    | some master =>
      if master.leaderEpoch < reqEpoch then
        (sentinel.onMaster name fun master =>
          { master with leaderEpoch := reqEpoch, leaderRunid := candidate, electionStartedAt := some now }, .inr (candidate, reqEpoch))
      else (sentinel, .inr (master.leaderRunid, master.leaderEpoch))

/-- One section of the answer to `IS-MASTER-DOWN-BY-ADDR`: whether the master is down, and the vote. -/
def isMasterDownByAddr (walk : Iteration Bytes MasterInfo) (question : Question) : AnswerStage → SentinelState × AnswerStage
  | .finding =>
    match ((walk.entries sentinel.masters).map Prod.snd).find? fun master => master.ip = question.ip && master.port = question.port with
    | none => (sentinel, .answered 0 [] 0)
    | some found => (sentinel, .looking found.name)
  | .looking name =>
    match sentinel.master name with
    | none => (sentinel, .answered 0 [] 0)
    | some master =>
      if !master.sDown then (sentinel, .answered 0 [] 0)
      else if isCandidate question.runid then (sentinel, .voting name .reading)
      else if master.leaderRunid ≠ [] then (sentinel, .answered 1 master.leaderRunid master.leaderEpoch)
      else (sentinel, .answered 1 (ascii "*") 0)
  | .voting name stage =>
    match sentinel.voteLeader now name question.epoch question.runid stage with
    | (after, .inl stage) => (after, .voting name stage)
    | (after, .inr (leader, epoch)) => (after, .answered 1 leader epoch)
  | .answered down leader epoch => (sentinel, .answered down leader epoch)

end SentinelState

/-- A question from anywhere that a sentinel is about to answer. -/
structure Request (count : Nat) where
  sentinel : Fin count
  question : Question
  stage : AnswerStage
  deriving DecidableEq

/-- The sentinels, the questions and campaigns under way, and a record of all votes granted and all campaigns won. -/
structure Electorate (count : Nat) where
  now : Nat
  sentinels : Fin count → SentinelState
  requests : List (Request count)
  campaigns : Fin count → Campaign count
  granted : List (Fin count × Nat × Bytes)
  elected : List (Fin count × Nat)

inductive ElectionEvent (count : Nat) where
  | tick (elapsed : Nat)
  | probe (sentinel : Fin count) (replicas : Option (List ReplicaInfo))
  | checkDown (sentinel : Fin count)
  | request (sentinel : Fin count) (question : Question)
  /-- The next section of the answer to one of the questions under way. -/
  | answer (index : Nat)
  /-- The next section of a sentinel's campaign, or the start of one. -/
  | campaign (sentinel : Fin count)

namespace Electorate
variable {count : Nat} (walk : Iteration Bytes MasterInfo) (timeout : Nat) (name : Bytes)

/-- The vote that a sentinel has granted between two states: its epoch has gone up. -/
def newVote (sentinel : Fin count) (before after : SentinelState) : List (Fin count × Nat × Bytes) :=
  match before.master name, after.master name with
  | some old, some new => if old.leaderEpoch < new.leaderEpoch then [(sentinel, new.leaderEpoch, new.leaderRunid)] else []
  | _, _ => []

/-- Puts a sentinel into another state, with the vote that it has granted. -/
def become (sentinel : Fin count) (after : SentinelState) (electorate : Electorate count) : Electorate count :=
  { electorate with
    sentinels := Function.update electorate.sentinels sentinel after
    granted := newVote name sentinel (electorate.sentinels sentinel) after ++ electorate.granted }

def setCampaign (sentinel : Fin count) (campaign : Campaign count) (electorate : Electorate count) : Electorate count :=
  { electorate with campaigns := Function.update electorate.campaigns sentinel campaign }

def win (sentinel : Fin count) (epoch : Nat) (electorate : Electorate count) : Electorate count :=
  { electorate with elected := (sentinel, epoch) :: electorate.elected }

def peersOf (sentinel : Fin count) : List (Fin count) := (List.finRange count).filter (· ≠ sentinel)

/-- The next section of `try_elect_leader`. Everybody is reachable, so the live sentinels are all. -/
def tryElectLeader (i : Fin count) (electorate : Electorate count) : Electorate count :=
  let sentinel := electorate.sentinels i
  match electorate.campaigns i with
  | .idle =>
    match sentinel.master name with
    | none => electorate
    | some master =>
      electorate.setCampaign i (if master.leaderRunid ≠ [] && master.leaderRunid ≠ sentinel.myId then .expiring else .refreshing)
  | .expiring =>
    -- A sentinel abstains while its vote for another candidate stands, and drops the vote after the timeout.
    let (stamped, expired) := sentinel.electionExpired timeout electorate.now name
    (electorate.become name i stamped).setCampaign i (if expired then .clearing else .idle)
  | .clearing => (electorate.become name i (sentinel.clearElectionVote name)).setCampaign i .refreshing
  | .refreshing =>
    match sentinel.master name with
    | none => electorate.setCampaign i .idle
    | some master =>
      electorate.setCampaign i (if count ≤ 1 || master.leaderRunid = sentinel.myId then .timing master else .opening master)
  | .timing master =>
    let (stamped, expired) := sentinel.electionExpired timeout electorate.now name
    (electorate.become name i stamped).setCampaign i
      (if 0 < master.leaderEpoch && (if master.leaderRunid = sentinel.myId then !expired else count ≤ 1) then
        .voting master.leaderEpoch master .reading
      else .opening master)
  | .opening master =>
    let (ahead, epoch) := sentinel.nextElectionEpoch
    (electorate.become name i ahead).setCampaign i (.voting (if count ≤ 1 then max epoch 1 else epoch) master .reading)
  | .voting epoch master stage =>
    match sentinel.voteLeader electorate.now name epoch sentinel.myId stage with
    | (after, .inl stage) => (electorate.become name i after).setCampaign i (.voting epoch master stage)
    | (after, .inr _) =>
      -- The own vote counts whatever the answer is.
      if count ≤ 1 then ((electorate.become name i after).setCampaign i .idle).win i epoch
      else (electorate.become name i after).setCampaign i (.asking epoch 1 master (peersOf i))
  | .asking epoch votes master (peer :: left) => electorate.setCampaign i (.awaiting epoch votes master peer left .finding)
  | .awaiting epoch votes master _ left (.answered _ leader leaderEpoch) =>
    electorate.setCampaign i
      (.asking epoch (if leaderEpoch = epoch && leader = sentinel.myId then votes + 1 else votes) master left)
  | .awaiting epoch votes master peer left stage =>
    let (after, next) :=
      (electorate.sentinels peer).isMasterDownByAddr electorate.now walk ⟨master.ip, master.port, epoch, sentinel.myId⟩ stage
    (electorate.become name peer after).setCampaign i (.awaiting epoch votes master peer left next)
  | .asking epoch votes _ [] =>
    if sentinel.leaderVotesNeededFor name count ≤ votes then (electorate.setCampaign i .idle).win i epoch
    else electorate.setCampaign i .idle

def step (electorate : Electorate count) : ElectionEvent count → Electorate count
  | .tick elapsed => { electorate with now := electorate.now + elapsed }
  | .probe i replicas => electorate.become name i ((electorate.sentinels i).noteOk electorate.now name replicas)
  | .checkDown i => electorate.become name i ((electorate.sentinels i).maybeSdown electorate.now name)
  | .request i question => { electorate with requests := ⟨i, question, .finding⟩ :: electorate.requests }
  | .answer index =>
    match electorate.requests[index]? with
    | none => electorate
    | some request =>
      let (after, next) := (electorate.sentinels request.sentinel).isMasterDownByAddr electorate.now walk request.question request.stage
      let moved := electorate.become name request.sentinel after
      { moved with requests := moved.requests.set index { request with stage := next } }
  | .campaign i => electorate.tryElectLeader walk timeout name i

end Electorate

end Kore.Sentinel
