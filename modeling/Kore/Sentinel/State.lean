import Kore.Foundation.Iteration
import Kore.Foundation.Text

/-! What one sentinel knows: the masters it monitors with their health and its vote for a
failover leader, its peers, and its epoch. An instant is a number of milliseconds. Saving
the configuration file is left out. -/

namespace Kore.Sentinel
open Foundation

structure ReplicaInfo where
  ip : Bytes
  port : Nat
  replOffset : Nat
  priority : Nat
  deriving DecidableEq

structure PeerSentinel where
  id : Bytes
  ip : Bytes
  port : Nat
  deriving DecidableEq

structure MasterInfo where
  name : Bytes
  ip : Bytes
  port : Nat
  quorum : Nat
  downAfterMs : Nat
  sDown : Bool
  oDown : Bool
  downVotes : Nat
  lastOk : Nat
  replicas : List ReplicaInfo
  failoverEpoch : Nat
  /-- The candidate voted for; empty without a vote. -/
  leaderRunid : Bytes
  leaderEpoch : Nat
  electionStartedAt : Option Nat
  deriving DecidableEq

structure SentinelState where
  myId : Bytes
  masters : FiniteMap Bytes MasterInfo
  peers : FiniteMap Bytes PeerSentinel
  currentEpoch : Nat

structure HelloMsg where
  sentinelIp : Bytes
  sentinelPort : Nat
  runid : Bytes
  currentEpoch : Nat
  masterName : Bytes
  masterIp : Bytes
  masterPort : Nat
  masterConfigEpoch : Nat
  deriving DecidableEq

namespace SentinelState

variable (now : Nat) (name : Bytes)

def master (sentinel : SentinelState) : Option MasterInfo := sentinel.masters.lookup name

/-- Changes what is known of one master, if it is monitored. -/
def onMaster (change : MasterInfo → MasterInfo) (sentinel : SentinelState) : SentinelState :=
  { sentinel with masters := FiniteMap.update name change sentinel.masters }

def addPeer (id ip : Bytes) (port : Nat) (sentinel : SentinelState) : SentinelState :=
  if id = sentinel.myId then sentinel else { sentinel with peers := sentinel.peers.insert id ⟨id, ip, port⟩ }

/-- A health probe that succeeded. -/
def noteOk (replicas : Option (List ReplicaInfo)) : SentinelState → SentinelState :=
  onMaster name fun master =>
    { master with
      lastOk := now, sDown := false, oDown := false, downVotes := 0
      leaderRunid := [], leaderEpoch := 0, electionStartedAt := none
      replicas := replicas.getD master.replicas }

def maybeSdown : SentinelState → SentinelState :=
  onMaster name fun master => if master.downAfterMs ≤ now - master.lastOk then { master with sDown := true } else master

def bumpEpoch (epoch : Nat) (sentinel : SentinelState) : SentinelState :=
  if sentinel.currentEpoch < epoch then { sentinel with currentEpoch := epoch } else sentinel

/-- No vote can be asked for with the wildcard or without a name. -/
def isCandidate (runid : Bytes) : Bool := runid ≠ [] && runid ≠ ascii "*"

def nextElectionEpoch (sentinel : SentinelState) : SentinelState × Nat :=
  ({ sentinel with currentEpoch := wrapAdd sentinel.currentEpoch 1 }, wrapAdd sentinel.currentEpoch 1)

/-- Whether the vote has been standing too long; a vote without a start gets one now. -/
def electionExpired (timeout now : Nat) (name : Bytes) (sentinel : SentinelState) : SentinelState × Bool :=
  match sentinel.master name with
  | none => (sentinel, false)
  | some master =>
    if master.leaderRunid = [] || master.leaderEpoch = 0 then (sentinel, false)
    else match master.electionStartedAt with
      | some start => (sentinel, timeout ≤ now - start)
      | none => (sentinel.onMaster name fun master => { master with electionStartedAt := some now }, false)

def clearElectionVote : SentinelState → SentinelState :=
  onMaster name fun master => { master with leaderRunid := [], leaderEpoch := 0, electionStartedAt := none }

def leaderVotesNeededFor (voters : Nat) (sentinel : SentinelState) : Nat :=
  let quorum := ((sentinel.master name).map MasterInfo.quorum).getD 1
  max (max quorum (max voters 1 / 2 + 1)) 1

/-- Points the monitor at another master. -/
def switchMaster (ip : Bytes) (port : Nat) (sentinel : SentinelState) : SentinelState :=
  match sentinel.master name with
  | none => sentinel
  | some _ =>
    { sentinel.onMaster name fun master =>
        { master with
          ip, port, sDown := false, oDown := false, downVotes := 0, lastOk := now
          failoverEpoch := satAdd master.failoverEpoch 1, replicas := []
          leaderRunid := [], leaderEpoch := 0, electionStartedAt := none } with
      currentEpoch := wrapAdd sentinel.currentEpoch 1 }

/-- Takes note of a peer's hello; tells whether the master was switched. -/
def applyHello (msg : HelloMsg) (sentinel : SentinelState) : SentinelState × Bool :=
  if msg.runid = sentinel.myId then (sentinel, false)
  else if msg.sentinelPort = 0 || msg.runid.length < 8 then (sentinel, false)
  else
    let informed := (sentinel.addPeer msg.runid msg.sentinelIp msg.sentinelPort).bumpEpoch msg.currentEpoch
    match informed.master msg.masterName with
    | none => (informed, false)
    | some known =>
      if known.failoverEpoch < msg.masterConfigEpoch && (msg.masterIp ≠ known.ip || msg.masterPort ≠ known.port) then
        ((informed.switchMaster now msg.masterName msg.masterIp msg.masterPort).onMaster msg.masterName fun master =>
          { master with failoverEpoch := msg.masterConfigEpoch }, true)
      else (informed, false)

end SentinelState

end Kore.Sentinel
