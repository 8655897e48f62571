import Kore.Cluster.Topology
import Kore.Cluster.Gossip
import Kore.Foundation.Runs

/-! The cluster state of one process with everything its operations read, what it starts
from, and its public operations. An operation is a sequence of critical sections, between
which those of other operations may run; its readings of the clock, the order of a hash set
and the fate of a file write are arguments. -/

set_option linter.dupNamespace false

namespace Kore.Cluster
open Foundation ClusterState

/-- What the election of a failover compares, offset 0 and priority 100 unless announced. -/
structure Election where
  replOffset : Nat
  replPriority : Nat
  deriving DecidableEq

structure Cluster extends ClusterState where
  ip : String
  port : Nat
  announceIp : Option String
  announcePort : Option Nat
  nodesConfDir : Option String
  /-- The suspects that each peer has reported. -/
  failReports : List (String × List String)
  election : String → Election
  localReplOffset : Nat
  localReplPriority : Nat
  sourceNodeFailInject : Nat
  prepareFailInject : Nat
  commitRecheckClearInject : Nat

/-! Starting up. -/

/-- An epoch that comes from outside is a 64-bit number. -/
abbrev Epoch := { epoch : Nat // epoch ≤ u64Max }

structure ParsedNodesLine where
  id : String
  ip : String
  port : Nat
  flags : List String
  masterId : Option String
  epoch : Epoch
  slots : List (Nat × Nat)

namespace ParsedNodesLine
variable (line : ParsedNodesLine)

def myself : Bool := line.flags.contains "myself"
def master : Bool := line.flags.contains "master" || !line.flags.contains "slave"
def fail : Bool := line.flags.contains "fail"
def pfail : Bool := line.flags.contains "fail?"

def node : ClusterNode :=
  ⟨line.id, line.ip, line.port, false, line.master, line.masterId, line.pfail, line.fail⟩

end ParsedNodesLine

structure NodesConf where
  headerEpoch : Option Epoch
  slotEpochs : List (Nat × Nat × Epoch)
  prepares : List (Nat × PrepareVote)
  announceIp : Option String
  announcePort : Option Nat
  replicaPriority : Option Nat
  lines : List ParsedNodesLine

variable (conf : NodesConf)

def NodesConf.myselfLine (ip : String) (port : Nat) : Option ParsedNodesLine :=
  (conf.lines.find? (·.myself)).or (conf.lines.find? fun line => line.ip == ip && line.port == port)

/-- The epoch of the header, else the highest of the lines; at least 1. -/
def NodesConf.epoch : Nat :=
  max ((conf.headerEpoch.map (·.1)).getD ((conf.lines.map (·.epoch.1)).foldl max 0)) 1

def slotsBetween (first last : Nat) : List Nat := List.range' first (last + 1 - first)

variable (state : ClusterState)

variable (ip : String)

namespace ClusterState

def withIdentity (port : Nat) (myId : String) (master : Bool) (masterId : Option String) (ownAllSlots : Bool) : ClusterState where
  myId := myId
  slotOwner := Vector.replicate slotCount (if ownAllSlots then myId else "")
  slotConfigEpoch := Vector.replicate slotCount 1
  migrating := []
  importing := []
  prepareNode := []
  nodes := ⟨[⟨myId, ip, port, true, master, masterId, false, false⟩], List.nodup_singleton _⟩
  currentEpoch := 1

def assignSlot (owner : String) (epoch : Nat) (state : ClusterState) (slot : Nat) : ClusterState :=
  { state with
    slotOwner := state.slotOwner.setIfInBounds slot owner
    slotConfigEpoch := state.slotConfigEpoch.setIfInBounds slot epoch }

/-- A line for this process only gives its role; it starts without a failure. -/
def lineTable (state : ClusterState) (line : ParsedNodesLine) : NodeTable :=
  if line.id = state.myId then
    state.nodes.modify state.myId
      (fun me => { me with master := line.master, masterId := line.masterId, fail := false, pfail := false }) fun _ => rfl
  else state.nodes.insert line.node

def readLine (epoch : Nat) (state : ClusterState) (line : ParsedNodesLine) : ClusterState :=
  (line.slots.flatMap fun range => slotsBetween range.1 range.2).foldl (assignSlot line.id epoch)
    { state with nodes := state.lineTable line }

def readSlotEpoch (entry : Nat × Nat × Epoch) : ClusterState :=
  let epoch := max entry.2.2.1 1
  { state with
    slotConfigEpoch := (slotsBetween entry.1 entry.2.1).foldl (fun epochs slot => epochs.setIfInBounds slot epoch) state.slotConfigEpoch
    currentEpoch := max state.currentEpoch epoch }

def readPrepare (entry : Nat × PrepareVote) : ClusterState :=
  { state with prepareNode := insertEntry entry.1 entry.2 state.prepareNode }

end ClusterState

variable (cluster : Cluster) (id : String)

namespace Cluster

def fresh (port : Nat) : Cluster where
  toClusterState := state
  ip := ip
  port := port
  announceIp := none
  announcePort := none
  nodesConfDir := none
  failReports := []
  election _ := ⟨0, 100⟩
  localReplOffset := 0
  localReplPriority := 100
  sourceNodeFailInject := 0
  prepareFailInject := 0
  commitRecheckClearInject := 0

def singleNode (port : Nat) (generated : String) : Cluster :=
  fresh (.withIdentity ip port generated true none true) ip port

/-! Operations on one section each. -/

def refreshMyselfAdvertised : Cluster :=
  { cluster with
    nodes := cluster.nodes.modify cluster.myId
      (fun me => { me with ip := cluster.announceIp.getD cluster.ip, port := cluster.announcePort.getD cluster.port }) fun _ => rfl }

def setAnnounceIp (ip : Option String) : Cluster :=
  { cluster with announceIp := ip.filter (· ≠ "") }.refreshMyselfAdvertised

def setAnnouncePort (port : Option Nat) : Cluster :=
  { cluster with announcePort := port.filter (0 < ·) }.refreshMyselfAdvertised

def setElection (election : Election) : Cluster :=
  if cluster.nodes.containsKey id then { cluster with election := Function.update cluster.election id election } else cluster

def setLocalReplOffset (offset : Nat) : Cluster :=
  { cluster with localReplOffset := offset }.setElection cluster.myId { cluster.election cluster.myId with replOffset := offset }

def setLocalReplPriority (priority : Nat) : Cluster :=
  { cluster with localReplPriority := priority }.setElection cluster.myId { cluster.election cluster.myId with replPriority := priority }

end Cluster

def NodesConf.restoreLiveFlags (cluster : Cluster) : Cluster :=
  let cluster := conf.announceIp.elim cluster fun ip => cluster.setAnnounceIp (some ip)
  let cluster := conf.announcePort.elim cluster fun port => cluster.setAnnouncePort (some port)
  conf.replicaPriority.elim cluster cluster.setLocalReplPriority

namespace Cluster

def fromNodesConf (port now : Nat) (conf : NodesConf) : Except String Cluster :=
  if conf.lines = [] then .error "no node lines in nodes.conf"
  else match conf.myselfLine ip port with
    | none => .error "no myself line and no node matching this process ip:port"
    | some myself =>
      let state := { withIdentity ip port myself.id myself.master myself.masterId false with currentEpoch := conf.epoch }
      let state := conf.lines.foldl (readLine conf.epoch) state
      let state := conf.slotEpochs.foldl readSlotEpoch state
      let live := conf.prepares.filter fun entry => !prepareVoteExpired now entry.2.preparedAtUnixMs
      .ok (conf.restoreLiveFlags (fresh (live.foldl readPrepare state) ip port))

def forgetNode (nodeId : String) : Except String Cluster :=
  (cluster.toClusterState.forgetNode nodeId).map fun state =>
    { cluster with
      toClusterState := state
      failReports := (cluster.failReports.filter fun report => report.1 ≠ nodeId).map fun report =>
        (report.1, report.2.filter (· ≠ nodeId))
      election := Function.update cluster.election nodeId ⟨0, 100⟩ }

def resetClusterConfig : Cluster :=
  { cluster with
    toClusterState := cluster.toClusterState.resetClusterConfig
    failReports := []
    election := fun id => if id = cluster.myId then cluster.election id else ⟨0, 100⟩ }

def touchPong : Cluster :=
  { cluster with
    toClusterState := cluster.toClusterState.touchPong id
    failReports := cluster.failReports.map fun report => (report.1, report.2.filter (· ≠ id)) }

def ingestFailReports (peer : String) (suspects : List String) : Cluster :=
  if peer = "" then cluster
  else { cluster with failReports := (peer, suspects) :: cluster.failReports.filter fun report => report.1 ≠ peer }

/-! Failure detection. -/

def masterCount : Nat := max (cluster.nodes.entries.countP fun node => node.master && !node.fail) 1

def failQuorumSize : Nat := if cluster.masterCount ≤ 2 then 1 else cluster.masterCount / 2 + 1

def suspects : List String :=
  ((cluster.nodes.entries.filter fun node => !node.myself && (node.pfail || node.fail)).map (·.id) ++
    cluster.failReports.flatMap (·.2)).dedup.filter (· ≠ cluster.myId)

/-- A hash set is listed in an order of its own: first the members that `order` names. -/
def listed (order members : List String) : List String :=
  (order.dedup.filter (· ∈ members)) ++ members.filter (· ∉ order)

def failVotes (candidate : String) : Nat :=
  (if (cluster.nodes.get candidate).any fun node => node.pfail || node.fail then 1 else 0) +
    cluster.failReports.countP fun report =>
      report.1 != candidate && ((cluster.nodes.get report.1).any fun node => node.master && !node.fail) && report.2.contains candidate

/-- A reporter that has just been marked no longer votes on the candidates that follow. -/
def escalateCandidate (quorum : Nat) (progress : Cluster × List String) (candidate : String) : Cluster × List String :=
  let (cluster, newly) := progress
  match cluster.nodes.get candidate with
  | none => progress
  | some node =>
    if !node.fail && quorum ≤ cluster.failVotes candidate then
      ({ cluster with nodes := cluster.failed candidate }, newly ++ [candidate])
    else progress

def escalate (quorum : Nat) (order : List String) : Cluster × List String :=
  (listed order cluster.suspects).foldl (escalateCandidate quorum) (cluster, [])

def escalateFails (order : List String) : Cluster × List String :=
  cluster.escalate cluster.failQuorumSize order

/-- Whether `note_unreachable` goes on to escalate, and the suspicion it records before. -/
def notePfail : Option Cluster :=
  if id = "" ∨ id = cluster.myId then none
  else match cluster.nodes.get id with
    | none => none
    | some node =>
      if node.fail then none
      else some { cluster with nodes := cluster.nodes.modify id (fun node => { node with pfail := true }) fun _ => rfl }

def noteUnreachable (order : List String) : Cluster × Bool :=
  match cluster.notePfail id with
  | none => (cluster, false)
  | some noted =>
    let (after, newly) := noted.escalateFails order
    (after, newly.contains id)

/-! Election. -/

def nodeIsFail : Bool := (cluster.nodes.get id).any (·.fail)
def nodeIsPfail : Bool := (cluster.nodes.get id).any (·.pfail)

def replicasOf (masterId : String) : List String :=
  (((cluster.nodes.entries.filter fun node => !node.fail && !node.master && node.masterId == some masterId).map
    (·.id)).insertionSort (· ≤ ·)).dedup

def priorityAndOffset : Nat × Nat :=
  if id = cluster.myId then (cluster.localReplPriority, cluster.localReplOffset)
  else ((cluster.election id).replPriority, (cluster.election id).replOffset)

def ranksBelow (first second : String) : Bool :=
  let (priority, offset) := cluster.priorityAndOffset first
  let (otherPriority, otherOffset) := cluster.priorityAndOffset second
  priority < otherPriority || (priority == otherPriority && (offset < otherOffset || (offset == otherOffset && first < second)))

def failoverElectionWinner (failedMasterId : String) : Option String :=
  if !cluster.isReplicaOf failedMasterId then none
  else match cluster.replicasOf failedMasterId with
    | [] => if cluster.localReplPriority = 0 then none else some cluster.myId
    | candidates =>
      match candidates.filter fun id => 0 < (cluster.priorityAndOffset id).1 with
      | [] => none
      | first :: rest => some (rest.foldl (fun best id => if cluster.ranksBelow id best then best else id) first)

def shouldClaimOnFailover (failedMasterId : String) : Bool :=
  cluster.failoverElectionWinner failedMasterId == some cluster.myId

def myMasterId : Option String :=
  (cluster.nodes.get cluster.myId).bind fun node => if node.master then none else node.masterId

end Cluster

inductive ManualFailoverMode where
  | safe
  | force
  | takeover
  deriving DecidableEq

structure RoleMapEntry where
  id : String
  master : Bool
  masterId : String
  ip : String
  port : Nat
  election : Election

/-- What a save of `nodes.conf` meets: the clock, and whether the write gets as far as the votes. -/
structure Save where
  now : Nat
  written : Bool

/-- The hooks of tests. -/
inductive Hook where
  | sourceNodeFail
  | prepareFail
  | commitRecheckClear
  deriving DecidableEq

namespace Cluster

def settled (result : Except String ClusterState) : Cluster × Except String Unit :=
  match result with
  | .ok state => ({ cluster with toClusterState := state }, .ok ())
  | .error text => (cluster, .error text)

def hooked : Hook → Nat
  | .sourceNodeFail => cluster.sourceNodeFailInject
  | .prepareFail => cluster.prepareFailInject
  | .commitRecheckClear => cluster.commitRecheckClearInject

def hook : Hook → Nat → Cluster
  | .sourceNodeFail, count => { cluster with sourceNodeFailInject := count }
  | .prepareFail, count => { cluster with prepareFailInject := count }
  | .commitRecheckClear, count => { cluster with commitRecheckClearInject := count }

def takeHook (hook : Hook) : Cluster := cluster.hook hook (cluster.hooked hook - 1)

def saveNodesConf (save : Save) : Cluster :=
  if save.written then { cluster with toClusterState := cluster.purgeExpiredPrepares save.now } else cluster

def autosaveNodesConf (save : Save) : Cluster :=
  if cluster.nodesConfDir.isSome then cluster.saveNodesConf save else cluster

def setPrepareNode (now slot : Nat) (nodeId : String) (save : Save) : Cluster × Except String Unit :=
  if slotCount ≤ slot then (cluster, .error "Slot out of range")
  else if 0 < cluster.prepareFailInject then (cluster.takeHook .prepareFail, .error "injected PREPARE failure")
  else match cluster.settled (cluster.recordPrepare now slot nodeId) with
    | (cluster, .ok ()) => (cluster.autosaveNodesConf save, .ok ())
    | failed => failed

def abortPrepareNode (slot : Nat) (save : Save) : Cluster × Except String Unit :=
  if slotCount ≤ slot then (cluster, .error "Slot out of range")
  else ({ cluster with toClusterState := cluster.removePrepare slot }.autosaveNodesConf save, .ok ())

/-- The hook that loses a vote just before it is checked. -/
def clearedByHook (slot : Nat) : Cluster :=
  if 0 < cluster.commitRecheckClearInject then { cluster.takeHook .commitRecheckClear with toClusterState := cluster.removePrepare slot }
  else cluster

def checkPrepareValid (now later slot : Nat) (nodeId : String) : Cluster × Except String Unit :=
  if slotCount ≤ slot then (cluster, .error "Slot out of range")
  else
    let cluster := cluster.clearedByHook slot
    let (state, answer) := (cluster.purgeExpiredPrepare now slot).recheckVote later slot nodeId
    ({ cluster with toClusterState := state }, answer)

def commitPrepareNode (now later slot : Nat) (nodeId : String) (save : Save) : Cluster × Except String Unit :=
  if slotCount ≤ slot then (cluster, .error "Slot out of range")
  else if 0 < cluster.sourceNodeFailInject then (cluster.takeHook .sourceNodeFail, .error "injected source NODE failure")
  else
    let cluster := cluster.clearedByHook slot
    match cluster.commitVote now later slot nodeId with
    | (state, .ok ()) => ({ cluster with toClusterState := state }.autosaveNodesConf save, .ok ())
    | (state, .error text) => ({ cluster with toClusterState := state }, .error text)

def setNode (slot : Nat) (nodeId : String) : Cluster × Except String Unit :=
  if 0 < cluster.sourceNodeFailInject then (cluster.takeHook .sourceNodeFail, .error "injected source NODE failure")
  else cluster.settled (cluster.reassignSlot slot nodeId)

def mergeRole (entry : RoleMapEntry) : Cluster :=
  if entry.id = cluster.myId then cluster
  else
    let masterId := if entry.master || entry.masterId = "" then none else some entry.masterId
    { cluster with
      toClusterState := cluster.addNodeWithRole entry.id entry.ip entry.port (some entry.master) (some masterId)
      }.setElection entry.id entry.election

def mergeRoleMap (entries : List RoleMapEntry) : Cluster := entries.foldl mergeRole cluster

def claimFrom (masterId : String) : Cluster × Except String Nat :=
  match cluster.claimSlotsFrom masterId with
  | .ok (state, claimed) => ({ cluster with toClusterState := state }, .ok claimed)
  | .error text => (cluster, .error text)

def manualFailover (mode : ManualFailoverMode) : Cluster × Except String Nat :=
  match cluster.myMasterId with
  | none => (cluster, .error "You should send CLUSTER FAILOVER to a replica")
  | some masterId =>
    let marked := { cluster with toClusterState := cluster.markFail masterId }
    match mode with
    | .safe =>
      if !cluster.nodeIsFail masterId && !cluster.nodeIsPfail masterId then
        (cluster, .error "Master node is not marked as fail/pfail — use FORCE or TAKEOVER")
      else if !cluster.shouldClaimOnFailover masterId then (cluster, .error "This replica is not the failover election winner")
      else cluster.claimFrom masterId
    | .force =>
      if !cluster.shouldClaimOnFailover masterId then
        (cluster, .error "This replica is not the failover election winner — use TAKEOVER")
      else marked.claimFrom masterId
    | .takeover => marked.claimFrom masterId

end Cluster
end Kore.Cluster
