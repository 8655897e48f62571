import Kore.Cluster.Sections

/-! A gossip tick: the probes of the peers, and its failover steps from the moment a master is
flagged as failed: the election for every node that this tick has flagged, the retry for
replicas that are still attached to a failed master, and the demotion that ends the tick. -/

set_option linter.dupNamespace false

namespace Kore.Cluster
open Foundation

/-- What the tick tells the replication of a process that has persistence. -/
inductive ReplicationOrder where
  | promoteToMaster
  | setReplicaof (address : String)

/-- A node that the tick has flagged, with the replication offset that is read on the occasion
(if persistence is attached) and the fate of the save that follows a claim. -/
structure Alarm where
  failedId : String
  offset : Option Nat
  save : Save

variable (cluster : Cluster)

namespace Cluster

/-- Refreshes the offset that this process enters into an election. -/
def refreshed (offset : Option Nat) : Cluster := offset.elim cluster cluster.setLocalReplOffset

def follow (winner : String) (attached : Bool) : Cluster × List ReplicationOrder :=
  let (state, address) := cluster.followNewMaster winner
  ({ cluster with toClusterState := state }, if attached then (address.map .setReplicaof).toList else [])

def maybeFailoverOnMasterFail (alarm : Alarm) : Cluster × List ReplicationOrder :=
  if !cluster.isReplicaOf alarm.failedId then (cluster, [])
  else
    let cluster := cluster.refreshed alarm.offset
    if !cluster.shouldClaimOnFailover alarm.failedId then
      match cluster.failoverElectionWinner alarm.failedId with
      | none => (cluster, [])
      | some winner => cluster.follow winner alarm.offset.isSome
    else
      let orders := if alarm.offset.isSome then [.promoteToMaster] else []
      match cluster.claimFrom alarm.failedId with
      | (cluster, .ok _) => (cluster.autosaveNodesConf alarm.save, orders)
      | (cluster, .error _) => (cluster, orders)

def failedMasters : List String :=
  (cluster.nodes.entries.filter fun peer => !peer.myself && (peer.fail && cluster.isReplicaOf peer.id)).map (·.id)

/-- The retry for one failed master, when no other master has slots. -/
def followWinner (attached : Bool) (progress : Cluster × List ReplicationOrder) (failedId : String) : Cluster × List ReplicationOrder :=
  let (cluster, orders) := progress
  match cluster.failoverElectionWinner failedId with
  | none => progress
  | some winner =>
    if winner ≠ cluster.myId ∧ cluster.isReplicaOf winner = false then
      let (cluster, more) := cluster.follow winner attached
      (cluster, orders ++ more)
    else progress

/-- No late claim is made here. -/
def tryFollowFailedMasters (offset : Option Nat) : Cluster × List ReplicationOrder :=
  match cluster.failedMasters with
  | [] => (cluster, [])
  | failed =>
    let cluster := cluster.refreshed offset
    match cluster.otherMasterWithSlots with
    | some newMaster => if !cluster.isReplicaOf newMaster then cluster.follow newMaster offset.isSome else (cluster, [])
    | none => failed.foldl (followWinner offset.isSome) (cluster, [])

def demoteIfSuperseded (attached : Bool) : Cluster × List ReplicationOrder :=
  let (state, address) := cluster.tryDemoteIfSuperseded
  ({ cluster with toClusterState := state }, if attached then (address.map .setReplicaof).toList else [])

def raiseAlarm (progress : Cluster × List ReplicationOrder) (alarm : Alarm) : Cluster × List ReplicationOrder :=
  let (cluster, orders) := progress.1.maybeFailoverOnMasterFail alarm
  (cluster, progress.2 ++ orders)

/-- The steps of `gossip_tick` that follow the probes, with the offset read by the retry. -/
def failoverSteps (alarms : List Alarm) (offset : Option Nat) : Cluster × List ReplicationOrder :=
  let (cluster, elected) := alarms.foldl raiseAlarm (cluster, [])
  let (cluster, followed) := cluster.tryFollowFailedMasters offset
  let (cluster, demoted) := cluster.demoteIfSuperseded offset.isSome
  (cluster, elected ++ followed ++ demoted)

end Cluster

/-- What a probe brings. An answer lets the tick merge what the peer tells it; a peer that has
not answered for the node timeout is noted, with the order in which suspects are gone through
and what is read if the peer turns out to have failed. -/
inductive Probe where
  | answers (merged : List Operation)
  | silent
  | overdue (order : List String) (offset : Option Nat) (save : Save)

namespace Cluster

def probe (outcome : String → Probe) (progress : Cluster × List ReplicationOrder) (id : String) : Cluster × List ReplicationOrder :=
  match outcome id with
  | .answers merged => ((run perform progress.1 merged).touchPong id, progress.2)
  | .silent => progress
  | .overdue order offset save =>
    let (cluster, newly) := progress.1.noteUnreachable id order
    if newly then raiseAlarm (cluster, progress.2) ⟨id, offset, save⟩ else (cluster, progress.2)

/-- A peer that is flagged already is not probed. -/
def probePeers (outcome : String → Probe) : Cluster × List ReplicationOrder :=
  ((cluster.nodes.entries.filter fun peer => !peer.myself && !peer.fail).map (·.id)).foldl (probe outcome) (cluster, [])

def gossipTick (outcome : String → Probe) (order : List String) (readings : String → Option Nat × Save) (offset : Option Nat) :
    Cluster × List ReplicationOrder :=
  let (cluster, early) := cluster.probePeers outcome
  let (cluster, newly) := cluster.escalateFails order
  let (cluster, orders) := cluster.failoverSteps (newly.map fun id => ⟨id, (readings id).1, (readings id).2⟩) offset
  (cluster, early ++ orders)

end Cluster
end Kore.Cluster
