import Kore.Cluster.Operations

/-! Critical sections of the cluster state, and the public operations as a machine. -/

set_option linter.dupNamespace false

namespace Kore.Cluster
open Foundation

/-- A range as a peer has sent it. -/
abbrev ReceivedRange := { range : OwnershipRange // range.epoch ≤ u64Max }

inductive Section where
  | setAnnounceIp (ip : Option String)
  | setAnnouncePort (port : Option Nat)
  | setNodesConfDir (dir : Option String)
  | purgeExpiredPrepares (now : Nat)
  | setLocalReplOffset (offset : Nat)
  | setLocalReplPriority (priority : Nat)
  | bumpEpoch
  | setConfigEpoch (epoch : Epoch)
  | forgetNode (nodeId : String)
  | resetClusterConfig
  | addSlots (slots : List Nat)
  | delSlots (slots : List Nat)
  | flushSlots
  | addNodeWithRole (id ip : String) (port : Nat) (roleMaster : Option Bool) (roleMasterId : Option (Option String))
  | setElection (id : String) (election : Election)
  | markWinner (id : String)
  | configureAsReplicaOf (masterId : String)
  | touchPong (id : String)
  | markFail (id : String)
  | ingestFailReports (peer : String) (suspects : List String)
  | notePfail (id : String)
  | escalate (quorum : Nat) (order : List String)
  | claimSlotsFrom (failedId : String)
  | reassignSlot (slot : Nat) (nodeId : String)
  | setMigrating (slot : Nat) (dest : String)
  | setImporting (slot : Nat) (source : String)
  | setStable (slot : Nat)
  | recordPrepare (now slot : Nat) (nodeId : String)
  | removePrepare (slot : Nat)
  | purgeExpiredPrepare (now slot : Nat)
  | clearAllPrepares
  | commitVote (now later slot : Nat) (nodeId : String)
  | testBumpSlotEpochKeepPrepare (slot : Nat)
  | testExpirePrepare (now slot : Nat)
  | applyOwnershipRange (range : ReceivedRange)
  | hook (hook : Hook) (count : Nat)

namespace Cluster

/-- A section on the topology; one that refuses leaves it as it was. -/
def enter (cluster : Cluster) : Section → Cluster
  | .setAnnounceIp ip => cluster.setAnnounceIp ip
  | .setAnnouncePort port => cluster.setAnnouncePort port
  | .setNodesConfDir dir => { cluster with nodesConfDir := dir.filter (· ≠ "") }
  | .purgeExpiredPrepares now => { cluster with toClusterState := cluster.purgeExpiredPrepares now }
  | .setLocalReplOffset offset => cluster.setLocalReplOffset offset
  | .setLocalReplPriority priority => cluster.setLocalReplPriority priority
  | .bumpEpoch => { cluster with toClusterState := cluster.bump }
  | .setConfigEpoch epoch => (cluster.settled (cluster.setConfigEpoch epoch.1)).1
  | .forgetNode nodeId => (cluster.forgetNode nodeId).toOption.getD cluster
  | .resetClusterConfig => cluster.resetClusterConfig
  | .addSlots slots => (cluster.settled (cluster.addSlots slots)).1
  | .delSlots slots => (cluster.settled (cluster.delSlots slots)).1
  | .flushSlots => { cluster with toClusterState := cluster.flushSlots }
  | .addNodeWithRole id ip port roleMaster roleMasterId =>
    { cluster with toClusterState := cluster.addNodeWithRole id ip port roleMaster roleMasterId }
  | .setElection id election => cluster.setElection id election
  | .markWinner id => { cluster with toClusterState := cluster.markWinner id }
  | .configureAsReplicaOf masterId => (cluster.settled (cluster.configureAsReplicaOf masterId)).1
  | .touchPong id => cluster.touchPong id
  | .markFail id => { cluster with toClusterState := cluster.markFail id }
  | .ingestFailReports peer suspects => cluster.ingestFailReports peer suspects
  | .notePfail id => (cluster.notePfail id).getD cluster
  | .escalate quorum order => (cluster.escalate quorum order).1
  | .claimSlotsFrom failedId => (cluster.claimFrom failedId).1
  | .reassignSlot slot nodeId => (cluster.settled (cluster.reassignSlot slot nodeId)).1
  | .setMigrating slot dest => (cluster.settled (cluster.setMigrating slot dest)).1
  | .setImporting slot source => (cluster.settled (cluster.setImporting slot source)).1
  | .setStable slot => (cluster.settled (cluster.setStable slot)).1
  | .recordPrepare now slot nodeId => (cluster.settled (cluster.recordPrepare now slot nodeId)).1
  | .removePrepare slot => { cluster with toClusterState := cluster.removePrepare slot }
  | .purgeExpiredPrepare now slot => { cluster with toClusterState := cluster.purgeExpiredPrepare now slot }
  | .clearAllPrepares => { cluster with prepareNode := [] }
  | .commitVote now later slot nodeId => { cluster with toClusterState := (cluster.commitVote now later slot nodeId).1 }
  | .testBumpSlotEpochKeepPrepare slot => { cluster with toClusterState := cluster.testBumpSlotEpochKeepPrepare slot }
  | .testExpirePrepare now slot => { cluster with toClusterState := cluster.testExpirePrepare now slot }
  | .applyOwnershipRange range => { cluster with toClusterState := (cluster.applyOwnershipRange range.1).1 }
  | .hook hook count => cluster.hook hook count

end Cluster

inductive Operation where
  | setAnnounceIp (ip : Option String)
  | setAnnouncePort (port : Option Nat)
  | setNodesConfDir (dir : Option String)
  | saveNodesConfTo (save : Save)
  | autosaveNodesConf (save : Save)
  | setLocalReplOffset (offset : Nat)
  | setLocalReplPriority (priority : Nat)
  | bumpEpoch
  | setConfigEpoch (epoch : Epoch)
  | forgetNode (nodeId : String)
  | resetClusterConfig
  | addSlots (slots : List Nat)
  | delSlots (slots : List Nat)
  | addSlotRanges (ranges : List (Nat × Nat))
  | delSlotRanges (ranges : List (Nat × Nat))
  | flushSlots
  | addNode (id ip : String) (port : Nat)
  | addNodeWithRole (id ip : String) (port : Nat) (roleMaster : Option Bool) (roleMasterId : Option (Option String))
  | mergeRoleMap (entries : List RoleMapEntry)
  | manualFailover (mode : ManualFailoverMode)
  | reconfigureAsReplicaOfFailoverWinner (winnerId : String)
  | touchPong (id : String)
  | markFail (id : String)
  | ingestFailReports (peer : String) (suspects : List String)
  | noteUnreachable (id : String) (order : List String)
  | escalateFails (order : List String)
  | configureAsReplicaOf (masterId : String)
  | claimSlotsFrom (failedId : String)
  | reassignSlot (slot : Nat) (nodeId : String)
  | reassignSlotRange (first last : Nat) (nodeId : String)
  | setMigrating (slot : Nat) (dest : String)
  | setImporting (slot : Nat) (source : String)
  | setStable (slot : Nat)
  | setPrepareNode (now slot : Nat) (nodeId : String) (save : Save)
  | abortPrepareNode (slot : Nat) (save : Save)
  | preparedNode (now slot : Nat)
  | clearAllPrepares
  | checkPrepareValid (now later slot : Nat) (nodeId : String)
  | commitPrepareNode (now later slot : Nat) (nodeId : String) (save : Save)
  | setNode (slot : Nat) (nodeId : String)
  | testBumpSlotEpochKeepPrepare (slot : Nat)
  | testExpirePrepare (now slot : Nat)
  | testInject (hook : Hook) (count : Nat)
  | applyOwnershipRange (range : ReceivedRange)
  | mergeOwnershipSnapshot (ranges : List ReceivedRange)

def Cluster.perform (cluster : Cluster) : Operation → Cluster
  | .setAnnounceIp ip => cluster.setAnnounceIp ip
  | .setAnnouncePort port => cluster.setAnnouncePort port
  | .setNodesConfDir dir => cluster.enter (.setNodesConfDir dir)
  | .saveNodesConfTo save => cluster.saveNodesConf save
  | .autosaveNodesConf save => cluster.autosaveNodesConf save
  | .setLocalReplOffset offset => cluster.setLocalReplOffset offset
  | .setLocalReplPriority priority => cluster.setLocalReplPriority priority
  | .bumpEpoch => cluster.enter .bumpEpoch
  | .setConfigEpoch epoch => cluster.enter (.setConfigEpoch epoch)
  | .forgetNode nodeId => cluster.enter (.forgetNode nodeId)
  | .resetClusterConfig => cluster.resetClusterConfig
  | .addSlots slots => cluster.enter (.addSlots slots)
  | .delSlots slots => cluster.enter (.delSlots slots)
  | .addSlotRanges ranges => (cluster.settled (cluster.addSlotRanges ranges)).1
  | .delSlotRanges ranges => (cluster.settled (cluster.delSlotRanges ranges)).1
  | .flushSlots => cluster.enter .flushSlots
  | .addNode id ip port => cluster.enter (.addNodeWithRole id ip port none none)
  | .addNodeWithRole id ip port roleMaster roleMasterId => cluster.enter (.addNodeWithRole id ip port roleMaster roleMasterId)
  | .mergeRoleMap entries => cluster.mergeRoleMap entries
  | .manualFailover mode => (cluster.manualFailover mode).1
  | .reconfigureAsReplicaOfFailoverWinner winnerId => (cluster.settled (cluster.reconfigureAsReplicaOfFailoverWinner winnerId)).1
  | .touchPong id => cluster.touchPong id
  | .markFail id => cluster.enter (.markFail id)
  | .ingestFailReports peer suspects => cluster.ingestFailReports peer suspects
  | .noteUnreachable id order => (cluster.noteUnreachable id order).1
  | .escalateFails order => (cluster.escalateFails order).1
  | .configureAsReplicaOf masterId => cluster.enter (.configureAsReplicaOf masterId)
  | .claimSlotsFrom failedId => cluster.enter (.claimSlotsFrom failedId)
  | .reassignSlot slot nodeId => cluster.enter (.reassignSlot slot nodeId)
  | .reassignSlotRange first last nodeId =>
    { cluster with toClusterState := (cluster.reassignSlotRange first last nodeId).1 }
  | .setMigrating slot dest => cluster.enter (.setMigrating slot dest)
  | .setImporting slot source => cluster.enter (.setImporting slot source)
  | .setStable slot => cluster.enter (.setStable slot)
  | .setPrepareNode now slot nodeId save => (cluster.setPrepareNode now slot nodeId save).1
  | .abortPrepareNode slot save => (cluster.abortPrepareNode slot save).1
  | .preparedNode now slot => cluster.enter (.purgeExpiredPrepare now slot)
  | .clearAllPrepares => cluster.enter .clearAllPrepares
  | .checkPrepareValid now later slot nodeId => (cluster.checkPrepareValid now later slot nodeId).1
  | .commitPrepareNode now later slot nodeId save => (cluster.commitPrepareNode now later slot nodeId save).1
  | .setNode slot nodeId => (cluster.setNode slot nodeId).1
  | .testBumpSlotEpochKeepPrepare slot => cluster.enter (.testBumpSlotEpochKeepPrepare slot)
  | .testExpirePrepare now slot => cluster.enter (.testExpirePrepare now slot)
  | .testInject hook count => cluster.enter (.hook hook count)
  | .applyOwnershipRange range => cluster.enter (.applyOwnershipRange range)
  | .mergeOwnershipSnapshot ranges => { cluster with toClusterState := (cluster.mergeOwnershipSnapshot (ranges.map (·.1))).1 }

inductive Boot where
  | singleNode (ip : String) (port : Nat) (generated : String)
  | nodesConf (ip : String) (port now : Nat) (conf : NodesConf)

def Boot.start : Boot → Except String Cluster
  | singleNode ip port generated => .ok (Cluster.singleNode ip port generated)
  | nodesConf ip port now conf => Cluster.fromNodesConf ip port now conf

end Kore.Cluster
