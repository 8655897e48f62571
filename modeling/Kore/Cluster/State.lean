import Mathlib.Data.List.Nodup
import Mathlib.Data.String.Basic
import Kore.Foundation.Words

/-! Cluster topology of one process: the table of known nodes, the owner and
config epoch of every slot, and the operations that the gossip tick uses to turn
a master into a replica. -/

namespace Kore.Cluster
open Foundation

def slotCount : Nat := 16384

structure ClusterNode where
  id : String
  ip : String
  port : Nat
  myself : Bool
  master : Bool
  masterId : Option String
  pfail : Bool
  fail : Bool
  deriving DecidableEq, Repr

/-- The `nodes` map. Every insertion of the source uses the node's own id as the
key, so the table is a list of nodes with distinct ids; its order stands for the
unspecified iteration order of the hash map. -/
structure NodeTable where
  entries : List ClusterNode
  distinct : (entries.map ClusterNode.id).Nodup

namespace NodeTable
open List

variable (table : NodeTable) (id : String)

def get : Option ClusterNode :=
  table.entries.find? (fun node => node.id == id)

def containsKey : Bool := (table.get id).isSome

/-- `get_mut` followed by field assignments; none of them touches the id. -/
def modify (update : ClusterNode → ClusterNode)
    (keeps : ∀ node, (update node).id = node.id) : NodeTable where
  entries := table.entries.map fun node => if node.id = id then update node else node
  distinct := by
    have same : (fun node : ClusterNode => (if node.id = id then update node else node).id) = ClusterNode.id := by
      funext node
      split
      · exact keeps node
      · rfl
    rw [map_map]
    simpa only [Function.comp_def, same] using table.distinct

theorem get_eq_some {table : NodeTable} {id : String} {node : ClusterNode} :
    table.get id = some node ↔ node ∈ table.entries ∧ node.id = id := by
  constructor
  · intro found
    exact ⟨mem_of_find?_eq_some found, by simpa using find?_some found⟩
  · rintro ⟨member, rfl⟩
    have some : (table.get node.id).isSome := by
      rw [get, find?_isSome]
      exact ⟨node, member, by simp⟩
    obtain ⟨other, found⟩ := Option.isSome_iff_exists.mp some
    have same : other.id = node.id := by simpa using find?_some found
    have equal := inj_on_of_nodup_map table.distinct (mem_of_find?_eq_some found) member same
    rw [found, equal]

theorem get_modify (other : String) (update : ClusterNode → ClusterNode)
    (keeps : ∀ node, (update node).id = node.id) :
    (table.modify id update keeps).get other =
      (table.get other).map fun node => if node.id = id then update node else node := by
  have same : (fun node : ClusterNode => (if node.id = id then update node else node).id == other) =
      fun node => node.id == other := by
    funext node
    split
    · rw [keeps]
    · rfl
  simp only [get, modify, find?_map, Function.comp_def, same]

end NodeTable

structure PrepareVote where
  targetId : String
  slotEpoch : Nat
  preparedAtUnixMs : Nat
  deriving DecidableEq, Repr

structure ClusterState where
  myId : String
  slotOwner : Vector String slotCount
  slotConfigEpoch : Vector Nat slotCount
  migrating : List (Nat × String)
  importing : List (Nat × String)
  prepareNode : List (Nat × PrepareVote)
  nodes : NodeTable
  currentEpoch : Nat

variable (state : ClusterState)

namespace ClusterState

def getNode (id : String) : Option ClusterNode := state.nodes.get id

def ownerIdOf (slot : Nat) : Option String := state.slotOwner.toList[slot]?

def ownsSlot (slot : Nat) : Bool :=
  ((state.slotOwner.toList[slot]?).map fun id => id == state.myId).getD false

def isReplicaOf (masterId : String) : Bool :=
  ((state.nodes.get state.myId).map fun node => !node.master && node.masterId == some masterId).getD false

/-- One round of the scan in `other_master_with_slots`: the best pair of slot
count and id so far, replaced by a strictly greater one. -/
def considerMaster (best : Option (Nat × String)) (node : ClusterNode) : Option (Nat × String) :=
  if node.myself || node.fail || !node.master || node.id == state.myId then best
  else
    let count := state.slotOwner.toList.countP (fun owner => owner == node.id)
    if count == 0 then best
    else match best with
      | none => some (count, node.id)
      | some (slots, id) =>
        if slots < count || (count == slots && id < node.id) then some (count, node.id) else some (slots, id)

def otherMasterWithSlots : Option String :=
  (state.nodes.entries.foldl state.considerMaster none).map Prod.snd

def configureAsReplicaOf (masterId : String) : Except String ClusterState :=
  if masterId == state.myId then .error "cannot replicate myself"
  else if !state.nodes.containsKey masterId then .error s!"Unknown node {masterId}"
  else
    let handed :=
      if state.slotOwner.toList.any (fun owner => owner == state.myId) then
        let epoch := satAdd state.currentEpoch 1
        { state with
          currentEpoch := epoch
          slotOwner := state.slotOwner.map fun owner => if owner == state.myId then masterId else owner
          slotConfigEpoch := Vector.zipWith
            (fun owner old => if owner == state.myId then epoch else old) state.slotOwner state.slotConfigEpoch }
      else state
    .ok { handed with
      migrating := []
      importing := []
      prepareNode := []
      nodes := (handed.nodes.modify state.myId
        (fun me => { me with master := false, masterId := some masterId, fail := false }) (fun _ => rfl)).modify masterId
        (fun node => { node with master := true, masterId := none }) (fun _ => rfl) }

/-- The first section of `reconfigure_as_replica_of_failover_winner`. -/
def markWinner (winnerId : String) : ClusterState :=
  { state with
    nodes := state.nodes.modify winnerId
      (fun node => { node with master := true, masterId := none, fail := false, pfail := false }) (fun _ => rfl) }

def reconfigureAsReplicaOfFailoverWinner (winnerId : String) : Except String ClusterState :=
  if winnerId == state.myId then .error "cannot reconfigure as replica of myself"
  else if state.isReplicaOf winnerId then .ok state
  else if !state.nodes.containsKey winnerId then .error s!"Unknown node {winnerId}"
  else (state.markWinner winnerId).configureAsReplicaOf winnerId

end ClusterState
end Kore.Cluster
