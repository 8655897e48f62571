import Kore.Cluster.State

/-! The demotion step that ends every gossip tick. -/

namespace Kore.Cluster
namespace ClusterState

/-- Re-point at `winner`. The second component is the address handed to
`set_replicaof` when a persistence manager is attached. -/
def followNewMaster (state : ClusterState) (winner : String) : ClusterState × Option String :=
  match state.reconfigureAsReplicaOfFailoverWinner winner with
  | .ok after => (after, (after.getNode winner).map fun node => s!"{node.ip}:{node.port}")
  | .error _ => (state, none)

def tryDemoteIfSuperseded (state : ClusterState) : ClusterState × Option String :=
  match state.getNode state.myId with
  | none => (state, none)
  | some me =>
    if !me.master || me.fail then (state, none)
    else
      let mySlots := (List.range slotCount).countP state.ownsSlot
      match state.otherMasterWithSlots with
      | none => (state, none)
      | some other =>
        let otherSlots := (List.range slotCount).countP fun slot => state.ownerIdOf slot == some other
        let demote := mySlots < otherSlots || (otherSlots == mySlots && state.myId < other) ||
          (mySlots == 0 && 0 < otherSlots)
        if !demote then (state, none) else state.followNewMaster other

end ClusterState
end Kore.Cluster
