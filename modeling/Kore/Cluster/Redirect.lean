import Kore.Cluster.Slots
import Kore.Commands.KeySpecs

/-! The cluster gate: whether a node runs a command itself, or sends the client elsewhere. -/

namespace Kore.Cluster
open Foundation Protocol Commands

variable (member : ClusterMember) (state : ClusterState) (slot : Nat)

namespace ClusterState

def isMigrating : Bool := (state.migrating.lookup slot).isSome

def isImporting : Bool := (state.importing.lookup slot).isSome

/-- The node that serves a slot; an empty id means that the slot is unbound. -/
def ownerOf : Option ClusterNode :=
  (state.ownerIdOf slot).bind fun id => if id = "" then none else state.nodes.get id

def canServeReadonly : Bool :=
  match state.nodes.get state.myId with
  | some me => !me.master && me.masterId.any fun master => state.ownerIdOf slot == some master
  | none => false

def hasFullCoverage : Bool :=
  state.slotOwner.toList.all fun id => id != "" && (state.nodes.get id).any fun node => !node.fail

end ClusterState

structure RedirectTarget where
  slot : Nat
  ip : String
  port : Nat
  nodeId : String

def RedirectTarget.ofNode (node : ClusterNode) : RedirectTarget := ⟨slot, node.ip, node.port, node.id⟩

def RedirectTarget.address (target : RedirectTarget) : Bytes := ascii target.ip ++ ascii ":" ++ decimal target.port

def ClusterState.movedTarget : Option RedirectTarget :=
  (state.ownerOf slot).map (RedirectTarget.ofNode slot)

def ClusterState.askTarget : Option RedirectTarget :=
  ((state.migrating.lookup slot).bind state.nodes.get).map (RedirectTarget.ofNode slot)

structure ClusterMember where
  state : ClusterState
  requireFullCoverage : Bool
  allowReadsWhenDown : Bool
  holds : Bytes → Bool

inductive Verdict where
  | serve
  | refuse (denial : Denial)
  | moved (target : RedirectTarget)
  | ask (target : RedirectTarget)

def Verdict.denial : Verdict → Option Denial
  | serve => none
  | refuse denial => some denial
  | moved target => some (.moved target.slot target.address)
  | ask target => some (.ask target.slot target.address)

namespace ClusterMember

def clusterStateOk : Bool := !member.requireFullCoverage || member.state.hasFullCoverage

/-- Commands that are refused while a slot is not served. -/
def isDown (write : Bool) : Bool := !member.clusterStateOk && !(member.allowReadsWhenDown && !write)

def routeSlot (readonly write asking : Bool) (slot : Nat) (keys : List Bytes) : Verdict :=
  if member.isDown write && !(asking && member.state.isImporting slot) then .refuse .clusterDown
  else if asking && member.state.isImporting slot then .serve
  else if !member.state.ownsSlot slot then
    if readonly && !write && member.state.canServeReadonly slot then .serve
    else match member.state.movedTarget slot with
      | some target => .moved target
      | none => .refuse (.notServed slot)
  else if member.state.isMigrating slot && keys.any fun key => !member.holds key then
    match member.state.askTarget slot with
    | some target => .ask target
    | none => .serve
  else .serve

def route (readonly : Bool) (name : Bytes) (args : List RespValue) (asking : Bool) : Verdict :=
  if name = ascii "SELECT" ∨ name = ascii "MOVE" then .refuse (.databaseInCluster name)
  else match requestKeys name args with
    | [] => .serve
    | key :: keys =>
      if keys.any fun other => keyHashSlot other ≠ keyHashSlot key then .refuse .crossSlot
      else member.routeSlot readonly (isWrite name args) asking (keyHashSlot key) (key :: keys)

def checkClusterRedirect (readonly : Bool) (name : Bytes) (args : List RespValue) (asking : Bool) :
    Option Denial :=
  (member.route readonly name args asking).denial

end ClusterMember
end Kore.Cluster
