import Kore.Commands.Bitfields
import Kore.Commands.Readers
import Kore.Commands.Scripting

/-! What the calls of a script do to the logical databases: the handlers that it reaches and
the database that is selected. The writes without a flag that reads share are left open. -/

namespace Kore.Commands
open Foundation Protocol Cache

structure ScriptState (F : Type) where
  databases : List (Keyspace F)
  selectedDb : Nat
  now : Nat
  grants : List Grant

structure ScriptServer (F : Type) where
  maxEntrySize : Nat
  entryStructSize : Nat
  clusterEnabled : Bool
  walk : SortWalk F
  work : ReadWork F
  writes : ScriptState F → Bytes → List RespValue → ScriptState F

namespace ScriptState
variable {F : Type}

def room (state : ScriptState F) : Room F := ⟨(state.databases[state.selectedDb]?).getD ∅, state.grants, []⟩

def setRoom (state : ScriptState F) (room : Room F) : ScriptState F :=
  { state with databases := state.databases.set state.selectedDb room.keyspace, grants := room.grants }

def slot (state : ScriptState F) (index : Nat) (key : Bytes) : Option (KeySlot F) :=
  (state.databases[index]?).bind fun keyspace => keyspace.lookup key

end ScriptState

namespace ScriptServer
variable {F : Type} (server : ScriptServer F)

def setting (now : Nat) : Setting := ⟨now, server.maxEntrySize, server.entryStructSize⟩

def handleSelect (state : ScriptState F) (args : List RespValue) : ScriptState F :=
  if server.clusterEnabled then state
  else match args with
    | [index] =>
      match integerOf index with
      | some index => if 0 ≤ index ∧ index.toNat < state.databases.length then { state with selectedDb := index.toNat } else state
      | none => state
    | _ => state

variable [Double F]

/-- `script_dispatch_sync`, as far as the databases are concerned. -/
def scriptDispatchSync (state : ScriptState F) (name : Bytes) (args : List RespValue) : ScriptState F :=
  if name = ascii "SELECT" then server.handleSelect state args
  else if name = ascii "SORT" then state.setRoom (handleSort server.walk state.now state.room args).1
  else if name = ascii "BITFIELD_RO" then
    ((handleBitfieldRo (server.setting state.now) state.room args).map fun handled => state.setRoom handled.1).getD state
  else match readerOf name with
    | some reader => state.setRoom (reader.handle server.work state.now args state.room)
    | none => if isWriteCommand name then server.writes state name args else state

def call (readonly : Bool) (state : ScriptState F) (made : Nat × List LuaValue) : ScriptState F :=
  let state := { state with now := state.now + made.1 }
  match acceptCall readonly made.2 with
  | .ok (name, args) => server.scriptDispatchSync state name args
  | .error _ => state

end ScriptServer
end Kore.Commands
