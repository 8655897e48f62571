import Kore.Foundation.Runs

/-! The counter of changes since the last successful save, beside writers that count a write after it took effect, and saves
that set the counter back once their file is written. -/

namespace Kore.Persistence
namespace Autosave

/-- The writes so far, those of them that are not yet counted, the counter `dirty_changes`, the number of writes in the snapshot of each
save under way, and in the file. -/
structure State where
  writes : Nat := 0
  unmarked : List Nat := []
  dirtyChanges : Nat := 0
  saves : List Nat := []
  saved : Nat := 0

inductive Event where
  | write
  | markDirty (write : Nat)
  | snapshot
  | complete (place : Nat)

/-- `SAVE` is not held off by a save under way. A save that fails does nothing after its snapshot. -/
def step (state : State) : Event → State
  | .write => { state with writes := state.writes + 1, unmarked := state.unmarked ++ [state.writes] }
  | .markDirty write =>
    if write ∈ state.unmarked then
      { state with unmarked := state.unmarked.erase write, dirtyChanges := state.dirtyChanges + 1 }
    else state
  | .snapshot => { state with saves := state.saves ++ [state.writes] }
  | .complete place =>
    match state.saves[place]? with
    | some count => { state with dirtyChanges := 0, saved := count, saves := state.saves.eraseIdx place }
    | none => state

end Autosave
end Kore.Persistence
