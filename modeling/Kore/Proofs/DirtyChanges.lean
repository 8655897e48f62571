import Kore.Persistence.Autosave

/-! Whether the counter of changes covers the writes that the saved file lacks. -/

namespace Kore.Proofs.DirtyChanges
open Foundation Persistence.Autosave

/-- How many of the unmarked writes came after the first `count`. -/
def since (count : Nat) (unmarked : List Nat) : Nat := unmarked.countP (count ≤ ·)

def Covers (state : State) : Prop := state.writes - state.saved ≤ state.dirtyChanges + since state.saved state.unmarked

/-- No save completes after a write since its snapshot has been counted. -/
def Timely (state : State) : Event → Prop
  | .complete place => ∀ count ∈ state.saves[place]?, state.writes - count ≤ since count state.unmarked
  | _ => True

end Kore.Proofs.DirtyChanges
