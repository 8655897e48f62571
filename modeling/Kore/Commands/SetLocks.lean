/-! The locks of the set algebra commands. A command reads the sets that it finds under its keys,
one guard after the other, drops all guards together, and then may write one set. -/

namespace Kore.Commands

/-- `SINTER`, `SDIFF` and `SINTERCARD` start with the sets to read, their STORE variants also with
the set to write, `SADD` and `SREM` with nothing but that. -/
inductive SetCommand (κ : Type) where
  | reading (held taking : List κ) (dest : Option κ)
  | waiting (lock : κ)
  | writing (lock : κ)
  | finished
  deriving DecidableEq

namespace SetCommand
variable {κ : Type} [DecidableEq κ]

/-- A reader queues behind a waiting writer. -/
def blocks (other : SetCommand κ) : SetCommand κ → Bool
  | .reading _ (lock :: _) _ => other = .waiting lock ∨ other = .writing lock
  | .waiting lock =>
    match other with
    | .reading held _ _ => lock ∈ held
    | _ => other = .writing lock
  | _ => false

def advance : SetCommand κ → SetCommand κ
  | .reading held (lock :: taking) dest => .reading (lock :: held) taking dest
  | .reading _ [] (some lock) => .waiting lock
  | .waiting lock => .writing lock
  | _ => .finished

/-- The command of the given number goes on, unless it has to wait. -/
def step (commands : List (SetCommand κ)) (index : Nat) : List (SetCommand κ) :=
  match commands[index]? with
  | none => commands
  | some command => if commands.any (·.blocks command) then commands else commands.set index command.advance

/-- Some commands wait for each other. -/
def Deadlocked (commands : List (SetCommand κ)) : Prop :=
  ∃ stuck ⊆ commands, stuck ≠ [] ∧ ∀ command ∈ stuck, ∃ other ∈ stuck, other.blocks command = true

end SetCommand
end Kore.Commands
