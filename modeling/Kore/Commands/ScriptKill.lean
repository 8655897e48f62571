import Kore.Commands.Scripting
import Kore.Foundation.Runs

/-! A running script and the requests to kill it. The script sets its mark after a command
that `is_write_command` lists has succeeded, and a `SCRIPT KILL` sets the kill flag after it
has looked for the mark; every load and store is a step of its own. -/

namespace Kore.Commands
open Foundation

/-- In its own code, in a `redis.call` that was let through, behind the command of the call
(which will be marked or not), or ended by the kill flag. -/
inductive ScriptPhase where
  | running
  | admitted
  | dispatched (marks : Bool)
  | killed
  deriving DecidableEq

/-- `killing`: a `SCRIPT KILL` has found no mark and has not set the flags yet. `written`: a
write of the script has succeeded, of a listed command or of another (`SORT` with `STORE`). -/
structure ScriptRun where
  phase : ScriptPhase
  hasWrites : Bool
  killRequested : Bool
  killing : Bool
  written : Bool

/-- An abort check raises an error that the script may catch. A command that was dispatched
wrote when it is a write and its reply is no error. A request that finds a mark on another
script is not granted. -/
inductive ScriptEvent where
  | hook (caught : Bool)
  | call (caught : Bool)
  | dispatch (cmd : Bytes) (wrote : Bool)
  | mark
  | look
  | request (granted : Bool)

namespace ScriptRun

def begun : ScriptRun := ⟨.running, false, false, false, false⟩

variable (script : ScriptRun)

def shouldAbort (caught : Bool) : ScriptRun := if caught then script else { script with phase := .killed }

def step : ScriptEvent → ScriptRun
  | .hook caught =>
    match script.phase with
    | .running => if script.killRequested then script.shouldAbort caught else script
    | _ => script
  | .call caught =>
    match script.phase with
    | .running => if script.killRequested then script.shouldAbort caught else { script with phase := .admitted }
    | _ => script
  | .dispatch cmd wrote =>
    match script.phase with
    | .admitted => { script with phase := .dispatched (isWriteCommand cmd && wrote), written := script.written || wrote }
    | _ => script
  | .mark =>
    match script.phase with
    | .dispatched marks => { script with phase := .running, hasWrites := script.hasWrites || marks }
    | _ => script
  | .look => if script.killing || script.hasWrites then script else { script with killing := true }
  | .request granted =>
    if script.killing then { script with killing := false, killRequested := script.killRequested || granted } else script

/-- No write succeeds while a request to kill is under way or granted, and no request looks
for the mark while the script has written and is not marked: between a write and its mark,
or when only commands that are not listed have written. -/
def Timely : ScriptEvent → Prop
  | .dispatch _ wrote => wrote = true → script.killing = false ∧ script.killRequested = false
  | .look => script.written = true → script.hasWrites = true
  | _ => True

instance (script : ScriptRun) (event : ScriptEvent) : Decidable (script.Timely event) := by
  cases event <;> unfold Timely <;> infer_instance

end ScriptRun
end Kore.Commands
