import Kore.Commands.ScriptKill

/-! Whether a script that is killed has written. -/

namespace Kore.Proofs.ScriptKills
open Foundation Commands ScriptRun

structure Spared (script : ScriptRun) : Prop where
  unwritten : script.killing = true ∨ script.killRequested = true → script.written = false
  killed : script.phase = .killed → script.killRequested = true

/-- An abort check that finds the kill flag. -/
theorem Spared.abort {script : ScriptRun} (spared : Spared script) (requested : script.killRequested = true) (caught : Bool) :
    Spared (script.shouldAbort caught) := by
  cases caught with
  | true => exact spared
  | false => exact ⟨spared.unwritten, fun _ => requested⟩

theorem Spared.step (script : ScriptRun) (event : ScriptEvent) (spared : Spared script) (timely : script.Timely event) :
    Spared (script.step event) := by
  cases event with
  | hook caught =>
    dsimp only [ScriptRun.step]
    split
    · split
      next requested => exact spared.abort requested caught
      next => exact spared
    · exact spared
  | call caught =>
    dsimp only [ScriptRun.step]
    split
    · split
      next requested => exact spared.abort requested caught
      next => exact ⟨spared.unwritten, nofun⟩
    · exact spared
  | dispatch cmd wrote =>
    dsimp only [ScriptRun.step]
    split
    next =>
      refine ⟨fun either => ?_, nofun⟩
      cases wrote with
      | false => simpa using spared.unwritten either
      | true =>
        obtain ⟨calm, unasked⟩ := timely rfl
        simp [calm, unasked] at either
    next => exact spared
  | mark =>
    dsimp only [ScriptRun.step]
    split
    next => exact ⟨spared.unwritten, nofun⟩
    next => exact spared
  | look =>
    dsimp only [ScriptRun.step]
    split
    next => exact spared
    next quiet =>
      -- the request goes on only without a mark, and then nothing was written
      have unmarked : script.hasWrites = false := by
        simp only [Bool.or_eq_true, not_or, Bool.not_eq_true] at quiet
        exact quiet.2
      have unwritten : script.written = false := by
        by_contra written
        rw [timely (by simpa using written)] at unmarked
        cases unmarked
      exact ⟨fun _ => unwritten, spared.killed⟩
  | request granted =>
    dsimp only [ScriptRun.step]
    split
    next killing =>
      have unwritten := spared.unwritten (.inl killing)
      exact ⟨fun _ => unwritten, fun killed => by simp [spared.killed killed]⟩
    next => exact spared

/-- In a run whose every step is timely, a script that the kill flag has ended has not written. -/
theorem killed_unwritten {events : List ScriptEvent} (timely : Guarded step Timely begun events)
    (killed : (run step begun events).phase = .killed) : (run step begun events).written = false := by
  have spared : Spared (run step begun events) := by
    refine timely.invariant Spared.step ⟨?_, ?_⟩
    · exact fun _ => rfl
    · exact fun killed => by cases killed
  exact spared.unwritten (.inr (spared.killed killed))

/-- A script that has called `GET`, and one `SCRIPT KILL`. -/
theorem idle_script_killed :
    (run step begun [.call false, .dispatch (ascii "GET") false, .mark, .look, .request true, .hook false]).written = false :=
  killed_unwritten (by decide +kernel) (by decide +kernel)

def markedTooLate : List ScriptEvent :=
  [.call false, .dispatch (ascii "SET") true, .look, .request true, .mark, .hook false]

def neverMarked : List ScriptEvent :=
  [.call false, .dispatch (ascii "SORT") true, .mark, .look, .request true, .hook false]

/-- A `SCRIPT KILL` between a write and its mark, and one after a `SORT` with `STORE`, which
is never marked: the script is killed and has written. -/
theorem writer_killed :
    ((run step begun markedTooLate).phase = .killed ∧ (run step begun markedTooLate).written = true) ∧
      (run step begun neverMarked).phase = .killed ∧ (run step begun neverMarked).written = true := by
  decide +kernel

end Kore.Proofs.ScriptKills
