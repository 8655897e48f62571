import Mathlib.Data.List.TakeWhile
import Kore.Foundation.Precedence
import Kore.Foundation.Runs
import Kore.Proofs.AofRewrite

/-! The order of the append-only file and of the replication stream, for any interleaving
of clients whose commands take effect and are logged in two steps. The bytes of both logs
follow the calls of the logging hook; that is the order of the effects for commands that do
not overlap. -/

namespace Kore.Proofs.LogOrder
open Foundation Protocol Commands Persistence List List.Sublist PersistenceManager Disk ReplicationManager
open AofReplay AofRewrite BacklogWindow StreamFrames StreamPublish

inductive LogEvent where
  | client (step : ClientStep)
  | register (host : Option String) (port : Option Nat)
  deriving DecidableEq

namespace LogEvent

def clientStep : LogEvent → Option ClientStep
  | client step => some step
  | register .. => none

/-- The stream is published from the first replica on. -/
def arms : LogEvent → Bool
  | client _ => false
  | register .. => true

end LogEvent
open LogEvent

section schedules
variable (schedule : List LogEvent)

def clientSteps : List ClientStep := schedule.filterMap clientStep

/-- The calls of the logging hook, in their order. -/
def calls : List Nat := (clientSteps schedule).filterMap ClientStep.logging

def armed : List LogEvent := schedule.dropWhile fun event => !event.arms

variable {schedule}

theorem calls_append (event : LogEvent) :
    calls (schedule ++ [event]) = calls schedule ++ (event.clientStep.bind ClientStep.logging).toList := by
  rw [calls, clientSteps, filterMap_append, filterMap_append, calls, clientSteps]
  cases picked : event.clientStep with
  | none => simp [picked]
  | some step => cases logged : step.logging <;> simp [picked, logged]

theorem armed_sublist : (calls (armed schedule)).Sublist (calls schedule) :=
  ((dropWhile_sublist _).filterMap _).filterMap _

theorem armed_cold (cold : schedule.any arms = false) : armed schedule = [] := by
  rw [armed, dropWhile_eq_nil_iff]
  intro event member
  rw [any_eq_false] at cold
  simpa using cold event member

theorem armed_append (event : LogEvent) :
    calls (armed (schedule ++ [event])) =
      calls (armed schedule) ++ if schedule.any arms then (event.clientStep.bind ClientStep.logging).toList else [] := by
  cases hot : schedule.any arms with
  | false =>
    have before := armed_cold hot
    rw [before]
    rw [armed] at before
    rw [armed, dropWhile_append, before]
    cases event <;> simp [arms, calls, clientSteps, clientStep]
  | true =>
    have before : (armed schedule).isEmpty = false := by
      rw [isEmpty_eq_false_iff, armed, ne_eq, dropWhile_eq_nil_iff]
      obtain ⟨arming, member, arms⟩ := any_eq_true.mp hot
      intro none
      simpa [arms] using none arming member
    have kept : armed (schedule ++ [event]) = armed schedule ++ [event] := by
      rw [armed] at before
      rw [armed, dropWhile_append, before]
      rfl
    rw [kept, calls_append, if_pos rfl]

end schedules

/-- The manager and its disk, with the writes in the order in which they took effect. -/
structure LoggingState where
  manager : PersistenceManager
  disk : Disk
  mutated : List Nat

section steps
variable (commands : Nat → UInt64 × LoggedCommand)

namespace LoggingState

def start (appendonly : Bool) (replid : ReplId) (capacity : Nat) (disk : Disk) : LoggingState where
  manager := (new appendonly replid capacity disk).1
  disk := (new appendonly replid capacity disk).2
  mutated := []

def step (state : LoggingState) : LogEvent → LoggingState
  | .client (.mutate write) => { state with mutated := state.mutated ++ [write] }
  | .client (.log write) =>
    let after := state.manager.onWriteCommand state.disk (commands write).1.toNat (commands write).2.argv.args
    { state with manager := after.1, disk := after.2 }
  | .register host port =>
    { state with manager := { state.manager with replication := state.manager.replication.registerReplicaAnnounced host port } }

end LoggingState

def lastDb (remembered : Option Nat) (writes : List Nat) : Option Nat :=
  writes.foldl (fun _ write => some (commands write).1.toNat) remembered

theorem logBytes_append (remembered : Option Nat) (writes : List Nat) (write : Nat) :
    logBytes commands remembered (writes ++ [write]) = logBytes commands remembered writes ++
      recordBytes (lastDb commands remembered writes) (commands write).1.toNat (commands write).2.argv.args := by
  induction writes generalizing remembered with
  | nil => simp [logBytes, lastDb]
  | cons first writes ih =>
    rw [cons_append, logBytes, ih, logBytes, append_assoc]
    rfl

/-- The file holds what it held before and then the calls so far. -/
structure Filed (earlier : Bytes) (schedule : List LogEvent) (state : LoggingState) : Prop where
  written : state.manager.appendonly = true → ∃ inode, state.manager.writer = some inode ∧ state.disk.aofPath = some inode ∧
    state.disk.contents inode = earlier ++ logBytes commands none (calls schedule)
  selected : state.manager.appendonly = true → state.manager.selectedDb = lastDb commands none (calls schedule)
  untouched : state.manager.appendonly = false → state.disk.readAof = earlier

/-- The backlog holds the end of the stream of the calls since the stream is published. -/
structure Streamed (schedule : List LogEvent) (manager : ReplicationManager) : Prop where
  hot : manager.needsStreamPublish = schedule.any arms
  counted : manager.connectedReplicas = manager.replicas.length
  selected : manager.backlog.selectedDb = lastDb commands none (calls (armed schedule))
  window : (logBytes commands none (calls (armed schedule))).length ≤ u64Max →
    Window (logBytes commands none (calls (armed schedule))) manager.backlog

variable {commands} {earlier : Bytes} {schedule : List LogEvent} {state : LoggingState} {manager : ReplicationManager}

theorem Filed.log (filed : Filed commands earlier schedule state) (write : Nat) :
    Filed commands earlier (schedule ++ [.client (.log write)]) (state.step commands (.client (.log write))) := by
  have called : calls (schedule ++ [.client (.log write)]) = calls schedule ++ [write] := calls_append _
  cases enabled : state.manager.appendonly with
  | true =>
    obtain ⟨inode, writer, path, contents⟩ := filed.written enabled
    have selected : state.manager.markDirty.selectedDb = _ := filed.selected enabled
    have grown := @recordCommand_appends state.manager.markDirty inode writer state.disk (commands write).1.toNat
      (commands write).2.argv.args
    rw [selected] at grown
    have after := onWriteCommand_enabled enabled state.disk (commands write).1.toNat (commands write).2.argv.args
    constructor <;> simp only [LoggingState.step, after, called]
    · intro _
      refine ⟨inode, writer, grown.path.trans path, ?_⟩
      rw [grown.contents, contents, logBytes_append, append_assoc]
    · intro _
      simp [lastDb]
    · intro disabled
      simp [markDirty, enabled] at disabled
  | false =>
    have after := onWriteCommand_disabled enabled state.disk (commands write).1.toNat (commands write).2.argv.args
    have off : state.manager.markDirty.appendonly = false := enabled
    constructor <;> simp only [LoggingState.step, after, off, Bool.false_eq_true, false_imp_iff]
    exact fun _ => filed.untouched enabled

theorem Streamed.log (streamed : Streamed commands schedule manager) (write : Nat) :
    Streamed commands (schedule ++ [.client (.log write)])
      (manager.propagateWrite (commands write).1.toNat (commands write).2.argv.args) := by
  have still : (schedule ++ [LogEvent.client (.log write)]).any arms = schedule.any arms := by simp [arms]
  have called := @armed_append schedule (.client (.log write))
  cases hot : manager.needsStreamPublish with
  | false =>
    rw [← streamed.hot, hot, if_neg Bool.false_ne_true, append_nil] at called
    rw [propagateWrite_cold _ _ _ hot]
    constructor
    · rw [still, streamed.hot]
    · exact streamed.counted
    · rw [called, streamed.selected]
    · rw [called]
      exact streamed.window
  | true =>
    have published := propagateWrite_published manager (commands write).1 (commands write).2 hot streamed.counted
    have payload := payload_eq manager (commands write).1 (commands write).2
    rw [← streamed.hot, hot, if_pos rfl] at called
    replace called : calls (armed (schedule ++ [.client (.log write)])) = calls (armed schedule) ++ [write] := called
    have bytes : logBytes commands none (calls (armed (schedule ++ [.client (.log write)]))) =
        logBytes commands none (calls (armed schedule)) ++
          encodeAll (StreamPublish.published manager.backlog.selectedDb (commands write).1 (commands write).2) := by
      rw [called, logBytes_append, ← payload, ← streamed.selected]
      rfl
    constructor
    · rw [still, ← streamed.hot, hot, needsStreamPublish, published.history, Bool.or_true]
    · exact published.counted
    · rw [published.backlog, append_selectedDb, called]
      simp [lastDb]
    · intro small
      rw [bytes] at small ⊢
      have before : (logBytes commands none (calls (armed schedule))).length ≤ u64Max := by
        rw [length_append] at small
        omega
      rw [published.backlog]
      exact ((streamed.window before).select _).append small

theorem Streamed.register (streamed : Streamed commands schedule manager) (host : Option String) (port : Option Nat) :
    Streamed commands (schedule ++ [.register host port]) (manager.registerReplicaAnnounced host port) := by
  have same : calls (armed (schedule ++ [.register host port])) = calls (armed schedule) := by
    rw [armed_append]
    simp [clientStep]
  constructor
  · simp [needsStreamPublish, registerReplicaAnnounced, arms]
  · simp [registerReplicaAnnounced, streamed.counted]
  · rw [same]
    exact streamed.selected
  · rw [same]
    exact streamed.window

theorem start_filed (appendonly : Bool) (replid : ReplId) (capacity : Nat) (disk : Disk) :
    Filed commands disk.readAof [] (.start appendonly replid capacity disk) := by
  cases appendonly with
  | false => exact ⟨fun absurd => (by cases absurd), fun absurd => (by cases absurd), fun _ => rfl⟩
  | true =>
    refine ⟨fun _ => ⟨disk.openAof.2, rfl, ?_⟩, fun _ => rfl, fun absurd => (by cases absurd)⟩
    change disk.openAof.1.aofPath = some disk.openAof.2 ∧ disk.openAof.1.contents disk.openAof.2 = disk.readAof ++ []
    cases path : disk.aofPath with
    | some inode => simp [openAof, readAof, path]
    | none => simp [openAof, readAof, create, path]

variable (commands) in
/-- Both logs, and the effects, after the events so far. -/
structure Logged (appendonly : Bool) (earlier : Bytes) (schedule : List LogEvent) (state : LoggingState) : Prop where
  filed : Filed commands earlier schedule state
  streamed : Streamed commands schedule state.manager.replication
  kept : state.manager.appendonly = appendonly
  effects : state.mutated = (clientSteps schedule).filterMap ClientStep.mutation

theorem start_logged (appendonly : Bool) (replid : ReplId) (capacity : Nat) (disk : Disk) :
    Logged commands appendonly disk.readAof [] (.start appendonly replid capacity disk) := by
  have fresh : (LoggingState.start appendonly replid capacity disk).manager.replication = .new replid capacity := by
    cases appendonly <;> rfl
  refine ⟨start_filed appendonly replid capacity disk, ?_, by cases appendonly <;> rfl, rfl⟩
  rw [fresh]
  exact ⟨rfl, rfl, rfl, fun _ => Window.new capacity⟩

theorem Logged.step {appendonly : Bool} (logged : Logged commands appendonly earlier schedule state) (event : LogEvent) :
    Logged commands appendonly earlier (schedule ++ [event]) (state.step commands event) := by
  have steps : (clientSteps (schedule ++ [event])).filterMap ClientStep.mutation =
      state.mutated ++ (event.clientStep.bind ClientStep.mutation).toList := by
    rw [logged.effects, clientSteps, filterMap_append, filterMap_append, clientSteps]
    cases picked : event.clientStep with
    | none => simp [picked]
    | some step => cases effect : step.mutation <;> simp [picked, effect]
  have called := @calls_append schedule event
  have published := @armed_append schedule event
  cases event with
  | client step =>
    cases step with
    | mutate write =>
      have same : calls (schedule ++ [.client (.mutate write)]) = calls schedule := by rw [called]; exact append_nil _
      have streams : calls (armed (schedule ++ [.client (.mutate write)])) = calls (armed schedule) := by
        rw [published]
        simp [clientStep, ClientStep.logging]
      refine ⟨⟨?_, ?_, logged.filed.untouched⟩, ⟨?_, logged.streamed.counted, ?_, ?_⟩, logged.kept, steps.symm⟩
      · rw [same]
        exact logged.filed.written
      · rw [same]
        exact logged.filed.selected
      · rw [any_append, ← logged.streamed.hot]
        exact (Bool.or_false _).symm
      · rw [streams]
        exact logged.streamed.selected
      · rw [streams]
        exact logged.streamed.window
    | log write =>
      have after : (state.step commands (.client (.log write))).manager.replication =
            state.manager.replication.propagateWrite (commands write).1.toNat (commands write).2.argv.args ∧
          (state.step commands (.client (.log write))).manager.appendonly = state.manager.appendonly := by
        cases enabled : state.manager.appendonly with
        | true => simp [LoggingState.step, onWriteCommand_enabled enabled, markDirty, enabled]
        | false => simp [LoggingState.step, onWriteCommand_disabled enabled, markDirty, enabled]
      refine ⟨logged.filed.log write, ?_, after.2.trans logged.kept, ?_⟩
      · rw [after.1]
        exact logged.streamed.log write
      · exact (append_nil _).symm.trans steps.symm
  | register host port =>
    have same : calls (schedule ++ [.register host port]) = calls schedule := by rw [called]; exact append_nil _
    refine ⟨⟨?_, ?_, logged.filed.untouched⟩, logged.streamed.register host port, logged.kept, ?_⟩
    · rw [same]
      exact logged.filed.written
    · rw [same]
      exact logged.filed.selected
    · exact (append_nil _).symm.trans steps.symm

theorem run_logged (appendonly : Bool) (replid : ReplId) (capacity : Nat) (disk : Disk) (schedule : List LogEvent) :
    Logged commands appendonly disk.readAof schedule
      (run (LoggingState.step commands) (.start appendonly replid capacity disk) schedule) := by
  -- The logs are described by the events so far, so the last event is taken off.
  induction schedule using reverseRecOn with
  | nil => exact start_logged appendonly replid capacity disk
  | append_singleton schedule event ih =>
    rw [run, foldl_append]
    exact ih.step event

theorem Filed.bytes {appendonly : Bool} (filed : Filed commands earlier schedule state)
    (kept : state.manager.appendonly = appendonly) :
    state.disk.readAof = earlier ++ if appendonly then logBytes commands none (calls schedule) else [] := by
  cases appendonly with
  | true =>
    obtain ⟨inode, -, path, contents⟩ := filed.written kept
    rw [readAof, path, Option.map_some, Option.getD_some, contents, if_pos rfl]
  | false => rw [filed.untouched kept, if_neg Bool.false_ne_true, append_nil]

end steps

/-- Each write takes effect once, and is logged once and later. -/
structure Proper (steps : List ClientStep) : Prop where
  once : steps.Nodup
  later : ∀ write, .log write ∈ steps → Before steps (.mutate write) (.log write)

private theorem logging_only (write : Nat) (step : ClientStep) : step.logging = some write ↔ step = .log write := by
  cases step <;> simp [ClientStep.logging]

private theorem mutation_only (write : Nat) (step : ClientStep) : step.mutation = some write ↔ step = .mutate write := by
  cases step <;> simp [ClientStep.mutation]

private theorem loggings_nodup {steps : List ClientStep} (distinct : steps.Nodup) : (steps.filterMap ClientStep.logging).Nodup := by
  refine List.Nodup.filterMap ?_ distinct
  intro step other write picked same
  rw [(logging_only write step).mp picked, (logging_only write other).mp same]

/-- The file grows by the records of the calls of the hook, in their order, and the backlog
holds the end of the records of the calls since the first replica. In both, writes stand in
the order of the calls, and writes of which one is logged before the other takes effect in
the order of their effects. -/
theorem logs_follow_calls (commands : Nat → UInt64 × LoggedCommand) (appendonly : Bool) (replid : ReplId) (capacity : Nat)
    (disk : Disk) (schedule : List LogEvent) (proper : Proper (clientSteps schedule)) :
    let final := run (LoggingState.step commands) (.start appendonly replid capacity disk) schedule
    final.disk.readAof = disk.readAof ++ (if appendonly then logBytes commands none (calls schedule) else []) ∧
      ((logBytes commands none (calls (armed schedule))).length ≤ u64Max →
        Window (logBytes commands none (calls (armed schedule))) final.manager.replication.backlog) ∧
      ∀ log, log = calls schedule ∨ log = calls (armed schedule) → ∀ first ∈ log, ∀ second ∈ log,
        (Before log first second ↔ Before (clientSteps schedule) (.log first) (.log second)) ∧
          (Before (clientSteps schedule) (.log first) (.mutate second) →
            Before log first second ∧ Before final.mutated first second) := by
  intro final
  have logged := @run_logged commands appendonly replid capacity disk schedule
  refine ⟨logged.filed.bytes logged.kept, logged.streamed.window, ?_⟩
  intro log either first here second there
  have part : log.Sublist (calls schedule) := by
    rcases either with rfl | rfl
    · exact refl _
    · exact armed_sublist
  have order : Before log first second ↔ Before (clientSteps schedule) (.log first) (.log second) :=
    (Before.part_iff (loggings_nodup proper.once) part here there).trans
      (Before.filterMap_iff (logging_only first) (logging_only second))
  refine ⟨order, fun apart => ?_⟩
  obtain ⟨called, member, picked⟩ := mem_filterMap.mp (part.subset there)
  rw [(logging_only second called).mp picked] at member
  have after := proper.later second member
  have before := proper.later first apart.left
  refine ⟨order.mpr (apart.trans proper.once after), ?_⟩
  rw [logged.effects]
  exact (Before.filterMap_iff (mutation_only first) (mutation_only second)).mpr (before.trans proper.once apart)

/-- Two writes to one key, the second of which is logged first. -/
def overlapping : List LogEvent :=
  [.register none none, .client (.mutate 0), .client (.mutate 1), .client (.log 1), .client (.log 0)]

def setTo (write : Nat) : UInt64 × LoggedCommand :=
  (0, if write = 0 then setCommand "k" "a" (by decide) else setCommand "k" "b" (by decide))

/-- Writes that take effect in one order on a key, and are logged in the other. -/
theorem overlapping_logged_backwards :
    let final := run (LoggingState.step setTo) (.start true zeroReplid 1024 .empty) overlapping
    final.mutated = [0, 1] ∧
      final.disk.readAof = encodeCommand (setTo 1).2.argv.args ++ encodeCommand (setTo 0).2.argv.args ∧
      final.manager.replication.backlog.buf = encodeCommand (setTo 1).2.argv.args ++ encodeCommand (setTo 0).2.argv.args := by
  decide +kernel

def sequential : List LogEvent :=
  [.client (.mutate 0), .client (.log 0), .register none none, .client (.mutate 1), .client (.mutate 2), .client (.log 2),
    .client (.log 1), .client (.mutate 3), .client (.log 3)]

theorem sequential_proper : Proper (clientSteps sequential) := by
  refine ⟨by decide, fun write member => ?_⟩
  have listed : write = 0 ∨ 2 = write ∨ 1 = write ∨ 3 = write := by
    simpa [clientSteps, sequential, clientStep] using member
  rcases listed with rfl | rfl | rfl | rfl <;> decide

/-- Four writes, two of which overlap, and a replica that comes after the first. -/
theorem sequential_logged_in_order :
    let final := run (LoggingState.step setTo) (.start true zeroReplid 1024 .empty) sequential
    final.disk.readAof = logBytes setTo none [0, 2, 1, 3] ∧ Window (logBytes setTo none [2, 1, 3]) final.manager.replication.backlog ∧
      Before final.mutated 2 3 := by
  obtain ⟨file, stream, order⟩ := logs_follow_calls setTo true zeroReplid 1024 .empty sequential sequential_proper
  refine ⟨file, stream (by decide +kernel), ?_⟩
  exact ((order (calls (armed sequential)) (.inr rfl) 2 (by decide) 3 (by decide)).2 (by decide)).2

end Kore.Proofs.LogOrder
