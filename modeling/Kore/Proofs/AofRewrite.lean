import Kore.Proofs.AofReplay
import Kore.Proofs.StreamPublish

/-! Writes that run concurrently with one rewrite of the append-only file. A write takes
effect and is logged in two steps; a rewrite captures a snapshot, renames its file over
the path, and reopens the writer in three. A logged write is in the file afterwards
exactly once only when the rewrite finds both its steps on the same side. -/

namespace Kore.Proofs.AofRewrite
open Foundation Protocol Commands Persistence AofReplay StreamPublish List PersistenceManager Option Disk

inductive ClientStep where
  | mutate (write : Nat)
  | log (write : Nat)
  deriving DecidableEq

namespace ClientStep

def mutation : ClientStep → Option Nat
  | mutate write => some write
  | log _ => none

def logging : ClientStep → Option Nat
  | mutate _ => none
  | log write => some write

end ClientStep
open ClientStep

/-- The manager and its disk, with the writes that have taken effect and those that the
rewrite's snapshot reflects. -/
structure RewriteState where
  manager : PersistenceManager
  disk : Disk
  mutated : List Nat
  captured : List Nat

section steps
-- What a write is logged as, and the libraries and databases that a snapshot finds once writes have taken effect.
variable (commands : Nat → UInt64 × LoggedCommand) (snapshot : List Nat → List Bytes × List DbSnapshot)

def logBytes : Option Nat → List Nat → Bytes
  | _, [] => []
  | remembered, write :: writes =>
    recordBytes remembered (commands write).1.toNat (commands write).2.argv.args ++
      logBytes (some (commands write).1.toNat) writes

def dump (captured : List Nat) : Bytes :=
  Aof.encodeCommands (Aof.rewriteDatabases (snapshot captured).1 (snapshot captured).2)

/-- The numbered writes that a file holds: in its snapshot, and as appended commands. -/
structure Representation where
  dumped : List Nat
  appended : List Nat

namespace Representation
variable (representation : Representation)

def times (write : Nat) : Nat := representation.dumped.count write + representation.appended.count write

def file : Bytes := dump snapshot representation.dumped ++ logBytes commands none representation.appended

end Representation

namespace RewriteState

def start (replid : ReplId) (capacity : Nat) (disk : Disk) : RewriteState where
  manager := (new true replid capacity disk).1
  disk := (new true replid capacity disk).2
  mutated := []
  captured := []

variable (state : RewriteState)

def client : ClientStep → RewriteState
  | .mutate write => { state with mutated := state.mutated ++ [write] }
  | .log write =>
    let after := state.manager.onWriteCommand state.disk (commands write).1.toNat (commands write).2.argv.args
    { state with manager := after.1, disk := after.2 }

def capture : RewriteState := { state with captured := state.mutated }

def rename : RewriteState := { state with disk := state.disk.writeAofBuffer (dump snapshot state.captured) }

def reopen : RewriteState :=
  { state with
    manager := (state.manager.reopenWriter state.disk).1
    disk := (state.manager.reopenWriter state.disk).2 }

end RewriteState
open RewriteState

/-- Client steps before the snapshot, before the rename, before the reopening of the
writer, and after it. -/
structure RewriteSchedule where
  early : List ClientStep
  captured : List ClientStep
  renamed : List ClientStep
  late : List ClientStep

namespace RewriteSchedule

def all (schedule : RewriteSchedule) : List ClientStep :=
  schedule.early ++ schedule.captured ++ schedule.renamed ++ schedule.late

def run (schedule : RewriteSchedule) (state : RewriteState) : RewriteState :=
  let clients (state : RewriteState) (steps : List ClientStep) := steps.foldl (client commands) state
  let captured := clients (clients state schedule.early).capture schedule.captured
  let renamed := clients (captured.rename snapshot) schedule.renamed
  clients renamed.reopen schedule.late

/-- The writes whose effects the snapshot finds, and those logged after the writer was reopened. -/
def representation (schedule : RewriteSchedule) : Representation where
  dumped := schedule.early.filterMap mutation
  appended := schedule.late.filterMap logging

end RewriteSchedule

/-- Client steps act on the keyspace and on the file behind the writer only. -/
structure Served (inode : Nat) (steps : List ClientStep) (before after : RewriteState) : Prop where
  enabled : after.manager.appendonly = true
  writer : after.manager.writer = some inode
  path : after.disk.aofPath = before.disk.aofPath
  next : after.disk.nextInode = before.disk.nextInode
  mutated : after.mutated = before.mutated ++ steps.filterMap mutation
  captured : after.captured = before.captured
  contents : after.disk.contents inode = before.disk.contents inode ++
    logBytes commands before.manager.selectedDb (steps.filterMap logging)
  others : ∀ other, other ≠ inode → after.disk.contents other = before.disk.contents other

theorem clients_served {inode : Nat} (steps : List ClientStep) {state : RewriteState} (enabled : state.manager.appendonly)
    (writer : state.manager.writer = some inode) :
    Served commands inode steps state (steps.foldl (client commands) state) := by
  induction steps generalizing state with
  | nil => exact ⟨enabled, writer, rfl, rfl, by simp, rfl, by simp [logBytes], fun _ _ => rfl⟩
  | cons step steps ih =>
    cases step with
    | mutate write =>
      have served := @ih (state.client commands (.mutate write)) enabled writer
      refine { served with mutated := ?_ }
      rw [foldl_cons, served.mutated]
      simp [client, mutation]
    | log write =>
      have recorded := @recordCommand_appends state.manager.markDirty inode writer state.disk (commands write).1.toNat
        (commands write).2.argv.args
      have stepped : state.client commands (.log write) = { state with
          manager := { state.manager.markDirty with
            selectedDb := some (commands write).1.toNat
            replication := state.manager.replication.propagateWrite (commands write).1.toNat (commands write).2.argv.args }
          disk := state.manager.markDirty.recordCommand state.disk (commands write).1.toNat (commands write).2.argv.args } := by
        simp [client, onWriteCommand_enabled enabled]
      have served := @ih (state.client commands (.log write)) (by rw [stepped]; exact enabled) (by rw [stepped]; exact writer)
      rw [stepped] at served
      rw [foldl_cons, stepped]
      constructor
      · exact served.enabled
      · exact served.writer
      · exact served.path.trans recorded.path
      · exact served.next.trans recorded.next
      · exact served.mutated
      · exact served.captured
      · rw [served.contents, recorded.contents, append_assoc]
        rfl
      · intro other apart
        exact (served.others other apart).trans (recorded.others other apart)

/-- After the rewrite the file holds the snapshot and the commands logged since the
writer was reopened, and nothing else. -/
theorem run_file (replid : ReplId) (capacity : Nat) (disk : Disk) (schedule : RewriteSchedule) :
    (schedule.run commands snapshot (.start replid capacity disk)).disk.readAof =
      schedule.representation.file commands snapshot := by
  obtain ⟨old, opened, writer, issued⟩ : ∃ old, (start replid capacity disk).manager.appendonly = true ∧
      (start replid capacity disk).manager.writer = some old ∧
      old < (start replid capacity disk).disk.nextInode := by
    refine ⟨disk.openAof.2, rfl, rfl, ?_⟩
    change disk.openAof.2 < disk.openAof.1.nextInode
    unfold openAof
    split
    next inode path => exact disk.issued inode path
    · exact Nat.lt_succ_self _
  have early := clients_served commands schedule.early opened writer
  have captured := @clients_served commands old schedule.captured
    (schedule.early.foldl (client commands) (.start replid capacity disk)).capture early.enabled early.writer
  generalize stateEq : schedule.captured.foldl (client commands)
    (schedule.early.foldl (client commands) (.start replid capacity disk)).capture = state at captured
  have reflected : state.captured = schedule.early.filterMap mutation := captured.captured.trans early.mutated
  have fresh : state.disk.nextInode ≠ old := by
    have same : state.disk.nextInode = _ := captured.next.trans early.next
    omega
  have renamed := @clients_served commands old schedule.renamed (state.rename snapshot) captured.enabled captured.writer
  generalize laterEq : schedule.renamed.foldl (client commands) (state.rename snapshot) = later at renamed
  have path : later.disk.aofPath = some state.disk.nextInode := renamed.path
  have contents := renamed.others state.disk.nextInode fresh
  have reopened : later.reopen = { later with
      manager := { later.manager with writer := some state.disk.nextInode, selectedDb := none } } := by
    simp [reopen, reopenWriter, renamed.enabled, openAof, path]
  have late := @clients_served commands state.disk.nextInode schedule.late later.reopen
    (by rw [reopened]; exact renamed.enabled) (by rw [reopened])
  have final : schedule.run commands snapshot (.start replid capacity disk) =
      schedule.late.foldl (client commands) later.reopen := by
    simp [RewriteSchedule.run, stateEq, laterEq]
  rw [final]
  rw [reopened] at late ⊢
  simp only [readAof, late.path, path, map_some, getD_some, late.contents, contents]
  simp [rename, writeAofBuffer, create, reflected, Representation.file, RewriteSchedule.representation]

end steps

variable {steps : List ClientStep} {write : Nat}

private theorem count_filterMap {pick : ClientStep → Option Nat} {step : ClientStep} {write : Nat}
    (only : ∀ other, pick other = some write ↔ other = step) :
    (steps.filterMap pick).count write = steps.count step := by
  induction steps with
  | nil => rfl
  | cons other steps ih =>
    cases picked : pick other with
    | none =>
      have apart : other ≠ step := fun same => by simp [(only other).mpr same] at picked
      rw [filterMap_cons_none picked, count_cons_of_ne apart, ih]
    | some value =>
      rw [filterMap_cons_some picked]
      by_cases same : value = write
      · subst same
        rw [(only other).mp picked, count_cons_self, count_cons_self, ih]
      · have apart : other ≠ step := fun equal => same (some.inj (picked.symm.trans ((only other).mpr equal)))
        rw [count_cons_of_ne same, count_cons_of_ne apart, ih]

private theorem count_mutations : (steps.filterMap mutation).count write = steps.count (.mutate write) :=
  count_filterMap (fun other => by cases other <;> simp [mutation])

private theorem count_loggings : (steps.filterMap logging).count write = steps.count (.log write) :=
  count_filterMap (fun other => by cases other <;> simp [logging])

/-- Once the rewrite is over, the bytes of the file are those of the snapshot and of the
commands logged since the writer was reopened. Every logged write is among them exactly
once, exactly when no write takes effect after the snapshot and is logged before the
writer is reopened, or the other way round. -/
theorem represented_once_iff (commands : Nat → UInt64 × LoggedCommand) (snapshot : List Nat → List Bytes × List DbSnapshot)
    (replid : ReplId) (capacity : Nat) (disk : Disk) (schedule : RewriteSchedule) (distinct : schedule.all.Nodup) :
    (schedule.run commands snapshot (.start replid capacity disk)).disk.readAof = schedule.representation.file commands snapshot ∧
      ((∀ write, .log write ∈ schedule.all → schedule.representation.times write = 1) ↔
        ∀ write, .log write ∈ schedule.all →
          (.mutate write ∈ schedule.early ↔ .log write ∈ schedule.early ++ schedule.captured ++ schedule.renamed)) := by
  refine ⟨run_file commands snapshot replid capacity disk schedule, ?_⟩
  obtain ⟨before, after, apart⟩ := nodup_append.mp distinct
  have early : schedule.early.Nodup := (nodup_append.mp (nodup_append.mp before).1).1
  refine forall_congr' fun write => imp_congr_right fun logged => ?_
  have side : .log write ∈ schedule.late ↔ .log write ∉ schedule.early ++ schedule.captured ++ schedule.renamed := by
    constructor
    · intro late previous
      exact apart _ previous _ late rfl
    · intro absent
      exact (mem_append.mp logged).resolve_left absent
  rw [Representation.times, RewriteSchedule.representation, count_mutations, count_loggings, early.count, after.count]
  by_cases previous : log write ∈ schedule.early ++ schedule.captured ++ schedule.renamed
  · have absent : log write ∉ schedule.late := fun late => side.mp late previous
    rw [if_neg absent, iff_true_right previous]
    split <;> simp [*]
  · rw [if_pos (side.mpr previous), iff_false_right previous]
    split <;> simp [*]

def setNumbered (_ : Nat) : UInt64 × LoggedCommand := (0, setCommand "k" "v" (by decide))

def setEffects (mutated : List Nat) : List Bytes × List DbSnapshot :=
  ([], [if mutated = [] then .empty else { DbSnapshot.empty with strings := [⟨ascii "k", ascii "v", -1⟩] }])

def fileAfter (schedule : RewriteSchedule) : Bytes :=
  (schedule.run setNumbered setEffects (.start zeroReplid 1024 .empty)).disk.readAof

/-- A write between the snapshot and the reopening of the writer is lost: the file is
empty. One that spans the rewrite is in the file twice. -/
theorem rewrite_loses_and_doubles :
    fileAfter ⟨[], [.mutate 0, .log 0], [], []⟩ = [] ∧
      fileAfter ⟨[.mutate 0], [], [], [.log 0]⟩ =
        encodeCommand [ascii "SET", ascii "k", ascii "v"] ++ encodeCommand [ascii "SET", ascii "k", ascii "v"] := by
  decide +kernel

/-- Writes on either side of the rewrite. -/
theorem undisturbed_writes_once :
    ([.mutate 0, .mutate 1, .log 0, .log 1, .mutate 2, .log 2] : List ClientStep).Nodup ∧
    fileAfter ⟨[.mutate 0, .mutate 1, .log 0], [.log 1], [], [.mutate 2, .log 2]⟩ =
      dump setEffects [0, 1] ++ logBytes setNumbered none [2] ∧
    ∀ write, .log write ∈ ([.mutate 0, .mutate 1, .log 0, .log 1, .mutate 2, .log 2] : List ClientStep) →
      Representation.times ⟨[0, 1], [2]⟩ write = 1 := by
  obtain ⟨file, once⟩ := represented_once_iff setNumbered setEffects zeroReplid 1024 .empty
    ⟨[.mutate 0, .mutate 1, .log 0], [.log 1], [], [.mutate 2, .log 2]⟩ (by decide)
  refine ⟨by decide, file, once.mpr fun write member => ?_⟩
  simp only [RewriteSchedule.all, cons_append, nil_append, mem_cons, log.injEq,
    reduceCtorEq, not_mem_nil, or_false, false_or] at member
  rcases member with rfl | rfl | rfl <;> decide

end Kore.Proofs.AofRewrite
