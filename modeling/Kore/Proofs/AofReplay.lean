import Kore.Foundation.CursorLog
import Kore.Persistence.Manager
import Kore.Proofs.StreamFrames

/-! Replaying a framed file applies its commands one after the other, each to the database
that the last `SELECT` before it names. -/

namespace Kore.Proofs.AofReplay
open Foundation Protocol Persistence List PersistenceManager
open Aof CursorLog RespFraming StreamFrames

abbrev FileItem := CursorItem UInt64 Argv

def fileArgv : FileItem → Argv
  | .select db => selectArgv db
  | .entry argv => argv

def encodeFile (items : List FileItem) : Bytes := encodeAll (items.map fileArgv)

theorem encodeFile_append (front back : List FileItem) : encodeFile (front ++ back) = encodeFile front ++ encodeFile back := by
  simp [encodeFile]

/-- The loader takes exactly the selects of the file for selects, and serves them. -/
structure Loadable (databases : Nat) (items : List FileItem) : Prop where
  plain : ∀ argv, .entry argv ∈ items → upper (argv.args.headD []) ≠ ascii "SELECT"
  served : ∀ db, .select db ∈ items → db.toNat < databases

theorem Loadable.nil (databases : Nat) : Loadable databases [] where
  plain _ member := by cases member
  served _ member := by cases member

variable {databases rounds : Nat} {items : List FileItem} {manager : PersistenceManager} {commands : List Argv}
variable {σ δ : Type} {apply : σ → List Bytes → Option σ} {target : LoadTarget δ} {cursor : UInt64}

theorem Loadable.append {front back : List FileItem} (first : Loadable databases front) (second : Loadable databases back) :
    Loadable databases (front ++ back) where
  plain argv member := by
    rcases mem_append.mp member with early | late
    · exact first.plain argv early
    · exact second.plain argv late
  served db member := by
    rcases mem_append.mp member with early | late
    · exact first.served db early
    · exact second.served db late

theorem Loadable.tail {item : FileItem} (loadable : Loadable databases (item :: items)) : Loadable databases items where
  plain argv member := loadable.plain argv (mem_cons_of_mem _ member)
  served db member := loadable.served db (mem_cons_of_mem _ member)

def recordBytes (remembered : Option Nat) (db : Nat) (args : List Bytes) : Bytes :=
  if ReplBacklog.emitsSelect remembered db then encodeSelectDb db ++ encodeCommand args else encodeCommand args

structure Appends (before after : Disk) (inode : Nat) (data : Bytes) : Prop where
  path : after.aofPath = before.aofPath
  next : after.nextInode = before.nextInode
  contents : after.contents inode = before.contents inode ++ data
  others : ∀ other, other ≠ inode → after.contents other = before.contents other

theorem recordCommand_appends {inode : Nat} (writer : manager.writer = some inode) (disk : Disk)
    (db : Nat) (args : List Bytes) :
    Appends disk (manager.recordCommand disk db args) inode (recordBytes manager.selectedDb db args) := by
  simp only [recordCommand, appendCommand, writer, Disk.append, recordBytes]
  split
  · refine ⟨rfl, rfl, by simp [encodeSelectDb], ?_⟩
    intro other apart
    simp [apart]
  · refine ⟨rfl, rfl, by simp, ?_⟩
    intro other apart
    simp [apart]

theorem onWriteCommand_enabled (enabled : manager.appendonly) (disk : Disk) (db : Nat)
    (args : List Bytes) :
    manager.onWriteCommand disk db args =
      ({ manager.markDirty with selectedDb := some db, replication := manager.replication.propagateWrite db args },
        manager.markDirty.recordCommand disk db args) := by
  have dirty : manager.markDirty.appendonly := enabled
  simp only [onWriteCommand, dirty]
  rfl

theorem onWriteCommand_disabled (disabled : manager.appendonly = false) (disk : Disk) (db : Nat)
    (args : List Bytes) :
    manager.onWriteCommand disk db args =
      ({ manager.markDirty with replication := manager.replication.propagateWrite db args }, disk) := by
  have dirty : manager.markDirty.appendonly = false := disabled
  simp only [onWriteCommand, dirty]
  rfl

theorem loadArgv_command (args : List Bytes) : loadArgv (commandValue args) = .ok args := by
  simp only [loadArgv, commandValue, mapM_argumentBytes]

theorem parse_command (argv : Argv) (rest : Bytes) :
    parseWithConsumed (encodeCommand argv.args ++ rest) =
      .value (commandValue argv.args) (encodeCommand argv.args).length rest := by
  rcases parse_buffered argv (append_nil (encodeCommand argv.args ++ rest)) with
    ⟨found, holds, -, parsed⟩ | ⟨back, -, remains, none, -⟩
  · rw [parsed, append_cancel_left holds]
  · exact (remains (append_eq_nil_iff.mp none.symm).1).elim

theorem loadFileWith_append (enough : commands.length ≤ rounds) (state : σ) (count : Nat) (rest : Bytes) :
    loadFileWith apply rounds state count (encodeAll commands ++ rest) =
      match commands.foldlM (fun state argv => apply state argv.args) state with
      | some after => loadFileWith apply (rounds - commands.length) after (count + commands.length) rest
      | none => .error .applyFailed := by
  induction commands generalizing rounds state count with
  | nil => rfl
  | cons argv commands ih =>
    obtain ⟨fewer, rfl⟩ : ∃ fewer, rounds = fewer + 1 := ⟨rounds - 1, (Nat.sub_add_cancel (le_trans (Nat.le_add_left _ _) enough)).symm⟩
    have nonempty := argv.nonempty
    simp only [encodeAll_cons, append_assoc, loadFileWith, parse_command, loadArgv_command]
    cases applied : apply state argv.args with
    | none => simp [foldlM_cons, applied]
    | some after =>
      have later := ih (Nat.le_of_succ_le_succ enough) after (count + 1)
      simpa [foldlM_cons, applied, add_assoc, add_comm 1] using later

theorem length_le_encodeAll (commands : List Argv) : commands.length ≤ (encodeAll commands).length := by
  induction commands with
  | nil => exact Nat.zero_le _
  | cons argv commands ih =>
    have positive := length_pos_of_ne_nil (encodeCommand_ne_nil argv.args)
    rw [encodeAll_cons, length_append, length_cons]
    omega

theorem loadFileWith_nil (apply : σ → List Bytes → Option σ) (rounds : Nat) (state : σ) (count : Nat) :
    loadFileWith apply rounds state count [] = .ok (state, count) := by
  cases rounds with
  | zero => rfl
  | succ rounds => simp only [loadFileWith, parse_nil]

theorem loadFileWith_encodeAll (enough : (encodeAll commands).length ≤ rounds) (state : σ) (count : Nat) :
    loadFileWith apply rounds state count (encodeAll commands) =
      match commands.foldlM (fun state argv => apply state argv.args) state with
      | some after => .ok (after, count + commands.length)
      | none => .error .applyFailed := by
  have loaded := @loadFileWith_append rounds commands σ apply ((length_le_encodeAll commands).trans enough) state count []
  simpa only [append_nil, loadFileWith_nil] using loaded

def executeOn (target : LoadTarget δ) (state : δ) (entry : UInt64 × Argv) : Option δ :=
  let command := upper (entry.2.args.headD [])
  if command = ascii "FLUSHALL" then some (target.flushAll state)
  else if command = ascii "FUNCTION" then target.applyFunctionCommand state entry.2.args
  else target.applyCommandToCache state entry.1.toNat entry.2.args

theorem applyEntry_select {db : UInt64} (served : db.toNat < databases) (state : δ × Nat) :
    applyEntry target databases state (selectArgv db).args = some (state.1, db.toNat) := by
  have select : upper ((selectArgv db).args.headD []) = ascii "SELECT" := by
    change upper (ascii "SELECT") = ascii "SELECT"
    decide
  simp only [applyEntry, select, if_true, selectDb_served served]

theorem applyEntry_plain {argv : Argv} (plain : upper (argv.args.headD []) ≠ ascii "SELECT") (inside : cursor.toNat < databases)
    (state : δ) :
    applyEntry target databases (state, cursor.toNat) argv.args =
      (executeOn target state (cursor, argv)).map fun after => (after, cursor.toNat) := by
  simp only [applyEntry, executeOn, plain, if_false, inside, if_true]
  split
  · rfl
  · split <;> rfl

/-- The loader's cursor and the database of every application, over a whole file. -/
theorem foldlM_applyEntry (loadable : Loadable databases items) (inside : cursor.toNat < databases) (state : δ) :
    (items.map fileArgv).foldlM (fun state argv => applyEntry target databases state argv.args) (state, cursor.toNat) =
      ((replay cursor items).foldlM (executeOn target) state).map fun after => (after, (cursorAfter cursor items).toNat) := by
  induction items generalizing cursor state with
  | nil => rfl
  | cons item items ih =>
    cases item with
    | select db =>
      have target := loadable.served db mem_cons_self
      simp only [map_cons, foldlM_cons, fileArgv, applyEntry_select target]
      exact ih loadable.tail target state
    | entry argv =>
      simp only [map_cons, foldlM_cons, fileArgv, replay, cursorAfter,
        applyEntry_plain (loadable.plain argv mem_cons_self) inside]
      cases executed : executeOn target state (cursor, argv) with
      | none => rfl
      | some after => exact ih loadable.tail inside after

def faultOf (result : Option δ) : Except LoadFault δ :=
  match result with
  | some value => .ok value
  | none => .error .applyFailed

theorem replayFile_items (loadable : Loadable databases items) (positive : 0 < databases) (scratch : δ) :
    replayFile target databases scratch (encodeFile items) =
      (faultOf ((replay 0 items).foldlM (executeOn target) scratch)).map fun after =>
        ((after, (cursorAfter 0 items).toNat), items.length) := by
  have folded := @foldlM_applyEntry _ _ _ target 0 loadable positive scratch
  rw [UInt64.toNat_zero] at folded
  rw [replayFile, encodeFile, loadFileWith_encodeAll (le_rfl), folded]
  cases (replay 0 items).foldlM (executeOn target) scratch with
  | none => rfl
  | some after => simp [faultOf, Except.map]

end Kore.Proofs.AofReplay
