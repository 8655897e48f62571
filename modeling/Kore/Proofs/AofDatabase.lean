import Kore.Foundation.Runs
import Kore.Proofs.AofReplay
import Kore.Proofs.StreamPublish

/-! On which database the loader applies the commands of the append-only file, over runs
of writes, rewrites and restarts. The writer forgets the file's database on a rewrite and
on a restart, and then takes it for database zero. -/

namespace Kore.Proofs.AofDatabase
open Foundation Protocol Commands Persistence List PersistenceManager
open Aof AofReplay CursorLog StreamFrames StreamPublish

/-- A process with its disk and the history of its log: what the last rewrite left in the
file, and the writes recorded since, each with the database it was recorded for. -/
structure AofSystem where
  manager : PersistenceManager
  disk : Disk
  base : Bytes
  recorded : List (UInt64 × LoggedCommand)

inductive AofEvent (databases : DatabaseCount) where
  | write (db : UInt64) (served : db.toNat < databases.count) (command : LoggedCommand)
  | rewrite (libraries : List Bytes) (snapshots : List DbSnapshot) (all : snapshots.length = databases.count)
  | restart (replid : ReplId) (capacity : Nat)

namespace AofSystem
variable {databases : DatabaseCount}

def start (replid : ReplId) (capacity : Nat) : AofSystem where
  manager := (new true replid capacity .empty).1
  disk := (new true replid capacity .empty).2
  base := []
  recorded := []

variable (system : AofSystem)

def write (db : UInt64) (command : LoggedCommand) : AofSystem :=
  { system with
    manager := (system.manager.onWriteCommand system.disk db.toNat command.argv.args).1
    disk := (system.manager.onWriteCommand system.disk db.toNat command.argv.args).2
    recorded := system.recorded ++ [(db, command)] }

def rewrite (libraries : List Bytes) (snapshots : List DbSnapshot) : AofSystem :=
  let after := system.manager.rewriteAof system.disk libraries snapshots
  ⟨after.1, after.2, after.2.readAof, []⟩

def restart (replid : ReplId) (capacity : Nat) : AofSystem :=
  { system with
    manager := (new true replid capacity system.disk).1
    disk := (new true replid capacity system.disk).2 }

def step : AofEvent databases → AofSystem
  | .write db _ command => system.write db command
  | .rewrite libraries snapshots _ => system.rewrite libraries snapshots
  | .restart replid capacity => system.restart replid capacity

end AofSystem

variable (databases : DatabaseCount)

/-- Every load applies the rewritten part and then each recorded command, in order, to the
database for which it was recorded. -/
def DatabasesKept (system : AofSystem) : Prop :=
  ∀ (δ : Type) (target : LoadTarget δ) (scratch : δ),
    loadIntoDatabases target databases.count scratch system.disk.readAof =
      (loadIntoDatabases target databases.count scratch system.base).bind fun loaded =>
        faultOf ((system.recorded.map fun write => (write.1, write.2.argv)).foldlM (executeOn target) loaded)

def idleTarget : LoadTarget Unit where
  applyCommandToCache _ _ _ := some ()
  flushAll _ := ()
  applyFunctionCommand _ _ := some ()

def fileCursor (file : Bytes) : Nat :=
  match replayFile idleTarget databases.count () file with
  | .ok loaded => loaded.1.2
  | .error _ => 0

def Readable (argv : List Bytes) : Prop := argv.length ≤ maxArrayLength ∧ ∀ arg ∈ argv, arg.length ≤ maxBulkLength

/-- A write to database zero by a writer that forgot the file's database finds the file on
database zero, and a rewrite dumps only commands that the parser accepts. -/
def Resumes (system : AofSystem) : AofEvent databases → Prop
  | .write db _ _ => system.manager.selectedDb = none → db = 0 → fileCursor databases system.disk.readAof = 0
  | .rewrite libraries snapshots _ => ∀ argv ∈ rewriteDatabases libraries snapshots, Readable argv
  | .restart .. => True

variable {front back : List (List Bytes)}

section dump

def Headed (heads : List Bytes) (commands : List (List Bytes)) : Prop := ∀ argv ∈ commands, argv.headD [] ∈ heads

variable {heads : List Bytes}

theorem Headed.append (first : Headed heads front) (second : Headed heads back) : Headed heads (front ++ back) := by
  exact forall_mem_append.mpr ⟨first, second⟩

theorem Headed.map {α : Type} {items : List α} {encode : α → List Bytes} (each : ∀ item, (encode item).headD [] ∈ heads) :
    Headed heads (items.map encode) := by
  intro argv member
  obtain ⟨item, -, rfl⟩ := mem_map.mp member
  exact each item

theorem Headed.flatMap {α : Type} {items : List α} {encode : α → List (List Bytes)} (each : ∀ item, Headed heads (encode item)) :
    Headed heads (items.flatMap encode) := by
  intro argv member
  obtain ⟨item, -, inside⟩ := mem_flatMap.mp member
  exact each item argv inside

theorem Headed.longerThan {fixed : Nat} {head : Bytes} {rest : List Bytes} (known : head ∈ heads) :
    Headed heads (Aof.longerThan fixed (head :: rest)) := by
  intro argv member
  unfold Aof.longerThan at member
  split at member
  · rw [mem_singleton.mp member]
    exact known
  · cases member

def dumpHeads : List Bytes :=
  [ascii "FUNCTION", ascii "FT.CREATE", ascii "SET", ascii "ZADD", ascii "GEOADD", ascii "HSET", ascii "RPUSH", ascii "SADD",
    ascii "XADD", ascii "XSETID", ascii "XGROUP", ascii "XCLAIM", ascii "PEXPIREAT", ascii "FT._LOADGRAPH",
    ascii "FT.ALIASADD"]

theorem dumpHeads_plain : ∀ head ∈ dumpHeads, head ≠ [] ∧ upper head ≠ ascii "SELECT" := by
  decide +kernel

theorem streamCommands_headed (record : StreamRecord) : Headed dumpHeads (streamCommands record) := by
  refine .append (.append (.flatMap fun entry => .longerThan (by simp [dumpHeads])) ?_) (.flatMap fun group => ?_)
  · intro argv member
    split at member
    · rw [mem_singleton.mp member]
      simp [dumpHeads]
    · cases member
  · intro argv member
    rcases mem_cons.mp member with rfl | later
    · simp [dumpHeads]
    · rcases mem_cons.mp later with rfl | pending
      · simp [dumpHeads]
      · exact Headed.map (fun entry => by simp [dumpHeads, pendingCommand]) argv pending

theorem encodeDbCommands_headed (snap : DbSnapshot) : Headed dumpHeads (encodeDbCommands snap) := by
  have strings : Headed dumpHeads (snap.strings.map stringCommand) := .map fun record => by simp [dumpHeads, stringCommand]
  have keys : Headed dumpHeads (encodeSnapshotCommands snap) := by
    refine .append (.append (.append (.append (.append (.append (.append strings ?_) ?_) ?_) ?_) ?_) ?_) ?_
    any_goals exact .flatMap fun record => .longerThan (by simp [dumpHeads])
    · exact .flatMap streamCommands_headed
    · exact .map fun expiry => by simp [dumpHeads]
  refine .append (.append (.append ?_ keys) ?_) ?_
  · exact .map fun definition => by simp [dumpHeads]
  · exact .map fun graph => by simp [dumpHeads]
  · exact .map fun pair => by simp [dumpHeads]

theorem encodeFunctionCommands_headed (libraries : List Bytes) : Headed dumpHeads (encodeFunctionCommands libraries) := by
  intro argv member
  unfold encodeFunctionCommands at member
  split at member
  · cases member
  · rcases mem_cons.mp member with rfl | later
    · simp [dumpHeads]
    · exact Headed.map (fun code => by simp [dumpHeads]) argv later

end dump

/-- Commands that a loader reads back as the items of a file. -/
def Filed (databases : Nat) (commands : List (List Bytes)) : Prop :=
  ∃ items, encodeFile items = encodeCommands commands ∧ Loadable databases items

variable {libraries : List Bytes} {snapshots : List DbSnapshot}

section filed
variable {databases : Nat}

theorem Filed.nil (databases : Nat) : Filed databases [] := ⟨[], rfl, .nil databases⟩

theorem Filed.append (first : Filed databases front) (second : Filed databases back) : Filed databases (front ++ back) := by
  obtain ⟨early, code, loadable⟩ := first
  obtain ⟨late, more, rest⟩ := second
  refine ⟨early ++ late, ?_, loadable.append rest⟩
  rw [encodeFile_append, code, more]
  simp [encodeCommands]

theorem Filed.plain {commands : List (List Bytes)} (headed : Headed dumpHeads commands) (readable : ∀ argv ∈ commands, Readable argv) :
    Filed databases commands := by
  induction commands with
  | nil => exact .nil databases
  | cons args commands ih =>
    obtain ⟨items, code, loadable⟩ := ih (fun argv member => headed argv (mem_cons_of_mem _ member))
      (fun argv member => readable argv (mem_cons_of_mem _ member))
    obtain ⟨named, other⟩ := dumpHeads_plain _ (headed args mem_cons_self)
    obtain ⟨short, small⟩ := readable args mem_cons_self
    have nonempty : args ≠ [] := by
      intro empty
      rw [empty] at named
      exact named rfl
    have single : Loadable databases [.entry ⟨args, nonempty, short, small⟩] :=
      ⟨fun argv member => by cases mem_singleton.mp member; exact other, fun db member => by cases mem_singleton.mp member⟩
    refine ⟨.entry ⟨args, nonempty, short, small⟩ :: items, ?_, single.append loadable⟩
    change encodeCommand args ++ encodeFile items = encodeCommand args ++ encodeCommands commands
    rw [code]

theorem Filed.select {index : Nat} (inside : index < databases) (fits : databases ≤ u64Max) :
    Filed databases [[ascii "SELECT", decimal index]] := by
  have same : (UInt64.ofNat index).toNat = index := by
    rw [UInt64.toNat_ofNat']
    unfold u64Max at fits
    omega
  refine ⟨[.select (UInt64.ofNat index)], ?_, ?_, ?_⟩
  · simp [encodeFile, fileArgv, selectArgv, encodeCommands, same]
  · intro argv member
    cases mem_singleton.mp member
  · intro db member
    cases mem_singleton.mp member
    rwa [same]

theorem selectedBody_filed {multi : Bool} {database : DbSnapshot × Nat} (inside : database.2 < databases)
    (fits : databases ≤ u64Max) (readable : ∀ argv ∈ selectedBody multi database, Readable argv) :
    Filed databases (selectedBody multi database) := by
  refine .append ?_ (.plain (encodeDbCommands_headed _) fun argv member => readable argv (mem_append_right _ member))
  split
  · exact .select inside fits
  · exact .nil databases

theorem bodies_filed {multi : Bool} {bodies : List (DbSnapshot × Nat)} (inside : ∀ body ∈ bodies, body.2 < databases)
    (fits : databases ≤ u64Max) (readable : ∀ argv ∈ bodies.flatMap (selectedBody multi), Readable argv) :
    Filed databases (bodies.flatMap (selectedBody multi)) := by
  induction bodies with
  | nil => exact .nil databases
  | cons body bodies ih =>
    refine .append (selectedBody_filed (inside body mem_cons_self) fits fun argv member =>
      readable argv (mem_append_left _ member)) (ih (fun other member => inside other (mem_cons_of_mem _ member))
        fun argv member => readable argv (mem_append_right _ member))

/-- A rewritten file reads back as what was dumped. -/
theorem rewriteDatabases_filed {databases : DatabaseCount}
    (all : snapshots.length = databases.count) (readable : ∀ argv ∈ rewriteDatabases libraries snapshots, Readable argv) :
    Filed databases.count (rewriteDatabases libraries snapshots) := by
  refine .append (.plain (encodeFunctionCommands_headed libraries) fun argv member => readable argv (mem_append_left _ member))
    (bodies_filed ?_ databases.fits fun argv member => readable argv (mem_append_right _ member))
  intro body member
  have listed := mem_zipIdx (mem_filter.mp member).1
  omega

end filed

/-- The file is what the loader takes it for, and the writer knows its database unless it
forgot. -/
structure Consistent (databases : DatabaseCount) (system : AofSystem) (rewritten appended : List FileItem)
    (remembered : Option UInt64) (inode : Nat) : Prop where
  enabled : system.manager.appendonly = true
  writer : system.manager.writer = some inode
  path : system.disk.aofPath = some inode
  file : system.disk.contents inode = encodeFile (rewritten ++ appended)
  base : system.base = encodeFile rewritten
  loadable : Loadable databases.count (rewritten ++ appended)
  attributed : replay (cursorAfter 0 rewritten) appended = system.recorded.map fun write => (write.1, write.2.argv)
  selected : system.manager.selectedDb = remembered.map UInt64.toNat
  cursor : ∀ db ∈ remembered, cursorAfter 0 (rewritten ++ appended) = db

section consistent
variable {databases : DatabaseCount} {system : AofSystem} {rewritten appended : List FileItem} {remembered : Option UInt64}
  {inode : Nat}

namespace Consistent
variable (consistent : Consistent databases system rewritten appended remembered inode)
include consistent

theorem readAof :
    system.disk.readAof = encodeFile (rewritten ++ appended) := by
  simp [Disk.readAof, consistent.path, consistent.file]

theorem fileCursor_eq :
    fileCursor databases system.disk.readAof = (cursorAfter 0 (rewritten ++ appended)).toNat := by
  have applied (entries : List (UInt64 × Argv)) : entries.foldlM (executeOn idleTarget) () = some () := by
    induction entries with
    | nil => rfl
    | cons entry entries ih =>
      have single : executeOn idleTarget () entry = some () := by
        simp [executeOn, idleTarget, ite_self]
      rw [foldlM_cons, single]
      exact ih
  rw [fileCursor, consistent.readAof, replayFile_items consistent.loadable databases.positive, applied]
  rfl

theorem kept :
    DatabasesKept databases system := by
  intro δ target scratch
  have front : Loadable databases.count rewritten :=
    ⟨fun argv member => consistent.loadable.plain argv (mem_append_left _ member),
      fun db member => consistent.loadable.served db (mem_append_left _ member)⟩
  simp only [loadIntoDatabases]
  rw [consistent.readAof, consistent.base, replayFile_items consistent.loadable databases.positive,
    replayFile_items front databases.positive, replay_append, foldlM_append, consistent.attributed]
  cases (replay 0 rewritten).foldlM (executeOn target) scratch with
  | none => rfl
  | some loaded =>
    change Except.map _ (Except.map _ (faultOf (foldlM _ loaded _))) = faultOf (foldlM _ loaded _)
    cases (system.recorded.map fun write => (write.1, write.2.argv)).foldlM (executeOn target) loaded <;> rfl

theorem write {db : UInt64}
    (served : db.toNat < databases.count) (command : LoggedCommand)
    (resumes : system.manager.selectedDb = none → db = 0 → fileCursor databases system.disk.readAof = 0) :
    Consistent databases (system.write db command) rewritten (appended ++ emit remembered 0 db command.argv) (some db) inode := by
  have unknown : remembered = none → db = 0 → cursorAfter 0 (rewritten ++ appended) = 0 := by
    intro forgotten zero
    have start := resumes (by rw [consistent.selected, forgotten]; rfl) zero
    rw [consistent.fileCursor_eq] at start
    exact UInt64.toNat_inj.mp start
  obtain ⟨attributed, cursor⟩ := @replay_emit _ _ _ remembered 0 _ db command.argv consistent.cursor unknown
  have recorded := @recordCommand_appends system.manager.markDirty inode consistent.writer system.disk db.toNat command.argv.args
  have code : recordBytes system.manager.markDirty.selectedDb db.toNat command.argv.args =
      encodeFile (emit remembered 0 db command.argv) := by
    rw [show system.manager.markDirty.selectedDb = _ from consistent.selected, recordBytes, emitsSelect_eq, emit]
    split <;> simp [encodeFile, fileArgv, encodeSelectDb, selectArgv]
  have emitted : Loadable databases.count (emit remembered 0 db command.argv) := by
    have plain : upper (command.argv.args.headD []) ≠ ascii "SELECT" := fun same =>
      command.id.name_not_reserved (mem_cons.mpr (.inl same))
    unfold emit
    constructor
    · intro argv member
      split at member <;> simp at member <;> rwa [member]
    · intro other member
      split at member <;> simp at member
      rwa [member]
  simp only [AofSystem.write, onWriteCommand_enabled consistent.enabled]
  constructor
  · exact consistent.enabled
  · exact consistent.writer
  · exact recorded.path.trans consistent.path
  · rw [recorded.contents, consistent.file, code, ← encodeFile_append, append_assoc]
  · exact consistent.base
  · rw [← append_assoc]
    exact consistent.loadable.append emitted
  · rw [replay_append, consistent.attributed, ← cursorAfter_append, attributed, map_append]
    rfl
  · rfl
  · intro last same
    cases same
    rw [← append_assoc, cursorAfter_append, cursor]

theorem rewrite (all : snapshots.length = databases.count) (readable : ∀ argv ∈ rewriteDatabases libraries snapshots, Readable argv) :
    ∃ items, Consistent databases (system.rewrite libraries snapshots) items [] none system.disk.nextInode := by
  obtain ⟨items, code, loadable⟩ := rewriteDatabases_filed all readable
  refine ⟨items, ?_⟩
  have after : system.rewrite libraries snapshots =
      ⟨{ system.manager with writer := some system.disk.nextInode, selectedDb := none },
        system.disk.create (encodeFile items), encodeFile items, []⟩ := by
    simp only [AofSystem.rewrite, rewriteAof, reopenWriter, consistent.enabled, if_true,
      Disk.writeAofBuffer, ← code]
    simp [Disk.openAof, Disk.create, Disk.readAof]
  rw [after]
  refine ⟨consistent.enabled, rfl, rfl, ?_, rfl, ?_, rfl, rfl, ?_⟩
  · simp [Disk.create]
  · rwa [append_nil]
  · intro db absurd
    cases absurd

theorem restart (replid : ReplId)
    (capacity : Nat) : Consistent databases (system.restart replid capacity) rewritten appended none inode := by
  have opened : system.disk.openAof = (system.disk, inode) := by simp [Disk.openAof, consistent.path]
  have after : system.restart replid capacity =
      { system with manager := ⟨true, some inode, none, 0, .new replid capacity⟩ } := by
    simp [AofSystem.restart, new, opened]
  rw [after]
  refine ⟨rfl, rfl, consistent.path, consistent.file, consistent.base, consistent.loadable, consistent.attributed, rfl, ?_⟩
  intro db absurd
  cases absurd

end Consistent

theorem Consistent.start (databases : DatabaseCount) (replid : ReplId) (capacity : Nat) :
    Consistent databases (.start replid capacity) [] [] none 0 := by
  refine ⟨rfl, rfl, rfl, rfl, rfl, .nil _, rfl, rfl, ?_⟩
  intro db absurd
  cases absurd

end consistent

/-- In every run whose writes resume a file on the database that the writer takes it for,
every load applies each recorded command to its own database. -/
theorem run_databases_kept (databases : DatabaseCount) (replid : ReplId) (capacity : Nat) (events : List (AofEvent databases))
    (resumes : Guarded AofSystem.step (Resumes databases) (AofSystem.start replid capacity) events) :
    DatabasesKept databases (run AofSystem.step (AofSystem.start replid capacity) events) := by
  have keeps (system : AofSystem) (event : AofEvent databases)
      (consistent : ∃ rewritten appended remembered inode, Consistent databases system rewritten appended remembered inode)
      (allowed : Resumes databases system event) :
      ∃ rewritten appended remembered inode, Consistent databases (system.step event) rewritten appended remembered inode := by
    obtain ⟨rewritten, appended, remembered, inode, consistent⟩ := consistent
    cases event with
    | write db served command => exact ⟨_, _, _, _, consistent.write served command allowed⟩
    | rewrite libraries snapshots all =>
      obtain ⟨items, rewritten⟩ := consistent.rewrite all allowed
      exact ⟨items, [], none, _, rewritten⟩
    | restart replid capacity => exact ⟨_, _, _, _, consistent.restart replid capacity⟩
  obtain ⟨rewritten, appended, remembered, inode, consistent⟩ :=
    resumes.invariant keeps ⟨[], [], none, 0, .start databases replid capacity⟩
  exact consistent.kept

def sixteen : DatabaseCount := ⟨16, by decide, by decide⟩

def traceTarget : LoadTarget (List (Nat × List Bytes)) where
  applyCommandToCache trace db argv := some (trace ++ [(db, argv)])
  flushAll trace := trace
  applyFunctionCommand trace _ := some trace

def setOn (db : UInt64) (served : db.toNat < sixteen.count) (value : String) (short : value.utf8ByteSize ≤ 9) : AofEvent sixteen :=
  .write db served (setCommand "k" value ⟨by decide, short⟩)

def onlyString (value : String) : DbSnapshot := { DbSnapshot.empty with strings := [⟨ascii "k", ascii value, -1⟩] }

def forgetfulRun : List (AofEvent sixteen) :=
  [setOn 1 (by decide) "v" (by decide), .restart zeroReplid 1024, setOn 0 (by decide) "w" (by decide)]

/-- After a write to database one and a restart, the loader applies a write to database
zero to database one. -/
theorem write_after_restart_misplaced :
    ¬ DatabasesKept sixteen (run AofSystem.step (AofSystem.start zeroReplid 1024) forgetfulRun) := by
  intro kept
  have same := congrArg Except.toOption (kept _ traceTarget [])
  exact absurd same (by decide +kernel)

instance (databases : DatabaseCount) (system : AofSystem) : ∀ event, Decidable (Resumes databases system event)
  | .write db _ _ => inferInstanceAs (Decidable (system.manager.selectedDb = none → db = 0 →
      fileCursor databases system.disk.readAof = 0))
  | .rewrite libraries snapshots _ => inferInstanceAs (Decidable (∀ argv ∈ rewriteDatabases libraries snapshots,
      argv.length ≤ maxArrayLength ∧ ∀ arg ∈ argv, arg.length ≤ maxBulkLength))
  | .restart .. => inferInstanceAs (Decidable True)

/-- Two databases, a rewrite that ends on the second, and a restart. -/
def resumedRun : List (AofEvent sixteen) :=
  [setOn 0 (by decide) "v" (by decide), setOn 1 (by decide) "w" (by decide),
    .rewrite [] (onlyString "v" :: onlyString "w" :: List.replicate 14 .empty) (by decide),
    setOn 2 (by decide) "x" (by decide), .restart zeroReplid 1024, setOn 1 (by decide) "y" (by decide),
    setOn 0 (by decide) "z" (by decide)]

theorem resumedRun_kept : DatabasesKept sixteen (run AofSystem.step (AofSystem.start zeroReplid 1024) resumedRun) :=
  run_databases_kept sixteen zeroReplid 1024 resumedRun (by decide +kernel)

end Kore.Proofs.AofDatabase
