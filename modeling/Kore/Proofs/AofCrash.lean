import Kore.Proofs.AofReplay

/-! A crash cuts the append-only file at some byte. The loader forgives the command that
breaks off there, but the restarted writer goes on behind it, and what it appends is then
read as the rest of the broken command. -/

namespace Kore.Proofs.AofCrash
open Foundation Protocol Persistence List Disk
open Aof AofReplay RespFraming StreamFrames

variable (disk : Disk) (commands : List Argv) (cut : Nat)

/-- `AofWriter` from its opening on: each command goes to the end of the file. -/
def appendCommands : Disk :=
  commands.foldl (fun current argv => current.append disk.openAof.2 (encodeCommand argv.args)) disk.openAof.1

def crash : Disk :=
  { disk with contents := fun inode => if disk.aofPath = some inode then (disk.contents inode).take cut else disk.contents inode }

def completeBefore : List Argv → Nat → List Argv
  | [], _ => []
  | argv :: commands, cut =>
    if (encodeCommand argv.args).length ≤ cut then argv :: completeBefore commands (cut - (encodeCommand argv.args).length)
    else []

/-- What the path holds after a first run, the crash, and a second run that appends `later`. -/
def recoveredFile (later : List Argv) : Bytes :=
  (appendCommands (crash (appendCommands .empty commands) cut) later).readAof

/-- Loading the file applies exactly these commands in this order, whatever applying means. -/
def Applies (file : Bytes) (commands : List Argv) : Prop :=
  ∀ {σ : Type} (apply : σ → List Bytes → Option σ) (state : σ),
    loadFileWith apply file.length state 0 file =
      match commands.foldlM (fun state argv => apply state argv.args) state with
      | some after => .ok (after, commands.length)
      | none => .error .applyFailed

/-- The bytes before the cut are whole commands. -/
def CutBetween : Prop :=
  ∃ kept, (encodeAll commands).take cut = encodeAll (commands.take kept)

private theorem readAof_foldl (disk : Disk) {inode : Nat} (path : disk.aofPath = some inode) :
    (commands.foldl (fun current argv => current.append inode (encodeCommand argv.args)) disk).readAof =
      disk.readAof ++ encodeAll commands := by
  induction commands generalizing disk with
  | nil => simp
  | cons argv commands ih =>
    rw [foldl_cons, ih (disk.append inode (encodeCommand argv.args)) path]
    simp [readAof, path, append]

theorem readAof_appendCommands : (appendCommands disk commands).readAof = disk.readAof ++ encodeAll commands := by
  unfold appendCommands openAof
  split
  next inode path => exact readAof_foldl commands disk path
  next path =>
    rw [@readAof_foldl commands (disk.create []) disk.nextInode rfl]
    simp [readAof, create, path]

theorem readAof_crash : (crash disk cut).readAof = disk.readAof.take cut := by
  cases path : disk.aofPath with
  | none | some inode => simp [readAof, crash, path]

theorem recoveredFile_eq (later : List Argv) :
    recoveredFile commands cut later = (encodeAll commands).take cut ++ encodeAll later := by
  rw [recoveredFile, readAof_appendCommands, readAof_crash, readAof_appendCommands]
  rfl

/-- The cut keeps the complete commands and, unless it falls between two commands, a part of
the next one. -/
theorem take_encodeAll : ∃ broken, (encodeAll commands).take cut = encodeAll (completeBefore commands cut) ++ broken ∧
      (broken ≠ [] → ∃ argv : Argv, ∃ back, encodeCommand argv.args = broken ++ back) := by
  induction commands generalizing cut with
  | nil => exact ⟨[], by simp [completeBefore], fun begun => (begun rfl).elim⟩
  | cons argv commands ih =>
    unfold completeBefore
    split
    next complete =>
      obtain ⟨broken, split, part⟩ := ih (cut - (encodeCommand argv.args).length)
      refine ⟨broken, ?_, part⟩
      rw [encodeAll_cons, take_append, take_of_length_le complete, split, encodeAll_cons, append_assoc]
    next short =>
      refine ⟨(encodeCommand argv.args).take cut, ?_, fun _ => ⟨argv, _, (take_append_drop cut _).symm⟩⟩
      rw [encodeAll_cons, take_append_of_le_length (Nat.le_of_not_le short)]
      rfl

theorem completeBefore_eq_take : ∃ kept, completeBefore commands cut = commands.take kept := by
  induction commands generalizing cut with
  | nil => exact ⟨0, rfl⟩
  | cons argv commands ih =>
    unfold completeBefore
    split
    next =>
      obtain ⟨kept, same⟩ := ih (cut - (encodeCommand argv.args).length)
      exact ⟨kept + 1, by rw [same, take_succ_cons]⟩
    next => exact ⟨0, rfl⟩

theorem completeBefore_between {commands : List Argv} {cut kept : Nat}
    (between : (encodeAll commands).take cut = encodeAll (commands.take kept)) : completeBefore commands cut = commands.take kept := by
  induction commands generalizing cut kept with
  | nil => simp [completeBefore]
  | cons argv commands ih =>
    have positive := length_pos_of_ne_nil (encodeCommand_ne_nil argv.args)
    cases kept with
    | zero =>
      have lengths := congrArg length between
      rw [encodeAll_cons, length_take, length_append, take_zero, encodeAll_nil, length_nil] at lengths
      rw [completeBefore, if_neg (by omega), take_zero]
    | succ kept =>
      rw [encodeAll_cons, take_succ_cons, encodeAll_cons] at between
      have complete : (encodeCommand argv.args).length ≤ cut := by
        have lengths := congrArg length between
        rw [length_take, length_append, length_append] at lengths
        omega
      rw [take_append, take_of_length_le complete] at between
      rw [completeBefore, if_pos complete, ih (append_cancel_left between), take_succ_cons]

theorem applies_encodeAll : Applies (encodeAll commands) commands := by
  intro σ apply state
  have loaded := @loadFileWith_encodeAll _ commands σ apply (le_refl _) state 0
  rw [zero_add] at loaded
  exact loaded

def record (seen : List (List Bytes)) (argv : List Bytes) : Option (List (List Bytes)) := some (seen ++ [argv])

private theorem foldlM_record (seen : List (List Bytes)) :
    commands.foldlM (fun seen argv => record seen argv.args) seen = some (seen ++ commands.map Argv.args) := by
  induction commands generalizing seen with
  | nil => simp
  | cons argv commands ih =>
    rw [foldlM_cons, record, Option.pure_def.symm, pure_bind, ih]
    simp

theorem record_extends {rounds count total : Nat} {seen final : List (List Bytes)} {data : Bytes}
    (loaded : loadFileWith record rounds seen count data = .ok (final, total)) : seen <+: final := by
  induction rounds generalizing seen count data with
  | zero =>
    cases loaded
    exact prefix_rfl
  | succ rounds ih =>
    unfold loadFileWith at loaded
    split at loaded
    next =>
      cases loaded
      exact prefix_rfl
    next => cases loaded
    next =>
      split at loaded
      next => cases loaded
      next => exact ih loaded
      next => exact (prefix_append seen _).trans (ih loaded)

/-- Behind a broken command, a command with another number of arguments is not applied next. -/
theorem broken_loses {argv next : Argv} {broken back more : Bytes} (begun : broken ≠ [])
    (breaks : encodeCommand argv.args = broken ++ back) (apart : next.args.length ≠ argv.args.length) {rounds count total : Nat}
    {seen final : List (List Bytes)}
    (loaded : loadFileWith record (rounds + 1) seen count (broken ++ (encodeCommand next.args ++ more)) = .ok (final, total)) :
    ¬ seen ++ [next.args] <+: final := by
  intro applied
  unfold loadFileWith at loaded
  split at loaded
  next =>
    cases loaded
    have longer := applied.length_le
    simp at longer
  next => cases loaded
  next value _ rest parsed =>
    obtain ⟨items, rfl, announced⟩ := parse_broken argv next.args begun breaks parsed
    -- Whatever the items are, the loader makes as many arguments of them.
    have counted : ∀ read, loadArgv (.array items) = .ok read → read.length = argv.args.length := by
      intro read holds
      rw [loadArgv] at holds
      cases all : items.mapM ReplicaLink.argumentBytes with
      | none =>
        rw [all] at holds
        cases holds
      | some argv =>
        rw [all] at holds
        cases holds
        rw [length_of_mapM all, announced]
    split at loaded
    next => cases loaded
    next none =>
      exact argv.nonempty (length_eq_zero_iff.mp (counted [] none).symm)
    next read _ taken =>
      have other := record_extends loaded
      have same := prefix_of_prefix_length_le other applied (by simp)
      have equal := cons.inj (append_cancel_left (same.eq_of_length (by simp)))
      exact apart (by rw [← equal.1, counted read taken])

private def oneArgument : Argv := ⟨[ascii "A"], by decide, by decide, by decide⟩

private def twoArguments : Argv := ⟨[ascii "A", ascii "B"], by decide, by decide, by decide⟩

private theorem exists_apart (argv : Argv) : ∃ next : Argv, next.args.length ≠ argv.args.length := by
  by_cases single : argv.args.length = 1
  · exact ⟨twoArguments, by rw [single]; decide⟩
  · exact ⟨oneArgument, fun same => single same.symm⟩

/-- A restart recovers every continuation of the file exactly when the crash cut it between
two commands. -/
theorem recovers_iff_cut_between (commands : List Argv) (cut : Nat) :
    (∀ later, Applies (recoveredFile commands cut later) (completeBefore commands cut ++ later)) ↔ CutBetween commands cut := by
  constructor
  · intro recovers
    obtain ⟨broken, split, part⟩ := take_encodeAll commands cut
    by_cases whole : broken = []
    · obtain ⟨kept, same⟩ := completeBefore_eq_take commands cut
      exact ⟨kept, by rw [split, whole, append_nil, same]⟩
    · obtain ⟨argv, back, breaks⟩ := part whole
      obtain ⟨next, apart⟩ := exists_apart argv
      have loaded := recovers [next] record []
      rw [foldlM_record, recoveredFile_eq, split, append_assoc, encodeAll_cons, encodeAll_nil] at loaded
      have positive := length_pos_of_ne_nil whole
      have bound := length_le_encodeAll (completeBefore commands cut)
      have longer : (completeBefore commands cut).length <
          (encodeAll (completeBefore commands cut) ++ (broken ++ (encodeCommand next.args ++ []))).length := by
        rw [length_append, length_append]
        omega
      obtain ⟨rounds, enough⟩ := Nat.exists_eq_add_of_lt longer
      rw [enough, add_assoc, loadFileWith_append (Nat.le_add_right _ _), foldlM_record, Nat.add_sub_cancel_left] at loaded
      refine (broken_loses whole breaks apart loaded ?_).elim
      simp
  · intro between later
    obtain ⟨kept, same⟩ := between
    rw [recoveredFile_eq, same, completeBefore_between same, ← encodeAll_append]
    exact applies_encodeAll _

private def firstSet : Argv := ⟨[ascii "SET", ascii "a", ascii "1"], by decide, by decide, by decide⟩

private def laterSet : Argv := ⟨[ascii "SET", ascii "b", ascii "2"], by decide, by decide, by decide⟩

/-- The second `SET` was broken inside its first argument; the write that follows the restart
is gone, and the load reports success. -/
theorem write_after_restart_lost :
    completeBefore [firstSet, firstSet] 37 = [firstSet] ∧
      loadFileWith record (recoveredFile [firstSet, firstSet] 37 [laterSet]).length [] 0 (recoveredFile [firstSet, firstSet] 37 [laterSet]) =
        .ok ([firstSet.args], 1) ∧
      ¬ Applies (recoveredFile [firstSet, firstSet] 37 [laterSet]) (completeBefore [firstSet, firstSet] 37 ++ [laterSet]) := by
  have complete : completeBefore [firstSet, firstSet] 37 = [firstSet] := by rfl
  have loaded : loadFileWith record (recoveredFile [firstSet, firstSet] 37 [laterSet]).length [] 0
      (recoveredFile [firstSet, firstSet] 37 [laterSet]) = .ok ([firstSet.args], 1) := by
    rfl
  refine ⟨complete, loaded, ?_⟩
  intro applies
  have expected := applies record []
  cases expected

end Kore.Proofs.AofCrash
