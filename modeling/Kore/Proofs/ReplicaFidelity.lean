import Kore.Proofs.Repetition
import Kore.Proofs.StreamDatabase

/-! A replica that executes the commands of its master. It has arms of its own, fewer than
the loader of the append-only file, and drops what it has no arm for. A run in which
every command is one that it understands keeps its databases equal to the master's. -/

namespace Kore.Proofs.ReplicaFidelity
open Foundation Protocol Cache Commands Persistence Repetition StreamFrames StreamPublish StreamDatabase Option Bool Keyspace

variable {F : Type}
variable {setting : Setting} {keyspace : Keyspace F} {args : List Bytes} {db : UInt64} {command : LoggedCommand}

/-! `SET`, of which the replica reads the times in milliseconds and nothing else. -/

/-- Times in milliseconds only, without a sign. -/
def millisecondsOnly : List Bytes → Bool
  | [] => true
  | token :: rest =>
    match SetToken.ofText token with
    | some (.time .ex) | some (.time .exat) => false
    | some (.time .px) | some (.time .pxat) =>
      match rest with
      | [] => true
      | text :: rest => decide (text.head? ≠ some 45) && millisecondsOnly rest
    | some (.flag _) | none => millisecondsOnly rest

/-- The conditional options let the store happen, and no expiry is kept. -/
def storesPlainly (setting : Setting) (keyspace : Keyspace F) (key : Bytes) (opts : StoreOptions) : Bool :=
  !(opts.nx && live setting keyspace key) && (!opts.xx || live setting keyspace key) && !keepsExpiry setting keyspace key opts

def setMirrored (setting : Setting) (keyspace : Keyspace F) : List Bytes → Bool
  | key :: _ :: options =>
    millisecondsOnly options && match setOptions .default options with
      | .ok opts => storesPlainly setting keyspace key opts
      | .error _ => true
  | _ => true

/-- The replica has read the times of the handler and no other option. -/
private structure SameTimes (opts again : StoreOptions) : Prop where
  nx : again.nx = false
  xx : again.xx = false
  ttl : again.ttlMs = opts.ttlMs
  exat : again.exatMs = opts.exatMs
  keepttl : again.keepttl = false

private theorem asU64_of_unsigned {text : Bytes} {value : Int} (read : i64OfText text = some value) (plain : text.head? ≠ some 45) :
    unsignedOfText u64Max text = some (asU64 value) := by
  have positive : 0 ≤ value := by
    rw [i64OfText, if_neg plain] at read
    obtain ⟨total, _, rfl⟩ := map_eq_some_iff.mp read
    exact Int.natCast_nonneg total
  have small := i64OfText_le read
  rw [unsignedOfText_of_i64_unsigned read plain, asU64_of_range positive (small.trans (by decide))]

private theorem setOptions_times {opts again result : StoreOptions} {options : List Bytes} (plain : millisecondsOnly options)
    (same : SameTimes opts again) (read : setOptions opts options = .ok result) :
    SameTimes result (Replica.setOptions again options) := by
  fun_induction setOptions opts options generalizing again with
  | case1 opts =>
    rw [← Except.ok.inj read]
    exact same
  | case2 | case4 | case5 => cases read
  | case3 opts token rest flag known ih =>
    unfold millisecondsOnly at plain
    unfold Replica.setOptions
    simp only [known] at plain ⊢
    cases flag <;> exact ih plain ⟨same.nx, same.xx, same.ttl, same.exat, same.keepttl⟩ read
  | case6 opts token time known text rest value parsed ih =>
    unfold millisecondsOnly at plain
    unfold Replica.setOptions
    cases time with
    | ex | exat => simp only [known] at plain; cases plain
    | px =>
      simp only [known, and_eq_true, decide_eq_true_eq] at plain ⊢
      have number := asU64_of_unsigned (parseInteger_ok parsed) plain.1
      exact ih plain.2 ⟨same.nx, same.xx, by rw [number]; rfl, same.exat, same.keepttl⟩ read
    | pxat =>
      simp only [known, and_eq_true, decide_eq_true_eq] at plain ⊢
      have number := asU64_of_unsigned (parseInteger_ok parsed) plain.1
      exact ih plain.2 ⟨same.nx, same.xx, same.ttl, by rw [number]; rfl, same.keepttl⟩ read

theorem set_mirrored
    (mirrored : setMirrored setting keyspace args) :
    Repeats (Replica.applySet setting keyspace args) (handleSet setting keyspace args) := by
  intro success
  obtain ⟨key, value, options, opts, rfl, read, state⟩ := set_of_succeeds success
  unfold setMirrored at mirrored
  simp only [read, storesPlainly, Bool.and_eq_true, Bool.not_eq_true', Bool.or_eq_true] at mirrored
  obtain ⟨plain, ⟨absent, present⟩, lost⟩ := mirrored
  have same := setOptions_times plain ⟨rfl, rfl, rfl, rfl, rfl⟩ read
  have expires : (Replica.setOptions .default options).resolveExpiration setting.now = opts.resolveExpiration setting.now := by
    unfold StoreOptions.resolveExpiration
    rw [same.ttl, same.exat]
  have forgotten : keptExpiry setting keyspace key (Replica.setOptions .default options) = none := by
    rw [keptExpiry, same.keepttl, Bool.false_and, Bool.false_and, if_neg Bool.false_ne_true]
  have happens : (opts.xx && !live setting keyspace key) = false := by
    rcases present with unset | alive
    · rw [unset, Bool.false_and]
    · rw [alive, Bool.not_true, Bool.and_false]
  apply applyStore_of_state
  rw [← state, store_state, store_state, same.nx, same.xx, expires, forgotten, keptExpiry_none lost absent, absent, happens]
  rfl

/-! `APPEND`, which the replica turns into a store without expiry. -/

/-- The string has no expiry to lose, and no expired container is in the way. -/
def appendMirrored (setting : Setting) (keyspace : Keyspace F) (args : List Bytes) : Bool :=
  args.head?.all fun key => (keyspace.lookup key).all fun slot =>
    if slot.isExpired setting.now then !slot.value.isTypedContainer else slot.expiresAt.isNone

private def fitsEntry (setting : Setting) (key value : Bytes) : Prop :=
  ¬ setting.maxEntrySize < key.length + value.length + setting.entryStructSize

private theorem append_of_ok {key suffix : Bytes} {result : Keyspace F × Nat}
    (done : keyspace.append setting key suffix = .ok result) :
    ((keyspace.purgeIfExpired setting.now key).lookup key = none ∧ fitsEntry setting key suffix ∧
      result.1 = (keyspace.purgeIfExpired setting.now key).insert key ⟨none, .string suffix⟩) ∨
    ∃ expiresAt text, keyspace.lookup key = some ⟨expiresAt, .string text⟩ ∧
      keyspace.purgeIfExpired setting.now key = keyspace ∧ fitsEntry setting key (text ++ suffix) ∧
      result.1 = keyspace.insert key ⟨expiresAt, .string (text ++ suffix)⟩ := by
  unfold append at done
  cases ensured : keyspace.ensureStringOrAbsent setting.now key with
  | error error => rw [ensured] at done; cases done
  | ok purged =>
    obtain rfl := ensureString_ok ensured
    rw [ensured] at done
    cases found : (keyspace.purgeIfExpired setting.now key).lookup key with
    | none =>
      simp only [bind, Except.bind, mutateString, found, getD_none, List.nil_append] at done
      by_cases large : setting.maxEntrySize < key.length + suffix.length + setting.entryStructSize
      · simp only [if_pos large] at done
        cases done
      · simp only [if_neg large] at done
        rw [← Except.ok.inj done]
        exact .inl ⟨rfl, large, rfl⟩
    | some slot =>
      have unchanged : keyspace.purgeIfExpired setting.now key = keyspace := by
        rcases purge_cases setting.now keyspace key with absent | same
        · rw [absent] at found
          cases found
        · exact same
      rw [unchanged] at found done ⊢
      obtain ⟨expiresAt, value⟩ := slot
      cases value with
      | string text =>
        simp only [bind, Except.bind, mutateString, found, getD_some] at done
        by_cases large : setting.maxEntrySize < key.length + (text ++ suffix).length + setting.entryStructSize
        · simp only [if_pos large] at done
          cases done
        · simp only [if_neg large] at done
          rw [← Except.ok.inj done]
          exact .inr ⟨expiresAt, text, found, rfl, large, rfl⟩
      | _ => simp only [bind, Except.bind, mutateString, found] at done; cases done

private theorem applyStore_default {key value : Bytes} (fits : fitsEntry setting key value)
    (untyped : ((keyspace.lookup key).any fun slot => slot.value.isTypedContainer) = false) :
    applyStore setting keyspace key value .default = keyspace.insert key ⟨none, .string value⟩ := by
  apply applyStore_of_state
  rw [store_state, if_neg fits, untyped]
  rfl

theorem append_mirrored
    (mirrored : appendMirrored setting keyspace args) :
    Repeats (Replica.applyAppend setting keyspace args) (handleAppend setting keyspace args) := by
  intro success
  rcases args with _ | ⟨key, _ | ⟨suffix, _ | ⟨extra, rest⟩⟩⟩
  · cases success
  · cases success
  · unfold handleAppend at success ⊢
    cases done : keyspace.append setting key suffix with
    | error error => simp only [done] at success; cases success
    | ok result =>
      simp only [done]
      unfold Replica.applyAppend Keyspace.load
      change ((keyspace.lookup key).all _) = true at mirrored
      rcases append_of_ok done with ⟨absent, fits, changed⟩ | ⟨expiresAt, text, found, unchanged, fits, changed⟩
      · rw [changed]
        cases found : keyspace.lookup key with
        | none =>
          simp only [found, purge_of_absent found]
          exact applyStore_default fits (by rw [found]; rfl)
        | some slot =>
          -- The key is gone after the purge, so what it held had expired; it was a string.
          cases expired : slot.isExpired setting.now with
          | false =>
            rw [purge_of_fresh (by rw [fresh, found, all_some, expired]; rfl), found] at absent
            cases absent
          | true =>
            rw [found, all_some, expired, if_pos rfl, Bool.not_eq_true'] at mirrored
            obtain ⟨text, string⟩ := string_of_untyped mirrored
            have gone : ((keyspace.erase key).lookup key).any (fun slot => slot.value.isTypedContainer) = false := by
              rw [Finmap.lookup_erase]
              rfl
            simp only [found, string, expired, lookup_purge_of_expired found expired]
            exact applyStore_default fits gone
      · rw [changed]
        have alive : (⟨expiresAt, .string text⟩ : KeySlot F).isExpired setting.now = false := by
          cases expired : (⟨expiresAt, .string text⟩ : KeySlot F).isExpired setting.now with
          | false => rfl
          | true =>
            rw [lookup_purge_of_expired found expired] at unchanged
            rw [← unchanged, Finmap.lookup_erase] at found
            cases found
        rw [found, all_some, alive, if_neg Bool.false_ne_true, isNone_iff_eq_none] at mirrored
        simp only [found, alive]
        dsimp only at mirrored
        rw [mirrored]
        exact applyStore_default fits (by rw [found]; rfl)
  · cases success

/-! One command. -/

def armMirrored (setting : Setting) (keyspace : Keyspace F) (id : WriteId) (args : List Bytes) : Bool :=
  match id with
  | .set => setMirrored setting keyspace args
  | .append => appendMirrored setting keyspace args
  | .expire => expiryTaken setting (relativeTtl 1000) keyspace args
  | .pexpire => expiryTaken setting (relativeTtl 1) keyspace args
  | .expireat => expiryTaken setting (absoluteTtl setting 1000) keyspace args
  | .pexpireat => expiryTaken setting (absoluteTtl setting 1) keyspace args
  | .incr | .decr | .incrby | .decrby => noTypedGhost setting keyspace args
  | .zadd => plainScores args
  | .geoadd => plainPoints args
  | .zrem | .hdel | .srem => freshHead setting keyspace args
  | .lpop | .rpop => freshHead setting keyspace args && popsOne keyspace args
  | _ => true

private theorem unlink_mirrored :
    Repeats (args.foldl (fun keyspace key => keyspace.delete key) keyspace) (handleUnlink keyspace args) := by
  intro success
  unfold handleUnlink at success ⊢
  split at success
  next => cases success
  next some =>
    rw [if_neg some]
    exact del_repeats success

/-- An arm of the replica has the effect that the command had on the master. -/
theorem arm_mirrored [Double F] {server : Server F} {id : WriteId}
    (known : id ∈ Replica.arms) (widest : id ≠ .flushall) (mirrored : armMirrored server.setting keyspace id args) :
    Repeats (Replica.applyArm server.setting keyspace id args) (server.handle keyspace id args) := by
  intro success
  cases id with
  | flushall => exact absurd rfl widest
  | flushdb => exact (flush_of_succeeds success).symm
  | set => exact set_mirrored mirrored success
  | append => exact append_mirrored mirrored success
  | del => exact del_repeats success
  | unlink => exact unlink_mirrored success
  | persist =>
    obtain ⟨key, rfl, same⟩ := persist_repeats success
    exact same
  | expire => exact expire_repeats mirrored success
  | pexpire => exact pexpire_repeats mirrored success
  | expireat => exact expireat_repeats mirrored success
  | pexpireat => exact pexpireat_repeats mirrored success
  | incr =>
    obtain ⟨key, rfl, same⟩ := incr_repeats mirrored success
    exact same
  | incrby =>
    obtain ⟨key, text, rfl, same⟩ := incrby_repeats mirrored success
    exact same
  | decr =>
    obtain ⟨key, rfl, same⟩ := decr_repeats mirrored success
    exact same
  | decrby =>
    obtain ⟨key, text, rfl, same⟩ := decrby_repeats mirrored success
    exact same
  | zadd => exact congrArg (Replica.orUnchanged keyspace) (zadd_repeats mirrored success)
  | zrem => exact zrem_repeats mirrored success
  | geoadd => exact congrArg (Replica.orUnchanged keyspace) (geoadd_repeats mirrored success)
  | hset => exact congrArg (Replica.orUnchanged keyspace) (hset_repeats success)
  | hdel => exact hdel_repeats mirrored success
  | lpush | rpush => exact congrArg (Replica.orUnchanged keyspace) (push_repeats success)
  | lpop =>
    obtain ⟨unexpired, single⟩ := (and_eq_true ..).mp mirrored
    exact pop_repeats leftEnd_rest unexpired single success
  | rpop =>
    obtain ⟨unexpired, single⟩ := (and_eq_true ..).mp mirrored
    exact pop_repeats rightEnd_rest unexpired single success
  | sadd => exact congrArg (Replica.orUnchanged keyspace) (sadd_repeats success)
  | srem => exact srem_repeats mirrored success
  | _ => exact absurd known (by decide)

/-! Whole runs. -/

/-- A master: its clock and limits, and the commands that are not modelled one by one, some of
which reach into other databases than the selected one. -/
structure Master (F : Type) where
  setting : Setting
  walk : Walk
  others : WriteId → List (Keyspace F) → Nat → List Bytes → List (Keyspace F) × Answer

/-- A master's databases and those of its replica, with the database that was selected last
on the stream and the replica's current one. -/
structure Pair (F : Type) where
  databases : List (Keyspace F)
  selectedDb : Option UInt64
  replica : List (Keyspace F)
  currentDb : Nat

section runs
variable [Double F]

namespace Master

def server (master : Master F) : Server F := ⟨master.setting, master.walk, fun _ keyspace _ => (keyspace, failure "ERR unknown command")⟩

def execute (master : Master F) (databases : List (Keyspace F)) (db : Nat) (command : LoggedCommand) :
    List (Keyspace F) × Answer :=
  if command.id = .flushall then
    let answer := (handleFlush (∅ : Keyspace F) command.args).2
    (if answerSucceeds answer then databases.map fun _ => .flush else databases, answer)
  else if command.id ∈ localIds then
    match databases[db]? with
    | some keyspace =>
      let (keyspace, answer) := master.server.handle keyspace command.id command.args
      (databases.set db keyspace, answer)
    | none => (databases, failure "ERR DB index is out of range")
  else master.others command.id databases db command.args

end Master

namespace Pair

def receive (setting : Setting) (pair : Pair F) (argv : Argv) : Pair F :=
  match ReplicaLink.applyArgv pair.replica.length (Replica.applyCommand setting) pair.replica pair.currentDb argv.args with
  | some (replica, currentDb) => { pair with replica := replica, currentDb := currentDb }
  | none => pair

def write (master : Master F) (pair : Pair F) (event : UInt64 × LoggedCommand) : Pair F :=
  let (databases, answer) := master.execute pair.databases event.1.toNat event.2
  let executed := { pair with databases := databases }
  if answerSucceeds answer then
    { (published (pair.selectedDb.map UInt64.toNat) event.1 event.2).foldl (receive master.setting) executed with
      selectedDb := some event.1 }
  else executed

/-- The replica starts with the master's data, in the database that the stream is in. -/
structure Attached (pair : Pair F) : Prop where
  same : pair.replica = pair.databases
  known : ∀ db, pair.selectedDb = some db → pair.currentDb = db.toNat
  unknown : pair.selectedDb = none → pair.currentDb = 0

def InSync (setting : Setting) (pair : Pair F) : Prop := List.Forall₂ (SameData setting) pair.replica pair.databases

end Pair

/-- The replica understands a write: it has an arm for the command and the arm's condition
holds, or the command has left the databases as they were. -/
def mirrored [DecidableEq F] (master : Master F) (databases : List (Keyspace F)) (event : UInt64 × LoggedCommand) : Bool :=
  if event.2.id = .flushall then true
  else if event.2.id ∈ Replica.arms then
    databases[event.1.toNat]?.all fun keyspace => armMirrored master.setting keyspace event.2.id event.2.args
  else decide ((master.execute databases event.1.toNat event.2).1 = databases)

private theorem modify_eq_set {α : Type} {items : List α} {index : Nat} {item : α} (found : items[index]? = some item) (f : α → α) :
    items.modify index f = items.set index (f item) := by
  apply List.ext_getElem?
  intro other
  rw [List.getElem?_modify, List.getElem?_set]
  by_cases same : index = other
  · subst same
    have inside : index < items.length := (List.getElem?_eq_some_iff.mp found).1
    simp [found, if_pos inside, map_eq_map]
  · simp [if_neg same]

variable {master : Master F}

private theorem applyCommand_mirrored [DecidableEq F] {databases : List (Keyspace F)}
    (served : db.toNat < databases.length) (understood : mirrored master databases (db, command))
    (success : answerSucceeds (master.execute databases db.toNat command).2) :
    Replica.applyCommand master.setting databases db.toNat command.argv.args =
      some (master.execute databases db.toNat command).1 := by
  obtain ⟨id, args, short, small⟩ := command
  change Replica.applyCommand master.setting databases db.toNat (ascii id.name :: args) = _
  unfold Replica.applyCommand
  dsimp only
  rw [armOf_name]
  unfold mirrored at understood
  by_cases widest : id = .flushall
  · subst widest
    unfold Master.execute at success ⊢
    simp only [if_true] at success ⊢
    rw [if_pos success]
    rfl
  · rw [if_neg widest] at understood
    by_cases known : id ∈ Replica.arms
    · rw [if_pos known] at understood ⊢
      have modelled : ∀ id ∈ Replica.arms, id ≠ .flushall → id ∈ localIds := by decide
      obtain ⟨keyspace, found⟩ : ∃ keyspace, databases[db.toNat]? = some keyspace := ⟨_, List.getElem?_eq_getElem served⟩
      unfold Master.execute at success ⊢
      simp only [if_neg widest, if_pos (modelled id known widest), found, all_some] at understood success ⊢
      have same := @arm_mirrored F keyspace args _ master.server id known widest understood success
      rw [modify_eq_set found]
      exact congrArg (fun keyspace => some (databases.set db.toNat keyspace)) same
    · rw [if_neg known] at understood ⊢
      rw [of_decide_eq_true understood]

section stream
variable {setting : Setting} {pair : Pair F}

private theorem receive_select (served : db.toNat < pair.replica.length) :
    pair.receive setting (selectArgv db) = { pair with currentDb := db.toNat } := by
  rw [Pair.receive, applyArgv_select served]

variable {replica : List (Keyspace F)}

private theorem receive_command (inside : pair.currentDb < pair.replica.length)
    (applied : Replica.applyCommand setting pair.replica pair.currentDb command.argv.args = some replica) :
    pair.receive setting command.argv = { pair with replica := replica } := by
  rw [Pair.receive, applyArgv_command inside, applied]
  rfl

private theorem receive_published (known : ∀ previous, pair.selectedDb = some previous → pair.currentDb = previous.toNat)
    (unknown : pair.selectedDb = none → pair.currentDb = 0) (served : db.toNat < pair.replica.length)
    (applied : Replica.applyCommand setting pair.replica db.toNat command.argv.args = some replica) :
    (published (pair.selectedDb.map UInt64.toNat) db command).foldl (Pair.receive setting) pair =
      { pair with replica := replica, currentDb := db.toNat } := by
  unfold published
  split
  next =>
    rw [List.foldl_cons, List.foldl_cons, List.foldl_nil, receive_select served, receive_command served applied]
  next silent =>
    have current : pair.currentDb = db.toNat := by
      cases selected : pair.selectedDb with
      | none =>
        rw [selected] at silent
        have zero : db.toNat = 0 := by simpa [ReplBacklog.emitsSelect] using silent
        rw [unknown selected, zero]
      | some previous =>
        rw [selected] at silent
        have same : previous.toNat = db.toNat := by simpa [ReplBacklog.emitsSelect] using silent
        rw [known previous selected, same]
    rw [← current] at served applied ⊢
    rw [List.foldl_cons, List.foldl_nil, receive_command served applied]

end stream

private theorem Pair.Attached.write [DecidableEq F] {pair : Pair F} (attached : pair.Attached) (served : db.toNat < pair.databases.length)
    (success : answerSucceeds (master.execute pair.databases db.toNat command).2)
    (understood : mirrored master pair.databases (db, command)) : (pair.write master (db, command)).Attached := by
  have applied := applyCommand_mirrored served understood success
  rw [← attached.same] at served
  nth_rewrite 1 [← attached.same] at applied
  have received := @receive_published F db command _ master.setting { pair with databases := (master.execute pair.databases db.toNat command).1 }
    _ attached.known attached.unknown served applied
  unfold Pair.write
  dsimp only
  rw [if_pos success, received]
  exact ⟨rfl, fun previous same => congrArg UInt64.toNat (some.inj same), nofun⟩

/-- In every run of successful writes that the replica understands, the replica holds the
data of its master in every state that is reached. -/
theorem run_in_sync [DecidableEq F] (master : Master F) (start : Pair F) (attached : start.Attached)
    (events : List (UInt64 × LoggedCommand))
    (understood : Guarded (Pair.write master) (fun pair event =>
      event.1.toNat < pair.databases.length ∧
        answerSucceeds (master.execute pair.databases event.1.toNat event.2).2 = true ∧
        mirrored master pair.databases event = true) start events) :
    (run (Pair.write master) start events).InSync master.setting := by
  have kept : (run (Pair.write master) start events).Attached :=
    understood.invariant (fun pair event attached allowed => attached.write allowed.1 allowed.2.1 allowed.2.2) attached
  rw [Pair.InSync, kept.same]
  exact List.forall₂_same.mpr fun keyspace _ key => rfl

end runs

def plainMaster : Master Int := ⟨plainServer.setting, fun _ => [], fun _ databases _ _ => (databases, failure "ERR unknown command")⟩

def emptyPair : Pair Int := ⟨[∅, ∅], none, [∅, ∅], 0⟩

def secondsRun : List (UInt64 × LoggedCommand) := [(0, typed .set ["k", "v", "EX", "100"] (by decide) (by decide))]

/-- The replica skips the expiry of a `SET` in seconds. -/
theorem seconds_expiry_lost : ¬ (run (Pair.write plainMaster) emptyPair secondsRun).InSync plainMaster.setting := by
  intro synced
  have first : ∀ {replica databases : List (Keyspace Int)}, List.Forall₂ (SameData plainMaster.setting) replica databases →
      (replica.head?.map fun keyspace => (keyspace.purgeIfExpired plainMaster.setting.now (ascii "k")).lookup (ascii "k")) =
        databases.head?.map fun keyspace => (keyspace.purgeIfExpired plainMaster.setting.now (ascii "k")).lookup (ascii "k") := by
    intro replica databases same
    cases same with
    | nil => rfl
    | cons head _ => exact congrArg some (head (ascii "k"))
  exact absurd (first synced) (by decide +kernel)

/-- Writes on two databases, some of them with options that the replica knows. -/
def twoDatabaseRun : List (UInt64 × LoggedCommand) :=
  [(1, typed .set ["j", "v", "PX", "5000"] (by decide) (by decide)), (0, typed .append ["a", "x"] (by decide) (by decide)),
    (0, typed .append ["a", "y"] (by decide) (by decide)), (1, typed .rpush ["q", "a", "b"] (by decide) (by decide)),
    (1, typed .lpop ["q"] (by decide) (by decide)), (0, typed .zadd ["y", "3", "m"] (by decide) (by decide)),
    (1, typed .expire ["q", "60"] (by decide) (by decide)), (1, typed .unlink ["j"] (by decide) (by decide))]

theorem twoDatabaseRun_in_sync :
    emptyPair.Attached ∧ (run (Pair.write plainMaster) emptyPair twoDatabaseRun).InSync plainMaster.setting :=
  ⟨⟨rfl, nofun, fun _ => rfl⟩, run_in_sync plainMaster emptyPair ⟨rfl, nofun, fun _ => rfl⟩ twoDatabaseRun (by decide +kernel)⟩

end Kore.Proofs.ReplicaFidelity
