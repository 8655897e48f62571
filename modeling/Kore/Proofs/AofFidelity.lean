import Kore.Foundation.Runs
import Kore.Proofs.StreamRepetition

/-! Loading the append-only file of a run into an empty keyspace. The loader is a second
interpreter of the commands that knows fewer of them and fewer of their options; a run
whose every command it understands comes back with the data that the run left. -/

namespace Kore.Proofs.AofFidelity
open Foundation Protocol Cache Commands Persistence Repetition StreamRepetition Except Bool

variable {F : Type}

/-! `SET`, whose times the loader reads with other types and whose `KEEPTTL` it skips. -/

/-- The number after a time option means the same to the handler and to the loader. -/
def timeFits (text : Bytes) (time : SetTime) : Bool :=
  match i64OfText text, time with
  | some value, .ex | some value, .exat => decide (0 ≤ value) && decide (value * 1000 ≤ u64Max)
  | some value, .px => decide (0 ≤ value)
  | some _, .pxat | none, _ => true

def timesFit : List Bytes → Bool
  | [] => true
  | token :: rest =>
    match SetToken.ofText token with
    | some (.time time) =>
      match rest with
      | [] => true
      | text :: rest => timeFits text time && timesFit rest
    | some (.flag _) | none => timesFit rest

def setRepeats (setting : Setting) (keyspace : Keyspace F) : List Bytes → Bool
  | key :: _ :: options =>
    timesFit options && match setOptions .default options with
      | .ok opts => !keepsExpiry setting keyspace key opts
      | .error _ => true
  | _ => true

private structure SameOptions (opts again : StoreOptions) : Prop where
  nx : again.nx = opts.nx
  xx : again.xx = opts.xx
  ttl : again.ttlMs = opts.ttlMs
  exat : again.exatMs = opts.exatMs
  keepttl : again.keepttl = false

variable {opts again : StoreOptions}

private theorem setTime_same {text : Bytes} {value : Int} {time : SetTime}
    (same : SameOptions opts again) (read : i64OfText text = some value) (fits : timeFits text time) :
    SameOptions (time.apply value opts) (Aof.setTime again text time) := by
  cases time with
  | ex =>
    simp only [timeFits, read, and_eq_true, decide_eq_true_eq] at fits
    refine ⟨same.nx, same.xx, congrArg some ?_, same.exat, same.keepttl⟩
    rw [unsignedOfText_of_i64 read fits.1, asU64_of_range (by omega) fits.2, satMulU64]
    omega
  | px =>
    simp only [timeFits, read, decide_eq_true_eq] at fits
    refine ⟨same.nx, same.xx, congrArg some ?_, same.exat, same.keepttl⟩
    have large := i64OfText_le read
    rw [unsignedOfText_of_i64 read fits, asU64_of_range fits (large.trans (by decide))]
  | exat =>
    simp only [timeFits, read, and_eq_true, decide_eq_true_eq] at fits
    refine ⟨same.nx, same.xx, same.ttl, congrArg some ?_, same.keepttl⟩
    rw [read, Option.getD_some, asU64_of_range fits.1 (by omega), asU64_of_range (by omega) fits.2, satMulU64]
    omega
  | pxat =>
    refine ⟨same.nx, same.xx, same.ttl, congrArg some ?_, same.keepttl⟩
    rw [read, Option.getD_some]

private theorem setOptions_same {result : StoreOptions} {options : List Bytes} (fits : timesFit options)
    (same : SameOptions opts again) (read : setOptions opts options = .ok result) :
    SameOptions result (Aof.setOptions again options) := by
  fun_induction setOptions opts options generalizing again with
  | case1 opts =>
    rw [← ok.inj read]
    exact same
  | case2 | case4 | case5 => cases read
  | case3 opts token rest flag known ih =>
    unfold timesFit at fits
    unfold Aof.setOptions
    simp only [known] at fits ⊢
    cases flag with
    | nx => exact ih fits ⟨rfl, same.xx, same.ttl, same.exat, same.keepttl⟩ read
    | xx => exact ih fits ⟨same.nx, rfl, same.ttl, same.exat, same.keepttl⟩ read
    | get | keepttl => exact ih fits ⟨same.nx, same.xx, same.ttl, same.exat, same.keepttl⟩ read
  | case6 opts token time known argument rest value parsed ih =>
    unfold timesFit at fits
    unfold Aof.setOptions
    simp only [known, and_eq_true] at fits ⊢
    exact ih fits.2 (setTime_same same (parseInteger_ok parsed) fits.1) read

variable {setting : Setting} {keyspace : Keyspace F}

theorem set_repeats {args : List Bytes}
    (repeats : setRepeats setting keyspace args) :
    Repeats (Aof.applySet setting keyspace args) (handleSet setting keyspace args) := by
  intro success
  obtain ⟨key, value, options, opts, rfl, read, state⟩ := set_of_succeeds success
  unfold setRepeats at repeats
  simp only [read, Bool.and_eq_true, Bool.not_eq_true'] at repeats
  have same := setOptions_same repeats.1 ⟨rfl, rfl, rfl, rfl, rfl⟩ read
  apply applyStore_of_state
  rw [← state, store_state, store_state]
  have expires : (Aof.setOptions .default options).resolveExpiration setting.now = opts.resolveExpiration setting.now := by
    unfold StoreOptions.resolveExpiration
    rw [same.ttl, same.exat]
  have forgotten : keptExpiry setting keyspace key (Aof.setOptions .default options) = none := by
    rw [keptExpiry, same.keepttl, Bool.false_and, Bool.false_and, if_neg Bool.false_ne_true]
  rw [same.nx, same.xx, expires, forgotten]
  by_cases refused : (opts.nx && live setting keyspace key) = true
  · simp [refused]
  · rw [keptExpiry_none repeats.2 (Bool.not_eq_true _ ▸ refused)]

/-! One command. -/

def armRepeats [DecidableEq F] (server : Server F) (keyspace : Keyspace F) (id : WriteId) (args : List Bytes) : Bool :=
  match id with
  | .set => setRepeats server.setting keyspace args
  | .expire => expiryTaken server.setting (relativeTtl 1000) keyspace args
  | .pexpire => expiryTaken server.setting (relativeTtl 1) keyspace args
  | .expireat => expiryTaken server.setting (absoluteTtl server.setting 1000) keyspace args
  | .pexpireat => expiryTaken server.setting (absoluteTtl server.setting 1) keyspace args
  | .incr | .decr | .incrby | .decrby => noTypedGhost server.setting keyspace args
  | .zadd => plainScores args
  | .geoadd => plainPoints args
  | .zrem | .hdel | .srem | .xdel | .xack => freshHead server.setting keyspace args
  | .lpop | .rpop => freshHead server.setting keyspace args && popsOne keyspace args
  | .xadd => plainEntry args
  | .xtrim => trimRepeats server.setting server.walk keyspace args
  | .xgroup => groupRepeats server.setting keyspace args
  | .xsetid => plainPosition args
  | .xclaim => claimRepeats server.setting keyspace args
  | .xreadgroup => readRepeats args
  | _ => true

/-- A command without an arm has to leave the keyspace as it is. -/
def repeatable [Double F] [DecidableEq F] (server : Server F) (keyspace : Keyspace F) (command : LoggedCommand) : Bool :=
  if command.id ∈ Aof.arms then armRepeats server keyspace command.id command.args
  else decide (command.id ∉ Aof.searchArms) && decide ((server.handle keyspace command.id command.args).1 = keyspace)

variable {server : Server F} {command : LoggedCommand}

/-- Executing a logged command a second time has the effect of the first time. -/
theorem command_repeats [Double F] [DecidableEq F] (walk : Walk) (repeats : repeatable server keyspace command) :
    RepeatsOk (Aof.applyCommandToCache server.setting walk keyspace command.argv.args) (server.handle keyspace command.id command.args) := by
  intro success
  obtain ⟨id, args, short, small⟩ := command
  change Aof.applyCommandToCache server.setting walk keyspace (ascii id.name :: args) = _
  unfold Aof.applyCommandToCache
  dsimp only
  rw [armOf_name]
  unfold repeatable at repeats
  by_cases known : id ∈ Aof.arms
  · simp only [if_pos known] at repeats ⊢
    cases id with
    | set => exact congrArg ok (set_repeats repeats success)
    | del => exact congrArg ok (del_repeats success)
    | persist =>
      obtain ⟨key, rfl, same⟩ := persist_repeats success
      exact congrArg ok same
    | expire => exact congrArg ok (expire_repeats repeats success)
    | pexpire => exact congrArg ok (pexpire_repeats repeats success)
    | expireat => exact congrArg ok (expireat_repeats repeats success)
    | pexpireat => exact congrArg ok (pexpireat_repeats repeats success)
    | incr =>
      obtain ⟨key, rfl, same⟩ := incr_repeats repeats success
      exact congrArg ok same
    | incrby =>
      obtain ⟨key, text, rfl, same⟩ := incrby_repeats repeats success
      exact congrArg ok same
    | decr =>
      obtain ⟨key, rfl, same⟩ := decr_repeats repeats success
      exact congrArg ok same
    | decrby =>
      obtain ⟨key, text, rfl, same⟩ := decrby_repeats repeats success
      exact congrArg ok same
    | zadd => exact zadd_repeats repeats success
    | zrem => exact congrArg ok (zrem_repeats repeats success)
    | geoadd => exact geoadd_repeats repeats success
    | hset => exact hset_repeats success
    | hdel => exact congrArg ok (hdel_repeats repeats success)
    | lpush | rpush => exact push_repeats success
    | lpop =>
      obtain ⟨unexpired, single⟩ := (and_eq_true ..).mp repeats
      exact congrArg ok (pop_repeats leftEnd_rest unexpired single success)
    | rpop =>
      obtain ⟨unexpired, single⟩ := (and_eq_true ..).mp repeats
      exact congrArg ok (pop_repeats rightEnd_rest unexpired single success)
    | sadd => exact sadd_repeats success
    | srem => exact congrArg ok (srem_repeats repeats success)
    | xadd => exact xadd_repeats repeats success
    | xdel => exact congrArg ok (xdel_repeats repeats success)
    | xtrim => exact congrArg ok (xtrim_repeats repeats success)
    | xgroup => exact xgroup_repeats repeats success
    | xsetid => exact congrArg ok (xsetid_repeats repeats success)
    | xclaim => exact congrArg ok (xclaim_repeats repeats success)
    | xack => exact congrArg ok (xack_repeats repeats success)
    | xreadgroup => exact congrArg ok (xreadgroup_repeats repeats success)
    | flushdb | flushall => exact congrArg ok (flush_of_succeeds success).symm
    | _ => exact absurd known (by decide)
  · simp only [if_neg known, and_eq_true, decide_eq_true_eq] at repeats ⊢
    rw [repeats.2]

/-! Whole runs. -/

/-- A master and the commands that its log records. -/
structure Recorded (F : Type) where
  keyspace : Keyspace F
  log : List (List Bytes)

section runs
variable [Double F]

/-- A write of a client, logged if its reply looks like success. -/
def Recorded.execute (server : Server F) (state : Recorded F) (command : LoggedCommand) : Recorded F :=
  let (keyspace, answer) := server.handle state.keyspace command.id command.args
  ⟨keyspace, if answerSucceeds answer then state.log ++ [command.argv.args] else state.log⟩

def loadAof (setting : Setting) (walk : Walk) (log : List (List Bytes)) : Except Error (Keyspace F) :=
  log.foldlM (Aof.applyCommandToCache setting walk) ∅

/-- Another process loads the log without an error and ends up with the data of the master. -/
def Restored (setting : Setting) (state : Recorded F) : Prop :=
  ∀ walk, ∃ loaded, loadAof setting walk state.log = .ok loaded ∧ SameData setting loaded state.keyspace

private theorem Recorded.execute_log {state : Recorded F}
    (success : answerSucceeds (server.handle state.keyspace command.id command.args).2) :
    (state.execute server command).log = state.log ++ [command.argv.args] := if_pos success

private theorem loadAof_snoc {walk : Walk} {log : List (List Bytes)} {argv : List Bytes} {loaded : Keyspace F}
    (load : loadAof setting walk log = .ok loaded) :
    loadAof setting walk (log ++ [argv]) = Aof.applyCommandToCache setting walk loaded argv := by
  unfold loadAof at load ⊢
  rw [List.foldlM_append, load]
  change Aof.applyCommandToCache setting walk loaded argv >>= pure = _
  rw [bind_pure]

/-- In every run of successful commands that the loader understands, the log of every
state that is reached restores the data of that state. -/
theorem run_restored [DecidableEq F] (server : Server F) (commands : List LoggedCommand)
    (understood : Guarded (Recorded.execute server) (fun state command =>
      answerSucceeds (server.handle state.keyspace command.id command.args).2 = true ∧
        repeatable server state.keyspace command = true) ⟨∅, []⟩ commands) :
    Restored server.setting (run (Recorded.execute server) ⟨∅, []⟩ commands) := by
  have keeps : ∀ (state : Recorded F) (command : LoggedCommand),
      (∀ walk, loadAof server.setting walk state.log = .ok state.keyspace) →
      answerSucceeds (server.handle state.keyspace command.id command.args).2 = true ∧
        repeatable server state.keyspace command = true →
      ∀ walk, loadAof server.setting walk (state.execute server command).log = .ok (state.execute server command).keyspace := by
    intro state command load ⟨success, repeats⟩ walk
    rw [Recorded.execute_log success, loadAof_snoc (load walk)]
    exact command_repeats walk repeats success
  intro walk
  exact ⟨_, understood.invariant keeps (fun walk => rfl) walk, fun key => rfl⟩

end runs

def unlinkRun : List LoggedCommand :=
  [typed .set ["k", "v"] (by decide) (by decide), typed .unlink ["k"] (by decide) (by decide)]

/-- The loader has no arm for `UNLINK`, so that an unlinked key comes back. -/
theorem unlinked_key_restored :
    ¬ Restored plainServer.setting (run (Recorded.execute plainServer) ⟨∅, []⟩ unlinkRun) := by
  intro restored
  obtain ⟨loaded, load, same⟩ := restored fun _ => []
  have back : (loadAof (F := Int) plainServer.setting (fun _ => [])
      (run (Recorded.execute plainServer) ⟨∅, []⟩ unlinkRun).log).toOption.map
        (fun loaded => ((loaded.purgeIfExpired plainServer.setting.now (ascii "k")).lookup (ascii "k")).isSome) = some true := by
    decide +kernel
  have gone : (run (Recorded.execute plainServer) ⟨∅, []⟩ unlinkRun).keyspace = ∅ := by decide +kernel
  rw [load] at back
  have present := Option.some.inj back
  dsimp only at present
  rw [same (ascii "k"), gone] at present
  cases present

/-- Every type of value, an expiry, and a group with a pending entry. -/
def mixedRun : List LoggedCommand :=
  [typed .set ["k", "v", "EX", "90"] (by decide) (by decide), typed .incrby ["n", "7"] (by decide) (by decide),
    typed .hset ["h", "f", "v"] (by decide) (by decide), typed .rpush ["l", "a", "b", "c"] (by decide) (by decide),
    typed .lpop ["l"] (by decide) (by decide), typed .sadd ["s", "m"] (by decide) (by decide),
    typed .zadd ["z", "3", "m"] (by decide) (by decide), typed .expire ["z", "60"] (by decide) (by decide),
    typed .xadd ["x", "1-1", "f", "v"] (by decide) (by decide),
    typed .xgroup ["CREATE", "x", "g", "0"] (by decide) (by decide),
    typed .xreadgroup ["GROUP", "g", "c", "STREAMS", "x", ">"] (by decide) (by decide),
    typed .del ["n"] (by decide) (by decide)]

theorem mixedRun_restored : Restored plainServer.setting (run (Recorded.execute plainServer) ⟨∅, []⟩ mixedRun) :=
  run_restored plainServer mixedRun (by decide +kernel)

end Kore.Proofs.AofFidelity
