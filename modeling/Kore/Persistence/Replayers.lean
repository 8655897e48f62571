import Kore.Commands.Dispatch

/-! The two interpreters that execute logged commands a second time: the loader of the
append-only file and the replica. Both drop every command they have no arm for. The
loader's arms that rebuild search definitions work outside the keyspace and are left out. -/

namespace Kore.Persistence
open Foundation Protocol Cache Commands StreamId

variable {F : Type}

def armOf (arms : List WriteId) (name : Bytes) : Option WriteId := arms.find? fun id => decide (ascii id.name = upper name)

/-! Arms that both interpreters share. -/

variable (setting : Setting) (keyspace : Keyspace F)

def applyIncr (key : Bytes) (delta : Int) : Keyspace F :=
  match keyspace.incr setting.now key delta with
  | .ok (keyspace, _) => keyspace
  | .error _ => keyspace

def applyDecr (key : Bytes) (delta : Int) : Keyspace F :=
  match keyspace.decr setting.now key delta with
  | .ok (keyspace, _) => keyspace
  | .error _ => keyspace

def applyStore (key value : Bytes) (opts : StoreOptions) : Keyspace F :=
  match keyspace.store setting key value opts with
  | .ok (keyspace, _) => keyspace
  | .error _ => keyspace

def applyPexpireat (key : Bytes) (expireUnixMs : Int) : Keyspace F :=
  let purged := keyspace.purgeIfExpired setting.now key
  match keyspace.keyType setting.now key with
  | none => purged
  | some .string =>
    if (setting.now : Int) < expireUnixMs then (purged.expire setting.now key (expireUnixMs - setting.now).toNat).1
    else purged.delete key
  | some _ => purged.setTypedExpireUnixMs setting.now key expireUnixMs

def applyExpiry (id : WriteId) : List Bytes → Keyspace F
  | key :: text :: _ =>
    let value := (i64OfText text).getD 0
    match id with
    | .expire => (keyspace.expire setting.now key (satMulU64 (asU64 (max value 0)) 1000)).1
    | .pexpire => (keyspace.expire setting.now key (asU64 (max value 0))).1
    | .expireat => (keyspace.expireAtUnixMs setting.now key (satMulI64 value 1000)).1
    | _ => applyPexpireat setting keyspace key value
  | _ => keyspace

def applyInto {α : Type} (container : Container F α) (setting : Setting) (keyspace : Keyspace F) (key : Bytes) (change : α → α) :
    Except Error (Keyspace F) :=
  (keyspace.getOrCreate container setting.now key).map fun (keyspace, value) => keyspace.write container key (change value)

def applyOutOf {α : Type} (container : Container F α) (isEmpty : α → Bool) (keyspace : Keyspace F) (key : Bytes)
    (change : α → α) : Keyspace F :=
  match keyspace.get container key with
  | none => keyspace
  | some value =>
    let written := keyspace.write container key (change value)
    if isEmpty (change value) then written.remove container key else written

def scoreOr [Double F] (text : Bytes) : F := (Double.parse text).getD Double.zero

def applyScores [Double F] (set : FiniteMap Bytes F) (words : List Bytes) : FiniteMap Bytes F :=
  (pairs words).foldl (fun set pair => zsetAdd set pair.2 (scoreOr pair.1)) set

def triples : List Bytes → List (Bytes × Bytes × Bytes)
  | first :: second :: third :: rest => (first, second, third) :: triples rest
  | _ => []

def geoAdd [Double F] (set : FiniteMap Bytes (F × F)) (point : Bytes × Bytes × Bytes) : FiniteMap Bytes (F × F) :=
  let (longitude, latitude, member) := point
  if Double.isValidCoordinates (scoreOr longitude : F) (scoreOr latitude) then
    set.insert member (scoreOr longitude, scoreOr latitude)
  else set

def applyZadd [Double F] (setting : Setting) (keyspace : Keyspace F) : List Bytes → Except Error (Keyspace F)
  | key :: first :: second :: rest =>
    applyInto sortedSets setting keyspace key fun set => applyScores set (first :: second :: rest)
  | _ => .ok keyspace

def applyZrem : List Bytes → Keyspace F
  | key :: first :: rest => applyOutOf sortedSets (fun _ => false) keyspace key (zrem (first :: rest))
  | _ => keyspace

def applyGeoadd [Double F] (setting : Setting) (keyspace : Keyspace F) : List Bytes → Except Error (Keyspace F)
  | key :: first :: second :: third :: rest =>
    applyInto geoSets setting keyspace key fun set => (triples (first :: second :: third :: rest)).foldl geoAdd set
  | _ => .ok keyspace

def applyHset : List Bytes → Except Error (Keyspace F)
  | key :: first :: second :: rest =>
    applyInto hashes setting keyspace key fun fields => (pairs (first :: second :: rest)).foldl hset fields
  | _ => .ok keyspace

def applyHdel : List Bytes → Keyspace F
  | key :: first :: rest => applyOutOf hashes (fun fields => decide (fields.keys = ∅)) keyspace key (hdel (first :: rest))
  | _ => keyspace

def applyPush (insert : List Bytes → List Bytes → List Bytes) (setting : Setting) (keyspace : Keyspace F) :
    List Bytes → Except Error (Keyspace F)
  | key :: first :: rest => applyInto lists setting keyspace key (insert (first :: rest))
  | _ => .ok keyspace

/-- Pops one element, whatever count the command carries. -/
def applyPop (side : ListEnd) (keyspace : Keyspace F) : List Bytes → Keyspace F
  | key :: _ => applyOutOf lists List.isEmpty keyspace key (side.rest 1)
  | [] => keyspace

def applySadd : List Bytes → Except Error (Keyspace F)
  | key :: first :: rest => applyInto sets setting keyspace key (sadd (first :: rest))
  | _ => .ok keyspace

def applySrem : List Bytes → Keyspace F
  | key :: first :: rest => applyOutOf sets (fun set => decide (set = ∅)) keyspace key (srem (first :: rest))
  | _ => keyspace

namespace Aof

/-! Arms of the loader. -/

def setTime (opts : StoreOptions) (text : Bytes) : SetTime → StoreOptions
  | .ex => { opts with ttlMs := some (satMulU64 ((unsignedOfText u64Max text).getD 0) 1000) }
  | .px => { opts with ttlMs := some ((unsignedOfText u64Max text).getD 0) }
  | .exat => { opts with exatMs := some (satMulU64 (asU64 ((i64OfText text).getD (-1))) 1000) }
  | .pxat => { opts with exatMs := some (asU64 ((i64OfText text).getD (-1))) }

/-- `GET` and `KEEPTTL` are skipped. -/
def setOptions (opts : StoreOptions) : List Bytes → StoreOptions
  | [] => opts
  | token :: rest =>
    match SetToken.ofText token with
    | some (.flag .nx) => setOptions { opts with nx := true } rest
    | some (.flag .xx) => setOptions { opts with xx := true } rest
    | some (.time time) =>
      match rest with
      | [] => opts
      | text :: rest => setOptions (setTime opts text time) rest
    | _ => setOptions opts rest

def applySet : List Bytes → Keyspace F
  | key :: value :: options => applyStore setting keyspace key value (setOptions .default options)
  | _ => keyspace

def delta (options : List Bytes) : Int := (options.head?.bind i64OfText).getD 1

def applyXadd : List Bytes → Except Error (Keyspace F)
  | key :: idSpec :: field :: value :: rest =>
    applyInto streams setting keyspace key fun stream =>
      match stream.xadd setting.now (if isUtf8 idSpec then idSpec else ascii "*") (pairs (field :: value :: rest)) with
      | .ok (stream, _) => stream
      | .error _ => stream
  | _ => .ok keyspace

def onStream {α : Type} (keyspace : Keyspace F) (key : Bytes) (operation : RedisStream → Except Bytes (RedisStream × α)) :
    Keyspace F :=
  match keyspace.get streams key with
  | none => keyspace
  | some stream =>
    match operation stream with
    | .ok (stream, _) => keyspace.write streams key stream
    | .error _ => keyspace

def applyXdel : List Bytes → Keyspace F
  | key :: first :: rest => onStream keyspace key fun stream => .ok (stream.xdel ((first :: rest).filterMap ofText))
  | _ => keyspace

/-- Only `MAXLEN` with an optional tilde is understood; an unreadable count is zero. -/
def applyXtrim (walk : Walk) (keyspace : Keyspace F) : List Bytes → Keyspace F
  | key :: strategy :: first :: rest =>
    if upperText strategy = ascii "MAXLEN" then
      match if first = ascii "~" then rest else first :: rest with
      | [] => keyspace
      | text :: _ => onStream keyspace key fun stream =>
          .ok (stream.trimMaxlenLimit walk ((unsignedOfText u64Max text).getD 0) none)
    else keyspace
  | _ => keyspace

def applyXgroupCreate : List Bytes → Except Error (Keyspace F)
  | key :: name :: idText :: options =>
    let idSpec := if isUtf8 idText then idText else ascii "0"
    let last := match keyspace.get streams key with
      | some stream => stream.lastId
      | none => .zero
    let id := (groupStart idSpec last).getD .zero
    let create (keyspace : Keyspace F) := onStream keyspace key fun stream =>
      (stream.groupCreate name id none).map fun stream => (stream, ())
    match keyspace.get streams key with
    | some _ => .ok (create keyspace)
    | none =>
      if options.any fun word => decide (upper word = ascii "MKSTREAM") then
        (keyspace.getOrCreate streams setting.now key).map fun (keyspace, _) => create keyspace
      else .ok keyspace
  | _ => .ok keyspace

def applyXgroup : List Bytes → Except Error (Keyspace F)
  | sub :: key :: rest =>
    match XgroupSub.ofText sub with
    | some .create => applyXgroupCreate setting keyspace (key :: rest)
    | some .destroy =>
      match rest with
      | name :: _ => .ok (onStream keyspace key fun stream => .ok (stream.groupDestroy name))
      | [] => .ok keyspace
    | some .setid =>
      match rest with
      | name :: idSpec :: _ =>
        .ok (onStream keyspace key fun stream => stream.groupSetid name ((ofText idSpec).getD .zero) none)
      | _ => .ok keyspace
    | _ => .ok keyspace
  | _ => .ok keyspace

def applyXsetid : List Bytes → Keyspace F
  | key :: idSpec :: _ => onStream keyspace key fun stream =>
      (stream.xsetid ((ofText idSpec).getD .zero) none none).map fun stream => (stream, ())
  | _ => keyspace

structure ClaimWords where
  force : Bool
  timeMs : Option Nat
  retry : Option Nat
  ids : List StreamId

/-- A number that is cut off leaves its option as it was. -/
def claimWords (state : ClaimWords) : List Bytes → ClaimWords
  | [] => state
  | word :: rest =>
    match ClaimToken.ofText word with
    | some .force => claimWords { state with force := true } rest
    | some .justid => claimWords state rest
    | some .time =>
      match rest with
      | [] => state
      | text :: rest => claimWords { state with timeMs := unsignedOfText u64Max text } rest
    | some .retrycount =>
      match rest with
      | [] => state
      | text :: rest => claimWords { state with retry := unsignedOfText u64Max text } rest
    | some .idle =>
      match rest with
      | [] => state
      | _ :: rest => claimWords state rest
    | some .lastid | none => claimWords { state with ids := state.ids ++ (ofText word).toList } rest

def applyXclaim : List Bytes → Keyspace F
  | key :: group :: consumer :: _ :: first :: rest =>
    let words := claimWords ⟨false, none, none, []⟩ (first :: rest)
    if !words.force || words.ids.isEmpty then keyspace
    else onStream keyspace key fun stream =>
      stream.xclaimForce setting.now group consumer words.ids words.timeMs words.retry
  | _ => keyspace

def applyXack : List Bytes → Keyspace F
  | key :: group :: first :: rest =>
    onStream keyspace key fun stream => stream.xack group ((first :: rest).filterMap ofText)
  | _ => keyspace

structure ReadWords where
  group : Option (Bytes × Bytes)
  count : Option Nat

/-- Scans the words of a group read up to `STREAMS`, skipping what it does not know. -/
def readWords (state : ReadWords) : List Bytes → ReadWords × List Bytes
  | [] => (state, [])
  | word :: rest =>
    if upperText word = ascii "GROUP" then
      match rest with
      | group :: consumer :: rest => readWords { state with group := some (group, consumer) } rest
      | _ => (state, [])
    else match ReadToken.ofText word with
      | some .streams => (state, rest)
      | some .count =>
        match rest with
        | [] => (state, [])
        | text :: rest => readWords { state with count := unsignedOfText u64Max text } rest
      | some .block =>
        match rest with
        | [] => (state, [])
        | _ :: rest => readWords state rest
      | some .noack | none => readWords state rest

/-- Only a read of new entries is repeated. -/
def readAgain (group consumer : Bytes) (count : Option Nat) (keyspace : Keyspace F) (request : Bytes × Bytes) :
    Keyspace F :=
  if (if isUtf8 request.2 then request.2 else ascii ">") = ascii ">" then
    onStream keyspace request.1 fun stream => stream.xreadgroup setting.now group consumer (ascii ">") count
  else keyspace

def applyXreadgroup (args : List Bytes) : Keyspace F :=
  match readWords ⟨none, none⟩ args with
  | (⟨some (group, consumer), count⟩, words) =>
    if words.length < 2 ∨ words.length % 2 = 1 then keyspace
    else
      let half := words.length / 2
      ((words.take half).zip (words.drop half)).foldl (readAgain setting group consumer count) keyspace
  | (⟨none, _⟩, _) => keyspace

def arms : List WriteId :=
  [.set, .del, .persist, .expire, .pexpire, .expireat, .pexpireat, .incr, .incrby, .decr, .decrby, .zadd, .zrem, .geoadd,
    .hset, .hdel, .lpush, .rpush, .lpop, .rpop, .sadd, .srem, .xadd, .xdel, .xtrim, .xgroup, .xsetid, .xclaim, .xack,
    .xreadgroup, .flushdb, .flushall]

def searchArms : List WriteId := [.ftCreate, .ftDropindex, .ftAliasadd, .ftAliasdel, .ftAliasupdate]

def applyCommandToCache [Double F] (setting : Setting) (walk : Walk) (keyspace : Keyspace F) :
    List Bytes → Except Error (Keyspace F)
  | [] => .ok keyspace
  | name :: args =>
    match armOf arms name with
    | some .set => .ok (applySet setting keyspace args)
    | some .del => .ok (args.foldl (fun keyspace key => keyspace.delete key) keyspace)
    | some .persist =>
      match args with
      | key :: _ => .ok (keyspace.persist key).1
      | [] => .ok keyspace
    | some .expire => .ok (applyExpiry setting keyspace .expire args)
    | some .pexpire => .ok (applyExpiry setting keyspace .pexpire args)
    | some .expireat => .ok (applyExpiry setting keyspace .expireat args)
    | some .pexpireat => .ok (applyExpiry setting keyspace .pexpireat args)
    | some .incr =>
      match args with
      | key :: _ => .ok (applyIncr setting keyspace key 1)
      | [] => .ok keyspace
    | some .incrby =>
      match args with
      | key :: options => .ok (applyIncr setting keyspace key (delta options))
      | [] => .ok keyspace
    | some .decr =>
      match args with
      | key :: _ => .ok (applyDecr setting keyspace key 1)
      | [] => .ok keyspace
    | some .decrby =>
      match args with
      | key :: options => .ok (applyDecr setting keyspace key (delta options))
      | [] => .ok keyspace
    | some .zadd => applyZadd setting keyspace args
    | some .zrem => .ok (applyZrem keyspace args)
    | some .geoadd => applyGeoadd setting keyspace args
    | some .hset => applyHset setting keyspace args
    | some .hdel => .ok (applyHdel keyspace args)
    | some .lpush => applyPush lpush setting keyspace args
    | some .rpush => applyPush rpush setting keyspace args
    | some .lpop => .ok (applyPop leftEnd keyspace args)
    | some .rpop => .ok (applyPop rightEnd keyspace args)
    | some .sadd => applySadd setting keyspace args
    | some .srem => .ok (applySrem keyspace args)
    | some .xadd => applyXadd setting keyspace args
    | some .xdel => .ok (applyXdel keyspace args)
    | some .xtrim => .ok (applyXtrim walk keyspace args)
    | some .xgroup => applyXgroup setting keyspace args
    | some .xsetid => .ok (applyXsetid keyspace args)
    | some .xclaim => .ok (applyXclaim setting keyspace args)
    | some .xack => .ok (applyXack keyspace args)
    | some .xreadgroup => .ok (applyXreadgroup setting keyspace args)
    | some .flushdb => .ok .flush
    | some .flushall => .ok .flush
    | _ => .ok keyspace

end Aof
namespace Replica

/-! Arms of the replica. -/

/-- Only the options in milliseconds are understood, and a number that cannot be read is ignored. -/
def setOptions (opts : StoreOptions) : List Bytes → StoreOptions
  | [] => opts
  | token :: rest =>
    match SetToken.ofText token with
    | some (.time .pxat) =>
      match rest with
      | [] => opts
      | text :: rest => setOptions { opts with exatMs := (unsignedOfText u64Max text).or opts.exatMs } rest
    | some (.time .px) =>
      match rest with
      | [] => opts
      | text :: rest => setOptions { opts with ttlMs := (unsignedOfText u64Max text).or opts.ttlMs } rest
    | _ => setOptions opts rest

def applySet : List Bytes → Keyspace F
  | key :: value :: options => applyStore setting keyspace key value (setOptions .default options)
  | _ => keyspace

/-- Loads, appends and stores anew. -/
def applyAppend : List Bytes → Keyspace F
  | key :: suffix :: _ =>
    match keyspace.load setting.now key with
    | (loaded, some value) => applyStore setting loaded key (value ++ suffix) .default
    | (loaded, none) => applyStore setting loaded key suffix .default
  | _ => keyspace

def orUnchanged : Except Error (Keyspace F) → Keyspace F
  | .ok changed => changed
  | .error _ => keyspace

def arms : List WriteId :=
  [.flushall, .flushdb, .set, .del, .unlink, .persist, .expire, .pexpire, .expireat, .pexpireat, .incr, .incrby, .decr,
    .decrby, .append, .zadd, .zrem, .geoadd, .hset, .hdel, .lpush, .rpush, .lpop, .rpop, .sadd, .srem]

def applyArm [Double F] (setting : Setting) (keyspace : Keyspace F) (id : WriteId) (args : List Bytes) : Keyspace F :=
  match id with
  | .flushdb => .flush
  | .set => applySet setting keyspace args
  | .del | .unlink => args.foldl (fun keyspace key => keyspace.delete key) keyspace
  | .persist =>
    match args with
    | key :: _ => (keyspace.persist key).1
    | [] => keyspace
  | .expire => applyExpiry setting keyspace .expire args
  | .pexpire => applyExpiry setting keyspace .pexpire args
  | .expireat => applyExpiry setting keyspace .expireat args
  | .pexpireat => applyExpiry setting keyspace .pexpireat args
  | .incr =>
    match args with
    | key :: _ => applyIncr setting keyspace key 1
    | [] => keyspace
  | .incrby =>
    match args with
    | key :: step :: _ => applyIncr setting keyspace key ((i64OfText step).getD 1)
    | _ => keyspace
  | .decr =>
    match args with
    | key :: _ => applyDecr setting keyspace key 1
    | [] => keyspace
  | .decrby =>
    match args with
    | key :: step :: _ => applyDecr setting keyspace key ((i64OfText step).getD 1)
    | _ => keyspace
  | .append => applyAppend setting keyspace args
  | .zadd => orUnchanged keyspace (applyZadd setting keyspace args)
  | .zrem => applyZrem keyspace args
  | .geoadd => orUnchanged keyspace (applyGeoadd setting keyspace args)
  | .hset => orUnchanged keyspace (applyHset setting keyspace args)
  | .hdel => applyHdel keyspace args
  | .lpush => orUnchanged keyspace (applyPush lpush setting keyspace args)
  | .rpush => orUnchanged keyspace (applyPush rpush setting keyspace args)
  | .lpop => applyPop leftEnd keyspace args
  | .rpop => applyPop rightEnd keyspace args
  | .sadd => orUnchanged keyspace (applySadd setting keyspace args)
  | .srem => applySrem keyspace args
  | _ => keyspace

def applyCommand [Double F] (setting : Setting) (databases : List (Keyspace F)) (currentDb : Nat) :
    List Bytes → Option (List (Keyspace F))
  | [] => some databases
  | name :: args =>
    match armOf arms name with
    | some .flushall => some (databases.map fun _ => .flush)
    | some id => some (databases.modify currentDb fun keyspace => applyArm setting keyspace id args)
    | none => some databases

end Replica
end Kore.Persistence
