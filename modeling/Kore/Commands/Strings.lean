import Kore.Cache.Strings

/-! Handlers of the string, counter, expiry and flush commands. A handler answers with
the keyspace it leaves behind and either a reply or an error that the connection turns
into one. Arguments are the bulk strings of the request. -/

namespace Kore.Commands
open Foundation Protocol Cache

variable {F : Type}

abbrev Answer := Except Error RespValue

abbrev Handled (F : Type) := Keyspace F × Answer

def failure (text : String) : Answer := .ok (.error (ascii text))

def refusal (error : Error) : Answer := .ok (.error error.toRespString)

def flag (value : Bool) : Answer := .ok (.integer (if value then 1 else 0))

def parseInteger (text : Bytes) : Except Error Int :=
  match i64OfText text with
  | some value => .ok value
  | none => .error (.invalidArgument (ascii (if isUtf8 text then "invalid integer" else "invalid UTF-8")))

inductive SetFlag where
  | nx | xx | get | keepttl
  deriving DecidableEq

inductive SetTime where
  | ex | px | exat | pxat
  deriving DecidableEq

inductive SetToken where
  | flag (flag : SetFlag)
  | time (time : SetTime)
  deriving DecidableEq

def SetToken.table : List (Bytes × SetToken) :=
  [(ascii "NX", .flag .nx), (ascii "XX", .flag .xx), (ascii "GET", .flag .get), (ascii "KEEPTTL", .flag .keepttl),
    (ascii "EX", .time .ex), (ascii "PX", .time .px), (ascii "EXAT", .time .exat), (ascii "PXAT", .time .pxat)]

def SetToken.ofText (text : Bytes) : Option SetToken := SetToken.table.lookup (upper text)

variable (opts : StoreOptions)

def SetFlag.apply : SetFlag → StoreOptions
  | nx => { opts with nx := true }
  | xx => { opts with xx := true }
  | get => { opts with get := true }
  | keepttl => { opts with keepttl := true }

def SetTime.apply (value : Int) (opts : StoreOptions) : SetTime → StoreOptions
  | ex => { opts with ttlMs := some (asU64 (value * 1000)) }
  | px => { opts with ttlMs := some (asU64 value) }
  | exat => { opts with exatMs := some (asU64 (value * 1000)) }
  | pxat => { opts with exatMs := some (asU64 value) }

def setOptions (opts : StoreOptions) : List Bytes → Except Answer StoreOptions
  | [] => .ok opts
  | token :: rest =>
    match SetToken.ofText token with
    | none => .error (.ok (.error (ascii "ERR unknown option '" ++ token ++ ascii "'")))
    | some (.flag flag) => setOptions (flag.apply opts) rest
    | some (.time time) =>
      match rest with
      | [] => .error (failure "ERR syntax error")
      | argument :: rest =>
        match parseInteger argument with
        | .error error => .error (.error error)
        | .ok value => setOptions (time.apply value opts) rest

def setReply (old : Option Bytes) : RespValue :=
  if opts.get then .bulkString old
  else if opts.nx && old.isSome then RespValue.nil
  else RespValue.ok

variable (setting : Setting) (keyspace : Keyspace F)

def handleSet : List Bytes → Handled F
  | key :: value :: options =>
    match setOptions .default options with
    | .error answer => (keyspace, answer)
    | .ok opts =>
      match keyspace.store setting key value opts with
      | .ok (keyspace, old) => (keyspace, .ok (setReply opts old))
      | .error error => (keyspace, refusal error)
  | _ => (keyspace, failure "ERR wrong number of arguments for 'set'")

def handleGet : List Bytes → Handled F
  | [key] =>
    let purged := keyspace.purgeIfExpired setting.now key
    match purged.keyType setting.now key with
    | none | some .string =>
      let (loaded, value) := purged.load setting.now key
      (loaded, .ok (.bulkString value))
    | some _ => (purged, refusal .wrongType)
  | _ => (keyspace, failure "ERR wrong number of arguments for 'get'")

def deleteMany (keys : List Bytes) : Keyspace F × Nat :=
  keys.foldl (fun (keyspace, count) key =>
    (keyspace.delete key, if (keyspace.lookup key).isSome then count + 1 else count)) (keyspace, 0)

variable (args : List Bytes)

def handleDel : Handled F :=
  if args = [] then (keyspace, failure "ERR wrong number of arguments for 'del'")
  else
    let (keyspace, count) := deleteMany keyspace args
    (keyspace, .ok (.integer count))

def handleUnlink : Handled F :=
  if args = [] then (keyspace, failure "ERR wrong number of arguments for 'unlink' command")
  else handleDel keyspace args

def handleAppend : List Bytes → Handled F
  | [key, suffix] =>
    match keyspace.append setting key suffix with
    | .ok (keyspace, length) => (keyspace, .ok (.integer length))
    | .error error => (keyspace.purgeIfExpired setting.now key, refusal error)
  | _ => (keyspace, failure "ERR wrong number of arguments for 'append' command")

/-- The common part of the counter commands, once the step is known. -/
def count (key : Bytes) (step : Except Error Int)
    (change : Keyspace F → Int → Except Error (Keyspace F × Int)) : Handled F :=
  match keyspace.ensureStringOrAbsent setting.now key with
  | .error error => (keyspace, refusal error)
  | .ok purged =>
    match step with
    | .error error => (purged, .error error)
    | .ok step =>
      match change purged step with
      | .ok (keyspace, value) => (keyspace, .ok (.integer value))
      | .error error => (purged, refusal error)

def handleIncr : List Bytes → Handled F
  | [key] => count setting keyspace key (.ok 1) fun keyspace step => keyspace.incr setting.now key step
  | _ => (keyspace, failure "ERR wrong number of arguments for 'incr'")

def handleDecr : List Bytes → Handled F
  | [key] => count setting keyspace key (.ok 1) fun keyspace step => keyspace.decr setting.now key step
  | _ => (keyspace, failure "ERR wrong number of arguments for 'decr'")

def handleIncrby : List Bytes → Handled F
  | [key, step] => count setting keyspace key (parseInteger step) fun keyspace step => keyspace.incr setting.now key step
  | _ => (keyspace, failure "ERR wrong number of arguments for 'incrby'")

def handleDecrby : List Bytes → Handled F
  | [key, step] => count setting keyspace key (parseInteger step) fun keyspace step => keyspace.decr setting.now key step
  | _ => (keyspace, failure "ERR wrong number of arguments for 'decrby'")

inductive ExpireCond where
  | none | nx | xx | gt | lt
  deriving DecidableEq

def ExpireCond.table : List (Bytes × ExpireCond) :=
  [(ascii "NX", .nx), (ascii "XX", .xx), (ascii "GT", .gt), (ascii "LT", .lt)]

def parseExpireCond : List Bytes → Except String ExpireCond
  | [] => .ok .none
  | [token] =>
    match ExpireCond.table.lookup (upper token) with
    | some cond => .ok cond
    | none => .error "ERR Unsupported option provided to EXPIRE/PEXPIRE/EXPIREAT/PEXPIREAT"
  | _ => .error "ERR syntax error"

def expireCondAllows (cond : ExpireCond) (currentTtlMs newTtlMs : Int) : Bool :=
  match cond with
  | .none => true
  | .nx => currentTtlMs < 0
  | .xx => 0 ≤ currentTtlMs
  | .gt => 0 ≤ currentTtlMs && currentTtlMs < newTtlMs
  | .lt => 0 ≤ currentTtlMs && newTtlMs < currentTtlMs

def satMulU64 (value factor : Nat) : Nat := min (value * factor) u64Max

def satMulI64 (value factor : Int) : Int := max (-(2 ^ 63)) (min (value * factor) i64Max)

/-- The common part of the expiry commands: `remaining` is the time to live that the number
asks for, `change` the operation that sets it. -/
def setExpiry (name : String) (remaining : Int → Int) (change : Bytes → Int → Keyspace F → Keyspace F × Bool)
    (keyspace : Keyspace F) : List Bytes → Handled F
  | key :: number :: options =>
    match i64OfText number with
    | none => (keyspace, failure "ERR value is not an integer or out of range")
    | some value =>
      if value < 0 then (keyspace, .ok (.error (ascii "ERR invalid expire time in '" ++ ascii name ++ ascii "' command")))
      else match parseExpireCond options with
        | .error text => (keyspace, failure text)
        | .ok cond =>
          let purged := keyspace.purgeIfExpired setting.now key
          let current := keyspace.ttl setting.now key
          if current = -2 then (purged, flag false)
          else if !expireCondAllows cond current (remaining value) then (purged, flag false)
          else
            let (changed, set) := change key value purged
            (changed, flag set)
  | _ => (keyspace, .ok (.error (ascii "ERR wrong number of arguments for '" ++ ascii name ++ ascii "' command")))

def relativeTtl (factor : Nat) (value : Int) : Int := wrapI64 (satMulU64 (asU64 value) factor)

def absoluteTtl (factor value : Int) : Int := max (satMulI64 value factor - setting.now) 0

def expireRelative (factor : Nat) (name : String) : Keyspace F → List Bytes → Handled F :=
  setExpiry setting name (relativeTtl factor) fun key value => Keyspace.expire setting.now key (satMulU64 (asU64 value) factor)

def expireAbsolute (factor : Int) (name : String) : Keyspace F → List Bytes → Handled F :=
  setExpiry setting name (absoluteTtl setting factor) fun key value =>
    Keyspace.expireAtUnixMs setting.now key (satMulI64 value factor)

def handleExpire : Keyspace F → List Bytes → Handled F := expireRelative setting 1000 "expire"

def handlePexpire : Keyspace F → List Bytes → Handled F := expireRelative setting 1 "pexpire"

def handleExpireat : Keyspace F → List Bytes → Handled F := expireAbsolute setting 1000 "expireat"

def handlePexpireat : Keyspace F → List Bytes → Handled F := expireAbsolute setting 1 "pexpireat"

def handlePersist : List Bytes → Handled F
  | [key] =>
    let (keyspace, removed) := keyspace.persist key
    (keyspace, flag removed)
  | _ => (keyspace, failure "ERR wrong number of arguments for 'persist'")

def parseFlushMode : List Bytes → Except String Unit
  | [] => .ok ()
  | [mode] =>
    if upper mode = ascii "ASYNC" ∨ upper mode = ascii "SYNC" then .ok ()
    else .error "ERR syntax error, try FLUSH[ASYNC|SYNC]"
  | _ => .error "ERR wrong number of arguments for flush command"

/-- `FLUSHDB` and `FLUSHALL` treat the selected database alike. -/
def handleFlush : Handled F :=
  match parseFlushMode args with
  | .error text => (keyspace, failure text)
  | .ok () => (.flush, .ok RespValue.ok)

end Kore.Commands
