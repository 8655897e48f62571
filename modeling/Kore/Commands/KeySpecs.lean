import Kore.Commands.World

/-! Where the gates find the keys of a request: a table of positions, and two commands whose
keys they look for themselves. -/

namespace Kore.Commands
open Foundation Protocol RespValue

/-- Positions of keys, counted from one; a negative last position counts from the end. -/
structure KeySpec where
  firstKey : Int
  lastKey : Int
  step : Int
  deriving DecidableEq

/-- The entries of the command table that have key positions. -/
def commandSpecs : List (KeySpec × List String) :=
  [(⟨1, 1, 1⟩, ["sort", "set", "get", "type", "append", "strlen", "dump", "restore", "getrange", "substr", "setrange", "setex", "psetex", "getset",
      "incrbyfloat", "move", "setnx", "getdel", "getex", "incr", "decr", "incrby", "decrby", "expire", "pexpire", "expireat",
      "pexpireat", "persist", "ttl", "pttl", "expiretime", "pexpiretime", "hset", "hsetnx", "hget", "hmget", "hdel", "hgetdel",
      "hgetall", "hlen", "hexists", "hkeys", "hvals", "hincrby", "hincrbyfloat", "hstrlen", "hmset", "hrandfield", "hscan", "lpush",
      "rpush", "lpushx", "rpushx", "lpop", "rpop", "lrange", "llen", "lindex", "lset", "lrem", "ltrim", "linsert", "lpos", "sadd",
      "srem", "smembers", "sismember", "smismember", "scard", "spop", "srandmember", "sscan", "xadd", "xlen", "xrange", "xrevrange",
      "xdel", "xtrim", "xread", "xreadgroup", "xack", "xpending", "xclaim", "xautoclaim", "xsetid", "zadd", "zrange", "zrevrange",
      "zcard", "zscore", "zmscore", "zrem", "zrank", "zrevrank", "zincrby", "zrangebyscore", "zrevrangebyscore", "zcount",
      "zremrangebyrank", "zremrangebyscore", "zrangebylex", "zrevrangebylex", "zlexcount", "zremrangebylex", "zrandmember", "zscan",
      "zunionstore", "zinterstore", "zdiffstore", "zpopmin", "zpopmax", "geoadd", "geosearch", "geodist", "geopos", "geohash",
      "georadius", "georadius_ro", "georadiusbymember", "georadiusbymember_ro", "setbit", "getbit", "bitcount", "bitpos",
      "bitfield", "bitfield_ro", "pfadd"]),
    (⟨1, -1, 1⟩, ["del", "exists", "mget", "unlink", "touch", "watch", "sinter", "sunion", "sdiff", "sinterstore", "sunionstore", "sdiffstore",
      "pfcount", "pfmerge"]),
    (⟨1, -1, 2⟩, ["mset", "msetnx"]),
    (⟨1, 2, 1⟩, ["lcs", "rename", "renamenx", "copy", "lmove", "blmove", "rpoplpush", "brpoplpush", "smove", "zrangestore", "geosearchstore"]),
    (⟨3, 3, 1⟩, ["migrate"]),
    (⟨2, 2, 1⟩, ["object", "xgroup", "xinfo"]),
    (⟨1, -2, 1⟩, ["blpop", "brpop", "bzpopmin", "bzpopmax"]),
    (⟨2, -1, 1⟩, ["bitop"])]

def commandKeySpec (name : Bytes) : Option KeySpec :=
  (commandSpecs.find? fun entry => entry.2.any fun known => ascii known == name).map Prod.fst

def keysUpTo (args : List RespValue) (step last : Nat) : Nat → Nat → List Bytes
  | 0, _ => []
  | fuel + 1, position =>
    if last < position then []
    else (args[position]?.bind asBulkString).toList ++ keysUpTo args step last fuel (position + step)

def KeySpec.lastPosition (spec : KeySpec) (length : Nat) : Option Nat :=
  if 0 ≤ spec.lastKey then some (min (spec.lastKey.toNat - 1) (length - 1))
  else if length < (-spec.lastKey).toNat then none
  else some (length - (-spec.lastKey).toNat)

variable (args : List RespValue)

def extractCommandKeyBytes (spec : KeySpec) : List Bytes :=
  if spec.firstKey ≤ 0 ∨ args = [] then []
  else
    let first := spec.firstKey.toNat - 1
    if args.length ≤ first then []
    else match spec.lastPosition args.length with
      | none => []
      | some last => keysUpTo args (if spec.step ≤ 0 then 1 else spec.step.toNat) last args.length first

/-- A count of keys, given as an integer or as text; `least` is the smallest one allowed. -/
def keyCount (least : Int) (value : RespValue) : Option Nat :=
  (value.asInteger <|> value.asBulkString.bind i64OfText).bind fun count => if least ≤ count then some count.toNat else none

def extractEvalKeyBytes : List RespValue → List Bytes
  | _ :: number :: rest =>
    match keyCount 0 number with
    | some count => if rest.length < count then [] else (rest.take count).filterMap asBulkString
    | none => []
  | _ => []

/-- Looks for the option `KEYS` of `MIGRATE` and takes all that follows it. -/
def migrateKeysOption : Nat → List RespValue → Option (List Bytes)
  | 0, _ => none
  | _, [] => none
  | fuel + 1, word :: rest =>
    match word.asBulkString with
    | none => migrateKeysOption fuel rest
    | some option =>
      if upper option = ascii "KEYS" then some ((rest.filterMap asBulkString).filter (· ≠ []))
      else if upper option = ascii "AUTH" then migrateKeysOption fuel (rest.drop 1)
      else if upper option = ascii "AUTH2" then migrateKeysOption fuel (rest.drop 2)
      else migrateKeysOption fuel rest

def extractMigrateKeyBytes : List Bytes :=
  (migrateKeysOption args.length (args.drop 5)).getD ((firstKey (args.drop 2)).filter (· ≠ []))

def evalNames : List Bytes := [ascii "EVAL", ascii "EVALSHA", ascii "EVAL_RO", ascii "EVALSHA_RO"]

def requestKeys (name : Bytes) (args : List RespValue) : List Bytes :=
  if name ∈ evalNames then extractEvalKeyBytes args
  else if name = ascii "MIGRATE" then extractMigrateKeyBytes args
  else match commandKeySpec (lower name) with
    | some spec => extractCommandKeyBytes args spec
    | none => []

end Kore.Commands
