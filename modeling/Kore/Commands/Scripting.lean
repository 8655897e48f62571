import Kore.Commands.Acl
import Kore.Commands.KeyAccess

/-! The gate between a script and the commands it calls. A script may compute any calls it
likes, so a run of it is seen here as the list of the calls it makes. -/

namespace Kore.Commands
open Foundation Protocol

/-- A Lua value as an argument of `redis.call`; a float comes as the text it is printed as. -/
inductive LuaValue where
  | nil
  | boolean (value : Bool)
  | integer (value : Int)
  | number (text : Bytes)
  | string (bytes : Bytes)
  | other
  deriving DecidableEq

inductive CallRefusal where
  | noArguments
  | commandNotString
  | commandNotText
  | notAllowed (name : Bytes)
  | writeInReadonlyScript
  | nilArgument
  | argumentType
  deriving DecidableEq

def scriptCallAllowlist : List String :=
  ["PING", "ECHO",
    "GET", "SET", "DEL", "EXISTS", "TYPE", "MGET", "MSET", "MSETNX", "APPEND", "STRLEN", "LCS",
    "GETRANGE", "SUBSTR", "SETRANGE", "SETEX", "PSETEX", "DUMP", "RESTORE",
    "GETSET", "UNLINK", "RENAME", "RENAMENX", "SETNX", "GETDEL", "GETEX", "COPY", "MOVE",
    "INCR", "DECR", "INCRBY", "DECRBY", "INCRBYFLOAT",
    "TIME",
    "EXPIRE", "PEXPIRE", "EXPIREAT", "PEXPIREAT", "PERSIST", "TTL", "PTTL", "EXPIRETIME", "PEXPIRETIME",
    "HSET", "HSETNX", "HMSET", "HGET", "HMGET", "HDEL", "HGETDEL", "HGETALL", "HLEN", "HEXISTS", "HKEYS", "HVALS",
    "HINCRBY", "HINCRBYFLOAT", "HSTRLEN", "HRANDFIELD", "HSCAN",
    "OBJECT", "MEMORY",
    "LPUSH", "RPUSH", "LPUSHX", "RPUSHX", "LPOP", "RPOP", "LRANGE", "LLEN", "LINDEX", "LSET", "LREM", "LTRIM", "LINSERT",
    "LPOS", "LMOVE", "RPOPLPUSH", "LMPOP", "SORT",
    "LOLWUT",
    "SADD", "SREM", "SMEMBERS", "SISMEMBER", "SMISMEMBER", "SCARD", "SINTER", "SINTERCARD", "SUNION", "SDIFF",
    "SINTERSTORE", "SUNIONSTORE", "SDIFFSTORE", "SMOVE", "SPOP", "SRANDMEMBER", "SSCAN",
    "ZADD", "ZRANGE", "ZRANGESTORE", "ZREVRANGE", "ZCARD", "ZSCORE", "ZMSCORE", "ZREM", "ZRANK", "ZREVRANK",
    "ZINCRBY", "ZRANGEBYSCORE", "ZREVRANGEBYSCORE", "ZCOUNT", "ZREMRANGEBYRANK", "ZREMRANGEBYSCORE", "ZSCAN",
    "ZRANGEBYLEX", "ZREVRANGEBYLEX", "ZLEXCOUNT", "ZREMRANGEBYLEX", "ZRANDMEMBER",
    "ZUNION", "ZINTER", "ZDIFF", "ZINTERCARD", "ZUNIONSTORE", "ZINTERSTORE", "ZDIFFSTORE",
    "ZPOPMIN", "ZPOPMAX", "ZMPOP",
    "SETBIT", "GETBIT", "BITCOUNT", "BITPOS", "BITOP", "BITFIELD", "BITFIELD_RO",
    "PFADD", "PFCOUNT", "PFMERGE",
    "DBSIZE", "KEYS", "SWAPDB", "SELECT", "FLUSHDB",
    "GEOADD", "GEODIST", "GEOPOS", "GEOHASH", "GEOSEARCH", "GEOSEARCHSTORE",
    "GEORADIUS", "GEORADIUSBYMEMBER", "GEORADIUS_RO", "GEORADIUSBYMEMBER_RO",
    "XADD", "XLEN", "XRANGE", "XREVRANGE", "XDEL", "XTRIM", "XACK",
    "TOUCH", "RANDOMKEY", "SCAN"]

def isWriteCommand (name : Bytes) : Bool := (WriteId.ofName name).isSome

def luaArgToBulk : LuaValue → Except CallRefusal Bytes
  | .string bytes => .ok bytes
  | .integer value => .ok (integerText value)
  | .number text => .ok text
  | .boolean true => .ok (ascii "1")
  | .boolean false => .ok (ascii "0")
  | .nil => .error .nilArgument
  | .other => .error .argumentType

/-- The checks of `redis.call` and `redis.pcall`, and the command that they let through to
`script_dispatch_sync`. -/
def acceptCall (readonly : Bool) : List LuaValue → Except CallRefusal (Bytes × List RespValue)
  | [] => .error .noArguments
  | .string command :: args =>
    if !isUtf8 command then .error .commandNotText
    else if !scriptCallAllowlist.any (fun allowed => ascii allowed == upper command) then .error (.notAllowed (upper command))
    else if readonly && isWriteCommand (upper command) then .error .writeInReadonlyScript
    else (args.mapM luaArgToBulk).map fun words => (upper command, words.map fun word => .bulkString (some word))
  | _ :: _ => .error .commandNotString

def argvWord (value : RespValue) : Option Bytes := value.asBulkString <|> value.asInteger.map integerText

/-- `KEYS` and `ARGV` of a script, if its arguments are accepted. -/
def scriptArguments : List RespValue → Option (List Bytes × List Bytes)
  | script :: numkeys :: rest => do
    let _ ← script.asBulkString
    let count ← integerOf numkeys
    if count < 0 ∨ rest.length < count.toNat then none
    else
      let keys ← (rest.take count.toNat).mapM RespValue.asBulkString
      let argv ← (rest.drop count.toNat).mapM argvWord
      some (keys.map lossy, argv.map lossy)
  | _ => none

end Kore.Commands
