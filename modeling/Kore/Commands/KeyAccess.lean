import Kore.Commands.KeySpecs

/-! The keys that the handlers themselves take from a request. Most read them at fixed
positions; the others parse counts, options or lists of streams first, and take no key from
a request that they refuse. -/

namespace Kore.Commands
open Foundation Protocol Cache RespValue Double

def integerOf (value : RespValue) : Option Int := value.asInteger <|> value.asBulkString.bind i64OfText

def isWord (word : String) (value : RespValue) : Bool := value.asBulkString.any fun text => upper text == ascii word

/-- Some handlers turn the text to upper case, not its bytes alone. -/
def isText (word : String) (value : RespValue) : Bool := value.asBulkString.any fun text => upperText text == ascii word

def countedKeys (least : Int) : List RespValue → Option (List Bytes × List RespValue)
  | [] => none
  | number :: rest =>
    match keyCount least number with
    | none => none
    | some count =>
      if rest.length < count then none
      else ((rest.take count).mapM asBulkString).map fun keys => (keys, rest.drop count)

/-- Options that are one word and an integer of at least `least`. -/
def numberOptions (word : String) (least : Int) : List RespValue → Bool
  | [] => true
  | option :: number :: rest => isWord word option && (integerOf number).any (least ≤ ·) && numberOptions word least rest
  | _ => false

/-- `numkeys key … side [COUNT count]`. -/
def mpopKeys (sides : List String) (args : List RespValue) : List Bytes :=
  match countedKeys 1 args with
  | some (keys, side :: options) => if sides.any (isWord · side) && numberOptions "COUNT" 1 options then keys else []
  | _ => []

/-- `numkeys key … [LIMIT limit]`. -/
def intercardKeys (args : List RespValue) : List Bytes :=
  match countedKeys 1 args with
  | some (keys, options) => if numberOptions "LIMIT" 0 options then keys else []
  | none => []

def scriptKeys (args : List RespValue) : List Bytes := ((countedKeys 0 args.tail).map Prod.fst).getD []

section Floats
variable (F : Type) [Double F]

def isTimeout (value : RespValue) : Bool :=
  match value.asInteger with
  | some seconds => 0 ≤ seconds
  | none => (value.asBulkString.bind (parse : Bytes → Option F)).any fun seconds =>
      !less seconds zero && !isNan seconds

def isWeight (value : RespValue) : Bool :=
  (value.asBulkString.bind fun text => (parse (lossy text) : Option F)).any fun weight => !isNan weight

/-- The options behind the keys of the sorted set operations. -/
def zsetOpOptions (numkeys : Nat) (weighted scored : Bool) : Nat → List RespValue → Bool
  | _, [] => true
  | 0, _ :: _ => false
  | fuel + 1, word :: rest =>
    if isWord "WEIGHTS" word then
      weighted && numkeys ≤ rest.length && (rest.take numkeys).all (isWeight F) &&
        zsetOpOptions numkeys weighted scored fuel (rest.drop numkeys)
    else if isWord "AGGREGATE" word then
      weighted && rest.head?.any (fun kind => ["SUM", "MIN", "MAX"].any (isWord · kind)) &&
        zsetOpOptions numkeys weighted scored fuel rest.tail
    else isWord "WITHSCORES" word && scored && zsetOpOptions numkeys weighted scored fuel rest

def zsetSources (weighted scored : Bool) (args : List RespValue) : List Bytes :=
  match countedKeys 1 args with
  | some (keys, options) => if zsetOpOptions F keys.length weighted scored options.length options then keys else []
  | none => []

def zsetStoreKeys (weighted : Bool) : List RespValue → List Bytes
  | [] => []
  | dest :: args =>
    match dest.asBulkString, zsetSources F weighted false args with
    | some dest, source :: sources => dest :: source :: sources
    | _, _ => []

/-- `timeout` followed by the words of the command that does not block. -/
def blockingKeys (keys : List RespValue → List Bytes) : List RespValue → List Bytes
  | [] => []
  | timeout :: args => if isTimeout F timeout then keys args else []

end Floats

/-- The destination of `SORT`; no answer if the options are refused. -/
def sortStore (dest : Option Bytes) : List RespValue → Option (Option Bytes)
  | [] => some dest
  | word :: rest =>
    if isWord "ALPHA" word || isWord "ASC" word || isWord "DESC" word then sortStore dest rest
    else if isWord "BY" word then
      match rest with
      | pattern :: rest => if pattern.asBulkString.any (lower · == ascii "nosort") then sortStore dest rest else none
      | [] => none
    else if isWord "LIMIT" word then
      match rest with
      | offset :: count :: rest =>
        if (integerOf offset).any (0 ≤ ·) && (integerOf count).isSome then sortStore dest rest else none
      | _ => none
    else if isWord "STORE" word then
      match rest with
      | key :: rest =>
        match key.asBulkString with
        | some key => sortStore (some key) rest
        | none => none
      | [] => none
    else none

def handleSortKeys : List RespValue → List Bytes
  | [] => []
  | source :: options =>
    match source.asBulkString, sortStore none options with
    | some source, some dest => source :: dest.toList
    | _, _ => []

def streamWords (noack : Bool) : List RespValue → List RespValue
  | [] => []
  | word :: rest =>
    if isText "STREAMS" word then rest
    else if noack && isText "NOACK" word then streamWords noack rest
    else if isText "COUNT" word || isText "BLOCK" word then
      match rest with
      | number :: rest => if (number.asBulkString.bind nonNegative).isSome then streamWords noack rest else []
      | [] => []
    else []

/-- The keys of a list of streams with the words in the place of their ids. -/
def streamPairs (words : List RespValue) : List (RespValue × RespValue) :=
  if words.length < 2 ∨ words.length % 2 = 1 then []
  else (words.take (words.length / 2)).zip (words.drop (words.length / 2))

def isStreamPosition (id : Bytes) : Bool :=
  lossy id == ascii "$" || (StreamId.parseExplicit (lossy id) <|> StreamId.parse (lossy id)).isSome

/-- `XREAD` looks a key up before it reads the id that belongs to it. -/
def resolvedKeys : List (RespValue × RespValue) → List Bytes
  | [] => []
  | (key, id) :: rest =>
    match key.asBulkString, id.asBulkString with
    | some key, some id => key :: if isStreamPosition id then resolvedKeys rest else []
    | _, _ => []

def xreadKeys (args : List RespValue) : List Bytes := resolvedKeys (streamPairs (streamWords false args))

def streamKey (pair : RespValue × RespValue) : Option Bytes := pair.2.asBulkString.bind fun _ => pair.1.asBulkString

def xreadgroupKeys : List RespValue → List Bytes
  | word :: group :: consumer :: options =>
    if options.length < 3 || !isText "GROUP" word || group.asBulkString.isNone || consumer.asBulkString.isNone then []
    else ((streamPairs (streamWords true options)).mapM streamKey).getD []
  | _ => []

/-- `dest source …`, where the word `STOREDIST` is taken out wherever it stands. -/
def geosearchstoreKeys (args : List RespValue) : List Bytes :=
  if args.length < 6 then []
  else match args with
    | [] => []
    | dest :: rest =>
      match dest.asBulkString with
      | none => []
      | some dest =>
        if rest.any (isWord "STOREDIST") then
          let search := rest.filter fun word => !isWord "STOREDIST" word
          dest :: if search.length + 1 < 5 then [] else firstKey search
        else match firstKey rest with
          | [] => []
          | source => source ++ [dest]

structure GeoradiusOptions where
  storeKey : Option RespValue
  storedistKey : Option RespValue
  search : List RespValue

def georadiusOptions (opts : GeoradiusOptions) : List RespValue → Option GeoradiusOptions
  | [] => some opts
  | word :: rest =>
    if isWord "STORE" word then
      match rest with
      | key :: rest => if key.asBulkString.isSome then georadiusOptions { opts with storeKey := some key } rest else none
      | [] => none
    else if isWord "STOREDIST" word then
      match rest with
      | key :: rest => if key.asBulkString.isSome then georadiusOptions { opts with storedistKey := some key } rest else none
      | [] => none
    else georadiusOptions { opts with search := opts.search ++ [word] } rest

def bulkWord (text : String) : RespValue := .bulkString (some (ascii text))

/-- The words of the search that the radius commands stand for. -/
def georadiusSearch (fromLonLat : Bool) (args search : List RespValue) : List RespValue :=
  let centre := if fromLonLat then 2 else 1
  args.take 1 ++ [bulkWord (if fromLonLat then "FROMLONLAT" else "FROMMEMBER")] ++ (args.drop 1).take centre ++ [bulkWord "BYRADIUS"] ++
    (args.drop (1 + centre)).take 2 ++ search

def georadiusKeys (fromLonLat : Bool) (args : List RespValue) : List Bytes :=
  let width := if fromLonLat then 5 else 4
  if args.length < width then []
  else match georadiusOptions ⟨none, none, []⟩ (args.drop width) with
    | none => []
    | some opts =>
      let search := georadiusSearch fromLonLat args opts.search
      match opts.storedistKey, opts.storeKey with
      | some dest, _ => geosearchstoreKeys (dest :: search ++ [bulkWord "STOREDIST"])
      | none, some dest => geosearchstoreKeys (dest :: search)
      | none, none => firstKey search

/-- The keys given by the option `KEYS`; no answer if the options are refused. -/
def migrateOptions : List RespValue → Option (Option (List Bytes))
  | [] => some none
  | word :: rest =>
    if isWord "COPY" word || isWord "REPLACE" word then migrateOptions rest
    else if isWord "AUTH" word then
      match rest with
      | password :: rest => if password.asBulkString.isSome then migrateOptions rest else none
      | [] => none
    else if isWord "AUTH2" word then
      match rest with
      | user :: password :: rest =>
        if user.asBulkString.isSome && password.asBulkString.isSome then migrateOptions rest else none
      | _ => none
    else if isWord "KEYS" word then
      if rest = [] then none else (rest.mapM asBulkString).map some
    else none

def migrateKeys : List RespValue → List Bytes
  | host :: port :: key :: db :: timeout :: options =>
    if host.asBulkString.isSome && (integerOf port).any (fun port => 0 < port && port ≤ 65535) &&
        (integerOf db).any (0 ≤ ·) && (integerOf timeout).any (0 ≤ ·) then
      match key.asBulkString, migrateOptions options with
      | some _, some (some keys) => keys
      | some key, some none => if key = [] then [] else [key]
      | _, _ => []
    else []
  | _ => []

def memoryKeys : List RespValue → List Bytes
  | sub :: key :: options =>
    if isWord "USAGE" sub && options.length % 2 = 0 && samples options then key.asBulkString.toList else []
  | _ => []
where
  samples : List RespValue → Bool
    | option :: number :: rest => isWord "SAMPLES" option && (integerOf number).isSome && samples rest
    | _ => true

def debugKeys : List RespValue → List Bytes
  | [sub, key] => if isWord "OBJECT" sub then key.asBulkString.toList else []
  | _ => []

/-- How a handler finds its keys. -/
inductive Layout where
  | keyless | single | pair | every | alternate | butLast | second | rest
  | lmpop | zmpop | blmpop | bzmpop | intercard | zset (weighted : Bool) | zsetStore (weighted : Bool)
  | sort | xread | xreadgroup | geosearchstore | georadius (fromLonLat : Bool) | migrate | memory | debug
  | script | indirect
  deriving DecidableEq

def layouts : List (Layout × List String) :=
  [(.single, ["SET", "GET", "TYPE", "APPEND", "STRLEN", "DUMP", "RESTORE", "GETRANGE", "SUBSTR", "SETRANGE", "SETEX", "PSETEX",
      "GETSET", "INCRBYFLOAT", "MOVE", "SETNX", "GETDEL", "GETEX", "INCR", "DECR", "INCRBY", "DECRBY", "EXPIRE", "PEXPIRE",
      "EXPIREAT", "PEXPIREAT", "PERSIST", "TTL", "PTTL", "EXPIRETIME", "PEXPIRETIME", "HSET", "HSETNX", "HGET", "HMGET", "HDEL",
      "HGETDEL", "HGETALL", "HLEN", "HEXISTS", "HKEYS", "HVALS", "HINCRBY", "HINCRBYFLOAT", "HSTRLEN", "HMSET", "HRANDFIELD",
      "HSCAN", "LPUSH", "RPUSH", "LPUSHX", "RPUSHX", "LPOP", "RPOP", "LRANGE", "LLEN", "LINDEX", "LSET", "LREM", "LTRIM",
      "LINSERT", "LPOS", "SADD", "SREM", "SMEMBERS", "SISMEMBER", "SMISMEMBER", "SCARD", "SPOP", "SRANDMEMBER", "SSCAN", "XADD",
      "XLEN", "XRANGE", "XREVRANGE", "XDEL", "XTRIM", "XACK", "XPENDING", "XCLAIM", "XAUTOCLAIM", "XSETID", "ZADD", "ZRANGE",
      "ZREVRANGE", "ZCARD", "ZSCORE", "ZMSCORE", "ZREM", "ZRANK", "ZREVRANK", "ZINCRBY", "ZRANGEBYSCORE", "ZREVRANGEBYSCORE",
      "ZCOUNT", "ZREMRANGEBYRANK", "ZREMRANGEBYSCORE", "ZRANGEBYLEX", "ZREVRANGEBYLEX", "ZLEXCOUNT", "ZREMRANGEBYLEX",
      "ZRANDMEMBER", "ZSCAN", "ZPOPMIN", "ZPOPMAX", "GEOADD", "GEOSEARCH", "GEODIST", "GEOPOS", "GEOHASH", "GEORADIUS_RO",
      "GEORADIUSBYMEMBER_RO", "SETBIT", "GETBIT", "BITCOUNT", "BITPOS", "BITFIELD", "BITFIELD_RO", "PFADD"]),
    (.pair, ["LCS", "RENAME", "RENAMENX", "COPY", "LMOVE", "BLMOVE", "RPOPLPUSH", "BRPOPLPUSH", "SMOVE", "ZRANGESTORE"]),
    (.every, ["DEL", "EXISTS", "MGET", "UNLINK", "TOUCH", "WATCH", "SINTER", "SUNION", "SDIFF", "SINTERSTORE", "SUNIONSTORE",
      "SDIFFSTORE", "PFCOUNT", "PFMERGE"]),
    (.alternate, ["MSET", "MSETNX"]),
    (.butLast, ["BLPOP", "BRPOP", "BZPOPMIN", "BZPOPMAX"]),
    (.second, ["OBJECT", "XGROUP", "XINFO"]),
    (.rest, ["BITOP"]),
    (.lmpop, ["LMPOP"]), (.blmpop, ["BLMPOP"]), (.zmpop, ["ZMPOP"]), (.bzmpop, ["BZMPOP"]),
    (.intercard, ["SINTERCARD", "ZINTERCARD"]),
    (.zset true, ["ZUNION", "ZINTER"]), (.zset false, ["ZDIFF"]),
    (.zsetStore true, ["ZUNIONSTORE", "ZINTERSTORE"]), (.zsetStore false, ["ZDIFFSTORE"]),
    (.sort, ["SORT"]), (.xread, ["XREAD"]), (.xreadgroup, ["XREADGROUP"]), (.geosearchstore, ["GEOSEARCHSTORE"]),
    (.georadius true, ["GEORADIUS"]), (.georadius false, ["GEORADIUSBYMEMBER"]), (.migrate, ["MIGRATE"]),
    (.memory, ["MEMORY"]), (.debug, ["DEBUG"]),
    (.script, ["EVAL", "EVALSHA", "EVAL_RO", "EVALSHA_RO", "FCALL", "FCALL_RO"]),
    (.indirect, ["KEYS", "SCAN", "RANDOMKEY", "DBSIZE", "FLUSHDB", "FLUSHALL", "SWAPDB", "SWEEP", "SAVE", "BGSAVE",
      "BGREWRITEAOF", "SHUTDOWN", "SYNC", "PSYNC", "REPLICAOF", "SLAVEOF", "INFO", "CLUSTER", "FT.CREATE", "FT.DROPINDEX",
      "FT.SEARCH", "FT.TAGVALS", "FT.INFO"])]

def layoutOf (name : Bytes) : Layout :=
  ((layouts.find? fun entry => entry.2.any fun known => ascii known == name).map Prod.fst).getD .keyless

variable (F : Type) [Double F]

def Layout.keys (args : List RespValue) : Layout → List Bytes
  | keyless | indirect => []
  | single => firstKey args
  | pair => firstTwoKeys args
  | every => args.filterMap asBulkString
  | alternate => (everyOther args).filterMap asBulkString
  | butLast => args.dropLast.filterMap asBulkString
  | second => secondKey args
  | rest => args.tail.filterMap asBulkString
  | lmpop => mpopKeys ["LEFT", "RIGHT"] args
  | zmpop => mpopKeys ["MIN", "MAX"] args
  | blmpop => blockingKeys F (mpopKeys ["LEFT", "RIGHT"]) args
  | bzmpop => blockingKeys F (mpopKeys ["MIN", "MAX"]) args
  | intercard => intercardKeys args
  | zset weighted => zsetSources F weighted true args
  | zsetStore weighted => zsetStoreKeys F weighted args
  | sort => handleSortKeys args
  | xread => xreadKeys args
  | xreadgroup => xreadgroupKeys args
  | geosearchstore => geosearchstoreKeys args
  | georadius fromLonLat => georadiusKeys fromLonLat args
  | migrate => migrateKeys args
  | memory => memoryKeys args
  | debug => debugKeys args
  | script => scriptKeys args

def argumentKeys (name : Bytes) (args : List RespValue) : List Bytes := (layoutOf name).keys F args

/-- The keys whose value or existence a handler looks at or changes. What a script or a
command on the whole keyspace reaches is not in its arguments: `reach` says what it is. -/
def accessedKeys (reach : Bytes → List RespValue → List Bytes) (name : Bytes) (args : List RespValue) : List Bytes :=
  match layoutOf name with
  | .script | .indirect => reach name args
  | .memory => Layout.keys F args .memory ++ reach name args
  | layout => layout.keys F args

end Kore.Commands
