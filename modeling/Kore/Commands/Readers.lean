import Kore.Cache.Scan
import Kore.Commands.Sorting

/-! The handlers of the commands that are not on the list of writes, by families, as far as
the keyspace is concerned: in which requests they look keys up, which ones and in which order,
and what two families store when their flag says so. Looking a key up drops it if its time has
come. What a handler answers is left out, and so are the options it reads after its last
look-up. -/

namespace Kore.Commands
open Foundation Protocol Cache RespValue Double

inductive ZAlgebra where
  | union | inter | diff
  deriving DecidableEq

/-- What the handlers leave to others: the members that a search finds with their distances, the combination of sorted sets
(no result if a score is not a number), the names that match a pattern, and the key that comes up by chance. -/
structure ReadWork (F : Type) where
  found : List RespValue → FiniteMap Bytes (F × F) → List (Bytes × F)
  combined : ZAlgebra → List RespValue → List (FiniteMap Bytes F) → Option (List (Bytes × F))
  patternMatch : Bytes → Bytes → Bool
  random : Keyspace F → Option Bytes

/-- The families of handlers. A handler of one key asks for a number of arguments and may check those behind the key first. -/
inductive Reader where
  | keyless
  | single (least : Nat) (most : Option Nat) (accepts : List RespValue → Bool)
  | exists
  | mget
  | lcs
  | pfcount
  | setAlgebra
  | sintercard
  | zintercard
  | zsetAlgebra (op : ZAlgebra) (store : Bool)
  | georadius (fromLonLat allowStore : Bool)
  | object
  | memory
  | keys
  | scan
  | randomkey

section Words

def getbitWords : List RespValue → Bool
  | [offset] => (integerOf offset).any fun offset => 0 ≤ offset && offset < 512 * 1024 * 1024 * 8
  | _ => false

def parseBitUnit (word : RespValue) : Bool := isText "BYTE" word || isText "BIT" word

def bitcountWords : List RespValue → Bool
  | start :: stop :: unit => (integerOf start).isSome && (integerOf stop).isSome && unit.all parseBitUnit
  | words => words.all fun word => (integerOf word).isSome

def bitposWords : List RespValue → Bool
  | bit :: start :: stop :: unit =>
    (integerOf bit).any (fun bit => bit = 0 || bit = 1) && (integerOf start).isSome && (integerOf stop).isSome && unit.all parseBitUnit
  | bit :: start => (integerOf bit).any (fun bit => bit = 0 || bit = 1) && start.all fun word => (integerOf word).isSome
  | [] => false

def integerOfText (value : RespValue) : Option Int :=
  match value.asBulkString with
  | some text => i64OfText (lossy text)
  | none => value.asInteger

def parseZrangeTailOptions (byScore byLex : Bool) : List RespValue → Bool
  | [] => true
  | word :: rest =>
    if isWord "BYSCORE" word then !byLex && parseZrangeTailOptions true byLex rest
    else if isWord "BYLEX" word then !byScore && parseZrangeTailOptions byScore true rest
    else if isWord "REV" word || isWord "WITHSCORES" word then parseZrangeTailOptions byScore byLex rest
    else if isWord "LIMIT" word then
      match rest with
      | offset :: count :: rest =>
        (integerOfText offset).any (0 ≤ ·) && (integerOfText count).isSome && parseZrangeTailOptions byScore byLex rest
      | _ => false
    else false

def xrangeOptions : List RespValue → Bool
  | [] => true
  | word :: number :: rest => isWord "COUNT" word && (number.asBulkString.bind i64OfText).any (0 ≤ ·) && xrangeOptions rest
  | _ => false

def xrangeWords : List RespValue → Bool
  | first :: last :: options => first.asBulkString.isSome && last.asBulkString.isSome && xrangeOptions options
  | _ => false

/-- The options of `LCS`, with the two of them that exclude each other. -/
def lcsOptions (len idx : Bool) : List RespValue → Bool
  | [] => !(len && idx)
  | word :: rest =>
    if isWord "LEN" word then lcsOptions true idx rest
    else if isWord "IDX" word then lcsOptions len true rest
    else if isWord "WITHMATCHLEN" word then lcsOptions len idx rest
    else if isWord "MINMATCHLEN" word then
      match rest with
      | number :: rest => (integerOf number).any (0 ≤ ·) && lcsOptions len idx rest
      | [] => false
    else false

/-- The pattern of `SCAN`; no answer if the options are refused. -/
def parseScanOptions (pattern : Option Bytes) : List RespValue → Option (Option Bytes)
  | [] => some pattern
  | word :: value :: rest =>
    if isWord "MATCH" word then value.asBulkString.bind fun text => parseScanOptions (some (lossy text)) rest
    else if isWord "COUNT" word then if (integerOf value).any (0 < ·) then parseScanOptions pattern rest else none
    else if isWord "TYPE" word then
      if ["STRING", "LIST", "SET", "ZSET", "HASH", "STREAM"].any (isWord · value) then parseScanOptions pattern rest else none
    else none
  | _ => none

end Words

variable {F : Type} (work : ReadWork F) (now : Nat)

def keyTypes (keys : List Bytes) (room : Room F) : Room F := keys.foldl (fun room key => room.purge now key) room

/-- Looks keys up one by one and stops behind a value that does not fit. -/
def ensureTypes (fits : KeyValue F → Bool) : List Bytes → Room F → Room F
  | [], room => room
  | key :: keys, room =>
    let room := room.purge now key
    if (room.keyspace.lookup key).all fun slot => fits slot.value then ensureTypes fits keys room else room

/-- `load` drops an expired string only. -/
def load (key : Bytes) (room : Room F) : Room F :=
  match room.keyspace.lookup key with
  | some ⟨_, .string _⟩ => room.purge now key
  | _ => room

def isHll : KeyValue F → Bool
  | .string bytes => 5 ≤ bytes.length && bytes.take 5 == ascii "KHLL" ++ [1]
  | _ => false

def isSet : KeyValue F → Bool
  | .set _ => true
  | _ => false

def isString : KeyValue F → Bool
  | .string _ => true
  | _ => false

/-- The sorted sets under the keys. There is none for an intersection with a missing or empty one, and an error for a key of
another type. -/
def snapshotZsets (inter : Bool) : List Bytes → Room F → Room F × Except Error (Option (List (FiniteMap Bytes F)))
  | [], room => (room, .ok (some []))
  | key :: keys, room =>
    let room := room.purge now key
    let goOn (members : FiniteMap Bytes F) :=
      if inter && members.keys = ∅ then (room, .ok none)
      else ((snapshotZsets inter keys room).1, (snapshotZsets inter keys room).2.map (Option.map (members :: ·)))
    match room.keyspace.lookup key with
    | none => goOn ∅
    | some slot =>
      match sortedSets.unwrap slot.value with
      | some members => goOn members
      | none => (room, .error .wrongType)

def addAll {α : Type} (members : List (Bytes × α)) (held : FiniteMap Bytes α) : FiniteMap Bytes α :=
  members.foldl (fun held member => held.insert member.1 member.2) held

/-- Overwrites the destination, whatever it holds. -/
def storeZsetResult (dest : Bytes) (members : List (Bytes × F)) (room : Room F) : Room F :=
  let room := room.onKeyspace (·.delete dest)
  if members.isEmpty then room
  else match room.ensureCapacity with
    | (room, .error _) => room
    | (room, .ok ()) =>
      match room.getOrCreate sortedSets now dest with
      | (room, .error _) => room
      | (room, .ok held) => room.onKeyspace (·.write sortedSets dest (addAll members held))

def handleZsetAlgebra [Double F] (op : ZAlgebra) (store : Bool) (args : List RespValue) (room : Room F) : Room F :=
  if args.length < (if store then 3 else 2) then room
  else
    let dest := if store then (args.head?.bind asBulkString) else none
    if store && dest.isNone then room
    else match countedKeys 1 (if store then args.tail else args) with
      | none => room
      | some (keys, options) =>
        if !zsetOpOptions F keys.length (op ≠ .diff) (!store) options.length options then room
        else
          let storing (room : Room F) (members : List (Bytes × F)) :=
            match dest with
            | some dest => storeZsetResult now dest members room
            | none => room
          match snapshotZsets now (op = .inter) keys room with
          | (room, .error _) => room
          | (room, .ok none) => storing room []
          | (room, .ok (some snapshots)) =>
            match work.combined op options snapshots with
            | none => room
            | some members => storing room members

def handleGeosearch (args : List RespValue) (room : Room F) : Room F :=
  if args.length < 5 then room else keyTypes now (firstKey args) room

/-- What a search answers, once its key has been looked up. -/
def searched (args : List RespValue) (room : Room F) : List (Bytes × F) :=
  if args.length < 5 then []
  else (firstKey args).flatMap fun key => ((room.keyspace.get geoSets key).map (work.found args)).getD []

def handleGeosearchstore (args : List RespValue) (room : Room F) : Room F :=
  if args.length < 6 then room
  else match args with
    | [] => room
    | dest :: rest =>
      match dest.asBulkString with
      | none => room
      | some dest =>
        if rest.any (isWord "STOREDIST") then
          let search := rest.filter (fun word => !isWord "STOREDIST" word) ++ [bulkWord "WITHDIST"]
          let room := handleGeosearch now search room
          let members := searched work search room
          let room := room.onKeyspace (·.delete dest)
          if members.isEmpty then room
          else match room.getOrCreate sortedSets now dest with
            | (room, .error _) => room
            | (room, .ok held) => room.onKeyspace (·.write sortedSets dest (addAll members held))
        else
          let room := handleGeosearch now rest room
          match firstKey rest with
          | [source] =>
            match room.keyspace.get geoSets source with
            | none => room.onKeyspace (·.delete dest)
            | some held =>
              let points := (searched work rest room).filterMap fun member => (held.lookup member.1).map fun point => (member.1, point)
              let room := room.onKeyspace (·.delete dest)
              if points.isEmpty then room
              else match room.getOrCreate geoSets now dest with
                | (room, .error _) => room
                | (room, .ok held) => room.onKeyspace (·.write geoSets dest (addAll points held))
          | _ => room

/-- The commands that may not store refuse the words for it wherever they stand. -/
def handleGeoradiusImpl (fromLonLat allowStore : Bool) (args : List RespValue) (room : Room F) : Room F :=
  let width := if fromLonLat then 5 else 4
  if args.length < width then room
  else if !allowStore && (args.drop width).any (fun word => isWord "STORE" word || isWord "STOREDIST" word) then room
  else match georadiusOptions ⟨none, none, []⟩ (args.drop width) with
    | none => room
    | some opts =>
      let search := georadiusSearch fromLonLat args opts.search
      match opts.storedistKey, opts.storeKey with
      | some dest, _ => handleGeosearchstore work now (dest :: search ++ [bulkWord "STOREDIST"]) room
      | none, some dest => handleGeosearchstore work now (dest :: search) room
      | none, none => handleGeosearch now search room

/-- Drops what has expired among the keys that match. A name that is no text is matched as the empty one. -/
def purgeMatching (pattern : Option Bytes) (room : Room F) : Room F :=
  room.onKeyspace fun keyspace =>
    (keyspace.keys now fun key => pattern.all fun pattern => work.patternMatch pattern (if isUtf8 key then key else [])).1

def Reader.handle [Double F] (args : List RespValue) (room : Room F) : Reader → Room F
  | .keyless => room
  | .single least most accepts =>
    if least ≤ args.length && most.all (args.length ≤ ·) && accepts args.tail then keyTypes now (firstKey args) room else room
  | .exists => keyTypes now (args.filterMap asBulkString) room
  | .mget => (args.filterMap asBulkString).foldl (fun room key => load now key room) room
  | .lcs =>
    match args with
    | first :: second :: options =>
      match first.asBulkString, second.asBulkString with
      | some first, some second => if lcsOptions false false options then ensureTypes now isString [first, second] room else room
      | _, _ => room
    | _ => room
  | .pfcount => ((args.mapM asBulkString).map fun keys => ensureTypes now isHll keys room).getD room
  | .setAlgebra => ensureTypes now isSet (args.filterMap asBulkString) room
  | .sintercard => ensureTypes now isSet (intercardKeys args) room
  | .zintercard => (snapshotZsets now true (intercardKeys args) room).1
  | .zsetAlgebra op store => handleZsetAlgebra work now op store args room
  | .georadius fromLonLat allowStore => handleGeoradiusImpl work now fromLonLat allowStore args room
  | .object =>
    match args with
    | [sub, key] =>
      if ["ENCODING", "IDLETIME", "REFCOUNT", "FREQ"].any (isWord · sub) then keyTypes now (firstKey [key]) room else room
    | _ => room
  | .memory => keyTypes now (memoryKeys args) room
  | .keys => purgeMatching work now ((args.head?.bind asBulkString).filter fun text => isUtf8 text) room
  | .scan =>
    match args with
    | [] => room
    | cursor :: options =>
      if (integerOf cursor).any (0 ≤ ·) then
        match parseScanOptions none options with
        | some pattern => purgeMatching work now pattern room
        | none => room
      else room
  | .randomkey =>
    match work.random room.keyspace with
    | some key => if room.keyspace.isLive now key then room else purgeMatching work now none room
    | none => purgeMatching work now none room

/-- The handlers by the names that a script may call them by, `SELECT`, `SORT` and `BITFIELD_RO` aside. -/
def readers : List (Reader × List String) :=
  let exactly (count : Nat) : Reader := .single count (some count) fun _ => true
  let atLeast (count : Nat) : Reader := .single count none fun _ => true
  let between (least most : Nat) : Reader := .single least (some most) fun _ => true
  [(.keyless, ["PING", "ECHO", "TIME", "LOLWUT", "DBSIZE"]),
    (exactly 1, ["GET", "TYPE", "STRLEN", "DUMP", "TTL", "PTTL", "EXPIRETIME", "PEXPIRETIME", "HGETALL", "HLEN", "HKEYS", "HVALS",
      "LLEN", "SMEMBERS", "SCARD", "ZCARD", "XLEN"]),
    (exactly 2, ["HGET", "HEXISTS", "HSTRLEN", "LINDEX", "SISMEMBER", "ZSCORE"]),
    (exactly 3, ["GETRANGE", "SUBSTR", "LRANGE", "ZCOUNT", "ZLEXCOUNT"]),
    (between 1 2, ["SRANDMEMBER"]), (between 1 3, ["HRANDFIELD", "ZRANDMEMBER"]), (between 2 3, ["ZRANK", "ZREVRANK"]),
    (atLeast 2, ["HMGET", "HSCAN", "LPOS", "SMISMEMBER", "SSCAN", "ZMSCORE", "ZSCAN", "GEOPOS", "GEOHASH"]),
    (atLeast 3, ["ZREVRANGE", "ZRANGEBYSCORE", "ZREVRANGEBYSCORE", "ZRANGEBYLEX", "ZREVRANGEBYLEX", "GEODIST"]),
    (atLeast 5, ["GEOSEARCH"]),
    (.single 2 (some 2) getbitWords, ["GETBIT"]), (.single 1 (some 4) bitcountWords, ["BITCOUNT"]),
    (.single 2 (some 5) bitposWords, ["BITPOS"]),
    (.single 3 none fun words => parseZrangeTailOptions false false (words.drop 2), ["ZRANGE"]),
    (.single 3 none xrangeWords, ["XRANGE", "XREVRANGE"]),
    (.exists, ["EXISTS"]), (.mget, ["MGET"]), (.lcs, ["LCS"]), (.pfcount, ["PFCOUNT"]),
    (.setAlgebra, ["SINTER", "SUNION", "SDIFF"]), (.sintercard, ["SINTERCARD"]), (.zintercard, ["ZINTERCARD"]),
    (.zsetAlgebra .union false, ["ZUNION"]), (.zsetAlgebra .inter false, ["ZINTER"]), (.zsetAlgebra .diff false, ["ZDIFF"]),
    (.georadius true false, ["GEORADIUS_RO"]), (.georadius false false, ["GEORADIUSBYMEMBER_RO"]),
    (.object, ["OBJECT"]), (.memory, ["MEMORY"]), (.keys, ["KEYS"]), (.scan, ["SCAN"]), (.randomkey, ["RANDOMKEY"]),
    (.zsetAlgebra .union true, ["ZUNIONSTORE"]), (.zsetAlgebra .inter true, ["ZINTERSTORE"]), (.zsetAlgebra .diff true, ["ZDIFFSTORE"]),
    (.georadius true true, ["GEORADIUS"]), (.georadius false true, ["GEORADIUSBYMEMBER"])]

def readerOf (name : Bytes) : Option Reader :=
  (readers.find? fun entry => entry.2.any fun known => ascii known == name).map Prod.fst

end Kore.Commands
