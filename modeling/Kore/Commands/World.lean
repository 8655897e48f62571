import Kore.Commands.Transaction

/-! The state that connections share: the logical databases with the generation counters of
`WATCH`, the clock and the switches that the gates read. Commands on one database go to the
modelled handlers; every other handler is a parameter. -/

namespace Kore.Commands
open Foundation Protocol Cache RespValue WriteId

structure Database (F : Type) where
  keyspace : Keyspace F
  watchGens : FiniteMap Bytes Nat

structure World (F : Type) where
  databases : List (Database F)
  now : Nat
  loading : Bool
  readonly : Bool
  writesAllowed : Bool

namespace Database
variable {F : Type}

def wrappingSucc (generation : Nat) : Nat := (generation + 1) % 2 ^ 64

def watchGeneration (key : Bytes) (database : Database F) : Database F × Nat :=
  match database.watchGens.lookup key with
  | some generation => (database, generation)
  | none => ({ database with watchGens := database.watchGens.insert key 0 }, 0)

/-- Keys that were never watched are not counted. -/
def touchWatchKey (key : Bytes) (database : Database F) : Database F :=
  { database with watchGens := database.watchGens.update key wrappingSucc }

def touchAllWatchKeys (database : Database F) : Database F :=
  { database with watchGens := database.watchGens.mapValues wrappingSucc }

end Database

variable (args : List RespValue)

def firstKey : List Bytes := (args.take 1).filterMap asBulkString

def firstTwoKeys : List Bytes := (args.take 2).filterMap asBulkString

def secondKey : List Bytes := firstKey args.tail

def everyOther {α : Type} : List α → List α
  | first :: _ :: rest => first :: everyOther rest
  | rest => rest

def numkeys : RespValue → Option Nat
  | .integer value => if 0 < value then some value.toNat else none
  | .bulkString (some text) => (i64OfText text).bind fun value => if 0 < value then some value.toNat else none
  | _ => none

/-- The keys behind a count at the given position. -/
def numkeysKeys (position : Nat) : List Bytes :=
  match (args.drop position).head?.bind numkeys with
  | some count => ((args.drop (position + 1)).take count).filterMap asBulkString
  | none => []

def writeKeys (id : WriteId) (args : List RespValue) : List Bytes :=
  match id with
  | .set | .setnx | .getdel | .getex | .append | .setrange | .setex | .psetex | .getset | .incr | .decr | .incrby | .decrby
  | .incrbyfloat | .expire | .pexpire | .expireat | .pexpireat | .persist | .zadd | .zrem | .zincrby | .zremrangebyrank
  | .zremrangebyscore | .zremrangebylex | .zpopmin | .zpopmax | .geoadd | .geosearchstore | .georadius | .georadiusbymember
  | .hset | .hsetnx | .hmset | .hdel | .hgetdel | .hincrby | .hincrbyfloat | .lpush | .rpush | .lpushx | .rpushx | .lpop | .rpop
  | .lset | .lrem | .ltrim | .linsert | .sadd | .srem | .spop | .xadd | .xdel | .xtrim | .xack | .xclaim | .xautoclaim | .xsetid
  | .setbit | .bitfield | .pfadd | .touch | .moveCmd | .sinterstore | .sunionstore | .sdiffstore | .zunionstore | .zinterstore
  | .zdiffstore | .pfmerge => firstKey args
  | .zrangestore | .smove | .lmove | .blmove | .rpoplpush | .brpoplpush | .copyCmd | .rename | .renamenx => firstTwoKeys args
  | .bitop | .xgroup => secondKey args
  | .blpop | .brpop | .bzpopmin | .bzpopmax => args.dropLast.filterMap asBulkString
  | .zmpop | .lmpop => numkeysKeys args 0
  | .bzmpop | .blmpop => numkeysKeys args 1
  | .del | .unlink => args.filterMap asBulkString
  | .mset | .msetnx => (everyOther args).filterMap asBulkString
  | .eval | .evalsha | .fcall | .flushall | .flushdb | .ftAliasadd | .ftAliasdel | .ftAliasupdate | .ftCreate | .ftDropindex
  | .function | .migrate | .restore | .swapdb | .xreadgroup => []

/-- The source of `SORT` and the destination after `STORE`. -/
def sortDestination : Nat → List RespValue → List Bytes
  | 0, _ => []
  | _, [] => []
  | fuel + 1, word :: rest =>
    match word.asBulkString with
    | none => sortDestination fuel rest
    | some option =>
      if upper option = ascii "STORE" then firstKey rest
      else sortDestination fuel ((word :: rest).drop (sortOptionWidth (upper option)))

def sortKeys : List Bytes := firstKey args ++ sortDestination args.length args.tail

/-- Writes whose reply 0 means that nothing was written. -/
def isNoopWrite (id : WriteId) (reply : RespValue) : Bool :=
  match id, reply with
  | .renamenx, .integer 0 | .moveCmd, .integer 0 | .copyCmd, .integer 0 | .setnx, .integer 0 | .msetnx, .integer 0
  | .smove, .integer 0 => true
  | _, _ => false

def WriteId.ofName (name : Bytes) : Option WriteId := WriteId.all.find? fun id => ascii id.name == name

namespace World
variable {F : Type}

def onDatabase (index : Nat) (change : Database F → Database F) (world : World F) : World F :=
  { world with databases := world.databases.modify index change }

def keyspace (index : Nat) (world : World F) : Keyspace F := (world.databases[index]?.map Database.keyspace).getD ∅

def generation (index : Nat) (key : Bytes) (world : World F) : Option Nat :=
  world.databases[index]?.bind fun database => database.watchGens.lookup key

def watchGeneration (index : Nat) (key : Bytes) (world : World F) : World F × Nat :=
  (world.onDatabase index fun database => (database.watchGeneration key).1, (world.generation index key).getD 0)

def touchKeys (index : Nat) (keys : List Bytes) (world : World F) : World F :=
  world.onDatabase index fun database => keys.foldl (fun database key => database.touchWatchKey key) database

def notifyWatchAfterWrite (index : Nat) (id : WriteId) (args : List RespValue) (world : World F) : World F :=
  match id with
  | .flushdb | .flushall => world.onDatabase index Database.touchAllWatchKeys
  | id => world.touchKeys index (writeKeys id args)

def flushAll (world : World F) : World F :=
  { world with databases := world.databases.map fun database => { database with keyspace := .flush } }

end World

/-- Handlers that reach a key without purging it first. -/
def skipsPurge : List WriteId := [.set, .del, .unlink, .persist, .flushdb]

def purgedKeys {F : Type} (now : Nat) (before after : Keyspace F) (words : List Bytes) : List Bytes :=
  words.dedup.filter fun key =>
    ((before.lookup key).any fun slot => slot.isExpired now) && (after.lookup key).all fun slot => !slot.isExpired now

/-- Stream handlers touch their key themselves when they have changed the stream. -/
def touchedInside (id : WriteId) (words : List Bytes) (answer : Answer) : List Bytes :=
  match id, answer with
  | .xadd, .ok (.bulkString (some _)) => words.take 1
  | .xdel, .ok (.integer count) | .xtrim, .ok (.integer count) => if 0 < count then words.take 1 else []
  | _, _ => []

structure Setup (F : Type) where
  server : Server F
  clusterEnabled : Bool
  handshake : World F → Client → Bytes → List RespValue → World F × Bool × Answer
  checkAclPermission : World F → Client → Bytes → List RespValue → Option Denial
  checkClusterRedirect : World F → Client → Bytes → List RespValue → Bool → Option Denial
  others : Client → World F → Bytes → List RespValue → Client × World F × Answer
  closed : ∀ client world name args, client.inMulti = false → (others client world name args).1.inMulti = false

namespace Setup
variable {F : Type} (setup : Setup F)

def serverAt (now : Nat) : Server F := { setup.server with setting := { setup.server.setting with now } }

def runLocal (index : Nat) (purges : Bool) (words : List Bytes) (inside : Answer → List Bytes)
    (handler : Keyspace F → Handled F) (world : World F) : World F × Answer :=
  let before := world.keyspace index
  let handled := handler before
  let purged := if purges then purgedKeys world.now before handled.1 words else []
  ((world.onDatabase index fun database => { database with keyspace := handled.1 }).touchKeys index
    (purged ++ inside handled.2), handled.2)

def handleSelect (client : Client) (world : World F) (words : List Bytes) : Client × Answer :=
  if setup.clusterEnabled then (client, failure "ERR SELECT is not allowed in cluster mode")
  else match words with
    | [text] =>
      match i64OfText text with
      | some index =>
        if 0 ≤ index ∧ index.toNat < world.databases.length then
          if index.toNat = client.selectedDb then (client, .ok .ok)
          else ({ client with selectedDb := index.toNat, watched := ∅ }, .ok .ok)
        else (client, failure "ERR DB index is out of range")
      | none => (client, failure "ERR DB index is out of range")
    | _ => (client, failure "ERR wrong number of arguments for 'select' command")

def handleFlushall (world : World F) (words : List Bytes) : World F × Answer :=
  match parseFlushMode words with
  | .error text => (world, failure text)
  | .ok () => (world.flushAll, .ok .ok)

variable [Double F] (client : Client) (world : World F) (name : Bytes) (words : List Bytes) (args : List RespValue)

def runHandler : Client × World F × Answer :=
  if name = ascii "SELECT" then
    let (client, answer) := setup.handleSelect client world words
    (client, world, answer)
  else if name = ascii "GET" then
    (client, runLocal client.selectedDb true words (fun _ => [])
      (fun keyspace => handleGet (setup.serverAt world.now).setting keyspace words) world)
  else match ofName name with
    | some .flushall => (client, handleFlushall world words)
    | some id =>
      if id ∈ localIds then
        (client, runLocal client.selectedDb (!skipsPurge.contains id) words (touchedInside id words)
          (fun keyspace => (setup.serverAt world.now).handle keyspace id words) world)
      else setup.others client world name args
    | none => setup.others client world name args

def notify (answer : Answer) (world : World F) : World F :=
  match answer with
  | .error _ => world
  | .ok reply =>
    if !responseIndicatesSuccess reply then world
    else if name = ascii "SORT" then
      if sortHasStore args then world.touchKeys client.selectedDb (sortKeys args) else world
    else match ofName name with
      | some .migrate => world
      | some id => if isNoopWrite id reply then world else world.notifyWatchAfterWrite client.selectedDb id args
      | none => world

def dispatch : Client × World F × Answer :=
  let (client, world, answer) := match args.mapM asBulkString with
    | some words => setup.runHandler client world name words args
    | none => setup.others client world name args
  (client, notify client name args answer world, answer)

omit [Double F] in
private theorem handleSelect_inMulti : (setup.handleSelect client world words).1.inMulti = client.inMulti := by
  unfold handleSelect
  split
  · rfl
  · split
    · split
      · split
        · split <;> rfl
        · rfl
      · rfl
    · rfl

private theorem runHandler_closed {client : Client} (outside : client.inMulti = false) (world : World F) (name : Bytes)
    (words : List Bytes) (args : List RespValue) : (setup.runHandler client world name words args).1.inMulti = false := by
  unfold runHandler
  split
  · exact (setup.handleSelect_inMulti client world words).trans outside
  · split
    · exact outside
    · split
      · exact outside
      · split
        · exact outside
        · exact setup.closed client world name args outside
      · exact setup.closed client world name args outside

private theorem dispatch_closed (client : Client) (world : World F) (name : Bytes) (args : List RespValue)
    (outside : client.inMulti = false) : (setup.dispatch client world name args).1.inMulti = false := by
  unfold dispatch
  cases args.mapM asBulkString with
  | some words => exact setup.runHandler_closed outside world name words args
  | none => exact setup.closed client world name args outside

def node : Node (World F) where
  handshake := setup.handshake
  loading := World.loading
  checkAclPermission := setup.checkAclPermission
  checkClusterRedirect := setup.checkClusterRedirect
  readonly := World.readonly
  writesAllowed := World.writesAllowed
  watchGeneration := World.watchGeneration
  dispatch := setup.dispatch
  closed := setup.dispatch_closed

end Setup
end Kore.Commands
