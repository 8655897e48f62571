import Kore.Persistence.ReplicaLink
import Kore.Cache.Stream

/-! The append-only file: the commands that a rewrite dumps and the loader that replays a
file. Scores, coordinates and graphs are carried as the texts that the rewriter prints,
and the keyspaces behind the loader are a parameter. -/

namespace Kore.Persistence
open Foundation Protocol Cache

/-- Number of logical databases: at least one, and counted in a machine word. -/
structure DatabaseCount where
  count : Nat
  positive : 0 < count
  fits : count ≤ u64Max

structure StringRecord where
  key : Bytes
  value : Bytes
  expireUnixMs : Int

structure ZSetRecord where
  key : Bytes
  members : List (Bytes × Bytes)

structure GeoRecord where
  key : Bytes
  members : List (Bytes × Bytes × Bytes)

structure HashRecord where
  key : Bytes
  fields : List (Bytes × Bytes)

structure ListRecord where
  key : Bytes
  elements : List Bytes

structure SetRecord where
  key : Bytes
  members : List Bytes

structure PendingEntrySnapshot where
  id : StreamId
  consumer : Bytes
  deliveryTimeMs : UInt64
  deliveryCount : UInt64

structure GroupSnapshot where
  name : Bytes
  lastDeliveredId : StreamId
  pending : List PendingEntrySnapshot

structure StreamRecord where
  key : Bytes
  lastGeneratedId : StreamId
  entries : List (StreamId × List (Bytes × Bytes))
  groups : List GroupSnapshot

structure SearchState where
  definitions : List (List Bytes)
  graphs : List (Bytes × Bytes × Bytes)
  aliases : List (Bytes × Bytes)

structure DbSnapshot where
  strings : List StringRecord
  zsets : List ZSetRecord
  geos : List GeoRecord
  hashes : List HashRecord
  lists : List ListRecord
  sets : List SetRecord
  streams : List StreamRecord
  typedExpires : List (Bytes × Int)
  search : SearchState

variable (snap : DbSnapshot)

namespace DbSnapshot

/-- An empty database is left out of a rewrite. -/
def isEmpty : Bool :=
  snap.strings.isEmpty && snap.zsets.isEmpty && snap.geos.isEmpty && snap.hashes.isEmpty && snap.lists.isEmpty &&
    snap.sets.isEmpty && snap.streams.isEmpty && snap.search.definitions.isEmpty && snap.search.aliases.isEmpty

def empty : DbSnapshot := ⟨[], [], [], [], [], [], [], [], ⟨[], [], []⟩⟩

end DbSnapshot

namespace Aof

/-- A command is only dumped when it carries more than its first `fixed` words. -/
def longerThan (fixed : Nat) (argv : List Bytes) : List (List Bytes) := if fixed < argv.length then [argv] else []

def stringCommand (record : StringRecord) : List Bytes :=
  [ascii "SET", record.key, record.value] ++
    if 0 ≤ record.expireUnixMs then [ascii "PXAT", integerText record.expireUnixMs] else []

def pendingCommand (key group : Bytes) (entry : PendingEntrySnapshot) : List Bytes :=
  [ascii "XCLAIM", key, group, entry.consumer, ascii "0", entry.id.toText, ascii "FORCE", ascii "TIME",
    decimal entry.deliveryTimeMs.toNat, ascii "RETRYCOUNT", decimal (max entry.deliveryCount.toNat 1)]

def groupCommands (key : Bytes) (group : GroupSnapshot) : List (List Bytes) :=
  [ascii "XGROUP", ascii "CREATE", key, group.name, group.lastDeliveredId.toText, ascii "MKSTREAM"] ::
    [ascii "XGROUP", ascii "SETID", key, group.name, group.lastDeliveredId.toText] ::
    group.pending.map (pendingCommand key group.name)

def streamCommands (record : StreamRecord) : List (List Bytes) :=
  (record.entries.flatMap fun entry =>
      longerThan 3 (ascii "XADD" :: record.key :: entry.1.toText :: entry.2.flatMap fun field => [field.1, field.2])) ++
    (if (StreamId.latest (record.entries.map Prod.fst)).before record.lastGeneratedId
      then [[ascii "XSETID", record.key, record.lastGeneratedId.toText]] else []) ++
    record.groups.flatMap (groupCommands record.key)

def encodeSnapshotCommands : List (List Bytes) :=
  snap.strings.map stringCommand ++
  (snap.zsets.flatMap fun record =>
    longerThan 2 (ascii "ZADD" :: record.key :: record.members.flatMap fun member => [member.2, member.1])) ++
  (snap.geos.flatMap fun record =>
    longerThan 2 (ascii "GEOADD" :: record.key :: record.members.flatMap fun member => [member.2.1, member.2.2, member.1])) ++
  (snap.hashes.flatMap fun record =>
    longerThan 2 (ascii "HSET" :: record.key :: record.fields.flatMap fun field => [field.1, field.2])) ++
  (snap.lists.flatMap fun record => longerThan 2 (ascii "RPUSH" :: record.key :: record.elements)) ++
  (snap.sets.flatMap fun record => longerThan 2 (ascii "SADD" :: record.key :: record.members)) ++
  snap.streams.flatMap streamCommands ++
  (snap.typedExpires.filter fun expiry => decide (0 ≤ expiry.2)).map fun expiry =>
    [ascii "PEXPIREAT", expiry.1, integerText expiry.2]

def encodeDbCommands : List (List Bytes) :=
  (snap.search.definitions.map fun definition => ascii "FT.CREATE" :: definition) ++
  encodeSnapshotCommands snap ++
  (snap.search.graphs.map fun graph => [ascii "FT._LOADGRAPH", graph.1, graph.2.1, graph.2.2]) ++
  snap.search.aliases.map fun pair => [ascii "FT.ALIASADD", pair.1, pair.2]

def encodeFunctionCommands (libraries : List Bytes) : List (List Bytes) :=
  if libraries.isEmpty then []
  else [ascii "FUNCTION", ascii "FLUSH"] ::
    libraries.map fun code => [ascii "FUNCTION", ascii "LOAD", ascii "REPLACE", code]

def selectedBody (multi : Bool) (database : DbSnapshot × Nat) : List (List Bytes) :=
  (if multi || database.2 != 0 then [[ascii "SELECT", decimal database.2]] else []) ++ encodeDbCommands database.1

def rewriteDatabases (libraries : List Bytes) (databases : List DbSnapshot) : List (List Bytes) :=
  let nonEmpty := databases.zipIdx.filter fun database => !database.1.isEmpty
  encodeFunctionCommands libraries ++ nonEmpty.flatMap (selectedBody (decide (1 < nonEmpty.length)))

def encodeCommands (commands : List (List Bytes)) : Bytes := (commands.map encodeCommand).flatten

inductive LoadFault where
  | entryNotArray
  | argumentType
  | applyFailed
  | panicked
  deriving DecidableEq

def loadArgv : RespValue → Except LoadFault (List Bytes)
  | .array items =>
    match items.mapM ReplicaLink.argumentBytes with
    | some argv => .ok argv
    | none => .error .argumentType
  | _ => .error .entryNotArray

/-- Replays the entries of a file; `apply` handles one of them. A tail that the parser
cannot read ends the replay without an error. -/
def loadFileWith {σ : Type} (apply : σ → List Bytes → Option σ) : Nat → σ → Nat → Bytes → Except LoadFault (σ × Nat)
  | 0, state, count, _ => .ok (state, count)
  | rounds + 1, state, count, data =>
    match parseWithConsumed data with
    | .incomplete => .ok (state, count)
    | .panic => .error .panicked
    | .value value _ rest =>
      match loadArgv value with
      | .error fault => .error fault
      | .ok [] => loadFileWith apply rounds state count rest
      | .ok argv =>
        match apply state argv with
        | none => .error .applyFailed
        | some after => loadFileWith apply rounds after (count + 1) rest

/-- The keyspaces that a file is loaded into. -/
structure LoadTarget (δ : Type) where
  applyCommandToCache : δ → Nat → List Bytes → Option δ
  flushAll : δ → δ
  applyFunctionCommand : δ → List Bytes → Option δ

variable {δ : Type}

variable (target : LoadTarget δ) (databases : Nat)

def applyEntry (state : δ × Nat) (argv : List Bytes) : Option (δ × Nat) :=
  let command := upper (argv.headD [])
  if command = ascii "SELECT" then some (state.1, ReplicaLink.selectDb databases state.2 argv)
  else if command = ascii "FLUSHALL" then some (target.flushAll state.1, state.2)
  else if command = ascii "FUNCTION" then (target.applyFunctionCommand state.1 argv).map fun after => (after, state.2)
  else if state.2 < databases then (target.applyCommandToCache state.1 state.2 argv).map fun after => (after, state.2)
  else some state

def replayFile (scratch : δ) (file : Bytes) : Except LoadFault ((δ × Nat) × Nat) :=
  loadFileWith (applyEntry target databases) file.length (scratch, 0) 0 file

/-- The loaded keyspaces; a failed load installs nothing. -/
def loadIntoDatabases (scratch : δ) (file : Bytes) : Except LoadFault δ :=
  (replayFile target databases scratch file).map fun loaded => loaded.1.1

end Aof
end Kore.Persistence
