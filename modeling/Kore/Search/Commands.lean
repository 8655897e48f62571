import Kore.Commands.KeyAccess
import Kore.Search.Index

/-! The commands through which hashes and indices change, one at a time. The hash handlers
take the arguments of a request; the other commands are given by what their handlers pass on
to the database, after which nothing more is refused for its form. -/

namespace Kore.Search
open Foundation Protocol Cache Commands Double

/-- What is the same for all commands: how stored numbers are printed, what a dump stands for,
the limits, and the number of databases. -/
structure Setup (F : Type) where
  formatHashFloat : F → Bytes
  decodeDump : Bytes → Option (KeyValue F)
  maxEntrySize : Nat
  entryStructSize : Nat
  databases : Nat

abbrev Handled (F : Type) := Database F × RespValue

def errorReply (text : String) : RespValue := .error (ascii text)

def wrongArity (name : String) : RespValue := errorReply ("ERR wrong number of arguments for '" ++ name ++ "' command")

def readPairs : List RespValue → Except RespValue (List (Bytes × Bytes))
  | field :: value :: rest =>
    match field.asBulkString, value.asBulkString with
    | none, _ => .error (errorReply "ERR invalid field")
    | _, none => .error (errorReply "ERR invalid value")
    | some field, some value => (readPairs rest).map ((field, value) :: ·)
  | _ => .ok []

/-- The key and the pairs of `HSET`, and of `HMSET`, which answers otherwise. -/
def hsetRequest (args : List RespValue) : Except RespValue (Bytes × List (Bytes × Bytes)) :=
  if args.length < 3 ∨ args.length % 2 = 0 then .error (wrongArity "hset")
  else match args with
    | [] => .error (wrongArity "hset")
    | key :: rest =>
      match key.asBulkString with
      | none => .error (errorReply "ERR invalid key")
      | some key => (readPairs rest).map ((key, ·))

def hsetnxRequest : List RespValue → Except RespValue (Bytes × Bytes × Bytes)
  | [key, field, value] =>
    match key.asBulkString, field.asBulkString, value.asBulkString with
    | none, _, _ => .error (errorReply "ERR invalid key")
    | _, none, _ => .error (errorReply "ERR invalid field")
    | _, _, none => .error (errorReply "ERR invalid value")
    | some key, some field, some value => .ok (key, field, value)
  | _ => .error (wrongArity "hsetnx")

def hincrbyRequest : List RespValue → Except RespValue (Bytes × Bytes × Int)
  | [key, field, delta] =>
    match key.asBulkString, field.asBulkString, integerOf delta with
    | none, _, _ => .error (errorReply "ERR invalid key")
    | _, none, _ => .error (errorReply "ERR invalid field")
    | _, _, none => .error (errorReply "ERR value is not an integer or out of range")
    | some key, some field, some delta => .ok (key, field, delta)
  | _ => .error (wrongArity "hincrby")

def hincrbyfloatRequest {F : Type} [Double F] : List RespValue → Except RespValue (Bytes × Bytes × F)
  | [key, field, delta] =>
    match key.asBulkString, field.asBulkString, delta.asBulkString.bind fun text => (parse (lossy text) : Option F) with
    | none, _, _ => .error (errorReply "ERR invalid key")
    | _, none, _ => .error (errorReply "ERR invalid field")
    | _, _, none => .error (errorReply "ERR value is not a valid float")
    | some key, some field, some delta =>
      if isNan delta then .error (errorReply "ERR would produce NaN: value is not a valid float")
      else .ok (key, field, delta)
  | _ => .error (wrongArity "hincrbyfloat")

/-- A key and the names of fields; arguments that are no bulk strings are passed over. -/
def fieldsRequest (name : String) : List RespValue → Except RespValue (Bytes × List Bytes)
  | key :: field :: fields =>
    match key.asBulkString with
    | none => .error (errorReply "ERR invalid key")
    | some key => .ok (key, (field :: fields).filterMap RespValue.asBulkString)
  | _ => .error (wrongArity name)

def hincrby (field : Bytes) (delta : Int) (fields : FiniteMap Bytes Bytes) : Except String (FiniteMap Bytes Bytes × Int) :=
  match (match fields.lookup field with | some text => i64OfText text | none => some 0) with
  | none => .error "hash value is not an integer"
  | some current =>
    if -(2 ^ 63) ≤ current + delta ∧ current + delta ≤ i64Max then
      .ok (fields.insert field (integerText (current + delta)), current + delta)
    else .error "increment or decrement would overflow"

def hincrbyfloat {F : Type} [Double F] (setup : Setup F) (field : Bytes) (delta : F) (fields : FiniteMap Bytes Bytes) :
    Except String (FiniteMap Bytes Bytes × F) :=
  match (match fields.lookup field with
    | some text => if isUtf8 text then (parse (trim text) : Option F) else none
    | none => some zero) with
  | none => .error "hash value is not a valid float"
  | some current =>
    if isNan current then .error "hash value is not a valid float"
    else if isNan (add current delta) then .error "increment would produce NaN"
    else .ok (fields.insert field (setup.formatHashFloat (add current delta)), add current delta)

/-- Removes fields one by one, with the values that they had. -/
def hgetdel (names : List Bytes) (fields : FiniteMap Bytes Bytes) : FiniteMap Bytes Bytes × List (Option Bytes) :=
  names.foldl (fun (fields, values) name => (fields.erase name, values ++ [fields.lookup name])) (fields, [])

namespace Database
variable {F : Type}

def ensureHashKey (now : Nat) (key : Bytes) (database : Database F) : Database F × Bool :=
  (database.purgeIfExpired now key, (database.keyspace.keyType now key).all (· = .hash))

def outOfMemory : RespValue := .error Refusal.outOfMemory.toRespString

def wrongType : RespValue := .error Error.wrongType.toRespString

variable (listing : Listing)

/-- The part that `HSET` and `HSETNX` share: the fields are changed, then paid for, and only then
indexed. -/
def storeFields (key : Bytes) (fields grown : FiniteMap Bytes Bytes) (reply : RespValue) (database : Database F) : Handled F :=
  match (database.writeHash key grown).ensureNonStringCapacity with
  | (database, false) => (database.rollBack key fields, outOfMemory)
  | (database, true) => (database.autoIndexKey listing key (indexFields listing grown), reply)

def handleHset (now : Nat) (args : List RespValue) (database : Database F) : Handled F :=
  match hsetRequest args with
  | .error reply => (database, reply)
  | .ok (key, pairs) =>
    match database.getOrCreateHash now key with
    | (database, .error refusal) => (database, .error refusal.toRespString)
    | (database, .ok fields) =>
      let grown := pairs.foldl hset fields
      database.storeFields listing key fields grown (.integer (grown.keys.card - fields.keys.card))

/-- A field that is there is left alone, before anything else is looked at. -/
def handleHsetnx (now : Nat) (args : List RespValue) (database : Database F) : Handled F :=
  match hsetnxRequest args with
  | .error reply => (database, reply)
  | .ok (key, field, value) =>
    if (database.keyspace.get hashes key).any fun fields => (fields.lookup field).isSome then (database, .integer 0)
    else match (if (database.keyspace.get hashes key).isSome then (database, true) else database.ensureHashKey now key) with
      | (database, false) => (database, wrongType)
      | (database, true) =>
        match database.ensureNonStringCapacity with
        | (database, false) => (database, outOfMemory)
        | (database, true) =>
          match database.getOrCreateHash now key with
          | (database, .error refusal) => (database, .error refusal.toRespString)
          | (database, .ok fields) =>
            if (fields.lookup field).isSome then (database, .integer 0)
            else database.storeFields listing key fields (fields.insert field value) (.integer 1)

/-- `HINCRBY` and `HINCRBYFLOAT`: no index hears of the new value. -/
def increment {α : Type} (now : Nat) (key : Bytes) (change : FiniteMap Bytes Bytes → Except String (FiniteMap Bytes Bytes × α))
    (reply : α → RespValue) (database : Database F) : Handled F :=
  match database.getOrCreateHash now key with
  | (database, .error refusal) => (database, .error refusal.toRespString)
  | (database, .ok fields) =>
    match change fields with
    | .error text => (database, errorReply ("ERR " ++ text))
    | .ok (grown, value) =>
      match (database.writeHash key grown).ensureNonStringCapacity with
      | (database, false) => (database.rollBack key fields, outOfMemory)
      | (database, true) => (database, reply value)

def handleHincrby (now : Nat) (args : List RespValue) (database : Database F) : Handled F :=
  match hincrbyRequest args with
  | .error reply => (database, reply)
  | .ok (key, field, delta) => database.increment now key (hincrby field delta) .integer

def handleHincrbyfloat [Double F] (setup : Setup F) (now : Nat) (args : List RespValue) (database : Database F) : Handled F :=
  match (hincrbyfloatRequest args : Except RespValue (Bytes × Bytes × F)) with
  | .error reply => (database, reply)
  | .ok (key, field, delta) =>
    database.increment now key (hincrbyfloat setup field delta) fun value => .bulkString (some (setup.formatHashFloat value))

/-- `HDEL` and `HGETDEL`: no index hears of the fields that are gone, nor of the key if none is
left. -/
def dropFields (key : Bytes) (missing : RespValue)
    (change : FiniteMap Bytes Bytes → FiniteMap Bytes Bytes × RespValue) (database : Database F) : Handled F :=
  match database.keyspace.get hashes key with
  | none => (database, missing)
  | some fields =>
    let (shrunk, reply) := change fields
    let written := database.writeHash key shrunk
    (if shrunk.keys = ∅ then written.removeHash key else written, reply)

def handleHdel (now : Nat) (args : List RespValue) (database : Database F) : Handled F :=
  match fieldsRequest "hdel" args with
  | .error reply => (database, reply)
  | .ok (key, names) =>
    match database.ensureHashKey now key with
    | (database, false) => (database, wrongType)
    | (database, true) => database.dropFields key (.integer 0) fun fields =>
        (hdel names fields, .integer (fields.keys.card - (hdel names fields).keys.card))

def handleHgetdel (now : Nat) (args : List RespValue) (database : Database F) : Handled F :=
  match fieldsRequest "hgetdel" args with
  | .error reply => (database, reply)
  | .ok (key, names) =>
    match database.ensureHashKey now key with
    | (database, false) => (database, wrongType)
    | (database, true) =>
      if names = [] then (database, wrongArity "hgetdel")
      else database.dropFields key (.array (names.map fun _ => .nil)) fun fields =>
        ((hgetdel names fields).1, .array ((hgetdel names fields).2.map fun value => .bulkString value))

end Database

inductive Command where
  | hset (args : List RespValue)
  | hsetnx (args : List RespValue)
  | hincrby (args : List RespValue)
  | hincrbyfloat (args : List RespValue)
  | hdel (args : List RespValue)
  | hgetdel (args : List RespValue)
  | del (keys : List Bytes)
  | rename (src dst : Bytes) (nx : Bool)
  | copy (src dst : Bytes) (target : Nat) (replace : Bool)
  | restore (key data : Bytes) (ttl : Int) (replace absttl : Bool)
  | expire (key : Bytes) (ttlMs : Nat)
  | expireAt (key : Bytes) (unixMs : Int)
  /-- Any look-up of a key, or active expiration, which drops it if its time has come. -/
  | lookUp (key : Bytes)
  | flushdb
  | ftCreate (name : Bytes) (prefixes : List Bytes)
  | ftDropindex (name : Bytes)
  | ftAliasadd (other index : Bytes)
  | ftAliasdel (other : Bytes)
  | ftAliasupdate (other index : Bytes)

structure Event where
  now : Nat
  database : Nat
  listing : Listing
  grants : List Grant
  searchGrants : List Grant
  command : Command

abbrev Databases (F : Type) := Nat → Database F

def searchReply : Except Bytes Unit → RespValue
  | .ok () => .ok
  | .error text => .error (ascii "ERR " ++ text)

def flagReply (value : Bool) : RespValue := .integer (if value then 1 else 0)

section Step
variable {F : Type} [Double F] (setup : Setup F)

/-- A command that stays within its database. -/
def Database.execute (event : Event) (database : Database F) : Handled F :=
  let setting : Setting := ⟨event.now, setup.maxEntrySize, setup.entryStructSize⟩
  match event.command with
  | .hset args => database.handleHset event.listing event.now args
  | .hsetnx args => database.handleHsetnx event.listing event.now args
  | .hincrby args => database.handleHincrby event.now args
  | .hincrbyfloat args => database.handleHincrbyfloat setup event.now args
  | .hdel args => database.handleHdel event.now args
  | .hgetdel args => database.handleHgetdel event.now args
  | .del keys => let (database, count) := database.deleteMany keys; (database, .integer count)
  | .rename src dst nx =>
    match database.rename event.now src dst nx with
    | (database, .ok renamed) => (database, if nx then flagReply renamed else .ok)
    | (database, .error refusal) => (database, .error refusal.toRespString)
  | .restore key data ttl replace absttl =>
    match database.restoreSerialized setting key (setup.decodeDump data) ttl replace absttl with
    | (database, .ok ()) => (database, .ok)
    | (database, .error text) => (database, .error text)
  | .expire key ttlMs => let (database, set) := database.expire event.now key ttlMs; (database, flagReply set)
  | .expireAt key unixMs => let (database, set) := database.expireAtUnixMs event.now key unixMs; (database, flagReply set)
  | .lookUp key => (database.purgeIfExpired event.now key, .nil)
  | .flushdb => (database.flush, .ok)
  | .ftCreate name prefixes => let (database, result) := database.createIndex name prefixes; (database, searchReply result)
  | .ftDropindex name => let (database, result) := database.dropIndex name; (database, searchReply result)
  | .ftAliasadd other index => let (database, result) := database.aliasAdd other index; (database, searchReply result)
  | .ftAliasdel other => let (database, result) := database.aliasDel other; (database, searchReply result)
  | .ftAliasupdate other index => let (database, result) := database.aliasUpdate other index; (database, searchReply result)
  | .copy _ _ _ _ => (database, .nil)

/-- `COPY` to any database. -/
def copyKey (event : Event) (src dst : Bytes) (target : Nat) (replace : Bool) (databases : Databases F) :
    Databases F × RespValue :=
  let setting : Setting := ⟨event.now, setup.maxEntrySize, setup.entryStructSize⟩
  if setup.databases ≤ target then (databases, errorReply "ERR index out of range")
  else
    let (source, payload) := (databases event.database).dumpKey event.now src
    let databases := Function.update databases event.database source
    match payload with
    | none => (databases, .integer 0)
    | some (value, pttl) =>
      if event.database = target ∧ src = dst then
        (databases, .error (Error.invalidArgument (ascii "source and destination objects are the same")).toRespString)
      else
        let (restored, result) := (databases target).restoreKey setting dst value pttl replace
        (Function.update databases target restored,
          match result with
          | .ok copied => flagReply copied
          | .error refusal => .error refusal.toRespString)

/-- Hands the database of an event, and for `COPY` the target, the grants of the event. -/
def equip (event : Event) (database : Database F) : Database F :=
  { database with grants := event.grants, searchGrants := event.searchGrants }

def execute (databases : Databases F) (event : Event) : Databases F × RespValue :=
  let equipped : Databases F := fun number => equip event (databases number)
  match event.command with
  | .copy src dst target replace => copyKey setup event src dst target replace equipped
  | _ =>
    let (database, reply) := (equipped event.database).execute setup event
    (Function.update equipped event.database database, reply)

end Step
end Kore.Search
