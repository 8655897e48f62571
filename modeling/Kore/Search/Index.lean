import Kore.Cache.Eviction

/-! Databases with search indices. An index is kept up by hand: `autoIndexKey` and
`autoRemoveFromIndices` stand at single places of the operations below, and nowhere else
does a change of a slot reach a document. A document is the text of the fields of a hash;
postings are made from it and are not kept. How a request for memory ends, and what is
evicted for it, is a list of grants, one for each time that it is asked for. -/

namespace Kore.Search
open Foundation Cache

structure SearchIndex where
  prefixes : List Bytes
  documents : FiniteMap Bytes (FiniteMap Bytes Bytes)

/-- Whether a key starts with one of the prefixes; without prefixes every key does. -/
def matchesPrefix (key : Bytes) (prefixes : List Bytes) : Bool := Cache.SearchIndex.matchesPrefix key ⟨prefixes, ∅⟩

namespace SearchIndex

def new (prefixes : List Bytes) : SearchIndex := ⟨prefixes, ∅⟩

def indexDocument (id : Bytes) (fields : FiniteMap Bytes Bytes) (index : SearchIndex) : SearchIndex :=
  { index with documents := index.documents.insert id fields }

def removeDocument (id : Bytes) (index : SearchIndex) : SearchIndex := { index with documents := index.documents.erase id }

def clearDocuments (index : SearchIndex) : SearchIndex := { index with documents := ∅ }

end SearchIndex

/-- How a request for memory ends, and what was evicted for it. -/
structure Grant where
  victims : List Victim
  allowed : Bool

def Grant.free : Grant := ⟨[], true⟩

/-- An order in which a hash table may come up with its keys. -/
structure Listing where
  names : Finset Bytes → List Bytes
  mem_names : ∀ set name, name ∈ names set ↔ name ∈ set

/-- One database; the grants are those of the command that is running. -/
structure Database (F : Type) where
  keyspace : Keyspace F
  indices : FiniteMap Bytes SearchIndex
  aliases : Bytes → Option Bytes
  grants : List Grant
  searchGrants : List Grant

/-- Fields as documents have them. Names that read alike are one field, and the last counts. -/
def indexFields (listing : Listing) (fields : FiniteMap Bytes Bytes) : FiniteMap Bytes Bytes :=
  (listing.names fields.keys).foldl (fun document name =>
    match fields.lookup name with
    | some value => document.insert (lossy name) (lossy value)
    | none => document) ∅

namespace Database
variable {F : Type}

def new : Database F := ⟨∅, ∅, fun _ => none, [], []⟩

variable (now : Nat) (key : Bytes) (database : Database F)

def autoRemoveFromIndices : Database F :=
  { database with
    indices := database.indices.mapValues fun index =>
      if matchesPrefix key index.prefixes then index.removeDocument key else index }

/-- Removes a slot and, if there was one, the documents of its key. -/
def delete : Database F × Bool :=
  match database.keyspace.lookup key with
  | some _ => ({ database with keyspace := database.keyspace.erase key }.autoRemoveFromIndices key, true)
  | none => (database, false)

def deleteMany (keys : List Bytes) : Database F × Nat :=
  keys.foldl (fun (database, count) key =>
    let (database, deleted) := database.delete key
    (database, if deleted then count + 1 else count)) (database, 0)

def purgeIfExpired : Database F :=
  match database.keyspace.lookup key with
  | some slot => if slot.isExpired now then (database.delete key).1 else database
  | none => database

/-- A key that is evicted goes with its documents; a document that is evicted leaves its key. -/
def evictCandidate : Victim → Database F
  | .key key => (database.delete key).1
  | .document name id => { database with indices := database.indices.update name (SearchIndex.removeDocument id) }

def ensureNonStringCapacity : Database F × Bool :=
  let grant := database.grants.headD .free
  ({ grant.victims.foldl evictCandidate database with grants := database.grants.tail }, grant.allowed)

def accountSearchIndexWrite : Database F × Bool :=
  let grant := database.searchGrants.headD .free
  ({ grant.victims.foldl evictCandidate database with searchGrants := database.searchGrants.tail }, grant.allowed)

/-- Puts a document into every index that the key matches, one after the other; an index for
which there is no memory is passed over. -/
def autoIndexKey (listing : Listing) (key : Bytes) (fields : FiniteMap Bytes Bytes) (database : Database F) : Database F :=
  let matching := (listing.names database.indices.keys).filter fun name =>
    (database.indices.lookup name).any fun index => matchesPrefix key index.prefixes
  matching.foldl (fun database name =>
    match database.accountSearchIndexWrite with
    | (database, true) => { database with indices := database.indices.update name (SearchIndex.indexDocument key fields) }
    | (database, false) => database) database

def getOrCreateHash : Database F × Except Refusal (FiniteMap Bytes Bytes) :=
  let database := database.purgeIfExpired now key
  match database.keyspace.lookup key with
  | some slot =>
    match hashes.unwrap slot.value with
    | some fields => (database, .ok fields)
    | none => (database, .error (.refused .wrongType))
  | none =>
    match database.ensureNonStringCapacity with
    | (database, false) => (database, .error .outOfMemory)
    | (database, true) => ({ database with keyspace := database.keyspace.insert key (.new (.hash ∅)) }, .ok ∅)

/-- Changes a hash that a command holds on to: nothing happens if it has been evicted. -/
def writeHash (fields : FiniteMap Bytes Bytes) (database : Database F) : Database F :=
  { database with keyspace := database.keyspace.write hashes key fields }

def removeHash : Database F :=
  { database with keyspace := database.keyspace.remove hashes key }

/-- Takes a refused write back; a hash that is empty then goes. -/
def rollBack (fields : FiniteMap Bytes Bytes) (database : Database F) : Database F :=
  if fields.keys = ∅ then (database.writeHash key fields).removeHash key else database.writeHash key fields

def expire (ttlMs : Nat) (database : Database F) : Database F × Bool :=
  let database := database.purgeIfExpired now key
  match database.keyspace.lookup key with
  | none => (database, false)
  | some slot =>
    if ttlMs = 0 then ((database.delete key).1, true)
    else ({ database with keyspace := database.keyspace.insert key { slot with expiresAt := some (now + ttlMs) } }, true)

def expireAtUnixMs (expireUnixMs : Int) (database : Database F) : Database F × Bool :=
  let database := database.purgeIfExpired now key
  match database.keyspace.lookup key with
  | none => (database, false)
  | some _ =>
    if expireUnixMs ≤ now then ((database.delete key).1, true)
    else database.expire now key (expireUnixMs - now).toNat

def noSuchKey : Refusal := .refused (.invalidArgument (ascii "no such key"))

/-- The slot moves as it is. What the indices hold for the two keys is left to the deletion
of the destination. -/
def rename (src dst : Bytes) (nx : Bool) (database : Database F) : Database F × Except Refusal Bool :=
  let database := database.purgeIfExpired now src
  match database.keyspace.lookup src with
  | none => (database, .error noSuchKey)
  | some slot =>
    if src = dst then (database, .ok true)
    else
      let database := database.purgeIfExpired now dst
      if nx && (database.keyspace.lookup dst).isSome then (database, .ok false)
      else
        let database := (database.delete dst).1
        ({ database with keyspace := (database.keyspace.erase src).insert dst slot }, .ok true)

/-- The value of a key with the time it has left. -/
def dumpKey : Database F × Option (KeyValue F × Int) :=
  let purged := database.purgeIfExpired now key
  (purged, (purged.keyspace.lookup key).map fun slot => (slot.value, database.keyspace.ttl now key))

/-- Puts a dumped value under a key. A hash that turns out too large stays, without its expiry. -/
def restoreKey (setting : Setting) (key : Bytes) (value : KeyValue F) (pttl : Int) (replace : Bool) (database : Database F) :
    Database F × Except Refusal Bool :=
  let database := database.purgeIfExpired setting.now key
  if (database.keyspace.lookup key).isSome && !replace then (database, .ok false)
  else
    let database := (database.delete key).1
    let limited (database : Database F) := if 0 < pttl then (database.expire setting.now key pttl.toNat).1 else database
    match value with
    | .hash fields =>
      match database.getOrCreateHash setting.now key with
      | (database, .error refusal) => (database, .error refusal)
      | (database, .ok _) =>
        match (database.writeHash key fields).ensureNonStringCapacity with
        | (database, false) => (database, .error .outOfMemory)
        | (database, true) => (limited database, .ok true)
    | .string text =>
      if setting.maxEntrySize < key.length + text.length + setting.entryStructSize then
        (database, .error (.refused .entryTooLarge))
      else match database.ensureNonStringCapacity with
        | (database, false) => (database, .error .outOfMemory)
        | (database, true) => (limited { database with keyspace := database.keyspace.insert key (.new value) }, .ok true)
    | value =>
      match database.ensureNonStringCapacity with
      | (database, false) => (database, .error .outOfMemory)
      | (database, true) => (limited { database with keyspace := database.keyspace.insert key (.new value) }, .ok true)

/-- What a time to live of `RESTORE` leaves: nothing is no expiry, and zero is for a time past. -/
def withRestoreTtl (ttl : Int) (absttl : Bool) : Int :=
  if ttl ≤ 0 then -1 else if absttl then (if ttl ≤ now then 0 else ttl - now) else ttl

def restoreSerialized (setting : Setting) (key : Bytes) (payload : Option (KeyValue F)) (ttl : Int) (replace absttl : Bool)
    (database : Database F) : Database F × Except Bytes Unit :=
  let database := database.purgeIfExpired setting.now key
  if (database.keyspace.lookup key).isSome && !replace then
    (database, .error (ascii "BUSYKEY Target key name already exists."))
  else match payload with
    | none => (database, .error (ascii "ERR DUMP payload version or checksum are wrong"))
    | some value =>
      let pttl := withRestoreTtl setting.now ttl absttl
      match database.restoreKey setting key value (if pttl = 0 then -1 else pttl) true with
      | (database, .error refusal) => (database, .error refusal.toRespString)
      | (database, .ok _) => (if pttl = 0 then (database.delete key).1 else database, .ok ())

def flush (database : Database F) : Database F :=
  { database with keyspace := Keyspace.flush, indices := database.indices.mapValues SearchIndex.clearDocuments }

def resolveName (name : Bytes) (database : Database F) : Bytes := (database.aliases name).getD name

/-- Alias names and index names share a namespace. -/
def createIndex (name : Bytes) (prefixes : List Bytes) (database : Database F) : Database F × Except Bytes Unit :=
  if (database.aliases name).isSome then
    (database, .error (ascii "Index name '" ++ name ++ ascii "' clashes with an existing alias"))
  else if (database.indices.lookup name).isSome then (database, .error (ascii "Index '" ++ name ++ ascii "' already exists"))
  else ({ database with indices := database.indices.insert name (.new prefixes) }, .ok ())

/-- The name may be an alias; the aliases of an index go with it. -/
def dropIndex (name : Bytes) (database : Database F) : Database F × Except Bytes Unit :=
  let real := database.resolveName name
  if (database.indices.lookup real).isSome then
    ({ database with
      indices := database.indices.erase real
      aliases := fun other => (database.aliases other).filter fun target => target ≠ real }, .ok ())
  else (database, .error (ascii "Index '" ++ name ++ ascii "' does not exist"))

def aliasAdd (other index : Bytes) (database : Database F) : Database F × Except Bytes Unit :=
  if (database.indices.lookup other).isSome then
    (database, .error (ascii "Alias clashes with an existing index name '" ++ other ++ ascii "'"))
  else if (database.aliases other).isSome then (database, .error (ascii "Alias '" ++ other ++ ascii "' already exists"))
  else if (database.indices.lookup (database.resolveName index)).isSome then
    ({ database with aliases := Function.update database.aliases other (some (database.resolveName index)) }, .ok ())
  else (database, .error (ascii "Unknown index name '" ++ index ++ ascii "'"))

def aliasDel (other : Bytes) (database : Database F) : Database F × Except Bytes Unit :=
  if (database.aliases other).isSome then ({ database with aliases := Function.update database.aliases other none }, .ok ())
  else (database, .error (ascii "Alias '" ++ other ++ ascii "' does not exist"))

def aliasUpdate (other index : Bytes) (database : Database F) : Database F × Except Bytes Unit :=
  if (database.indices.lookup other).isSome then
    (database, .error (ascii "Alias clashes with an existing index name '" ++ other ++ ascii "'"))
  else if (database.indices.lookup (database.resolveName index)).isSome then
    ({ database with aliases := Function.update database.aliases other (some (database.resolveName index)) }, .ok ())
  else (database, .error (ascii "Unknown index name '" ++ index ++ ascii "'"))

end Database
end Kore.Search
