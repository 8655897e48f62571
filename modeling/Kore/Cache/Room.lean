import Kore.Cache.Eviction

/-! A keyspace whose operations ask for room. Whether there is room, and what is evicted to
make it, is decided by counters and by chance; seen from a command it is a list of grants,
one for each time it asks. -/

namespace Kore.Cache
open Foundation

/-- What came of one request for room. -/
structure Grant where
  evicted : List Bytes
  allowed : Bool

def Grant.free : Grant := ⟨[], true⟩

/-- A keyspace with the grants to come and the keys that were evicted so far. -/
structure Room (F : Type) where
  keyspace : Keyspace F
  grants : List Grant
  gone : List Bytes

namespace Room
variable {F α : Type}

def evict (keys : List Bytes) (room : Room F) : Room F :=
  { room with
    keyspace := keys.foldl (fun keyspace key => keyspace.erase key) room.keyspace
    gone := room.gone ++ keys.filter fun key => (room.keyspace.lookup key).isSome }

def ensureCapacity (room : Room F) : Room F × Except Refusal Unit :=
  let grant := room.grants.headD .free
  ({ room.evict grant.evicted with grants := room.grants.tail }, if grant.allowed then .ok () else .error .outOfMemory)

def onKeyspace (change : Keyspace F → Keyspace F) (room : Room F) : Room F := { room with keyspace := change room.keyspace }

def purge (now : Nat) (key : Bytes) (room : Room F) : Room F := room.onKeyspace (·.purgeIfExpired now key)

def store (setting : Setting) (key value : Bytes) (opts : StoreOptions) (room : Room F) : Room F × Except Refusal (Option Bytes) :=
  if setting.maxEntrySize < key.length + value.length + setting.entryStructSize then (room, .error (.refused .entryTooLarge))
  else match room.ensureCapacity with
    | (room, .error refusal) => (room, .error refusal)
    | (room, .ok ()) =>
      match room.keyspace.store setting key value opts with
      | .error error => (room, .error (.refused error))
      | .ok (keyspace, old) => ({ room with keyspace }, .ok old)

def getOrCreate (container : Container F α) (now : Nat) (key : Bytes) (room : Room F) : Room F × Except Refusal α :=
  let room := room.purge now key
  match room.keyspace.lookup key with
  | some slot =>
    match container.unwrap slot.value with
    | some value => (room, .ok value)
    | none => (room, .error (.refused .wrongType))
  | none =>
    match room.ensureCapacity with
    | (room, .error refusal) => (room, .error refusal)
    | (room, .ok ()) => (room.onKeyspace (·.insert key (.new (container.wrap container.new))), .ok container.new)

end Room
end Kore.Cache
