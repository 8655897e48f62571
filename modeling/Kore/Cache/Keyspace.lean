import Kore.Cache.Stream

/-! The unified keyspace: one table of slots, each a typed value with an optional expiry.
An expired slot stays in the table until something purges it. Scores and coordinates are
kept abstract; access statistics, flags and memory accounting are not modelled. -/

namespace Kore.Cache
open Foundation

/-- Double-precision numbers, as far as commands look at them. -/
class Double (F : Type) where
  parse : Bytes → Option F
  zero : F
  add : F → F → F
  less : F → F → Bool
  equal : F → F → Bool
  isNan : F → Bool
  equal_isNan : ∀ first second, equal first second = true → isNan first = isNan second
  isValidCoordinates : F → F → Bool
  formatScore : F → Bytes
  formatCoordinate : F → Bytes

inductive Error where
  | wrongType
  | entryTooLarge
  | invalidArgument (text : Bytes)
  deriving DecidableEq

def Error.toRespString : Error → Bytes
  | wrongType => ascii "WRONGTYPE Operation against a key holding the wrong kind of value"
  | entryTooLarge => ascii "ERR Entry too large"
  | invalidArgument text => ascii "ERR Invalid argument: " ++ text

inductive KeyType where
  | string | zset | geo | hash | list | set | stream
  deriving DecidableEq

inductive KeyValue (F : Type) where
  | string (value : Bytes)
  | hash (fields : FiniteMap Bytes Bytes)
  | list (items : List Bytes)
  | set (members : Finset Bytes)
  | zset (members : FiniteMap Bytes F)
  | geo (members : FiniteMap Bytes (F × F))
  | stream (stream : RedisStream)
  deriving DecidableEq

structure KeySlot (F : Type) where
  expiresAt : Option Nat
  value : KeyValue F
  deriving DecidableEq

abbrev Keyspace (F : Type) := FiniteMap Bytes (KeySlot F)

/-- The clock of a run, in milliseconds since the epoch, and the limit on string entries. -/
structure Setting where
  now : Nat
  maxEntrySize : Nat
  entryStructSize : Nat

variable {F : Type}

namespace KeyValue

def keyType : KeyValue F → KeyType
  | string _ => .string
  | hash _ => .hash
  | list _ => .list
  | set _ => .set
  | zset _ => .zset
  | geo _ => .geo
  | stream _ => .stream

def isTypedContainer : KeyValue F → Bool
  | string _ => false
  | _ => true

end KeyValue

namespace KeySlot

def new (value : KeyValue F) : KeySlot F := ⟨none, value⟩

def isExpired (now : Nat) (slot : KeySlot F) : Bool := slot.expiresAt.any fun expiry => decide (expiry ≤ now)

end KeySlot

/-- One kind of container: how it starts out and how it sits in a slot. -/
structure Container (F α : Type) where
  type : KeyType
  new : α
  wrap : α → KeyValue F
  unwrap : KeyValue F → Option α

def lists : Container F (List Bytes) := ⟨.list, [], .list, fun | .list items => some items | _ => none⟩

def sets : Container F (Finset Bytes) := ⟨.set, ∅, .set, fun | .set members => some members | _ => none⟩

def hashes : Container F (FiniteMap Bytes Bytes) := ⟨.hash, ∅, .hash, fun | .hash fields => some fields | _ => none⟩

def sortedSets : Container F (FiniteMap Bytes F) := ⟨.zset, ∅, .zset, fun | .zset members => some members | _ => none⟩

def geoSets : Container F (FiniteMap Bytes (F × F)) := ⟨.geo, ∅, .geo, fun | .geo members => some members | _ => none⟩

def streams : Container F RedisStream := ⟨.stream, .new, .stream, fun | .stream stream => some stream | _ => none⟩

namespace Keyspace
variable {α : Type}

section
variable (now : Nat) (key : Bytes) (keyspace : Keyspace F)

def purgeIfExpired : Keyspace F :=
  match keyspace.lookup key with
  | some slot => if slot.isExpired now then keyspace.erase key else keyspace
  | none => keyspace

def getKeyValue : Option (KeyValue F) :=
  ((keyspace.purgeIfExpired now key).lookup key).map KeySlot.value

def keyType : Option KeyType :=
  (keyspace.getKeyValue now key).map KeyValue.keyType

end

variable (container : Container F α) (key : Bytes) (keyspace : Keyspace F)

def delete : Keyspace F := keyspace.erase key

def flush : Keyspace F := ∅

def get : Option α :=
  (keyspace.lookup key).bind fun slot => container.unwrap slot.value

def getOrCreate (now : Nat) (key : Bytes) (keyspace : Keyspace F) :
    Except Error (Keyspace F × α) :=
  let purged := keyspace.purgeIfExpired now key
  match purged.lookup key with
  | none => .ok (purged.insert key (.new (container.wrap container.new)), container.new)
  | some slot =>
    match container.unwrap slot.value with
    | some value => .ok (purged, value)
    | none => .error .wrongType

def write (value : α) (keyspace : Keyspace F) : Keyspace F :=
  keyspace.update key fun slot => { slot with value := container.wrap value }

def remove : Keyspace F :=
  match keyspace.get container key with
  | some _ => keyspace.erase key
  | none => keyspace

end Keyspace
end Kore.Cache
