import Mathlib.Algebra.BigOperators.Group.Finset.Basic
import Kore.Foundation.Weights
import Kore.Cache.Keyspace

/-! Memory accounting: what a key is estimated to take up, and the counters that follow
it. Sizes are counted without an upper bound. How far the tables behind a container have
grown is not determined by its contents, so that capacities are kept beside them. -/

namespace Kore.Cache
open Foundation Function

def bytesOverhead : Nat := 24

def dictEntryOverhead : Nat := 32

def alignUp8 (size : Nat) : Nat := (size + 7) / 8 * 8

def withAllocOverhead (raw : Nat) : Nat := if raw = 0 then 0 else alignUp8 (raw + (raw + 7) / 8)

def estimateStringEntry (keyLength valueLength entryStructSize : Nat) : Nat :=
  withAllocOverhead (keyLength + valueLength + entryStructSize + bytesOverhead * 2 + dictEntryOverhead)

def estimateHashField (fieldLength valueLength : Nat) : Nat :=
  withAllocOverhead (fieldLength + valueLength + bytesOverhead * 2 + dictEntryOverhead)

def estimateListElement (length : Nat) : Nat := withAllocOverhead (length + bytesOverhead + 16)

def estimateSetMember (length : Nat) : Nat := withAllocOverhead (length + bytesOverhead + dictEntryOverhead)

def estimateZsetMember (length skipNodeSize : Nat) : Nat :=
  withAllocOverhead (length + bytesOverhead + dictEntryOverhead + skipNodeSize + 8)

def estimateKeyedObject (keyLength contentSize : Nat) : Nat :=
  withAllocOverhead (keyLength + bytesOverhead + dictEntryOverhead) + contentSize

/-- Sizes of the types of the program. -/
structure StructSizes where
  entry : Nat
  bytes : Nat
  hash : Nat
  list : Nat
  set : Nat
  sortedSet : Nat
  skipNode : Nat
  geoSet : Nat
  geoPoint : Nat
  stream : Nat
  streamEntry : Nat

/-- Room in the table of a container; a sorted set has a vector of nodes beside it. -/
structure Capacity where
  table : Nat
  nodes : Nat

inductive MemoryCategory where
  | cache | pubSub | sortedSets | geoSets | hashes | lists | sets | streams | search
  deriving DecidableEq

def MemoryCategory.all : List MemoryCategory := [.cache, .pubSub, .sortedSets, .geoSets, .hashes, .lists, .sets, .streams, .search]

namespace RedisStream

def entrySize (sizes : StructSizes) (fields : List (Bytes × Bytes)) : Nat :=
  withAllocOverhead (sizes.streamEntry + 16 +
    (fields.map fun field => field.1.length + field.2.length + bytesOverhead * 2 + dictEntryOverhead).sum)

def groupSize (name : Bytes) (group : ConsumerGroup) : Nat :=
  name.length + bytesOverhead + dictEntryOverhead + 64 + group.pending.size * (64 + dictEntryOverhead) +
    group.consumers.weight fun consumer _ => consumer.length + 32

def memorySize (sizes : StructSizes) (capacity : Capacity) (stream : RedisStream) : Nat :=
  withAllocOverhead (sizes.stream + stream.entries.size * 48 + capacity.table * 8 +
    (stream.entries.values.map (entrySize sizes)).sum + stream.groups.weight groupSize)

end RedisStream

namespace KeyValue
variable {F : Type}

def memoryCategory : KeyValue F → MemoryCategory
  | string _ => .cache
  | hash _ => .hashes
  | list _ => .lists
  | set _ => .sets
  | zset _ => .sortedSets
  | geo _ => .geoSets
  | stream _ => .streams

/-- The estimate for a value; that for a string includes its key. -/
def contentMemorySize (sizes : StructSizes) (capacity : Capacity) (key : Bytes) : KeyValue F → Nat
  | string value => estimateStringEntry key.length value.length sizes.entry
  | hash fields => withAllocOverhead (sizes.hash + capacity.table * 8) +
      fields.weight fun field value => estimateHashField field.length value.length
  | list items => withAllocOverhead (sizes.list + capacity.table * sizes.bytes) +
      (items.map fun item => estimateListElement item.length).sum
  | set members => withAllocOverhead (sizes.set + capacity.table * 8) + members.sum fun member => estimateSetMember member.length
  | zset members => withAllocOverhead (sizes.sortedSet + capacity.nodes * sizes.skipNode + capacity.table * (sizes.bytes + 8)) +
      members.weight fun member _ => estimateZsetMember member.length sizes.skipNode
  | geo members => withAllocOverhead (sizes.geoSet + capacity.table * 8 +
      members.weight fun member _ => member.length + member.length + bytesOverhead * 2 + dictEntryOverhead + sizes.geoPoint)
  | stream log => log.memorySize sizes capacity

def removalSize (sizes : StructSizes) (capacity : Capacity) (key : Bytes) (value : KeyValue F) : Nat :=
  if value.isTypedContainer then estimateKeyedObject key.length (value.contentMemorySize sizes capacity key)
  else value.contentMemorySize sizes capacity key

end KeyValue

/-- Counters by category, their running sum, and the limits. -/
structure MemoryTracker where
  memory : MemoryCategory → Nat
  total : Nat
  maxMemory : Nat
  maxMessageSize : Nat

namespace MemoryTracker

variable (size : Nat) (category : MemoryCategory) (tracker : MemoryTracker)

def canAllocate : Bool :=
  if category = .pubSub ∧ tracker.maxMessageSize < size then false
  else tracker.maxMemory = 0 || tracker.total + size ≤ tracker.maxMemory

def account : MemoryTracker :=
  if size = 0 then tracker
  else { tracker with
    memory := update tracker.memory category (tracker.memory category + size)
    total := tracker.total + size }

def deallocate : MemoryTracker :=
  if size = 0 then tracker
  else { tracker with
    memory := update tracker.memory category (tracker.memory category - size)
    total := tracker.total - min (tracker.memory category) size }

def Balanced : Prop := tracker.total = (MemoryCategory.all.map tracker.memory).sum

variable {size category tracker}

private theorem sum_update (memory : MemoryCategory → Nat) (category : MemoryCategory) (value : Nat) :
    (MemoryCategory.all.map (update memory category value)).sum + memory category =
      (MemoryCategory.all.map memory).sum + value := by
  cases category <;> simp [MemoryCategory.all] <;> omega

theorem Balanced.le (balanced : tracker.Balanced) (category : MemoryCategory) : tracker.memory category ≤ tracker.total := by
  have whole := sum_update tracker.memory category 0
  rw [← balanced] at whole
  omega

@[simp] theorem account_maxMemory : (tracker.account size category).maxMemory = tracker.maxMemory := by
  unfold account
  split <;> rfl

@[simp] theorem deallocate_maxMemory : (tracker.deallocate size category).maxMemory = tracker.maxMemory := by
  unfold deallocate
  split <;> rfl

@[simp] theorem account_total : (tracker.account size category).total = tracker.total + size := by
  unfold account
  split
  next none => rw [none, add_zero]
  next => rfl

theorem deallocate_memory (other : MemoryCategory) :
    (tracker.deallocate size category).memory other = tracker.memory other - if other = category then size else 0 := by
  unfold deallocate
  split
  next none => simp [none]
  next =>
    dsimp only
    rw [update_apply]
    split
    next same => rw [same]
    next => rfl

theorem deallocate_total (held : size ≤ tracker.memory category) :
    (tracker.deallocate size category).total = tracker.total - size := by
  unfold deallocate
  split
  next none => rw [none, Nat.sub_zero]
  next => rw [min_eq_right held]

theorem deallocate_balanced (balanced : tracker.Balanced) : (tracker.deallocate size category).Balanced := by
  unfold deallocate
  split
  next => exact balanced
  next =>
    have whole := sum_update tracker.memory category (tracker.memory category - size)
    have part := balanced.le category
    rw [← balanced] at whole
    rw [Balanced]
    dsimp only
    omega

end MemoryTracker
end Kore.Cache
