import Kore.Cache.Memory
import Kore.Cache.Strings

/-! Stores under a memory limit. What a round of sampling comes up with depends on chance
and on access statistics that are not modelled: the draws of a run are given, and a list of
draws that no run produces has no result. Expired slots and, under the volatile policies,
slots without expiry are never drawn; documents of a search index have no expiry. -/

namespace Kore.Cache
open Foundation

inductive EvictionPolicy where
  | noEviction | allKeysLru | volatileLru | allKeysLfu | volatileLfu | allKeysRandom | volatileRandom | volatileTtl
  deriving DecidableEq

namespace EvictionPolicy

def volatileOnly : EvictionPolicy → Bool
  | volatileLru | volatileLfu | volatileRandom | volatileTtl => true
  | _ => false

def allkeys : EvictionPolicy → Bool
  | allKeysLru | allKeysLfu | allKeysRandom => true
  | _ => false

end EvictionPolicy

/-- An index over the keys with one of its prefixes; a document is kept as the estimated
sizes of its fields. -/
structure SearchIndex where
  prefixes : List Bytes
  documents : FiniteMap Bytes (FiniteMap Bytes Nat)

namespace SearchIndex

def documentApproxSize (id : Bytes) (fields : FiniteMap Bytes Nat) : Nat :=
  withAllocOverhead (id.length + bytesOverhead + dictEntryOverhead + 64 +
    fields.weight fun name size => name.length + size + dictEntryOverhead + 48 + 32)

def matchesPrefix (key : Bytes) (index : SearchIndex) : Bool :=
  index.prefixes = [] || index.prefixes.any fun front => front.isPrefixOf (lossy key)

def approxMemory (index : SearchIndex) : Nat := index.documents.weight documentApproxSize

def documentSize (id : Bytes) (index : SearchIndex) : Nat := ((index.documents.lookup id).map (documentApproxSize id)).getD 0

def removeDocument (id : Bytes) (index : SearchIndex) : SearchIndex := { index with documents := index.documents.erase id }

end SearchIndex

inductive Victim where
  | key (key : Bytes)
  | document (index id : Bytes)
  deriving DecidableEq

inductive Refusal where
  | outOfMemory
  | refused (error : Error)

def Refusal.toRespString : Refusal → Bytes
  | outOfMemory => ascii "OOM command not allowed when used memory > 'maxmemory'"
  | refused error => error.toRespString

structure TrackedCache (F : Type) where
  keyspace : Keyspace F
  capacities : Bytes → Capacity
  indices : FiniteMap Bytes SearchIndex
  tracker : MemoryTracker
  policy : EvictionPolicy
  evictEnabled : Bool
  maxEntrySize : Nat

abbrev Tracked (F α : Type) := TrackedCache F × Except Refusal α

namespace TrackedCache
variable {F : Type} (sizes : StructSizes) (now : Nat) (key : Bytes) (cache : TrackedCache F)

def setting : Setting := ⟨now, cache.maxEntrySize, sizes.entry⟩

def slotSize (key : Bytes) (slot : KeySlot F) : Nat :=
  slot.value.removalSize sizes (cache.capacities key) key

def removeKeyValueRaw : TrackedCache F :=
  match cache.keyspace.lookup key with
  | some slot => { cache with
      keyspace := cache.keyspace.erase key
      tracker := cache.tracker.deallocate (cache.slotSize sizes key slot) slot.value.memoryCategory }
  | none => cache

/-- The counter of the indices saturates, so that taking off the documents of a key one by
one is taking off their sum. -/
def autoRemoveFromIndices : TrackedCache F :=
  { cache with
    indices := cache.indices.mapValues fun index => if index.matchesPrefix key then index.removeDocument key else index
    tracker := cache.tracker.deallocate
      (cache.indices.weight fun _ index => if index.matchesPrefix key then index.documentSize key else 0) .search }

def evictSearchDocument (index id : Bytes) (cache : TrackedCache F) : TrackedCache F :=
  { cache with
    indices := cache.indices.update index (SearchIndex.removeDocument id)
    tracker := cache.tracker.deallocate (((cache.indices.lookup index).map (SearchIndex.documentSize id)).getD 0) .search }

def evictCandidate : Victim → Option (TrackedCache F × Nat)
  | .key key => do
    let slot ← cache.keyspace.lookup key
    if slot.isExpired now || (cache.policy.volatileOnly && slot.expiresAt.isNone) then none
    else some ((cache.removeKeyValueRaw sizes key).autoRemoveFromIndices key, cache.slotSize sizes key slot)
  | .document name id => do
    let index ← cache.indices.lookup name
    if !cache.policy.allkeys || (index.documents.lookup id).isNone then none
    else some (cache.evictSearchDocument name id, index.documentSize id)

def evictRounds (sizes : StructSizes) (now : Nat) (needed : Nat) :
    List (Option Victim) → Nat → Nat → TrackedCache F → Option (Tracked F Unit)
  | [], freed, _, cache => if needed ≤ freed then some (cache, .ok ()) else none
  | draw :: draws, freed, emptyRounds, cache =>
    if needed ≤ freed then none
    else match draw with
      | none =>
        if emptyRounds + 1 < 3 then evictRounds sizes now needed draws freed (emptyRounds + 1) cache
        else if draws = [] then some (cache, .error .outOfMemory)
        else none
      | some victim => do
        let (cache, bytes) ← cache.evictCandidate sizes now victim
        evictRounds sizes now needed draws (freed + bytes) 0 cache

def atOnce {α : Type} (draws : List (Option Victim)) (answer : Tracked F α) : Option (Tracked F α) :=
  if draws = [] then some answer else none

def evictMemory (needed : Nat) (draws : List (Option Victim)) (cache : TrackedCache F) :
    Option (Tracked F Unit) :=
  if cache.policy = .noEviction then atOnce draws (cache, .error .outOfMemory)
  else evictRounds sizes now needed draws 0 0 cache

def evictionAllowed : Bool := cache.policy ≠ .noEviction && cache.evictEnabled

def ensureCapacity (needed : Nat) (draws : List (Option Victim)) (cache : TrackedCache F) :
    Option (Tracked F Unit) :=
  if needed = 0 then atOnce draws (cache, .ok ())
  else if cache.tracker.maxMemory = 0 then atOnce draws (cache, .ok ())
  else if cache.tracker.canAllocate needed .cache then atOnce draws (cache, .ok ())
  else if cache.evictionAllowed then cache.evictMemory sizes now needed draws
  else atOnce draws (cache, .error .outOfMemory)

def getStringEntry : Option (KeySlot F) :=
  (cache.keyspace.lookup key).filter fun slot => !slot.isExpired now && !slot.value.isTypedContainer

def accountReplace (oldSize newSize : Nat) (cache : TrackedCache F) : TrackedCache F :=
  { cache with tracker := (cache.tracker.deallocate oldSize .cache).account newSize .cache }

/-- Room for the entry, crediting what it replaces. -/
def reserve (value : Bytes) (draws : List (Option Victim)) (cache : TrackedCache F) :
    Option (Tracked F Unit) :=
  let entrySize := estimateStringEntry key.length value.length sizes.entry
  if cache.tracker.maxMemory ≠ 0 ∧ cache.tracker.maxMemory < cache.tracker.total + entrySize then
    let existingSize := ((cache.getStringEntry now key).map (cache.slotSize sizes key)).getD 0
    cache.ensureCapacity sizes now (entrySize - existingSize) draws
  else atOnce draws (cache, .ok ())

def storeWrites (opts : StoreOptions) (keyspace : Keyspace F) : Bool :=
  match keyspace.lookup key with
  | some slot => let live := Keyspace.slotTtlLive now slot.expiresAt; !(opts.nx && live) && !(opts.xx && !live)
  | none => !opts.xx

def commit (value : Bytes) (opts : StoreOptions) (cache : TrackedCache F) :
    Tracked F (Option Bytes) :=
  match cache.keyspace.store (cache.setting sizes now) key value opts with
  | .error error => (cache, .error (.refused error))
  | .ok (keyspace, old) =>
    if storeWrites now key opts cache.keyspace then
      let oldSize := ((cache.keyspace.lookup key).map (cache.slotSize sizes key)).getD 0
      let newSize := estimateStringEntry key.length value.length sizes.entry
      ({ cache with keyspace := keyspace }.accountReplace oldSize newSize, .ok old)
    else (cache, .ok old)

def store (value : Bytes) (opts : StoreOptions) (draws : List (Option Victim))
    (cache : TrackedCache F) : Option (Tracked F (Option Bytes)) :=
  if cache.maxEntrySize < key.length + value.length + sizes.entry then atOnce draws (cache, .error (.refused .entryTooLarge))
  else do
    let (cache, room) ← cache.reserve sizes now key value draws
    match room with
    | .error refusal => some (cache, .error refusal)
    | .ok () => some (cache.commit sizes now key value opts)

end TrackedCache
end Kore.Cache
