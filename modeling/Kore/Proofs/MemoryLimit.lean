import Kore.Cache.Eviction

/-! The memory limit. A store credits the entry it replaces and then frees only the
difference; when the sampling draws that very entry the credit is spent twice. Whenever it
does not, or the other victims make up for it, a store ends within the limit. -/

namespace Kore.Proofs.MemoryLimit
open Foundation Foundation.FiniteMap Cache Cache.TrackedCache List MemoryTracker SearchIndex Option KeyValue Prod

variable {F : Type} {sizes : StructSizes} {now : Nat}
variable {name id : Bytes} {index : SearchIndex} {slot : KeySlot F}

def keyUsage (sizes : StructSizes) (cache : TrackedCache F) (category : MemoryCategory) : Nat :=
  cache.keyspace.weight fun key slot => if slot.value.memoryCategory = category then cache.slotSize sizes key slot else 0

def documentUsage (cache : TrackedCache F) : Nat := cache.indices.weight fun _ index => index.approxMemory

/-- Each counter of the keyspace is what removing all that it counts would give back. -/
structure Accurate (sizes : StructSizes) (cache : TrackedCache F) : Prop where
  keys : ∀ category, category ≠ .pubSub → category ≠ .search → cache.tracker.memory category = keyUsage sizes cache category
  documents : cache.tracker.memory .search = documentUsage cache
  balanced : cache.tracker.Balanced

/-- What is still taken up once the victims are gone. The document of a key goes with it
from the indices that cover the key. -/
def remaining (sizes : StructSizes) (cache : TrackedCache F) (victims : List Victim) : Nat :=
  cache.tracker.memory .pubSub +
  (cache.keyspace.weight fun key slot => if .key key ∈ victims then 0 else cache.slotSize sizes key slot) +
  cache.indices.weight fun name index => index.documents.weight fun id fields =>
    if .document name id ∈ victims ∨ (.key id ∈ victims ∧ index.matchesPrefix id = true) then 0
    else SearchIndex.documentApproxSize id fields

def victims (draws : List (Option Victim)) : List Victim := draws.reduceOption

theorem usage_by_category (sizes : StructSizes) (cache : TrackedCache F) :
    (cache.keyspace.weight fun key slot => cache.slotSize sizes key slot) =
      keyUsage sizes cache .cache + keyUsage sizes cache .sortedSets + keyUsage sizes cache .geoSets +
      keyUsage sizes cache .hashes + keyUsage sizes cache .lists + keyUsage sizes cache .sets + keyUsage sizes cache .streams := by
  simp only [keyUsage, ← weight_add]
  refine weight_congr ?_
  intro key slot _
  cases slot.value <;> simp [memoryCategory]

theorem Accurate.total {cache : TrackedCache F} (accurate : Accurate sizes cache) : cache.tracker.total = remaining sizes cache [] := by
  have whole := accurate.balanced
  have kinds := usage_by_category sizes cache
  rw [MemoryTracker.Balanced] at whole
  simp only [MemoryCategory.all, map_cons, map_nil, sum_cons, sum_nil, accurate.documents,
    accurate.keys .cache (by decide) (by decide), accurate.keys .sortedSets (by decide) (by decide),
    accurate.keys .geoSets (by decide) (by decide), accurate.keys .hashes (by decide) (by decide),
    accurate.keys .lists (by decide) (by decide), accurate.keys .sets (by decide) (by decide),
    accurate.keys .streams (by decide) (by decide)] at whole
  have documents : (cache.indices.weight fun _ index => index.documents.weight fun id fields =>
      documentApproxSize id fields) = documentUsage cache := rfl
  simp only [remaining, not_mem_nil, false_and, or_false, if_false, documents]
  omega

structure SameLimits (before after : TrackedCache F) : Prop where
  maxMemory : after.tracker.maxMemory = before.tracker.maxMemory
  pubSub : after.tracker.memory .pubSub = before.tracker.memory .pubSub
  capacities : after.capacities = before.capacities

variable {first second third : TrackedCache F}

theorem SameLimits.trans (early : SameLimits first second) (late : SameLimits second third) : SameLimits first third :=
  ⟨late.maxMemory.trans early.maxMemory, late.pubSub.trans early.pubSub, late.capacities.trans early.capacities⟩

section removal
variable {cache : TrackedCache F} {key : Bytes} {slot : KeySlot F}

theorem approxMemory_removeDocument (id : Bytes) (index : SearchIndex) :
    index.documentSize id + (index.removeDocument id).approxMemory = index.approxMemory := by
  rw [documentSize, removeDocument, approxMemory, approxMemory]
  cases found : index.documents.lookup id with
  | none => simp [erase_absent found]
  | some fields => exact weight_erase documentApproxSize found

theorem autoRemove_usage (key : Bytes) (cache : TrackedCache F) :
    (cache.indices.weight fun _ index => if index.matchesPrefix key then index.documentSize key else 0) +
      documentUsage (cache.autoRemoveFromIndices key) = documentUsage cache := by
  rw [documentUsage, autoRemoveFromIndices, weight_mapValues, ← weight_add]
  refine weight_congr ?_
  intro name index _
  split
  next => exact approxMemory_removeDocument key index
  next => exact zero_add _

theorem evictSearchDocument_usage (id : Bytes) (found : cache.indices.lookup name = some index) :
    index.documentSize id + documentUsage (cache.evictSearchDocument name id) = documentUsage cache := by
  have changed := weight_update (fun _ index => approxMemory index) (removeDocument id) found
  have part := approxMemory_removeDocument id index
  unfold evictSearchDocument documentUsage
  dsimp only
  omega

section
variable (accurate : Accurate sizes cache)
include accurate

theorem Accurate.slot_held (found : cache.keyspace.lookup key = some slot) :
    cache.slotSize sizes key slot ≤ cache.tracker.memory slot.value.memoryCategory := by
  have keyed : slot.value.memoryCategory ≠ .pubSub ∧ slot.value.memoryCategory ≠ .search := by
    cases slot.value <;> simp [memoryCategory]
  rw [accurate.keys _ keyed.1 keyed.2]
  refine le_trans (le_of_eq ?_) (le_weight _ found)
  rw [if_pos rfl]

theorem removeKeyValueRaw_accurate (found : cache.keyspace.lookup key = some slot) :
    Accurate sizes (cache.removeKeyValueRaw sizes key) := by
  have keyed : slot.value.memoryCategory ≠ .search := by cases slot.value <;> simp [memoryCategory]
  rw [removeKeyValueRaw, found]
  refine ⟨?_, ?_, deallocate_balanced accurate.balanced⟩
  · intro category notPubSub notSearch
    have usage := weight_erase (fun key slot => if slot.value.memoryCategory = category then cache.slotSize sizes key slot else 0) found
    rw [deallocate_memory, accurate.keys category notPubSub notSearch, keyUsage, ← usage]
    simp only [eq_comm (a := category), Nat.add_sub_cancel_left]
    rfl
  · rw [deallocate_memory, if_neg keyed.symm]
    exact accurate.documents

theorem autoRemoveFromIndices_accurate : Accurate sizes (cache.autoRemoveFromIndices key) := by
  refine ⟨?_, ?_, deallocate_balanced accurate.balanced⟩
  · intro category notPubSub notSearch
    rw [autoRemoveFromIndices, deallocate_memory, if_neg notSearch]
    exact accurate.keys category notPubSub notSearch
  · have usage := autoRemove_usage key cache
    rw [autoRemoveFromIndices, deallocate_memory, if_pos rfl, accurate.documents]
    rw [autoRemoveFromIndices] at usage
    omega

theorem evictSearchDocument_accurate
    (found : cache.indices.lookup name = some index) : Accurate sizes (cache.evictSearchDocument name id) := by
  refine ⟨?_, ?_, deallocate_balanced accurate.balanced⟩
  · intro category notPubSub notSearch
    rw [evictSearchDocument, deallocate_memory, if_neg notSearch]
    exact accurate.keys category notPubSub notSearch
  · have usage := evictSearchDocument_usage id found
    have tracked : (cache.evictSearchDocument name id).tracker.memory .search =
        cache.tracker.memory .search - index.documentSize id := by
      rw [evictSearchDocument, deallocate_memory, if_pos rfl, found]
      rfl
    rw [tracked, accurate.documents]
    omega

end

end removal

structure Evicted (sizes : StructSizes) (before after : TrackedCache F) (gone : List Victim) : Prop where
  accurate : Accurate sizes after
  limits : SameLimits before after
  slots : ∀ key, after.keyspace.lookup key = if .key key ∈ gone then none else before.keyspace.lookup key
  left : ∀ later, remaining sizes after later = remaining sizes before (gone ++ later)

theorem Evicted.refl {cache : TrackedCache F} (accurate : Accurate sizes cache) : Evicted sizes cache cache [] :=
  ⟨accurate, ⟨rfl, rfl, rfl⟩, fun _ => by simp, fun _ => rfl⟩

theorem Evicted.trans {early late : List Victim} (start : Evicted sizes first second early)
    (rest : Evicted sizes second third late) : Evicted sizes first third (early ++ late) := by
  refine ⟨rest.accurate, start.limits.trans rest.limits, ?_, ?_⟩
  · intro key
    rw [rest.slots, start.slots]
    simp only [mem_append]
    split <;> split <;> simp_all
  · intro later
    rw [rest.left, start.left, append_assoc]

theorem Evicted.total {before after : TrackedCache F} {gone : List Victim} (evicted : Evicted sizes before after gone) :
    after.tracker.total = remaining sizes before gone := by
  rw [evicted.accurate.total, evicted.left, append_nil]

section victim
variable {cache after : TrackedCache F} {bytes : Nat}

theorem evictKey_left {key : Bytes} (found : cache.keyspace.lookup key = some slot) (later : List Victim) :
    remaining sizes ((cache.removeKeyValueRaw sizes key).autoRemoveFromIndices key) later =
      remaining sizes cache ([.key key] ++ later) := by
  have keyed : slot.value.memoryCategory ≠ .pubSub := by cases slot.value <;> simp [memoryCategory]
  unfold remaining
  congr 1
  · congr 1
    · simp [autoRemoveFromIndices, removeKeyValueRaw, found, deallocate_memory, keyed.symm]
    · simp only [autoRemoveFromIndices, removeKeyValueRaw, found, weight_erase_eq]
      refine weight_congr ?_
      intro other slot _
      simp only [cons_append, nil_append, mem_cons, Victim.key.injEq]
      split <;> simp_all [slotSize]
  · simp only [autoRemoveFromIndices, removeKeyValueRaw, found, weight_mapValues]
    refine weight_congr ?_
    intro name index _
    split
    next covered =>
      rw [removeDocument, weight_erase_eq]
      refine weight_congr ?_
      intro id fields _
      by_cases same : id = key
      · simp [same, covered]
      · simp [same, matchesPrefix]
    next uncovered =>
      refine weight_congr ?_
      intro id fields _
      by_cases same : id = key
      · simp [same, uncovered]
      · simp [same]

theorem evictDocument_left (later : List Victim) :
    remaining sizes (cache.evictSearchDocument name id) later = remaining sizes cache ([.document name id] ++ later) := by
  unfold remaining
  congr 1
  · congr 1
    · simp [evictSearchDocument, deallocate_memory]
    · refine weight_congr ?_
      intro other slot _
      simp [evictSearchDocument, slotSize]
  · simp only [evictSearchDocument, weight_update_eq]
    refine weight_congr ?_
    intro other index _
    by_cases same : other = name
    · rw [if_pos same, removeDocument, weight_erase_eq]
      refine weight_congr ?_
      intro other fields _
      by_cases document : other = id
      · simp [same, document]
      · simp [same, document, matchesPrefix]
    · rw [if_neg same]
      refine weight_congr ?_
      intro other fields _
      simp [same]

section
variable (accurate : Accurate sizes cache)
include accurate

theorem evictKey_total {key : Bytes} (found : cache.keyspace.lookup key = some slot) :
    ((cache.removeKeyValueRaw sizes key).autoRemoveFromIndices key).tracker.total + cache.slotSize sizes key slot ≤
      cache.tracker.total := by
  have removed := removeKeyValueRaw_accurate accurate found
  have usage := autoRemove_usage key (cache.removeKeyValueRaw sizes key)
  have held := accurate.slot_held found
  have inside := accurate.balanced.le slot.value.memoryCategory
  have lower : (cache.removeKeyValueRaw sizes key).tracker.total = cache.tracker.total - cache.slotSize sizes key slot := by
    rw [removeKeyValueRaw, found]
    exact deallocate_total held
  rw [autoRemoveFromIndices, deallocate_total (by rw [removed.documents]; omega)]
  omega

theorem evictDocument_total (found : cache.indices.lookup name = some index) :
    (cache.evictSearchDocument name id).tracker.total + index.documentSize id ≤ cache.tracker.total := by
  have usage := evictSearchDocument_usage id found
  have inside := accurate.balanced.le .search
  have held : index.documentSize id ≤ cache.tracker.memory .search := by
    rw [accurate.documents]
    omega
  simp only [evictSearchDocument, found, map_some, getD_some, deallocate_total held]
  omega

theorem evictCandidate_spec {victim : Victim} (done : cache.evictCandidate sizes now victim = some (after, bytes)) :
    Evicted sizes cache after [victim] ∧ after.tracker.total + bytes ≤ cache.tracker.total := by
  cases victim with
  | key key =>
    obtain ⟨slot, found, rest⟩ := bind_eq_some_iff.mp done
    split at rest
    · cases rest
    cases rest
    refine ⟨⟨autoRemoveFromIndices_accurate (removeKeyValueRaw_accurate accurate found), ?_, ?_, evictKey_left found⟩,
      evictKey_total accurate found⟩
    · have keyed : slot.value.memoryCategory ≠ .pubSub := by cases slot.value <;> simp [memoryCategory]
      constructor <;> simp [autoRemoveFromIndices, removeKeyValueRaw, found, deallocate_memory, keyed.symm]
    · intro other
      simp only [autoRemoveFromIndices, removeKeyValueRaw, found, mem_singleton, Victim.key.injEq]
      split
      next same => rw [same, Finmap.lookup_erase]
      next different => rw [Finmap.lookup_erase_ne different]
  | document name id =>
    obtain ⟨index, found, rest⟩ := bind_eq_some_iff.mp done
    split at rest
    · cases rest
    cases rest
    refine ⟨⟨evictSearchDocument_accurate accurate found, ?_, ?_, evictDocument_left⟩, evictDocument_total accurate found⟩
    · constructor <;> simp [evictSearchDocument, deallocate_memory]
    · intro other
      simp [evictSearchDocument]

end

end victim

/-- A run of rounds that frees enough. The bound is on what was still missing at the start. -/
theorem evictRounds_spec {needed : Nat} {after : TrackedCache F} (draws : List (Option Victim)) (freed emptyRounds : Nat)
    (cache : TrackedCache F) (accurate : Accurate sizes cache)
    (done : evictRounds sizes now needed draws freed emptyRounds cache = some (after, .ok ())) :
    Evicted sizes cache after (victims draws) ∧ after.tracker.total + (needed - freed) ≤ cache.tracker.total := by
  induction draws generalizing freed emptyRounds cache with
  | nil =>
    rw [evictRounds] at done
    split at done
    next enough =>
      cases done
      exact ⟨.refl accurate, by omega⟩
    next => cases done
  | cons draw draws ih =>
    unfold evictRounds at done
    split at done
    · cases done
    cases draw with
    | none =>
      dsimp only at done
      split at done
      next => exact ih freed _ cache accurate done
      next =>
        split at done
        next => simp at done
        next => cases done
    | some victim =>
      obtain ⟨⟨next, bytes⟩, evicted, rest⟩ := bind_eq_some_iff.mp done
      obtain ⟨first, room⟩ := evictCandidate_spec accurate evicted
      obtain ⟨others, more⟩ := ih (freed + bytes) 0 next first.accurate rest
      exact ⟨first.trans others, by omega⟩

def entrySize (sizes : StructSizes) (key value : Bytes) : Nat := estimateStringEntry key.length value.length sizes.entry

def existingSize (sizes : StructSizes) (now : Nat) (cache : TrackedCache F) (key : Bytes) : Nat :=
  ((cache.getStringEntry now key).map (cache.slotSize sizes key)).getD 0

section store
variable {cache after : TrackedCache F} {key value : Bytes} {opts : StoreOptions} {draws : List (Option Victim)}

private theorem atOnce_some {α : Type} {answer result : Tracked F α} (done : atOnce draws answer = some result) :
    draws = [] ∧ answer = result := by
  rw [atOnce] at done
  split at done
  next none => exact ⟨none, some.inj done⟩
  next => cases done

/-- Room is found either at once or by freeing the difference to the entry that is replaced. -/
theorem reserve_spec (within : cache.tracker.total ≤ cache.tracker.maxMemory) (limited : cache.tracker.maxMemory ≠ 0)
    (done : cache.reserve sizes now key value draws = some (after, .ok ())) :
    (draws = [] ∧ after = cache ∧
      cache.tracker.total + (entrySize sizes key value - existingSize sizes now cache key) ≤ cache.tracker.maxMemory) ∨
    evictRounds sizes now (entrySize sizes key value - existingSize sizes now cache key) draws 0 0 cache = some (after, .ok ()) := by
  unfold reserve at done
  dsimp only at done
  split at done
  next =>
    unfold ensureCapacity at done
    split at done
    next free =>
      obtain ⟨none, same⟩ := atOnce_some done
      refine .inl ⟨none, (congrArg fst same).symm, ?_⟩
      unfold entrySize existingSize
      omega
    next =>
      split at done
      next fits =>
        obtain ⟨none, same⟩ := atOnce_some done
        refine .inl ⟨none, (congrArg fst same).symm, ?_⟩
        simpa [canAllocate, limited, entrySize, existingSize] using fits
      next =>
        split at done
        next =>
          unfold evictMemory at done
          split at done
          next => cases (congrArg snd (atOnce_some done).2)
          next => exact .inr done
        next => cases (congrArg snd (atOnce_some done).2)
  next fits =>
    obtain ⟨none, same⟩ := atOnce_some done
    refine .inl ⟨none, (congrArg fst same).symm, ?_⟩
    unfold entrySize
    omega

theorem stored_over_string {keyspace : Keyspace F} {setting : Setting} {result : Keyspace F × Option Bytes}
    (done : keyspace.store setting key value opts = .ok result) (found : keyspace.lookup key = some slot) :
    slot.value.memoryCategory = .cache := by
  unfold Keyspace.store at done
  split at done
  next => cases done
  next =>
    cases held : slot.value with
    | string => rfl
    | _ => simp only [Keyspace.mutateString, found, held] at done; cases done

theorem commit_total (accurate : Accurate sizes cache) {old : Option Bytes}
    (done : cache.commit sizes now key value opts = (after, .ok old)) :
    after.tracker.maxMemory = cache.tracker.maxMemory ∧
    ∃ oldSize, oldSize = ((cache.keyspace.lookup key).map (cache.slotSize sizes key)).getD 0 ∧ oldSize ≤ cache.tracker.total ∧
      after.tracker.total = if storeWrites now key opts cache.keyspace then cache.tracker.total - oldSize + entrySize sizes key value
        else cache.tracker.total := by
  unfold commit at done
  cases stored : cache.keyspace.store (cache.setting sizes now) key value opts with
  | error error => rw [stored] at done; cases (congrArg snd done)
  | ok result =>
    have held : ((cache.keyspace.lookup key).map (cache.slotSize sizes key)).getD 0 ≤ cache.tracker.memory .cache := by
      cases found : cache.keyspace.lookup key with
      | none => exact Nat.zero_le _
      | some slot => exact (stored_over_string stored found) ▸ accurate.slot_held found
    rw [stored] at done
    dsimp only at done
    split at done
    next writes =>
      cases done
      refine ⟨by simp [accountReplace], _, rfl, held.trans (accurate.balanced.le _), ?_⟩
      simp [accountReplace, account_total, deallocate_total held, writes, entrySize]
    next keeps =>
      cases done
      exact ⟨rfl, _, rfl, held.trans (accurate.balanced.le _), by rw [if_neg keeps]⟩

/-- What is credited is given back when the entry is replaced. -/
theorem existingSize_le (sizes : StructSizes) (now : Nat) (cache : TrackedCache F) (key : Bytes) :
    existingSize sizes now cache key ≤ ((cache.keyspace.lookup key).map (cache.slotSize sizes key)).getD 0 := by
  unfold existingSize getStringEntry
  cases cache.keyspace.lookup key with
  | none => rfl
  | some slot =>
    rw [filter_some]
    split
    next => rfl
    next => exact Nat.zero_le _

/-- The entry itself is not drawn, or it is not written after all, or the victims free
enough for the whole of it. -/
def Spared (sizes : StructSizes) (cache : TrackedCache F) (key value : Bytes) (opts : StoreOptions) (draws : List (Option Victim)) :
    Prop :=
  .key key ∉ victims draws ∨ opts.xx = true ∨
    remaining sizes cache (victims draws) + entrySize sizes key value ≤ cache.tracker.maxMemory

/-- A store that succeeds keeps to the limit exactly if it does not spend its credit twice. -/
theorem store_within_limit_iff {old : Option Bytes} (accurate : Accurate sizes cache) (limited : 0 < cache.tracker.maxMemory)
    (within : cache.tracker.total ≤ cache.tracker.maxMemory)
    (done : cache.store sizes now key value opts draws = some (after, .ok old)) :
    after.tracker.total ≤ after.tracker.maxMemory ↔ Spared sizes cache key value opts draws := by
  unfold store at done
  split at done
  · cases (congrArg snd (atOnce_some done).2)
  obtain ⟨⟨roomy, room⟩, reserved, committed⟩ := bind_eq_some_iff.mp done
  cases room with
  | error refusal => simp at committed
  | ok =>
    have credit := existingSize_le sizes now cache key
    rcases reserve_spec within (Nat.pos_iff_ne_zero.mp limited) reserved with ⟨rfl, rfl, fits⟩ | rounds
    · obtain ⟨limit, oldSize, known, part, total⟩ := commit_total accurate (some.inj committed)
      refine iff_of_true ?_ (.inl not_mem_nil)
      rw [limit, total]
      split <;> omega
    · obtain ⟨evicted, room⟩ := evictRounds_spec draws 0 0 cache accurate rounds
      obtain ⟨limit, oldSize, known, part, total⟩ := commit_total evicted.accurate (some.inj committed)
      have left := evicted.total
      rw [limit, total, evicted.limits.maxMemory]
      rw [evicted.slots key] at known
      by_cases drawn : .key key ∈ victims draws
      · -- The slot is gone: nothing is given back, and only XX keeps the entry out.
        have writes : storeWrites now key opts roomy.keyspace = !opts.xx := by
          rw [storeWrites, evicted.slots key, if_pos drawn]
        simp only [writes, Spared, drawn, not_true_eq_false, false_or, known]
        cases opts.xx with
        | true | false => simp; omega
      · refine iff_of_true ?_ (.inl drawn)
        have same : roomy.slotSize sizes key = cache.slotSize sizes key := by
          funext slot
          rw [slotSize, slotSize, evicted.limits.capacities]
        rw [if_neg drawn, same] at known
        split <;> omega

end store

def wordSizes : StructSizes := ⟨112, 32, 48, 32, 48, 120, 72, 48, 56, 136, 40⟩

/-- A cache that is full to the byte with strings, under the policy that draws any key. -/
def fullCache (keyspace : Keyspace Int) (used : Nat) : TrackedCache Int where
  keyspace := keyspace
  capacities := fun _ => ⟨0, 0⟩
  indices := ∅
  tracker := ⟨fun category => if category = .cache then used else 0, used, used, 1024⟩
  policy := .allKeysRandom
  evictEnabled := true
  maxEntrySize := 1024

private theorem full_accurate {keyspace : Keyspace Int} {used : Nat}
    (counted : ∀ category, keyUsage wordSizes (fullCache keyspace used) category = if category = .cache then used else 0) :
    Accurate wordSizes (fullCache keyspace used) := by
  refine ⟨?_, rfl, ?_⟩
  · intro category _ _
    rw [counted]
    rfl
  · simp [MemoryTracker.Balanced, fullCache, MemoryCategory.all]

/-- The only entry of a full cache grows by eight bytes: it is drawn to make room for
itself, and what it gives back counts twice. -/
theorem replaced_entry_evicted :
    let cache := fullCache (Finmap.singleton (ascii "k") (.new (.string (ascii "12345678")))) 232
    Accurate wordSizes cache ∧ 0 < cache.tracker.maxMemory ∧ cache.tracker.total ≤ cache.tracker.maxMemory ∧
    ∃ after, cache.store wordSizes 0 (ascii "k") (ascii "123456789012345") .default [some (.key (ascii "k"))] = some (after, .ok none) ∧
      after.tracker.maxMemory < after.tracker.total := by
  refine ⟨full_accurate ?_, by decide, by decide, _, rfl, by decide +kernel⟩
  intro category
  cases category <;> decide +kernel

def twoEntries : Keyspace Int :=
  (Finmap.singleton (ascii "k") (.new (.string (ascii "12345678")))).insert (ascii "m") (.new (.string (ascii "12345678")))

/-- The same with a second entry, which is the one that is drawn. -/
theorem other_entry_evicted :
    ∃ after, (fullCache twoEntries 464).store wordSizes 0 (ascii "k") (ascii "123456789012345") .default [some (.key (ascii "m"))] =
        some (after, .ok none) ∧ after.tracker.total ≤ after.tracker.maxMemory := by
  have counted : ∀ category, keyUsage wordSizes (fullCache twoEntries 464) category = if category = .cache then 464 else 0 := by
    intro category
    cases category <;> decide +kernel
  have stored : ∃ after, (fullCache twoEntries 464).store wordSizes 0 (ascii "k") (ascii "123456789012345") .default
      [some (.key (ascii "m"))] = some (after, .ok none) := ⟨_, rfl⟩
  obtain ⟨after, done⟩ := stored
  exact ⟨after, done, (store_within_limit_iff (full_accurate counted) (by decide) (by decide) done).mpr (.inl (by decide))⟩

end Kore.Proofs.MemoryLimit
