import Mathlib.Data.Finmap

/-! Finite maps. Hash tables are unordered finite maps; trees are kept as association
lists whose keys strictly increase, so that equal contents are equal maps. -/

namespace Kore.Foundation
open List Option

abbrev FiniteMap (κ ν : Type) := Finmap fun _ : κ => ν

namespace FiniteMap
variable {κ ν : Type}

private theorem mapValues_keys (f : ν → ν) (entries : Multiset (Sigma fun _ : κ => ν)) :
    (entries.map fun entry => (⟨entry.1, f entry.2⟩ : Sigma fun _ : κ => ν)).keys = entries.keys := by
  simp [Multiset.keys, Multiset.map_map]

def mapValues (f : ν → ν) (map : FiniteMap κ ν) : FiniteMap κ ν :=
  ⟨map.entries.map fun entry => ⟨entry.1, f entry.2⟩, by
    rw [← Multiset.nodup_keys, mapValues_keys]
    exact Multiset.nodup_keys.mpr map.nodupKeys⟩

def update [DecidableEq κ] (key : κ) (f : ν → ν) (map : FiniteMap κ ν) : FiniteMap κ ν :=
  match map.lookup key with
  | some value => map.insert key (f value)
  | none => map

theorem mapValues_eq_self [DecidableEq κ] {f : ν → ν} {map : FiniteMap κ ν}
    (fixed : ∀ key value, map.lookup key = some value → f value = value) : mapValues f map = map := by
  apply Finmap.ext
  refine (Multiset.map_congr rfl ?_).trans (Multiset.map_id map.entries)
  intro entry member
  rw [fixed entry.1 entry.2 (Finmap.lookup_eq_some_iff.mpr member)]
  rfl

variable {map : FiniteMap κ ν}

theorem lookup_mapValues [DecidableEq κ] (f : ν → ν) (key : κ) : (mapValues f map).lookup key = (map.lookup key).map f := by
  apply ext
  intro value
  rw [Finmap.lookup_eq_some_iff, map_eq_some_iff]
  constructor
  · intro member
    obtain ⟨entry, inside, same⟩ := Multiset.mem_map.mp member
    cases same
    exact ⟨entry.2, Finmap.lookup_eq_some_iff.mpr inside, rfl⟩
  · intro found
    obtain ⟨old, known, rfl⟩ := found
    exact Multiset.mem_map.mpr ⟨⟨key, old⟩, Finmap.lookup_eq_some_iff.mp known, rfl⟩

theorem lookup_update [DecidableEq κ] (key other : κ) (f : ν → ν) :
    (map.update key f).lookup other = if other = key then (map.lookup key).map f else map.lookup other := by
  unfold update
  split
  next value found =>
    split
    next same => rw [same, Finmap.lookup_insert, found, map_some]
    next different => rw [Finmap.lookup_insert_of_ne _ different]
  next missing =>
    split
    next same => rw [same, missing, map_none]
    next => rfl

end FiniteMap

/-- An association list in strictly increasing key order. -/
@[ext] structure OrderedMap (κ ν : Type) [LinearOrder κ] where
  entries : List (κ × ν)
  sorted : entries.Pairwise fun first second => first.1 < second.1

namespace OrderedMap
variable {κ ν : Type} [LinearOrder κ]

instance [DecidableEq ν] : DecidableEq (OrderedMap κ ν) := fun first second =>
  decidable_of_iff (first.entries = second.entries) OrderedMap.ext_iff.symm

def empty : OrderedMap κ ν := ⟨[], .nil⟩

def keys (map : OrderedMap κ ν) : List κ := map.entries.map Prod.fst

def values (map : OrderedMap κ ν) : List ν := map.entries.map Prod.snd

def size (map : OrderedMap κ ν) : Nat := map.entries.length

def lookup (key : κ) (map : OrderedMap κ ν) : Option ν := map.entries.lookup key

def lastKey (map : OrderedMap κ ν) : Option κ := map.keys.getLast?

private def insertEntry (key : κ) (value : ν) : List (κ × ν) → List (κ × ν)
  | [] => [(key, value)]
  | entry :: rest =>
    if key < entry.1 then (key, value) :: entry :: rest
    else if entry.1 < key then entry :: insertEntry key value rest
    else (key, value) :: rest

private theorem mem_insertEntry {key : κ} {value : ν} {entries : List (κ × ν)} (sorted : entries.Pairwise fun first second => first.1 < second.1)
    {entry : κ × ν} : entry ∈ insertEntry key value entries ↔ entry = (key, value) ∨ entry ∈ entries ∧ entry.1 ≠ key := by
  induction entries with
  | nil => simp [insertEntry]
  | cons head rest ih =>
    obtain ⟨above, later⟩ := pairwise_cons.mp sorted
    unfold insertEntry
    grind

private theorem insertEntry_sorted (key : κ) (value : ν) {entries : List (κ × ν)}
    (sorted : entries.Pairwise fun first second => first.1 < second.1) :
    (insertEntry key value entries).Pairwise fun first second => first.1 < second.1 := by
  induction entries with
  | nil => exact pairwise_singleton _ _
  | cons head rest ih =>
    obtain ⟨above, later⟩ := pairwise_cons.mp sorted
    unfold insertEntry
    split
    next small =>
      refine pairwise_cons.mpr ⟨?_, sorted⟩
      intro entry member
      rcases mem_cons.mp member with rfl | inner
      · exact small
      · exact small.trans (above entry inner)
    next notSmall =>
      split
      next large =>
        refine pairwise_cons.mpr ⟨?_, ih later⟩
        intro entry member
        rcases (mem_insertEntry later).mp member with rfl | inner
        · exact large
        · exact above entry inner.1
      next notLarge =>
        have same : head.1 = key := le_antisymm (not_lt.mp notSmall) (not_lt.mp notLarge)
        exact pairwise_cons.mpr ⟨fun entry member => same ▸ above entry member, later⟩

def insert (key : κ) (value : ν) (map : OrderedMap κ ν) : OrderedMap κ ν :=
  ⟨insertEntry key value map.entries, insertEntry_sorted key value map.sorted⟩

def filter (keep : κ → ν → Bool) (map : OrderedMap κ ν) : OrderedMap κ ν :=
  ⟨map.entries.filter fun entry => keep entry.1 entry.2, map.sorted.filter _⟩

def erase (key : κ) (map : OrderedMap κ ν) : OrderedMap κ ν := map.filter fun other _ => other != key

def fromKey (start : κ) (map : OrderedMap κ ν) : OrderedMap κ ν := map.filter fun key _ => decide (start ≤ key)

variable {map : OrderedMap κ ν} {key other : κ} {value : ν}

theorem lookup_eq_some : map.lookup key = some value ↔ (key, value) ∈ map.entries := by
  rw [lookup, lookup_eq_some_iff]
  constructor
  · rintro ⟨before, after, split, -⟩
    rw [split]
    exact mem_append_right _ mem_cons_self
  · intro member
    obtain ⟨before, after, split⟩ := append_of_mem member
    have sorted := map.sorted
    rw [split] at sorted
    exact ⟨before, after, split, fun entry early => bne_iff_ne.mpr ((pairwise_append.mp sorted).2.2 entry early _ mem_cons_self).ne'⟩

@[simp] theorem lookup_insert (key : κ) (value : ν) (map : OrderedMap κ ν) : (map.insert key value).lookup key = some value :=
  lookup_eq_some.mpr ((mem_insertEntry map.sorted).mpr (.inl rfl))

theorem lookup_insert_ne (value : ν) (different : other ≠ key) : (map.insert key value).lookup other = map.lookup other := by
  apply ext
  intro held
  rw [lookup_eq_some, lookup_eq_some]
  exact (mem_insertEntry map.sorted).trans (by simp [different])

theorem nodup_keys (map : OrderedMap κ ν) : map.keys.Nodup :=
  (pairwise_map.mpr map.sorted).imp fun below => below.ne

theorem mem_keys_filter {keep : κ → ν → Bool} (member : key ∈ (map.filter keep).keys) : key ∈ map.keys := by
  obtain ⟨entry, inside, rfl⟩ := mem_map.mp member
  exact mem_map_of_mem (mem_filter.mp inside).1

theorem le_of_mem_fromKey {start : κ} (member : key ∈ (map.fromKey start).keys) : start ≤ key := by
  obtain ⟨entry, inside, rfl⟩ := mem_map.mp member
  exact of_decide_eq_true (mem_filter.mp inside).2

theorem mem_keys : key ∈ map.keys ↔ (map.lookup key).isSome := by
  simp [keys, isSome_iff_exists, lookup_eq_some, Prod.exists, exists_and_right]

theorem lookup_erase (key other : κ) (map : OrderedMap κ ν) :
    (map.erase key).lookup other = if other = key then none else map.lookup other := by
  apply ext
  intro held
  rw [lookup_eq_some, erase, filter, mem_filter, ← lookup_eq_some]
  split <;> simp_all

theorem size_insert (key : κ) (value : ν) (map : OrderedMap κ ν) :
    (map.insert key value).size + (if (map.lookup key).isSome then 1 else 0) = map.size + 1 := by
  obtain ⟨entries, sorted⟩ := map
  change (insertEntry key value entries).length + (if (entries.lookup key).isSome then 1 else 0) = entries.length + 1
  induction entries with
  | nil => rfl
  | cons head rest ih =>
    obtain ⟨above, later⟩ := pairwise_cons.mp sorted
    have counted := ih later
    unfold insertEntry
    split
    next small =>
      have absent : (head :: rest).lookup key = none := by
        refine lookup_eq_none_iff.mpr fun entry member => bne_iff_ne.mpr ?_
        rcases mem_cons.mp member with rfl | inner
        · exact small.ne
        · exact (small.trans (above entry inner)).ne
      simp [absent]
    next notSmall =>
      rw [lookup_cons]
      split
      next large =>
        rw [beq_eq_false_iff_ne.mpr large.ne', length_cons, length_cons]
        dsimp only
        omega
      next notLarge =>
        have same : key = head.1 := le_antisymm (not_lt.mp notLarge) (not_lt.mp notSmall)
        simp [same]

theorem le_lastKey (found : (map.lookup key).isSome) : ∃ last, map.lastKey = some last ∧ key ≤ last := by
  have member := mem_keys.mpr found
  have sorted : map.keys.Pairwise (· < ·) := pairwise_map.mpr map.sorted
  obtain ⟨front, last, split⟩ := eq_nil_or_concat map.keys |>.resolve_left (ne_nil_of_mem member)
  refine ⟨last, by rw [lastKey, split, concat_eq_append, getLast?_concat], ?_⟩
  rw [split, concat_eq_append] at member sorted
  rcases mem_append.mp member with early | here
  · exact ((pairwise_append.mp sorted).2.2 key early last mem_cons_self).le
  · exact (mem_singleton.mp here).le

end OrderedMap
end Kore.Foundation
