import Kore.Foundation.Maps

/-! Walks over hash tables. The order of a walk depends on the table's history and on a
random seed; all that is known of it is that every key comes once. -/

namespace Kore.Foundation

structure Iteration (κ ν : Type) where
  keys : FiniteMap κ ν → List κ
  nodup : ∀ map, (keys map).Nodup
  mem_keys : ∀ map key, key ∈ keys map ↔ key ∈ map

namespace Iteration
variable {κ ν : Type}

/-- The given order, for tables that hold no other keys. -/
noncomputable def preferring [DecidableEq κ] (order : List κ) : Iteration κ ν where
  keys map := if ∀ key ∈ map.keys, key ∈ order then order.dedup.filter (· ∈ map.keys) else map.keys.toList
  nodup map := by
    split
    · exact (List.nodup_dedup order).filter _
    · exact map.keys.nodup_toList
  mem_keys map key := by
    split
    next known =>
      rw [List.mem_filter, List.mem_dedup, decide_eq_true_eq, Finmap.mem_keys]
      exact ⟨And.right, fun member => ⟨known key (Finmap.mem_keys.mpr member), member⟩⟩
    next => rw [Finset.mem_toList, Finmap.mem_keys]

def entries [DecidableEq κ] (iteration : Iteration κ ν) (map : FiniteMap κ ν) : List (κ × ν) :=
  (iteration.keys map).filterMap fun key => (map.lookup key).map fun value => (key, value)

theorem mem_entries [DecidableEq κ] {iteration : Iteration κ ν} {map : FiniteMap κ ν} {key : κ} {value : ν} :
    (key, value) ∈ iteration.entries map ↔ map.lookup key = some value := by
  simp only [entries, List.mem_filterMap, Option.map_eq_some_iff, Prod.mk.injEq]
  constructor
  · intro ⟨other, _, found, present, sameKey, sameValue⟩
    exact sameKey ▸ sameValue ▸ present
  · intro present
    have member : key ∈ map := Finmap.lookup_isSome.mp (Option.isSome_iff_exists.mpr ⟨value, present⟩)
    exact ⟨key, (iteration.mem_keys map key).mpr member, value, present, rfl, rfl⟩

end Iteration

namespace FiniteMap
variable {κ ν : Type}

variable (keep : κ → ν → Option ν)

private def retainEntry (entry : Sigma fun _ : κ => ν) : Option (Sigma fun _ : κ => ν) :=
  (keep entry.1 entry.2).map fun value => ⟨entry.1, value⟩

private theorem retainEntry_key {keep : κ → ν → Option ν} {entry kept : Sigma fun _ : κ => ν}
    (same : retainEntry keep entry = some kept) : kept.1 = entry.1 := by
  obtain ⟨value, _, rfl⟩ := Option.map_eq_some_iff.mp same
  rfl

private theorem retain_keys (entries : List (Sigma fun _ : κ => ν)) :
    (entries.filterMap (retainEntry keep)).keys.Sublist entries.keys := by
  induction entries with
  | nil => exact .slnil
  | cons entry rest ih =>
    rw [List.filterMap_cons]
    split
    next => exact ih.cons _
    next kept same =>
      rw [List.keys_cons, List.keys_cons, retainEntry_key same]
      exact ih.cons_cons _

/-- Walks over the table, drops the entries for which `keep` has no value and changes the others. -/
def retain (map : FiniteMap κ ν) : FiniteMap κ ν :=
  ⟨map.entries.filterMap (retainEntry keep), by
    rw [← Multiset.nodup_keys]
    have distinct := Multiset.nodup_keys.mpr map.nodupKeys
    revert distinct
    induction map.entries using Quotient.inductionOn with
    | h entries => exact List.Nodup.sublist (retain_keys keep entries)⟩

theorem lookup_retain [DecidableEq κ] (map : FiniteMap κ ν) (key : κ) :
    (retain keep map).lookup key = (map.lookup key).bind (keep key) := by
  apply Option.ext
  intro value
  rw [Finmap.lookup_eq_some_iff, Option.bind_eq_some_iff]
  refine (Multiset.mem_filterMap _ _).trans ⟨?_, ?_⟩
  · intro ⟨entry, member, kept⟩
    obtain ⟨result, keeps, same⟩ := Option.map_eq_some_iff.mp kept
    cases same
    exact ⟨entry.2, Finmap.lookup_eq_some_iff.mpr member, keeps⟩
  · intro ⟨old, present, keeps⟩
    exact ⟨⟨key, old⟩, Finmap.lookup_eq_some_iff.mp present, Option.map_eq_some_iff.mpr ⟨value, keeps, rfl⟩⟩

end FiniteMap

end Kore.Foundation
