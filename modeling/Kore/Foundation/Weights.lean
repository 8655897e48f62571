import Mathlib.Algebra.Order.BigOperators.Group.Multiset
import Kore.Foundation.Maps

/-! Sums over the entries of a finite map. -/

namespace Kore.Foundation.FiniteMap
open Finmap Multiset

variable {κ ν : Type}

def weight (measure : κ → ν → Nat) (map : FiniteMap κ ν) : Nat :=
  (map.entries.map fun entry => measure entry.1 entry.2).sum

variable {measure : κ → ν → Nat} {map : FiniteMap κ ν} {key : κ} {value : ν}

theorem weight_mapValues (f : ν → ν) : weight measure (mapValues f map) = weight (fun key value => measure key (f value)) map := by
  simp [weight, mapValues, map_map]

theorem weight_add (first second : κ → ν → Nat) :
    weight (fun key value => first key value + second key value) map = weight first map + weight second map := by
  simp [weight, sum_map_add]

variable [DecidableEq κ]

theorem weight_insert_absent (measure : κ → ν → Nat) (absent : map.lookup key = none) :
    weight measure (map.insert key value) = measure key value + weight measure map := by
  rw [weight, entries_insert_of_notMem (lookup_eq_none.mp absent), map_cons, sum_cons]
  rfl

private theorem insert_erase_self (found : map.lookup key = some value) : (map.erase key).insert key value = map := by
  apply ext_lookup
  intro other
  by_cases same : other = key
  · rw [same, lookup_insert, found]
  · rw [lookup_insert_of_ne _ same, lookup_erase_ne same]

theorem weight_erase (measure : κ → ν → Nat) (found : map.lookup key = some value) :
    measure key value + weight measure (map.erase key) = weight measure map := by
  rw [← weight_insert_absent _ (lookup_erase key map), insert_erase_self found]

theorem erase_absent (absent : map.lookup key = none) : map.erase key = map := by
  apply ext_lookup
  intro other
  by_cases same : other = key
  · rw [same, lookup_erase, absent]
  · rw [lookup_erase_ne same]

private theorem insert_erase_fresh : (map.erase key).insert key value = map.insert key value := by
  apply ext_lookup
  intro other
  by_cases same : other = key
  · rw [same, lookup_insert, lookup_insert]
  · rw [lookup_insert_of_ne _ same, lookup_insert_of_ne _ same, lookup_erase_ne same]

theorem weight_insert : weight measure (map.insert key value) = measure key value + weight measure (map.erase key) := by
  rw [← insert_erase_fresh, weight_insert_absent _ (lookup_erase key map)]

theorem weight_update (measure : κ → ν → Nat) (f : ν → ν) (found : map.lookup key = some value) :
    weight measure (map.update key f) + measure key value = weight measure map + measure key (f value) := by
  rw [update, found]
  rw [weight_insert, ← weight_erase _ found]
  omega

theorem weight_congr {other : κ → ν → Nat} (same : ∀ key value, map.lookup key = some value → measure key value = other key value) :
    weight measure map = weight other map := by
  refine congrArg sum (map_congr rfl ?_)
  intro entry member
  exact same entry.1 entry.2 (lookup_eq_some_iff.mpr member)

theorem weight_erase_eq (measure : κ → ν → Nat) (key : κ) :
    weight measure (map.erase key) = weight (fun other value => if other = key then 0 else measure other value) map := by
  cases found : map.lookup key with
  | none =>
    rw [erase_absent found]
    refine weight_congr ?_
    intro other value inside
    rw [if_neg (by rintro rfl; simp [found] at inside)]
  | some value =>
    rw [← weight_erase (fun other value => if other = key then 0 else measure other value) found, if_pos rfl, zero_add]
    refine weight_congr ?_
    intro other value inside
    rw [if_neg (by rintro rfl; simp at inside)]

theorem weight_update_eq (measure : κ → ν → Nat) (key : κ) (f : ν → ν) :
    weight measure (map.update key f) = weight (fun other value => measure other (if other = key then f value else value)) map := by
  cases found : map.lookup key with
  | none =>
    rw [update, found]
    refine weight_congr ?_
    intro other value inside
    rw [if_neg (by rintro rfl; simp [found] at inside)]
  | some value =>
    rw [update, found]
    rw [weight_insert, ← weight_erase _ found, if_pos rfl]
    refine congrArg _ (weight_congr ?_)
    intro other value inside
    rw [if_neg (by rintro rfl; simp at inside)]

theorem le_weight (measure : κ → ν → Nat) (found : map.lookup key = some value) : measure key value ≤ weight measure map := by
  rw [← weight_erase _ found]
  omega

end Kore.Foundation.FiniteMap
