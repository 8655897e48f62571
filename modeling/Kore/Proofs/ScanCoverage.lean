import Kore.Cache.Scan

/-! What an iteration with `SCAN` is sure to return while keys come and go between its
calls. The cursor counts keys, so that deleting keys in front of it moves it ahead of keys
that were not returned yet. -/

namespace Kore.Proofs.ScanCoverage
open Foundation Foundation.Paging Cache Cache.ByteOrder Finset

variable {F : Type}

/-- What one call meets, and its `COUNT`. -/
structure ScanCall (F : Type) where
  keyspace : Keyspace F
  now : Nat
  count : Nat
  positive : 0 < count

variable (matching : Bytes → Bool)

namespace ScanCall

def scan (cursor : Nat) (call : ScanCall F) : Nat × List Bytes :=
  (call.keyspace.scan call.now matching cursor call.count).2

def present (call : ScanCall F) : Finset Bytes :=
  (Finmap.keys call.keyspace).filter fun key => matching key = true ∧ call.keyspace.isLive call.now key = true

end ScanCall

def returnedKeys (matching : Bytes → Bool) (cursor : Nat) : List (ScanCall F) → List Bytes
  | [] => []
  | call :: calls => (call.scan matching cursor).2 ++ returnedKeys matching (call.scan matching cursor).1 calls

/-- The iteration follows the cursors until it is given 0. -/
def Finished (matching : Bytes → Bool) (cursor : Nat) : List (ScanCall F) → Prop
  | [] => False
  | [call] => (call.scan matching cursor).1 = 0
  | call :: next :: calls => (call.scan matching cursor).1 ≠ 0 ∧ Finished matching (call.scan matching cursor).1 (next :: calls)

/-- Before it is returned, the key is never among the first keys that the cursor has passed. -/
def NotPassed (matching : Bytes → Bool) (key : Bytes) (cursor : Nat) : List (ScanCall F) → Prop
  | [] => True
  | call :: calls => cursor ≤ rank key (call.present matching) ∧
      (key ∉ (call.scan matching cursor).2 → NotPassed matching key (call.scan matching cursor).1 calls)

private theorem filter_sort (items : Finset Bytes) (keep : Bytes → Bool) :
    items.sort.filter keep = (items.filter fun item => keep item = true).sort := by
  apply List.Perm.eq_of_pairwise (fun _ _ _ _ => le_antisymm) ((pairwise_sort items (· ≤ ·)).filter keep)
    (pairwise_sort _ (· ≤ ·))
  rw [← Multiset.coe_eq_coe, sort_eq, filter_val, ← sort_eq items (· ≤ ·), Multiset.filter_coe]
  simp [Bool.decide_eq_true]

theorem scan_eq (cursor : Nat) (call : ScanCall F) :
    call.scan matching cursor = pageAt cursor (call.present matching, call.count) := by
  have listed : (call.keyspace.keys call.now matching).2 = (call.present matching).sort := by
    rw [Keyspace.keys, filter_sort, filter_filter]
    rfl
  rw [pageAt, ← listed]
  rfl

/-- The calls as a run over the sets of keys that they find. -/
def seen (calls : List (ScanCall F)) : List (Call Bytes) :=
  calls.map fun call => (call.present matching, call.count)

variable {cursor : Nat}

private theorem returnedKeys_eq (calls : List (ScanCall F)) :
    returnedKeys matching cursor calls = returned cursor (seen matching calls) := by
  induction calls generalizing cursor with
  | nil => rfl
  | cons call calls ih => rw [returnedKeys, ih, scan_eq]; rfl

private theorem Finished.complete {matching : Bytes → Bool} {cursor : Nat} {calls : List (ScanCall F)}
    (finished : Finished matching cursor calls) : Complete cursor (seen matching calls) := by
  induction calls generalizing cursor with
  | nil => exact finished
  | cons call calls ih =>
    cases calls with
    | nil => rwa [Finished, scan_eq] at finished
    | cons next calls =>
      rw [Finished, scan_eq] at finished
      exact ⟨finished.1, ih finished.2⟩

private theorem NotPassed.staysAhead {matching : Bytes → Bool} {key : Bytes} {cursor : Nat} {calls : List (ScanCall F)}
    (ahead : NotPassed matching key cursor calls) : StaysAhead key cursor (seen matching calls) := by
  induction calls generalizing cursor with
  | nil => trivial
  | cons call calls ih =>
    rw [NotPassed, scan_eq] at ahead
    exact ⟨ahead.1, fun missed => ih (ahead.2 missed)⟩

/-- A key that matches and lives through all calls is returned if deletions never bring it
in front of the cursor. -/
theorem scan_returns (matching : Bytes → Bool) {key : Bytes} {calls : List (ScanCall F)} (finished : Finished matching 0 calls)
    (present : ∀ call ∈ calls, key ∈ call.present matching) (ahead : NotPassed matching key 0 calls) :
    key ∈ returnedKeys matching 0 calls := by
  rw [returnedKeys_eq]
  apply ahead.staysAhead.mem_returned finished.complete
  · intro found member
    obtain ⟨call, inside, rfl⟩ := List.mem_map.mp member
    exact present call inside
  · intro found member
    obtain ⟨call, _, rfl⟩ := List.mem_map.mp member
    exact call.positive

/-! Three keys, read one at a time. -/

private theorem scan_of_present {matching : Bytes → Bool} {call : ScanCall F} (items : List Bytes)
    (same : call.present matching = items.toFinset) (sorted : items.Pairwise (· < ·)) :
    call.scan matching cursor = page items cursor call.count := by
  have listed : items.toFinset.sort = items :=
    (List.toFinset_sort (· ≤ ·) (sorted.imp fun less => ne_of_lt less)).mpr (sorted.imp fun less => le_of_lt less)
  rw [scan_eq, pageAt, same, listed]

/-- One call that reads a single key from a database of strings with the given keys. -/
def readOne (names : List String) : ScanCall Int :=
  ⟨names.foldl (fun keyspace name => keyspace.insert (ascii name) ⟨none, .string []⟩) ∅, 0, 1, by decide⟩

def allMatch : Bytes → Bool := fun _ => true

/-- `SCAN 0 COUNT 1` returns the first of three keys; once that is deleted, the cursor 1 skips the second. -/
theorem deleted_key_hides_another :
    Finished allMatch 0 [readOne ["a", "b", "c"], readOne ["b", "c"]] ∧
      (∀ call ∈ [readOne ["a", "b", "c"], readOne ["b", "c"]], ascii "b" ∈ call.present allMatch) ∧
      ascii "b" ∉ returnedKeys allMatch 0 [readOne ["a", "b", "c"], readOne ["b", "c"]] := by
  have first : (readOne ["a", "b", "c"]).scan allMatch 0 = (1, [ascii "a"]) := by
    rw [scan_of_present [ascii "a", ascii "b", ascii "c"]] <;> decide +kernel
  have second : (readOne ["b", "c"]).scan allMatch 1 = (0, [ascii "c"]) := by
    rw [scan_of_present [ascii "b", ascii "c"]] <;> decide +kernel
  refine ⟨?_, by decide +kernel, ?_⟩
  · rw [Finished, first]
    exact ⟨Nat.one_ne_zero, congrArg Prod.fst second⟩
  · simp only [returnedKeys, first, second]
    decide

theorem second_key_returned : ascii "b" ∈ returnedKeys allMatch 0 [readOne ["a", "b"], readOne ["a", "b"]] := by
  have first : (readOne ["a", "b"]).scan allMatch 0 = (1, [ascii "a"]) := by
    rw [scan_of_present [ascii "a", ascii "b"]] <;> decide +kernel
  have second : (readOne ["a", "b"]).scan allMatch 1 = (0, [ascii "b"]) := by
    rw [scan_of_present [ascii "a", ascii "b"]] <;> decide +kernel
  refine scan_returns allMatch ?_ (by decide +kernel) ?_
  · rw [Finished, first]
    exact ⟨Nat.one_ne_zero, congrArg Prod.fst second⟩
  · simp only [NotPassed, first, second]
    decide +kernel

end Kore.Proofs.ScanCoverage
