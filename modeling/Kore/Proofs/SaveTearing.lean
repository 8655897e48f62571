import Kore.Cluster.Sections

/-! A save of `nodes.conf` reads the node lines in one critical section and the slot epochs in a
later one, with any sections of other threads in between. -/

namespace Kore.Proofs.SaveTearing
open Foundation Cluster Cluster ClusterState List

variable {cluster : Cluster} {slot : Nat}

/-- What a saved file says about slots. -/
structure SavedSlots where
  nodeLines : List (String × List (Stretch Bool))
  slotEpochs : List (Stretch Nat)

def SavedSlots.pairOf (saved : SavedSlots) (slot : Nat) : Option String × Option Nat :=
  ((saved.nodeLines.find? fun line => line.2.any (·.covers slot)).map (·.1), (saved.slotEpochs.find? (·.covers slot)).map (·.value))

def saveNodesConfTo (cluster : Cluster) (between : List Section) : SavedSlots :=
  ⟨cluster.formatNodes, (run enter cluster between).formatSlotEpochHeaderLines⟩

def ownerOf (cluster : Cluster) (slot : Nat) : Option String := (cluster.ownerIdOf slot).filter cluster.nodes.containsKey

def epochOf (cluster : Cluster) (slot : Nat) : Option Nat := cluster.slotConfigEpoch.toList[slot]?

private theorem find_map_iff {α β : Type} {items : List α} {test : α → Bool} {view : α → β} {seen : β}
    (same : ∀ one ∈ items, ∀ other ∈ items, test one = true → test other = true → view one = view other) :
    (items.find? test).map view = some seen ↔ ∃ item ∈ items, view item = seen ∧ test item := by
  constructor
  · intro shown
    obtain ⟨item, found, rfl⟩ := Option.map_eq_some_iff.mp shown
    exact ⟨item, mem_of_find?_eq_some found, rfl, find?_some found⟩
  · rintro ⟨item, member, rfl, passes⟩
    cases found : items.find? test with
    | none => exact absurd passes (find?_eq_none.mp found item member)
    | some other => exact congrArg some (same other (mem_of_find?_eq_some found) item member (find?_some found) passes)

private theorem slotRangesFor_covers {state : ClusterState} {id : String} :
    (state.slotRangesFor id).any (·.covers slot) = true ↔ state.ownerIdOf slot = some id := by
  simp only [any_eq_true, slotRangesFor, mem_filter, and_assoc, exists_stretch_iff, getElem?_map,
    Option.map_eq_some_iff, beq_iff_eq, exists_eq_right, ownerIdOf]

private theorem saved_pair (cluster : Cluster) (between : List Section) (slot : Nat) :
    (saveNodesConfTo cluster between).pairOf slot = (ownerOf cluster slot, epochOf (run enter cluster between) slot) := by
  refine Prod.ext (Option.ext fun id => ?_) (Option.ext fun epoch => ?_)
  · refine (find_map_iff fun one listed other also => ?_).trans ?_
    · simp only [saveNodesConfTo, formatNodes, mem_map] at listed also
      obtain ⟨first, -, rfl⟩ := listed
      obtain ⟨second, -, rfl⟩ := also
      rw [slotRangesFor_covers, slotRangesFor_covers]
      exact fun one other => Option.some.inj (one.symm.trans other)
    · simp only [saveNodesConfTo, formatNodes, mem_map, mem_mergeSort, ownerOf, Option.filter_eq_some_iff, NodeTable.containsKey_iff]
      constructor
      · rintro ⟨line, ⟨first, known, rfl⟩, rfl, covers⟩
        exact ⟨slotRangesFor_covers.mp covers, known⟩
      · rintro ⟨owned, known⟩
        exact ⟨_, ⟨id, known, rfl⟩, rfl, slotRangesFor_covers.mpr owned⟩
  · refine (find_map_iff fun one listed other also first second => ?_).trans exists_stretch_iff
    have spec := (stretches_spec (run enter cluster between).slotConfigEpoch.toList).1
    exact Option.some.inj (((spec one listed).value_at slot first).symm.trans ((spec other also).value_at slot second))

/-- The file has a pair that the state held at some instant during the save. -/
def Held (cluster : Cluster) (between : List Section) (slot : Nat) : Prop :=
  ∃ more, more <+: between ∧ (saveNodesConfTo cluster between).pairOf slot =
    (ownerOf (run enter cluster more) slot, epochOf (run enter cluster more) slot)

/-- The sections up to some instant leave the owner of a slot alone, and those after it the epoch. -/
theorem pair_held {first second : List Section}
    (owner : Guarded enter (fun before part => ownerOf (before.enter part) slot = ownerOf before slot) cluster first)
    (epoch : Guarded enter (fun before part => epochOf (before.enter part) slot = epochOf before slot)
      (run enter cluster first) second) : Held cluster (first ++ second) slot := by
  refine ⟨first, prefix_append first second, ?_⟩
  have owned := owner.invariant (fun before part same stays => stays.trans same) (Eq.refl (ownerOf cluster slot))
  have stamped := epoch.invariant (fun before part same stays => stays.trans same) (Eq.refl (epochOf (run enter cluster first) slot))
  rw [saved_pair, owned, ← stamped, run, run, run, foldl_append]

def twoNodes : Cluster := (singleNode "10.0.0.1" 7000 "a").enter (.addNodeWithRole "b" "10.0.0.2" 7000 none none)

theorem other_slot_reassigned : Held twoNodes [.reassignSlot 1 "b"] 0 :=
  @pair_held _ 0 [.reassignSlot 1 "b"] [] (by decide +kernel) trivial

/-- The slot gets a new owner between the two reads: the file has the old owner with the new epoch. -/
theorem old_owner_with_new_epoch : ¬Held twoNodes [.reassignSlot 0 "b"] 0 := by
  rintro ⟨more, early, same⟩
  rw [saved_pair] at same
  cases more with
  | nil =>
    revert same
    decide +kernel
  | cons part rest =>
    obtain ⟨rfl, short⟩ := cons_prefix_cons.mp early
    cases prefix_nil.mp short
    revert same
    decide +kernel

end Kore.Proofs.SaveTearing
