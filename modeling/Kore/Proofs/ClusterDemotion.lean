import Mathlib.Data.List.MinMax
import Mathlib.Data.Prod.Lex
import Kore.Cluster.Gossip

/-! When the demotion step of the gossip tick leaves a healthy master alone. The
step was written to heal two masters that claim the same slots, but its guard
only compares slot counts and ids, so it is decided by the slot distribution. -/

namespace Kore.Proofs.ClusterDemotion
open Cluster ClusterState List NodeTable Or

variable {state : ClusterState}

def slotsOf (state : ClusterState) (id : String) : Nat :=
  state.slotOwner.toList.countP (fun owner => owner == id)

/-- A master other than this process that serves slots and ranks above it: more
slots, or as many and a greater id. -/
def Outranks (state : ClusterState) (node : ClusterNode) : Prop :=
  node.myself = false ∧ node.master = true ∧ node.id ≠ state.myId ∧ 0 < slotsOf state node.id ∧
    (slotsOf state state.myId < slotsOf state node.id ∨
      slotsOf state state.myId = slotsOf state node.id ∧ state.myId < node.id)

/-- A master of a healthy cluster whose slots nobody disputes: no node is flagged
fail, every slot belongs to a known master, there are at least two masters, and
no peer's own view claims a slot that this process owns. -/
structure Undisputed (state : ClusterState) (peers : List ClusterState) : Prop where
  healthy : ∀ node ∈ state.nodes.entries, node.fail = false
  master : ∃ me, state.getNode state.myId = some me ∧ me.master = true
  covered : ∀ owner ∈ state.slotOwner.toList, ∃ node ∈ state.nodes.entries, node.id = owner ∧ node.master = true
  several : ∃ first ∈ state.nodes.entries, ∃ second ∈ state.nodes.entries,
    first.master = true ∧ second.master = true ∧ first.id ≠ second.id
  unclaimed : ∀ peer ∈ peers, peer.myId ≠ state.myId →
    ∀ slot, state.ownsSlot slot = true → peer.ownsSlot slot = false

/-- What the step must not touch at such a master. -/
def Untouched (before after : ClusterState) : Prop :=
  after.slotOwner = before.slotOwner ∧ after.slotConfigEpoch = before.slotConfigEpoch ∧
    (after.getNode before.myId).map ClusterNode.master = some true

private theorem countP_range_getElem? {α : Type} (items : List α) (test : Option α → Bool) :
    (range items.length).countP (fun index => test items[index]?) = items.countP (fun item => test (some item)) := by
  induction items with
  | nil => simp
  | cons item items ih =>
    rw [length_cons, range_succ_eq_map, countP_cons, countP_map, countP_cons]
    simp only [Function.comp_def, getElem?_cons_succ, getElem?_cons_zero, ih]

section
variable (state)

private theorem countP_range_slots (test : Option String → Bool) :
    (range slotCount).countP (fun slot => test state.slotOwner.toList[slot]?) =
      state.slotOwner.toList.countP (fun owner => test (some owner)) := by
  have counted := countP_range_getElem? state.slotOwner.toList test
  rwa [Vector.length_toList] at counted

theorem countP_ownsSlot :
    (range slotCount).countP state.ownsSlot = slotsOf state state.myId :=
  countP_range_slots state (fun owner => (owner.map fun id => id == state.myId).getD false)

theorem countP_ownerIdOf (id : String) :
    (range slotCount).countP (fun slot => state.ownerIdOf slot == some id) = slotsOf state id :=
  countP_range_slots state (fun owner => owner == some id)

private def candidate (state : ClusterState) (node : ClusterNode) : Option (Nat × String) :=
  if node.myself || node.fail || !node.master || node.id == state.myId || slotsOf state node.id == 0 then none
  else some (slotsOf state node.id, node.id)

private theorem considerMaster_eq (best : Option (Nat × String)) (node : ClusterNode) :
    state.considerMaster best node =
      match candidate state node with
      | some key => argAux (fun found kept => toLex kept < toLex found) best key
      | none => best := by
  simp only [considerMaster, candidate, slotsOf]
  split
  next skipped => simp [skipped]
  next kept =>
    split
    next empty => simp_all
    next served =>
      simp only [kept, served, Bool.or_self, Bool.false_eq_true, if_false]
      cases best with
      | none => rfl
      | some pair =>
        have same : (pair.1 < countP (fun owner => owner == node.id) state.slotOwner.toList ||
            (countP (fun owner => owner == node.id) state.slotOwner.toList == pair.1 && decide (pair.2 < node.id))) = true ↔
            toLex pair < toLex (countP (fun owner => owner == node.id) state.slotOwner.toList, node.id) := by
          simp only [Prod.Lex.toLex_lt_toLex, Bool.or_eq_true, decide_eq_true_eq, Bool.and_eq_true, beq_iff_eq]
          constructor <;> rintro (less | ⟨equal, less⟩)
          all_goals first | exact inl less | exact inr ⟨equal.symm, less⟩
        simp only [argAux, same]

/-- The scan returns a greatest candidate, whatever the iteration order. -/
private theorem scan_eq :
    state.nodes.entries.foldl state.considerMaster none =
      (state.nodes.entries.filterMap (candidate state)).argmax toLex := by
  rw [argmax, foldl_filterMap]
  congr 1
  funext best node
  rw [considerMaster_eq]
  cases candidate state node with
  | none => rfl
  | some key => simp only [argAux]

end

private theorem candidate_eq_some {node : ClusterNode} {key : Nat × String}
    (alive : node.fail = false) :
    candidate state node = some key ↔
      (node.myself = false ∧ node.master = true ∧ node.id ≠ state.myId ∧ 0 < slotsOf state node.id) ∧
        key = (slotsOf state node.id, node.id) := by
  unfold candidate
  split
  next skipped =>
    simp only [alive, Bool.or_false, Bool.or_eq_true, Bool.not_eq_eq_eq_not, Bool.not_true, beq_iff_eq] at skipped
    constructor
    · intro impossible; cases impossible
    · rintro ⟨⟨other, master, distinct, served⟩, -⟩
      simp only [other, master, distinct, Bool.false_eq_true, Bool.true_eq_false, false_or] at skipped
      omega
  next kept =>
    simp only [alive, Bool.or_false, Bool.or_eq_true, Bool.not_eq_eq_eq_not, Bool.not_true, beq_iff_eq, not_or] at kept
    obtain ⟨⟨⟨other, master⟩, distinct⟩, served⟩ := kept
    rw [Option.some_inj]
    constructor
    · rintro rfl
      exact ⟨⟨by simpa using other, by simpa using master, distinct, pos_of_ne_zero served⟩, rfl⟩
    · rintro ⟨-, rfl⟩
      rfl

variable {winner : String}

section
variable (healthy : ∀ node ∈ state.nodes.entries, node.fail = false)
include healthy

private theorem otherMasterWithSlots_listed (found : state.otherMasterWithSlots = some winner) :
    ∃ node ∈ state.nodes.entries, node.id = winner ∧ node.myself = false ∧ node.master = true ∧
      node.id ≠ state.myId ∧ 0 < slotsOf state node.id := by
  obtain ⟨key, best, rfl⟩ := Option.map_eq_some_iff.mp found
  rw [scan_eq] at best
  obtain ⟨node, member, chosen⟩ := mem_filterMap.mp (argmax_mem best)
  obtain ⟨eligible, rfl⟩ := (candidate_eq_some (healthy node member)).mp chosen
  exact ⟨node, member, rfl, eligible⟩

/-- Some master outranks this one exactly when the scan's result does. -/
private theorem outranked_iff_scan : (∃ node ∈ state.nodes.entries, Outranks state node) ↔
      ∃ winner, state.otherMasterWithSlots = some winner ∧
        (slotsOf state state.myId < slotsOf state winner ∨
          slotsOf state state.myId = slotsOf state winner ∧ state.myId < winner) := by
  constructor
  · rintro ⟨node, member, other, master, distinct, served, above⟩
    have listed : (slotsOf state node.id, node.id) ∈ state.nodes.entries.filterMap (candidate state) :=
      mem_filterMap.mpr ⟨node, member,
        (candidate_eq_some (healthy node member)).mpr ⟨⟨other, master, distinct, served⟩, rfl⟩⟩
    cases best : (state.nodes.entries.filterMap (candidate state)).argmax toLex with
    | none =>
      rw [argmax_eq_none] at best
      rw [best] at listed
      cases listed
    | some key =>
      have greatest : toLex (slotsOf state node.id, node.id) ≤ toLex key := le_of_mem_argmax listed best
      obtain ⟨winner, present, chosen⟩ := mem_filterMap.mp (argmax_mem best)
      obtain ⟨-, rfl⟩ := (candidate_eq_some (healthy winner present)).mp chosen
      refine ⟨winner.id, by rw [otherMasterWithSlots, scan_eq, best, Option.map_some], ?_⟩
      rw [Prod.Lex.toLex_le_toLex] at greatest
      dsimp only at greatest
      rcases above with above | ⟨equal, above⟩ <;> rcases greatest with more | ⟨same, least⟩
      · exact inl (above.trans more)
      · exact inl (same ▸ above)
      · exact inl (equal ▸ more)
      · exact inr ⟨equal.trans same, above.trans_le least⟩
  · rintro ⟨winner, found, above⟩
    obtain ⟨node, member, rfl, other, master, distinct, served⟩ := otherMasterWithSlots_listed healthy found
    exact ⟨node, member, other, master, distinct, served, above⟩

end

private theorem configureAsReplicaOf_nodes (state : ClusterState) {masterId : String}
    (distinct : masterId ≠ state.myId) (present : state.nodes.containsKey masterId) :
    ∃ after, state.configureAsReplicaOf masterId = .ok after ∧
      after.nodes = (state.nodes.modify state.myId
        (fun me => { me with master := false, masterId := some masterId, fail := false }) (fun _ => rfl)).modify masterId
        (fun node => { node with master := true, masterId := none }) (fun _ => rfl) := by
  have stranger : (masterId == state.myId) = false := by simpa using distinct
  simp only [configureAsReplicaOf, stranger, present, Bool.not_true]
  refine ⟨_, rfl, ?_⟩
  split <;> rfl

variable {me : ClusterNode}

private theorem followNewMaster_demotes (known : state.getNode state.myId = some me) (master : me.master)
    (distinct : winner ≠ state.myId) (present : state.nodes.containsKey winner) :
    ((state.followNewMaster winner).1.getNode state.myId).map ClusterNode.master = some false := by
  have found : state.nodes.get state.myId = some me := known
  have notReplica : state.isReplicaOf winner = false := by
    simp [isReplicaOf, found, master]
  have stranger : (winner == state.myId) = false := by simpa using distinct
  have kept : (state.markWinner winner).nodes.containsKey winner := by
    simp only [markWinner, containsKey, get_modify, Option.isSome_map]
    exact present
  obtain ⟨after, configured, nodes⟩ := configureAsReplicaOf_nodes (state.markWinner winner) distinct kept
  have followed : state.followNewMaster winner =
      (after, (after.getNode winner).map fun node => s!"{node.ip}:{node.port}") := by
    simp only [followNewMaster, reconfigureAsReplicaOfFailoverWinner, stranger, notReplica, present,
      Bool.false_eq_true, Bool.not_true, if_false]
    rw [configured]
  have mine : me.id = state.myId := (get_eq_some.mp found).2
  have apart : state.myId ≠ winner := fun same => distinct same.symm
  rw [followed]
  simp [getNode, nodes, markWinner, get_modify, found, mine, apart]

private theorem untouched_iff (healthy : ∀ node ∈ state.nodes.entries, node.fail = false)
    (known : state.getNode state.myId = some me) (master : me.master) :
    Untouched state state.tryDemoteIfSuperseded.1 ↔ ¬ ∃ node ∈ state.nodes.entries, Outranks state node := by
  have alive : me.fail = false := healthy me (get_eq_some.mp known).1
  rw [outranked_iff_scan healthy]
  simp only [tryDemoteIfSuperseded, known, master, alive, Bool.not_true, Bool.or_self, Bool.false_eq_true,
    if_false, countP_ownsSlot, countP_ownerIdOf]
  have idle : Untouched state state := ⟨rfl, rfl, by rw [known, Option.map_some, master]⟩
  cases found : state.otherMasterWithSlots with
  | none => simpa using idle
  | some other =>
    obtain ⟨node, member, rfl, -, -, distinct, -⟩ := otherMasterWithSlots_listed healthy found
    have present : state.nodes.containsKey node.id = true :=
      Option.isSome_iff_exists.mpr ⟨node, get_eq_some.mpr ⟨member, rfl⟩⟩
    simp only [Option.some_inj, exists_eq_left']
    split
    next calm =>
      refine iff_of_true idle ?_
      simp only [Bool.not_eq_true', Bool.or_eq_false_iff, Bool.and_eq_false_iff, decide_eq_false_iff_not,
        beq_eq_false_iff_ne] at calm
      rintro (more | ⟨equal, less⟩)
      · exact calm.1.1 more
      · exact calm.1.2.elim (fun differs => differs equal.symm) (fun least => least less)
    next fires =>
      refine iff_of_false ?_ (not_not.mpr ?_)
      · rintro ⟨-, -, role⟩
        rw [followNewMaster_demotes known master distinct present] at role
        cases role
      · simp only [Bool.not_eq_true', Bool.not_eq_false, Bool.or_eq_true, Bool.and_eq_true, decide_eq_true_eq,
          beq_iff_eq] at fires
        rcases fires with (more | ⟨equal, less⟩) | ⟨none, served⟩
        · exact inl more
        · exact inr ⟨equal.symm, less⟩
        · exact inl (none ▸ served)

/-- At an undisputed master of a healthy cluster the demotion step changes nothing
exactly when no other master outranks it. -/
theorem undisputed_master_untouched_iff (state : ClusterState) (peers : List ClusterState)
    (undisputed : Undisputed state peers) :
    Untouched state state.tryDemoteIfSuperseded.1 ↔ ¬ ∃ node ∈ state.nodes.entries, Outranks state node := by
  obtain ⟨me, known, master⟩ := undisputed.master
  exact untouched_iff undisputed.healthy known master

def masterPair (share : Nat) (fits : share ≤ slotCount) (id : String) : ClusterState where
  myId := id
  slotOwner := ⟨(replicate share "a" ++ replicate (slotCount - share) "b").toArray, by
    simp only [size_toArray, length_append, length_replicate]
    omega⟩
  slotConfigEpoch := Vector.replicate slotCount 1
  migrating := []
  importing := []
  prepareNode := []
  nodes := {
    entries := [⟨"a", "10.0.0.1", 6379, id == "a", true, none, false, false⟩,
      ⟨"b", "10.0.0.2", 6379, id == "b", true, none, false, false⟩]
    distinct := by simp }
  currentEpoch := 1

section
variable (share : Nat) (fits : share ≤ slotCount)
include share fits

private theorem slotsOf_masterPair (id : String) :
    slotsOf (masterPair share fits id) "a" = share ∧ slotsOf (masterPair share fits id) "b" = slotCount - share := by
  simp [slotsOf, masterPair, countP_replicate]

private theorem masterPair_undisputed (id other : String)
    (mine : id = "a" ∨ id = "b") : Undisputed (masterPair share fits id) [masterPair share fits other] := by
  refine ⟨by simp [masterPair], ?_, ?_, ?_, ?_⟩
  · rcases mine with rfl | rfl
    · exact ⟨⟨"a", "10.0.0.1", 6379, true, true, none, false, false⟩, rfl, rfl⟩
    · exact ⟨⟨"b", "10.0.0.2", 6379, true, true, none, false, false⟩, rfl, rfl⟩
  · intro owner member
    simp only [masterPair, Vector.toList_mk, mem_append, mem_replicate] at member
    rcases member with ⟨-, rfl⟩ | ⟨-, rfl⟩ <;> simp [masterPair]
  · exact ⟨_, mem_cons_self, _, mem_cons_of_mem _ mem_cons_self, rfl, rfl, by simp⟩
  · intro peer member distinct slot owned
    rw [mem_singleton] at member
    subst peer
    simp only [ownsSlot, masterPair] at distinct owned ⊢
    generalize (Vector.toList _)[slot]? = owner at owned ⊢
    cases owner with
    | none => rfl
    | some owner =>
      simp only [Option.map_some, Option.getD_some, beq_iff_eq, beq_eq_false_iff_ne] at owned ⊢
      exact fun same => distinct (same.symm.trans owned)

private theorem masterPair_outranked (smaller : share < slotCount - share) :
    ∃ node ∈ (masterPair share fits "a").nodes.entries, Outranks (masterPair share fits "a") node := by
  obtain ⟨mine, theirs⟩ := slotsOf_masterPair share fits "a"
  refine ⟨_, mem_cons_of_mem _ mem_cons_self, rfl, rfl, by simp [masterPair], ?_, inl ?_⟩
  · rw [theirs]; omega
  · rw [theirs]; exact mine.trans_lt smaller

private theorem masterPair_not_outranked (smaller : share < slotCount - share) :
    ¬ ∃ node ∈ (masterPair share fits "b").nodes.entries, Outranks (masterPair share fits "b") node := by
  obtain ⟨theirs, mine⟩ := slotsOf_masterPair share fits "b"
  rintro ⟨node, member, -, -, distinct, -, above⟩
  have own : slotsOf (masterPair share fits "b") (masterPair share fits "b").myId = slotCount - share := mine
  simp only [masterPair, mem_cons, not_mem_nil, or_false] at member
  rcases member with rfl | rfl
  · rw [theirs] at above
    omega
  · exact distinct rfl

end

/-- The smaller of two healthy masters hands all its slots away on its next tick. -/
theorem smaller_master_demoted :
    Undisputed (masterPair 8000 (by decide) "a") [masterPair 8000 (by decide) "b"] ∧
      ¬ Untouched (masterPair 8000 (by decide) "a") (masterPair 8000 (by decide) "a").tryDemoteIfSuperseded.1 := by
  have undisputed := masterPair_undisputed 8000 (by decide) "a" "b" (inl rfl)
  obtain ⟨me, known, master⟩ := undisputed.master
  refine ⟨undisputed, ?_⟩
  rw [untouched_iff undisputed.healthy known master, not_not]
  exact masterPair_outranked 8000 (by decide) (by decide)

theorem larger_master_untouched :
    Undisputed (masterPair 8000 (by decide) "b") [masterPair 8000 (by decide) "a"] ∧
      Untouched (masterPair 8000 (by decide) "b") (masterPair 8000 (by decide) "b").tryDemoteIfSuperseded.1 := by
  have undisputed := masterPair_undisputed 8000 (by decide) "b" "a" (inr rfl)
  exact ⟨undisputed, (undisputed_master_untouched_iff _ _ undisputed).mpr
    (masterPair_not_outranked 8000 (by decide) (by decide))⟩

end Kore.Proofs.ClusterDemotion
