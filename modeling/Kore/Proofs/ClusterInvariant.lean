import Kore.Cluster.Sections
import Kore.Proofs.OwnershipRanges

/-! What holds of the topology in every state that a process reaches, whatever operations
it performs and however their critical sections interleave. -/

namespace Kore.Proofs.ClusterInvariant
open Foundation Cluster Cluster ClusterState OwnershipRanges List NodeTable List.Subset Bool

variable {table : NodeTable} {update : ClusterNode → ClusterNode} {first second third state after : ClusterState} {slot : Nat}
  {owner nodeId : String} {cluster : Cluster}

def Known (state : ClusterState) (id : String) : Prop := state.nodes.containsKey id = true

/-- Owners, epochs and transitions fit together. -/
structure Sound (state : ClusterState) : Prop where
  me : Known state state.myId
  owners : ∀ slot, state.ownerAt slot = "" ∨ Known state (state.ownerAt slot)
  epochs : ∀ slot, state.slotEpoch slot ≤ state.currentEpoch
  fits : state.currentEpoch ≤ u64Max
  migrating : ∀ slot dest, (slot, dest) ∈ state.migrating → (slot < slotCount ∧ state.ownerAt slot = state.myId) ∧ Known state dest
  apart : ∀ slot dest source, (slot, dest) ∈ state.migrating → (slot, source) ∉ state.importing

def Unmixed (table : NodeTable) : Prop := ∀ node ∈ table.entries, ¬(node.pfail = true ∧ node.fail = true)

theorem Unmixed.modify {id : String} {keeps : ∀ node, (update node).id = node.id}
    (unmixed : Unmixed table)
    (clean : ∀ node ∈ table.entries, node.id = id → ¬((update node).pfail = true ∧ (update node).fail = true)) :
    Unmixed (table.modify id update keeps) := by
  intro node member
  obtain ⟨old, inside, rfl⟩ := mem_modify.mp member
  split
  next same => exact clean old inside same
  next => exact unmixed old inside

theorem Unmixed.insert {added : ClusterNode} (unmixed : Unmixed table)
    (clean : ¬(added.pfail = true ∧ added.fail = true)) : Unmixed (table.insert added) := by
  intro node member
  rcases mem_insert member with old | rfl
  · exact unmixed node old
  · exact clean

theorem Unmixed.retain (unmixed : Unmixed table) (keep : ClusterNode → Bool) : Unmixed (table.retain keep) :=
  fun node member => unmixed node (mem_filter.mp member).1

/-- The entry of this process is marked as its own and has not failed; no other is marked. -/
def Labelled (state : ClusterState) : Prop :=
  ∀ node ∈ state.nodes.entries, (node.myself = true ↔ node.id = state.myId) ∧ (node.id = state.myId → node.fail = false)

def Tame (update : ClusterNode → ClusterNode) : Prop :=
  ∀ node, ((update node).pfail = true → node.pfail = true) ∧ ((update node).fail = true → node.fail = true)

structure Advances (before after : ClusterState) : Prop where
  current : before.currentEpoch ≤ after.currentEpoch
  slots : ∀ slot, before.slotEpoch slot ≤ after.slotEpoch slot

theorem Advances.refl (state : ClusterState) : Advances state state := ⟨le_rfl, fun _ => le_rfl⟩

theorem Advances.trans (early : Advances first second) (late : Advances second third) :
    Advances first third :=
  ⟨le_trans early.current late.current, fun slot => le_trans (early.slots slot) (late.slots slot)⟩

/-- A vote is only left where the slot has kept its owner and epoch, or has a higher epoch. -/
def Fenced (before after : ClusterState) : Prop :=
  ∀ slot vote, (slot, vote) ∈ after.prepareNode → (slot, vote) ∈ before.prepareNode ∧
    (after.ownerAt slot = before.ownerAt slot ∧ after.slotEpoch slot = before.slotEpoch slot ∨
      before.slotEpoch slot < after.slotEpoch slot)

/-- How a section changes the topology when it starts no transition and forgets no node. -/
structure Moves (before after : ClusterState) : Prop where
  id : after.myId = before.myId
  nodes : ∀ id, Known before id → Known after id
  advances : Advances before after
  fits : after.currentEpoch ≤ u64Max
  epochs : ∀ slot, after.slotEpoch slot ≤ after.currentEpoch
  owners : ∀ slot, after.ownerAt slot = before.ownerAt slot ∨
    (after.ownerAt slot = "" ∨ Known after (after.ownerAt slot)) ∧ ∀ dest, (slot, dest) ∉ after.migrating
  migrating : after.migrating ⊆ before.migrating
  importing : after.importing ⊆ before.importing
  votes : Fenced before after
  flags : Unmixed before.nodes → Unmixed after.nodes
  labels : Labelled before → Labelled after

variable {before : ClusterState}

namespace Moves

theorem refl (sound : Sound state) : Moves state state where
  id := rfl
  nodes _ known := known
  advances := .refl state
  fits := sound.fits
  epochs := sound.epochs
  owners _ := .inl rfl
  migrating := List.Subset.refl _
  importing := List.Subset.refl _
  votes _ _ member := ⟨member, .inl ⟨rfl, rfl⟩⟩
  flags unmixed := unmixed
  labels labelled := labelled

theorem trans (early : Moves first second) (late : Moves second third) : Moves first third where
  id := late.id.trans early.id
  nodes id known := late.nodes id (early.nodes id known)
  advances := early.advances.trans late.advances
  fits := late.fits
  epochs := late.epochs
  owners slot := by
    rcases late.owners slot with same | changed
    · rcases early.owners slot with still | ⟨owned, free⟩
      · exact .inl (same.trans still)
      · refine .inr ⟨?_, fun dest member => free dest (late.migrating member)⟩
        rw [same]
        exact owned.imp_right (late.nodes _)
    · exact .inr changed
  migrating := List.Subset.trans late.migrating early.migrating
  importing := List.Subset.trans late.importing early.importing
  votes slot vote member := by
    obtain ⟨middle, recent⟩ := late.votes slot vote member
    obtain ⟨start, old⟩ := early.votes slot vote middle
    refine ⟨start, ?_⟩
    rcases recent with ⟨sameOwner, sameEpoch⟩ | raised
    · rcases old with ⟨oldOwner, oldEpoch⟩ | lifted
      · exact .inl ⟨sameOwner.trans oldOwner, sameEpoch.trans oldEpoch⟩
      · exact .inr (by omega)
    · exact .inr (by omega)
  flags unmixed := late.flags (early.flags unmixed)
  labels labelled := late.labels (early.labels labelled)

theorem sound (moves : Moves before after) (start : Sound before) : Sound after where
  me := by
    rw [moves.id]
    exact moves.nodes _ start.me
  owners slot := by
    rcases moves.owners slot with same | changed
    · rw [same]
      exact (start.owners slot).imp_right (moves.nodes _)
    · exact changed.1
  epochs := moves.epochs
  fits := moves.fits
  migrating slot dest member := by
    obtain ⟨⟨inside, mine⟩, known⟩ := start.migrating slot dest (moves.migrating member)
    rcases moves.owners slot with same | changed
    · exact ⟨⟨inside, same.trans (mine.trans moves.id.symm)⟩, moves.nodes dest known⟩
    · exact absurd member (changed.2 dest)
  apart slot dest source member other := start.apart slot dest source (moves.migrating member) (moves.importing other)

/-- A loop of such sections, under a condition that they keep. -/
theorem foldl {ι : Type} {step : ClusterState → ι → ClusterState} (good : ClusterState → Prop)
    (moves : ∀ state item, Sound state → good state → Moves state (step state item) ∧ good (step state item)) (items : List ι)
    (sound : Sound state) (start : good state) : Moves state (items.foldl step state) := by
  induction items generalizing state with
  | nil => exact .refl sound
  | cons item items ih =>
    obtain ⟨first, kept⟩ := moves state item sound start
    exact first.trans (ih (first.sound sound) kept)

end Moves

/-! Sections that give slots an owner. -/

theorem le_satAdd {epoch : Nat} (fits : epoch ≤ u64Max) : epoch ≤ satAdd epoch 1 := Nat.le_min.mpr ⟨Nat.le_add_right _ _, fits⟩

theorem satAdd_fits (epoch : Nat) : satAdd epoch 1 ≤ u64Max := min_le_right _ _

theorem mem_removeEntry {V : Type} {other : Nat} {value : V} {map : List (Nat × V)} :
    (other, value) ∈ removeEntry slot map ↔ (other, value) ∈ map ∧ other ≠ slot := by
  rw [removeEntry, mem_filter, decide_eq_true_iff]

theorem bump_moves (sound : Sound state) : Moves state state.bump where
  id := rfl
  nodes _ known := known
  advances := ⟨le_satAdd sound.fits, fun _ => le_rfl⟩
  fits := satAdd_fits _
  epochs slot := le_trans (sound.epochs slot) (le_satAdd sound.fits)
  owners _ := .inl rfl
  migrating := refl _
  importing := refl _
  votes _ _ member := ⟨member, .inl ⟨rfl, rfl⟩⟩
  flags unmixed := unmixed
  labels labelled := labelled

variable {other : Nat}

theorem ownerAt_stamp :
    (stampSlot owner state slot).ownerAt other = if slot = other ∧ other < slotCount then owner else state.ownerAt other :=
  getD_setIfInBounds state.slotOwner slot other owner ""

theorem slotEpoch_stamp : (stampSlot owner state slot).slotEpoch other =
      if slot = other ∧ other < slotCount then state.currentEpoch else state.slotEpoch other :=
  getD_setIfInBounds state.slotConfigEpoch slot other state.currentEpoch 0

section
variable (sound : Sound state)
include sound

theorem stampSlot_moves (known : owner = "" ∨ Known state owner) : Moves state (stampSlot owner state slot) where
  id := rfl
  nodes _ found := found
  advances := by
    refine ⟨le_rfl, fun other => ?_⟩
    rw [slotEpoch_stamp]
    split
    · exact sound.epochs other
    · exact le_rfl
  fits := sound.fits
  epochs other := by
    rw [slotEpoch_stamp]
    split
    · exact le_rfl
    · exact sound.epochs other
  owners other := by
    rw [ownerAt_stamp]
    split
    next same =>
      refine .inr ⟨known, fun dest member => ?_⟩
      exact (mem_removeEntry.mp member).2 same.1.symm
    next => exact .inl rfl
  migrating := filter_sublist.subset
  importing := filter_sublist.subset
  votes other vote member := by
    obtain ⟨inside, different⟩ := mem_removeEntry.mp member
    refine ⟨inside, .inl ?_⟩
    rw [ownerAt_stamp, slotEpoch_stamp]
    exact ⟨if_neg fun same => different same.1.symm, if_neg fun same => different same.1.symm⟩
  flags unmixed := unmixed
  labels labelled := labelled

theorem stampSlots_moves (known : owner = "" ∨ Known state owner)
    (slots : List Nat) : Moves state (slots.foldl (stampSlot owner) state.bump) := by
  have bumped := bump_moves sound
  refine bumped.trans (Moves.foldl (fun state => owner = "" ∨ Known state owner) ?_ slots (bumped.sound sound) known)
  intro state slot sound known
  exact ⟨stampSlot_moves sound known, known⟩

/-- A section that leaves the slots alone, and may only end transitions and drop votes. -/
theorem calm_moves (id : after.myId = state.myId)
    (slots : after.slotOwner = state.slotOwner ∧ after.slotConfigEpoch = state.slotConfigEpoch ∧ after.currentEpoch = state.currentEpoch)
    (nodes : ∀ id, Known state id → Known after id) (migrating : after.migrating ⊆ state.migrating)
    (importing : after.importing ⊆ state.importing) (votes : after.prepareNode ⊆ state.prepareNode)
    (flags : Unmixed state.nodes → Unmixed after.nodes) (labels : Labelled state → Labelled after) : Moves state after := by
  have owner (slot : Nat) : after.ownerAt slot = state.ownerAt slot := by rw [ownerAt, ownerIdOf, slots.1, ownerAt, ownerIdOf]
  have epoch (slot : Nat) : after.slotEpoch slot = state.slotEpoch slot := by rw [slotEpoch, slots.2.1, slotEpoch]
  have current := slots.2.2
  exact {
    id := id
    nodes := nodes
    advances := ⟨le_of_eq current.symm, fun slot => le_of_eq (epoch slot).symm⟩
    fits := current ▸ sound.fits
    epochs := fun slot => by
      rw [epoch, current]
      exact sound.epochs slot
    owners := fun slot => .inl (owner slot)
    migrating := migrating
    importing := importing
    votes := fun slot vote member => ⟨votes member, .inl ⟨owner slot, epoch slot⟩⟩
    flags := flags
    labels := labels }

theorem settle_moves : Moves state state.settle :=
  calm_moves sound rfl ⟨rfl, rfl, rfl⟩ (fun _ known => known) (nil_subset _) (nil_subset _) (nil_subset _) id id

end

variable {covers : String → Bool}

theorem ownerAt_restamp : (state.restamp covers owner).ownerAt slot =
      if slot < slotCount ∧ covers (state.ownerAt slot) = true then owner else state.ownerAt slot := by
  simp only [ownerAt, ownerIdOf, restamp, Vector.toList_map, getElem?_map]
  by_cases inside : slot < slotCount
  · simp [inside]
  · simp [inside]

theorem slotEpoch_restamp : (state.restamp covers owner).slotEpoch slot =
      if slot < slotCount ∧ covers (state.ownerAt slot) = true then satAdd state.currentEpoch 1 else state.slotEpoch slot := by
  simp only [ownerAt, ownerIdOf, slotEpoch, restamp, Vector.toList_zipWith, getElem?_zipWith]
  by_cases inside : slot < slotCount
  · simp [inside]
  · simp [inside]

section
variable (sound : Sound state)
include sound

/-- Slots change hands in bulk only where every transition and vote ends. -/
theorem restamp_moves (known : owner = "" ∨ Known state owner)
    (covers : String → Bool) : Moves state (state.restamp covers owner).settle where
  id := rfl
  nodes _ found := found
  advances := by
    refine ⟨le_satAdd sound.fits, fun slot => ?_⟩
    change _ ≤ (state.restamp covers owner).slotEpoch slot
    rw [slotEpoch_restamp]
    split
    · exact le_trans (sound.epochs slot) (le_satAdd sound.fits)
    · exact le_rfl
  fits := satAdd_fits _
  epochs slot := by
    change (state.restamp covers owner).slotEpoch slot ≤ satAdd state.currentEpoch 1
    rw [slotEpoch_restamp]
    split
    · exact le_rfl
    · exact le_trans (sound.epochs slot) (le_satAdd sound.fits)
  owners slot := by
    change (state.restamp covers owner).ownerAt slot = _ ∨
      ((state.restamp covers owner).ownerAt slot = "" ∨ Known state ((state.restamp covers owner).ownerAt slot)) ∧ _
    rw [ownerAt_restamp]
    split
    · exact .inr ⟨known, fun _ => not_mem_nil⟩
    · exact .inl rfl
  migrating := nil_subset _
  importing := nil_subset _
  votes _ _ member := absurd member not_mem_nil
  flags unmixed := unmixed
  labels labelled := labelled

/-! Sections on the table of nodes and on the votes. -/

theorem nodes_moves (grows : ∀ id, Known state id → table.containsKey id) (flags : Unmixed state.nodes → Unmixed table)
    (labels : Labelled state → Labelled { state with nodes := table }) : Moves state { state with nodes := table } :=
  calm_moves sound rfl ⟨rfl, rfl, rfl⟩ grows (refl _) (refl _) (refl _) flags labels

theorem modify_moves (id : String) (update : ClusterNode → ClusterNode)
    (keeps : ∀ node, (update node).id = node.id)
    (clean : Unmixed state.nodes → ∀ node ∈ state.nodes.entries, node.id = id → ¬((update node).pfail = true ∧ (update node).fail = true))
    (named : ∀ node, (update node).myself = node.myself)
    (spared : ∀ node, node.id = id → node.id = state.myId → node.fail = false → (update node).fail = false) :
    Moves state { state with nodes := state.nodes.modify id update keeps } := by
  apply nodes_moves sound
  · intro other known
    rw [containsKey_modify]
    exact known
  · exact fun unmixed => unmixed.modify (clean unmixed)
  · intro labelled node member
    obtain ⟨old, inside, rfl⟩ := (@NodeTable.mem_modify _ _ _ keeps _).mp member
    obtain ⟨mine, alive⟩ := labelled old inside
    split
    next same =>
      rw [named, keeps]
      exact ⟨mine, fun me => spared old same me (alive me)⟩
    next => exact ⟨mine, alive⟩

/-- Roles and addresses are written without a look at the flags. -/
theorem tame_moves (id : String)
    (keeps : ∀ node, (update node).id = node.id) (tame : Tame update) (named : ∀ node, (update node).myself = node.myself) :
    Moves state { state with nodes := state.nodes.modify id update keeps } := by
  apply modify_moves sound _ _ _ _ named
  · intro node _ _ alive
    exact eq_false_iff.mpr fun failed => absurd ((tame node).2 failed) (eq_false_iff.mp alive)
  · intro unmixed node member _ both
    exact unmixed node member ⟨(tame node).1 both.1, (tame node).2 both.2⟩

theorem cleared_moves (id : String)
    (keeps : ∀ node, (update node).id = node.id) (clears : ∀ node, (update node).pfail = false)
    (named : ∀ node, (update node).myself = node.myself) (spared : id = state.myId → ∀ node, (update node).fail = false) :
    Moves state { state with nodes := state.nodes.modify id update keeps } := by
  apply modify_moves sound _ _ _ _ named
  · exact fun node same mine _ => spared (same.symm.trans mine) node
  · intro _ node _ _ both
    rw [clears] at both
    cases both.1

theorem votes_moves {votes : List (Nat × PrepareVote)} (fewer : votes ⊆ state.prepareNode) :
    Moves state { state with prepareNode := votes } :=
  calm_moves sound rfl ⟨rfl, rfl, rfl⟩ (fun _ known => known) (refl _) (refl _) fewer id id

/-! Sections that refuse or succeed. -/

variable {slots : List Nat}

theorem addSlots_moves (done : state.addSlots slots = .ok after) : Moves state after := by
  unfold addSlots at done
  split at done
  · cases done
  · split at done
    · cases done
    · cases done
      exact stampSlots_moves sound (.inr sound.me) slots

theorem delSlots_moves (done : state.delSlots slots = .ok after) : Moves state after := by
  unfold delSlots at done
  split at done
  · cases done
  · split at done
    · cases done
    · cases done
      exact stampSlots_moves sound (.inl rfl) slots

theorem flushSlots_moves : Moves state state.flushSlots := by
  unfold flushSlots
  split
  · exact restamp_moves sound (.inl rfl) _
  · exact settle_moves sound

theorem addNodeWithRole_moves (id ip : String) (port : Nat) (roleMaster : Option Bool)
    (roleMasterId : Option (Option String)) : Moves state (state.addNodeWithRole id ip port roleMaster roleMasterId) := by
  unfold addNodeWithRole
  split
  · exact .refl sound
  next peer =>
    apply nodes_moves sound
    · intro other known
      rw [containsKey_insert, show state.nodes.containsKey other = true from known, Bool.true_or]
    · intro unmixed
      apply unmixed.insert
      cases found : state.nodes.get id with
      | none => exact fun both => absurd both.1 Bool.false_ne_true
      | some node => exact unmixed node (get_eq_some.mp found).1
    · intro labelled node member
      rcases mem_insert member with old | rfl
      · exact labelled node old
      · exact ⟨⟨fun marked => absurd marked Bool.false_ne_true, fun same => absurd same peer⟩, fun same => absurd same peer⟩

theorem markFail_moves (id : String) : Moves state (state.markFail id) := by
  unfold markFail
  split
  · exact .refl sound
  next peer => exact cleared_moves sound _ _ (fun _ => rfl) (fun _ => rfl) fun mine => absurd mine peer

theorem claimSlotsFrom_moves {failedId : String} {claimed : Nat}
    (done : state.claimSlotsFrom failedId = .ok (after, claimed)) : Moves state after := by
  unfold claimSlotsFrom at done
  split at done
  · cases done
  cases done
  split
  · have moved := restamp_moves sound (.inr sound.me) (· == failedId)
    exact moved.trans (tame_moves (moved.sound sound) _ _ (fun _ => ⟨id, fun failed => absurd failed false_ne_true⟩) fun _ => rfl)
  · have moved := settle_moves sound
    exact moved.trans (tame_moves (moved.sound sound) _ _ (fun _ => ⟨id, fun failed => absurd failed false_ne_true⟩) fun _ => rfl)

theorem configureAsReplicaOf_moves {masterId : String}
    (done : state.configureAsReplicaOf masterId = .ok after) : Moves state after := by
  unfold configureAsReplicaOf at done
  split at done
  · cases done
  split at done
  · cases done
  next unknown =>
    have known : Known state masterId := by simpa [Known] using unknown
    cases done
    have roles {handed : ClusterState} (moved : Moves state handed) :
        Moves state { handed with
          nodes := (handed.nodes.modify state.myId
            (fun me => { me with master := false, masterId := some masterId, fail := false }) fun _ => rfl).modify masterId
            (fun node => { node with master := true, masterId := none }) fun _ => rfl } := by
      have demoted := moved.trans (@tame_moves (fun me => { me with master := false, masterId := some masterId, fail := false }) _
        (moved.sound sound) state.myId (fun _ => rfl)
        (fun _ => ⟨id, fun failed => absurd failed false_ne_true⟩) fun _ => rfl)
      exact demoted.trans (tame_moves (demoted.sound sound) _ _ (fun _ => ⟨id, id⟩) fun _ => rfl)
    split
    · exact roles (restamp_moves sound (.inr known) (· == state.myId))
    · exact roles (settle_moves sound)

theorem reassignSlot_moves (done : state.reassignSlot slot nodeId = .ok after) : Moves state after := by
  unfold reassignSlot at done
  split at done
  · cases done
  split at done
  · cases done
  next unknown =>
    cases done
    exact stampSlots_moves sound (.inr (by simpa [Known] using unknown)) [slot]

theorem setStable_moves (done : state.setStable slot = .ok after) :
    Moves state after := by
  unfold setStable at done
  split at done
  · cases done
  · cases done
    exact calm_moves sound rfl ⟨rfl, rfl, rfl⟩ (fun _ known => known) filter_sublist.subset filter_sublist.subset
      filter_sublist.subset id id

theorem purgeExpiredPrepare_moves (now slot : Nat) :
    Moves state (state.purgeExpiredPrepare now slot) := by
  unfold purgeExpiredPrepare
  split
  · split
    · exact votes_moves sound filter_sublist.subset
    · exact .refl sound
  · exact .refl sound

theorem recheckVote_moves (now slot : Nat) (nodeId : String) :
    Moves state (state.recheckVote now slot nodeId).1 := by
  unfold recheckVote
  split
  · exact .refl sound
  split
  · exact .refl sound
  split
  · exact votes_moves sound filter_sublist.subset
  · split
    · exact .refl sound
    · exact .refl sound

theorem commitVote_moves (now later slot : Nat) (nodeId : String) :
    Moves state (state.commitVote now later slot nodeId).1 := by
  have purged := purgeExpiredPrepare_moves sound now slot
  have checked := purged.trans (recheckVote_moves (purged.sound sound) later slot nodeId)
  unfold commitVote
  split
  next same => simpa only [same] using checked
  next state _ same =>
    rw [same] at checked
    split
    · exact checked
    next unknown =>
      exact checked.trans (stampSlots_moves (checked.sound sound) (.inr (by simpa [Known] using unknown)) [slot])

theorem testBump_moves (slot : Nat) :
    Moves state (state.testBumpSlotEpochKeepPrepare slot) := by
  unfold testBumpSlotEpochKeepPrepare
  split
  · exact .refl sound
  next inside =>
    have epoch (other : Nat) :
        ({ state.bump with slotConfigEpoch := state.slotConfigEpoch.setIfInBounds slot state.bump.currentEpoch } : ClusterState).slotEpoch other =
          if slot = other ∧ other < slotCount then satAdd state.currentEpoch 1 else state.slotEpoch other :=
      getD_setIfInBounds state.slotConfigEpoch slot other state.bump.currentEpoch 0
    have grows (other : Nat) : state.slotEpoch other ≤ satAdd state.currentEpoch 1 :=
      le_trans (sound.epochs other) (le_satAdd sound.fits)
    refine ⟨rfl, fun _ known => known, ⟨le_satAdd sound.fits, fun other => ?_⟩, satAdd_fits _, fun other => ?_, fun _ => .inl rfl,
      refl _, refl _, fun other vote member => ⟨member, ?_⟩, id, id⟩
    · rw [epoch]
      split
      · exact grows other
      · exact le_rfl
    · rw [epoch]
      split
      · exact le_rfl
      · exact grows other
    · rw [epoch]
      split
      · exact (Nat.eq_or_lt_of_le (grows other)).imp_left fun same => ⟨rfl, same.symm⟩
      · exact .inl ⟨rfl, rfl⟩

theorem applyOwnershipRange_moves {range : OwnershipRange} (fits : range.epoch ≤ u64Max) :
    Moves state (state.applyOwnershipRange range).1 := by
  rcases applyOwnershipRange_spec state range with ⟨-, same⟩ | ⟨accepts, merged⟩
  · rw [same]
    exact .refl sound
  · generalize (state.applyOwnershipRange range).1 = after at merged
    have free (slot : Nat) (won : Won range state slot) (dest : String) : (slot, dest) ∉ state.migrating := by
      intro member
      apply won.2.1
      have found : (state.migrating.lookup slot).isSome := lookup_isSome_iff.mpr ⟨(slot, dest), member, beq_self_eq_true slot⟩
      rw [InTransition, isMigrating, found, Bool.true_or]
    have higher (slot : Nat) (won : Won range state slot) : state.slotEpoch slot < range.epoch := won.2.2
    refine ⟨merged.id, fun id known => ?_, ⟨merged.current.1, fun slot => ?_⟩, ?_, fun slot => ?_, fun slot => ?_,
      merged.migrating ▸ refl _, merged.importing ▸ refl _, fun slot vote member => ?_, ?_, ?_⟩
    · rw [Known, merged.known, show state.nodes.containsKey id = true from known, Bool.true_or]
    · rw [merged.epoch]
      split
      next won => exact le_of_lt (higher slot won)
      next => exact le_rfl
    · rcases merged.current.2 with same | raised
      · rw [same]
        exact sound.fits
      · rw [raised]
        exact fits
    · rw [merged.epoch]
      split
      next won => exact merged.covers slot won
      next => exact le_trans (sound.epochs slot) merged.current.1
    · rw [merged.owner]
      split
      next won =>
        refine .inr ⟨.inr ?_, fun dest => merged.migrating ▸ free slot won dest⟩
        rw [Known, merged.known, beq_self_eq_true, Bool.or_true]
      next => exact .inl rfl
    · rw [merged.votes] at member
      refine ⟨member, ?_⟩
      rw [merged.owner, merged.epoch]
      split
      next won => exact .inr (higher slot won)
      next => exact .inl ⟨rfl, rfl⟩
    · intro unmixed node member both
      rcases merged.nodes node member with ⟨old, inside, -, pfail, fail⟩ | ⟨-, clear, -⟩
      · exact unmixed old inside ⟨pfail ▸ both.1, fail ▸ both.2⟩
      · rw [clear] at both
        cases both.1
    · intro labelled node member
      rw [merged.id]
      rcases merged.nodes node member with ⟨old, inside, ⟨sameId, sameMark⟩, -, fail⟩ | ⟨⟨named, fresh, unmarked⟩, -, alive⟩
      · rw [sameId, sameMark, fail]
        exact labelled old inside
      · have other : node.id ≠ state.myId := by
          intro same
          have known : state.nodes.containsKey state.myId := sound.me
          rw [← same, named, fresh] at known
          cases known
        rw [unmarked]
        exact ⟨⟨fun marked => absurd marked Bool.false_ne_true, fun same => absurd same other⟩, fun same => absurd same other⟩

theorem setConfigEpoch_moves {epoch : Nat} (fits : epoch ≤ u64Max)
    (done : state.setConfigEpoch epoch = .ok after) : Moves state after := by
  unfold setConfigEpoch at done
  split at done
  · cases done
  next higher =>
    cases done
    have raised : state.currentEpoch ≤ epoch := by omega
    exact ⟨rfl, fun _ known => known, ⟨raised, fun _ => le_rfl⟩, fits, fun slot => le_trans (sound.epochs slot) raised,
      fun _ => .inl rfl, refl _, refl _, fun _ _ member => ⟨member, .inl ⟨rfl, rfl⟩⟩, id, id⟩

end

/-- What a section leaves that does not cast votes. -/
structure Kept (before after : ClusterState) : Prop where
  sound : Sound after
  advances : Advances before after
  votes : Fenced before after
  flags : Unmixed before.nodes → Unmixed after.nodes
  labels : Labelled before → Labelled after

theorem Moves.kept (moves : Moves before after) (sound : Sound before) : Kept before after :=
  ⟨moves.sound sound, moves.advances, moves.votes, moves.flags, moves.labels⟩

theorem Kept.refl (sound : Sound state) : Kept state state := (Moves.refl sound).kept sound

theorem ownerAt_mem (bound : state.ownerAt slot ≠ "") : state.ownerAt slot ∈ state.slotOwner.toList := by
  unfold ownerAt ownerIdOf at bound ⊢
  cases found : state.slotOwner.toList[slot]? with
  | none =>
    rw [found] at bound
    exact absurd rfl bound
  | some owner => exact mem_of_getElem? found

section
variable (sound : Sound state)
include sound

theorem forgetNode_kept (done : state.forgetNode nodeId = .ok after) : Kept state after := by
  unfold ClusterState.forgetNode at done
  split at done
  · cases done
  next other =>
    split at done
    · cases done
    split at done
    · cases done
    next free =>
      cases done
      have retained {id : String} (different : id ≠ nodeId) (known : Known state id) :
          (state.nodes.retain fun node => node.id != nodeId).containsKey id = true := by
        rw [containsKey_retain]
        · exact known
        · intro node same
          rw [same]
          exact bne_iff_ne.mpr different
      refine ⟨⟨retained (Ne.symm other) sound.me, fun slot => ?_, sound.epochs, sound.fits, fun slot dest member => ?_,
        fun slot dest source member also => ?_⟩, ⟨le_rfl, fun _ => le_rfl⟩, fun slot vote member => ?_,
        fun unmixed => unmixed.retain _, fun labelled node member => labelled node (mem_filter.mp member).1⟩
      · by_cases unbound : state.ownerAt slot = ""
        · exact .inl unbound
        · right
          apply retained
          · intro same
            apply free
            rw [any_eq_true]
            exact ⟨state.ownerAt slot, ownerAt_mem unbound, beq_iff_eq.mpr same⟩
          · exact (sound.owners slot).resolve_left unbound
      · obtain ⟨inside, different⟩ := mem_filter.mp member
        obtain ⟨mine, known⟩ := sound.migrating slot dest inside
        exact ⟨mine, retained (bne_iff_ne.mp different) known⟩
      · exact sound.apart slot dest source (mem_filter.mp member).1 (mem_filter.mp also).1
      · exact ⟨(mem_filter.mp member).1, .inl ⟨rfl, rfl⟩⟩

theorem resetClusterConfig_kept : Kept state state.resetClusterConfig := by
  have cleared := @restamp_moves state "" sound (.inl rfl) fun _ => true
  have unbound (slot : Nat) : (state.restamp (fun _ => true) "").ownerAt slot = "" := by
    rw [ownerAt_restamp]
    split
    next => rfl
    next outside =>
      have far : slotCount ≤ slot := by simpa using outside
      simp [ownerAt, ownerIdOf, far]
  refine ⟨⟨?_, fun slot => .inl (unbound slot), cleared.epochs, cleared.fits, fun slot dest member => absurd member not_mem_nil,
    fun slot dest source member => absurd member not_mem_nil⟩,
    ⟨cleared.advances.current, cleared.advances.slots⟩, cleared.votes, fun unmixed => ?_, fun labelled node member => ?_⟩
  · change containsKey _ state.myId = true
    rw [ClusterState.resetClusterConfig, containsKey_modify, containsKey_retain]
    · exact sound.me
    · intro node same
      exact beq_iff_eq.mpr same
  · apply Unmixed.modify
    · exact fun _ => rfl
    · exact unmixed.retain _
    · exact fun _ _ _ both => absurd both.1 false_ne_true
  · obtain ⟨old, inside, rfl⟩ := mem_map.mp member
    have mine : old.id = state.myId := beq_iff_eq.mp (mem_filter.mp inside).2
    rw [if_pos mine]
    exact ⟨⟨fun _ => mine, fun _ => rfl⟩, fun _ => rfl⟩

theorem setMigrating_kept {dest : String} (done : state.setMigrating slot dest = .ok after) : Kept state after := by
  unfold setMigrating at done
  split at done
  · cases done
  next inside =>
    split at done
    · cases done
    next unknown =>
      split at done
      · cases done
      next owned =>
        cases done
        have known : Known state dest := by simpa [Known] using unknown
        have mine : state.ownerAt slot = state.myId := by rw [ownerAt, not_not.mp owned, Option.getD_some]
        refine ⟨⟨sound.me, sound.owners, sound.epochs, sound.fits, fun other target member => ?_,
          fun other target source member also => ?_⟩, ⟨le_rfl, fun _ => le_rfl⟩,
          fun other vote member => ⟨member, .inl ⟨rfl, rfl⟩⟩, id, id⟩
        · rcases mem_cons.mp member with same | rest
          · cases same
            exact ⟨⟨Nat.lt_of_not_le inside, mine⟩, known⟩
          · exact sound.migrating other target (mem_filter.mp rest).1
        · obtain ⟨still, different⟩ := mem_removeEntry.mp also
          rcases mem_cons.mp member with same | rest
          · cases same
            exact different rfl
          · exact sound.apart other target source (mem_filter.mp rest).1 still

theorem setImporting_kept {source : String} (done : state.setImporting slot source = .ok after) : Kept state after := by
  unfold setImporting at done
  split at done
  · cases done
  split at done
  · cases done
  cases done
  refine ⟨⟨sound.me, sound.owners, sound.epochs, sound.fits, fun other target member => ?_,
    fun other target giver member also => ?_⟩, ⟨le_rfl, fun _ => le_rfl⟩,
      fun other vote member => ⟨member, .inl ⟨rfl, rfl⟩⟩, id, id⟩
  · exact sound.migrating other target (mem_removeEntry.mp member).1
  · obtain ⟨still, different⟩ := mem_removeEntry.mp member
    rcases mem_cons.mp also with same | rest
    · cases same
      exact different rfl
    · exact sound.apart other target giver still (mem_filter.mp rest).1

end

/-! Any section. -/

theorem settled_elim {result : Except String ClusterState} {holds : ClusterState → Prop}
    (refused : holds cluster.toClusterState) (done : ∀ state, result = .ok state → holds state) :
    holds (cluster.settled result).1.toClusterState := by
  cases result with
  | ok state => exact done state rfl
  | error text => exact refused

theorem listed_mem {order members : List String} {id : String} (member : id ∈ listed order members) : id ∈ members := by
  rcases mem_append.mp member with named | rest
  · exact of_decide_eq_true (mem_filter.mp named).2
  · exact (mem_filter.mp rest).1

theorem setElection_state (id : String) (election : Election) :
    (cluster.setElection id election).toClusterState = cluster.toClusterState := by
  unfold setElection
  split <;> rfl

/-- The sections that put a vote into the map or date it anew. -/
def Section.casts : Section → Bool
  | .recordPrepare .. | .testExpirePrepare .. => true
  | _ => false

theorem Sound.of_votes (sound : Sound state) (votes : List (Nat × PrepareVote)) :
    Sound { state with prepareNode := votes } :=
  ⟨sound.me, sound.owners, sound.epochs, sound.fits, sound.migrating, sound.apart⟩

theorem recordPrepare_eq {now : Nat} (done : state.recordPrepare now slot nodeId = .ok after) :
    after = { state with prepareNode := insertEntry slot ⟨nodeId, state.slotEpoch slot, now⟩ state.prepareNode } := by
  unfold recordPrepare at done
  split at done
  · cases done
  · split at done
    · cases done
    · cases done
      rfl

/-- What every section leaves, votes apart. -/
structure Upheld (before after : ClusterState) : Prop where
  sound : Sound after
  advances : Advances before after
  flags : Unmixed before.nodes → Unmixed after.nodes
  labels : Labelled before → Labelled after

theorem Upheld.refl (sound : Sound state) : Upheld state state := ⟨sound, .refl state, id, id⟩

theorem Upheld.trans (early : Upheld first second) (late : Upheld second third) : Upheld first third :=
  ⟨late.sound, early.advances.trans late.advances, fun unmixed => late.flags (early.flags unmixed),
    fun labelled => late.labels (early.labels labelled)⟩

section
variable (sound : Sound cluster.toClusterState)
include sound

theorem escalateCandidate_moves (quorum : Nat) (newly : List String) {candidate : String} (peer : candidate ≠ cluster.myId) :
    Moves cluster.toClusterState (escalateCandidate quorum (cluster, newly) candidate).1.toClusterState := by
  unfold escalateCandidate
  dsimp only
  split
  · exact .refl sound
  · split
    · exact cleared_moves sound _ _ (fun _ => rfl) (fun _ => rfl) fun mine => absurd mine peer
    · exact .refl sound

theorem escalate_moves (quorum : Nat) (order : List String) :
    Moves cluster.toClusterState (cluster.escalate quorum order).1.toClusterState := by
  have peers : ∀ candidate ∈ listed order cluster.suspects, candidate ≠ cluster.myId := fun candidate member =>
    of_decide_eq_true (mem_filter.mp (listed_mem member)).2
  unfold escalate
  generalize ([] : List String) = newly
  generalize listed order cluster.suspects = candidates at peers
  induction candidates generalizing cluster newly with
  | nil => exact .refl sound
  | cons candidate candidates ih =>
    have first := escalateCandidate_moves sound quorum newly (peers candidate mem_cons_self)
    refine first.trans (ih (first.sound sound) _ fun other member => ?_)
    rw [first.id]
    exact peers other (mem_cons_of_mem _ member)

theorem enter_kept (part : Section) (quiet : Section.casts part = false) :
    Kept cluster.toClusterState (cluster.enter part).toClusterState := by
  have unchanged := Kept.refl sound
  cases part with
  | setAnnounceIp ip | setAnnouncePort port => exact Moves.kept (tame_moves sound _ _ (fun _ => ⟨id, id⟩) fun _ => rfl) sound
  | setNodesConfDir dir => exact unchanged
  | purgeExpiredPrepares now | removePrepare slot => exact (votes_moves sound filter_sublist.subset).kept sound
  | setLocalReplOffset offset =>
    rw [enter, setLocalReplOffset, setElection_state]
    exact unchanged
  | setLocalReplPriority priority =>
    rw [enter, setLocalReplPriority, setElection_state]
    exact unchanged
  | bumpEpoch => exact (bump_moves sound).kept sound
  | setConfigEpoch epoch => exact settled_elim unchanged fun state done => (setConfigEpoch_moves sound epoch.2 done).kept sound
  | forgetNode nodeId =>
    simp only [enter, Cluster.forgetNode]
    cases done : cluster.toClusterState.forgetNode nodeId with
    | error text => exact unchanged
    | ok state => exact forgetNode_kept sound done
  | resetClusterConfig => exact resetClusterConfig_kept sound
  | addSlots slots => exact settled_elim unchanged fun state done => (addSlots_moves sound done).kept sound
  | delSlots slots => exact settled_elim unchanged fun state done => (delSlots_moves sound done).kept sound
  | flushSlots => exact (flushSlots_moves sound).kept sound
  | addNodeWithRole id ip port roleMaster roleMasterId => exact (addNodeWithRole_moves sound id ip port roleMaster roleMasterId).kept sound
  | setElection id election =>
    rw [enter, setElection_state]
    exact unchanged
  | markWinner id | touchPong id => exact Moves.kept (cleared_moves sound _ _ (fun _ => rfl) (fun _ => rfl) fun _ _ => rfl) sound
  | configureAsReplicaOf masterId => exact settled_elim unchanged fun state done => (configureAsReplicaOf_moves sound done).kept sound
  | markFail id => exact (markFail_moves sound id).kept sound
  | ingestFailReports peer suspects =>
    simp only [enter, ingestFailReports]
    split
    · exact unchanged
    · exact unchanged
  | notePfail id =>
    simp only [enter, notePfail]
    split
    · exact unchanged
    split
    · exact unchanged
    next node found =>
      split
      · exact unchanged
      next alive =>
        refine Moves.kept (modify_moves sound _ _ _ ?_ (fun _ => rfl) fun _ _ _ alive => alive) sound
        -- the only node with this id is the one whose flag was read
        intro _ other member same both
        have equal : some other = some node := (get_eq_some.mpr ⟨member, same⟩).symm.trans found
        cases equal
        exact alive both.2
  | escalate quorum order => exact (escalate_moves sound quorum order).kept sound
  | claimSlotsFrom failedId =>
    simp only [enter, claimFrom]
    split
    next state claimed done => exact (claimSlotsFrom_moves sound done).kept sound
    next => exact unchanged
  | reassignSlot slot nodeId => exact settled_elim unchanged fun state done => (reassignSlot_moves sound done).kept sound
  | setMigrating slot dest => exact settled_elim unchanged fun state done => setMigrating_kept sound done
  | setImporting slot source => exact settled_elim unchanged fun state done => setImporting_kept sound done
  | setStable slot => exact settled_elim unchanged fun state done => (setStable_moves sound done).kept sound
  | recordPrepare now slot nodeId | testExpirePrepare now slot => cases quiet
  | purgeExpiredPrepare now slot => exact (purgeExpiredPrepare_moves sound now slot).kept sound
  | clearAllPrepares => exact (votes_moves sound (nil_subset _)).kept sound
  | commitVote now later slot nodeId => exact (commitVote_moves sound now later slot nodeId).kept sound
  | testBumpSlotEpochKeepPrepare slot => exact (testBump_moves sound slot).kept sound
  | applyOwnershipRange range => exact (applyOwnershipRange_moves sound range.2).kept sound
  | hook hook count => cases hook <;> exact unchanged

theorem enter_upheld (part : Section) : Upheld cluster.toClusterState (cluster.enter part).toClusterState := by
  cases casts : Section.casts part with
  | false =>
    have kept := enter_kept sound part casts
    exact ⟨kept.sound, kept.advances, kept.flags, kept.labels⟩
  | true =>
    have voted (votes : List (Nat × PrepareVote)) : Upheld cluster.toClusterState { cluster.toClusterState with prepareNode := votes } :=
      ⟨sound.of_votes votes, ⟨le_rfl, fun _ => le_rfl⟩, id, id⟩
    cases part with
    | recordPrepare now slot nodeId =>
      refine settled_elim (.refl sound) fun state done => ?_
      rw [recordPrepare_eq done]
      exact voted _
    | testExpirePrepare now slot => exact voted _
    | _ => cases casts

theorem sections_upheld (parts : List Section) : Upheld cluster.toClusterState (run enter cluster parts).toClusterState := by
  induction parts generalizing cluster with
  | nil => exact .refl sound
  | cons part parts ih =>
    have first := enter_upheld sound part
    exact first.trans (ih first.sound)

end

end Kore.Proofs.ClusterInvariant
