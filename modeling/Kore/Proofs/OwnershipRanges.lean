import Kore.Cluster.Operations

/-! What a received ownership range does to the topology, slot by slot: it is taken where it
carries a higher epoch and no transition is going on. -/

namespace Kore.Proofs.OwnershipRanges
open Foundation Cluster ClusterState List NodeTable

variable (range : OwnershipRange) (state : ClusterState)

def InTransition (slot : Nat) : Prop := (state.isMigrating slot || state.isImporting slot) = true

instance (state : ClusterState) (slot : Nat) : Decidable (InTransition state slot) := inferInstanceAs (Decidable (_ = true))

def Takes (slot : Nat) : Prop :=
  ¬InTransition state slot ∧ state.slotEpoch slot < range.epoch

instance (range : OwnershipRange) (state : ClusterState) (slot : Nat) : Decidable (Takes range state slot) :=
  inferInstanceAs (Decidable (_ ∧ _))

/-- Everything but the owners and epochs of slots is as before. -/
structure SlotsOnly (before after : ClusterState) : Prop where
  id : after.myId = before.myId
  migrating : after.migrating = before.migrating
  importing : after.importing = before.importing
  votes : after.prepareNode = before.prepareNode
  nodes : after.nodes = before.nodes
  current : after.currentEpoch = before.currentEpoch

variable {slot : Nat} {tally : Tally}

variable {before after : ClusterState}

theorem SlotsOnly.inTransition (only : SlotsOnly before after) : InTransition after slot ↔ InTransition before slot := by
  rw [InTransition, InTransition, isMigrating, isImporting, isMigrating, isImporting, only.migrating, only.importing]

variable {owner : String} {epoch other : Nat}

@[simp] theorem ownerAt_assign :
    (assignSlot owner epoch state slot).ownerAt other = if slot = other ∧ other < slotCount then owner else state.ownerAt other :=
  getD_setIfInBounds state.slotOwner slot other owner ""

@[simp] theorem slotEpoch_assign :
    (assignSlot owner epoch state slot).slotEpoch other = if slot = other ∧ other < slotCount then epoch else state.slotEpoch other :=
  getD_setIfInBounds state.slotConfigEpoch slot other epoch 0

private theorem applySlot_fst :
    (applySlot range (state, tally) slot).1 = if Takes range state slot then assignSlot range.ownerId range.epoch state slot else state := by
  unfold applySlot
  dsimp only
  split
  next going =>
    rw [if_neg]
    exact fun takes => takes.1 going
  next still =>
    split
    next higher => rw [if_pos (show Takes range state slot from ⟨still, higher⟩)]; rfl
    next stale =>
      rw [if_neg]
      exact fun takes => stale takes.2

private theorem applySlot_applied :
    0 < (applySlot range (state, tally) slot).2.applied ↔ 0 < tally.applied ∨ Takes range state slot := by
  unfold applySlot
  dsimp only
  split
  next going =>
    have left : ¬Takes range state slot := fun takes => takes.1 going
    simp only [left, or_false]
  next still =>
    split
    next higher =>
      have wins : Takes range state slot := ⟨still, higher⟩
      simp only [wins, or_true, Nat.zero_lt_succ]
    next stale =>
      have left : ¬Takes range state slot := fun takes => stale takes.2
      simp only [left, or_false]

/-- What the loop over the slots of a range has done. -/
structure Assigned (range : OwnershipRange) (slots : List Nat) (before after : ClusterState) : Prop where
  only : SlotsOnly before after
  owner : ∀ slot, after.ownerAt slot = if slot ∈ slots ∧ Takes range before slot then range.ownerId else before.ownerAt slot
  epoch : ∀ slot, after.slotEpoch slot = if slot ∈ slots ∧ Takes range before slot then range.epoch else before.slotEpoch slot

variable {slots : List Nat}

private theorem Assigned.takes {range : OwnershipRange} (done : Assigned range slots before after) (slot : Nat) :
    Takes range after slot ↔ slot ∉ slots ∧ Takes range before slot := by
  rw [Takes, done.only.inTransition, done.epoch]
  split
  next taken => exact ⟨fun won => absurd won.2 (lt_irrefl _), fun fresh => absurd taken.1 fresh.1⟩
  next kept =>
    constructor
    · intro won
      exact ⟨fun member => kept ⟨member, won⟩, won⟩
    · exact fun fresh => fresh.2

private theorem Assigned.next {range : OwnershipRange} {slot : Nat}
    (done : Assigned range slots before after) (inside : slot < slotCount) :
    Assigned range (slots ++ [slot]) before
      (if Takes range after slot then assignSlot range.ownerId range.epoch after slot else after) := by
  have here : Takes range after slot ↔ slot ∉ slots ∧ Takes range before slot := done.takes slot
  split
  next won =>
    obtain ⟨fresh, wins⟩ := here.mp won
    refine ⟨⟨done.only.id, done.only.migrating, done.only.importing, done.only.votes, done.only.nodes, done.only.current⟩, ?_, ?_⟩
    all_goals
      intro other
      by_cases same : slot = other
      · subst same
        simp [inside, wins]
      · simp [same, Ne.symm same, done.owner, done.epoch]
  next lost =>
    have repeated : Takes range before slot → slot ∈ slots := by
      intro wins
      by_contra fresh
      exact lost (here.mpr ⟨fresh, wins⟩)
    refine ⟨done.only, fun other => ?_, fun other => ?_⟩
    all_goals
      have same : (other ∈ slots ++ [slot] ∧ Takes range before other) ↔ (other ∈ slots ∧ Takes range before other) := by
        rw [mem_append, mem_singleton]
        constructor
        · intro ⟨either, wins⟩
          rcases either with member | rfl
          · exact ⟨member, wins⟩
          · exact ⟨repeated wins, wins⟩
        · exact fun ⟨member, wins⟩ => ⟨.inl member, wins⟩
      simp only [same, done.owner, done.epoch]

theorem applySlots_assigned (before : ClusterState) (slots : List Nat) (inside : ∀ slot ∈ slots, slot < slotCount)
    (tally : Tally) :
    Assigned range slots before (slots.foldl (applySlot range) (before, tally)).1 ∧
      (0 < (slots.foldl (applySlot range) (before, tally)).2.applied ↔ 0 < tally.applied ∨ ∃ slot ∈ slots, Takes range before slot) := by
  -- the slots visited so far grow at the end
  induction slots using reverseRecOn with
  | nil =>
    refine ⟨⟨⟨rfl, rfl, rfl, rfl, rfl, rfl⟩, fun slot => ?_, fun slot => ?_⟩, ?_⟩
    all_goals simp
  | append_singleton slots slot ih =>
    obtain ⟨done, counted⟩ := ih fun other member => inside other (mem_append_left _ member)
    have bound : slot < slotCount := inside slot (mem_append_right _ (mem_singleton_self slot))
    rw [foldl_append, foldl_cons, foldl_nil]
    generalize slots.foldl (applySlot range) (before, tally) = progress at done counted
    rw [applySlot_fst, applySlot_applied]
    refine ⟨done.next bound, ?_⟩
    rw [counted, done.takes, or_assoc]
    apply or_congr_right
    constructor
    · intro either
      rcases either with ⟨other, member, wins⟩ | ⟨_, wins⟩
      · exact ⟨other, mem_append_left _ member, wins⟩
      · exact ⟨slot, mem_append_right _ (mem_singleton_self slot), wins⟩
    · intro ⟨other, member, wins⟩
      by_cases before : other ∈ slots
      · exact .inl ⟨other, before, wins⟩
      · rcases mem_append.mp member with early | last
        · exact absurd early before
        · cases mem_singleton.mp last
          exact .inr ⟨before, wins⟩

/-- The receiver looks at the slots of this range. -/
@[mk_iff] structure Accepts (state : ClusterState) (range : OwnershipRange) : Prop where
  ordered : range.first ≤ range.last
  inside : range.last < slotCount
  bound : range.ownerId ≠ ""
  reachable : state.nodes.containsKey range.ownerId = true ∨ range.ip ≠ "" ∧ range.port ≠ 0

instance (state : ClusterState) (range : OwnershipRange) : Decidable (Accepts state range) :=
  decidable_of_iff _ (accepts_iff state range).symm

def Won (slot : Nat) : Prop :=
  (range.first ≤ slot ∧ slot ≤ range.last) ∧ Takes range state slot

instance (range : OwnershipRange) (state : ClusterState) (slot : Nat) : Decidable (Won range state slot) :=
  inferInstanceAs (Decidable (_ ∧ _))

/-- A node of the table after a range: one from before, perhaps with a new address, or the owner. -/
def Renews (before : ClusterState) (range : OwnershipRange) (node : ClusterNode) : Prop :=
  (∃ old ∈ before.nodes.entries, (node.id = old.id ∧ node.myself = old.myself) ∧ node.pfail = old.pfail ∧ node.fail = old.fail) ∨
    (node.id = range.ownerId ∧ before.nodes.containsKey range.ownerId = false ∧ node.myself = false) ∧ node.pfail = false ∧ node.fail = false

structure Merged (range : OwnershipRange) (before after : ClusterState) : Prop where
  id : after.myId = before.myId
  migrating : after.migrating = before.migrating
  importing : after.importing = before.importing
  votes : after.prepareNode = before.prepareNode
  known : ∀ id, after.nodes.containsKey id = (before.nodes.containsKey id || range.ownerId == id)
  nodes : ∀ node ∈ after.nodes.entries, Renews before range node
  owner : ∀ slot, after.ownerAt slot = if Won range before slot then range.ownerId else before.ownerAt slot
  epoch : ∀ slot, after.slotEpoch slot = if Won range before slot then range.epoch else before.slotEpoch slot
  current : before.currentEpoch ≤ after.currentEpoch ∧ (after.currentEpoch = before.currentEpoch ∨ after.currentEpoch = range.epoch)
  covers : ∀ slot, Won range before slot → range.epoch ≤ after.currentEpoch

private theorem learnOwner_cases (range : OwnershipRange) :
    (state.learnOwner range = none ∧ state.nodes.containsKey range.ownerId = false ∧ (range.ip = "" ∨ range.port = 0)) ∨
      ∃ table, state.learnOwner range = some { state with nodes := table } ∧
        (state.nodes.containsKey range.ownerId = true ∨ range.ip ≠ "" ∧ range.port ≠ 0) ∧
        (∀ id, table.containsKey id = (state.nodes.containsKey id || range.ownerId == id)) ∧
        ∀ node ∈ table.entries, Renews state range node := by
  have absorbed (known : state.nodes.containsKey range.ownerId) (id : String) :
      state.nodes.containsKey id = (state.nodes.containsKey id || range.ownerId == id) := by
    by_cases same : range.ownerId = id
    · rw [← same, known, Bool.true_or]
    · rw [beq_eq_false_iff_ne.mpr same, Bool.or_false]
  unfold learnOwner
  split
  next unknown =>
    have missing : state.nodes.containsKey range.ownerId = false := by simpa using unknown
    split
    next unreachable => exact .inl ⟨rfl, missing, unreachable⟩
    next reachable =>
      refine .inr ⟨_, rfl, .inr (not_or.mp reachable), fun id => containsKey_insert, ?_⟩
      intro node member
      rcases mem_insert member with old | rfl
      · exact .inl ⟨node, old, ⟨rfl, rfl⟩, rfl, rfl⟩
      · exact .inr ⟨⟨rfl, missing, rfl⟩, rfl, rfl⟩
  next present =>
    have known : state.nodes.containsKey range.ownerId := by simpa using present
    right
    split
    · refine ⟨_, rfl, .inl known, fun id => ?_, ?_⟩
      · rw [containsKey_modify]
        exact absorbed known id
      · intro node member
        obtain ⟨old, inside, rfl⟩ := mem_modify.mp member
        refine .inl ⟨old, inside, ?_⟩
        split
        · split <;> exact ⟨⟨rfl, rfl⟩, rfl, rfl⟩
        · exact ⟨⟨rfl, rfl⟩, rfl, rfl⟩
    · exact ⟨state.nodes, rfl, .inl known, absorbed known, fun node member => .inl ⟨node, member, ⟨rfl, rfl⟩, rfl, rfl⟩⟩

theorem applyOwnershipRange_spec (range : OwnershipRange) :
    (¬Accepts state range ∧ (state.applyOwnershipRange range).1 = state) ∨
      (Accepts state range ∧ Merged range state (state.applyOwnershipRange range).1) := by
  unfold applyOwnershipRange
  split
  next malformed =>
    refine .inl ⟨fun accepts => ?_, rfl⟩
    have ordered := accepts.ordered
    have inside := accepts.inside
    omega
  next wellFormed =>
    split
    next unbound => exact .inl ⟨fun accepts => accepts.bound unbound, rfl⟩
    next bound =>
      rcases learnOwner_cases state range with ⟨refused, missing, unreachable⟩ | ⟨table, learned, reachable, known, flags⟩
      · rw [refused]
        refine .inl ⟨fun accepts => ?_, rfl⟩
        rcases accepts.reachable with found | ⟨address, port⟩
        · rw [missing] at found
          cases found
        · exact unreachable.elim address port
      · rw [learned]
        dsimp only
        refine .inr ⟨⟨by omega, by omega, bound, reachable⟩, ?_⟩
        have slots (slot : Nat) : slot ∈ range' range.first (range.last + 1 - range.first) ↔
            range.first ≤ slot ∧ slot ≤ range.last := by
          rw [mem_range'_1]
          omega
        obtain ⟨done, counted⟩ := applySlots_assigned range { state with nodes := table }
          (range' range.first (range.last + 1 - range.first)) (fun slot member => by have := (slots slot).mp member; omega) ⟨0, 0, 0⟩
        simp only [slots, lt_irrefl, false_or] at counted
        generalize (range' range.first (range.last + 1 - range.first)).foldl (applySlot range)
          ({ state with nodes := table }, ⟨0, 0, 0⟩) = progress at done counted
        obtain ⟨after, tally⟩ := progress
        dsimp only at done counted ⊢
        have owner := done.owner
        have epoch := done.epoch
        simp only [slots] at owner epoch
        have raised : ∀ slot, Won range state slot → 0 < tally.applied := fun slot won => counted.mpr ⟨slot, won⟩
        split
        next higher =>
          exact ⟨done.only.id, done.only.migrating, done.only.importing, done.only.votes, fun id => done.only.nodes ▸ known id,
            done.only.nodes ▸ flags, owner, epoch, ⟨done.only.current ▸ le_of_lt higher.2, .inr rfl⟩, fun _ _ => le_rfl⟩
        next lower =>
          refine ⟨done.only.id, done.only.migrating, done.only.importing, done.only.votes, fun id => done.only.nodes ▸ known id,
            done.only.nodes ▸ flags, owner, epoch, ⟨le_of_eq done.only.current.symm, .inl done.only.current⟩, ?_⟩
          intro slot won
          have some := raised slot won
          omega

end Kore.Proofs.OwnershipRanges
