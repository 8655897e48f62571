import Kore.Foundation.Epochs
import Kore.Proofs.ClusterReachability

/-! Ownership gossip as a register per slot. Every snapshot makes one claim about every slot;
a receiver ends with a claim of the greatest epoch among its own and those it can take, in
whatever order and how often the snapshots come. -/

namespace Kore.Proofs.GossipConvergence
open Foundation Foundation.Epochs Cluster ClusterState OwnershipRanges ClusterReachability List ClusterInvariant

variable {state : ClusterState} {slot : Nat}

def Covers (range : OwnershipRange) (slot : Nat) : Prop := range.first ≤ slot ∧ slot ≤ range.last

instance (range : OwnershipRange) (slot : Nat) : Decidable (Covers range slot) := inferInstanceAs (Decidable (_ ∧ _))

/-! Snapshots. -/

private def asRange (state : ClusterState) (stretch : Stretch (String × Nat)) : OwnershipRange :=
  state.rangeOf stretch.first stretch.last stretch.value

private theorem rangesFrom_eq (rest : List (String × Nat)) (first : Nat) (stamp : String × Nat) :
    state.rangesFrom first slot stamp rest = (stretchesFrom first slot stamp rest).map (asRange state) := by
  induction rest generalizing first slot stamp with
  | nil => rfl
  | cons next rest ih =>
    rw [rangesFrom, stretchesFrom]
    split
    · rw [map_cons, ih]
      rfl
    · exact ih ..

private theorem ownershipSnapshot_eq : state.ownershipSnapshot = (stretches state.stamps).map (asRange state) := by
  unfold ownershipSnapshot
  cases state.stamps with
  | nil => rfl
  | cons stamp rest => exact rangesFrom_eq ..

private theorem stamps_length : state.stamps.length = slotCount := by
  rw [stamps, length_zip, Vector.length_toList, Vector.length_toList, min_self]

theorem stamps_getElem? (inside : slot < slotCount) : state.stamps[slot]? = some (state.ownerAt slot, state.slotEpoch slot) := by
  have owners : slot < state.slotOwner.toList.length := by rwa [Vector.length_toList]
  have epochs : slot < state.slotConfigEpoch.toList.length := by rwa [Vector.length_toList]
  rw [stamps, getElem?_zip_eq_some]
  rw [ownerAt, ownerIdOf, slotEpoch, getElem?_eq_getElem owners, getElem?_eq_getElem epochs]
  exact ⟨rfl, rfl⟩

theorem snapshot_range {range : OwnershipRange} (member : range ∈ state.ownershipSnapshot) :
    (range.first ≤ range.last ∧ range.last < slotCount) ∧
      ∀ slot, Covers range slot → range = state.rangeOf range.first range.last (state.ownerAt slot, state.slotEpoch slot) := by
  rw [ownershipSnapshot_eq] at member
  obtain ⟨stretch, listed, rfl⟩ := mem_map.mp member
  have told := (stretches_spec state.stamps).1 stretch listed
  have inside := stamps_length ▸ told.inside
  refine ⟨⟨told.ordered, inside⟩, fun slot covers => ?_⟩
  have here := told.value_at slot (Stretch.covers_iff.mpr covers)
  rw [stamps_getElem? (lt_of_le_of_lt covers.2 inside)] at here
  rw [Option.some.inj here]
  rfl

theorem snapshot_covers (inside : slot < slotCount) : ∃ range ∈ state.ownershipSnapshot, Covers range slot := by
  obtain ⟨stretch, member, covers⟩ := (stretches_spec state.stamps).2 slot (stamps_length ▸ inside)
  rw [ownershipSnapshot_eq]
  exact ⟨asRange state stretch, mem_map_of_mem member, Stretch.covers_iff.mp covers⟩

/-! Merging. -/

variable (ranges : List OwnershipRange) (receiver : ClusterState) (senders : List ClusterState)

def claimsOf (slot : Nat) : List (String × Nat) :=
  (ranges.filter fun range => Covers range slot ∧ range.ownerId ≠ "").map fun range => (range.ownerId, range.epoch)

def applyAll (state : ClusterState) (ranges : List OwnershipRange) : ClusterState :=
  ranges.foldl (fun state range => (state.applyOwnershipRange range).1) state

/-- The receiver can take what the range says of its owner. -/
def Announced (state : ClusterState) (range : OwnershipRange) : Prop :=
  state.nodes.containsKey range.ownerId = true ∨ range.ip ≠ "" ∧ range.port ≠ 0

private theorem apply_view {range : OwnershipRange} (still : ¬InTransition state slot)
    (taken : Covers range slot → range.ownerId ≠ "" → (range.first ≤ range.last ∧ range.last < slotCount) ∧ Announced state range) :
    (((state.applyOwnershipRange range).1.ownerAt slot, (state.applyOwnershipRange range).1.slotEpoch slot) : String × Nat) =
      if Covers range slot ∧ range.ownerId ≠ "" then raise (state.ownerAt slot, state.slotEpoch slot) (range.ownerId, range.epoch)
      else (state.ownerAt slot, state.slotEpoch slot) := by
  rcases applyOwnershipRange_spec state range with ⟨ignored, same⟩ | ⟨accepts, merged⟩
  · rw [same, if_neg]
    intro ⟨covers, bound⟩
    obtain ⟨⟨ordered, inside⟩, announced⟩ := taken covers bound
    exact ignored ⟨ordered, inside, bound, announced⟩
  · rw [merged.owner, merged.epoch]
    by_cases covers : Covers range slot
    · rw [if_pos (show Covers range slot ∧ range.ownerId ≠ "" from ⟨covers, accepts.bound⟩), raise]
      by_cases higher : state.slotEpoch slot < range.epoch
      · have won : Won range state slot := ⟨covers, still, higher⟩
        rw [if_pos won, if_pos won, if_pos higher]
      · have lost : ¬Won range state slot := fun won => higher won.2.2
        rw [if_neg lost, if_neg lost, if_neg higher]
    · have lost : ¬Won range state slot := fun won => covers won.1
      rw [if_neg lost, if_neg lost, if_neg fun both => covers both.1]

private theorem apply_frame (state : ClusterState) (range : OwnershipRange) (slot : Nat) :
    (InTransition (state.applyOwnershipRange range).1 slot ↔ InTransition state slot) ∧
      (∀ id, state.nodes.containsKey id = true → (state.applyOwnershipRange range).1.nodes.containsKey id = true) ∧
      state.slotEpoch slot ≤ (state.applyOwnershipRange range).1.slotEpoch slot ∧
      (InTransition state slot → (state.applyOwnershipRange range).1.ownerAt slot = state.ownerAt slot ∧
        (state.applyOwnershipRange range).1.slotEpoch slot = state.slotEpoch slot) := by
  rcases applyOwnershipRange_spec state range with ⟨-, same⟩ | ⟨-, merged⟩
  · rw [same]
    exact ⟨Iff.rfl, fun _ known => known, le_rfl, fun _ => ⟨rfl, rfl⟩⟩
  · refine ⟨?_, fun id known => ?_, ?_, fun going => ?_⟩
    · rw [InTransition, InTransition, isMigrating, isImporting, isMigrating, isImporting, merged.migrating, merged.importing]
    · rw [merged.known, known, Bool.true_or]
    · rw [merged.epoch]
      split
      next won => exact le_of_lt won.2.2
      next => exact le_rfl
    · have lost : ¬Won range state slot := fun won => won.2.1 going
      rw [merged.owner, merged.epoch, if_neg lost, if_neg lost]
      exact ⟨rfl, rfl⟩

/-- A slot after any ranges is the register of its slot after their claims. -/
theorem applyAll_view (still : ¬InTransition state slot)
    (taken : ∀ range ∈ ranges, Covers range slot → range.ownerId ≠ "" →
      (range.first ≤ range.last ∧ range.last < slotCount) ∧ Announced state range) :
    ((applyAll state ranges).ownerAt slot, (applyAll state ranges).slotEpoch slot) =
      (claimsOf ranges slot).foldl raise (state.ownerAt slot, state.slotEpoch slot) := by
  induction ranges generalizing state with
  | nil => rfl
  | cons range ranges ih =>
    obtain ⟨transition, known, -, -⟩ := apply_frame state range slot
    have later : ∀ other ∈ ranges, Covers other slot → other.ownerId ≠ "" →
        (other.first ≤ other.last ∧ other.last < slotCount) ∧ Announced (state.applyOwnershipRange range).1 other := by
      intro other member covers bound
      obtain ⟨valid, announced⟩ := taken other (mem_cons_of_mem _ member) covers bound
      exact ⟨valid, announced.imp_left (known _)⟩
    have rest := ih (fun going => still (transition.mp going)) later
    rw [apply_view still (taken range mem_cons_self)] at rest
    rw [show applyAll state (range :: ranges) = applyAll (state.applyOwnershipRange range).1 ranges from rfl, rest, claimsOf, claimsOf,
      filter_cons]
    by_cases claims : Covers range slot ∧ range.ownerId ≠ ""
    · rw [if_pos claims, if_pos (decide_eq_true claims), map_cons, foldl_cons]
    · rw [if_neg claims, if_neg (by simpa using claims)]

theorem applyAll_frame (state : ClusterState) (slot : Nat) :
    state.slotEpoch slot ≤ (applyAll state ranges).slotEpoch slot ∧
      (InTransition state slot → (applyAll state ranges).ownerAt slot = state.ownerAt slot ∧
        (applyAll state ranges).slotEpoch slot = state.slotEpoch slot) := by
  induction ranges generalizing state with
  | nil => exact ⟨le_rfl, fun _ => ⟨rfl, rfl⟩⟩
  | cons range ranges ih =>
    obtain ⟨transition, -, grows, fixed⟩ := apply_frame state range slot
    obtain ⟨raised, kept⟩ := ih (state.applyOwnershipRange range).1
    refine ⟨le_trans grows raised, fun going => ?_⟩
    obtain ⟨owner, epoch⟩ := kept (transition.mpr going)
    obtain ⟨first, stamp⟩ := fixed going
    exact ⟨owner.trans first, epoch.trans stamp⟩

/-! Whole snapshots. -/

def mergeAll : ClusterState :=
  senders.foldl (fun state sender => (state.mergeOwnershipSnapshot sender.ownershipSnapshot).1) receiver

theorem mergeAll_eq : mergeAll receiver senders = applyAll receiver (senders.flatMap ownershipSnapshot) := by
  induction senders generalizing receiver with
  | nil => rfl
  | cons sender senders ih =>
    rw [mergeAll, foldl_cons, mergeOwnershipSnapshot_fst, flatMap_cons, applyAll, foldl_append]
    exact ih _

/-- What a receiver has seen of a slot: its own view, and that of every sender that names an owner. -/
def Seen (slot : Nat) (claim : String × Nat) : Prop :=
  claim = (receiver.ownerAt slot, receiver.slotEpoch slot) ∨
    ∃ sender ∈ senders, sender.ownerAt slot ≠ "" ∧ claim = (sender.ownerAt slot, sender.slotEpoch slot)

/-- Every owner that a sender names is known to the receiver or comes with its address. -/
def Reachable (slot : Nat) : Prop :=
  ∀ sender ∈ senders, sender.ownerAt slot ≠ "" → receiver.nodes.containsKey (sender.ownerAt slot) = true ∨
    (sender.nodeAddr (sender.ownerAt slot)).1 ≠ "" ∧ (sender.nodeAddr (sender.ownerAt slot)).2 ≠ 0

private theorem mem_claimsOf {senders : List ClusterState} (inside : slot < slotCount) {claim : String × Nat} :
    claim ∈ claimsOf (senders.flatMap ownershipSnapshot) slot ↔
      ∃ sender ∈ senders, sender.ownerAt slot ≠ "" ∧ claim = (sender.ownerAt slot, sender.slotEpoch slot) := by
  simp only [claimsOf, mem_map, mem_filter, decide_eq_true_eq, mem_flatMap]
  constructor
  · intro ⟨range, ⟨⟨sender, member, sent⟩, covers, bound⟩, same⟩
    have told := (snapshot_range sent).2 slot covers
    rw [told] at bound same
    exact ⟨sender, member, bound, same.symm⟩
  · intro ⟨sender, member, bound, same⟩
    obtain ⟨range, sent, covers⟩ := snapshot_covers inside
    have told := (snapshot_range sent).2 slot covers
    refine ⟨range, ⟨⟨sender, member, sent⟩, covers, ?_⟩, ?_⟩
    · rw [told]
      exact bound
    · rw [told, same]
      rfl

/-- The receiver ends with a claim of the greatest epoch it has seen. -/
theorem mergeAll_greatest {receiver : ClusterState} {senders : List ClusterState} (inside : slot < slotCount)
    (still : ¬InTransition receiver slot) (reachable : Reachable receiver senders slot) :
    Seen receiver senders slot ((mergeAll receiver senders).ownerAt slot, (mergeAll receiver senders).slotEpoch slot) ∧
      ∀ claim, Seen receiver senders slot claim → claim.2 ≤ (mergeAll receiver senders).slotEpoch slot := by
  set own := (receiver.ownerAt slot, receiver.slotEpoch slot) with held
  set claims := claimsOf (senders.flatMap ownershipSnapshot) slot
  have view : ((mergeAll receiver senders).ownerAt slot, (mergeAll receiver senders).slotEpoch slot) =
      claims.foldl raise own := by
    rw [mergeAll_eq]
    apply applyAll_view _ still
    intro range member covers bound
    obtain ⟨sender, sending, sent⟩ := mem_flatMap.mp member
    obtain ⟨valid, told⟩ := snapshot_range sent
    refine ⟨valid, ?_⟩
    have same := told slot covers
    rw [same] at bound ⊢
    exact reachable sender sending bound
  obtain ⟨taken, most⟩ := foldl_raise claims own
  have seen (claim : String × Nat) : Seen receiver senders slot claim ↔ claim ∈ own :: claims := by
    rw [mem_cons, mem_claimsOf inside]
    rfl
  rw [← view] at taken most
  exact ⟨(seen _).mpr taken, fun claim claimed => most claim ((seen claim).mp claimed)⟩

/-- Gossip converges: a slot that is not in transition ends with the greatest epoch among the
receiver's own and the claims that name an owner, and with the owner that those claims agree
on, so receivers that saw the same snapshots agree. No merge lowers an epoch, and none
touches a slot in transition. -/
theorem gossip_converges (receiver : ClusterState) (senders : List ClusterState) (slot : Nat) :
    receiver.slotEpoch slot ≤ (mergeAll receiver senders).slotEpoch slot ∧
    (InTransition receiver slot → (mergeAll receiver senders).ownerAt slot = receiver.ownerAt slot ∧
      (mergeAll receiver senders).slotEpoch slot = receiver.slotEpoch slot) ∧
    (slot < slotCount → ¬InTransition receiver slot → Reachable receiver senders slot →
      ((∃ claim, Seen receiver senders slot claim ∧ claim.2 = (mergeAll receiver senders).slotEpoch slot) ∧
        ∀ claim, Seen receiver senders slot claim → claim.2 ≤ (mergeAll receiver senders).slotEpoch slot) ∧
      (∀ owner, (∀ claim, Seen receiver senders slot claim → claim.2 = (mergeAll receiver senders).slotEpoch slot → claim.1 = owner) →
        (mergeAll receiver senders).ownerAt slot = owner) ∧
      ∀ other others, (∀ sender, sender ∈ others ↔ sender ∈ senders) → ¬InTransition other slot → Reachable other others slot →
        (∃ sender ∈ senders, sender.ownerAt slot ≠ "" ∧ receiver.slotEpoch slot ≤ sender.slotEpoch slot ∧
          other.slotEpoch slot ≤ sender.slotEpoch slot) →
        (∃ owner, ∀ claim, Seen receiver senders slot claim ∨ Seen other others slot claim →
          claim.2 = (mergeAll receiver senders).slotEpoch slot → claim.1 = owner) →
        (mergeAll other others).ownerAt slot = (mergeAll receiver senders).ownerAt slot ∧
          (mergeAll other others).slotEpoch slot = (mergeAll receiver senders).slotEpoch slot) := by
  have frame := applyAll_frame (senders.flatMap ownershipSnapshot) receiver slot
  rw [← mergeAll_eq] at frame
  refine ⟨frame.1, frame.2, fun inside still reachable => ?_⟩
  obtain ⟨taken, most⟩ := mergeAll_greatest inside still reachable
  refine ⟨⟨⟨_, taken, rfl⟩, most⟩, fun owner single => single _ taken rfl, fun other others same stillOther reachableOther above single => ?_⟩
  obtain ⟨takenOther, mostOther⟩ := mergeAll_greatest inside stillOther reachableOther
  obtain ⟨sender, sending, bound, atMost, atMostOther⟩ := above
  obtain ⟨owner, agreed⟩ := single
  have equal : (mergeAll other others).slotEpoch slot = (mergeAll receiver senders).slotEpoch slot := by
    apply le_antisymm
    · rcases takenOther with own | ⟨winner, member, named, claim⟩
      · have epoch : (mergeAll other others).slotEpoch slot = other.slotEpoch slot := congrArg Prod.snd own
        have sent := most _ (.inr ⟨sender, sending, bound, rfl⟩)
        exact epoch ▸ le_trans atMostOther sent
      · exact most _ (.inr ⟨winner, (same winner).mp member, named, claim⟩)
    · rcases taken with own | ⟨winner, member, named, claim⟩
      · have epoch : (mergeAll receiver senders).slotEpoch slot = receiver.slotEpoch slot := congrArg Prod.snd own
        have sent := mostOther _ (.inr ⟨sender, (same sender).mpr sending, bound, rfl⟩)
        exact epoch ▸ le_trans atMost sent
      · exact mostOther _ (.inr ⟨winner, (same winner).mpr member, named, claim⟩)
  exact ⟨(agreed _ (.inr takenOther) equal).trans (agreed _ (.inl taken) rfl).symm, equal⟩

/-- A node that has all its slots, and its topology once it has given them up. -/
def master : ClusterState := (Cluster.singleNode "10.0.0.1" 7000 "a").toClusterState

def flushed : ClusterState := master.flushSlots

/-- A second node that has learned of the first. -/
def follower : ClusterState :=
  { withIdentity "10.0.0.2" 7000 "b" true none false with
    slotOwner := Vector.replicate slotCount "a"
    nodes := (withIdentity "10.0.0.2" 7000 "b" true none false).nodes.insert ⟨"a", "10.0.0.1", 7000, false, true, none, false, false⟩ }

private theorem ownerAt_replicated {owner : String} (same : state.slotOwner = Vector.replicate slotCount owner) :
    state.ownerAt 0 = owner := by
  rw [ownerAt, ownerIdOf, same, Vector.toList_replicate]
  rfl

private theorem slotEpoch_replicated {epoch : Nat} (same : state.slotConfigEpoch = Vector.replicate slotCount epoch) :
    state.slotEpoch 0 = epoch := by
  rw [slotEpoch, same, Vector.toList_replicate]
  rfl

private theorem flushed_view : flushed.ownerAt 0 = "" ∧ flushed.slotEpoch 0 = 2 := by
  have mine : master.ownerAt 0 = "a" := ownerAt_replicated rfl
  have bound : master.ownerAt 0 ≠ "" := by rw [mine]; decide
  have owns : master.slotOwner.toList.any (· == master.myId) = true :=
    any_eq_true.mpr ⟨_, ownerAt_mem bound, by rw [mine]; rfl⟩
  have shape : flushed = (master.restamp (· == master.myId) "").settle := by rw [flushed, flushSlots, if_pos owns]
  have covered : 0 < slotCount ∧ (master.ownerAt 0 == master.myId) := ⟨by decide, by rw [mine]; rfl⟩
  rw [shape]
  constructor
  · exact (ownerAt_restamp).trans (if_pos covered)
  · exact (slotEpoch_restamp).trans (if_pos covered)

/-- An unbound slot is not learned: the receiver stays with the older epoch and the old owner. -/
theorem flush_not_learned :
    (flushed.ownerAt 0 = "" ∧ flushed.slotEpoch 0 = 2) ∧ ¬InTransition follower 0 ∧
      (mergeAll follower [flushed]).slotEpoch 0 = 1 ∧ (mergeAll follower [flushed]).ownerAt 0 = "a" := by
  have still : ¬InTransition follower 0 := by
    rw [InTransition, isMigrating, isImporting]
    decide
  have ignored : ∀ sender ∈ [flushed], sender.ownerAt 0 = "" := fun sender member => mem_singleton.mp member ▸ flushed_view.1
  obtain ⟨taken, -⟩ := mergeAll_greatest (show 0 < slotCount by decide) still fun sender member bound => absurd (ignored sender member) bound
  rcases taken with own | ⟨sender, member, bound, -⟩
  · have owner : follower.ownerAt 0 = "a" := ownerAt_replicated rfl
    have epoch : follower.slotEpoch 0 = 1 := slotEpoch_replicated rfl
    exact ⟨flushed_view, still, (congrArg Prod.snd own).trans epoch, (congrArg Prod.fst own).trans owner⟩
  · exact absurd (ignored sender member) bound

/-- A third node that has taken the slots over. -/
def successor : ClusterState :=
  { withIdentity "10.0.0.3" 7000 "c" true none false with
    slotOwner := Vector.replicate slotCount "c"
    slotConfigEpoch := Vector.replicate slotCount 7 }

private theorem successor_claims (receiver : ClusterState) (low : receiver.slotEpoch 0 < 7) {senders : List ClusterState}
    (sent : ∀ sender, sender ∈ senders ↔ sender = master ∨ sender = successor) :
    Reachable receiver senders 0 ∧ Seen receiver senders 0 ("c", 7) ∧
      ∀ claim, Seen receiver senders 0 claim → claim.2 < 7 ∨ claim = ("c", 7) := by
  have old : master.ownerAt 0 = "a" ∧ master.slotEpoch 0 = 1 := ⟨ownerAt_replicated rfl, slotEpoch_replicated rfl⟩
  have new : successor.ownerAt 0 = "c" ∧ successor.slotEpoch 0 = 7 := ⟨ownerAt_replicated rfl, slotEpoch_replicated rfl⟩
  refine ⟨fun sender member _ => .inr ?_, .inr ⟨successor, (sent _).mpr (.inr rfl), ?_, ?_⟩, fun claim seen => ?_⟩
  · rcases (sent sender).mp member with rfl | rfl
    · rw [old.1]
      decide
    · rw [new.1]
      decide
  · rw [new.1]
    decide
  · rw [new.1, new.2]
  · rcases seen with rfl | ⟨sender, member, -, rfl⟩
    · exact .inl low
    · rcases (sent sender).mp member with rfl | rfl
      · exact .inl (by rw [old.2]; decide)
      · exact .inr (by rw [new.1, new.2])

/-- Two receivers that know the old owner and an unbound slot hear of a new owner, in different
orders and one of them twice. -/
theorem reannounced_converges :
    ¬InTransition follower 0 ∧ ¬InTransition flushed 0 ∧
      (mergeAll follower [master, successor]).ownerAt 0 = "c" ∧ (mergeAll follower [master, successor]).slotEpoch 0 = 7 ∧
      (mergeAll flushed [successor, master, successor]).ownerAt 0 = "c" ∧
      (mergeAll flushed [successor, master, successor]).slotEpoch 0 = 7 := by
  have still : ¬InTransition follower 0 := by
    rw [InTransition, isMigrating, isImporting]
    decide
  have stillFlushed : ¬InTransition flushed 0 := by
    rw [InTransition, isMigrating, isImporting]
    decide
  have lowFollower : follower.slotEpoch 0 < 7 := by
    rw [show follower.slotEpoch 0 = 1 from slotEpoch_replicated rfl]
    decide
  have lowFlushed : flushed.slotEpoch 0 < 7 := by
    rw [flushed_view.2]
    decide
  obtain ⟨reachable, seen, claims⟩ := @successor_claims follower lowFollower [master, successor] (by simp)
  obtain ⟨reachable', -, claims'⟩ := @successor_claims flushed lowFlushed [successor, master, successor] (by simp [or_comm])
  obtain ⟨⟨⟨claim, seenClaim, equal⟩, most⟩, owner, agree⟩ :=
    (gossip_converges follower [master, successor] 0).2.2 (by decide) still reachable
  have epoch : (mergeAll follower [master, successor]).slotEpoch 0 = 7 := by
    refine le_antisymm ?_ (most _ seen)
    rw [← equal]
    rcases claims claim seenClaim with less | rfl
    · exact le_of_lt less
    · exact le_rfl
  have named {receiver : ClusterState} {senders : List ClusterState}
      (claims : ∀ claim, Seen receiver senders 0 claim → claim.2 < 7 ∨ claim = ("c", 7)) :
      ∀ claim, Seen receiver senders 0 claim → claim.2 = (mergeAll follower [master, successor]).slotEpoch 0 → claim.1 = "c" := by
    intro claim seen top
    rw [(claims claim seen).resolve_left (not_lt.mpr (epoch ▸ top.ge))]
  have agreed := agree flushed [successor, master, successor] (by simp [or_comm]) stillFlushed reachable'
    ⟨successor, by simp, by rw [show successor.ownerAt 0 = "c" from ownerAt_replicated rfl]; decide,
      by rw [show successor.slotEpoch 0 = 7 from slotEpoch_replicated rfl]; exact ⟨le_of_lt lowFollower, le_of_lt lowFlushed⟩⟩
    ⟨"c", fun claim seen => seen.elim (named claims claim) (named claims' claim)⟩
  have won := owner "c" (named claims)
  exact ⟨still, stillFlushed, won, epoch, agreed.1.trans won, agreed.2.trans epoch⟩

end Kore.Proofs.GossipConvergence
