import Kore.Cluster.Redirect
import Kore.Foundation.Stretches

/-! The operations on the topology of one process: slots, transitions, votes and the table
of known nodes. Each is one critical section of the source. The hash maps that are keyed by
slots are association lists, in which an insertion takes the place of an earlier entry. -/

namespace Kore.Cluster

theorem getD_setIfInBounds {α : Type} {size : Nat} (items : Vector α size) (index other : Nat) (value default : α) :
    ((items.setIfInBounds index value).toList[other]?).getD default =
      if index = other ∧ other < size then value else (items.toList[other]?).getD default := by
  rw [Vector.toList_setIfInBounds, List.getElem?_set]
  by_cases same : index = other
  · subst same
    by_cases inside : index < size
    · simp [inside]
    · simp [inside]
  · simp [same]

theorem setEpochs_bounded {size epoch bound : Nat} (slots : List Nat) (epochs : Vector Nat size) (below : epoch ≤ bound)
    (start : ∀ slot : Nat, (epochs.toList[slot]?).getD 0 ≤ bound) (slot : Nat) :
    ((slots.foldl (fun epochs slot => epochs.setIfInBounds slot epoch) epochs).toList[slot]?).getD 0 ≤ bound := by
  induction slots generalizing epochs with
  | nil => exact start slot
  | cons first slots ih =>
    apply ih
    intro other
    rw [getD_setIfInBounds]
    split
    · exact below
    · exact start other

open Foundation List

variable {table : NodeTable} {id : String}

def insertEntry {V : Type} (slot : Nat) (value : V) (map : List (Nat × V)) : List (Nat × V) :=
  (slot, value) :: map.filter fun entry => entry.1 ≠ slot

def removeEntry {V : Type} (slot : Nat) (map : List (Nat × V)) : List (Nat × V) := map.filter fun entry => entry.1 ≠ slot

namespace NodeTable

def insert (table : NodeTable) (node : ClusterNode) : NodeTable :=
  if known : table.containsKey node.id then table.modify node.id (fun old => { node with id := old.id }) fun _ => rfl
  else
    { entries := table.entries ++ [node]
      distinct := by
        rw [map_append, nodup_append]
        refine ⟨table.distinct, nodup_singleton _, ?_⟩
        intro first member second last
        rw [map_singleton, mem_singleton] at last
        subst last
        rintro rfl
        obtain ⟨other, inside, same⟩ := mem_map.mp member
        exact known (Option.isSome_iff_exists.mpr ⟨other, get_eq_some.mpr ⟨inside, same⟩⟩) }

def retain (table : NodeTable) (keep : ClusterNode → Bool) : NodeTable where
  entries := table.entries.filter keep
  distinct := (filter_sublist.map ClusterNode.id).nodup table.distinct

theorem containsKey_iff : table.containsKey id = true ↔ ∃ node ∈ table.entries, node.id = id := by
  rw [containsKey, Option.isSome_iff_exists]
  exact exists_congr fun node => get_eq_some

@[simp] theorem containsKey_modify (other : String) (update : ClusterNode → ClusterNode)
    (keeps : ∀ node, (update node).id = node.id) : (table.modify id update keeps).containsKey other = table.containsKey other := by
  rw [containsKey, get_modify, Option.isSome_map, containsKey]

theorem mem_modify {update : ClusterNode → ClusterNode}
    {keeps : ∀ node, (update node).id = node.id} {node : ClusterNode} :
    node ∈ (table.modify id update keeps).entries ↔ ∃ old ∈ table.entries, (if old.id = id then update old else old) = node := by
  rw [modify, mem_map]

theorem mem_insert {added node : ClusterNode} (member : node ∈ (table.insert added).entries) :
    node ∈ table.entries ∨ node = added := by
  unfold insert at member
  split at member
  next known =>
    obtain ⟨old, inside, rfl⟩ := mem_modify.mp member
    split
    next same => exact .inr (by rw [same])
    next other => exact .inl inside
  next fresh =>
    rcases mem_append.mp member with inside | last
    · exact .inl inside
    · exact .inr (mem_singleton.mp last)

variable {added : ClusterNode}

theorem containsKey_insert : (table.insert added).containsKey id = (table.containsKey id || added.id == id) := by
  unfold insert
  split
  next known =>
    rw [containsKey_modify]
    by_cases same : added.id = id
    · rw [← same, known, Bool.true_or]
    · rw [beq_eq_false_iff_ne.mpr same, Bool.or_false]
  next fresh =>
    rw [Bool.eq_iff_iff, Bool.or_eq_true, containsKey_iff, containsKey_iff, beq_iff_eq]
    simp only [mem_append, mem_singleton, or_and_right, exists_or, exists_eq_left]

theorem get_insert : (table.insert added).get id = if added.id = id then some added else table.get id := by
  unfold insert
  split
  next known =>
    rw [get_modify]
    cases found : table.get id with
    | none =>
      have different : added.id ≠ id := by
        intro same
        rw [containsKey, same, found] at known
        cases known
      rw [if_neg different, Option.map_none]
    | some node =>
      have same : node.id = id := (get_eq_some.mp found).2
      rw [Option.map_some, same]
      by_cases equal : id = added.id
      · rw [if_pos equal, if_pos equal.symm, equal]
      · rw [if_neg equal, if_neg (Ne.symm equal)]
  next fresh =>
    rw [get, get, find?_append, find?_singleton]
    by_cases same : added.id = id
    · have missing : table.entries.find? (fun node => node.id == id) = none := by
        rw [containsKey, same] at fresh
        simpa [get] using fresh
      rw [missing, if_pos (beq_iff_eq.mpr same), if_pos same, Option.none_or]
    · rw [if_neg (mt beq_iff_eq.mp same), if_neg same, Option.or_none]

theorem containsKey_retain {keep : ClusterNode → Bool}
    (kept : ∀ node, node.id = id → keep node) : (table.retain keep).containsKey id = table.containsKey id := by
  rw [Bool.eq_iff_iff, containsKey_iff, containsKey_iff]
  constructor
  · intro ⟨node, member, same⟩
    exact ⟨node, (mem_filter.mp member).1, same⟩
  · intro ⟨node, member, same⟩
    exact ⟨node, mem_filter.mpr ⟨member, kept node same⟩, same⟩

end NodeTable

variable (state : ClusterState) (slot : Nat)

namespace ClusterState

def slotEpoch : Nat := (state.slotConfigEpoch.toList[slot]?).getD 0

/-- The owner's id; an unbound slot and a slot out of range have the empty one. -/
def ownerAt : String := (state.ownerIdOf slot).getD ""

def bump : ClusterState := { state with currentEpoch := satAdd state.currentEpoch 1 }

def stampSlot (owner : String) (state : ClusterState) (slot : Nat) : ClusterState :=
  { state with
    slotOwner := state.slotOwner.setIfInBounds slot owner
    slotConfigEpoch := state.slotConfigEpoch.setIfInBounds slot state.currentEpoch
    migrating := removeEntry slot state.migrating
    importing := removeEntry slot state.importing
    prepareNode := removeEntry slot state.prepareNode }

/-- Hands every slot whose owner is covered to `owner`, in a new epoch. -/
def restamp (covers : String → Bool) (owner : String) (state : ClusterState) : ClusterState :=
  let epoch := satAdd state.currentEpoch 1
  { state with
    currentEpoch := epoch
    slotOwner := state.slotOwner.map fun old => if covers old then owner else old
    slotConfigEpoch := Vector.zipWith (fun old stamp => if covers old then epoch else stamp) state.slotOwner state.slotConfigEpoch }

def settle : ClusterState := { state with migrating := [], importing := [], prepareNode := [] }

def setConfigEpoch (epoch : Nat) : Except String ClusterState :=
  if epoch ≤ state.currentEpoch then
    .error s!"ERR Node config epoch ({epoch}) is not greater than the current local config epoch ({state.currentEpoch})"
  else .ok { state with currentEpoch := epoch }

def forgetNode (nodeId : String) : Except String ClusterState :=
  if nodeId = state.myId then .error "ERR I tried hard but I can't forget myself"
  else if !state.nodes.containsKey nodeId then .error s!"ERR Unknown node {nodeId}"
  else if state.slotOwner.toList.any (· == nodeId) then
    .error "ERR Can't forget a master with assigned slots. Delete slots first."
  else .ok { state with
    nodes := state.nodes.retain fun node => node.id != nodeId
    migrating := state.migrating.filter fun entry => entry.2 != nodeId
    importing := state.importing.filter fun entry => entry.2 != nodeId
    prepareNode := state.prepareNode.filter fun entry => entry.2.targetId != nodeId }

def resetClusterConfig : ClusterState :=
  let cleared := (state.restamp (fun _ => true) "").settle
  { cleared with
    nodes := (cleared.nodes.retain fun node => node.id == state.myId).modify state.myId
      (fun me => { me with myself := true, master := true, masterId := none, fail := false, pfail := false }) fun _ => rfl }

/-- The first slot that `ADDSLOTS` cannot take. -/
def busySlot : Option String :=
  if slotCount ≤ slot then some s!"ERR Invalid or out of range slot {slot}"
  else
    let owner := state.ownerAt slot
    if owner ≠ "" ∧ owner ≠ state.myId then some s!"ERR Slot {slot} is already busy (owned by {owner})" else none

def addSlots (slots : List Nat) : Except String ClusterState :=
  if slots = [] then .error "ERR wrong number of arguments for 'cluster|addslots' command"
  else match slots.findSome? state.busySlot with
    | some text => .error text
    | none => .ok (slots.foldl (stampSlot state.myId) state.bump)

def foreignSlot : Option String :=
  if slotCount ≤ slot then some s!"ERR Invalid or out of range slot {slot}"
  else
    let owner := state.ownerAt slot
    if owner = "" then some s!"ERR Slot {slot} is already unassigned"
    else if owner ≠ state.myId then some s!"ERR Slot {slot} is not served by this node (owned by {owner})"
    else none

def delSlots (slots : List Nat) : Except String ClusterState :=
  if slots = [] then .error "ERR wrong number of arguments for 'cluster|delslots' command"
  else match slots.findSome? state.foreignSlot with
    | some text => .error text
    | none => .ok (slots.foldl (stampSlot "") state.bump)

def expandRanges : List (Nat × Nat) → Except String (List Nat)
  | [] => .ok []
  | (first, last) :: ranges =>
    if last < first then .error s!"ERR start slot number {first} is greater than end slot number {last}"
    else if slotCount ≤ last then .error s!"ERR Invalid or out of range slot {last}"
    else (expandRanges ranges).map fun slots => range' first (last + 1 - first) ++ slots

def repeatedSlot : List Nat → List Nat → Option Nat
  | _, [] => none
  | seen, slot :: slots => if slot ∈ seen then some slot else repeatedSlot (slot :: seen) slots

def expandSlotRanges (ranges : List (Nat × Nat)) : Except String (List Nat) :=
  match expandRanges ranges with
  | .error text => .error text
  | .ok slots =>
    match repeatedSlot [] slots with
    | some slot => .error s!"ERR Slot {slot} specified multiple times"
    | none => .ok slots

def addSlotRanges (ranges : List (Nat × Nat)) : Except String ClusterState :=
  match expandSlotRanges ranges with
  | .error text => .error text
  | .ok [] => .error "ERR wrong number of arguments for 'cluster|addslotsrange' command"
  | .ok slots => state.addSlots slots

def delSlotRanges (ranges : List (Nat × Nat)) : Except String ClusterState :=
  match expandSlotRanges ranges with
  | .error text => .error text
  | .ok [] => .error "ERR wrong number of arguments for 'cluster|delslotsrange' command"
  | .ok slots => state.delSlots slots

def flushSlots : ClusterState :=
  if state.slotOwner.toList.any (· == state.myId) then (state.restamp (· == state.myId) "").settle else state.settle

/-- The new entry keeps what is known of the node unless the role is given. -/
def addNodeWithRole (id ip : String) (port : Nat) (roleMaster : Option Bool)
    (roleMasterId : Option (Option String)) : ClusterState :=
  if id = state.myId then state
  else
    let existing := state.nodes.get id
    { state with nodes := state.nodes.insert {
        id := id
        ip := ip
        port := port
        myself := false
        master := roleMaster.getD ((existing.map (·.master)).getD true)
        masterId := roleMasterId.getD (existing.bind (·.masterId))
        pfail := (existing.map (·.pfail)).getD false
        fail := (existing.map (·.fail)).getD false } }

def touchPong (id : String) : ClusterState :=
  { state with nodes := state.nodes.modify id (fun node => { node with pfail := false, fail := false }) fun _ => rfl }

/-- The entry of a node that has failed. -/
abbrev failed (id : String) : NodeTable := state.nodes.modify id (fun node => { node with pfail := false, fail := true }) fun _ => rfl

def markFail (id : String) : ClusterState :=
  if id = state.myId then state else { state with nodes := state.failed id }

def claimSlotsFrom (failedId : String) : Except String (ClusterState × Nat) :=
  if !state.nodes.containsKey failedId then .error s!"Unknown node {failedId}"
  else
    let claimed := state.slotOwner.toList.countP (· == failedId)
    let after := if 0 < claimed then state.restamp (· == failedId) state.myId else state
    .ok ({ after.settle with
      nodes := after.nodes.modify state.myId
        (fun me => { me with master := true, masterId := none, fail := false }) fun _ => rfl }, claimed)

def reassignSlot (nodeId : String) : Except String ClusterState :=
  if slotCount ≤ slot then .error s!"slot out of range: {slot}"
  else if !state.nodes.containsKey nodeId then .error s!"Unknown node {nodeId}"
  else .ok (stampSlot nodeId state.bump slot)

/-- What was reassigned before a failure stays so. -/
def reassignSlots (nodeId : String) : List Nat → ClusterState → ClusterState × Except String Unit
  | [], state => (state, .ok ())
  | slot :: slots, state =>
    match state.reassignSlot slot nodeId with
    | .error text => (state, .error text)
    | .ok after => reassignSlots nodeId slots after

def reassignSlotRange (first last : Nat) (nodeId : String) : ClusterState × Except String Unit :=
  if last < first ∨ slotCount ≤ last then (state, .error "invalid slot range")
  else reassignSlots nodeId (range' first (last + 1 - first)) state

def setMigrating (dest : String) : Except String ClusterState :=
  if slotCount ≤ slot then .error "Slot out of range"
  else if !state.nodes.containsKey dest then .error s!"I don't know about node {dest}"
  else if state.ownerIdOf slot ≠ some state.myId then .error "I'm not the owner of hash slot"
  else .ok { state with
    importing := removeEntry slot state.importing
    migrating := insertEntry slot dest state.migrating }

def setImporting (source : String) : Except String ClusterState :=
  if slotCount ≤ slot then .error "Slot out of range"
  else if !state.nodes.containsKey source then .error s!"I don't know about node {source}"
  else .ok { state with
    migrating := removeEntry slot state.migrating
    importing := insertEntry slot source state.importing }

def setStable : Except String ClusterState :=
  if slotCount ≤ slot then .error "Slot out of range"
  else .ok { state with
    migrating := removeEntry slot state.migrating
    importing := removeEntry slot state.importing
    prepareNode := removeEntry slot state.prepareNode }

/-! Votes. -/

def prepareVoteTtlMs : Nat := 60000

/-- The clock may also stand before the vote; the difference saturates. -/
def prepareVoteExpired (now preparedAtUnixMs : Nat) : Bool := decide (prepareVoteTtlMs < now - preparedAtUnixMs)

/-- What a vote for `nodeId` asks of the topology. The texts of its refusals differ between
the vote and the commit. -/
def topologyReady (verb suffix : String) (state : ClusterState) (slot : Nat) (nodeId : String) : Except String Unit :=
  let owner := state.ownerAt slot
  let owns := owner == state.myId
  let alreadyTarget := owner != "" && owner == nodeId
  if nodeId = state.myId then
    if owns || alreadyTarget || state.isImporting slot then .ok ()
    else if owner == "" || state.nodes.containsKey owner then .ok ()
    else .error s!"not ready to {verb} NODE as dest for slot {slot} (unexpected owner {owner})"
  else if !owns && !alreadyTarget then .error s!"local neither owns slot {slot} nor already assigned to dest{suffix}"
  else match state.migrating.lookup slot with
    | some dest =>
      if dest ≠ nodeId then .error s!"MIGRATING dest is {dest} want {nodeId} for slot {slot}{suffix}" else .ok ()
    | none => .ok ()

def prepareTopologyReady : ClusterState → Nat → String → Except String Unit := topologyReady "commit" " (commit re-check)"

def recordPrepare (now slot : Nat) (nodeId : String) : Except String ClusterState :=
  if !state.nodes.containsKey nodeId then .error s!"I don't know about node {nodeId}"
  else match topologyReady "prepare" "" state slot nodeId with
    | .error text => .error text
    | .ok () => .ok { state with prepareNode := insertEntry slot ⟨nodeId, state.slotEpoch slot, now⟩ state.prepareNode }

def removePrepare : ClusterState :=
  { state with prepareNode := removeEntry slot state.prepareNode }

def purgeExpiredPrepare (now slot : Nat) : ClusterState :=
  match state.prepareNode.lookup slot with
  | some vote =>
    if prepareVoteExpired now vote.preparedAtUnixMs then state.removePrepare slot else state
  | none => state

def purgeExpiredPrepares (now : Nat) : ClusterState :=
  { state with prepareNode := state.prepareNode.filter fun entry => !prepareVoteExpired now entry.2.preparedAtUnixMs }

/-- The checks of a vote that has just been spared by the purge. The clock is read again, so
that the vote may have expired in between. -/
def recheckVote (now slot : Nat) (nodeId : String) : ClusterState × Except String Unit :=
  match state.prepareNode.lookup slot with
  | none => (state, .error s!"no prepare vote for slot {slot} (cleared, expired, or never set)")
  | some vote =>
    if vote.targetId ≠ nodeId then (state, .error s!"prepare target is {vote.targetId} want {nodeId} for slot {slot}")
    else if prepareVoteExpired now vote.preparedAtUnixMs then
      (state.removePrepare slot, .error s!"prepare vote expired for slot {slot}")
    else if vote.slotEpoch ≠ state.slotEpoch slot then
      (state, .error s!"prepare epoch stale for slot {slot} (vote {vote.slotEpoch} current {state.slotEpoch slot})")
    else (state, state.prepareTopologyReady slot nodeId)

/-- The section of `commit_prepare_node` under the lock, with its two readings of the clock. -/
def commitVote (now later slot : Nat) (nodeId : String) : ClusterState × Except String Unit :=
  match (state.purgeExpiredPrepare now slot).recheckVote later slot nodeId with
  | (state, .error text) => (state, .error text)
  | (state, .ok ()) =>
    if !state.nodes.containsKey nodeId then (state, .error s!"Unknown node {nodeId}")
    else (stampSlot nodeId state.bump slot, .ok ())

def testBumpSlotEpochKeepPrepare : ClusterState :=
  if slotCount ≤ slot then state
  else { state.bump with slotConfigEpoch := state.slotConfigEpoch.setIfInBounds slot state.bump.currentEpoch }

def testExpirePrepare (now slot : Nat) : ClusterState :=
  { state with prepareNode := state.prepareNode.map fun entry =>
      if entry.1 = slot then (slot, { entry.2 with preparedAtUnixMs := now - (prepareVoteTtlMs + 1000) }) else entry }

end ClusterState

/-! Ownership gossip. -/

structure OwnershipRange where
  first : Nat
  last : Nat
  ownerId : String
  ip : String
  port : Nat
  epoch : Nat
  deriving DecidableEq

inductive OwnershipApplyResult where
  | applied
  | rejectedStale
  | skippedTransition
  | invalid
  deriving DecidableEq

namespace ClusterState

def nodeAddr (ownerId : String) : String × Nat :=
  match state.nodes.get ownerId with
  | some node => (node.ip, node.port)
  | none => ("", 0)

def rangeOf (first last : Nat) (stamp : String × Nat) : OwnershipRange :=
  ⟨first, last, stamp.1, (state.nodeAddr stamp.1).1, (state.nodeAddr stamp.1).2, stamp.2⟩

/-- Ranges from `first` on, where `slot` is the next one to look at and `stamp` is the owner
and epoch of all slots in between. -/
def rangesFrom (state : ClusterState) (first slot : Nat) (stamp : String × Nat) : List (String × Nat) → List OwnershipRange
  | [] => [state.rangeOf first (slot - 1) stamp]
  | next :: rest =>
    if next ≠ stamp then state.rangeOf first (slot - 1) stamp :: state.rangesFrom slot (slot + 1) next rest
    else state.rangesFrom first (slot + 1) stamp rest

def stamps : List (String × Nat) := state.slotOwner.toList.zip state.slotConfigEpoch.toList

def ownershipSnapshot : List OwnershipRange :=
  match state.stamps with
  | [] => []
  | stamp :: rest => state.rangesFrom 0 1 stamp rest

def slotRangesFor (nodeId : String) : List (Stretch Bool) :=
  (stretches (state.slotOwner.toList.map (· == nodeId))).filter (·.value)

/-- Id and slot ranges of each node line, the one of this process first. -/
def formatNodes : List (String × List (Stretch Bool)) :=
  let ids := (state.nodes.entries.map (·.id)).mergeSort fun one other => one == state.myId || other != state.myId && one ≤ other
  ids.map fun id => (id, state.slotRangesFor id)

def formatSlotEpochHeaderLines : List (Stretch Nat) := stretches state.slotConfigEpoch.toList

variable (range : OwnershipRange)

def learnOwner : Option ClusterState :=
  if !state.nodes.containsKey range.ownerId then
    if range.ip = "" ∨ range.port = 0 then none
    else some { state with nodes := state.nodes.insert ⟨range.ownerId, range.ip, range.port, false, true, none, false, false⟩ }
  else if range.ip ≠ "" ∧ range.port ≠ 0 then
    some { state with
      nodes := state.nodes.modify range.ownerId
        (fun node => if node.myself then node else { node with ip := range.ip, port := range.port }) fun node => by split <;> rfl }
  else some state

/-- Counts of a range's slots: applied, in transition, stale. -/
structure Tally where
  applied : Nat
  skipped : Nat
  rejected : Nat

def applySlot (progress : ClusterState × Tally) (slot : Nat) : ClusterState × Tally :=
  let (state, tally) := progress
  if state.isMigrating slot || state.isImporting slot then (state, { tally with skipped := tally.skipped + 1 })
  else if state.slotEpoch slot < range.epoch then
    ({ state with
      slotOwner := state.slotOwner.setIfInBounds slot range.ownerId
      slotConfigEpoch := state.slotConfigEpoch.setIfInBounds slot range.epoch }, { tally with applied := tally.applied + 1 })
  else (state, { tally with rejected := tally.rejected + 1 })

def applyOwnershipRange : ClusterState × OwnershipApplyResult :=
  if range.last < range.first ∨ slotCount ≤ range.last then (state, .invalid)
  else if range.ownerId = "" then (state, .invalid)
  else match state.learnOwner range with
    | none => (state, .rejectedStale)
    | some state =>
      let (state, tally) := (range' range.first (range.last + 1 - range.first)).foldl (applySlot range) (state, ⟨0, 0, 0⟩)
      let state := if 0 < tally.applied ∧ state.currentEpoch < range.epoch then { state with currentEpoch := range.epoch } else state
      (state,
        if 0 < tally.applied then .applied
        else if 0 < tally.skipped then .skippedTransition
        else .rejectedStale)

/-- Counts of a snapshot's ranges, as `Tally` of the slots; an invalid range counts as rejected. -/
def mergeRange (progress : ClusterState × Tally) (range : OwnershipRange) : ClusterState × Tally :=
  let (state, tally) := progress
  match state.applyOwnershipRange range with
  | (state, .applied) => (state, { tally with applied := tally.applied + 1 })
  | (state, .rejectedStale) | (state, .invalid) => (state, { tally with rejected := tally.rejected + 1 })
  | (state, .skippedTransition) => (state, { tally with skipped := tally.skipped + 1 })

def mergeOwnershipSnapshot (ranges : List OwnershipRange) : ClusterState × Tally :=
  ranges.foldl mergeRange (state, ⟨0, 0, 0⟩)

end ClusterState
end Kore.Cluster
