import Kore.Commands.Collections

/-! Lists and sets as several connections share them. A command asks for the type of the key,
which purges an expired key (a read of the slot, a look at the clock, a removal), looks up the
container in the table, works on it under the container's own lock, and a command that has
emptied it unlinks the key. A push also checks for room, for its values and for a new
container, and such a check may evict the very key. The table and every container are changed
atomically, but anything may happen between these operations. -/

namespace Kore.Commands.Containers
open Foundation Function Finset Multiset List

/-- A kind of container, seen through the elements that it holds. -/
class Collection (C : Type) where
  empty : C
  elements : C → Multiset Bytes
  isEmpty : C → Bool
  elements_empty : elements empty = 0
  elements_of_isEmpty : ∀ content, isEmpty content = true → elements content = 0

open Collection

/-- A push or add, with the values whose addition its reply acknowledges. -/
structure Push (C : Type) [Collection C] where
  grow : C → C
  added : C → Multiset Bytes
  grows : ∀ content, elements (grow content) = elements content + added content

/-- A pop or remove, with the values that it returns or removes. -/
structure Pop (C : Type) [Collection C] where
  shrink : C → C
  taken : C → Multiset Bytes
  shrinks : ∀ content, elements content = elements (shrink content) + taken content
  skipsEmpty : Bool

inductive Command (C : Type) [Collection C] where
  | push (push : Push C)
  | pop (pop : Pop C)

/-- What a command is about to do. -/
inductive Stage (C : Type) [Collection C] where
  | idle
  | admitting (push : Push C)
  | purge (command : Command C)
  | purging (command : Command C) (expiry : Nat)
  | removing (command : Command C)
  | looking (command : Command C)
  | making (push : Push C)
  | creating (push : Push C)
  | locking (command : Command C) (container : Nat)
  | unlinking

structure Slot where
  container : Nat
  expiresAt : Option Nat
  deriving DecidableEq

/-- One key: the containers that were ever made for it, the slot that the table has, the clock,
and the elements whose addition was acknowledged and those that were taken out. -/
structure Shared (C κ : Type) [Collection C] where
  contents : Nat → C
  fresh : Nat
  linked : Option Slot
  now : Nat
  stages : κ → Stage C
  pushed : Multiset Bytes
  popped : Multiset Bytes

/-- A check for room, of whichever command, evicts the key or refuses the command that made it. -/
inductive Event (C κ : Type) [Collection C] where
  | start (client : κ) (command : Command C)
  | proceed (client : κ)
  | tick (elapsed : Nat)
  | evict
  | refuse (client : κ)

variable {C κ : Type} [Collection C] [DecidableEq κ] (members : List Bytes) (client : κ)

def Shared.moveTo (stage : Stage C) (shared : Shared C κ) : Shared C κ :=
  { shared with stages := update shared.stages client stage }

def Shared.unlinked (shared : Shared C κ) : Shared C κ := { shared with linked := none }

def begin : Command C → Stage C
  | .push push => .admitting push
  | .pop pop => .purge (.pop pop)

def readExpiry (command : Command C) (shared : Shared C κ) : Shared C κ :=
  match shared.linked.bind Slot.expiresAt with
  | some expiry => shared.moveTo client (.purging command expiry)
  | none => shared.moveTo client (.looking command)

def lookUp (command : Command C) (shared : Shared C κ) : Shared C κ :=
  match shared.linked, command with
  | some slot, command => shared.moveTo client (.locking command slot.container)
  | none, .push push => shared.moveTo client (.making push)
  | none, .pop _ => shared.moveTo client .idle

/-- `get_or_insert_with`: somebody else may have made the container meanwhile. -/
def create (push : Push C) (shared : Shared C κ) : Shared C κ :=
  match shared.linked with
  | some slot => shared.moveTo client (.locking (.push push) slot.container)
  | none =>
    { shared with
      contents := update shared.contents shared.fresh empty
      fresh := shared.fresh + 1
      linked := some ⟨shared.fresh, none⟩
      stages := update shared.stages client (.locking (.push push) shared.fresh) }

def add (push : Push C) (container : Nat) (shared : Shared C κ) : Shared C κ :=
  let before := shared.contents container
  { shared with
    contents := update shared.contents container (push.grow before)
    pushed := shared.pushed + push.added before
    stages := update shared.stages client .idle }

def take (pop : Pop C) (container : Nat) (shared : Shared C κ) : Shared C κ :=
  let before := shared.contents container
  if pop.skipsEmpty && isEmpty before then shared.moveTo client .idle
  else
    { shared with
      contents := update shared.contents container (pop.shrink before)
      popped := shared.popped + pop.taken before
      stages := update shared.stages client (if isEmpty (pop.shrink before) then .unlinking else .idle) }

/-- The next operation of a command. The purge, `remove_list` and `remove_set` remove whatever
is under the key; the read of the type behind the purge decides nothing on a key that only
holds this kind of container. -/
def advance (shared : Shared C κ) : Stage C → Shared C κ
  | .idle => shared
  | .admitting push => shared.moveTo client (.purge (.push push))
  | .purge command => readExpiry client command shared
  | .purging command expiry => shared.moveTo client (if shared.now < expiry then .looking command else .removing command)
  | .removing command => shared.unlinked.moveTo client (.looking command)
  | .looking command => lookUp client command shared
  | .making push => shared.moveTo client (.creating push)
  | .creating push => create client push shared
  | .locking (.push push) container => add client push container shared
  | .locking (.pop pop) container => take client pop container shared
  | .unlinking => shared.unlinked.moveTo client .idle

def step (shared : Shared C κ) : Event C κ → Shared C κ
  | .start client command =>
    match shared.stages client with
    | .idle => shared.moveTo client (begin command)
    | _ => shared
  | .proceed client => advance client shared (shared.stages client)
  | .tick elapsed => { shared with now := shared.now + elapsed }
  | .evict => shared.unlinked
  | .refuse client =>
    match shared.stages client with
    | .admitting _ | .making _ => shared.moveTo client .idle
    | _ => shared

/-! The commands on lists and sets. -/

instance : Collection (List Bytes) where
  empty := []
  elements := ofList
  isEmpty := isEmpty
  elements_empty := rfl
  elements_of_isEmpty content none := by rw [isEmpty_iff.mp none]; rfl

instance : Collection (Finset Bytes) where
  empty := ∅
  elements := val
  isEmpty content := decide (content = ∅)
  elements_empty := rfl
  elements_of_isEmpty content none := by rw [of_decide_eq_true none]; rfl

private theorem lpush_eq (values items : List Bytes) : lpush values items = values.reverse ++ items := by
  induction values generalizing items with
  | nil => rfl
  | cons value values ih =>
    rw [reverse_cons, append_assoc]
    exact ih (value :: items)

theorem lpush_elements (values items : List Bytes) : (lpush values items : Multiset Bytes) = items + values := by
  rw [lpush_eq, coe_add, coe_eq_coe]
  exact perm_append_comm.trans ((reverse_perm values).append_left items)

theorem leftEnd_elements (count : Nat) (items : List Bytes) :
    (items : Multiset Bytes) = leftEnd.rest count items + leftEnd.taken count items := by
  rw [coe_add, coe_eq_coe]
  exact (Perm.of_eq (take_append_drop count items).symm).trans perm_append_comm

theorem rightEnd_elements (count : Nat) (items : List Bytes) :
    (items : Multiset Bytes) = rightEnd.rest count items + rightEnd.taken count items := by
  have behind : rightEnd.taken count items = (items.drop (items.length - count)).reverse := take_reverse
  rw [behind, coe_add, coe_eq_coe]
  exact (Perm.of_eq (take_append_drop (items.length - count) items).symm).trans ((reverse_perm _).symm.append_left _)

theorem sadd_eq (set : Finset Bytes) : sadd members set = set ∪ members.toFinset := by
  induction members generalizing set with
  | nil => simp [sadd]
  | cons member members ih =>
    rw [List.toFinset_cons, union_insert, ← insert_union]
    exact ih (insert member set)

theorem srem_eq (set : Finset Bytes) : srem members set = set \ members.toFinset := by
  induction members generalizing set with
  | nil => simp [srem]
  | cons member members ih =>
    rw [List.toFinset_cons, sdiff_insert, ← erase_sdiff_comm]
    exact ih (set.erase member)

theorem union_elements (set more : Finset Bytes) : (set ∪ more).val = set.val + (more \ set).val := by
  rw [← union_sdiff_self_eq_union, ← disjUnion_eq_union _ _ disjoint_sdiff, disjUnion_val]

theorem sdiff_elements (set less : Finset Bytes) : set.val = (set \ less).val + (set ∩ less).val := by
  have parts := disjUnion_eq_union (set \ less) (set ∩ less) (disjoint_sdiff_inter set less)
  rw [← disjUnion_val _ _ (disjoint_sdiff_inter set less), parts, sdiff_union_inter]

def lpushCommand (values : List Bytes) : Command (List Bytes) :=
  .push ⟨lpush values, fun _ => values, lpush_elements values⟩

def rpushCommand (values : List Bytes) : Command (List Bytes) :=
  .push ⟨rpush values, fun _ => values, fun items => (coe_add items values).symm⟩

def lpopCommand (count : Nat) : Command (List Bytes) :=
  .pop ⟨leftEnd.rest count, fun items => leftEnd.taken count items, leftEnd_elements count, false⟩

def rpopCommand (count : Nat) : Command (List Bytes) :=
  .pop ⟨rightEnd.rest count, fun items => rightEnd.taken count items, rightEnd_elements count, false⟩

theorem sadd_elements (set : Finset Bytes) : (sadd members set).val = set.val + (members.toFinset \ set).val := by
  rw [sadd_eq, union_elements]

theorem srem_elements (set : Finset Bytes) : set.val = (srem members set).val + (set ∩ members.toFinset).val := by
  rw [srem_eq, ← sdiff_elements]

/-- Members that were there before are not added, and the reply does not count them. -/
def saddCommand : Command (Finset Bytes) :=
  .push ⟨sadd members, fun set => (members.toFinset \ set).val, sadd_elements members⟩

def sremCommand : Command (Finset Bytes) :=
  .pop ⟨srem members, fun set => (set ∩ members.toFinset).val, srem_elements members, false⟩

/-- `SPOP` with the members that it happens to choose. -/
def spopCommand (choose : Finset Bytes → Finset Bytes) : Command (Finset Bytes) :=
  .pop ⟨fun set => set \ choose set, fun set => (set ∩ choose set).val, fun set => sdiff_elements set (choose set), true⟩

end Kore.Commands.Containers
