import Kore.Cache.Keyspace

/-! The expiration paths as tasks that run beside the commands. Every operation on the table
is atomic, but a path reads a slot in one operation, looks at the clock after that, and
removes the key in a later operation. Lookups, TTL queries, `load` and the cycles over
containers remove the key outright; the cycles over strings look at what they removed, at the
clock once more, and put it back if it should have stayed. -/

namespace Kore.Cache.Expiration
open Foundation

inductive Path where
  | outright
  | recheck
  deriving DecidableEq

/-- Where a task stands: it has read a slot (and listed some keys before that), is about to
remove a key or the listed keys, has removed a slot, or is about to put it back. -/
inductive Stage (F : Type) where
  | idle
  | read (path : Path) (key : Bytes) (slot : KeySlot F) (keys : List Bytes)
  | doomed (key : Bytes)
  | listed (keys : List Bytes)
  | taken (key : Bytes) (slot : KeySlot F) (rest : List Bytes)
  | holding (key : Bytes) (slot : KeySlot F) (rest : List Bytes)

structure Tasks (F κ : Type) where
  keyspace : Keyspace F
  now : Nat
  stages : κ → Stage F

/-- A command's operation on one key, the clock, a task that reads a slot, or a task's next
look at the clock or operation on the table. -/
inductive Event (F κ : Type) where
  | write (key : Bytes) (slot : Option (KeySlot F))
  | tick (elapsed : Nat)
  | look (task : κ) (path : Path) (key : Bytes)
  | proceed (task : κ)

variable {F κ : Type}

def put (key : Bytes) (slot : Option (KeySlot F)) (keyspace : Keyspace F) : Keyspace F :=
  match slot with
  | some slot => keyspace.insert key slot
  | none => keyspace.erase key

def isExpiredString (now : Nat) (slot : KeySlot F) : Bool := slot.isExpired now && !slot.value.isTypedContainer

/-- A task that reads a slot; only the sweep over strings goes on to further slots. -/
def noticed (path : Path) (key : Bytes) (slot : KeySlot F) (stage : Stage F) : Stage F :=
  match path, stage with
  | path, .idle => .read path key slot []
  | .recheck, .listed keys => .read .recheck key slot keys
  | _, stage => stage

def advance (now : Nat) (keyspace : Keyspace F) : Stage F → Keyspace F × Stage F
  | .idle => (keyspace, .idle)
  | .read .outright key slot _ => (keyspace, if slot.isExpired now then .doomed key else .idle)
  | .read .recheck key slot keys => (keyspace, .listed (if isExpiredString now slot then keys ++ [key] else keys))
  | .doomed key => (keyspace.erase key, .idle)
  | .listed [] => (keyspace, .idle)
  | .listed (key :: keys) =>
    match keyspace.lookup key with
    | none => (keyspace, .listed keys)
    | some slot => (keyspace.erase key, .taken key slot keys)
  | .taken key slot rest => (keyspace, if isExpiredString now slot then .listed rest else .holding key slot rest)
  | .holding key slot rest => (keyspace.insert key slot, .listed rest)

variable [DecidableEq κ]

def step (tasks : Tasks F κ) : Event F κ → Tasks F κ
  | .write key slot => { tasks with keyspace := put key slot tasks.keyspace }
  | .tick elapsed => { tasks with now := tasks.now + elapsed }
  | .look task path key =>
    match tasks.keyspace.lookup key with
    | some slot => { tasks with stages := Function.update tasks.stages task (noticed path key slot (tasks.stages task)) }
    | none => tasks
  | .proceed task =>
    let (keyspace, stage) := advance tasks.now tasks.keyspace (tasks.stages task)
    { tasks with keyspace, stages := Function.update tasks.stages task stage }

end Kore.Cache.Expiration
