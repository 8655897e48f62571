import Kore.Redlock.Locking

/-! One `try_lock` of one client, with what becomes of each of its calls given. -/

namespace Kore.Redlock
open Foundation

/-- One backend during a `try_lock`: the key that it has before, when it is asked to grant the
lock and how far that call gets, and when it is asked to release it, should that come up. -/
structure Visit where
  held : Option LockKey
  calledAt : Nat
  call : Call
  releasedAt : Nat
  ordered : calledAt ≤ releasedAt

def Stores (client : Bytes) (now : Nat) (key : Option LockKey) : Prop := (live now key).map LockKey.value = some client

instance (client : Bytes) (now : Nat) (key : Option LockKey) : Decidable (Stores client now key) :=
  inferInstanceAs (Decidable (_ = _))

def releaseIfEqual (client : Bytes) (now : Nat) (key : Option LockKey) : Option LockKey :=
  if Stores client now key then none else key

variable (client : Bytes) (ttlMs : Nat)

namespace Visit
variable (visit : Visit)

def tryAcquire : Bool × Option LockKey :=
  if visit.call = .unreachable ∨ (live visit.calledAt visit.held).isSome then (false, visit.held)
  else (decide (visit.call = .answered), some ⟨client, visit.calledAt + ttlMs, 0⟩)

/-- The key after a `try_lock` that has failed. -/
def cleanedUp : Option LockKey :=
  let tried := visit.tryAcquire client ttlMs
  if tried.1 then releaseIfEqual client visit.releasedAt tried.2 else tried.2

/-- The backend grants the lock, its answer is lost, and at the given time the grant has not expired. -/
def LostGrant (now : Nat) : Prop :=
  visit.call = .unanswered ∧ live visit.calledAt visit.held = none ∧ now < visit.calledAt + ttlMs

end Visit

/-- One `try_lock` by itself: whether it returns a lock, and the key on every backend after it. -/
def tryLock (scaled : Nat → Nat) (elapsedMs : Nat) (visits : List Visit) : Bool × List (Option LockKey) :=
  let acquired := visits.countP fun visit => (visit.tryAcquire client ttlMs).1
  let validityTime := ttlMs - elapsedMs - (scaled ttlMs + 2)
  if World.quorum visits.length ≤ acquired ∧ 0 < validityTime then (true, visits.map fun visit => (visit.tryAcquire client ttlMs).2)
  else (false, visits.map (Visit.cleanedUp client ttlMs))

end Kore.Redlock
