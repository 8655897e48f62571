import Mathlib.Data.List.FinRange
import Kore.Foundation.Runs
import Kore.Foundation.Text

/-! Clients that lock one resource on `count` independent backends. Every client has a value
of its own, by which it is known here. A call on a backend is one atomic step, and the steps
of the clients interleave freely. The retry loop of `lock` only decides when the next
`try_lock` starts, so an idle client may start one at any time. -/

namespace Kore.Redlock
open Foundation Function

/-- The lock's key on one backend. The backend does not know `attempt`, the `try_lock` that
has set it. -/
structure LockKey where
  value : Bytes
  expiresAt : Nat
  attempt : Nat
  deriving DecidableEq

/-- A lock handle, with the `try_lock` that has returned it and the time of its return. -/
structure Lock where
  val : Bytes
  attempt : Nat
  createdAt : Nat
  validityTime : Nat
  released : Bool
  deriving DecidableEq

/-- How far a call on a backend gets: a lost reply leaves its effect behind. -/
inductive Call where
  | answered
  | unanswered
  | unreachable
  deriving DecidableEq

inductive Activity (count : Nat) where
  | idle
  | acquiring (attempt startTime ttlMs : Nat) (instances acquired : List (Fin count))
  | releasing (attempt : Nat) (instances : List (Fin count)) (matched : Bool)

structure World (count : Nat) where
  now : Nat
  keys : Fin count → Option LockKey
  activity : Bytes → Activity count
  locks : List Lock
  attempts : Nat

/-- The steps of the clients. `unlock` and `drop` name the handle by its attempt. -/
inductive Action where
  | wait (ms : Nat)
  | tryLock (client : Bytes) (ttlMs : Nat)
  | tryAcquire (client : Bytes) (call : Call)
  | conclude (client : Bytes)
  | unlock (client : Bytes) (attempt : Nat)
  | drop (client : Bytes) (attempt : Nat)
  | get (client : Bytes) (call : Call)
  | del (client : Bytes) (call : Call)
  | finish (client : Bytes)

def live (now : Nat) (key : Option LockKey) : Option LockKey := key.filter fun key => decide (now < key.expiresAt)

def Lock.expiry (lock : Lock) : Nat := lock.createdAt + lock.validityTime

/-- Not released, and within its validity time. -/
def Lock.isCurrent (now : Nat) (lock : Lock) : Bool := !lock.released && decide (now ≤ lock.expiry)

namespace World
variable {count : Nat}

def initial : World count := ⟨0, fun _ => none, fun _ => .idle, [], 0⟩

variable (world : World count) (client : Bytes)

variable (activity : Activity count)

def become : World count :=
  { world with activity := update world.activity client activity }

@[simp] theorem become_self :
    (world.become client activity).activity client = activity := update_self ..

theorem become_other {client other : Bytes} (apart : other ≠ client) :
    (world.become client activity).activity other = world.activity other := update_of_ne apart ..

def setKey (i : Fin count) (key : Option LockKey) : World count :=
  { world with keys := update world.keys i key }

/-- `SET key val NX PX ttl` on one backend, and whether the caller sees it succeed. -/
def tryAcquire (call : Call) (i : Fin count) (key : LockKey) : Bool × World count :=
  if call = .unreachable ∨ (live world.now (world.keys i)).isSome then (false, world)
  else (decide (call = .answered), world.setKey i (some key))

def quorum (count : Nat) : Nat := count / 2 + 1

/-- The end of `try_lock`. `scaled` is the product of a time to live with the clock drift
factor, rounded as the source does. -/
def conclude (scaled : Nat → Nat) (world : World count) (client : Bytes) (attempt startTime ttlMs : Nat) (acquired : List (Fin count)) :
    World count :=
  let elapsed := world.now - startTime
  let drift := scaled ttlMs + 2
  let validityTime := ttlMs - elapsed - drift
  if quorum count ≤ acquired.length ∧ 0 < validityTime then
    { world.become client .idle with locks := ⟨client, attempt, world.now, validityTime, false⟩ :: world.locks }
  else world.become client (.releasing attempt acquired false)

def isHandle (attempt : Nat) (lock : Lock) : Bool := lock.val = client ∧ lock.attempt = attempt

/-- `unlock` on a handle, which stays behind until it is dropped. -/
def unlock (attempt : Nat) : World count :=
  { world.become client (.releasing attempt (List.finRange count) false) with
    locks := world.locks.map fun lock => if lock.attempt = attempt then { lock with released := true } else lock }

/-- `Drop` releases once more, also after an `unlock`. -/
def drop (attempt : Nat) : World count :=
  { world.become client (.releasing attempt (List.finRange count) false) with
    locks := world.locks.filter fun lock => decide (lock.attempt ≠ attempt) }

/-- The first half of `release_if_equal`: only a received value that equals the client's leads on to the `DEL`. -/
def get (call : Call) (attempt : Nat) (i : Fin count) (instances : List (Fin count)) :
    World count :=
  if call = .answered ∧ (live world.now (world.keys i)).map LockKey.value = some client then
    world.become client (.releasing attempt (i :: instances) true)
  else world.become client (.releasing attempt instances false)

/-- The second half: `DEL` takes the key whatever it holds by now. -/
def del (call : Call) (attempt : Nat) (i : Fin count) (instances : List (Fin count)) :
    World count :=
  if call = .unreachable then world.become client (.releasing attempt instances false)
  else (world.setKey i none).become client (.releasing attempt instances false)

/-- One step; a client that is elsewhere in its program does not take it. -/
def step (scaled : Nat → Nat) (world : World count) : Action → World count
  | .wait ms => { world with now := world.now + ms }
  | .tryLock client ttlMs =>
    match world.activity client with
    | .idle =>
      { world.become client (.acquiring world.attempts world.now ttlMs (List.finRange count) []) with attempts := world.attempts + 1 }
    | _ => world
  | .tryAcquire client call =>
    match world.activity client with
    | .acquiring attempt startTime ttlMs (i :: instances) acquired =>
      let tried := world.tryAcquire call i ⟨client, world.now + ttlMs, attempt⟩
      tried.2.become client (.acquiring attempt startTime ttlMs instances (if tried.1 then acquired ++ [i] else acquired))
    | _ => world
  | .conclude client =>
    match world.activity client with
    | .acquiring attempt startTime ttlMs [] acquired => world.conclude scaled client attempt startTime ttlMs acquired
    | _ => world
  | .unlock client attempt =>
    match world.activity client with
    | .idle => if world.locks.any (isHandle client attempt) then world.unlock client attempt else world
    | _ => world
  | .drop client attempt =>
    match world.activity client with
    | .idle => if world.locks.any (isHandle client attempt) then world.drop client attempt else world
    | _ => world
  | .get client call =>
    match world.activity client with
    | .releasing attempt (i :: instances) false => world.get client call attempt i instances
    | _ => world
  | .del client call =>
    match world.activity client with
    | .releasing attempt (i :: instances) true => world.del client call attempt i instances
    | _ => world
  | .finish client =>
    match world.activity client with
    | .releasing _ [] _ => world.become client .idle
    | _ => world

def Exclusive : Prop := (world.locks.filter (Lock.isCurrent world.now)).length ≤ 1

instance (world : World count) : Decidable world.Exclusive := inferInstanceAs (Decidable (_ ≤ _))

/-- A `DEL` that reaches its backend finds there the key that the same attempt has set, or none. -/
def deletesOwn : Action → Bool
  | .del client call =>
    match world.activity client with
    | .releasing attempt (i :: _) true =>
      decide (call = .unreachable) || (live world.now (world.keys i)).all fun key => decide (key.attempt = attempt)
    | _ => true
  | _ => true

end World
end Kore.Redlock
