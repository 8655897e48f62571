import Kore.Foundation.Runs
import Kore.Persistence.Replication

/-! Publishers and attaching replicas that run at the same time, at the grain of the primary's
locks. A publisher appends under the backlog lock, takes the fan-out order before it lets go of
the backlog, and sends after that; a partial resync reads its history under the backlog lock and
registers its feed once it has the fan-out order as well. A full resync registers its feed while
the gate keeps publishers out. A `GETACK` probe goes to the feeds under the lock of their list
alone, at any time, and past the backlog. -/

namespace Kore.Persistence
open Foundation Protocol

/-- What is queued on a feed. -/
inductive FeedMessage where
  | publication (data : Bytes)
  | getack

namespace FeedMessage

def bytes : FeedMessage → Bytes
  | publication data => data
  | getack => (commandValue ReplicationManager.getackArgs).serialize

def published : FeedMessage → Option Bytes
  | publication data => some data
  | getack => none

end FeedMessage

/-- Who holds the backlog lock and waits for the fan-out order. -/
inductive BacklogHolder (R : Type) where
  | publisher (payload : Bytes)
  | replica (name : R) (offset : Nat) (history : Bytes)

/-- What a registered feed goes on from: the history sent with `CONTINUE`, or a snapshot. -/
inductive FeedOrigin where
  | continued (offset : Nat) (history : Bytes)
  | resynced
  deriving DecidableEq

/-- `publications` is all that was ever appended, `sending` the payload of the publisher that has the fan-out order. -/
structure FeedOrder (R : Type) where
  backlog : ReplBacklog
  publications : List Bytes
  holder : Option (BacklogHolder R)
  sending : Option Bytes
  connectedReplicas : Nat
  replicas : List R
  feed : R → List FeedMessage
  origin : R → Option FeedOrigin

/-- A publisher gives its database, or none for raw payloads; `refused` tells which channels are full or closed. A probe names
the feeds that match its address. -/
inductive FeedEvent (R : Type) where
  | publish (db : Option Nat) (raw : Bytes)
  | request (name : R) (offset : Nat)
  | order
  | fanout (refused : R → Bool)
  | register (name : R)
  | probe (matched refused : R → Bool)

namespace FeedOrder
variable {R : Type} [DecidableEq R]

def start (capacity : Nat) : FeedOrder R where
  backlog := .new capacity
  publications := []
  holder := none
  sending := none
  connectedReplicas := 0
  replicas := []
  feed := fun _ => []
  origin := fun _ => none

variable (state : FeedOrder R)

def stream : Bytes := state.publications.flatten

def payload (backlog : ReplBacklog) (raw : Bytes) : Option Nat → ReplBacklog × Bytes
  | none => (backlog, raw)
  | some db =>
    ({ backlog with selectedDb := some db }, if ReplBacklog.emitsSelect backlog.selectedDb db then encodeSelectDb db ++ raw else raw)

/-- With no replicas there is nothing to send and the lock is free again at once. -/
def publish (db : Option Nat) (raw : Bytes) : FeedOrder R :=
  let (backlog, data) := payload state.backlog raw db
  { state with
    backlog := backlog.append data
    publications := state.publications ++ [data]
    holder := if state.connectedReplicas = 0 then none else some (.publisher data) }

def attach (name : R) (origin : FeedOrigin) : FeedOrder R :=
  { state with
    replicas := state.replicas ++ [name]
    connectedReplicas := state.connectedReplicas + 1
    origin := Function.update state.origin name (some origin) }

def fanout (refused : R → Bool) (data : Bytes) : FeedOrder R :=
  let kept := state.replicas.filter fun name => !refused name
  { state with
    replicas := kept
    connectedReplicas := kept.length
    feed := fun name => if name ∈ kept then state.feed name ++ [.publication data] else state.feed name }

/-- A probe that a channel does not take is forgotten, and its feed stays. -/
def sendGetackProbeToFeeds (matched refused : R → Bool) : FeedOrder R :=
  { state with
    feed := fun name =>
      if name ∈ state.replicas ∧ matched name ∧ !refused name then state.feed name ++ [.getack] else state.feed name }

/-- Steps that have to wait for a lock leave the state as it is. -/
def step : FeedEvent R → FeedOrder R
  | .publish db raw => if state.holder.isNone ∧ raw ≠ [] then state.publish db raw else state
  | .request name offset =>
    match state.holder, state.origin name, state.backlog.getFrom offset with
    | none, none, some history => { state with holder := some (.replica name offset history) }
    | _, _, _ => state
  | .order =>
    match state.holder, state.sending with
    | some (.publisher data), none => { state with holder := none, sending := some data }
    | some (.replica name offset history), none =>
      match state.origin name with
      | none => { state.attach name (.continued offset history) with holder := none }
      | some _ => { state with holder := none }
    | _, _ => state
  | .fanout refused =>
    match state.sending with
    | some data => { (if state.connectedReplicas = 0 then state else state.fanout refused data) with sending := none }
    | none => state
  | .register name =>
    match state.holder, state.sending, state.origin name with
    | some (.publisher _), _, _ | _, some _, _ | _, _, some _ => state
    | _, none, none => state.attach name .resynced
  | .probe matched refused => state.sendGetackProbeToFeeds matched refused

end FeedOrder
end Kore.Persistence
