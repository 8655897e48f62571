import Kore.Foundation.Runs

/-! The buffer of one subscriber: a ring of `capacity` messages that the oldest ones are
overwritten in, and the queue of sizes that follows it by hand. The ring and the queue have
locks of their own, so that a publish and a receive are two sections each. -/

namespace Kore.Commands

/-- All messages sent to the client, by their sizes; how many of them its receiver has behind
it; and the sizes in `pending_by_client`. -/
structure Feed where
  sent : List Nat
  cursor : Nat
  pending : List Nat
  bounded : cursor ≤ sent.length

inductive FeedEvent where
  | publish (size : Nat)
  | receive

/-- `account_deliveries` makes room for a message as the ring does. -/
def makeRoom (capacity : Nat) : List Nat → List Nat
  | [] => []
  | size :: sizes => if capacity ≤ (size :: sizes).length then makeRoom capacity sizes else size :: sizes

def noteDelivered (sizes : List Nat) : List Nat := sizes.tail

def noteLagged (n : Nat) (sizes : List Nat) : List Nat := sizes.drop (min n sizes.length)

namespace Feed

def new : Feed := ⟨[], 0, [], le_refl 0⟩

variable (capacity : Nat) (feed : Feed)

/-- The first message that the ring still has. -/
def oldest : Nat := feed.sent.length - capacity

def unread : List Nat := feed.sent.drop (max feed.cursor (feed.oldest capacity))

def send (size : Nat) : Feed where
  sent := feed.sent ++ [size]
  cursor := feed.cursor
  pending := feed.pending
  bounded := by
    rw [List.length_append]
    exact Nat.le_add_right_of_le feed.bounded

def accountDeliveries (size : Nat) : Feed := { feed with pending := makeRoom capacity feed.pending ++ [size] }

def publish (size : Nat) : Feed := (feed.send size).accountDeliveries capacity size

/-- The receiver is told once how many messages it has lost, and goes on with the oldest. -/
def recv : Feed × (List Nat → List Nat) :=
  if feed.cursor < feed.oldest capacity then
    (⟨feed.sent, feed.oldest capacity, feed.pending, Nat.sub_le ..⟩, noteLagged (feed.oldest capacity - feed.cursor))
  else if next : feed.cursor < feed.sent.length then (⟨feed.sent, feed.cursor + 1, feed.pending, next⟩, noteDelivered)
  else (feed, id)

def note (change : List Nat → List Nat) : Feed := { feed with pending := change feed.pending }

def receive : Feed := (feed.recv capacity).1.note (feed.recv capacity).2

def step (feed : Feed) : FeedEvent → Feed
  | .publish size => feed.publish capacity size
  | .receive => feed.receive capacity

/-- A receive finds no unread message overwritten. -/
def KeepsUp (feed : Feed) : FeedEvent → Prop
  | .publish _ => True
  | .receive => feed.oldest capacity ≤ feed.cursor

end Feed

/-- A feed with the messages that are sent and not accounted for yet, and what the client's
connection has still to note of its last receive. -/
structure FeedSections where
  feed : Feed
  sending : List Nat
  noting : Option (List Nat → List Nat)

inductive SectionEvent where
  | send (size : Nat)
  | account (index : Nat)
  | recv
  | note

namespace FeedSections
variable (capacity : Nat) (state : FeedSections)

def new : FeedSections := ⟨.new, [], none⟩

/-- Publications are accounted for in any order. A section that is not due changes nothing. -/
def step (state : FeedSections) : SectionEvent → FeedSections
  | .send size => { state with feed := state.feed.send size, sending := state.sending ++ [size] }
  | .account index =>
    match state.sending[index]? with
    | some size => { state with feed := state.feed.accountDeliveries capacity size, sending := state.sending.eraseIdx index }
    | none => state
  | .recv =>
    if state.noting.isNone then { state with feed := (state.feed.recv capacity).1, noting := some (state.feed.recv capacity).2 } else state
  | .note =>
    match state.noting with
    | some change => { state with feed := state.feed.note change, noting := none }
    | none => state

/-- Nothing is under way. -/
def Settled : Prop := state.sending = [] ∧ state.noting = none

/-- No publish or receive begins while another one is under way, and no receive finds an unread message overwritten. -/
def Apart : SectionEvent → Prop
  | .send _ => state.Settled
  | .recv => state.Settled ∧ state.feed.oldest capacity ≤ state.feed.cursor
  | .account _ | .note => True

end FeedSections
end Kore.Commands
