import Kore.Foundation.Runs
import Kore.Persistence.Replication

/-! The offsets that replicas acknowledge: one that comes over any link is recorded for every feed that announced a like address. -/

namespace Kore.Persistence.ReplicaAcks

/-- A feed, with the highest offset that came over the link of this feed itself. -/
structure AckedFeed extends ReplicaFeed where
  ackOffset : Nat := 0
  reported : Nat := 0

def matchesAck (host : Option String) (port : Option Nat) (feed : ReplicaFeed) : Bool :=
  (match host, feed.host with
    | none, _ => true
    | some host, some announced => ReplicationManager.hostsEqual host announced
    | some _, none => port.isSome && feed.port == port) &&
  (port.isNone || feed.port == port) && (host.isSome || port.isSome || feed.port.isNone)

variable (host : Option String) (port : Option Nat) (offset : Nat) (feeds : List AckedFeed)

/-- A feed that does not match is raised all the same if it is the only one. -/
def raises (feed : AckedFeed) : Bool := matchesAck host port feed.toReplicaFeed || feeds.length == 1

def noteReplicaAck : List AckedFeed :=
  feeds.map fun feed => if raises host port feeds feed then { feed with ackOffset := max feed.ackOffset offset } else feed

def countReplicasAcked : Nat := feeds.countP (offset ≤ ·.ackOffset)

inductive Event where
  | register (feed : ReplicaFeed)
  | ack (channel : Nat) (host : Option String) (port : Option Nat) (offset : Nat)
  | drop (place : Nat)

def step (feeds : List AckedFeed) : Event → List AckedFeed
  | .register feed => feeds ++ [⟨feed, 0, 0⟩]
  | .ack channel host port offset => (noteReplicaAck host port offset feeds).map fun feed =>
    if feed.channel = channel then { feed with reported := max feed.reported offset } else feed
  | .drop place => feeds.eraseIdx place

end Kore.Persistence.ReplicaAcks
