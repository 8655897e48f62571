import Kore.Foundation.Runs
import Kore.Persistence.ReplicaLink

/-! One primary, one replica and the connection between them. Beside the state of the
two processes the system carries its history: the whole stream that the primary ever
appended to its backlog, the part of it that the replica's dataset reflects, and the
offsets that the replica acknowledged. -/

namespace Kore.Persistence
open Foundation Protocol Commands

/-- A connection of the replica. `channel` is the feed that serves it, `wire` what was
written to the socket and not read yet, `snapshot` the stream prefix that the snapshot
of a full resync reflects. -/
structure Connection where
  request : Bytes × Int
  channel : Option Nat
  wire : Bytes
  link : ReplicaLink
  snapshot : Bytes

structure ReplicationSystem (δ : Type) where
  primary : ReplicationManager
  replica : Replica δ
  connection : Option Connection
  stream : Bytes
  applied : Bytes
  acknowledged : List Nat

inductive ReplicationEvent where
  | write (db : UInt64) (command : LoggedCommand)
  | probe (host : Option String) (port : Option Nat)
  | connect
  | serve (rdb : Bytes) (host : Option String) (port : Option Nat)
  | deliver
  | read (count : Nat)
  | disconnect
  | release (channel : Nat)

namespace ReplicationSystem
variable {δ : Type}

def initial (replid : ReplId) (capacity : Nat) (dataset : δ) : ReplicationSystem δ where
  primary := .new replid capacity
  replica := ⟨[], 0, dataset⟩
  connection := none
  stream := []
  applied := []
  acknowledged := []

variable (system : ReplicationSystem δ)

def write (db : Nat) (command : LoggedCommand) : ReplicationSystem δ :=
  let raw := encodeCommand command.argv.args
  { system with
    primary := system.primary.propagateWrite db command.argv.args
    stream := if system.primary.needsStreamPublish then system.stream ++ system.primary.payload db raw else system.stream }

def connect : ReplicationSystem δ :=
  match system.connection with
  | some _ => system
  | none =>
    { system with connection := some ⟨ReplicaLink.psyncRequest system.replica, none, [], .start, []⟩ }

def serve (rdb : Bytes) (host : Option String) (port : Option Nat) : ReplicationSystem δ :=
  match system.connection with
  | some ⟨request, none, wire, link, _⟩ =>
    { system with
      primary := system.primary.registerReplicaAnnounced host port
      connection := some ⟨request, some system.primary.nextChannel,
        wire ++ system.primary.psyncResponse request.1 request.2 rdb, link, system.stream⟩ }
  | _ => system

def deliver : ReplicationSystem δ :=
  match system.connection with
  | some ⟨request, some channel, wire, link, snapshot⟩ =>
    match (system.primary.channels channel).queue with
    | [] => system
    | data :: rest =>
      { system with
        primary := { system.primary with
          channels := fun other =>
            if other = channel then { system.primary.channels channel with queue := rest } else system.primary.channels other }
        connection := some ⟨request, some channel, wire ++ data, link, snapshot⟩ }
  | _ => system

/-- The stream prefix that the replica's dataset reflects after it handled a value. -/
def reflect (snapshot applied : Bytes) : Handled → Bytes
  | .installed => snapshot
  | .applied frame => applied ++ frame
  | .acknowledged _ _ => applied
  | .redirected _ => applied

def ackOffset : Handled → Option Nat
  | .acknowledged _ offset => some offset
  | _ => none

section read
variable (databases : Nat) (run : δ → Nat → List Bytes → Option δ) (load : Bytes → Option δ)

def read (system : ReplicationSystem δ) (count : Nat) : ReplicationSystem δ :=
  match system.connection with
  | none => system
  | some connection =>
    let after := ReplicaLink.feed databases run load system.replica connection.link (connection.wire.take count)
    { system with
      replica := after.1
      connection := after.2.1.map fun link => { connection with link := link, wire := connection.wire.drop count }
      applied := after.2.2.foldl (reflect connection.snapshot) system.applied
      acknowledged := system.acknowledged ++ after.2.2.filterMap ackOffset }

def step (system : ReplicationSystem δ) : ReplicationEvent → ReplicationSystem δ
  | .write db command => system.write db.toNat command
  | .probe host port => { system with primary := system.primary.sendGetackProbeToFeeds host port }
  | .connect => system.connect
  | .serve rdb host port => system.serve rdb host port
  | .deliver => system.deliver
  | .read count => system.read databases run load count
  | .disconnect => { system with connection := none }
  | .release channel =>
    { system with primary := { system.primary with
        channels := fun other =>
          if other = channel ∧ (system.connection.bind (·.channel)) ≠ some channel then
            { system.primary.channels other with receiving := false }
          else system.primary.channels other } }

end read
end ReplicationSystem
end Kore.Persistence
