import Kore.Commands.CmdId
import Kore.Persistence.Backlog

/-! Primary side of replication: the stream that writes are published on, the feeds
of the connected replicas, and the answer to a replica's `PSYNC`. -/

namespace Kore.Persistence
open Foundation Protocol Commands

def replicaChannelCap : Nat := 1024

structure Channel where
  queue : List Bytes
  receiving : Bool

namespace Channel

def open_ : Channel := ⟨[], true⟩

def accepts (channel : Channel) : Bool := channel.receiving && decide (channel.queue.length < replicaChannelCap)

def send (channel : Channel) (data : Bytes) : Channel := { channel with queue := channel.queue ++ [data] }

end Channel

structure ReplicaFeed where
  channel : Nat
  host : Option String
  port : Option Nat

/-- A replication id: forty hexadecimal digits. -/
structure ReplId where
  text : Bytes
  digits : ∀ byte ∈ text, 48 ≤ byte ∧ byte ≤ 57 ∨ 97 ≤ byte ∧ byte ≤ 102
  length : text.length = 40

structure ReplicationManager where
  replid : ReplId
  masterReplOffset : Nat
  backlog : ReplBacklog
  streamHistory : Bool
  connectedReplicas : Nat
  replicas : List ReplicaFeed
  channels : Nat → Channel
  nextChannel : Nat

variable (manager : ReplicationManager)

namespace ReplicationManager

def new (replid : ReplId) (capacity : Nat) : ReplicationManager where
  replid := replid
  masterReplOffset := 0
  backlog := .new capacity
  streamHistory := false
  connectedReplicas := 0
  replicas := []
  channels := fun _ => ⟨[], false⟩
  nextChannel := 0

def needsStreamPublish : Bool :=
  decide (0 < manager.connectedReplicas) || manager.streamHistory

def fanoutToReplicas (data : Bytes) : ReplicationManager :=
  let kept := manager.replicas.filter fun feed => (manager.channels feed.channel).accepts
  { manager with
    replicas := kept
    connectedReplicas := kept.length
    channels := fun channel =>
      if kept.any (·.channel == channel) then (manager.channels channel).send data else manager.channels channel }

def payload (db : Nat) (raw : Bytes) : Bytes :=
  if ReplBacklog.emitsSelect manager.backlog.selectedDb db then encodeSelectDb db ++ raw else raw

/-- Appending under the backlog lock and the fan-out that follows in append order. -/
def propagateWriteEncoded (db : Nat) (raw : Bytes) : ReplicationManager :=
  if raw = [] ∨ manager.needsStreamPublish = false then manager
  else
    let payload := manager.payload db raw
    let backlog := { manager.backlog with selectedDb := some db }.append payload
    let published := { manager with
      backlog := backlog
      streamHistory := true
      masterReplOffset := backlog.endOffset }
    if published.connectedReplicas = 0 then published else published.fanoutToReplicas payload

def propagateWrite (db : Nat) (argv : List Bytes) : ReplicationManager :=
  if manager.needsStreamPublish then manager.propagateWriteEncoded db (encodeCommand argv) else manager

def eqIgnoreAsciiCase (first second : String) : Bool := first.toLower == second.toLower

def hostsEqual (first second : String) : Bool :=
  let loopback (host : String) := host == "127.0.0.1" || eqIgnoreAsciiCase host "localhost" || host == "::1"
  eqIgnoreAsciiCase first second || (loopback first && loopback second)

def replicaMatches (feed : ReplicaFeed) (host : String) (port : Nat) : Bool :=
  feed.port == some port &&
    match feed.host with
    | none => true
    | some announced => announced == "?" || hostsEqual announced host

variable (host : Option String)

variable (port : Option Nat)

def probeMatches (feed : ReplicaFeed) : Bool :=
  match host, port, feed.host, feed.port with
  | none, none, _, _ => true
  | some host, some port, _, _ => replicaMatches feed host port
  | none, some port, _, some announced => port == announced
  | some host, none, some announced, _ => hostsEqual host announced
  | _, _, _, _ => feed.port.isNone && feed.host.isNone

def getackArgs : List Bytes := [ascii "REPLCONF", ascii "GETACK", ascii "*"]

def sendGetackProbeToFeeds : ReplicationManager :=
  { manager with
    channels := fun channel =>
      if (manager.replicas.any fun feed => feed.channel == channel && probeMatches host port feed) &&
          (manager.channels channel).accepts then
        (manager.channels channel).send (commandValue getackArgs).serialize
      else manager.channels channel }

def registerReplicaAnnounced : ReplicationManager :=
  { manager with
    replicas := manager.replicas ++ [⟨manager.nextChannel, host, port⟩]
    connectedReplicas := manager.connectedReplicas + 1
    channels := fun channel => if channel = manager.nextChannel then .open_ else manager.channels channel
    nextChannel := manager.nextChannel + 1 }

def partialHistory (replidReq : Bytes) (offset : Int) : Option Bytes :=
  if replidReq = ascii "?" ∨ offset < 0 ∨ replidReq ≠ manager.replid.text then none
  else if manager.backlog.canPartial offset.toNat then manager.backlog.getFrom offset.toNat
  else none

def fullresyncHeader : Bytes :=
  ascii "FULLRESYNC " ++ manager.replid.text ++ ascii " " ++ decimal manager.masterReplOffset

/-- The raw response to `PSYNC`; `rdb` is the snapshot that a full resync would send. -/
def psyncResponse (replidReq : Bytes) (offset : Int) (rdb : Bytes) : Bytes :=
  match manager.partialHistory replidReq offset with
  | some history => ascii "+CONTINUE" ++ crlf ++ history
  | none => ascii "+" ++ manager.fullresyncHeader ++ crlf ++ RespValue.bulk rdb

end ReplicationManager
end Kore.Persistence
