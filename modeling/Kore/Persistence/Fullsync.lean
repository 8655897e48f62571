import Kore.Foundation.Gate
import Kore.Foundation.Runs

/-! Writes and full resyncs that run at the same time. A write changes the keyspace, tests a
few times whether anybody needs the stream, and is then published behind the gate that full
resyncs close; a resync takes its snapshot and registers its feed while it has the gate to
itself. Every load and store of a shared variable is a step of its own. -/

namespace Kore.Persistence
open Foundation Function

/-- A write: `testing n` is before a test that `n` more tests follow. -/
inductive WriteStage where
  | idle
  | testing (more : Nat)
  | publishing
  | appended (fanout : Bool)
  | published
  | skipped
  deriving DecidableEq

inductive SyncStage where
  | idle
  | begun
  | scanning
  | scanned
  | pushed
  | registered
  | aborted
  | attached
  | failed
  deriving DecidableEq

/-- Writes and resyncs are told apart by names. The snapshot of a resync is given by the writes that are in it. -/
structure Fullsync (W R : Type) where
  gate : Gate W R
  streamHistory : Bool
  connectedReplicas : Nat
  replicas : List R
  write : W → WriteStage
  sync : R → SyncStage
  snapshot : R → W → Bool
  feed : R → List W

/-- `seen` tells which snapshots that are being taken will contain the write, `refused` which channels are full or closed. -/
inductive FullsyncEvent (W R : Type) where
  | apply (write : W) (seen : R → Bool)
  | test (write : W)
  | approach (write : W)
  | announce (write : W)
  | recheck (write : W)
  | retreat (write : W)
  | append (write : W)
  | fanout (write : W) (refused : R → Bool)
  | exit (write : W)
  | raise (sync : R)
  | drain (sync : R)
  | scan (sync : R)
  | scanned (sync : R) (saved : Bool)
  | push (sync : R)
  | count (sync : R)
  | lower (sync : R)

namespace Fullsync
variable {W R : Type} [DecidableEq W] [DecidableEq R]

def start : Fullsync W R where
  gate := Gate.opened
  streamHistory := false
  connectedReplicas := 0
  replicas := []
  write := fun _ => .idle
  sync := fun _ => .idle
  snapshot := fun _ _ => false
  feed := fun _ => []

variable (state : Fullsync W R)

def needsStreamPublish : Bool := decide (0 < state.connectedReplicas) || state.streamHistory

/-- The tests before a write is published: in the command handler (without AOF), `on_write_command`,
`propagate_write` and `propagate_write_encoded`. -/
def publishTests (appendonly : Bool) : Nat := if appendonly then 3 else 4

def setWrite (write : W) (stage : WriteStage) : Fullsync W R :=
  { state with write := update state.write write stage }

def setSync (sync : R) (stage : SyncStage) : Fullsync W R :=
  { state with sync := update state.sync sync stage }

def moveGate (move : GateMove W R) : Fullsync W R := { state with gate := state.gate.move move }

/-- A snapshot is taken key by key, so that a write made meanwhile may be in it or not. -/
def applyWrite (tests : Nat) (write : W) (seen : R → Bool) : Fullsync W R :=
  { state.setWrite write (.testing (tests - 1)) with
    snapshot := fun sync => if state.sync sync = .scanning then update (state.snapshot sync) write (seen sync) else state.snapshot sync }

def testWrite (write : W) (more : Nat) : Fullsync W R :=
  if !state.needsStreamPublish then state.setWrite write .skipped
  else match more with
    | 0 => (state.setWrite write .publishing).moveGate (.arrive write)
    | more + 1 => state.setWrite write (.testing more)

def fanoutToReplicas (write : W) (refused : R → Bool) : Fullsync W R :=
  if state.connectedReplicas = 0 then state
  else
    let kept := state.replicas.filter fun sync => !refused sync
    { state with
      replicas := kept
      connectedReplicas := kept.length
      feed := fun sync => if sync ∈ kept then state.feed sync ++ [write] else state.feed sync }

/-- An event that is not due changes nothing. -/
def step (tests : Nat) (state : Fullsync W R) : FullsyncEvent W R → Fullsync W R
  | .apply write seen => if state.write write = .idle then state.applyWrite tests write seen else state
  | .test write =>
    match state.write write with
    | .testing more => state.testWrite write more
    | _ => state
  | .approach write => state.moveGate (.approach write)
  | .announce write => state.moveGate (.announce write)
  | .recheck write => state.moveGate (.recheck write)
  | .retreat write => state.moveGate (.retreat write)
  | .append write =>
    if state.write write = .publishing ∧ state.gate.entry write = .inside then
      { state.setWrite write (.appended (decide (state.connectedReplicas ≠ 0))) with streamHistory := true }
    else state
  | .fanout write refused =>
    match state.write write with
    | .appended true => (state.fanoutToReplicas write refused).setWrite write .published
    | .appended false => state.setWrite write .published
    | _ => state
  | .exit write => if state.write write = .published then state.moveGate (.leave write) else state
  | .raise sync => if state.sync sync = .idle then (state.setSync sync .begun).moveGate (.raise sync) else state
  | .drain sync => state.moveGate (.drain sync)
  | .scan sync =>
    if state.sync sync = .begun ∧ state.gate.hold sync = .alone then
      { state.setSync sync .scanning with snapshot := update state.snapshot sync fun write => decide (state.write write ≠ .idle) }
    else state
  | .scanned sync saved => if state.sync sync = .scanning then state.setSync sync (if saved then .scanned else .aborted) else state
  | .push sync => if state.sync sync = .scanned then { state.setSync sync .pushed with replicas := state.replicas ++ [sync] } else state
  | .count sync =>
    if state.sync sync = .pushed then { state.setSync sync .registered with connectedReplicas := state.connectedReplicas + 1 } else state
  | .lower sync =>
    match state.sync sync with
    | .registered => (state.setSync sync .attached).moveGate (.lower sync)
    | .aborted => (state.setSync sync .failed).moveGate (.lower sync)
    | _ => state

end Fullsync
end Kore.Persistence
