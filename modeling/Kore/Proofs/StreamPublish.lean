import Kore.Foundation.CursorLog
import Kore.Proofs.BacklogWindow
import Kore.Proofs.StreamFrames

/-! What publishing a write does to the primary: the commands it adds to the stream,
and the feeds that receive them. -/

namespace Kore.Proofs.StreamPublish
open Foundation Protocol Commands Persistence BacklogWindow RespFraming StreamFrames ReplicationManager List ReplBacklog

/-- The commands that a write adds to a stream on which `selectedDb` was selected last. -/
def published (selectedDb : Option Nat) (db : UInt64) (command : LoggedCommand) : List Argv :=
  if emitsSelect selectedDb db.toNat then [selectArgv db, command.argv] else [command.argv]

theorem emitsSelect_eq (remembered : Option UInt64) (db : UInt64) :
    emitsSelect (remembered.map UInt64.toNat) db.toNat = CursorLog.needsSelect remembered 0 db := by
  rw [Bool.eq_iff_iff]
  cases remembered <;> simp [emitsSelect, CursorLog.needsSelect, ← UInt64.toNat_inj]

theorem published_streamed {selectedDb : Option Nat} {db : UInt64} {command : LoggedCommand} {argv : Argv}
    (member : argv ∈ published selectedDb db command) : Streamed argv := by
  unfold published at member
  split at member
  · rcases mem_cons.mp member with rfl | later
    · exact select_streamed db
    · rw [mem_singleton.mp later]
      exact logged_streamed command
  · rw [mem_singleton.mp member]
    exact logged_streamed command

section
variable (manager : ReplicationManager)
include manager

theorem payload_eq (db : UInt64) (command : LoggedCommand) :
    manager.payload db.toNat (encodeCommand command.argv.args) =
      encodeAll (published manager.backlog.selectedDb db command) := by
  unfold payload published
  split <;> simp [encodeSelectDb, selectArgv]

def Registered (manager : ReplicationManager) (channel : Nat) : Prop :=
  ∃ feed ∈ manager.replicas, feed.channel = channel

/-- The primary after it published `payload`: every feed either received it or was dropped. -/
structure Published (manager after : ReplicationManager) (db : Nat) (payload : Bytes) : Prop where
  replid : after.replid = manager.replid
  backlog : after.backlog = { manager.backlog with selectedDb := some db }.append payload
  offset : after.masterReplOffset = after.backlog.endOffset
  history : after.streamHistory = true
  counted : after.connectedReplicas = after.replicas.length
  kept : ∀ feed ∈ after.replicas, feed ∈ manager.replicas
  nextChannel : after.nextChannel = manager.nextChannel
  channels : ∀ channel,
    Registered after channel ∧ after.channels channel = (manager.channels channel).send payload ∨
      ¬ Registered after channel ∧ after.channels channel = manager.channels channel

private theorem fanout_channels (payload : Bytes) (channel : Nat) :
    Registered (manager.fanoutToReplicas payload) channel ∧
        (manager.fanoutToReplicas payload).channels channel = (manager.channels channel).send payload ∨
      ¬ Registered (manager.fanoutToReplicas payload) channel ∧
        (manager.fanoutToReplicas payload).channels channel = manager.channels channel := by
  have found : ((manager.fanoutToReplicas payload).replicas.any (·.channel == channel) = true) ↔
      Registered (manager.fanoutToReplicas payload) channel := by
    simp [Registered, any_eq_true]
  by_cases registered : Registered (manager.fanoutToReplicas payload) channel
  · exact .inl ⟨registered, if_pos (found.mpr registered)⟩
  · exact .inr ⟨registered, if_neg (mt found.mp registered)⟩

theorem propagateWrite_published (db : UInt64) (command : LoggedCommand)
    (armed : manager.needsStreamPublish = true) (counted : manager.connectedReplicas = manager.replicas.length) :
    Published manager (manager.propagateWrite db.toNat command.argv.args) db.toNat
      (encodeAll (published manager.backlog.selectedDb db command)) := by
  have step : manager.propagateWrite db.toNat command.argv.args =
      let payload := encodeAll (published manager.backlog.selectedDb db command)
      let backlog := { manager.backlog with selectedDb := some db.toNat }.append payload
      let published := { manager with backlog := backlog, streamHistory := true, masterReplOffset := backlog.endOffset }
      if published.connectedReplicas = 0 then published else published.fanoutToReplicas payload := by
    rw [propagateWrite, if_pos armed, propagateWriteEncoded,
      if_neg (by simp [encodeCommand_ne_nil, armed]), payload_eq]
  rw [step]
  simp only
  split
  next alone =>
    have empty : manager.replicas = [] := eq_nil_of_length_eq_zero (counted ▸ alone)
    refine ⟨rfl, rfl, rfl, rfl, counted, fun _ member => member, rfl, fun channel => .inr ⟨?_, rfl⟩⟩
    rintro ⟨feed, member, -⟩
    rw [empty] at member
    cases member
  next connected =>
    refine ⟨rfl, rfl, rfl, rfl, rfl, fun feed member => (mem_filter.mp member).1, rfl, ?_⟩
    exact fanout_channels _ _

theorem propagateWrite_cold (db : Nat) (argv : List Bytes)
    (cold : manager.needsStreamPublish = false) : manager.propagateWrite db argv = manager := by
  rw [propagateWrite, if_neg (by rw [cold]; exact Bool.false_ne_true)]

end

def zeroReplid : ReplId := ⟨replicate 40 48, all_iff_forall_prop.mp rfl, rfl⟩

def setCommand (key value : String) (short : key.utf8ByteSize ≤ 9 ∧ value.utf8ByteSize ≤ 9) : LoggedCommand where
  id := .set
  args := [ascii key, ascii value]
  short := by simp [maxArrayLength]
  small := by
    intro arg member
    simp only [mem_cons, not_mem_nil, or_false] at member
    rcases member with rfl | rfl
    exacts [short.1.trans (by decide), short.2.trans (by decide)]

end Kore.Proofs.StreamPublish
