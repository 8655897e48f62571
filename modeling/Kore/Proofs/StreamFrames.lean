import Kore.Proofs.RespFraming
import Kore.Persistence.ReplicaLink

/-! What a replica link does with a stream of encoded commands, whatever the places
at which the stream is cut into reads. -/

namespace Kore.Proofs.StreamFrames
open Foundation Protocol Commands Persistence ReplicaLink RespFraming List

def encodeAll (commands : List Argv) : Bytes := (commands.map fun argv => encodeCommand argv.args).flatten

@[simp] theorem encodeAll_nil : encodeAll [] = [] := rfl

@[simp] theorem encodeAll_cons (argv : Argv) (commands : List Argv) :
    encodeAll (argv :: commands) = encodeCommand argv.args ++ encodeAll commands := rfl

@[simp] theorem encodeAll_append (front back : List Argv) : encodeAll (front ++ back) = encodeAll front ++ encodeAll back := by
  simp [encodeAll]

/-- The bytes of one history are the beginning of another's just when it is the beginning of the
other: a log or a stream cut between commands can be read back in one way only. -/
theorem encodeAll_prefix_iff (commands others : List Argv) : encodeAll commands <+: encodeAll others ↔ commands <+: others := by
  induction commands generalizing others with
  | nil => exact iff_of_true nil_prefix nil_prefix
  | cons argv commands ih =>
    cases others with
    | nil => simp [encodeCommand_ne_nil]
    | cons other others =>
      rw [encodeAll_cons, encodeAll_cons, cons_prefix_cons, ← ih]
      constructor
      · intro ⟨rest, whole⟩
        rw [append_assoc] at whole
        have read := parseValue_encodeCommand argv 0 (encodeAll commands ++ rest)
        rw [whole, parseValue_encodeCommand, Except.ok.injEq, Prod.mk.injEq] at read
        exact ⟨Argv.ext (by simpa [commandValue, map_inj_right] using read.1.symm), rest, read.2.symm⟩
      · rintro ⟨rfl, later⟩
        exact (prefix_append_right_inj _).mpr later

def getackArgv : Argv where
  args := ReplicationManager.getackArgs
  nonempty := cons_ne_nil _ _
  short := by decide
  small := by decide

/-- A command that the link applies, neither a probe nor a redirection. -/
def Streamed (argv : Argv) : Prop :=
  upper (argv.args.headD []) ∉ [ascii "REPLCONF", ascii "REPLICAOF", ascii "SLAVEOF"]

theorem logged_streamed (command : LoggedCommand) : Streamed command.argv := by
  intro reserved
  exact command.id.name_not_reserved (mem_cons_of_mem _ reserved)

theorem decimalDigits_length {fuel value digits : Nat} (small : value < 10 ^ digits) :
    (decimalDigits fuel value).length ≤ digits := by
  induction fuel generalizing value digits with
  | zero => exact Nat.zero_le _
  | succ fuel ih =>
    unfold decimalDigits
    split
    · exact Nat.zero_le _
    next positive =>
      cases digits with
      | zero =>
        omega
      | succ digits =>
        have shorter : (decimalDigits fuel (value / 10)).length ≤ digits := ih (by rw [Nat.pow_succ] at small; omega)
        rw [length_append]
        exact Nat.succ_le_succ shorter

theorem decimal_length {value : Nat} (small : value ≤ u64Max) : (decimal value).length ≤ 20 := by
  unfold decimal
  split
  · decide
  · apply decimalDigits_length
    unfold u64Max at small
    omega

def selectArgv (db : UInt64) : Argv where
  args := [ascii "SELECT", decimal db.toNat]
  nonempty := cons_ne_nil _ _
  short := by simp [maxArrayLength]
  small := by
    intro arg member
    simp only [mem_cons, not_mem_nil, or_false] at member
    rcases member with rfl | rfl
    · decide
    · have bounded : db.toNat ≤ u64Max := Nat.le_sub_one_of_lt db.toNat_lt
      exact (decimal_length bounded).trans (by decide)

theorem selectDb_served {databases : Nat} {db : UInt64} (served : db.toNat < databases) (currentDb : Nat) :
    selectDb databases currentDb (selectArgv db).args = db.toNat := by
  have bounded : db.toNat ≤ u64Max := by
    have := db.toNat_lt
    unfold u64Max
    omega
  simp [selectDb, selectArgv, unsignedOfText_decimal bounded, served]

theorem select_streamed (db : UInt64) : Streamed (selectArgv db) := by
  change upper (ascii "SELECT") ∉ [ascii "REPLCONF", ascii "REPLICAOF", ascii "SLAVEOF"]
  decide

def payloads (frames : List Argv) : List Argv := frames.filter fun argv => argv.args ≠ ReplicationManager.getackArgs

theorem payloads_append (front back : List Argv) : payloads (front ++ back) = payloads front ++ payloads back :=
  filter_append ..

variable {frames : List Argv}

theorem payloads_streamed (streamed : ∀ argv ∈ frames, Streamed argv) : payloads frames = frames := by
  apply filter_eq_self.mpr
  intro argv member
  apply decide_eq_true
  intro probe
  apply streamed argv member
  rw [probe]
  decide

theorem bulkArgs_command (args : List Bytes) : bulkArgs (commandValue args) = args.map some := by
  simp [bulkArgs, commandValue, RespValue.asBulkString, Function.comp_def]

variable {argv : Argv}

theorem isReplconfGetack_streamed (streamed : Streamed argv) : isReplconfGetack (commandValue argv.args) = false := by
  simp only [isReplconfGetack, bulkArgs_command]
  unfold Streamed at streamed
  generalize argv.args = args at streamed ⊢
  rcases args with _ | ⟨command, _ | ⟨sub, rest⟩⟩
  · rfl
  · rfl
  · simp only [headD_cons, mem_cons, not_or] at streamed
    simp [streamed.1]

theorem parseReplicaof_streamed (streamed : Streamed argv) : parseReplicaofCommand (commandValue argv.args) = none := by
  simp only [parseReplicaofCommand, bulkArgs_command]
  unfold Streamed at streamed
  generalize argv.args = args at streamed ⊢
  rcases args with _ | ⟨command, _ | ⟨host, _ | ⟨port, rest⟩⟩⟩
  · rfl
  · rfl
  · rfl
  · simp only [headD_cons, mem_cons, not_mem_nil, not_or, or_false] at streamed
    simp [streamed.2.1, streamed.2.2]

section link
variable {δ : Type} {databases : Nat} {run : δ → Nat → List Bytes → Option δ} {load : Bytes → Option δ}

theorem mapM_argumentBytes (args : List Bytes) :
    (args.map fun arg => RespValue.bulkString (some arg)).mapM argumentBytes = some args := by
  induction args with
  | nil => rfl
  | cons arg args ih => simp [mapM_cons, argumentBytes, ih]

theorem applyReplicatedCommand_command (argv : Argv) (dataset : δ) (currentDb : Nat) :
    applyReplicatedCommand databases run dataset currentDb (commandValue argv.args) =
      applyArgv databases run dataset currentDb argv.args := by
  have nonempty := argv.nonempty
  simp only [applyReplicatedCommand, commandValue, mapM_argumentBytes]

theorem accept_probe (replica : Replica δ) (link : ReplicaLink) (streaming : link.phase = .streaming) (frame : Bytes) :
    accept databases run load replica link (commandValue getackArgv.args) frame =
      ({ replica with replicaOffset := wrapAdd replica.replicaOffset frame.length }, some link,
        some (.acknowledged frame (wrapAdd replica.replicaOffset frame.length))) := by
  have probe : isReplconfGetack (commandValue getackArgv.args) = true := by decide
  simp only [accept, streaming, acceptCommand, probe, if_true]

theorem accept_streamed (replica : Replica δ) (link : ReplicaLink) (streaming : link.phase = .streaming)
    (streamed : Streamed argv) (frame : Bytes) :
    accept databases run load replica link (commandValue argv.args) frame =
      match applyArgv databases run replica.dataset link.currentDb argv.args with
      | some state =>
        ({ replica with replicaOffset := wrapAdd replica.replicaOffset frame.length, dataset := state.1 },
          some { link with currentDb := state.2 }, some (.applied frame))
      | none => (replica, none, none) := by
  simp only [accept, streaming, acceptCommand, isReplconfGetack_streamed streamed, Bool.false_eq_true, if_false,
    parseReplicaof_streamed streamed, applyReplicatedCommand_command]
  cases applyArgv databases run replica.dataset link.currentDb argv.args <;> rfl

/-- The frames that one drain of the buffer applied. -/
structure Drained (replica : Replica δ) (future : Bytes) (frames finished left : List Argv)
    (after : Replica δ × Option ReplicaLink × List Handled) : Prop where
  split : frames = finished ++ left
  streamed : ∀ argv ∈ finished, Streamed argv
  handled : after.2.2 = finished.map fun argv => .applied (encodeCommand argv.args)
  offset : after.1.replicaOffset = (replica.replicaOffset + (encodeAll finished).length) % 2 ^ 64
  replid : after.1.cachedMasterReplid = replica.cachedMasterReplid
  linked : ∀ next, after.2.1 = some next → next.phase = .streaming ∧ next.buffer ++ future = encodeAll left

private theorem drained_nothing {replica : Replica δ} {link : ReplicaLink} {future : Bytes}
    (streaming : link.phase = .streaming) (small : replica.replicaOffset < 2 ^ 64)
    (stream : link.buffer ++ future = encodeAll frames) : Drained replica future frames [] frames (replica, some link, []) where
  split := rfl
  streamed := by
    intro argv member
    cases member
  handled := rfl
  offset := (Nat.mod_eq_of_lt small).symm
  replid := rfl
  linked := by
    intro next same
    cases same
    exact ⟨streaming, stream⟩

private theorem offset_add (offset front back : Nat) :
    (wrapAdd offset front + back) % 2 ^ 64 = (offset + (front + back)) % 2 ^ 64 := by
  rw [wrapAdd, Nat.mod_add_mod, add_assoc]

/-- Draining a buffer at the front of a framed stream applies whole commands in stream
order and stops inside the next frame, unless a command fails. -/
theorem drain_streaming {rounds : Nat} {replica : Replica δ} {link : ReplicaLink} {future : Bytes} {frames : List Argv}
    (streaming : link.phase = .streaming) (small : replica.replicaOffset < 2 ^ 64)
    (known : ∀ argv ∈ frames, Streamed argv ∨ argv = getackArgv)
    (stream : link.buffer ++ future = encodeAll frames) (enough : link.buffer.length ≤ rounds)
    (unprobed : ∀ frame offset, .acknowledged frame offset ∉ (drain databases run load rounds replica link).2.2) :
    ∃ finished left, Drained replica future frames finished left (drain databases run load rounds replica link) := by
  induction rounds generalizing replica link frames with
  | zero => exact ⟨[], frames, drained_nothing streaming small stream⟩
  | succ rounds ih =>
    cases frames with
    | nil =>
      have empty : link.buffer = [] := (append_eq_nil_iff.mp stream).1
      refine ⟨[], [], ?_⟩
      simp only [drain, empty, parse_nil]
      exact drained_nothing streaming small stream
    | cons argv frames =>
      rcases parse_buffered argv stream with ⟨rest, holds, later, parsed⟩ | ⟨-, -, -, -, parsed⟩
      · have frame : link.buffer.take (encodeCommand argv.args).length = encodeCommand argv.args := by
          rw [holds, take_left]
        simp only [drain, parsed, frame] at unprobed ⊢
        rcases known argv mem_cons_self with streamed | rfl
        · rw [accept_streamed replica { link with buffer := rest } streaming streamed] at unprobed ⊢
          cases applied : applyArgv databases run replica.dataset link.currentDb argv.args with
          | none =>
            exact ⟨[], argv :: frames, rfl, by simp, rfl, (Nat.mod_eq_of_lt small).symm, rfl, by simp⟩
          | some state =>
            simp only [applied, Option.toList_some, singleton_append, mem_cons] at unprobed ⊢
            have shorter : rest.length ≤ rounds := by
              have positive := length_pos_of_ne_nil (encodeCommand_ne_nil argv.args)
              rw [holds, length_append] at enough
              omega
            obtain ⟨finished, left, drained⟩ := @ih { replica with
                replicaOffset := wrapAdd replica.replicaOffset (encodeCommand argv.args).length, dataset := state.1 }
              { link with buffer := rest, currentDb := state.2 } frames streaming (Nat.mod_lt _ (by decide))
              (fun other member => known other (mem_cons_of_mem _ member))
              later shorter (fun frame offset member => unprobed frame offset (.inr member))
            refine ⟨argv :: finished, left, ?_⟩
            constructor
            · rw [drained.split, cons_append]
            · exact forall_mem_cons.mpr ⟨streamed, drained.streamed⟩
            · rw [drained.handled, map_cons]
            · rw [drained.offset, offset_add, encodeAll_cons, length_append]
            · exact drained.replid
            · exact drained.linked
        · rw [accept_probe replica { link with buffer := rest } streaming] at unprobed
          exact (unprobed _ _ (mem_append_left _ mem_cons_self)).elim
      · refine ⟨[], argv :: frames, ?_⟩
        simp only [drain, parsed]
        exact drained_nothing streaming small stream

end link
end Kore.Proofs.StreamFrames
