import Kore.Proofs.StreamFrames

/-! The handshake of a replica link: the reply line to `PSYNC`, and the snapshot that
follows the line of a full resync. -/

namespace Kore.Proofs.ReplicaHandshake
open Foundation Protocol Persistence ReplicaLink RespFraming List

variable {δ : Type} {databases : Nat} {apply : δ → Nat → List Bytes → Option δ} {load : Bytes → Option δ}
  (replid : ReplId) (offset : Nat)

def resyncLine : Bytes :=
  ascii "FULLRESYNC " ++ replid.text ++ ascii " " ++ decimal offset

theorem resyncLine_header : ascii "FULLRESYNC " <+: resyncLine replid offset := by
  simp only [resyncLine, append_assoc]
  exact prefix_append _ _

theorem drain_waits {rounds : Nat} {replica : Replica δ} {link : ReplicaLink}
    (waits : parseWithConsumed link.buffer = .incomplete) :
    drain databases apply load rounds replica link = (replica, some link, []) := by
  cases rounds with
  | zero => rfl
  | succ rounds => simp [drain, waits]

variable (replica : Replica δ)

variable (link : ReplicaLink)

theorem drain_value {rounds : Nat} {after : Replica δ} {next : ReplicaLink} {value : RespValue} {code rest : Bytes} {handled : Option Handled}
    (holds : link.buffer = code ++ rest) (nonempty : code ≠ [])
    (parsed : parseWithConsumed link.buffer = .value value code.length rest) (enough : link.buffer.length ≤ rounds)
    (accepted : accept databases apply load replica { link with buffer := rest } value code = (after, some next, handled)) :
    ∃ fewer, rest.length ≤ fewer ∧ drain databases apply load rounds replica link =
      ((drain databases apply load fewer after next).1, (drain databases apply load fewer after next).2.1,
        handled.toList ++ (drain databases apply load fewer after next).2.2) := by
  have positive := length_pos_of_ne_nil nonempty
  rw [holds, length_append] at enough
  obtain ⟨fewer, rfl⟩ : ∃ fewer, rounds = fewer + 1 := ⟨rounds - 1, by omega⟩
  refine ⟨fewer, by omega, ?_⟩
  have frame : link.buffer.take code.length = code := by rw [holds, take_left]
  simp [drain, parsed, frame, accepted]

theorem accept_continue (phase : link.phase = .awaitReply) (code : Bytes) :
    accept databases apply load replica link (.simpleString (ascii "CONTINUE")) code =
      (replica, some { link with phase := .streaming }, none) := by
  have other : ¬ ascii "FULLRESYNC " <+: ascii "CONTINUE" := by decide
  simp [accept, phase, acceptReply, other, prefix_rfl]

private theorem space_of_large {byte : UInt8} (large : 48 ≤ byte) : isSpace byte = false := by
  have apart : byte ≠ 32 := by
    rintro rfl
    exact absurd large (by decide)
  have above : ¬ byte ≤ 13 := fun below => absurd (UInt8.le_trans large below) (by decide)
  simp [isSpace, apart, above]

private theorem replid_large {byte : UInt8} (member : byte ∈ replid.text) : 48 ≤ byte := by
  rcases replid.digits byte member with ⟨digit, -⟩ | ⟨letter, -⟩
  · exact digit
  · exact UInt8.le_trans (by decide) letter

private theorem splitWhitespace_resync :
    splitWhitespace (resyncLine replid offset) = [ascii "FULLRESYNC", replid.text, decimal offset] := by
  have shape : resyncLine replid offset =
      ascii "FULLRESYNC" ++ 32 :: (replid.text ++ 32 :: decimal offset) := by
    have word : ascii "FULLRESYNC " = ascii "FULLRESYNC" ++ [32] := rfl
    have blank : ascii " " = [32] := rfl
    simp [resyncLine, word, blank]
  have written : replid.text ≠ [] := by
    intro empty
    have := replid.length
    rw [empty] at this
    cases this
  have number : decimal offset ≠ [] := by
    intro empty
    have read := natOfDigits_decimal offset
    rw [empty] at read
    cases read
  rw [splitWhitespace, shape, splitOnP_append_cons_of_forall_mem (all_iff_forall_prop.mp rfl) _ rfl,
    splitOnP_append_cons_of_forall_mem (fun byte member => space_of_large (replid_large _ member)) _ rfl,
    splitOnP_eq_singleton (fun byte member => space_of_large (decimal_digit member))]
  have word : ascii "FULLRESYNC" ≠ [] := by decide
  simp [written, number, word]

theorem resyncLine_plain : ∀ byte ∈ resyncLine replid offset, byte ≠ 13 := by
  rintro byte member rfl
  simp only [resyncLine, mem_append] at member
  rcases member with ((head | name) | space) | number
  · exact absurd head (by decide)
  · exact absurd (replid_large _ name) (by decide)
  · exact absurd space (by decide)
  · exact absurd (decimal_digit number) (by decide)

theorem accept_resync (phase : link.phase = .awaitReply) (replid : ReplId) {offset : Nat} (small : offset ≤ u64Max) (code : Bytes) :
    accept databases apply load replica link (.simpleString (resyncLine replid offset)) code =
      ({ replica with cachedMasterReplid := replid.text, replicaOffset := offset },
        some { link with phase := .awaitRdb }, none) := by
  simp [accept, phase, acceptReply, resyncLine_header, splitWhitespace_resync, unsignedOfText_decimal small]

theorem accept_rdb (phase : link.phase = .awaitRdb) {rdb : Bytes} {dataset : δ} (loaded : load rdb = some dataset) (code : Bytes) :
    accept databases apply load replica link (.bulkString (some rdb)) code =
      ({ replica with dataset := dataset }, some { link with phase := .streaming, currentDb := 0 }, some .installed) := by
  simp [accept, phase, acceptReply.acceptRdb, loaded]

end Kore.Proofs.ReplicaHandshake
