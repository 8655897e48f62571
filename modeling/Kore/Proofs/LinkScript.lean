import Kore.Proofs.ReplicaHandshake

/-! A link that reads a script of frames does the same with it however the script is cut
into reads: it handles the frames one after the other. -/

namespace Kore.Proofs.LinkScript
open Foundation Protocol Persistence ReplicaLink ReplicaHandshake RespFraming List

/-- A code word of the wire protocol with the value it decodes to. -/
structure Frame where
  code : Bytes
  value : RespValue
  nonempty : code ≠ []
  decodes : ∀ depth more, parseValue (depth + 2) (code ++ more) = .ok (value, more)

namespace Frame

def command (argv : Argv) : Frame where
  code := encodeCommand argv.args
  value := commandValue argv.args
  nonempty := encodeCommand_ne_nil _
  decodes := parseValue_encodeCommand argv

def line (text : Bytes) (plain : ∀ byte ∈ text, byte ≠ 13) : Frame where
  code := simpleLine text
  value := .simpleString text
  nonempty := cons_ne_nil _ _
  decodes := parseValue_simpleLine plain

def bulk (data : Bytes) (small : data.length ≤ maxBulkLength) : Frame where
  code := RespValue.bulk data
  value := .bulkString (some data)
  nonempty := cons_ne_nil _ _
  decodes depth := parseValue_bulk small (depth + 1)

end Frame

def codes (script : List Frame) : Bytes := (script.map Frame.code).flatten

theorem codes_append (front back : List Frame) : codes (front ++ back) = codes front ++ codes back := by
  simp [codes]

variable {script : List Frame}

theorem codes_eq_nil (empty : codes script = []) : script = [] := by
  cases script with
  | nil => rfl
  | cons frame script => exact (frame.nonempty (append_eq_nil_iff.mp empty).1).elim

section link
variable {δ : Type} (databases : Nat) (run : δ → Nat → List Bytes → Option δ) (load : Bytes → Option δ)

/-- The dataset after the link handled `script`, as long as nothing ends the link. -/
def settle : Replica δ → ReplicaLink → List Frame → Option δ
  | replica, _, [] => some replica.dataset
  | replica, link, frame :: script =>
    match accept databases run load replica link frame.value frame.code with
    | (after, some next, _) => settle after next script
    | (_, none, _) => none

def feedAll : Replica δ → Option ReplicaLink → List Bytes → Replica δ × Option ReplicaLink
  | replica, link, [] => (replica, link)
  | replica, none, _ :: _ => (replica, none)
  | replica, some link, chunk :: chunks =>
    let after := feed databases run load replica link chunk
    feedAll after.1 after.2.1 chunks

variable {databases run load}

variable {replica : Replica δ} {link : ReplicaLink} {buffer : Bytes}

private theorem acceptRdb_buffer (data : Bytes) : acceptReply.acceptRdb load replica { link with buffer := buffer } data =
      ((acceptReply.acceptRdb load replica link data).1,
        (acceptReply.acceptRdb load replica link data).2.1.map fun next => { next with buffer := buffer },
        (acceptReply.acceptRdb load replica link data).2.2) := by
  unfold acceptReply.acceptRdb
  cases load data <;> rfl

private theorem accept_buffer (value : RespValue) (frame : Bytes) :
    accept databases run load replica { link with buffer := buffer } value frame =
      ((accept databases run load replica link value frame).1,
        (accept databases run load replica link value frame).2.1.map fun next => { next with buffer := buffer },
        (accept databases run load replica link value frame).2.2) := by
  obtain ⟨phase, buffered, currentDb⟩ := link
  unfold accept
  cases phase with
  | awaitReply =>
    simp only [acceptReply]
    split
    · split
      · rfl
      · split <;> rfl
    · exact acceptRdb_buffer _
    · rfl
  | awaitRdb =>
    simp only
    split
    · exact acceptRdb_buffer _
    · rfl
  | streaming =>
    simp only [acceptCommand]
    split
    · rfl
    · split
      · rfl
      · rfl
      · split <;> rfl

private theorem settle_buffer (replica : Replica δ) (link : ReplicaLink) (buffer : Bytes) (script : List Frame) :
    settle databases run load replica { link with buffer := buffer } script = settle databases run load replica link script := by
  induction script generalizing replica link with
  | nil => rfl
  | cons frame script ih =>
    unfold settle
    rw [accept_buffer]
    rcases accept databases run load replica link frame.value frame.code with ⟨after, _ | next, handled⟩
    · rfl
    · exact ih after next

variable {goal : δ}

/-- Draining a buffer at the front of a script handles whole frames, and all of them when
nothing is outstanding. -/
private theorem drain_script {rounds : Nat} {replica : Replica δ} (link : ReplicaLink) {future : Bytes}
    (stream : link.buffer ++ future = codes script) (enough : link.buffer.length ≤ rounds)
    (settles : settle databases run load replica link script = some goal) :
    ∃ next left, (drain databases run load rounds replica link).2.1 = some next ∧ next.buffer ++ future = codes left ∧
      settle databases run load (drain databases run load rounds replica link).1 next left = some goal ∧
      (future = [] → left = []) := by
  induction rounds generalizing replica link script with
  | zero =>
    have empty : link.buffer = [] := eq_nil_of_length_eq_zero (Nat.le_zero.mp enough)
    refine ⟨link, script, rfl, stream, settles, fun finished => codes_eq_nil ?_⟩
    rw [← stream, empty, finished]
    rfl
  | succ rounds ih =>
    cases script with
    | nil =>
      have empty : link.buffer = [] := (append_eq_nil_iff.mp stream).1
      simp only [drain, empty, parse_nil]
      exact ⟨link, [], rfl, stream, settles, fun _ => rfl⟩
    | cons frame script =>
      rcases parse_code frame.decodes stream with ⟨rest, holds, later, parsed⟩ | ⟨back, -, remains, outstanding, parsed⟩
      · have taken : link.buffer.take frame.code.length = frame.code := by rw [holds, take_left]
        have shorter : rest.length ≤ rounds := by
          have positive := length_pos_of_ne_nil frame.nonempty
          rw [holds, length_append] at enough
          omega
        simp only [settle] at settles
        simp only [drain, parsed, taken]
        rw [accept_buffer]
        rcases accepted : accept databases run load replica link frame.value frame.code with ⟨after, _ | next, handled⟩
        · simp only [accepted] at settles
          cases settles
        · simp only [accepted] at settles
          exact ih { next with buffer := rest } later shorter ((settle_buffer after next rest script).trans settles)
      · simp only [drain, parsed]
        refine ⟨link, frame :: script, rfl, stream, settles, fun finished => ?_⟩
        exact (remains (append_eq_nil_iff.mp (outstanding.symm.trans finished)).1).elim

variable {chunks : List Bytes}

private theorem feedAll_from {replica : Replica δ} (link : ReplicaLink)
    (stream : link.buffer ++ chunks.flatten = codes script) (started : chunks = [] → script = [])
    (settles : settle databases run load replica link script = some goal) :
    (feedAll databases run load replica (some link) chunks).1.dataset = goal := by
  induction chunks generalizing replica link script with
  | nil =>
    rw [started rfl] at settles
    cases settles
    rfl
  | cons chunk chunks ih =>
    rw [flatten_cons, ← append_assoc] at stream
    obtain ⟨next, left, linked, later, remaining, finished⟩ := drain_script { link with buffer := link.buffer ++ chunk }
      stream (le_rfl) ((settle_buffer replica link _ script).trans settles)
    simp only [feedAll, feed, linked]
    exact ih next later (fun last => finished (by rw [last]; rfl)) remaining

theorem feedAll_script {replica : Replica δ} (script : List Frame)
    (stream : chunks.flatten = codes script) (settles : settle databases run load replica .start script = some goal) :
    (feedAll databases run load replica (some .start) chunks).1.dataset = goal := by
  refine feedAll_from .start stream (fun empty => codes_eq_nil ?_) settles
  rw [← stream, empty]
  rfl

end link
end Kore.Proofs.LinkScript
