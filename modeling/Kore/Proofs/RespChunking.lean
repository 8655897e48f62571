import Kore.Protocol.RespParser
import Kore.Proofs.RespFraming

/-! However a stream is cut into chunks, the parser delivers the same values with the same
byte counts, and ends with the same bytes in its buffer or with the same panic. -/

namespace Kore.Proofs.RespChunking
open Foundation Protocol Protocol.RespParser RespFraming List

private theorem parse_cases (buffer : Bytes) :
    (∃ value rest, parseValue (buffer.length + 1) buffer = .ok (value, rest) ∧
        parseWithConsumed buffer = .value value (buffer.length - rest.length) rest) ∨
      (parseValue (buffer.length + 1) buffer = .error .parseError ∧ parseWithConsumed buffer = .incomplete) ∨
      (parseValue (buffer.length + 1) buffer = .error .capacityOverflow ∧ parseWithConsumed buffer = .panic) := by
  unfold parseWithConsumed
  cases parseValue (buffer.length + 1) buffer with
  | ok pair => exact .inl ⟨pair.1, pair.2, rfl, rfl⟩
  | error fault =>
    cases fault with
    | parseError => exact .inr (.inl ⟨rfl, rfl⟩)
    | capacityOverflow => exact .inr (.inr ⟨rfl, rfl⟩)

variable {buffer : Bytes} {value : RespValue} {consumed : Nat}

theorem parse_shorter {rest : Bytes} (parsed : parseWithConsumed buffer = .value value consumed rest) : rest.length < buffer.length := by
  rcases parse_cases buffer with ⟨_, _, read, same⟩ | ⟨_, same⟩ | ⟨_, same⟩
  · cases same.symm.trans parsed
    cases buffer with
    | nil => cases read
    | cons kind input =>
      obtain ⟨_, middle, first, later⟩ := Reader.bind_eq_ok.mp read
      cases first
      exact Nat.lt_succ_of_le ((parseBody_incremental (parseValue_incremental _) kind).leaves later).length_le
  · cases same.symm.trans parsed
  · cases same.symm.trans parsed

theorem parse_append {rest : Bytes} (more : Bytes) (parsed : parseWithConsumed buffer = .value value consumed rest) :
    parseWithConsumed (buffer ++ more) = .value value consumed (rest ++ more) := by
  rcases parse_cases buffer with ⟨_, _, read, same⟩ | ⟨_, same⟩ | ⟨_, same⟩
  · cases same.symm.trans parsed
    have deep : parseValue ((buffer ++ more).length + 1) buffer = .ok (value, rest) :=
      (parseValue_depth (by rw [length_append]; omega) (Nat.lt_succ_self _)).trans read
    have whole := (parseValue_incremental _).value more deep
    have counts : (buffer ++ more).length - (rest ++ more).length = buffer.length - rest.length := by
      rw [length_append, length_append]
      omega
    rw [parseWithConsumed, whole]
    dsimp only
    rw [counts]
  · cases same.symm.trans parsed
  · cases same.symm.trans parsed

theorem panic_append (more : Bytes) (panics : parseWithConsumed buffer = .panic) : parseWithConsumed (buffer ++ more) = .panic := by
  rcases parse_cases buffer with ⟨_, _, _, same⟩ | ⟨_, same⟩ | ⟨failed, _⟩
  · cases same.symm.trans panics
  · cases same.symm.trans panics
  · have deep : parseValue ((buffer ++ more).length + 1) buffer = .error .capacityOverflow :=
      (parseValue_depth (by rw [length_append]; omega) (Nat.lt_succ_self _)).trans failed
    have whole := (parseValue_incremental _).fault more deep nofun
    rw [parseWithConsumed, whole]

private theorem parseRounds_nil (rounds : Nat) : parseRounds rounds ⟨[]⟩ = ([], some ⟨[]⟩) := by
  cases rounds with
  | zero => rfl
  | succ rounds => rw [parseRounds, parse_nil]

private theorem parseRounds_enough {rounds others : Nat} (enough : buffer.length ≤ rounds)
    (enoughOthers : buffer.length ≤ others) : parseRounds rounds ⟨buffer⟩ = parseRounds others ⟨buffer⟩ := by
  induction rounds generalizing others buffer with
  | zero => rw [length_eq_zero_iff.mp (Nat.le_zero.mp enough), parseRounds_nil, parseRounds_nil]
  | succ rounds ih =>
    cases others with
    | zero => rw [length_eq_zero_iff.mp (Nat.le_zero.mp enoughOthers), parseRounds_nil, parseRounds_nil]
    | succ others =>
      rw [parseRounds, parseRounds]
      cases parsed : parseWithConsumed buffer with
      | incomplete | panic => rfl
      | value value consumed rest =>
        have shorter := parse_shorter parsed
        have same : parseRounds rounds ⟨rest⟩ = parseRounds others ⟨rest⟩ := ih (by omega) (by omega)
        dsimp only
        rw [same]

theorem drain_eq (buffer : Bytes) :
    drain ⟨buffer⟩ = match parseWithConsumed buffer with
      | .value value consumed rest => ((value, consumed) :: (drain ⟨rest⟩).1, (drain ⟨rest⟩).2)
      | .incomplete => ([], some ⟨buffer⟩)
      | .panic => ([], none) := by
  have more : drain ⟨buffer⟩ = parseRounds (buffer.length + 1) ⟨buffer⟩ := parseRounds_enough (le_refl _) (Nat.le_succ _)
  rw [more, parseRounds]
  cases parsed : parseWithConsumed buffer with
  | incomplete | panic => rfl
  | value value consumed rest =>
    have same : parseRounds buffer.length ⟨rest⟩ = drain ⟨rest⟩ := parseRounds_enough (parse_shorter parsed).le (le_refl _)
    dsimp only
    rw [same]

theorem drained {values : List (RespValue × Nat)} {left : RespParser}
    (drains : drain ⟨buffer⟩ = (values, some left)) : parseWithConsumed left.buffer = .incomplete := by
  induction size : buffer.length using Nat.strong_induction_on generalizing buffer values with
  | _ size ih =>
    rw [drain_eq] at drains
    cases parsed : parseWithConsumed buffer with
    | incomplete =>
      rw [parsed] at drains
      cases drains
      exact parsed
    | panic =>
      rw [parsed] at drains
      cases drains
    | value value consumed rest =>
      rw [parsed] at drains
      obtain ⟨_, ends⟩ := Prod.mk.inj drains
      exact ih rest.length (size ▸ parse_shorter parsed) (Prod.ext rfl ends) rfl

/-- What comes after the bytes that are there is parsed as if they had waited for it. -/
theorem drain_append (buffer more : Bytes) :
    drain ⟨buffer ++ more⟩ = match drain ⟨buffer⟩ with
      | (values, none) => (values, none)
      | (values, some left) => (values ++ (left.feed more).drain.1, (left.feed more).drain.2) := by
  induction size : buffer.length using Nat.strong_induction_on generalizing buffer with
  | _ size ih =>
    rw [drain_eq buffer]
    cases parsed : parseWithConsumed buffer with
    | incomplete => rfl
    | panic => rw [drain_eq, panic_append more parsed]
    | value value consumed rest =>
      rw [drain_eq, parse_append more parsed]
      dsimp only
      rw [ih rest.length (size ▸ parse_shorter parsed) rest rfl]
      obtain ⟨values, _ | left⟩ := drain ⟨rest⟩ <;> rfl

private theorem receive_of_waiting {parser : RespParser} (waits : parseWithConsumed parser.buffer = .incomplete) (chunks : List Bytes) :
    parser.receive chunks = (parser.feed chunks.flatten).drain := by
  induction chunks generalizing parser with
  | nil => rw [receive, flatten_nil, feed, append_nil, drain_eq, waits]
  | cons chunk chunks ih =>
    have whole : parser.feed (chunk ++ chunks.flatten) = ⟨parser.buffer ++ chunk ++ chunks.flatten⟩ := by
      rw [feed, append_assoc]
    rw [receive, flatten_cons, whole, drain_append, feed]
    cases begun : drain ⟨parser.buffer ++ chunk⟩ with
    | mk values ending =>
      cases ending with
      | none => rfl
      | some left =>
        dsimp only
        rw [ih (drained begun)]

/-- Feeding a stream in chunks is feeding it at once. -/
theorem receive_chunks (chunks : List Bytes) : new.receive chunks = new.receive [chunks.flatten] := by
  have waits : parseWithConsumed new.buffer = .incomplete := parse_nil
  rw [receive_of_waiting waits, receive_of_waiting waits, flatten_singleton]

end Kore.Proofs.RespChunking
