import Kore.Protocol.Resp

/-! The RESP parser is incremental: bytes that arrive later never change a value it
has already delivered. Encoded commands are read back exactly, so a stream of them
is cut at the same places however it is split into reads. -/

namespace Kore.Proofs.RespFraming
open Foundation Protocol Reader List RespValue

variable {input line rest data buffer future tail broken more : Bytes} {value : RespValue} {consumed : Nat}

def retryable (fault : ParseFault) : Prop := fault = .parseError

private theorem parseError_retryable : retryable .parseError := rfl

private theorem ascii_dollar : ascii "$" = [36] := rfl

private theorem ascii_star : ascii "*" = [42] := rfl

private theorem ascii_plus : ascii "+" = [43] := rfl

private theorem readLineFrom_cons {byte : UInt8} (read : readLineFrom (byte :: input) = .ok (line, rest)) :
    (byte = 13 ∧ input = 10 :: rest ∧ line = []) ∨
      ¬ (byte = 13 ∧ input.head? = some 10) ∧ ∃ later, line = byte :: later ∧ readLineFrom input = .ok (later, rest) := by
  unfold readLineFrom at read
  split at read
  next ending =>
    cases read
    obtain ⟨carriage, feed⟩ := ending
    obtain ⟨tail, rfl⟩ := head?_eq_some_iff.mp feed
    exact .inl ⟨carriage, rfl, rfl⟩
  next inside =>
    cases later : readLineFrom input with
    | error fault =>
      rw [later] at read
      cases read
    | ok pair =>
      rw [later] at read
      cases read
      exact .inr ⟨inside, pair.1, rfl, rfl⟩

private theorem readLineFrom_eq_ok (read : readLineFrom input = .ok (line, rest)) :
    input = line ++ crlf ++ rest := by
  induction input generalizing line with
  | nil => cases read
  | cons byte input ih =>
    rcases readLineFrom_cons read with ⟨rfl, rfl, rfl⟩ | ⟨_, later, rfl, rest⟩
    · rfl
    · rw [ih rest]
      rfl

private theorem readLineFrom_append
    (read : readLineFrom input = .ok (line, rest)) : readLineFrom (input ++ more) = .ok (line, rest ++ more) := by
  induction input generalizing line with
  | nil => cases read
  | cons byte input ih =>
    rcases readLineFrom_cons read with ⟨rfl, rfl, rfl⟩ | ⟨inside, later, rfl, rest⟩
    · rfl
    · have nonempty : input ≠ [] := by
        rintro rfl
        cases rest
      rw [cons_append, readLineFrom, if_neg (by rwa [head?_append_of_ne_nil _ nonempty]), ih rest]
      rfl

private theorem readLineFrom_eq_error {fault : ParseFault} (failed : readLineFrom input = .error fault) :
    fault = .parseError := by
  induction input with
  | nil => cases failed; rfl
  | cons byte input ih =>
    unfold readLineFrom at failed
    split at failed
    · cases failed
    · cases later : readLineFrom input with
      | error other =>
        rw [later] at failed
        cases failed
        exact ih later
      | ok pair =>
        rw [later] at failed
        cases failed

theorem readLine_incremental : Incremental retryable readLine where
  leaves read := ⟨_, (readLineFrom_eq_ok read).symm⟩
  value _ read := readLineFrom_append read
  fault _ failed final := (final (readLineFrom_eq_error failed)).elim

theorem expectCrlf_incremental : Incremental retryable expectCrlf :=
  (Incremental.block parseError_retryable).bind fun _ => .ite (.pure ()) (.throw _)

theorem readInteger_incremental : Incremental retryable readInteger := by
  refine readLine_incremental.bind fun line => ?_
  cases i64OfText line with
  | some value => exact .pure value
  | none => exact .throw _

theorem reserve_incremental (length entrySize : Nat) : Incremental retryable (reserve length entrySize) :=
  .ite (.throw _) (.pure ())

theorem parseBulkString_incremental : Incremental retryable parseBulkString :=
  readInteger_incremental.bind fun _ => .ite (.pure _) <| .ite (.throw _) <|
    (Incremental.block parseError_retryable).bind fun _ => .ite (.pure _) (.throw _)

theorem parseBool_incremental : Incremental retryable parseBool :=
  (Incremental.item parseError_retryable).bind fun _ => expectCrlf_incremental.bind fun _ =>
    .ite (.pure _) (.ite (.pure _) (.throw _))

section nested
variable {parse : Parser RespValue} (nested : Incremental retryable parse)
include nested

theorem parseArray_incremental : Incremental retryable (parseArray parse) :=
  readInteger_incremental.bind fun _ => .ite (.pure _) <| .ite (.throw _) <| (nested.times _).bind fun _ => .pure _

theorem parsePair_incremental : Incremental retryable (parsePair parse) :=
  nested.bind fun _ => nested.bind fun _ => .pure _

theorem parseMap_incremental : Incremental retryable (parseMap parse) :=
  readInteger_incremental.bind fun _ => .ite (.throw _) <|
    (reserve_incremental _ _).bind fun _ => ((parsePair_incremental nested).times _).bind fun _ => .pure _

theorem parsePush_incremental : Incremental retryable (parsePush parse) :=
  readInteger_incremental.bind fun _ => .ite (.throw _) <|
    (reserve_incremental _ _).bind fun _ => (nested.times _).bind fun _ => .pure _

theorem parseBody_incremental (kind : UInt8) : Incremental retryable (parseBody parse kind) := by
  refine .ite (readLine_incremental.map _) ?_
  refine .ite (readLine_incremental.map _) ?_
  refine .ite (readInteger_incremental.map _) ?_
  refine .ite parseBulkString_incremental ?_
  refine .ite (parseArray_incremental nested) ?_
  refine .ite (parseMap_incremental nested) ?_
  refine .ite parseBool_incremental ?_
  refine .ite (expectCrlf_incremental.map _) ?_
  exact .ite (parsePush_incremental nested) (.throw _)

end nested

theorem parseValue_incremental (depth : Nat) : Incremental retryable (parseValue depth) := by
  induction depth with
  | zero => exact .throw _
  | succ depth ih => exact (Incremental.item parseError_retryable).bind fun kind => parseBody_incremental ih kind

section agreement
variable {bound : Nat} {first second : Parser RespValue}
variable (nested : Incremental retryable first) (same : Agree bound first second)
include nested same

private theorem parsePair_agree : Agree bound (parsePair first) (parsePair second) :=
  .bind nested same fun _ => .bind nested same fun _ => .refl _

private theorem parseBody_agree (kind : UInt8) : Agree bound (parseBody first kind) (parseBody second kind) := by
  have array : Agree bound (parseArray first) (parseArray second) :=
    .bind readInteger_incremental (.refl _) fun _ => .ite (.refl _) <| .ite (.refl _) <|
      .bind (nested.times _) (same.times nested _) fun _ => .refl _
  have map : Agree bound (parseMap first) (parseMap second) :=
    .bind readInteger_incremental (.refl _) fun _ => .ite (.refl _) <|
      .bind (reserve_incremental _ _) (.refl _) fun _ => .bind ((parsePair_incremental nested).times _)
        ((parsePair_agree nested same).times (parsePair_incremental nested) _) fun _ => .refl _
  have push : Agree bound (parsePush first) (parsePush second) :=
    .bind readInteger_incremental (.refl _) fun _ => .ite (.refl _) <|
      .bind (reserve_incremental _ _) (.refl _) fun _ => .bind (nested.times _) (same.times nested _) fun _ => .refl _
  refine .ite (.refl _) (.ite (.refl _) (.ite (.refl _) (.ite (.refl _) ?_)))
  exact .ite array (.ite map (.ite (.refl _) (.ite (.refl _) (.ite push (.refl _)))))

end agreement

/-- A depth beyond the input's length never cuts a value short. -/
theorem parseValue_depth {depth other : Nat} (deep : input.length < depth) (deepOther : input.length < other) :
    parseValue depth input = parseValue other input := by
  induction depth generalizing other input with
  | zero => omega
  | succ depth ih =>
    obtain ⟨other, rfl⟩ : ∃ less, other = less + 1 := ⟨other - 1, by omega⟩
    cases input with
    | nil => rfl
    | cons kind rest =>
      simp only [length_cons] at deep deepOther
      have same : Agree rest.length (parseValue depth) (parseValue other) :=
        fun input short => ih (by omega) (by omega)
      exact parseBody_agree (parseValue_incremental depth) same kind rest (le_refl _)

theorem readLine_line (plain : ∀ byte ∈ line, byte ≠ 13) : readLine (line ++ crlf ++ more) = .ok (line, more) := by
  induction line with
  | nil => rfl
  | cons byte line ih =>
    have later := ih fun other member => plain other (mem_cons_of_mem _ member)
    change readLineFrom (byte :: (line ++ crlf ++ more)) = _
    rw [readLineFrom, if_neg fun ending => plain byte mem_cons_self ending.1]
    change Except.map _ (readLine (line ++ crlf ++ more)) = _
    rw [later]
    rfl

theorem decimal_plain {value : Nat} : ∀ byte ∈ decimal value, byte ≠ 13 := by
  rintro byte member rfl
  exact absurd (decimal_digit member) (by decide)

theorem readInteger_decimal {value : Nat} (fits : value ≤ i64Max) :
    readInteger (decimal value ++ crlf ++ more) = .ok (Int.ofNat value, more) := by
  rw [readInteger, bind_of_ok (readLine_line decimal_plain), i64OfText_decimal fits]
  rfl

theorem parseBulkString_bulk (small : data.length ≤ maxBulkLength) :
    parseBulkString (decimal data.length ++ crlf ++ (data ++ crlf ++ more)) = .ok (.bulkString (some data), more) := by
  have fits : data.length ≤ i64Max := small.trans (by decide)
  have blocked : (block .parseError (data.length + 2) : Parser Bytes) (data ++ crlf ++ more) =
      .ok (data ++ crlf, more) := by
    have length : (data ++ crlf).length = data.length + 2 := by rw [length_append]; rfl
    rw [block, if_neg (by rw [length_append, length]; omega), ← length, take_left, drop_left]
  rw [parseBulkString, bind_of_ok (readInteger_decimal fits), if_neg (by simp),
    if_neg (by simp only [Int.ofNat_eq_natCast, Int.toNat_natCast]; omega)]
  simp only [Int.ofNat_eq_natCast, Int.toNat_natCast]
  rw [bind_of_ok blocked, if_pos drop_left, take_left]
  rfl

theorem parseValue_bulk (small : data.length ≤ maxBulkLength) (depth : Nat) (more : Bytes) :
    parseValue (depth + 1) (bulk data ++ more) = .ok (.bulkString (some data), more) := by
  have split : bulk data ++ more = byteOf '$' :: (decimal data.length ++ crlf ++ (data ++ crlf ++ more)) := by
    simp [bulk, header, ascii_dollar, byteOf]
  rw [split]
  exact parseBulkString_bulk small

variable {depth : Nat}

private theorem times_bulk {args : List Bytes} (small : ∀ arg ∈ args, arg.length ≤ maxBulkLength) :
    (parseValue (depth + 1)).times args.length ((args.map bulk).flatten ++ more) =
      .ok (args.map fun arg => .bulkString (some arg), more) := by
  induction args with
  | nil => rfl
  | cons arg args ih =>
    have later := ih fun other member => small other (mem_cons_of_mem _ member)
    rw [map_cons, flatten_cons, append_assoc, length_cons, times,
      bind_of_ok (parseValue_bulk (small arg mem_cons_self) depth _), bind_of_ok later]
    rfl

private theorem parseArray_command {args : List Bytes} (short : args.length ≤ maxArrayLength)
    (small : ∀ arg ∈ args, arg.length ≤ maxBulkLength) :
    parseArray (parseValue (depth + 1)) (decimal args.length ++ crlf ++ ((args.map bulk).flatten ++ more)) =
      .ok (commandValue args, more) := by
  have fits : args.length ≤ i64Max := short.trans (by decide)
  rw [parseArray, bind_of_ok (readInteger_decimal fits), if_neg (by simp),
    if_neg (by simp only [Int.ofNat_eq_natCast, Int.toNat_natCast]; omega)]
  simp only [Int.ofNat_eq_natCast, Int.toNat_natCast]
  rw [bind_of_ok (times_bulk small)]
  rfl

theorem parseValue_encodeCommand (argv : Argv) (depth : Nat) (more : Bytes) :
    parseValue (depth + 2) (encodeCommand argv.args ++ more) = .ok (commandValue argv.args, more) := by
  have split : encodeCommand argv.args ++ more =
      byteOf '*' :: (decimal argv.args.length ++ crlf ++ ((argv.args.map bulk).flatten ++ more)) := by
    simp [encodeCommand, header, ascii_star, byteOf]
  rw [split]
  exact parseArray_command argv.short argv.small

theorem encodeCommand_ne_nil (args : List Bytes) : encodeCommand args ≠ [] := by
  simp [encodeCommand, header, ascii_star]

/-- A buffer in front of a code word either holds it whole, and the parser takes exactly
its bytes, or holds a strict prefix of it, and the parser waits. -/
theorem parse_code {code : Bytes}
    (decodes : ∀ depth more, parseValue (depth + 2) (code ++ more) = .ok (value, more))
    (stream : buffer ++ future = code ++ tail) :
    (∃ rest, buffer = code ++ rest ∧ rest ++ future = tail ∧ parseWithConsumed buffer = .value value code.length rest) ∨
      ∃ back, code = buffer ++ back ∧ back ≠ [] ∧ future = back ++ tail ∧ parseWithConsumed buffer = .incomplete := by
  have incremental := parseValue_incremental (buffer.length + 2)
  have same : parseValue (buffer.length + 1) buffer = parseValue (buffer.length + 2) buffer :=
    parseValue_depth (by omega) (by omega)
  rcases incremental.buffered (decodes buffer.length) stream with
    ⟨rest, holds, later, read⟩ | ⟨back, fault, extended, remains, later, failed, retry⟩
  · refine .inl ⟨rest, holds, later, ?_⟩
    have consumed : buffer.length - rest.length = code.length := by
      rw [holds, length_append, Nat.add_sub_cancel]
    simp [parseWithConsumed, same, read, consumed]
  · refine .inr ⟨back, extended, remains, later, ?_⟩
    cases retry
    simp [parseWithConsumed, same, failed]

theorem parse_buffered (argv : Argv)
    (stream : buffer ++ future = encodeCommand argv.args ++ tail) :
    (∃ rest, buffer = encodeCommand argv.args ++ rest ∧ rest ++ future = tail ∧
        parseWithConsumed buffer = .value (commandValue argv.args) (encodeCommand argv.args).length rest) ∨
      ∃ back, encodeCommand argv.args = buffer ++ back ∧ back ≠ [] ∧ future = back ++ tail ∧
        parseWithConsumed buffer = .incomplete :=
  parse_code (parseValue_encodeCommand argv) stream

/-- A line that breaks off before its end swallows the first byte of what follows. -/
private theorem mem_of_broken_line {next : UInt8} (plain : ∀ byte ∈ broken.dropLast, byte ≠ 13)
    (inside : next ≠ 13) (other : next ≠ 10) (read : readLineFrom (broken ++ next :: more) = .ok (line, rest)) : next ∈ line := by
  induction broken generalizing line with
  | nil =>
    rcases readLineFrom_cons read with ⟨carriage, _⟩ | ⟨_, later, rfl, _⟩
    · exact (inside carriage).elim
    · exact mem_cons_self
  | cons byte broken ih =>
    have shorter : ∀ byte ∈ broken.dropLast, byte ≠ 13 := by
      cases broken with
      | nil => exact nofun
      | cons second broken => exact fun byte member => plain byte (mem_cons_of_mem _ member)
    rcases readLineFrom_cons read with ⟨carriage, feed, _⟩ | ⟨_, later, rfl, rest⟩
    · cases broken with
      | nil =>
        cases feed
        exact (other rfl).elim
      | cons second broken => exact (plain byte mem_cons_self carriage).elim
    · exact mem_cons_of_mem _ (ih shorter rest)

private theorem header_plain {value : Nat} {back : Bytes} (breaks : decimal value ++ crlf = broken ++ back) (remains : back ≠ []) :
    ∀ byte ∈ broken.dropLast, byte ≠ 13 := by
  have longer := length_pos_of_ne_nil remains
  have lengths := congrArg length breaks
  simp only [length_append, crlf, length_cons, length_nil] at lengths
  have within : broken.dropLast <+: decimal value := by
    apply prefix_of_prefix_length_le ((List.dropLast_prefix broken).trans (prefix_append broken back))
    · rw [← breaks]
      exact prefix_append _ _
    · rw [length_dropLast]
      omega
  exact fun byte member => decimal_plain byte (within.subset member)

/-- A command that breaks off and is followed by another one is not read, or it is read as
an array of as many items as its own header announces. -/
theorem parse_broken (argv : Argv) {back : Bytes} (other : List Bytes) (begun : broken ≠ [])
    (breaks : encodeCommand argv.args = broken ++ back)
    (parsed : parseWithConsumed (broken ++ (encodeCommand other ++ more)) = .value value consumed rest) :
    ∃ items, value = .array items ∧ items.length = argv.args.length := by
  obtain ⟨tail, rfl, stream⟩ : ∃ tail, broken = byteOf '*' :: tail ∧
      (decimal argv.args.length ++ crlf) ++ (argv.args.map bulk).flatten = tail ++ back := by
    cases broken with
    | nil => exact (begun rfl).elim
    | cons first tail =>
      have same : byteOf '*' :: ((decimal argv.args.length ++ crlf) ++ (argv.args.map bulk).flatten) = first :: (tail ++ back) := by
        refine Eq.trans ?_ breaks
        simp [encodeCommand, header, ascii_star, byteOf]
      obtain ⟨rfl, stream⟩ := List.cons.inj same
      exact ⟨tail, rfl, stream⟩
  have follows : encodeCommand other ++ more = byteOf '*' :: (decimal other.length ++ crlf ++ ((other.map bulk).flatten ++ more)) := by
    simp [encodeCommand, header, ascii_star, byteOf]
  rw [follows] at parsed
  generalize decimal other.length ++ crlf ++ ((other.map bulk).flatten ++ more) = beyond at parsed
  have read : parseArray (parseValue (byteOf '*' :: tail ++ byteOf '*' :: beyond).length) (tail ++ byteOf '*' :: beyond) = .ok (value, rest) := by
    unfold parseWithConsumed at parsed
    split at parsed
    next read =>
      cases parsed
      exact read
    next => cases parsed
    next => cases parsed
  obtain ⟨length, middle, first, second⟩ := bind_eq_ok.mp read
  have announced : length = Int.ofNat argv.args.length := by
    rcases append_eq_append_iff.mp stream with ⟨kept, rfl, _⟩ | ⟨lost, breaks, _⟩
    · rw [append_assoc, readInteger_decimal (argv.short.trans (by decide))] at first
      cases first
      rfl
    · cases lost with
      | nil =>
        rw [append_nil] at breaks
        rw [← breaks, readInteger_decimal (argv.short.trans (by decide))] at first
        cases first
        rfl
      | cons next lost =>
        obtain ⟨line, _, whole, number⟩ := bind_eq_ok.mp first
        have member := mem_of_broken_line (header_plain breaks (cons_ne_nil _ _)) (by decide) (by decide) whole
        cases digits : i64OfText line with
        | none =>
          rw [digits] at number
          cases number
        | some value => exact absurd (i64OfText_numeral digits _ member) (by decide)
  subst announced
  rw [if_neg (by simp), if_neg (by have short := argv.short; simp only [Int.ofNat_eq_natCast, Int.toNat_natCast]; omega)] at second
  obtain ⟨items, _, taken, last⟩ := bind_eq_ok.mp second
  cases last
  exact ⟨items, rfl, by simpa using length_times taken⟩

def simpleLine (line : Bytes) : Bytes := ascii "+" ++ line ++ crlf

theorem simpleLine_continue : simpleLine (ascii "CONTINUE") = ascii "+CONTINUE" ++ crlf := rfl

theorem parseValue_simpleLine (plain : ∀ byte ∈ line, byte ≠ 13) (depth : Nat) (more : Bytes) :
    parseValue (depth + 2) (simpleLine line ++ more) = .ok (.simpleString line, more) := by
  have split : simpleLine line ++ more = byteOf '+' :: (line ++ crlf ++ more) := by simp [simpleLine, ascii_plus, byteOf]
  rw [split]
  change (simpleString <$> readLine) (line ++ crlf ++ more) = _
  rw [map_eq_pure_bind, bind_of_ok (readLine_line plain)]
  rfl

theorem parse_simpleLine (plain : ∀ byte ∈ line, byte ≠ 13)
    (stream : buffer ++ future = simpleLine line ++ tail) :
    (∃ rest, buffer = simpleLine line ++ rest ∧ rest ++ future = tail ∧
        parseWithConsumed buffer = .value (.simpleString line) (simpleLine line).length rest) ∨
      ∃ back, simpleLine line = buffer ++ back ∧ back ≠ [] ∧ future = back ++ tail ∧
        parseWithConsumed buffer = .incomplete :=
  parse_code (parseValue_simpleLine plain) stream

private theorem readInteger_large {value : Nat} {read : Int}
    (parsed : readInteger (decimal value ++ crlf ++ more) = .ok (read, rest)) : read = Int.ofNat value := by
  have plain : ∀ byte ∈ decimal value, byte ≠ 13 := by
    rintro byte member rfl
    exact absurd (decimal_digit member) (by decide)
  rw [readInteger, bind_of_ok (readLine_line plain)] at parsed
  by_cases fits : value ≤ i64Max
  · rw [i64OfText_decimal fits] at parsed
    cases parsed
    rfl
  · rw [i64OfText_decimal_large (Nat.lt_of_not_le fits)] at parsed
    cases parsed

/-- A bulk string that the parser delivers is the one that was written, so within its limit. -/
theorem parse_bulk
    (stream : buffer ++ future = bulk data ++ tail)
    (parsed : parseWithConsumed buffer = .value value consumed rest) :
    value = .bulkString (some data) ∧ rest ++ future = tail := by
  by_cases small : data.length ≤ maxBulkLength
  · rcases parse_code (fun depth => parseValue_bulk small (depth + 1)) stream with
      ⟨remaining, holds, later, read⟩ | ⟨back, -, -, -, waits⟩
    · rw [read] at parsed
      cases parsed
      exact ⟨rfl, later⟩
    · rw [waits] at parsed
      cases parsed
  · cases read : parseValue (buffer.length + 1) buffer with
    | error fault => cases fault <;> simp [parseWithConsumed, read] at parsed
    | ok pair =>
      have whole := (parseValue_incremental _).value future read
      have split : bulk data ++ tail = byteOf '$' :: (decimal data.length ++ crlf ++ (data ++ crlf ++ tail)) := by
        simp [bulk, header, ascii_dollar, byteOf]
      rw [stream, split] at whole
      change parseBulkString (decimal data.length ++ crlf ++ (data ++ crlf ++ tail)) = _ at whole
      obtain ⟨length, middle, first, second⟩ := bind_eq_ok.mp whole
      cases readInteger_large first
      rw [if_neg (by simp), if_pos (.inr (by simpa using Nat.lt_of_not_le small))] at second
      cases second

theorem parse_consumed
    (parsed : parseWithConsumed buffer = .value value consumed rest) : buffer.length - rest.length = consumed := by
  unfold parseWithConsumed at parsed
  split at parsed <;> cases parsed
  rfl

theorem parse_nil : parseWithConsumed [] = .incomplete := rfl

end Kore.Proofs.RespFraming
