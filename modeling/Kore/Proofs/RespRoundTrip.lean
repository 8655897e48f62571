import Kore.Proofs.RespFraming

/-! A serialized value is read back exactly, whatever follows it. Every form carries its own
end, so the argument goes through the value tree with the bytes that follow left open. -/

namespace Kore.Proofs.RespRoundTrip
open Foundation Protocol Reader RespFraming List RespValue

mutual

/-- Values that the parser can deliver: one frame, lines without line ends, 64-bit integers,
and no more than the parser's limits. -/
def Framed : RespValue → Prop
  | .simpleString text | .error text => ∀ byte ∈ text, byte ≠ 13 ∧ byte ≠ 10
  | .integer value => -(i64Max : Int) - 1 ≤ value ∧ value ≤ i64Max
  | .bulkString data => ∀ text ∈ data, text.length ≤ maxBulkLength
  | .array items | .push items => items.length ≤ maxArrayLength ∧ FramedAll items
  | .map pairs => pairs.length ≤ maxArrayLength ∧ FramedPairs pairs
  | .multiple _ => False
  | .nullArray | .bool _ | .null => True

def FramedAll : List RespValue → Prop
  | [] => True
  | item :: items => Framed item ∧ FramedAll items

def FramedPairs : List (RespValue × RespValue) → Prop
  | [] => True
  | pair :: pairs => FramedPair pair ∧ FramedPairs pairs

def FramedPair : RespValue × RespValue → Prop
  | (key, value) => Framed key ∧ Framed value

end

variable {value : Int}

private theorem i64OfText_integerText (low : -(i64Max : Int) - 1 ≤ value) (high : value ≤ i64Max) :
    i64OfText (integerText value) = some value := by
  unfold integerText
  split
  next negative =>
    have small : value.natAbs ≤ i64Max + 1 := by omega
    have read : (natOfDigits (decimal value.natAbs) >>= bounded (i64Max + 1)) = some value.natAbs := by
      rw [natOfDigits_decimal]
      exact if_pos small
    change (natOfDigits (decimal value.natAbs) >>= bounded (i64Max + 1)).map (fun value => -Int.ofNat value) = _
    rw [read, Option.map_some, Int.ofNat_eq_natCast]
    congr 1
    omega
  next positive =>
    rw [i64OfText_decimal (by omega), Int.ofNat_eq_natCast]
    congr 1
    omega

private theorem integerText_plain : ∀ byte ∈ integerText value, byte ≠ 13 := by
  intro byte member
  unfold integerText at member
  split at member
  · rcases mem_append.mp member with sign | digit
    · cases mem_singleton.mp sign
      decide
    · exact decimal_plain byte digit
  · exact decimal_plain byte member

variable {more : Bytes}

private theorem readInteger_integerText (low : -(i64Max : Int) - 1 ≤ value) (high : value ≤ i64Max) :
    readInteger (integerText value ++ crlf ++ more) = .ok (value, more) := by
  rw [readInteger, bind_of_ok (readLine_line integerText_plain), i64OfText_integerText low high]
  rfl

private theorem header_append (kind : String) (length : Nat) (items : Bytes) :
    header kind length ++ items ++ more = ascii kind ++ (decimal length ++ crlf ++ (items ++ more)) := by
  simp [header]

section Aggregates
variable {parse : Parser RespValue} {length : Nat} {body more : Bytes}

variable {items : List RespValue}

private theorem parseArray_items (short : items.length ≤ maxArrayLength)
    (read : parse.times items.length (body ++ more) = .ok (items, more)) :
    parseArray parse (decimal items.length ++ crlf ++ (body ++ more)) = .ok (.array items, more) := by
  have fits : items.length ≤ i64Max := short.trans (by decide)
  rw [parseArray, bind_of_ok (readInteger_decimal fits), if_neg (by simp),
    if_neg (by simp only [Int.ofNat_eq_natCast, Int.toNat_natCast]; omega)]
  simp only [Int.ofNat_eq_natCast, Int.toNat_natCast]
  rw [bind_of_ok read]
  rfl

private theorem reserve_small {entrySize : Nat} (short : length ≤ maxArrayLength) (small : entrySize ≤ 2 * respValueSize) (input : Bytes) :
    reserve length entrySize input = .ok ((), input) := by
  have fits : length * entrySize ≤ maxArrayLength * (2 * respValueSize) := Nat.mul_le_mul short small
  have room : maxArrayLength * (2 * respValueSize) ≤ isizeMax := by decide
  rw [reserve, if_neg (by omega)]
  rfl

private theorem parsePush_items (short : items.length ≤ maxArrayLength)
    (read : parse.times items.length (body ++ more) = .ok (items, more)) :
    parsePush parse (decimal items.length ++ crlf ++ (body ++ more)) = .ok (.push items, more) := by
  have fits : items.length ≤ i64Max := short.trans (by decide)
  rw [parsePush, bind_of_ok (readInteger_decimal fits), if_neg (by simp only [Int.ofNat_eq_natCast]; omega)]
  simp only [Int.ofNat_eq_natCast, Int.toNat_natCast]
  rw [bind_of_ok (reserve_small short (by decide) _), bind_of_ok read]
  rfl

private theorem parseMap_pairs {pairs : List (RespValue × RespValue)} (short : pairs.length ≤ maxArrayLength)
    (read : (parsePair parse).times pairs.length (body ++ more) = .ok (pairs, more)) :
    parseMap parse (decimal pairs.length ++ crlf ++ (body ++ more)) = .ok (.map pairs, more) := by
  have fits : pairs.length ≤ i64Max := short.trans (by decide)
  rw [parseMap, bind_of_ok (readInteger_decimal fits), if_neg (by simp only [Int.ofNat_eq_natCast]; omega)]
  simp only [Int.ofNat_eq_natCast, Int.toNat_natCast]
  rw [bind_of_ok (reserve_small short (le_refl _) _), bind_of_ok read]
  rfl

end Aggregates

private theorem deeper {kind : UInt8} {line body more : Bytes} {depth : Nat}
    (deep : (kind :: (line ++ crlf ++ (body ++ more))).length < depth + 1) : (body ++ more).length < depth := by
  simp only [length_cons, length_append] at deep ⊢
  omega

mutual

/-- The depth only has to exceed the number of bytes. -/
theorem parseValue_serialize : ∀ (value : RespValue) (_ : Framed value) (depth : Nat) (more : Bytes),
    (value.serialize ++ more).length < depth → parseValue depth (value.serialize ++ more) = .ok (value, more)
  | value, framed, 0, more, deep => absurd deep (Nat.not_lt_zero _)
  | .simpleString text, framed, depth + 1, more, _ => by
    rw [serialize, append_assoc, append_assoc, ← append_assoc text]
    change (simpleString <$> readLine) (text ++ crlf ++ more) = _
    rw [map_eq_pure_bind, bind_of_ok (readLine_line (fun byte member => (framed byte member).1))]
    rfl
  | .error text, framed, depth + 1, more, _ => by
    rw [serialize, append_assoc, append_assoc, ← append_assoc text]
    change (error <$> readLine) (text ++ crlf ++ more) = _
    rw [map_eq_pure_bind, bind_of_ok (readLine_line (fun byte member => (framed byte member).1))]
    rfl
  | .integer value, framed, depth + 1, more, _ => by
    rw [serialize, append_assoc, append_assoc, ← append_assoc (integerText value)]
    change (integer <$> readInteger) (integerText value ++ crlf ++ more) = _
    rw [map_eq_pure_bind, bind_of_ok (readInteger_integerText framed.1 framed.2)]
    rfl
  | .bulkString none, _, depth + 1, more, _ => rfl
  | .bulkString (some data), framed, depth + 1, more, _ => parseValue_bulk (framed data rfl) depth more
  | .array items, framed, depth + 1, more, deep => by
    rw [serialize, header_append] at deep ⊢
    exact parseArray_items framed.1 (times_serializeAll items framed.2 depth more (deeper deep))
  | .nullArray, _, depth + 1, more, _ => rfl
  | .map pairs, framed, depth + 1, more, deep => by
    rw [serialize, header_append] at deep ⊢
    exact parseMap_pairs framed.1 (times_serializePairs pairs framed.2 depth more (deeper deep))
  | .bool true, _, depth + 1, more, _ => rfl
  | .bool false, _, depth + 1, more, _ => rfl
  | .null, _, depth + 1, more, _ => rfl
  | .push items, framed, depth + 1, more, deep => by
    rw [serialize, header_append] at deep ⊢
    exact parsePush_items framed.1 (times_serializeAll items framed.2 depth more (deeper deep))

theorem times_serializeAll : ∀ (items : List RespValue) (_ : FramedAll items) (depth : Nat) (more : Bytes),
    (serializeAll items ++ more).length < depth →
      (parseValue depth).times items.length (serializeAll items ++ more) = .ok (items, more)
  | [], _, _, _, _ => rfl
  | item :: items, framed, depth, more, deep => by
    rw [serializeAll, append_assoc] at deep ⊢
    have rest : (serializeAll items ++ more).length < depth := by
      rw [length_append] at deep
      omega
    rw [length_cons, Reader.times, bind_of_ok (parseValue_serialize item framed.1 depth _ deep),
      bind_of_ok (times_serializeAll items framed.2 depth more rest)]
    rfl

theorem times_serializePairs : ∀ (pairs : List (RespValue × RespValue)) (_ : FramedPairs pairs) (depth : Nat) (more : Bytes),
    (serializePairs pairs ++ more).length < depth →
      (parsePair (parseValue depth)).times pairs.length (serializePairs pairs ++ more) = .ok (pairs, more)
  | [], _, _, _, _ => rfl
  | pair :: pairs, framed, depth, more, deep => by
    rw [serializePairs, append_assoc] at deep ⊢
    have rest : (serializePairs pairs ++ more).length < depth := by
      rw [length_append] at deep
      omega
    rw [length_cons, Reader.times, bind_of_ok (parsePair_serializePair pair framed.1 depth _ deep),
      bind_of_ok (times_serializePairs pairs framed.2 depth more rest)]
    rfl

theorem parsePair_serializePair : ∀ (pair : RespValue × RespValue) (_ : FramedPair pair) (depth : Nat) (more : Bytes),
    (serializePair pair ++ more).length < depth →
      parsePair (parseValue depth) (serializePair pair ++ more) = .ok (pair, more)
  | (key, value), framed, depth, more, deep => by
    rw [serializePair, append_assoc] at deep ⊢
    have rest : (value.serialize ++ more).length < depth := by
      rw [length_append] at deep
      omega
    rw [parsePair, bind_of_ok (parseValue_serialize key framed.1 depth _ deep),
      bind_of_ok (parseValue_serialize value framed.2 depth more rest)]
    rfl

end

/-- The parser reads a serialized value off the front of its buffer, takes exactly its bytes
and leaves what follows. -/
theorem parse_serialize (value : RespValue) (framed : Framed value) (rest : Bytes) :
    parseWithConsumed (value.serialize ++ rest) = .value value value.serialize.length rest := by
  rw [parseWithConsumed, parseValue_serialize value framed _ rest (Nat.lt_succ_self _)]
  dsimp only
  rw [length_append, Nat.add_sub_cancel]

def nestedValue : RespValue :=
  .map [(.simpleString (ascii "k"), .array [.integer (-5), .bulkString none, .push [.bool true]])]

theorem parse_nestedValue :
    Framed nestedValue ∧ parseWithConsumed (nestedValue.serialize ++ ascii "+PONG") = .value nestedValue 30 (ascii "+PONG") := by
  have framed : Framed nestedValue := by
    simp only [nestedValue, Framed, FramedPairs, FramedPair, FramedAll]
    decide +kernel
  exact ⟨framed, parse_serialize nestedValue framed (ascii "+PONG")⟩

end Kore.Proofs.RespRoundTrip
