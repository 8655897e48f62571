import Kore.Cache.Bitfield
import Kore.Commands.KeyAccess

/-! `BITFIELD` and `BITFIELD_RO`: operations are collected into segments, and a change of the
overflow mode runs the segment collected so far. -/

namespace Kore.Commands
open Foundation Protocol Cache

def invalidBitfieldType : Bytes :=
  ascii "ERR Invalid bitfield type. Use something like i16 u8. Note that u64 is not supported but i64 is."

def invalidBitOffset : Bytes := ascii "ERR bit offset is not an integer or out of range"

def parseBfType (value : RespValue) : Except Bytes (Bool × Nat) :=
  match value.asBulkString with
  | none => .error (ascii "ERR syntax error")
  | some text =>
    match lossy text with
    | kind :: width :: rest =>
      if lowerByte kind = byteOf 'i' ∨ lowerByte kind = byteOf 'u' then
        match unsignedOfText 255 (width :: rest) with
        | some bits =>
          if bits = 0 ∨ 64 < bits ∨ lowerByte kind = byteOf 'u' ∧ 63 < bits then .error invalidBitfieldType
          else .ok (lowerByte kind == byteOf 'i', bits)
        | none => .error invalidBitfieldType
      else .error invalidBitfieldType
    | _ => .error invalidBitfieldType

/-- A bit position; after `#` it counts fields. -/
def parseBfOffset (value : RespValue) (typeBits : Nat) : Except Bytes Nat :=
  match value.asBulkString with
  | none =>
    match value with
    | .integer offset => if 0 ≤ offset then .ok offset.toNat else .error invalidBitOffset
    | _ => .error invalidBitOffset
  | some text =>
    match lossy text with
    | 35 :: rest =>
      match i64OfText rest with
      | some count => if 0 ≤ count then .ok (min (count.toNat * typeBits) u64Max) else .error invalidBitOffset
      | none => .error invalidBitOffset
    | text =>
      match i64OfText text with
      | some offset => if 0 ≤ offset then .ok offset.toNat else .error invalidBitOffset
      | none => .error invalidBitOffset

def parseField (type offset : RespValue) : Except Bytes BitfieldSpec := do
  let (signed, bits) ← parseBfType type
  let offset ← parseBfOffset offset bits
  return ⟨signed, bits, offset⟩

def parseOverflow (word : RespValue) : Except Bytes BitfieldOverflow :=
  if word.asBulkString = none then .error (ascii "ERR syntax error")
  else if isText "WRAP" word then .ok .wrap
  else if isText "SAT" word then .ok .sat
  else if isText "FAIL" word then .ok .fail
  else .error (ascii "ERR Invalid OVERFLOW type specified")

variable {F : Type}

variable (setting : Setting)

/-- Runs the collected segment and goes on with its replies; no result means a crash. -/
def flushSegment (key : Bytes) (mode : BitfieldOverflow) (segment : List BitfieldOp) (replies : List (Option Int))
    (room : Room F) (next : Room F → List (Option Int) → Option (Room F × Answer)) : Option (Room F × Answer) :=
  match room.bitfield setting key segment mode with
  | none => none
  | some (room, .error refusal) => some (room, .ok (.error refusal.toRespString))
  | some (room, .ok answers) => next room (replies ++ answers)

def bitfieldReply (replies : List (Option Int)) : RespValue :=
  .array (replies.map fun reply => (reply.map RespValue.integer).getD .nil)

def bitfieldLoop (setting : Setting) (readonly : Bool) (key : Bytes) :
    List RespValue → BitfieldOverflow → List BitfieldOp → List (Option Int) → Room F → Option (Room F × Answer)
  | [], mode, segment, replies, room =>
    flushSegment setting key mode segment replies room fun room replies => some (room, .ok (bitfieldReply replies))
  | word :: rest, mode, segment, replies, room =>
    if word.asBulkString = none then some (room, failure "ERR syntax error")
    else if isText "OVERFLOW" word then
      match rest with
      | [] => some (room, failure "ERR syntax error")
      | chosen :: rest =>
        flushSegment setting key mode segment replies room fun room replies =>
          match parseOverflow chosen with
          | .error text => some (room, .ok (.error text))
          | .ok mode => bitfieldLoop setting readonly key rest mode [] replies room
    else if isText "GET" word then
      match rest with
      | type :: offset :: rest =>
        match parseField type offset with
        | .error text => some (room, .ok (.error text))
        | .ok field => bitfieldLoop setting readonly key rest mode (segment ++ [.get field]) replies room
      | _ => some (room, failure "ERR syntax error")
    else if isText "SET" word || isText "INCRBY" word then
      if readonly then some (room, failure "ERR BITFIELD_RO only supports the GET subcommand")
      else match rest with
        | type :: offset :: value :: rest =>
          match parseField type offset with
          | .error text => some (room, .ok (.error text))
          | .ok field =>
            match integerOf value with
            | none => some (room, failure "ERR value is not an integer or out of range")
            | some value =>
              let operation := if isText "SET" word then BitfieldOp.set field value else .incrBy field value
              bitfieldLoop setting readonly key rest mode (segment ++ [operation]) replies room
        | _ => some (room, failure "ERR syntax error")
    else some (room, failure "ERR syntax error")

def bitfieldImpl (readonly : Bool) (name : String) (room : Room F) : List RespValue → Option (Room F × Answer)
  | [] => some (room, .ok (.error (ascii "ERR wrong number of arguments for '" ++ ascii name ++ ascii "' command")))
  | key :: rest =>
    match key.asBulkString with
    | none => some (room, failure "ERR invalid key")
    | some key => bitfieldLoop setting readonly key rest .wrap [] [] room

def handleBitfieldRo (room : Room F) (args : List RespValue) : Option (Room F × Answer) :=
  bitfieldImpl setting true "bitfield_ro" room args

end Kore.Commands
