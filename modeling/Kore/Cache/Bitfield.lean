import Kore.Cache.Room

/-! Bit fields of strings. Positions are 64-bit words that wrap around; a write whose
position lies beyond the string it was meant to grow is an index out of bounds, which ends
the command without a reply. -/

namespace Kore.Cache
open Foundation

inductive BitfieldOverflow where
  | wrap | sat | fail
  deriving DecidableEq

/-- A field: signed or not, so many bits, from so many bits on. -/
structure BitfieldSpec where
  signed : Bool
  bits : Nat
  offset : Nat
  deriving DecidableEq

inductive BitfieldOp where
  | get (field : BitfieldSpec)
  | set (field : BitfieldSpec) (value : Int)
  | incrBy (field : BitfieldSpec) (increment : Int)
  deriving DecidableEq

namespace BitfieldOp

def field : BitfieldOp → BitfieldSpec
  | get field | set field _ | incrBy field _ => field

def isWrite : BitfieldOp → Bool
  | get _ => false
  | set _ _ | incrBy _ _ => true

end BitfieldOp

variable (field : BitfieldSpec)

namespace BitfieldSpec

def positions : List Nat := (List.range field.bits).map fun place => (field.offset + place) % 2 ^ 64

end BitfieldSpec

def bitMask (position : Nat) : UInt8 := 1 <<< UInt8.ofNat (7 - position % 8)

variable (ops : List BitfieldOp) (bytes : Bytes)

def bitAt (position : Nat) : Bool := bytes.getD (position / 8) 0 &&& bitMask position != 0

def getBits : Int :=
  let value := field.positions.foldl (fun value position => 2 * value + (bitAt bytes position).toNat) 0
  if field.signed && decide (2 ^ (field.bits - 1) ≤ value) then (value : Int) - 2 ^ field.bits else value

def setBit (position : Nat) (bit : Bool) : Option Bytes :=
  if position / 8 < bytes.length then
    some (bytes.modify (position / 8) fun byte => if bit then byte ||| bitMask position else byte &&& ~~~ bitMask position)
  else none

def setBits (value : Int) (bytes : Bytes) : Option Bytes :=
  let word := (value % 2 ^ field.bits).toNat
  (field.positions.zip (List.range field.bits)).foldlM (fun bytes (position, place) =>
    setBit bytes position (word.testBit (field.bits - 1 - place))) bytes

def grow (length : Nat) (bytes : Bytes) : Bytes := bytes ++ List.replicate (length - bytes.length) 0

def ensureLen : Bytes := grow ((field.offset + field.bits + 7) % 2 ^ 64 / 8) bytes

variable (mode : BitfieldOverflow)

def applyOverflow (value : Int) : Option Int :=
  let least : Int := if field.signed then -2 ^ (field.bits - 1) else 0
  let most : Int := if field.signed then 2 ^ (field.bits - 1) - 1 else 2 ^ field.bits - 1
  if least ≤ value ∧ value ≤ most then some value
  else match mode with
    | .fail => none
    | .sat => some (if most < value then most else least)
    | .wrap => some (if field.signed then Int.bmod value (2 ^ field.bits) else value % 2 ^ field.bits)

structure BitfieldRun where
  bytes : Bytes
  wrote : Bool
  replies : List (Option Int)

/-- Stores a number that may not fit, and answers what the segment replies when it does. -/
def BitfieldRun.write (field : BitfieldSpec) (value : Int) (reply : Int → Int) (run : BitfieldRun) : Option BitfieldRun :=
  match applyOverflow field mode value with
  | none => some { run with replies := run.replies ++ [none] }
  | some stored => do
    let bytes ← setBits field stored (ensureLen field run.bytes)
    return ⟨bytes, true, run.replies ++ [some (reply stored)]⟩

def BitfieldRun.step (run : BitfieldRun) : BitfieldOp → Option BitfieldRun
  | .get field => some { run with replies := run.replies ++ [some (getBits field run.bytes)] }
  | .set field value => run.write mode field value fun _ => getBits field run.bytes
  | .incrBy field increment => run.write mode field (getBits field run.bytes + increment) id

/-- Bits up to the end of the furthest field, without overflow. -/
def furthestBit : Nat :=
  (ops.map fun op => min (op.field.offset + op.field.bits) u64Max).foldl max 0

def neededLen : Nat := (furthestBit ops + 7) % 2 ^ 64 / 8

def anyWrite : Bool := ops.any BitfieldOp.isWrite

/-- The string that a segment works on, and the expiry that it keeps. -/
def segmentStart (now : Nat) (ops : List BitfieldOp) (current : Option Bytes) (slotExpires : Option Nat) : Bytes × Option Nat :=
  let blank := if anyWrite ops then List.replicate (neededLen ops) 0 else []
  match current with
  | some value =>
    if Keyspace.slotTtlLive now slotExpires then (if anyWrite ops then grow (neededLen ops) value else value, slotExpires)
    else (blank, none)
  | none => (blank, none)

inductive SegmentOutcome where
  | crashed
  | tooLarge
  | done (replies : List (Option Int))

namespace Room
variable {F : Type}

/-- One segment; without a result the command ends without a reply. -/
def bitfield (setting : Setting) (key : Bytes) (ops : List BitfieldOp) (mode : BitfieldOverflow) (room : Room F) :
    Option (Room F × Except Refusal (List (Option Int))) :=
  if ops = [] then some (room, .ok [])
  else match room.keyspace.ensureStringOrAbsent setting.now key with
    | .error error => some (room, .error (.refused error))
    | .ok purged =>
      let room := { room with keyspace := purged }
      let size (length : Nat) := key.length + length + setting.entryStructSize
      let old := match purged.lookup key with
        | some ⟨_, .string value⟩ => value.length
        | _ => 0
      if anyWrite ops && decide (setting.maxEntrySize < size (max (neededLen ops) old)) then
        some (room, .error (.refused .entryTooLarge))
      else
        let (room, asked) := if anyWrite ops then room.ensureCapacity else (room, .ok ())
        match asked with
        | .error refusal => some (room, .error refusal)
        | .ok () =>
          let callback (current : Option Bytes) (slotExpires : Option Nat) : EntryAction × SegmentOutcome :=
            let (bytes, expiresAt) := segmentStart setting.now ops current slotExpires
            match ops.foldlM (BitfieldRun.step mode) ⟨bytes, false, []⟩ with
            | none => (.keep, .crashed)
            | some run =>
              if !run.wrote then (.keep, .done run.replies)
              else if setting.maxEntrySize < size run.bytes.length then (.keep, .tooLarge)
              else (.set run.bytes expiresAt, .done run.replies)
          match room.keyspace.mutateString key callback with
          | .error error => some (room, .error (.refused error))
          | .ok (_, .crashed) => none
          | .ok (_, .tooLarge) => some (room, .error (.refused .entryTooLarge))
          | .ok (keyspace, .done replies) => some ({ room with keyspace }, .ok replies)

end Room
end Kore.Cache
