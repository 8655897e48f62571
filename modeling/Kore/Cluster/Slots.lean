import Kore.Cluster.State
import Kore.Foundation.Text

/-! The hash slot of a key. -/

namespace Kore.Cluster
open Foundation

def crcBit (crc : UInt16) : UInt16 := if crc &&& 0x8000 ≠ 0 then (crc <<< 1) ^^^ 0x1021 else crc <<< 1

def crcByte (crc : UInt16) (byte : UInt8) : UInt16 := Nat.iterate crcBit 8 (crc ^^^ (byte.toUInt16 <<< 8))

def crc16 (data : Bytes) : UInt16 := data.foldl crcByte 0

/-- The bytes between the first opening brace and the next closing one, unless there are none. -/
def hashTagBytes (key : Bytes) : Bytes :=
  match key.findIdx? (· == 123) with
  | none => key
  | some start =>
    match (key.drop (start + 1)).findIdx? (· == 125) with
    | none | some 0 => key
    | some length => (key.drop (start + 1)).take length

def keyHashSlot (key : Bytes) : Nat := (crc16 (hashTagBytes key) &&& 0x3FFF).toNat

example : crc16 (ascii "123456789") = 0x31C3 := by decide +kernel

example : keyHashSlot (ascii "foo") = 12182 := by decide +kernel

end Kore.Cluster
