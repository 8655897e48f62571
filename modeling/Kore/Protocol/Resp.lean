import Kore.Foundation.Readers
import Kore.Foundation.Text

/-! RESP values, their serialization and the buffering parser of the server. The
parser reports every malformed or unfinished value as a parse error, and a parse
error makes the caller wait for more bytes. -/

namespace Kore.Protocol
open Foundation Reader

inductive RespValue where
  | simpleString (text : Bytes)
  | error (text : Bytes)
  | integer (value : Int)
  | bulkString (data : Option Bytes)
  | array (items : List RespValue)
  | nullArray
  | multiple (items : List RespValue)
  | map (pairs : List (RespValue × RespValue))
  | bool (value : Bool)
  | null
  | push (items : List RespValue)

def crlf : Bytes := [13, 10]

def integerText (value : Int) : Bytes :=
  if value < 0 then ascii "-" ++ decimal value.natAbs else decimal value.natAbs

namespace RespValue

def ok : RespValue := simpleString (ascii "OK")

def nil : RespValue := bulkString none

def header (kind : String) (length : Nat) : Bytes := ascii kind ++ decimal length ++ crlf

def bulk (data : Bytes) : Bytes := header "$" data.length ++ data ++ crlf

mutual

def serialize : RespValue → Bytes
  | simpleString text => ascii "+" ++ text ++ crlf
  | error text => ascii "-" ++ text ++ crlf
  | integer value => ascii ":" ++ integerText value ++ crlf
  | bulkString none => ascii "$-1" ++ crlf
  | bulkString (some data) => bulk data
  | array items => header "*" items.length ++ serializeAll items
  | nullArray => ascii "*-1" ++ crlf
  | multiple items => serializeAll items
  | map pairs => header "%" pairs.length ++ serializePairs pairs
  | bool value => ascii (if value then "#t" else "#f") ++ crlf
  | null => ascii "_" ++ crlf
  | push items => header ">" items.length ++ serializeAll items

def serializeAll : List RespValue → Bytes
  | [] => []
  | item :: items => serialize item ++ serializeAll items

def serializePairs : List (RespValue × RespValue) → Bytes
  | [] => []
  | pair :: pairs => serializePair pair ++ serializePairs pairs

def serializePair : RespValue × RespValue → Bytes
  | (key, value) => serialize key ++ serialize value

end

def asBulkString : RespValue → Option Bytes
  | bulkString data => data
  | _ => none

def asInteger : RespValue → Option Int
  | integer value => some value
  | _ => none

end RespValue

/-- Every ordinary parse error means that more data may complete the value; a map
or push header whose capacity cannot be reserved panics instead. -/
inductive ParseFault where
  | parseError
  | capacityOverflow
  deriving DecidableEq

abbrev Parser := Reader UInt8 ParseFault

def byteOf (char : Char) : UInt8 := UInt8.ofNat char.toNat

def readLineFrom : Bytes → Except ParseFault (Bytes × Bytes)
  | [] => .error .parseError
  | byte :: rest =>
    if byte = 13 ∧ rest.head? = some 10 then .ok ([], rest.tail)
    else (readLineFrom rest).map fun read => (byte :: read.1, read.2)

def readLine : Parser Bytes := readLineFrom

def expectCrlf : Parser Unit := do
  let ending ← block .parseError 2
  if ending = crlf then pure () else throw .parseError

def readInteger : Parser Int := do
  let line ← readLine
  match i64OfText line with
  | some value => pure value
  | none => throw .parseError

def maxBulkLength : Nat := 500 * 1024 * 1024

def maxArrayLength : Nat := 100000

def isizeMax : Nat := i64Max

def respValueSize : Nat := 40

/-- `Vec::with_capacity` panics beyond `isize::MAX` bytes. -/
def reserve (length entrySize : Nat) : Parser Unit :=
  if isizeMax < length * entrySize then throw .capacityOverflow else pure ()

def parseBulkString : Parser RespValue := do
  let length ← readInteger
  if length = -1 then pure (.bulkString none)
  else if length < 0 ∨ maxBulkLength < length.toNat then throw .parseError
  else do
    let framed ← block .parseError (length.toNat + 2)
    if framed.drop length.toNat = crlf then pure (.bulkString (some (framed.take length.toNat)))
    else throw .parseError

section
variable (parseValue : Parser RespValue)

def parseArray : Parser RespValue := do
  let length ← readInteger
  if length = -1 then pure .nullArray
  else if length < 0 ∨ maxArrayLength < length.toNat then throw .parseError
  else do
    let items ← parseValue.times length.toNat
    pure (.array items)

def parsePair : Parser (RespValue × RespValue) := do
  let key ← parseValue
  let value ← parseValue
  pure (key, value)

def parseMap : Parser RespValue := do
  let length ← readInteger
  if length < 0 then throw .parseError
  else do
    reserve length.toNat (2 * respValueSize)
    let pairs ← (parsePair parseValue).times length.toNat
    pure (.map pairs)

def parsePush : Parser RespValue := do
  let length ← readInteger
  if length < 0 then throw .parseError
  else do
    reserve length.toNat respValueSize
    let items ← parseValue.times length.toNat
    pure (.push items)

def parseBool : Parser RespValue := do
  let flag ← item .parseError
  expectCrlf
  if flag = byteOf 't' ∨ flag = byteOf 'T' then pure (.bool true)
  else if flag = byteOf 'f' ∨ flag = byteOf 'F' then pure (.bool false)
  else throw .parseError

/-- The value after its type byte, with `parseValue` for nested values. -/
def parseBody (kind : UInt8) : Parser RespValue :=
  if kind = byteOf '+' then RespValue.simpleString <$> readLine
  else if kind = byteOf '-' then RespValue.error <$> readLine
  else if kind = byteOf ':' then RespValue.integer <$> readInteger
  else if kind = byteOf '$' then parseBulkString
  else if kind = byteOf '*' then parseArray parseValue
  else if kind = byteOf '%' then parseMap parseValue
  else if kind = byteOf '#' then parseBool
  else if kind = byteOf '_' then (fun _ => RespValue.null) <$> expectCrlf
  else if kind = byteOf '>' then parsePush parseValue
  else throw .parseError

end

/-- Values nested deeper than `depth` are not read. -/
def parseValue : Nat → Parser RespValue
  | 0 => throw .parseError
  | depth + 1 => do
    let kind ← item .parseError
    parseBody (parseValue depth) kind

inductive ParseOutcome where
  | value (value : RespValue) (consumed : Nat) (rest : Bytes)
  | incomplete
  | panic

/-- One value off the front of the parser's buffer. Every nested value takes at
least its type byte, so the buffer's length bounds the depth. -/
def parseWithConsumed (buffer : Bytes) : ParseOutcome :=
  match parseValue (buffer.length + 1) buffer with
  | .ok (value, rest) => .value value (buffer.length - rest.length) rest
  | .error .parseError => .incomplete
  | .error .capacityOverflow => .panic

def encodeCommand (args : List Bytes) : Bytes :=
  RespValue.header "*" args.length ++ (args.map RespValue.bulk).flatten

def commandValue (args : List Bytes) : RespValue := .array (args.map fun arg => .bulkString (some arg))

/-- Arguments that a client's own parser delivered, so within its limits. -/
@[ext] structure Argv where
  args : List Bytes
  nonempty : args ≠ []
  short : args.length ≤ maxArrayLength
  small : ∀ arg ∈ args, arg.length ≤ maxBulkLength

end Kore.Protocol
