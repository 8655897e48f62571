import Kore.Protocol.Resp

/-! The parser as its callers use it: bytes are fed to its buffer, and values are taken until
it answers that the next one is not complete. -/

namespace Kore.Protocol
open Foundation

structure RespParser where
  buffer : Bytes

namespace RespParser

def new : RespParser := ⟨[]⟩

def feed (data : Bytes) (parser : RespParser) : RespParser := ⟨parser.buffer ++ data⟩

/-- At most so many values, each with the bytes it consumed, and the parser afterwards,
unless it has panicked. -/
def parseRounds : Nat → RespParser → List (RespValue × Nat) × Option RespParser
  | 0, parser => ([], some parser)
  | rounds + 1, parser =>
    match parseWithConsumed parser.buffer with
    | .value value consumed rest =>
      let (values, left) := parseRounds rounds ⟨rest⟩
      ((value, consumed) :: values, left)
    | .incomplete => ([], some parser)
    | .panic => ([], none)

def drain (parser : RespParser) : List (RespValue × Nat) × Option RespParser := parser.parseRounds parser.buffer.length

/-- Feeds one chunk after the other, and drains the parser after each of them. -/
def receive : List Bytes → RespParser → List (RespValue × Nat) × Option RespParser
  | [], parser => ([], some parser)
  | chunk :: chunks, parser =>
    match (parser.feed chunk).drain with
    | (values, none) => (values, none)
    | (values, some parser) =>
      let (later, left) := parser.receive chunks
      (values ++ later, left)

end RespParser
end Kore.Protocol
