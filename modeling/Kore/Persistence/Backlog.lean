import Kore.Protocol.Resp

/-! The replication backlog: the most recent bytes of the write stream, with the
global offsets of their first and next byte, and the database that the stream
last selected. -/

namespace Kore.Persistence
open Foundation Protocol

structure ReplBacklog where
  capacity : Nat
  positive : 0 < capacity
  buf : Bytes
  startOffset : Nat
  endOffset : Nat
  selectedDb : Option Nat

namespace ReplBacklog

def new (capacity : Nat) : ReplBacklog where
  capacity := max capacity 1
  positive := lt_of_lt_of_le zero_lt_one (le_max_right _ _)
  buf := []
  startOffset := 0
  endOffset := 0
  selectedDb := none

def trim : Nat → ReplBacklog → ReplBacklog
  | 0, backlog => backlog
  | rounds + 1, backlog =>
    if backlog.buf.length ≤ backlog.capacity then backlog
    else
      let dropped := min (max (backlog.capacity / 8) 1) backlog.buf.length
      trim rounds { backlog with
        buf := backlog.buf.drop dropped
        startOffset := satAdd backlog.startOffset dropped }

variable (backlog : ReplBacklog)

def append (data : Bytes) : ReplBacklog :=
  if data = [] then backlog
  else
    let endOffset := satAdd backlog.endOffset data.length
    if backlog.capacity < data.length then
      let kept := data.drop (data.length - backlog.capacity)
      { backlog with buf := kept, endOffset := endOffset, startOffset := endOffset - kept.length }
    else
      let extended := backlog.buf ++ data
      trim extended.length { backlog with buf := extended, endOffset := endOffset }

def canPartial (offset : Nat) : Bool :=
  decide (backlog.startOffset ≤ offset) && decide (offset ≤ backlog.endOffset)

def getFrom (offset : Nat) : Option Bytes :=
  if backlog.canPartial offset then
    let relative := offset - backlog.startOffset
    if backlog.buf.length < relative then none else some (backlog.buf.drop relative)
  else none

def emitsSelect (selectedDb : Option Nat) (db : Nat) : Bool :=
  match selectedDb with
  | some previous => previous != db
  | none => db != 0

end ReplBacklog

def encodeSelectDb (db : Nat) : Bytes := encodeCommand [ascii "SELECT", decimal db]

end Kore.Persistence
