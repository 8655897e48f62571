import Kore.Persistence.Replication

/-! Replica side of replication: one link to the primary, from the `PSYNC` reply to
the command stream. The keyspaces are a parameter: `load` installs a snapshot and
`run` executes one command on a database, and either may fail. -/

namespace Kore.Persistence
open Foundation Protocol

structure Replica (δ : Type) where
  cachedMasterReplid : Bytes
  replicaOffset : Nat
  dataset : δ

inductive LinkPhase where
  | awaitReply
  | awaitRdb
  | streaming
  deriving DecidableEq

structure ReplicaLink where
  phase : LinkPhase
  buffer : Bytes
  currentDb : Nat

/-- What a link did with the values it took off its buffer. -/
inductive Handled where
  | installed
  | applied (frame : Bytes)
  | acknowledged (frame : Bytes) (offset : Nat)
  | redirected (target : Option Bytes)

namespace ReplicaLink

def start : ReplicaLink := ⟨.awaitReply, [], 0⟩

def bulkArgs : RespValue → List (Option Bytes)
  | .array items => items.map RespValue.asBulkString
  | _ => []

def isReplconfGetack (value : RespValue) : Bool :=
  match bulkArgs value with
  | some command :: some sub :: _ => upper command == ascii "REPLCONF" && upper sub == ascii "GETACK"
  | _ => false

def validUtf8 (text : Bytes) : Bool := text.toByteArray.validateUTF8

/-- The new primary that a `REPLICAOF` on the stream names; `some none` promotes. -/
def parseReplicaofCommand (value : RespValue) : Option (Option Bytes) :=
  match bulkArgs value with
  | some command :: some host :: some port :: _ =>
    if upper command ≠ ascii "REPLICAOF" ∧ upper command ≠ ascii "SLAVEOF" then none
    else if upper host = ascii "NO" ∧ upper port = ascii "ONE" then some none
    else if validUtf8 host ∧ (unsignedOfText 65535 port).isSome then some (some (host ++ ascii ":" ++ port))
    else none
  | _ => none

def argumentBytes : RespValue → Option Bytes
  | .bulkString (some data) => some data
  | .simpleString text => some text
  | .integer value => some (integerText value)
  | _ => none

def isSpace (byte : UInt8) : Bool := byte == 32 || decide (9 ≤ byte ∧ byte ≤ 13)

def splitWhitespace (line : Bytes) : List Bytes := (line.splitOnP isSpace).filter (· ≠ [])

section apply
variable {δ : Type} (databases : Nat) (run : δ → Nat → List Bytes → Option δ)

def selectDb (currentDb : Nat) (argv : List Bytes) : Nat :=
  match argv[1]? >>= unsignedOfText u64Max with
  | some index => if index < databases then index else currentDb
  | none => currentDb

def applyArgv (dataset : δ) (currentDb : Nat) (argv : List Bytes) : Option (δ × Nat) :=
  let command := upper (argv.headD [])
  if command = ascii "SELECT" then some (dataset, selectDb databases currentDb argv)
  else if command = ascii "FLUSHALL" ∨ currentDb < databases then (run dataset currentDb argv).map fun after => (after, currentDb)
  else some (dataset, currentDb)

def applyReplicatedCommand (dataset : δ) (currentDb : Nat) (value : RespValue) : Option (δ × Nat) :=
  match value with
  | .array items =>
    match items.mapM argumentBytes with
    | none | some [] => some (dataset, currentDb)
    | some argv => applyArgv databases run dataset currentDb argv
  | _ => some (dataset, currentDb)

end apply

section drain
variable {δ : Type} (databases : Nat) (run : δ → Nat → List Bytes → Option δ) (load : Bytes → Option δ)

abbrev Outcome (δ : Type) := Replica δ × Option ReplicaLink × Option Handled

variable (replica : Replica δ) (link : ReplicaLink)

/-- The reply to `PSYNC`. The replication id and offset of a full resync are recorded
as soon as its header is read. -/
def acceptReply (value : RespValue) : Outcome δ :=
  match value with
  | .simpleString line =>
    if ascii "FULLRESYNC " <+: line then
      let recorded :=
        match splitWhitespace line with
        | _ :: replid :: offset :: _ => { replica with
            cachedMasterReplid := replid
            replicaOffset := (unsignedOfText u64Max offset).getD replica.replicaOffset }
        | _ => replica
      (recorded, some { link with phase := .awaitRdb }, none)
    else if ascii "CONTINUE" <+: line then (replica, some { link with phase := .streaming }, none)
    else (replica, none, none)
  | .bulkString (some data) => acceptRdb replica link data
  | _ => (replica, none, none)
where
  acceptRdb (replica : Replica δ) (link : ReplicaLink) (data : Bytes) : Outcome δ :=
    match load data with
    | some dataset => ({ replica with dataset := dataset }, some { link with phase := .streaming, currentDb := 0 }, some .installed)
    | none => (replica, none, none)

/-- One element of the command stream, which took `frame` off the wire. -/
def acceptCommand (value : RespValue) (frame : Bytes) : Outcome δ :=
  let counted := { replica with replicaOffset := wrapAdd replica.replicaOffset frame.length }
  if isReplconfGetack value then (counted, some link, some (.acknowledged frame counted.replicaOffset))
  else
    match parseReplicaofCommand value with
    | some (some target) => (counted, none, some (.redirected (some target)))
    | some none => ({ counted with cachedMasterReplid := [], replicaOffset := 0 }, none, some (.redirected none))
    | none =>
      match applyReplicatedCommand databases run replica.dataset link.currentDb value with
      | some (dataset, currentDb) =>
        ({ counted with dataset := dataset }, some { link with currentDb := currentDb }, some (.applied frame))
      | none => (replica, none, none)

def accept (value : RespValue) (frame : Bytes) : Outcome δ :=
  match link.phase with
  | .awaitReply => acceptReply load replica link value
  | .awaitRdb =>
    match value with
    | .bulkString (some data) => acceptReply.acceptRdb load replica link data
    | _ => (replica, none, none)
  | .streaming => acceptCommand databases run replica link value frame

/-- Handles the buffered values one after the other until the parser needs more bytes
or the link ends. -/
def drain : Nat → Replica δ → ReplicaLink → Replica δ × Option ReplicaLink × List Handled
  | 0, replica, link => (replica, some link, [])
  | rounds + 1, replica, link =>
    match parseWithConsumed link.buffer with
    | .incomplete => (replica, some link, [])
    | .panic => (replica, none, [])
    | .value value consumed rest =>
      match accept databases run load replica { link with buffer := rest } value (link.buffer.take consumed) with
      | (after, none, handled) => (after, none, handled.toList)
      | (after, some next, handled) =>
        let later := drain rounds after next
        (later.1, later.2.1, handled.toList ++ later.2.2)

/-- A socket read of `chunk`, and everything that it completes. Each value takes at least
one byte, so the buffer's length bounds the rounds. -/
def feed (chunk : Bytes) : Replica δ × Option ReplicaLink × List Handled :=
  let fed := { link with buffer := link.buffer ++ chunk }
  drain databases run load fed.buffer.length replica fed

end drain

def psyncRequest {δ : Type} (replica : Replica δ) : Bytes × Int :=
  if replica.cachedMasterReplid = [] then (ascii "?", -1)
  else (replica.cachedMasterReplid, if replica.replicaOffset ≤ i64Max then replica.replicaOffset else replica.replicaOffset - 2 ^ 64)

end ReplicaLink
end Kore.Persistence
