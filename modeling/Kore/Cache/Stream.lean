import Mathlib.Data.Prod.Lex
import Mathlib.Data.UInt
import Kore.Foundation.Maps
import Kore.Foundation.Text

/-! Streams: append-only logs of entries with consumer groups. Times are milliseconds of
the wall clock. A trimmed entry is released by whichever consumer the hash table of its
group yields first, so that the order of the walk is a parameter. -/

namespace Kore.Cache
open Foundation

structure StreamId where
  ms : UInt64
  seq : UInt64
  deriving DecidableEq

/-- The characters that count as white space. -/
def spaces : List Bytes :=
  [[9], [10], [11], [12], [13], [32], [0xC2, 0x85], [0xC2, 0xA0], [0xE1, 0x9A, 0x80]] ++
    (List.range 11).map (fun offset => [0xE2, 0x80, 0x80 + UInt8.ofNat offset]) ++
    [[0xE2, 0x80, 0xA8], [0xE2, 0x80, 0xA9], [0xE2, 0x80, 0xAF], [0xE2, 0x81, 0x9F], [0xE3, 0x80, 0x80]]

variable (text : Bytes)

def trim : Bytes :=
  let kept := trimStart spaces text.length text
  (trimStart (spaces.map List.reverse) kept.length kept.reverse).reverse

def splitOnce (separator : UInt8) : Bytes → Option (Bytes × Bytes)
  | [] => none
  | byte :: rest =>
    if byte = separator then some ([], rest)
    else (splitOnce separator rest).map fun (front, back) => (byte :: front, back)

variable (now : Nat) (walk : Walk) (name : Bytes) (id : StreamId) (stream : RedisStream)

namespace StreamId

def zero : StreamId := ⟨0, 0⟩

def maximum : StreamId := ⟨UInt64.ofNat u64Max, UInt64.ofNat u64Max⟩

def before (first second : StreamId) : Bool :=
  decide (first.ms < second.ms) || (first.ms == second.ms && decide (first.seq < second.seq))

def latest (ids : List StreamId) : StreamId := ids.foldl (fun best id => if best.before id then id else best) zero

def toText : Bytes := decimal id.ms.toNat ++ ascii "-" ++ decimal id.seq.toNat

private def place : Nat ×ₗ Nat := toLex (id.ms.toNat, id.seq.toNat)

private theorem place_injective : Function.Injective place := by
  intro first second same
  obtain ⟨ms, seq⟩ := Prod.mk.inj (toLex.injective same)
  cases first
  cases second
  exact mk.injEq .. ▸ ⟨UInt64.toNat_inj.mp ms, UInt64.toNat_inj.mp seq⟩

instance : LinearOrder StreamId := LinearOrder.lift' place place_injective

def component : Option UInt64 := (unsignedOfText u64Max text).map UInt64.ofNat

def parseExplicit : Option StreamId := do
  let (ms, seq) ← splitOnce 45 (trim text)
  return ⟨← component ms, ← component seq⟩

/-- `ms-seq`, bare `ms`, or one of the two ends of the range of ids. -/
def parse : Option StreamId :=
  let text := trim text
  if text = [] then none
  else if text = ascii "-" then some zero
  else if text = ascii "+" then some maximum
  else if text = ascii "$" ∨ text = ascii "*" then none
  else match splitOnce 45 text with
    | some (ms, seq) => do return ⟨← component ms, ← component seq⟩
    | none => (component text).map fun ms => ⟨ms, 0⟩

def ofText : Option StreamId := (parseExplicit text).or (parse text)

def next : StreamId :=
  if id.seq.toNat < u64Max then ⟨id.ms, id.seq + 1⟩
  else if id.ms.toNat < u64Max then ⟨id.ms + 1, 0⟩
  else maximum

end StreamId

structure PendingEntry where
  consumer : Bytes
  deliveryTimeMs : Nat
  deliveryCount : Nat
  deriving DecidableEq

structure Consumer where
  seenTimeMs : Nat
  pending : Nat
  deriving DecidableEq

structure ConsumerGroup where
  lastDeliveredId : StreamId
  entriesRead : Option Nat
  consumers : FiniteMap Bytes Consumer
  pending : OrderedMap StreamId PendingEntry
  deriving DecidableEq

structure RedisStream where
  entries : OrderedMap StreamId (List (Bytes × Bytes))
  lastGeneratedId : StreamId
  entriesAdded : Nat
  maxDeletedEntryId : StreamId
  groups : FiniteMap Bytes ConsumerGroup
  deriving DecidableEq

/-- Order in which the consumers of a group are visited. -/
abbrev Walk := ConsumerGroup → List Bytes

structure XClaimOpts where
  minIdleMs : Nat
  force : Bool
  timeMs : Option Nat
  idleMs : Option Nat
  retrycount : Option Nat
  justId : Bool

def noGroup : Bytes := ascii "NOGROUP No such key '' or consumer group"

def invalidStreamId : Bytes := ascii "ERR Invalid stream ID specified as stream command argument"

namespace ConsumerGroup

def new (lastDeliveredId : StreamId) (entriesRead : Option Nat) : ConsumerGroup :=
  ⟨lastDeliveredId, entriesRead, ∅, .empty⟩

def adjust (change : Nat → Nat) (group : ConsumerGroup) : ConsumerGroup :=
  { group with consumers := group.consumers.update name fun consumer => { consumer with pending := change consumer.pending } }

variable (group : ConsumerGroup)

def touchConsumer : ConsumerGroup :=
  let pending := match group.consumers.lookup name with
    | some consumer => consumer.pending
    | none => 0
  { group with consumers := group.consumers.insert name ⟨now, pending⟩ }

def release : ConsumerGroup :=
  match group.pending.lookup id with
  | some entry => adjust entry.consumer (· - 1) { group with pending := group.pending.erase id }
  | none => group

/-- A trimmed entry is taken off the counter of the first busy consumer of the walk. -/
def releaseTrimmed : ConsumerGroup :=
  match group.pending.lookup id with
  | none => group
  | some _ =>
    let group' := { group with pending := group.pending.erase id }
    let busy := fun name => match group.consumers.lookup name with
      | some consumer => decide (0 < consumer.pending)
      | none => false
    match (walk group).find? busy with
    | some name => adjust name (· - 1) group'
    | none => group'

def claim (deliveryTime : Nat) (name : Bytes) (opts : XClaimOpts) (id : StreamId) (group : ConsumerGroup) :
    ConsumerGroup × Bool :=
  let old := group.pending.lookup id
  let refused := match old with
    | none => !opts.force
    | some entry => decide (now - entry.deliveryTimeMs < opts.minIdleMs)
  if refused then (group, false)
  else
    let group := group.touchConsumer now name
    let entry := old.getD ⟨name, deliveryTime, 0⟩
    let group :=
      if entry.consumer ≠ name then adjust name (· + 1) (adjust entry.consumer (· - 1) group)
      else if old.isNone then adjust name (· + 1) group
      else group
    let count := match opts.retrycount with
      | some retries => retries
      | none =>
        if !opts.justId then max (satAdd entry.deliveryCount 1) 1
        else if entry.deliveryCount = 0 then 1
        else entry.deliveryCount
    ({ group with pending := group.pending.insert id ⟨name, deliveryTime, count⟩ }, true)

def deliver (noack : Bool) (group : ConsumerGroup) (id : StreamId) : ConsumerGroup :=
  let group := { group with lastDeliveredId := id }
  if noack then group
  else
    let old := group.pending.lookup id
    let entry := old.getD ⟨name, now, 0⟩
    let group := if entry.consumer ≠ name then adjust entry.consumer (· - 1) group else group
    { group with pending := group.pending.insert id ⟨name, now, wrapAdd entry.deliveryCount 1⟩ }

def redeliver (id : StreamId) : ConsumerGroup :=
  match group.pending.lookup id with
  | some entry =>
    let again := { entry with deliveryCount := wrapAdd entry.deliveryCount 1, deliveryTimeMs := now }
    { group with pending := group.pending.insert id again }
  | none => group

def recount : ConsumerGroup :=
  adjust name (fun _ => (group.pending.values.filter fun entry => entry.consumer == name).length) group

/-- One pending entry of a snapshot; its owner is created if the snapshot does not list it. -/
def importPending (item : StreamId × PendingEntry) : ConsumerGroup :=
  let consumers := match group.consumers.lookup item.2.consumer with
    | some _ => group.consumers
    | none => group.consumers.insert item.2.consumer ⟨item.2.deliveryTimeMs, 0⟩
  { group with consumers := consumers, pending := group.pending.insert item.1 item.2 }

def recountAll : ConsumerGroup :=
  let cleared := { group with consumers := group.consumers.mapValues fun consumer => { consumer with pending := 0 } }
  group.pending.values.foldl (fun group entry => adjust entry.consumer (· + 1) group) cleared

end ConsumerGroup

structure GroupSnapshot where
  name : Bytes
  lastDeliveredId : StreamId
  pending : List (StreamId × PendingEntry)
  consumers : List (Bytes × Consumer)

structure StreamStateSnapshot where
  lastGeneratedId : StreamId
  entries : List (StreamId × List (Bytes × Bytes))
  groups : List GroupSnapshot

def GroupSnapshot.group (snapshot : GroupSnapshot) : ConsumerGroup :=
  let consumers := snapshot.consumers.foldl (fun (map : FiniteMap Bytes Consumer) item => map.insert item.1 item.2) ∅
  (snapshot.pending.foldl ConsumerGroup.importPending ⟨snapshot.lastDeliveredId, none, consumers, .empty⟩).recountAll

namespace RedisStream

def new : RedisStream := ⟨.empty, .zero, 0, .zero, ∅⟩

def lastId : StreamId := stream.entries.lastKey.getD .zero

def satSucc (value : UInt64) : UInt64 := if value.toNat < u64Max then value + 1 else value

def nextAutoId : StreamId :=
  if stream.lastGeneratedId.ms.toNat < now then ⟨UInt64.ofNat now, 0⟩
  else ⟨stream.lastGeneratedId.ms, satSucc stream.lastGeneratedId.seq⟩

def xadd (now : Nat) (idSpec : Bytes) (fields : List (Bytes × Bytes)) (stream : RedisStream) :
    Except Bytes (RedisStream × StreamId) :=
  let add (id : StreamId) := ({ stream with
    entries := stream.entries.insert id fields, lastGeneratedId := id, entriesAdded := satAdd stream.entriesAdded 1 }, id)
  if fields = [] then .error (ascii "ERR wrong number of arguments for 'xadd' command")
  else if idSpec = ascii "*" then .ok (add (stream.nextAutoId now))
  else match StreamId.parseExplicit idSpec with
    | none => .error invalidStreamId
    | some id =>
      if id = .zero then .error (ascii "ERR The ID specified in XADD must be greater than 0-0")
      else if id ≤ stream.lastGeneratedId then
        .error (ascii "ERR The ID specified in XADD is equal or smaller than the target stream top item")
      else .ok (add id)

def noteDeleted : RedisStream :=
  { stream with maxDeletedEntryId := max stream.maxDeletedEntryId id }

def removeEntryAndPel (id : StreamId) : RedisStream :=
  let removed := match stream.entries.lookup id with
    | some _ => noteDeleted id { stream with entries := stream.entries.erase id }
    | none => stream
  { removed with groups := removed.groups.mapValues (ConsumerGroup.releaseTrimmed walk id) }

def capped (limit : Option Nat) (ids : List StreamId) : List StreamId :=
  match limit with
  | some most => ids.take most
  | none => ids

variable (groupName : Bytes) (consumerName : Bytes) (ids : List StreamId)

def trimIds (stream : RedisStream) : RedisStream × Nat :=
  (ids.foldl (removeEntryAndPel walk) stream, ids.length)

def trimMaxlenLimit (most : Nat) (limit : Option Nat) (stream : RedisStream) : RedisStream × Nat :=
  trimIds walk (capped limit (stream.entries.keys.take (stream.entries.size - most))) stream

def trimMinidLimit (least : StreamId) (limit : Option Nat) (stream : RedisStream) : RedisStream × Nat :=
  trimIds walk (capped limit (stream.entries.keys.filter fun id => decide (id < least))) stream

def xaddWithTrim (idSpec : Bytes) (fields : List (Bytes × Bytes)) (maxlen : Option Nat)
    (minid : Option StreamId) (limit : Option Nat) (stream : RedisStream) : Except Bytes (RedisStream × StreamId) := do
  let (added, id) ← stream.xadd now idSpec fields
  match maxlen, minid with
  | some most, _ => return ((added.trimMaxlenLimit walk most limit).1, id)
  | none, some least => return ((added.trimMinidLimit walk least limit).1, id)
  | none, none => return (added, id)

def deleteEntry (state : RedisStream × Nat) (id : StreamId) : RedisStream × Nat :=
  match state.1.entries.lookup id with
  | none => state
  | some _ =>
    let stream := noteDeleted id { state.1 with entries := state.1.entries.erase id }
    ({ stream with groups := stream.groups.mapValues (ConsumerGroup.release id) }, state.2 + 1)

def xdel (stream : RedisStream) : RedisStream × Nat := ids.foldl deleteEntry (stream, 0)

def groupCreate (entriesRead : Option Nat) (stream : RedisStream) :
    Except Bytes RedisStream :=
  match stream.groups.lookup name with
  | some _ => .error (ascii "BUSYGROUP Consumer Group name already exists")
  | none => .ok { stream with groups := stream.groups.insert name (.new id entriesRead) }

def groupDestroy : RedisStream × Bool :=
  ({ stream with groups := stream.groups.erase name }, (stream.groups.lookup name).isSome)

def onGroup {α : Type} (name : Bytes) (operation : ConsumerGroup → ConsumerGroup × α) (stream : RedisStream) :
    Except Bytes (RedisStream × α) :=
  match stream.groups.lookup name with
  | none => .error noGroup
  | some group =>
    let (group, answer) := operation group
    .ok ({ stream with groups := stream.groups.insert name group }, answer)

def groupCreateConsumer (stream : RedisStream) :
    Except Bytes (RedisStream × Bool) :=
  stream.onGroup groupName fun group =>
    match group.consumers.lookup consumerName with
    | some _ => (group, false)
    | none => (group.touchConsumer now consumerName, true)

def groupDelConsumer (stream : RedisStream) : Except Bytes (RedisStream × Nat) :=
  stream.onGroup groupName fun group =>
    match group.consumers.lookup consumerName with
    | none => (group, 0)
    | some _ =>
      let kept := group.pending.filter fun _ entry => entry.consumer != consumerName
      ({ group with consumers := group.consumers.erase consumerName, pending := kept },
        group.pending.size - kept.size)

def groupSetid (entriesRead : Option Nat) (stream : RedisStream) :
    Except Bytes (RedisStream × Unit) :=
  stream.onGroup name fun group =>
    ({ group with lastDeliveredId := id, entriesRead := entriesRead.or group.entriesRead }, ())

def xsetid (entriesAdded : Option Nat) (maxDeleted : Option StreamId) (stream : RedisStream) :
    Except Bytes RedisStream :=
  let accepted := match stream.entries.lastKey with
    | some last => decide (last ≤ id)
    | none => true
  if accepted then .ok { stream with
    lastGeneratedId := id, entriesAdded := entriesAdded.getD stream.entriesAdded,
    maxDeletedEntryId := maxDeleted.getD stream.maxDeletedEntryId }
  else .error (ascii "ERR The ID specified in XSETID is smaller than the current top ID")

def claimId (deliveryTime : Nat) (name : Bytes) (opts : XClaimOpts)
    (entries : OrderedMap StreamId (List (Bytes × Bytes))) (state : ConsumerGroup × List StreamId) (id : StreamId) :
    ConsumerGroup × List StreamId :=
  match entries.lookup id with
  | none => (state.1.release id, state.2)
  | some _ =>
    let (group, claimed) := state.1.claim now deliveryTime name opts id
    (group, if claimed then state.2 ++ [id] else state.2)

def xclaim (opts : XClaimOpts) (stream : RedisStream) :
    Except Bytes (RedisStream × List StreamId) :=
  let deliveryTime := match opts.timeMs, opts.idleMs with
    | some time, _ => time
    | none, some idle => now - idle
    | none, none => now
  stream.onGroup groupName fun group =>
    ids.foldl (claimId now deliveryTime consumerName opts stream.entries) (group, [])

/-- The form in which a rewritten log restores pending entries. -/
def xclaimForce (deliveryTime retries : Option Nat)
    (stream : RedisStream) : Except Bytes (RedisStream × List StreamId) :=
  stream.xclaim now groupName consumerName ids ⟨0, true, deliveryTime, none, retries, false⟩

/-- What a scan of the pending list has come to. -/
structure Autoclaim where
  group : ConsumerGroup
  claimed : List StreamId
  deleted : List StreamId
  lastExamined : Option StreamId

/-- Claims the candidates one after the other until `count` of them are claimed. -/
def autoclaim (now : Nat) (name : Bytes) (opts : XClaimOpts) (count : Nat)
    (entries : OrderedMap StreamId (List (Bytes × Bytes))) : List StreamId → Autoclaim → Autoclaim
  | [], state => state
  | id :: rest, state =>
    let state := { state with lastExamined := some id }
    match entries.lookup id with
    | none =>
      let deleted := if (state.group.pending.lookup id).isSome then state.deleted ++ [id] else state.deleted
      autoclaim now name opts count entries rest { state with group := state.group.release id, deleted := deleted }
    | some _ =>
      if count ≤ state.claimed.length then state
      else
        let (group, claimed) := claimId now now name opts entries (state.group, state.claimed) id
        let state := { state with group := group, claimed := claimed }
        if count ≤ claimed.length then state else autoclaim now name opts count entries rest state

/-- Claims idle entries of the pending list from `start` on; answers where to go on, and the
entries that were claimed and those that were dropped since they are no longer in the stream. -/
def xautoclaim (minIdleMs : Nat) (start : StreamId) (count : Nat) (justId : Bool)
    (stream : RedisStream) : Except Bytes (RedisStream × StreamId × List StreamId × List StreamId) :=
  stream.onGroup groupName fun group =>
    let candidates := ((group.pending.fromKey start).filter fun id entry =>
      (stream.entries.lookup id).isNone || decide (minIdleMs ≤ now - entry.deliveryTimeMs)).keys
    let opts := ⟨minIdleMs, false, none, none, none, justId⟩
    let scanned := autoclaim now consumerName opts count stream.entries candidates ⟨group, [], [], none⟩
    let next := scanned.lastExamined.bind fun last => (scanned.group.pending.fromKey last.next).keys.head?
    (scanned.group, next.getD .zero, scanned.claimed, scanned.deleted)

/-- The loop tests its bound after it has taken an entry, so a bound of zero still yields one. -/
def collect (count : Option Nat) (ids : List StreamId) : List StreamId :=
  match count with
  | some most => ids.take (max most 1)
  | none => ids

/-- Reads new entries (`>`) or the consumer's own pending ones. -/
def xreadgroupOpts (idSpec : Bytes) (count : Option Nat) (noack : Bool)
    (stream : RedisStream) : Except Bytes (RedisStream × List StreamId) := do
  let some group := stream.groups.lookup groupName | .error noGroup
  if idSpec = ascii ">" then
    let ids := collect count (stream.entries.fromKey group.lastDeliveredId.next).keys
    let delivered := ids.foldl (ConsumerGroup.deliver now consumerName noack) (group.touchConsumer now consumerName)
    let counted := if noack then delivered else delivered.recount consumerName
    return ({ stream with groups := stream.groups.insert groupName counted }, ids)
  else
    let some after := if idSpec = ascii "0" ∨ idSpec = ascii "0-0" then some .zero else StreamId.ofText idSpec
      | .error invalidStreamId
    let own := (group.pending.fromKey after.next).filter fun id entry =>
      entry.consumer == consumerName && (stream.entries.lookup id).isSome
    let ids := collect count own.keys
    let redelivered := ids.foldl (ConsumerGroup.redeliver now) (group.touchConsumer now consumerName)
    return ({ stream with groups := stream.groups.insert groupName redelivered }, ids)

def xreadgroup (idSpec : Bytes) (count : Option Nat) (stream : RedisStream) :
    Except Bytes (RedisStream × List StreamId) :=
  stream.xreadgroupOpts now groupName consumerName idSpec count false

def acknowledge (state : ConsumerGroup × Nat) (id : StreamId) : ConsumerGroup × Nat :=
  match state.1.pending.lookup id with
  | some _ => (state.1.release id, state.2 + 1)
  | none => state

def xack (stream : RedisStream) : Except Bytes (RedisStream × Nat) :=
  stream.onGroup groupName fun group => ids.foldl acknowledge (group, 0)

def importState (state : StreamStateSnapshot) : RedisStream :=
  let entries := state.entries.foldl (fun map entry => map.insert entry.1 entry.2) OrderedMap.empty
  { entries := entries
    lastGeneratedId := match entries.lastKey with
      | some last => max state.lastGeneratedId last
      | none => state.lastGeneratedId
    entriesAdded := entries.size
    maxDeletedEntryId := .zero
    groups := state.groups.foldl (fun (map : FiniteMap Bytes ConsumerGroup) group => map.insert group.name group.group) ∅ }

end RedisStream

inductive StreamOp where
  | xadd (now : UInt64) (walk : Walk) (idSpec : Bytes) (fields : List (Bytes × Bytes)) (maxlen : Option Nat)
      (minid : Option StreamId) (limit : Option Nat)
  | trimMaxlen (walk : Walk) (most : Nat) (limit : Option Nat)
  | trimMinid (walk : Walk) (least : StreamId) (limit : Option Nat)
  | xdel (ids : List StreamId)
  | groupCreate (name : Bytes) (id : StreamId) (entriesRead : Option Nat)
  | groupDestroy (name : Bytes)
  | groupCreateConsumer (now : UInt64) (group consumer : Bytes)
  | groupDelConsumer (group consumer : Bytes)
  | groupSetid (name : Bytes) (id : StreamId) (entriesRead : Option Nat)
  | xsetid (id : StreamId) (entriesAdded : Option Nat) (maxDeleted : Option StreamId)
  | xclaim (now : UInt64) (group consumer : Bytes) (ids : List StreamId) (opts : XClaimOpts)
  | xautoclaim (now : UInt64) (group consumer : Bytes) (minIdleMs : Nat) (start : StreamId) (count : Nat) (justId : Bool)
  | xreadgroup (now : UInt64) (group consumer idSpec : Bytes) (count : Option Nat) (noack : Bool)
  | xack (group : Bytes) (ids : List StreamId)
  | importState (state : StreamStateSnapshot)

namespace RedisStream

def settle {α : Type} (stream : RedisStream) : Except Bytes (RedisStream × α) → RedisStream
  | .ok (after, _) => after
  | .error _ => stream

def step : StreamOp → RedisStream
  | .xadd now walk idSpec fields maxlen minid limit => stream.settle (stream.xaddWithTrim now.toNat walk idSpec fields maxlen minid limit)
  | .trimMaxlen walk most limit => (stream.trimMaxlenLimit walk most limit).1
  | .trimMinid walk least limit => (stream.trimMinidLimit walk least limit).1
  | .xdel ids => (stream.xdel ids).1
  | .groupCreate name id entriesRead => (stream.groupCreate name id entriesRead).toOption.getD stream
  | .groupDestroy name => (stream.groupDestroy name).1
  | .groupCreateConsumer now group consumer => stream.settle (stream.groupCreateConsumer now.toNat group consumer)
  | .groupDelConsumer group consumer => stream.settle (stream.groupDelConsumer group consumer)
  | .groupSetid name id entriesRead => stream.settle (stream.groupSetid name id entriesRead)
  | .xsetid id entriesAdded maxDeleted => (stream.xsetid id entriesAdded maxDeleted).toOption.getD stream
  | .xclaim now group consumer ids opts => stream.settle (stream.xclaim now.toNat group consumer ids opts)
  | .xautoclaim now group consumer minIdleMs start count justId =>
    stream.settle (stream.xautoclaim now.toNat group consumer minIdleMs start count justId)
  | .xreadgroup now group consumer idSpec count noack =>
    stream.settle (stream.xreadgroupOpts now.toNat group consumer idSpec count noack)
  | .xack group ids => stream.settle (stream.xack group ids)
  | .importState state => importState state

end RedisStream
end Kore.Cache
