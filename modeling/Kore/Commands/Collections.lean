import Kore.Commands.Strings

/-! Handlers of the list, set, hash, sorted-set and geo commands. Capacity checks are left
out: a run without eviction is one in which they pass. -/

namespace Kore.Commands
open Foundation Protocol Cache Double

variable {F : Type}

/-- The loop that walks its arguments two at a time and ignores a last odd one. -/
def pairs : List Bytes → List (Bytes × Bytes)
  | first :: second :: rest => (first, second) :: pairs rest
  | _ => []

section
variable {α : Type} (container : Container F α) (setting : Setting) (keyspace : Keyspace F) (key : Bytes)

def guardType (proceed : Keyspace F → Handled F) : Handled F :=
  let purged := keyspace.purgeIfExpired setting.now key
  match keyspace.keyType setting.now key with
  | none => proceed purged
  | some type => if type = container.type then proceed purged else (purged, refusal .wrongType)

def changeOrCreate (change : α → α × Answer) : Handled F :=
  match keyspace.getOrCreate container setting.now key with
  | .error error => (keyspace, refusal error)
  | .ok (keyspace, value) =>
    let (value, answer) := change value
    (keyspace.write container key value, answer)

end

def changeOrRemove {α : Type} (container : Container F α) (isEmpty : α → Bool) (keyspace : Keyspace F) (key : Bytes)
    (missing : RespValue) (change : α → α × RespValue) : Handled F :=
  match keyspace.get container key with
  | none => (keyspace, .ok missing)
  | some value =>
    let (value, reply) := change value
    let written := keyspace.write container key value
    (if isEmpty value then written.remove container key else written, .ok reply)

def lpush (values items : List Bytes) : List Bytes := values.foldl (fun items value => value :: items) items

def rpush (values items : List Bytes) : List Bytes := items ++ values

/-- An end of a range: a negative index counts from behind the last element, but not beyond the first. -/
def rangeEnd (length : Nat) (index : Int) : Int := if index < 0 then max (length + index) 0 else index

variable (start stop : Int)

def lrange (items : List Bytes) : List Bytes :=
  let startIdx := rangeEnd items.length start
  let stopIdx := rangeEnd items.length stop
  if items.length = 0 then []
  else if stopIdx < startIdx ∨ items.length ≤ startIdx then []
  else (items.drop startIdx.toNat).take (min stopIdx (items.length - 1) - startIdx + 1).toNat

/-- Drops the tail first and then the head. -/
def ltrim (items : List Bytes) : List Bytes :=
  let startIdx := rangeEnd items.length start
  let stopIdx := rangeEnd items.length stop
  if items.length = 0 then items
  else if stopIdx < startIdx ∨ items.length ≤ startIdx then []
  else (items.take ((min stopIdx (items.length - 1)).toNat + 1)).drop startIdx.toNat

/-- Members by rank, from the lowest score up or from the highest down. -/
def SortedSet.range (reverse : Bool) (ranked : List Bytes) : List Bytes :=
  let startIdx := rangeEnd ranked.length start
  let stopIdx := rangeEnd ranked.length stop
  if ranked.length = 0 then []
  else if stopIdx < startIdx ∨ ranked.length ≤ startIdx then []
  else (List.range' startIdx.toNat (min stopIdx (ranked.length - 1) - startIdx + 1).toNat).filterMap fun rank =>
    ranked[if reverse then ranked.length - 1 - rank else rank]?

def SortedSet.removeRangeByRank (ranked : List Bytes) : List Bytes × Nat :=
  (SortedSet.range start stop false ranked).foldl (fun (left, count) member =>
    if member ∈ left then (left.erase member, count + 1) else (left, count)) (ranked, 0)

def push (name : String) (insert : List Bytes → List Bytes → List Bytes) (setting : Setting) (keyspace : Keyspace F) :
    List Bytes → Handled F
  | key :: value :: values =>
    changeOrCreate lists setting keyspace key fun items =>
      let items := insert (value :: values) items
      (items, .ok (.integer items.length))
  | _ => (keyspace, .ok (.error (ascii "ERR wrong number of arguments for '" ++ ascii name ++ ascii "' command")))

variable (setting : Setting) (keyspace : Keyspace F)

def handleLpush : Keyspace F → List Bytes → Handled F := push "lpush" lpush setting

def handleRpush : Keyspace F → List Bytes → Handled F := push "rpush" rpush setting

/-- One end of a list: what is left after taking `count` elements there, and those taken. -/
structure ListEnd where
  rest : Nat → List Bytes → List Bytes
  taken : Nat → List Bytes → List Bytes

def leftEnd : ListEnd := ⟨List.drop, List.take⟩

def rightEnd : ListEnd :=
  ⟨fun count items => items.take (items.length - count), fun count items => items.reverse.take count⟩

def popCount (args : List Bytes) : Except String (Option Nat) :=
  match args with
  | [] => .ok none
  | text :: _ =>
    match i64OfText text with
    | some count => if 0 ≤ count then .ok (some count.toNat) else .error "ERR value is not an integer or out of range"
    | none => .error "ERR value is not an integer or out of range"

def pop (name : String) (side : ListEnd) (setting : Setting) (keyspace : Keyspace F) (args : List Bytes) : Handled F :=
  match args with
  | key :: options =>
    if 1 < options.length then
      (keyspace, .ok (.error (ascii "ERR wrong number of arguments for '" ++ ascii name ++ ascii "' command")))
    else guardType lists setting keyspace key fun keyspace =>
      match popCount options with
      | .error text => (keyspace, failure text)
      | .ok none => changeOrRemove lists List.isEmpty keyspace key .nil fun items =>
          (side.rest 1 items, .bulkString (side.taken 1 items).head?)
      | .ok (some count) => changeOrRemove lists List.isEmpty keyspace key .nil fun items =>
          (side.rest count items, .array ((side.taken count items).map fun item => .bulkString (some item)))
  | [] => (keyspace, .ok (.error (ascii "ERR wrong number of arguments for '" ++ ascii name ++ ascii "' command")))

def handleLpop : Keyspace F → List Bytes → Handled F := pop "lpop" leftEnd setting

def handleRpop : Keyspace F → List Bytes → Handled F := pop "rpop" rightEnd setting

variable (members : List Bytes)

def sadd (set : Finset Bytes) : Finset Bytes := members.foldl (fun set member => insert member set) set

def srem (set : Finset Bytes) : Finset Bytes := members.foldl Finset.erase set

def handleSadd : List Bytes → Handled F
  | key :: member :: members =>
    changeOrCreate sets setting keyspace key fun set =>
      let grown := sadd (member :: members) set
      (grown, .ok (.integer (grown.card - set.card)))
  | _ => (keyspace, failure "ERR wrong number of arguments for 'sadd' command")

def handleSrem : List Bytes → Handled F
  | key :: member :: members =>
    guardType sets setting keyspace key fun keyspace =>
      changeOrRemove sets (fun set => decide (set = ∅)) keyspace key (.integer 0) fun set =>
        let shrunk := srem (member :: members) set
        (shrunk, .integer (set.card - shrunk.card))
  | _ => (keyspace, failure "ERR wrong number of arguments for 'srem' command")

def hset (fields : FiniteMap Bytes Bytes) (pair : Bytes × Bytes) : FiniteMap Bytes Bytes := fields.insert pair.1 pair.2

def hdel (names : List Bytes) (fields : FiniteMap Bytes Bytes) : FiniteMap Bytes Bytes :=
  names.foldl (fun fields name => fields.erase name) fields

def handleHset (args : List Bytes) : Handled F :=
  match args with
  | key :: rest =>
    if rest.length < 2 ∨ rest.length % 2 = 1 then (keyspace, failure "ERR wrong number of arguments for 'hset' command")
    else changeOrCreate hashes setting keyspace key fun fields =>
      let grown := (pairs rest).foldl hset fields
      (grown, .ok (.integer (grown.keys.card - fields.keys.card)))
  | [] => (keyspace, failure "ERR wrong number of arguments for 'hset' command")

def handleHdel : List Bytes → Handled F
  | key :: name :: names =>
    guardType hashes setting keyspace key fun keyspace =>
      changeOrRemove hashes (fun fields => decide (fields.keys = ∅)) keyspace key (.integer 0) fun fields =>
        let shrunk := hdel (name :: names) fields
        (shrunk, .integer (fields.keys.card - shrunk.keys.card))
  | _ => (keyspace, failure "ERR wrong number of arguments for 'hdel' command")

structure ZaddFlags where
  nx : Bool
  xx : Bool
  gt : Bool
  lt : Bool
  ch : Bool
  incr : Bool

inductive ZaddToken where
  | nx | xx | gt | lt | ch | incr

def ZaddToken.table : List (Bytes × ZaddToken) :=
  [(ascii "NX", .nx), (ascii "XX", .xx), (ascii "GT", .gt), (ascii "LT", .lt), (ascii "CH", .ch), (ascii "INCR", .incr)]

def ZaddToken.ofText (text : Bytes) : Option ZaddToken := ZaddToken.table.lookup (upper text)

def ZaddToken.apply (flags : ZaddFlags) : ZaddToken → ZaddFlags
  | nx => { flags with nx := true }
  | xx => { flags with xx := true }
  | gt => { flags with gt := true }
  | lt => { flags with lt := true }
  | ch => { flags with ch := true }
  | incr => { flags with incr := true }

def zaddFlags (flags : ZaddFlags) : List Bytes → ZaddFlags × List Bytes
  | [] => (flags, [])
  | text :: rest =>
    match ZaddToken.ofText text with
    | some token => zaddFlags (token.apply flags) rest
    | none => (flags, text :: rest)

variable [Double F]

def scorePairs : List Bytes → Except String (List (F × Bytes))
  | score :: member :: rest => do
    let some score := parse score | .error "ERR value is not a valid float"
    return (score, member) :: (← scorePairs rest)
  | [] => .ok []
  | [_] => .error "ERR wrong number of arguments for 'zadd'"

def scoresEqual (first second : F) : Bool := isNan first && isNan second || equal first second

/-- Equality of the wrapper under which scores are ordered. -/
def orderedEqual (first second : F) : Bool :=
  match isNan first, isNan second with
  | true, true => true
  | false, false => equal first second
  | _, _ => false

def zsetAdd (set : FiniteMap Bytes F) (member : Bytes) (score : F) : FiniteMap Bytes F :=
  match set.lookup member with
  | some old => if orderedEqual old score then set else set.insert member score
  | none => set.insert member score

structure ZaddState (F : Type) where
  set : FiniteMap Bytes F
  added : Nat
  changed : Nat

def zaddStep (flags : ZaddFlags) (state : ZaddState F) (pair : F × Bytes) : ZaddState F :=
  match state.set.lookup pair.2 with
  | some old =>
    if flags.nx || (flags.gt && !less old pair.1) || (flags.lt && !less pair.1 old) || scoresEqual old pair.1
    then state
    else ⟨zsetAdd state.set pair.2 pair.1, state.added, state.changed + 1⟩
  | none =>
    if flags.xx then state
    else ⟨zsetAdd state.set pair.2 pair.1, state.added + 1, state.changed + 1⟩

/-- `ZADD … INCR` on one member; a refused increment leaves the set as it is. -/
def zaddIncr (flags : ZaddFlags) (delta : F) (member : Bytes) (set : FiniteMap Bytes F) : FiniteMap Bytes F × Answer :=
  let old := set.lookup member
  let score := add (old.getD zero) delta
  let blocked := match old with
    | some old => (flags.gt && !less old score) || (flags.lt && !less score old)
    | none => false
  if (flags.nx && old.isSome) || (flags.xx && old.isNone) then (set, .ok .nil)
  else if isNan score then (set, failure "ERR resulting score is not a number (NaN)")
  else if blocked then (set, .ok .nil)
  else (zsetAdd set member score, .ok (.bulkString (some (formatScore score))))

def zaddConflict (flags : ZaddFlags) : Option String :=
  if flags.nx && flags.xx then some "ERR XX and NX options at the same time are not compatible"
  else if flags.gt && flags.lt || flags.nx && (flags.gt || flags.lt) then
    some "ERR GT, LT, and/or NX options at the same time are not compatible"
  else none

def handleZadd (setting : Setting) (keyspace : Keyspace F) (args : List Bytes) : Handled F :=
  match args with
  | key :: first :: second :: rest =>
    let (flags, words) := zaddFlags ⟨false, false, false, false, false, false⟩ (first :: second :: rest)
    match zaddConflict flags with
    | some text => (keyspace, failure text)
    | none =>
      match scorePairs words with
      | .error text => (keyspace, failure text)
      | .ok [] => (keyspace, failure "ERR wrong number of arguments for 'zadd'")
      | .ok ((score, member) :: more) =>
        if flags.incr ∧ more ≠ [] then (keyspace, failure "ERR INCR option supports a single increment-element pair")
        else guardType sortedSets setting keyspace key fun keyspace =>
          if flags.xx ∧ keyspace.lookup key = none then
            (keyspace, .ok (if flags.incr then .nil else .integer 0))
          else if flags.incr then
            changeOrCreate sortedSets setting keyspace key (zaddIncr flags score member)
          else match keyspace.getOrCreate sortedSets setting.now key with
            | .error error => (keyspace, refusal error)
            | .ok (keyspace, set) =>
              let state := ((score, member) :: more).foldl (zaddStep flags) ⟨set, 0, 0⟩
              let written := keyspace.write sortedSets key state.set
              (if state.set.keys = ∅ then written.delete key else written,
                .ok (.integer (if flags.ch then state.changed else state.added)))
  | _ => (keyspace, failure "ERR wrong number of arguments for 'zadd'")

def zrem (set : FiniteMap Bytes F) : FiniteMap Bytes F :=
  members.foldl (fun set member => set.erase member) set

/-- An emptied sorted set stays under its key. -/
def handleZrem : List Bytes → Handled F
  | key :: member :: members =>
    guardType sortedSets setting keyspace key fun keyspace =>
      changeOrRemove sortedSets (fun _ => false) keyspace key (.integer 0) fun set =>
        let shrunk := zrem (member :: members) set
        (shrunk, .integer (set.keys.card - shrunk.keys.card))
  | _ => (keyspace, failure "ERR wrong number of arguments for 'zrem'")

structure GeoAddOptions where
  nx : Bool
  xx : Bool
  get : Bool
  ch : Bool

inductive GeoToken where
  | nx | xx | get | ch

def GeoToken.table : List (Bytes × GeoToken) :=
  [(ascii "NX", .nx), (ascii "XX", .xx), (ascii "GET", .get), (ascii "CH", .ch)]

def GeoToken.ofText (text : Bytes) : Option GeoToken := GeoToken.table.lookup (upper text)

variable (opts : GeoAddOptions)

def GeoToken.apply : GeoToken → GeoAddOptions
  | nx => { opts with nx := true }
  | xx => { opts with xx := true }
  | get => { opts with get := true }
  | ch => { opts with ch := true }

def geoFlags (opts : GeoAddOptions) : List Bytes → GeoAddOptions × List Bytes
  | [] => (opts, [])
  | text :: rest =>
    match GeoToken.ofText text with
    | some token => geoFlags (token.apply opts) rest
    | none => (opts, text :: rest)

def triplets : List Bytes → Except String (List (F × F × Bytes))
  | longitude :: latitude :: member :: rest => do
    let some longitude := parse longitude | .error "ERR value is not a valid float"
    let some latitude := parse latitude | .error "ERR value is not a valid float"
    return (longitude, latitude, member) :: (← triplets rest)
  | _ => .ok []

structure GeoState (F : Type) where
  set : FiniteMap Bytes (F × F)
  count : Nat
  positions : List RespValue

def positionReply (position : F × F) : RespValue :=
  .array [.bulkString (some (formatCoordinate position.1)), .bulkString (some (formatCoordinate position.2))]

def geoStep (state : GeoState F) (point : F × F × Bytes) : GeoState F :=
  let (longitude, latitude, member) := point
  match state.set.lookup member with
  | some old =>
    if opts.nx then { state with positions := state.positions ++ [.nil] }
    else ⟨state.set.insert member (longitude, latitude), if opts.ch then state.count + 1 else state.count,
      state.positions ++ [positionReply old]⟩
  | none =>
    if opts.xx then { state with positions := state.positions ++ [.nil] }
    else ⟨state.set.insert member (longitude, latitude), state.count + 1, state.positions ++ [.nil]⟩

/-- Adds points until the first invalid one; those before it stay. -/
def geoAddAll (opts : GeoAddOptions) : GeoState F → List (F × F × Bytes) → GeoState F × Bool
  | state, [] => (state, true)
  | state, point :: rest =>
    if isValidCoordinates point.1 point.2.1 then geoAddAll opts (geoStep opts state point) rest
    else (state, false)

def handleGeoadd (setting : Setting) (keyspace : Keyspace F) (args : List Bytes) : Handled F :=
  match args with
  | key :: rest =>
    if rest.length < 3 then (keyspace, failure "ERR wrong number of arguments for 'geoadd' command")
    else
      let (opts, words) := geoFlags ⟨false, false, false, false⟩ rest
      if opts.nx && opts.xx then (keyspace, failure "ERR XX and NX options at the same time are not compatible")
      else match triplets words with
        | .error text => (keyspace, failure text)
        | .ok [] => (keyspace, failure "ERR wrong number of arguments for 'geoadd' command")
        | .ok (point :: points) =>
          changeOrCreate geoSets setting keyspace key fun set =>
            let (state, valid) := geoAddAll opts ⟨set, 0, []⟩ (point :: points)
            (state.set,
              if valid then .ok (if opts.get then .array state.positions else .integer state.count)
              else failure "ERR invalid longitude,latitude pair")
  | [] => (keyspace, failure "ERR wrong number of arguments for 'geoadd' command")

end Kore.Commands
