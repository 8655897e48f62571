import Kore.Cache.Room
import Kore.Commands.KeyAccess

/-! `SORT`: its options, the order of its elements and the list it stores. -/

namespace Kore.Commands
open Foundation Protocol Cache

structure SortOptions where
  alpha : Bool
  desc : Bool
  nosort : Bool
  limitOffset : Nat
  limitCount : Option Int
  storeDest : Option Bytes

/-- What `SORT` leaves to others: the order in which members of a set come, the ranking of a
sorted set, and the finite numbers that texts stand for. -/
structure SortWalk (F : Type) where
  members : Finset Bytes → List Bytes
  ranked : FiniteMap Bytes F → List Bytes
  number : Bytes → Option F

def SortOptions.none : SortOptions := ⟨false, false, false, 0, Option.none, Option.none⟩

def syntaxError : Bytes := ascii "ERR syntax error"

def notAnInteger : Bytes := ascii "ERR value is not an integer or out of range"

def sortOptions (opts : SortOptions) : List RespValue → Except Bytes SortOptions
  | [] => .ok opts
  | word :: rest =>
    match word.asBulkString with
    | none => .error syntaxError
    | some _ =>
      if isWord "ALPHA" word then sortOptions { opts with alpha := true } rest
      else if isWord "ASC" word then sortOptions { opts with desc := false } rest
      else if isWord "DESC" word then sortOptions { opts with desc := true } rest
      else if isWord "BY" word then
        match rest with
        | pattern :: rest =>
          match pattern.asBulkString with
          | none => .error syntaxError
          | some pattern =>
            if lower pattern = ascii "nosort" then sortOptions { opts with nosort := true } rest
            else .error (ascii "ERR BY pattern not supported (only BY nosort)")
        | [] => .error syntaxError
      else if isWord "LIMIT" word then
        match rest with
        | offset :: count :: rest =>
          match integerOf offset, integerOf count with
          | some offset, some count =>
            if 0 ≤ offset then sortOptions { opts with limitOffset := offset.toNat, limitCount := some count } rest
            else .error notAnInteger
          | _, _ => .error notAnInteger
        | _ => .error syntaxError
      else if isWord "STORE" word then
        match rest with
        | key :: rest =>
          match key.asBulkString with
          | some key => sortOptions { opts with storeDest := some key } rest
          | none => .error (ascii "ERR invalid destination key")
        | [] => .error syntaxError
      else if isWord "GET" word then .error (ascii "ERR GET option not supported")
      else .error syntaxError

namespace SortOptions
variable {F : Type} [Double F]

/-- Stable sorting, by bytes or by number; no result if some element is no number. -/
def order (walk : SortWalk F) (opts : SortOptions) (elements : List Bytes) : Option (List Bytes) :=
  let directed (elements : List Bytes) := if opts.desc then elements.reverse else elements
  if opts.nosort then some (directed elements)
  else if opts.alpha then some (directed (elements.insertionSort fun first second => ¬ second < first))
  else do
    let scored ← elements.mapM fun element => (walk.number element).map fun number => (number, element)
    some (directed ((scored.insertionSort fun first second => Double.less second.1 first.1 = false).map Prod.snd))

def limit (opts : SortOptions) (elements : List Bytes) : List Bytes :=
  match opts.limitCount with
  | Option.none => elements
  | some count =>
    if elements.length ≤ opts.limitOffset then []
    else if count < 0 then elements.drop opts.limitOffset
    else (elements.drop opts.limitOffset).take count.toNat

end SortOptions

variable {F : Type}

/-- The elements under a key; no result for a key of another type. -/
def sortSource (walk : SortWalk F) (value : Option (KeyValue F)) : Option (List Bytes) :=
  match value with
  | none => some []
  | some (.list items) => some items
  | some (.set members) => some (walk.members members)
  | some (.zset members) => some (walk.ranked members)
  | some _ => none

/-- Overwrites the destination, whatever it holds. It is gone before room is asked for. -/
def sortInto (now : Nat) (dest : Bytes) (elements : List Bytes) (room : Room F) : Room F × Answer :=
  let room := room.onKeyspace (·.delete dest)
  if elements = [] then (room, .ok (.integer 0))
  else match room.ensureCapacity with
    | (room, .error refusal) => (room, .ok (.error refusal.toRespString))
    | (room, .ok ()) =>
      match room.getOrCreate lists now dest with
      | (room, .error refusal) => (room, .ok (.error refusal.toRespString))
      | (room, .ok items) => (room.onKeyspace (·.write lists dest (items ++ elements)), .ok (.integer elements.length))

def handleSort [Double F] (walk : SortWalk F) (now : Nat) (room : Room F) : List RespValue → Room F × Answer
  | [] => (room, failure "ERR wrong number of arguments for 'sort' command")
  | source :: options =>
    match source.asBulkString with
    | none => (room, failure "ERR invalid key")
    | some key =>
      match sortOptions .none options with
      | .error text => (room, .ok (.error text))
      | .ok opts =>
        let room := room.purge now key
        match sortSource walk ((room.keyspace.lookup key).map KeySlot.value) with
        | none => (room, .ok (.error Error.wrongType.toRespString))
        | some elements =>
          match opts.order walk elements with
          | none => (room, failure "ERR One or more scores can't be converted into double")
          | some ordered =>
            match opts.storeDest with
            | none => (room, .ok (.array ((opts.limit ordered).map fun element => .bulkString (some element))))
            | some dest => sortInto now dest (opts.limit ordered) room

end Kore.Commands
