import Kore.Cache.Keyspace
import Kore.Protocol.Resp

/-! String entries and expiries. Every operation runs at the one instant of its setting. -/

namespace Kore.Cache
open Foundation Protocol

structure StoreOptions where
  nx : Bool
  xx : Bool
  get : Bool
  ttlMs : Option Nat
  exatMs : Option Nat
  keepttl : Bool
  deriving DecidableEq

namespace StoreOptions

def default : StoreOptions := ⟨false, false, false, none, none, false⟩

/-- A past timestamp stores an entry that has already expired. -/
def resolveExpiration (now : Nat) (opts : StoreOptions) : Option Nat :=
  match opts.ttlMs, opts.exatMs with
  | some ttl, _ => some (now + ttl)
  | none, some exat => some (if exat ≤ now then now else exat)
  | none, none => none

end StoreOptions

inductive EntryAction where
  | keep
  | set (value : Bytes) (expiresAt : Option Nat)

inductive StoreOutcome where
  | exists (value : Bytes)
  | notExists
  | stored (oldForGet : Option Bytes)

/-- Casts between the two 64-bit integer types, which keep the low bits. -/
def wrapI64 (value : Int) : Int := Int.bmod value (2 ^ 64)

def asU64 (value : Int) : Nat := (value % 2 ^ 64).toNat

namespace Keyspace
variable {F : Type} {R : Type} (now : Nat) (key : Bytes) (keyspace : Keyspace F)

def ensureStringOrAbsent : Except Error (Keyspace F) :=
  let purged := keyspace.purgeIfExpired now key
  match purged.lookup key with
  | none => .ok purged
  | some slot =>
    match slot.value with
    | .string _ => .ok purged
    | _ => .error .wrongType

/-- Read-modify-write of a string; the callback sees the entry even if it has expired. -/
def mutateString (callback : Option Bytes → Option Nat → EntryAction × R) (keyspace : Keyspace F) :
    Except Error (Keyspace F × R) :=
  let finish (outcome : EntryAction × R) := match outcome.1 with
    | .keep => (keyspace, outcome.2)
    | .set value expiresAt => (keyspace.insert key ⟨expiresAt, .string value⟩, outcome.2)
  match keyspace.lookup key with
  | none => .ok (finish (callback none none))
  | some slot =>
    match slot.value with
    | .string value => .ok (finish (callback (some value) slot.expiresAt))
    | _ => .error .wrongType

def slotTtlLive (expiresAt : Option Nat) : Bool := expiresAt.all fun expiry => decide (now < expiry)

/-- The old value is returned when the entry was refused because it exists, or on request. -/
def store (setting : Setting) (key value : Bytes) (opts : StoreOptions) (keyspace : Keyspace F) :
    Except Error (Keyspace F × Option Bytes) :=
  if setting.maxEntrySize < key.length + value.length + setting.entryStructSize then .error .entryTooLarge
  else
    let expiresAt := opts.resolveExpiration setting.now
    let callback (current : Option Bytes) (slotExpires : Option Nat) : EntryAction × StoreOutcome :=
      let live := slotTtlLive setting.now slotExpires
      match current with
      | some existing =>
        if opts.nx && live then (.keep, .exists existing)
        else if opts.xx && !live then (.keep, .notExists)
        else
          let kept := if opts.keepttl && expiresAt.isNone && live then slotExpires else none
          (.set value (expiresAt.or kept), .stored (if opts.get && live then some existing else none))
      | none =>
        if opts.xx then (.keep, .notExists)
        else (.set value expiresAt, .stored none)
    (keyspace.mutateString key callback).map fun (keyspace, outcome) =>
      match outcome with
      | .exists existing => (keyspace, some existing)
      | .notExists => (keyspace, none)
      | .stored old => (keyspace, old)

def load : Keyspace F × Option Bytes :=
  match keyspace.lookup key with
  | none => (keyspace, none)
  | some slot =>
    match slot.value with
    | .string value => if slot.isExpired now then (keyspace.erase key, none) else (keyspace, some value)
    | _ => (keyspace, none)

def incrDecr (delta : Int) (keyspace : Keyspace F) : Except Error (Keyspace F × Int) :=
  let add (current : Int) (expiresAt : Option Nat) : EntryAction × Except Error Int :=
    let sum := wrapI64 (current + delta)
    (.set (integerText sum) expiresAt, .ok sum)
  let callback (current : Option Bytes) (slotExpires : Option Nat) : EntryAction × Except Error Int :=
    match current with
    | some value =>
      if slotTtlLive now slotExpires then
        match i64OfText value with
        | some number => add number slotExpires
        | none => (.keep, .error (.invalidArgument (ascii "value is not a valid integer")))
      else add 0 none
    | none => add 0 none
  match keyspace.mutateString key callback with
  | .error error => .error error
  | .ok (_, .error error) => .error error
  | .ok (keyspace, .ok sum) => .ok (keyspace, sum)

def incr (delta : Int) (keyspace : Keyspace F) : Except Error (Keyspace F × Int) :=
  keyspace.incrDecr now key delta

def decr (delta : Int) (keyspace : Keyspace F) : Except Error (Keyspace F × Int) :=
  keyspace.incrDecr now key (wrapI64 (-delta))

def append (setting : Setting) (key suffix : Bytes) (keyspace : Keyspace F) : Except Error (Keyspace F × Nat) := do
  let purged ← keyspace.ensureStringOrAbsent setting.now key
  let callback (current : Option Bytes) (slotExpires : Option Nat) : EntryAction × Except Error Nat :=
    let value := current.getD [] ++ suffix
    if setting.maxEntrySize < key.length + value.length + setting.entryStructSize then (.keep, .error .entryTooLarge)
    else (.set value slotExpires, .ok value.length)
  match ← purged.mutateString key callback with
  | (_, .error error) => .error error
  | (keyspace, .ok length) => .ok (keyspace, length)

def expire (ttlMs : Nat) (keyspace : Keyspace F) : Keyspace F × Bool :=
  let purged := keyspace.purgeIfExpired now key
  match purged.lookup key with
  | none => (purged, false)
  | some slot =>
    if ttlMs = 0 then (purged.delete key, true)
    else (purged.insert key { slot with expiresAt := some (now + ttlMs) }, true)

def expireAtUnixMs (expireUnixMs : Int) (keyspace : Keyspace F) : Keyspace F × Bool :=
  let purged := keyspace.purgeIfExpired now key
  match purged.lookup key with
  | none => (purged, false)
  | some _ =>
    if expireUnixMs ≤ now then (purged.delete key, true)
    else purged.expire now key (expireUnixMs - now).toNat

def persist : Keyspace F × Bool :=
  match keyspace.lookup key with
  | some slot => if slot.expiresAt.isSome then (keyspace.insert key { slot with expiresAt := none }, true) else (keyspace, false)
  | none => (keyspace, false)

/-- Remaining milliseconds as a signed word, −1 without expiry, −2 without key. -/
def ttl : Int :=
  match (keyspace.purgeIfExpired now key).lookup key with
  | some slot =>
    match slot.expiresAt with
    | some expiry => wrapI64 (expiry - now)
    | none => -1
  | none => -2

def setTypedExpireUnixMs (expireUnixMs : Int) (keyspace : Keyspace F) : Keyspace F :=
  if expireUnixMs < 0 then keyspace
  else if expireUnixMs ≤ now then keyspace.delete key
  else match keyspace.lookup key with
    | some slot =>
      if slot.value.isTypedContainer then keyspace.insert key { slot with expiresAt := some expireUnixMs.toNat }
      else keyspace
    | none => keyspace

end Keyspace
end Kore.Cache
