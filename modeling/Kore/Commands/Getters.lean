import Kore.Cache.Expiration
import Kore.Cache.Strings

/-! `GETDEL` and `GETEX` of several connections on one key, beside other commands on it. Every
operation on the table is a step of its own, and so is every look at the clock. The handlers
ask for the type of the key, which purges it first, read its value with `load`, and change the
key after that; `expire` asks for the type once more. -/

namespace Kore.Commands.Getters
open Foundation Cache

structure GetexOptions where
  ttlMs : Option Nat
  exatMs : Option Nat
  persist : Bool

inductive Getter where
  | getdel
  | getex (opts : GetexOptions)

/-- Who asks for the type of the key: the handler, or `expire` once the value has been read. -/
inductive Caller where
  | handler (getter : Getter)
  | expire (getter : Getter) (text : Bytes) (ttlMs : Nat)

inductive Answer where
  | value (text : Bytes)
  | null
  | error

/-- What a connection is about to do: the steps of `key_type`, those of `load`, the change. -/
inductive Stage (F : Type) where
  | idle
  | purge (caller : Caller)
  | purging (caller : Caller) (expiry : Nat)
  | removing (caller : Caller)
  | typing (caller : Caller)
  | loading (getter : Getter)
  | reading (getter : Getter) (slot : KeySlot F)
  | dropping
  | loaded (getter : Getter) (text : Bytes)
  | expiring (getter : Getter) (text : Bytes) (ttlMs : Nat)
  | dated (getter : Getter) (text : Bytes) (expiry : Nat)
  | ended (answer : Answer)

variable {F κ : Type}

def Stage.typed : Caller → Option KeyType → Stage F
  | .handler getter, type => if type.all (· = .string) then .loading getter else .ended .error
  | .expire _ text _, none => .ended (.value text)
  | .expire getter text ttlMs, some _ => .expiring getter text ttlMs

/-- The next step of a connection. An eviction that a store brings about is a removal of its own. -/
def Stage.advance (setting : Setting) (key : Bytes) (keyspace : Keyspace F) : Stage F → Keyspace F × Stage F
  | .purge caller =>
    (keyspace, match (keyspace.lookup key).bind KeySlot.expiresAt with
      | some expiry => .purging caller expiry
      | none => .typing caller)
  | .purging caller expiry => (keyspace, if setting.now < expiry then .typing caller else .removing caller)
  | .removing caller => (keyspace.erase key, typed caller none)
  | .typing caller => (keyspace, typed caller ((keyspace.lookup key).map fun slot => slot.value.keyType))
  | .loading getter =>
    (keyspace, match keyspace.lookup key with
      | some slot => .reading getter slot
      | none => .ended .null)
  | .reading getter slot =>
    (keyspace, match slot.value with
      | .string text => if slot.isExpired setting.now then .dropping else .loaded getter text
      | _ => .ended .null)
  | .dropping => (keyspace.erase key, .ended .null)
  | .loaded .getdel text => (keyspace.delete key, .ended (.value text))
  | .loaded (.getex opts) text =>
    if opts.persist then
      match keyspace.store setting key text .default with
      | .ok (stored, _) => (stored, .ended (.value text))
      | .error _ => (keyspace, .ended .error)
    else
      match opts.ttlMs, opts.exatMs with
      | some ms, _ => (keyspace, .purge (.expire (.getex opts) text ms))
      | none, some timestamp =>
        (keyspace, if setting.now < timestamp then .purge (.expire (.getex opts) text (timestamp - setting.now))
          else .ended (.value text))
      | none, none => (keyspace, .ended (.value text))
  | .expiring getter text ttlMs =>
    if ttlMs = 0 then (keyspace.delete key, .ended (.value text)) else (keyspace, .dated getter text (setting.now + ttlMs))
  | .dated _ text expiry =>
    (match keyspace.lookup key with
      | some slot => keyspace.insert key { slot with expiresAt := some expiry }
      | none => keyspace, .ended (.value text))
  | stage => (keyspace, stage)

structure Shared (F κ : Type) where
  keyspace : Keyspace F
  setting : Setting
  stages : κ → Stage F

/-- Another command's operation on the key, the clock, a call, the next step of a call, or a
store of a call that finds no room. -/
inductive GetterAction (F κ : Type) where
  | write (slot : Option (KeySlot F))
  | tick (elapsed : Nat)
  | start (client : κ) (getter : Getter)
  | proceed (client : κ)
  | refuse (client : κ)

variable [DecidableEq κ]

def Shared.step (key : Bytes) (shared : Shared F κ) : GetterAction F κ → Shared F κ
  | .write slot => { shared with keyspace := Expiration.put key slot shared.keyspace }
  | .tick elapsed => { shared with setting := { shared.setting with now := shared.setting.now + elapsed } }
  | .start client getter =>
    match shared.stages client with
    | .idle | .ended _ => { shared with stages := Function.update shared.stages client (.purge (.handler getter)) }
    | _ => shared
  | .proceed client =>
    let (keyspace, stage) := (shared.stages client).advance shared.setting key shared.keyspace
    { shared with keyspace, stages := Function.update shared.stages client stage }
  | .refuse client =>
    match shared.stages client with
    | .loaded (.getex ⟨_, _, true⟩) _ => { shared with stages := Function.update shared.stages client (.ended .error) }
    | _ => shared

end Kore.Commands.Getters
