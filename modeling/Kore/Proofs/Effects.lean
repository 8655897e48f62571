import Kore.Proofs.Repetition

/-! What the operations of the keyspace leave behind: a purge leaves no expired slot, a store
that succeeds has checked its entry, and a container is read back as it was written. -/

namespace Kore.Proofs.Effects
open Foundation Cache Commands Repetition Finmap Keyspace

variable {F α : Type} {setting : Setting} {before keyspace : Keyspace F} {slot : KeySlot F} {key : Bytes}

def Absent (setting : Setting) (keyspace : Keyspace F) (key : Bytes) : Prop :=
  (keyspace.purgeIfExpired setting.now key).lookup key = none

theorem absent_of_expired (expired : (before.lookup key).any (fun slot => slot.isExpired setting.now) = true) :
    Absent setting before key := by
  obtain ⟨slot, found, past⟩ := (Option.any_eq_true _ _).mp expired
  rw [Absent, lookup_purge_of_expired found past, lookup_erase]

theorem live_of_purged (found : (before.purgeIfExpired setting.now key).lookup key = some slot) :
    slot.isExpired setting.now = false := by
  by_contra expired
  have absent : Absent setting (before.purgeIfExpired setting.now key) key :=
    absent_of_expired (by rw [found]; exact Bool.not_eq_false _ ▸ expired)
  rw [Absent, purge_purge, found] at absent
  cases absent

theorem store_result {stored : Keyspace F} {value : Bytes} {opts : StoreOptions} {old : Option Bytes}
    (done : keyspace.store setting key value opts = .ok (stored, old)) :
    key.length + value.length + setting.entryStructSize ≤ setting.maxEntrySize ∧
    (keyspace.lookup key).any (fun slot => slot.value.isTypedContainer) = false ∧
    stored = if opts.nx && live setting keyspace key || opts.xx && !live setting keyspace key then keyspace
      else keyspace.insert key ⟨(opts.resolveExpiration setting.now).or (keptExpiry setting keyspace key opts), .string value⟩ := by
  have state := store_state setting keyspace key value opts
  rw [done] at state
  split at state
  next => cases state
  next fits =>
    split at state
    next => cases state
    next untyped => exact ⟨not_lt.mp fits, Bool.not_eq_true _ ▸ untyped, Except.ok.inj state⟩

structure Lawful (container : Container F α) : Prop where
  unwrap_wrap : ∀ value, container.unwrap (container.wrap value) = some value
  wrap_unwrap : ∀ {value content}, container.unwrap value = some content → container.wrap content = value

theorem streams_lawful : Lawful (streams : Container F RedisStream) :=
  ⟨fun _ => rfl, fun {value _} found => by cases value <;> simp_all [streams]⟩

end Kore.Proofs.Effects
