import Kore.Commands.Scripting

/-! What a user's scripts may do. The permission check stands in front of the script only;
inside, every command of the allowlist runs for every user. -/

namespace Kore.Proofs.ScriptConfinement
open Foundation Protocol Commands List Finmap Option Bool

variable {name : Bytes} {args : List RespValue}

variable {readonly : Bool}

theorem accepted_allowed {call : List LuaValue} (accepted : acceptCall readonly call = .ok (name, args)) :
    (∃ allowed ∈ scriptCallAllowlist, name = ascii allowed) ∧ (readonly && isWriteCommand name) = false := by
  unfold acceptCall at accepted
  split at accepted
  next => cases accepted
  next command words =>
    split at accepted
    next => cases accepted
    split at accepted
    next => cases accepted
    next listed =>
      obtain ⟨allowed, member, same⟩ : ∃ allowed ∈ scriptCallAllowlist, ascii allowed = upper command := by simpa using listed
      split at accepted
      next => cases accepted
      next read =>
        cases converted : words.mapM luaArgToBulk with
        | error refusal =>
          rw [converted] at accepted
          cases accepted
        | ok bulks =>
          rw [converted] at accepted
          cases accepted
          exact ⟨⟨allowed, member, same.symm⟩, eq_false_of_not_eq_true read⟩
  next => cases accepted

variable {calls : List (List LuaValue)} {command : Bytes × List RespValue}

section user
variable {acl : Acl} {username : Bytes} {user : AclUser} (known : acl.lookup username = some user)
include known

end user

private theorem allowlist_words : "GET" ∈ scriptCallAllowlist ∧ "SET" ∈ scriptCallAllowlist ∧ ∀ name ∈ scriptCallAllowlist,
    isUtf8 (ascii name) = true ∧ upper (ascii name) = ascii name ∧
      [ascii "SUBSCRIBE", ascii "UNSUBSCRIBE", ascii "SSUBSCRIBE", ascii "SUNSUBSCRIBE", ascii "SPUBLISH", ascii "PSUBSCRIBE",
        ascii "PUNSUBSCRIBE"].contains (ascii name) = false ∧ ascii name ≠ ascii "PUBLISH" := by
  decide +kernel

private theorem strings_converted (words : List Bytes) : (words.map LuaValue.string).mapM luaArgToBulk = .ok words := by
  induction words with
  | nil => rfl
  | cons word words ih =>
    rw [map_cons, mapM_cons, ih]
    rfl

theorem call_accepted {name : String} (listed : name ∈ scriptCallAllowlist) (words : List Bytes) :
    acceptCall false (.string (ascii name) :: words.map .string) =
      .ok (ascii name, words.map fun word => .bulkString (some word)) := by
  obtain ⟨text, capital, -⟩ := allowlist_words.2.2 name listed
  have allowed : scriptCallAllowlist.any (fun allowed => ascii allowed == ascii name) = true :=
    any_eq_true.mpr ⟨name, listed, beq_self_eq_true _⟩
  rw [acceptCall, text, capital, allowed, strings_converted]
  rfl

end Kore.Proofs.ScriptConfinement
