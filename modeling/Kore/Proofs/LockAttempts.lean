import Kore.Redlock.Attempts

/-! What a failed `try_lock` leaves on the backends. It releases the backends that it saw
grant the lock; one whose answer was lost keeps the lock until it expires. -/

namespace Kore.Proofs.LockAttempts
open Foundation Redlock

variable {client : Bytes} {ttlMs now after : Nat} {visit : Visit} {key : LockKey}

@[simp] theorem stores_some : Stores client now (some key) ↔ now < key.expiresAt ∧ key.value = client := by
  by_cases fresh : now < key.expiresAt
  · simp [Stores, live, fresh]
  · simp [Stores, live, fresh]

@[simp] theorem not_stores_none : ¬Stores client now none := by simp [Stores, live]

theorem not_stores_of_gone {held : Option LockKey} (gone : live now held = none) (later : now ≤ after) : ¬Stores client after held := by
  cases held with
  | none => exact not_stores_none
  | some key =>
    have expired : ¬now < key.expiresAt := by simpa [live] using gone
    rw [stores_some]
    omega

theorem not_stores_released {held : Option LockKey} (later : now ≤ after) : ¬Stores client after (releaseIfEqual client now held) := by
  unfold releaseIfEqual
  split
  next => exact not_stores_none
  next other =>
    cases held with
    | none => exact not_stores_none
    | some key =>
      rw [stores_some] at other ⊢
      exact fun stored => other ⟨by omega, stored.2⟩

theorem stores_cleanedUp (later : visit.releasedAt ≤ after) :
    Stores client after (visit.cleanedUp client ttlMs) ↔ visit.LostGrant ttlMs after ∨ Stores client after visit.held := by
  unfold Visit.cleanedUp Visit.tryAcquire Visit.LostGrant
  by_cases kept : visit.call = .unreachable ∨ (live visit.calledAt visit.held).isSome
  · rw [if_pos kept]
    refine ⟨.inr, fun stored => stored.resolve_left ?_⟩
    rintro ⟨lost, gone, -⟩
    simp [lost, gone] at kept
  · rw [if_neg kept]
    obtain ⟨reached, gone⟩ := not_or.mp kept
    rw [Option.not_isSome_iff_eq_none] at gone
    have absent : ¬Stores client after visit.held := not_stores_of_gone gone (visit.ordered.trans later)
    cases call : visit.call with
    | answered => simp [absent, not_stores_released later]
    | unanswered => simp [absent, gone]
    | unreachable => exact absurd call reached

/-- After a failed `try_lock` no backend has the client's value, unless one granted the lock
without the client seeing it or had the value before. -/
theorem failed_attempt_clean_iff (scaled : Nat → Nat) (elapsedMs : Nat) (visits : List Visit)
    (later : ∀ visit ∈ visits, visit.releasedAt ≤ after) (failed : (tryLock client ttlMs scaled elapsedMs visits).1 = false) :
    (∀ key ∈ (tryLock client ttlMs scaled elapsedMs visits).2, ¬Stores client after key) ↔
      ∀ visit ∈ visits, ¬visit.LostGrant ttlMs after ∧ ¬Stores client after visit.held := by
  unfold tryLock at failed ⊢
  dsimp only at failed ⊢
  split at failed
  next => cases failed
  next short =>
    rw [if_neg short]
    simp only [List.forall_mem_map]
    refine forall₂_congr fun visit member => ?_
    rw [stores_cleanedUp (later visit member), not_or]

private def granted (call : Call) : Visit := ⟨none, 0, call, 1, by decide⟩

theorem refused_attempt_clean :
    let outcome := tryLock [1] 100 (fun _ => 1) 1 [granted .answered, granted .unreachable, granted .unreachable]
    outcome.1 = false ∧ ∀ key ∈ outcome.2, ¬Stores [1] 2 key := by
  refine ⟨by decide, (failed_attempt_clean_iff _ _ _ ?_ ?_).mpr ?_⟩
  · simp [granted]
  · decide
  · simp [granted, Visit.LostGrant]

/-- Two of three backends grant the lock, but one answer is lost: the lock stays on that backend. -/
theorem lost_grant_stays : (tryLock [1] 100 (fun _ => 1) 1 [granted .unanswered, granted .answered, granted .unreachable]).1 = false ∧
    ∃ key ∈ (tryLock [1] 100 (fun _ => 1) 1 [granted .unanswered, granted .answered, granted .unreachable]).2, Stores [1] 2 key := by
  decide

end Kore.Proofs.LockAttempts
