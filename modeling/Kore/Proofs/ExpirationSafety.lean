import Kore.Foundation.Runs
import Kore.Cache.Expiration

/-! Expiration beside commands that write. A path that removes a key after it has read its
slot takes with it what was stored in between; as long as no command stores a slot that would
still be live when a path removes the key, only expired slots disappear. -/

namespace Kore.Proofs.ExpirationSafety
open Foundation Cache Cache.Expiration Finmap Function Expiration

variable {F κ : Type}
variable {tasks : Tasks F κ} {now : Nat} {keyspace : Keyspace F} {other : Bytes}

namespace Stage

/-- The expiry at which a slot that was read would be found expired. -/
def deadline : Path → KeySlot F → Option Nat
  | .outright, slot => slot.expiresAt
  | .recheck, slot => if slot.value.isTypedContainer then none else slot.expiresAt

/-- The keys that a task may remove without another look at them, each with the time from
which on it may. -/
def pending : Stage F → List (Bytes × Nat)
  | .idle => []
  | .read path key slot keys => (deadline path slot).toList.map (key, ·) ++ keys.map (·, 0)
  | .doomed key => [(key, 0)]
  | .listed keys | .taken _ _ keys | .holding _ _ keys => keys.map (·, 0)

/-- The slot that a task is going to put back. -/
def returning (now : Nat) : Stage F → Option (Bytes × KeySlot F)
  | .taken key slot _ => if isExpiredString now slot then none else some (key, slot)
  | .holding key slot _ => some (key, slot)
  | _ => none

end Stage

open Stage

def Gone (now : Nat) (slot : Option (KeySlot F)) : Prop := slot.all fun slot => slot.isExpired now

instance Gone.decidable (now : Nat) (slot : Option (KeySlot F)) : Decidable (Gone now slot) :=
  inferInstanceAs (Decidable (_ = true))

/-- A step of a task removes no live slot and overwrites none. -/
def Harmless (tasks : Tasks F κ) : Event F κ → Prop
  | .proceed task =>
    match tasks.stages task with
    | .doomed key | .listed (key :: _) => Gone tasks.now (tasks.keyspace.lookup key)
    | .holding key _ _ => tasks.keyspace.lookup key = none
    | _ => True
  | _ => True

/-- No command stores, under a key that some task may remove, a slot that is live when the task
may remove it, and none stores anything under a key that some task is going to put back. -/
def Undisturbed (tasks : Tasks F κ) : Event F κ → Prop
  | .write key slot => ∀ task, (∀ since, (key, since) ∈ pending (tasks.stages task) → Gone (max tasks.now since) slot) ∧
      (∀ kept, returning tasks.now (tasks.stages task) = some (key, kept) → slot = none)
  | _ => True

/-- What holds between the operations of an undisturbed run. -/
structure Calm (tasks : Tasks F κ) : Prop where
  removed : ∀ task key since, (key, since) ∈ pending (tasks.stages task) →
    Gone (max tasks.now since) (tasks.keyspace.lookup key)
  kept : ∀ task key slot, returning tasks.now (tasks.stages task) = some (key, slot) →
    tasks.keyspace.lookup key = none ∧ slot.isExpired tasks.now = true
  alone : ∀ task other key slot kept, returning tasks.now (tasks.stages task) = some (key, slot) →
    returning tasks.now (tasks.stages other) = some (key, kept) → task = other

theorem isExpired_later {later : Nat} (after : now ≤ later) {slot : KeySlot F} (expired : slot.isExpired now) :
    slot.isExpired later := by
  unfold KeySlot.isExpired at *
  obtain ⟨expiry, found, past⟩ := Option.any_eq_true _ _ |>.mp expired
  rw [found]
  simp only [Option.any_some, decide_eq_true_eq] at past ⊢
  omega

theorem gone_later {later : Nat} (after : now ≤ later) {slot : Option (KeySlot F)} (gone : Gone now slot) : Gone later slot := by
  cases slot with
  | none => rfl
  | some slot => exact isExpired_later after gone

variable {key : Bytes} {slot : Option (KeySlot F)} {stage : Stage F}

private theorem gone_erase (gone : Gone now (keyspace.lookup other)) : Gone now ((keyspace.erase key).lookup other) := by
  by_cases same : other = key
  · rw [same, lookup_erase]
    rfl
  · rwa [lookup_erase_ne same]

private theorem lookup_erase_none (missing : keyspace.lookup other = none) : (keyspace.erase key).lookup other = none := by
  by_cases same : other = key
  · rw [same, lookup_erase]
  · rwa [lookup_erase_ne same]

theorem lookup_put : (put key slot keyspace).lookup key = slot := by
  cases slot with
  | none => exact lookup_erase key keyspace
  | some slot => exact lookup_insert keyspace

theorem lookup_put_ne {key : Bytes} (different : other ≠ key) :
    (put key slot keyspace).lookup other = keyspace.lookup other := by
  cases slot with
  | none => exact lookup_erase_ne different
  | some slot => exact lookup_insert_of_ne keyspace different

/-- A task that reads a slot may remove it from its expiry on, and nothing else that it could not remove before. -/
private theorem noticed_pending {path : Path} {key : Bytes} {slot : KeySlot F} {stage : Stage F} {since : Nat}
    (member : (other, since) ∈ pending (noticed path key slot stage)) :
    (other, since) ∈ pending stage ∨ other = key ∧ slot.expiresAt = some since := by
  have own {path : Path} {keys : List Bytes} (member : (other, since) ∈ pending (.read path key slot keys)) :
      (other, since) ∈ keys.map (·, 0) ∨ other = key ∧ slot.expiresAt = some since := by
    rcases List.mem_append.mp member with here | listed
    · simp only [List.mem_map, Option.mem_toList, Prod.mk.injEq, existsAndEq, and_true] at here
      refine .inr ⟨here.2.symm, ?_⟩
      cases path with
      | outright => exact here.1
      | recheck =>
        have string := here.1
        rw [deadline] at string
        split at string
        · cases string
        · exact string
    · exact .inl listed
  unfold noticed at member
  split at member
  · exact (own member).imp_left fun none => by cases none
  · exact own member
  · exact .inl member

private theorem noticed_returning (path : Path) (slot : KeySlot F) :
    returning now (noticed path key slot stage) = returning now stage := by
  unfold noticed
  split <;> rfl

private theorem returning_later {later : Nat} (after : now ≤ later) {key : Bytes} {slot : KeySlot F}
    (returns : returning later stage = some (key, slot)) : returning now stage = some (key, slot) := by
  cases stage with
  | taken taken kept rest =>
    simp only [returning] at returns ⊢
    split at returns
    · cases returns
    next unexpired =>
      rw [if_neg fun expired => unexpired ?_]
      · exact returns
      · obtain ⟨past, string⟩ := Bool.and_eq_true_iff.mp expired
        exact Bool.and_eq_true_iff.mpr ⟨isExpired_later after past, string⟩
  | holding taken kept rest => exact returns
  | idle | read path read kept keys | doomed doomed | listed keys => cases returns

section
variable (calm : Calm tasks)
include calm

theorem Calm.harmless (event : Event F κ) : Harmless tasks event := by
  cases event with
  | write key slot | tick elapsed | look task path key => trivial
  | proceed task =>
    have removed := calm.removed task
    have kept := calm.kept task
    unfold Harmless
    dsimp only
    split
    next key stage =>
      have gone := removed key 0 (by simp [stage, pending])
      rwa [Nat.max_zero] at gone
    next key keys stage =>
      have gone := removed key 0 (by simp [stage, pending])
      rwa [Nat.max_zero] at gone
    next key slot rest stage => exact (kept key slot (by rw [stage]; rfl)).1
    next => trivial

/-- The look at the clock finds the slot expired that was read; what is there now has expired too. -/
private theorem Calm.checked (task : κ) {path : Path} {key : Bytes} {slot : KeySlot F} {keys : List Bytes}
    (stage : tasks.stages task = .read path key slot keys) (past : slot.isExpired tasks.now)
    (due : deadline path slot = slot.expiresAt) : Gone (max tasks.now 0) (tasks.keyspace.lookup key) := by
  unfold KeySlot.isExpired at past
  obtain ⟨expiry, found, reached⟩ := Option.any_eq_true _ _ |>.mp past
  have gone := calm.removed task key expiry (by simp [stage, pending, due, found])
  rwa [max_eq_left (of_decide_eq_true reached), ← Nat.max_zero tasks.now] at gone

variable [DecidableEq κ]

private theorem Calm.update (task : κ) {stage : Stage F}
    (removed : ∀ key since, (key, since) ∈ pending stage → Gone (max tasks.now since) (keyspace.lookup key))
    (others : ∀ key later, tasks.now ≤ later → Gone later (tasks.keyspace.lookup key) → Gone later (keyspace.lookup key))
    (kept : ∀ key slot, returning tasks.now stage = some (key, slot) → keyspace.lookup key = none ∧ slot.isExpired tasks.now)
    (still : ∀ other key slot, other ≠ task → returning tasks.now (tasks.stages other) = some (key, slot) →
      keyspace.lookup key = none ∧ ∀ kept, returning tasks.now stage ≠ some (key, kept)) :
    Calm { tasks with keyspace, stages := update tasks.stages task stage } := by
  refine ⟨?_, ?_, ?_⟩
  · intro other key since member
    dsimp only at member ⊢
    by_cases same : other = task
    · subst other
      rw [update_self] at member
      exact removed key since member
    · rw [update_of_ne same] at member
      exact others key _ (le_max_left ..) (calm.removed other key since member)
  · intro other key slot holds
    dsimp only at holds ⊢
    by_cases same : other = task
    · subst other
      rw [update_self] at holds
      exact kept key slot holds
    · rw [update_of_ne same] at holds
      exact ⟨(still other key slot same holds).1, (calm.kept other key slot holds).2⟩
  · intro first second key slot keptSlot holds again
    dsimp only at holds again
    by_cases mine : first = task
    · by_cases yours : second = task
      · exact mine.trans yours.symm
      · subst first
        rw [update_self] at holds
        rw [update_of_ne yours] at again
        exact absurd holds ((still second key keptSlot yours again).2 slot)
    · rw [update_of_ne mine] at holds
      by_cases yours : second = task
      · subst second
        rw [update_self] at again
        exact absurd again ((still first key slot mine holds).2 keptSlot)
      · rw [update_of_ne yours] at again
        exact calm.alone first second key slot keptSlot holds again

/-- A step that at most removes slots, and after which the task is not going to put one back. -/
private theorem Calm.shrinks (task : κ)
    (gone : ∀ {other later}, Gone later (tasks.keyspace.lookup other) → Gone later (keyspace.lookup other))
    (missing : ∀ {other}, tasks.keyspace.lookup other = none → keyspace.lookup other = none)
    (fewer : ∀ key since, (key, since) ∈ pending stage → Gone (max tasks.now since) (tasks.keyspace.lookup key))
    (nothing : returning tasks.now stage = none) :
    Calm { tasks with keyspace, stages := Function.update tasks.stages task stage } := by
  refine calm.update task ?_ (fun _ _ _ => gone) ?_ ?_
  · exact fun key since member => gone (fewer key since member)
  · exact fun other slot holds => absurd (nothing.symm.trans holds) (by simp)
  · intro other held slot _ holds
    exact ⟨missing (calm.kept other held slot holds).1, fun kept same => absurd (nothing.symm.trans same) (by simp)⟩

private theorem Calm.proceed (task : κ) : Calm (step tasks (.proceed task)) := by
  have before := calm.removed task
  cases stage : tasks.stages task with
  | idle =>
    simp only [step, stage, advance]
    exact calm.shrinks task id id (by simp [pending]) rfl
  | read path key slot keys =>
    rw [stage] at before
    cases path with
    | outright =>
      simp only [step, stage, advance]
      split
      next expired =>
        refine calm.shrinks task id id (fun other since member => ?_) rfl
        cases List.mem_singleton.mp member
        exact calm.checked task stage expired rfl
      next => exact calm.shrinks task id id (by simp [pending]) rfl
    | recheck =>
      simp only [step, stage, advance]
      have listed : ∀ other since, (other, since) ∈ keys.map (·, 0) → Gone (max tasks.now since) (tasks.keyspace.lookup other) :=
        fun other since member => before other since (List.mem_append_right _ member)
      split
      next expired =>
        obtain ⟨past, string⟩ := Bool.and_eq_true_iff.mp expired
        refine calm.shrinks task id id (fun other since member => ?_) rfl
        simp only [pending, List.map_append, List.map_cons, List.map_nil] at member
        rcases List.mem_append.mp member with old | new
        · exact listed other since old
        · cases List.mem_singleton.mp new
          have untyped : slot.value.isTypedContainer = false := by simpa using string
          exact calm.checked task stage past (by simp [deadline, untyped])
      next => exact calm.shrinks task id id listed rfl
  | doomed key =>
    simp only [step, stage, advance]
    exact calm.shrinks task gone_erase lookup_erase_none (by simp [pending]) rfl
  | listed keys =>
    cases keys with
    | nil =>
      simp only [step, stage, advance]
      exact calm.shrinks task id id (by simp [pending]) rfl
    | cons key keys =>
      rw [stage] at before
      have rest : ∀ other since, (other, since) ∈ keys.map (·, 0) → Gone (max tasks.now since) (tasks.keyspace.lookup other) :=
        fun other since member => before other since (List.mem_cons_of_mem _ member)
      cases found : tasks.keyspace.lookup key with
      | none =>
        simp only [step, stage, advance, found]
        exact calm.shrinks task id id rest rfl
      | some slot =>
        simp only [step, stage, advance, found]
        have expired : Gone tasks.now (some slot) := by
          have gone := before key 0 (by simp [pending])
          rwa [Nat.max_zero, found] at gone
        refine calm.update task ?_ (fun _ _ _ => gone_erase) ?_ ?_
        · exact fun other since member => gone_erase (rest other since member)
        · intro other kept holds
          simp only [returning] at holds
          split at holds
          · cases holds
          · cases holds
            exact ⟨lookup_erase key tasks.keyspace, expired⟩
        · intro other key' kept _ holds
          have missing := (calm.kept other key' kept holds).1
          refine ⟨lookup_erase_none missing, fun again same => ?_⟩
          simp only [returning] at same
          split at same
          · cases same
          · cases same
            rw [found] at missing
            cases missing
  | taken key slot rest =>
    rw [stage] at before
    simp only [step, stage, advance]
    split
    next => exact calm.shrinks task id id before rfl
    next unexpired =>
      have returns : returning tasks.now (tasks.stages task) = some (key, slot) := by rw [stage]; exact if_neg unexpired
      refine calm.update task before (fun _ _ _ gone => gone) ?_ ?_
      · intro other kept holds
        cases holds
        exact calm.kept task key slot returns
      · intro other key' kept different holds
        refine ⟨(calm.kept other key' kept holds).1, fun again same => ?_⟩
        cases same
        exact different (calm.alone other task key kept slot holds returns)
  | holding key slot rest =>
    obtain ⟨_, expired⟩ := calm.kept task key slot (by rw [stage]; rfl)
    have back : ∀ other later, tasks.now ≤ later → Gone later (tasks.keyspace.lookup other) →
        Gone later ((tasks.keyspace.insert key slot).lookup other) := by
      intro other later after gone
      by_cases same : other = key
      · rw [same, lookup_insert]
        exact isExpired_later after expired
      · rwa [lookup_insert_of_ne _ same]
    rw [stage] at before
    simp only [step, stage, advance]
    refine calm.update task ?_ back ?_ ?_
    · exact fun other since member => back other _ (le_max_left ..) (before other since member)
    · exact fun other kept holds => absurd holds (by simp [returning])
    · intro other key' kept different holds
      have apart : key' ≠ key := by
        rintro rfl
        exact different (calm.alone other task key' kept slot holds (by rw [stage]; rfl))
      refine ⟨?_, fun again => by simp [returning]⟩
      rw [lookup_insert_of_ne _ apart]
      exact (calm.kept other key' kept holds).1

private theorem Calm.step (event : Event F κ) (quiet : Undisturbed tasks event) : Calm (step tasks event) := by
  cases event with
  | write key slot =>
    refine ⟨?_, ?_, calm.alone⟩
    · intro task other since member
      by_cases same : other = key
      · subst other
        exact (lookup_put).symm ▸ (quiet task).1 since member
      · exact (lookup_put_ne same).symm ▸ calm.removed task other since member
    · intro task other kept holds
      refine ⟨?_, (calm.kept task other kept holds).2⟩
      by_cases same : other = key
      · subst other
        exact (lookup_put).trans ((quiet task).2 kept holds)
      · exact (lookup_put_ne same).trans (calm.kept task other kept holds).1
  | tick elapsed =>
    have after : tasks.now ≤ tasks.now + elapsed := Nat.le_add_right ..
    refine ⟨?_, ?_, ?_⟩
    · exact fun task key since member => gone_later (max_le_max_right since after) (calm.removed task key since member)
    · intro task key slot holds
      obtain ⟨missing, expired⟩ := calm.kept task key slot (returning_later after holds)
      exact ⟨missing, isExpired_later after expired⟩
    · intro task other key slot kept holds again
      exact calm.alone task other key slot kept (returning_later after holds) (returning_later after again)
  | look task path key =>
    cases found : tasks.keyspace.lookup key with
    | none => simpa only [Expiration.step, found] using calm
    | some slot =>
      simp only [Expiration.step, found]
      refine calm.update task ?_ (fun _ _ _ gone => gone) ?_ ?_
      · intro other since member
        rcases noticed_pending member with old | ⟨rfl, expires⟩
        · exact calm.removed task other since old
        · rw [found, Gone, Option.all_some, KeySlot.isExpired, expires, Option.any_some, decide_eq_true_eq]
          exact le_max_right ..
      · intro other kept holds
        rw [noticed_returning] at holds
        exact calm.kept task other kept holds
      · intro other key' kept different holds
        refine ⟨(calm.kept other key' kept holds).1, fun again same => ?_⟩
        rw [noticed_returning] at same
        exact different (calm.alone other task key' kept again holds same)
  | proceed task => exact calm.proceed task

end

variable [DecidableEq κ]

/-- In a run in which no command stores, under a key that an expiration path may remove, a slot
that is live when the path may remove it, or any slot under a key that one is going to put
back, the expiration paths remove no live slot and overwrite none. -/
theorem expiration_harmless {start : Tasks F κ} (idle : ∀ task, start.stages task = .idle) {events : List (Event F κ)}
    (quiet : Guarded step Undisturbed start events) :
    ∀ visit ∈ visits step start events, Harmless visit.1 visit.2 := by
  have calm : Calm start := by
    refine ⟨?_, ?_, ?_⟩ <;> simp [idle, pending, returning]
  exact quiet.forall_visits (fun tasks event calm quiet => ⟨calm.step event quiet, calm.harmless event⟩) calm

/-! One key that is about to expire, one task. -/

def expiringKey : Tasks Int Unit := ⟨Finmap.singleton (ascii "k") ⟨some 10, .string (ascii "old")⟩, 9, fun _ => .idle⟩

def freshSlot : KeySlot Int := ⟨none, .string (ascii "new")⟩

/-- A lookup reads the slot just before its expiry, another client stores the key, and the lookup, for which the clock is now
past the expiry, goes on to remove it. -/
def overtaken : List (Event Int Unit) :=
  [.look () .outright (ascii "k"), .write (ascii "k") (some freshSlot), .tick 1, .proceed (), .proceed ()]

theorem concurrent_store_removed :
    (run step expiringKey (overtaken.take 4)).keyspace.lookup (ascii "k") = some freshSlot ∧
      (run step expiringKey overtaken).keyspace.lookup (ascii "k") = none := by
  decide +kernel

/-- The same lookup without the store; the store comes after the removal and before a sweep. -/
def inTurn : List (Event Int Unit) :=
  [.look () .outright (ascii "k"), .tick 1, .proceed (), .proceed (), .write (ascii "k") (some freshSlot),
    .look () .recheck (ascii "k"), .proceed (), .proceed ()]

theorem store_after_removal_kept :
    (run step expiringKey inTurn).keyspace.lookup (ascii "k") = some freshSlot ∧
      ∀ visit ∈ visits step expiringKey inTurn, Harmless visit.1 visit.2 := by
  refine ⟨by decide +kernel, expiration_harmless (fun _ => rfl) ⟨trivial, trivial, trivial, trivial, ?_, trivial, trivial, trivial, trivial⟩⟩
  rintro ⟨⟩
  have idle : (run step expiringKey (inTurn.take 4)).stages () = .idle := rfl
  refine ⟨fun since member => absurd (idle ▸ member) List.not_mem_nil, fun kept holds => ?_⟩
  exact absurd (idle ▸ holds) (by simp [returning])

end Kore.Proofs.ExpirationSafety
