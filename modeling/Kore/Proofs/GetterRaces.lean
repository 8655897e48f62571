import Mathlib.Data.Fintype.Basic
import Kore.Commands.Getters
import Kore.Proofs.Effects
import Kore.Proofs.ExpirationSafety

/-! `GETDEL` and `GETEX` act on the value they return as long as nobody changes the key between
their reading it and their acting on it, and their purges take no live value as long as nobody
stores one behind their back. -/

namespace Kore.Proofs.GetterRaces
open Foundation Cache Commands.Getters Effects ExpirationSafety Finmap Shared List

variable {F κ : Type} {key text : Bytes} {keyspace : Keyspace F} {setting : Setting} {slot : KeySlot F} {now : Nat}
variable {stage : Stage F} {there : Option (KeySlot F)} {getter : Getter} {caller : Caller}

/-- What should become of the slot whose value is returned; an expiry is counted from the time
at which the command looks at the clock. -/
def Meant (now : Nat) (slot : KeySlot F) (after : Option (KeySlot F)) : Getter → Prop
  | .getdel => after = none
  | .getex opts =>
    if opts.persist then after = some { slot with expiresAt := none }
    else match opts.ttlMs, opts.exatMs with
      | some ms, _ => if ms = 0 then after = none else ∃ asked ≤ now, after = some { slot with expiresAt := some (asked + ms) }
      | none, some timestamp => after = some slot ∨ ∃ expiry ≥ timestamp, after = some { slot with expiresAt := some expiry }
      | none, none => after = some slot

def asked : Caller → Option (Getter × Bytes)
  | .handler _ => none
  | .expire getter text _ => some (getter, text)

/-- The value that a call has read and is going to act on. -/
def hand (now : Nat) : Stage F → Option (Getter × Bytes)
  | .reading getter slot =>
    match slot.value with
    | .string text => if slot.isExpired now then none else some (getter, text)
    | _ => none
  | .purge caller | .purging caller _ | .removing caller | .typing caller => asked caller
  | .loaded getter text | .expiring getter text _ | .dated getter text _ => some (getter, text)
  | _ => none

/-- The time from which on a call may remove what is there as expired, without another look at it. -/
def pending : Stage F → Option Nat
  | .purging _ expiry => some expiry
  | .removing _ | .dropping => some 0
  | .reading _ slot => if slot.value.isTypedContainer then none else slot.expiresAt
  | _ => none

def answered : Stage F → Option Bytes
  | .ended (.value text) => some text
  | _ => none

/-- What a step of a call may do to the key. When it answers with a value, that value was there
and has become what it should; any other step leaves the key alone or removes an expired slot. -/
def Right (now : Nat) (before after : Option (KeySlot F)) (stage next : Stage F) : Prop :=
  match answered stage, answered next with
  | none, some text => ∃ getter slot, hand now stage = some (getter, text) ∧ before = some slot ∧ slot.value = .string text ∧
      Meant now slot after getter
  | _, _ => after = before ∨ after = none ∧ Gone now before

/-- A step of a call is right, and touches no other key. -/
def Exact [DecidableEq κ] (key : Bytes) (shared : Shared F κ) (action : GetterAction F κ) : Prop :=
  ∀ client, action = .proceed client →
    Right shared.setting.now (shared.keyspace.lookup key) ((shared.step key action).keyspace.lookup key)
        (shared.stages client) ((shared.step key action).stages client) ∧
      ∀ other ≠ key, (shared.step key action).keyspace.lookup other = shared.keyspace.lookup other

def mover : GetterAction F κ → Option κ
  | .proceed client => some client
  | _ => none

/-- `expire` does not find that the time of the value has come. -/
def timely (now : Nat) : Stage F → Bool
  | .purging (.expire ..) expiry => decide (now < expiry)
  | _ => true

section
variable [DecidableEq κ] (key : Bytes) (shared : Shared F κ) (action : GetterAction F κ)

/-- While a call has a value in hand nobody else changes the key, and the value's time has not
come when `expire` looks at it; while a call may remove the key as expired, whatever else is put
there has expired when the call may remove it. -/
def Spares (client : κ) : Prop :=
  if mover action = some client then timely shared.setting.now (shared.stages client) = true
  else
    (shared.step key action).keyspace.lookup key = shared.keyspace.lookup key ∨
      hand shared.setting.now (shared.stages client) = none ∧ ∀ since ∈ pending (shared.stages client),
        Gone (max shared.setting.now since) ((shared.step key action).keyspace.lookup key)

instance Spares.decidable [DecidableEq F] (client : κ) : Decidable (Spares key shared action client) := by
  unfold Spares
  infer_instance

def Undisturbed : Prop := ∀ client, Spares key shared action client

instance Undisturbed.decidable [DecidableEq F] [Fintype κ] : Decidable (Undisturbed key shared action) :=
  inferInstanceAs (Decidable (∀ client, Spares key shared action client))

end

/-- The time to live that `expire` was called with. -/
def Wanted (now ttlMs : Nat) : Getter → Prop
  | .getdel => False
  | .getex opts => opts.persist = false ∧
    match opts.ttlMs, opts.exatMs with
    | some ms, _ => ttlMs = ms
    | none, some timestamp => ttlMs ≠ 0 ∧ ∃ read ≤ now, timestamp = read + ttlMs
    | none, none => False

/-- The expiry that `expire` has worked out. -/
def Due (now expiry : Nat) : Getter → Prop
  | .getdel => False
  | .getex opts => opts.persist = false ∧
    match opts.ttlMs, opts.exatMs with
    | some ms, _ => ms ≠ 0 ∧ ∃ asked ≤ now, expiry = asked + ms
    | none, some timestamp => timestamp ≤ expiry
    | none, none => False

/-- What a call that has a value in hand knows of the slot. -/
def Fits (now : Nat) (slot : KeySlot F) : Stage F → Prop
  | .reading _ read => slot = read
  | .purge (.expire getter _ ttlMs) | .typing (.expire getter _ ttlMs) | .expiring getter _ ttlMs => Wanted now ttlMs getter
  | .purging (.expire getter _ ttlMs) expiry => slot.expiresAt = some expiry ∧ Wanted now ttlMs getter
  | .removing (.expire ..) => False
  | .dated getter _ expiry => Due now expiry getter
  | _ => True

/-- A value in hand is still there, and what a call may remove as expired has expired by then. -/
structure Sound (now : Nat) (there : Option (KeySlot F)) (stage : Stage F) : Prop where
  standing : ∀ getter text, hand now stage = some (getter, text) →
    ∃ slot, there = some slot ∧ slot.value = .string text ∧ Fits now slot stage
  gone : ∀ since ∈ pending stage, Gone (max now since) there

theorem Sound.of_standing (quiet : pending stage = none) (standing : ∀ getter text, hand now stage = some (getter, text) →
    ∃ slot, there = some slot ∧ slot.value = .string text ∧ Fits now slot stage) : Sound now there stage := by
  refine ⟨standing, fun since due => ?_⟩
  rw [quiet] at due
  cases due

theorem Sound.of_gone (empty : hand now stage = none) (gone : ∀ since ∈ pending stage, Gone (max now since) there) :
    Sound now there stage := by
  refine ⟨fun getter text held => ?_, gone⟩
  rw [empty] at held
  cases held

theorem Wanted.later {ttlMs later : Nat} (after : now ≤ later) (wanted : Wanted now ttlMs getter) : Wanted later ttlMs getter := by
  unfold Wanted at *
  split at wanted
  · exact wanted
  · refine ⟨wanted.1, ?_⟩
    have rest := wanted.2
    split at rest
    · exact rest
    · obtain ⟨positive, read, before, same⟩ := rest
      exact ⟨positive, read, before.trans after, same⟩
    · exact rest

theorem Due.later {expiry later : Nat} (after : now ≤ later) (due : Due now expiry getter) : Due later expiry getter := by
  unfold Due at *
  split at due
  · exact due
  · refine ⟨due.1, ?_⟩
    have rest := due.2
    split at rest
    · obtain ⟨positive, asked, before, same⟩ := rest
      exact ⟨positive, asked, before.trans after, same⟩
    · exact rest
    · exact rest

theorem Fits.later {later : Nat} (after : now ≤ later) (fits : Fits now slot stage) : Fits later slot stage := by
  unfold Fits at *
  split at fits
  · exact fits
  · exact fits.later after
  · exact fits.later after
  · exact fits.later after
  · exact ⟨fits.1, fits.2.later after⟩
  · exact fits
  · exact fits.later after
  · trivial

/-- As time goes by a value that was read may come to be found expired, and nothing else changes. -/
theorem hand_later {later : Nat} (after : now ≤ later) (held : hand later stage = some (getter, text)) :
    hand now stage = some (getter, text) := by
  cases stage with
  | reading reader read =>
    simp only [hand] at held ⊢
    split at held
    · split at held
      · cases held
      next live =>
        rw [if_neg fun expired => live (isExpired_later after expired)]
        exact held
    · cases held
  | _ => exact held

theorem Sound.later {later : Nat} (sound : Sound now there stage) (after : now ≤ later) : Sound later there stage where
  standing getter text held := by
    obtain ⟨slot, found, string, fits⟩ := sound.standing getter text (hand_later after held)
    exact ⟨slot, found, string, fits.later after⟩
  gone since due := gone_later (max_le_max_right since after) (sound.gone since due)

theorem Sound.disturbed {after : Option (KeySlot F)} (sound : Sound now there stage)
    (calm : after = there ∨ hand now stage = none ∧ ∀ since ∈ pending stage, Gone (max now since) after) :
    Sound now after stage := by
  rcases calm with rfl | ⟨free, gone⟩
  · exact sound
  · exact .of_gone free gone

/-- A stage in which nothing is in hand and nothing is going to be removed. -/
theorem Sound.light (free : hand now stage = none) (calm : pending stage = none) : Sound now there stage :=
  .of_gone free fun since due => absurd (calm.symm.trans due) (by simp)

theorem advance_frame (setting : Setting) (keyspace : Keyspace F) (stage : Stage F) {other : Bytes} (different : other ≠ key) :
    (stage.advance setting key keyspace).1.lookup other = keyspace.lookup other := by
  cases stage with
  | removing caller | dropping => exact lookup_erase_ne different
  | loaded getter text =>
    cases getter with
    | getdel => exact lookup_erase_ne different
    | getex opts =>
      simp only [Stage.advance]
      split
      · split
        next stored old done =>
          rw [(store_result done).2.2]
          exact lookup_insert_of_ne _ different
        · rfl
      · split <;> rfl
  | expiring getter text ttlMs =>
    simp only [Stage.advance]
    split
    · exact lookup_erase_ne different
    · rfl
  | dated getter text expiry =>
    simp only [Stage.advance]
    split
    · exact lookup_insert_of_ne _ different
    · rfl
  | _ => rfl

theorem Right.silent {before after : Option (KeySlot F)} {next : Stage F} (silent : answered next = none)
    (kept : after = before ∨ after = none ∧ Gone now before) : Right now before after stage next := by
  unfold Right
  rw [silent]
  cases answered stage <;> exact kept

theorem answered_typed_handler (type : Option KeyType) : answered (Stage.typed (F := F) (.handler getter) type) = none := by
  simp only [Stage.typed]
  split <;> rfl

section
variable (sound : Sound setting.now (keyspace.lookup key) stage)
include sound

/-- What a call may remove as expired at once has expired. -/
theorem Sound.expired (due : pending stage = some 0) : Gone setting.now (keyspace.lookup key) := by
  have gone := sound.gone 0 due
  rwa [Nat.max_zero] at gone

theorem Sound.right :
    Right setting.now (keyspace.lookup key) ((stage.advance setting key keyspace).1.lookup key) stage
      (stage.advance setting key keyspace).2 := by
  cases stage with
  | idle | loading getter | purge caller | purging caller expiry | reading getter slot =>
    refine Right.silent ?_ (.inl rfl)
    simp only [Stage.advance]
    repeat' split
    all_goals rfl
  | ended answer =>
    cases answer with
    | value text => exact .inl rfl
    | null | error => exact .inl rfl
  | removing caller =>
    cases caller with
    | handler getter => exact Right.silent (answered_typed_handler none) (.inr ⟨lookup_erase _ _, sound.expired rfl⟩)
    | expire getter text ttlMs =>
      obtain ⟨slot, -, -, impossible⟩ := sound.standing getter text rfl
      exact impossible.elim
  | typing caller =>
    cases caller with
    | handler getter => exact Right.silent (answered_typed_handler _) (.inl rfl)
    | expire getter text ttlMs =>
      obtain ⟨slot, found, -⟩ := sound.standing getter text rfl
      refine Right.silent ?_ (.inl rfl)
      simp [Stage.advance, found, Stage.typed, answered]
  | dropping => exact Right.silent rfl (.inr ⟨lookup_erase _ _, sound.expired rfl⟩)
  | loaded getter text =>
    obtain ⟨slot, found, string, -⟩ := sound.standing getter text rfl
    cases getter with
    | getdel => exact ⟨.getdel, slot, rfl, found, string, lookup_erase _ _⟩
    | getex opts =>
      simp only [Stage.advance]
      split
      next persist =>
        split
        next stored old done =>
          have placed : stored = keyspace.insert key ⟨none, .string text⟩ := (store_result done).2.2
          refine ⟨.getex opts, slot, rfl, found, string, ?_⟩
          rw [Meant, if_pos persist, placed, ← string]
          exact lookup_insert _
        next => exact Right.silent rfl (.inl rfl)
      next renewed =>
        split
        next => exact Right.silent rfl (.inl rfl)
        next timestamp untimed dated =>
          split
          · exact Right.silent rfl (.inl rfl)
          · refine ⟨.getex opts, slot, rfl, found, string, ?_⟩
            rw [Meant, if_neg renewed, untimed, dated]
            exact .inl found
        next untimed undated =>
          refine ⟨.getex opts, slot, rfl, found, string, ?_⟩
          rw [Meant, if_neg renewed, untimed, undated]
          exact found
  | expiring getter text ttlMs =>
    obtain ⟨slot, found, string, wanted⟩ := sound.standing getter text rfl
    simp only [Stage.advance]
    split
    next zero =>
      refine ⟨getter, slot, rfl, found, string, ?_⟩
      cases getter with
      | getdel => exact wanted.elim
      | getex opts =>
        obtain ⟨renewed, rest⟩ := wanted
        rw [Meant, if_neg (by simp [renewed])]
        split at rest
        next ms timed =>
          rw [if_pos (rest.symm.trans zero)]
          exact lookup_erase _ _
        next => exact absurd zero rest.1
        next => exact rest.elim
    next => exact Right.silent rfl (.inl rfl)
  | dated getter text expiry =>
    obtain ⟨slot, found, string, due⟩ := sound.standing getter text rfl
    simp only [Stage.advance, found]
    refine ⟨getter, slot, rfl, rfl, string, ?_⟩
    rw [lookup_insert]
    cases getter with
    | getdel => exact due.elim
    | getex opts =>
      obtain ⟨renewed, rest⟩ := due
      rw [Meant, if_neg (by simp [renewed])]
      split at rest
      next ms timed =>
        obtain ⟨positive, asked, before, rfl⟩ := rest
        rw [if_neg positive]
        exact ⟨asked, before, rfl⟩
      next => exact .inr ⟨expiry, rest, rfl⟩
      next => exact rest.elim

theorem Sound.advance (punctual : timely setting.now stage = true) :
    Sound setting.now ((stage.advance setting key keyspace).1.lookup key) (stage.advance setting key keyspace).2 := by
  cases stage with
  | idle | ended answer => exact sound
  | purge caller =>
    simp only [Stage.advance]
    split
    next expiry expires =>
      obtain ⟨slot, found, reaches⟩ := Option.bind_eq_some_iff.mp expires
      refine ⟨fun getter text held => ?_, fun since due => ?_⟩
      · obtain ⟨same, there, string, fits⟩ := sound.standing getter text held
        cases found.symm.trans there
        cases caller with
        | handler getter => cases held
        | expire getter text ttlMs => exact ⟨slot, found, string, reaches, fits⟩
      · cases due
        rw [found, Gone, Option.all_some, KeySlot.isExpired, reaches, Option.any_some, decide_eq_true_eq]
        exact le_max_right ..
    next =>
      refine .of_standing rfl fun getter text held => ?_
      obtain ⟨slot, found, string, fits⟩ := sound.standing getter text held
      cases caller with
      | handler getter => cases held
      | expire getter text ttlMs => exact ⟨slot, found, string, fits⟩
  | purging caller expiry =>
    simp only [Stage.advance]
    split
    next =>
      refine .of_standing rfl fun getter text held => ?_
      obtain ⟨slot, found, string, fits⟩ := sound.standing getter text held
      cases caller with
      | handler getter => cases held
      | expire getter text ttlMs => exact ⟨slot, found, string, fits.2⟩
    next past =>
      cases caller with
      | expire getter text ttlMs => exact absurd (of_decide_eq_true punctual) past
      | handler getter =>
        refine .of_gone rfl fun since due => ?_
        cases due
        have gone := sound.gone expiry rfl
        rwa [max_eq_left (not_lt.mp past), ← Nat.max_zero setting.now] at gone
  | removing caller =>
    cases caller with
    | handler getter => exact light rfl rfl
    | expire getter text ttlMs =>
      obtain ⟨slot, -, -, impossible⟩ := sound.standing getter text rfl
      exact impossible.elim
  | typing caller =>
    cases caller with
    | handler getter =>
      simp only [Stage.advance, Stage.typed]
      split <;> exact light rfl rfl
    | expire getter text ttlMs =>
      obtain ⟨slot, found, string, fits⟩ := sound.standing getter text rfl
      simp only [Stage.advance, found, Option.map_some, Stage.typed]
      refine .of_standing rfl fun other read held => ?_
      cases held
      exact ⟨slot, rfl, string, fits⟩
  | loading getter =>
    simp only [Stage.advance]
    split
    next slot found =>
      refine ⟨fun other text held => ?_, fun since due => ?_⟩
      · simp only [hand] at held
        split at held
        next read string =>
          split at held
          · cases held
          · cases held
            exact ⟨slot, found, string, rfl⟩
        next => cases held
      · simp only [pending] at due
        split at due
        · cases due
        · rw [found, Gone, Option.all_some, KeySlot.isExpired, due, Option.any_some, decide_eq_true_eq]
          exact le_max_right ..
    next => exact light rfl rfl
  | reading getter slot =>
    simp only [Stage.advance]
    split
    next text string =>
      split
      next expired =>
        refine .of_gone rfl fun since due => ?_
        cases due
        unfold KeySlot.isExpired at expired
        obtain ⟨expiry, found, reached⟩ := Option.any_eq_true _ _ |>.mp expired
        have gone := sound.gone expiry (by simp [pending, string, KeyValue.isTypedContainer, found])
        rwa [max_eq_left (of_decide_eq_true reached), ← Nat.max_zero setting.now] at gone
      next live =>
        refine .of_standing rfl fun other read held => ?_
        cases held
        obtain ⟨slot, found, same, -⟩ := sound.standing getter text (by simp [hand, string, live])
        exact ⟨slot, found, same, trivial⟩
    next => exact light rfl rfl
  | dropping => exact light rfl rfl
  | loaded getter text =>
    obtain ⟨slot, found, string, -⟩ := sound.standing getter text rfl
    cases getter with
    | getdel => exact light rfl rfl
    | getex opts =>
      simp only [Stage.advance]
      split
      next => split <;> exact light rfl rfl
      next renewed =>
        have kept : opts.persist = false := by simpa using renewed
        split
        next ms timed =>
          refine .of_standing rfl fun other read held => ?_
          cases held
          refine ⟨slot, found, string, kept, ?_⟩
          rw [timed]
        next timestamp untimed dated =>
          split
          next later =>
            refine .of_standing rfl fun other read held => ?_
            cases held
            refine ⟨slot, found, string, kept, ?_⟩
            rw [untimed, dated]
            exact ⟨Nat.sub_ne_zero_of_lt later, setting.now, le_rfl, (Nat.add_sub_cancel' later.le).symm⟩
          next => exact light rfl rfl
        next => exact light rfl rfl
  | expiring getter text ttlMs =>
    obtain ⟨slot, found, string, wanted⟩ := sound.standing getter text rfl
    simp only [Stage.advance]
    split
    next => exact light rfl rfl
    next positive =>
      refine .of_standing rfl fun other read held => ?_
      cases held
      refine ⟨slot, found, string, ?_⟩
      cases getter with
      | getdel => exact wanted.elim
      | getex opts =>
        obtain ⟨renewed, rest⟩ := wanted
        refine ⟨renewed, ?_⟩
        split at rest
        next ms timed =>
          subst rest
          exact ⟨positive, setting.now, le_rfl, rfl⟩
        next timestamp untimed dated =>
          obtain ⟨-, read, before, rfl⟩ := rest
          omega
        next => exact rest.elim
  | dated getter text expiry => exact light rfl rfl

end

variable [DecidableEq κ] {shared : Shared F κ} {action : GetterAction F κ}

/-- What holds of every call between two steps of an undisturbed run. -/
def Standing (key : Bytes) (shared : Shared F κ) : Prop :=
  ∀ client, Sound shared.setting.now (shared.keyspace.lookup key) (shared.stages client)

private theorem Standing.exact (standing : Standing key shared) : Exact key shared action := by
  rintro client rfl
  refine ⟨?_, fun other different => advance_frame shared.setting shared.keyspace (shared.stages client) different⟩
  simp only [step, Function.update_self]
  exact (standing client).right

/-- A call that starts or is refused has nothing in hand. -/
private theorem Standing.update (standing : Standing key shared) (client : κ) (free : hand shared.setting.now stage = none)
    (calm : pending stage = none) : Standing key { shared with stages := Function.update shared.stages client stage } := by
  intro other
  by_cases same : other = client
  · subst other
    simpa only [Function.update_self] using Sound.light free calm
  · simpa only [Function.update_of_ne same] using standing other

private theorem Standing.step (standing : Standing key shared) (undisturbed : Undisturbed key shared action) :
    Standing key (shared.step key action) := by
  cases action with
  | write slot => exact fun client => (standing client).disturbed (undisturbed client)
  | tick elapsed => exact fun client => (standing client).later (Nat.le_add_right ..)
  | start client getter =>
    simp only [Shared.step]
    split
    · exact standing.update client rfl rfl
    · exact standing.update client rfl rfl
    · exact standing
  | refuse client =>
    simp only [Shared.step]
    split
    · exact standing.update client rfl rfl
    · exact standing
  | proceed runner =>
    intro client
    have calm := undisturbed client
    by_cases same : client = runner
    · subst runner
      rw [Spares, if_pos (by rfl)] at calm
      simp only [Shared.step, Function.update_self]
      exact (standing client).advance calm
    · have apart : mover (.proceed runner : GetterAction F κ) ≠ some client := fun equal => same (Option.some.inj equal).symm
      rw [Spares, if_neg apart] at calm
      have kept := (standing client).disturbed calm
      simpa only [Shared.step, Function.update_of_ne same] using kept

/-- In a run in which nobody changes the key behind the back of a call that has its value in
hand or is about to remove it, every `GETDEL` removes exactly the value that it returns, every
`GETEX` changes at most the expiry of the value that it returns, and neither does anything else. -/
theorem getters_exact {actions : List (GetterAction F κ)} (idle : ∀ client, shared.stages client = .idle)
    (undisturbed : Guarded (step key) (Undisturbed key) shared actions) :
    ∀ visit ∈ visits (step key) shared actions, Exact key visit.1 visit.2 := by
  refine undisturbed.forall_visits (fun _ _ standing calm => ⟨Standing.step standing calm, Standing.exact standing⟩) fun client => ?_
  rw [idle client]
  exact Sound.light rfl rfl

/-! One key that expires, and two connections. -/

def sampleShared : Shared Int Bool := ⟨Finmap.singleton (ascii "k") ⟨some 10, .string (ascii "old")⟩, ⟨8, 1000, 16⟩, fun _ => .idle⟩

def newSlot : KeySlot Int := ⟨none, .string (ascii "new")⟩

/-- A `GETEX` that renews the key while a second one reads it, and a `GETDEL` after both. -/
def renewed : List (GetterAction Int Bool) :=
  [.start true (.getex ⟨some 5, none, false⟩), .start false (.getex ⟨none, none, false⟩)] ++
    replicate 6 (.proceed true) ++ replicate 6 (.proceed false) ++ replicate 5 (.proceed true) ++
    [.tick 3, .start false .getdel] ++ replicate 6 (.proceed false) ++ [.write (some newSlot)]

theorem alone_exact : (run (step (ascii "k")) sampleShared renewed).keyspace.lookup (ascii "k") = some newSlot ∧
    ∀ visit ∈ visits (step (ascii "k")) sampleShared renewed, Exact (ascii "k") visit.1 visit.2 :=
  ⟨by decide +kernel, getters_exact (fun _ => rfl) (by decide +kernel)⟩

/-- A `GETDEL` up to the reading of the old value, a store, and the end of the `GETDEL`. -/
def overwritten : List (GetterAction Int Bool) :=
  [.start true .getdel] ++ replicate 5 (.proceed true) ++ [.write (some newSlot)]

/-- A `GETDEL` that reads the slot just before its expiry, a store, and the removal of what was stored as expired. -/
def purged : List (GetterAction Int Bool) :=
  [.start true .getdel, .proceed true, .write (some newSlot), .tick 2, .proceed true]

/-- A value that is stored after the old one has been read is deleted in its place, and one that
is stored while a purge is under way is removed although the call will answer nil. -/
theorem new_value_deleted :
    ¬ Exact (ascii "k") (run (step (ascii "k")) sampleShared overwritten) (.proceed true) ∧
      ¬ Exact (ascii "k") (run (step (ascii "k")) sampleShared purged) (.proceed true) := by
  constructor
  · intro exact
    obtain ⟨getter, slot, held, found, string, -⟩ := (exact true rfl).1
    cases found.symm.trans (rfl : _ = some newSlot)
    exact absurd string (by decide +kernel)
  · intro exact
    rcases (exact true rfl).1 with same | ⟨-, gone⟩
    · exact absurd same (by decide +kernel)
    · exact absurd gone (by decide +kernel)

end Kore.Proofs.GetterRaces
