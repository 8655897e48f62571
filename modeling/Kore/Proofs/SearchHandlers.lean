import Kore.Cache.Scan
import Kore.Proofs.SearchOutcomes

/-! The outcomes of the single commands: hash writes, deletions of fields, moves of whole keys,
expiry, and the commands of the indices themselves. -/

namespace Kore.Proofs.SearchHandlers
open Foundation Protocol Cache Search SearchEffects SearchOutcomes Finmap Database Option Bool

variable {F : Type} {now : Nat} {key : Bytes} {before middle after database : Database F}
variable {pairs : List (Bytes × Bytes)} {known : Bytes → Bytes → Bool}

section Handlers
variable {other : Bytes} {written : Bytes → Bool} {listing : Listing} {args : List RespValue}

/-- The request has put fields into the hash under a key. -/
def storesFields (command : Command) (reply : RespValue) (key : Bytes) : Bool :=
  match command, reply with
  | .hset args, .integer _ => (hsetRequest args).toOption.any fun request => request.1 = key
  | .hsetnx args, .integer added => added = 1 && (hsetnxRequest args).toOption.any fun request => request.1 = key
  | _, _ => false

private theorem hset_named (request : hsetRequest args = .ok (key, pairs)) (reply : RespValue)
    (different : other ≠ key) : storesFields (.hset args) reply other = false := by
  cases reply with
  | integer value => simp [storesFields, request, Except.toOption, Ne.symm different]
  | _ => rfl

private theorem hsetnx_named {field value : Bytes} (request : hsetnxRequest args = .ok (key, field, value)) (reply : RespValue)
    (different : other ≠ key) : storesFields (.hsetnx args) reply other = false := by
  cases reply with
  | integer added => simp [storesFields, request, Except.toOption, Ne.symm different]
  | _ => rfl

/-- What a key of an index asks of `HSET` and `HSETNX`. -/
def Careful (now : Nat) (key : Bytes) (pairs : List (Bytes × Bytes)) (database : Database F) : Prop :=
  Gentle key database ∧ (∀ pair ∈ pairs, isUtf8 pair.1 = true ∧ isUtf8 pair.2 = true) ∧
    ∀ fields, liveHash now key database = some fields → Texts fields

private theorem opened_texts {slot : KeySlot F} {fields : Fields} (opened : Opened now key before after slot fields)
    (texts : ∀ fields, liveHash now key before = some fields → Texts fields) : Texts fields := by
  rcases opened.origin with found | ⟨_, empty⟩
  · apply texts
    rw [live_of_fresh found opened.fresh, held_of_lookup found, opened.hash]
    rfl
  · rw [empty]
    exact .empty

variable {busy : Bytes}

theorem live_purge : liveHash now key (database.purgeIfExpired now busy) = liveHash now key database := by
  rcases purge_cases now busy database with ⟨same, _⟩ | ⟨same, slot, found, expired⟩
  · rw [same]
  rw [same]
  by_cases own : key = busy
  · subst own
    rw [live_of_expired found expired, live_of_held_none (held_of_absent (lookup_delete key database))]
  · exact live_congr (lookup_delete_ne own)

theorem purge_gentle (gentle : Gentle key database) : Gentle key (database.purgeIfExpired now busy) := by
  refine gentle.mono ?_ ?_
  · rw [purge_grants]
    exact fun _ member => member
  · rw [purge_searchGrants]
    exact fun _ member => member

theorem isLive_iff (now : Nat) (key : Bytes) (database : Database F) :
    ((database.purgeIfExpired now key).keyspace.lookup key).isSome = database.keyspace.isLive now key := by
  rw [Keyspace.isLive]
  rcases purge_cases now key database with ⟨same, fresh⟩ | ⟨same, slot, found, expired⟩
  · rw [same]
    cases found : database.keyspace.lookup key with
    | none => rfl
    | some slot => simp [fresh slot found]
  · rw [same, lookup_delete, found]
    simp [expired]

theorem isLive_purge (now : Nat) (busy key : Bytes) (database : Database F) :
    (database.purgeIfExpired now busy).keyspace.isLive now key = database.keyspace.isLive now key := by
  rw [Keyspace.isLive, Keyspace.isLive]
  rcases purge_cases now busy database with ⟨same, _⟩ | ⟨same, slot, found, expired⟩
  · rw [same]
  rw [same]
  by_cases own : key = busy
  · subst own
    rw [lookup_delete, found]
    simp [expired]
  · rw [lookup_delete_ne own]

theorem covered_purge (now : Nat) (busy key : Bytes) (database : Database F) :
    Covered key (database.purgeIfExpired now busy) ↔ Covered key database := by
  obtain ⟨_, turned⟩ := (purge_calm now busy key database).turned
  exact turned.covered_iff

theorem held_purge (now : Nat) (key : Bytes) (database : Database F) :
    held key (database.purgeIfExpired now key) = liveHash now key database := by
  rw [← live_purge]
  cases found : (database.purgeIfExpired now key).keyspace.lookup key with
  | none => rw [held_of_absent found, live_of_held_none (held_of_absent found)]
  | some slot => exact (live_of_fresh found (purge_fresh found)).symm

theorem careful_purge (careful : Careful now key pairs database) :
    Careful now key pairs (database.purgeIfExpired now key) := by
  obtain ⟨gentle, given, texts⟩ := careful
  refine ⟨purge_gentle gentle, given, ?_⟩
  rw [live_purge]
  exact texts

theorem purge_documents (now : Nat) (key : Bytes) (keeps : KeepsDocuments database) :
    KeepsDocuments (database.purgeIfExpired now key) := (purge_reach now key keeps).documents

/-- Opening a hash and changing it, unless what it holds is left alone: the part that `HSET` and
`HSETNX` share. -/
private theorem open_outcome {named : RespValue → Bool} (taken : Fields → Bool) (left : RespValue) {grow : Fields → Fields}
    {reply : Fields → RespValue} (elsewhere : other ≠ key → ∀ reply, named reply = false)
    (refused : ∀ text, named (.error text) = false) (alone : named left = false)
    (stored : other = key → ∀ fields, named (reply fields) = true) (free : taken ∅ = false) (filled : ∀ fields, grow fields ≠ ∅)
    (keeps : KeepsDocuments database) (fresh : ∀ slot, database.keyspace.lookup key = some slot → slot.isExpired now = false)
    (careful : Covered key database → Gentle key database ∧ (∀ fields, Texts fields → Texts (grow fields)) ∧
      ∀ fields, liveHash now key database = some fields → Texts fields)
    (sound : SoundAt other written database) :
    let result : Handled F := match database.getOrCreateHash now key with
      | (database, .error refusal) => (database, .error refusal.toRespString)
      | (database, .ok fields) =>
        if taken fields then (database, left) else database.storeFields listing key fields (grow fields) (reply fields)
    Outcome now False (named result.2) other database result.1 := by
  by_cases covered : Covered key database
  · obtain ⟨gentle, grows, texts⟩ := careful covered
    have opening := getOrCreate_opened gentle fresh
    generalize database.getOrCreateHash now key = made at opening ⊢
    obtain ⟨middle, result⟩ := made
    obtain ⟨slot, fields, rfl, opened⟩ | ⟨refusal, rfl, calm⟩ := opening
    · have grownTexts := grows fields (opened_texts opened texts)
      dsimp only
      split
      next held =>
        rw [alone]
        rcases opened.origin with found | ⟨_, empty⟩
        · refine .of_calm sound ?_ False.elim
          by_cases same : other = key
          · subst same
            exact .same opened.turned (opened.found.trans found.symm)
          · exact opened.others other same
        · rw [empty, free] at held
          cases held
      next =>
        by_cases same : other = key
        · subst same
          refine opened.store sound grownTexts (filled fields) ?_ ?_
          · intro answer
            rw [answer]
            exact refused _
          · intro answer
            rw [answer]
            exact stored rfl fields
        · rw [elsewhere same]
          exact .of_calm sound ((opened.others other same).trans
            ((storeFields_spec listing _ opened.gentle opened.found opened.hash grownTexts).1 other same)) False.elim
    · dsimp only
      rw [refused]
      exact .of_calm sound (calm other) False.elim
  · have reach := getOrCreate_reach now key keeps
    generalize database.getOrCreateHash now key = made at reach ⊢
    obtain ⟨middle, result⟩ := made
    refine .of_reach sound ?_ covered (fun different => elsewhere different _)
    cases result with
    | error refusal => exact reach
    | ok fields =>
      obtain ⟨_, turned⟩ := reach.own
      dsimp only
      split
      · exact reach
      · exact reach.trans (storeFields_reach key reach.documents fun inside => covered (turned.covered_iff.mp inside))

theorem hset_outcome (request : hsetRequest args = .ok (key, pairs))
    (keeps : KeepsDocuments database) (careful : Covered key database → Careful now key pairs database)
    (sound : SoundAt other written database) :
    Outcome now (other = key) (storesFields (.hset args) (database.handleHset listing now args).2 other) other database
      (database.handleHset listing now args).1 := by
  unfold handleHset
  rw [request]
  dsimp only
  rw [← getOrCreate_purge]
  refine .after_purge key sound (open_outcome (fun _ => false) .nil (fun different reply => hset_named request reply different)
    (fun _ => rfl) rfl ?_ rfl (hset_ne_empty (hsetRequest_pairs request)) (purge_documents now key keeps)
    (fun _ found => purge_fresh found) ?_ (sound.calm (purge_calm now key other database)))
  · rintro rfl fields
    simp [storesFields, request, Except.toOption]
  · intro covered
    obtain ⟨gentle, given, texts⟩ := careful_purge (careful ((covered_purge now key key database).mp covered))
    exact ⟨gentle, fun fields old => old.hset given, texts⟩

theorem hsetnx_outcome {field value : Bytes} (request : hsetnxRequest args = .ok (key, field, value))
    (keeps : KeepsDocuments database) (careful : Covered key database → Careful now key [(field, value)] database)
    (sound : SoundAt other written database) :
    Outcome now False (storesFields (.hsetnx args) (database.handleHsetnx listing now args).2 other) other database
      (database.handleHsetnx listing now args).1 := by
  unfold handleHsetnx
  rw [request]
  dsimp only
  split
  next =>
    exact .refl other database
  next =>
    -- looking the key up, and the request for memory, before the hash is opened
    have looked : ∃ ready allowed, (if (database.keyspace.get hashes key).isSome then (database, true)
          else database.ensureHashKey now key) = (ready, allowed) ∧
        (∀ other, Calm other database ready) ∧ KeepsDocuments ready ∧ liveHash now key ready = liveHash now key database ∧
        (Gentle key database → Gentle key ready) := by
      split
      · exact ⟨_, _, rfl, fun other => .refl other database, keeps, rfl, id⟩
      · exact ⟨_, _, rfl, fun other => purge_calm now key other database, purge_documents now key keeps,
          live_purge, fun gentle => purge_gentle gentle⟩
    obtain ⟨ready, allowed, same, readyCalm, readyKeeps, readyLive, readyGentle⟩ := looked
    rw [same]
    cases allowed with
    | false =>
      exact .of_calm sound (readyCalm other) False.elim
    | true =>
      dsimp only
      have ensured := ensure_calm readyKeeps
      have ensuredKeeps := ensure_documents readyKeeps
      have ensuredSpared (gentle : Gentle key database) := ensure_spared (readyGentle gentle)
      split
      next refused still =>
        rw [still] at ensured
        exact .of_calm sound ((readyCalm other).trans (ensured other)) False.elim
      next granted still =>
        rw [still] at ensured ensuredKeeps ensuredSpared
        have calm : Calm other database (granted.purgeIfExpired now key) :=
          ((readyCalm other).trans (ensured other)).trans (purge_calm now key other granted)
        have own : Calm key database (granted.purgeIfExpired now key) :=
          ((readyCalm key).trans (ensured key)).trans (purge_calm now key key granted)
        obtain ⟨_, ownTurned⟩ := own.turned
        rw [← getOrCreate_purge]
        refine .after_calm sound calm (open_outcome (fun fields => (fields.lookup field).isSome) (.integer 0)
          (fun different reply => hsetnx_named request reply different) (fun _ => rfl) rfl ?_ rfl
          (fun fields => insert_ne_empty fields field value) (purge_documents now key ensuredKeeps)
          (fun _ found => purge_fresh found) ?_ (sound.calm calm))
        · rintro rfl fields
          simp [storesFields, request, Except.toOption]
        · intro covered
          obtain ⟨gentle, given, texts⟩ := careful (ownTurned.covered_iff.mp covered)
          obtain ⟨fieldText, valueText⟩ := given (field, value) List.mem_cons_self
          have spared := ensuredSpared gentle
          refine ⟨purge_gentle spared.gentle, fun fields old => old.insert fieldText valueText, ?_⟩
          rw [live_purge, live_congr spared.slot, readyLive]
          exact texts

theorem increment_outcome {α : Type} {change : Fields → Except String (Fields × α)} {reply : α → RespValue}
    (keeps : KeepsDocuments database) (uncovered : ¬ Covered key database) (sound : SoundAt other written database) :
    Outcome now (other = key) false other database (database.increment now key change reply).1 := by
  have reach := getOrCreate_reach now key (purge_documents now key keeps)
  unfold increment
  rw [← getOrCreate_purge]
  refine .after_purge key sound (.of_reach (sound.calm (purge_calm now key other database)) ?_
    (mt (covered_purge now key key database).mp uncovered) (fun _ => rfl))
  generalize (database.purgeIfExpired now key).getOrCreateHash now key = made at reach ⊢
  obtain ⟨middle, result⟩ := made
  cases result with
  | error refusal => exact reach
  | ok fields =>
    dsimp only
    split
    next => exact reach
    next grown value _ =>
      have wrote := reach.trans (writeHash_reach key reach.documents grown)
      have ensured := wrote.trans (ensure_reach wrote.documents)
      split
      next refused still =>
        rw [still] at ensured
        exact ensured.trans (rollBack_reach key ensured.documents fields)
      next granted still =>
        rw [still] at ensured
        exact ensured

/-- Deletions of fields, if they delete nothing from a hash that an index looks at. -/
theorem dropFields_outcome {missing : RespValue} {change : Fields → Fields × RespValue} (keeps : KeepsDocuments database)
    (harmless : Covered key database → ∀ fields, held key database = some fields → (change fields).1 = fields)
    (sound : SoundAt other written database) :
    Outcome now False false other database (database.dropFields key missing change).1 := by
  unfold dropFields
  split
  next => exact .refl other database
  next fields hash =>
    dsimp only
    have wrote := writeHash_reach key keeps (change fields).1
    by_cases covered : Covered key database
    · have nothing := harmless covered fields hash
      rw [nothing] at wrote ⊢
      obtain ⟨slot, found, unwrapped⟩ := bind_eq_some_iff.mp hash
      have content := unwrap_hash.mp unwrapped
      have present := lookup_writeHash_self found fields
      rw [← content] at present
      by_cases same : other = key
      · subst same
        split
        next empty =>
          refine .off ?_ (held_of_absent (lookup_removeHash_self ((held_of_lookup present).trans unwrapped)))
          exact fun name prefixes document seen => sound.blank_of_empty hash empty seen
        next => exact .of_calm sound (.same (turned_of_indices other rfl) (present.trans found.symm)) False.elim
      · refine .of_calm sound ?_ False.elim
        split
        · exact (wrote.others other same).trans ((removeHash_reach key wrote.documents).others other same)
        · exact wrote.others other same
    · refine .of_reach sound ?_ covered (fun _ => rfl)
      split
      · exact wrote.trans (removeHash_reach key wrote.documents)
      · exact wrote

end Handlers

section Keys
variable {other src dst : Bytes} {written : Bytes → Bool}

theorem lookup_calm_none (calm : Calm key before after) (missing : before.keyspace.lookup key = none) :
    after.keyspace.lookup key = none := by
  cases calm with
  | same _ slot => exact slot.trans missing
  | off _ gone => exact gone

theorem Blank.of_indices (blank : Blank key before) (same : after.indices = before.indices) : Blank key after := by
  intro name prefixes document seen
  exact blank ((turned_of_indices key same).views ▸ seen)

theorem deleteMany_calm (keys : List Bytes) (count : Nat) (key : Bytes) (database : Database F) :
    let result := keys.foldl (fun (database, count) key =>
      let (database, deleted) := database.delete key
      (database, if deleted then count + 1 else count)) (database, count)
    Calm key database result.1 ∧ (key ∈ keys → result.1.keyspace.lookup key = none) := by
  induction keys generalizing count database with
  | nil => exact ⟨.refl key database, fun member => absurd member List.not_mem_nil⟩
  | cons first keys ih =>
    obtain ⟨calm, gone⟩ := ih (if (database.delete first).2 then count + 1 else count) (database.delete first).1
    refine ⟨(delete_calm first key database).trans calm, ?_⟩
    intro member
    rcases List.mem_cons.mp member with rfl | later
    · exact lookup_calm_none calm (lookup_delete key database)
    · exact gone later

theorem deleteMany_outcome (keys : List Bytes) (sound : SoundAt key written database) :
    Outcome now (key ∈ keys) false key database (database.deleteMany keys).1 := by
  obtain ⟨calm, gone⟩ := deleteMany_calm keys 0 key database
  exact .of_calm sound calm gone

theorem expire_outcome (ttlMs : Nat) (sound : SoundAt other written database) :
    Outcome now (other = key) false other database (database.expire now key ttlMs).1 := by
  unfold expire
  refine .after_purge key sound ?_
  have fresh : ∀ slot, (database.purgeIfExpired now key).keyspace.lookup key = some slot → slot.isExpired now = false :=
    fun _ found => purge_fresh found
  replace sound := sound.calm (purge_calm now key other database)
  generalize database.purgeIfExpired now key = database at fresh sound ⊢
  dsimp only
  split
  next => exact .refl other database
  next slot found =>
    split
    next => exact .of_calm sound (delete_calm key other database) False.elim
    next positive =>
      by_cases same : other = key
      · subst same
        have placed := lookup_insert (a := other) (b := { slot with expiresAt := some (now + ttlMs) }) database.keyspace
        have later : ({ slot with expiresAt := some (now + ttlMs) } : KeySlot F).isExpired now = false := by
          simp [KeySlot.isExpired, positive]
        have hash : held other { database with keyspace := database.keyspace.insert other { slot with expiresAt := some (now + ttlMs) } } =
            held other database := by
          rw [held_of_lookup placed, held_of_lookup found]
        refine .kept .inl hash ?_ ?_ rfl
        · exact (live_of_fresh placed later).trans (hash.trans (live_of_fresh found (fresh slot found)).symm)
        · intro current known expired
          rw [placed, some.injEq] at known
          rw [← known, later] at expired
          cases expired
      · exact .of_calm sound (.same (turned_of_indices other rfl) (lookup_insert_of_ne _ same)) False.elim

theorem expireAt_outcome (unixMs : Int) (sound : SoundAt other written database) :
    Outcome now (other = key) false other database (database.expireAtUnixMs now key unixMs).1 := by
  unfold expireAtUnixMs
  refine .after_purge key sound ?_
  replace sound := sound.calm (purge_calm now key other database)
  dsimp only
  split
  next => exact .refl other _
  next =>
    split
    · exact .of_calm sound (delete_calm key other _) False.elim
    · exact (expire_outcome _ sound).mono False.elim

/-- Renaming, if what moves is no hash, or no index knows it and none looks at where it goes. -/
theorem rename_outcome {nx : Bool} (sounds : ∀ other, SoundAt other (known other) database)
    (harmless : src = dst ∨ liveHash now src database = none ∨ (nx && database.keyspace.isLive now dst) = true ∨
      ¬ Documented src database ∧ ¬ Covered dst database) :
    Outcome now (other = src) false other database (database.rename now src dst nx).1 := by
  unfold rename
  refine .after_purge src (sounds other) ?_
  rw [← held_purge, ← isLive_purge now src, ← isLive_iff, ← covered_purge now src] at harmless
  have blank : ¬ Documented src database → Blank src (database.purgeIfExpired now src) := by
    intro unknown
    refine Blank.calm ?_ (purge_calm now src src database)
    intro name prefixes document seen
    cases document with
    | none => rfl
    | some fields => exact absurd ⟨name, prefixes, fields, seen⟩ unknown
  replace harmless := harmless.imp_right (Or.imp_right (Or.imp_right (And.imp_left blank)))
  replace sounds := fun other => (sounds other).calm (purge_calm now src other database)
  generalize database.purgeIfExpired now src = database at harmless sounds ⊢
  dsimp only
  split
  next => exact .refl other database
  next slot found =>
    split
    next => exact .refl other database
    next different =>
      split
      next => exact .of_calm (sounds other) (purge_calm now dst other database) False.elim
      next free =>
        have calm : ∀ other, Calm other database ((database.purgeIfExpired now dst).delete dst).1 := fun other =>
          (purge_calm now dst other database).trans (delete_calm dst other _)
        have clear := lookup_delete dst (database.purgeIfExpired now dst)
        generalize ((database.purgeIfExpired now dst).delete dst).1 = middle at calm clear ⊢
        have plain : held src database = none ∨ Blank src database ∧ ¬ Covered dst database := by
          rcases harmless with same | none' | taken | rest
          · exact absurd same different
          · exact .inl none'
          · exact absurd taken free
          · exact .inr rest
        by_cases atDst : other = dst
        · subst atDst
          have placed := lookup_insert (a := other) (b := slot) (middle.keyspace.erase src)
          rcases plain with none' | ⟨_, uncovered⟩
          · have blank := ((sounds other).calm (calm other)).blank (held_of_absent clear)
            rw [held_of_lookup found] at none'
            exact .off (Blank.of_indices blank rfl) ((held_of_lookup placed).trans none')
          · obtain ⟨turn, turned⟩ := (calm other).turned
            exact .unseen _ (turned.trans (turned_of_indices other rfl)) uncovered
        · have stays : ((middle.keyspace.erase src).insert dst slot).lookup other = (middle.keyspace.erase src).lookup other :=
            lookup_insert_of_ne _ atDst
          by_cases atSrc : other = src
          · subst atSrc
            have blank : Blank other database := by
              rcases plain with none' | ⟨unknown, _⟩
              · exact (sounds other).blank none'
              · exact unknown
            exact .off (Blank.of_indices (blank.calm (calm other)) rfl)
              (held_of_absent (stays.trans (lookup_erase other _)))
          · refine .of_calm (sounds other) ((calm other).trans (.same (turned_of_indices other rfl) ?_)) False.elim
            exact stays.trans (lookup_erase_ne atSrc)

theorem delete_reach (keeps : KeepsDocuments database) : Reach key database (database.delete key).1  where
  others other _ := delete_calm key other database
  own := (delete_calm key key database).turned
  documents := by
    refine keeps.mono ?_
    rw [delete_grants, delete_searchGrants]
    exact fun grant member => member

/-- A key on which a command works while no index knows it. -/
structure Bare (key : Bytes) (before after : Database F) : Prop where
  reach : Reach key before after
  blank : Blank key after

namespace Bare

section
variable (bare : Bare key before middle)
include bare

theorem calmly (reach : Reach key middle after) (calm : Calm key middle after) :
    Bare key before after := ⟨bare.reach.trans reach, Blank.calm bare.blank calm⟩

theorem ensure : Bare key before middle.ensureNonStringCapacity.1 :=
  bare.calmly (ensure_reach bare.reach.documents) (ensure_calm bare.reach.documents key)

theorem insert (slot : KeySlot F) :
    Bare key before { middle with keyspace := middle.keyspace.insert key slot } :=
  ⟨bare.reach.trans (insert_reach key bare.reach.documents slot), Blank.of_indices bare.blank rfl⟩

theorem write (fields : Fields) : Bare key before (middle.writeHash key fields) :=
  ⟨bare.reach.trans (writeHash_reach key bare.reach.documents fields), Blank.of_indices bare.blank rfl⟩

theorem purge (now : Nat) : Bare key before (middle.purgeIfExpired now key) :=
  bare.calmly (purge_reach now key bare.reach.documents) (purge_calm now key key middle)

theorem delete : Bare key before (middle.delete key).1 :=
  bare.calmly (delete_reach bare.reach.documents) (delete_calm key key middle)

theorem getOrCreate (now : Nat) : Bare key before (middle.getOrCreateHash now key).1 := by
  have purged := bare.purge now
  rw [← getOrCreate_purge]
  rcases getOrCreate_cases fun slot (found : (middle.purgeIfExpired now key).keyspace.lookup key = some slot) => purge_fresh found
    with ⟨_, _, _, _, same⟩ | same | ⟨_, same | same⟩ <;> rw [same]
  · exact purged
  · exact purged
  · exact purged.ensure
  · exact purged.ensure.insert _

theorem expire (now ttlMs : Nat) : Bare key before (middle.expire now key ttlMs).1 := by
  have purged := bare.purge now
  unfold Database.expire
  dsimp only
  split
  next => exact purged
  next =>
    split
    · exact purged.delete
    · exact purged.insert _

end

end Bare

theorem expire_held_none (ttlMs : Nat) (none' : held key database = none) : held key (database.expire now key ttlMs).1 = none := by
  have purged : held key (database.purgeIfExpired now key) = none := by
    rcases purge_cases now key database with ⟨same, _⟩ | ⟨same, _⟩
    · rw [same]
      exact none'
    · rw [same]
      exact held_of_absent (lookup_delete key database)
  unfold expire
  dsimp only
  split
  next => exact purged
  next slot found =>
    rw [held_of_lookup found] at purged
    split
    · exact held_of_absent (lookup_delete key _)
    · refine (held_of_lookup (lookup_insert _)).trans ?_
      exact purged

variable (setting : Setting)

/-- A restored value is one that no index knows; the key may also be in use, and nothing happens. -/
theorem restoreKey_spec (value : KeyValue F) (pttl : Int) (replace : Bool) (keeps : KeepsDocuments database)
    (sound : SoundAt key written database) :
    let result := database.restoreKey setting key value pttl replace
    let busy := ((database.purgeIfExpired setting.now key).keyspace.lookup key).isSome && !replace
    busy = true ∧ result.1 = database.purgeIfExpired setting.now key ∨
      busy = false ∧ Bare key database result.1 ∧ ((∀ fields, value ≠ .hash fields) → held key result.1 = none) := by
  have cleared : Bare key database ((database.purgeIfExpired setting.now key).delete key).1 := by
    have purged := purge_reach setting.now key keeps
    refine ⟨purged.trans (delete_reach purged.documents), ?_⟩
    have calm := (purge_calm setting.now key key database).trans (delete_calm key key _)
    exact (sound.calm calm).blank (held_of_absent (lookup_delete key _))
  have nothing := held_of_absent (lookup_delete key (database.purgeIfExpired setting.now key))
  -- no index knows the key, and what it holds is no hash unless the value is one
  let Placed (middle : Database F) := Bare key database middle ∧ ((∀ fields, value ≠ .hash fields) → held key middle = none)
  have limited (middle : Database F) (placed : Placed middle) :
      Placed (if 0 < pttl then (middle.expire setting.now key pttl.toNat).1 else middle) := by
    split
    · exact ⟨placed.1.expire setting.now pttl.toNat, fun plain => expire_held_none pttl.toNat (placed.2 plain)⟩
    · exact placed
  unfold restoreKey
  dsimp only
  split
  next busy => exact .inl ⟨busy, rfl⟩
  next free =>
    generalize ((database.purgeIfExpired setting.now key).delete key).1 = middle at cleared nothing ⊢
    refine .inr ⟨not_eq_true _ ▸ free, ?_⟩
    have ensured : Placed middle.ensureNonStringCapacity.1 := by
      refine ⟨cleared.ensure, fun _ => ?_⟩
      cases ensure_calm cleared.reach.documents key with
      | same _ slot => exact (held_congr slot).trans nothing
      | off _ gone => exact held_of_absent gone
    have insert (rest : Database F) (placed : Placed rest) : Placed { rest with keyspace := rest.keyspace.insert key (.new value) } := by
      refine ⟨placed.1.insert _, fun plain => (held_of_lookup (lookup_insert _)).trans ?_⟩
      cases unwrapped : (hashes : Container F Fields).unwrap value with
      | none => exact unwrapped
      | some fields => exact absurd (unwrap_hash.mp unwrapped) (plain fields)
    split
    next fields =>
      have opened := cleared.getOrCreate setting.now
      have hash {rest : Database F} (bare : Bare key database rest) : Placed rest := ⟨bare, fun plain => absurd rfl (plain fields)⟩
      split
      next refused same =>
        rw [same] at opened
        exact hash opened
      next made _ same =>
        rw [same] at opened
        have paid := (opened.write fields).ensure
        split
        next still =>
          rw [still] at paid
          exact hash paid
        next still =>
          rw [still] at paid
          exact limited _ (hash paid)
    next text =>
      split
      · exact ⟨cleared, fun _ => nothing⟩
      split
      next refused same =>
        rw [same] at ensured
        exact ensured
      next granted same =>
        rw [same] at ensured
        exact limited _ (insert _ ensured)
    next =>
      split
      next refused same =>
        rw [same] at ensured
        exact ensured
      next granted same =>
        rw [same] at ensured
        exact limited _ (insert _ ensured)

theorem Bare.outcome {busy : Bytes} (bare : Bare busy before after) (sound : SoundAt other written before)
    (harmless : held busy after = none ∨ ¬ Covered busy before) : Outcome now False false other before after := by
  by_cases same : other = busy
  · subst same
    rcases harmless with none' | uncovered
    · exact .off bare.blank none'
    · obtain ⟨turn, turned⟩ := bare.reach.own
      exact .unseen turn turned uncovered
  · exact .of_calm sound (bare.reach.others other same) False.elim

theorem restoreKey_outcome {value : KeyValue F} {pttl : Int} {replace : Bool} (keeps : KeepsDocuments database)
    (sounds : ∀ other, SoundAt other (known other) database)
    (harmless : (∀ fields, value ≠ .hash fields) ∨ ¬ Covered key database ∨
      (((database.purgeIfExpired setting.now key).keyspace.lookup key).isSome && !replace) = true) :
    Outcome setting.now False false other database (database.restoreKey setting key value pttl replace).1 := by
  rcases restoreKey_spec setting value pttl replace keeps (sounds key) with ⟨_, same⟩ | ⟨free, bare, plain⟩
  · rw [same]
    exact .of_calm (sounds other) (purge_calm setting.now key other database) False.elim
  · refine bare.outcome (sounds other) ?_
    rcases harmless with noHash | uncovered | busy
    · exact .inl (plain noHash)
    · exact .inr uncovered
    · rw [free] at busy
      cases busy

theorem restoreKey_granted (value : KeyValue F) (pttl : Int) {fields : Fields} (hash : value = .hash fields)
    (granted : ∀ grant ∈ database.grants, grant.allowed = true) :
    (database.restoreKey setting key value pttl true).2 = .ok true := by
  have allowed (rest : Database F) (fewer : ∀ grant ∈ rest.grants, grant ∈ database.grants) :
      rest.ensureNonStringCapacity.2 = true := by
    change (rest.grants.headD .free).allowed = true
    cases left : rest.grants with
    | nil => rfl
    | cons grant grants => exact granted grant (fewer grant (left ▸ List.mem_cons_self))
  subst hash
  unfold restoreKey
  dsimp only
  rw [Bool.not_true, Bool.and_false, if_neg Bool.false_ne_true]
  have missing := lookup_delete key (database.purgeIfExpired setting.now key)
  have same : ((database.purgeIfExpired setting.now key).delete key).1.grants = database.grants := by
    rw [delete_grants, purge_grants]
  generalize ((database.purgeIfExpired setting.now key).delete key).1 = middle at missing same ⊢
  have paid := allowed middle (same ▸ fun _ member => member)
  have opened : ∃ made, middle.getOrCreateHash setting.now key = (made, .ok ∅) ∧ made.grants = middle.grants.tail := by
    unfold getOrCreateHash
    rw [purge_of_fresh fun slot found => absurd (missing.symm.trans found) nofun]
    dsimp only
    rw [missing]
    dsimp only
    split
    next still =>
      rw [still] at paid
      cases paid
    next rest still => exact ⟨_, rfl, (congrArg (fun result => result.1.grants) still).symm⟩
  obtain ⟨made, opening, left⟩ := opened
  rw [opening]
  dsimp only
  have again := allowed (made.writeHash key fields) fun grant member => same ▸ List.mem_of_mem_tail (left ▸ member)
  split
  next still =>
    rw [still] at again
    cases again
  next => rfl

theorem restoreSerialized_outcome {payload : Option (KeyValue F)} {ttl : Int} {replace absttl : Bool}
    (keeps : KeepsDocuments database) (sounds : ∀ other, SoundAt other (known other) database)
    (harmless : (∀ fields, payload ≠ some (.hash fields)) ∨ ¬ Covered key database ∨
      (database.keyspace.isLive setting.now key && !replace) = true ∨
      withRestoreTtl setting.now ttl absttl = 0 ∧ ∀ grant ∈ database.grants, grant.allowed = true) :
    Outcome setting.now (other = key) false other database
      (database.restoreSerialized setting key payload ttl replace absttl).1 := by
  unfold restoreSerialized
  refine .after_purge key (sounds other) ?_
  rw [← covered_purge setting.now key, ← isLive_iff, ← purge_grants] at harmless
  replace keeps := purge_documents setting.now key keeps
  replace sounds := fun other => (sounds other).calm (purge_calm setting.now key other database)
  generalize database.purgeIfExpired setting.now key = database at harmless keeps sounds ⊢
  dsimp only
  split
  next => exact .refl other database
  next free =>
    cases payload with
    | none => exact .refl other database
    | some value =>
      dsimp only
      generalize withRestoreTtl setting.now ttl absttl = pttl at harmless ⊢
      have restored := restoreKey_spec setting value (if pttl = 0 then -1 else pttl) true keeps (sounds key)
      have granted := fun fields (hash : value = .hash fields) =>
        @restoreKey_granted F key database setting value (if pttl = 0 then -1 else pttl) fields hash
      generalize database.restoreKey setting key value (if pttl = 0 then -1 else pttl) true = result at restored granted ⊢
      obtain ⟨made, answer⟩ := result
      rcases restored with ⟨busy, _⟩ | ⟨_, bare, plain⟩
      · rw [Bool.not_true, Bool.and_false] at busy
        cases busy
      have known : (held key made = none ∨ ¬ Covered key database) ∨ pttl = 0 ∧ ∀ grant ∈ database.grants, grant.allowed = true := by
        rcases harmless with noHash | uncovered | busy | past
        · exact .inl (.inl (plain fun fields same => noHash fields (congrArg some same)))
        · exact .inl (.inr uncovered)
        · exact absurd busy free
        · exact .inr past
      cases answer with
      | error refusal =>
        refine bare.outcome (sounds other) (known.elim id fun past => .inl (plain fun fields same => ?_))
        cases granted fields same past.2
      | ok done =>
        dsimp only
        split
        next => exact bare.delete.outcome (sounds other) (.inl (held_of_absent (lookup_delete key made)))
        next later => exact bare.outcome (sounds other) (known.resolve_right fun past => later past.1)

end Keys

section Indices
variable {written : Bytes → Bool}

theorem flush_outcome : Outcome now True false key database database.flush := by
  refine .off ?_ (held_of_absent (lookup_empty _))
  intro name prefixes document seen
  simp only [view, flush, FiniteMap.lookup_mapValues, map_map] at seen
  obtain ⟨index, _, same⟩ := map_eq_some_iff.mp seen
  cases same
  exact lookup_empty _

theorem outcome_of_indices (keyspace : after.keyspace = before.keyspace)
    (carried : ∀ {name prefixes document}, view name key after = some (prefixes, document) →
      view name key before = some (prefixes, document) ∨ view name key before = none ∧ document = none) :
    Outcome now False false key before after := by
  have slot : after.keyspace.lookup key = before.keyspace.lookup key := by rw [keyspace]
  refine .kept carried (held_congr slot) (live_congr slot) ?_ rfl
  intro current found expired _
  exact ⟨⟨current, slot ▸ found, expired⟩, id⟩

variable {name other index : Bytes}

theorem createIndex_outcome (prefixes : List Bytes) : Outcome now False false key database (database.createIndex name prefixes).1 := by
  unfold createIndex
  split
  · exact .refl key database
  split
  next => exact .refl key database
  next absent =>
    refine outcome_of_indices rfl ?_
    intro other found document seen
    by_cases same : other = name
    · subst same
      rw [view, lookup_insert, map_some] at seen
      cases seen
      rw [not_eq_true, isSome_eq_false_iff, isNone_iff_eq_none] at absent
      exact .inr ⟨by rw [view, absent, map_none], lookup_empty _⟩
    · rw [view, lookup_insert_of_ne _ same] at seen
      exact .inl seen

theorem dropIndex_outcome : Outcome now False false key database (database.dropIndex name).1 := by
  unfold dropIndex
  dsimp only
  split
  next =>
    refine outcome_of_indices rfl ?_
    intro other found document seen
    by_cases same : other = database.resolveName name
    · subst same
      rw [view, lookup_erase, map_none] at seen
      cases seen
    · rw [view, lookup_erase_ne same] at seen
      exact .inl seen
  next => exact .refl key database

theorem aliasAdd_outcome : Outcome now False false key database (database.aliasAdd other index).1 := by
  unfold aliasAdd
  split
  · exact .refl key database
  split
  · exact .refl key database
  · split
    · exact outcome_of_indices rfl .inl
    · exact .refl key database

theorem aliasDel_outcome : Outcome now False false key database (database.aliasDel other).1 := by
  unfold aliasDel
  split
  · exact outcome_of_indices rfl .inl
  · exact .refl key database

theorem aliasUpdate_outcome : Outcome now False false key database (database.aliasUpdate other index).1 := by
  unfold aliasUpdate
  split
  · exact .refl key database
  · split
    · exact outcome_of_indices rfl .inl
    · exact .refl key database

end Indices
end Kore.Proofs.SearchHandlers
