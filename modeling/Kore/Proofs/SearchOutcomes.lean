import Kore.Proofs.SearchEffects

/-! What a command may make of a key without the indices losing track of it. Each command, on
the conditions under which the indices stay right, comes to one of four outcomes for every
key. -/

namespace Kore.Proofs.SearchOutcomes
open Foundation Protocol Cache Search SearchEffects Finmap Database Option Keyspace

variable {F : Type} {now : Nat} {key : Bytes} {before middle after database : Database F}
variable {fields : Fields} {slot : KeySlot F} {pairs : List (Bytes × Bytes)}

abbrev held (key : Bytes) (database : Database F) : Option Fields := database.keyspace.get hashes key

def liveHash (now : Nat) (key : Bytes) (database : Database F) : Option Fields :=
  (database.keyspace.lookup key).bind fun slot => if slot.isExpired now then none else hashes.unwrap slot.value

def Documented (key : Bytes) (database : Database F) : Prop :=
  ∃ name prefixes fields, view name key database = some (prefixes, some fields)

/-- What the indices have for a key is what its slot holds, if they match the key and it was
written in their time. -/
structure SoundAt (key : Bytes) (written : Bytes → Bool) (database : Database F) : Prop where
  right : ∀ {name prefixes document}, view name key database = some (prefixes, document) →
    document = if matchesPrefix key prefixes && written name then held key database else none
  filled : ∀ {name prefixes fields}, view name key database = some (prefixes, some fields) → fields ≠ ∅

def Blank (key : Bytes) (database : Database F) : Prop :=
  ∀ ⦃name prefixes document⦄, view name key database = some (prefixes, document) → document = none

inductive Outcome (now : Nat) (noticed : Prop) (named : Bool) (key : Bytes) (before after : Database F) : Prop
  /-- The hash stays as it is. -/
  | kept (carried : ∀ {name prefixes document}, view name key after = some (prefixes, document) →
        view name key before = some (prefixes, document) ∨ view name key before = none ∧ document = none)
      (hash : held key after = held key before) (live : liveHash now key after = liveHash now key before)
      (lapse : ∀ slot, after.keyspace.lookup key = some slot → slot.isExpired now = true → held key after ≠ none →
        (∃ old, before.keyspace.lookup key = some old ∧ old.isExpired now = true) ∧ ¬ noticed)
      (unnamed : named = false)
  /-- The hash, if there was one, is gone with its documents. -/
  | off (blank : Blank key after) (gone : held key after = none)
  /-- A hash is written and indexed. -/
  | on (fields : Fields) (slot : KeySlot F) (turned : Turned key (some (some fields)) before after)
      (found : after.keyspace.lookup key = some slot) (hash : slot.value = .hash fields) (fresh : slot.isExpired now = false)
      (named : named = true) (filled : fields ≠ ∅)
  /-- No index looks at the key. -/
  | unseen (turn : Option (Option Fields)) (turned : Turned key turn before after) (uncovered : ¬ Covered key before)

section Sound
variable {written : Bytes → Bool}

theorem unwrap_hash {value : KeyValue F} : hashes.unwrap value = some fields ↔ value = .hash fields := by
  cases value <;> simp [hashes]

theorem held_of_lookup (found : database.keyspace.lookup key = some slot) :
    held key database = hashes.unwrap slot.value := by
  rw [held, Keyspace.get, found, bind_some]

theorem held_of_absent (missing : database.keyspace.lookup key = none) : held key database = none := by
  rw [held, Keyspace.get, missing, bind_none]

section
variable (same : after.keyspace.lookup key = before.keyspace.lookup key)
include same

theorem held_congr : held key after = held key before := by
  rw [held, held, Keyspace.get, Keyspace.get, same]

theorem live_congr : liveHash now key after = liveHash now key before := by
  rw [liveHash, liveHash, same]

end

theorem live_of_fresh (found : database.keyspace.lookup key = some slot) (fresh : slot.isExpired now = false) :
    liveHash now key database = held key database := by
  rw [liveHash, held_of_lookup found, found, bind_some, fresh]
  rfl

theorem live_of_held_none (none' : held key database = none) : liveHash now key database = none := by
  unfold liveHash
  cases found : database.keyspace.lookup key with
  | none => rfl
  | some slot =>
    rw [held_of_lookup found] at none'
    rw [bind_some, none', ite_self]

theorem live_of_expired (found : database.keyspace.lookup key = some slot) (expired : slot.isExpired now = true) :
    liveHash now key database = none := by
  rw [liveHash, found, bind_some, if_pos expired]

theorem SoundAt.blank (sound : SoundAt key written database) (gone : held key database = none) : Blank key database := by
  intro name prefixes document seen
  rw [sound.right seen, gone, ite_self]

/-- Documents that are turned away are all that a sound index has. -/
theorem SoundAt.blank_of_off (sound : SoundAt key written before) (turned : Turned key (some none) before after) :
    Blank key after := by
  intro name prefixes document seen
  obtain ⟨old, known, became⟩ := turned.inv seen
  rw [became, sound.right known]
  cases matchesPrefix key prefixes <;> simp

theorem SoundAt.unmatched (sound : SoundAt key written database) {name : Bytes} {prefixes : List Bytes} {document : Option Fields}
    (seen : view name key database = some (prefixes, document)) (unfit : matchesPrefix key prefixes = false) : document = none := by
  rw [sound.right seen, unfit]
  rfl

theorem Blank.calm (blank : Blank key before) (calm : Calm key before after) : Blank key after := by
  intro name prefixes document seen
  cases calm with
  | same turned _ => exact blank (turned.views ▸ seen)
  | off turned _ =>
    obtain ⟨old, known, became⟩ := turned.inv seen
    rw [became, blank known]
    exact ite_self _

theorem SoundAt.calm (sound : SoundAt key written before) (calm : Calm key before after) : SoundAt key written after := by
  cases calm with
  | same turned slot =>
    refine ⟨?_, ?_⟩
    · intro name prefixes document seen
      rw [held_congr slot]
      exact sound.right (turned.views ▸ seen)
    · intro name prefixes fields seen
      exact sound.filled (turned.views ▸ seen)
  | off turned gone =>
    have blank := sound.blank_of_off turned
    refine ⟨?_, ?_⟩
    · intro name prefixes document seen
      rw [held_of_absent gone, ite_self, blank seen]
    · intro name prefixes fields seen
      cases blank seen

end Sound

section Composition
variable {written : Bytes → Bool} {noticed : Prop} {named : Bool}

theorem Outcome.refl (key : Bytes) (database : Database F) : Outcome now False false key database database :=
  .kept .inl rfl rfl (fun slot found expired _ => ⟨⟨slot, found, expired⟩, id⟩) rfl

theorem Outcome.of_calm (sound : SoundAt key written before) (calm : Calm key before after)
    (gone : noticed → after.keyspace.lookup key = none) : Outcome now noticed false key before after := by
  cases calm with
  | off turned missing => exact .off (sound.blank_of_off turned) (held_of_absent missing)
  | same turned slot =>
    refine .kept (fun seen => .inl (turned.views ▸ seen)) (held_congr slot) (live_congr slot) ?_ rfl
    intro current found expired filled
    refine ⟨⟨current, slot ▸ found, expired⟩, ?_⟩
    intro seen
    rw [gone seen] at found
    cases found

/-- Evictions and purges before the work itself. -/
theorem Outcome.after_calm (sound : SoundAt key written before) (calm : Calm key before middle)
    (outcome : Outcome now False named key middle after) : Outcome now False named key before after := by
  cases outcome with
  | off blank gone => exact .off blank gone
  | on fields slot turned found hash fresh named filled =>
    obtain ⟨_, earlier⟩ := calm.turned
    exact .on fields slot (earlier.trans turned) found hash fresh named filled
  | unseen turn turned uncovered =>
    obtain ⟨_, earlier⟩ := calm.turned
    exact .unseen _ (earlier.trans turned) (fun covered => uncovered (earlier.covered_iff.mpr covered))
  | kept carried hash live lapse unnamed =>
    cases calm with
    | off turned missing =>
      have nothing := held_of_absent missing
      refine .off ?_ (hash.trans nothing)
      intro name prefixes document seen
      rcases carried seen with known | ⟨_, none'⟩
      · exact sound.blank_of_off turned known
      · exact none'
    | same turned slot =>
      refine .kept ?_ (hash.trans (held_congr slot)) (live.trans (live_congr slot)) ?_ unnamed
      · intro name prefixes document seen
        rw [← turned.views]
        exact carried seen
      · intro current found expired filled
        rw [← slot]
        exact lapse current found expired filled

theorem Outcome.weaken {seen : Prop} (outcome : Outcome now noticed named key before after)
    (still : ∀ slot, after.keyspace.lookup key = some slot → slot.isExpired now = true → held key after ≠ none → ¬ noticed → ¬ seen) :
    Outcome now seen named key before after := by
  cases outcome with
  | kept carried hash live lapse unnamed =>
    refine .kept carried hash live (fun slot found expired filled => ?_) unnamed
    obtain ⟨old, unnoticed⟩ := lapse slot found expired filled
    exact ⟨old, still slot found expired filled unnoticed⟩
  | off blank gone => exact .off blank gone
  | on fields slot turned found hash fresh named filled => exact .on fields slot turned found hash fresh named filled
  | unseen turn turned uncovered => exact .unseen turn turned uncovered

theorem Outcome.mono {seen : Prop} (outcome : Outcome now noticed named key before after) (fewer : seen → noticed) :
    Outcome now seen named key before after := outcome.weaken fun _ _ _ _ unnoticed inside => unnoticed (fewer inside)

theorem Outcome.idle {looked : Prop} (never : ¬ looked) : Outcome now looked false key database database :=
  (Outcome.refl key database).mono never

theorem Outcome.after_purge (busy : Bytes) (sound : SoundAt key written before)
    (outcome : Outcome now False named key (before.purgeIfExpired now busy) after) :
    Outcome now (key = busy) named key before after := by
  have composed := outcome.after_calm sound (purge_calm now busy key before)
  cases outcome with
  | off blank gone => exact .off blank gone
  | on fields slot _ found hash fresh named filled =>
    refine composed.weaken ?_
    intro current found' expired
    rw [found, some.injEq] at found'
    rw [← found', fresh] at expired
    cases expired
  | unseen turn turned uncovered =>
    obtain ⟨_, earlier⟩ := (purge_calm now busy key before).turned
    exact .unseen _ (earlier.trans turned) (fun covered => uncovered (earlier.covered_iff.mpr covered))
  | kept _ _ _ lapse _ =>
    refine composed.weaken ?_
    intro slot found expired filled _ same
    obtain ⟨⟨old, known, late⟩, _⟩ := lapse slot found expired filled
    subst same
    rw [purge_fresh known] at late
    cases late

/-- What a command does to the keys that it is not busy with, and to its own if no index looks. -/
theorem Outcome.of_reach {busy : Bytes} (sound : SoundAt key written before) (reach : Reach busy before after)
    (uncovered : ¬ Covered busy before) (unnamed : key ≠ busy → named = false) : Outcome now False named key before after := by
  by_cases same : key = busy
  · subst same
    obtain ⟨turn, turned⟩ := reach.own
    exact .unseen turn turned uncovered
  · rw [unnamed same]
    exact .of_calm sound (reach.others key same) False.elim

end Composition

section Slots
variable {other : Bytes} {fields : Fields}

theorem reach_of_slot (indices : after.indices = before.indices)
    (others : ∀ other, other ≠ key → after.keyspace.lookup other = before.keyspace.lookup other)
    (grants : after.grants = before.grants) (searchGrants : after.searchGrants = before.searchGrants)
    (keeps : KeepsDocuments before) : Reach key before after where
  others other different := .same (turned_of_indices other indices) (others other different)
  own := ⟨none, turned_of_indices key indices⟩
  documents := by
    refine keeps.mono ?_
    rw [grants, searchGrants]
    exact fun grant member => member

theorem lookup_writeHash : (database.writeHash key fields).keyspace.lookup other =
      if other = key then (database.keyspace.lookup key).map fun slot => { slot with value := .hash fields }
      else database.keyspace.lookup other := FiniteMap.lookup_update key other _

theorem lookup_writeHash_ne (different : other ≠ key) :
    (database.writeHash key fields).keyspace.lookup other = database.keyspace.lookup other := by
  rw [lookup_writeHash, if_neg different]

theorem lookup_writeHash_self (found : database.keyspace.lookup key = some slot) (fields : Fields) :
    (database.writeHash key fields).keyspace.lookup key = some { slot with value := .hash fields } := by
  rw [lookup_writeHash, if_pos rfl, found, map_some]

theorem lookup_removeHash_ne (different : other ≠ key) :
    (database.removeHash key).keyspace.lookup other = database.keyspace.lookup other := by
  unfold removeHash remove
  split
  next => exact lookup_erase_ne different
  next => rfl

theorem lookup_removeHash_self (hash : held key database = some fields) : (database.removeHash key).keyspace.lookup key = none := by
  unfold removeHash remove
  split
  next => exact lookup_erase key _
  next missing => exact absurd (missing.symm.trans hash) nofun

theorem writeHash_reach (key : Bytes) (keeps : KeepsDocuments database) (fields : Fields) : Reach key database (database.writeHash key fields) :=
  reach_of_slot rfl (fun _ different => lookup_writeHash_ne different) rfl rfl keeps

theorem removeHash_reach (key : Bytes) (keeps : KeepsDocuments database) : Reach key database (database.removeHash key) :=
  reach_of_slot rfl (fun _ different => lookup_removeHash_ne different) rfl rfl keeps

theorem rollBack_indices : (database.rollBack key fields).indices = database.indices := by
  unfold rollBack
  split <;> rfl

theorem rollBack_reach (key : Bytes) (keeps : KeepsDocuments database) (fields : Fields) : Reach key database (database.rollBack key fields) := by
  unfold rollBack
  split
  · have wrote := writeHash_reach key keeps fields
    exact wrote.trans (removeHash_reach key wrote.documents)
  · exact writeHash_reach key keeps fields

/-- A refused write leaves the slot as it was, or no slot if the hash was empty. -/
theorem lookup_rollBack (found : database.keyspace.lookup key = some slot) (fields : Fields) :
    (database.rollBack key fields).keyspace.lookup key =
      if fields.keys = ∅ then none else some { slot with value := .hash fields } := by
  have written := lookup_writeHash_self found fields
  unfold rollBack
  split
  next => exact lookup_removeHash_self (held_of_lookup written)
  next => exact written

theorem keys_eq_empty : fields.keys = ∅ ↔ fields = ∅ := by
  constructor
  · intro none'
    apply ext_lookup
    intro name
    rw [lookup_empty, lookup_eq_none, ← mem_keys, none']
    exact Finset.notMem_empty name
  · intro none'
    rw [none', keys_empty]

theorem SoundAt.blank_of_empty {written : Bytes → Bool} (sound : SoundAt key written database)
    (hash : held key database = some fields) (empty : fields.keys = ∅) : Blank key database := by
  intro name prefixes document seen
  cases document with
  | none => rfl
  | some document =>
    have kept := sound.right seen
    rw [hash] at kept
    split at kept
    · exact absurd ((some.inj kept).trans (keys_eq_empty.mp empty)) (sound.filled seen)
    · cases kept

end Slots

section Writes
variable {listing : Listing} {fields grown : Fields} {slot : KeySlot F} {reply : RespValue}

theorem insert_reach (key : Bytes) (keeps : KeepsDocuments database) (slot : KeySlot F) :
    Reach key database { database with keyspace := database.keyspace.insert key slot } :=
  reach_of_slot rfl (fun _ different => lookup_insert_of_ne _ different) rfl rfl keeps

theorem getOrCreate_cases (fresh : ∀ slot, database.keyspace.lookup key = some slot → slot.isExpired now = false) :
    (∃ slot fields, database.keyspace.lookup key = some slot ∧ slot.value = .hash fields ∧
      database.getOrCreateHash now key = (database, .ok fields)) ∨
    (database.getOrCreateHash now key = (database, .error (.refused .wrongType))) ∨
    (database.keyspace.lookup key = none ∧
      (database.getOrCreateHash now key = (database.ensureNonStringCapacity.1, .error .outOfMemory) ∨
        database.getOrCreateHash now key = ({ database.ensureNonStringCapacity.1 with
          keyspace := database.ensureNonStringCapacity.1.keyspace.insert key (.new (.hash ∅)) }, .ok ∅))) := by
  unfold getOrCreateHash
  dsimp only
  rw [purge_of_fresh fresh]
  cases found : database.keyspace.lookup key with
  | some slot =>
    dsimp only
    cases unwrapped : (hashes : Container F Fields).unwrap slot.value with
    | some fields => exact .inl ⟨slot, fields, rfl, unwrap_hash.mp unwrapped, rfl⟩
    | none => exact .inr (.inl rfl)
  | none =>
    refine .inr (.inr ⟨rfl, ?_⟩)
    dsimp only
    split
    next same => rw [same]; exact .inl rfl
    next same => rw [same]; exact .inr rfl

theorem getOrCreate_purge (now : Nat) (key : Bytes) (database : Database F) :
    (database.purgeIfExpired now key).getOrCreateHash now key = database.getOrCreateHash now key := by
  rw [getOrCreateHash, getOrCreateHash, purge_purge]

theorem purge_reach (now : Nat) (key : Bytes) (keeps : KeepsDocuments database) :
    Reach key database (database.purgeIfExpired now key) where
  others other _ := purge_calm now key other database
  own := (purge_calm now key key database).turned
  documents := by
    refine keeps.mono ?_
    rw [purge_grants, purge_searchGrants]
    exact fun grant member => member

theorem getOrCreate_reach (now : Nat) (key : Bytes) (keeps : KeepsDocuments database) :
    Reach key database (database.getOrCreateHash now key).1 := by
  have purged := purge_reach now key keeps
  have ensured : Reach key _ _ := ensure_reach purged.documents
  rw [← getOrCreate_purge]
  rcases getOrCreate_cases fun slot (found : (database.purgeIfExpired now key).keyspace.lookup key = some slot) => purge_fresh found
    with ⟨_, _, _, _, same⟩ | same | ⟨_, same | same⟩ <;> rw [same]
  · exact purged
  · exact purged
  · exact purged.trans ensured
  · exact purged.trans (ensured.trans (insert_reach key ensured.documents _))

theorem storeFields_reach (key : Bytes) (keeps : KeepsDocuments database) (uncovered : ¬ Covered key database) :
    Reach key database (database.storeFields listing key fields grown reply).1 := by
  have wrote := writeHash_reach key keeps grown
  have ensured := wrote.trans (ensure_reach wrote.documents)
  unfold storeFields
  split
  next refused same =>
    rw [same] at ensured
    exact ensured.trans (rollBack_reach key ensured.documents fields)
  next granted same =>
    rw [same] at ensured
    obtain ⟨_, turned⟩ := ensured.own
    rw [autoIndex_uncovered (fun covered => uncovered (turned.covered_iff.mp covered))]
    exact ensured

/-- The hash is back as it was, or written and indexed. -/
theorem storeFields_spec (listing : Listing) (reply : RespValue) (gentle : Gentle key database) (found : database.keyspace.lookup key = some slot)
    (hash : slot.value = .hash fields)
    (texts : ∀ name value, grown.lookup name = some value → isUtf8 name = true ∧ isUtf8 value = true) :
    let result := database.storeFields listing key fields grown reply
    (∀ other, other ≠ key → Calm other database result.1) ∧
      (result.2 = outOfMemory ∧ Turned key none database result.1 ∧
          result.1.keyspace.lookup key = (if fields.keys = ∅ then none else some slot) ∨
        result.2 = reply ∧ Turned key (some (some grown)) database result.1 ∧
          result.1.keyspace.lookup key = some { slot with value := .hash grown }) := by
  have wrote := writeHash_reach key gentle.documents grown
  have stillGentle : Gentle key (database.writeHash key grown) := gentle.mono (fun _ member => member) (fun _ member => member)
  have spared := ensure_spared stillGentle
  have present := spared.slot.trans (lookup_writeHash_self found grown)
  have turned : Turned key none database (database.writeHash key grown).ensureNonStringCapacity.1 :=
    (turned_of_indices key rfl).trans spared.turned
  have calm : ∀ other, other ≠ key → Calm other database (database.writeHash key grown).ensureNonStringCapacity.1 :=
    fun other different => (wrote.others other different).trans (spared.others other different)
  unfold storeFields
  split
  next refused same =>
    rw [same] at calm turned present spared
    refine ⟨?_, .inl ⟨rfl, turned.trans (turned_of_indices key (rollBack_indices)), ?_⟩⟩
    · exact fun other different =>
        (calm other different).trans ((rollBack_reach key spared.gentle.documents fields).others other different)
    · rw [lookup_rollBack present fields, ← hash]
  next granted same =>
    rw [same] at calm turned present spared
    obtain ⟨later, kept, indexed⟩ := autoIndex_spec listing spared.gentle grown
    rw [indexFields_eq texts]
    exact ⟨fun other different => (calm other different).trans (later other different),
      .inr ⟨rfl, turned.trans indexed, kept.trans present⟩⟩

end Writes

/-- Fields and values that are texts. -/
def Texts (fields : Fields) : Prop := ∀ name value, fields.lookup name = some value → isUtf8 name = true ∧ isUtf8 value = true

theorem Texts.insert (texts : Texts fields) {name value : Bytes} (nameText : isUtf8 name = true)
    (valueText : isUtf8 value = true) : Texts (fields.insert name value) := by
  intro other found known
  by_cases same : other = name
  · subst same
    rw [lookup_insert, some.injEq] at known
    exact ⟨nameText, known ▸ valueText⟩
  · rw [lookup_insert_of_ne _ same] at known
    exact texts other found known

theorem Texts.empty : Texts ∅ := by
  intro name value found
  cases found

theorem Texts.hset (texts : Texts fields)
    (given : ∀ pair ∈ pairs, isUtf8 pair.1 = true ∧ isUtf8 pair.2 = true) : Texts (pairs.foldl Commands.hset fields) := by
  induction pairs generalizing fields with
  | nil => exact texts
  | cons pair pairs ih =>
    obtain ⟨nameText, valueText⟩ := given pair List.mem_cons_self
    exact ih (texts.insert nameText valueText) fun other member => given other (List.mem_cons_of_mem _ member)

theorem insert_ne_empty (fields : Fields) (name value : Bytes) : fields.insert name value ≠ ∅ := by
  intro none'
  have found := lookup_insert (a := name) (b := value) fields
  rw [none', lookup_empty] at found
  cases found

theorem hset_ne_empty (some' : pairs ≠ []) (fields : Fields) :
    pairs.foldl Commands.hset fields ≠ ∅ := by
  obtain ⟨front, pair, rfl⟩ := List.eq_nil_or_concat pairs |>.resolve_left some'
  rw [List.concat_eq_append, List.foldl_append]
  exact insert_ne_empty _ _ _

theorem hsetRequest_pairs {args : List RespValue} (request : hsetRequest args = .ok (key, pairs)) :
    pairs ≠ [] := by
  unfold hsetRequest at request
  split at request
  · cases request
  next long =>
    split at request
    · cases request
    next first rest =>
      split at request
      · cases request
      next word _ =>
        rcases rest with _ | ⟨field, _ | ⟨value, rest⟩⟩
        · exact absurd (.inl (by simp)) long
        · exact absurd (.inl (by simp)) long
        · rw [readPairs] at request
          split at request
          · cases request
          · cases request
          next found known =>
            cases read : readPairs rest with
            | error text =>
              rw [read] at request
              cases request
            | ok others =>
              rw [read] at request
              cases request
              exact List.cons_ne_nil _ _

/-- A command has got hold of the hash under its key, an old one or a new one. -/
structure Opened (now : Nat) (key : Bytes) (before after : Database F) (slot : KeySlot F) (fields : Fields) : Prop where
  others : ∀ other, other ≠ key → Calm other before after
  turned : Turned key none before after
  found : after.keyspace.lookup key = some slot
  hash : slot.value = .hash fields
  fresh : slot.isExpired now = false
  gentle : Gentle key after
  origin : before.keyspace.lookup key = some slot ∨ before.keyspace.lookup key = none ∧ fields = ∅

theorem getOrCreate_opened (gentle : Gentle key database)
    (fresh : ∀ slot, database.keyspace.lookup key = some slot → slot.isExpired now = false) :
    (∃ slot fields, (database.getOrCreateHash now key).2 = .ok fields ∧
      Opened now key database (database.getOrCreateHash now key).1 slot fields) ∨
    ∃ refusal, (database.getOrCreateHash now key).2 = .error refusal ∧
      ∀ other, Calm other database (database.getOrCreateHash now key).1 := by
  have spared := ensure_spared gentle
  rcases getOrCreate_cases fresh with ⟨slot, fields, found, hash, same⟩ | same | ⟨missing, same | same⟩ <;> rw [same]
  · exact .inl ⟨slot, fields, rfl, fun other _ => .refl other database, .refl database, found, hash, fresh slot found, gentle, .inl found⟩
  · exact .inr ⟨_, rfl, fun other => .refl other database⟩
  · exact .inr ⟨_, rfl, fun other => ensure_calm gentle.documents other⟩
  · have placed := insert_reach key spared.gentle.documents (.new (.hash ∅))
    refine .inl ⟨.new (.hash ∅), ∅, rfl, ?_, spared.turned, lookup_insert _, rfl, rfl,
      spared.gentle.mono (fun _ member => member) (fun _ member => member), .inr ⟨missing, rfl⟩⟩
    exact fun other different => (spared.others other different).trans (placed.others other different)

/-- From getting hold of a hash to the end of `HSET`. -/
theorem Opened.store {written : Bytes → Bool} {listing : Listing} {grown : Fields} {reply : RespValue}
    {named : Bool} (opened : Opened now key before middle slot fields) (sound : SoundAt key written before)
    (texts : Texts grown) (filled : grown ≠ ∅)
    (refusedName : (middle.storeFields listing key fields grown reply).2 = outOfMemory → named = false)
    (storedName : (middle.storeFields listing key fields grown reply).2 = reply → named = true) :
    Outcome now False named key before (middle.storeFields listing key fields grown reply).1 := by
  obtain ⟨_, ⟨answer, turned, present⟩ | ⟨answer, turned, present⟩⟩ :=
    storeFields_spec listing reply opened.gentle opened.found opened.hash texts
  · have views := opened.turned.trans turned
    rw [refusedName answer]
    by_cases nothing : fields.keys = ∅
    · rw [if_pos nothing] at present
      refine .off ?_ (held_of_absent present)
      intro name prefixes document seen
      rw [views.views] at seen
      rcases opened.origin with found | ⟨missing, _⟩
      · exact sound.blank_of_empty ((held_of_lookup found).trans (unwrap_hash.mpr opened.hash)) nothing seen
      · exact sound.blank (held_of_absent missing) seen
    · rw [if_neg nothing] at present
      rcases opened.origin with found | ⟨_, empty⟩
      · have slotSame := present.trans found.symm
        refine .kept (fun seen => .inl (views.views ▸ seen)) (held_congr slotSame) (live_congr slotSame) ?_ rfl
        intro current known expired
        rw [present, some.injEq] at known
        rw [← known, opened.fresh] at expired
        cases expired
      · exact absurd (keys_eq_empty.mpr empty) nothing
  · exact .on grown _ (opened.turned.trans turned) present rfl opened.fresh (storedName answer) filled

end Kore.Proofs.SearchOutcomes
