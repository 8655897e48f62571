import Kore.Foundation.Runs
import Kore.Proofs.Repetition
import Kore.Proofs.SearchHandlers

/-! Search indices over whole runs. An index has to hold exactly the hashes that clients see
under its prefixes and that were written in its time, with the fields they have. The history
of writes is kept beside the databases; the conditions under which a command leaves the indices
right speak of the request, of the databases before it and of what is evicted for it. -/

namespace Kore.Proofs.SearchCoherence
open Foundation Protocol Cache Cache.ByteOrder Search Option Finmap
open Repetition (wholeNumbers)
open SearchEffects SearchOutcomes SearchHandlers

variable {F : Type}

/-- Clients see a hash that they did not see before, or one into which the command put fields. -/
def writes (now : Nat) (named : Bool) (key : Bytes) (before after : Database F) : Bool :=
  (liveHash now key after).isSome && (decide (liveHash now key before ≠ liveHash now key after) || named)

/-- The databases with their history: which keys have been written since an index is there. -/
structure Watched (F : Type) where
  databases : Databases F
  written : Nat → Bytes → Bytes → Bool

def Watched.new : Watched F := ⟨fun _ => .new, fun _ _ _ => false⟩

def Watched.step [Double F] (setup : Setup F) (watched : Watched F) (event : Event) : Watched F :=
  let result := execute setup watched.databases event
  ⟨result.1, fun number name key =>
    ((watched.databases number).indices.lookup name).isSome && watched.written number name key ||
      writes event.now (decide (number = event.database) && storesFields event.command result.2 key) key
        (watched.databases number) (result.1 number)⟩

/-- Every index holds exactly the live hashes that match it and were written in its time, each
with its fields. -/
def Coherent (now : Nat) (watched : Watched F) : Prop :=
  ∀ number name index, (watched.databases number).indices.lookup name = some index → ∀ key,
    index.documents.lookup key =
      if matchesPrefix key index.prefixes && watched.written number name key then liveHash now key (watched.databases number)
      else none

/-- The keys that a command is sure to look up or to delete in its database. -/
def LooksUp [Double F] (setup : Setup F) (key : Bytes) : Command → Prop
  | .hset args => ∃ pairs, hsetRequest args = .ok (key, pairs)
  | .hincrby args => ∃ field delta, hincrbyRequest args = .ok (key, field, delta)
  | .hincrbyfloat args => ∃ field, ∃ delta : F, hincrbyfloatRequest args = .ok (key, field, delta)
  | .hdel args => ∃ names, fieldsRequest "hdel" args = .ok (key, names)
  | .hgetdel args => ∃ names, fieldsRequest "hgetdel" args = .ok (key, names)
  | .del keys => key ∈ keys
  | .rename src _ _ => key = src
  | .copy src _ target _ => target < setup.databases ∧ key = src
  | .restore target _ _ _ _ | .expire target _ | .expireAt target _ | .lookUp target => key = target
  | .flushdb => True
  | .hsetnx _ | .ftCreate _ _ | .ftDropindex _ | .ftAliasadd _ _ | .ftAliasdel _ | .ftAliasupdate _ _ => False

/-- What a command must not do. A hash that an index matches is written by `HSET` and `HSETNX`
only, with texts, while it is not evicted; no field of it is deleted by itself; it is not moved,
copied or restored there, nor moved away once it has a document. -/
def Harmless [Double F] (setup : Setup F) (databases : Databases F) (event : Event) : Prop :=
  let database := databases event.database
  match event.command with
  | .hset args => ∀ key pairs, hsetRequest args = .ok (key, pairs) → Covered key database →
      Careful event.now key pairs (equip event database)
  | .hsetnx args => ∀ key field value, hsetnxRequest args = .ok (key, field, value) → Covered key database →
      Careful event.now key [(field, value)] (equip event database)
  | .hincrby args => ∀ key field delta, hincrbyRequest args = .ok (key, field, delta) → ¬ Covered key database
  | .hincrbyfloat args => ∀ key field, ∀ delta : F, hincrbyfloatRequest args = .ok (key, field, delta) → ¬ Covered key database
  | .hdel args => ∀ key names, fieldsRequest "hdel" args = .ok (key, names) → Covered key database →
      ∀ fields, liveHash event.now key database = some fields → ∀ name ∈ names, fields.lookup name = none
  | .hgetdel args => ∀ key names, fieldsRequest "hgetdel" args = .ok (key, names) → Covered key database →
      ∀ fields, liveHash event.now key database = some fields → ∀ name ∈ names, fields.lookup name = none
  | .rename src dst nx => src = dst ∨ liveHash event.now src database = none ∨
      (nx && database.keyspace.isLive event.now dst) = true ∨ ¬ Documented src database ∧ ¬ Covered dst database
  | .copy src dst target replace => setup.databases ≤ target ∨ event.database = target ∧ src = dst ∨
      liveHash event.now src database = none ∨ ¬ Covered dst (databases target) ∨
      ((databases target).keyspace.isLive event.now dst && !replace) = true
  | .restore key data ttl replace absttl => (∀ fields, setup.decodeDump data ≠ some (.hash fields)) ∨ ¬ Covered key database ∨
      (database.keyspace.isLive event.now key && !replace) = true ∨
      Database.withRestoreTtl event.now ttl absttl = 0 ∧ ∀ grant ∈ event.grants, grant.allowed = true
  | _ => True

structure Kept [Double F] (setup : Setup F) (databases : Databases F) (event : Event) : Prop where
  /-- No document is evicted on its own. -/
  documents : ∀ grant ∈ event.grants ++ event.searchGrants, ∀ name id, Victim.document name id ∉ grant.victims
  /-- A key that has a document and whose time has come is looked up by the command. -/
  noticed : ∀ number key slot, (databases number).keyspace.lookup key = some slot → slot.isExpired event.now = true →
    Documented key (databases number) → number = event.database ∧ LooksUp setup key event.command
  harmless : Harmless setup databases event

section Settling
variable {now : Nat} {noticed : Prop} {named : Bool} {key : Bytes} {written : Bytes → Bool} {before after : Database F}

/-- The history of one key for the index of a name. -/
def historyAfter (now : Nat) (named : Bool) (key : Bytes) (written : Bytes → Bool) (before after : Database F) (name : Bytes) : Bool :=
  (before.indices.lookup name).isSome && written name || writes now named key before after

private theorem history_of_seen {name : Bytes} {seen : List Bytes × Option Fields} (known : view name key before = some seen)
    (quiet : writes now named key before after = false) : historyAfter now named key written before after name = written name := by
  obtain ⟨index, found, _⟩ := map_eq_some_iff.mp known
  rw [historyAfter, quiet, found, isSome_some, Bool.true_and, Bool.or_false]

private theorem history_of_new {name : Bytes} (missing : view name key before = none)
    (quiet : writes now named key before after = false) : historyAfter now named key written before after name = false := by
  rw [historyAfter, quiet, map_eq_none_iff.mp missing]
  rfl

/-- It is enough that each index has either nothing, where it should have nothing, or the hash that
clients see. -/
private theorem settled_of {history : Bytes → Bool}
    (each : ∀ {name prefixes document}, view name key after = some (prefixes, document) →
      document = none ∧ ((matchesPrefix key prefixes && history name) = false ∨ held key after = none) ∨
      (matchesPrefix key prefixes && history name) = true ∧
        ∃ fields ≠ ∅, document = some fields ∧ held key after = some fields ∧ liveHash now key after = some fields) :
    SoundAt key history after ∧ ∀ {name prefixes document}, view name key after = some (prefixes, document) →
      document = if matchesPrefix key prefixes && history name then liveHash now key after else none := by
  refine ⟨⟨fun seen => ?_, fun seen => ?_⟩, fun seen => ?_⟩
  all_goals rcases each seen with ⟨nothing, unfit | gone⟩ | ⟨fits, fields, filled, document, hash, live⟩
  · rw [nothing, unfit, if_neg Bool.false_ne_true]
  · rw [nothing, gone, ite_self]
  · rw [document, fits, if_pos rfl, hash]
  · cases nothing
  · cases nothing
  · cases document
    exact filled
  · rw [nothing, unfit, if_neg Bool.false_ne_true]
  · rw [nothing, live_of_held_none gone, ite_self]
  · rw [document, fits, if_pos rfl, live]

/-- Every outcome leaves the indices right, and none of them with a hash whose time has come. -/
theorem Outcome.settles (outcome : Outcome now noticed named key before after) (sound : SoundAt key written before)
    (lapse : ∀ slot, before.keyspace.lookup key = some slot → slot.isExpired now = true → Documented key before → noticed) :
    SoundAt key (historyAfter now named key written before after) after ∧
      ∀ {name prefixes document}, view name key after = some (prefixes, document) →
        document = if matchesPrefix key prefixes && historyAfter now named key written before after name
          then liveHash now key after else none := by
  cases outcome with
  | off blank gone => exact settled_of fun seen => .inl ⟨blank seen, .inr gone⟩
  | unseen turn turned uncovered =>
    apply settled_of
    intro name prefixes document seen
    obtain ⟨old, known, became⟩ := turned.inv seen
    have unfit : matchesPrefix key prefixes = false := by
      by_contra fits
      exact uncovered ⟨name, prefixes, old, known, Bool.not_eq_false _ ▸ fits⟩
    rw [became, unfit]
    exact .inl ⟨sound.unmatched known unfit, .inl rfl⟩
  | on fields slot turned found hash fresh isNamed filled =>
    have heldFields : held key after = some fields := (held_of_lookup found).trans (unwrap_hash.mpr hash)
    have liveFields : liveHash now key after = some fields := (live_of_fresh found fresh).trans heldFields
    apply settled_of
    intro name prefixes document seen
    have recorded : historyAfter now named key written before after name = true := by
      rw [historyAfter, writes, liveFields, isNamed, isSome_some, Bool.or_true, Bool.true_and, Bool.or_true]
    obtain ⟨old, known, became⟩ := turned.inv seen
    cases fits : matchesPrefix key prefixes with
    | false =>
      rw [fits] at became
      exact .inl ⟨became.trans (sound.unmatched known fits), .inl rfl⟩
    | true =>
      rw [fits] at became
      exact .inr ⟨recorded, fields, filled, became, heldFields, liveFields⟩
  | kept carried hash live kept unnamed =>
    have quiet : writes now named key before after = false := by
      rw [writes, live, unnamed]
      simp
    -- a document can only stand for a hash that clients still see
    have visible : held key after ≠ none → Documented key before → liveHash now key after = held key after := by
      intro filled documented
      cases found : after.keyspace.lookup key with
      | none => exact absurd (held_of_absent found) filled
      | some slot =>
        cases expired : slot.isExpired now with
        | false => exact live_of_fresh found expired
        | true =>
          obtain ⟨⟨old, known, late⟩, unnoticed⟩ := kept slot found expired filled
          exact absurd (lapse old known late documented) unnoticed
    apply settled_of
    intro name prefixes document seen
    rcases carried seen with known | ⟨missing, none'⟩
    · rw [history_of_seen known quiet]
      have right := sound.right known
      rw [← hash] at right
      cases fits : matchesPrefix key prefixes && written name with
      | false =>
        rw [fits] at right
        exact .inl ⟨right, .inl rfl⟩
      | true =>
        rw [fits, if_pos rfl] at right
        cases filled : held key after with
        | none => exact .inl ⟨right.trans filled, .inr rfl⟩
        | some fields =>
          rw [filled] at right visible
          rw [right] at known
          exact .inr ⟨rfl, fields, sound.filled known, right, rfl, visible nofun ⟨name, prefixes, fields, known⟩⟩
    · rw [history_of_new missing quiet, Bool.and_false]
      exact .inl ⟨none', .inl rfl⟩

end Settling

section Commands
variable {now : Nat} {key busy other : Bytes} {database : Database F}

variable {names : List Bytes}

private theorem hdel_eq_self {fields : Fields} (absent : ∀ name ∈ names, fields.lookup name = none) :
    Commands.hdel names fields = fields := by
  induction names with
  | nil => rfl
  | cons name names ih =>
    have untouched : fields.erase name = fields := by
      apply ext_lookup
      intro other
      by_cases same : other = name
      · rw [same, lookup_erase, absent name List.mem_cons_self]
      · exact lookup_erase_ne same
    unfold Commands.hdel at ih ⊢
    rw [List.foldl_cons, untouched]
    exact ih fun other member => absent other (List.mem_cons_of_mem _ member)

private theorem hgetdel_fields (names : List Bytes) (fields : Fields) (values : List (Option Bytes)) :
    (names.foldl (fun (fields, values) name => (fields.erase name, values ++ [fields.lookup name])) (fields, values)).1 =
      Commands.hdel names fields := by
  induction names generalizing fields values with
  | nil => rfl
  | cons name names ih => exact ih (fields.erase name) _

variable {written : Bytes → Bool} {args : List RespValue} {listing : Listing}

private theorem dropFields_settled {missing : RespValue} {change : Fields → Fields × RespValue}
    (keeps : KeepsDocuments database) (sound : SoundAt other written database)
    (drops : ∀ fields, (change fields).1 = Commands.hdel names fields)
    (harmless : Covered key database → ∀ fields, liveHash now key database = some fields → ∀ name ∈ names, fields.lookup name = none) :
    Outcome now (other = key) false other database ((database.purgeIfExpired now key).dropFields key missing change).1 := by
  refine Outcome.after_purge key sound (dropFields_outcome (purge_documents now key keeps) ?_
    (sound.calm (purge_calm now key other database)))
  intro covered fields hash
  rw [held_purge] at hash
  rw [drops]
  exact hdel_eq_self (harmless ((covered_purge now key key database).mp covered) fields hash)

private theorem ensured_settled {denied : RespValue} {rest : Database F → Handled F} (sound : SoundAt other written database)
    (settled : Outcome now (other = key) false other database (rest (database.purgeIfExpired now key)).1) :
    Outcome now (other = key) false other database (match database.ensureHashKey now key with
      | (database, false) => (database, denied)
      | (database, true) => rest database).1 := by
  unfold Database.ensureHashKey
  cases (database.keyspace.keyType now key).all (· = .hash) with
  | false => exact .after_purge key sound (.refl other _)
  | true => exact settled

private theorem request_settled {ρ : Type} (request : Except RespValue (Bytes × ρ))
    (refused : ∀ reply, request = .error reply → after = database)
    (settled : ∀ key wanted, request = .ok (key, wanted) → Outcome now (other = key) false other database after) :
    Outcome now (∃ wanted, request = .ok (other, wanted)) false other database after := by
  cases read : request with
  | error reply =>
    rw [refused reply read]
    exact .idle fun looked => nomatch looked
  | ok pair =>
    refine (settled pair.1 pair.2 read).mono ?_
    rintro ⟨_, same⟩
    cases same
    rfl

end Commands

section Runs
variable [Double F] {setup : Setup F} {databases : Databases F} {event : Event}

variable {known : Nat → Bytes → Bytes → Bool}

section
variable (kept : Kept setup databases event)
include kept

/-- Every command that stays in its database, seen from any key of it. -/
private theorem database_outcome {known : Bytes → Bytes → Bool}
    (sounds : ∀ key, SoundAt key (known key) (equip event (databases event.database)))
    (local' : ∀ src dst target replace, event.command ≠ .copy src dst target replace) (key : Bytes) :
    let before := equip event (databases event.database)
    Outcome event.now (LooksUp setup key event.command) (storesFields event.command (before.execute setup event).2 key) key
      before (before.execute setup event).1 := by
  have keeps : KeepsDocuments (equip event (databases event.database)) := kept.documents
  have harmless := kept.harmless
  have sound := sounds key
  unfold Harmless at harmless
  unfold Database.execute
  generalize event.command = command at harmless local' ⊢
  cases command with
  | hset args =>
    cases request : hsetRequest args with
    | error reply =>
      have unnamed : storesFields (.hset args) reply key = false := by
        cases reply <;> simp [storesFields, request, Except.toOption]
      simp only [Database.handleHset, request, unnamed]
      refine .idle ?_
      rintro ⟨_, same⟩
      cases request.symm.trans same
    | ok wanted =>
      refine (hset_outcome request keeps (harmless _ _ request) sound).mono ?_
      rintro ⟨_, same⟩
      cases request.symm.trans same
      rfl
  | hsetnx args =>
    cases request : hsetnxRequest args with
    | error reply =>
      have unnamed : storesFields (.hsetnx args) reply key = false := by
        cases reply <;> simp [storesFields, request, Except.toOption]
      simp only [Database.handleHsetnx, request, unnamed]
      exact .refl key _
    | ok wanted => exact hsetnx_outcome request keeps (harmless _ _ _ request) sound
  | hincrby args =>
    refine (request_settled (hincrbyRequest args) ?_ ?_).mono (by rintro ⟨field, delta, same⟩; exact ⟨(field, delta), same⟩)
    · intro reply request
      simp [Database.handleHincrby, request]
    · intro busy wanted request
      simp only [Database.handleHincrby, request]
      exact increment_outcome keeps (harmless _ _ _ request) sound
  | hincrbyfloat args =>
    refine (request_settled (hincrbyfloatRequest args : Except RespValue (Bytes × Bytes × F)) ?_ ?_).mono
      (by rintro ⟨field, delta, same⟩; exact ⟨(field, delta), same⟩)
    · intro reply request
      simp [Database.handleHincrbyfloat, request]
    · intro busy wanted request
      simp only [Database.handleHincrbyfloat, request]
      exact increment_outcome keeps (harmless _ _ _ request) sound
  | hdel args =>
    refine request_settled (fieldsRequest "hdel" args) ?_ ?_
    · intro reply request
      simp [Database.handleHdel, request]
    · intro busy names request
      simp only [Database.handleHdel, request]
      exact ensured_settled sound (dropFields_settled keeps sound (fun _ => rfl) (harmless _ _ request))
  | hgetdel args =>
    refine request_settled (fieldsRequest "hgetdel" args) ?_ ?_
    · intro reply request
      simp [Database.handleHgetdel, request]
    · intro busy names request
      simp only [Database.handleHgetdel, request]
      refine ensured_settled sound ?_
      split
      · exact .after_purge busy sound (.refl key _)
      · exact dropFields_settled keeps sound (fun fields => hgetdel_fields names fields []) (harmless _ _ request)
  | del keys => exact deleteMany_outcome keys sound
  | rename src dst nx =>
    have settled : Outcome event.now (key = src) false key _ _ := rename_outcome sounds harmless
    dsimp only
    generalize Database.rename _ _ _ _ _ = renamed at settled ⊢
    obtain ⟨made, _ | _⟩ := renamed <;> exact settled
  | restore busy data ttl replace absttl =>
    have settled : Outcome event.now (key = busy) false key _ _ :=
      restoreSerialized_outcome ⟨event.now, setup.maxEntrySize, setup.entryStructSize⟩ keeps sounds harmless
    dsimp only
    generalize Database.restoreSerialized _ _ _ _ _ _ _ = restored at settled ⊢
    obtain ⟨made, _ | _⟩ := restored <;> exact settled
  | expire key ttlMs => exact expire_outcome ttlMs sound
  | expireAt key unixMs => exact expireAt_outcome unixMs sound
  | lookUp busy => exact Outcome.after_purge busy sound (.refl key _)
  | flushdb => exact flush_outcome
  | ftCreate name prefixes => exact createIndex_outcome prefixes
  | ftDropindex name => exact dropIndex_outcome
  | ftAliasadd other index => exact aliasAdd_outcome
  | ftAliasdel other => exact aliasDel_outcome
  | ftAliasupdate other index => exact aliasUpdate_outcome
  | copy src dst target replace => exact absurd rfl (local' src dst target replace)

section
variable (sounds : ∀ number key, SoundAt key (known number key) (equip event (databases number)))
include sounds

private theorem copy_outcome {src dst : Bytes} {target : Nat}
    {replace : Bool} (command : event.command = .copy src dst target replace) (number : Nat) (key : Bytes) :
    Outcome event.now (number = event.database ∧ LooksUp setup key event.command) false key (equip event (databases number))
      ((copyKey setup event src dst target replace fun number => equip event (databases number)).1 number) := by
  have harmless := kept.harmless
  unfold Harmless at harmless
  rw [command] at harmless ⊢
  have keeps (number : Nat) : KeepsDocuments (equip event (databases number)) := kept.documents
  unfold copyKey
  split
  next beyond => exact .idle fun looked => absurd looked.2.1 (not_lt.mpr beyond)
  next within =>
    generalize source : (equip event (databases event.database)).purgeIfExpired event.now src = purged
    -- the source, and databases that have no part in it
    have aside : Outcome event.now (number = event.database ∧ LooksUp setup key (.copy src dst target replace)) false key
        (equip event (databases number))
        (Function.update (fun number => equip event (databases number)) event.database purged number) := by
      by_cases here : number = event.database
      · subst here
        rw [Function.update_self, ← source]
        exact (Outcome.after_purge src (sounds _ key) (.refl key _)).mono fun looked => looked.2.2
      · rw [Function.update_of_ne here]
        exact .idle fun looked => here looked.1
    dsimp only [Database.dumpKey]
    rw [source]
    cases found : purged.keyspace.lookup src with
    | none => exact aside
    | some slot =>
      dsimp only [map_some]
      split
      next => exact aside
      next distinct =>
        dsimp only
        by_cases there : number = target
        · subst there
          rw [Function.update_self]
          have plain : liveHash event.now src (databases event.database) = none → ∀ fields, slot.value ≠ .hash fields := by
            intro unseen fields hash
            have seen := held_purge event.now src (equip event (databases event.database))
            rw [source, held_of_lookup found, unwrap_hash.mpr hash] at seen
            exact absurd (seen.trans unseen) nofun
          have rest := (harmless.resolve_left within).resolve_left distinct
          by_cases here : number = event.database
          · subst here
            rw [Function.update_self, ← source]
            refine Outcome.mono (Outcome.after_purge src (sounds _ key) ?_) fun looked => looked.2.2
            refine restoreKey_outcome ⟨event.now, setup.maxEntrySize, setup.entryStructSize⟩ (purge_documents event.now src (keeps _))
              (fun other => (sounds _ other).calm (purge_calm event.now src other _)) ?_
            rw [covered_purge, isLive_iff, isLive_purge]
            exact rest.imp_left plain
          · rw [Function.update_of_ne here]
            refine Outcome.mono (restoreKey_outcome ⟨event.now, setup.maxEntrySize, setup.entryStructSize⟩ (keeps _)
              (fun other => sounds _ other) ?_) fun looked => here looked.1
            rw [isLive_iff]
            exact rest.imp_left plain
        · rw [Function.update_of_ne there]
          exact aside

private theorem execute_outcome (number : Nat) (key : Bytes) :
    Outcome event.now (number = event.database ∧ LooksUp setup key event.command)
      (decide (number = event.database) && storesFields event.command (execute setup databases event).2 key) key
      (equip event (databases number)) ((execute setup databases event).1 number) := by
  by_cases copies : ∃ src dst target replace, event.command = .copy src dst target replace
  · obtain ⟨src, dst, target, replace, command⟩ := copies
    have unnamed (reply : RespValue) : storesFields event.command reply key = false := by
      rw [command]
      rfl
    rw [unnamed, Bool.and_false]
    have copied := copy_outcome kept sounds command number key
    unfold execute
    split
    next same =>
      cases command.symm.trans same
      exact copied
    next other => exact absurd command (other src dst target replace)
  · have stays : execute setup databases event =
        let equipped : Databases F := fun number => equip event (databases number)
        (Function.update equipped event.database ((equipped event.database).execute setup event).1,
          ((equipped event.database).execute setup event).2) := by
      unfold execute
      split
      next src dst target replace same => exact absurd ⟨src, dst, target, replace, same⟩ copies
      next => rfl
    rw [stays]
    dsimp only
    by_cases here : number = event.database
    · subst here
      rw [Function.update_self, decide_eq_true rfl, Bool.true_and]
      exact (database_outcome kept (fun key => sounds _ key)
        (fun src dst target replace same => copies ⟨src, dst, target, replace, same⟩) key).mono And.right
    · rw [Function.update_of_ne here, decide_eq_false here, Bool.false_and]
      exact .idle fun looked => here looked.1

end

end

/-- The indices are right, leaving aside that clients no longer see what has expired. -/
private def Sound (watched : Watched F) : Prop :=
  ∀ number key, SoundAt key (fun name => watched.written number name key) (watched.databases number)

private theorem step_settles {watched : Watched F} (sound : Sound watched) (kept : Kept setup watched.databases event) :
    Sound (watched.step setup event) ∧ Coherent event.now (watched.step setup event) := by
  have equipped (number : Nat) (key : Bytes) :
      SoundAt key (fun name => watched.written number name key) (equip event (watched.databases number)) :=
    ⟨(sound number key).right, (sound number key).filled⟩
  have settled (number : Nat) (key : Bytes) :=
    Outcome.settles (execute_outcome kept equipped number key) (equipped number key)
      fun slot found expired documented => kept.noticed number key slot found expired documented
  refine ⟨fun number key => (settled number key).1, ?_⟩
  intro number name index found key
  have seen : view name key ((watched.step setup event).databases number) = some (index.prefixes, index.documents.lookup key) := by
    rw [view, found, map_some]
  exact (settled number key).2 seen

omit [Double F] in
private theorem new_sound : Sound (Watched.new : Watched F) := by
  intro number key
  have nothing (name : Bytes) : view name key (Database.new : Database F) = none := by
    rw [view, Database.new, lookup_empty, map_none]
  refine ⟨?_, ?_⟩
  · intro name prefixes document seen
    cases (nothing name).symm.trans seen
  · intro name prefixes fields seen
    cases (nothing name).symm.trans seen

/-- In every run of the server from its start all of whose commands are harmless, every index is
right after every command. -/
theorem coherent_of_kept (setup : Setup F) (events : List Event)
    (kept : Guarded (Watched.step setup) (fun watched event => Kept setup watched.databases event) Watched.new events) :
    ∀ visit ∈ visits (Watched.step setup) Watched.new events, Coherent visit.2.now (Watched.step setup visit.1 visit.2) :=
  kept.forall_visits (fun _ _ sound allowed => step_settles sound allowed) new_sound

end Runs

section Samples

def inOrder : Listing where
  names set := Quot.lift (fun names => names.insertionSort (· ≤ ·))
    (fun _ _ same => List.Perm.eq_of_pairwise (fun _ _ _ _ => le_antisymm) (List.pairwise_insertionSort _ _) (List.pairwise_insertionSort _ _)
      ((List.perm_insertionSort _ _).trans (same.trans (List.perm_insertionSort _ _).symm))) set.val
  mem_names := by
    intro ⟨names, _⟩ name
    induction names using Quot.ind
    exact List.mem_insertionSort _

def plainSetup : Setup Int := ⟨fun _ => [], fun _ => none, 1000000, 100, 16⟩

def plainEvent (command : Command) : Event := ⟨0, 0, inOrder, [], [], command⟩

def words (texts : List String) : List RespValue := texts.map fun text => .bulkString (some (ascii text))

def indexed : List Event :=
  [plainEvent (.ftCreate (ascii "idx") [ascii "doc:"]), plainEvent (.hset (words ["doc:1", "n", "1"]))]

theorem indexed_coherent :
    (((run (Watched.step plainSetup) Watched.new indexed).databases 0).indices.lookup (ascii "idx")).map
      (·.documents.lookup (ascii "doc:1")) = some (some (singleton (ascii "n") (ascii "1"))) ∧
    ∀ visit ∈ visits (Watched.step plainSetup) Watched.new indexed,
      Coherent visit.2.now (Watched.step plainSetup visit.1 visit.2) := by
  refine ⟨by decide +kernel, coherent_of_kept plainSetup indexed ?_⟩
  have empty (number : Nat) : (((Watched.new : Watched Int).step plainSetup
      (plainEvent (.ftCreate (ascii "idx") [ascii "doc:"]))).databases number).keyspace = ∅ := by
    by_cases here : number = 0
    · subst here
      rfl
    · exact congrArg Database.keyspace (Function.update_of_ne here _ fun _ => (Database.new : Database Int))
  refine ⟨⟨nofun, nofun, trivial⟩, ⟨nofun, ?_, ?_⟩, trivial⟩
  · intro number key slot found
    rw [empty] at found
    cases found
  · intro key pairs request covered
    cases request
    refine ⟨⟨nofun, nofun, nofun⟩, by decide, ?_⟩
    intro fields live
    cases live

/-- `HINCRBY` changes a hash and leaves its document behind. -/
theorem hincrby_leaves_document :
    let watched := run (Watched.step plainSetup) Watched.new (indexed ++ [plainEvent (.hincrby (words ["doc:1", "n", "1"]))])
    watched.written 0 (ascii "idx") (ascii "doc:1") = true ∧
      ((watched.databases 0).indices.lookup (ascii "idx")).map (·.documents.lookup (ascii "doc:1")) =
        some (some (singleton (ascii "n") (ascii "1"))) ∧
      liveHash 0 (ascii "doc:1") (watched.databases 0) = some (singleton (ascii "n") (ascii "2")) ∧ ¬ Coherent 0 watched := by
  intro watched
  have written : watched.written 0 (ascii "idx") (ascii "doc:1") = true := by decide +kernel
  have document : ((watched.databases 0).indices.lookup (ascii "idx")).map
      (fun index => (index.documents.lookup (ascii "doc:1"), matchesPrefix (ascii "doc:1") index.prefixes)) =
        some (some (singleton (ascii "n") (ascii "1")), true) := by decide +kernel
  have live : liveHash 0 (ascii "doc:1") (watched.databases 0) = some (singleton (ascii "n") (ascii "2")) := by decide +kernel
  obtain ⟨index, found, same⟩ := map_eq_some_iff.mp document
  obtain ⟨stale, covers⟩ := Prod.mk.inj same
  refine ⟨written, ?_, live, ?_⟩
  · rw [found, map_some, stale]
  · intro coherent
    have exact' := coherent 0 (ascii "idx") index found (ascii "doc:1")
    rw [stale, covers, written, live] at exact'
    exact absurd exact' (by decide +kernel)

end Samples
end Kore.Proofs.SearchCoherence
