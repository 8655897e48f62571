import Kore.Search.Commands

/-! What the operations of a database do to one key: to its slot, and to its documents in the
indices. Seen from one key an index is a list of prefixes with at most one document, and an
operation either leaves the documents of the key or turns all those it matches into one. -/

namespace Kore.Proofs.SearchEffects
open Foundation Cache Search List Finmap Option Database Search.SearchIndex FiniteMap

variable {F : Type}
variable {name : Bytes} {prefixes : List Bytes} {before after : Database F}

abbrev Fields := FiniteMap Bytes Bytes

def view (name key : Bytes) (database : Database F) : Option (List Bytes × Option Fields) :=
  (database.indices.lookup name).map fun index => (index.prefixes, index.documents.lookup key)

/-- The documents of a key in the indices it matches are left as they are, or all become `document`. -/
def Turned (key : Bytes) (turn : Option (Option Fields)) (before after : Database F) : Prop :=
  ∀ name, view name key after =
    (view name key before).map fun seen => (seen.1, if matchesPrefix key seen.1 then turn.getD seen.2 else seen.2)

variable {document : Option Fields}

namespace Turned
variable {key : Bytes} {before middle after : Database F} {turn later : Option (Option Fields)}

theorem of_views (same : ∀ name, view name key after = view name key before) : Turned key none before after := by
  intro name
  rw [same name]
  simp [ite_self, Prod.mk.eta, Option.map_id']

theorem refl (database : Database F) : Turned key none database database := of_views fun _ => rfl

theorem views (turned : Turned key none before after) : view name key after = view name key before := by
  rw [turned name]
  simp [ite_self, Prod.mk.eta, Option.map_id']

theorem trans (first : Turned key turn before middle) (second : Turned key later middle after) :
    Turned key (later.or turn) before after := by
  intro name
  rw [second name, first name, Option.map_map]
  congr 1
  funext seen
  cases later <;> by_cases fits : matchesPrefix key seen.1 = true <;> simp [fits]

theorem inv (turned : Turned key turn before after) (seen : view name key after = some (prefixes, document)) :
    ∃ old, view name key before = some (prefixes, old) ∧ document = if matchesPrefix key prefixes then turn.getD old else old := by
  rw [turned name, map_eq_some_iff] at seen
  obtain ⟨⟨found, old⟩, known, same⟩ := seen
  cases same
  exact ⟨old, known, rfl⟩

theorem prefixes_of_before (turned : Turned key turn before after) {old : Option Fields}
    (seen : view name key before = some (prefixes, old)) : ∃ document, view name key after = some (prefixes, document) := by
  rw [turned name, seen]
  exact ⟨_, rfl⟩

end Turned

/-- A key that is not aimed at: nothing happens to it, or it goes with its documents. -/
inductive Calm (key : Bytes) (before after : Database F) : Prop
  | same (turned : Turned key none before after) (slot : after.keyspace.lookup key = before.keyspace.lookup key)
  | off (turned : Turned key (some none) before after) (gone : after.keyspace.lookup key = none)

namespace Calm
variable {key : Bytes} {before middle after : Database F}

theorem refl (key : Bytes) (database : Database F) : Calm key database database := .same (.refl database) rfl

theorem trans (first : Calm key before middle) (second : Calm key middle after) : Calm key before after := by
  cases second with
  | off turned gone =>
    cases first with
    | same earlier _ | off earlier _ => exact .off (earlier.trans turned) gone
  | same turned slot =>
    cases first with
    | same earlier kept => exact .same (earlier.trans turned) (slot.trans kept)
    | off earlier gone => exact .off (earlier.trans turned) (slot.trans gone)

theorem turned (calm : Calm key before after) : ∃ turn, Turned key turn before after := by
  cases calm with
  | same turned _ | off turned _ => exact ⟨_, turned⟩

end Calm

/-- No document is evicted on its own. -/
def KeepsDocuments (database : Database F) : Prop :=
  ∀ grant ∈ database.grants ++ database.searchGrants, ∀ name id, Victim.document name id ∉ grant.victims

/-- Nor is a key that a command is busy with. -/
def KeepsKey (key : Bytes) (database : Database F) : Prop :=
  ∀ grant ∈ database.grants ++ database.searchGrants, Victim.key key ∉ grant.victims

section Operations
variable {key other : Bytes} {database : Database F}

theorem turned_of_indices (key : Bytes) (same : after.indices = before.indices) :
    Turned key none before after := .of_views fun name => by rw [view, view, same]

theorem autoRemove_turned (key : Bytes) (database : Database F) :
    Turned key (some none) database (database.autoRemoveFromIndices key) := by
  intro name
  simp only [view, autoRemoveFromIndices, lookup_mapValues, Option.map_map]
  congr 1
  funext index
  by_cases fits : matchesPrefix key index.prefixes = true <;> simp [fits, removeDocument]

theorem autoRemove_turned_ne (different : other ≠ key) (database : Database F) :
    Turned other none database (database.autoRemoveFromIndices key) := by
  refine .of_views fun name => ?_
  simp only [view, autoRemoveFromIndices, lookup_mapValues, Option.map_map]
  congr 1
  funext index
  by_cases fits : matchesPrefix key index.prefixes = true <;>
    simp [fits, removeDocument, lookup_erase_ne different]

theorem lookup_delete (key : Bytes) (database : Database F) : (database.delete key).1.keyspace.lookup key = none := by
  unfold delete
  split
  next => exact lookup_erase key _
  next missing => exact missing

theorem lookup_delete_ne (different : other ≠ key) : (database.delete key).1.keyspace.lookup other = database.keyspace.lookup other := by
  unfold delete
  split
  next => exact lookup_erase_ne different
  next => rfl

theorem delete_turned_ne (different : other ≠ key) (database : Database F) :
    Turned other none database (database.delete key).1 := by
  unfold delete
  split
  next => exact (turned_of_indices other rfl).trans (autoRemove_turned_ne different { database with keyspace := _ })
  next => exact .refl _

theorem delete_calm (key other : Bytes) (database : Database F) : Calm other database (database.delete key).1 := by
  by_cases same : other = key
  · subst same
    unfold delete
    split
    next =>
      refine .off ?_ (lookup_erase other _)
      exact (turned_of_indices other rfl).trans (autoRemove_turned other { database with keyspace := _ })
    next => exact .refl _ _
  · exact .same (delete_turned_ne same database) (lookup_delete_ne same)

@[simp] theorem delete_grants : (database.delete key).1.grants = database.grants := by
  unfold delete
  split <;> rfl

@[simp] theorem delete_searchGrants : (database.delete key).1.searchGrants = database.searchGrants := by
  unfold delete
  split <;> rfl

theorem purge_cases (now : Nat) (key : Bytes) (database : Database F) :
    (database.purgeIfExpired now key = database ∧
      ∀ slot, database.keyspace.lookup key = some slot → slot.isExpired now = false) ∨
    (database.purgeIfExpired now key = (database.delete key).1 ∧
      ∃ slot, database.keyspace.lookup key = some slot ∧ slot.isExpired now = true) := by
  unfold purgeIfExpired
  split
  next slot found =>
    split
    next expired => exact .inr ⟨rfl, slot, found, expired⟩
    next fresh =>
      refine .inl ⟨rfl, ?_⟩
      intro other same
      rw [found, some.injEq] at same
      exact same ▸ Bool.not_eq_true _ ▸ fresh
  next missing =>
    refine .inl ⟨rfl, ?_⟩
    intro slot found
    rw [missing] at found
    cases found

theorem purge_calm (now : Nat) (key other : Bytes) (database : Database F) :
    Calm other database (database.purgeIfExpired now key) := by
  rcases purge_cases now key database with ⟨same, _⟩ | ⟨same, _⟩
  · rw [same]
    exact .refl _ _
  · rw [same]
    exact delete_calm key other database

theorem purge_fresh {now : Nat} {slot : KeySlot F} (found : (database.purgeIfExpired now key).keyspace.lookup key = some slot) :
    slot.isExpired now = false := by
  rcases purge_cases now key database with ⟨same, fresh⟩ | ⟨same, _⟩
  · exact fresh slot (same ▸ found)
  · rw [same, lookup_delete] at found
    cases found

theorem purge_of_fresh {now : Nat} (fresh : ∀ slot, database.keyspace.lookup key = some slot → slot.isExpired now = false) :
    database.purgeIfExpired now key = database := by
  rcases purge_cases now key database with ⟨same, _⟩ | ⟨_, slot, found, expired⟩
  · exact same
  · rw [fresh slot found] at expired
    cases expired

theorem purge_purge (now : Nat) (key : Bytes) (database : Database F) :
    (database.purgeIfExpired now key).purgeIfExpired now key = database.purgeIfExpired now key :=
  purge_of_fresh fun _ found => purge_fresh found

variable {now : Nat}

@[simp] theorem purge_grants : (database.purgeIfExpired now key).grants = database.grants := by
  rcases purge_cases now key database with ⟨same, _⟩ | ⟨same, _⟩ <;> simp [same]

@[simp] theorem purge_searchGrants : (database.purgeIfExpired now key).searchGrants = database.searchGrants := by
  rcases purge_cases now key database with ⟨same, _⟩ | ⟨same, _⟩ <;> simp [same]

theorem evict_grants (victims : List Victim) (database : Database F) :
    (victims.foldl evictCandidate database).grants = database.grants ∧
      (victims.foldl evictCandidate database).searchGrants = database.searchGrants := by
  induction victims generalizing database with
  | nil => exact ⟨rfl, rfl⟩
  | cons victim victims ih =>
    rw [foldl_cons, (ih _).1, (ih _).2]
    cases victim with
    | key key => exact ⟨delete_grants, delete_searchGrants⟩
    | document name id => exact ⟨rfl, rfl⟩

variable {victims : List Victim}

theorem evict_calm (keys : ∀ name id, Victim.document name id ∉ victims) (key : Bytes)
    (database : Database F) : Calm key database (victims.foldl evictCandidate database) := by
  induction victims generalizing database with
  | nil => exact .refl key database
  | cons victim victims ih =>
    have rest := ih (fun name id member => keys name id (mem_cons_of_mem _ member))
    cases victim with
    | key gone => exact (delete_calm gone key database).trans (rest _)
    | document name id => exact absurd mem_cons_self (keys name id)

theorem evict_same (keys : ∀ name id, Victim.document name id ∉ victims) (spared : Victim.key key ∉ victims) (database : Database F) :
    Turned key none database (victims.foldl evictCandidate database) ∧
      (victims.foldl evictCandidate database).keyspace.lookup key = database.keyspace.lookup key := by
  induction victims generalizing database with
  | nil => exact ⟨.refl database, rfl⟩
  | cons victim victims ih =>
    have rest := ih (fun name id member => keys name id (mem_cons_of_mem _ member))
      (fun member => spared (mem_cons_of_mem _ member))
    cases victim with
    | key gone =>
      have different : key ≠ gone := by
        intro same
        exact spared (same ▸ mem_cons_self)
      obtain ⟨turned, slot⟩ := rest (database.delete gone).1
      exact ⟨(delete_turned_ne different database).trans turned, slot.trans (lookup_delete_ne different)⟩
    | document name id => exact absurd mem_cons_self (keys name id)

end Operations

/-- The grants of a command that is busy with `key`: no search memory is refused, and neither
documents nor the key are evicted. -/
structure Gentle (key : Bytes) (database : Database F) : Prop where
  documents : KeepsDocuments database
  busy : KeepsKey key database
  afforded : ∀ grant ∈ database.searchGrants, grant.allowed = true

/-- What a command busy with `key` may do on the way: other keys are calm. -/
structure Reach (key : Bytes) (before after : Database F) : Prop where
  others : ∀ other, other ≠ key → Calm other before after
  own : ∃ turn, Turned key turn before after
  documents : KeepsDocuments after

structure Spared (key : Bytes) (before after : Database F) : Prop where
  others : ∀ other, other ≠ key → Calm other before after
  turned : Turned key none before after
  slot : after.keyspace.lookup key = before.keyspace.lookup key
  gentle : Gentle key after

theorem Reach.trans {key : Bytes} {middle : Database F} (first : Reach key before middle)
    (second : Reach key middle after) : Reach key before after where
  others other different := (first.others other different).trans (second.others other different)
  own := by
    obtain ⟨_, earlier⟩ := first.own
    obtain ⟨_, later⟩ := second.own
    exact ⟨_, earlier.trans later⟩
  documents := second.documents

section Requests
variable {key : Bytes} {database : Database F}

private theorem head_spares {victim : Victim} {grants : List Search.Grant} (spared : ∀ grant ∈ grants, victim ∉ grant.victims) :
    victim ∉ (grants.headD .free).victims := by
  cases grants with
  | nil => exact not_mem_nil
  | cons grant grants => exact spared grant mem_cons_self

theorem KeepsDocuments.mono (keeps : KeepsDocuments before)
    (fewer : ∀ grant ∈ after.grants ++ after.searchGrants, grant ∈ before.grants ++ before.searchGrants) : KeepsDocuments after :=
  fun grant member => keeps grant (fewer grant member)

theorem Gentle.mono (gentle : Gentle key before)
    (fewer : ∀ grant ∈ after.grants, grant ∈ before.grants)
    (fewerSearch : ∀ grant ∈ after.searchGrants, grant ∈ before.searchGrants) : Gentle key after := by
  have all : ∀ grant ∈ after.grants ++ after.searchGrants, grant ∈ before.grants ++ before.searchGrants := by
    intro grant member
    rcases mem_append.mp member with inner | inner
    · exact mem_append_left _ (fewer grant inner)
    · exact mem_append_right _ (fewerSearch grant inner)
  exact ⟨gentle.documents.mono all, fun grant member => gentle.busy grant (all grant member),
    fun grant member => gentle.afforded grant (fewerSearch grant member)⟩

theorem ensure_left : database.ensureNonStringCapacity.1.grants = database.grants.tail ∧
      database.ensureNonStringCapacity.1.searchGrants = database.searchGrants := ⟨rfl, (evict_grants _ database).2⟩

theorem account_left : database.accountSearchIndexWrite.1.grants = database.grants ∧
      database.accountSearchIndexWrite.1.searchGrants = database.searchGrants.tail := ⟨(evict_grants _ database).1, rfl⟩

section
variable (keeps : KeepsDocuments database)
include keeps

private theorem ensure_keys (name id : Bytes) :
    Victim.document name id ∉ (database.grants.headD .free).victims :=
  head_spares fun grant member => keeps grant (mem_append_left _ member) name id

private theorem account_keys (name id : Bytes) :
    Victim.document name id ∉ (database.searchGrants.headD .free).victims :=
  head_spares fun grant member => keeps grant (mem_append_right _ member) name id

theorem ensure_calm (other : Bytes) :
    Calm other database database.ensureNonStringCapacity.1 := by
  cases evict_calm (ensure_keys keeps) other database with
  | same turned slot => exact .same turned slot
  | off turned gone => exact .off turned gone

theorem ensure_documents : KeepsDocuments database.ensureNonStringCapacity.1 := by
  refine keeps.mono ?_
  rw [(ensure_left).1, (ensure_left).2]
  intro grant member
  rcases mem_append.mp member with inner | inner
  · exact mem_append_left _ (mem_of_mem_tail inner)
  · exact mem_append_right _ inner

theorem ensure_reach : Reach key database database.ensureNonStringCapacity.1 :=
  ⟨fun other _ => ensure_calm keeps other, (ensure_calm keeps key).turned, ensure_documents keeps⟩

end

theorem ensure_spared (gentle : Gentle key database) : Spared key database database.ensureNonStringCapacity.1 := by
  have keeps := gentle.documents
  obtain ⟨turned, slot⟩ := evict_same (ensure_keys keeps)
    (head_spares fun grant member => gentle.busy grant (mem_append_left _ member)) database
  refine ⟨fun other _ => ensure_calm keeps other, turned, slot, gentle.mono ?_ ?_⟩
  · rw [(ensure_left).1]
    exact fun grant member => mem_of_mem_tail member
  · rw [(ensure_left).2]
    exact fun grant member => member

theorem account_spared (gentle : Gentle key database) : Spared key database database.accountSearchIndexWrite.1 := by
  have keeps := gentle.documents
  obtain ⟨turned, slot⟩ := evict_same (account_keys keeps)
    (head_spares fun grant member => gentle.busy grant (mem_append_right _ member)) database
  refine ⟨?_, turned, slot, gentle.mono ?_ ?_⟩
  · intro other _
    cases evict_calm (account_keys keeps) other database with
    | same turned slot => exact .same turned slot
    | off turned gone => exact .off turned gone
  · rw [(account_left).1]
    exact fun grant member => member
  · rw [(account_left).2]
    exact fun grant member => mem_of_mem_tail member

theorem account_allowed (gentle : Gentle key database) : database.accountSearchIndexWrite.2 = true := by
  change (database.searchGrants.headD .free).allowed = true
  cases left : database.searchGrants with
  | nil => rfl
  | cons grant grants => exact gentle.afforded grant (left ▸ mem_cons_self)

end Requests

section Indexing
variable {key : Bytes} {database : Database F}

def Covered (key : Bytes) (database : Database F) : Prop :=
  ∃ name prefixes document, view name key database = some (prefixes, document) ∧ matchesPrefix key prefixes = true

theorem Turned.covered_iff {turn : Option (Option Fields)} (turned : Turned key turn before after) :
    Covered key after ↔ Covered key before := by
  constructor
  · intro covered
    obtain ⟨name, prefixes, document, seen, fits⟩ := covered
    obtain ⟨old, known, _⟩ := turned.inv seen
    exact ⟨name, prefixes, old, known, fits⟩
  · intro covered
    obtain ⟨name, prefixes, old, seen, fits⟩ := covered
    obtain ⟨document, known⟩ := turned.prefixes_of_before seen
    exact ⟨name, prefixes, document, known, fits⟩

private def matching (listing : Listing) (key : Bytes) (database : Database F) : List Bytes :=
  (listing.names database.indices.keys).filter fun name =>
    (database.indices.lookup name).any fun index => matchesPrefix key index.prefixes

private theorem mem_matching (listing : Listing) (seen : view name key database = some (prefixes, document)) :
    name ∈ matching listing key database ↔ matchesPrefix key prefixes = true := by
  obtain ⟨index, found, same⟩ := map_eq_some_iff.mp seen
  cases same
  have listed : name ∈ database.indices.keys := mem_keys.mpr (mem_of_lookup_eq_some found)
  rw [matching, mem_filter, listing.mem_names, found, any_some]
  exact ⟨And.right, fun fits => ⟨listed, fits⟩⟩

variable {listing : Listing} {fields : Fields}

theorem autoIndex_uncovered (uncovered : ¬ Covered key database) : database.autoIndexKey listing key fields = database := by
  have nothing : matching listing key database = [] := by
    apply eq_nil_iff_forall_not_mem.mpr
    intro name member
    obtain ⟨index, found, fits⟩ := any_eq_true _ _ |>.mp (mem_filter.mp member).2
    exact uncovered ⟨name, _, _, by rw [view, found, map_some], fits⟩
  unfold autoIndexKey
  rw [show filter _ _ = matching listing key database from rfl, nothing]
  rfl

private def indexInto (key : Bytes) (fields : Fields) (database : Database F) (name : Bytes) : Database F :=
  match database.accountSearchIndexWrite with
  | (database, true) => { database with indices := database.indices.update name (indexDocument key fields) }
  | (database, false) => database

private theorem view_index (other target : Bytes) :
    view name other { database with indices := database.indices.update target (indexDocument key fields) } =
      (view name other database).map fun seen => (seen.1, if name = target ∧ other = key then some fields else seen.2) := by
  simp only [view, lookup_update]
  by_cases same : name = target
  · subst same
    rw [if_pos rfl, Option.map_map, Option.map_map]
    congr 1
    funext index
    by_cases own : other = key
    · subst own
      simp [indexDocument]
    · simp [indexDocument, own, lookup_insert_of_ne]
  · simp [same, Function.comp_def]

private theorem indexInto_spec (gentle : Gentle key database) (fields : Fields) (target : Bytes) :
    let after := indexInto key fields database target
    (∀ other, other ≠ key → Calm other database after) ∧ after.keyspace.lookup key = database.keyspace.lookup key ∧
      Gentle key after ∧
      ∀ name, view name key after = (view name key database).map fun seen => (seen.1, if name = target then some fields else seen.2) := by
  have spared := account_spared gentle
  have granted := account_allowed gentle
  unfold indexInto
  split
  next middle same =>
    rw [same] at spared
    refine ⟨?_, spared.slot, spared.gentle.mono (fun _ member => member) (fun _ member => member), ?_⟩
    · intro other different
      refine (spared.others other different).trans (.same (.of_views fun name => ?_) rfl)
      rw [view_index]
      simp [different]
    · intro name
      rw [view_index, spared.turned.views]
      simp
  next middle same =>
    rw [same] at granted
    cases granted

private theorem indexAll_spec (gentle : Gentle key database) (fields : Fields) (names : List Bytes) :
    let after := names.foldl (indexInto key fields) database
    (∀ other, other ≠ key → Calm other database after) ∧ after.keyspace.lookup key = database.keyspace.lookup key ∧
      ∀ name, view name key after = (view name key database).map fun seen => (seen.1, if name ∈ names then some fields else seen.2) := by
  induction names generalizing database with
  | nil => exact ⟨fun other _ => .refl other database, rfl, fun name => by simp⟩
  | cons first names ih =>
    obtain ⟨calm, slot, still, views⟩ := indexInto_spec gentle fields first
    obtain ⟨laterCalm, laterSlot, laterViews⟩ := ih still
    refine ⟨fun other different => (calm other different).trans (laterCalm other different), laterSlot.trans slot, ?_⟩
    intro name
    rw [foldl_cons, laterViews name, views name, Option.map_map]
    congr 1
    funext seen
    by_cases here : name = first <;> by_cases later : name ∈ names <;> simp [here, later]

/-- Every index that matches the key gets the document, and only the evictions touch other keys. -/
theorem autoIndex_spec (listing : Listing) (gentle : Gentle key database) (fields : Fields) :
    let after := database.autoIndexKey listing key fields
    (∀ other, other ≠ key → Calm other database after) ∧ after.keyspace.lookup key = database.keyspace.lookup key ∧
      Turned key (some (some fields)) database after := by
  obtain ⟨calm, slot, views⟩ := indexAll_spec gentle fields (matching listing key database)
  refine ⟨calm, slot, ?_⟩
  intro name
  refine (views name).trans ?_
  cases seen : view name key database with
  | none => rfl
  | some pair =>
    obtain ⟨prefixes, document⟩ := pair
    have listed := mem_matching listing seen
    simp only [map_some, getD_some]
    by_cases fits : matchesPrefix key prefixes = true <;> simp [listed, fits]

theorem indexFields_eq {fields : Fields}
    (texts : ∀ name value, fields.lookup name = some value → isUtf8 name = true ∧ isUtf8 value = true) :
    indexFields listing fields = fields := by
  have walked {step : Fields → Bytes → Fields} (steps : ∀ document name, step document name =
      (fields.lookup name).elim document fun value => document.insert (lossy name) (lossy value)) :
      ∀ (names : List Bytes) (document : Fields) name, (names.foldl step document).lookup name =
      if name ∈ names ∧ (fields.lookup name).isSome then fields.lookup name else document.lookup name := by
    intro names
    induction names with
    | nil => intro document name; simp
    | cons first names ih =>
      intro document name
      rw [foldl_cons, ih, steps]
      cases found : fields.lookup first with
      | none =>
        by_cases here : name = first
        · subst here
          simp [found]
        · simp [here]
      | some value =>
        obtain ⟨nameText, valueText⟩ := texts first value found
        rw [elim_some, lossy_eq_self nameText, lossy_eq_self valueText]
        by_cases here : name = first
        · subst here
          simp [found]
        · simp [here, lookup_insert_of_ne]
  apply ext_lookup
  intro name
  refine (walked (fun _ name => by cases fields.lookup name <;> rfl) _ _ name).trans ?_
  cases found : fields.lookup name with
  | none => simp
  | some value =>
    have listed : name ∈ listing.names fields.keys :=
      (listing.mem_names _ _).mpr (mem_keys.mpr (mem_of_lookup_eq_some found))
    simp [listed]

end Indexing
end Kore.Proofs.SearchEffects
