import Kore.Persistence.Replayers

/-! Commands that both replayers execute a second time. For each arm that they share: a
live execution that succeeded leaves the keyspace that the arm computes, under the
condition on the command and the key that the arm needs. -/

namespace Kore.Proofs.Repetition
open Foundation Protocol Cache Commands Persistence Finmap Option Keyspace Except Double

variable {F α : Type}
variable {setting : Setting} {keyspace : Keyspace F} {key : Bytes} {now : Nat} {container : Container F α} {name : String}
  {args : List Bytes} {step : Except Error Int} {value : Int} {opts : StoreOptions}

theorem armOf_name (arms : List WriteId) (id : WriteId) :
    armOf arms (ascii id.name) = if id ∈ arms then some id else none := by
  have named : ∀ other : WriteId, (ascii other.name = upper (ascii id.name)) ↔ other = id := by
    intro other
    rw [id.upper_name]
    exact ⟨WriteId.name_injective, fun same => same ▸ rfl⟩
  unfold armOf
  simp only [named]
  induction arms with
  | nil => rfl
  | cons head arms ih =>
    by_cases found : head = id
    · subst found
      simp
    · have absent : id ≠ head := fun same => found same.symm
      simp [found, absent, ih]

/-! Expired slots. -/

def fresh (setting : Setting) (keyspace : Keyspace F) (key : Bytes) : Bool :=
  (keyspace.lookup key).all fun slot => !slot.isExpired setting.now

theorem purge_of_fresh (unexpired : fresh setting keyspace key) :
    keyspace.purgeIfExpired setting.now key = keyspace := by
  unfold fresh at unexpired
  unfold purgeIfExpired
  cases found : keyspace.lookup key with
  | none => rfl
  | some slot =>
    rw [found, all_some, Bool.not_eq_true'] at unexpired
    simp only [unexpired, Bool.false_eq_true, if_false]

theorem lookup_purge_of_expired {slot : KeySlot F}
    (found : keyspace.lookup key = some slot) (expired : slot.isExpired now) :
    keyspace.purgeIfExpired now key = keyspace.erase key := by
  simp only [purgeIfExpired, found, expired, if_true]

theorem purge_cases (now : Nat) (keyspace : Keyspace F) (key : Bytes) :
    (keyspace.purgeIfExpired now key).lookup key = none ∨ keyspace.purgeIfExpired now key = keyspace := by
  unfold purgeIfExpired
  split
  · split
    · exact .inl (lookup_erase _ _)
    · exact .inr rfl
  · exact .inr rfl

theorem purge_of_absent (absent : keyspace.lookup key = none) :
    keyspace.purgeIfExpired now key = keyspace := by
  simp only [purgeIfExpired, absent]

@[simp] theorem purge_purge (now : Nat) (keyspace : Keyspace F) (key : Bytes) :
    (keyspace.purgeIfExpired now key).purgeIfExpired now key = keyspace.purgeIfExpired now key := by
  rcases purge_cases now keyspace key with absent | same
  · exact purge_of_absent absent
  · rw [same, same]

@[simp] theorem getOrCreate_purge (container : Container F α) (now : Nat) (keyspace : Keyspace F) (key : Bytes) :
    (keyspace.purgeIfExpired now key).getOrCreate container now key = keyspace.getOrCreate container now key := by
  simp only [getOrCreate, purge_purge]

theorem lookup_purge_of_keyType {type : KeyType}
    (held : keyspace.keyType now key = some type) :
    ∃ slot, (keyspace.purgeIfExpired now key).lookup key = some slot ∧ slot.value.keyType = type := by
  obtain ⟨value, visible, rfl⟩ := map_eq_some_iff.mp held
  obtain ⟨slot, found, rfl⟩ := map_eq_some_iff.mp visible
  exact ⟨slot, found, rfl⟩

theorem lookup_purge_of_untyped (untyped : keyspace.keyType now key = none) :
    (keyspace.purgeIfExpired now key).lookup key = none :=
  map_eq_none_iff.mp (map_eq_none_iff.mp untyped)

/-- The same keys, types, values and expiries. A slot that has expired counts as absent. -/
def SameData (setting : Setting) (first second : Keyspace F) : Prop :=
  ∀ key, (first.purgeIfExpired setting.now key).lookup key = (second.purgeIfExpired setting.now key).lookup key

/-- If the handler has succeeded, what is executed again leaves what it left. -/
def Repeats (applied : Keyspace F) (handled : Handled F) : Prop := answerSucceeds handled.2 = true → applied = handled.1

def RepeatsOk (applied : Except Error (Keyspace F)) (handled : Handled F) : Prop :=
  answerSucceeds handled.2 = true → applied = .ok handled.1

/-! Containers. -/

@[simp] theorem not_succeeds_failure (text : String) : answerSucceeds (failure text) = false := rfl

theorem guardType_of_succeeds
    {proceed : Keyspace F → Handled F} (success : answerSucceeds (guardType container setting keyspace key proceed).2) :
    guardType container setting keyspace key proceed = proceed (keyspace.purgeIfExpired setting.now key) := by
  unfold guardType at success ⊢
  split
  · rfl
  next type held =>
    simp only [held] at success
    split at success
    next same => rw [if_pos same]
    next => cases success

theorem applyInto_of_succeeds
    {change : α → α × Answer} : RepeatsOk (applyInto container setting keyspace key (fun value => (change value).1))
      (changeOrCreate container setting keyspace key change) := by
  intro success
  unfold changeOrCreate at success ⊢
  unfold applyInto
  cases created : keyspace.getOrCreate container setting.now key with
  | error error => rw [created] at success; cases success
  | ok pair => rfl

theorem applyOutOf_eq (isEmpty : α → Bool) (missing : RespValue) (change : α → α × RespValue) :
    (changeOrRemove container isEmpty keyspace key missing change).1 =
      applyOutOf container isEmpty keyspace key fun value => (change value).1 := by
  unfold changeOrRemove applyOutOf
  cases keyspace.get container key <;> rfl

variable {isEmpty : α → Bool}

theorem guarded_outOf {missing : RespValue} {change : α → α × RespValue} {handled : Handled F}
    (unexpired : fresh setting keyspace key)
    (handler : handled = guardType container setting keyspace key fun keyspace =>
      changeOrRemove container isEmpty keyspace key missing change) (success : answerSucceeds handled.2) :
    handled.1 = applyOutOf container isEmpty keyspace key fun value => (change value).1 := by
  subst handler
  rw [guardType_of_succeeds success, purge_of_fresh unexpired, applyOutOf_eq]

def freshHead (setting : Setting) (keyspace : Keyspace F) (args : List Bytes) : Bool := args.head?.all (fresh setting keyspace)

theorem push_repeats {insert : List Bytes → List Bytes → List Bytes} :
    RepeatsOk (applyPush insert setting keyspace args) (push name insert setting keyspace args) := by
  intro success
  rcases args with _ | ⟨key, _ | ⟨value, values⟩⟩
  · cases success
  · cases success
  · exact applyInto_of_succeeds success

theorem sadd_repeats : RepeatsOk (applySadd setting keyspace args) (handleSadd setting keyspace args) := by
  intro success
  rcases args with _ | ⟨key, _ | ⟨member, members⟩⟩
  · cases success
  · cases success
  · exact applyInto_of_succeeds success

theorem srem_repeats
    (unexpired : freshHead setting keyspace args) : Repeats (applySrem keyspace args) (handleSrem setting keyspace args) := by
  intro success
  rcases args with _ | ⟨key, _ | ⟨member, members⟩⟩
  · cases success
  · cases success
  · exact (guarded_outOf unexpired rfl success).symm

theorem hset_repeats : RepeatsOk (applyHset setting keyspace args) (handleHset setting keyspace args) := by
  intro success
  rcases args with _ | ⟨key, rest⟩
  · cases success
  unfold handleHset at success ⊢
  dsimp only at success ⊢
  split at success
  next => cases success
  next even =>
    rw [if_neg even]
    rcases rest with _ | ⟨first, _ | ⟨second, rest⟩⟩
    · exact absurd (.inl (by decide)) even
    · exact absurd (.inl (by simp)) even
    · exact applyInto_of_succeeds success

theorem hdel_repeats
    (unexpired : freshHead setting keyspace args) : Repeats (applyHdel keyspace args) (handleHdel setting keyspace args) := by
  intro success
  rcases args with _ | ⟨key, _ | ⟨name, names⟩⟩
  · cases success
  · cases success
  · exact (guarded_outOf unexpired rfl success).symm

/-- A count does not matter to a list that it takes as much from as a single pop does. -/
def popsOne (keyspace : Keyspace F) : List Bytes → Bool
  | key :: text :: _ =>
    match popCount [text], keyspace.get lists key with
    | .ok (some count), some items => decide (min count items.length = min 1 items.length)
    | _, _ => true
  | _ => true

variable {items : List Bytes}

theorem leftEnd_rest {count : Nat} (same : min count items.length = min 1 items.length) :
    leftEnd.rest count items = leftEnd.rest 1 items := by
  exact List.drop_eq_drop_iff.mpr same

theorem rightEnd_rest {count : Nat} (same : min count items.length = min 1 items.length) :
    rightEnd.rest count items = rightEnd.rest 1 items := by
  change items.take (items.length - count) = items.take (items.length - 1)
  congr 1
  omega

private theorem applyOutOf_congr
    {first second : α → α} (same : ∀ value, keyspace.get container key = some value → first value = second value) :
    applyOutOf container isEmpty keyspace key first = applyOutOf container isEmpty keyspace key second := by
  unfold applyOutOf
  cases held : keyspace.get container key with
  | none => rfl
  | some value => simp only [same value held]

theorem pop_repeats {side : ListEnd}
    (ends : ∀ {count items}, min count items.length = min 1 items.length → side.rest count items = side.rest 1 items)
    (unexpired : freshHead setting keyspace args) (single : popsOne keyspace args) :
    Repeats (applyPop side keyspace args) (pop name side setting keyspace args) := by
  intro success
  rcases args with _ | ⟨key, options⟩
  · cases success
  unfold pop at success ⊢
  dsimp only at success ⊢
  split at success
  · cases success
  next short =>
    rw [if_neg short, guardType_of_succeeds success, purge_of_fresh unexpired]
    rw [guardType_of_succeeds success, purge_of_fresh unexpired] at success
    symm
    rcases options with _ | ⟨text, rest⟩
    · exact applyOutOf_eq ..
    obtain rfl : rest = [] := by simpa using short
    cases counted : popCount [text] with
    | error text => rw [counted] at success; cases success
    | ok number =>
      cases number with
      | none => exact applyOutOf_eq ..
      | some count =>
        refine (applyOutOf_eq ..).trans (applyOutOf_congr ?_)
        intro items held
        apply ends
        simpa only [popsOne, counted, held, decide_eq_true_eq] using single

/-! Sorted sets and geo sets. -/

/-- No option stands between the key and the first score. -/
def plainScores : List Bytes → Bool
  | _ :: word :: _ => (ZaddToken.ofText word).isNone
  | _ => true

/-- No option stands between the key and the first coordinate. -/
def plainPoints : List Bytes → Bool
  | _ :: word :: _ => (GeoToken.ofText word).isNone
  | _ => true

theorem zrem_repeats
    (unexpired : freshHead setting keyspace args) : Repeats (applyZrem keyspace args) (handleZrem setting keyspace args) := by
  intro success
  rcases args with _ | ⟨key, _ | ⟨member, members⟩⟩
  · cases success
  · cases success
  · exact (guarded_outOf unexpired rfl success).symm

section scores
variable [Double F]

private abbrev noFlags : ZaddFlags := ⟨false, false, false, false, false, false⟩

private theorem orderedEqual_of_scoresEqual {first second : F} (same : scoresEqual first second) :
    orderedEqual first second := by
  unfold orderedEqual
  rcases (Bool.or_eq_true ..).mp same with nans | equal
  · obtain ⟨nan, other⟩ := (Bool.and_eq_true ..).mp nans
    rw [nan, other]
  · rw [equal_isNan _ _ equal]
    cases isNan second with
    | true => rfl
    | false => exact equal

private theorem zaddStep_set (state : ZaddState F) (pair : F × Bytes) :
    (zaddStep noFlags state pair).set = zsetAdd state.set pair.2 pair.1 := by
  unfold zaddStep
  cases held : state.set.lookup pair.2 with
  | none => rfl
  | some old =>
    simp only [Bool.false_and, Bool.false_or]
    split
    next same => simp only [zsetAdd, held, orderedEqual_of_scoresEqual same, if_true]
    next => rfl

private theorem zaddSteps_set (pairs : List (F × Bytes)) (state : ZaddState F) :
    (pairs.foldl (zaddStep noFlags) state).set = pairs.foldl (fun set pair => zsetAdd set pair.2 pair.1) state.set := by
  induction pairs generalizing state with
  | nil => rfl
  | cons pair pairs ih => rw [List.foldl_cons, List.foldl_cons, ih, zaddStep_set]

private theorem applyScores_of_scorePairs (set : FiniteMap Bytes F) : ∀ {words : List Bytes} {scored : List (F × Bytes)},
    scorePairs words = .ok scored → applyScores set words = scored.foldl (fun set pair => zsetAdd set pair.2 pair.1) set
  | [], _, read => by
    obtain rfl := Except.ok.inj read
    rfl
  | [_], _, read => by cases read
  | score :: member :: rest, scored, read => by
    cases parsed : (parse score : Option F) with
    | none => simp [scorePairs, parsed] at read
    | some value =>
      cases later : (scorePairs rest : Except String (List (F × Bytes))) with
      | error text => simp [scorePairs, parsed, later] at read
      | ok more =>
        obtain rfl : (value, member) :: more = scored := by
          simpa [scorePairs, parsed, later, pure, Except.pure, bind, Except.bind] using read
        have tail := applyScores_of_scorePairs (zsetAdd set member value) later
        simpa [applyScores, pairs, scoreOr, parsed] using tail

variable {score : F}

private theorem zsetAdd_keeps {set : FiniteMap Bytes F} {member other : Bytes} (held : other ∈ set) :
    other ∈ zsetAdd set member score := by
  unfold zsetAdd
  split
  · split
    · exact held
    · exact mem_insert.mpr (.inr held)
  · exact mem_insert.mpr (.inr held)

variable (set : FiniteMap Bytes F)

private theorem zsetAdd_member (member : Bytes) : member ∈ zsetAdd set member score := by
  unfold zsetAdd
  split
  next old held =>
    split
    · exact mem_of_lookup_eq_some held
    · exact mem_insert.mpr (.inl rfl)
  next => exact mem_insert.mpr (.inl rfl)

private theorem zsetAdds_nonempty (pair : F × Bytes) (more : List (F × Bytes)) :
    ((pair :: more).foldl (fun set pair => zsetAdd set pair.2 pair.1) set).keys ≠ ∅ := by
  suffices kept : ∀ {set : FiniteMap Bytes F} {member : Bytes}, member ∈ set →
      member ∈ more.foldl (fun set pair => zsetAdd set pair.2 pair.1) set by
    exact Finset.ne_empty_of_mem (mem_keys.mpr (kept (zsetAdd_member set pair.2)))
  intro set member held
  induction more generalizing set with
  | nil => exact held
  | cons next more ih => exact ih (zsetAdd_keeps held)

theorem zadd_repeats (plain : plainScores args) :
    RepeatsOk (applyZadd setting keyspace args) (handleZadd setting keyspace args) := by
  intro success
  rcases args with _ | ⟨key, _ | ⟨first, _ | ⟨second, rest⟩⟩⟩
  · cases success
  · cases success
  · cases success
  have flags : zaddFlags noFlags (first :: second :: rest) = (noFlags, first :: second :: rest) := by
    simp only [zaddFlags, isNone_iff_eq_none.mp plain]
  unfold handleZadd at success ⊢
  simp only [flags, zaddConflict, Bool.false_and, Bool.or_self, Bool.false_eq_true, if_false] at success ⊢
  cases read : (scorePairs (first :: second :: rest) : Except String (List (F × Bytes))) with
  | error text => rw [read] at success; cases success
  | ok scored =>
    rcases scored with _ | ⟨pair, more⟩
    · rw [read] at success
      cases success
    · simp only [read, false_and, if_false] at success ⊢
      rw [guardType_of_succeeds success]
      rw [guardType_of_succeeds success] at success
      simp only [getOrCreate_purge] at success ⊢
      unfold applyZadd applyInto
      cases created : keyspace.getOrCreate sortedSets setting.now key with
      | error error => rw [created] at success; cases success
      | ok made =>
        have nonempty := zsetAdds_nonempty made.2 pair more
        simp only [created, Except.map, zaddSteps_set, if_neg nonempty, applyScores_of_scorePairs _ read]

private abbrev noOptions : GeoAddOptions := ⟨false, false, false, false⟩

private theorem geoStep_set (state : GeoState F) (point : F × F × Bytes) :
    (geoStep noOptions state point).set = state.set.insert point.2.2 (point.1, point.2.1) := by
  unfold geoStep
  dsimp only
  split <;> rfl

private theorem triples_of_triplets : ∀ {words : List Bytes} {points : List (F × F × Bytes)},
    triplets words = .ok points → (triples words).map (fun point => (scoreOr point.1, scoreOr point.2.1, point.2.2)) = points
  | longitude :: latitude :: member :: rest, points, read => by
    cases east : (parse longitude : Option F) with
    | none => simp [triplets, east] at read
    | some x =>
      cases north : (parse latitude : Option F) with
      | none => simp [triplets, east, north] at read
      | some y =>
        cases later : (triplets rest : Except String (List (F × F × Bytes))) with
        | error text => simp [triplets, east, north, later] at read
        | ok more =>
          obtain rfl : (x, y, member) :: more = points := by
            simpa [triplets, east, north, later, pure, Except.pure, bind, Except.bind] using read
          simp [triples, scoreOr, east, north, ← triples_of_triplets later]
  | [], _, read => Except.ok.inj read
  | [_], _, read => Except.ok.inj read
  | [_, _], _, read => Except.ok.inj read

private theorem geoAdds_of_valid {points : List (Bytes × Bytes × Bytes)} {state : GeoState F}
    (valid : (geoAddAll noOptions state
      (points.map fun point => (scoreOr point.1, scoreOr point.2.1, point.2.2))).2 = true) :
    (geoAddAll noOptions state (points.map fun point => (scoreOr point.1, scoreOr point.2.1, point.2.2))).1.set =
      points.foldl geoAdd state.set := by
  induction points generalizing state with
  | nil => rfl
  | cons point points ih =>
    rw [List.map_cons, geoAddAll] at valid ⊢
    split at valid
    next inside =>
      rw [if_pos inside, ih valid, geoStep_set, List.foldl_cons, geoAdd, if_pos inside]
    next => cases valid

theorem geoadd_repeats (plain : plainPoints args) :
    RepeatsOk (applyGeoadd setting keyspace args) (handleGeoadd setting keyspace args) := by
  intro success
  rcases args with _ | ⟨key, _ | ⟨first, _ | ⟨second, _ | ⟨third, rest⟩⟩⟩⟩
  · cases success
  · cases success
  · cases success
  · cases success
  have flags : geoFlags noOptions (first :: second :: third :: rest) = (noOptions, first :: second :: third :: rest) := by
    simp only [geoFlags, isNone_iff_eq_none.mp plain]
  have enough : ¬(first :: second :: third :: rest).length < 3 := by
    simp only [List.length_cons]
    omega
  unfold handleGeoadd at success ⊢
  simp only [if_neg enough, flags, Bool.false_and, Bool.false_eq_true, if_false] at success ⊢
  cases read : (triplets (first :: second :: third :: rest) : Except String (List (F × F × Bytes))) with
  | error text => rw [read] at success; cases success
  | ok points =>
    rcases points with _ | ⟨point, points⟩
    · rw [read] at success
      cases success
    · simp only [read] at success ⊢
      rw [← triples_of_triplets read] at success ⊢
      unfold applyGeoadd applyInto
      unfold changeOrCreate at success ⊢
      cases created : keyspace.getOrCreate geoSets setting.now key with
      | error error => rw [created] at success; cases success
      | ok made =>
        simp only [created] at success ⊢
        split at success
        next valid => simp only [Except.map, geoAdds_of_valid valid]
        next => cases success

end scores

/-! Counters. -/

/-- No expired container sits under the first argument. -/
def noTypedGhost (setting : Setting) (keyspace : Keyspace F) (args : List Bytes) : Bool :=
  args.head?.all fun key => (keyspace.lookup key).all fun slot => !slot.isExpired setting.now || !slot.value.isTypedContainer

theorem insert_erase (slot : KeySlot F) : (keyspace.erase key).insert key slot = keyspace.insert key slot := by
  apply ext_lookup
  intro other
  by_cases same : other = key
  · subst same
    rw [lookup_insert, lookup_insert]
  · rw [lookup_insert_of_ne _ same, lookup_insert_of_ne _ same, lookup_erase_ne same]

theorem slotTtlLive_eq (now : Nat) (slot : KeySlot F) : slotTtlLive now slot.expiresAt = !slot.isExpired now := by
  unfold slotTtlLive KeySlot.isExpired
  cases slot.expiresAt with
  | none => rfl
  | some expiry =>
    rw [all_some, any_some, ← decide_not]
    exact decide_eq_decide.mpr not_le.symm

theorem string_of_untyped {value : KeyValue F} (untyped : value.isTypedContainer = false) : ∃ text, value = .string text := by
  cases value with
  | string text => exact ⟨text, rfl⟩
  | _ => cases untyped

theorem incrDecr_purge {delta : Int}
    (untyped : noTypedGhost setting keyspace (key :: args)) :
    (keyspace.purgeIfExpired setting.now key).incrDecr setting.now key delta = keyspace.incrDecr setting.now key delta := by
  change ((keyspace.lookup key).all fun slot => !slot.isExpired setting.now || !slot.value.isTypedContainer) = true at untyped
  cases found : keyspace.lookup key with
  | none => rw [purge_of_absent found]
  | some slot =>
    cases expired : slot.isExpired setting.now with
    | false => rw [purge_of_fresh (by rw [fresh, found, all_some, expired]; rfl)]
    | true =>
      rw [found, all_some, expired, Bool.not_true, Bool.false_or, Bool.not_eq_true'] at untyped
      obtain ⟨text, string⟩ := string_of_untyped untyped
      rw [lookup_purge_of_expired found expired]
      simp only [incrDecr, mutateString, found, lookup_erase, string, slotTtlLive_eq, expired,
        Bool.not_true, Bool.false_eq_true, if_false, insert_erase]

theorem ensureString_ok {result : Keyspace F}
    (ensured : keyspace.ensureStringOrAbsent now key = .ok result) : result = keyspace.purgeIfExpired now key := by
  unfold ensureStringOrAbsent at ensured
  dsimp only at ensured
  split at ensured
  · exact (ok.inj ensured).symm
  · split at ensured
    · exact (ok.inj ensured).symm
    · cases ensured

theorem count_of_succeeds
    {change : Keyspace F → Int → Except Error (Keyspace F × Int)}
    (success : answerSucceeds (count setting keyspace key step change).2) :
    ∃ number sum, step = .ok number ∧
      change (keyspace.purgeIfExpired setting.now key) number = .ok ((count setting keyspace key step change).1, sum) := by
  unfold count at success ⊢
  cases ensured : keyspace.ensureStringOrAbsent setting.now key with
  | error error => rw [ensured] at success; cases success
  | ok purged =>
    obtain rfl := ensureString_ok ensured
    cases step with
    | error error => rw [ensured] at success; cases success
    | ok number =>
      cases changed : change (keyspace.purgeIfExpired setting.now key) number with
      | error error => simp only [ensured, changed] at success; cases success
      | ok pair => exact ⟨number, pair.2, rfl, by simp only [changed]⟩

theorem parseInteger_ok {text : Bytes} (read : parseInteger text = .ok value) : i64OfText text = some value := by
  unfold parseInteger at read
  split at read
  next found => rw [found, ok.inj read]
  next => cases read

section
variable (untyped : noTypedGhost setting keyspace args = true)
include untyped

theorem incr_repeats (success : answerSucceeds (handleIncr setting keyspace args).2) :
    ∃ key, args = [key] ∧ applyIncr setting keyspace key 1 = (handleIncr setting keyspace args).1 := by
  unfold handleIncr at success ⊢
  split at success
  next key =>
    obtain ⟨number, sum, read, changed⟩ := count_of_succeeds success
    rw [incr, incrDecr_purge untyped, ← ok.inj read] at changed
    exact ⟨key, rfl, by rw [applyIncr, incr, changed]⟩
  next => cases success

theorem decr_repeats (success : answerSucceeds (handleDecr setting keyspace args).2) :
    ∃ key, args = [key] ∧ applyDecr setting keyspace key 1 = (handleDecr setting keyspace args).1 := by
  unfold handleDecr at success ⊢
  split at success
  next key =>
    obtain ⟨number, sum, read, changed⟩ := count_of_succeeds success
    rw [decr, incrDecr_purge untyped, ← ok.inj read] at changed
    exact ⟨key, rfl, by rw [applyDecr, decr, changed]⟩
  next => cases success

theorem incrby_repeats (success : answerSucceeds (handleIncrby setting keyspace args).2) :
    ∃ key text, args = [key, text] ∧ applyIncr setting keyspace key ((i64OfText text).getD 1) = (handleIncrby setting keyspace args).1 := by
  unfold handleIncrby at success ⊢
  split at success
  next key text =>
    obtain ⟨number, sum, read, changed⟩ := count_of_succeeds success
    rw [incr, incrDecr_purge untyped] at changed
    exact ⟨key, text, rfl, by rw [parseInteger_ok read, getD_some, applyIncr, incr, changed]⟩
  next => cases success

theorem decrby_repeats (success : answerSucceeds (handleDecrby setting keyspace args).2) :
    ∃ key text, args = [key, text] ∧ applyDecr setting keyspace key ((i64OfText text).getD 1) = (handleDecrby setting keyspace args).1 := by
  unfold handleDecrby at success ⊢
  split at success
  next key text =>
    obtain ⟨number, sum, read, changed⟩ := count_of_succeeds success
    rw [decr, incrDecr_purge untyped] at changed
    exact ⟨key, text, rfl, by rw [parseInteger_ok read, getD_some, applyDecr, decr, changed]⟩
  next => cases success

end

/-! Expiries. -/

/-- The key is absent, or the conditions of the command let it set the new expiry. -/
def expiryTaken (setting : Setting) (remaining : Int → Int) (keyspace : Keyspace F) : List Bytes → Bool
  | key :: text :: options =>
    match i64OfText text, parseExpireCond options with
    | some value, .ok cond =>
      let current := keyspace.ttl setting.now key
      (keyspace.keyType setting.now key).isNone || current != -2 && expireCondAllows cond current (remaining value)
    | _, _ => true
  | _ => true

theorem asU64_le : asU64 value ≤ u64Max := by
  unfold asU64 u64Max
  omega

theorem asU64_of_range (positive : 0 ≤ value) (fits : value ≤ u64Max) : asU64 value = value.toNat := by
  unfold asU64
  unfold u64Max at fits
  omega

theorem satMulI64_one (positive : 0 ≤ value) (fits : value ≤ i64Max) : satMulI64 value 1 = value := by
  unfold satMulI64
  omega

variable {ttlMs : Nat} {time : Int}

theorem expire_purge : (keyspace.purgeIfExpired now key).expire now key ttlMs = keyspace.expire now key ttlMs := by
  simp only [expire, purge_purge]

theorem expireAt_purge : (keyspace.purgeIfExpired now key).expireAtUnixMs now key time = keyspace.expireAtUnixMs now key time := by
  simp only [expireAtUnixMs, purge_purge]

private theorem expire_absent (absent : keyspace.lookup key = none) : (keyspace.expire now key ttlMs).1 = keyspace := by
  simp only [expire, purge_of_absent absent, absent]

private theorem expireAt_absent (absent : keyspace.lookup key = none) : (keyspace.expireAtUnixMs now key time).1 = keyspace := by
  simp only [expireAtUnixMs, purge_of_absent absent, absent]

theorem setExpiry_of_succeeds {remaining : Int → Int}
    {change : Bytes → Int → Keyspace F → Keyspace F × Bool}
    (absent : ∀ key value keyspace, keyspace.lookup key = none → (change key value keyspace).1 = keyspace)
    (taken : expiryTaken setting remaining keyspace args)
    (success : answerSucceeds (setExpiry setting name remaining change keyspace args).2) :
    ∃ key text options value, args = key :: text :: options ∧ i64OfText text = some value ∧ 0 ≤ value ∧
      (setExpiry setting name remaining change keyspace args).1 =
        (change key value (keyspace.purgeIfExpired setting.now key)).1 := by
  rcases args with _ | ⟨key, _ | ⟨text, options⟩⟩
  · cases success
  · cases success
  unfold setExpiry at success ⊢
  cases read : i64OfText text with
  | none => simp only [read] at success; cases success
  | some value =>
    simp only [read] at success ⊢
    split at success
    next => cases success
    next nonnegative =>
      rw [if_neg nonnegative]
      cases condition : parseExpireCond options with
      | error text => simp only [condition] at success; cases success
      | ok cond =>
        refine ⟨key, text, options, value, rfl, read, not_lt.mp nonnegative, ?_⟩
        simp only [expiryTaken, read, condition, Bool.or_eq_true, Bool.and_eq_true, bne_iff_ne] at taken ⊢
        rcases taken with missing | ⟨live, allowed⟩
        · have gone := lookup_purge_of_untyped (isNone_iff_eq_none.mp missing)
          have none : keyspace.ttl setting.now key = -2 := by simp only [ttl, gone]
          rw [if_pos none, absent key value _ gone]
        · rw [if_neg live, allowed]
          rfl

theorem expire_repeats
    (taken : expiryTaken setting (relativeTtl 1000) keyspace args) :
    Repeats (applyExpiry setting keyspace .expire args) (handleExpire setting keyspace args) := by
  intro success
  obtain ⟨key, text, options, value, rfl, read, positive, changed⟩ :=
    setExpiry_of_succeeds (fun key value keyspace => expire_absent) taken success
  refine Eq.trans ?_ changed.symm
  rw [expire_purge, applyExpiry, read, getD_some, max_eq_left positive]

theorem pexpire_repeats
    (taken : expiryTaken setting (relativeTtl 1) keyspace args) :
    Repeats (applyExpiry setting keyspace .pexpire args) (handlePexpire setting keyspace args) := by
  intro success
  obtain ⟨key, text, options, value, rfl, read, positive, changed⟩ :=
    setExpiry_of_succeeds (fun key value keyspace => expire_absent) taken success
  refine Eq.trans ?_ changed.symm
  rw [expire_purge, applyExpiry, read, getD_some, max_eq_left positive, satMulU64, mul_one, min_eq_left (asU64_le)]

theorem expireat_repeats
    (taken : expiryTaken setting (absoluteTtl setting 1000) keyspace args) :
    Repeats (applyExpiry setting keyspace .expireat args) (handleExpireat setting keyspace args) := by
  intro success
  obtain ⟨key, text, options, value, rfl, read, positive, changed⟩ :=
    setExpiry_of_succeeds (fun key value keyspace => expireAt_absent) taken success
  refine Eq.trans ?_ changed.symm
  rw [expireAt_purge, applyExpiry, read, getD_some]

private theorem typed_of_keyType {value : KeyValue F} (other : value.keyType ≠ .string) : value.isTypedContainer := by
  cases value with
  | string text => exact absurd rfl other
  | _ => rfl

private theorem applyPexpireat_eq (positive : 0 ≤ value) :
    applyPexpireat setting keyspace key value = (keyspace.expireAtUnixMs setting.now key value).1 := by
  unfold applyPexpireat expireAtUnixMs
  cases held : keyspace.keyType setting.now key with
  | none => simp only [lookup_purge_of_untyped held]
  | some type =>
    obtain ⟨slot, found, kind⟩ := lookup_purge_of_keyType held
    have nonnegative : ¬value < 0 := not_lt.mpr positive
    by_cases past : value ≤ setting.now
    · have notLater : ¬(setting.now : Int) < value := not_lt.mpr past
      cases type with
      | string => simp only [found, if_pos past, if_neg notLater]
      | _ => simp only [found, if_pos past, setTypedExpireUnixMs, if_neg nonnegative]
    · have later : (setting.now : Int) < value := not_le.mp past
      cases type with
      | string => simp only [found, if_neg past, if_pos later]
      | _ =>
        have typed : slot.value.isTypedContainer := typed_of_keyType (by rw [kind]; exact nofun)
        have remains : (value - setting.now).toNat ≠ 0 := by omega
        have same : setting.now + (value - setting.now).toNat = value.toNat := by omega
        simp only [found, if_neg past, setTypedExpireUnixMs, if_neg nonnegative, typed, if_true, expire,
          purge_purge, if_neg remains, same]

theorem pexpireat_repeats
    (taken : expiryTaken setting (absoluteTtl setting 1) keyspace args) :
    Repeats (applyExpiry setting keyspace .pexpireat args) (handlePexpireat setting keyspace args) := by
  intro success
  obtain ⟨key, text, options, value, rfl, read, positive, changed⟩ :=
    setExpiry_of_succeeds (fun key value keyspace => expireAt_absent) taken success
  refine Eq.trans ?_ changed.symm
  change applyPexpireat setting keyspace key ((i64OfText text).getD 0) = _
  rw [expireAt_purge, satMulI64_one positive (i64OfText_le read), read, getD_some, applyPexpireat_eq positive]

/-! Whole keys. -/

theorem deletes_repeat (keyspace : Keyspace F) (args : List Bytes) :
    args.foldl (fun keyspace key => keyspace.delete key) keyspace = (deleteMany keyspace args).1 := by
  unfold deleteMany
  generalize 0 = removed
  induction args generalizing keyspace removed with
  | nil => rfl
  | cons key args ih => exact ih _ _

theorem flush_of_succeeds (success : answerSucceeds (handleFlush keyspace args).2) :
    (handleFlush keyspace args).1 = .flush := by
  unfold handleFlush at success ⊢
  cases parsed : parseFlushMode args with
  | error text => rw [parsed] at success; cases success
  | ok mode => rfl

theorem persist_repeats
    (success : answerSucceeds (handlePersist keyspace args).2) :
    ∃ key, args = [key] ∧ (keyspace.persist key).1 = (handlePersist keyspace args).1 := by
  rcases args with _ | ⟨key, _ | ⟨extra, rest⟩⟩
  · cases success
  · exact ⟨key, rfl, rfl⟩
  · cases success

theorem del_repeats : Repeats (args.foldl (fun keyspace key => keyspace.delete key) keyspace) (handleDel keyspace args) := by
  intro success
  unfold handleDel at success ⊢
  split at success
  next => cases success
  next some => rw [if_neg some, deletes_repeat]

/-! Stores. -/

def live (setting : Setting) (keyspace : Keyspace F) (key : Bytes) : Bool :=
  (keyspace.lookup key).any fun slot => !slot.isExpired setting.now

def keptExpiry (setting : Setting) (keyspace : Keyspace F) (key : Bytes) (opts : StoreOptions) : Option Nat :=
  if opts.keepttl && (opts.resolveExpiration setting.now).isNone && live setting keyspace key then
    (keyspace.lookup key).bind KeySlot.expiresAt
  else none

theorem keptExpiry_dead (dead : live setting keyspace key = false) : keptExpiry setting keyspace key opts = none := by
  simp only [keptExpiry, dead, Bool.and_false, Bool.false_eq_true, if_false]

theorem store_state (setting : Setting) (keyspace : Keyspace F) (key value : Bytes) (opts : StoreOptions) :
    (keyspace.store setting key value opts).map Prod.fst =
      if setting.maxEntrySize < key.length + value.length + setting.entryStructSize then .error .entryTooLarge
      else if (keyspace.lookup key).any fun slot => slot.value.isTypedContainer then .error .wrongType
      else .ok (if opts.nx && live setting keyspace key || opts.xx && !live setting keyspace key then keyspace
        else keyspace.insert key
          ⟨(opts.resolveExpiration setting.now).or (keptExpiry setting keyspace key opts), .string value⟩) := by
  unfold store
  split
  · rfl
  cases found : keyspace.lookup key with
  | none =>
    have dead : live setting keyspace key = false := by rw [live, found]; rfl
    simp only [mutateString, found, dead, keptExpiry_dead dead, any_none, Bool.false_eq_true, if_false, Bool.and_false,
      Bool.false_or, Bool.not_false, Bool.and_true, or_none]
    cases opts.xx <;> rfl
  | some slot =>
    by_cases typed : slot.value.isTypedContainer = true
    · simp only [mutateString, found, any_some, typed]
      cases held : slot.value with
      | string text => rw [held] at typed; cases typed
      | _ => rfl
    · obtain ⟨text, string⟩ := string_of_untyped (Bool.not_eq_true _ ▸ typed)
      have alive : live setting keyspace key = !slot.isExpired setting.now := by rw [live, found, any_some]
      simp only [mutateString, found, any_some, string, slotTtlLive_eq, keptExpiry, alive, bind_some]
      cases slot.isExpired setting.now <;> cases opts.nx <;> cases opts.xx <;> rfl

/-- `KEEPTTL` has an expiry to keep, and nothing else decides about it. -/
def keepsExpiry (setting : Setting) (keyspace : Keyspace F) (key : Bytes) (opts : StoreOptions) : Bool :=
  opts.keepttl && !opts.nx && (opts.resolveExpiration setting.now).isNone &&
    (keyspace.lookup key).any fun slot => slot.expiresAt.isSome && !slot.isExpired setting.now

theorem keptExpiry_none
    (lost : keepsExpiry setting keyspace key opts = false) (stored : (opts.nx && live setting keyspace key) = false) :
    keptExpiry setting keyspace key opts = none := by
  unfold keptExpiry
  split
  next kept =>
    obtain ⟨⟨keepttl, unset⟩, alive⟩ := (Bool.and_eq_true ..).mp kept |>.imp_left (Bool.and_eq_true ..).mp
    rw [alive, Bool.and_true] at stored
    cases found : keyspace.lookup key with
    | none => rfl
    | some slot =>
      rw [live, found, any_some] at alive
      rw [keepsExpiry, keepttl, stored, unset, found, any_some, alive] at lost
      rw [bind_some]
      exact not_isSome_iff_eq_none.mp (by simpa using lost)
  next => rfl

theorem applyStore_of_state {stored : Keyspace F} {value : Bytes}
    (state : (keyspace.store setting key value opts).map Prod.fst = .ok stored) :
    applyStore setting keyspace key value opts = stored := by
  unfold applyStore
  cases result : keyspace.store setting key value opts with
  | error error => rw [result] at state; cases state
  | ok pair =>
    rw [result] at state
    exact ok.inj state

private theorem not_succeeds_setOptions {options : List Bytes} {answer : Answer}
    (refused : setOptions opts options = .error answer) : answerSucceeds answer = false := by
  fun_induction setOptions opts options with
  | case1 => cases refused
  | case2 | case4 | case5 =>
    obtain rfl := error.inj refused
    rfl
  | case3 opts token rest flag known ih | case6 opts token time known argument rest value read ih => exact ih refused

theorem set_of_succeeds
    (success : answerSucceeds (handleSet setting keyspace args).2) :
    ∃ key value options opts, args = key :: value :: options ∧ setOptions .default options = .ok opts ∧
      (keyspace.store setting key value opts).map Prod.fst = .ok (handleSet setting keyspace args).1 := by
  rcases args with _ | ⟨key, _ | ⟨value, options⟩⟩
  · cases success
  · cases success
  unfold handleSet at success ⊢
  cases read : setOptions .default options with
  | error answer =>
    simp only [read, not_succeeds_setOptions read] at success
    cases success
  | ok opts =>
    refine ⟨key, value, options, opts, rfl, read, ?_⟩
    cases result : keyspace.store setting key value opts with
    | error error => simp only [read, result] at success; cases success
    | ok pair => simp only [read, result]; rfl

/-! Concrete commands. -/

instance wholeNumbers : Double Int where
  parse := i64OfText
  zero := 0
  add := (· + ·)
  less first second := decide (first < second)
  equal first second := decide (first = second)
  isNan _ := false
  equal_isNan _ _ _ := rfl
  isValidCoordinates _ _ := true
  formatScore := integerText
  formatCoordinate := integerText

def typed (id : WriteId) (words : List String) (few : words.length ≤ 9) (short : ∀ word ∈ words, word.utf8ByteSize ≤ 20) :
    LoggedCommand where
  id := id
  args := words.map ascii
  short := by
    rw [List.length_map, maxArrayLength]
    omega
  small := by
    intro arg member
    obtain ⟨word, known, rfl⟩ := List.mem_map.mp member
    have bound := short word known
    exact bound.trans (by decide)

def plainServer : Server Int := ⟨⟨1000, 1000000, 100⟩, fun _ => [], fun _ keyspace _ => (keyspace, failure "ERR unknown command")⟩

end Kore.Proofs.Repetition
