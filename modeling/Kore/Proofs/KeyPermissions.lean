import Kore.Commands.Acl
import Kore.Commands.KeyAccess
import Kore.Proofs.Repetition

/-! The permission check and the handlers look for keys separately. Where a handler takes
its keys from the positions that the command table gives, the check sees all of them; the
keys that are left are those that `unlistedKeys` names. -/

namespace Kore.Proofs.KeyPermissions
open Foundation Protocol Cache Commands List RespValue

variable {args : List RespValue} {key name : Bytes} {value : RespValue} {spec : KeySpec}

/-! ### Positions -/

theorem mem_keysUpTo {step last position : Nat} (steps : Nat)
    {fuel start : Nat} (stands : position = start + steps * step) (inside : position ≤ last) (enough : steps < fuel)
    (found : args[position]? = some value) (text : value.asBulkString = some key) :
    key ∈ keysUpTo args step last fuel start := by
  induction steps generalizing fuel start with
  | zero =>
    obtain ⟨fuel, rfl⟩ : ∃ more, fuel = more + 1 := ⟨fuel - 1, by omega⟩
    obtain rfl : position = start := by omega
    rw [keysUpTo, if_neg (by omega), found]
    exact mem_append_left _ (by rw [Option.bind_some, text]; exact mem_singleton_self key)
  | succ steps ih =>
    obtain ⟨fuel, rfl⟩ : ∃ more, fuel = more + 1 := ⟨fuel - 1, by omega⟩
    have further : position = start + step + steps * step := by
      rw [stands, Nat.succ_mul]
      omega
    rw [keysUpTo, if_neg (by omega)]
    exact mem_append_right _ (ih further (by omega))

theorem extracted {part : List RespValue} (member : key ∈ part.filterMap asBulkString) (first : 1 ≤ spec.firstKey)
    (step : 1 ≤ spec.step) (stands : ∀ (position : Nat) (value : RespValue), part[position]? = some value →
      ∃ place, place = spec.firstKey.toNat - 1 + position * spec.step.toNat ∧ args[place]? = some value ∧
        (place : Int) < if 0 ≤ spec.lastKey then spec.lastKey else args.length + spec.lastKey + 1) :
    key ∈ extractCommandKeyBytes args spec := by
  obtain ⟨value, inside, text⟩ := mem_filterMap.mp member
  obtain ⟨position, part⟩ := mem_iff_getElem?.mp inside
  obtain ⟨place, stands, found, limit⟩ := stands position value part
  have bound := (List.getElem?_eq_some_iff.mp found).1
  have nonempty : args ≠ [] := by
    rintro rfl
    cases bound
  have several : position ≤ position * spec.step.toNat := Nat.le_mul_of_pos_right position (by omega)
  obtain ⟨last, reaches, bounded⟩ : ∃ last, spec.lastPosition args.length = some last ∧ place ≤ last := by
    unfold KeySpec.lastPosition
    split at limit
    next fixed => exact ⟨_, if_pos fixed, by omega⟩
    next back => exact ⟨_, by rw [if_neg back, if_neg (by omega)], by omega⟩
  unfold extractCommandKeyBytes
  rw [if_neg (by rintro (low | none); exacts [by omega, nonempty none])]
  rw [if_neg (by omega), reaches]
  rw [if_neg (by omega)]
  exact mem_keysUpTo position stands bounded (by omega) found text

theorem everyOther_getElem? {α : Type} (items : List α) (position : Nat) : (everyOther items)[position]? = items[2 * position]? := by
  induction items using everyOther.induct generalizing position with
  | case1 first second rest ih =>
    cases position with
    | zero => rfl
    | succ position =>
      rw [everyOther, getElem?_cons_succ, ih, show 2 * (position + 1) = 2 * position + 1 + 1 by omega]
      rfl
  | case2 rest short =>
    rw [everyOther.eq_def]
    split
    next first second rest => exact absurd rfl (short first second rest)
    next =>
      cases position with
      | zero => rfl
      | succ position =>
        have few : rest.length ≤ 1 := by
          match rest, short with
          | [], _ => simp
          | [_], _ => simp
          | first :: second :: rest, short => exact absurd rfl (short first second rest)
        rw [getElem?_eq_none (by omega), getElem?_eq_none (by omega)]

/-- The entry of the command table that a layout is covered by. -/
def tableEntry : Layout → Option KeySpec
  | .single | .sort | .zsetStore _ | .xread | .xreadgroup | .georadius _ => some ⟨1, 1, 1⟩
  | .pair | .geosearchstore => some ⟨1, 2, 1⟩
  | .every => some ⟨1, -1, 1⟩
  | .alternate => some ⟨1, -1, 2⟩
  | .butLast => some ⟨1, -2, 1⟩
  | .second => some ⟨2, 2, 1⟩
  | .rest => some ⟨2, -1, 1⟩
  | _ => none

theorem table_covers : ∀ entry ∈ layouts, (tableEntry entry.1).isSome → ∀ known ∈ entry.2,
    ascii known ∉ evalNames ∧ ascii known ≠ ascii "MIGRATE" ∧ commandKeySpec (lower (ascii known)) = tableEntry entry.1 := by
  decide +kernel

theorem layoutOf_known (known : layoutOf name ≠ .keyless) :
    ∃ entry ∈ layouts, entry.1 = layoutOf name ∧ ∃ word ∈ entry.2, ascii word = name := by
  unfold layoutOf at known ⊢
  cases search : layouts.find? fun entry => entry.2.any fun known => ascii known == name with
  | none => exact absurd (by rw [search]; rfl) known
  | some entry =>
    have here := find?_some search
    obtain ⟨word, member, same⟩ := any_eq_true.mp here
    exact ⟨entry, mem_of_find?_eq_some search, rfl, word, member, by simpa using same⟩

theorem requestKeys_of_entry (entry : tableEntry (layoutOf name) = some spec) : requestKeys name args = extractCommandKeyBytes args spec := by
  have known : layoutOf name ≠ .keyless := by
    intro keyless
    rw [keyless] at entry
    cases entry
  obtain ⟨group, member, same, word, inside, rfl⟩ := layoutOf_known known
  obtain ⟨script, migrate, covered⟩ := table_covers group member (by rw [same, entry]; rfl) word inside
  rw [requestKeys, if_neg script, if_neg migrate, covered, same, entry]

private theorem taken_extracted (count : Nat) (member : key ∈ (args.take count).filterMap asBulkString) :
    key ∈ extractCommandKeyBytes args ⟨1, count, 1⟩ := by
  refine extracted member le_rfl le_rfl fun position value found => ?_
  rw [getElem?_take, Option.ite_none_right_eq_some] at found
  exact ⟨position, by simp, found.2, by simp; omega⟩

private theorem bulks_extracted (member : key ∈ args.filterMap asBulkString) :
    key ∈ extractCommandKeyBytes args ⟨1, -1, 1⟩ := by
  refine extracted member (by decide) (by decide) fun position value found => ?_
  have bound := (List.getElem?_eq_some_iff.mp found).1
  exact ⟨position, by simp, found, by simp; omega⟩

private theorem everyOther_extracted (member : key ∈ (everyOther args).filterMap asBulkString) :
    key ∈ extractCommandKeyBytes args ⟨1, -1, 2⟩ := by
  refine extracted member (by decide) (by decide) fun position value found => ?_
  rw [everyOther_getElem?] at found
  have bound := (List.getElem?_eq_some_iff.mp found).1
  exact ⟨2 * position, by simp; omega, found, by simp; omega⟩

private theorem dropLast_extracted (member : key ∈ args.dropLast.filterMap asBulkString) :
    key ∈ extractCommandKeyBytes args ⟨1, -2, 1⟩ := by
  refine extracted member (by decide) (by decide) fun position value found => ?_
  rw [getElem?_dropLast, Option.ite_none_right_eq_some] at found
  exact ⟨position, by simp, found.2, by simp; omega⟩

private theorem secondKey_extracted (member : key ∈ secondKey args) : key ∈ extractCommandKeyBytes args ⟨2, 2, 1⟩ := by
  refine extracted member (by decide) (by decide) fun position value found => ?_
  rw [getElem?_take, Option.ite_none_right_eq_some, getElem?_tail] at found
  exact ⟨position + 1, by simp; omega, found.2, by simp; omega⟩

private theorem tail_extracted (member : key ∈ args.tail.filterMap asBulkString) :
    key ∈ extractCommandKeyBytes args ⟨2, -1, 1⟩ := by
  refine extracted member (by decide) (by decide) fun position value found => ?_
  rw [getElem?_tail] at found
  have bound := (List.getElem?_eq_some_iff.mp found).1
  exact ⟨position + 1, by simp; omega, found, by simp; omega⟩

/-! ### The keys of `MIGRATE` -/

private theorem isWord_true {text : String} (is : isWord text value) :
    ∃ option, value.asBulkString = some option ∧ upper option = ascii text := by
  obtain ⟨option, found, same⟩ := Option.any_eq_true _ _ |>.mp is
  exact ⟨option, found, by simpa using same⟩

/-- Where the handler accepts the options, the check finds the same list behind `KEYS`, but for empty keys. -/
private theorem migrateKeysOption_of_accepted {options : List RespValue} {result : Option (List Bytes)} {fuel : Nat}
    (enough : options.length ≤ fuel) (accepted : migrateOptions options = some result) :
    migrateKeysOption fuel options = result.map (filter (· ≠ [])) := by
  induction fuel generalizing options with
  | zero =>
    rw [length_eq_zero_iff.mp (Nat.le_zero.mp enough)] at accepted
    cases accepted
    rfl
  | succ fuel ih =>
    cases options with
    | nil =>
      cases accepted
      rfl
    | cons word rest =>
      have room : rest.length ≤ fuel := Nat.le_of_succ_le_succ enough
      unfold migrateOptions at accepted
      split at accepted
      next single =>
        obtain ⟨option, found, same⟩ : ∃ option, word.asBulkString = some option ∧
            (upper option = ascii "COPY" ∨ upper option = ascii "REPLACE") := by
          rcases Bool.or_eq_true_iff.mp single with copy | replace
          · exact (isWord_true copy).imp fun _ both => ⟨both.1, .inl both.2⟩
          · exact (isWord_true replace).imp fun _ both => ⟨both.1, .inr both.2⟩
        rw [migrateKeysOption, found]
        dsimp only
        rcases same with same | same
        all_goals
          rw [same, if_neg (by decide), if_neg (by decide), if_neg (by decide)]
          exact ih room accepted
      split at accepted
      next auth =>
        obtain ⟨option, found, same⟩ := isWord_true auth
        rw [migrateKeysOption, found]
        dsimp only
        rw [same, if_neg (by decide), if_pos rfl]
        split at accepted
        next password rest =>
          split at accepted
          · exact ih (Nat.le_of_succ_le room) accepted
          · cases accepted
        next => cases accepted
      split at accepted
      next auth =>
        obtain ⟨option, found, same⟩ := isWord_true auth
        rw [migrateKeysOption, found]
        dsimp only
        rw [same, if_neg (by decide), if_neg (by decide), if_pos rfl]
        split at accepted
        next user password rest =>
          split at accepted
          · exact ih (Nat.le_of_succ_le (Nat.le_of_succ_le room)) accepted
          · cases accepted
        next => cases accepted
      split at accepted
      next keys =>
        obtain ⟨option, found, same⟩ := isWord_true keys
        rw [migrateKeysOption, found]
        dsimp only
        rw [same, if_pos rfl]
        split at accepted
        · cases accepted
        · obtain ⟨listed, all, rfl⟩ := Option.map_eq_some_iff.mp accepted
          rw [filterMap_of_mapM all]
          rfl
      next => cases accepted

theorem migrateKeys_extracted (member : key ∈ migrateKeys args) :
    key ∈ extractMigrateKeyBytes args ∨ key = [] := by
  unfold migrateKeys at member
  split at member
  next host port single db timeout options =>
    split at member
    · unfold extractMigrateKeyBytes
      split at member
      next text keys found accepted =>
        rw [show (host :: port :: single :: db :: timeout :: options).drop 5 = options from rfl,
          migrateKeysOption_of_accepted (by simp only [length_cons]; omega) accepted]
        by_cases empty : key = []
        · exact .inr empty
        · exact .inl (mem_filter.mpr ⟨member, by simpa using empty⟩)
      next text found accepted =>
        rw [show (host :: port :: single :: db :: timeout :: options).drop 5 = options from rfl,
          migrateKeysOption_of_accepted (by simp only [length_cons]; omega) accepted]
        split at member
        · cases member
        · next filled =>
          obtain rfl := mem_singleton.mp member
          left
          simp [firstKey, found, filled]
      · cases member
    · cases member
  · cases member

theorem requestKeys_migrate (migrate : layoutOf name = .migrate) : requestKeys name args = extractMigrateKeyBytes args := by
  obtain ⟨group, member, same, word, inside, rfl⟩ := layoutOf_known (by rw [migrate]; exact nofun)
  have only : ∀ entry ∈ layouts, entry.1 = .migrate → entry.2 = ["MIGRATE"] := by decide
  rw [only group member (same.trans migrate), mem_singleton] at inside
  subst word
  rfl

/-! ### What the check does not look at -/

section
variable (F : Type) [Double F] (reach : Bytes → List RespValue → List Bytes) (name : Bytes) (args : List RespValue)

/-- The keys that a handler uses and that the check does not look for: those behind a count
or in a list of streams, the destination of `SORT` and of the radius searches, the sources of
the sorted set operations that store, the source of a search that the word `STOREDIST` hides,
empty keys after `KEYS`, the keys of `MEMORY` and `DEBUG`, and all that scripts, functions and
commands on the whole keyspace reach. -/
def unlistedKeys : List Bytes :=
  match layoutOf name with
  | .keyless | .single | .pair | .every | .alternate | .butLast | .second | .rest => []
  | .lmpop => Layout.keys F args .lmpop
  | .zmpop => Layout.keys F args .zmpop
  | .blmpop => Layout.keys F args .blmpop
  | .bzmpop => Layout.keys F args .bzmpop
  | .intercard => intercardKeys args
  | .zset weighted => zsetSources F weighted true args
  | .zsetStore weighted => (zsetStoreKeys F weighted args).filter (· ∉ firstKey args)
  | .sort => (handleSortKeys args).filter (· ∉ firstKey args)
  | .georadius fromLonLat => (georadiusKeys fromLonLat args).filter (· ∉ firstKey args)
  | .geosearchstore => (geosearchstoreKeys args).filter (· ∉ firstTwoKeys args)
  | .xread => xreadKeys args
  | .xreadgroup => xreadgroupKeys args
  | .migrate => (migrateKeys args).filter (· = [])
  | .memory => memoryKeys args ++ reach name args
  | .debug => debugKeys args
  | .script | .indirect => reach name args

variable {F reach name args} {key : Bytes}

theorem unlisted_accessed (member : key ∈ unlistedKeys F reach name args) : key ∈ accessedKeys F reach name args := by
  unfold unlistedKeys at member
  unfold accessedKeys
  cases layout : layoutOf name <;> simp only [layout, Layout.keys] at member ⊢ <;>
    first | exact member | exact (mem_filter.mp member).1 | cases member

private theorem covered_by {seen : List Bytes} (entry : tableEntry (layoutOf name) = some spec)
    (listed : ∀ key ∈ seen, key ∈ extractCommandKeyBytes args spec) {used : List Bytes} (member : key ∈ used) :
    key ∈ requestKeys name args ∨ key ∈ used.filter (· ∉ seen) := by
  by_cases found : key ∈ seen
  · exact .inl (requestKeys_of_entry entry ▸ listed key found)
  · exact .inr (mem_filter.mpr ⟨member, by simpa using found⟩)

private theorem listed_by (entry : tableEntry (layoutOf name) = some spec)
    (listed : key ∈ extractCommandKeyBytes args spec) : key ∈ requestKeys name args :=
  requestKeys_of_entry entry ▸ listed

theorem accessed_covered (member : key ∈ accessedKeys F reach name args) :
    key ∈ requestKeys name args ∨ key ∈ unlistedKeys F reach name args := by
  unfold accessedKeys at member
  unfold unlistedKeys
  cases layout : layoutOf name <;> simp only [layout, Layout.keys] at member ⊢
  case keyless => cases member
  case single => exact .inl (listed_by (by rw [layout]; rfl) (taken_extracted 1 member))
  case pair => exact .inl (listed_by (by rw [layout]; rfl) (taken_extracted 2 member))
  case every => exact .inl (listed_by (by rw [layout]; rfl) (bulks_extracted member))
  case alternate => exact .inl (listed_by (by rw [layout]; rfl) (everyOther_extracted member))
  case butLast => exact .inl (listed_by (by rw [layout]; rfl) (dropLast_extracted member))
  case second => exact .inl (listed_by (by rw [layout]; rfl) (secondKey_extracted member))
  case rest => exact .inl (listed_by (by rw [layout]; rfl) (tail_extracted member))
  case zsetStore => exact covered_by (by rw [layout]; rfl) (fun _ => taken_extracted 1) member
  case sort => exact covered_by (by rw [layout]; rfl) (fun _ => taken_extracted 1) member
  case georadius => exact covered_by (by rw [layout]; rfl) (fun _ => taken_extracted 1) member
  case geosearchstore => exact covered_by (by rw [layout]; rfl) (fun _ => taken_extracted 2) member
  case migrate =>
    rw [requestKeys_migrate layout]
    refine (migrateKeys_extracted member).imp_right fun empty => ?_
    exact mem_filter.mpr ⟨member, by simpa using empty⟩
  all_goals exact .inr member

end

/-! ### The check -/

def Permits (user : AclUser) (key : Bytes) : Prop := ∃ pattern ∈ user.keyPatterns, globMatch pattern (lossy key) = true

theorem canAccessKey_iff {user : AclUser} (restricted : user.allKeys = false) :
    user.canAccessKey (lossy key) = true ↔ Permits user key := by
  rw [AclUser.canAccessKey, restricted, Bool.false_or, any_eq_true]
  rfl

theorem checked_keys_permitted {acl : Acl} {username : Bytes} {user : AclUser}
    (known : acl.lookup username = some user) (restricted : user.allKeys = false)
    (passed : checkAclPermission acl username name args = none) (member : key ∈ requestKeys name args) :
    Permits user key := by
  unfold checkAclPermission at passed
  split at passed
  next open_ =>
    rw [Acl.grants, known, Option.any_some, AclUser.isUnrestricted, restricted] at open_
    simp at open_
  split at passed
  next => cases passed
  split at passed
  next => cases passed
  next none =>
    have granted : acl.grants username (·.canAccessKey (lossy key)) := by
      by_contra refused
      exact none (any_eq_true.mpr ⟨key, member, by simpa using refused⟩)
    rw [Acl.grants, known, Option.any_some] at granted
    exact (canAccessKey_iff restricted).mp granted

/-- For a user without all keys and any request that the check lets through, the keys that
the handler uses match a pattern of the user exactly when the unlisted ones do. -/
theorem accessed_permitted_iff {F : Type} [Double F] {acl : Acl} {username : Bytes} {user : AclUser}
    (known : acl.lookup username = some user) (restricted : user.allKeys = false)
    (reach : Bytes → List RespValue → List Bytes) (name : Bytes) (args : List RespValue) :
    (checkAclPermission acl username name args = none → ∀ key ∈ accessedKeys F reach name args, Permits user key) ↔
      (checkAclPermission acl username name args = none → ∀ key ∈ unlistedKeys F reach name args, Permits user key) := by
  constructor
  · intro permitted passed key member
    exact permitted passed key (unlisted_accessed member)
  · intro permitted passed key member
    rcases accessed_covered member with seen | unlisted
    · exact checked_keys_permitted known restricted passed seen
    · exact permitted passed key unlisted

/-! A user that may use the keys that begin with `a`. -/

def someKeys : AclUser := ⟨true, true, [], [], false, [ascii "a*"], true, []⟩

def someUsers : Acl := Finmap.singleton (ascii "reader") someKeys

def words (texts : List String) : List RespValue := texts.map bulkWord

/-- The destination may be used, the source that is copied there may not. -/
theorem hidden_source_read :
    checkAclPermission someUsers (ascii "reader") (ascii "ZUNIONSTORE") (words ["a", "1", "secret"]) = none ∧
      ascii "secret" ∈ accessedKeys Int (fun _ _ => []) (ascii "ZUNIONSTORE") (words ["a", "1", "secret"]) ∧
      ¬ Permits someKeys (ascii "secret") := by
  unfold Permits
  decide +kernel

theorem listed_source_permitted :
    checkAclPermission someUsers (ascii "reader") (ascii "ZUNIONSTORE") (words ["a", "1", "ab"]) = none ∧
      ∀ key ∈ accessedKeys Int (fun _ _ => []) (ascii "ZUNIONSTORE") (words ["a", "1", "ab"]), Permits someKeys key := by
  have passed : checkAclPermission someUsers (ascii "reader") (ascii "ZUNIONSTORE") (words ["a", "1", "ab"]) = none := by
    decide +kernel
  refine ⟨passed, (accessed_permitted_iff rfl rfl _ _ _).mpr (fun _ => ?_) passed⟩
  unfold Permits
  decide +kernel

end Kore.Proofs.KeyPermissions
