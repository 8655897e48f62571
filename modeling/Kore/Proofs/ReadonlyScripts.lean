import Kore.Commands.ScriptRuns
import Kore.Foundation.Runs
import Kore.Proofs.Repetition
import Kore.Proofs.ScriptConfinement

/-! Read-only scripts. The guard goes by the name of the command, and `SORT` is not on the list
of writes; with `STORE` it overwrites its destination all the same. -/

namespace Kore.Proofs.ReadonlyScripts
open Foundation Protocol Commands Cache List Finmap ScriptServer
variable {F : Type}
variable {now : Nat} {mode : BitfieldOverflow} {answer : Answer} {args : List RespValue} {dest : Bytes} {state : ScriptState F}

def Lapsed (now : Nat) (before after : Keyspace F) : Prop :=
  ∀ key, after.lookup key = before.lookup key ∨ after.lookup key = none ∧ ∃ slot, before.lookup key = some slot ∧ slot.isExpired now = true

theorem Lapsed.refl (now : Nat) (keyspace : Keyspace F) : Lapsed now keyspace keyspace := fun _ => .inl rfl

theorem Lapsed.trans {first second third : Keyspace F} (begun : Lapsed now first second) (ended : Lapsed now second third) :
    Lapsed now first third := by
  intro key
  rcases ended key with same | ⟨gone, slot, held, expired⟩
  · rw [same]
    exact begun key
  · rcases begun key with same | ⟨missing, _⟩
    · exact .inr ⟨gone, slot, same ▸ held, expired⟩
    · rw [missing] at held
      cases held

variable {slot : KeySlot F}

theorem isExpired_later {later : Nat} (expired : slot.isExpired now) (passed : now ≤ later) : slot.isExpired later := by
  unfold KeySlot.isExpired at expired ⊢
  cases due : slot.expiresAt with
  | none =>
    rw [due] at expired
    cases expired
  | some expiry =>
    rw [due, Option.any_some, decide_eq_true_eq] at expired
    rw [Option.any_some, decide_eq_true_eq]
    omega

theorem purge_lapsed (key : Bytes) (keyspace : Keyspace F) : Lapsed now keyspace (keyspace.purgeIfExpired now key) := by
  intro other
  unfold Keyspace.purgeIfExpired
  split
  next slot found =>
    split
    next expired =>
      by_cases same : other = key
      · rw [same, lookup_erase]
        exact .inr ⟨rfl, slot, found, expired⟩
      · exact .inl (lookup_erase_ne same)
    next => exact .inl rfl
  next => exact .inl rfl

theorem foldl_lapsed {β : Type} (keyspaceOf : β → Keyspace F) {change : β → Bytes → β}
    (each : ∀ held key, Lapsed now (keyspaceOf held) (keyspaceOf (change held key))) (keys : List Bytes) (held : β) :
    Lapsed now (keyspaceOf held) (keyspaceOf (keys.foldl change held)) := by
  induction keys generalizing held with
  | nil => exact Lapsed.refl now (keyspaceOf held)
  | cons key keys ih => exact (each held key).trans (ih (change held key))

section readers
variable {room : Room F} {work : ReadWork F}

theorem keyTypes_lapsed (keys : List Bytes) (room : Room F) : Lapsed now room.keyspace (keyTypes now keys room).keyspace :=
  foldl_lapsed Room.keyspace (fun room key => purge_lapsed key room.keyspace) keys room

theorem ensureTypes_lapsed (fits : KeyValue F → Bool) (keys : List Bytes) (room : Room F) :
    Lapsed now room.keyspace (ensureTypes now fits keys room).keyspace := by
  induction keys generalizing room with
  | nil => exact Lapsed.refl _ _
  | cons key keys ih =>
    have purged : Lapsed now room.keyspace (room.purge now key).keyspace := purge_lapsed key room.keyspace
    unfold ensureTypes
    dsimp only
    split
    · exact purged.trans (ih _)
    · exact purged

theorem load_lapsed (room : Room F) (key : Bytes) : Lapsed now room.keyspace (load now key room).keyspace := by
  unfold load
  split
  · exact purge_lapsed key room.keyspace
  · exact Lapsed.refl _ _

theorem snapshotZsets_lapsed (inter : Bool) (keys : List Bytes) (room : Room F) :
    Lapsed now room.keyspace (snapshotZsets now inter keys room).1.keyspace := by
  induction keys generalizing room with
  | nil => exact Lapsed.refl _ _
  | cons key keys ih =>
    have purged : Lapsed now room.keyspace (room.purge now key).keyspace := purge_lapsed key room.keyspace
    have rest := ih (room.purge now key)
    unfold snapshotZsets
    dsimp only
    split
    · split
      · exact purged
      · exact purged.trans rest
    · split
      · split
        · exact purged
        · exact purged.trans rest
      · exact purged

theorem handleGeosearch_lapsed (args : List RespValue) (room : Room F) :
    Lapsed now room.keyspace (handleGeosearch now args room).keyspace := by
  unfold handleGeosearch
  split
  · exact Lapsed.refl _ _
  · exact keyTypes_lapsed _ _

theorem purgeMatching_lapsed (pattern : Option Bytes) (room : Room F) :
    Lapsed now room.keyspace (purgeMatching work now pattern room).keyspace :=
  foldl_lapsed id (fun keyspace key => purge_lapsed key keyspace) _ room.keyspace

/-- Without a word for storing, the options are those of the search. -/
theorem georadiusOptions_plain {words : List RespValue}
    (plain : ∀ word ∈ words, isWord "STORE" word = false ∧ isWord "STOREDIST" word = false) (opts : GeoradiusOptions) :
    georadiusOptions opts words = some { opts with search := opts.search ++ words } := by
  induction words generalizing opts with
  | nil => simp [georadiusOptions]
  | cons word words ih =>
    obtain ⟨store, storedist⟩ := plain word mem_cons_self
    unfold georadiusOptions
    simp only [store, storedist, Bool.false_eq_true, if_false]
    rw [ih fun other member => plain other (mem_cons_of_mem _ member)]
    simp

theorem handleGeoradiusImpl_lapsed (fromLonLat : Bool) (args : List RespValue) (room : Room F) :
    Lapsed now room.keyspace (handleGeoradiusImpl work now fromLonLat false args room).keyspace := by
  unfold handleGeoradiusImpl
  generalize (if fromLonLat then 5 else 4) = width
  dsimp only
  split
  next => exact Lapsed.refl _ _
  next =>
    split
    next => exact Lapsed.refl _ _
    next plain =>
      rw [georadiusOptions_plain]
      · exact handleGeosearch_lapsed _ _
      · simpa using plain

variable [Double F]

theorem handleZsetAlgebra_lapsed (op : ZAlgebra) (args : List RespValue) (room : Room F) :
    Lapsed now room.keyspace (handleZsetAlgebra work now op false args room).keyspace := by
  unfold handleZsetAlgebra
  simp only [Bool.false_eq_true, if_false, Bool.false_and]
  split
  next => exact Lapsed.refl _ _
  next =>
    split
    next => exact Lapsed.refl _ _
    next keys options counted =>
      split
      next => exact Lapsed.refl _ _
      next =>
        have read : Lapsed now room.keyspace _ := snapshotZsets_lapsed (decide (op = .inter)) keys room
        generalize snapshotZsets now (decide (op = .inter)) keys room = snapshots at read
        obtain ⟨after, outcome⟩ := snapshots
        split
        next same => exact (Prod.mk.inj same).1 ▸ read
        next same => exact (Prod.mk.inj same).1 ▸ read
        next same =>
          split <;> exact (Prod.mk.inj same).1 ▸ read

/-- The flag with which a handler stores what it finds. -/
def storeFlag : Reader → Bool
  | .zsetAlgebra _ store => store
  | .georadius _ allowStore => allowStore
  | _ => false

/-- A handler without the flag to store drops expired keys at most. -/
theorem handle_lapsed {reader : Reader} (reads : storeFlag reader = false) (args : List RespValue) (room : Room F) :
    Lapsed now room.keyspace (reader.handle work now args room).keyspace := by
  unfold Reader.handle
  cases reader with
  | keyless => exact Lapsed.refl _ _
  | single least most accepts =>
    dsimp only
    split
    · exact keyTypes_lapsed _ _
    · exact Lapsed.refl _ _
  | «exists» => exact keyTypes_lapsed _ _
  | mget => exact foldl_lapsed Room.keyspace load_lapsed _ room
  | lcs =>
    dsimp only
    split
    · split
      · split
        · exact ensureTypes_lapsed _ _ _
        · exact Lapsed.refl _ _
      · exact Lapsed.refl _ _
    · exact Lapsed.refl _ _
  | pfcount =>
    dsimp only
    cases args.mapM RespValue.asBulkString with
    | none => exact Lapsed.refl _ _
    | some keys => exact ensureTypes_lapsed _ keys room
  | setAlgebra | sintercard => exact ensureTypes_lapsed _ _ _
  | zintercard => exact snapshotZsets_lapsed _ _ _
  | zsetAlgebra op store =>
    obtain rfl : store = false := reads
    exact handleZsetAlgebra_lapsed op args room
  | georadius fromLonLat allowStore =>
    obtain rfl : allowStore = false := reads
    exact handleGeoradiusImpl_lapsed fromLonLat args room
  | object =>
    dsimp only
    split
    · split
      · exact keyTypes_lapsed _ _
      · exact Lapsed.refl _ _
    · exact Lapsed.refl _ _
  | memory => exact keyTypes_lapsed _ _
  | keys => exact purgeMatching_lapsed _ _
  | scan =>
    dsimp only
    split
    · exact Lapsed.refl _ _
    · split
      · split
        · exact purgeMatching_lapsed _ _
        · exact Lapsed.refl _ _
      · exact Lapsed.refl _ _
  | randomkey =>
    dsimp only
    split
    · split
      · exact Lapsed.refl _ _
      · exact purgeMatching_lapsed _ _
    · exact purgeMatching_lapsed _ _

end readers

/-- The handlers with the flag to store belong to commands on the list of writes. -/
theorem storeFlag_write {name : Bytes} {reader : Reader} (found : readerOf name = some reader) (stores : storeFlag reader = true) :
    isWriteCommand name = true := by
  have listed : ∀ entry ∈ readers, storeFlag entry.1 = true → ∀ known ∈ entry.2, isWriteCommand (ascii known) = true := by decide +kernel
  obtain ⟨entry, search, rfl⟩ := Option.map_eq_some_iff.mp found
  have named := find?_some search
  obtain ⟨known, member, same⟩ := any_eq_true.mp named
  rw [← eq_of_beq same]
  exact listed entry (mem_of_find?_eq_some search) stores known member

/-- Every command that a script may call has a handler here or is a write. -/
theorem allowlist_handled : ∀ name ∈ scriptCallAllowlist, isWriteCommand (ascii name) = true ∨ name ∈ ["SELECT", "SORT", "BITFIELD_RO"] ∨
    (readerOf (ascii name)).isSome = true := by
  decide +kernel

section bitfields
variable {setting : Setting} {key : Bytes} {room after : Room F}

variable {ops : List BitfieldOp}

private theorem foldlM_gets (gets : ∀ op ∈ ops, op.isWrite = false)
    {start finish : BitfieldRun} (ran : ops.foldlM (BitfieldRun.step mode) start = some finish) : finish.wrote = start.wrote := by
  induction ops generalizing start with
  | nil =>
    cases ran
    rfl
  | cons op ops ih =>
    cases op with
    | get field =>
      have later : ops.foldlM (BitfieldRun.step mode) { start with replies := start.replies ++ [some (getBits field start.bytes)] } =
          some finish := ran
      have same := ih (fun op member => gets op (mem_cons_of_mem _ member)) later
      exact same
    | set field value | incrBy field increment => exact absurd (gets _ mem_cons_self) nofun

variable {keyspace : Keyspace F}

private theorem mutateString_keeps {R : Type} {changed : Keyspace F} {callback : Option Bytes → Option Nat → EntryAction × R}
    (keeps : ∀ current expiry, (callback current expiry).1 = .keep) {result : R}
    (ran : keyspace.mutateString key callback = .ok (changed, result)) : changed = keyspace := by
  unfold Keyspace.mutateString at ran
  dsimp only at ran
  split at ran
  next =>
    rw [keeps] at ran
    cases ran
    rfl
  next =>
    split at ran
    next =>
      rw [keeps] at ran
      cases ran
      rfl
    next => cases ran

private theorem ensureStringOrAbsent_purges {purged : Keyspace F}
    (passed : keyspace.ensureStringOrAbsent now key = .ok purged) : purged = keyspace.purgeIfExpired now key := by
  unfold Keyspace.ensureStringOrAbsent at passed
  dsimp only at passed
  split at passed
  next =>
    cases passed
    rfl
  next =>
    split at passed
    next =>
      cases passed
      rfl
    next => cases passed

theorem bitfield_gets (gets : ∀ op ∈ ops, op.isWrite = false)
    {answer : Except Refusal (List (Option Int))} (ran : room.bitfield setting key ops mode = some (after, answer)) :
    Lapsed setting.now room.keyspace after.keyspace := by
  have none : anyWrite ops = false := by
    rw [anyWrite, any_eq_false]
    intro op member
    rw [gets op member]
    exact Bool.false_ne_true
  unfold Room.bitfield at ran
  split at ran
  next =>
    cases ran
    exact Lapsed.refl _ _
  next =>
    split at ran
    next =>
      cases ran
      exact Lapsed.refl _ _
    next purged passed =>
      have lapsed : Lapsed setting.now room.keyspace purged := by
        rw [ensureStringOrAbsent_purges passed]
        exact purge_lapsed _ _
      simp only [none, Bool.false_and, Bool.false_eq_true, if_false] at ran
      split at ran
      next =>
        cases ran
        exact lapsed
      next => cases ran
      next =>
        cases ran
        exact lapsed
      next changed replies mutated =>
        cases ran
        have kept := mutateString_keeps (fun current expiry => ?_) mutated
        · rw [kept]
          exact lapsed
        · split
          next => rfl
          next run ended =>
            have unwritten := foldlM_gets gets ended
            rw [unwritten]
            rfl

variable {segment : List BitfieldOp} {replies : List (Option Int)}

private theorem flush_lapsed (gets : ∀ op ∈ segment, op.isWrite = false) {next : Room F → List (Option Int) → Option (Room F × Answer)}
    (goesOn : ∀ middle replies, next middle replies = some (after, answer) → Lapsed setting.now middle.keyspace after.keyspace)
    (ran : flushSegment setting key mode segment replies room next = some (after, answer)) :
    Lapsed setting.now room.keyspace after.keyspace := by
  unfold flushSegment at ran
  split at ran
  next => cases ran
  next flushed =>
    cases ran
    exact bitfield_gets gets flushed
  next flushed => exact (bitfield_gets gets flushed).trans (goesOn _ _ ran)

/-- The read-only command collects reads only. The induction is on the words that are left. -/
theorem bitfieldLoop_lapsed (count : Nat) (short : args.length ≤ count) (gets : ∀ op ∈ segment, op.isWrite = false)
    (ran : bitfieldLoop setting true key args mode segment replies room = some (after, answer)) :
    Lapsed setting.now room.keyspace after.keyspace := by
  induction count generalizing args mode segment replies room with
  | zero =>
    cases length_eq_zero_iff.mp (Nat.le_zero.mp short)
    refine flush_lapsed gets (fun middle replies ended => ?_) ran
    cases ended
    exact Lapsed.refl _ _
  | succ count ih =>
    unfold bitfieldLoop at ran
    split at ran
    next =>
      refine flush_lapsed gets (fun middle replies ended => ?_) ran
      cases ended
      exact Lapsed.refl _ _
    next word rest _ _ _ _ =>
      have stays : ∀ {result : Answer}, some (room, result) = some (after, answer) → Lapsed setting.now room.keyspace after.keyspace := by
        intro result same
        cases same
        exact Lapsed.refl _ _
      split at ran
      next => exact stays ran
      split at ran
      next =>
        split at ran
        next => exact stays ran
        next chosen rest =>
          refine flush_lapsed gets (fun middle replies ended => ?_) ran
          split at ended
          next =>
            cases ended
            exact Lapsed.refl _ _
          next => exact ih (by simp only [length_cons] at short; omega) (forall_mem_nil _) ended
      split at ran
      next =>
        split at ran
        next type offset rest =>
          split at ran
          next => exact stays ran
          next field _ =>
            refine ih (by simp only [length_cons] at short; omega) ?_ ran
            intro op member
            rcases mem_append.mp member with old | new
            · exact gets op old
            · cases mem_singleton.mp new
              rfl
        next => exact stays ran
      split at ran
      next => exact stays ran
      next => exact stays ran

theorem handleBitfieldRo_lapsed
    (ran : handleBitfieldRo setting room args = some (after, answer)) : Lapsed setting.now room.keyspace after.keyspace := by
  unfold handleBitfieldRo bitfieldImpl at ran
  split at ran
  next =>
    cases ran
    exact Lapsed.refl _ _
  next =>
    split at ran
    next =>
      cases ran
      exact Lapsed.refl _ _
    next => exact bitfieldLoop_lapsed _ (le_refl _) (forall_mem_nil _) ran

end bitfields

/-- The options are read as the search for their keys reads them. The induction is on the words that are left. -/
theorem sortOptions_dest (count : Nat) (short : args.length ≤ count) (opts : SortOptions) :
    (sortOptions opts args).toOption.map SortOptions.storeDest = sortStore opts.storeDest args := by
  induction count generalizing args opts with
  | zero =>
    cases length_eq_zero_iff.mp (Nat.le_zero.mp short)
    rfl
  | succ count ih =>
    cases args with
    | nil => rfl
    | cons word rest =>
      rw [length_cons] at short
      rw [sortOptions.eq_def, sortStore.eq_def]
      dsimp only
      cases text : word.asBulkString with
      | none =>
        have silent : ∀ option, isWord option word = false := fun option => by rw [isWord, text]; rfl
        simp only [silent, Bool.or_false]
        rfl
      | some _ =>
        by_cases alpha : isWord "ALPHA" word = true
        · simp only [alpha, Bool.true_or]
          exact ih (by omega) _
        by_cases asc : isWord "ASC" word = true
        · simp only [alpha, asc, Bool.or_true, Bool.true_or]
          exact ih (by omega) _
        by_cases desc : isWord "DESC" word = true
        · simp only [alpha, asc, desc, if_true, Bool.false_eq_true, if_false, Bool.or_true]
          exact ih (by omega) _
        simp only [alpha, asc, desc, Bool.false_eq_true, if_false, Bool.or_false]
        by_cases unsorted : isWord "BY" word = true
        · simp only [unsorted, if_true]
          cases rest with
          | nil => rfl
          | cons pattern rest =>
            rw [length_cons] at short
            dsimp only
            cases pattern.asBulkString with
            | none => rfl
            | some pattern =>
              simp only [Option.any_some, beq_iff_eq]
              split
              · exact ih (by omega) _
              · rfl
        simp only [unsorted, Bool.false_eq_true, if_false]
        by_cases limit : isWord "LIMIT" word = true
        · simp only [limit, if_true]
          match rest with
          | [] | [_] => rfl
          | offset :: amount :: rest =>
            simp only [length_cons] at short
            dsimp only
            cases integerOf offset with
            | none => rfl
            | some offset =>
              cases integerOf amount with
              | none => simp only [Option.isSome_none, Bool.and_false, Bool.false_eq_true, if_false]; rfl
              | some amount =>
                simp only [Option.any_some, Option.isSome_some, Bool.and_true, decide_eq_true_eq]
                split
                · exact ih (by omega) _
                · rfl
        simp only [limit]
        by_cases store : isWord "STORE" word = true
        · simp only [store, if_true]
          cases rest with
          | nil => rfl
          | cons key rest =>
            rw [length_cons] at short
            dsimp only
            cases key.asBulkString with
            | none => rfl
            | some key => exact ih (by omega) _
        rw [Bool.not_eq_true] at store
        simp only [store, Bool.false_eq_true, if_false]
        split <;> rfl

section sorting
variable [Double F] {walk : SortWalk F} {now : Nat} {room : Room F}

def sortDest : List RespValue → Option Bytes
  | [] => none
  | source :: options => source.asBulkString.bind fun _ => (sortStore none options).join

theorem handleSort_lapsed (unstored : sortDest args = none) :
    Lapsed now room.keyspace (handleSort walk now room args).1.keyspace := by
  unfold handleSort
  split
  next => exact Lapsed.refl _ _
  next source options =>
    split
    next => exact Lapsed.refl _ _
    next key named =>
      split
      next => exact Lapsed.refl _ _
      next opts accepted =>
        have dest := sortOptions_dest _ (le_refl options.length) .none
        rw [accepted] at dest
        simp only [sortDest, named, Option.bind_some] at unstored
        have purged : Lapsed now room.keyspace (room.purge now key).keyspace := purge_lapsed key room.keyspace
        dsimp only
        split
        next => exact purged
        next =>
          split
          next => exact purged
          next =>
            split
            next => exact purged
            next target stores =>
              change some opts.storeDest = sortStore none options at dest
              rw [← dest, stores] at unstored
              cases unstored

theorem handleSort_deletes (stored : sortDest args = some dest)
    (blank : ∀ key slot, room.keyspace.lookup key = some slot → slot.value = .list []) :
    (handleSort walk now room args).1.keyspace.lookup dest = none := by
  cases args with
  | nil => cases stored
  | cons source options =>
    obtain ⟨key, named, joined⟩ := Option.bind_eq_some_iff.mp stored
    have parsed := sortOptions_dest _ (le_refl options.length) .none
    change _ = sortStore none options at parsed
    rw [Option.join_eq_some_iff.mp joined] at parsed
    obtain ⟨opts, accepted, target⟩ := Option.map_eq_some_iff.mp parsed
    have accepted : sortOptions .none options = .ok opts := by
      cases outcome : sortOptions .none options with
      | error text =>
        rw [outcome] at accepted
        cases accepted
      | ok found =>
        rw [outcome] at accepted
        cases accepted
        rfl
    have source_empty : sortSource walk (((room.purge now key).keyspace.lookup key).map KeySlot.value) = some [] := by
      cases held : (room.purge now key).keyspace.lookup key with
      | none => rfl
      | some slot =>
        rcases purge_lapsed key room.keyspace key with same | ⟨gone, _⟩
        · rw [Option.map_some, blank key slot (same.symm.trans held)]
          rfl
        · exact absurd (gone.symm.trans held) nofun
    have ordered : opts.order walk [] = some [] := by
      unfold SortOptions.order
      simp
    have limited : opts.limit [] = [] := by
      unfold SortOptions.limit
      split
      · rfl
      · simp
    simp only [handleSort, named, accepted, source_empty, ordered, limited, target, sortInto]
    exact lookup_erase _ _

end sorting

structure OnlyLapsed (before after : ScriptState F) : Prop where
  passed : before.now ≤ after.now
  served : before.selectedDb < before.databases.length → after.selectedDb < after.databases.length
  count : after.databases.length = before.databases.length
  slots : ∀ index key, after.slot index key = before.slot index key ∨
    after.slot index key = none ∧ ∃ slot, before.slot index key = some slot ∧ slot.isExpired after.now = true

theorem OnlyLapsed.refl (state : ScriptState F) : OnlyLapsed state state := ⟨le_refl _, id, rfl, fun _ _ => .inl rfl⟩

theorem OnlyLapsed.trans {first second third : ScriptState F} (begun : OnlyLapsed first second) (ended : OnlyLapsed second third) :
    OnlyLapsed first third := by
  refine ⟨begun.passed.trans ended.passed, ended.served ∘ begun.served, ended.count.trans begun.count, ?_⟩
  intro index key
  rcases ended.slots index key with same | ⟨gone, slot, held, expired⟩
  · rw [same]
    rcases begun.slots index key with same | ⟨gone, slot, held, expired⟩
    · exact .inl same
    · exact .inr ⟨gone, slot, held, isExpired_later expired ended.passed⟩
  · rcases begun.slots index key with same | ⟨missing, _⟩
    · exact .inr ⟨gone, slot, same ▸ held, expired⟩
    · rw [missing] at held
      cases held

theorem setRoom_lapsed {room : Room F} (lapsed : Lapsed state.now state.room.keyspace room.keyspace) :
    OnlyLapsed state (state.setRoom room) := by
  have lengths : (state.setRoom room).databases.length = state.databases.length := length_set
  refine ⟨le_refl _, fun served => lengths ▸ served, lengths, ?_⟩
  intro index key
  unfold ScriptState.slot ScriptState.setRoom
  by_cases same : state.selectedDb = index
  · subst same
    rw [getElem?_set_self']
    cases selected : state.databases[state.selectedDb]? with
    | none => exact .inl rfl
    | some keyspace =>
      have begun : state.room.keyspace = keyspace := by
        unfold ScriptState.room
        rw [selected]
        rfl
      rw [begun] at lapsed
      exact lapsed key
  · rw [getElem?_set_ne same]
    exact .inl rfl

theorem accepted_read {call : List LuaValue} {name : Bytes} (accepted : acceptCall true call = .ok (name, args)) :
    isWriteCommand name = false :=
  (ScriptConfinement.accepted_allowed accepted).2

/-- The call is a `SORT` that its handler takes to have a destination. -/
def StoresSorted (call : List LuaValue) : Prop :=
  ∃ args dest, acceptCall true call = .ok (ascii "SORT", args) ∧ sortDest args = some dest

/-- One database with an empty list, which nothing but a write can take away. -/
def emptyList (dest : Bytes) : ScriptState F := ⟨[singleton dest (.new (.list []))], 0, 0, []⟩

private theorem emptyList_slot : (emptyList dest : ScriptState F).slot 0 dest = some (.new (.list [])) :=
  lookup_singleton_eq

private theorem emptyList_only {key : Bytes} (held : (emptyList dest).slot 0 key = some slot) : slot = .new (.list []) := by
  have found : (Finmap.singleton dest (KeySlot.new (.list [])) : Keyspace F).lookup key = some slot := held
  by_cases same : key = dest
  · rw [same, Finmap.lookup_singleton_eq] at found
    exact (Option.some.inj found).symm
  · rw [Finmap.lookup_eq_none.mpr (by simpa [Finmap.mem_singleton] using same)] at found
    cases found

private theorem emptyList_stays (kept : OnlyLapsed (emptyList dest) state) :
    state.slot 0 dest = some (.new (.list [])) := by
  rcases kept.slots 0 dest with same | ⟨_, slot, held, expired⟩
  · rw [same, emptyList_slot]
  · rw [emptyList_only held] at expired
    cases expired

section server
variable [Double F] (server : ScriptServer F)

variable {made : Nat × List LuaValue}

/-- A read-only call changes nothing, unless it is a `SORT` with a destination. -/
theorem call_lapsed (state : ScriptState F) (reads : ¬ StoresSorted made.2) : OnlyLapsed state (server.call true state made) := by
  have waited : OnlyLapsed state { state with now := state.now + made.1 } :=
    ⟨Nat.le_add_right _ _, id, rfl, fun _ _ => .inl rfl⟩
  refine waited.trans ?_
  unfold call
  generalize { state with now := state.now + made.1 } = current
  split
  next name args accepted =>
    unfold scriptDispatchSync
    dsimp only
    split
    next =>
      unfold handleSelect
      split
      next => exact OnlyLapsed.refl current
      split
      next =>
        split
        next =>
          split
          next within => exact ⟨le_refl _, fun _ => within.2, rfl, fun _ _ => .inl rfl⟩
          next => exact OnlyLapsed.refl current
        next => exact OnlyLapsed.refl current
      next => exact OnlyLapsed.refl current
    split
    next sort =>
      apply setRoom_lapsed
      apply handleSort_lapsed
      cases dest : sortDest args with
      | none => rfl
      | some dest' => exact (reads ⟨args, dest', sort ▸ accepted, dest⟩).elim
    split
    next =>
      cases ran : handleBitfieldRo (server.setting current.now) current.room args with
      | none => exact OnlyLapsed.refl current
      | some handled =>
        exact setRoom_lapsed (handleBitfieldRo_lapsed ran)
    split
    next reader found =>
      refine setRoom_lapsed (handle_lapsed ?_ args current.room)
      cases stores : storeFlag reader with
      | false => rfl
      | true => exact absurd ((accepted_read accepted).symm.trans (storeFlag_write found stores)) Bool.false_ne_true
    next =>
      rw [accepted_read accepted, if_neg Bool.false_ne_true]
      exact OnlyLapsed.refl current
  next => exact OnlyLapsed.refl current

theorem run_lapsed (calls : List (Nat × List LuaValue)) (state : ScriptState F) (reads : ∀ made ∈ calls, ¬ StoresSorted made.2) :
    OnlyLapsed state (run (server.call true) state calls) := by
  induction calls generalizing state with
  | nil => exact OnlyLapsed.refl state
  | cons made calls ih =>
    have first := call_lapsed server state (reads made mem_cons_self)
    exact first.trans (ih _ fun other member => reads other (mem_cons_of_mem _ member))

theorem call_deletes (kept : OnlyLapsed (emptyList dest) state)
    (accepted : acceptCall true made.2 = .ok (ascii "SORT", args)) (stored : sortDest args = some dest) :
    (server.call true state made).slot 0 dest = none := by
  have one : state.databases.length = 1 := kept.count
  have selected : state.selectedDb = 0 := by
    have served := kept.served (zero_lt_one)
    omega
  obtain ⟨keyspace, held⟩ := length_eq_one_iff.mp one
  let current : ScriptState F := { state with now := state.now + made.1 }
  have begun : current.room.keyspace = keyspace := by
    change ((state.databases[state.selectedDb]?).getD ∅) = keyspace
    rw [held, selected]
    rfl
  have sorted : server.call true state made = current.setRoom (handleSort server.walk current.now current.room args).1 := by
    unfold call
    rw [accepted]
    dsimp only
    have unselected : ascii "SORT" ≠ ascii "SELECT" := by decide +kernel
    rw [scriptDispatchSync, if_neg unselected, if_pos rfl]
  have slots : ∀ room : Room F, (current.setRoom room).slot 0 dest = room.keyspace.lookup dest := by
    intro room
    change ((state.databases.set state.selectedDb room.keyspace)[0]?).bind _ = _
    rw [held, selected]
    rfl
  rw [sorted, slots]
  apply handleSort_deletes stored
  intro key slot found
  rw [begun] at found
  have known : state.slot 0 key = some slot := by
    change (state.databases[0]?).bind _ = _
    rw [held]
    exact found
  rcases kept.slots 0 key with same | ⟨gone, _⟩
  · rw [emptyList_only (same.symm.trans known)]
    rfl
  · rw [gone] at known
    cases known

/-- The calls that a read-only script makes leave every state of the databases as it is, up to each
of its calls, exactly when none of them is a `SORT` with a destination. -/
theorem readonly_unchanged_iff (calls : List (Nat × List LuaValue)) :
    (∀ state, ∀ made, made <+: calls → OnlyLapsed state (run (server.call true) state made)) ↔
      ∀ made ∈ calls, ¬ StoresSorted made.2 := by
  constructor
  · intro unchanged made member stores
    obtain ⟨args, dest, accepted, stored⟩ := stores
    obtain ⟨front, back, rfl⟩ := append_of_mem member
    have before := unchanged (emptyList dest) front (prefix_append _ _)
    have after := unchanged (emptyList dest) (front ++ [made]) ⟨back, by simp⟩
    have gone := call_deletes server before accepted stored
    have present := emptyList_stays after
    rw [run, foldl_append] at present
    cases present.symm.trans gone
  · intro reads state made begins
    exact run_lapsed server made state fun other member => reads other (begins.subset member)

end server

private def sortingServer : ScriptServer Int where
  maxEntrySize := 1000
  entryStructSize := 0
  clusterEnabled := false
  walk := ⟨fun _ => [], fun _ => [], i64OfText⟩
  work := ⟨fun _ _ => [], fun _ _ _ => none, fun _ _ => false, fun _ => none⟩
  writes state _ _ := state

private def unsorted : ScriptState Int :=
  ⟨[singleton (ascii "src") (.new (.list [ascii "2", ascii "1"]))], 0, 0, []⟩

private def storingCall : Nat × List LuaValue :=
  (0, [.string (ascii "SORT"), .string (ascii "src"), .string (ascii "STORE"), .string (ascii "dest")])

/-- A read-only script creates a key. -/
theorem readonly_sort_stores :
    unsorted.slot 0 (ascii "dest") = none ∧
      (run (sortingServer.call true) unsorted [storingCall]).slot 0 (ascii "dest") = some (.new (.list [ascii "1", ascii "2"])) ∧
      ¬ OnlyLapsed unsorted (run (sortingServer.call true) unsorted [storingCall]) := by
  have before : unsorted.slot 0 (ascii "dest") = none := by decide +kernel
  have after : (run (sortingServer.call true) unsorted [storingCall]).slot 0 (ascii "dest") =
      some (.new (.list [ascii "1", ascii "2"])) := by
    decide +kernel
  refine ⟨before, after, ?_⟩
  intro lapsed
  rcases lapsed.slots 0 (ascii "dest") with same | ⟨gone, _⟩
  · exact absurd (after.symm.trans (same.trans before)) nofun
  · exact absurd (after.symm.trans gone) nofun

end Kore.Proofs.ReadonlyScripts
