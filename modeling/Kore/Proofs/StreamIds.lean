import Kore.Cache.Stream
import Kore.Foundation.Runs

/-! The ids of a stream. No entry lies beyond the last id, and a new entry lies beyond it too,
unless the id is made automatically when the clock stands at or before the last id and the
sequence number has nowhere to go. -/

namespace Kore.Proofs.StreamIds
open Foundation Cache RedisStream OrderedMap

def Capped (stream : RedisStream) : Prop := ∀ id, (stream.entries.lookup id).isSome = true → id ≤ stream.lastGeneratedId

/-- Some of the entries are still there, and nothing else. -/
structure Thinned (before after : RedisStream) : Prop where
  last : after.lastGeneratedId = before.lastGeneratedId
  entries : ∀ id, (after.entries.lookup id).isSome = true → (before.entries.lookup id).isSome = true

variable {id : StreamId}

section thinning
variable {before after stream : RedisStream}

theorem Capped.thin (capped : Capped before) (thinned : Thinned before after) : Capped after := by
  intro id found
  rw [thinned.last]
  exact capped id (thinned.entries id found)

theorem Thinned.refl : Thinned stream stream := ⟨rfl, fun _ found => found⟩

theorem Thinned.fold {α ε : Type} {step : α → ε → α} {view : α → RedisStream} (thins : ∀ state event, Thinned (view state) (view (step state event)))
    (events : List ε) (state : α) : Thinned (view state) (view (events.foldl step state)) := by
  induction events generalizing state with
  | nil => exact .refl
  | cons event events ih =>
    have first := thins state event
    have later := ih (step state event)
    exact ⟨later.last.trans first.last, fun id found => first.entries id (later.entries id found)⟩

private theorem erased {other : StreamId} (found : ((stream.entries.erase id).lookup other).isSome = true) :
    (stream.entries.lookup other).isSome = true := by
  rw [lookup_erase] at found
  split at found
  · cases found
  · exact found

variable {ids : List StreamId} {name : Bytes}

theorem trim_thinned (walk : Walk) : Thinned stream (ids.foldl (removeEntryAndPel walk) stream) := by
  refine @Thinned.fold _ _ _ (fun stream => stream) (fun stream id => ?_) ids stream
  unfold removeEntryAndPel
  split
  · exact ⟨rfl, fun _ => erased⟩
  · exact ⟨rfl, fun _ found => found⟩

theorem xdel_thinned : Thinned stream (stream.xdel ids).1 := by
  refine @Thinned.fold _ _ _ Prod.fst (fun state id => ?_) ids (stream, 0)
  unfold deleteEntry
  split
  · exact .refl
  · exact ⟨rfl, fun _ => erased⟩

theorem onGroup_thinned {α : Type} (operation : ConsumerGroup → ConsumerGroup × α) :
    Thinned stream (stream.settle (stream.onGroup name operation)) := by
  unfold onGroup
  split
  · exact .refl
  · exact ⟨rfl, fun _ found => found⟩

theorem xreadgroup_thinned (now : Nat) (reader idSpec : Bytes) (count : Option Nat) (noack : Bool) :
    Thinned stream (stream.settle (stream.xreadgroupOpts now name reader idSpec count noack)) := by
  unfold xreadgroupOpts
  cases stream.groups.lookup name with
  | none => exact .refl
  | some group =>
    dsimp only
    split
    · exact ⟨rfl, fun _ found => found⟩
    · split
      · exact ⟨rfl, fun _ found => found⟩
      · exact .refl

end thinning

theorem lt_iff {first second : StreamId} :
    first < second ↔ first.ms.toNat < second.ms.toNat ∨ first.ms.toNat = second.ms.toNat ∧ first.seq.toNat < second.seq.toNat :=
  Prod.Lex.toLex_lt_toLex

variable {now : UInt64} {stream : RedisStream}

/-- An automatic id is new unless the clock does not help and the sequence number is at its end. -/
theorem nextAutoId_lt_iff : stream.lastGeneratedId < stream.nextAutoId now.toNat ↔
      ¬(now ≤ stream.lastGeneratedId.ms ∧ stream.lastGeneratedId.seq.toNat = u64Max) := by
  have bound := stream.lastGeneratedId.seq.toNat_lt
  rw [lt_iff, UInt64.le_iff_toNat_le]
  unfold nextAutoId
  split
  next ahead =>
    rw [UInt64.ofNat_toNat]
    simp only
    omega
  next behind =>
    unfold satSucc
    split
    next room =>
      have next : (stream.lastGeneratedId.seq + 1).toNat = stream.lastGeneratedId.seq.toNat + 1 := by
        rw [UInt64.toNat_add, UInt64.toNat_one]
        simp only [u64Max] at room
        omega
      dsimp only
      rw [next]
      omega
    next full =>
      simp only [u64Max] at full ⊢
      omega

theorem nextAutoId_le : stream.lastGeneratedId ≤ stream.nextAutoId now.toNat := by
  rcases lt_or_ge stream.lastGeneratedId (stream.nextAutoId now.toNat) with new | old
  · exact new.le
  · obtain ⟨behind, full⟩ := not_not.mp (mt (nextAutoId_lt_iff).mpr (not_lt.mpr old))
    rw [nextAutoId, if_neg (not_lt.mpr (UInt64.le_iff_toNat_le.mp behind)), satSucc, if_neg (by omega)]

/-- The sequence number of an automatic id cannot grow. -/
def Exhausted (stream : RedisStream) (now : UInt64) (idSpec : Bytes) : Prop :=
  idSpec = ascii "*" ∧ now ≤ stream.lastGeneratedId.ms ∧ stream.lastGeneratedId.seq.toNat = u64Max

variable {added : RedisStream} {idSpec : Bytes} {fields : List (Bytes × Bytes)}

theorem xadd_ok {stream : RedisStream} {now : UInt64} (done : stream.xadd now.toNat idSpec fields = .ok (added, id)) :
    added.entries = stream.entries.insert id fields ∧ added.lastGeneratedId = id ∧ stream.lastGeneratedId ≤ id ∧
      (stream.lastGeneratedId < id ↔ ¬Exhausted stream now idSpec) := by
  unfold xadd at done
  split at done
  next => cases done
  next =>
    split at done
    next automatic =>
      cases done
      refine ⟨rfl, rfl, nextAutoId_le, (nextAutoId_lt_iff).trans ?_⟩
      exact not_congr ⟨fun stuck => ⟨automatic, stuck⟩, And.right⟩
    next explicit =>
      split at done
      next => cases done
      next parsed _ =>
        split at done
        next => cases done
        next =>
          split at done
          next => cases done
          next above =>
            cases done
            have later := not_le.mp above
            exact ⟨rfl, rfl, later.le, iff_of_true later fun stuck => explicit stuck.1⟩

theorem Capped.xadd {stream : RedisStream} (capped : Capped stream) {now : UInt64}
    (done : stream.xadd now.toNat idSpec fields = .ok (added, id)) : Capped added := by
  obtain ⟨entries, last, above, -⟩ := xadd_ok done
  intro other found
  rw [last]
  by_cases same : other = id
  · exact same.le
  · rw [entries, lookup_insert_ne _ same] at found
    exact (capped other found).trans above

theorem xsetid_ok {stream after : RedisStream} {entriesAdded : Option Nat} {maxDeleted : Option StreamId}
    (done : stream.xsetid id entriesAdded maxDeleted = .ok after) :
    (∀ last ∈ stream.entries.lastKey, last ≤ id) ∧ after = { stream with
      lastGeneratedId := id, entriesAdded := entriesAdded.getD stream.entriesAdded,
      maxDeletedEntryId := maxDeleted.getD stream.maxDeletedEntryId } := by
  unfold xsetid at done
  cases found : stream.entries.lastKey with
  | none =>
    simp only [found] at done
    exact ⟨nofun, (Except.ok.inj done).symm⟩
  | some last =>
    simp only [found, decide_eq_true_eq] at done
    split at done
    next above => exact ⟨fun _ same => Option.some.inj same ▸ above, (Except.ok.inj done).symm⟩
    next => cases done

theorem Capped.step {stream : RedisStream} (capped : Capped stream) (op : StreamOp) : Capped (stream.step op) := by
  cases op with
  | xadd now walk idSpec fields maxlen minid limit =>
    simp only [RedisStream.step, RedisStream.xaddWithTrim]
    cases done : stream.xadd now.toNat idSpec fields with
    | error text => exact capped
    | ok added =>
      have grown := capped.xadd done
      cases maxlen with
      | some most => exact grown.thin (trim_thinned walk)
      | none =>
        cases minid with
        | some least => exact grown.thin (trim_thinned walk)
        | none => exact grown
  | trimMaxlen walk most limit | trimMinid walk least limit => exact capped.thin (trim_thinned walk)
  | xdel ids => exact capped.thin (xdel_thinned)
  | groupCreate name id entriesRead =>
    simp only [RedisStream.step, RedisStream.groupCreate]
    split
    · exact capped
    · exact capped
  | groupDestroy name => exact capped
  | groupCreateConsumer now name consumer | groupDelConsumer name consumer => exact capped.thin (onGroup_thinned ..)
  | groupSetid name id entriesRead => exact capped.thin (onGroup_thinned ..)
  | xsetid id entriesAdded maxDeleted =>
    cases done : stream.xsetid id entriesAdded maxDeleted with
    | error text =>
      simp only [RedisStream.step, done]
      exact capped
    | ok after =>
      simp only [RedisStream.step, done]
      obtain ⟨above, rfl⟩ := xsetid_ok done
      intro other found
      obtain ⟨last, largest, below⟩ := le_lastKey found
      exact below.trans (above last largest)
  | xclaim now name consumer ids opts | xautoclaim now name consumer minIdleMs start count justId => exact capped.thin (onGroup_thinned ..)
  | xreadgroup now name consumer idSpec count noack => exact capped.thin (xreadgroup_thinned ..)
  | xack name ids => exact capped.thin (onGroup_thinned ..)
  | importState state =>
    intro other found
    obtain ⟨last, largest, below⟩ := le_lastKey found
    simp only [RedisStream.step, RedisStream.importState] at largest ⊢
    rw [largest]
    exact below.trans (le_max_right ..)

/-- Entries never lie beyond the last id; and an entry that is accepted gets a new last id, a place of its own and
makes the stream one longer, exactly if its id is not an automatic one whose sequence number cannot grow. -/
theorem xadd_advances_iff (ops : List StreamOp) (now : UInt64) (idSpec : Bytes) (fields : List (Bytes × Bytes)) (added : RedisStream)
    (id : StreamId) (done : (run step .new ops).xadd now.toNat idSpec fields = .ok (added, id)) :
    Capped (run step .new ops) ∧ Capped added ∧
      ((run step .new ops).lastGeneratedId < id ∧ (run step .new ops).entries.lookup id = none ∧
          added.entries.size = (run step .new ops).entries.size + 1 ↔
        ¬Exhausted (run step .new ops) now idSpec) := by
  have capped : Capped (run step .new ops) := by
    refine run_invariant Capped (fun stream op capped => capped.step op) ?_ ops
    intro id found
    cases found
  obtain ⟨entries, -, -, advances⟩ := xadd_ok done
  refine ⟨capped, capped.xadd done, fun grown => advances.mp grown.1, fun fresh => ?_⟩
  have later := advances.mpr fresh
  have missing : (run step .new ops).entries.lookup id = none := by
    by_contra found
    exact not_lt.mpr (capped id (Option.isSome_iff_ne_none.mpr found)) later
  refine ⟨later, missing, ?_⟩
  have sizes := size_insert id fields (run step .new ops).entries
  rw [missing] at sizes
  rw [entries]
  exact sizes

/-- A stream that has lost its last entry. -/
def shortened : List StreamOp :=
  [.xadd 9 (fun _ => []) (ascii "*") [(ascii "a", [])] none none none, .xadd 9 (fun _ => []) (ascii "*") [(ascii "b", [])] none none none,
    .xdel [⟨9, 1⟩]]

/-- The clock has been set back, and the id of the entry that was deleted is not used again. -/
theorem xadd_advances_past_deleted :
    (run step .new shortened).entries.entries = [(⟨9, 0⟩, [(ascii "a", [])])] ∧
      ∃ added, (run step .new shortened).xadd (5 : UInt64).toNat (ascii "*") [([], [])] = .ok (added, ⟨9, 2⟩) ∧
        (run step .new shortened).lastGeneratedId < ⟨9, 2⟩ ∧ added.entries.size = (run step .new shortened).entries.size + 1 := by
  refine ⟨by decide +kernel, _, rfl, ?_⟩
  obtain ⟨-, -, advances⟩ := xadd_advances_iff shortened 5 (ascii "*") [([], [])] _ ⟨9, 2⟩ rfl
  obtain ⟨later, -, size⟩ := advances.mpr fun stuck => absurd stuck.2.2 (by decide +kernel)
  exact ⟨later, size⟩

/-- A stream whose last id is the largest of all. -/
def spent : RedisStream :=
  run step .new [.xadd 0 (fun _ => []) (ascii "18446744073709551615-18446744073709551615") [(ascii "a", [])] none none none]

/-- The automatic id is then that of the last entry, which is replaced. -/
theorem xadd_replaces : spent.entries.entries = [(spent.lastGeneratedId, [(ascii "a", [])])] ∧
    ∃ added, spent.xadd (1700000000000 : UInt64).toNat (ascii "*") [(ascii "b", [])] = .ok (added, spent.lastGeneratedId) ∧
      added.entries.entries = [(spent.lastGeneratedId, [(ascii "b", [])])] :=
  ⟨by decide +kernel, _, rfl, by decide +kernel⟩

end Kore.Proofs.StreamIds
