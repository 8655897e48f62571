import Mathlib.Data.Fintype.Card
import Kore.Redlock.Locking

/-! A current lock is backed by a quorum of keys that its own attempt has set and that outlive
it. Expiry cannot take such a key away, nor can a `SET NX`; only the `DEL` of another release can. -/

namespace Kore.Proofs.LockExclusion
open Foundation Redlock World List Lock
variable {count : Nat} {world : World count}
variable {key : Option LockKey} {attempt deadline : Nat} {client : Bytes} {activity : Activity count}

/-- The key was set by `attempt` and lasts until `deadline`. -/
def Holds (key : Option LockKey) (attempt deadline : Nat) : Prop :=
  ∃ held ∈ key, held.attempt = attempt ∧ deadline ≤ held.expiresAt

section
variable (holds : Holds key attempt deadline)
include holds

theorem Holds.live {now : Nat} (early : now < deadline) : ∃ held, Redlock.live now key = some held ∧ held.attempt = attempt := by
  obtain ⟨held, rfl, same, lasts⟩ := holds
  refine ⟨held, ?_, same⟩
  simp [Redlock.live, Option.filter_some, decide_eq_true (lt_of_lt_of_le early lasts)]

theorem Holds.weaken {earlier : Nat} (before : earlier ≤ deadline) : Holds key attempt earlier := by
  obtain ⟨held, found, same, lasts⟩ := holds
  exact ⟨held, found, same, before.trans lasts⟩

theorem Holds.unique {other later : Nat} (holds' : Holds key other later) : attempt = other := by
  obtain ⟨held, found, rfl, _⟩ := holds
  obtain ⟨held', found', rfl, _⟩ := holds'
  rw [Option.mem_unique found found']

end

def busyWith : Activity count → Option Nat
  | .idle => none
  | .acquiring attempt _ _ _ _ => some attempt
  | .releasing attempt _ _ => some attempt

def acquires : Activity count → Option Nat
  | .acquiring attempt _ _ _ _ => some attempt
  | _ => none

def releases : Activity count → Option Nat
  | .releasing attempt _ _ => some attempt
  | _ => none

/-- The keys counted so far last as long as the time to live, from the start of the attempt on. -/
def Counted (now : Nat) (keys : Fin count → Option LockKey) : Activity count → Prop
  | .acquiring attempt startTime ttlMs instances acquired =>
    startTime ≤ now ∧ (acquired ++ instances).Nodup ∧
      ∀ i ∈ acquired, now < startTime + ttlMs → Holds (keys i) attempt (startTime + ttlMs)
  | _ => True

/-- A quorum of keys lasts longer than the lock. -/
def Backed (keys : Fin count → Option LockKey) (lock : Lock) : Prop :=
  ∃ holders : Finset (Fin count), quorum count ≤ holders.card ∧ ∀ i ∈ holders, Holds (keys i) lock.attempt (lock.expiry + 1)

structure Sound (world : World count) : Prop where
  taken : ∀ client attempt, busyWith (world.activity client) = some attempt → attempt < world.attempts
  issued : ∀ lock ∈ world.locks, lock.attempt < world.attempts
  distinct : world.locks.Pairwise fun lock other => lock.attempt ≠ other.attempt
  unreturned : ∀ client attempt, acquires (world.activity client) = some attempt → ∀ lock ∈ world.locks, lock.attempt ≠ attempt
  alone : ∀ client attempt, acquires (world.activity client) = some attempt →
    ∀ other, busyWith (world.activity other) = some attempt → other = client
  givenUp : ∀ client attempt, releases (world.activity client) = some attempt →
    ∀ lock ∈ world.locks, lock.attempt = attempt → lock.released = true
  counted : ∀ client, Counted world.now world.keys (world.activity client)
  backed : ∀ lock ∈ world.locks, lock.isCurrent world.now = true → Backed world.keys lock

theorem isCurrent_iff {now : Nat} {lock : Lock} : lock.isCurrent now = true ↔ lock.released = false ∧ now ≤ lock.expiry := by
  simp [isCurrent]

/-- Two quorums share a backend, and its key was set by one attempt. -/
theorem Sound.exclusive (sound : Sound world) : world.Exclusive := by
  unfold World.Exclusive
  by_contra many
  have apart := sound.distinct.filter (isCurrent world.now)
  match current : world.locks.filter (isCurrent world.now) with
  | [] | [_] => simp [current] at many
  | lock :: other :: rest =>
    rw [current] at apart
    have first := mem_filter.mp (current ▸ mem_cons_self : lock ∈ world.locks.filter (isCurrent world.now))
    have second := mem_filter.mp
      (current ▸ mem_cons_of_mem _ mem_cons_self : other ∈ world.locks.filter (isCurrent world.now))
    obtain ⟨holders, enough, hold⟩ := sound.backed lock first.1 first.2
    obtain ⟨holders', enough', hold'⟩ := sound.backed other second.1 second.2
    have overlap : (holders ∩ holders').Nonempty := by
      apply Finset.inter_nonempty_of_card_lt_card_add_card (Finset.subset_univ holders) (Finset.subset_univ holders')
      rw [Finset.card_univ, Fintype.card_fin]
      unfold quorum at enough enough'
      omega
    obtain ⟨i, member⟩ := overlap
    obtain ⟨one, two⟩ := Finset.mem_inter.mp member
    exact (pairwise_cons.mp apart).1 other mem_cons_self ((hold i one).unique (hold' i two))

theorem initial_sound : Sound (initial : World count) where
  taken _ _ busy := by cases busy
  issued _ missing := by cases missing
  distinct := List.Pairwise.nil
  unreturned _ _ acquiring := by cases acquiring
  alone _ _ acquiring := by cases acquiring
  givenUp _ _ releasing := by cases releasing
  counted _ := trivial
  backed _ missing := by cases missing

/-- Attempts that still count on their keys: a client is acquiring, or its lock is not released. -/
def Counts (world : World count) (attempt : Nat) : Prop :=
  (∃ client, acquires (world.activity client) = some attempt) ∨ ∃ lock ∈ world.locks, lock.attempt = attempt ∧ lock.released = false

namespace Sound
variable (sound : Sound world)
include sound

/-- A change of keys is harmless when it leaves the unexpired keys of the attempts that count on them. -/
theorem rekey {keys : Fin count → Option LockKey}
    (keeps : ∀ i attempt deadline, Counts world attempt → world.now < deadline → Holds (world.keys i) attempt deadline →
      Holds (keys i) attempt deadline) : Sound { world with keys := keys } := by
  refine ⟨sound.taken, sound.issued, sound.distinct, sound.unreturned, sound.alone, sound.givenUp, ?_, ?_⟩
  · intro client
    have counted := sound.counted client
    have counts : ∀ attempt, acquires (world.activity client) = some attempt → Counts world attempt :=
      fun attempt acquiring => .inl ⟨client, acquiring⟩
    cases activity : world.activity client with
    | idle | releasing => trivial
    | acquiring attempt startTime ttlMs instances acquired =>
      rw [activity] at counted counts
      obtain ⟨started, nodup, held⟩ := counted
      exact ⟨started, nodup, fun i member early => keeps i attempt _ (counts attempt rfl) early (held i member early)⟩
  · intro lock member current
    obtain ⟨holders, enough, hold⟩ := sound.backed lock member current
    obtain ⟨unreleased, valid⟩ := isCurrent_iff.mp current
    refine ⟨holders, enough, fun i holder => ?_⟩
    exact keeps i lock.attempt _ (.inr ⟨lock, member, rfl, unreleased⟩) (Nat.lt_succ_of_le valid) (hold i holder)

theorem become (taken : ∀ attempt, busyWith activity = some attempt → attempt < world.attempts)
    (unreturned : ∀ attempt, acquires activity = some attempt → ∀ lock ∈ world.locks, lock.attempt ≠ attempt)
    (alone : ∀ attempt, acquires activity = some attempt → ∀ other ≠ client, busyWith (world.activity other) ≠ some attempt)
    (apart : ∀ attempt, busyWith activity = some attempt → ∀ other ≠ client, acquires (world.activity other) ≠ some attempt)
    (givenUp : ∀ attempt, releases activity = some attempt → ∀ lock ∈ world.locks, lock.attempt = attempt → lock.released)
    (counted : Counted world.now world.keys activity) : Sound (world.become client activity) := by
  refine ⟨?_, sound.issued, sound.distinct, ?_, ?_, ?_, ?_, sound.backed⟩
  · intro other attempt busy
    by_cases same : other = client
    · rw [same, become_self] at busy
      exact taken attempt busy
    · rw [become_other world activity same] at busy
      exact sound.taken other attempt busy
  · intro other attempt acquiring
    by_cases same : other = client
    · rw [same, become_self] at acquiring
      exact unreturned attempt acquiring
    · rw [become_other world activity same] at acquiring
      exact sound.unreturned other attempt acquiring
  · intro other attempt acquiring third busy
    by_cases same : other = client
    · rw [same, become_self] at acquiring
      by_contra different
      rw [same] at different
      rw [become_other world activity different] at busy
      exact alone attempt acquiring third different busy
    · rw [become_other world activity same] at acquiring
      by_cases own : third = client
      · rw [own, become_self] at busy
        exact (apart attempt busy other same acquiring).elim
      · rw [become_other world activity own] at busy
        exact sound.alone other attempt acquiring third busy
  · intro other attempt releasing
    by_cases same : other = client
    · rw [same, become_self] at releasing
      exact givenUp attempt releasing
    · rw [become_other world activity same] at releasing
      exact sound.givenUp other attempt releasing
  · intro other
    by_cases same : other = client
    · rw [same, become_self]
      exact counted
    · rw [become_other world activity same]
      exact sound.counted other

theorem relock {locks : List Lock}
    (distinct : locks.Pairwise fun lock other => lock.attempt ≠ other.attempt)
    (known : ∀ lock ∈ locks, ∃ before ∈ world.locks, lock.attempt = before.attempt ∧ lock.expiry = before.expiry ∧
      (before.released = true → lock.released = true)) : Sound { world with locks := locks } := by
  refine ⟨sound.taken, ?_, distinct, ?_, sound.alone, ?_, sound.counted, ?_⟩
  · intro lock member
    obtain ⟨before, old, same, _⟩ := known lock member
    rw [same]
    exact sound.issued before old
  · intro client attempt acquiring lock member
    obtain ⟨before, old, same, _⟩ := known lock member
    rw [same]
    exact sound.unreturned client attempt acquiring before old
  · intro client attempt releasing lock member own
    obtain ⟨before, old, same, _, kept⟩ := known lock member
    exact kept (sound.givenUp client attempt releasing before old (same ▸ own))
  · intro lock member current
    obtain ⟨before, old, same, lasts, kept⟩ := known lock member
    obtain ⟨unreleased, valid⟩ := isCurrent_iff.mp current
    have unreleased' : before.released = false := by
      cases released : before.released with
      | false => rfl
      | true => exact absurd (kept released) (by simp [unreleased])
    have backed := sound.backed before old (isCurrent_iff.mpr ⟨unreleased', lasts ▸ valid⟩)
    unfold Backed at backed ⊢
    rw [same, lasts]
    exact backed

theorem wait (ms : Nat) : Sound { world with now := world.now + ms } := by
  refine ⟨sound.taken, sound.issued, sound.distinct, sound.unreturned, sound.alone, sound.givenUp, ?_, ?_⟩
  · intro client
    have counted := sound.counted client
    change Counted (world.now + ms) world.keys (world.activity client)
    cases activity : world.activity client with
    | idle | releasing => trivial
    | acquiring attempt startTime ttlMs instances acquired =>
      rw [activity] at counted
      obtain ⟨started, nodup, held⟩ := counted
      exact ⟨started.trans (Nat.le_add_right _ _), nodup, fun i member early => held i member (by omega)⟩
  · intro lock member current
    obtain ⟨unreleased, valid⟩ := isCurrent_iff.mp current
    exact sound.backed lock member (isCurrent_iff.mpr ⟨unreleased, (Nat.le_add_right _ _).trans valid⟩)

theorem idle (client : Bytes) : Sound (world.become client .idle) :=
  sound.become nofun nofun nofun nofun nofun trivial

/-- A client that goes on with its attempt, and does not acquire again once it releases. -/
theorem proceed (busy : busyWith (world.activity client) = some attempt) (same : busyWith activity = some attempt)
    (acquiring : ∀ other, acquires activity = some other → acquires (world.activity client) = some other)
    (givenUp : ∀ other, releases activity = some other → ∀ lock ∈ world.locks, lock.attempt = other → lock.released)
    (counted : Counted world.now world.keys activity) : Sound (world.become client activity) := by
  apply sound.become
  · intro other now
    cases same.symm.trans now
    exact sound.taken client attempt busy
  · intro other now
    exact sound.unreturned client other (acquiring other now)
  · intro other now third different taken
    exact different (sound.alone client other (acquiring other now) third taken)
  · intro other now third different taken
    cases same.symm.trans now
    exact different (sound.alone third attempt taken client busy).symm
  · exact givenUp
  · exact counted

theorem issue : Sound { world with attempts := world.attempts + 1 } where
  taken client attempt busy := (sound.taken client attempt busy).trans (Nat.lt_succ_self _)
  issued lock member := (sound.issued lock member).trans (Nat.lt_succ_self _)
  distinct := sound.distinct
  unreturned := sound.unreturned
  alone := sound.alone
  givenUp := sound.givenUp
  counted := sound.counted
  backed := sound.backed

end Sound

private theorem busyWith_of_acquires (acquiring : acquires activity = some attempt) :
    busyWith activity = some attempt := by
  cases activity with
  | idle | releasing => cases acquiring
  | acquiring => exact acquiring

section
variable (sound : Sound world)
include sound

theorem Sound.tryLock (client : Bytes) (ttlMs : Nat) :
    Sound { world.become client (.acquiring world.attempts world.now ttlMs (finRange count) []) with
      attempts := world.attempts + 1 } := by
  have unused : ∀ other, busyWith (world.activity other) ≠ some world.attempts :=
    fun other busy => lt_irrefl _ (sound.taken other _ busy)
  have began : Counted world.now world.keys (.acquiring world.attempts world.now ttlMs (finRange count) []) :=
    ⟨le_rfl, nodup_finRange count, nofun⟩
  refine @become count { world with attempts := world.attempts + 1 } client _ sound.issue ?_ ?_ ?_ ?_ nofun began
  · intro attempt busy
    cases busy
    exact Nat.lt_succ_self _
  · intro attempt acquiring lock member same
    cases acquiring
    exact lt_irrefl _ (same ▸ sound.issued lock member)
  · intro attempt acquiring other _
    cases acquiring
    exact unused other
  · intro attempt busy other _ acquiring
    cases busy
    exact unused other (busyWith_of_acquires acquiring)

/-- A successful `SET NX` replaces no key that an attempt still counts on. -/
theorem Sound.setKey {i : Fin count} (absent : (live world.now (world.keys i)).isSome = false) (key : LockKey) :
    Sound (world.setKey i (some key)) := by
  apply sound.rekey
  intro j attempt deadline _ early holds
  by_cases same : j = i
  · obtain ⟨held, present, _⟩ := holds.live early
    rw [same] at present
    rw [present] at absent
    cases absent
  · rwa [Function.update_of_ne same]

theorem Sound.tryAcquire {call : Call} {i : Fin count} {startTime ttlMs : Nat}
    {instances acquired : List (Fin count)} (activity : world.activity client = .acquiring attempt startTime ttlMs (i :: instances) acquired)
    {tried : Bool × World count} (outcome : world.tryAcquire call i ⟨client, world.now + ttlMs, attempt⟩ = tried) :
    Sound (tried.2.become client
      (.acquiring attempt startTime ttlMs instances (if tried.1 then acquired ++ [i] else acquired))) := by
  have counted := sound.counted client
  rw [activity] at counted
  obtain ⟨started, nodup, held⟩ := counted
  have fewer : (acquired ++ instances).Nodup := nodup.sublist ((sublist_cons_self i instances).append_left acquired)
  unfold World.tryAcquire at outcome
  split at outcome
  next =>
    subst outcome
    exact sound.proceed (by rw [activity]; rfl) rfl (fun other now => by rw [activity]; exact now) nofun ⟨started, fewer, held⟩
  next missed =>
    subst outcome
    have absent : (live world.now (world.keys i)).isSome = false := by
      rw [Bool.eq_false_iff]
      exact fun present => missed (.inr present)
    have after := sound.setKey absent ⟨client, world.now + ttlMs, attempt⟩
    have still := after.counted client
    change Counted _ _ (world.activity client) at still
    rw [activity] at still
    refine after.proceed (by change busyWith (world.activity client) = _; rw [activity]; rfl) rfl
      (fun other now => by change acquires (world.activity client) = _; rw [activity]; exact now) nofun ?_
    split
    next =>
      refine ⟨started, by rwa [append_assoc], ?_⟩
      intro j member early
      rcases mem_append.mp member with old | new
      · exact still.2.2 j old early
      · cases mem_singleton.mp new
        exact ⟨_, Function.update_self .., rfl, Nat.add_le_add_right started ttlMs⟩
    next => exact ⟨started, fewer, still.2.2⟩

theorem Sound.addLock {lock : Lock} (issued : lock.attempt < world.attempts)
    (new : ∀ other ∈ world.locks, other.attempt ≠ lock.attempt) (free : ∀ client, busyWith (world.activity client) ≠ some lock.attempt)
    (backed : Backed world.keys lock) : Sound { world with locks := lock :: world.locks } := by
  refine ⟨sound.taken, ?_, ?_, ?_, sound.alone, ?_, sound.counted, ?_⟩
  · exact forall_mem_cons.mpr ⟨issued, sound.issued⟩
  · exact pairwise_cons.mpr ⟨fun other member => (new other member).symm, sound.distinct⟩
  · intro client attempt acquiring
    refine forall_mem_cons.mpr ⟨?_, sound.unreturned client attempt acquiring⟩
    intro same
    exact free client (same ▸ busyWith_of_acquires acquiring)
  · intro client attempt releasing
    refine forall_mem_cons.mpr ⟨?_, sound.givenUp client attempt releasing⟩
    intro same
    refine (free client ?_).elim
    cases activity : world.activity client with
    | idle | acquiring => simp [activity, releases] at releasing
    | releasing => simpa [activity, releases, busyWith, same] using releasing
  · exact forall_mem_cons.mpr ⟨fun _ => backed, sound.backed⟩

end

theorem Sound.conclude (scaled : Nat → Nat) (sound : Sound world) {startTime ttlMs : Nat}
    {acquired : List (Fin count)} (activity : world.activity client = .acquiring attempt startTime ttlMs [] acquired) :
    Sound (world.conclude scaled client attempt startTime ttlMs acquired) := by
  have acquiring : acquires (world.activity client) = some attempt := by rw [activity]; rfl
  have busy := busyWith_of_acquires acquiring
  have counted := sound.counted client
  rw [activity] at counted
  obtain ⟨started, nodup, held⟩ := counted
  rw [append_nil] at nodup
  unfold World.conclude
  dsimp only
  split
  next won =>
    obtain ⟨enough, valid⟩ := won
    refine (sound.idle client).addLock (sound.taken client attempt busy) (sound.unreturned client attempt acquiring) ?_ ?_
    · intro other taken
      by_cases same : other = client
      · rw [same, become_self] at taken
        cases taken
      · rw [become_other world _ same] at taken
        exact same (sound.alone client attempt acquiring other taken)
    · refine ⟨acquired.toFinset, by rwa [toFinset_card_of_nodup nodup], ?_⟩
      intro i member
      refine (held i (mem_toFinset.mp member) (by omega)).weaken ?_
      simp only [expiry]
      omega
  next =>
    refine sound.proceed busy rfl nofun ?_ trivial
    intro other releasing lock member same
    cases releasing
    exact (sound.unreturned client attempt acquiring lock member same).elim

private theorem any_isHandle (owned : world.locks.any (isHandle client attempt)) :
    ∃ lock ∈ world.locks, lock.attempt = attempt := by
  obtain ⟨lock, member, own⟩ := any_eq_true.mp owned
  exact ⟨lock, member, (of_decide_eq_true own).2⟩

/-- Releasing a returned lock, whose handle is given up. -/
private theorem Sound.release (sound : Sound world) {locks : List Lock}
    (returned : ∃ lock ∈ world.locks, lock.attempt = attempt) (after : Sound { world with locks := locks })
    (givenUp : ∀ lock ∈ locks, lock.attempt = attempt → lock.released) (instances : List (Fin count)) :
    Sound { world.become client (.releasing attempt instances false) with locks := locks } := by
  obtain ⟨lock, member, rfl⟩ := returned
  refine @become count { world with locks := locks } client _ after ?_ nofun nofun ?_ ?_ trivial
  · intro attempt busy
    cases busy
    exact sound.issued lock member
  · intro attempt busy other _ acquiring
    cases busy
    exact sound.unreturned other _ acquiring lock member rfl
  · intro attempt releasing
    cases releasing
    exact givenUp

theorem Sound.unlock (sound : Sound world) (owned : world.locks.any (isHandle client attempt)) :
    Sound (world.unlock client attempt) := by
  have attempts : ∀ lock : Lock, (if lock.attempt = attempt then { lock with released := true } else lock).attempt = lock.attempt := by
    intro lock
    split <;> rfl
  refine sound.release (any_isHandle owned) (sound.relock ?_ ?_) ?_ _
  · rw [pairwise_map]
    refine sound.distinct.imp fun {lock other} apart => ?_
    rwa [attempts, attempts]
  · intro lock member
    obtain ⟨before, old, rfl⟩ := mem_map.mp member
    refine ⟨before, old, attempts before, ?_, ?_⟩
    · split <;> rfl
    · intro released
      split
      · rfl
      · exact released
  · intro lock member same
    obtain ⟨before, old, rfl⟩ := mem_map.mp member
    rw [attempts] at same
    rw [if_pos same]

theorem Sound.drop (sound : Sound world) (owned : world.locks.any (isHandle client attempt)) :
    Sound (world.drop client attempt) := by
  refine sound.release (any_isHandle owned) (sound.relock (sound.distinct.filter _) ?_) ?_ _
  · intro lock member
    exact ⟨lock, mem_of_mem_filter member, rfl, rfl, id⟩
  · intro lock member same
    have other : lock.attempt ≠ attempt := of_decide_eq_true (mem_filter.mp member).2
    exact (other same).elim

section releasing
variable {client : Bytes} {attempt : Nat} {i : Fin count} {instances : List (Fin count)} {matched : Bool}
variable (sound : Sound world) (current : world.activity client = .releasing attempt (i :: instances) matched)
include sound current

private theorem Sound.goOn (left : List (Fin count)) (found : Bool) : Sound (world.become client (.releasing attempt left found)) := by
  refine sound.proceed (by rw [current]; rfl) rfl nofun ?_ trivial
  intro other releasing
  cases releasing
  exact sound.givenUp client attempt (by rw [current]; rfl)

theorem Sound.get (call : Call) : Sound (world.get client call attempt i instances) := by
  unfold World.get
  split
  · exact sound.goOn current _ _
  · exact sound.goOn current _ _

theorem Sound.not_counts : ¬ Counts world attempt := by
  rintro (⟨other, acquiring⟩ | ⟨lock, member, same, unreleased⟩)
  · have own := sound.alone other attempt acquiring client (by rw [current]; rfl)
    rw [← own, current] at acquiring
    cases acquiring
  · have released := sound.givenUp client attempt (by rw [current]; rfl) lock member same
    rw [unreleased] at released
    cases released

omit sound current in
theorem Sound.del (sound : Sound world) (current : world.activity client = .releasing attempt (i :: instances) true) {call : Call}
    (own : world.deletesOwn (.del client call)) : Sound (world.del client call attempt i instances) := by
  unfold World.del
  split
  next => exact sound.goOn current _ _
  next reached =>
    have after : Sound (world.setKey i none) := by
      apply sound.rekey
      intro j other deadline counts early holds
      by_cases same : j = i
      · obtain ⟨held, present, set⟩ := holds.live early
        rw [same] at present
        simp only [deletesOwn, current, reached, decide_false, Bool.false_or, present, Option.all_some, decide_eq_true_eq] at own
        rw [← set, own] at counts
        exact (sound.not_counts current counts).elim
      · rwa [Function.update_of_ne same]
    exact @goOn count _ client attempt i instances true after current _ _

end releasing

/-- Every step keeps the locks backed, as long as a `DEL` removes only what its own attempt has set. -/
theorem step_sound (scaled : Nat → Nat) (sound : Sound world) (action : Action) (own : world.deletesOwn action) :
    Sound (world.step scaled action) := by
  cases action with
  | wait ms => exact sound.wait ms
  | tryLock client ttlMs =>
    dsimp only [step]
    split
    · exact sound.tryLock client ttlMs
    · exact sound
  | tryAcquire client call =>
    dsimp only [step]
    split
    next activity => exact sound.tryAcquire activity rfl
    next => exact sound
  | conclude client =>
    dsimp only [step]
    split
    next activity => exact sound.conclude scaled activity
    next => exact sound
  | unlock client attempt =>
    dsimp only [step]
    split
    · split
      next owned => exact sound.unlock owned
      next => exact sound
    · exact sound
  | drop client attempt =>
    dsimp only [step]
    split
    · split
      next owned => exact sound.drop owned
      next => exact sound
    · exact sound
  | get client call =>
    dsimp only [step]
    split
    next activity => exact sound.get activity call
    next => exact sound
  | del client call =>
    dsimp only [step]
    split
    next activity => exact sound.del activity own
    next => exact sound
  | finish client =>
    dsimp only [step]
    split
    · exact sound.idle client
    · exact sound

/-- Whatever the interleaving, locks exclude each other as long as no `DEL` of a release removes a
key that another attempt has set. -/
theorem exclusive_of_own_deletes (scaled : Nat → Nat) (actions : List Action)
    (own : Guarded (step scaled) (fun world action => world.deletesOwn action = true) (initial : World count) actions) :
    (run (step scaled) (initial : World count) actions).Exclusive :=
  (Guarded.invariant (fun _ action sound fits => step_sound scaled sound action fits) own initial_sound).exclusive

/-- One percent of clock drift, rounded down. -/
private def onePercent (ttlMs : Nat) : Nat := ttlMs / 100

private def acquireAll (client : Bytes) : List Action := List.replicate 3 (.tryAcquire client .answered)

private def orderlyHandover : List Action :=
  .tryLock (ascii "a") 10 :: acquireAll (ascii "a") ++ [.conclude (ascii "a"), .drop (ascii "a") 0] ++
    (List.replicate 3 [.get (ascii "a") .answered, .del (ascii "a") .answered]).flatten ++
    .finish (ascii "a") :: .tryLock (ascii "b") 10 :: acquireAll (ascii "b") ++ [.conclude (ascii "b")]

theorem handover_exclusive :
    (run (step onePercent) (initial : World 3) orderlyHandover).locks.length = 1 ∧
      (run (step onePercent) (initial : World 3) orderlyHandover).Exclusive :=
  ⟨by decide +kernel, exclusive_of_own_deletes onePercent orderlyHandover (by decide +kernel)⟩

/-- Whatever the interleaving, as long as no release deletes another attempt's key, every current lock
is the only handle of its attempt, and a quorum of backends hold its key for longer than it lasts. -/
theorem current_locks_backed (scaled : Nat → Nat) (actions : List Action)
    (own : Guarded (step scaled) (fun world action => world.deletesOwn action = true) (initial : World count) actions) :
    let final := run (step scaled) (initial : World count) actions
    (final.locks.map Lock.attempt).Nodup ∧ ∀ lock ∈ final.locks, lock.isCurrent final.now = true → Backed final.keys lock := by
  have sound := Guarded.invariant (fun _ action sound fits => step_sound scaled sound action fits) own initial_sound
  exact ⟨pairwise_map.mpr sound.distinct, sound.backed⟩

theorem handover_backed :
    let final := run (step onePercent) (initial : World 3) orderlyHandover
    final.locks.map (isCurrent final.now) = [true] ∧ ∀ lock ∈ final.locks, lock.isCurrent final.now = true → Backed final.keys lock :=
  ⟨by decide +kernel, (current_locks_backed onePercent orderlyHandover (by decide +kernel)).2⟩

/-- The first client compares its value on the first backend just before the key expires, and
deletes just after the second client has set it. -/
private def lateDelete : List Action :=
  [.tryLock (ascii "a") 10, .tryAcquire (ascii "a") .answered, .tryAcquire (ascii "a") .answered, .wait 5,
    .tryAcquire (ascii "a") .answered, .conclude (ascii "a"), .drop (ascii "a") 0, .wait 4, .get (ascii "a") .answered, .wait 1] ++
    .tryLock (ascii "b") 10 :: acquireAll (ascii "b") ++ [.conclude (ascii "b")] ++
    [.del (ascii "a") .answered, .get (ascii "a") .answered, .get (ascii "a") .answered, .del (ascii "a") .answered, .finish (ascii "a")] ++
    .tryLock (ascii "c") 10 :: acquireAll (ascii "c") ++ [.conclude (ascii "c")]

/-- The third client then holds the lock together with the second, on three backends that lose no call. -/
theorem late_delete_lets_two_hold :
    (run (step onePercent) (initial : World 3) lateDelete).locks =
        [⟨ascii "c", 2, 10, 8, false⟩, ⟨ascii "b", 1, 10, 8, false⟩] ∧
      (run (step onePercent) (initial : World 3) lateDelete).now = 10 ∧
      ¬ (run (step onePercent) (initial : World 3) lateDelete).Exclusive := by
  decide +kernel

end Kore.Proofs.LockExclusion
