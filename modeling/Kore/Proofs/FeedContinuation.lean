import Kore.Persistence.FeedOrder
import Kore.Proofs.BacklogWindow

/-! What a replica receives that continues: the history of its answer, the publications queued
on its feed, and what publishers have appended but not sent yet make up the stream from its
offset on, in every interleaving of publishers and attaching replicas. The probes that stand
between the publications are on no stream. -/

namespace Kore.Proofs.FeedContinuation
open Foundation Protocol Persistence BacklogWindow List FeedOrder Option

variable {R : Type} {state : FeedOrder R}

/-- The feed without its probes. -/
def published (state : FeedOrder R) (name : R) : List Bytes := (state.feed name).filterMap FeedMessage.published

/-- What has been appended and is still to be sent, in that order. -/
def due (state : FeedOrder R) : List Bytes :=
  state.sending.toList ++ match state.holder with
    | some (.publisher data) => [data]
    | _ => []

/-- A feed that was registered after `front` was published and has had `rest` since, or will have it. -/
structure Fed (state : FeedOrder R) (name : R) (front rest : List Bytes) : Prop where
  whole : state.publications = front ++ rest
  queued : published state name ++ due state = rest
  continued : ∀ offset history, state.origin name = some (.continued offset history) →
    offset ≤ front.flatten.length ∧ history = front.flatten.drop offset

structure Sound (state : FeedOrder R) : Prop where
  window : Window state.stream state.backlog
  counted : state.connectedReplicas = state.replicas.length
  unknown : ∀ name, state.origin name = none → name ∉ state.replicas ∧ state.feed name = []
  asked : ∀ name offset history, state.holder = some (.replica name offset history) →
    offset ≤ state.stream.length ∧ history = state.stream.drop offset
  fed : ∀ name ∈ state.replicas, ∃ front rest, Fed state name front rest

theorem Sound.start (capacity : Nat) : Sound (.start capacity : FeedOrder R) :=
  ⟨.new capacity, rfl, fun _ _ => ⟨not_mem_nil, rfl⟩, nofun, nofun⟩

theorem Sound.nobody (sound : Sound state) (alone : state.connectedReplicas = 0) : state.replicas = [] :=
  eq_nil_of_length_eq_zero (sound.counted ▸ alone)

theorem Sound.relock (sound : Sound state) {holder : Option (BacklogHolder R)} {sending : Option Bytes}
    (same : due { state with holder := holder, sending := sending } = due state)
    (asked : ∀ name offset history, holder = some (.replica name offset history) →
      offset ≤ state.stream.length ∧ history = state.stream.drop offset) :
    Sound { state with holder := holder, sending := sending } := by
  refine ⟨sound.window, sound.counted, sound.unknown, asked, fun name member => ?_⟩
  obtain ⟨front, rest, fed⟩ := sound.fed name member
  refine ⟨front, rest, fed.whole, ?_, fed.continued⟩
  rw [same]
  exact fed.queued

theorem Sound.publish (sound : Sound state) (free : state.holder = none) (db : Option Nat) (raw : Bytes)
    (small : (state.publish db raw).stream.length ≤ u64Max) : Sound (state.publish db raw) := by
  have selected : Window state.stream (FeedOrder.payload state.backlog raw db).1 := by
    cases db with
    | none => exact sound.window
    | some db => exact sound.window.select _
  have stream : (state.publish db raw).stream = state.stream ++ (FeedOrder.payload state.backlog raw db).2 := by
    simp [FeedOrder.stream, FeedOrder.publish]
  refine ⟨?_, sound.counted, sound.unknown, fun name offset history => ?_, fun name member => ?_⟩
  · rw [stream] at small ⊢
    exact selected.append small
  · simp only [FeedOrder.publish]
    split <;> nofun
  · obtain ⟨front, rest, fed⟩ := sound.fed name member
    have some : state.connectedReplicas ≠ 0 := by
      intro alone
      rw [FeedOrder.publish, sound.nobody alone] at member
      cases member
    refine ⟨front, rest ++ [(FeedOrder.payload state.backlog raw db).2], ?_, ?_, fed.continued⟩
    · simp [FeedOrder.publish, fed.whole]
    · have queued := fed.queued
      simp only [due, published, free, append_nil, FeedOrder.publish, if_neg some] at queued ⊢
      rw [← queued, append_assoc]

variable [DecidableEq R]

theorem Sound.attach (sound : Sound state) {name : R} (fresh : state.origin name = none) (quiet : due state = []) {origin : FeedOrigin}
    (continued : ∀ offset history, origin = .continued offset history → offset ≤ state.stream.length ∧ history = state.stream.drop offset) :
    Sound (state.attach name origin) := by
  have others {other : R} (different : other ≠ name) : (state.attach name origin).origin other = state.origin other :=
    Function.update_of_ne different _ _
  have here : (state.attach name origin).origin name = some origin := Function.update_self ..
  obtain ⟨absent, silent⟩ := sound.unknown name fresh
  have still : due (state.attach name origin) = due state := rfl
  refine ⟨sound.window, ?_, fun other none => ?_, sound.asked, fun other member => ?_⟩
  · simp [FeedOrder.attach, sound.counted]
  · have different : other ≠ name := by
      rintro rfl
      cases here.symm.trans none
    rw [others different] at none
    obtain ⟨missing, empty⟩ := sound.unknown other none
    refine ⟨fun member => ?_, empty⟩
    exact missing ((mem_append.mp member).resolve_right fun here => different (mem_singleton.mp here))
  · by_cases same : other = name
    · subst same
      refine ⟨state.publications, [], (append_nil _).symm, ?_, fun offset history known => ?_⟩
      · rw [still, quiet, published]
        simp [FeedOrder.attach, silent]
      · exact continued offset history (some.inj (here.symm.trans known))
    · have old := (mem_append.mp member).resolve_right fun here => same (mem_singleton.mp here)
      obtain ⟨front, rest, fed⟩ := sound.fed other old
      exact ⟨front, rest, fed.whole, fed.queued, fun offset history known => fed.continued offset history ((others same).symm.trans known)⟩

theorem Sound.fanout (sound : Sound state) {data : Bytes} (sends : state.sending = some data) (refused : R → Bool) :
    Sound { state.fanout refused data with sending := none } := by
  refine ⟨sound.window, rfl, fun name none => ?_, sound.asked, fun name member => ?_⟩
  · obtain ⟨absent, silent⟩ := sound.unknown name none
    have dropped : name ∉ state.replicas.filter fun name => !refused name := fun member => absent (mem_filter.mp member).1
    exact ⟨dropped, (if_neg dropped).trans silent⟩
  · obtain ⟨front, rest, fed⟩ := sound.fed name (mem_filter.mp member).1
    have gets : (state.fanout refused data).feed name = state.feed name ++ [.publication data] := if_pos member
    refine ⟨front, rest, fed.whole, ?_, fed.continued⟩
    have queued := fed.queued
    simp only [due, published, sends, toList_some, toList_none, nil_append] at queued ⊢
    rw [gets, filterMap_append, append_assoc]
    exact queued

theorem Sound.probe (sound : Sound state) (matched refused : R → Bool) : Sound (state.sendGetackProbeToFeeds matched refused) := by
  refine ⟨sound.window, sound.counted, fun name none => ?_, sound.asked, fun name member => ?_⟩
  · obtain ⟨absent, silent⟩ := sound.unknown name none
    exact ⟨absent, (if_neg fun reached => absent reached.1).trans silent⟩
  · obtain ⟨front, rest, fed⟩ := sound.fed name member
    refine ⟨front, rest, fed.whole, ?_, fed.continued⟩
    have same : published (state.sendGetackProbeToFeeds matched refused) name = published state name := by
      simp only [published, sendGetackProbeToFeeds]
      split
      · rw [filterMap_append]
        exact append_nil _
      · rfl
    rw [same]
    exact fed.queued

theorem Sound.step (sound : Sound state) (event : FeedEvent R) (small : (state.step event).stream.length ≤ u64Max) : Sound (state.step event) := by
  cases event with
  | publish db raw =>
    simp only [FeedOrder.step] at small ⊢
    split
    next free =>
      rw [if_pos free] at small
      exact sound.publish (isNone_iff_eq_none.mp free.1) db raw small
    next => exact sound
  | request name offset =>
    simp only [FeedOrder.step]
    split
    next history free fresh found =>
      refine @Sound.relock _ state sound _ state.sending (by simp only [due, free]) fun other place past same => ?_
      cases same
      have covered : state.backlog.canPartial offset := by
        by_contra outside
        rw [ReplBacklog.getFrom, if_neg outside] at found
        cases found
      obtain ⟨inside, answer⟩ := sound.window.getFrom covered
      exact ⟨inside, some.inj (found.symm.trans answer)⟩
    next => exact sound
  | order =>
    simp only [FeedOrder.step]
    split
    next data held idle => exact sound.relock (by simp only [due, held, idle]; rfl) (by rintro _ _ _ ⟨⟩)
    next name offset history held idle =>
      have quiet : due state = [] := by simp only [due, held, idle]; rfl
      split
      next fresh =>
        have attached := @Sound.attach _ _ _ sound name fresh quiet (.continued offset history) fun place past same => by
          cases same
          exact sound.asked name offset history held
        exact attached.relock (by simp only [due, FeedOrder.attach, held]) (by rintro _ _ _ ⟨⟩)
      next => exact sound.relock (by simp only [due, held]) (by rintro _ _ _ ⟨⟩)
    next => exact sound
  | fanout refused =>
    simp only [FeedOrder.step]
    split
    next data sends =>
      split
      next alone =>
        have nobody := sound.nobody alone
        refine ⟨sound.window, sound.counted, sound.unknown, sound.asked, fun name member => ?_⟩
        rw [nobody] at member
        cases member
      next => exact sound.fanout sends refused
    next => exact sound
  | register name =>
    simp only [FeedOrder.step]
    split
    · exact sound
    · exact sound
    · exact sound
    next idle fresh free =>
      refine sound.attach fresh ?_ (by rintro _ _ ⟨⟩)
      cases held : state.holder with
      | none => simp [due, held, idle]
      | some holder =>
        cases holder with
        | publisher data => exact absurd held (free data)
        | replica other offset history => simp [due, held, idle]
  | probe matched refused => exact sound.probe matched refused

theorem stream_grows (event : FeedEvent R) : ∃ more, (state.step event).stream = state.stream ++ more := by
  cases event with
  | publish db raw =>
    simp only [step]
    split
    · exact ⟨_, flatten_append⟩
    · exact ⟨[], (append_nil _).symm⟩
  | request name offset | register name =>
    simp only [step]
    split <;> exact ⟨[], (append_nil _).symm⟩
  | order | fanout refused =>
    simp only [step]
    repeat' split
    all_goals exact ⟨[], (append_nil _).symm⟩
  | probe matched refused => exact ⟨[], (append_nil _).symm⟩

theorem Sound.run (sound : Sound state) (events : List (FeedEvent R)) (small : (run FeedOrder.step state events).stream.length ≤ u64Max) :
    Sound (run FeedOrder.step state events) := by
  have grows (events : List (FeedEvent R)) (state : FeedOrder R) :
      state.stream.length ≤ (Foundation.run FeedOrder.step state events).stream.length := by
    refine run_invariant (fun later : FeedOrder R => state.stream.length ≤ later.stream.length) (fun later event below => ?_) le_rfl events
    obtain ⟨more, grown⟩ := stream_grows event
    rw [grown, length_append]
    omega
  induction events generalizing state with
  | nil => exact sound
  | cons event events ih => exact ih (sound.step event ((grows events _).trans small)) small

/-- A publisher that is overtaken by a partial resync between its append and its fan-out, and a probe between two publications. -/
def overtaken : List (FeedEvent Nat) :=
  [.register 0, .publish (some 0) [1, 2], .order, .request 1 1, .fanout fun _ => false, .order, .publish (some 0) [3], .order,
    .fanout fun _ => false, .probe (fun _ => true) fun _ => false, .publish (some 0) [4], .order, .fanout fun _ => false]

end Kore.Proofs.FeedContinuation
