import Mathlib.Algebra.Group.Nat.Defs
import Kore.Commands.PubSub

/-! The sizes kept for a subscriber against the messages that it has not read. Publishing
drops the size of every message that is overwritten, and the report of a lag drops as many
sizes once more. -/

namespace Kore.Proofs.PendingSizes
open Foundation Commands List Feed

theorem makeRoom_eq (capacity : Nat) (sizes : List Nat) :
    makeRoom capacity sizes = sizes.drop (sizes.length + 1 - capacity) := by
  induction sizes with
  | nil => simp [makeRoom]
  | cons size sizes ih =>
    rw [makeRoom]
    split
    next full =>
      rw [length_cons] at full ⊢
      rw [ih, show sizes.length + 1 + 1 - capacity = sizes.length + 1 - capacity + 1 by omega, drop_succ_cons]
    next short => rw [show (size :: sizes).length + 1 - capacity = 0 by omega, drop_zero]

variable {capacity : Nat} {feed : Feed} (positive : 0 < capacity) (exact : feed.pending = feed.unread capacity)
include positive exact

theorem publish_exact (size : Nat) : (feed.publish capacity size).pending = (feed.publish capacity size).unread capacity := by
  have bounded := feed.bounded
  set start := max feed.cursor ((feed.sent ++ [size]).length - capacity) with cut
  have full : max feed.cursor (feed.oldest capacity) + (feed.sent.length - max feed.cursor (feed.oldest capacity) + 1 - capacity) = start := by
    rw [cut, oldest, length_append, length_singleton]
    omega
  have within : start ≤ feed.sent.length := by
    rw [cut, length_append, length_singleton]
    omega
  calc makeRoom capacity feed.pending ++ [size] = feed.sent.drop start ++ [size] := by
        rw [makeRoom_eq, exact, unread, drop_drop, length_drop, full]
    _ = (feed.sent ++ [size]).drop start := by rw [drop_append_of_le_length within]

theorem receive_exact_iff :
    (feed.receive capacity).pending = (feed.receive capacity).unread capacity ↔ feed.oldest capacity ≤ feed.cursor := by
  unfold receive recv
  split
  next lost =>
    -- the ring is full of unread messages, of which the report takes some away
    have left : (feed.unread capacity).length = capacity := by
      rw [unread, length_drop]
      unfold oldest at lost ⊢
      omega
    refine iff_of_false (fun same => ?_) (not_le.mpr lost)
    have lengths := congrArg length same
    dsimp only [note] at lengths
    rw [exact, noteLagged, length_drop, left, unread, length_drop] at lengths
    unfold oldest at lost lengths
    dsimp only at lengths
    omega
  next kept =>
    refine iff_of_true ?_ (not_lt.mp kept)
    split
    next =>
      have here : max feed.cursor (feed.oldest capacity) = feed.cursor := max_eq_left (not_lt.mp kept)
      have next : max (feed.cursor + 1) (feed.oldest capacity) = feed.cursor + 1 := max_eq_left (by omega)
      change feed.pending.tail = feed.sent.drop (max (feed.cursor + 1) (feed.oldest capacity))
      rw [exact, unread, here, next, tail_drop]
    next => exact exact

omit positive exact

/-- Between the two sections of a publish or a receive the feed is where the first section has left it. -/
inductive Halfway (capacity : Nat) (state : FeedSections) : Prop
  | settled (still : state.Settled) (exact : state.feed.pending = state.feed.unread capacity)
  | sending {feed : Feed} {size : Nat} (exact : feed.pending = feed.unread capacity) (sent : state = ⟨feed.send size, [size], none⟩)
  | noting {feed : Feed} (exact : feed.pending = feed.unread capacity) (keeps : feed.oldest capacity ≤ feed.cursor)
      (received : state = ⟨(feed.recv capacity).1, [], some (feed.recv capacity).2⟩)

private theorem Halfway.step (positive : 0 < capacity) {state : FeedSections} (event : SectionEvent) (half : Halfway capacity state)
    (apart : state.Apart capacity event) : Halfway capacity (state.step capacity event) := by
  cases event with
  | send size =>
    cases half with
    | settled still exact =>
      obtain ⟨feed, sending, noting⟩ := state
      obtain ⟨rfl, rfl⟩ : sending = [] ∧ noting = none := still
      exact .sending exact rfl
    | sending exact sent => subst sent; exact absurd apart.1 (cons_ne_nil _ _)
    | noting exact keeps received => subst received; exact absurd apart.2 (Option.some_ne_none _)
  | account index =>
    cases half with
    | settled still exact =>
      rw [FeedSections.step, still.1, getElem?_nil]
      exact .settled still exact
    | sending exact sent =>
      subst sent
      cases index with
      | zero => exact .settled ⟨rfl, rfl⟩ (publish_exact positive exact _)
      | succ index => exact .sending exact rfl
    | noting exact keeps received => subst received; exact .noting exact keeps rfl
  | recv =>
    cases half with
    | settled still exact =>
      obtain ⟨feed, sending, noting⟩ := state
      obtain ⟨rfl, rfl⟩ : sending = [] ∧ noting = none := still
      exact .noting exact apart.2 rfl
    | sending exact sent => subst sent; exact absurd apart.1.1 (cons_ne_nil _ _)
    | noting exact keeps received => subst received; exact absurd apart.1.2 (Option.some_ne_none _)
  | note =>
    cases half with
    | settled still exact =>
      rw [FeedSections.step, still.2]
      exact .settled still exact
    | sending exact sent => subst sent; exact .sending exact rfl
    | noting exact keeps received =>
      subst received
      exact .settled ⟨rfl, rfl⟩ ((receive_exact_iff positive exact).mpr keeps)

/-- The sizes kept for a client are those of its unread messages in every state of a run just
when no receive of the run finds an unread message overwritten. Section by section they are so
whenever nothing is under way, if besides no publish or receive begins inside another one. -/
theorem pending_exact_iff (exponent : Nat) (events : List FeedEvent) :
    ((∀ made, made <+: events → (run (step (2 ^ exponent)) new made).pending =
      (run (step (2 ^ exponent)) new made).unread (2 ^ exponent)) ↔
      Guarded (step (2 ^ exponent)) (Feed.KeepsUp (2 ^ exponent)) new events) ∧
    ∀ sections, Guarded (FeedSections.step (2 ^ exponent)) (FeedSections.Apart (2 ^ exponent)) .new sections →
      (run (FeedSections.step (2 ^ exponent)) .new sections).Settled →
        (run (FeedSections.step (2 ^ exponent)) .new sections).feed.pending =
          (run (FeedSections.step (2 ^ exponent)) .new sections).feed.unread (2 ^ exponent) := by
  have positive := Nat.two_pow_pos exponent
  refine ⟨Guarded.iff_throughout (fun feed : Feed => feed.pending = feed.unread (2 ^ exponent)) ?_ drop_nil.symm events, ?_⟩
  · intro feed event exact
    cases event with
    | publish size => exact iff_of_true (publish_exact positive exact size) trivial
    | receive => exact receive_exact_iff positive exact
  · intro sections apart still
    have half := apart.invariant (fun state event => Halfway.step positive event) (.settled ⟨rfl, rfl⟩ drop_nil.symm)
    cases half with
    | settled _ exact => exact exact
    | sending _ sent => rw [sent] at still; exact absurd still.1 (cons_ne_nil _ _)
    | noting _ _ received => rw [received] at still; exact absurd still.2 (Option.some_ne_none _)

/-- A buffer of one message, two messages, and the report that one of them is lost: the other
is still to be read, but its size is gone. And a message that is read before it is accounted for
leaves its size behind. -/
theorem unread_size_dropped :
    ((run (step (2 ^ 0)) new [.publish 3, .publish 5, .receive]).pending = [] ∧
      (run (step (2 ^ 0)) new [.publish 3, .publish 5, .receive]).unread (2 ^ 0) = [5]) ∧
    (run (FeedSections.step (2 ^ 0)) .new [.send 3, .recv, .note, .account 0]).feed.pending = [3] ∧
      (run (FeedSections.step (2 ^ 0)) .new [.send 3, .recv, .note, .account 0]).feed.unread (2 ^ 0) = [] := by
  decide

end Kore.Proofs.PendingSizes
