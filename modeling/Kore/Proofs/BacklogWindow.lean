import Kore.Persistence.Backlog

/-! The backlog is an exact window on the stream that was appended to it, as long as
the stream's length fits its 64-bit offsets. -/

namespace Kore.Proofs.BacklogWindow
open Foundation Persistence List ReplBacklog

variable {stream : Bytes} {backlog : ReplBacklog}

/-- The backlog holds the stream from its start offset on, within its capacity. -/
structure Window (stream : Bytes) (backlog : ReplBacklog) : Prop where
  ends : backlog.endOffset = stream.length
  starts : backlog.startOffset ≤ stream.length
  holds : backlog.buf = stream.drop backlog.startOffset
  fits : backlog.buf.length ≤ backlog.capacity

theorem Window.new (capacity : Nat) : Window [] (new capacity) :=
  ⟨rfl, Nat.le_refl _, rfl, Nat.zero_le _⟩

theorem Window.select (window : Window stream backlog) (db : Option Nat) :
    Window stream { backlog with selectedDb := db } := ⟨window.ends, window.starts, window.holds, window.fits⟩

private theorem trim_window {rounds : Nat} (small : stream.length ≤ u64Max)
    (ends : backlog.endOffset = stream.length) (starts : backlog.startOffset ≤ stream.length)
    (holds : backlog.buf = stream.drop backlog.startOffset) (enough : backlog.buf.length ≤ rounds) :
    Window stream (backlog.trim rounds) := by
  induction rounds generalizing backlog with
  | zero => exact ⟨ends, starts, holds, enough.trans (Nat.zero_le _)⟩
  | succ rounds ih =>
    unfold trim
    split
    next fits => exact ⟨ends, starts, holds, fits⟩
    next beyond =>
      have length : backlog.buf.length = stream.length - backlog.startOffset := by rw [holds, length_drop]
      have progress : 0 < min (max (backlog.capacity / 8) 1) backlog.buf.length := by
        have := backlog.positive
        omega
      have inside : backlog.startOffset + min (max (backlog.capacity / 8) 1) backlog.buf.length ≤ stream.length := by omega
      have moved := satAdd_exact (inside.trans small)
      apply ih
      · exact ends
      · rwa [moved]
      · rw [moved, holds, drop_drop]
      · rw [length_drop]
        omega

private theorem trim_frame (rounds : Nat) (backlog : ReplBacklog) :
    (backlog.trim rounds).selectedDb = backlog.selectedDb ∧ (backlog.trim rounds).endOffset = backlog.endOffset ∧
      (backlog.trim rounds).capacity = backlog.capacity := by
  induction rounds generalizing backlog with
  | zero => exact ⟨rfl, rfl, rfl⟩
  | succ rounds ih =>
    unfold trim
    split
    · exact ⟨rfl, rfl, rfl⟩
    · exact ih _

variable {data : Bytes}

theorem append_selectedDb : (backlog.append data).selectedDb = backlog.selectedDb := by
  unfold append
  split
  · rfl
  · simp only
    split
    · rfl
    · exact (trim_frame _ _).1

theorem append_endOffset (small : backlog.endOffset ≤ u64Max) (data : Bytes) :
    (backlog.append data).endOffset ≤ u64Max := by
  have saturated : satAdd backlog.endOffset data.length ≤ u64Max := min_le_right _ _
  unfold append
  split
  · exact small
  · simp only
    split
    · exact saturated
    · rwa [(trim_frame _ _).2.1]

theorem append_capacity : (backlog.append data).capacity = backlog.capacity := by
  unfold append
  split
  · rfl
  · simp only
    split
    · rfl
    · exact (trim_frame _ _).2.2

section
variable (window : Window stream backlog)
include window

theorem Window.append {data : Bytes} (small : (stream ++ data).length ≤ u64Max) :
    Window (stream ++ data) (backlog.append data) := by
  have length : (stream ++ data).length = stream.length + data.length := length_append
  have ending : satAdd backlog.endOffset data.length = (stream ++ data).length := by
    rw [window.ends, satAdd_exact (by omega), length]
  unfold ReplBacklog.append
  split
  next empty =>
    subst empty
    rw [append_nil]
    exact window
  next nonempty =>
    simp only [ending]
    split
    next oversized =>
      have kept : (data.drop (data.length - backlog.capacity)).length = backlog.capacity := by
        rw [length_drop]
        omega
      refine ⟨rfl, Nat.sub_le _ _, ?_, kept.le⟩
      have tail : (stream ++ data).length - backlog.capacity = stream.length + (data.length - backlog.capacity) := by omega
      simp only [kept]
      rw [tail, drop_append]
      simp
    next fitting =>
      refine trim_window small rfl (by simp only [length]; exact window.starts.trans (Nat.le_add_right _ _)) ?_ (le_rfl)
      simp [window.holds, drop_append_of_le_length window.starts]

/-- A partial resync is served with exactly the stream from the requested offset on. -/
theorem Window.getFrom {offset : Nat} (covered : backlog.canPartial offset) :
    offset ≤ stream.length ∧ backlog.getFrom offset = some (stream.drop offset) := by
  simp only [ReplBacklog.canPartial, Bool.and_eq_true, decide_eq_true_eq] at covered
  obtain ⟨after, before⟩ := covered
  have inside : offset ≤ stream.length := window.ends ▸ before
  have length : backlog.buf.length = stream.length - backlog.startOffset := by rw [window.holds, length_drop]
  refine ⟨inside, ?_⟩
  simp only [ReplBacklog.getFrom, ReplBacklog.canPartial, after, before, decide_true, Bool.and_self, if_true]
  rw [if_neg (by omega), window.holds, drop_drop, Nat.add_sub_cancel' after]

/-- Whatever is appended, the backlog holds the end of it, within its capacity. -/
theorem Window.appends (appended : List Bytes) (small : (stream ++ appended.flatten).length ≤ u64Max) :
    Window (stream ++ appended.flatten) (appended.foldl ReplBacklog.append backlog) ∧
      (appended.foldl ReplBacklog.append backlog).capacity = backlog.capacity := by
  induction appended generalizing stream backlog with
  | nil =>
    rw [flatten_nil, append_nil]
    exact ⟨window, rfl⟩
  | cons data appended ih =>
    rw [flatten_cons, ← append_assoc] at small ⊢
    have first : (stream ++ data).length ≤ u64Max := by
      rw [length_append] at small
      omega
    obtain ⟨later, capacity⟩ := ih (window.append first) small
    exact ⟨later, capacity.trans (append_capacity)⟩

end

/-- The backlog after any appends: its length and offsets, and what it answers for every offset. -/
theorem backlog_exact (capacity : Nat) (positive : 1 ≤ capacity) (appended : List Bytes) (small : appended.flatten.length < 2 ^ 64) :
    let backlog := appended.foldl ReplBacklog.append (.new capacity)
    backlog.buf.length ≤ capacity ∧ backlog.startOffset + backlog.buf.length = backlog.endOffset ∧
      backlog.endOffset = appended.flatten.length ∧
      ∀ offset, backlog.getFrom offset =
        if backlog.startOffset ≤ offset ∧ offset ≤ backlog.endOffset then some (appended.flatten.drop offset) else none := by
  have fits : ([] ++ appended.flatten).length ≤ u64Max := by
    rw [nil_append, u64Max]
    omega
  obtain ⟨window, bound⟩ := (Window.new capacity).appends appended fits
  rw [nil_append] at window
  intro backlog
  have length : backlog.buf.length = appended.flatten.length - backlog.startOffset := by rw [window.holds, length_drop]
  have starts : backlog.startOffset ≤ appended.flatten.length := window.starts
  have ends : backlog.endOffset = appended.flatten.length := window.ends
  refine ⟨?_, by omega, ends, fun offset => ?_⟩
  · have within := window.fits
    rw [bound] at within
    exact within.trans (Nat.max_le.mpr ⟨Nat.le_refl _, positive⟩)
  · split
    next inside =>
      refine (window.getFrom ?_).2
      exact Bool.and_eq_true_iff.mpr ⟨decide_eq_true inside.1, decide_eq_true inside.2⟩
    next outside =>
      refine if_neg ?_
      simp only [ReplBacklog.canPartial, Bool.and_eq_true, decide_eq_true_eq]
      exact outside

theorem backlog_exact_ten : ([[1, 2, 3], [4, 5, 6, 7, 8, 9], [10]].foldl append (.new 4)).buf.length ≤ 4 ∧
    ([[1, 2, 3], [4, 5, 6, 7, 8, 9], [10]].foldl append (.new 4)).getFrom 7 = some [8, 9, 10] := by
  obtain ⟨length, -, -, answers⟩ := backlog_exact 4 (by decide) [[1, 2, 3], [4, 5, 6, 7, 8, 9], [10]] (by decide)
  exact ⟨length, (answers 7).trans (by decide +kernel)⟩

end Kore.Proofs.BacklogWindow
