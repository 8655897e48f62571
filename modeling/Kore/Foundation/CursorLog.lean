import Mathlib.Tactic.Common

/-! Logs whose entries belong to a cursor that is only written down when it changes.
A reader replays such a log from a cursor of its own; it attributes the entries as the
writer meant them as long as the two cursors agree where it starts. -/

namespace Kore.Foundation

inductive CursorItem (κ α : Type) where
  | select (cursor : κ)
  | entry (value : α)

namespace CursorLog
variable {κ α : Type}

def cursorAfter (cursor : κ) : List (CursorItem κ α) → κ
  | [] => cursor
  | .select next :: items => cursorAfter next items
  | .entry _ :: items => cursorAfter cursor items

def replay (cursor : κ) : List (CursorItem κ α) → List (κ × α)
  | [] => []
  | .select next :: items => replay next items
  | .entry value :: items => (cursor, value) :: replay cursor items

variable {front back : List (CursorItem κ α)}

theorem cursorAfter_append (cursor : κ) : cursorAfter cursor (front ++ back) = cursorAfter (cursorAfter cursor front) back := by
  induction front generalizing cursor with
  | nil => rfl
  | cons item front ih => cases item <;> exact ih _

theorem replay_append (cursor : κ) : replay cursor (front ++ back) = replay cursor front ++ replay (cursorAfter cursor front) back := by
  induction front generalizing cursor with
  | nil => rfl
  | cons item front ih =>
    cases item with
    | select next => exact ih next
    | entry value => exact congrArg ((cursor, value) :: ·) (ih cursor)

/-- Two readers agree on a log exactly when they start from one cursor, or the log does
not begin with an entry. -/
theorem replay_eq_iff {first second : κ} {items : List (CursorItem κ α)} :
    replay first items = replay second items ↔ first = second ∨ ∀ value rest, items ≠ .entry value :: rest := by
  constructor
  · intro same
    cases items with
    | nil => exact .inr fun _ _ absurd => by cases absurd
    | cons item items =>
      cases item with
      | select next => exact .inr fun _ _ absurd => by cases absurd
      | entry value => exact .inl (congrArg Prod.fst (List.head_eq_of_cons_eq same))
  · rintro (rfl | free)
    · rfl
    · cases items with
      | nil => rfl
      | cons item items =>
        cases item with
        | select next => rfl
        | entry value => exact (free value items rfl).elim

section writer
variable [DecidableEq κ]

/-- A writer that does not know the log's cursor assumes `initial`. -/
def needsSelect (remembered : Option κ) (initial cursor : κ) : Bool :=
  match remembered with
  | some previous => decide (previous ≠ cursor)
  | none => decide (cursor ≠ initial)

def emit (remembered : Option κ) (initial cursor : κ) (value : α) : List (CursorItem κ α) :=
  if needsSelect remembered initial cursor then [.select cursor, .entry value] else [.entry value]

/-- A lazily written entry is attributed to its cursor unless the writer wrongly took the
log's cursor for the initial one. -/
theorem replay_emit {remembered : Option κ} {initial actual cursor : κ} {value : α}
    (known : ∀ previous ∈ remembered, actual = previous)
    (unknown : remembered = none → cursor = initial → actual = initial) :
    replay actual (emit remembered initial cursor value) = [(cursor, value)] ∧
      cursorAfter actual (emit remembered initial cursor value) = cursor := by
  unfold emit
  split
  · exact ⟨rfl, rfl⟩
  next silent =>
    have same : actual = cursor := by
      cases remembered with
      | some previous =>
        have equal : previous = cursor := by simpa [needsSelect] using silent
        exact (known previous rfl).trans equal
      | none =>
        have equal : cursor = initial := by simpa [needsSelect] using silent
        exact (unknown rfl equal).trans equal.symm
    subst same
    exact ⟨rfl, rfl⟩

end writer
end CursorLog
end Kore.Foundation
