import Kore.Foundation.Runs

/-! Interleavings of one process with the events of others, and the reduction argument: if
every event commutes with the steps of the process before it, or with those after it, the
process can be taken to run in one piece. -/

namespace Kore.Foundation

inductive Turn (ε : Type) where
  | own
  | other (event : ε)

namespace Turn
variable {ε : Type}

def owns : List (Turn ε) → Nat
  | [] => 0
  | own :: turns => owns turns + 1
  | other _ :: turns => owns turns

def others : List (Turn ε) → List ε
  | [] => []
  | own :: turns => others turns
  | other event :: turns => event :: others turns

variable {first second : List (Turn ε)}

theorem owns_append : owns (first ++ second) = owns first + owns second := by
  induction first with
  | nil => exact (Nat.zero_add _).symm
  | cons turn turns ih =>
    cases turn with
    | own => simp only [List.cons_append, owns, ih]; omega
    | other event => simpa only [List.cons_append, owns] using ih

theorem others_append : others (first ++ second) = others first ++ others second := by
  induction first with
  | nil => rfl
  | cons turn turns ih =>
    cases turn with
    | own => simpa only [List.cons_append, others] using ih
    | other event => simp [others, ih]

end Turn

open Turn

variable {σ ε : Type} (own : σ → σ) (act : σ → ε → σ)

def interleave (state : σ) : List (Turn ε) → σ
  | [] => state
  | .own :: turns => interleave (own state) turns
  | .other event :: turns => interleave (act state event) turns

/-- Every event could have come before the steps of the process that it follows, `taken` of
which were taken from the given state before the schedule begins. -/
def MovesLeft (state : σ) (taken : Nat) : List (Turn ε) → Prop
  | [] => True
  | .own :: turns => MovesLeft state (taken + 1) turns
  | .other event :: turns => act (own^[taken] state) event = own^[taken] (act state event) ∧ MovesLeft (act state event) taken turns

/-- Every event could have come after the steps of the process that follow it. -/
def MovesRight (state : σ) : List (Turn ε) → Prop
  | [] => True
  | .own :: turns => MovesRight (own state) turns
  | .other event :: turns =>
    own^[owns turns] (act state event) = act (own^[owns turns] state) event ∧ MovesRight (act state event) turns

variable {own act}

theorem interleave_append (state : σ) (first second : List (Turn ε)) :
    interleave own act state (first ++ second) = interleave own act (interleave own act state first) second := by
  induction first generalizing state with
  | nil => rfl
  | cons turn turns ih =>
    cases turn with
    | own => exact ih (own state)
    | other event => exact ih (act state event)

variable {state : σ} {turns : List (Turn ε)}

theorem MovesLeft.interleave_eq {taken : Nat} (moves : MovesLeft own act state taken turns) :
    interleave own act (own^[taken] state) turns = own^[taken + owns turns] (run act state (others turns)) := by
  induction turns generalizing state taken with
  | nil => rfl
  | cons turn turns ih =>
    cases turn with
    | own =>
      have rest := ih moves
      rw [Function.iterate_succ_apply'] at rest
      simp only [interleave, owns, others, rest]
      congr 1
      omega
    | other event =>
      simp only [interleave, owns, others, moves.1]
      exact ih moves.2

theorem MovesRight.interleave_eq (moves : MovesRight own act state turns) :
    interleave own act state turns = run act (own^[owns turns] state) (others turns) := by
  induction turns generalizing state with
  | nil => rfl
  | cons turn turns ih =>
    cases turn with
    | own =>
      simp only [interleave, owns, others, Function.iterate_succ_apply]
      exact ih moves
    | other event =>
      simp only [interleave, owns, others]
      rw [ih moves.2, moves.1]
      rfl

/-- The process runs in one piece at the point where the events stop moving to its left. -/
theorem interleave_reduction {first second : List (Turn ε)} (left : MovesLeft own act state 0 first)
    (right : MovesRight own act (interleave own act state first) second) :
    interleave own act state (first ++ second) =
      run act (own^[owns (first ++ second)] (run act state (others first))) (others second) := by
  rw [interleave_append, right.interleave_eq]
  congr 1
  have moved : interleave own act state first = own^[0 + owns first] (run act state (others first)) := left.interleave_eq
  rw [moved, ← Function.iterate_add_apply, owns_append]
  congr 1
  omega

end Kore.Foundation
