import Mathlib.Data.List.Infix

/-! Runs of a step function, and the induction rule for runs whose every step meets a
condition on the state it starts from. -/

namespace Kore.Foundation
variable {σ ε : Type} (step : σ → ε → σ)
variable {state : σ} {allowed : σ → ε → Prop} {holds : σ → Prop} {events : List ε}

def run (state : σ) (events : List ε) : σ := events.foldl step state

def Guarded (allowed : σ → ε → Prop) : σ → List ε → Prop
  | _, [] => True
  | state, event :: events => allowed state event ∧ Guarded allowed (step state event) events

instance Guarded.decidable (allowed : σ → ε → Prop) [∀ state event, Decidable (allowed state event)] :
    ∀ (state : σ) (events : List ε), Decidable (Guarded step allowed state events)
  | _, [] => isTrue trivial
  | state, event :: events =>
    @instDecidableAnd _ _ _ (Guarded.decidable allowed (step state event) events)

def visits : σ → List ε → List (σ × ε)
  | _, [] => []
  | state, event :: events => (state, event) :: visits (step state event) events

variable {step}

theorem run_invariant (holds : σ → Prop) (keeps : ∀ state event, holds state → holds (step state event))
    (start : holds state) (events : List ε) : holds (run step state events) := by
  induction events generalizing state with
  | nil => exact start
  | cons event events ih => exact ih (keeps state event start)

/-- What holds at the start and is kept by every allowed step holds after the run. -/
theorem Guarded.invariant
    (keeps : ∀ state event, holds state → allowed state event → holds (step state event))
    (guarded : Guarded step allowed state events) (start : holds state) : holds (run step state events) := by
  induction events generalizing state with
  | nil => exact start
  | cons event events ih => exact ih guarded.2 (keeps state event start guarded.1)

/-- What every allowed step tells about its event, under an invariant, holds of every visit. -/
theorem Guarded.forall_visits {tells : σ → ε → Prop}
    (keeps : ∀ state event, holds state → allowed state event → holds (step state event) ∧ tells state event)
    (guarded : Guarded step allowed state events) (start : holds state) :
    ∀ visit ∈ visits step state events, tells visit.1 visit.2 := by
  induction events generalizing state with
  | nil => exact fun visit missing => absurd missing List.not_mem_nil
  | cons event events ih =>
    obtain ⟨kept, told⟩ := keeps state event start guarded.1
    exact List.forall_mem_cons.mpr ⟨told, ih guarded.2 kept⟩

/-- A mark that steps can only set is set after the run just when some step has set it. -/
theorem Guarded.marked_iff {mark : σ → Bool} {sets : σ → ε → Prop}
    (keeps : ∀ state event, holds state → allowed state event →
      holds (step state event) ∧ (mark (step state event) = true ↔ mark state = true ∨ sets state event))
    (guarded : Guarded step allowed state events) (start : holds state) :
    mark (run step state events) = true ↔ mark state = true ∨ ∃ visit ∈ visits step state events, sets visit.1 visit.2 := by
  induction events generalizing state with
  | nil => exact ⟨.inl, fun either => either.elim id fun ⟨_, missing, _⟩ => absurd missing List.not_mem_nil⟩
  | cons event events ih =>
    obtain ⟨kept, marks⟩ := keeps state event start guarded.1
    have later : mark (run step state (event :: events)) = true ↔ _ := ih guarded.2 kept
    rw [later, marks, visits]
    simp [exists_eq_or_imp, or_assoc]

/-- What a step keeps just when it is allowed holds throughout just the runs of allowed steps. -/
theorem Guarded.iff_throughout (holds : σ → Prop)
    (exact : ∀ state event, holds state → (holds (step state event) ↔ allowed state event))
    (start : holds state) (events : List ε) :
    (∀ made, made <+: events → holds (run step state made)) ↔ Guarded step allowed state events := by
  induction events generalizing state with
  | nil => simpa [Guarded, run] using start
  | cons event events ih =>
    constructor
    · intro throughout
      have kept : holds (step state event) := throughout [event] (by simp)
      refine ⟨(exact state event start).mp kept, (ih kept).mp fun made front => ?_⟩
      exact throughout (event :: made) (List.cons_prefix_cons.mpr ⟨rfl, front⟩)
    · intro guarded made front
      rcases List.prefix_cons_iff.mp front with rfl | ⟨rest, rfl, later⟩
      · exact start
      · exact (ih ((exact state event start).mpr guarded.1)).mpr guarded.2 rest later

end Kore.Foundation
