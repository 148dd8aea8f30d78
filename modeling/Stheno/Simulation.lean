import Stheno.Fault

/-!
# Simulations

A view of the states forgets what an abstract machine does not keep.  Where each step of
the code shows as a step of that machine, and faults exactly where the machine has no
step, each run shows as a run of it.
-/

namespace Stheno

variable {σ ε τ δ : Type}

/-- The states of `step` are seen as those of `abstract` through `view`, and the events
through `event`, wherever `sound` holds. -/
structure Simulates (step : σ → ε → Result σ) (abstract : τ → δ → Option τ) (view : σ → τ)
    (event : ε → δ) (sound : σ → Prop) : Prop where
  keeps : ∀ {state e after}, sound state → step state e = .ok after → sound after
  shows : ∀ {state} (e), sound state → abstract (view state) (event e) = (step state e).toOption.map view

variable {step : σ → ε → Result σ} {abstract : τ → δ → Option τ} {view : σ → τ} {event : ε → δ}
  {sound : σ → Prop}

/-- A run of the code shows as a run of the abstract machine. -/
theorem Simulates.run (simulates : Simulates step abstract view event sound) {state : σ}
    (holds : sound state) (events : List ε) :
    (events.map event).foldlM abstract (view state) = (events.foldlM step state).toOption.map view ∧
      ∀ after, events.foldlM step state = .ok after → sound after := by
  induction events generalizing state with
  | nil =>
      constructor
      · rfl
      · rintro after ⟨⟩
        exact holds
  | cons e rest inductionHypothesis =>
      rw [List.map_cons, List.foldlM_cons, List.foldlM_cons, simulates.shows e holds]
      cases done : step state e with
      | error fault =>
          constructor
          · rfl
          · rintro after ⟨⟩
      | ok next => exact inductionHypothesis (simulates.keeps holds done)

end Stheno
