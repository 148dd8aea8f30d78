import Mathlib.Data.List.Infix
import Stheno.Fault

/-!
# Every state of a run

A run takes one event after another until a fault ends it.  Where a condition on the
next event decides whether the state after it is good, the states of a run are all
good exactly when every event of it meets the condition.
-/

namespace Stheno

/-- A run of steps, and the condition that each event of it meets where it is taken. -/
structure Runs {σ ε : Type} (step : σ → ε → Result σ) (run : σ → List ε → Result σ)
    (fits : σ → ε → Prop) (allFit : σ → List ε → Prop) : Prop where
  run_nil : ∀ state, run state [] = .ok state
  run_cons : ∀ state event rest,
    run state (event :: rest) = step state event >>= fun after => run after rest
  allFit_nil : ∀ state, allFit state []
  allFit_cons : ∀ state event rest, allFit state (event :: rest) ↔
    ∀ after, step state event = .ok after → fits state event ∧ allFit after rest

variable {σ ε : Type} {step : σ → ε → Result σ} {run : σ → List ε → Result σ}
  {fits : σ → ε → Prop} {allFit : σ → List ε → Prop} {sound good : σ → Prop}

/-- All states of a run are good exactly when all its events fit, where an invariant that
makes a state good is kept by the events that fit. -/
theorem Runs.good_iff (runs : Runs step run fits allFit)
    (keeps : ∀ {state event after}, sound state → fits state event →
      step state event = .ok after → sound after)
    (good_of_sound : ∀ {state}, sound state → good state)
    (fits_of_good : ∀ {state event after}, sound state → step state event = .ok after →
      good after → fits state event)
    {state : σ} {events : List ε} (holds : sound state) :
    (∀ before, before <+: events → ∀ reached, run state before = .ok reached → good reached) ↔
      allFit state events := by
  induction events generalizing state with
  | nil =>
      apply iff_of_true
      · intro before first reached done
        rw [List.prefix_nil.mp first, runs.run_nil] at done
        cases done
        exact good_of_sound holds
      · exact runs.allFit_nil state
  | cons event rest inductionHypothesis =>
      rw [runs.allFit_cons]
      constructor
      · intro always after done
        have next : ∀ before reached, run after before = .ok reached →
            run state (event :: before) = .ok reached := by
          intro before reached later
          rw [runs.run_cons, done]
          exact later
        have goodAfter : good after :=
          always [event] (List.prefix_cons_inj event |>.mpr List.nil_prefix) after
            (next [] after (runs.run_nil after))
        have fitsHere := fits_of_good holds done goodAfter
        constructor
        · exact fitsHere
        · apply (inductionHypothesis (keeps holds fitsHere done)).mp
          intro before first reached later
          exact always (event :: before) (List.prefix_cons_inj event |>.mpr first) reached
            (next before reached later)
      · intro fit before first reached done
        cases before with
        | nil =>
            rw [runs.run_nil] at done
            cases done
            exact good_of_sound holds
        | cons other before =>
            rcases List.cons_prefix_cons.mp first with ⟨rfl, shorter⟩
            rw [runs.run_cons] at done
            rcases Result.bind_eq_ok.mp done with ⟨after, taken, later⟩
            rcases fit after taken with ⟨fitsHere, fitLater⟩
            exact (inductionHypothesis (keeps holds fitsHere taken)).mpr fitLater before shorter
              reached later

/-- All states of a run are good exactly when all its events fit; what every step keeps
may be used to decide one step. -/
theorem Runs.always_iff (runs : Runs step run fits allFit)
    (keeps : ∀ {state event after}, sound state → step state event = .ok after → sound after)
    (decides : ∀ {state event after}, sound state → good state →
      step state event = .ok after → (good after ↔ fits state event))
    {state : σ} {events : List ε} (holds : sound state) (start : good state) :
    (∀ before, before <+: events → ∀ reached, run state before = .ok reached → good reached) ↔
      allFit state events := by
  have both : sound state ∧ good state := ⟨holds, start⟩
  apply @Runs.good_iff σ ε step run fits allFit (fun state => sound state ∧ good state) good runs _ _ _ state events both
  · rintro state event after ⟨here, goodHere⟩ fitsHere done
    exact ⟨keeps here done, (decides here goodHere done).mpr fitsHere⟩
  · rintro state ⟨-, goodHere⟩
    exact goodHere
  · rintro state event after ⟨here, goodHere⟩ done goodAfter
    exact (decides here goodHere done).mp goodAfter

/-! ## Runs without faults -/

/-- A step that has a result everywhere, repeated. -/
theorem Runs.of_total {step : σ → ε → σ} (nil : ∀ state, allFit state [])
    (cons : ∀ state event rest, allFit state (event :: rest) ↔
      fits state event ∧ allFit (step state event) rest) :
    Runs (fun state event => .ok (step state event))
      (fun state events => .ok (events.foldl step state)) fits allFit where
  run_nil _ := rfl
  run_cons _ _ _ := rfl
  allFit_nil := nil
  allFit_cons state event rest := by
    rw [cons]
    constructor
    · rintro fit after ⟨⟩
      exact fit
    · intro fit
      exact fit _ rfl

/-- The states of a run without faults are those of its beginnings. -/
theorem forall_reached_iff {step : σ → ε → σ} {state : σ} {events : List ε} :
    (∀ before, before <+: events → ∀ reached,
        (.ok (before.foldl step state) : Result σ) = .ok reached → good reached) ↔
      ∀ before, before <+: events → good (before.foldl step state) := by
  constructor
  · intro always before first
    exact always before first _ rfl
  · rintro always before first reached ⟨⟩
    exact always before first

end Stheno
