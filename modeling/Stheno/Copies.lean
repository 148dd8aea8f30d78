import Mathlib.Logic.Function.Basic

/-!
# Copies along a chain

A value changes at the bottom of a chain of stations, and each station keeps a copy of
it.  Reports of the changes go up from station to station over channels that keep their
order, and a station makes the change of a report before it passes the report on.  What
is on its way then accounts for the difference between two neighbouring copies.
-/

namespace Stheno

universe u v

variable {σ : Type u} {ρ : Type v}

/-- Reports that lead from one value to another, one after the other. -/
inductive Leads (acts : σ → ρ → σ → Prop) : σ → List ρ → σ → Prop where
  | done (value : σ) : Leads acts value [] value
  | next {first middle last : σ} {report : ρ} {reports : List ρ} (act : acts first report middle)
      (rest : Leads acts middle reports last) : Leads acts first (report :: reports) last

namespace Leads

variable {acts : σ → ρ → σ → Prop} {first middle last : σ} {report : ρ} {reports : List ρ}

theorem snoc (leads : Leads acts first reports middle) (act : acts middle report last) :
    Leads acts first (reports ++ [report]) last := by
  induction leads with
  | done value => exact .next act (.done last)
  | next head _ inductionHypothesis => exact .next head (inductionHypothesis act)

theorem eq_of_nil (leads : Leads acts first [] last) : first = last := by
  cases leads with
  | done => rfl

theorem of_cons (leads : Leads acts first (report :: reports) last) :
    ∃ middle, acts first report middle ∧ Leads acts middle reports last := by
  cases leads with
  | next act rest => exact ⟨_, act, rest⟩

end Leads

/-- Station `i` is `k` or above it; station 0 is the top. -/
inductive Above (parent : Nat → Nat) (i : Nat) : Nat → Prop where
  | here : Above parent i i
  | parent {k : Nat} (positive : 0 < k) (above : Above parent i (parent k)) : Above parent i k

namespace Above

variable {parent : Nat → Nat} {i j k : Nat}

theorem trans (first : Above parent i j) (second : Above parent j k) : Above parent i k := by
  induction second with
  | here => exact first
  | parent positive _ inductionHypothesis => exact .parent positive inductionHypothesis

theorem parent_above (positive : 0 < j) (above : Above parent j k) :
    Above parent (parent j) k :=
  trans (.parent positive .here) above

/-- Two stations of one chain are one above the other. -/
theorem total (first : Above parent i k) (second : Above parent j k) :
    Above parent i j ∨ Above parent j i := by
  induction first with
  | here => exact Or.inr second
  | @parent k positive above inductionHypothesis =>
      cases second with
      | here => exact Or.inl (.parent positive above)
      | parent _ other => exact inductionHypothesis other

section

variable (parent_lt : ∀ k, 0 < k → parent k < k)

include parent_lt

theorem le (above : Above parent i k) : i ≤ k := by
  induction above with
  | here => exact Nat.le_refl _
  | @parent k positive _ inductionHypothesis =>
      exact Nat.le_trans inductionHypothesis (Nat.le_of_lt (parent_lt k positive))

/-- A station of a chain has one station of the chain below it. -/
theorem eq_of_parent_eq (first : Above parent i k) (second : Above parent j k) (positiveI : 0 < i)
    (positiveJ : 0 < j) (same : parent i = parent j) : i = j := by
  rcases total first second with above | above
  · cases above with
    | here => rfl
    | parent _ higher =>
        have less := le parent_lt higher
        rw [← same] at less
        exact absurd (parent_lt i positiveI) (Nat.not_lt.mpr less)
  · cases above with
    | here => rfl
    | parent _ higher =>
        have less := le parent_lt higher
        rw [same] at less
        exact absurd (parent_lt j positiveJ) (Nat.not_lt.mpr less)

end

end Above

/-- The copies on the chain from a station, with what is on its way to each of them. -/
structure Copies (parent : Nat → Nat) (acts : σ → ρ → σ → Prop) (bottom : Nat) (copy : Nat → σ)
    (link : Nat → List ρ) (client : List ρ) (source : σ) : Prop where
  above : ∀ k, 0 < k → Above parent k bottom → Leads acts (copy (parent k)) (link k) (copy k)
  home : Leads acts (copy bottom) client source

namespace Copies

variable {parent : Nat → Nat} {acts : σ → ρ → σ → Prop} {bottom : Nat} {copy : Nat → σ}
  {link later : Nat → List ρ} {client : List ρ} {source value : σ} {report : ρ} {rest : List ρ}
  {k : Nat}

/-- When nothing is on its way, every copy is that of the source. -/
theorem eq_source (copies : Copies parent acts bottom copy link [] source)
    (idle : ∀ k, 0 < k → Above parent k bottom → link k = []) {i : Nat}
    (above : Above parent i bottom) : copy i = source := by
  have lower : ∀ k, Above parent i k → Above parent k bottom → copy i = copy k := by
    intro k higher onChain
    induction higher with
    | here => rfl
    | @parent k positive _ inductionHypothesis =>
        have edge := copies.above k positive onChain
        rw [idle k positive onChain] at edge
        rw [inductionHypothesis (Above.parent_above positive onChain)]
        exact edge.eq_of_nil
  rw [lower bottom above .here]
  exact copies.home.eq_of_nil

/-- The source reports a change. -/
theorem issue (copies : Copies parent acts bottom copy link client source)
    (act : acts source report value) :
    Copies parent acts bottom copy link (client ++ [report]) value where
  above := copies.above
  home := copies.home.snoc act

section

variable (parent_lt : ∀ k, 0 < k → parent k < k)

include parent_lt

/-- A report acts on a copy of the chain, and goes up from there. -/
theorem act (copies : Copies parent acts bottom copy link client source)
    (onChain : Above parent k bottom) (act : acts (copy k) report value)
    (below : ∀ i, 0 < i → Above parent i bottom → parent i = k →
      Leads acts value (later i) (copy i))
    (sent : 0 < k → later k = link k ++ [report])
    (kept : ∀ i, 0 < i → i ≠ k → parent i ≠ k → later i = link i) {left : List ρ} {last : σ}
    (home : if k = bottom then Leads acts value left last else left = client ∧ last = source) :
    Copies parent acts bottom (Function.update copy k value) later left last := by
  constructor
  · intro i positive above
    have apart : parent i ≠ i := Nat.ne_of_lt (parent_lt i positive)
    by_cases under : parent i = k
    · have other : i ≠ k := fun same => apart (under.trans same.symm)
      rw [under, Function.update_self, Function.update_of_ne other]
      exact below i positive above under
    · rw [Function.update_of_ne under]
      by_cases here : i = k
      · subst here
        rw [Function.update_self, sent positive]
        exact (copies.above i positive above).snoc act
      · rw [Function.update_of_ne here, kept i positive here under]
        exact copies.above i positive above
  · split at home
    · rename_i here
      rw [← here, Function.update_self]
      exact home
    · rename_i other
      rw [Function.update_of_ne (Ne.symm other), home.1, home.2]
      exact copies.home

/-- The bottom of the chain handles the next report of the source. -/
theorem arrive (copies : Copies parent acts bottom copy link (report :: rest) source) :
    ∃ value, acts (copy bottom) report value ∧ ∀ later : Nat → List ρ,
      (0 < bottom → later bottom = link bottom ++ [report]) →
      (∀ i, 0 < i → i ≠ bottom → later i = link i) →
        Copies parent acts bottom (Function.update copy bottom value) later rest source := by
  rcases copies.home.of_cons with ⟨value, act, home⟩
  refine ⟨value, act, ?_⟩
  intro later sent kept
  apply copies.act parent_lt .here act _ sent
  · intro i positive other _
    exact kept i positive other
  · rw [if_pos rfl]
    exact home
  · intro i positive above under
    have less := parent_lt i positive
    rw [under] at less
    exact absurd less (Nat.not_lt.mpr (above.le parent_lt))

/-- A station handles the next report of the one below it. -/
theorem deliver (copies : Copies parent acts bottom copy link client source) (positive : 0 < k)
    (above : Above parent k bottom) (head : link k = report :: rest) :
    ∃ value, acts (copy (parent k)) report value ∧ ∀ later : Nat → List ρ, later k = rest →
      (0 < parent k → later (parent k) = link (parent k) ++ [report]) →
      (∀ i, 0 < i → i ≠ k → i ≠ parent k → later i = link i) →
        Copies parent acts bottom (Function.update copy (parent k) value) later client source := by
  have edge := copies.above k positive above
  rw [head] at edge
  rcases edge.of_cons with ⟨value, act, left⟩
  refine ⟨value, act, ?_⟩
  intro later taken sent kept
  apply copies.act parent_lt (Above.parent_above positive above) act _ sent
  · intro i positiveI other under
    apply kept i positiveI _ other
    rintro rfl
    exact under rfl
  · have higher : parent k ≠ bottom := by
      intro same
      have less := above.le parent_lt
      rw [← same] at less
      exact absurd (parent_lt k positive) (Nat.not_lt.mpr less)
    rw [if_neg higher]
    exact ⟨rfl, rfl⟩
  · intro i positiveI aboveI under
    rw [Above.eq_of_parent_eq parent_lt aboveI above positiveI positive under, taken]
    exact left

/-- A report enters at the bottom; the source takes its value, and what it had sent is lost. -/
theorem enter (copies : Copies parent acts bottom copy link client source)
    (act : acts (copy bottom) report value)
    (sent : 0 < bottom → later bottom = link bottom ++ [report])
    (kept : ∀ i, 0 < i → i ≠ bottom → later i = link i) :
    Copies parent acts bottom (Function.update copy bottom value) later [] value := by
  apply copies.act parent_lt .here act _ sent
  · intro i positive other _
    exact kept i positive other
  · rw [if_pos rfl]
    exact .done _
  · intro i positive above under
    have less := parent_lt i positive
    rw [under] at less
    exact absurd less (Nat.not_lt.mpr (above.le parent_lt))

end

end Copies

end Stheno
