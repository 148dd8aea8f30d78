import Mathlib.Data.List.Basic
import Stheno.Fault

/-!
# Numbered entries on their way

A log numbers its entries as they come; those that are still pending may leave it in
any order.  The entries from a position on are what a copy taken at that position
lacks, and a replica that makes them one after another catches up with the original.
-/

namespace Stheno

universe u

/-- A log of `count` entries of which some are still pending. -/
structure Backlog (μ : Type u) where
  count : Nat
  pending : List (Nat × μ)
  bounded : ∀ entry ∈ pending, entry.1 < count

namespace Backlog

variable {μ : Type u}

/-- The log without entries. -/
def empty : Backlog μ where
  count := 0
  pending := []
  bounded := by
    intro entry impossible
    cases impossible

/-- The next entry comes. -/
def push (this : Backlog μ) (entry : μ) : Backlog μ where
  count := this.count + 1
  pending := this.pending ++ [(this.count, entry)]
  bounded := by
    intro other member
    rcases List.mem_append.mp member with before | last
    · exact Nat.lt_succ_of_lt (this.bounded other before)
    · rw [List.mem_singleton.mp last]
      exact Nat.lt_succ_self this.count

/-- A pending entry leaves the log. -/
def remove (this : Backlog μ) (i : Nat) : Backlog μ where
  count := this.count
  pending := this.pending.eraseIdx i
  bounded := by
    intro entry member
    exact this.bounded entry (List.mem_of_mem_eraseIdx member)

/-- The pending entries from a position on. -/
def since (this : Backlog μ) (position : Nat) : List (Nat × μ) :=
  this.pending.filter fun entry => position ≤ entry.1

theorem since_count (this : Backlog μ) : this.since this.count = [] := by
  rw [since, List.filter_eq_nil_iff]
  intro entry member
  rw [decide_eq_true_iff, Nat.not_le]
  exact this.bounded entry member

theorem since_push {this : Backlog μ} {position : Nat} (reached : position ≤ this.count)
    (entry : μ) : (this.push entry).since position = this.since position ++ [(this.count, entry)] := by
  have kept : decide (position ≤ (this.count, entry).1) = true := decide_eq_true reached
  rw [since, push, List.filter_append, List.filter_cons, if_pos kept]
  rfl

section Remove

variable {this : Backlog μ} {i position : Nat} {entry : Nat × μ}

theorem pending_split (there : this.pending[i]? = some entry) :
    this.pending = this.pending.take i ++ entry :: this.pending.drop (i + 1) := by
  rcases List.getElem?_eq_some_iff.mp there with ⟨bound, rfl⟩
  rw [← List.drop_eq_getElem_cons bound, List.take_append_drop]

theorem pending_remove (this : Backlog μ) (i : Nat) :
    (this.remove i).pending = this.pending.take i ++ this.pending.drop (i + 1) :=
  List.eraseIdx_eq_take_drop_succ _ _

/-- An entry from before a position is none of those from there on. -/
theorem since_remove_of_lt (there : this.pending[i]? = some entry) (before : entry.1 < position) :
    (this.remove i).since position = this.since position := by
  have skipped : ¬decide (position ≤ entry.1) = true := by
    rw [decide_eq_true_iff]
    exact Nat.not_le.mpr before
  rw [since, since, pending_remove]
  conv_rhs => rw [pending_split there]
  rw [List.filter_append, List.filter_append, List.filter_cons, if_neg skipped]

/-- The first entry from a position on is the first that leaves. -/
theorem since_eq_cons (there : this.pending[i]? = some entry) (reached : position ≤ entry.1)
    (first : ∀ earlier ∈ this.pending.take i, earlier.1 < position) :
    this.since position = entry :: (this.remove i).since position := by
  have skipped : (this.pending.take i).filter (fun entry => position ≤ entry.1) = [] := by
    rw [List.filter_eq_nil_iff]
    intro earlier member
    rw [decide_eq_true_iff, Nat.not_le]
    exact first earlier member
  have kept : decide (position ≤ entry.1) = true := decide_eq_true reached
  rw [since, since, pending_remove]
  conv_lhs => rw [pending_split there]
  rw [List.filter_append, List.filter_append, skipped, List.filter_cons, if_pos kept,
    List.nil_append, List.nil_append]

end Remove

end Backlog

/-! ## Catching up -/

/-- A replica that makes the entries one after another ends in step with the original. -/
def CatchesUp {σ τ μ : Type} (follow : τ → μ → Result τ) (inStep : σ → τ → Prop) (original : σ)
    (replica : τ) (entries : List μ) : Prop :=
  ∃ after, entries.foldlM follow replica = .ok after ∧ inStep original after

namespace CatchesUp

variable {σ τ μ : Type} {follow : τ → μ → Result τ} {inStep : σ → τ → Prop} {original : σ}
  {replica : τ} {entries : List μ}

theorem nil_iff : CatchesUp follow inStep original replica [] ↔ inStep original replica := by
  constructor
  · rintro ⟨after, made, holds⟩
    cases made
    exact holds
  · intro holds
    exact ⟨replica, rfl, holds⟩

/-- The original moves on and the log with it. -/
theorem concat (catchesUp : CatchesUp follow inStep original replica entries) {moved : σ} {entry : μ}
    (simulates : ∀ state, inStep original state →
      ∃ next, follow state entry = .ok next ∧ inStep moved next) :
    CatchesUp follow inStep moved replica (entries ++ [entry]) := by
  rcases catchesUp with ⟨after, made, holds⟩
  rcases simulates after holds with ⟨next, followed, holdsNext⟩
  refine ⟨next, ?_, holdsNext⟩
  rw [List.foldlM_append, made]
  simp only [List.foldlM_cons, List.foldlM_nil, followed, bind, Except.bind]
  rfl

/-- The replica makes the first entry. -/
theorem uncons {entry : μ} (catchesUp : CatchesUp follow inStep original replica (entry :: entries)) :
    ∃ next, follow replica entry = .ok next ∧ CatchesUp follow inStep original next entries := by
  rcases catchesUp with ⟨after, made, holds⟩
  rcases Result.bind_eq_ok.mp made with ⟨next, followed, rest⟩
  exact ⟨next, followed, after, rest, holds⟩

end CatchesUp

end Stheno
