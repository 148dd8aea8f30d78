import Mathlib.Data.List.Infix

/-!
# Packets written in pieces

Packets are handed over in an order and written piece by piece.  What is left of them
lines up behind what is written when writing it next gives all of them in that order.
-/

namespace Stheno.Lineup

variable {α : Type}

/-- What is left to write of a packet, and the position at which it was handed over. -/
structure Block (α : Type) where
  id : Nat
  remaining : List α
  deriving DecidableEq

/-- Each block ends where its packet ends, and the last one where everything ends. -/
def Lined (handed : List (List α)) (written : List α) : List (Block α) → Prop
  | [] => written = handed.flatten
  | block :: rest =>
      block.id < handed.length ∧
        written ++ block.remaining = (handed.take (block.id + 1)).flatten ∧
          Lined handed (written ++ block.remaining) rest

/-- The packet and all before it are written. -/
def Complete (handed : List (List α)) (written : List α) (id : Nat) : Prop :=
  id < handed.length ∧ (handed.take (id + 1)).flatten <+: written

variable {handed : List (List α)} {written : List α} {block : Block α} {blocks : List (Block α)}
  {id : Nat}

theorem Complete.write (complete : Complete handed written id) (more : List α) :
    Complete handed (written ++ more) id :=
  ⟨complete.1, complete.2.trans (List.prefix_append written more)⟩

theorem Complete.hand (complete : Complete handed written id) (packet : List α) :
    Complete (handed ++ [packet]) written id := by
  rcases complete with ⟨within, covered⟩
  constructor
  · rw [List.length_append]
    exact Nat.lt_add_right _ within
  · rw [List.take_append_of_le_length within]
    exact covered

/-- What is written begins what was handed over. -/
theorem Lined.written_prefix (lined : Lined handed written blocks) : written <+: handed.flatten := by
  induction blocks generalizing written with
  | nil =>
      rw [Lined] at lined
      rw [lined]
  | cons block blocks inductionHypothesis =>
      rcases lined with ⟨-, -, later⟩
      exact (List.prefix_append written block.remaining).trans (inductionHypothesis later)

theorem prefix_hand (begins : written <+: handed.flatten) (packet : List α) :
    written <+: (handed ++ [packet]).flatten := by
  rw [List.flatten_append]
  exact begins.trans (List.prefix_append _ _)

/-- A new packet queues up behind the others. -/
theorem Lined.hand (lined : Lined handed written blocks) (packet : List α) :
    Lined (handed ++ [packet]) written (blocks ++ [⟨handed.length, packet⟩]) := by
  induction blocks generalizing written with
  | nil =>
      rw [Lined] at lined
      subst lined
      have whole : (handed ++ [packet]).take (handed.length + 1) = handed ++ [packet] := by
        rw [← List.length_concat, List.concat_eq_append, List.take_length]
      simp [Lined, whole]
  | cons block blocks inductionHypothesis =>
      rcases lined with ⟨within, ends, later⟩
      refine ⟨?_, ?_, inductionHypothesis later⟩
      · rw [List.length_append]
        exact Nat.lt_add_right _ within
      · rw [List.take_append_of_le_length within]
        exact ends

/-- Writing a piece of the first block leaves the rest of it first. -/
theorem Lined.write (lined : Lined handed written (block :: blocks)) (n : Nat) :
    Lined handed (written ++ block.remaining.take n)
      (⟨block.id, block.remaining.drop n⟩ :: blocks) := by
  have joined : written ++ block.remaining.take n ++ block.remaining.drop n =
      written ++ block.remaining := by
    rw [List.append_assoc, List.take_append_drop]
  rcases lined with ⟨within, ends, later⟩
  rw [← joined] at ends later
  exact ⟨within, ends, later⟩

/-- A block with nothing left can be taken away. -/
theorem Lined.finish (lined : Lined handed written (⟨id, []⟩ :: blocks)) :
    Lined handed written blocks := by
  rcases lined with ⟨-, -, later⟩
  rw [List.append_nil] at later
  exact later

theorem Lined.complete (lined : Lined handed written (⟨id, []⟩ :: blocks)) :
    Complete handed written id := by
  rcases lined with ⟨within, ends, -⟩
  rw [List.append_nil] at ends
  rw [ends]
  exact ⟨within, List.prefix_refl _⟩

end Stheno.Lineup
