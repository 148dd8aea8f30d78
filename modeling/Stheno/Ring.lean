import Mathlib.Data.List.Rotate

/-!
# Rings of slots

A ring has a fixed number of slots and a position that goes round.  What is put in is
written over the slot at the position, which then moves on, so that the slots read from
the position on are what was put in last, oldest first.
-/

namespace Stheno

variable {α : Type}

/-- The last `limit` elements of a list. -/
def window (limit : Nat) (history : List α) : List α :=
  history.drop (history.length - limit)

@[simp]
theorem length_window (limit : Nat) (history : List α) :
    (window limit history).length = min limit history.length := by
  simp only [window, List.length_drop]
  omega

theorem window_suffix (limit : Nat) (history : List α) : window limit history <:+ history :=
  List.drop_suffix _ history

/-- A short list is its own window. -/
theorem window_eq_self {limit : Nat} {history : List α} (short : history.length ≤ limit) :
    window limit history = history := by
  rw [window, Nat.sub_eq_zero_of_le short, List.drop_zero]

/-- One element more moves a full window on by one. -/
theorem window_concat {limit : Nat} {history : List α} (positive : 0 < limit)
    (full : limit ≤ history.length) (a : α) :
    window limit (history ++ [a]) = (window limit history).tail ++ [a] := by
  have onward : (history ++ [a]).length - limit = history.length - limit + 1 := by
    rw [List.length_append, List.length_singleton]
    omega
  have within : history.length - limit + 1 ≤ history.length := by omega
  rw [window, onward, List.drop_append_of_le_length within, window, List.tail_drop]

/-- Slots that hold the window of what was put in, read from a position on. -/
structure Holds (slots : List α) (position : Nat) (history : List α) : Prop where
  short : slots.length ≤ history.length
  within : position < slots.length
  reads : slots.rotate position = window slots.length history

theorem rotate_set {slots : List α} {position : Nat} (within : position < slots.length) (a : α) :
    (slots.set position a).rotate (position + 1) = (slots.rotate position).tail ++ [a] := by
  have nonempty : slots.drop position ≠ [] := by
    rw [Ne, List.drop_eq_nil_iff]
    omega
  have behind : (slots.set position a).drop (position + 1) = slots.drop (position + 1) :=
    List.drop_set_of_lt (Nat.lt_succ_self position)
  have before : (slots.set position a).take (position + 1) = slots.take position ++ [a] := by
    have inside : position < (slots.set position a).length := by
      rw [List.length_set]
      exact within
    rw [List.take_succ_eq_append_getElem inside, List.getElem_set_self,
      List.take_set_of_le (Nat.le_refl position)]
  rw [List.rotate_eq_drop_append_take (by rw [List.length_set]; exact within),
    List.rotate_eq_drop_append_take within.le, behind, before,
    List.tail_append_of_ne_nil nonempty, List.tail_drop, List.append_assoc]

/-- Slots that were never written hold the window of as many blanks. -/
theorem Holds.blank {limit : Nat} (positive : 0 < limit) (blank : α) :
    Holds (List.replicate limit blank) 0 (List.replicate limit blank) where
  short := Nat.le_refl _
  within := by
    rw [List.length_replicate]
    exact positive
  reads := by
    rw [List.rotate_zero, window_eq_self (Nat.le_refl _)]

/-- A write at the position, which goes round. -/
theorem Holds.put {slots history : List α} {position : Nat} (holds : Holds slots position history)
    (a : α) :
    Holds (slots.set position a) ((position + 1) % slots.length) (history ++ [a]) where
  short := by
    rw [List.length_set, List.length_append]
    exact Nat.le_add_right_of_le holds.short
  within := by
    rw [List.length_set]
    exact Nat.mod_lt _ (Nat.zero_lt_of_lt holds.within)
  reads := by
    have round : (slots.set position a).rotate ((position + 1) % slots.length) =
        (slots.set position a).rotate (position + 1) := by
      rw [← List.rotate_mod (slots.set position a) (position + 1), List.length_set]
    rw [round, rotate_set holds.within, holds.reads, List.length_set,
      window_concat (Nat.zero_lt_of_lt holds.within) holds.short]

/-- Each slot from a number on is read from there to the end, and then on from the start up
to the position. -/
theorem Holds.drop_eq {slots history : List α} {position place : Nat}
    (holds : Holds slots position history) (inside : place < slots.length) :
    (if place < position then (slots.drop place).take (position - place)
      else slots.drop place ++ slots.take position) =
      (window slots.length history).drop
        (if place < position then slots.length - position + place else place - position) := by
  rw [← holds.reads, List.rotate_eq_drop_append_take holds.within.le]
  by_cases before : place < position
  · simp only [if_pos before]
    have passed : (slots.drop position).length ≤ slots.length - position + place := by
      rw [List.length_drop]
      omega
    rw [List.drop_append, List.drop_eq_nil_of_le passed, List.nil_append, List.length_drop,
      Nat.add_sub_cancel_left, List.drop_take]
  · simp only [if_neg before]
    have early : place - position ≤ (slots.drop position).length := by
      rw [List.length_drop]
      omega
    rw [List.drop_append_of_le_length early, List.drop_drop, Nat.add_sub_cancel' (Nat.le_of_not_lt before)]

/-- What is in a slot is in the window where the reading from that slot starts. -/
theorem Holds.getElem?_eq {slots history : List α} {position place : Nat}
    (holds : Holds slots position history) (inside : place < slots.length) :
    slots[place]? = (window slots.length history)[
      (if place < position then slots.length - position + place else place - position)]? := by
  have read := congrArg List.head? (holds.drop_eq inside)
  rw [List.head?_drop] at read
  rw [← read]
  by_cases before : place < position
  · rw [if_pos before, List.head?_take, if_neg (by omega), List.head?_drop]
  · rw [if_neg before, List.head?_append, List.head?_drop, List.getElem?_eq_getElem inside]
    rfl

end Stheno
