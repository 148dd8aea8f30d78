import Mathlib.Data.List.Nodup
import Mathlib.Data.List.Perm.Subperm
import Mathlib.Tactic.Choose

/-!
# Choosing without repetition

Somebody who is asked again and again for a candidate, each time with the keys to be
avoided, gives as many as there are if every answer is avoided from then on.
-/

namespace Stheno

universe u v

variable {α : Type u} {κ : Type v}

/-- Distinct things are at most as many as their owners, if each owns one at most. -/
theorem length_le_of_owners {list : List α} {n : Nat} {owns : Nat → α → Prop}
    (distinct : list.Nodup) (owned : ∀ a ∈ list, ∃ j, j < n ∧ owns j a)
    (one : ∀ j a b, owns j a → owns j b → a = b) : list.length ≤ n := by
  choose! owner isOwner using owned
  have distinctOwners : (list.map owner).Nodup := by
    apply List.Nodup.map_on _ distinct
    intro a isHere b isThere same
    have mine := (isOwner a isHere).2
    rw [same] at mine
    exact one (owner b) a b mine (isOwner b isThere).2
  have few : list.map owner ⊆ List.range n := by
    intro j isOwnerOf
    rcases List.mem_map.mp isOwnerOf with ⟨a, isHere, rfl⟩
    exact List.mem_range.mpr (isOwner a isHere).1
  have lengths := (List.subperm_of_subset distinctOwners few).length_le
  rwa [List.length_map, List.length_range] at lengths

/-- A choice among candidates that never has a key to be avoided and fails only when
all of them do. -/
structure Chooses (key : α → κ) (choose : List κ → Option α) (candidates : List α) : Prop where
  chosen : ∀ {avoided a}, choose avoided = some a → a ∈ candidates ∧ key a ∉ avoided
  exhausted : ∀ {avoided}, choose avoided = none → ∀ a ∈ candidates, key a ∈ avoided

/-- Ask for one candidate after the other, avoiding those before it and one key more. -/
def chooseMany (key : α → κ) (choose : List κ → Option α) (asker : κ) :
    Nat → List α → Option (List α)
  | 0, chosen => some chosen
  | n + 1, chosen =>
      match choose (chosen.map key ++ [asker]) with
      | none => none
      | some a => chooseMany key choose asker n (chosen ++ [a])

/-- Some candidates with distinct keys, none of which is to be avoided. -/
structure Chosen (key : α → κ) (candidates : List α) (asker : κ) (chosen : List α) : Prop where
  distinct : (chosen.map key).Nodup
  other : asker ∉ chosen.map key
  candidate : ∀ a ∈ chosen, a ∈ candidates

namespace Chosen

variable {key : α → κ} {candidates : List α} {asker : κ}

theorem nil : Chosen key candidates asker [] where
  distinct := List.nodup_nil
  other := List.not_mem_nil
  candidate := by
    intro a impossible
    cases impossible

/-- One more answer. -/
theorem snoc {chosen : List α} (held : Chosen key candidates asker chosen) {a : α}
    (candidate : a ∈ candidates) (fresh : key a ∉ chosen.map key ++ [asker]) :
    Chosen key candidates asker (chosen ++ [a]) := by
  rw [List.mem_append, List.mem_singleton, not_or] at fresh
  constructor
  · rw [List.map_append, List.map_singleton, List.nodup_append]
    refine ⟨held.distinct, List.nodup_singleton _, ?_⟩
    intro other member last isLast equal
    rw [equal, List.mem_singleton.mp isLast] at member
    exact fresh.1 member
  · rw [List.map_append, List.mem_append, not_or]
    exact ⟨held.other, fun last => fresh.2 (List.mem_singleton.mp last).symm⟩
  · intro b member
    rcases List.mem_append.mp member with before | last
    · exact held.candidate b before
    · rw [List.mem_singleton.mp last]
      exact candidate

end Chosen

section Many

variable [DecidableEq κ] {key : α → κ} {choose : List κ → Option α} {candidates : List α}
  {asker : κ} (chooses : Chooses key choose candidates)

include chooses

/-- Where the candidates have run out, they were all taken. -/
theorem Chooses.length_le_of_none (distinct : (candidates.map key).Nodup) {chosen : List α}
    (none : choose (chosen.map key ++ [asker]) = none) :
    (candidates.filter fun a => key a ≠ asker).length ≤ chosen.length := by
  have included : (candidates.filter fun a => key a ≠ asker).map key ⊆ chosen.map key := by
    intro k member
    obtain ⟨a, kept, rfl⟩ := List.mem_map.mp member
    obtain ⟨candidate, other⟩ := List.mem_filter.mp kept
    rcases List.mem_append.mp (chooses.exhausted none a candidate) with before | last
    · exact before
    · exact absurd (List.mem_singleton.mp last) (of_decide_eq_true other)
  have subperm := List.subperm_of_subset
    (distinct.sublist (List.filter_sublist.map key)) included
  have lengths := subperm.length_le
  rwa [List.length_map, List.length_map] at lengths

/-- With enough candidates all the rounds succeed. -/
theorem Chooses.exists_chooseMany (distinct : (candidates.map key).Nodup) {n : Nat}
    {chosen : List α} (enough : chosen.length + n ≤ (candidates.filter fun a => key a ≠ asker).length) :
    ∃ all, chooseMany key choose asker n chosen = some all := by
  induction n generalizing chosen with
  | zero => exact ⟨chosen, rfl⟩
  | succ n ih =>
      rw [chooseMany]
      cases answer : choose (chosen.map key ++ [asker]) with
      | none =>
          have short := chooses.length_le_of_none distinct answer
          exact absurd (Nat.le_trans enough short) (by simp)
      | some a =>
          apply ih
          rw [List.length_append, List.length_singleton, Nat.add_assoc, Nat.add_comm 1 n]
          exact enough

omit [DecidableEq κ] in
/-- What rounds that succeed come to. -/
theorem Chooses.of_chooseMany {n : Nat} {chosen all : List α}
    (held : Chosen key candidates asker chosen)
    (chose : chooseMany key choose asker n chosen = some all) :
    Chosen key candidates asker all ∧ chosen ⊆ all ∧ all.length = chosen.length + n := by
  induction n generalizing chosen with
  | zero =>
      cases chose
      exact ⟨held, List.Subset.refl _, rfl⟩
  | succ n ih =>
      rw [chooseMany] at chose
      cases answer : choose (chosen.map key ++ [asker]) with
      | none =>
          rw [answer] at chose
          cases chose
      | some a =>
          rw [answer] at chose
          obtain ⟨candidate, fresh⟩ := chooses.chosen answer
          obtain ⟨good, included, length⟩ := ih (held.snoc candidate fresh) chose
          refine ⟨good, fun b member => included (List.mem_append_left _ member), ?_⟩
          rw [length, List.length_append, List.length_singleton, Nat.add_assoc, Nat.add_comm 1 n]

end Many

end Stheno
