import Mathlib.Algebra.BigOperators.Group.Finset.Basic
import Mathlib.Algebra.Order.BigOperators.Group.Finset

/-!
# Balanced queues

Some messages open something that others close.  `Balanced` says that whatever a
queue opens it closes again behind it, except for `credit` openings.  A station that
reads several queues counts what all of them carry.
-/

namespace Stheno.Queue

open scoped BigOperators

variable {M : Type}

section Balanced

variable (opens closes : M → Bool)

/-- Every opening is closed behind it, up to `credit` of them. -/
def Balanced (credit : Nat) : List M → Prop
  | [] => True
  | m :: rest =>
      (m :: rest).countP opens ≤ (m :: rest).countP closes + credit ∧ Balanced credit rest

variable {opens closes} {credit more : Nat} {m : M} {queue : List M}

theorem Balanced.le (balanced : Balanced opens closes credit queue) :
    queue.countP opens ≤ queue.countP closes + credit := by
  cases queue with
  | nil => exact Nat.zero_le _
  | cons m rest => exact balanced.1

/-- The first message may be taken. -/
theorem Balanced.pop (balanced : Balanced opens closes credit (m :: queue)) :
    Balanced opens closes credit queue :=
  balanced.2

theorem Balanced.mono (balanced : Balanced opens closes credit queue) (le : credit ≤ more) :
    Balanced opens closes more queue := by
  induction queue with
  | nil => trivial
  | cons m rest ih =>
      constructor
      · exact Nat.le_trans balanced.1 (Nat.add_le_add_left le _)
      · exact ih balanced.2

/-- An opening at the end costs one credit, a closing returns one. -/
theorem Balanced.push (balanced : Balanced opens closes credit queue)
    (enough : (if opens m then 1 else 0) + credit ≤ (if closes m then 1 else 0) + more)
    (alone : (if opens m then 1 else 0) ≤ (if closes m then 1 else 0) + more) :
    Balanced opens closes more (queue ++ [m]) := by
  induction queue with
  | nil =>
      refine ⟨?_, trivial⟩
      rw [List.countP_singleton, List.countP_singleton]
      exact alone
  | cons first rest ih =>
      refine ⟨?_, ih balanced.2⟩
      have total := balanced.le
      have opened : (first :: (rest ++ [m])).countP opens =
          (first :: rest).countP opens + if opens m then 1 else 0 := by
        rw [← List.cons_append, List.countP_append, List.countP_singleton]
      have closed : (first :: (rest ++ [m])).countP closes =
          (first :: rest).countP closes + if closes m then 1 else 0 := by
        rw [← List.cons_append, List.countP_append, List.countP_singleton]
      change (first :: (rest ++ [m])).countP opens ≤ (first :: (rest ++ [m])).countP closes + more
      omega

end Balanced

section Inbound

variable {ι : Type} {stations : Finset ι} {queue : ι → List M}

/-- How many messages of a kind the queues of some stations carry. -/
def inbound (stations : Finset ι) (queue : ι → List M) (test : M → Bool) : Nat :=
  ∑ i ∈ stations, (queue i).countP test

theorem inbound_eq_zero {test : M → Bool} (none : ∀ i ∈ stations, ∀ m ∈ queue i, test m = false) :
    inbound stations queue test = 0 := by
  apply Finset.sum_eq_zero
  intro i member
  rw [List.countP_eq_zero]
  intro m held
  rw [none i member m held]
  exact Bool.false_ne_true

/-- Balanced queues together open no more than they close and have credit for. -/
theorem inbound_le {opens closes : M → Bool} {credit : ι → Nat}
    (balanced : ∀ i ∈ stations, Balanced opens closes (credit i) (queue i)) :
    inbound stations queue opens ≤ inbound stations queue closes + ∑ i ∈ stations, credit i := by
  unfold inbound
  rw [← Finset.sum_add_distrib]
  apply Finset.sum_le_sum
  intro i member
  exact (balanced i member).le

variable [DecidableEq ι]

theorem inbound_update (queue : ι → List M) (test : M → Bool) {i : ι} (member : i ∈ stations)
    (messages : List M) :
    inbound stations (Function.update queue i messages) test + (queue i).countP test =
      inbound stations queue test + messages.countP test := by
  have others : ∑ j ∈ stations.erase i, (Function.update queue i messages j).countP test =
      ∑ j ∈ stations.erase i, (queue j).countP test := by
    apply Finset.sum_congr rfl
    intro j inRest
    rw [Function.update_of_ne (Finset.ne_of_mem_erase inRest)]
  unfold inbound
  rw [← Finset.add_sum_erase _ _ member, ← Finset.add_sum_erase stations (fun j =>
    (queue j).countP test) member, others, Function.update_self]
  omega

theorem inbound_push (test : M → Bool) {i : ι} (member : i ∈ stations) (messages : List M) :
    inbound stations (Function.update queue i (queue i ++ messages)) test =
      inbound stations queue test + messages.countP test := by
  have counted := inbound_update queue test member (queue i ++ messages)
  rw [List.countP_append] at counted
  omega

theorem inbound_pop (test : M → Bool) {i : ι} {m : M} {rest : List M} (member : i ∈ stations)
    (head : queue i = m :: rest) :
    inbound stations queue test =
      inbound stations (Function.update queue i rest) test + if test m then 1 else 0 := by
  have counted := inbound_update queue test member rest
  rw [head, List.countP_cons] at counted
  omega

/-- A queue that the stations do not read does not count. -/
theorem inbound_of_notMem (test : M → Bool) {i : ι} (absent : i ∉ stations) (messages : List M) :
    inbound stations (Function.update queue i messages) test = inbound stations queue test := by
  apply Finset.sum_congr rfl
  intro j member
  rw [Function.update_of_ne]
  rintro rfl
  exact absent member

end Inbound

end Stheno.Queue
