import Mathlib.Data.List.Nodup

/-!
# Linearizability

The clients of an object see calls and answers.  A history of them is linearizable where
the calls can be put in one order in which the object could have served them one after
another, with the answers that were given, and in which a call that was answered before
another was made comes before it.

An object whose calls each take effect at one moment between the call and its answer has
such an order: the one in which they take effect.  The three rules below build it.
-/

namespace Stheno

variable {σ Op Ret : Type}

/-- What the clients of an object see. -/
inductive Seen (Op Ret : Type) where
  | call (id : Nat) (op : Op)
  | answer (id : Nat) (ret : Ret)
  deriving DecidableEq

/-- A call with the answer that the object has for it. -/
structure Served (Op Ret : Type) where
  id : Nat
  op : Op
  ret : Ret
  deriving DecidableEq

/-- Calls that an object serves one after another. -/
inductive Serves (object : σ → Op → σ → Ret → Prop) (start : σ) :
    List (Served Op Ret) → σ → Prop
  | nil : Serves object start [] start
  | snoc {order : List (Served Op Ret)} {before after : σ} {id : Nat} {op : Op} {ret : Ret}
      (earlier : Serves object start order before) (last : object before op after ret) :
      Serves object start (order ++ [⟨id, op, ret⟩]) after

/-- The order of the calls that have taken effect explains a history. -/
structure Linearizes (object : σ → Op → σ → Ret → Prop) (start : σ)
    (history : List (Seen Op Ret)) (order : List (Served Op Ret)) (state : σ) : Prop where
  serves : Serves object start order state
  once : (order.map Served.id).Nodup
  called : ∀ served ∈ order, Seen.call served.id served.op ∈ history
  answered : ∀ id ret, Seen.answer id ret ∈ history → ∃ op, ⟨id, op, ret⟩ ∈ order
  realTime : ∀ first ret second op, [Seen.answer first ret, Seen.call second op].Sublist history →
    second ∈ order.map Served.id → [first, second].Sublist (order.map Served.id)

namespace Linearizes

variable {object : σ → Op → σ → Ret → Prop} {start state : σ} {history : List (Seen Op Ret)}
  {order : List (Served Op Ret)}

theorem start_nil (object : σ → Op → σ → Ret → Prop) (start : σ) :
    Linearizes object start ([] : List (Seen Op Ret)) [] start where
  serves := .nil
  once := List.nodup_nil
  called := by
    intro served impossible
    cases impossible
  answered := by
    intro id ret impossible
    cases impossible
  realTime := by
    intro first ret second op impossible
    cases impossible

/-- Two happenings of a history that goes on: both are old, or the second is the new one. -/
theorem sublist_snoc {α : Type} {first second last : α} {list : List α}
    (both : [first, second].Sublist (list ++ [last])) :
    [first, second].Sublist list ∨ first ∈ list ∧ second = last := by
  rcases List.sublist_append_iff.mp both with ⟨left, right, split, old, new⟩
  match left, right, split with
  | [], _, rfl =>
      have short := new.length_le
      simp at short
  | [_], _, rfl =>
      right
      exact ⟨old.subset List.mem_cons_self, List.mem_singleton.mp (new.subset List.mem_cons_self)⟩
  | [_, _], _, rfl =>
      left
      exact old

/-- A call is made. -/
theorem call (linearizes : Linearizes object start history order state) {id : Nat}
    (fresh : ∀ op, Seen.call id op ∉ history) (op : Op) :
    Linearizes object start (history ++ [.call id op]) order state where
  serves := linearizes.serves
  once := linearizes.once
  called := fun served isServed => List.mem_append_left _ (linearizes.called served isServed)
  answered := by
    intro other ret isAnswer
    rcases List.mem_append.mp isAnswer with old | new
    · exact linearizes.answered other ret old
    · cases List.mem_singleton.mp new
  realTime := by
    intro first ret second other both isServed
    rcases sublist_snoc both with old | ⟨-, new⟩
    · exact linearizes.realTime first ret second other old isServed
    · cases new
      rcases List.mem_map.mp isServed with ⟨served, member, rfl⟩
      exact absurd (linearizes.called served member) (fresh served.op)

/-- A call takes effect. -/
theorem serve (linearizes : Linearizes object start history order state) {id : Nat} {op : Op}
    {after : σ} {ret : Ret} (made : Seen.call id op ∈ history) (new : id ∉ order.map Served.id)
    (takes : object state op after ret) :
    Linearizes object start history (order ++ [⟨id, op, ret⟩]) after where
  serves := .snoc linearizes.serves takes
  once := by
    rw [List.map_append, List.map_singleton, ← List.concat_eq_append]
    exact List.Nodup.concat new linearizes.once
  called := by
    intro served isServed
    rcases List.mem_append.mp isServed with old | last
    · exact linearizes.called served old
    · rw [List.mem_singleton.mp last]
      exact made
  answered := by
    intro other value isAnswer
    rcases linearizes.answered other value isAnswer with ⟨asked, member⟩
    exact ⟨asked, List.mem_append_left _ member⟩
  realTime := by
    intro first value second asked both isServed
    rw [List.map_append, List.map_singleton] at isServed ⊢
    rcases List.mem_append.mp isServed with old | last
    · exact (linearizes.realTime first value second asked both old).trans
        (List.sublist_append_left _ _)
    · have isAnswer : Seen.answer first value ∈ history := both.subset List.mem_cons_self
      rcases linearizes.answered first value isAnswer with ⟨earlier, member⟩
      have here : first ∈ order.map Served.id := List.mem_map_of_mem member
      rw [List.mem_singleton.mp last]
      exact (List.singleton_sublist.mpr here).append (List.Sublist.refl [id])

/-- A call that has taken effect is answered. -/
theorem answer (linearizes : Linearizes object start history order state) {id : Nat} {op : Op}
    {ret : Ret} (served : ⟨id, op, ret⟩ ∈ order) :
    Linearizes object start (history ++ [.answer id ret]) order state where
  serves := linearizes.serves
  once := linearizes.once
  called := fun served isServed => List.mem_append_left _ (linearizes.called served isServed)
  answered := by
    intro other value isAnswer
    rcases List.mem_append.mp isAnswer with old | new
    · exact linearizes.answered other value old
    · cases List.mem_singleton.mp new
      exact ⟨op, served⟩
  realTime := by
    intro first value second asked both isServed
    rcases sublist_snoc both with old | ⟨-, new⟩
    · exact linearizes.realTime first value second asked old isServed
    · cases new

end Linearizes

end Stheno
