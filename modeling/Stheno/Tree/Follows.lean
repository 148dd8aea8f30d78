import Mathlib.Data.Option.Basic
import Stheno.Tree.Edges

/-!
# Trees of the same shape

One tree follows another when it has nodes at the same positions, with labels in a relation
to those of the other.  Storing children that follow each other in one slot keeps this.
-/

namespace Stheno.Tree.SlotTree

universe u v

variable {α : Type u} {β : Type v}

/-- The two trees have nodes at the same positions, and their labels are in `R`. -/
def Follows (R : α → β → Prop) (t : SlotTree α) (other : SlotTree β) : Prop :=
  ∀ path, Option.Rel (fun n m => R n.label m.label) (t.at? path) (other.at? path)

variable {R : α → β → Prop} {t : SlotTree α} {other : SlotTree β}

theorem follows_iff : Follows R t other ↔
    R t.label other.label ∧ ∀ i, Option.Rel (Follows R) (t.child i) (other.child i) := by
  constructor
  · intro follows
    constructor
    · have here := follows []
      rw [at?_nil, at?_nil] at here
      cases here with
      | some related => exact related
    · intro i
      have through : ∀ path, Option.Rel (fun n m => R n.label m.label)
          ((t.child i).bind fun c => c.at? path) ((other.child i).bind fun c => c.at? path) := by
        intro path
        rw [← at?_cons, ← at?_cons]
        exact follows (i :: path)
      cases held : t.child i with
      | none =>
          cases heldOther : other.child i with
          | none => exact Option.Rel.none
          | some d =>
              have impossible := through []
              rw [held, heldOther, Option.bind_none, Option.bind_some, at?_nil] at impossible
              cases impossible
      | some c =>
          cases heldOther : other.child i with
          | none =>
              have impossible := through []
              rw [held, heldOther, Option.bind_none, Option.bind_some, at?_nil] at impossible
              cases impossible
          | some d =>
              apply Option.Rel.some
              intro path
              have here := through path
              rw [held, heldOther, Option.bind_some, Option.bind_some] at here
              exact here
  · rintro ⟨root, below⟩ path
    cases path with
    | nil =>
        rw [at?_nil, at?_nil]
        exact Option.Rel.some root
    | cons i path =>
        rw [at?_cons, at?_cons]
        have related := below i
        generalize t.child i = first at related ⊢
        generalize other.child i = second at related ⊢
        cases related with
        | none => exact Option.Rel.none
        | some follows => exact follows path

namespace Follows

theorem at? (follows : Follows R t other) {path : Path} {n : SlotTree α}
    (found : t.at? path = some n) : ∃ m, other.at? path = some m ∧ R n.label m.label := by
  have related := follows path
  rw [found] at related
  generalize other.at? path = answer at related
  cases related with
  | some here => exact ⟨_, rfl, here⟩

theorem at?_other (follows : Follows R t other) {path : Path} {m : SlotTree β}
    (found : other.at? path = some m) : ∃ n, t.at? path = some n ∧ R n.label m.label := by
  have related := follows path
  rw [found] at related
  generalize t.at? path = answer at related
  cases related with
  | some here => exact ⟨_, rfl, here⟩

/-- Storing two such children in the same slot. -/
theorem setSlot (follows : Follows R t other) {c : SlotTree α} {d : SlotTree β} {i : Nat}
    (below : Follows R c d) (bound : i < t.slots.length) (boundOther : i < other.slots.length) :
    Follows R (t.setSlot i (some c)) (other.setSlot i (some d)) := by
  rw [follows_iff] at follows
  rw [follows_iff]
  constructor
  · exact follows.1
  · intro j
    rw [child_setSlot, child_setSlot]
    by_cases here : i = j
    · rw [if_pos ⟨here, bound⟩, if_pos ⟨here, boundOther⟩]
      exact Option.Rel.some below
    · rw [if_neg fun both => here both.1, if_neg fun both => here both.1]
      exact follows.2 j

/-- What holds along the edges of the one holds along those of the other. -/
theorem allEdges {S : α → Nat → α → Prop} {T : β → Nat → β → Prop} (follows : Follows R t other)
    (edges : t.AllEdges S)
    (carry : ∀ {a a' i b b'}, R a b → R a' b' → S a i a' → T b i b') : other.AllEdges T := by
  intro m member i d held
  rcases exists_at?_of_mem_nodes member with ⟨path, found⟩
  rcases follows.at?_other found with ⟨n, foundN, related⟩
  rcases follows.at?_other (at?_snoc found held) with ⟨c, foundC, relatedChild⟩
  rw [at?_append, foundN, Option.bind_some, at?_cons] at foundC
  rcases Option.bind_eq_some_iff.mp foundC with ⟨child, heldC, here⟩
  rw [at?_nil, Option.some.injEq] at here
  subst here
  exact carry related relatedChild (edges n (mem_nodes_of_at? foundN) i child heldC)

theorem symm (follows : Follows R t other) : Follows (fun b a => R a b) other t := by
  intro path
  have related := follows path
  generalize t.at? path = first at related ⊢
  generalize other.at? path = second at related ⊢
  cases related with
  | none => exact Option.Rel.none
  | some here => exact Option.Rel.some here

end Follows

/-- Overwriting a slot with a child adds its labels to some of those that there were. -/
theorem exists_labels_setSlot (t c : SlotTree α) {i : Nat} (bound : i < t.slots.length) :
    ∃ kept, kept.Sublist t.labels ∧ (t.setSlot i (some c)).labels.Perm (c.labels ++ kept) := by
  refine ⟨(t.setSlot i none).labels, labels_setSlot_none_sublist t i, ?_⟩
  have free : (t.setSlot i none).slots[i]? = some none := by
    rw [SlotTree.setSlot, slots_node, List.getElem?_set_self bound]
  have filled := labels_setSlot_some_perm (c := c) free
  rw [setSlot_setSlot] at filled
  exact filled

end Stheno.Tree.SlotTree
