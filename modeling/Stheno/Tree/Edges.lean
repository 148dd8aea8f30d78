import Stheno.Tree.Search

/-!
# Relations along the edges of a slotted tree

`AllEdges R t` says that every parent, slot number and child of `t` satisfy
`R`.  The relation is decided by labels, so it survives an update of one node
when the new node satisfies it below and its new label still suits the parent.
-/

namespace Stheno.Tree.SlotTree

universe u v w

variable {α : Type u} {β : Type v}

/-- Every edge of the tree, from a node through slot `i` to a child, is in `R`. -/
def AllEdges (R : α → Nat → α → Prop) (t : SlotTree α) : Prop :=
  ∀ n ∈ t.nodes, ∀ i c, n.child i = some c → R n.label i c.label

/-- The edges of a tree are those at its root and those of its children. -/
theorem allEdges_iff {R : α → Nat → α → Prop} {t : SlotTree α} :
    t.AllEdges R ↔ ∀ i c, t.child i = some c → R t.label i c.label ∧ c.AllEdges R := by
  constructor
  · intro edges i c held
    constructor
    · exact edges t (mem_nodes_self t) i c held
    · intro n below
      exact edges n (mem_nodes_of_child held below)
  · intro edges n member i c held
    rcases mem_nodes_iff.mp member with rfl | ⟨d, inSlot, below⟩
    · exact (edges i c held).1
    · rcases exists_child_of_mem_slots inSlot with ⟨j, heldD⟩
      exact (edges j d heldD).2 n below i c held

theorem AllEdges.mono {R S : α → Nat → α → Prop} {t : SlotTree α} (edges : t.AllEdges R)
    (weaker : ∀ a i b, R a i b → S a i b) : t.AllEdges S :=
  fun n member i c held => weaker _ _ _ (edges n member i c held)

theorem AllEdges.child {R : α → Nat → α → Prop} {t c : SlotTree α} {i : Nat}
    (edges : t.AllEdges R) (held : t.child i = some c) : c.AllEdges R :=
  (allEdges_iff.mp edges i c held).2

theorem AllEdges.at? {R : α → Nat → α → Prop} {t n : SlotTree α} {path : Path}
    (edges : t.AllEdges R) (found : t.at? path = some n) : n.AllEdges R := by
  intro m below
  rcases exists_at?_of_mem_nodes below with ⟨rest, atRest⟩
  have whole : t.at? (path ++ rest) = some m := by
    rw [at?_append, found, Option.bind_some, atRest]
  exact edges m (mem_nodes_of_at? whole)

/-- A tree whose slots are all empty has no edge. -/
theorem allEdges_of_no_child {R : α → Nat → α → Prop} {t : SlotTree α}
    (childless : ∀ i, t.child i = none) : t.AllEdges R := by
  rw [allEdges_iff]
  intro i c held
  rw [childless i] at held
  cases held

theorem length_slots_setSlot (t : SlotTree α) (i : Nat) (slot : Option (SlotTree α)) :
    (t.setSlot i slot).slots.length = t.slots.length := by
  rw [setSlot, slots_node, List.length_set]

theorem child_setSlot (t : SlotTree α) (i j : Nat) (slot : Option (SlotTree α)) :
    (t.setSlot i slot).child j =
      if i = j ∧ i < t.slots.length then slot else t.child j := by
  simp only [child, setSlot, slots_node, List.getElem?_set]
  by_cases equal : i = j
  · subst equal
    by_cases bound : i < t.slots.length
    · simp [bound]
    · simp [bound]
  · simp [equal]

theorem AllEdges.setSlot_some {R : α → Nat → α → Prop} {t c : SlotTree α} {i : Nat}
    (edges : t.AllEdges R) (below : c.AllEdges R) (edge : R t.label i c.label) :
    (t.setSlot i (some c)).AllEdges R := by
  rw [allEdges_iff]
  intro j d held
  rw [child_setSlot] at held
  split at held
  · rename_i here
    rw [Option.some.injEq] at held
    rw [← held, ← here.1]
    exact ⟨edge, below⟩
  · exact allEdges_iff.mp edges j d held

theorem AllEdges.setSlot_none {R : α → Nat → α → Prop} {t : SlotTree α} (i : Nat)
    (edges : t.AllEdges R) : (t.setSlot i none).AllEdges R := by
  rw [allEdges_iff]
  intro j d held
  rw [child_setSlot] at held
  split at held
  · cases held
  · exact allEdges_iff.mp edges j d held

theorem AllEdges.mapLabel {R : α → Nat → α → Prop} {t : SlotTree α} {f : α → α}
    (edges : t.AllEdges R) (suits : ∀ i b, R t.label i b → R (f t.label) i b) :
    (t.mapLabel f).AllEdges R := by
  rw [allEdges_iff]
  intro i c held
  have atChild := allEdges_iff.mp edges i c held
  exact ⟨suits i c.label atChild.1, atChild.2⟩

theorem modifyAt_cons_child (f : SlotTree α → SlotTree α) (i j : Nat) (path : Path)
    (t : SlotTree α) :
    (t.modifyAt f (i :: path)).child j =
      if i = j then (t.child j).map (modifyAt f path) else t.child j := by
  rw [modifyAt_cons, child_modify _ _ _ _ _ rfl, node_label_slots]

/-- The root label changes only under an update of the root itself. -/
theorem label_modifyAt_cons (f : SlotTree α → SlotTree α) (i : Nat) (path : Path)
    (t : SlotTree α) : (t.modifyAt f (i :: path)).label = t.label := by
  rw [modifyAt_cons, label_node]

/-- An update of one node keeps the edges when the new node has them below and
its label suits every parent that the old label suited. -/
theorem AllEdges.modifyAt {R : α → Nat → α → Prop} {t n : SlotTree α} {path : Path}
    {f : SlotTree α → SlotTree α} (edges : t.AllEdges R) (found : t.at? path = some n)
    (below : (f n).AllEdges R) (suits : ∀ a i, R a i n.label → R a i (f n).label) :
    (t.modifyAt f path).AllEdges R := by
  induction path generalizing t with
  | nil =>
      rw [at?_nil, Option.some.injEq] at found
      rw [modifyAt_nil, found]
      exact below
  | cons i path ih =>
      rw [at?_cons] at found
      rcases Option.bind_eq_some_iff.mp found with ⟨c, held, found⟩
      have atChild := allEdges_iff.mp edges i c held
      rw [allEdges_iff]
      intro j d heldNew
      rw [label_modifyAt_cons]
      rw [modifyAt_cons_child] at heldNew
      by_cases equal : i = j
      · subst equal
        rw [if_pos rfl, held, Option.map_some, Option.some.injEq] at heldNew
        rw [← heldNew]
        refine ⟨?_, ih atChild.2 found⟩
        -- the label of the child on the path is new only when the path ends there
        cases path with
        | nil =>
            rw [at?_nil, Option.some.injEq] at found
            rw [modifyAt_nil, found]
            exact suits _ _ (found ▸ atChild.1)
        | cons k path =>
            rw [label_modifyAt_cons]
            exact atChild.1
      · rw [if_neg equal] at heldNew
        exact allEdges_iff.mp edges j d heldNew

/-! ## Relabelling -/

mutual

/-- Apply `f` to every label. -/
def map (f : α → β) : SlotTree α → SlotTree β
  | .node a slots => .node (f a) (mapSlots f slots)

/-- Apply `f` to every label below an array of slots. -/
def mapSlots (f : α → β) : List (Option (SlotTree α)) → List (Option (SlotTree β))
  | [] => []
  | none :: slots => none :: mapSlots f slots
  | some c :: slots => some (map f c) :: mapSlots f slots

end

theorem mapSlots_eq (f : α → β) (slots : List (Option (SlotTree α))) :
    mapSlots f slots = slots.map (Option.map (map f)) := by
  induction slots with
  | nil => simp [mapSlots]
  | cons slot slots ih => cases slot <;> simp [mapSlots, ih]

@[simp]
theorem map_node (f : α → β) (a : α) (slots : List (Option (SlotTree α))) :
    (node a slots).map f = node (f a) (slots.map (Option.map (map f))) := by
  rw [map, mapSlots_eq]

@[simp]
theorem label_map (f : α → β) (t : SlotTree α) : (t.map f).label = f t.label := by
  cases t
  rw [map_node, label_node, label_node]

@[simp]
theorem slots_map (f : α → β) (t : SlotTree α) :
    (t.map f).slots = t.slots.map (Option.map (map f)) := by
  cases t
  rw [map_node, slots_node, slots_node]

theorem child_map (f : α → β) (t : SlotTree α) (i : Nat) :
    (t.map f).child i = (t.child i).map (map f) := by
  simp only [child, slots_map, List.getElem?_map]
  cases t.slots[i]? <;> rfl

theorem at?_map (f : α → β) (t : SlotTree α) (path : Path) :
    (t.map f).at? path = (t.at? path).map (map f) := by
  induction path generalizing t with
  | nil => simp
  | cons i path ih =>
      rw [at?_cons, at?_cons, child_map]
      cases t.child i with
      | none => rfl
      | some c => exact ih c

theorem labels_map (f : α → β) (t : SlotTree α) : (t.map f).labels = t.labels.map f := by
  induction t with
  | node a slots ih =>
      have inSlots : ∀ rest : List (Option (SlotTree α)),
          (∀ c, some c ∈ rest → some c ∈ slots) →
          labelsOfSlots (rest.map (Option.map (map f))) = (labelsOfSlots rest).map f := by
        intro rest
        induction rest with
        | nil => simp
        | cons slot rest restIh =>
            intro included
            have tail := restIh fun c member => included c (List.mem_cons_of_mem _ member)
            cases slot with
            | none => simpa using tail
            | some c => simp [ih c (included c List.mem_cons_self), tail]
      rw [map_node, labels_node, labels_node, List.map_cons, inSlots slots fun c member => member]

theorem map_map {γ : Type w} (g : β → γ) (f : α → β) (t : SlotTree α) :
    (t.map f).map g = t.map (g ∘ f) := by
  induction t with
  | node a slots ih =>
      rw [map_node, map_node, map_node, List.map_map]
      congr 1
      apply List.map_congr_left
      intro slot member
      cases slot with
      | none => rfl
      | some c => exact congrArg some (ih c member)

/-- Relabelling does not move the node that a search finds. -/
theorem findPath_map (f : α → β) (test : β → Bool) (t : SlotTree α) :
    (t.map f).findPath test = t.findPath fun a => test (f a) := by
  induction t with
  | node a slots ih =>
      have inSlots : ∀ (rest : List (Option (SlotTree α))) (i : Nat),
          (∀ c, some c ∈ rest → some c ∈ slots) →
          findPathInSlots test i (rest.map (Option.map (map f))) =
            findPathInSlots (fun a => test (f a)) i rest := by
        intro rest
        induction rest with
        | nil => simp [findPathInSlots]
        | cons slot rest restIh =>
            intro i included
            have tail := restIh (i + 1) fun c member => included c (List.mem_cons_of_mem _ member)
            cases slot with
            | none => simpa [findPathInSlots] using tail
            | some c =>
                have here := ih c (included c List.mem_cons_self)
                simp only [List.map_cons, Option.map_some, findPathInSlots, here, tail]
      rw [map_node, findPath_node, findPath_node, inSlots slots 0 fun c member => member]

/-- Relabelling commutes with an update that it carries to the other tree. -/
theorem map_modifyAt {f : α → β} {g : SlotTree α → SlotTree α} {h : SlotTree β → SlotTree β}
    {t n : SlotTree α} {path : Path} (found : t.at? path = some n)
    (carried : (g n).map f = h (n.map f)) :
    (t.modifyAt g path).map f = (t.map f).modifyAt h path := by
  induction path generalizing t with
  | nil =>
      rw [at?_nil, Option.some.injEq] at found
      simp [found, carried]
  | cons i path ih =>
      rw [at?_cons] at found
      rcases Option.bind_eq_some_iff.mp found with ⟨c, held, found⟩
      have slotHeld := child_eq_some_iff.mp held
      rw [modifyAt_cons, modifyAt_cons, map_node, label_map, slots_map]
      congr 1
      refine List.ext_getElem? fun j => ?_
      rw [List.getElem?_map, List.getElem?_modify, List.getElem?_modify, List.getElem?_map]
      by_cases equal : i = j
      · subst equal
        simp [slotHeld, ih found]
      · simp [equal]

theorem map_setSlot (f : α → β) (t : SlotTree α) (i : Nat) (slot : Option (SlotTree α)) :
    (t.setSlot i slot).map f = (t.map f).setSlot i (slot.map (map f)) := by
  rw [setSlot, setSlot, map_node, label_map, slots_map, List.map_set]

end Stheno.Tree.SlotTree
