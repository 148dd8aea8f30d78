import Mathlib.Data.List.Basic
import Mathlib.Data.List.Nodup
import Mathlib.Data.List.Perm.Basic

/-!
# Trees with numbered child slots

A slotted tree carries a label and a fixed array of slots, each of which is
empty or holds a child.  Positions are lists of slot numbers read from the
root, so a position plays the role of a pointer into the tree and an in-place
update is `modifyAt`.

Everything that an update can change is stated on the preorder list of labels:
`exists_labels_split` cuts that list around one node, and the same cut describes
the list after any update of the node.
-/

namespace Stheno.Tree

universe u v w

/-- A label and an array of slots that are empty or hold a child. -/
inductive SlotTree (α : Type u) where
  | node (label : α) (slots : List (Option (SlotTree α)))

/-- A position: the slot numbers on the way down from the root. -/
abbrev Path := List Nat

namespace SlotTree

variable {α : Type u} {β : Type v} {κ : Type w}

/-- The label of the root node. -/
def label : SlotTree α → α
  | .node a _ => a

/-- The slots of the root node. -/
def slots : SlotTree α → List (Option (SlotTree α))
  | .node _ slots => slots

@[simp]
theorem label_node (a : α) (slots : List (Option (SlotTree α))) :
    (node a slots).label = a :=
  rfl

@[simp]
theorem slots_node (a : α) (slots : List (Option (SlotTree α))) :
    (node a slots).slots = slots :=
  rfl

@[simp]
theorem node_label_slots (t : SlotTree α) : node t.label t.slots = t := by
  cases t
  rfl

/-- Induction with the hypothesis for every child that sits in a slot. -/
@[elab_as_elim, induction_eliminator]
theorem induction {motive : SlotTree α → Prop}
    (node : ∀ a slots, (∀ c, some c ∈ slots → motive c) → motive (.node a slots))
    (t : SlotTree α) : motive t := by
  refine @SlotTree.rec α motive (fun slots => ∀ c, some c ∈ slots → motive c)
    (fun slot => ∀ c, slot = some c → motive c) ?_ ?_ ?_ ?_ ?_ t
  · intro a slots children
    exact node a slots children
  · intro c member
    cases member
  · intro slot slots headHolds tailHolds c member
    rcases List.mem_cons.mp member with equal | member
    · exact headHolds c equal.symm
    · exact tailHolds c member
  · intro c impossible
    cases impossible
  · intro c holds c' equal
    cases equal
    exact holds

/-- The child in slot `i`, if the slot exists and is not empty. -/
def child (t : SlotTree α) (i : Nat) : Option (SlotTree α) :=
  (t.slots[i]?).getD none

theorem child_eq_some_iff {t c : SlotTree α} {i : Nat} :
    t.child i = some c ↔ t.slots[i]? = some (some c) := by
  unfold child
  cases t.slots[i]? with
  | none => simp
  | some slot => simp

theorem mem_slots_of_child {t c : SlotTree α} {i : Nat} (held : t.child i = some c) :
    some c ∈ t.slots :=
  List.mem_of_getElem? (child_eq_some_iff.mp held)

theorem exists_child_of_mem_slots {t c : SlotTree α} (member : some c ∈ t.slots) :
    ∃ i, t.child i = some c := by
  obtain ⟨i, found⟩ := List.mem_iff_getElem?.mp member
  exact ⟨i, child_eq_some_iff.mpr found⟩

/-- A node whose slots hold no child has only empty slots. -/
theorem empty_of_childless {t : SlotTree α} (childless : ∀ i, t.child i = none) :
    ∀ slot ∈ t.slots, slot = none := by
  intro slot member
  cases slot with
  | none => rfl
  | some c =>
      rcases exists_child_of_mem_slots member with ⟨i, held⟩
      rw [childless i] at held
      cases held

/-! ## Preorder -/

mutual

/-- All nodes (each as the subtree below it) in preorder. -/
def nodes : SlotTree α → List (SlotTree α)
  | .node a slots => .node a slots :: nodesOfSlots slots

/-- The nodes below an array of slots, slot by slot. -/
def nodesOfSlots : List (Option (SlotTree α)) → List (SlotTree α)
  | [] => []
  | none :: slots => nodesOfSlots slots
  | some c :: slots => nodes c ++ nodesOfSlots slots

end

/-- All labels in preorder. -/
def labels (t : SlotTree α) : List α :=
  t.nodes.map label

/-- The labels below an array of slots. -/
def labelsOfSlots (slots : List (Option (SlotTree α))) : List α :=
  (nodesOfSlots slots).map label

theorem nodes_eq (t : SlotTree α) : t.nodes = t :: nodesOfSlots t.slots := by
  cases t
  simp only [nodes, slots_node]

theorem labels_eq (t : SlotTree α) : t.labels = t.label :: labelsOfSlots t.slots := by
  rw [labels, nodes_eq, List.map_cons]
  rfl

@[simp]
theorem labels_node (a : α) (slots : List (Option (SlotTree α))) :
    (node a slots).labels = a :: labelsOfSlots slots :=
  labels_eq _

theorem nodesOfSlots_eq_flatMap (slots : List (Option (SlotTree α))) :
    nodesOfSlots slots = slots.flatMap fun slot => (slot.map nodes).getD [] := by
  induction slots with
  | nil => simp [nodesOfSlots]
  | cons slot slots ih =>
      cases slot with
      | none => simp [nodesOfSlots, ih]
      | some c => simp [nodesOfSlots, ih]

@[simp]
theorem labelsOfSlots_nil : labelsOfSlots ([] : List (Option (SlotTree α))) = [] := by
  simp [labelsOfSlots, nodesOfSlots]

@[simp]
theorem labelsOfSlots_cons_none (slots : List (Option (SlotTree α))) :
    labelsOfSlots (none :: slots) = labelsOfSlots slots := by
  simp [labelsOfSlots, nodesOfSlots]

@[simp]
theorem labelsOfSlots_cons_some (c : SlotTree α) (slots : List (Option (SlotTree α))) :
    labelsOfSlots (some c :: slots) = c.labels ++ labelsOfSlots slots := by
  simp [labelsOfSlots, nodesOfSlots, labels]

@[simp]
theorem labelsOfSlots_append (first second : List (Option (SlotTree α))) :
    labelsOfSlots (first ++ second) = labelsOfSlots first ++ labelsOfSlots second := by
  simp [labelsOfSlots, nodesOfSlots_eq_flatMap, List.flatMap_append]

@[simp]
theorem labelsOfSlots_replicate_none (n : Nat) :
    labelsOfSlots (List.replicate n (none : Option (SlotTree α))) = [] := by
  induction n with
  | zero => simp
  | succ n ih => simp [List.replicate_succ, ih]

theorem labelsOfSlots_of_empty {slots : List (Option (SlotTree α))}
    (empty : ∀ slot ∈ slots, slot = none) : labelsOfSlots slots = [] := by
  rw [List.eq_replicate_of_mem empty, labelsOfSlots_replicate_none]

theorem labelsOfSlots_take_sublist (slots : List (Option (SlotTree α))) (k : Nat) :
    (labelsOfSlots (slots.take k)).Sublist (labelsOfSlots slots) := by
  conv_rhs => rw [← List.take_append_drop k slots, labelsOfSlots_append]
  exact List.sublist_append_left _ _

theorem mem_nodes_iff {n t : SlotTree α} :
    n ∈ t.nodes ↔ n = t ∨ ∃ c, some c ∈ t.slots ∧ n ∈ c.nodes := by
  rw [nodes_eq, List.mem_cons, nodesOfSlots_eq_flatMap, List.mem_flatMap]
  refine or_congr Iff.rfl ⟨?_, ?_⟩
  · rintro ⟨slot, member, found⟩
    cases slot with
    | none => simp at found
    | some c => exact ⟨c, member, by simpa using found⟩
  · rintro ⟨c, member, found⟩
    exact ⟨some c, member, by simpa using found⟩

theorem mem_nodes_self (t : SlotTree α) : t ∈ t.nodes :=
  mem_nodes_iff.mpr (Or.inl rfl)

theorem mem_nodes_of_child {n c t : SlotTree α} {i : Nat} (held : t.child i = some c)
    (below : n ∈ c.nodes) : n ∈ t.nodes :=
  mem_nodes_iff.mpr (Or.inr ⟨c, mem_slots_of_child held, below⟩)

theorem mem_labels_iff {a : α} {t : SlotTree α} :
    a ∈ t.labels ↔ ∃ n ∈ t.nodes, n.label = a := by
  simp [labels]

/-- The labels below a child are labels of the node. -/
theorem mem_labels_of_mem_slots {a : α} {t c : SlotTree α} (member : some c ∈ t.slots)
    (below : a ∈ c.labels) : a ∈ t.labels := by
  rcases mem_labels_iff.mp below with ⟨n, inChild, labelled⟩
  exact mem_labels_iff.mpr ⟨n, mem_nodes_iff.mpr (Or.inr ⟨c, member, inChild⟩), labelled⟩

/-! ## Positions -/

/-- The node at a position. -/
def at? : SlotTree α → Path → Option (SlotTree α)
  | t, [] => some t
  | t, i :: path => (t.child i).bind fun c => c.at? path

/-- Update the node at a position; a position outside the tree changes nothing. -/
def modifyAt (f : SlotTree α → SlotTree α) : Path → SlotTree α → SlotTree α
  | [], t => f t
  | i :: path, t => .node t.label (t.slots.modify i (Option.map (modifyAt f path)))

/-- Overwrite one slot. -/
def setSlot (t : SlotTree α) (i : Nat) (slot : Option (SlotTree α)) : SlotTree α :=
  .node t.label (t.slots.set i slot)

/-- Relabel the root node. -/
def mapLabel (f : α → α) (t : SlotTree α) : SlotTree α :=
  .node (f t.label) t.slots

theorem setSlot_setSlot (t : SlotTree α) (i : Nat) (first second : Option (SlotTree α)) :
    (t.setSlot i first).setSlot i second = t.setSlot i second := by
  rw [setSlot, setSlot, label_node, slots_node, List.set_set, setSlot]

@[simp]
theorem at?_nil (t : SlotTree α) : t.at? [] = some t := by
  simp [at?]

theorem at?_cons (t : SlotTree α) (i : Nat) (path : Path) :
    t.at? (i :: path) = (t.child i).bind fun c => c.at? path := by
  simp [at?]

@[simp]
theorem modifyAt_nil (f : SlotTree α → SlotTree α) (t : SlotTree α) :
    t.modifyAt f [] = f t := by
  simp [modifyAt]

theorem modifyAt_cons (f : SlotTree α → SlotTree α) (i : Nat) (path : Path)
    (t : SlotTree α) :
    t.modifyAt f (i :: path) =
      .node t.label (t.slots.modify i (Option.map (modifyAt f path))) := by
  simp [modifyAt]

theorem at?_append (t : SlotTree α) (first second : Path) :
    t.at? (first ++ second) = (t.at? first).bind fun n => n.at? second := by
  induction first generalizing t with
  | nil => simp
  | cons i first ih =>
      rw [List.cons_append, at?_cons, at?_cons, Option.bind_assoc]
      congr 1
      funext c
      exact ih c

theorem at?_snoc {t n c : SlotTree α} {path : Path} {i : Nat}
    (found : t.at? path = some n) (held : n.child i = some c) :
    t.at? (path ++ [i]) = some c := by
  rw [at?_append, found, Option.bind_some, at?_cons, held, Option.bind_some, at?_nil]

theorem mem_nodes_of_at? {t n : SlotTree α} {path : Path} (found : t.at? path = some n) :
    n ∈ t.nodes := by
  induction path generalizing t with
  | nil =>
      rw [at?_nil, Option.some.injEq] at found
      exact found ▸ mem_nodes_self t
  | cons i path ih =>
      rw [at?_cons] at found
      obtain ⟨c, held, found⟩ := Option.bind_eq_some_iff.mp found
      exact mem_nodes_of_child held (ih found)

theorem exists_at?_of_mem_nodes {t n : SlotTree α} (member : n ∈ t.nodes) :
    ∃ path, t.at? path = some n := by
  induction t with
  | node a slots ih =>
      rcases mem_nodes_iff.mp member with rfl | ⟨c, held, below⟩
      · exact ⟨[], at?_nil _⟩
      · obtain ⟨path, found⟩ := ih c held below
        obtain ⟨i, atSlot⟩ := exists_child_of_mem_slots held
        exact ⟨i :: path, by rw [at?_cons, atSlot, Option.bind_some, found]⟩

theorem child_modify (a : α) (slots : List (Option (SlotTree α)))
    (f : Option (SlotTree α) → Option (SlotTree α)) (i j : Nat) (emptyStays : f none = none) :
    (node a (slots.modify i f)).child j =
      if i = j then f ((node a slots).child j) else (node a slots).child j := by
  simp only [child, slots_node, List.getElem?_modify]
  cases slots[j]? with
  | none => by_cases equal : i = j <;> simp [equal, emptyStays]
  | some slot => by_cases equal : i = j <;> simp [equal]

/-- Reading back the updated node. -/
theorem at?_modifyAt_self (t : SlotTree α) (f : SlotTree α → SlotTree α) (path : Path) :
    (t.modifyAt f path).at? path = (t.at? path).map f := by
  induction path generalizing t with
  | nil => simp
  | cons i path ih =>
      rw [modifyAt_cons, at?_cons, at?_cons, child_modify _ _ _ _ _ rfl, if_pos rfl,
        node_label_slots]
      cases t.child i with
      | none => rfl
      | some c => exact ih c

theorem modifyAt_append (t : SlotTree α) (f : SlotTree α → SlotTree α) (first second : Path) :
    t.modifyAt f (first ++ second) = t.modifyAt (modifyAt f second) first := by
  induction first generalizing t with
  | nil => simp
  | cons i first ih =>
      have inner : modifyAt f (first ++ second) = modifyAt (modifyAt f second) first :=
        funext ih
      rw [List.cons_append, modifyAt_cons, modifyAt_cons, inner]

/-- Reading a node above or at the updated one. -/
theorem at?_modifyAt_append (t : SlotTree α) (f : SlotTree α → SlotTree α) (first second : Path) :
    (t.modifyAt f (first ++ second)).at? first = (t.at? first).map (modifyAt f second) := by
  rw [modifyAt_append, at?_modifyAt_self]

/-- Two updates of one node are one update. -/
theorem modifyAt_modifyAt (t : SlotTree α) (f g : SlotTree α → SlotTree α) (path : Path) :
    (t.modifyAt f path).modifyAt g path = t.modifyAt (fun n => g (f n)) path := by
  induction path generalizing t with
  | nil => simp
  | cons i path ih =>
      have inner : (modifyAt g path ∘ modifyAt f path) = modifyAt (fun n => g (f n)) path :=
        funext ih
      rw [modifyAt_cons, modifyAt_cons, modifyAt_cons, label_node, slots_node,
        List.modify_modify_eq, Option.map_comp_map, inner]

/-- An update of a child that was just stored. -/
theorem modifyAt_setSlot (f : SlotTree α → SlotTree α) (t c : SlotTree α) (i : Nat) :
    (t.setSlot i (some c)).modifyAt f [i] = t.setSlot i (some (f c)) := by
  have inner : modifyAt f [] = f := funext fun n => modifyAt_nil f n
  rw [modifyAt_cons, inner, setSlot, label_node, slots_node, setSlot]
  congr 1
  refine List.ext_getElem? fun j => ?_
  rw [List.getElem?_modify, List.getElem?_set, List.getElem?_set]
  by_cases equal : i = j
  · simp [equal]
  · simp [equal]

theorem modifyAt_eq_self_of_at? {t n : SlotTree α} {f : SlotTree α → SlotTree α}
    {path : Path} (found : t.at? path = some n) (fixed : f n = n) :
    t.modifyAt f path = t := by
  induction path generalizing t with
  | nil =>
      rw [at?_nil, Option.some.injEq] at found
      rw [modifyAt_nil, found, fixed]
  | cons i path ih =>
      rw [at?_cons] at found
      obtain ⟨c, held, found⟩ := Option.bind_eq_some_iff.mp found
      have slotHeld := child_eq_some_iff.mp held
      obtain ⟨bound, entry⟩ := List.getElem?_eq_some_iff.mp slotHeld
      rw [modifyAt_cons]
      conv_rhs => rw [← node_label_slots t]
      congr 1
      refine List.ext_getElem? fun j => ?_
      rw [List.getElem?_modify]
      by_cases equal : i = j
      · subst equal
        simp [slotHeld, ih found]
      · simp [equal]

/-- The update depends on the updating function only through its value at the
node it meets. -/
theorem modifyAt_congr {t n : SlotTree α} {f g : SlotTree α → SlotTree α} {path : Path}
    (found : t.at? path = some n) (agree : f n = g n) :
    t.modifyAt f path = t.modifyAt g path := by
  induction path generalizing t with
  | nil =>
      rw [at?_nil, Option.some.injEq] at found
      simp [found, agree]
  | cons i path ih =>
      rw [at?_cons] at found
      obtain ⟨c, held, found⟩ := Option.bind_eq_some_iff.mp found
      have slotHeld := child_eq_some_iff.mp held
      rw [modifyAt_cons, modifyAt_cons]
      congr 1
      refine List.ext_getElem? fun j => ?_
      rw [List.getElem?_modify, List.getElem?_modify]
      by_cases equal : i = j
      · subst equal
        simp [slotHeld, ih found]
      · simp [equal]

/-! ## Labels around a position -/

private theorem slots_split {t c : SlotTree α} {i : Nat} (held : t.child i = some c) :
    t.slots = t.slots.take i ++ some c :: t.slots.drop (i + 1) := by
  obtain ⟨bound, entry⟩ := List.getElem?_eq_some_iff.mp (child_eq_some_iff.mp held)
  rw [← entry, List.getElem_cons_drop, List.take_append_drop]

private theorem modify_slots_split {t c : SlotTree α} {i : Nat} (held : t.child i = some c)
    (f : SlotTree α → SlotTree α) :
    t.slots.modify i (Option.map f) =
      t.slots.take i ++ some (f c) :: t.slots.drop (i + 1) := by
  obtain ⟨bound, entry⟩ := List.getElem?_eq_some_iff.mp (child_eq_some_iff.mp held)
  rw [List.modify_eq_take_cons_drop bound, entry, Option.map_some]

/-- The preorder labels fall into the part before a node, the labels below the
node and the part after it; an update of the node changes the middle only. -/
theorem exists_labels_split {t n : SlotTree α} {path : Path} (found : t.at? path = some n) :
    ∃ before after, t.labels = before ++ n.labels ++ after ∧
      ∀ f, (t.modifyAt f path).labels = before ++ (f n).labels ++ after := by
  induction path generalizing t with
  | nil =>
      rw [at?_nil, Option.some.injEq] at found
      subst found
      exact ⟨[], [], by simp, by simp⟩
  | cons i path ih =>
      rw [at?_cons] at found
      obtain ⟨c, held, found⟩ := Option.bind_eq_some_iff.mp found
      obtain ⟨before, after, whole, updated⟩ := ih found
      refine ⟨t.label :: labelsOfSlots (t.slots.take i) ++ before,
        after ++ labelsOfSlots (t.slots.drop (i + 1)), ?_, ?_⟩
      · conv_lhs => rw [labels_eq, slots_split held, labelsOfSlots_append,
          labelsOfSlots_cons_some, whole]
        simp
      · intro f
        rw [modifyAt_cons, labels_node, modify_slots_split held, labelsOfSlots_append,
          labelsOfSlots_cons_some, updated f]
        simp

/-- A new child in an empty slot adds exactly its own labels. -/
theorem labels_setSlot_some_perm {t c : SlotTree α} {i : Nat}
    (free : t.slots[i]? = some none) :
    (t.setSlot i (some c)).labels.Perm (c.labels ++ t.labels) := by
  obtain ⟨bound, entry⟩ := List.getElem?_eq_some_iff.mp free
  have split : t.slots = t.slots.take i ++ none :: t.slots.drop (i + 1) := by
    rw [← entry, List.getElem_cons_drop, List.take_append_drop]
  have filled : t.slots.set i (some c) = t.slots.take i ++ some c :: t.slots.drop (i + 1) :=
    List.set_eq_take_append_cons_drop.trans (if_pos bound)
  have whole : t.labels =
      t.label :: (labelsOfSlots (t.slots.take i) ++ labelsOfSlots (t.slots.drop (i + 1))) := by
    conv_lhs => rw [labels_eq, split]
    simp
  rw [setSlot, labels_node, filled, labelsOfSlots_append, labelsOfSlots_cons_some, whole]
  calc
    t.label :: (labelsOfSlots (t.slots.take i) ++
        (c.labels ++ labelsOfSlots (t.slots.drop (i + 1)))) =
      (t.label :: labelsOfSlots (t.slots.take i)) ++
        (c.labels ++ labelsOfSlots (t.slots.drop (i + 1))) := by simp
    List.Perm _ (c.labels ++ ((t.label :: labelsOfSlots (t.slots.take i)) ++
        labelsOfSlots (t.slots.drop (i + 1)))) :=
      List.perm_append_comm_assoc _ _ _

/-- Emptying a slot removes exactly the labels of the child it held. -/
theorem labels_setSlot_none_perm {t c : SlotTree α} {i : Nat} (held : t.child i = some c) :
    t.labels.Perm (c.labels ++ (t.setSlot i none).labels) := by
  obtain ⟨bound, _⟩ := List.getElem?_eq_some_iff.mp (child_eq_some_iff.mp held)
  have emptied : t.slots.set i none = t.slots.take i ++ none :: t.slots.drop (i + 1) :=
    List.set_eq_take_append_cons_drop.trans (if_pos bound)
  have whole : t.labels = t.label :: (labelsOfSlots (t.slots.take i) ++
      (c.labels ++ labelsOfSlots (t.slots.drop (i + 1)))) := by
    conv_lhs => rw [labels_eq, slots_split held, labelsOfSlots_append, labelsOfSlots_cons_some]
  rw [setSlot, labels_node, emptied, labelsOfSlots_append, labelsOfSlots_cons_none, whole]
  calc
    t.label :: (labelsOfSlots (t.slots.take i) ++
        (c.labels ++ labelsOfSlots (t.slots.drop (i + 1)))) =
      (t.label :: labelsOfSlots (t.slots.take i)) ++
        (c.labels ++ labelsOfSlots (t.slots.drop (i + 1))) := by simp
    List.Perm _ (c.labels ++ ((t.label :: labelsOfSlots (t.slots.take i)) ++
        labelsOfSlots (t.slots.drop (i + 1)))) :=
      List.perm_append_comm_assoc _ _ _

/-- Emptying a slot adds no label, whatever the slot holds. -/
theorem labels_setSlot_none_sublist (t : SlotTree α) (i : Nat) :
    (t.setSlot i none).labels.Sublist t.labels := by
  have inSlots : ∀ (slots : List (Option (SlotTree α))) (i : Nat),
      (labelsOfSlots (slots.set i none)).Sublist (labelsOfSlots slots) := by
    intro slots
    induction slots with
    | nil => simp
    | cons slot slots ih =>
        intro i
        cases i with
        | zero => cases slot <;> simp
        | succ i =>
            cases slot with
            | none => simpa using ih i
            | some c => simpa using (ih i).append_left c.labels
  rw [setSlot, labels_node, labels_eq]
  exact (inSlots t.slots i).cons_cons t.label

/-- Filling an empty slot below a position adds exactly the labels of the child. -/
theorem labels_fillAt_perm {t n c : SlotTree α} {path : Path} {i : Nat}
    (found : t.at? path = some n) (free : n.slots[i]? = some none) :
    (t.modifyAt (fun n => n.setSlot i (some c)) path).labels.Perm (c.labels ++ t.labels) := by
  rcases exists_labels_split found with ⟨before, after, whole, updated⟩
  rw [updated, whole]
  calc
    List.Perm (before ++ (n.setSlot i (some c)).labels ++ after)
        (before ++ (c.labels ++ n.labels) ++ after) :=
      ((labels_setSlot_some_perm free).append_left before).append_right after
    List.Perm _ (c.labels ++ (before ++ n.labels ++ after)) := by
      have moved := List.perm_append_comm_assoc before c.labels (n.labels ++ after)
      simpa only [List.append_assoc] using moved

/-- Emptying a slot below a position removes exactly the labels of its child. -/
theorem labels_clearAt_perm {t n c : SlotTree α} {path : Path} {i : Nat}
    (found : t.at? path = some n) (held : n.child i = some c) :
    t.labels.Perm (c.labels ++ (t.modifyAt (fun n => n.setSlot i none) path).labels) := by
  rcases exists_labels_split found with ⟨before, after, whole, updated⟩
  rw [updated, whole]
  calc
    List.Perm (before ++ n.labels ++ after)
        (before ++ (c.labels ++ (n.setSlot i none).labels) ++ after) :=
      ((labels_setSlot_none_perm held).append_left before).append_right after
    List.Perm _ (c.labels ++ (before ++ (n.setSlot i none).labels ++ after)) := by
      have moved := List.perm_append_comm_assoc before c.labels ((n.setSlot i none).labels ++ after)
      simpa only [List.append_assoc] using moved

/-- Relabelling the node at a position replaces its entry in the labels. -/
theorem exists_labels_relabelAt {t n : SlotTree α} {path : Path} (found : t.at? path = some n) :
    ∃ before after, t.labels = before ++ n.label :: after ∧
      ∀ f : α → α, (t.modifyAt (mapLabel f) path).labels = before ++ f n.label :: after := by
  rcases exists_labels_split found with ⟨before, after, whole, updated⟩
  refine ⟨before, labelsOfSlots n.slots ++ after, ?_, ?_⟩
  · rw [whole, labels_eq]
    simp
  · intro f
    rw [updated, mapLabel, labels_node]
    simp

end SlotTree

end Stheno.Tree
