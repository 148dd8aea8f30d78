import Mathlib.Algebra.BigOperators.Group.Finset.Basic
import Mathlib.Algebra.Group.Action.Defs
import Mathlib.Algebra.Order.BigOperators.Group.Finset
import Stheno.Tree.Edges

/-!
# The levels of a slotted tree

The nodes at one distance from the root form a level.  A tree whose levels are all full
but the last is no higher than any other tree with as many nodes and no larger spans.
-/

namespace Stheno.Tree.SlotTree

universe u v

variable {α : Type u} {β : Type v}

/-- The children of a node, slot by slot. -/
def children (t : SlotTree α) : List (SlotTree α) :=
  t.slots.filterMap id

theorem mem_children_iff {t c : SlotTree α} : c ∈ t.children ↔ some c ∈ t.slots := by
  simp [children]

/-- The nodes at a distance below a node, from left to right. -/
def level : Nat → SlotTree α → List (SlotTree α)
  | 0, t => [t]
  | d + 1, t => t.children.flatMap (level d)

theorem mem_level_iff {d : Nat} {t n : SlotTree α} :
    n ∈ t.level d ↔ ∃ path, path.length = d ∧ t.at? path = some n := by
  induction d generalizing t with
  | zero =>
      rw [level, List.mem_singleton]
      constructor
      · rintro rfl
        exact ⟨[], rfl, at?_nil n⟩
      · rintro ⟨path, short, found⟩
        rw [List.length_eq_zero_iff.mp short, at?_nil] at found
        exact (Option.some.inj found).symm
  | succ d inductionHypothesis =>
      rw [level, List.mem_flatMap]
      constructor
      · rintro ⟨c, member, below⟩
        rcases inductionHypothesis.mp below with ⟨path, length, found⟩
        rcases exists_child_of_mem_slots (mem_children_iff.mp member) with ⟨i, held⟩
        refine ⟨i :: path, by rw [List.length_cons, length], ?_⟩
        rw [at?_cons, held, Option.bind_some, found]
      · rintro ⟨path, length, found⟩
        cases path with
        | nil => cases length
        | cons i path =>
            rw [at?_cons] at found
            rcases Option.bind_eq_some_iff.mp found with ⟨c, held, below⟩
            rw [List.length_cons, Nat.succ_inj] at length
            exact ⟨c, mem_children_iff.mpr (mem_slots_of_child held),
              inductionHypothesis.mpr ⟨path, length, below⟩⟩

/-! ## The height -/

mutual

/-- The distance of the deepest node. -/
def height : SlotTree α → Nat
  | .node _ slots => heightOfSlots slots

def heightOfSlots : List (Option (SlotTree α)) → Nat
  | [] => 0
  | none :: slots => heightOfSlots slots
  | some c :: slots => max (height c + 1) (heightOfSlots slots)

end

theorem exists_child_of_heightOfSlots {slots : List (Option (SlotTree α))}
    (positive : 0 < heightOfSlots slots) :
    ∃ c, some c ∈ slots ∧ heightOfSlots slots = c.height + 1 := by
  induction slots with
  | nil => cases positive
  | cons slot slots inductionHypothesis =>
      cases slot with
      | none =>
          rw [heightOfSlots] at positive ⊢
          rcases inductionHypothesis positive with ⟨c, member, height⟩
          exact ⟨c, List.mem_cons_of_mem _ member, height⟩
      | some first =>
          rw [heightOfSlots]
          rcases Nat.le_total (heightOfSlots slots) (first.height + 1) with lower | higher
          · exact ⟨first, List.mem_cons_self, Nat.max_eq_left lower⟩
          · rcases inductionHypothesis (Nat.lt_of_lt_of_le (Nat.succ_pos _) higher) with
              ⟨c, member, height⟩
            refine ⟨c, List.mem_cons_of_mem _ member, ?_⟩
            rw [Nat.max_eq_right higher, height]

/-- There is a node at every distance up to the height; here, at the height itself. -/
theorem exists_at?_height (t : SlotTree α) :
    ∃ path n, path.length = t.height ∧ t.at? path = some n := by
  induction t using SlotTree.induction with
  | node a slots inductionHypothesis =>
      rw [height]
      rcases Nat.eq_zero_or_pos (heightOfSlots slots) with flat | positive
      · exact ⟨[], _, flat.symm, at?_nil _⟩
      · rcases exists_child_of_heightOfSlots positive with ⟨c, member, height⟩
        rcases inductionHypothesis c member with ⟨path, n, length, found⟩
        have inSlots : some c ∈ (node a slots).slots := by
          rw [slots_node]
          exact member
        rcases exists_child_of_mem_slots inSlots with ⟨i, held⟩
        refine ⟨i :: path, n, ?_, ?_⟩
        · rw [List.length_cons, length, height]
        · rw [at?_cons, held, Option.bind_some, found]

/-! ## The size of a level -/

theorem length_children_le (t : SlotTree α) : t.children.length ≤ t.slots.length :=
  List.length_filterMap_le _ _

theorem length_children_of_full {t : SlotTree α} (full : ∀ slot ∈ t.slots, slot ≠ none) :
    t.children.length = t.slots.length := by
  rw [children]
  generalize t.slots = slots at full
  induction slots with
  | nil => rfl
  | cons slot slots inductionHypothesis =>
      have rest := inductionHypothesis fun slot member => full slot (List.mem_cons_of_mem _ member)
      rcases Option.ne_none_iff_exists'.mp (full slot List.mem_cons_self) with ⟨c, rfl⟩
      rw [@List.filterMap_cons_some _ _ id (some c) slots c rfl, List.length_cons, List.length_cons,
        rest]

/-- Where the nodes above a level have `s` children each, the level has `s ^ d` nodes. -/
theorem length_level_of_full {s d : Nat} {t : SlotTree α}
    (full : ∀ path n, path.length < d → t.at? path = some n →
      n.slots.length = s ∧ ∀ slot ∈ n.slots, slot ≠ none) : (t.level d).length = s ^ d := by
  induction d generalizing t with
  | zero => rfl
  | succ d inductionHypothesis =>
      have own := full [] t (Nat.succ_pos d) (at?_nil t)
      have each : ∀ c ∈ t.children, (c.level d).length = s ^ d := by
        intro c member
        apply inductionHypothesis
        intro path n shorter found
        rcases exists_child_of_mem_slots (mem_children_iff.mp member) with ⟨i, held⟩
        apply full (i :: path) n
        · rw [List.length_cons]
          exact Nat.succ_lt_succ shorter
        · rw [at?_cons, held, Option.bind_some, found]
      rw [level, List.length_flatMap, List.map_congr_left each, List.map_const', List.sum_replicate_nat,
        length_children_of_full own.2, own.1, pow_succ, Nat.mul_comm]

/-- With spans of at most `s` a level has at most `s ^ d` nodes. -/
theorem length_level_le {s : Nat} {t : SlotTree α} (spans : ∀ n ∈ t.nodes, n.slots.length ≤ s)
    (d : Nat) : (t.level d).length ≤ s ^ d := by
  induction d generalizing t with
  | zero => exact Nat.le_refl 1
  | succ d inductionHypothesis =>
      have each : ∀ c ∈ t.children, (c.level d).length ≤ s ^ d := by
        intro c member
        apply inductionHypothesis
        intro n inChild
        exact spans n (mem_nodes_iff.mpr (Or.inr ⟨c, mem_children_iff.mp member, inChild⟩))
      have few : t.children.length ≤ s :=
        Nat.le_trans t.length_children_le (spans t (mem_nodes_self t))
      rw [level, List.length_flatMap, pow_succ, Nat.mul_comm]
      calc
        (t.children.map fun c => (c.level d).length).sum ≤
            (t.children.map fun c => (c.level d).length).length • s ^ d := by
          apply List.sum_le_card_nsmul
          intro length member
          rcases List.mem_map.mp member with ⟨c, inChildren, rfl⟩
          exact each c inChildren
        _ = t.children.length * s ^ d := by rw [List.length_map, smul_eq_mul]
        _ ≤ s * s ^ d := Nat.mul_le_mul_right _ few

/-- The nodes of a tree are those of its levels. -/
theorem length_nodes (t : SlotTree α) {h : Nat} (high : t.height ≤ h) :
    t.nodes.length = ∑ d ∈ Finset.range (h + 1), (t.level d).length := by
  induction t using SlotTree.induction generalizing h with
  | node a slots inductionHypothesis =>
      have inSlots : ∀ rest : List (Option (SlotTree α)), (∀ c, some c ∈ rest → some c ∈ slots) →
          heightOfSlots rest ≤ h → (nodesOfSlots rest).length =
            ∑ d ∈ Finset.range h, ((rest.filterMap id).flatMap (level d)).length := by
        intro rest
        induction rest with
        | nil =>
            intro _ _
            simp [nodesOfSlots]
        | cons slot rest restHypothesis =>
            intro among bound
            have amongRest : ∀ c, some c ∈ rest → some c ∈ slots :=
              fun c member => among c (List.mem_cons_of_mem _ member)
            cases slot with
            | none => exact restHypothesis amongRest bound
            | some c =>
                rw [heightOfSlots] at bound
                have lower : c.height + 1 ≤ h := Nat.le_trans (Nat.le_max_left _ _) bound
                have later := restHypothesis amongRest (Nat.le_trans (Nat.le_max_right _ _) bound)
                have positive : h - 1 + 1 = h := Nat.sub_add_cancel (Nat.le_trans (Nat.succ_pos _) lower)
                have here := @inductionHypothesis c (among c List.mem_cons_self) (h - 1)
                  (Nat.le_sub_of_add_le lower)
                rw [positive] at here
                rw [nodesOfSlots, List.length_append, here, later, ← Finset.sum_add_distrib]
                apply Finset.sum_congr rfl
                intro d _
                rw [@List.filterMap_cons_some _ _ id (some c) rest c rfl, List.flatMap_cons,
                  List.length_append]
      rw [height] at high
      rw [nodes_eq, List.length_cons, slots_node, inSlots slots (fun c member => member) high,
        Finset.sum_range_succ']
      rfl

/-- A tree with full levels above the last is no higher than another one with at least as
many nodes and no larger spans. -/
theorem height_le_height {s : Nat} {t : SlotTree α} {other : SlotTree β}
    (full : ∀ d < t.height, (t.level d).length = s ^ d)
    (spans : ∀ n ∈ other.nodes, n.slots.length ≤ s)
    (many : t.nodes.length ≤ other.nodes.length) : t.height ≤ other.height := by
  by_contra higher
  have lower : other.height + 1 ≤ t.height := Nat.lt_of_not_le higher
  have last : 0 < (t.level t.height).length := by
    rcases t.exists_at?_height with ⟨path, n, length, found⟩
    exact List.length_pos_of_mem (mem_level_iff.mpr ⟨path, length, found⟩)
  have fewer : other.nodes.length < t.nodes.length := by
    calc
      other.nodes.length = ∑ d ∈ Finset.range (other.height + 1), (other.level d).length :=
        other.length_nodes (Nat.le_refl _)
      _ ≤ ∑ d ∈ Finset.range (other.height + 1), s ^ d :=
        Finset.sum_le_sum fun d _ => length_level_le spans d
      _ ≤ ∑ d ∈ Finset.range t.height, s ^ d := by
        apply Finset.sum_le_sum_of_subset
        exact Finset.range_mono lower
      _ = ∑ d ∈ Finset.range t.height, (t.level d).length :=
        Finset.sum_congr rfl fun d inRange => (full d (Finset.mem_range.mp inRange)).symm
      _ < ∑ d ∈ Finset.range (t.height + 1), (t.level d).length := by
        rw [Finset.sum_range_succ]
        exact Nat.lt_add_of_pos_right last
      _ = t.nodes.length := (t.length_nodes (Nat.le_refl _)).symm
  exact absurd many (Nat.not_le_of_lt fewer)

/-! ## Filling level by level -/

/-- Changing a child leaves no slot free that was not. -/
theorem none_mem_of_modify {slots : List (Option (SlotTree α))} {k : Nat}
    {f : SlotTree α → SlotTree α} (free : none ∈ slots.modify k (Option.map f)) : none ∈ slots := by
  rcases List.getElem?_of_mem free with ⟨j, atSlot⟩
  rw [List.getElem?_modify] at atSlot
  rcases Option.map_eq_some_iff.mp atSlot with ⟨slot, inSlot, emptied⟩
  have empty : slot = none := by
    split at emptied
    · exact Option.map_eq_none_iff.mp emptied
    · exact emptied
  exact empty ▸ List.mem_of_getElem? inSlot

/-- Filling a slot with a leaf adds one position; the other nodes keep their spans and get
no free slot. -/
theorem at?_fillAt {t n c m : SlotTree α} {path other : Path} {i : Nat}
    (found : t.at? path = some n) (free : n.slots[i]? = some none) (leaf : ∀ j, c.child j = none)
    (foundAfter : (t.modifyAt (fun n => n.setSlot i (some c)) path).at? other = some m) :
    (other = path ++ [i] ∧ m = c) ∨
      ∃ before, t.at? other = some before ∧ m.slots.length = before.slots.length ∧
        (none ∈ m.slots → none ∈ before.slots) := by
  induction path generalizing t other with
  | nil =>
      rw [at?_nil, Option.some.injEq] at found
      subst found
      rw [modifyAt_nil] at foundAfter
      cases other with
      | nil =>
          rw [at?_nil, Option.some.injEq] at foundAfter
          refine Or.inr ⟨t, at?_nil t, ?_, fun _ => List.mem_of_getElem? free⟩
          rw [← foundAfter, length_slots_setSlot]
      | cons j rest =>
          rw [at?_cons, child_setSlot] at foundAfter
          split at foundAfter
          · rename_i here
            rcases here with ⟨rfl, -⟩
            rw [Option.bind_some] at foundAfter
            cases rest with
            | nil =>
                rw [at?_nil, Option.some.injEq] at foundAfter
                exact Or.inl ⟨rfl, foundAfter.symm⟩
            | cons k rest =>
                rw [at?_cons, leaf k] at foundAfter
                cases foundAfter
          · refine Or.inr ⟨m, ?_, rfl, id⟩
            rw [at?_cons, foundAfter]
  | cons k path inductionHypothesis =>
      rw [at?_cons] at found
      rcases Option.bind_eq_some_iff.mp found with ⟨d, held, below⟩
      cases other with
      | nil =>
          rw [at?_nil, Option.some.injEq, modifyAt_cons] at foundAfter
          refine Or.inr ⟨t, at?_nil t, ?_, ?_⟩
          · rw [← foundAfter, slots_node, List.length_modify]
          · intro freeAfter
            rw [← foundAfter, slots_node] at freeAfter
            exact none_mem_of_modify freeAfter
      | cons j rest =>
          rw [at?_cons, modifyAt_cons_child] at foundAfter
          by_cases same : k = j
          · subst same
            rw [if_pos rfl, held, Option.map_some, Option.bind_some] at foundAfter
            rcases inductionHypothesis below foundAfter with ⟨rfl, isNew⟩ | ⟨before, old, kept⟩
            · exact Or.inl ⟨rfl, isNew⟩
            · refine Or.inr ⟨before, ?_, kept⟩
              rw [at?_cons, held, Option.bind_some, old]
          · rw [if_neg same] at foundAfter
            refine Or.inr ⟨m, ?_, rfl, id⟩
            rw [at?_cons, foundAfter]

/-- All spans are `s`, and no node is more than one level below a node with a free slot. -/
structure Even (s : Nat) (t : SlotTree α) : Prop where
  spans : ∀ n ∈ t.nodes, n.slots.length = s
  even : ∀ {path other : Path} {n m : SlotTree α}, t.at? path = some n → none ∈ n.slots →
    t.at? other = some m → other.length ≤ path.length + 1

namespace Even

variable {s : Nat} {t : SlotTree α}

theorem leaf {a : α} {slots : List (Option (SlotTree α))} (empty : ∀ slot ∈ slots, slot = none) :
    Even slots.length (node a slots) where
  spans := by
    intro n member
    rcases mem_nodes_iff.mp member with rfl | ⟨c, inSlots, -⟩
    · rfl
    · cases empty _ inSlots
  even := by
    intro path other n m _ _ foundM
    cases other with
    | nil => exact Nat.zero_le _
    | cons i other =>
        rw [at?_cons] at foundM
        rcases Option.bind_eq_some_iff.mp foundM with ⟨c, held, -⟩
        cases empty _ (mem_slots_of_child held)

/-- A leaf below a shallowest node with a free slot keeps the levels even. -/
theorem fill (even : Even s t) {n c : SlotTree α} {path : Path} {i : Nat}
    (found : t.at? path = some n) (free : n.slots[i]? = some none)
    (shallowest : ∀ other m, t.at? other = some m → none ∈ m.slots → path.length ≤ other.length)
    (isLeaf : ∀ j, c.child j = none) (span : c.slots.length = s) :
    Even s (t.modifyAt (fun n => n.setSlot i (some c)) path) where
  spans := by
    intro m member
    rcases exists_at?_of_mem_nodes member with ⟨other, foundM⟩
    rcases at?_fillAt found free isLeaf foundM with ⟨-, rfl⟩ | ⟨before, old, equal, -⟩
    · exact span
    · exact equal.trans (even.spans before (mem_nodes_of_at? old))
  even := by
    intro above other a m foundA freeA foundM
    have deep : path.length ≤ above.length := by
      rcases at?_fillAt found free isLeaf foundA with ⟨rfl, -⟩ | ⟨before, old, -, wasFree⟩
      · rw [List.length_append]
        exact Nat.le_add_right _ _
      · exact shallowest above before old (wasFree freeA)
    rcases at?_fillAt found free isLeaf foundM with ⟨rfl, -⟩ | ⟨beforeM, oldM, -, -⟩
    · rw [List.length_append, List.length_singleton]
      exact Nat.succ_le_succ deep
    · rcases at?_fillAt found free isLeaf foundA with ⟨rfl, -⟩ | ⟨before, old, -, wasFree⟩
      · have near := even.even found (List.mem_of_getElem? free) oldM
        rw [List.length_append]
        exact Nat.le_trans near (Nat.succ_le_succ (Nat.le_add_right _ _))
      · exact even.even old (wasFree freeA) oldM

/-- Every level but the last is full. -/
theorem length_level (even : Even s t) {d : Nat} (above : d < t.height) :
    (t.level d).length = s ^ d := by
  rcases t.exists_at?_height with ⟨lowest, bottom, length, foundBottom⟩
  apply length_level_of_full
  intro path n shorter found
  refine ⟨even.spans n (mem_nodes_of_at? found), ?_⟩
  rintro slot member rfl
  have near := even.even found member foundBottom
  rw [length] at near
  exact absurd (Nat.lt_of_le_of_lt near (Nat.succ_lt_succ shorter)) (Nat.not_lt_of_le above)

/-- No tree with as many nodes and no larger spans is lower. -/
theorem height_le (even : Even s t) {other : SlotTree β}
    (spans : ∀ n ∈ other.nodes, n.slots.length ≤ s) (many : t.nodes.length ≤ other.nodes.length) :
    t.height ≤ other.height :=
  height_le_height (fun _ above => even.length_level above) spans many

end Even

end Stheno.Tree.SlotTree
