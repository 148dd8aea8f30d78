import Stheno.Tree.Edges
import Stheno.Tree.Search

/-!
# Walking a slotted tree

A loop walks through a tree without recursion: it goes down into the next child and
keeps the number of the slot on a stack, and after the last child it climbs by the
pointer of the node to its parent.  Where the pointers are right it visits every node
once, in preorder.
-/

namespace Stheno.Tree.SlotTree

universe u v w

variable {α : Type u} {β : Type v} {κ : Type w}

/-- The next child splits the labels below the remaining slots. -/
theorem labelsOfSlots_of_findIdx? {slots : List (Option (SlotTree α))} {i : Nat}
    (next : slots.findIdx? Option.isSome = some i) :
    ∃ c, slots[i]? = some (some c) ∧
      labelsOfSlots slots = c.labels ++ labelsOfSlots (slots.drop (i + 1)) := by
  induction slots generalizing i with
  | nil => cases next
  | cons slot slots inductionHypothesis =>
      cases slot with
      | some c =>
          simp only [List.findIdx?_cons, Option.isSome_some, if_true, Option.some.injEq] at next
          subst next
          exact ⟨c, rfl, by simp⟩
      | none =>
          simp only [List.findIdx?_cons, Option.isSome_none, Bool.false_eq_true, if_false,
            Option.map_eq_some_iff] at next
          rcases next with ⟨j, later, rfl⟩
          rcases inductionHypothesis later with ⟨c, held, split⟩
          exact ⟨c, held, by simpa using split⟩

theorem labelsOfSlots_of_findIdx?_none {slots : List (Option (SlotTree α))}
    (next : slots.findIdx? Option.isSome = none) : labelsOfSlots slots = [] := by
  apply labelsOfSlots_of_empty
  intro slot member
  have empty := List.findIdx?_eq_none_iff.mp next slot member
  cases slot with
  | none => rfl
  | some c => cases empty

/-- The variables of the loop. -/
structure Walk (β : Type v) where
  node : Option Path
  index : Nat
  stack : List Nat
  value : β

/-- The first slot from `index` on that holds a child. -/
def nextChild (t : SlotTree α) (index : Nat) : Option Nat :=
  ((t.slots.drop index).findIdx? Option.isSome).map fun skipped => index + skipped

section

variable [DecidableEq κ] (key : α → κ) (parent : α → Option κ) (visit : β → α → β)
  (t : SlotTree α)

/-- The value after the round at a node, which is visited when it is entered from above. -/
def entered (n : SlotTree α) (index : Nat) (value : β) : β :=
  if index = 0 then visit value n.label else value

/-- One round at the node at `path`; a pointer that leads nowhere has no next round. -/
def walkStep (walk : Walk β) (path : Path) : Option (Walk β) :=
  match t.at? path with
  | none => none
  | some n =>
      let value := entered visit n walk.index walk.value
      match n.nextChild walk.index with
      | some i => some { node := some (path ++ [i]), index := 0, stack := i :: walk.stack, value }
      | none =>
          match parent n.label with
          | none => some { walk with node := none, value }
          | some pointer =>
              match t.findPath fun label => key label = pointer, walk.stack with
              | some above, i :: stack => some { node := some above, index := i + 1, stack, value }
              | _, _ => none

/-- The loop, for at most `fuel` rounds. -/
def walkLoop : Nat → Walk β → Option β
  | fuel, walk =>
      match walk.node with
      | none => some walk.value
      | some path =>
          match fuel with
          | 0 => none
          | fuel + 1 => (walkStep key parent visit t walk path).bind (walkLoop fuel)

/-- Every node but the root points at the node that holds it, and no key occurs twice. -/
structure Climbable : Prop where
  edges : t.AllEdges fun holder (_ : Nat) child => parent child = some (key holder)
  unshared : (t.labels.map key).Nodup
  root : parent t.label = none

/-- What the loop does after the last child of a node. -/
def climb (n : SlotTree α) (stack : List Nat) (value : β) (fuel : Nat) : Option β :=
  match parent n.label with
  | none => some value
  | some pointer =>
      match t.findPath fun label => key label = pointer, stack with
      | some above, i :: stack =>
          walkLoop key parent visit t fuel { node := some above, index := i + 1, stack, value }
      | _, _ => none

variable {key parent visit t}

/-- Leaving a child enters its holder again behind the slot of the child. -/
theorem climb_child (climbable : Climbable key parent t) {path : Path} {n c : SlotTree α} {i : Nat}
    (found : t.at? path = some n) (held : n.child i = some c) (stack : List Nat) (value : β)
    (fuel : Nat) :
    climb key parent visit t c (i :: stack) value fuel =
      walkLoop key parent visit t fuel { node := some path, index := i + 1, stack, value } := by
  have edge := climbable.edges n (mem_nodes_of_at? found) i c held
  have back : (t.findPath fun label => key label = key n.label) = some path :=
    findPath_key climbable.unshared found
  simp only [climb, edge, back]

theorem walkLoop_of_none {path : Path} {n : SlotTree α} {index : Nat} {stack : List Nat} {value : β}
    (found : t.at? path = some n) (last : n.nextChild index = none) (fuel : Nat) :
    walkLoop key parent visit t (fuel + 1) { node := some path, index, stack, value } =
      climb key parent visit t n stack (entered visit n index value) fuel := by
  rw [walkLoop, climb]
  simp only [walkStep, found, last]
  cases parent n.label with
  | none => cases fuel <;> rfl
  | some pointer =>
      dsimp only
      cases t.findPath fun label => decide (key label = pointer) with
      | none => rfl
      | some above =>
          cases stack with
          | nil => rfl
          | cons i stack => rfl

theorem walkLoop_of_some {path : Path} {n : SlotTree α} {index i : Nat} {stack : List Nat}
    {value : β} (found : t.at? path = some n) (next : n.nextChild index = some i) (fuel : Nat) :
    walkLoop key parent visit t (fuel + 1) { node := some path, index, stack, value } =
      walkLoop key parent visit t fuel
        { node := some (path ++ [i]), index := 0, stack := i :: stack,
          value := entered visit n index value } := by
  rw [walkLoop]
  simp only [walkStep, found, next]
  rfl

/-- A round goes on with the value of the node it is at. -/
theorem value_of_walkStep {walk next : Walk β} {path : Path}
    (stepped : walkStep key parent visit t walk path = some next) :
    ∃ n, t.at? path = some n ∧ next.value = entered visit n walk.index walk.value := by
  unfold walkStep at stepped
  cases found : t.at? path with
  | none =>
      rw [found] at stepped
      cases stepped
  | some n =>
      refine ⟨n, rfl, ?_⟩
      rw [found] at stepped
      dsimp only at stepped
      split at stepped
      · cases stepped
        rfl
      · split at stepped
        · cases stepped
          rfl
        · split at stepped
          · cases stepped
            rfl
          · cases stepped

/-- From slot `index` of a node on, the walk folds over the labels below these slots
and then leaves the node; it takes two rounds for each of them and one more. -/
theorem walkLoop_eq_climb (climbable : Climbable key parent t) (n : SlotTree α) :
    ∀ (path : Path), t.at? path = some n → ∀ (index : Nat) (stack : List Nat) (value : β)
      (fuel : Nat),
      walkLoop key parent visit t (2 * (labelsOfSlots (n.slots.drop index)).length + 1 + fuel)
          { node := some path, index, stack, value } =
        climb key parent visit t n stack
          ((labelsOfSlots (n.slots.drop index)).foldl visit (entered visit n index value)) fuel := by
  induction n using SlotTree.induction with
  | node label slots inductionHypothesis =>
      intro path found index
      -- the number of slots that remain
      have onRest : ∀ (rest index : Nat), slots.length - index = rest → ∀ (stack : List Nat)
          (value : β) (fuel : Nat),
          walkLoop key parent visit t (2 * (labelsOfSlots (slots.drop index)).length + 1 + fuel)
              { node := some path, index, stack, value } =
            climb key parent visit t (.node label slots) stack
              ((labelsOfSlots (slots.drop index)).foldl visit
                (entered visit (.node label slots) index value)) fuel := by
        intro rest
        induction rest using Nat.strongRecOn with
        | ind rest restHypothesis =>
            intro index count stack value fuel
            cases next : (slots.drop index).findIdx? Option.isSome with
            | none =>
                have last : (SlotTree.node label slots).nextChild index = none := by
                  simp [nextChild, next]
                rw [labelsOfSlots_of_findIdx?_none next, List.length_nil, Nat.mul_zero, Nat.zero_add,
                  Nat.add_comm 1 fuel, walkLoop_of_none found last, List.foldl_nil]
            | some skipped =>
                have sibling : (SlotTree.node label slots).nextChild index = some (index + skipped) := by
                  simp [nextChild, next]
                rcases labelsOfSlots_of_findIdx? next with ⟨c, held, split⟩
                rw [List.getElem?_drop] at held
                rw [List.drop_drop, ← Nat.add_assoc] at split
                have heldChild : (SlotTree.node label slots).child (index + skipped) = some c :=
                  child_eq_some_iff.mpr held
                have foundChild := at?_snoc found heldChild
                have bound := (List.getElem?_eq_some_iff.mp held).1
                have below := inductionHypothesis c (List.mem_of_getElem? held) _ foundChild 0
                have after := restHypothesis (slots.length - (index + skipped + 1)) (by omega) _ rfl
                simp only [List.drop_zero] at below
                have rounds : 2 * (labelsOfSlots (slots.drop index)).length + 1 + fuel =
                    2 * (labelsOfSlots c.slots).length + 1 +
                      (2 * (labelsOfSlots (slots.drop (index + skipped + 1))).length + 1 + fuel) + 1 := by
                  rw [split, labels_eq, List.length_append, List.length_cons]
                  omega
                rw [rounds, walkLoop_of_some found sibling, below, climb_child climbable found heldChild,
                  after, split, labels_eq, List.foldl_append, List.foldl_cons]
                rfl
      exact onRest _ index rfl

/-- The walk visits every node once, in preorder, and ends: every node is entered once
and left once. -/
theorem walkLoop_eq (climbable : Climbable key parent t) (value : β) :
    walkLoop key parent visit t (2 * t.nodes.length)
        { node := some [], index := 0, stack := [], value } =
      some (t.labels.foldl visit value) := by
  have walked := @walkLoop_eq_climb _ _ _ _ _ _ visit _ climbable t [] (at?_nil _) 0 [] value 1
  have rounds : 2 * t.nodes.length =
      2 * (labelsOfSlots (t.slots.drop 0)).length + 1 + 1 := by
    rw [nodes_eq, List.drop_zero, labelsOfSlots, List.length_map, List.length_cons]
    omega
  rw [rounds, walked, climb]
  simp only [climbable.root, List.drop_zero]
  rw [labels_eq, List.foldl_cons]
  rfl

theorem entered_of_kept {value : β} (kept : ∀ label, visit value label = value) (n : SlotTree α)
    (index : Nat) : entered visit n index value = value := by
  rw [entered]
  split
  · exact kept n.label
  · rfl

/-- A value that no visit changes is the one at the end. -/
theorem value_of_walkLoop {walk : Walk β} {fuel : Nat} {result : β}
    (kept : ∀ label, visit walk.value label = walk.value)
    (walked : walkLoop key parent visit t fuel walk = some result) : result = walk.value := by
  induction fuel generalizing walk with
  | zero =>
      rcases walk with ⟨node, index, stack, value⟩
      cases node with
      | none =>
          cases walked
          rfl
      | some path => cases walked
  | succ fuel inductionHypothesis =>
      rcases walk with ⟨node, index, stack, value⟩
      cases node with
      | none =>
          cases walked
          rfl
      | some path =>
          rw [walkLoop] at walked
          rcases Option.bind_eq_some_iff.mp walked with ⟨next, stepped, walked⟩
          rcases value_of_walkStep stepped with ⟨n, -, after⟩
          have same : next.value = value := after.trans (entered_of_kept kept n index)
          have keptNext : ∀ label, visit next.value label = next.value := by
            rw [same]
            exact kept
          exact (inductionHypothesis keptNext walked).trans same

end

end Stheno.Tree.SlotTree
