import Stheno.Superpeer.Reach
import Stheno.Superpeer.Succession

/-!
# Pruning the children of the root

A new coordinator keeps the subtrees of the coordinators that have a channel to it and
drops the others.  The call asks every child cell for its coordinator, so that a cell
without superpeers ends it.
-/

namespace Stheno.Superpeer

open Stheno.Tree Peer

namespace CellTree

/-- The coordinator of the cell is in the list. -/
def isListed (l : List UUID) (child : CellTreeNode) : Bool :=
  child.label.getCoordinator.any fun coord => l.any (·.sameKey coord.pid)

theorem isListed_iff {l : List UUID} {child : CellTreeNode} :
    isListed l child = true ↔ ∃ coord ∈ child.label.getCoordinator, coord.pid ∈ l := by
  rw [isListed, Option.any_eq_true_iff_get]
  constructor
  · rintro ⟨led, found⟩
    rcases List.any_eq_true.mp found with ⟨uuid, listed, same⟩
    refine ⟨_, Option.get_mem led, ?_⟩
    rw [← UUID.sameKey_iff.mp same]
    exact listed
  · rintro ⟨coord, led, listed⟩
    refine ⟨Option.isSome_of_mem led, ?_⟩
    rw [Option.get_of_mem _ led]
    exact List.any_eq_true.mpr ⟨coord.pid, listed, UUID.sameKey_iff.mpr rfl⟩

theorem pruneSlot_of_led {l : List UUID} {slot : Option CellTreeNode}
    (led : ∀ child, slot = some child → child.label.getCoordinator ≠ none) :
    pruneSlot l slot = .ok (slot.filter (isListed l)) := by
  cases slot with
  | none => rfl
  | some child =>
      rcases Option.ne_none_iff_exists'.mp (led child rfl) with ⟨coord, leads⟩
      simp only [pruneSlot, leads, Option.filter_some, isListed, Option.any_some]

theorem mapM_pruneSlot {l : List UUID} {slots : List (Option CellTreeNode)}
    (led : ∀ child, some child ∈ slots → child.label.getCoordinator ≠ none) :
    slots.mapM (pruneSlot l) = .ok (slots.map (Option.filter (isListed l))) := by
  induction slots with
  | nil => rfl
  | cons slot slots inductionHypothesis =>
      have here := pruneSlot_of_led (l := l) fun child equal => led child (equal ▸ List.mem_cons_self)
      have rest := inductionHypothesis fun child member => led child (List.mem_cons_of_mem _ member)
      rw [List.mapM_cons, here, rest, List.map_cons]
      rfl

/-- What pruning leaves where every child cell has a superpeer. -/
theorem pruneSubtrees_of_led {t : CellTree} (led : t.ChildrenLed) (l : List UUID) :
    t.pruneSubtrees l =
      .ok ⟨.node t.rootNode.label (t.rootNode.slots.map (Option.filter (isListed l)))⟩ := by
  rw [pruneSubtrees, mapM_pruneSlot led]
  rfl

/-- The children of the root whose coordinators are listed stay as they are in their
slots, and the others are gone. -/
structure Pruned (t : CellTree) (l : List UUID) (after : CellTree) : Prop where
  root : after.rootNode.label = t.rootNode.label
  span : CellTreeNode.treeSpan after.rootNode = CellTreeNode.treeSpan t.rootNode
  children : ∀ i c, after.rootNode.child i = some c ↔
    t.rootNode.child i = some c ∧ ∃ coord ∈ c.label.getCoordinator, coord.pid ∈ l

theorem pruned_of_led {t : CellTree} (l : List UUID) :
    t.Pruned l ⟨.node t.rootNode.label (t.rootNode.slots.map (Option.filter (isListed l)))⟩ where
  root := SlotTree.label_node _ _
  span := by
    rw [CellTreeNode.treeSpan, SlotTree.slots_node, List.length_map, CellTreeNode.treeSpan]
  children := by
    intro i c
    rw [SlotTree.child_eq_some_iff, SlotTree.slots_node, List.getElem?_map,
      SlotTree.child_eq_some_iff, Option.map_eq_some_iff, ← isListed_iff]
    constructor
    · rintro ⟨slot, held, kept⟩
      rw [Option.filter_eq_some_iff] at kept
      exact ⟨kept.1 ▸ held, kept.2⟩
    · rintro ⟨held, listed⟩
      exact ⟨some c, held, Option.filter_eq_some_iff.mpr ⟨rfl, listed⟩⟩

/-- Pruning leaves the listed children exactly where every child cell of the root has a
superpeer. -/
theorem pruned_iff (t : CellTree) (l : List UUID) :
    (∃ after, t.pruneSubtrees l = .ok after ∧ t.Pruned l after) ↔
      ∀ i c, t.rootNode.child i = some c → c.label.sps ≠ [] := by
  have led : t.ChildrenLed ↔ ∀ i c, t.rootNode.child i = some c → c.label.sps ≠ [] := by
    constructor
    · intro led i c held
      rw [Ne, ← List.head?_eq_none_iff]
      exact led c (SlotTree.mem_slots_of_child held)
    · intro staffed c member
      rcases SlotTree.exists_child_of_mem_slots member with ⟨i, held⟩
      rw [CellInfo.getCoordinator, Ne, List.head?_eq_none_iff]
      exact staffed i c held
  rw [← led]
  constructor
  · rintro ⟨after, done, -⟩
    exact pruneSubtrees_ok_iff.mp ⟨after, done⟩
  · intro led
    exact ⟨_, pruneSubtrees_of_led led l, pruned_of_led l⟩

/-- A cell that was created for a request and that nobody has joined yet. -/
theorem exists_pruning_crashes :
    ¬∀ t : CellTree, Reachable (fun _ _ => False) (.ok t) → ∀ l : List UUID,
      ∃ after, t.pruneSubtrees l = .ok after ∧ t.Pruned l after := by
  intro prunes
  have created : ∃ t, ((CellTree.new defaults ⟨[1]⟩).createCell defaults ⟨[2]⟩).map Prod.fst = .ok t ∧
      t.pruneSubtrees [] = .error .nullDereference :=
    ⟨_, rfl, rfl⟩
  rcases created with ⟨t, made, crashes⟩
  have spans : defaults.PositiveSpans := fun _ => two_pos
  have reached : Reachable (fun _ _ => False) (.ok t) := by
    rw [← made]
    exact .createCell (.fresh defaults ⟨[1]⟩ spans) defaults ⟨[2]⟩ spans
  rcases prunes t reached [] with ⟨after, done, -⟩
  rw [crashes] at done
  cases done

end CellTree

end Stheno.Superpeer
