import Stheno.Superpeer.Handlers
import Stheno.Superpeer.Promotion

/-!
# Removing a peer

All three leave handlers make the same update: the peer goes, and with the last
superpeer of a cell the cell goes with everything below it.  The cell of the root
is the exception that the code does not make; freeing it ends the process.
-/

namespace Stheno.Superpeer

open Stheno.Tree Peer

theorem CellInfo.getPeerCount_eq_zero_iff {info : CellInfo} :
    info.getPeerCount = 0 ↔ info.sps = [] :=
  List.length_eq_zero_iff

namespace CellTree

/-- Relabelling a node changes nothing that its two labels agree in. -/
theorem map_relabel {β : Type} {t : CellTree} {path : Path} {n : CellTreeNode} {info : CellInfo}
    {g : CellInfo → β} (found : t.rootNode.at? path = some n) (same : g info = g n.label) :
    (t.modify path (SlotTree.mapLabel fun _ => info)).rootNode.map g = t.rootNode.map g := by
  rw [modify, SlotTree.map_modifyAt (h := id) found]
  · apply SlotTree.modifyAt_eq_self_of_at? _ rfl
    · exact n.map g
    · rw [SlotTree.at?_map, found, Option.map_some]
  · rw [SlotTree.mapLabel, SlotTree.map_node, same, ← SlotTree.map_node, SlotTree.node_label_slots]
    rfl

/-- Relabelling a node by another label of the same node hides no cell. -/
theorem getCellTreeNode_relabel {t : CellTree} {path : Path} {n : CellTreeNode} {info : CellInfo}
    (found : t.rootNode.at? path = some n) (same : CellInfo.SameNode n.label info)
    (cellID : CellID) :
    (t.modify path (SlotTree.mapLabel fun _ => info)).getCellTreeNode cellID =
      t.getCellTreeNode cellID := by
  have searched := congrArg (SlotTree.findPath fun id : CellID => id.sameKey cellID)
    (map_relabel found same.cellID)
  rw [SlotTree.findPath_map, SlotTree.findPath_map] at searched
  exact searched

/-- What a departure does to the tree. -/
inductive Left (t : CellTree) (uuid : UUID) (cellID : CellID) : Result (CellTree × Bool) → Prop where
  /-- The cell is not known. -/
  | unknownCell (unknown : t.getCellTreeNode cellID = none) : Left t uuid cellID (.ok (t, false))
  /-- The cell does not hold the peer. -/
  | unknownPeer {path : Path} {n : CellTreeNode} (known : t.getCellTreeNode cellID = some path)
      (found : t.rootNode.at? path = some n) (absent : n.label.remove uuid = none) :
      Left t uuid cellID (.ok (t, false))
  | peer {path : Path} {n : CellTreeNode} {info : CellInfo}
      (known : t.getCellTreeNode cellID = some path) (found : t.rootNode.at? path = some n)
      (removed : n.label.remove uuid = some info) (staffed : info.sps ≠ []) :
      Left t uuid cellID (.ok (t.modify path (SlotTree.mapLabel fun _ => info), true))
  /-- The last superpeer takes the cell along. -/
  | cell {above : Path} {i : Nat} {n : CellTreeNode} {info : CellInfo}
      (known : t.getCellTreeNode cellID = some (above ++ [i]))
      (found : t.rootNode.at? (above ++ [i]) = some n) (removed : n.label.remove uuid = some info)
      (deserted : info.sps = []) :
      Left t uuid cellID
        (.ok ((t.modify (above ++ [i]) (SlotTree.mapLabel fun _ => info)).modify above
          fun p => p.setSlot i none, true))
  /-- The root cell is freed while the tree still links it. -/
  | root {n : CellTreeNode} {info : CellInfo} (known : t.getCellTreeNode cellID = some [])
      (found : t.rootNode.at? [] = some n) (removed : n.label.remove uuid = some info)
      (deserted : info.sps = []) : Left t uuid cellID (.error .freedNode)

theorem left_leave {t : CellTree} (inv : RepInv t) (uuid : UUID) (cellID : CellID) :
    Left t uuid cellID (t.leave uuid cellID) := by
  unfold leave
  cases known : t.getCellTreeNode cellID with
  | none => exact .unknownCell known
  | some path =>
      rcases getCellTreeNode_eq_some known with ⟨n, found, -⟩
      simp only [found, Option.bind_some]
      cases removed : n.label.remove uuid with
      | none => exact .unknownPeer known found removed
      | some info =>
          have same := CellInfo.sameNode_of_remove removed
          have invRemoved := inv.relabel found same
          have knownRemoved := getCellTreeNode_relabel found same cellID
          rw [known] at knownRemoved
          simp only [CellInfo.getPeerCount_eq_zero_iff]
          by_cases deserted : info.sps = []
          · rw [if_pos deserted]
            rcases List.eq_nil_or_concat' path with rfl | ⟨above, i, rfl⟩
            · rw [invRemoved.removeSubtree_root knownRemoved]
              exact .root known found removed deserted
            · rw [invRemoved.removeSubtree_eq knownRemoved]
              exact .cell known found removed deserted
          · rw [if_neg deserted]
            exact .peer known found removed deserted

end CellTree

/-- The node above a cell, once the cell has been relabelled. -/
theorem CellTree.holder_relabel {t : CellTree} {above : Path} {i : Nat} {n : CellTreeNode}
    (info : CellInfo) (found : t.rootNode.at? (above ++ [i]) = some n) :
    ∃ p, (t.modify (above ++ [i]) (SlotTree.mapLabel fun _ => info)).rootNode.at? above = some p ∧
      p.child i = some (n.mapLabel fun _ => info) := by
  apply RepInv.holder_of_at?
  rw [CellTree.modify, SlotTree.at?_modifyAt_self, found, Option.map_some]

theorem RepInv.leave {t : CellTree} (inv : RepInv t) {uuid : UUID} {cellID : CellID}
    {out : CellTree × Bool} (done : t.leave uuid cellID = .ok out) : RepInv out.1 := by
  have left := CellTree.left_leave inv uuid cellID
  rw [done] at left
  cases left with
  | unknownCell unknown => exact inv
  | unknownPeer known found absent => exact inv
  | peer known found removed staffed => exact inv.relabel found (CellInfo.sameNode_of_remove removed)
  | cell known found removed deserted =>
      rcases CellTree.holder_relabel _ found with ⟨p, atParent, held⟩
      exact (inv.relabel found (CellInfo.sameNode_of_remove removed)).clear atParent held

end Stheno.Superpeer
