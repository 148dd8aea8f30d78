import Stheno.Superpeer.Contents
import Stheno.Superpeer.Dispatch
import Stheno.Superpeer.Transfer

/-!
# Rebinding along a chain of coordinators

A cell that lost its parent opens a channel to a new parent with a rebind packet,
which the new parent grafts and forwards.  The forwarded packet arrives on an open
channel, where its type is not known, so only the new parent learns of the subtree.
-/

namespace Stheno.Superpeer

open Stheno.Tree Peer

namespace CellTree

/-- The position is that of the parent cell, or the root for a null identifier. -/
def IsParent (this : CellTree) (parentCellID : Option CellID) (path : Path) : Prop :=
  match parentCellID with
  | none => path = []
  | some parentCellID => ∃ n, this.rootNode.at? path = some n ∧ n.label.cellID = parentCellID

/-- The tree holds the root cell of a subtree in a slot of the parent, with the
cells and peers of the subtree below it. -/
def Holds (this subTree : CellTree) (parentCellID : Option CellID) : Prop :=
  ∃ path i c, this.IsParent parentCellID path ∧ this.rootNode.at? (path ++ [i]) = some c ∧
    c.label.cellID = subTree.getRootCellID ∧
    c.labels.map CellInfo.cellID = subTree.cellIDs ∧ c.collect CellInfo.entries = subTree.entries

/-- The tree can accept a subtree: its root cell is new and the parent has an empty slot. -/
def CanAccept (this subTree : CellTree) (parentCellID : Option CellID) : Prop :=
  subTree.getRootCellID ∉ this.cellIDs ∧
    ∃ path n i, this.subtreeParent parentCellID = some path ∧ this.rootNode.at? path = some n ∧
      CellTreeNode.firstFree n = some i

theorem not_holds_of_absent {t s : CellTree} {parentCellID : Option CellID}
    (absent : s.getRootCellID ∉ t.cellIDs) : ¬t.Holds s parentCellID := by
  rintro ⟨path, i, c, -, found, same, -, -⟩
  apply absent
  rw [← same]
  exact List.mem_map_of_mem (SlotTree.mem_labels_iff.mpr ⟨c, SlotTree.mem_nodes_of_at? found, rfl⟩)

theorem holds_graft {t s : CellTree} {parentCellID : Option CellID} {path : Path}
    {n : CellTreeNode} {i : Nat} (under : t.subtreeParent parentCellID = some path)
    (found : t.rootNode.at? path = some n) (free : CellTreeNode.firstFree n = some i) :
    (t.modify path (graft s.rootNode i)).Holds s parentCellID := by
  have bound := (List.getElem?_eq_some_iff.mp (CellTreeNode.firstFree_eq_some free)).1
  have foundAfter : (t.modify path (graft s.rootNode i)).rootNode.at? path =
      some (graft s.rootNode i n) := by
    rw [modify, SlotTree.at?_modifyAt_self, found, Option.map_some]
  have isParent : (t.modify path (graft s.rootNode i)).IsParent parentCellID path := by
    cases parentCellID with
    | none =>
        cases under
        rfl
    | some parentCellID =>
        rcases getCellTreeNode_eq_some under with ⟨m, foundM, same⟩
        cases found.symm.trans foundM
        exact ⟨_, foundAfter, same⟩
  have heldAfter : (graft s.rootNode i n).child i = some (CellTreeNode.grafted s.rootNode n i) := by
    rw [graft, SlotTree.child_setSlot, if_pos ⟨rfl, bound⟩]
    rfl
  refine ⟨path, i, CellTreeNode.grafted s.rootNode n i, isParent,
    SlotTree.at?_snoc foundAfter heldAfter, ?_, ?_, ?_⟩
  · rw [CellTreeNode.grafted, CellTreeNode.setParent, SlotTree.mapLabel, SlotTree.label_node,
      CellTreeNode.label_setLocation]
    rfl
  · exact CellTreeNode.map_labels_grafted CellInfo.cellID (fun _ _ _ => rfl) (fun _ _ => rfl) _ _ _
  · rw [SlotTree.collect, List.flatMap_def,
      CellTreeNode.map_labels_grafted CellInfo.entries (fun _ _ _ => rfl) (fun _ _ => rfl)]
    rfl

namespace SameUpToPointers

variable {t copy : CellTree}

theorem cellIDs (same : t.SameUpToPointers copy) : copy.cellIDs = t.cellIDs :=
  same.labels_map CellInfo.cellID fun _ => rfl

theorem entries (same : t.SameUpToPointers copy) : copy.entries = t.entries := by
  have held := same.labels_map CellInfo.entries fun _ => rfl
  rw [CellTree.entries, CellTree.entries, SlotTree.collect, SlotTree.collect, List.flatMap_def,
    List.flatMap_def, held]

theorem getRootCellID (same : t.SameUpToPointers copy) :
    copy.getRootCellID = t.getRootCellID := by
  have root := congrArg SlotTree.label same
  rw [SlotTree.label_map, SlotTree.label_map] at root
  have cells : (CellTreeNode.forgetPointers copy.rootNode.label).cellID =
      (CellTreeNode.forgetPointers t.rootNode.label).cellID := by
    rw [root]
  exact cells

end SameUpToPointers

/-- What a tree holds of a copy it holds of the original. -/
theorem Holds.of_same {t s copy : CellTree} {parentCellID : Option CellID}
    (holds : t.Holds copy parentCellID) (same : s.SameUpToPointers copy) :
    t.Holds s parentCellID := by
  rcases holds with ⟨path, i, c, isParent, found, root, cells, entries⟩
  exact ⟨path, i, c, isParent, found, root.trans same.getRootCellID, cells.trans same.cellIDs,
    entries.trans same.entries⟩

end CellTree

/-- A state that is the serialized tree of the rebinding cell is grafted as a copy. -/
theorem Cell.handleRebindMesh_of_serialized (cell : Cell) {packet : RebindMeshPacket} {s : CellTree}
    (transferable : s.Transferable) (state : s.serialize = .ok packet.state) :
    ∃ handled, cell.handleRebindMesh packet = .ok handled ∧
      handled.tree = (cell.cellTree.addSubtree (s.relocated cell.cellTree.freshAddr)
        packet.parentCellID).1 ∧
      (handled.accepted = true ↔ (cell.cellTree.addSubtree (s.relocated cell.cellTree.freshAddr)
        packet.parentCellID).2 = 0) ∧
      (handled.accepted = true → (handled.toParent = none ↔ cell.parentChannel = none)) ∧
      handled.toGroup = { packet with header := cell.header } := by
  have read := CellTree.reads_tree transferable cell.cellTree.freshAddr [] true
  rw [List.append_nil, ← CellTree.octets_of_serialize state] at read
  unfold Cell.handleRebindMesh
  rw [read]
  refine ⟨_, rfl, rfl, decide_eq_true_iff, ?_, rfl⟩
  intro accepted
  rw [if_pos accepted, Option.map_eq_none_iff]

/-- A coordinator whose tree can accept the subtree grafts it and accepts. -/
theorem Cell.handleRebindMesh_of_canAccept {cell : Cell} {packet : RebindMeshPacket} {s : CellTree}
    (transferable : s.Transferable) (state : s.serialize = .ok packet.state)
    (accepts : cell.cellTree.CanAccept s packet.parentCellID) :
    ∃ handled, cell.handleRebindMesh packet = .ok handled ∧ handled.accepted = true ∧
      handled.tree.Holds s packet.parentCellID ∧
      (handled.toParent = none ↔ cell.parentChannel = none) := by
  rcases accepts with ⟨absent, path, n, i, under, found, free⟩
  have same := s.sameUpToPointers_relocated cell.cellTree.freshAddr
  have new : cell.cellTree.getCellTreeNode (s.relocated cell.cellTree.freshAddr).getRootCellID =
      none := by
    rw [CellTree.getCellTreeNode_eq_none_iff_notMem, same.getRootCellID]
    exact absent
  have added : cell.cellTree.addSubtree (s.relocated cell.cellTree.freshAddr)
      packet.parentCellID =
        (cell.cellTree.modify path
          (CellTree.graft (s.relocated cell.cellTree.freshAddr).rootNode i), 0) := by
    unfold CellTree.addSubtree
    simp only [new, under, found, free, Option.bind_some]
  rcases cell.handleRebindMesh_of_serialized transferable state with
    ⟨handled, done, tree, accepted, toParent, -⟩
  rw [added] at tree accepted
  have yes := accepted.mpr rfl
  refine ⟨handled, done, yes, ?_, toParent yes⟩
  rw [tree]
  exact (CellTree.holds_graft under found free).of_same same

/-- The new parent learns of the subtree; its own parents are as they were. -/
theorem openChain_rebindMesh (config : P3Configuration) {newParent : Cell} {ancestors : List Cell}
    (chain : IsChain (newParent :: ancestors)) {packet : RebindMeshPacket} {s : CellTree}
    (transferable : s.Transferable) (state : s.serialize = .ok packet.state)
    (accepts : newParent.cellTree.CanAccept s packet.parentCellID) :
    ∃ tree answer, tree.Holds s packet.parentCellID ∧
      openChain config (newParent :: ancestors) (.rebindMesh packet) =
        .ok ({ newParent with cellTree := tree } :: ancestors, answer) := by
  rcases Cell.handleRebindMesh_of_canAccept transferable state accepts with
    ⟨handled, done, -, holds, toParent⟩
  have reacted : newParent.openChannel config (.rebindMesh packet) =
      some (.ok
        { tree := handled.tree
          toParent := handled.toParent.map .rebindMesh
          toGroup := .rebindMesh handled.toGroup
          answer := handled.reply }) := by
    simp only [Cell.openChannel, Packet.opens, Cell.react, done]
    rfl
  cases ancestors with
  | nil =>
      have noParent : handled.toParent = none := toParent.mpr chain
      refine ⟨handled.tree, handled.reply true, holds, ?_⟩
      simp only [openChain, reacted, noParent]
      rfl
  | cons parent rest =>
      have forwards : handled.toParent ≠ none := by
        rw [ne_eq, toParent, chain.1]
        simp
      rcases Option.ne_none_iff_exists'.mp forwards with ⟨up, sent⟩
      refine ⟨handled.tree, handled.reply false, holds, ?_⟩
      simp only [openChain, reacted, sent, Option.map_some, bind, Except.bind, deliver_rebindMesh]
      rfl

/-- In a chain from the new parent to the root whose trees can all accept the subtree, every
coordinator holds it after the rebind exactly when the new parent is the root. -/
theorem rebind_reaches_all_iff (config : P3Configuration) {newParent : Cell}
    {ancestors : List Cell} (chain : IsChain (newParent :: ancestors)) {packet : RebindMeshPacket}
    {s : CellTree} (transferable : s.Transferable) (state : s.serialize = .ok packet.state)
    (accept : ∀ cell ∈ newParent :: ancestors, cell.cellTree.CanAccept s packet.parentCellID) :
    ∃ after answer,
      openChain config (newParent :: ancestors) (.rebindMesh packet) = .ok (after, answer) ∧
      ((∀ cell ∈ after, cell.cellTree.Holds s packet.parentCellID) ↔ ancestors = []) := by
  rcases openChain_rebindMesh config chain transferable state (accept newParent List.mem_cons_self)
    with ⟨tree, answer, holds, done⟩
  refine ⟨_, answer, done, ?_⟩
  cases ancestors with
  | nil => simpa using holds
  | cons parent rest =>
      have absent := (accept parent (List.mem_cons_of_mem _ List.mem_cons_self)).1
      constructor
      · intro all
        have held := all parent (List.mem_cons_of_mem _ List.mem_cons_self)
        exact absurd held (CellTree.not_holds_of_absent absent)
      · intro impossible
        cases impossible

section TwoCoordinators

/-- The coordinator of the root cell, whose tree knows the cell below. -/
def rootCoordinator : Cell :=
  { pid := ⟨[10]⟩
    cellID := ⟨[0]⟩
    cellTree := ((CellTree.new defaults ⟨[0]⟩).createSiblingAt defaults [] ⟨[1]⟩).1
    parentChannel := none }

/-- The coordinator of the cell below the root cell. -/
def lowerCoordinator : Cell :=
  { pid := ⟨[11]⟩
    cellID := ⟨[1]⟩
    cellTree := CellTree.new defaults ⟨[1]⟩
    parentChannel := some { uuid := ⟨[10]⟩, cellID := ⟨[0]⟩ } }

/-- The tree of the cell that rebinds: the cell 2 with the superpeers 12 and 13, and the cell 3
below it with the superpeer 14. -/
def rebindingTree : CellTree :=
  [(⟨[12]⟩, ⟨[2]⟩), (⟨[13]⟩, ⟨[2]⟩), (⟨[14]⟩, ⟨[3]⟩)].foldl
    (fun (tree : CellTree) (peer : UUID × CellID) => (tree.addPeer
      (.announced P3PeerInfo.SUPERPEER peer.1 peer.2 none none none none)).1)
    ((CellTree.new defaults ⟨[2]⟩).createSiblingAt defaults [] ⟨[3]⟩).1

/-- The cell rebinds to a parent. -/
def rebinding (parentCellID : CellID) : RebindMeshPacket :=
  { header := { srcPID := ⟨[12]⟩, srcFID := ⟨[2]⟩ }
    type := P3PeerInfo.SUPERPEER_COORD
    uuid := ⟨[12]⟩
    cellID := ⟨[2]⟩
    parentCellID := some parentCellID
    endpoint := none
    discoverySAP := none
    meshSAP := none
    ftSAP := none
    state := rebindingTree.octets }

theorem serialize_rebindingTree : rebindingTree.serialize = .ok rebindingTree.octets :=
  CellTree.serialize_of_initialized (by decide)

set_option maxRecDepth 4000 in
theorem transferable_rebinding : rebindingTree.Transferable :=
  ⟨by decide, by decide⟩

/-- Two coordinators: the root does not learn of the cell. -/
theorem exists_rebind_stops :
    ¬∀ (config : P3Configuration) (newParent : Cell) (ancestors : List Cell)
      (packet : RebindMeshPacket) (s : CellTree), IsChain (newParent :: ancestors) →
      s.Transferable → s.serialize = .ok packet.state →
      (∀ cell ∈ newParent :: ancestors, cell.cellTree.CanAccept s packet.parentCellID) →
      ∃ after answer,
        openChain config (newParent :: ancestors) (.rebindMesh packet) = .ok (after, answer) ∧
        ∀ cell ∈ after, cell.cellTree.Holds s packet.parentCellID := by
  intro reachesAll
  have accept : ∀ cell ∈ [lowerCoordinator, rootCoordinator],
      cell.cellTree.CanAccept rebindingTree (some ⟨[1]⟩) := by
    intro cell member
    rcases List.mem_cons.mp member with rfl | member
    · exact ⟨by decide, [], _, 0, rfl, rfl, rfl⟩
    · rw [List.mem_singleton.mp member]
      exact ⟨by decide, [0], _, 0, rfl, rfl, rfl⟩
  have chain : IsChain [lowerCoordinator, rootCoordinator] := ⟨rfl, rfl⟩
  rcases reachesAll defaults lowerCoordinator [rootCoordinator] (rebinding ⟨[1]⟩)
    rebindingTree chain transferable_rebinding serialize_rebindingTree accept with
    ⟨after, answer, done, all⟩
  have first : lowerCoordinator.cellTree.CanAccept rebindingTree (rebinding ⟨[1]⟩).parentCellID :=
    accept lowerCoordinator List.mem_cons_self
  rcases openChain_rebindMesh defaults chain transferable_rebinding serialize_rebindingTree first
    with ⟨tree, other, -, stops⟩
  cases stops.symm.trans done
  have held := all rootCoordinator (List.mem_cons_of_mem _ List.mem_cons_self)
  exact CellTree.not_holds_of_absent (by decide) held

/-- A rebind to the root itself reaches the whole chain. -/
theorem rebind_to_root :
    ∃ after answer,
      openChain defaults [rootCoordinator] (.rebindMesh (rebinding ⟨[1]⟩)) = .ok (after, answer) ∧
      ((∀ cell ∈ after, cell.cellTree.Holds rebindingTree (some ⟨[1]⟩)) ↔
        ([] : List Cell) = []) := by
  have chain : IsChain (rootCoordinator :: []) := rfl
  apply rebind_reaches_all_iff defaults chain transferable_rebinding serialize_rebindingTree
  intro cell member
  rw [List.mem_singleton.mp member]
  exact ⟨by decide, [0], _, 0, rfl, rfl, rfl⟩

end TwoCoordinators

end Stheno.Superpeer
