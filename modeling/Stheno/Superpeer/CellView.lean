import Stheno.Superpeer.Departure

/-!
# Views of a cell tree

A view keeps a part of what a cell tree records of its cells.  Where that part decides
what adding or removing a peer makes of it, every update of the tree is an update of
its view, which addresses, pointers and the rest of the records do not enter; a removal
needs the representation invariant, since it follows pointers.
-/

namespace Stheno.Superpeer

open Stheno.Tree Peer

/-- A part of a cell, with what a new cell shows of it and what adding and removing
peers make of it. -/
structure CellView (β : Type) where
  view : CellInfo → β
  cellID : β → CellID
  depth : β → Int
  deserted : β → Prop
  decideDeserted : DecidablePred deserted
  new : P3Configuration → CellID → Int → β
  add : β → P3PeerInfo → Option β
  remove : β → UUID → Option β
  cellID_view : ∀ info, cellID (view info) = info.cellID
  depth_view : ∀ info, depth (view info) = info.depth
  deserted_view : ∀ info, deserted (view info) ↔ info.sps = []
  /-- Where a node stands and what it points at is not shown. -/
  view_placed : ∀ info addr parent spanNo, view { info with addr, parent, spanNo } = view info
  view_new : ∀ config addr cellID parent spanNo depth,
    view (CellTreeNode.new config addr cellID parent spanNo depth).label = new config cellID depth
  view_add : ∀ info peer, (info.add peer).map view = add (view info) peer
  view_remove : ∀ info uuid, (info.remove uuid).map view = remove (view info) uuid

namespace CellView

variable {β : Type} (V : CellView β)

instance : DecidablePred V.deserted :=
  V.decideDeserted

def tree (t : CellTree) : SlotTree β :=
  t.rootNode.map V.view

/-! ## The updates of a view -/

def findCell (d : SlotTree β) (cellID : CellID) : Option Path :=
  d.findPath fun cell => (V.cellID cell).sameKey cellID

def addAt (d : SlotTree β) (path : Path) (peer : P3PeerInfo) : SlotTree β :=
  match (d.at? path).bind fun n => V.add n.label peer with
  | some cell => d.modifyAt (SlotTree.mapLabel fun _ => cell) path
  | none => d

def addPeer (d : SlotTree β) (peer : P3PeerInfo) : SlotTree β :=
  match V.findCell d peer.fid with
  | some path => V.addAt d path peer
  | none => d

/-- The first empty slot of the cell at a position. -/
def freeSlot (d : SlotTree β) (path : Path) : Option (β × Nat) :=
  (d.at? path).bind fun n =>
    (n.slots.findIdx? Option.isNone).map fun i => (n.label, i)

/-- A new cell in slot `i` below the cell `above`. -/
def fillNew (config : P3Configuration) (d : SlotTree β) (path : Path) (above : β) (i : Nat)
    (cellID : CellID) : SlotTree β :=
  d.modifyAt (fun n => n.setSlot i (some (.node (V.new config cellID (V.depth above + 1))
    (List.replicate (config.treeSpan (V.depth above + 1)).toNat none)))) path

/-- Record a peer; a cell that is not known yet goes below the parent. -/
def addPeerUnder (config : P3Configuration) (d : SlotTree β) (peer : P3PeerInfo)
    (parentCellID : CellID) : SlotTree β :=
  match V.findCell d peer.fid with
  | some path => V.addAt d path peer
  | none =>
      match V.findCell d parentCellID with
      | none => d
      | some path =>
          match freeSlot d path with
          | none => d
          | some (above, i) => V.addAt (V.fillNew config d path above i peer.fid) (path ++ [i]) peer

/-- A peer that joins without a parent needs a known cell. -/
def join (config : P3Configuration) (d : SlotTree β) (peer : P3PeerInfo)
    (parentCellID : Option CellID) : SlotTree β :=
  match parentCellID with
  | none => V.addPeer d peer
  | some parentCellID => V.addPeerUnder config d peer parentCellID

/-- Remove the cell at a position with all cells below it; the root cell stays. -/
def prune (d : SlotTree β) (path : Path) : Option (SlotTree β) :=
  match path.getLast? with
  | none => none
  | some i => some (d.modifyAt (fun n => n.setSlot i none) path.dropLast)

/-- Strike a peer from a cell, and the cell itself when no superpeer is left.  There
is nothing to see of a tree without its root cell. -/
def leave (d : SlotTree β) (uuid : UUID) (cellID : CellID) : Option (SlotTree β) :=
  match V.findCell d cellID with
  | none => some d
  | some path =>
      match (d.at? path).bind fun n => V.remove n.label uuid with
      | none => some d
      | some cell =>
          let removed := d.modifyAt (SlotTree.mapLabel fun _ => cell) path
          if V.deserted cell then prune removed path else some removed

/-! ## The view of an updated tree -/

variable {V} {t : CellTree}

theorem at?_tree (t : CellTree) (path : Path) :
    (V.tree t).at? path = (t.rootNode.at? path).map (SlotTree.map V.view) :=
  SlotTree.at?_map V.view t.rootNode path

theorem findCell_tree (t : CellTree) (cellID : CellID) :
    V.findCell (V.tree t) cellID = t.getCellTreeNode cellID := by
  rw [findCell, tree, SlotTree.findPath_map]
  simp only [V.cellID_view]
  rfl

theorem tree_relabel {path : Path} {n : CellTreeNode} {info : CellInfo}
    (found : t.rootNode.at? path = some n) :
    V.tree (t.modify path (SlotTree.mapLabel fun _ => info)) =
      (V.tree t).modifyAt (SlotTree.mapLabel fun _ => V.view info) path := by
  apply SlotTree.map_modifyAt found
  simp [SlotTree.mapLabel]

theorem tree_addAt (t : CellTree) (path : Path) (peer : P3PeerInfo) :
    V.tree (t.addAt path peer).1 = V.addAt (V.tree t) path peer := by
  unfold CellTree.addAt addAt
  rw [at?_tree]
  cases found : t.rootNode.at? path with
  | none => rfl
  | some n =>
      simp only [Option.bind_some, Option.map_some, SlotTree.label_map, ← V.view_add]
      cases added : n.label.add peer with
      | none => rfl
      | some info => exact tree_relabel found

theorem tree_addPeer (t : CellTree) (peer : P3PeerInfo) :
    V.tree (t.addPeer peer).1 = V.addPeer (V.tree t) peer := by
  unfold CellTree.addPeer addPeer
  rw [findCell_tree]
  cases t.getCellTreeNode peer.fid with
  | none => rfl
  | some path => exact tree_addAt t path peer

theorem freeSlot_tree {path : Path} {n : CellTreeNode} (found : t.rootNode.at? path = some n) :
    freeSlot (V.tree t) path = (CellTreeNode.firstFree n).map fun i => (V.view n.label, i) := by
  have slots : (fun slot => Option.isNone slot) ∘ Option.map (SlotTree.map V.view) =
      Option.isNone := by
    funext slot
    cases slot <;> rfl
  rw [freeSlot, at?_tree, found, Option.map_some, Option.bind_some, SlotTree.slots_map,
    List.findIdx?_map, slots, SlotTree.label_map]
  rfl

theorem tree_fillNew (config : P3Configuration) {path : Path} {n : CellTreeNode} (i : Nat)
    (cellID : CellID) (found : t.rootNode.at? path = some n) :
    V.tree (t.modify path fun n => n.setSlot i (some (CellTree.newChild config t cellID n i))) =
      V.fillNew config (V.tree t) path (V.view n.label) i cellID := by
  have child : (CellTree.newChild config t cellID n i).map V.view =
      .node (V.new config cellID (n.label.depth + 1))
        (List.replicate (config.treeSpan (n.label.depth + 1)).toNat none) := by
    rw [← V.view_new config t.freshAddr cellID (some n.label.addr) i, CellTree.newChild,
      CellTreeNode.new, SlotTree.map_node, List.map_replicate]
    rfl
  rw [fillNew, V.depth_view]
  apply SlotTree.map_modifyAt found
  rw [SlotTree.map_setSlot, Option.map_some, child]

theorem tree_addPeerUnder (config : P3Configuration) (t : CellTree) (peer : P3PeerInfo)
    (parentCellID : CellID) :
    ∃ out, t.addPeerUnder config peer (some parentCellID) = .ok out ∧
      V.tree out.1 = V.addPeerUnder config (V.tree t) peer parentCellID := by
  unfold addPeerUnder
  rw [findCell_tree, findCell_tree]
  rcases t.addPeerUnder_cases config peer (some parentCellID) with
    ⟨path, known, here⟩ | ⟨-, impossible, -⟩ |
      ⟨unknown, parent, path, n, i, equal, under, found, free, created⟩ |
      ⟨unknown, ⟨parent, equal, full⟩, refused⟩
  · refine ⟨_, here, ?_⟩
    rw [known]
    exact tree_addAt t path peer
  · cases impossible
  · cases equal
    refine ⟨_, created, ?_⟩
    rw [unknown, under]
    simp only [freeSlot_tree found, free, Option.map_some]
    rw [tree_addAt, tree_fillNew config i peer.fid found]
  · cases equal
    refine ⟨_, refused, ?_⟩
    rw [unknown]
    cases under : t.getCellTreeNode parentCellID with
    | none => rfl
    | some path =>
        rcases CellTree.getCellTreeNode_eq_some under with ⟨n, found, -⟩
        simp only [freeSlot_tree found, full path n under found, Option.map_none]

theorem tree_join (config : P3Configuration) (t : CellTree) (peer : P3PeerInfo)
    (parentCellID : Option CellID) :
    ∃ out, t.join config peer parentCellID = .ok out ∧
      V.tree out.1 = V.join config (V.tree t) peer parentCellID := by
  cases parentCellID with
  | none => exact ⟨_, rfl, tree_addPeer t peer⟩
  | some parentCellID => exact tree_addPeerUnder config t peer parentCellID

/-- The view after a departure, or none when the root cell is freed. -/
theorem tree_leave (inv : RepInv t) (uuid : UUID) (cellID : CellID) :
    V.leave (V.tree t) uuid cellID =
      match t.leave uuid cellID with
      | .ok out => some (V.tree out.1)
      | .error _ => none := by
  have left := CellTree.left_leave inv uuid cellID
  unfold leave
  rw [findCell_tree]
  generalize t.leave uuid cellID = outcome at left
  have shown : ∀ {path : Path} {n : CellTreeNode}, t.rootNode.at? path = some n →
      (((V.tree t).at? path).bind fun n => V.remove n.label uuid) =
        (n.label.remove uuid).map V.view := by
    intro path n found
    rw [at?_tree, found, Option.map_some, Option.bind_some, SlotTree.label_map, V.view_remove]
  cases left with
  | unknownCell unknown => simp only [unknown]
  | unknownPeer known found absent => simp only [known, shown found, absent, Option.map_none]
  | @peer path n info known found removed staffed =>
      have some_left : ¬V.deserted (V.view info) := by
        rw [V.deserted_view]
        exact staffed
      simp only [known, shown found, removed, Option.map_some, if_neg some_left]
      rw [tree_relabel found]
  | @cell above i n info known found removed deserted =>
      have none_left := (V.deserted_view info).mpr deserted
      rcases CellTree.holder_relabel info found with ⟨p, atParent, -⟩
      simp only [known, shown found, removed, Option.map_some, if_pos none_left, prune,
        List.getLast?_concat, List.dropLast_concat]
      rw [← tree_relabel found]
      congr 1
      symm
      apply SlotTree.map_modifyAt atParent
      rw [SlotTree.map_setSlot, Option.map_none]
  | @root n info known found removed deserted =>
      have none_left := (V.deserted_view info).mpr deserted
      simp only [known, shown found, removed, Option.map_some, if_pos none_left, prune,
        List.getLast?_nil]

end CellView

end Stheno.Superpeer
