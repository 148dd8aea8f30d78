import Stheno.Superpeer.TreeNode

/-!
# The cell tree

The operations of `CellTree`.  A pointer to a node of the tree is the position of
the node; a search that answers with the null pointer answers `none`.  Operations
that return 0 or -1 return it beside the tree they leave behind.
-/

namespace Stheno.Superpeer

open Stheno.Tree Peer

/-- A `CellTree` is its root node. -/
structure CellTree where
  rootNode : CellTreeNode

namespace CellTree

/-- The constructor of a tree with a root cell only. -/
def new (config : P3Configuration) (rootCellID : CellID) : CellTree :=
  ⟨CellTreeNode.new config 0 rootCellID none 0 0⟩

/-- The addresses of the nodes of the tree. -/
def addrs (this : CellTree) : List Addr :=
  this.rootNode.labels.map CellInfo.addr

/-- An address that no node of the tree has, for the next allocation. -/
def freshAddr (this : CellTree) : Addr :=
  this.addrs.foldr Nat.max 0 + 1

def getRootCellID (this : CellTree) : CellID :=
  this.rootNode.label.cellID

/-- The node with a cell identifier, by the preorder search of
`getCellTreeNode_i` and `getTreeNode_i`. -/
def getCellTreeNode (this : CellTree) (fid : CellID) : Option Path :=
  this.rootNode.findPath fun info => info.cellID.sameKey fid

/-- Follow a pointer. -/
def deref (this : CellTree) (addr : Addr) : Option Path :=
  this.rootNode.findPath fun info => info.addr = addr

/-- Update the node at a position. -/
def modify (this : CellTree) (path : Path) (f : CellTreeNode → CellTreeNode) : CellTree :=
  ⟨this.rootNode.modifyAt f path⟩

/-! ## Creating cells -/

/-- The running minimum of `createCell_i`: the first of the shallowest. -/
def shallower (min temp : Option (Path × Int)) : Option (Path × Int) :=
  match temp, min with
  | none, min => min
  | some temp, none => some temp
  | some temp, some min => if min.2 > temp.2 then some temp else some min

mutual

/-- The position and depth of the node under which the next cell is created. -/
def createCellI : CellTreeNode → Option (Path × Int)
  | .node info slots =>
      if slots.all Option.isSome then createCellOfSlots 0 none slots else some ([], info.depth)

/-- The loop over the children from slot `i` on. -/
def createCellOfSlots (i : Nat) (min : Option (Path × Int)) :
    List (Option CellTreeNode) → Option (Path × Int)
  | [] => min
  | none :: slots => createCellOfSlots (i + 1) min slots
  | some c :: slots =>
      let temp := (createCellI c).map fun found => (i :: found.1, found.2)
      createCellOfSlots (i + 1) (shallower min temp) slots

end

/-- `createSibling` on the node at a position, with the position of the child. -/
def createSiblingAt (config : P3Configuration) (this : CellTree) (path : Path)
    (cellID : CellID) : CellTree × Option Path :=
  match (this.rootNode.at? path).bind (CellTreeNode.createSibling config this.freshAddr cellID) with
  | some (i, node) => (this.modify path fun _ => node, some (path ++ [i]))
  | none => (this, none)

/-- `createCell(cellID)`, and `createCell()` with the identifier it generates. -/
def createCell (config : P3Configuration) (this : CellTree) (cellID : CellID) :
    Result (CellTree × Option Path) :=
  match createCellI this.rootNode with
  | some (path, _) => .ok (this.createSiblingAt config path cellID)
  | none => .error .nullDereference

/-! ## Adding peers and subtrees -/

/-- `node->add(peer)` on the node at a position. -/
def addAt (this : CellTree) (path : Path) (peer : P3PeerInfo) : CellTree × Int :=
  match (this.rootNode.at? path).bind fun node => node.label.add peer with
  | some info => (this.modify path (SlotTree.mapLabel fun _ => info), 0)
  | none => (this, -1)

def addPeer (this : CellTree) (peer : P3PeerInfo) : CellTree × Int :=
  match this.getCellTreeNode peer.fid with
  | some path => this.addAt path peer
  | none => (this, -1)

/-- `addPeer(peer, parentCellID)`, which creates the peer's cell when it is new.
A null `parentCellID` is dereferenced by the search for it. -/
def addPeerUnder (config : P3Configuration) (this : CellTree) (peer : P3PeerInfo)
    (parentCellID : Option CellID) : Result (CellTree × Int) :=
  match this.getCellTreeNode peer.fid with
  | some path => .ok (this.addAt path peer)
  | none =>
      match parentCellID with
      | none => .error .nullDereference
      | some parentCellID =>
          match this.getCellTreeNode parentCellID with
          | none => .ok (this, -1)
          | some parent =>
              match this.createSiblingAt config parent peer.fid with
              | (tree, some path) => .ok (tree.addAt path peer)
              | (_, none) => .ok (this, -1)

/-- The node that a subtree goes under: the root for a null identifier. -/
def subtreeParent (this : CellTree) (parentCellID : Option CellID) : Option Path :=
  match parentCellID with
  | none => some []
  | some parentCellID => this.getCellTreeNode parentCellID

/-- `setLocation` and `setSibbling` of `addSubtree`, into slot `i`. -/
def graft (subTree : CellTreeNode) (i : Nat) (node : CellTreeNode) : CellTreeNode :=
  node.setSlot i (some (CellTreeNode.setParent (some node.label.addr)
    (CellTreeNode.setLocation (node.label.depth + 1) i subTree)))

/-- A subtree whose root cell the tree has already counts as added. -/
def addSubtree (this subTree : CellTree) (parentCellID : Option CellID) : CellTree × Int :=
  match this.getCellTreeNode subTree.getRootCellID with
  | some _ => (this, 0)
  | none =>
      match this.subtreeParent parentCellID with
      | none => (this, -1)
      | some path =>
          match (this.rootNode.at? path).bind CellTreeNode.firstFree with
          | some i => (this.modify path (graft subTree.rootNode i), 0)
          | none => (this, -1)

/-! ## Removing subtrees -/

/-- `removeSubtree(fid)`: unlink the node from the parent it points at and delete
the subtree.  A node that stays linked, as the root does, is freed but still
reachable. -/
def removeSubtree (this : CellTree) (fid : CellID) : Result (CellTree × Int) :=
  match this.getCellTreeNode fid with
  | none => .ok (this, -1)
  | some path =>
      match (this.rootNode.at? path).bind fun fidRoot => fidRoot.label.parent.bind this.deref with
      | none => .error .freedNode
      | some parent =>
          let addr := (this.rootNode.at? path).map fun fidRoot => fidRoot.label.addr
          match (this.rootNode.at? parent).bind fun node => node.slots.findIdx? fun child =>
              child.any fun c => some c.label.addr = addr with
          | some i => .ok (this.modify parent fun node => node.setSlot i none, 0)
          | none => .error .freedNode

/-- `removeSubtree()`: every child of the root, named by its cell identifier. -/
def removeSubtrees (this : CellTree) : Result (CellTree × Int) := do
  let tree ← (List.range (CellTreeNode.treeSpan this.rootNode)).foldlM (fun tree i =>
    match tree.rootNode.child i with
    | some c => do
        let removed ← tree.removeSubtree c.label.cellID
        pure removed.1
    | none => pure tree) this
  pure (tree, 0)

/-- One slot of `pruneSubtrees`: a child stays when its coordinator is listed. -/
def pruneSlot (l : List UUID) (slot : Option CellTreeNode) : Result (Option CellTreeNode) :=
  match slot with
  | none => .ok none
  | some child =>
      match child.label.getCoordinator with
      | none => .error .nullDereference
      | some coord => .ok (if l.any (·.sameKey coord.pid) then some child else none)

def pruneSubtrees (this : CellTree) (l : List UUID) : Result CellTree := do
  let slots ← this.rootNode.slots.mapM (pruneSlot l)
  pure ⟨.node this.rootNode.label slots⟩

/-! ## Removing a cell -/

mutual

/-- The position of the node with a child of a cell identifier. -/
def getParentTreeNodeI (cellID : CellID) : CellTreeNode → Option Path
  | .node _ slots => getParentTreeNodeOfSlots cellID 0 slots

/-- The loop over the children from slot `i` on. -/
def getParentTreeNodeOfSlots (cellID : CellID) (i : Nat) :
    List (Option CellTreeNode) → Option Path
  | [] => none
  | none :: slots => getParentTreeNodeOfSlots cellID (i + 1) slots
  | some c :: slots =>
      if c.label.cellID.sameKey cellID then
        some []
      else
        match getParentTreeNodeI cellID c with
        | some path => some (i :: path)
        | none => getParentTreeNodeOfSlots cellID (i + 1) slots

end

def getParentTreeNode (this : CellTree) (cellID : CellID) : Option Path :=
  if this.getRootCellID.sameKey cellID then none else getParentTreeNodeI cellID this.rootNode

mutual

/-- The way down from a node along first children to a node without children. -/
def findBottomPath : CellTreeNode → Path
  | .node _ slots => findBottomOfSlots 0 slots

/-- The first child from slot `i` on. -/
def findBottomOfSlots (i : Nat) : List (Option CellTreeNode) → Path
  | [] => []
  | none :: slots => findBottomOfSlots (i + 1) slots
  | some c :: _ => i :: findBottomPath c

end

/-- `replaceSibling(node, newNode)` on the node at a position. -/
def replaceSiblingAt (this : CellTree) (path : Path) (node : CellTreeNode)
    (newNode : Option CellTreeNode) : Result CellTree :=
  match this.rootNode.at? path with
  | none => .error .nullDereference
  | some parent => do
      let replaced ← CellTreeNode.replaceSibling parent node newNode
      pure (this.modify path fun _ => replaced)

/-- `removeCell(cellID)`: the bottom node found below the cell is cut off and, when
it is another node, takes the place of the cell. -/
def removeCell (this : CellTree) (cellID : CellID) : Result CellTree :=
  match this.getCellTreeNode cellID with
  | none => .ok this
  | some path =>
      match this.getParentTreeNode cellID with
      | none => .ok this
      | some parent =>
          match this.rootNode.at? path with
          | none => .ok this
          | some node =>
              let down := findBottomPath node
              match node.at? down with
              | none => .ok this
              | some promoted =>
                  if down = [] then
                    this.replaceSiblingAt parent node none
                  else do
                    -- the bottom node leaves the slot of its own parent first
                    let tree ← this.replaceSiblingAt (path ++ down.dropLast) promoted none
                    match tree.rootNode.at? path with
                    | none => .error .nullDereference
                    | some node => tree.replaceSiblingAt parent node (some promoted)

end CellTree

end Stheno.Superpeer
