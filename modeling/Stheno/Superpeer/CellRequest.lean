import Stheno.Superpeer.Joining
import Stheno.Superpeer.Queries

/-!
# The answer to a request for a cell

A peer that wants to join the mesh, or a cell that lost its parent, asks for a place
with a REQUEST_CELL.  A coordinator answers with the first cell of its tree that has
room for a superpeer, which it creates when there is none, and with the coordinators
of that cell and of the cell above.
-/

namespace Stheno.Superpeer

open Stheno.Tree Peer

/-- A coordinator as a reply names it. -/
structure NamedCoordinator where
  uuid : UUID
  addr : Option Endpoint
  deriving DecidableEq

/-- The answer to a REQUEST_CELL. -/
structure CellReply where
  cell : CellID
  coordinator : Option NamedCoordinator
  parent : Option (CellID × NamedCoordinator)
  discoverySAP : Option SAPInfo
  meshSAP : Option SAPInfo
  ftSAP : Option SAPInfo
  deriving DecidableEq

def NamedCoordinator.of (info : P3PeerInfo) : NamedCoordinator where
  uuid := info.pid
  addr := info.cellEndpoint

def CellReply.hasCoordinator (this : CellReply) : Bool :=
  (this.coordinator.bind fun coordinator => coordinator.addr).isSome

namespace CellTree

/-- `node->getParent()`. -/
def parentOf (this : CellTree) (node : CellTreeNode) : Option CellTreeNode :=
  (node.label.parent.bind this.deref).bind this.rootNode.at?

/-- The node that is offered to a new superpeer, which may have to be created. -/
def offer (config : P3Configuration) (this : CellTree) (generated : CellID) :
    Result (CellTree × CellTreeNode) :=
  match this.getAvailableNode P3PeerInfo.SUPERPEER with
  | some path =>
      match this.rootNode.at? path with
      | some node => .ok (this, node)
      | none => .error .nullDereference
  | none => do
      let created ← this.createCell config generated
      match created.2.bind created.1.rootNode.at? with
      | some node => pure (created.1, node)
      | none => .error .nullDereference

/-- The node that is offered to a cell as its parent: the one it has, or one with
room for a child. -/
def offerParent (this : CellTree) (fid : CellID) : Result CellTreeNode :=
  let node :=
    match this.getCellTreeNode fid with
    | some path => (this.rootNode.at? path).bind this.parentOf
    | none => (createCellI this.rootNode).bind fun found => this.rootNode.at? found.1
  match node with
  | some node => .ok node
  | none => .error .nullDereference

/-- The coordinator of a node, which is used without looking whether there is one. -/
def coordinatorOf (node : CellTreeNode) : Result P3PeerInfo :=
  match node.label.getCoordinator with
  | some coord => .ok coord
  | none => .error .nullDereference

end CellTree

/-- What a coordinator makes of a REQUEST_CELL. -/
structure CellAnswer where
  tree : CellTree
  reply : CellReply

namespace Cell

/-- The cell above a node and its coordinator. -/
def above (tree : CellTree) (node : CellTreeNode) : Result (Option (CellID × P3PeerInfo)) :=
  match tree.parentOf node with
  | none => .ok none
  | some parent =>
      (CellTree.coordinatorOf parent).map fun coord => some (parent.label.cellID, coord)

/-- The reply that offers a node to a new superpeer.  A cell without a coordinator
comes with the access points of the coordinator above it. -/
def offerReply (tree : CellTree) (node : CellTreeNode) : Result CellReply := do
  let parent ← above tree node
  let coord := node.label.getCoordinator
  let source := coord.or (parent.map Prod.snd)
  pure
    { cell := node.label.cellID
      coordinator := coord.map NamedCoordinator.of
      parent := parent.map fun found => (found.1, NamedCoordinator.of found.2)
      discoverySAP := source.bind fun info => info.discoverySAP
      meshSAP := source.bind fun info => info.meshSAP
      ftSAP := source.bind fun info => info.ftSAP }

/-- `handleCellRequest` of a coordinator.  The source of the request is the invalid
identifier, here null, for a peer that has no cell. -/
def handleCellRequest (config : P3Configuration) (this : Cell) (generated : CellID)
    (srcFID : Option CellID) : Result CellAnswer :=
  match srcFID with
  | none => do
      let (tree, node) ← this.cellTree.offer config generated
      let reply ← offerReply tree node
      pure { tree, reply }
  | some fid => do
      let node ← this.cellTree.offerParent fid
      let coord ← CellTree.coordinatorOf node
      pure
        { tree := this.cellTree
          reply :=
            { cell := node.label.cellID
              coordinator := some (.of coord)
              parent := some (node.label.cellID, .of coord)
              discoverySAP := coord.discoverySAP
              meshSAP := coord.meshSAP
              ftSAP := coord.ftSAP } }

end Cell

/-! ## Properties of every node -/

namespace CellTree

section

variable {config : P3Configuration} {t : CellTree} {peer : P3PeerInfo} {good : CellInfo → Prop}

/-- A property of every node that adding a peer keeps. -/
theorem forall_labels_addAt (all : ∀ info ∈ t.rootNode.labels, good info)
    (grows : ∀ info after, info.add peer = some after → good info → good after) (path : Path) :
    ∀ info ∈ (t.addAt path peer).1.rootNode.labels, good info := by
  rcases t.addAt_cases path peer with ⟨n, after, found, added, updated⟩ | ⟨-, refused⟩
  · rcases SlotTree.exists_labels_relabelAt found with ⟨before, behind, whole, relabelled⟩
    rw [whole] at all
    have labels : (t.addAt path peer).1.rootNode.labels = before ++ after :: behind := by
      rw [updated]
      exact relabelled fun _ => after
    rw [labels]
    intro info member
    rcases List.mem_append.mp member with inBefore | rest
    · exact all info (List.mem_append_left _ inBefore)
    · rcases List.mem_cons.mp rest with rfl | inBehind
      · exact grows n.label info added
          (all n.label (List.mem_append_right _ List.mem_cons_self))
      · exact all info (List.mem_append_right _ (List.mem_cons_of_mem _ inBehind))
  · rw [refused]
    exact all

/-- A property of every node that a new node has. -/
theorem forall_labels_fillNew (all : ∀ info ∈ t.rootNode.labels, good info) {path : Path}
    {n : CellTreeNode} {i : Nat} {cellID : CellID} (found : t.rootNode.at? path = some n)
    (free : CellTreeNode.firstFree n = some i)
    (fresh : ∀ info, info.cellID = cellID → info.sps = [] → good info) :
    ∀ info ∈ (t.modify path fun n => n.setSlot i
      (some (newChild config t cellID n i))).rootNode.labels, good info := by
  rw [modify_congr (g := fun m => m.setSlot i (some (newChild config t cellID n i))) found rfl]
  intro info member
  have filled := SlotTree.labels_fillAt_perm (c := newChild config t cellID n i) found
    (CellTreeNode.firstFree_eq_some free)
  rcases List.mem_append.mp (filled.mem_iff.mp member) with inNew | inOld
  · rw [newChild, CellTreeNode.labels_new, List.mem_singleton] at inNew
    rw [inNew]
    exact fresh _ rfl rfl
  · exact all info inOld

/-- A property of every node that a join keeps. -/
theorem forall_labels_join (all : ∀ info ∈ t.rootNode.labels, good info)
    (grows : ∀ info after, info.add peer = some after → good info → good after)
    (fresh : ∀ info, info.cellID = peer.fid → info.sps = [] → good info)
    {parentCellID : Option CellID} {out : CellTree × Int}
    (done : t.join config peer parentCellID = .ok out) :
    ∀ info ∈ out.1.rootNode.labels, good info := by
  cases known : t.getCellTreeNode peer.fid with
  | some path =>
      rw [join_known known] at done
      cases done
      exact forall_labels_addAt all grows path
  | none =>
      cases parentCellID with
      | none =>
          simp only [join, addPeer, known] at done
          cases done
          exact all
      | some parent =>
          rcases t.addPeerUnder_cases config peer (some parent) with
            ⟨path, knownHere, -⟩ | ⟨-, impossible, -⟩ |
              ⟨-, above, path, n, i, -, -, found, free, created⟩ | ⟨-, -, refused⟩
          · cases known.symm.trans knownHere
          · cases impossible
          · cases created.symm.trans done
            exact forall_labels_addAt (forall_labels_fillNew all found free fresh) grows _
          · cases refused.symm.trans done
            exact all

/-- The cell that is offered has room, or it is new. -/
theorem offer_cases {generated : CellID} {out : CellTree × CellTreeNode}
    (done : t.offer config generated = .ok out) :
    (∃ path, t.getAvailableNode P3PeerInfo.SUPERPEER = some path ∧
      t.rootNode.at? path = some out.2 ∧ out.2.label.isFull .sps = false ∧ out.1 = t) ∨
    (t.getAvailableNode P3PeerInfo.SUPERPEER = none ∧ out.2.label.cellID = generated ∧
      out.2.label.sps = [] ∧ ∃ path n i, t.rootNode.at? path = some n ∧
        CellTreeNode.firstFree n = some i ∧
        out.1 = t.modify path fun n => n.setSlot i (some (newChild config t generated n i))) := by
  unfold offer at done
  cases available : t.getAvailableNode P3PeerInfo.SUPERPEER with
  | some path =>
      rw [available] at done
      rcases SlotTree.findPath_eq_some available with ⟨n, found, room⟩
      simp only [found] at done
      cases done
      have notFull : (!n.label.isFull .sps) = true := room
      exact Or.inl ⟨path, rfl, found, by simpa using notFull, rfl⟩
  | none =>
      rw [available] at done
      right
      rcases Result.bind_eq_ok.mp done with ⟨created, made, rest⟩
      unfold createCell at made
      cases under : createCellI t.rootNode with
      | none =>
          rw [under] at made
          cases made
      | some place =>
          rw [under] at made
          cases made
          rcases createCellI_eq_some under with ⟨n, i, found, free⟩
          rcases createSiblingAt_cases config t place.1 generated with
            ⟨m, j, foundM, freeM, create⟩ | ⟨full, -⟩
          · cases found.symm.trans foundM
            cases free.symm.trans freeM
            have new := at?_fillNew config generated found free
            rw [create] at rest
            simp only [Option.bind_some, new] at rest
            cases rest
            exact ⟨rfl, rfl, rfl, place.1, n, i, found, free, rfl⟩
          · cases free.symm.trans (full n found)

end

end CellTree

/-! ## What a reply says -/

theorem Cell.offerReply_spec {tree : CellTree} {node : CellTreeNode} {reply : CellReply}
    (done : Cell.offerReply tree node = .ok reply) :
    reply.cell = node.label.cellID ∧
      reply.coordinator = node.label.getCoordinator.map NamedCoordinator.of := by
  rcases Result.bind_eq_ok.mp done with ⟨parent, -, rest⟩
  cases rest
  exact ⟨rfl, rfl⟩

end Stheno.Superpeer
