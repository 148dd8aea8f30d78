import Stheno.Superpeer.CellRequest
import Stheno.Superpeer.Followers

/-!
# Requests for a place in every tree that a coordinator reaches

The handler of REQUEST_CELL follows the pointer to a node and to its coordinator on
paths where either may be null: the root has no node above it, a full tree has no
place, and a cell that was created for a reply has no superpeer until one joins.  Over
every run of a coordinator the handler is safe exactly when none of these is met.
-/

namespace Stheno.Superpeer

open Stheno.Tree Peer

namespace CellTree

/-- The node at a position holds a superpeer. -/
def StaffedAt (this : CellTree) (path : Path) : Prop :=
  ∃ n, this.rootNode.at? path = some n ∧ n.label.sps ≠ []

/-- What the handler needs from the tree: a place, and superpeers in the cell above it
or in the cell that is offered as the parent. -/
def RequestFits (this : CellTree) : Option CellID → Prop
  | none =>
      match this.getAvailableNode P3PeerInfo.SUPERPEER with
      | some path => path ≠ [] → this.StaffedAt path.dropLast
      | none => ∃ place, createCellI this.rootNode = some place ∧ this.StaffedAt place.1
  | some fid =>
      match this.getCellTreeNode fid with
      | some path => path ≠ [] ∧ this.StaffedAt path.dropLast
      | none => ∃ place, createCellI this.rootNode = some place ∧ this.StaffedAt place.1

theorem coordinatorOf_ok_iff {node : CellTreeNode} :
    (∃ coord, coordinatorOf node = .ok coord) ↔ node.label.sps ≠ [] := by
  unfold coordinatorOf CellInfo.getCoordinator
  cases node.label.sps with
  | nil =>
      apply iff_of_false
      · rintro ⟨coord, impossible⟩
        cases impossible
      · exact fun impossible => impossible rfl
  | cons coord sps => exact iff_of_true ⟨coord, rfl⟩ (List.cons_ne_nil _ _)

end CellTree

/-- The cell that is offered as a parent is in the tree. -/
theorem CellTree.at?_of_offerParent {t : CellTree} {fid : CellID} {node : CellTreeNode}
    (offered : t.offerParent fid = .ok node) : ∃ path, t.rootNode.at? path = some node := by
  unfold offerParent at offered
  cases known : t.getCellTreeNode fid with
  | some path =>
      rcases getCellTreeNode_eq_some known with ⟨n, found, -⟩
      simp only [known, found, Option.bind_some] at offered
      cases above : t.parentOf n with
      | none =>
          rw [above] at offered
          cases offered
      | some parent =>
          rw [above] at offered
          obtain rfl := Except.ok.inj offered
          obtain ⟨position, -, atParent⟩ := Option.bind_eq_some_iff.mp above
          exact ⟨position, atParent⟩
  | none =>
      simp only [known] at offered
      cases under : createCellI t.rootNode with
      | none =>
          rw [under] at offered
          cases offered
      | some place =>
          rcases createCellI_eq_some under with ⟨n, i, found, -⟩
          simp only [under, Option.bind_some, found] at offered
          obtain rfl := Except.ok.inj offered
          exact ⟨place.1, found⟩

/-- The cell that is created when no cell has room. -/
theorem CellTree.offer_created {t : CellTree} (config : P3Configuration) (generated : CellID)
    (available : t.getAvailableNode P3PeerInfo.SUPERPEER = none) {place : Path × Int}
    (under : createCellI t.rootNode = some place) {n : CellTreeNode} {i : Nat}
    (found : t.rootNode.at? place.1 = some n) (free : CellTreeNode.firstFree n = some i) :
    t.offer config generated =
      .ok (t.modify place.1 fun n => n.setSlot i (some (newChild config t generated n i)),
        newChild config t generated n i) := by
  have created : t.createSiblingAt config place.1 generated =
      (t.modify place.1 fun n => n.setSlot i (some (newChild config t generated n i)),
        some (place.1 ++ [i])) := by
    rcases createSiblingAt_cases config t place.1 generated with
      ⟨m, j, foundM, freeM, create⟩ | ⟨full, -⟩
    · obtain rfl := Option.some.inj (found.symm.trans foundM)
      obtain rfl := Option.some.inj (free.symm.trans freeM)
      exact create
    · cases free.symm.trans (full n found)
  have new := at?_fillNew config generated found free
  simp only [offer, available, createCell, under, created]
  simp only [bind, Except.bind, Option.bind_some, new]
  rfl

/-- The parent pointer of a child leads to the node that holds it. -/
theorem RepInv.parentOf_child {t : CellTree} (inv : RepInv t) {path : Path} {p c : CellTreeNode}
    {i : Nat} (found : t.rootNode.at? path = some p) (held : p.child i = some c) :
    t.parentOf c = some p := by
  have edge := inv.linked p (SlotTree.mem_nodes_of_at? found) i c held
  rw [CellTree.parentOf, edge.parent, Option.bind_some, inv.deref_addr found, Option.bind_some, found]

theorem RepInv.parentOf_root {t : CellTree} (inv : RepInv t) : t.parentOf t.rootNode = none := by
  rw [CellTree.parentOf, inv.rootParent]
  rfl

/-- The node above a cell that was just created. -/
theorem RepInv.parentOf_created {t : CellTree} (inv : RepInv t) (config : P3Configuration)
    (generated : CellID) {path : Path} {n : CellTreeNode} {i : Nat}
    (found : t.rootNode.at? path = some n) (free : CellTreeNode.firstFree n = some i) :
    (t.modify path fun n => n.setSlot i (some (CellTree.newChild config t generated n i))).parentOf
        (CellTree.newChild config t generated n i) =
      some (n.setSlot i (some (CellTree.newChild config t generated n i))) := by
  have bound := (List.getElem?_eq_some_iff.mp (CellTreeNode.firstFree_eq_some free)).1
  have atParent : (t.modify path fun n =>
      n.setSlot i (some (CellTree.newChild config t generated n i))).rootNode.at? path =
        some (n.setSlot i (some (CellTree.newChild config t generated n i))) := by
    rw [CellTree.modify, SlotTree.at?_modifyAt_self, found, Option.map_some]
  have held : (n.setSlot i (some (CellTree.newChild config t generated n i))).child i =
      some (CellTree.newChild config t generated n i) := by
    rw [SlotTree.child_setSlot, if_pos ⟨rfl, bound⟩]
  exact (inv.fillNew config generated found free).parentOf_child atParent held

namespace Cell

/-- The reply to a new peer needs a coordinator in the cell above, if there is one. -/
theorem offerReply_ok_iff {tree : CellTree} {node : CellTreeNode} :
    (∃ reply, offerReply tree node = .ok reply) ↔
      ∀ parent, tree.parentOf node = some parent → parent.label.sps ≠ [] := by
  unfold offerReply above
  cases tree.parentOf node with
  | none => exact iff_of_true ⟨_, rfl⟩ (fun parent impossible => by cases impossible)
  | some parent =>
      simp only [Option.some.injEq, forall_eq', ← CellTree.coordinatorOf_ok_iff]
      cases CellTree.coordinatorOf parent with
      | error fault =>
          apply iff_of_false
          · rintro ⟨reply, impossible⟩
            cases impossible
          · rintro ⟨coord, impossible⟩
            cases impossible
      | ok coord => exact iff_of_true ⟨_, rfl⟩ ⟨coord, rfl⟩

/-- The handler ends, and a cell that asks is answered with another cell of the tree,
which has a coordinator. -/
def RequestSafe (config : P3Configuration) (this : Cell) (generated : CellID)
    (srcFID : Option CellID) : Prop :=
  ∃ answer, this.handleCellRequest config generated srcFID = .ok answer ∧
    ∀ fid, srcFID = some fid → ∃ parent coordinator path n, answer.reply.parent = some parent ∧
      answer.tree.rootNode.at? path = some n ∧ n.label.cellID = parent.1 ∧
      n.label.getCoordinator = some coordinator ∧ parent.2 = .of coordinator ∧ parent.1 ≠ fid

variable {config : P3Configuration} {cell : Cell}

/-- The reply to a new peer. -/
theorem handleCellRequest_new_iff (inv : RepInv cell.cellTree) (generated : CellID) :
    cell.RequestSafe config generated none ↔ cell.cellTree.RequestFits none := by
  have safe : cell.RequestSafe config generated none ↔
      ∃ out, cell.cellTree.offer config generated = .ok out ∧
        ∃ reply, offerReply out.1 out.2 = .ok reply := by
    unfold RequestSafe handleCellRequest
    cases cell.cellTree.offer config generated with
    | error fault =>
        apply iff_of_false
        · rintro ⟨answer, impossible, -⟩
          cases impossible
        · rintro ⟨out, impossible, -⟩
          cases impossible
    | ok out =>
        simp only [Except.ok.injEq, exists_eq_left']
        cases replied : offerReply out.1 out.2 with
        | error fault =>
            apply iff_of_false
            · rintro ⟨answer, impossible, -⟩
              simp [bind, Except.bind, replied] at impossible
            · rintro ⟨reply, impossible⟩
              cases impossible
        | ok reply =>
            refine iff_of_true ⟨⟨out.1, reply⟩, ?_, ?_⟩ ⟨reply, rfl⟩
            · simp [bind, Except.bind, replied, pure, Except.pure]
            · intro fid impossible
              cases impossible
  rw [safe]
  simp only [offerReply_ok_iff]
  unfold CellTree.RequestFits
  cases available : cell.cellTree.getAvailableNode P3PeerInfo.SUPERPEER with
  | some path =>
      rcases SlotTree.findPath_eq_some available with ⟨n, found, -⟩
      have offered : cell.cellTree.offer config generated = .ok (cell.cellTree, n) := by
        simp only [CellTree.offer, available, found]
      simp only [offered, Except.ok.injEq, exists_eq_left']
      rcases List.eq_nil_or_concat' path with rfl | ⟨above, i, rfl⟩
      · rw [SlotTree.at?_nil, Option.some.injEq] at found
        simp [← found, inv.parentOf_root]
      · rcases RepInv.holder_of_at? found with ⟨p, atParent, held⟩
        simp [inv.parentOf_child atParent held, CellTree.StaffedAt, atParent]
  | none =>
      cases under : CellTree.createCellI cell.cellTree.rootNode with
      | none =>
          have failed : cell.cellTree.offer config generated = .error .nullDereference := by
            simp only [CellTree.offer, available, CellTree.createCell, under]
            rfl
          simp [failed]
      | some place =>
          rcases CellTree.createCellI_eq_some under with ⟨n, i, found, free⟩
          have offered := CellTree.offer_created config generated available under found free
          have above := inv.parentOf_created config generated found free
          simp only [offered, Except.ok.injEq, exists_eq_left', above, Option.some.injEq,
            forall_eq', CellTree.StaffedAt, found]
          rfl

/-- The reply to a cell names the node that is offered as its parent. -/
theorem requestSafe_cell_iff (generated : CellID) {fid : CellID} :
    cell.RequestSafe config generated (some fid) ↔
      ∃ n, cell.cellTree.offerParent fid = .ok n ∧ n.label.sps ≠ [] ∧ n.label.cellID ≠ fid := by
  simp only [RequestSafe, handleCellRequest]
  cases offered : cell.cellTree.offerParent fid with
  | error fault =>
      apply iff_of_false
      · rintro ⟨answer, impossible, -⟩
        cases impossible
      · rintro ⟨n, impossible, -⟩
        cases impossible
  | ok n =>
      simp only [Except.ok.injEq, exists_eq_left', ← CellTree.coordinatorOf_ok_iff]
      cases staffed : CellTree.coordinatorOf n with
      | error fault =>
          apply iff_of_false
          · rintro ⟨answer, impossible, -⟩
            simp [bind, Except.bind, staffed] at impossible
          · rintro ⟨⟨coord, impossible⟩, -⟩
            cases impossible
      | ok coord =>
          rcases CellTree.at?_of_offerParent offered with ⟨path, found⟩
          have leads : n.label.getCoordinator = some coord := by
            unfold CellTree.coordinatorOf at staffed
            split at staffed
            · rename_i coord' leads
              rwa [← Except.ok.inj staffed]
            · cases staffed
          simp only [bind, Except.bind, staffed, pure, Except.pure, Except.ok.injEq,
            exists_eq_left']
          constructor
          · intro answered
            rcases answered fid rfl with ⟨parent, -, -, -, named, -, -, -, -, other⟩
            obtain rfl := Option.some.inj named
            exact ⟨⟨coord, rfl⟩, other⟩
          · rintro ⟨-, other⟩ _ ⟨rfl⟩
            exact ⟨_, coord, path, n, rfl, found, rfl, leads, rfl, other⟩

/-- The reply to a cell that asks. -/
theorem handleCellRequest_cell_iff (inv : RepInv cell.cellTree) (generated : CellID)
    (fid : CellID) :
    cell.RequestSafe config generated (some fid) ↔ cell.cellTree.RequestFits (some fid) := by
  rw [requestSafe_cell_iff]
  cases known : cell.cellTree.getCellTreeNode fid with
  | some path =>
      rcases CellTree.getCellTreeNode_eq_some known with ⟨c, found, -⟩
      simp only [CellTree.RequestFits, CellTree.offerParent, known, found, Option.bind_some]
      rcases List.eq_nil_or_concat' path with rfl | ⟨above, i, rfl⟩
      · rw [SlotTree.at?_nil, Option.some.injEq] at found
        simp [← found, inv.parentOf_root]
      · rcases RepInv.holder_of_at? found with ⟨p, atParent, held⟩
        -- the search met the node above first, and it was not the one
        have other : p.label.cellID ≠ fid := by
          rw [ne_eq, ← UUID.sameKey_iff, Bool.not_eq_true]
          exact SlotTree.findPath_above known atParent
        simp only [inv.parentOf_child atParent held, List.dropLast_concat, CellTree.StaffedAt,
          Except.ok.injEq]
        constructor
        · rintro ⟨n, rfl, staffed, -⟩
          exact ⟨by simp, p, atParent, staffed⟩
        · rintro ⟨-, n, atAbove, staffed⟩
          obtain rfl := Option.some.inj (atParent.symm.trans atAbove)
          exact ⟨p, rfl, staffed, other⟩
  | none =>
      have absent := CellTree.getCellTreeNode_eq_none_iff.mp known
      simp only [CellTree.RequestFits, CellTree.offerParent, known]
      cases under : CellTree.createCellI cell.cellTree.rootNode with
      | none => simp
      | some place =>
          rcases CellTree.createCellI_eq_some under with ⟨n, i, found, -⟩
          have other := absent n.label
            (SlotTree.mem_labels_iff.mpr ⟨n, SlotTree.mem_nodes_of_at? found, rfl⟩)
          simp only [Option.bind_some, found, Except.ok.injEq, CellTree.StaffedAt]
          constructor
          · rintro ⟨n', rfl, staffed, -⟩
            exact ⟨place, rfl, n, found, staffed⟩
          · rintro ⟨place', same, n', atPlace, staffed⟩
            obtain rfl := Option.some.inj same
            obtain rfl := Option.some.inj (found.symm.trans atPlace)
            exact ⟨n, rfl, staffed, other⟩

/-! ## Runs of a coordinator -/

/-- What changes the tree of a coordinator. -/
inductive Event where
  | joinMesh (packet : JoinMeshPacket)
  | joinCell (packet : JoinCellPacket)
  | rebindMesh (packet : RebindMeshPacket)
  | leaveMesh (packet : LeaveMeshPacket)
  /-- The channel of a peer closes. -/
  | closed (uuid : UUID) (cellID : CellID)
  | requestCell (generated : CellID) (srcFID : Option CellID)
  | prune (l : List UUID)

/-- The tree after an event. -/
def handleEvent (config : P3Configuration) (this : Cell) : Event → Result CellTree
  | .joinMesh packet => (this.handleJoinMesh config packet).map fun handled => handled.tree
  | .joinCell packet => .ok (this.handleJoinCell packet).tree
  | .rebindMesh packet => (this.handleRebindMesh packet).map fun handled => handled.tree
  | .leaveMesh packet => (this.handleLeaveMesh packet).map fun handled => handled.tree
  | .closed uuid cellID => (Cell.leaveMesh this uuid cellID).map fun handled => handled.tree
  | .requestCell generated srcFID =>
      (this.handleCellRequest config generated srcFID).map fun answer => answer.tree
  | .prune l => this.cellTree.pruneSubtrees l

/-- The cell after a list of events; a fault ends the process. -/
def handleEvents (config : P3Configuration) (this : Cell) (events : List Event) : Result Cell :=
  events.foldlM
    (fun cell event => (cell.handleEvent config event).map fun tree => { cell with cellTree := tree })
    this

theorem tree_of_handleCellRequest (inv : RepInv cell.cellTree) {generated : CellID}
    {srcFID : Option CellID} {answer : CellAnswer}
    (done : cell.handleCellRequest config generated srcFID = .ok answer) : RepInv answer.tree := by
  cases srcFID with
  | none =>
      rcases Result.bind_eq_ok.mp done with ⟨⟨tree, node⟩, offered, rest⟩
      rcases Result.bind_eq_ok.mp rest with ⟨reply, -, made⟩
      obtain rfl := Except.ok.inj made
      rcases CellTree.offer_cases offered with
        ⟨path, -, -, -, same⟩ | ⟨-, -, -, path, n, i, found, free, created⟩
      · obtain rfl : tree = cell.cellTree := same
        exact inv
      · obtain rfl : tree = _ := created
        exact inv.fillNew config generated found free
  | some fid =>
      rcases Result.bind_eq_ok.mp done with ⟨node, -, rest⟩
      rcases Result.bind_eq_ok.mp rest with ⟨coord, -, made⟩
      obtain rfl := Except.ok.inj made
      exact inv

/-- Every event keeps the invariant of the tree. -/
theorem repInv_handleEvent (inv : RepInv cell.cellTree) {event : Event} {tree : CellTree}
    (done : cell.handleEvent config event = .ok tree) : RepInv tree := by
  cases event with
  | joinMesh packet =>
      rcases Result.map_eq_ok.mp done with ⟨handled, here, rfl⟩
      rcases handleJoinMesh_eq here with ⟨status, joined, -⟩
      exact inv.join joined
  | joinCell packet =>
      obtain rfl := Except.ok.inj done
      exact inv.handleJoinCell packet
  | rebindMesh packet =>
      rcases Result.map_eq_ok.mp done with ⟨handled, here, rfl⟩
      exact inv.handleRebindMesh here
  | leaveMesh packet =>
      rcases Result.map_eq_ok.mp done with ⟨handled, here, rfl⟩
      rcases Result.bind_eq_ok.mp here with ⟨left, departed, made⟩
      obtain rfl := Except.ok.inj made
      exact inv.leave departed
  | closed uuid cellID =>
      rcases Result.map_eq_ok.mp done with ⟨handled, here, rfl⟩
      rcases Result.bind_eq_ok.mp here with ⟨left, departed, made⟩
      obtain rfl := Except.ok.inj made
      exact inv.leave departed
  | requestCell generated srcFID =>
      rcases Result.map_eq_ok.mp done with ⟨answer, here, rfl⟩
      exact tree_of_handleCellRequest inv here
  | prune l => exact inv.pruneSubtrees done

theorem repInv_handleEvents (inv : RepInv cell.cellTree) {events : List Event} {after : Cell}
    (ran : cell.handleEvents config events = .ok after) : RepInv after.cellTree := by
  induction events generalizing cell with
  | nil => exact Except.ok.inj ran ▸ inv
  | cons event events ih =>
      rw [handleEvents, List.foldlM_cons] at ran
      rcases Result.bind_eq_ok.mp ran with ⟨middle, first, rest⟩
      rcases Result.map_eq_ok.mp first with ⟨tree, done, rfl⟩
      exact ih (repInv_handleEvent inv done) rest

end Cell

/-- In every state that a coordinator reaches from a tree of its own cell, a request for
a cell is handled safely exactly when the tree has what the handler needs. -/
theorem requests_safe_iff {config : P3Configuration} {start cell : Cell} {rootCellID : CellID}
    {events : List Cell.Event} (fresh : start.cellTree = CellTree.new config rootCellID)
    (ran : start.handleEvents config events = .ok cell) (generated : CellID)
    (srcFID : Option CellID) :
    cell.RequestSafe config generated srcFID ↔ cell.cellTree.RequestFits srcFID := by
  have inv := Cell.repInv_handleEvents (fresh ▸ RepInv.new config rootCellID) ran
  cases srcFID with
  | none => exact Cell.handleCellRequest_new_iff inv generated
  | some fid => exact Cell.handleCellRequest_cell_iff inv generated fid

/-- The configuration without entries. -/
private def noEntries : P3Configuration :=
  ⟨fun _ => none, fun _ => none, fun _ => none, fun _ => none⟩

/-- The coordinator of a root cell that has not been joined by any peer. -/
def freshRoot : Cell where
  pid := ⟨[9]⟩
  cellID := ⟨[0]⟩
  cellTree := CellTree.new noEntries ⟨[0]⟩
  parentChannel := none

/-- The first superpeer joins. -/
def firstJoin : List Cell.Event :=
  [.joinCell ⟨⟨⟨[9]⟩, ⟨[0]⟩⟩, none, none, none, none⟩]

/-- A cell that the tree does not know is offered the root cell once a superpeer is in it. -/
theorem requests_safe_unknownCell :
    ∃ cell, freshRoot.handleEvents noEntries firstJoin = .ok cell ∧
      cell.RequestSafe noEntries ⟨[1]⟩ (some ⟨[5]⟩) := by
  have ran : freshRoot.handleEvents noEntries firstJoin = .ok _ := rfl
  refine ⟨_, ran, ?_⟩
  apply (requests_safe_iff rfl ran ⟨[1]⟩ (some ⟨[5]⟩)).mpr
  exact ⟨([], 0), rfl, _, rfl, by decide⟩

/-- The node above the root is null. -/
theorem exists_request_faults :
    ∃ cell, freshRoot.handleEvents noEntries firstJoin = .ok cell ∧
      cell.handleCellRequest noEntries ⟨[1]⟩ (some ⟨[0]⟩) = .error .nullDereference ∧
      ¬cell.RequestSafe noEntries ⟨[1]⟩ (some ⟨[0]⟩) := by
  refine ⟨_, rfl, rfl, ?_⟩
  rintro ⟨answer, impossible, -⟩
  cases impossible

end Stheno.Superpeer
