import Stheno.Superpeer.Dispatch
import Stheno.Superpeer.Directory
import Stheno.Superpeer.Joining
import Stheno.Superpeer.Reading
import Stheno.Superpeer.Transfer

/-!
# A coordinator and its followers

The coordinator handles the packets of the mesh and relays each of them to its
followers, which apply it to trees of their own.  The two sides do not always make
the same update: a follower reads the parent of a joining peer from the packet, and
of a rebinding cell it takes in the coordinator only.  `Relayable` is the condition
under which both sides make the same update, and a run of such packets keeps all
trees in step.
-/

namespace Stheno.Superpeer

open Stheno.Tree Peer

/-- The packets that a coordinator relays to its followers. -/
inductive MeshPacket where
  | join (packet : JoinMeshPacket)
  | rebind (packet : RebindMeshPacket)
  | leave (packet : LeaveMeshPacket)

namespace MeshPacket

def toPacket : MeshPacket → Packet
  | .join packet => .joinMesh packet
  | .rebind packet => .rebindMesh packet
  | .leave packet => .leaveMesh packet

/-- The peer that the packet is about. -/
def uuid : MeshPacket → UUID
  | .join packet => packet.uuid
  | .rebind packet => packet.uuid
  | .leave packet => packet.uuid

end MeshPacket

namespace Cell

/-- The update of a follower for a relayed packet. -/
def follow (config : P3Configuration) (this : Cell) : Packet → Result CellTree
  | .joinMesh packet => this.handleCoordinatorJoinMesh config packet
  | .rebindMesh packet => this.handleCoordinatorRebindMesh config packet
  | .leaveMesh packet => this.handleCoordinatorLeaveMesh packet
  | .joinCell _ => .ok this.cellTree

/-- `CellGroup` passes a packet about `uuid` to a member that is another peer. -/
def receive (config : P3Configuration) (uuid : UUID) (packet : Packet) (this : Cell) :
    Result Cell :=
  if this.pid.sameKey uuid then
    .ok this
  else
    (this.follow config packet).map fun tree => { this with cellTree := tree }

/-- The coordinator alone, whatever its parent answers. -/
def handle (config : P3Configuration) (this : Cell) (packet : MeshPacket) : Result Cell :=
  (this.react config packet.toPacket).map fun reaction => { this with cellTree := reaction.tree }

end Cell

/-- A coordinator with the members of its follower group. -/
structure Group where
  coordinator : Cell
  followers : List Cell

namespace Group

/-- The coordinator handles a packet and every follower the packet relayed for it. -/
def handle (config : P3Configuration) (this : Group) (packet : MeshPacket) : Result Group := do
  let reaction ← this.coordinator.react config packet.toPacket
  let followers ← this.followers.mapM (Cell.receive config packet.uuid reaction.toGroup)
  pure { coordinator := { this.coordinator with cellTree := reaction.tree }, followers }

end Group

/-! ## Agreement -/

namespace CellTree

end CellTree

/-! ## When both sides make the same update -/

/-- The tree is one cell with one peer, as it is created for that peer at a depth. -/
def CellTree.IsNewCell (config : P3Configuration) (this : CellTree) (peer : P3PeerInfo)
    (depth : Int) : Prop :=
  this.rootNode.slots = List.replicate (config.treeSpan depth).toNat none ∧
    ∃ cell, (DirectoryCell.new config peer.fid depth).add peer.type peer.pid = some cell ∧
      this.rootNode.label.directoryCell = { cell with depth := this.rootNode.label.depth }

namespace Cell

/-- The parent under which a follower looks for the cell of a joining peer. -/
def followerParent (this : Cell) (packet : JoinMeshPacket) : Option CellID :=
  if this.cellID.sameKey packet.cellID then none else packet.parentCellID

/-- A follower dereferences the parent only for a cell that it does not know. -/
def FollowerFinds (this : Cell) (packet : JoinMeshPacket) : Prop :=
  this.cellID = packet.cellID ∨ packet.parentCellID ≠ none ∨
    packet.cellID ∈ this.cellTree.cellIDs

def FollowerDeclines (this : Cell) (packet : JoinMeshPacket) : Prop :=
  this.FollowerFinds packet ∧
    this.cellTree.Declines packet.peerInfo (this.followerParent packet)

/-- The cell of the peer is known, or both sides create it below one parent, or
neither side creates it. -/
def JoinsAlike (this : Cell) (packet : JoinMeshPacket) : Prop :=
  packet.cellID ∈ this.cellTree.cellIDs ∨
    (this.followerParent packet = this.joinParent packet ∧ this.joinParent packet ≠ none) ∨
    (this.cellTree.Declines packet.peerInfo (this.joinParent packet) ∧
      this.FollowerDeclines packet)

/-- The coordinator has the root cell of the subtree or no slot for it. -/
def Refuses (this : Cell) (packet : RebindMeshPacket) (subTree : CellTree) : Prop :=
  subTree.getRootCellID ∈ this.cellTree.cellIDs ∨
    ¬this.cellTree.HasRoomUnder packet.parentCellID

/-- Neither side changes its tree, or the state is no more than the new cell that a
follower creates for the coordinator of the rebinding cell. -/
def RebindsAlike (config : P3Configuration) (this : Cell) (packet : RebindMeshPacket)
    (subTree : CellTree) : Prop :=
  (this.Refuses packet subTree ∧ this.FollowerDeclines packet.toJoinMeshPacket) ∨
    (packet.cellID ∉ this.cellTree.cellIDs ∧ this.cellID ≠ packet.cellID ∧
      ∃ parent, packet.parentCellID = some parent ∧
        ∀ path n, this.cellTree.getCellTreeNode parent = some path →
          this.cellTree.rootNode.at? path = some n →
            subTree.IsNewCell config packet.peerInfo (n.label.depth + 1))

/-- The coordinator and a follower that is told make the same update. -/
def Alike (config : P3Configuration) (this : Cell) : MeshPacket → Prop
  | .join packet => this.JoinsAlike packet
  | .rebind packet => ∀ subTree after,
      CellTree.deserialize this.cellTree.freshAddr { data := packet.state, goodBit := true } =
        .ok (subTree, after) → this.RebindsAlike config packet subTree
  | .leave _ => True

/-- The coordinator makes no update, as a follower that is not told. -/
def Unmoved (this : Cell) : MeshPacket → Prop
  | .join packet => this.cellTree.Declines packet.peerInfo (this.joinParent packet)
  | .rebind packet => ∀ subTree after,
      CellTree.deserialize this.cellTree.freshAddr { data := packet.state, goodBit := true } =
        .ok (subTree, after) → this.Refuses packet subTree
  | .leave packet => ∀ path n, this.cellTree.getCellTreeNode packet.cellID = some path →
      this.cellTree.rootNode.at? path = some n → packet.uuid ∉ n.label.pids

end Cell

/-- The packet keeps every follower in step with the coordinator: it is about another
peer and both make the same update, or it is about the follower and changes nothing. -/
def Group.Relayable (config : P3Configuration) (this : Group) (packet : MeshPacket) : Prop :=
  ∀ follower ∈ this.followers,
    if follower.pid = packet.uuid then this.coordinator.Unmoved packet
    else this.coordinator.Alike config packet

/-- A follower that is in step with its coordinator. -/
structure InStepWith (coordinator follower : Cell) : Prop where
  cellID : follower.cellID = coordinator.cellID
  inv : RepInv follower.cellTree
  directory : follower.cellTree.directory = coordinator.cellTree.directory

/-! ## What a view shows of the two sides -/

namespace CellView

variable {β : Type} (V : CellView β)

/-- The tree shows one cell with one peer, as it is created for that peer at a depth. -/
def IsNewCell (config : P3Configuration) (s : CellTree) (peer : P3PeerInfo) (depth : Int) : Prop :=
  s.rootNode.slots = List.replicate (config.treeSpan depth).toNat none ∧
    V.add (V.new config peer.fid depth) peer = some (V.view { s.rootNode.label with depth })

/-- Neither side changes its tree, or the state shows no more than the new cell that a
follower creates. -/
def RebindsAlike (config : P3Configuration) (cell : Cell) (packet : RebindMeshPacket)
    (subTree : CellTree) : Prop :=
  (cell.Refuses packet subTree ∧ cell.FollowerDeclines packet.toJoinMeshPacket) ∨
    (packet.cellID ∉ cell.cellTree.cellIDs ∧ cell.cellID ≠ packet.cellID ∧
      ∃ parent, packet.parentCellID = some parent ∧
        ∀ path n, cell.cellTree.getCellTreeNode parent = some path →
          cell.cellTree.rootNode.at? path = some n →
            V.IsNewCell config subTree packet.peerInfo (n.label.depth + 1))

/-- The coordinator and a follower that is told make updates that show alike. -/
def Alike (config : P3Configuration) (cell : Cell) : MeshPacket → Prop
  | .join packet => cell.JoinsAlike packet
  | .rebind packet => ∀ subTree after,
      CellTree.deserialize cell.cellTree.freshAddr { data := packet.state, goodBit := true } =
        .ok (subTree, after) → V.RebindsAlike config cell packet subTree
  | .leave _ => True

/-- A follower whose tree shows what the tree of its coordinator shows. -/
structure InStep (coordinator follower : Cell) : Prop where
  cellID : follower.cellID = coordinator.cellID
  inv : RepInv follower.cellTree
  shown : V.tree follower.cellTree = V.tree coordinator.cellTree

variable {V}

theorem join_known {config : P3Configuration} {d : SlotTree β} {peer : P3PeerInfo} {path : Path}
    (known : V.findCell d peer.fid = some path) (parentCellID : Option CellID) :
    V.join config d peer parentCellID = V.addAt d path peer := by
  cases parentCellID with
  | none => simp only [join, addPeer, known]
  | some parentCellID => simp only [join, addPeerUnder, known]

theorem tree_of_declines (config : P3Configuration) {t : CellTree} {peer : P3PeerInfo}
    {parentCellID : Option CellID} (declines : t.Declines peer parentCellID) :
    V.join config (V.tree t) peer parentCellID = V.tree t := by
  rcases tree_join (V := V) config t peer parentCellID with ⟨out, done, shown⟩
  rw [CellTree.join_of_declines config declines] at done
  cases done
  exact shown.symm

theorem cellIDs_tree (t : CellTree) : (V.tree t).labels.map V.cellID = t.cellIDs := by
  rw [tree, SlotTree.labels_map, List.map_map]
  exact List.map_congr_left fun info _ => V.cellID_view info

/-- A copy shows what the original shows. -/
theorem tree_of_same {t copy : CellTree} (same : t.SameUpToPointers copy) :
    V.tree copy = V.tree t := by
  have shown := congrArg (SlotTree.map V.view) same
  rw [SlotTree.map_map, SlotTree.map_map] at shown
  have ignores : V.view ∘ CellTreeNode.forgetPointers = V.view := by
    funext info
    exact V.view_placed info 0 none info.spanNo
  rw [ignores] at shown
  exact shown

/-- The root cell of a state that shows one new cell is the cell of the peer. -/
theorem getRootCellID_of_newCell {config : P3Configuration} {s : CellTree} {peer : P3PeerInfo}
    {depth : Int} (new : V.IsNewCell config s peer depth) : s.getRootCellID = peer.fid := by
  have added := new.2
  rw [← V.view_new config 0 peer.fid none 0 depth, ← V.view_add] at added
  rcases Option.map_eq_some_iff.mp added with ⟨info, here, shown⟩
  have same := congrArg V.cellID shown
  rw [V.cellID_view, V.cellID_view, (CellInfo.sameNode_of_add here).cellID] at same
  exact same.symm

/-- A state that shows one new cell is grafted as the cell that `addPeerUnder` creates. -/
theorem tree_graft_newCell {config : P3Configuration} {t s : CellTree} {peer : P3PeerInfo}
    {path : Path} {n : CellTreeNode} {i : Nat} (found : t.rootNode.at? path = some n)
    (free : CellTreeNode.firstFree n = some i)
    (new : V.IsNewCell config s peer (n.label.depth + 1)) :
    V.tree (t.modify path (CellTree.graft s.rootNode i)) =
      V.addAt (V.fillNew config (V.tree t) path (V.view n.label) i peer.fid) (path ++ [i]) peer := by
  rcases new with ⟨childless, added⟩
  have bound := (List.getElem?_eq_some_iff.mp (CellTreeNode.firstFree_eq_some free)).1
  have placed : (CellTreeNode.grafted s.rootNode n i).map V.view =
      .node (V.view { s.rootNode.label with depth := n.label.depth + 1 })
        (List.replicate (config.treeSpan (n.label.depth + 1)).toNat none) := by
    have slots : (CellTreeNode.grafted s.rootNode n i).slots =
        List.replicate (config.treeSpan (n.label.depth + 1)).toNat none := by
      rw [CellTreeNode.grafted, CellTreeNode.setParent, SlotTree.mapLabel, SlotTree.slots_node,
        CellTreeNode.slots_setLocation, childless, CellTreeNode.setLocationOfSlots_replicate]
    have label : V.view (CellTreeNode.grafted s.rootNode n i).label =
        V.view { s.rootNode.label with depth := n.label.depth + 1 } := by
      rw [CellTreeNode.grafted, CellTreeNode.setParent, SlotTree.mapLabel, SlotTree.label_node,
        CellTreeNode.label_setLocation]
      exact V.view_placed { s.rootNode.label with depth := n.label.depth + 1 }
        s.rootNode.label.addr (some n.label.addr) i
    rw [← SlotTree.node_label_slots (CellTreeNode.grafted s.rootNode n i), SlotTree.map_node, label,
      slots, List.map_replicate, Option.map_none]
  have atParent : (V.tree t).at? path = some (n.map V.view) := by
    rw [at?_tree, found, Option.map_some]
  have atNew : (V.fillNew config (V.tree t) path (V.view n.label) i peer.fid).at? (path ++ [i]) =
      some (.node (V.new config peer.fid (n.label.depth + 1))
        (List.replicate (config.treeSpan (n.label.depth + 1)).toNat none)) := by
    apply SlotTree.at?_snoc
    · rw [fillNew, SlotTree.at?_modifyAt_self, atParent, Option.map_some]
    · rw [SlotTree.child_setSlot, if_pos ⟨rfl, by simpa using bound⟩, V.depth_view]
  have grafted : V.tree (t.modify path (CellTree.graft s.rootNode i)) =
      (V.tree t).modifyAt (fun m => m.setSlot i (some (.node
        (V.view { s.rootNode.label with depth := n.label.depth + 1 })
        (List.replicate (config.treeSpan (n.label.depth + 1)).toNat none)))) path := by
    rw [CellTree.graft_congr found]
    apply SlotTree.map_modifyAt found
    rw [SlotTree.map_setSlot, Option.map_some, placed]
  rw [grafted, addAt, atNew, Option.bind_some, SlotTree.label_node, added]
  simp only
  rw [fillNew, SlotTree.modifyAt_append, SlotTree.modifyAt_modifyAt]
  congr 1
  funext m
  rw [SlotTree.modifyAt_setSlot, V.depth_view]
  rfl

end CellView

/-! ### Directories -/

theorem CellTree.isNewCell_iff {config : P3Configuration} {s : CellTree} {peer : P3PeerInfo}
    {depth : Int} : s.IsNewCell config peer depth ↔ directoryView.IsNewCell config s peer depth := by
  constructor
  · rintro ⟨childless, cell, added, label⟩
    have placed : { s.rootNode.label.directoryCell with depth } = cell := by
      have sameDepth : cell.depth = depth := DirectoryCell.depth_of_add added
      rw [label, ← sameDepth]
    exact ⟨childless, added.trans (congrArg some placed.symm)⟩
  · rintro ⟨childless, added⟩
    exact ⟨childless, _, added, rfl⟩

/-- A copy has the directory of the original. -/
theorem CellTree.SameUpToPointers.directory {t copy : CellTree} (same : t.SameUpToPointers copy) :
    copy.directory = t.directory :=
  CellView.tree_of_same (V := directoryView) same

theorem Cell.alike_iff {config : P3Configuration} {cell : Cell} {packet : MeshPacket} :
    cell.Alike config packet ↔ directoryView.Alike config cell packet := by
  cases packet with
  | join packet => exact Iff.rfl
  | rebind packet =>
      simp only [Alike, CellView.Alike, RebindsAlike, CellView.RebindsAlike, CellTree.isNewCell_iff]
  | leave packet => exact Iff.rfl

theorem inStepWith_iff {coordinator follower : Cell} :
    InStepWith coordinator follower ↔ directoryView.InStep coordinator follower := by
  constructor
  · rintro ⟨cellID, inv, same⟩
    exact ⟨cellID, inv, same⟩
  · rintro ⟨cellID, inv, same⟩
    exact ⟨cellID, inv, same⟩

/-! ## One packet -/

namespace Cell

theorem followerParent_eq_some {cell : Cell} {packet : JoinMeshPacket} {parent : CellID}
    (below : cell.followerParent packet = some parent) :
    cell.cellID ≠ packet.cellID ∧ packet.parentCellID = some parent := by
  unfold followerParent at below
  split at below
  · cases below
  · rename_i other
    exact ⟨fun own => other (UUID.sameKey_iff.mpr own), below⟩

/-- The update of a follower is the join below the parent that it looks for. -/
theorem handleCoordinatorJoinMesh_eq (config : P3Configuration) {cell : Cell}
    {packet : JoinMeshPacket} (finds : cell.FollowerFinds packet) :
    cell.handleCoordinatorJoinMesh config packet =
      (cell.cellTree.join config packet.peerInfo (cell.followerParent packet)).map Prod.fst := by
  unfold handleCoordinatorJoinMesh followerParent
  by_cases own : cell.cellID.sameKey packet.cellID = true
  · rw [if_pos own, if_pos own]
    rfl
  · rw [if_neg own, if_neg own]
    cases below : packet.parentCellID with
    | some parent => rfl
    | none =>
        have known : packet.cellID ∈ cell.cellTree.cellIDs := by
          rcases finds with same | named | member
          · exact absurd (UUID.sameKey_iff.mpr same) own
          · exact absurd below named
          · exact member
        cases searched : cell.cellTree.getCellTreeNode packet.peerInfo.fid with
        | none => exact absurd known (CellTree.getCellTreeNode_eq_none_iff_notMem.mp searched)
        | some path =>
            rw [CellTree.join_known searched]
            simp only [CellTree.addPeerUnder, searched]

end Cell

/-! ### Joins -/

/-- What a follower shows after a join, in terms of the coordinator. -/
theorem CellView.InStep.joins {β : Type} {V : CellView β} {coordinator follower : Cell}
    (inStep : V.InStep coordinator follower) (config : P3Configuration) {packet : JoinMeshPacket}
    (finds : coordinator.FollowerFinds packet) :
    ∃ tree, follower.handleCoordinatorJoinMesh config packet = .ok tree ∧ RepInv tree ∧
      V.tree tree = V.join config (V.tree coordinator.cellTree) packet.peerInfo
        (coordinator.followerParent packet) := by
  have cells : follower.cellTree.cellIDs = coordinator.cellTree.cellIDs := by
    have shown := congrArg (fun d => d.labels.map V.cellID) inStep.shown
    simpa only [cellIDs_tree] using shown
  have findsHere : follower.FollowerFinds packet := by
    rw [Cell.FollowerFinds, inStep.cellID, cells]
    exact finds
  have parent : follower.followerParent packet = coordinator.followerParent packet := by
    rw [Cell.followerParent, Cell.followerParent, inStep.cellID]
  rcases tree_join (V := V) config follower.cellTree packet.peerInfo
    (follower.followerParent packet) with ⟨out, done, shown⟩
  refine ⟨out.1, ?_, inStep.inv.join done, ?_⟩
  · rw [Cell.handleCoordinatorJoinMesh_eq config findsHere, done]
    rfl
  · rw [shown, inStep.shown, parent]

theorem Cell.JoinsAlike.same_join {β : Type} (V : CellView β) (config : P3Configuration)
    {cell : Cell} {packet : JoinMeshPacket} (alike : cell.JoinsAlike packet) :
    cell.FollowerFinds packet ∧
      V.join config (V.tree cell.cellTree) packet.peerInfo (cell.followerParent packet) =
        V.join config (V.tree cell.cellTree) packet.peerInfo (cell.joinParent packet) := by
  rcases alike with known | ⟨same, named⟩ | ⟨declines, finds, followerDeclines⟩
  · constructor
    · exact Or.inr (Or.inr known)
    · cases searched : cell.cellTree.getCellTreeNode packet.cellID with
      | none => exact absurd known (CellTree.getCellTreeNode_eq_none_iff_notMem.mp searched)
      | some path =>
          have shown : V.findCell (V.tree cell.cellTree) packet.peerInfo.fid = some path :=
            (CellView.findCell_tree _ _).trans searched
          rw [CellView.join_known shown, CellView.join_known shown]
  · constructor
    · rcases Option.ne_none_iff_exists'.mp named with ⟨parent, isParent⟩
      rw [isParent] at same
      rw [Cell.FollowerFinds, (Cell.followerParent_eq_some same).2]
      exact Or.inr (Or.inl (by simp))
    · rw [same]
  · constructor
    · exact finds
    · exact (CellView.tree_of_declines config followerDeclines).trans
        (CellView.tree_of_declines config declines).symm

/-- The tree of the coordinator after a join. -/
theorem Cell.handleJoinMesh_eq {config : P3Configuration} {cell : Cell}
    {packet : JoinMeshPacket} {handled : Handled JoinMeshPacket JoinMeshPacket}
    (done : cell.handleJoinMesh config packet = .ok handled) :
    ∃ status,
      cell.cellTree.join config packet.peerInfo (cell.joinParent packet) =
        .ok (handled.tree, status) ∧
      handled.toGroup = { packet with header := cell.header } := by
  unfold handleJoinMesh at done
  rcases Result.bind_eq_ok.mp done with ⟨out, joined, rest⟩
  cases rest
  exact ⟨out.2, joined, rfl⟩

/-! ### Rebinds -/

theorem CellView.RebindsAlike.same_join {β : Type} {V : CellView β} {config : P3Configuration}
    {cell : Cell} {packet : RebindMeshPacket} {s : CellTree}
    (alike : V.RebindsAlike config cell packet s) :
    cell.FollowerFinds packet.toJoinMeshPacket ∧
      V.join config (V.tree cell.cellTree) packet.peerInfo
          (cell.followerParent packet.toJoinMeshPacket) =
        V.tree (cell.cellTree.addSubtree s packet.parentCellID).1 := by
  rcases alike with ⟨refuses, finds, followerDeclines⟩ | ⟨unknown, other, parent, named, newCell⟩
  · constructor
    · exact finds
    · rw [CellTree.addSubtree_tree_eq_iff.mpr refuses]
      exact tree_of_declines config followerDeclines
  · constructor
    · exact Or.inr (Or.inl (by simp [named]))
    · have below : cell.followerParent packet.toJoinMeshPacket = some parent := by
        rw [Cell.followerParent, if_neg (by simpa using other)]
        exact named
      have absent : cell.cellTree.getCellTreeNode packet.peerInfo.fid = none :=
        CellTree.getCellTreeNode_eq_none_iff_notMem.mpr unknown
      rw [below, join, addPeerUnder, findCell_tree, findCell_tree, absent]
      simp only
      rcases cell.cellTree.addSubtree_cases s packet.parentCellID with
        ⟨known, kept⟩ | ⟨-, path, n, i, under, found, free, grafted⟩ | ⟨-, full, refused⟩
      · -- the root of the state is the cell of the packet, which is unknown
        cases under : cell.cellTree.getCellTreeNode parent with
        | none => simp only [kept]
        | some path =>
            rcases CellTree.getCellTreeNode_eq_some under with ⟨n, found, -⟩
            have root := getRootCellID_of_newCell (newCell path n under found)
            rw [root] at known
            exact absurd absent known
      · rw [named] at under
        have new := newCell path n under found
        have underParent : cell.cellTree.getCellTreeNode parent = some path := under
        simp only [underParent, freeSlot_tree found, free, Option.map_some, grafted]
        exact (tree_graft_newCell found free new).symm
      · rw [named] at full
        cases under : cell.cellTree.getCellTreeNode parent with
        | none => simp only [refused]
        | some path =>
            rcases CellTree.getCellTreeNode_eq_some under with ⟨n, found, -⟩
            simp only [freeSlot_tree found, full path n under found, Option.map_none, refused]

/-- The tree of the coordinator after a rebind. -/
theorem Cell.handleRebindMesh_eq {cell : Cell} {packet : RebindMeshPacket}
    {handled : Handled RebindMeshPacket RebindMeshPacket}
    (done : cell.handleRebindMesh packet = .ok handled) :
    ∃ s after, CellTree.deserialize cell.cellTree.freshAddr { data := packet.state, goodBit := true } =
        .ok (s, after) ∧
      handled.tree = (cell.cellTree.addSubtree s packet.parentCellID).1 ∧
      handled.toGroup = { packet with header := cell.header } := by
  unfold handleRebindMesh at done
  cases read : CellTree.deserialize cell.cellTree.freshAddr
      { data := packet.state, goodBit := true } with
  | error fault =>
      rw [read] at done
      cases done
  | ok out =>
      rw [read] at done
      cases done
      exact ⟨out.1, out.2, rfl, rfl, rfl⟩

/-- Grafting a state keeps the invariant, whatever its bytes are. -/
theorem RepInv.handleRebindMesh {cell : Cell} (inv : RepInv cell.cellTree)
    {packet : RebindMeshPacket} {handled : Handled RebindMeshPacket RebindMeshPacket}
    (done : cell.handleRebindMesh packet = .ok handled) : RepInv handled.tree := by
  rcases Cell.handleRebindMesh_eq done with ⟨s, after, read, tree, -⟩
  rcases CellTree.allocated_of_deserialize read with ⟨points, own, new⟩
  rw [tree]
  apply inv.addSubtree points own
  intro addr inSubtree inTree
  exact Nat.not_lt.mpr (new addr inSubtree) (CellTree.lt_freshAddr inTree)

end Stheno.Superpeer
