import Stheno.Superpeer.TreeCodec

/-!
# The packet handlers of a cell

What `Cell` does with a packet: the update of its tree, the answer, the packet
it sends to the parent coordinator and the packet it hands to its followers.
The answer of the parent arrives later; `Handled.reply` combines the two.
-/

namespace Stheno.Superpeer

open Stheno.Tree Peer

/-- The part of a packet header that the handlers read. -/
structure PacketHeader where
  srcPID : UUID
  srcFID : UUID

structure JoinMeshPacket where
  header : PacketHeader
  type : UInt32
  uuid : UUID
  cellID : CellID
  parentCellID : Option CellID
  endpoint : Option Endpoint
  discoverySAP : Option SAPInfo
  meshSAP : Option SAPInfo
  ftSAP : Option SAPInfo

/-- The peer that a packet announces. -/
def JoinMeshPacket.peerInfo (packet : JoinMeshPacket) : P3PeerInfo :=
  P3PeerInfo.announced packet.type packet.uuid packet.cellID packet.endpoint packet.meshSAP
    packet.discoverySAP packet.ftSAP

/-- A rebind carries the bytes of the rebinding cell's tree beside its coordinator. -/
structure RebindMeshPacket extends JoinMeshPacket where
  state : List UInt8

structure LeaveMeshPacket where
  header : PacketHeader
  uuid : UUID
  cellID : CellID

structure JoinCellPacket where
  header : PacketHeader
  endpoint : Option Endpoint
  discoverySAP : Option SAPInfo
  meshSAP : Option SAPInfo
  ftSAP : Option SAPInfo

/-- The packets that reach a cell from below. -/
inductive Packet where
  | joinMesh (packet : JoinMeshPacket)
  | rebindMesh (packet : RebindMeshPacket)
  | leaveMesh (packet : LeaveMeshPacket)
  | joinCell (packet : JoinCellPacket)

/-- The peer at the other end of the channel to the parent coordinator. -/
structure ParentChannel where
  uuid : UUID
  cellID : CellID

/-- The state of `Cell` that the handlers use. -/
structure Cell where
  /-- The identifier of the runtime. -/
  pid : UUID
  cellID : CellID
  cellTree : CellTree
  parentChannel : Option ParentChannel

/-- What a handler leaves behind before the parent answers. -/
structure Handled (Up Group : Type) where
  tree : CellTree
  /-- The answer of this cell alone. -/
  accepted : Bool
  toParent : Option Up
  toGroup : Group

/-- The answer to the sender: a parent that was asked must agree, and `answer` is
false when its reply does not arrive in time. -/
def Handled.reply {Up Group : Type} (this : Handled Up Group) (answer : Bool) : Bool :=
  this.accepted && (this.toParent.isNone || answer)

namespace CellTree

/-- `addPeer(pi)` for a null parent, else `addPeer(pi, parent)`. -/
def join (config : P3Configuration) (this : CellTree) (peer : P3PeerInfo)
    (parentCellID : Option CellID) : Result (CellTree × Int) :=
  match parentCellID with
  | none => .ok (this.addPeer peer)
  | some parentCellID => this.addPeerUnder config peer (some parentCellID)

/-- Remove a peer from a cell, and the subtree of the cell with its last superpeer;
the answer is the status that the handlers report. -/
def leave (this : CellTree) (uuid : UUID) (cellID : CellID) : Result (CellTree × Bool) :=
  match this.getCellTreeNode cellID with
  | none => .ok (this, false)
  | some path =>
      match (this.rootNode.at? path).bind fun node => node.label.remove uuid with
      | none => .ok (this, false)
      | some info => do
          let removed := this.modify path (SlotTree.mapLabel fun _ => info)
          if info.getPeerCount = 0 then
            let pruned ← removed.removeSubtree cellID
            pure (pruned.1, true)
          else
            pure (removed, true)

end CellTree

namespace Cell

/-- The header of the packets that this cell builds. -/
def header (this : Cell) : PacketHeader :=
  { srcPID := this.pid, srcFID := this.cellID }

/-! ## The coordinator -/

/-- The parent under which a joining peer's cell is looked for: sensors and
monitors belong to the coordinator's own cell. -/
def joinParent (this : Cell) (packet : JoinMeshPacket) : Option CellID :=
  if packet.type = P3PeerInfo.SENSOR ∨ packet.type = P3PeerInfo.MONITOR then
    some this.cellID
  else
    packet.parentCellID

/-- `joinSiblingPeer` of the channel to the parent. -/
def joinSiblingPeer (this : Cell) (packet : JoinMeshPacket) (parentCellID : Option CellID) :
    JoinMeshPacket :=
  { packet with header := this.header, parentCellID }

def handleJoinMesh (config : P3Configuration) (this : Cell) (packet : JoinMeshPacket) :
    Result (Handled JoinMeshPacket JoinMeshPacket) := do
  let parentCellID := this.joinParent packet
  let joined ← this.cellTree.join config packet.peerInfo parentCellID
  let accepted : Bool := joined.2 = 0
  pure
    { tree := joined.1
      accepted
      toParent :=
        if accepted then
          this.parentChannel.map fun _ => this.joinSiblingPeer packet parentCellID
        else
          none
      toGroup := { packet with header := this.header } }

/-- The state is read into new nodes; each of its duplicates holds the same bytes. -/
def handleRebindMesh (this : Cell) (packet : RebindMeshPacket) :
    Result (Handled RebindMeshPacket RebindMeshPacket) := do
  let tree ← CellTree.deserialize this.cellTree.freshAddr { data := packet.state, goodBit := true }
  let added := this.cellTree.addSubtree tree.1 packet.parentCellID
  let accepted : Bool := added.2 = 0
  pure
    { tree := added.1
      accepted
      toParent :=
        if accepted then
          this.parentChannel.map fun _ =>
            { packet with header := this.header, type := P3PeerInfo.SUPERPEER }
        else
          none
      toGroup := { packet with header := this.header } }

/-- `leaveMesh(uuid, cellID)`, called when the channel of a peer closes. -/
def leaveMesh (this : Cell) (uuid : UUID) (cellID : CellID) :
    Result (Handled LeaveMeshPacket LeaveMeshPacket) := do
  let left ← this.cellTree.leave uuid cellID
  pure
    { tree := left.1
      accepted := left.2
      toParent := this.parentChannel.map fun _ => { header := this.header, uuid, cellID }
      toGroup := { header := this.header, uuid, cellID } }

/-- The packet to the parent names the sender of the incoming packet and this cell. -/
def handleLeaveMesh (this : Cell) (packet : LeaveMeshPacket) :
    Result (Handled LeaveMeshPacket LeaveMeshPacket) := do
  let left ← this.cellTree.leave packet.uuid packet.cellID
  pure
    { tree := left.1
      accepted := left.2
      toParent := this.parentChannel.map fun _ =>
        { header := this.header, uuid := packet.header.srcPID, cellID := this.cellID }
      toGroup := { packet with header := this.header } }

/-- A sibling joins the root cell of the tree.  The result of `add` is ignored, and
the parent and the followers are told whether there was room or not. -/
def handleJoinCell (this : Cell) (packet : JoinCellPacket) :
    Handled JoinMeshPacket JoinMeshPacket :=
  let node := this.cellTree.rootNode
  let status := node.label.hasAvailableSlotsForPeer P3PeerInfo.SUPERPEER
  let announced (cellID : CellID) (parentCellID : Option CellID) : JoinMeshPacket :=
    { header := this.header
      type := P3PeerInfo.SUPERPEER
      uuid := packet.header.srcPID
      cellID
      parentCellID
      endpoint := packet.endpoint
      discoverySAP := packet.discoverySAP
      meshSAP := packet.meshSAP
      ftSAP := packet.ftSAP }
  { tree :=
      if status then
        (this.cellTree.addAt [] (announced node.label.cellID none).peerInfo).1
      else
        this.cellTree
    accepted := status
    toParent := this.parentChannel.map fun parent => announced this.cellID (some parent.cellID)
    toGroup := announced packet.header.srcFID none }

/-! ## The follower -/

/-- The update of `handleCoordinatorJoinMesh`. -/
def handleCoordinatorJoinMesh (config : P3Configuration) (this : Cell) (packet : JoinMeshPacket) :
    Result CellTree :=
  if this.cellID.sameKey packet.cellID then
    .ok (this.cellTree.addPeer packet.peerInfo).1
  else
    (this.cellTree.addPeerUnder config packet.peerInfo packet.parentCellID).map Prod.fst

/-- The update of `handleCoordinatorRebindMesh`, which has the body of the handler of
a join and does not read the state. -/
def handleCoordinatorRebindMesh (config : P3Configuration) (this : Cell)
    (packet : RebindMeshPacket) : Result CellTree :=
  this.handleCoordinatorJoinMesh config packet.toJoinMeshPacket

/-- The update of `handleCoordinatorLeaveMesh`. -/
def handleCoordinatorLeaveMesh (this : Cell) (packet : LeaveMeshPacket) : Result CellTree :=
  (this.cellTree.leave packet.uuid packet.cellID).map Prod.fst

/-- `CellGroup` sends a packet to every member but the peer that it is about. -/
def groupMembers (members : List UUID) (uuid : UUID) : List UUID :=
  members.filter fun pid => !pid.sameKey uuid

end Cell

end Stheno.Superpeer
