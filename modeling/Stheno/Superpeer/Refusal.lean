import Stheno.Superpeer.Agreement

/-!
# Refused requests

A coordinator may refuse a peer that asks to be taken in, or its parent may refuse
on its behalf.  The handlers do not undo what they have done by then: a peer that
was added stays, the followers and, for a cell join, the parent are told of a
refused peer too, and the acceptor files a channel whatever the answer was, for a peer
of the own cell a second one to its follower acceptor.
`LeavesNoTrace` says when none of this has an effect.
-/

namespace Stheno.Superpeer

open Stheno.Tree Peer

/-- The fields that `CellSvcHandler::open` takes from the first packet of a channel. -/
structure SvcChannel where
  pid : UUID
  cellID : CellID
  type : UInt32
  followerEndpoint : Option Endpoint

/-- The channel that `CellAcceptor` opens to the follower acceptor of a peer. -/
structure FollowerChannel where
  uuid : UUID
  fid : CellID

/-- A request of a peer, or of a coordinator for a peer, to be taken in.  The handlers do not
read the follower endpoint of a packet; its channel keeps it. -/
inductive JoinRequest where
  | joinMesh (packet : JoinMeshPacket)
  | rebindMesh (packet : RebindMeshPacket) (followerEndpoint : Option Endpoint)
  | joinCell (packet : JoinCellPacket) (followerEndpoint : Option Endpoint)

namespace JoinRequest

def toPacket : JoinRequest → Packet
  | .joinMesh packet => .joinMesh packet
  | .rebindMesh packet _ => .rebindMesh packet
  | .joinCell packet _ => .joinCell packet

/-- The peer that the request is for. -/
def peer : JoinRequest → UUID
  | .joinMesh packet => packet.uuid
  | .rebindMesh packet _ => packet.uuid
  | .joinCell packet _ => packet.header.srcPID

def channel : JoinRequest → SvcChannel
  | .joinMesh packet =>
      { pid := packet.header.srcPID
        cellID := packet.header.srcFID
        type := packet.type
        followerEndpoint := none }
  | .rebindMesh packet followerEndpoint =>
      { pid := packet.header.srcPID
        cellID := packet.header.srcFID
        type := P3PeerInfo.SUPERPEER
        followerEndpoint }
  | .joinCell packet followerEndpoint =>
      { pid := packet.header.srcPID
        cellID := packet.header.srcFID
        type := P3PeerInfo.SUPERPEER
        followerEndpoint }

end JoinRequest

/-- How a request arrives, and what the network does with the messages and channels about it. -/
structure Arrival where
  /-- The request is the first packet of a channel, not one on an open channel. -/
  opens : Bool
  /-- The reply could be sent. -/
  sent : Bool
  /-- The group takes the channel. -/
  added : Bool
  /-- The follower acceptor of the peer is reached. -/
  connects : Bool
  /-- The follower group takes the channel to it. -/
  followerAdded : Bool
  /-- `followerClient->asynchronous` does not fail. -/
  followerReads : Bool
  /-- `client->asynchronous` does not fail. -/
  reads : Bool
  /-- The reply of the parent, if it is asked, arrives in time. -/
  inTime : Bool

/-- The groups in which `CellAcceptor` files its channels. -/
structure ChannelGroups where
  leafGroup : List SvcChannel
  childrenGroup : List SvcChannel
  cellGroup : List SvcChannel
  cellFollowerGroup : List FollowerChannel

namespace SvcChannel

def isLeaf (this : SvcChannel) : Bool :=
  this.type = P3PeerInfo.SENSOR ∨ this.type = P3PeerInfo.MONITOR

def isChildren (this : SvcChannel) (cellID : CellID) : Bool :=
  !cellID.sameKey this.cellID

/-- The channel, unless it was closed when it could not be read from. -/
def kept (this : SvcChannel) (arrival : Arrival) : List SvcChannel :=
  if arrival.reads then [this] else []

/-- The channel to the follower, with the same exception. -/
def keptFollower (this : SvcChannel) (arrival : Arrival) : List FollowerChannel :=
  if arrival.followerReads then [{ uuid := this.pid, fid := this.cellID }] else []

end SvcChannel

namespace ChannelGroups

/-- The peers at the other ends of the channels. -/
def peers (this : ChannelGroups) : List UUID :=
  this.leafGroup.map SvcChannel.pid ++ (this.childrenGroup.map SvcChannel.pid ++
    (this.cellGroup.map SvcChannel.pid ++ this.cellFollowerGroup.map FollowerChannel.uuid))

/-- `handle_input` after `open`: leaves, children of another cell, own cell.  A group drops a
channel that is closed. -/
def handle_input (this : ChannelGroups) (cellID : CellID) (arrival : Arrival)
    (client : SvcChannel) : Result ChannelGroups :=
  if client.isLeaf then
    .ok { this with
      leafGroup := this.leafGroup ++ if arrival.added then client.kept arrival else [] }
  else if client.isChildren cellID then
    .ok { this with
      childrenGroup := this.childrenGroup ++ if arrival.added then client.kept arrival else [] }
  else if !arrival.added then
    .ok this
  else
    match client.followerEndpoint with
    | none => .error .nullDereference
    | some _ =>
        -- the `ServiceException` of a failed connection leaves the reactor
        if !arrival.connects then
          .error .uncaughtException
        else if !arrival.followerAdded then
          .ok this
        else
          .ok { this with
            cellGroup := this.cellGroup ++ client.kept arrival
            cellFollowerGroup := this.cellFollowerGroup ++ client.keptFollower arrival }

end ChannelGroups

namespace Arrival

/-- An end of a channel of the peer stays: its own channel, or in the own cell the one to its
follower acceptor. -/
def keeps (this : Arrival) (cellID : CellID) (client : SvcChannel) : Bool :=
  this.added &&
    if client.isLeaf || client.isChildren cellID then
      this.reads
    else
      this.followerAdded && (this.reads || this.followerReads)

end Arrival

/-- A coordinator with what depends on it: its followers, the coordinators above it
and the channels that its acceptor keeps. -/
structure Site where
  cell : Cell
  followers : List Cell
  ancestors : List Cell
  groups : ChannelGroups

/-- What a request leaves behind.  A follower may crash on the packet relayed to it. -/
structure Outcome where
  accepted : Bool
  cell : Cell
  followers : List (Result Cell)
  ancestors : List Cell
  groups : ChannelGroups

namespace Arrival

/-- The channel is new and its `open` returned 0, which for a cell join is the result of sending
the reply. -/
def opened (this : Arrival) : JoinRequest → Bool
  | .joinCell _ _ => this.opens && this.sent
  | _ => this.opens

/-- The acceptor files a channel of the peer that stays. -/
def files (this : Arrival) (cellID : CellID) (request : JoinRequest) : Bool :=
  this.opened request && this.keeps cellID request.channel

end Arrival

namespace Site

/-- The packet for the parent, if there is one, with what it causes further up. -/
def deliverUp (config : P3Configuration) (this : Site) (toParent : Option Packet) :
    Result (List Cell × Bool) :=
  match toParent with
  | none => .ok (this.ancestors, true)
  | some packet => deliver config this.ancestors packet

/-- The channels once the acceptor has the request. -/
def accept (this : Site) (arrival : Arrival) (request : JoinRequest) : Result ChannelGroups :=
  if arrival.opened request then
    this.groups.handle_input this.cell.cellID arrival request.channel
  else
    .ok this.groups

/-- The coordinator answers a request, or none when it is not passed to a handler. -/
def handle (config : P3Configuration) (this : Site) (arrival : Arrival) (request : JoinRequest) :
    Option (Result Outcome) :=
  let reacts :=
    if arrival.opens then this.cell.openChannel config request.toPacket
    else this.cell.handlePacket config request.toPacket
  reacts.map fun reacts => do
    let reaction ← reacts
    let above ← this.deliverUp config reaction.toParent
    let groups ← this.accept arrival request
    pure
      { accepted := reaction.answer (arrival.inTime && above.2)
        cell := { this.cell with cellTree := reaction.tree }
        followers := this.followers.map (Cell.receive config request.peer reaction.toGroup)
        ancestors := above.1
        groups }

end Site

/-- The packets that `handleJoinCell` builds for the parent and for the followers. -/
def JoinCellPacket.announced (packet : JoinCellPacket) (cell : Cell) (cellID : CellID)
    (parentCellID : Option CellID) : JoinMeshPacket :=
  { header := cell.header
    type := P3PeerInfo.SUPERPEER
    uuid := packet.header.srcPID
    cellID
    parentCellID
    endpoint := packet.endpoint
    discoverySAP := packet.discoverySAP
    meshSAP := packet.meshSAP
    ftSAP := packet.ftSAP }

namespace Site

/-- The tree of the coordinator does not change. -/
def Declines (this : Site) : JoinRequest → Prop
  | .joinMesh packet =>
      this.cell.cellTree.Declines packet.peerInfo (this.cell.joinParent packet)
  | .rebindMesh packet _ => ∀ subTree after,
      CellTree.deserialize this.cell.cellTree.freshAddr { data := packet.state, goodBit := true } =
        .ok (subTree, after) → this.cell.Refuses packet subTree
  | .joinCell _ _ => True

/-- The join that the followers are told of. -/
def relayed (this : Site) : JoinRequest → JoinMeshPacket
  | .joinMesh packet => packet
  | .rebindMesh packet _ => packet.toJoinMeshPacket
  | .joinCell packet _ => packet.announced this.cell packet.header.srcFID none

/-- The parent is not told, or declines as well. -/
def ParentDeclines (this : Site) : JoinRequest → Prop
  | .joinCell packet _ => ∀ channel parent rest, this.cell.parentChannel = some channel →
      this.ancestors = parent :: rest →
        parent.cellTree.Declines
          (packet.announced this.cell this.cell.cellID (some channel.cellID)).peerInfo
          (parent.joinParent (packet.announced this.cell this.cell.cellID (some channel.cellID)))
  | _ => True

/-- The trees of the coordinator, of its followers and of its parent do not change,
and no channel of the peer was filed or stays filed. -/
structure LeavesNoTrace (this : Site) (arrival : Arrival) (request : JoinRequest) : Prop where
  cell : this.Declines request
  followers : ∀ follower ∈ this.followers, follower.pid ≠ request.peer →
    follower.FollowerDeclines (this.relayed request)
  ancestors : this.ParentDeclines request
  channel : arrival.files this.cell.cellID request = true → request.channel.pid ≠ request.peer
  channels : request.peer ∉ this.groups.peers

end Site

/-! ## What each part of the answer changes -/

/-- The parent makes the join, and asks nobody when it refuses. -/
theorem deliver_joinMesh {config : P3Configuration} {parent : Cell} {rest : List Cell}
    {packet : JoinMeshPacket} {above : List Cell × Bool}
    (delivered : deliver config (parent :: rest) (.joinMesh packet) = .ok above) :
    ∃ out cells, parent.cellTree.join config packet.peerInfo (parent.joinParent packet) = .ok out ∧
      above.1 = { parent with cellTree := out.1 } :: cells ∧ (out.2 ≠ 0 → cells = rest) := by
  simp only [deliver, Cell.handlePacket, Packet.dispatched, if_true, Cell.react] at delivered
  rcases Result.bind_eq_ok.mp delivered with ⟨reaction, reacted, remaining⟩
  rcases Result.bind_eq_ok.mp reacted with ⟨handled, here, equal⟩
  cases equal
  unfold Cell.handleJoinMesh at here
  rcases Result.bind_eq_ok.mp here with ⟨out, joined, equal⟩
  cases equal
  split at remaining
  · cases remaining
    exact ⟨out, rest, joined, rfl, fun _ => rfl⟩
  · rename_i forwarded
    rcases Result.bind_eq_ok.mp remaining with ⟨further, -, equal⟩
    cases equal
    refine ⟨out, further.1, joined, rfl, ?_⟩
    intro refused
    simp [refused] at forwarded

/-- The parent stays as it is exactly when it declines; then nobody above it is asked. -/
theorem deliver_joinMesh_eq_self_iff {config : P3Configuration} {parent : Cell} {rest : List Cell}
    {packet : JoinMeshPacket} {above : List Cell × Bool}
    (delivered : deliver config (parent :: rest) (.joinMesh packet) = .ok above) :
    above.1 = parent :: rest ↔
      parent.cellTree.Declines packet.peerInfo (parent.joinParent packet) := by
  rcases deliver_joinMesh delivered with ⟨out, cells, joined, equal, alone⟩
  rw [equal, List.cons.injEq, ← CellTree.join_tree_eq_iff joined]
  constructor
  · rintro ⟨same, -⟩
    exact congrArg Cell.cellTree same
  · intro same
    have declines := (CellTree.join_tree_eq_iff joined).mp same
    have refused : out.2 ≠ 0 := by
      rw [CellTree.join_of_declines config declines] at joined
      cases joined
      exact (by decide : (-1 : Int) ≠ 0)
    rw [same]
    exact ⟨rfl, alone refused⟩

/-- What the reaction to a request says about the tree, the followers and the parent. -/
structure Reacts (site : Site) (request : JoinRequest) (reaction : Reaction) : Prop where
  tree : reaction.answer true = false ∨ reaction.answer false = false →
    (reaction.tree = site.cell.cellTree ↔ site.Declines request)
  toGroup : ∀ config follower, Cell.follow config follower reaction.toGroup =
    follower.handleCoordinatorJoinMesh config (site.relayed request)
  toParent : reaction.tree = site.cell.cellTree → ∀ config above,
    site.deliverUp config reaction.toParent = .ok above →
      (above.1 = site.ancestors ↔ site.ParentDeclines request)

theorem reacts_joinMesh {config : P3Configuration} {site : Site} {packet : JoinMeshPacket}
    {reaction : Reaction} (reacted : site.cell.react config (.joinMesh packet) = .ok reaction) :
    Reacts site (.joinMesh packet) reaction := by
  rcases Result.bind_eq_ok.mp reacted with ⟨handled, here, equal⟩
  cases equal
  unfold Cell.handleJoinMesh at here
  rcases Result.bind_eq_ok.mp here with ⟨out, joined, equal⟩
  cases equal
  have unchanged := CellTree.join_tree_eq_iff joined
  constructor
  · intro _
    exact unchanged
  · intro config follower
    rfl
  · intro same config above delivered
    -- a join that changes nothing was refused here, so the parent is not asked
    have refused : out.2 ≠ 0 := by
      have declines := unchanged.mp same
      rw [CellTree.join_of_declines _ declines] at joined
      cases joined
      exact (by decide : (-1 : Int) ≠ 0)
    simp only [refused, decide_false, Bool.false_eq_true, if_false, Option.map_none,
      Site.deliverUp] at delivered
    cases delivered
    exact iff_of_true rfl trivial

theorem reacts_rebindMesh {config : P3Configuration} {site : Site} {packet : RebindMeshPacket}
    (followerEndpoint : Option Endpoint) {reaction : Reaction} (reacted : site.cell.react config (.rebindMesh packet) = .ok reaction) :
    Reacts site (.rebindMesh packet followerEndpoint) reaction := by
  rcases Result.bind_eq_ok.mp reacted with ⟨handled, here, equal⟩
  cases equal
  rcases Cell.handleRebindMesh_eq here with ⟨s, after, read, grafted, toGroup⟩
  constructor
  · intro _
    rw [grafted, CellTree.addSubtree_tree_eq_iff]
    constructor
    · intro refuses other afterOther readOther
      cases read.symm.trans readOther
      exact refuses
    · intro declines
      exact declines s after read
  · intro config follower
    rw [toGroup]
    rfl
  · intro _ config above delivered
    refine iff_of_true ?_ trivial
    cases up : handled.toParent with
    | none =>
        simp only [up, Option.map_none, Site.deliverUp] at delivered
        cases delivered
        rfl
    | some forwarded =>
        simp only [up, Option.map_some, Site.deliverUp, deliver_rebindMesh] at delivered
        cases delivered
        rfl

theorem reacts_joinCell {config : P3Configuration} {site : Site} {packet : JoinCellPacket}
    (followerEndpoint : Option Endpoint) {reaction : Reaction} (reacted : site.cell.react config (.joinCell packet) = .ok reaction) :
    Reacts site (.joinCell packet followerEndpoint) reaction := by
  cases reacted
  constructor
  · intro refused
    have status : (site.cell.handleJoinCell packet).accepted = false := refused.elim id id
    refine iff_of_true ?_ trivial
    unfold Cell.handleJoinCell at status ⊢
    simp only at status ⊢
    rw [if_neg (by simp [status])]
  · intro config follower
    rfl
  · intro _ config above delivered
    unfold Site.ParentDeclines
    cases channel : site.cell.parentChannel with
    | none =>
        simp only [Cell.handleJoinCell, channel, Option.map_none, Site.deliverUp] at delivered
        cases delivered
        simp
    | some parentChannel =>
        simp only [Cell.handleJoinCell, channel, Option.map_some, Site.deliverUp] at delivered
        cases ancestors : site.ancestors with
        | nil =>
            rw [ancestors] at delivered
            cases delivered
            simp
        | cons parent rest =>
            rw [ancestors] at delivered
            rw [deliver_joinMesh_eq_self_iff delivered]
            simp
            rfl

theorem reacts {config : P3Configuration} {site : Site} {request : JoinRequest}
    {reaction : Reaction} (reacted : site.cell.react config request.toPacket = .ok reaction) :
    Reacts site request reaction := by
  cases request with
  | joinMesh packet => exact reacts_joinMesh reacted
  | rebindMesh packet followerEndpoint => exact reacts_rebindMesh followerEndpoint reacted
  | joinCell packet followerEndpoint => exact reacts_joinCell followerEndpoint reacted

section FullCell

/-- Cells of two superpeers. -/
def pairs : P3Configuration :=
  { defaults with CELL_SPS := fun _ => some 2 }

/-- The first packet of a channel, which is filed and closed again, and so is the one to the
follower acceptor. -/
def unreadable : Arrival where
  opens := true
  sent := true
  added := true
  connects := true
  followerAdded := true
  followerReads := false
  reads := false
  inTime := true

end FullCell

section LostReply

/-- The reply of the parent to a request on an open channel comes too late. -/
def late : Arrival where
  opens := false
  sent := true
  added := true
  connects := true
  followerAdded := true
  followerReads := true
  reads := true
  inTime := false

end LostReply

end Stheno.Superpeer
