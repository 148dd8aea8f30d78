import Stheno.Superpeer.Handlers

/-!
# Packet dispatch and chains of coordinators

A coordinator meets a packet at one of two places: `CellSvcHandler::open` reads the
first packet of a new channel, `CellSvcHandler::handlePacket` every later one.  Each
place has a table of packet types of its own.  A chain lists coordinators from
below to the root of the mesh; a packet for a parent travels over a channel that
is already open.
-/

namespace Stheno.Superpeer

open Stheno.Tree Peer

/-- What a cell does with a packet, whatever its type. -/
structure Reaction where
  tree : CellTree
  toParent : Option Packet
  toGroup : Packet
  /-- The status in the reply, given the answer of the parent. -/
  answer : Bool → Bool

/-- The types that `CellSvcHandler::open` knows as the first packet of a channel. -/
def Packet.opens : Packet → Bool
  | .joinMesh _ => true
  | .joinCell _ => true
  | .rebindMesh _ => true
  | .leaveMesh _ => false

/-- The types that `CellSvcHandler::handlePacket` passes to a handler; it deletes a
packet of another type and sends no reply. -/
def Packet.dispatched : Packet → Bool
  | .joinCell _ => true
  | .joinMesh _ => true
  | .leaveMesh _ => true
  | .rebindMesh _ => false

namespace Cell

/-- The handler that both tables name for a packet type. -/
def react (config : P3Configuration) (this : Cell) : Packet → Result Reaction
  | .joinMesh packet => do
      let handled ← this.handleJoinMesh config packet
      pure
        { tree := handled.tree
          toParent := handled.toParent.map .joinMesh
          toGroup := .joinMesh handled.toGroup
          answer := handled.reply }
  | .rebindMesh packet => do
      let handled ← this.handleRebindMesh packet
      pure
        { tree := handled.tree
          toParent := handled.toParent.map .rebindMesh
          toGroup := .rebindMesh handled.toGroup
          answer := handled.reply }
  | .leaveMesh packet => do
      let handled ← this.handleLeaveMesh packet
      pure
        { tree := handled.tree
          toParent := handled.toParent.map .leaveMesh
          toGroup := .leaveMesh handled.toGroup
          answer := fun _ => handled.accepted }
  | .joinCell packet =>
      let handled := this.handleJoinCell packet
      .ok
        { tree := handled.tree
          toParent := handled.toParent.map .joinMesh
          toGroup := .joinMesh handled.toGroup
          answer := fun _ => handled.accepted }

/-- `open` on a channel whose first packet this is; `none` when it closes the channel. -/
def openChannel (config : P3Configuration) (this : Cell) (packet : Packet) :
    Option (Result Reaction) :=
  if packet.opens then some (this.react config packet) else none

/-- `handlePacket` on an open channel; `none` when it deletes the packet. -/
def handlePacket (config : P3Configuration) (this : Cell) (packet : Packet) :
    Option (Result Reaction) :=
  if packet.dispatched then some (this.react config packet) else none

end Cell

/-- Coordinators from below to the root of the mesh, each with an open channel to
the next one. -/
def IsChain : List Cell → Prop
  | [] => False
  | [root] => root.parentChannel = none
  | cell :: parent :: rest =>
      cell.parentChannel = some { uuid := parent.pid, cellID := parent.cellID } ∧
        IsChain (parent :: rest)

/-- Process a packet sent over the open channel to the first coordinator of a chain,
with everything it sends further up; the answer is false when no reply comes. -/
def deliver (config : P3Configuration) : List Cell → Packet → Result (List Cell × Bool)
  | [], _ => .ok ([], false)
  | cell :: rest, packet =>
      match cell.handlePacket config packet with
      | none => .ok (cell :: rest, false)
      | some reaction => do
          let reaction ← reaction
          match reaction.toParent with
          | none => .ok ({ cell with cellTree := reaction.tree } :: rest, reaction.answer true)
          | some forwarded => do
              let above ← deliver config rest forwarded
              pure ({ cell with cellTree := reaction.tree } :: above.1, reaction.answer above.2)

/-- The first packet of a new channel to the first coordinator of a chain. -/
def openChain (config : P3Configuration) : List Cell → Packet → Result (List Cell × Bool)
  | [], _ => .ok ([], false)
  | cell :: rest, packet =>
      match cell.openChannel config packet with
      | none => .ok (cell :: rest, false)
      | some reaction => do
          let reaction ← reaction
          match reaction.toParent with
          | none => .ok ({ cell with cellTree := reaction.tree } :: rest, reaction.answer true)
          | some forwarded => do
              let above ← deliver config rest forwarded
              pure ({ cell with cellTree := reaction.tree } :: above.1, reaction.answer above.2)

/-- A rebind that arrives over an open channel is deleted without a reply. -/
theorem deliver_rebindMesh (config : P3Configuration) (chain : List Cell)
    (packet : RebindMeshPacket) :
    deliver config chain (.rebindMesh packet) = .ok (chain, false) := by
  cases chain with
  | nil => rfl
  | cons cell rest => rfl

end Stheno.Superpeer
