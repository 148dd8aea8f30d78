import Mathlib.Logic.Function.Basic
import Stheno.Superpeer.Dispatch
import Stheno.Superpeer.Occupants

/-!
# A mesh of coordinators

The coordinators of a mesh form a tree.  Each of them has one channel to its parent,
which delivers packets in the order in which they were sent.  A peer that opens a
channel to a coordinator sends it a join; when the channel closes the coordinator
calls `leaveMesh`.  A handler runs to its end before the next event.
-/

namespace Stheno.Superpeer

open Stheno.Tree Peer

structure Mesh where
  size : Nat
  size_pos : 0 < size
  /-- Coordinator 0 is the root. -/
  parent : Nat → Nat
  parent_lt : ∀ k, 0 < k → parent k < k
  cell : Nat → Cell
  /-- The channel of a coordinator to its parent, the oldest packet first. -/
  link : Nat → List Packet
  /-- The coordinator to which a peer has a channel, and the cell of that channel. -/
  home : UUID → Option (Nat × CellID)

namespace Mesh

inductive Event where
  /-- A peer without a channel opens one to a coordinator, with a join. -/
  | join (k : Nat) (packet : JoinMeshPacket)
  /-- The channel of a peer closes. -/
  | leave (k : Nat) (uuid : UUID) (cellID : CellID)
  /-- The parent of a coordinator handles the next packet from it. -/
  | deliver (k : Nat)

abbrev tree (this : Mesh) (k : Nat) : CellTree :=
  (this.cell k).cellTree

/-- A coordinator has handled something. -/
def handled (this : Mesh) (k : Nat) (tree : CellTree) (toParent : Option Packet) : Mesh :=
  { this with
    cell := Function.update this.cell k { this.cell k with cellTree := tree }
    link := Function.update this.link k (this.link k ++ toParent.toList) }

def setLink (this : Mesh) (k : Nat) (packets : List Packet) : Mesh :=
  { this with link := Function.update this.link k packets }

def setHome (this : Mesh) (uuid : UUID) (home : Option (Nat × CellID)) : Mesh :=
  { this with home := Function.update this.home uuid home }

/-- An event whose channel or packet does not exist changes nothing. -/
def step (config : P3Configuration) (this : Mesh) : Event → Result Mesh
  | .join k packet =>
      if k < this.size ∧ this.home packet.uuid = none then do
        let handled ← (this.cell k).handleJoinMesh config packet
        let joined := this.handled k handled.tree (handled.toParent.map .joinMesh)
        pure (joined.setHome packet.uuid (some (k, packet.cellID)))
      else
        pure this
  | .leave k uuid cellID =>
      if this.home uuid = some (k, cellID) then do
        let handled ← (this.cell k).leaveMesh uuid cellID
        let left := this.handled k handled.tree (handled.toParent.map .leaveMesh)
        pure (left.setHome uuid none)
      else
        pure this
  | .deliver k =>
      if 0 < k ∧ k < this.size then
        match this.link k with
        | [] => pure this
        | packet :: rest =>
            match (this.cell (this.parent k)).handlePacket config packet with
            | none => pure (this.setLink k rest)
            | some reaction => do
                let reaction ← reaction
                pure ((this.setLink k rest).handled (this.parent k) reaction.tree reaction.toParent)
      else
        pure this

def run (config : P3Configuration) (this : Mesh) (events : List Event) : Result Mesh :=
  events.foldlM (step config) this

end Mesh

/-- The peer that a packet is about. -/
def Packet.peer : Packet → UUID
  | .joinMesh packet => packet.uuid
  | .rebindMesh packet => packet.uuid
  | .leaveMesh packet => packet.uuid
  | .joinCell packet => packet.header.srcPID

/-- The packet announces a peer in a cell. -/
def Packet.joins (cellID : CellID) (uuid : UUID) : Packet → Bool
  | .joinMesh packet => packet.cellID = cellID ∧ packet.uuid = uuid
  | _ => false

/-- The packet withdraws a peer from a cell. -/
def Packet.leaves (cellID : CellID) (uuid : UUID) : Packet → Bool
  | .leaveMesh packet => packet.cellID = cellID ∧ packet.uuid = uuid
  | _ => false

def Packet.departure : Packet → Option LeaveMeshPacket
  | .leaveMesh packet => some packet
  | _ => none

namespace Mesh

/-! ## What a coordinator does -/

section Frame

variable (this : Mesh) (k i : Nat) (tree : CellTree) (toParent : Option Packet)

theorem cell_handled :
    (this.handled k tree toParent).cell i =
      if i = k then { this.cell k with cellTree := tree } else this.cell i :=
  Function.update_apply _ _ _ _

theorem tree_handled :
    (this.handled k tree toParent).tree i = if i = k then tree else this.tree i := by
  unfold Mesh.tree
  rw [cell_handled]
  split <;> rfl

theorem tree_handled_self : (this.handled k tree toParent).tree k = tree := by
  rw [tree_handled, if_pos rfl]

theorem link_handled :
    (this.handled k tree toParent).link i =
      if i = k then this.link k ++ toParent.toList else this.link i :=
  Function.update_apply _ _ _ _

theorem link_setLink (packets : List Packet) :
    (this.setLink k packets).link i = if i = k then packets else this.link i :=
  Function.update_apply _ _ _ _

theorem link_handled_none : (this.handled k tree none).link = this.link := by
  funext i
  rw [link_handled, Option.toList_none, List.append_nil]
  split
  · rename_i same
    rw [same]
  · rfl

theorem home_setHome_self (uuid : UUID) (home : Option (Nat × CellID)) :
    (this.setHome uuid home).home uuid = home :=
  Function.update_self _ _ _

theorem parentChannel_handled :
    ((this.handled k tree toParent).cell i).parentChannel = (this.cell i).parentChannel := by
  rw [cell_handled]
  split
  · rename_i same
    rw [same]
  · rfl

end Frame

/-- A join as its handler sees it. -/
structure Joined (config : P3Configuration) (cell : Cell) (packet : JoinMeshPacket)
    (tree : CellTree) (toParent : Option JoinMeshPacket) : Prop where
  joined : ∃ parentCellID status,
    cell.cellTree.join config packet.peerInfo parentCellID = .ok (tree, status)
  /-- What goes up announces the same peer in the same cell. -/
  passed : ∀ up ∈ toParent, up.uuid = packet.uuid ∧ up.cellID = packet.cellID
  root : cell.parentChannel = none → toParent = none

theorem joined_of_handleJoinMesh {config : P3Configuration} {cell : Cell} {packet : JoinMeshPacket}
    {handled : Handled JoinMeshPacket JoinMeshPacket}
    (done : cell.handleJoinMesh config packet = .ok handled) :
    Joined config cell packet handled.tree handled.toParent := by
  rcases Result.bind_eq_ok.mp done with ⟨joined, added, rest⟩
  cases rest
  constructor
  · exact ⟨cell.joinParent packet, joined.2, added⟩
  · intro up sent
    dsimp only at sent
    split at sent
    · rcases Option.map_eq_some_iff.mp sent with ⟨channel, -, rfl⟩
      exact ⟨rfl, rfl⟩
    · cases sent
  · intro isRoot
    simp [isRoot]

/-- A departure as its handler sees it. -/
structure Departed (cell : Cell) (uuid : UUID) (cellID : CellID) (tree : CellTree)
    (toParent : Option LeaveMeshPacket) : Prop where
  left : ∃ status, cell.cellTree.leave uuid cellID = .ok (tree, status)
  root : toParent = none ↔ cell.parentChannel = none

theorem departed_of_leaveMesh {cell : Cell} {uuid : UUID} {cellID : CellID}
    {handled : Handled LeaveMeshPacket LeaveMeshPacket}
    (done : cell.leaveMesh uuid cellID = .ok handled) :
    Departed cell uuid cellID handled.tree handled.toParent ∧
      ∀ up ∈ handled.toParent, up.uuid = uuid ∧ up.cellID = cellID := by
  rcases Result.bind_eq_ok.mp done with ⟨left, removed, rest⟩
  cases rest
  refine ⟨⟨⟨left.2, removed⟩, Option.map_eq_none_iff⟩, ?_⟩
  intro up sent
  rcases Option.map_eq_some_iff.mp sent with ⟨channel, -, rfl⟩
  exact ⟨rfl, rfl⟩

theorem departed_of_handleLeaveMesh {cell : Cell} {packet : LeaveMeshPacket}
    {handled : Handled LeaveMeshPacket LeaveMeshPacket}
    (done : cell.handleLeaveMesh packet = .ok handled) :
    Departed cell packet.uuid packet.cellID handled.tree handled.toParent := by
  rcases Result.bind_eq_ok.mp done with ⟨left, removed, rest⟩
  cases rest
  exact ⟨⟨left.2, removed⟩, Option.map_eq_none_iff⟩

/-- What a step does. -/
inductive Stepped (config : P3Configuration) (this : Mesh) : Event → Mesh → Prop where
  | idle (event : Event) : Stepped config this event this
  | joined {k : Nat} {packet : JoinMeshPacket} {tree : CellTree} {toParent : Option JoinMeshPacket}
      (bound : k < this.size) (away : this.home packet.uuid = none)
      (joined : Joined config (this.cell k) packet tree toParent) :
      Stepped config this (.join k packet)
        ((this.handled k tree (toParent.map .joinMesh)).setHome packet.uuid
          (some (k, packet.cellID)))
  | left {k : Nat} {uuid : UUID} {cellID : CellID} {tree : CellTree}
      {toParent : Option LeaveMeshPacket} (atHome : this.home uuid = some (k, cellID))
      (left : Departed (this.cell k) uuid cellID tree toParent)
      (passed : ∀ up ∈ toParent, up.uuid = uuid ∧ up.cellID = cellID) :
      Stepped config this (.leave k uuid cellID)
        ((this.handled k tree (toParent.map .leaveMesh)).setHome uuid none)
  | arrivedJoin {k : Nat} {packet : JoinMeshPacket} {rest : List Packet} {tree : CellTree}
      {toParent : Option JoinMeshPacket} (positive : 0 < k) (bound : k < this.size)
      (head : this.link k = .joinMesh packet :: rest)
      (joined : Joined config (this.cell (this.parent k)) packet tree toParent) :
      Stepped config this (.deliver k)
        ((this.setLink k rest).handled (this.parent k) tree (toParent.map .joinMesh))
  | arrivedLeave {k : Nat} {packet : LeaveMeshPacket} {rest : List Packet} {tree : CellTree}
      {toParent : Option LeaveMeshPacket} (positive : 0 < k) (bound : k < this.size)
      (head : this.link k = .leaveMesh packet :: rest)
      (left : Departed (this.cell (this.parent k)) packet.uuid packet.cellID tree toParent) :
      Stepped config this (.deliver k)
        ((this.setLink k rest).handled (this.parent k) tree (toParent.map .leaveMesh))

/-- A mesh whose channels carry joins and departures only. -/
def Carries (this : Mesh) : Prop :=
  ∀ k, ∀ packet ∈ this.link k,
    (∃ join, packet = .joinMesh join) ∨ ∃ leave, packet = .leaveMesh leave

theorem stepped_of_step {config : P3Configuration} {this after : Mesh} {event : Event}
    (carries : this.Carries) (done : this.step config event = .ok after) :
    Stepped config this event after := by
  cases event with
  | join k packet =>
      unfold step at done
      dsimp only at done
      split at done
      · rename_i enabled
        rcases Result.bind_eq_ok.mp done with ⟨handled, joined, rest⟩
        cases rest
        exact .joined enabled.1 enabled.2 (joined_of_handleJoinMesh joined)
      · cases done
        exact .idle _
  | leave k uuid cellID =>
      unfold step at done
      dsimp only at done
      split at done
      · rename_i enabled
        rcases Result.bind_eq_ok.mp done with ⟨handled, left, rest⟩
        cases rest
        exact .left enabled (departed_of_leaveMesh left).1 (departed_of_leaveMesh left).2
      · cases done
        exact .idle _
  | deliver k =>
      unfold step at done
      dsimp only at done
      split at done
      · rename_i enabled
        cases head : this.link k with
        | nil =>
            rw [head] at done
            cases done
            exact .idle _
        | cons packet rest =>
            rw [head] at done
            rcases carries k packet (head ▸ List.mem_cons_self) with ⟨join, rfl⟩ | ⟨leave, rfl⟩
            · rcases Result.bind_eq_ok.mp done with ⟨reaction, reacted, rest⟩
              cases rest
              rcases Result.bind_eq_ok.mp reacted with ⟨handled, joined, rest⟩
              cases rest
              exact .arrivedJoin enabled.1 enabled.2 head (joined_of_handleJoinMesh joined)
            · rcases Result.bind_eq_ok.mp done with ⟨reaction, reacted, rest⟩
              cases rest
              rcases Result.bind_eq_ok.mp reacted with ⟨handled, left, rest⟩
              cases rest
              exact .arrivedLeave enabled.1 enabled.2 head (departed_of_handleLeaveMesh left)
      · cases done
        exact .idle _

end Mesh

end Stheno.Superpeer
