import Stheno.Net.Resync
import Stheno.Superpeer.Packets

/-!
# The packet factory of a cell

`createPacket` reads the body of the packet that the message type names, and answers null
for a type without a case.
-/

namespace Stheno.Superpeer

open Net Packets Peer Wire

/-- The packets of a cell with the members that they read. -/
inductive CellBody where
  | initSession
  | joinCell (packet : Packets.JoinCellPacket)
  | joinCellReply (requestID : UInt32) (state : Option (List Wire.MessageBlock))
  | joinMesh (packet : Packets.JoinMeshPacket)
  | joinMeshReply (requestID : UInt32) (acception : Bool)
  | leaveMesh (uuid : UUID) (cellID : CellID)
  | leaveMeshReply (requestID : UInt32) (acception : Bool)
  | rebindMesh (packet : Packets.RebindMeshPacket)
  | rebindMeshReply (requestID : UInt32) (acception : Bool)
  | updateInfo (state : Option (List Wire.MessageBlock))
  | updateInfoReply (replyPacketID : UInt32) (updateStatus : Bool)
  deriving DecidableEq

structure CellPacket where
  header : SthenoHeader
  body : CellBody
  deriving DecidableEq

namespace CellPacketFactory

def CELL_INIT_SESSION_PACKET_OP : UInt16 := 0x288

def JOIN_CELL_PACKET : UInt16 := 0x11

def JOIN_CELL_REPLY_PACKET : UInt16 := 0x12

def JOIN_MESH_PACKET : UInt16 := 0x13

def JOIN_MESH_REPLY_PACKET : UInt16 := 0x14

def LEAVE_MESH_PACKET : UInt16 := 0x15

def LEAVE_MESH_REPLY_PACKET : UInt16 := 0x16

def REBIND_MESH_PACKET : UInt16 := 0x17

def REBIND_MESH_REPLY_PACKET : UInt16 := 0x18

def UPDATEINFO_MESH_PACKET : UInt16 := 0x19

def UPDATEINFO_MESH_REPLY_PACKET : UInt16 := 0x20

/-- A reply is the number of the request and the answer to it. -/
def readReply (reply : UInt32 → Bool → CellBody) : Reader CellBody := do
  let requestID ← readULong 0
  let acception ← readBoolean
  pure (reply requestID acception)

/-- `deserializeBody` of the packet with a message type, if it has a case. -/
def deserializeBody (messageType : UInt16) : Option (Reader CellBody) :=
  if messageType = CELL_INIT_SESSION_PACKET_OP then
    some (pure .initSession)
  else if messageType = JOIN_CELL_PACKET then
    some (return .joinCell (← Packets.JoinCellPacket.deserializeBody))
  else if messageType = JOIN_CELL_REPLY_PACKET then
    some (do
      let requestID ← readULong 0
      let state ← readOptional readState
      pure (.joinCellReply requestID state))
  else if messageType = JOIN_MESH_PACKET then
    some (return .joinMesh (← Packets.JoinMeshPacket.deserializeBody))
  else if messageType = JOIN_MESH_REPLY_PACKET then
    some (readReply .joinMeshReply)
  else if messageType = LEAVE_MESH_PACKET then
    some (do
      let uuid ← UUID.deserialize
      let cellID ← UUID.deserialize
      pure (.leaveMesh uuid cellID))
  else if messageType = LEAVE_MESH_REPLY_PACKET then
    some (readReply .leaveMeshReply)
  else if messageType = REBIND_MESH_PACKET then
    some (return .rebindMesh (← Packets.RebindMeshPacket.deserializeBody))
  else if messageType = REBIND_MESH_REPLY_PACKET then
    some (readReply .rebindMeshReply)
  else if messageType = UPDATEINFO_MESH_PACKET then
    some (return .updateInfo (← readOptional readState))
  else if messageType = UPDATEINFO_MESH_REPLY_PACKET then
    some (readReply .updateInfoReply)
  else
    none

/-- `init` sets the header and reads the body; an unknown type reads nothing. -/
def createPacket (header : SthenoHeader) : Reader (Option CellPacket) :=
  match deserializeBody header.messageType with
  | some body => return some { header, body := ← body }
  | none => pure none

/-- The message types with a case. -/
def messageTypes : List UInt16 :=
  [CELL_INIT_SESSION_PACKET_OP, JOIN_CELL_PACKET, JOIN_CELL_REPLY_PACKET, JOIN_MESH_PACKET,
    JOIN_MESH_REPLY_PACKET, LEAVE_MESH_PACKET, LEAVE_MESH_REPLY_PACKET, REBIND_MESH_PACKET,
    REBIND_MESH_REPLY_PACKET, UPDATEINFO_MESH_PACKET, UPDATEINFO_MESH_REPLY_PACKET]

/-- A case in front adds its type to those with a case. -/
theorem case_eq_none_iff {α : Type} {messageType type : UInt16} {here : α} {rest : Option α}
    {others : List UInt16} (later : rest = none ↔ messageType ∉ others) :
    (if messageType = type then some here else rest) = none ↔ messageType ∉ type :: others := by
  by_cases same : messageType = type
  · rw [if_pos same, same]
    constructor
    · rintro ⟨⟩
    · intro other
      exact absurd List.mem_cons_self other
  · rw [if_neg same, later, List.mem_cons, not_or]
    constructor
    · intro other
      exact ⟨same, other⟩
    · intro other
      exact other.2

theorem deserializeBody_eq_none_iff (messageType : UInt16) :
    deserializeBody messageType = none ↔ messageType ∉ messageTypes := by
  unfold deserializeBody messageTypes
  iterate 11
    apply case_eq_none_iff
  exact iff_of_true rfl List.not_mem_nil

/-- The factory answers null exactly for the types without a case, and then it has read
nothing. -/
theorem createPacket_null_iff {header : SthenoHeader} {stream after : InputStream}
    {packet : Option CellPacket} (created : createPacket header stream = .ok (packet, after)) :
    packet = none ↔ header.messageType ∉ messageTypes := by
  rw [← deserializeBody_eq_none_iff]
  unfold createPacket at created
  cases body : deserializeBody header.messageType with
  | none =>
      rw [body] at created
      cases created
      exact iff_of_true rfl rfl
  | some reader =>
      rw [body] at created
      rcases Reader.bind_eq_ok.mp created with ⟨read, middle, -, last⟩
      cases last
      constructor
      · rintro ⟨⟩
      · rintro ⟨⟩

theorem createPacket_of_unknown {header : SthenoHeader}
    (unknown : header.messageType ∉ messageTypes) : createPacket header = pure none := by
  unfold createPacket
  rw [(deserializeBody_eq_none_iff _).mpr unknown]

end CellPacketFactory

/-- The channels of a cell. -/
def cellProtocol : Protocol SthenoHeader CellPacket where
  getSize := SthenoHeader.getSize
  getSize_pos := SthenoHeader.getSize_pos
  getSize_le := Nat.le_refl _
  readHeader := SthenoHeader.deserialize
  getBodySize := SthenoHeader.getBodySize
  createPacket := CellPacketFactory.createPacket

open PacketChannel in
/-- A leave packet as a frame of a cell channel. -/
def cellLeave (uuid : UInt8) : Frame cellProtocol where
  packet := some
    { header := (leaving uuid).header, body := .leaveMesh (leaving uuid).uuid (leaving uuid).cellID }
  header := (leaving uuid).header
  headerBytes := (leaving uuid).header.octets
  body := (leaving uuid).body
  headerLength := headerLength_leaving uuid
  headerReads := headerReads_leaving uuid
  bodySize := bodySize_leaving uuid
  known := by
    rintro p ⟨⟩
    have body : Reads (do
        let uuid ← UUID.deserialize
        let cellID ← UUID.deserialize
        pure (CellBody.leaveMesh uuid cellID)) (leaving uuid).body
          (.leaveMesh (leaving uuid).uuid (leaving uuid).cellID) := by
      apply (SthenoHeader.reads_key (ready_leaving uuid).uuid).bind
      exact (SthenoHeader.reads_key (ready_leaving uuid).cellID).bind_pure fun cellID =>
        CellBody.leaveMesh (leaving uuid).uuid cellID
    exact body.bind_pure fun body => some (CellPacket.mk (leaving uuid).header body)
  unknown := by
    rintro ⟨⟩

open PacketChannel in
/-- A frame of a type that no cell packet has, without a body. -/
def cellOther : Frame cellProtocol where
  packet := none
  header := otherHeader
  headerBytes := otherHeader.octets
  body := []
  headerLength := otherFrame.headerLength
  headerReads := otherFrame.headerReads
  bodySize := otherFrame.bodySize
  known := by
    rintro p ⟨⟩
  unknown := by
    intro _
    have other : otherHeader.messageType ∉ CellPacketFactory.messageTypes := by
      decide
    exact CellPacketFactory.createPacket_of_unknown other

open PacketChannel in
/-- Behind an unknown frame in the same chunk a leave packet is not handed on. -/
theorem exists_frame_waiting : ¬∀ (frames : List (Frame cellProtocol)) (chunks : List (List UInt8)),
    chunks.flatten = frames.flatMap Frame.bytes → Fits cellProtocol (fun _ => 0) new chunks →
      Resynchronises cellProtocol (fun _ => 0) frames new frames 0 chunks := by
  intro resynchronises
  have fits : Fits cellProtocol (fun _ => 0) new [cellOther.bytes ++ (cellLeave 5).bytes] := by
    decide +kernel
  have split : [cellOther.bytes ++ (cellLeave 5).bytes].flatten =
      [cellOther, cellLeave 5].flatMap Frame.bytes := by
    decide +kernel
  rcases (resynchronises _ _ split fits).delivers _ [] (List.append_nil _).symm with
    ⟨handed, done, -, delivered⟩
  have nothing : (run cellProtocol (fun _ => 0) new [cellOther.bytes ++ (cellLeave 5).bytes]).map
      (fun handed => (handed.packets, handed.ret)) = .ok ([], 0) := by
    decide +kernel
  rw [done] at nothing
  rcases Prod.mk.inj (Except.ok.inj nothing) with ⟨noPackets, waits⟩
  have goesOn : handed.ret ≠ -1 := by
    rw [waits]
    decide
  have waiting : (arrived [cellOther, cellLeave 5]
      (0 + [cellOther.bytes ++ (cellLeave 5).bytes].flatten.length)).filterMap Frame.packet ≠
        [] := by
    decide +kernel
  exact waiting ((delivered goesOn).symm.trans noPackets)

end Stheno.Superpeer
