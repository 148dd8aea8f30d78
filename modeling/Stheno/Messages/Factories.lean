import Stheno.Messages.Coding
import Stheno.Net.Framing

/-!
# The packets of the stream channels

Every service has its own classes of packets and a factory that makes them from the
message type of a header.  A class is what its constructor puts in the header and the
members that it writes and reads, in order.
-/

namespace Stheno.Net

open Wire

namespace SthenoStreamHeader

def STHENO_STREAM_MAGIC : UInt32 := 907128951

/-- The header of a new packet, for a body of no octets yet. -/
def new (messageType : UInt16) (requestID : UInt32) : SthenoStreamHeader where
  magic := STHENO_STREAM_MAGIC
  protocol := 0
  messageType := messageType
  requestID := requestID
  messageSize := 0

def fields (this : SthenoStreamHeader) : List Field :=
  [.uLong this.magic, .uShort this.protocol, .uShort this.messageType, .uLong this.requestID,
    .uLong this.messageSize]

theorem serialize_fields (this : SthenoStreamHeader) :
    this.fields.flatMap Field.octets = this.serialize := by
  simp only [fields, List.flatMap_cons, List.flatMap_nil, List.append_nil]
  rfl

/-- The header with the size of the body that it goes with. -/
def declare (this : SthenoStreamHeader) (body : List Field) : SthenoStreamHeader :=
  { this with messageSize := getBodySerializationSize body }

end SthenoStreamHeader

end Stheno.Net

namespace Stheno.Messages

open Wire Net

/-! ## Frames in a reply -/

def streamFrame : Layout Kind :=
  [.plain .uLong, .plain .long, .plain .timeValue, .pointer .nullDereference .payload]

/-- A `StreamFramePacket` with its header. -/
structure Frame where
  header : SthenoStreamHeader
  values : kinds.Values streamFrame

namespace Frame

def serialize (this : Frame) : Result (List Field) := do
  let body ← kinds.serialize streamFrame this.values
  pure ((this.header.declare body).fields ++ body)

/-- `init` takes any header. -/
def deserialize : Reader Frame := do
  let header ← SthenoStreamHeader.deserialize
  let values ← kinds.deserialize streamFrame
  pure { header, values }

/-- The header once the frame was written. -/
def written (this : Frame) : SthenoStreamHeader :=
  match kinds.serialize streamFrame this.values with
  | .ok body => this.header.declare body
  | .error _ => this.header

def copy (this : Frame) : Frame where
  header := this.written
  values := kinds.copies streamFrame this.values

theorem serialize_ok {this : Frame} {fields : List Field} : this.serialize = .ok fields ↔
    ∃ body, kinds.serialize streamFrame this.values = .ok body ∧
      fields = (this.header.declare body).fields ++ body := by
  rw [serialize, Result.bind_eq_ok]
  constructor
  · rintro ⟨body, done, ⟨⟩⟩
    exact ⟨body, done, rfl⟩
  · rintro ⟨body, done, rfl⟩
    exact ⟨body, done, rfl⟩

theorem exists_serialize_iff (this : Frame) : (∃ fields, this.serialize = .ok fields) ↔
    kinds.AllComplete streamFrame this.values := by
  rw [← kinds.exists_serialize_iff]
  constructor
  · rintro ⟨fields, done⟩
    rcases serialize_ok.mp done with ⟨body, done, -⟩
    exact ⟨body, done⟩
  · rintro ⟨body, done⟩
    exact ⟨_, serialize_ok.mpr ⟨body, done, rfl⟩⟩

theorem length_pos {this : Frame} {fields : List Field} (done : this.serialize = .ok fields) :
    0 < (fields.flatMap Field.octets).length := by
  rcases serialize_ok.mp done with ⟨body, -, rfl⟩
  rw [List.flatMap_append, List.length_append, SthenoStreamHeader.serialize_fields,
    SthenoStreamHeader.length_serialize]
  exact Nat.add_pos_left (by decide) _

theorem reads {this : Frame} {fields : List Field} (done : this.serialize = .ok fields)
    (fits : (fields.flatMap Field.octets).length < 2 ^ 32) :
    Reads deserialize (fields.flatMap Field.octets) this.copy := by
  rcases serialize_ok.mp done with ⟨body, there, rfl⟩
  rw [List.flatMap_append, SthenoStreamHeader.serialize_fields] at fits ⊢
  rw [List.length_append] at fits
  have header : this.written = this.header.declare body := by
    rw [written, there]
  rw [copy, header]
  apply (SthenoStreamHeader.reads _).bind
  have small : (body.flatMap kinds.encode).length < 2 ^ 32 :=
    Nat.lt_of_le_of_lt (Nat.le_add_left _ _) fits
  exact (Coding.reads_serialize there small).bind_pure
    (Frame.mk (this.header.declare body))

def serializeList (frames : List Frame) : Result (List Field) := do
  let bodies ← frames.mapM serialize
  pure (.uLong (UInt32.ofNat frames.length) :: bodies.flatten)

def deserializeList : Reader (List Frame) := do
  let size ← readULong 0
  readTimes deserialize size.toNat

theorem serializeList_ok {frames : List Frame} {fields : List Field} :
    serializeList frames = .ok fields ↔ ∃ bodies, frames.mapM serialize = .ok bodies ∧
      fields = .uLong (UInt32.ofNat frames.length) :: bodies.flatten := by
  rw [serializeList, Result.bind_eq_ok]
  constructor
  · rintro ⟨bodies, done, ⟨⟩⟩
    exact ⟨bodies, done, rfl⟩
  · rintro ⟨bodies, done, rfl⟩
    exact ⟨bodies, done, rfl⟩

theorem exists_serializeList_iff (frames : List Frame) :
    (∃ fields, serializeList frames = .ok fields) ↔
      ∀ frame ∈ frames, kinds.AllComplete streamFrame frame.values := by
  simp only [← exists_serialize_iff]
  rw [← exists_mapM_iff]
  constructor
  · rintro ⟨fields, done⟩
    rcases serializeList_ok.mp done with ⟨bodies, done, -⟩
    exact ⟨bodies, done⟩
  · rintro ⟨bodies, done⟩
    exact ⟨_, serializeList_ok.mpr ⟨bodies, done, rfl⟩⟩

theorem reads_list {frames : List Frame} {fields : List Field}
    (done : serializeList frames = .ok fields)
    (fits : (fields.flatMap Field.octets).length < 2 ^ 32) :
    Reads deserializeList (fields.flatMap Field.octets) (frames.map copy) := by
  rcases serializeList_ok.mp done with ⟨bodies, each, rfl⟩
  rw [List.flatMap_cons] at fits ⊢
  rw [List.length_append] at fits
  have small : (bodies.flatten.flatMap Field.octets).length < 2 ^ 32 := by
    omega
  rcases reads_mapM (fun _ _ => reads) (fun _ _ => length_pos) each small with ⟨shorter, all⟩
  have bound : frames.length < UInt32.size := Nat.lt_of_le_of_lt shorter small
  rw [← UInt32.toNat_ofNat_of_lt' bound] at all
  exact (reads_uLong _ 0).bind all

end Frame

/-! ## All members -/

inductive BodyKind where
  | one (kind : Kind)
  /-- Frames behind their number. -/
  | frameList
  deriving DecidableEq

namespace BodyKind

def Value : BodyKind → Type
  | .one kind => kind.Value
  | .frameList => List Frame

def write : (kind : BodyKind) → kind.Value → Result (List Field)
  | .one kind, value => kind.write value
  | .frameList, (frames : List Frame) => Frame.serializeList frames

def read : (kind : BodyKind) → Reader kind.Value
  | .one kind => kind.read
  | .frameList => Frame.deserializeList

def copy : (kind : BodyKind) → kind.Value → kind.Value
  | .one kind, value => kind.copy value
  | .frameList, (frames : List Frame) => frames.map Frame.copy

def Complete : (kind : BodyKind) → kind.Value → Prop
  | .one kind, value => kind.Complete value
  | .frameList, (frames : List Frame) =>
      ∀ frame ∈ frames, kinds.AllComplete streamFrame frame.values

theorem exists_write_iff (kind : BodyKind) (value : kind.Value) :
    (∃ body, kind.write value = .ok body) ↔ kind.Complete value := by
  cases kind with
  | one kind => exact kind.exists_write_iff value
  | frameList => exact Frame.exists_serializeList_iff value

theorem reads (kind : BodyKind) (value : kind.Value) (body : List Field)
    (done : kind.write value = .ok body) (fits : (body.flatMap Field.octets).length < 2 ^ 32) :
    Reads kind.read (body.flatMap Field.octets) (kind.copy value) := by
  cases kind with
  | one kind => exact kind.reads value body done fits
  | frameList => exact Frame.reads_list done fits

end BodyKind

def bodies : Coding Field BodyKind where
  encode := Field.octets
  flag := Field.boolean
  encode_flag := octets_boolean
  Value := BodyKind.Value
  write := BodyKind.write
  read := BodyKind.read
  copy := BodyKind.copy
  Complete := BodyKind.Complete
  exists_write_iff := BodyKind.exists_write_iff
  reads := BodyKind.reads

/-! ## Classes -/

/-- A pointer that `serializeBody` follows. -/
def followed (kind : Kind) : Member BodyKind :=
  .pointer .nullDereference (.one kind)

def plain (kind : Kind) : Member BodyKind :=
  .plain (.one kind)

structure PacketClass where
  /-- The type for which a factory has a case. -/
  messageType : UInt16
  /-- The type in the header that the constructor makes, if it makes one. -/
  constructed : Option UInt16
  serializeBody : Layout BodyKind
  deserializeBody : Layout BodyKind
  deriving DecidableEq

namespace PacketClass

/-- A request that names three identifiers. -/
def identified (op : UInt16) : PacketClass where
  messageType := op
  constructed := some op
  serializeBody := [followed .uuid, followed .uuid, followed .uuid]
  deserializeBody := [followed .uuid, followed .uuid, followed .uuid]

/-- A peer that opens a service. -/
def opening (op : UInt16) : PacketClass where
  messageType := op
  constructed := some op
  serializeBody := [followed .uuid, followed .uuid]
  deserializeBody := [followed .uuid, followed .uuid]

/-- The number of a request and whether it was accepted. -/
def acceptance (op : UInt16) : PacketClass where
  messageType := op
  constructed := some op
  serializeBody := [plain .uLong, plain .boolean]
  deserializeBody := [plain .uLong, plain .boolean]

/-- A frame: its number, its size, its time and its octets. -/
def frame (op : UInt16) : PacketClass where
  messageType := op
  constructed := some op
  serializeBody := [plain .uLong, plain .long, plain .timeValue, followed .payload]
  deserializeBody := [plain .uLong, plain .long, plain .timeValue, followed .payload]

/-- The number of a frame. -/
def missing (op : UInt16) : PacketClass where
  messageType := op
  constructed := some op
  serializeBody := [plain .long]
  deserializeBody := [plain .long]

def action (op : UInt16) : PacketClass where
  messageType := op
  constructed := some op
  serializeBody := [plain .timeValue, followed .payload]
  deserializeBody := [plain .timeValue, followed .payload]

def actionReply (op : UInt16) : PacketClass where
  messageType := op
  constructed := some op
  serializeBody := [plain .uLong, plain .timeValue, plain .boolean]
  deserializeBody := [plain .uLong, plain .timeValue, plain .boolean]

end PacketClass

open PacketClass

def initSessionPacket : PacketClass where
  messageType := 0x0283
  constructed := some 0x0283
  serializeBody := [followed .uuid, followed .uuid, plain .qosEndpoint]
  deserializeBody := [followed .uuid, followed .uuid, plain .qosEndpoint]

/-! Streams, between a client and its service. -/

def startStreamServicePacket : PacketClass := opening 0x8477

def resumeStreamServicePacket : PacketClass where
  messageType := 0x1417
  constructed := some 0x1417
  serializeBody := [followed .uuid, followed .uuid, plain .uLong]
  deserializeBody := [followed .uuid, followed .uuid, plain .uLong]

def resumeStreamReplyPacket : PacketClass where
  messageType := 0x1477
  constructed := some 0x1477
  serializeBody := [.plain .frameList]
  deserializeBody := [.plain .frameList]

def streamFramePacket : PacketClass := frame 0x7322

def streamMissingFramePacket : PacketClass := missing 0x6323

/-! Streams, between a service and its sensor.  The time of a frame is the one at which it
is written. -/

def startStreamPacket : PacketClass where
  messageType := 0x8277
  constructed := some 0x8277
  serializeBody := [followed .uuid, followed .uuid, plain .long, plain .long]
  deserializeBody := [followed .uuid, followed .uuid, plain .long, plain .long]

def startStreamReplyPacket : PacketClass := acceptance 0x8888

def framePacket : PacketClass := frame 0x8322

def missingFramePacket : PacketClass := missing 0x8323

/-! Actuators. -/

def startActuatorServicePacket : PacketClass := opening 0x8477

def actionPacket : PacketClass := action 0x3220

def actionReplyPacket : PacketClass := actionReply 0x7321

def actuatorActionPacket : PacketClass := action 0x5555

def actuatorActionReplyPacket : PacketClass := actionReply 0x1199

/-! Invocations.  Only those of one way carry their time. -/

def rpcInvocationOneWayPacket : PacketClass where
  messageType := 0x1119
  constructed := some 0x1119
  serializeBody := [followed .uuid, followed .payload, plain .timeValue]
  deserializeBody := [followed .uuid, followed .payload, plain .timeValue]

def rpcInvocationPacket : PacketClass where
  messageType := 0x3122
  constructed := some 0x3122
  serializeBody := [followed .uuid, followed .payload]
  deserializeBody := [followed .uuid, followed .payload]

def rpcInvocationReplyPacket : PacketClass where
  messageType := 0x2122
  constructed := some 0x2122
  serializeBody := [plain .uLong, followed .payload]
  deserializeBody := [plain .uLong, followed .payload]

/-! Replication groups. -/

def ftAddReplicaPacket : PacketClass where
  messageType := 0x7873
  constructed := some 0x7873
  serializeBody := [followed .uuid, followed .uuid, followed .uuid, followed .overlayPeerInfo]
  deserializeBody := [followed .uuid, followed .uuid, followed .uuid, followed .overlayPeerInfo]

def ftAddReplicaReplyPacket : PacketClass := acceptance 0x0872

def ftRemoveReplicaPacket : PacketClass := identified 0x7874

def ftRemoveReplicaReplyPacket : PacketClass := acceptance 0x0873

def ftInitReplicaPacket : PacketClass where
  messageType := 0x7875
  constructed := some 0x7875
  serializeBody := [plain .initReplica]
  deserializeBody := [plain .initReplica]

def ftInitReplicaReplyPacket : PacketClass where
  messageType := 0x0372
  constructed := some 0x0372
  serializeBody := [plain .uLong, .optional (.one .sapInfo)]
  deserializeBody := [plain .uLong, .optional (.one .sapInfo)]

def ftPrebindPacket : PacketClass := identified 0x1350

def ftPrebindReplyPacket : PacketClass := acceptance 0x1300

def ftDataReplicationPacket : PacketClass where
  messageType := 0x5871
  constructed := some 0x5871
  serializeBody := [plain .replication]
  deserializeBody := [plain .replication]

def ftDataReplicationReplyPacket : PacketClass := acceptance 0x5872

def ftInitDataGroupPacket : PacketClass := identified 0x1875

def ftInitDataGroupReplyPacket : PacketClass := acceptance 0x5879

def ftDataPrebindPacket : PacketClass := identified 0x2350

def ftDataPrebindReplyPacket : PacketClass := acceptance 0x2300

/-! Services of the mesh. -/

/-- Parameters that are null are an exception that no caller handles. -/
def p3MeshCreateServicePacket : PacketClass where
  messageType := 0x2397
  constructed := some 0x2397
  serializeBody := [.pointer .uncaughtException (.one .serviceParams)]
  deserializeBody := [.pointer .uncaughtException (.one .serviceParams)]

def p3MeshCreateServiceReplyPacket : PacketClass where
  messageType := 0x7212
  constructed := some 0x7212
  serializeBody := [plain .uLong, .either (.one .meshException) (.one .uuid)]
  deserializeBody := [plain .uLong, .either (.one .meshException) (.one .uuid)]

def p3MeshRemoveServicePacket : PacketClass where
  messageType := 0x8612
  constructed := some 0x8612
  serializeBody := [followed .uuid, followed .uuid]
  deserializeBody := [followed .uuid, followed .uuid]

/-- Its constructors leave the header null. -/
def p3MeshRemoveServiceReplyPacket : PacketClass where
  messageType := 0x3998
  constructed := none
  serializeBody := [plain .uLong, .optional (.one .meshException)]
  deserializeBody := [plain .uLong, .optional (.one .meshException)]

/-! ## Factories -/

/-- The classes for which a factory has a case. -/
abbrev Factory := List PacketClass

def streamServicePacketFactory : Factory :=
  [startStreamServicePacket, resumeStreamServicePacket, resumeStreamReplyPacket, streamFramePacket,
    streamMissingFramePacket]

def streamPacketFactory : Factory :=
  [startStreamPacket, startStreamReplyPacket, framePacket, missingFramePacket]

def actuatorServicePacketFactory : Factory :=
  [actionPacket, actionReplyPacket, startActuatorServicePacket]

def actuatorPacketFactory : Factory :=
  [initSessionPacket, actuatorActionPacket, actuatorActionReplyPacket]

def rpcServicePacketFactory : Factory :=
  [initSessionPacket, rpcInvocationOneWayPacket, rpcInvocationPacket, rpcInvocationReplyPacket]

def ftControlPacketFactory : Factory :=
  [ftAddReplicaPacket, ftAddReplicaReplyPacket, ftRemoveReplicaPacket, ftRemoveReplicaReplyPacket,
    ftInitReplicaPacket, ftInitReplicaReplyPacket, ftPrebindPacket, ftPrebindReplyPacket]

def ftDataPacketFactory : Factory :=
  [ftDataReplicationPacket, ftDataReplicationReplyPacket, ftInitDataGroupPacket,
    ftInitDataGroupReplyPacket, ftDataPrebindPacket, ftDataPrebindReplyPacket]

def p3MeshPacketFactory : Factory :=
  [initSessionPacket, p3MeshCreateServicePacket, p3MeshCreateServiceReplyPacket,
    p3MeshRemoveServicePacket, p3MeshRemoveServiceReplyPacket]

def streamChannelPacketFactory : Factory :=
  [initSessionPacket]

def discoveryPacketFactory : Factory :=
  [initSessionPacket]

def factories : List Factory :=
  [streamServicePacketFactory, streamPacketFactory, actuatorServicePacketFactory,
    actuatorPacketFactory, rpcServicePacketFactory, ftControlPacketFactory, ftDataPacketFactory,
    p3MeshPacketFactory, streamChannelPacketFactory, discoveryPacketFactory]

/-- Every class but one makes a header with its type. -/
theorem constructed_eq {factory : Factory} (one : factory ∈ factories) {cls : PacketClass}
    (known : cls ∈ factory) : cls.constructed =
      if cls = p3MeshRemoveServiceReplyPacket then none else some cls.messageType := by
  revert cls factory
  decide

end Stheno.Messages
