import Stheno.Discovery.Classes
import Stheno.FT.ReplicationGroup
import Stheno.Net.MessageSize
import Stheno.Superpeer.Packets

/-!
# Service parameters on the wire

The parameters of a service carry the members of their class behind a size, either as a
block that was read before or as the class writes them.  The reader is of the base class:
it keeps the octets in a block, and the class takes its members from there.
-/

namespace Stheno.FT

open Wire Peer Superpeer.Packets
open Stheno.Discovery (SensorInfo readBlob blobOf writeSized readList writeList)

/-- The fields hold no chains of message blocks. -/
def Unchained (body : List Field) : Prop :=
  ∀ field ∈ body, field.chain = []

theorem Unchained.append {first second : List Field} (left : Unchained first)
    (right : Unchained second) : Unchained (first ++ second) :=
  List.forall_mem_append.mpr ⟨left, right⟩

structure FTServiceParams where
  replicaCount : UInt32
  policy : UInt8
  deriving DecidableEq

/-- `StreamQoS` and `ActuatorQoS`, which have the same members. -/
structure FrameQoS where
  frameRate : UInt32
  frameSize : UInt32
  deriving DecidableEq

namespace FrameQoS

def fields (this : FrameQoS) : List Field :=
  [.uLong this.frameSize, .uLong this.frameRate]

def deserialize : Reader FrameQoS := do
  let frameSize ← readULong 0
  let frameRate ← readULong 0
  pure { frameRate, frameSize }

theorem reads (this : FrameQoS) : Reads deserialize (bytes this.fields) this := by
  have encoded : bytes this.fields = writeULong this.frameSize ++ writeULong this.frameRate := by
    rw [fields, bytes, List.flatMap_cons, List.flatMap_singleton]
    rfl
  rw [encoded]
  apply (reads_uLong this.frameSize 0).bind
  exact (reads_uLong this.frameRate 0).bind_pure fun frameRate =>
    FrameQoS.mk frameRate this.frameSize

theorem unchained (this : FrameQoS) : Unchained this.fields := by
  simp [Unchained, fields, Field.chain]

end FrameQoS

/-- `serialize` of a QoS object through a pointer. -/
def qosFields (qos : Option FrameQoS) : Result (List Field) :=
  match qos with
  | some qos => .ok qos.fields
  | none => .error .nullDereference

/-! ## The classes of parameters -/

/-- The members of `ServiceStreamParams`. -/
structure ServiceStreamParams where
  sensorUUID : UUID
  endpoint : Endpoint
  qos : Option FrameQoS
  deriving DecidableEq

namespace ServiceStreamParams

def serializeQuerySpecialization (this : ServiceStreamParams) : Result (List Field) := do
  let members ← writeFields [.uuid this.sensorUUID, .endpoint this.endpoint]
  let qos ← qosFields this.qos
  pure (members ++ qos)

def deserializeQuerySpecialization : Reader ServiceStreamParams := do
  let sensorUUID ← UUID.deserialize
  let endpoint ← Endpoint.deserialize
  let qos ← FrameQoS.deserialize
  pure { sensorUUID, endpoint, qos := some qos }

end ServiceStreamParams

/-- The members of `ServiceActuatorParams`. -/
structure ServiceActuatorParams where
  sensorList : List SensorInfo
  qos : Option FrameQoS
  deriving DecidableEq

def sensorFields (sensor : SensorInfo) : List Field :=
  [.long sensor.type.toInt, .uuid sensor.uuid, .endpoint sensor.endpoint]

theorem unchained_sensorFields (sensor : SensorInfo) : Unchained (sensorFields sensor) := by
  simp [Unchained, sensorFields, Field.chain]

namespace ServiceActuatorParams

def serializeQuerySpecialization (this : ServiceActuatorParams) : Result (List Field) := do
  let members ← writeFields (.uLong (UInt32.ofNat this.sensorList.length) ::
    this.sensorList.flatMap sensorFields)
  let qos ← qosFields this.qos
  pure (members ++ qos)

def deserializeQuerySpecialization : Reader ServiceActuatorParams := do
  let sensorList ← readList SensorInfo.deserialize
  let qos ← FrameQoS.deserialize
  pure { sensorList, qos := some qos }

end ServiceActuatorParams

/-- What stands behind the metadata of an object below `ServiceParams`. -/
inductive QuerySpecialization where
  /-- Nothing, for the base class without a block. -/
  | absent
  /-- `m_querySpecializationBlob`. -/
  | blob (mb : List MessageBlock)
  | stream (members : ServiceStreamParams)
  | actuator (members : ServiceActuatorParams)

namespace QuerySpecialization

/-- `serializeQuerySpecialization` of the class, or the block. -/
def body : QuerySpecialization → Result (List Field)
  | absent => .ok []
  | blob mb => .ok [.octetArrayMb mb]
  | stream members => members.serializeQuerySpecialization
  | actuator members => members.serializeQuerySpecialization

/-- The size of a block is its length, that of a class is counted by a `StreamSize`. -/
def size (this : QuerySpecialization) (body : List Field) : UInt32 :=
  match this with
  | blob mb => UInt32.ofNat (MessageBlock.totalLength mb)
  | absent | stream _ | actuator _ => getBodySerializationSize body

/-- A class has its QoS object, and its identifiers have key data. -/
def Complete : QuerySpecialization → Prop
  | absent | blob _ => True
  | stream members => members.sensorUUID.Initialized ∧ members.qos ≠ none
  | actuator members =>
      (∀ sensor ∈ members.sensorList, sensor.uuid.Initialized) ∧ members.qos ≠ none

/-- The octets behind the size. -/
def octets (this : QuerySpecialization) : Result (List UInt8) :=
  this.body.map bytes

/-- What the base class keeps of the octets it read. -/
def ofBlob : Option (List UInt8) → QuerySpecialization
  | some octets => blob (blockOf octets)
  | none => absent

/-- The octets of a stream over the block. -/
def blobOctets : QuerySpecialization → List UInt8
  | blob mb => MessageBlock.octets mb
  | absent | stream _ | actuator _ => []

end QuerySpecialization

structure ServiceParams where
  sid : UUID
  ftParams : Option FTServiceParams
  specialization : QuerySpecialization

namespace ServiceParams

def serializeMetadata (this : ServiceParams) : List Field :=
  .uuid this.sid ::
    match this.ftParams with
    | some ftParams => [.boolean true, .uLong ftParams.replicaCount, .octet ftParams.policy]
    | none => [.boolean false]

def serialize (this : ServiceParams) : Result (List Field) := do
  let metadata ← writeFields this.serializeMetadata
  let body ← this.specialization.body
  pure (metadata ++ (.uLong (this.specialization.size body) :: body))

/-- The members of `FTServiceParams` have no initial value; the model starts them at zero. -/
def deserializeFTParams : Reader FTServiceParams := do
  let replicaCount ← readULong 0
  let policy ← readOctet 0
  pure { replicaCount, policy }

def deserialize : Reader ServiceParams := do
  let sid ← UUID.deserialize
  let ftParams ← readOptional deserializeFTParams
  let blob ← readBlob
  pure { sid, ftParams, specialization := .ofBlob blob }

/-- The constructor of `ServiceStreamParams` from parameters that were read. -/
def toStream (this : ServiceParams) : Result ServiceStreamParams :=
  (ServiceStreamParams.deserializeQuerySpecialization
    ⟨this.specialization.blobOctets, true⟩).map Prod.fst

/-- The constructor of `ServiceActuatorParams` from parameters that were read. -/
def toActuator (this : ServiceParams) : Result ServiceActuatorParams :=
  (ServiceActuatorParams.deserializeQuerySpecialization
    ⟨this.specialization.blobOctets, true⟩).map Prod.fst

/-- Equal parameters have the same octets behind the metadata, from which the class takes
its members. -/
structure Equals (this other : ServiceParams) : Prop where
  sid : other.sid = this.sid
  ftParams : other.ftParams = this.ftParams
  octets : other.specialization.octets = this.specialization.octets
  stream : ∀ members, this.specialization = .stream members → other.toStream = .ok members
  actuator : ∀ members, this.specialization = .actuator members → other.toActuator = .ok members

end ServiceParams

/-! ## What a class writes -/

/-- A `StreamSize` counts the octets of fields without chains. -/
theorem getBodySerializationSize_of_unchained {body : List Field}
    (unchained : Unchained body) (fits : (bytes body).length < 2 ^ 32) :
    getBodySerializationSize body = UInt32.ofNat (bytes body).length := by
  have none_left (measure : List MessageBlock → Nat) (empty : measure [] = 0) :
      (body.map fun field => measure field.chain).sum = 0 := by
    have zeros : (body.map fun field => measure field.chain) = body.map fun _ => 0 := by
      apply List.map_congr_left
      intro field member
      rw [unchained field member, empty]
    rw [zeros, List.map_const', List.sum_replicate_nat, Nat.mul_zero]
  have counted := Net.SthenoPacket.counted_add_totalLengths body
  rw [none_left _ rfl, none_left _ rfl, Nat.add_zero, Nat.add_zero, Net.SthenoPacket.bodyLength,
    written_serializeBody fits] at counted
  rw [getBodySerializationSize, StreamSize.totalLength, StreamSize.size_run, Nat.zero_add]
  apply UInt32.toNat_inj.mp
  rw [UInt32.toNat_ofNat', UInt32.toNat_ofNat']
  exact counted

/-- Members with a QoS object behind them are written where the object is there and their
identifiers have key data. -/
theorem qosFields_bind_ok {members : List Field} {qos : Option FrameQoS} {body : List Field} :
    (do let members ← writeFields members; let fields ← qosFields qos; pure (members ++ fields)) =
        .ok body ↔
      (∀ field ∈ members, field.Initialized) ∧
        ∃ there, qos = some there ∧ body = members ++ there.fields := by
  simp only [Result.bind_eq_ok, writeFields_eq_ok]
  constructor
  · rintro ⟨_, ⟨ready, rfl⟩, fields, written, done⟩
    cases done
    cases qos with
    | none => cases written
    | some qos =>
        cases written
        exact ⟨ready, qos, rfl, rfl⟩
  · rintro ⟨ready, there, rfl, rfl⟩
    exact ⟨members, ⟨ready, rfl⟩, there.fields, rfl, rfl⟩

theorem exists_qosFields_bind_iff {members : List Field} {qos : Option FrameQoS} :
    (∃ body, (do let members ← writeFields members; let fields ← qosFields qos
                 pure (members ++ fields)) = .ok body) ↔
      (∀ field ∈ members, field.Initialized) ∧ qos ≠ none := by
  simp only [qosFields_bind_ok, Option.ne_none_iff_exists']
  constructor
  · rintro ⟨_, ready, qos, there, -⟩
    exact ⟨ready, qos, there⟩
  · rintro ⟨ready, qos, there⟩
    exact ⟨_, ready, qos, there, rfl⟩

/-- A list of sensors is written where their identifiers have key data. -/
theorem initialized_sensors {sensors : List SensorInfo} {count : UInt32} :
    (∀ field ∈ Field.uLong count :: sensors.flatMap sensorFields, field.Initialized) ↔
      ∀ sensor ∈ sensors, sensor.uuid.Initialized := by
  rw [List.forall_mem_cons, List.forall_mem_flatMap]
  constructor
  · rintro ⟨-, ready⟩ sensor member
    exact ready sensor member (.uuid sensor.uuid) (List.mem_cons_of_mem _ List.mem_cons_self)
  · intro ready
    refine ⟨trivial, ?_⟩
    intro sensor member
    rw [sensorFields, List.forall_mem_cons, List.forall_mem_cons, List.forall_mem_singleton]
    exact ⟨trivial, ready sensor member, trivial⟩

namespace ServiceStreamParams

theorem unchained {this : ServiceStreamParams} {body : List Field}
    (written : this.serializeQuerySpecialization = .ok body) : Unchained body := by
  rcases qosFields_bind_ok.mp written with ⟨-, qos, -, rfl⟩
  apply Unchained.append _ qos.unchained
  simp [Unchained, Field.chain]

/-- The members are taken from what the class wrote. -/
theorem reads {this : ServiceStreamParams} {body : List Field}
    (written : this.serializeQuerySpecialization = .ok body)
    (fits : (bytes body).length < 2 ^ 32) :
    Reads deserializeQuerySpecialization (bytes body) this := by
  rcases qosFields_bind_ok.mp written with ⟨-, qos, there, rfl⟩
  rcases this with ⟨sensorUUID, endpoint, _⟩
  cases there
  have encoded : bytes ([.uuid sensorUUID, .endpoint endpoint] ++ qos.fields) =
      sensorUUID.octets ++ (endpoint.serialize ++ bytes qos.fields) := rfl
  rw [encoded] at fits ⊢
  rw [List.length_append] at fits
  apply (UUID.reads (show sensorUUID.octets.length < 2 ^ 32 by omega)).bind
  apply endpoint.reads.bind
  exact qos.reads.bind_pure fun qos => ServiceStreamParams.mk sensorUUID endpoint (some qos)

end ServiceStreamParams

namespace ServiceActuatorParams

theorem unchained {this : ServiceActuatorParams} {body : List Field}
    (written : this.serializeQuerySpecialization = .ok body) : Unchained body := by
  rcases qosFields_bind_ok.mp written with ⟨-, qos, -, rfl⟩
  apply Unchained.append _ qos.unchained
  have count : Unchained [.uLong (UInt32.ofNat this.sensorList.length)] := by
    simp [Unchained, Field.chain]
  have sensors : Unchained (this.sensorList.flatMap sensorFields) := by
    intro field member
    rcases List.mem_flatMap.mp member with ⟨sensor, -, inside⟩
    exact unchained_sensorFields sensor field inside
  exact count.append sensors

theorem bytes_sensors (sensors : List SensorInfo) :
    bytes (sensors.flatMap sensorFields) = sensors.flatMap SensorInfo.octets := by
  rw [bytes, List.flatMap_assoc]
  have each : (fun sensor => (sensorFields sensor).flatMap Field.octets) =
      SensorInfo.octets := by
    funext sensor
    rw [sensorFields, List.flatMap_cons, List.flatMap_cons, List.flatMap_singleton]
    rfl
  rw [each]

/-- The members are taken from what the class wrote. -/
theorem reads {this : ServiceActuatorParams} {body : List Field}
    (written : this.serializeQuerySpecialization = .ok body)
    (fits : (bytes body).length < 2 ^ 32) :
    Reads deserializeQuerySpecialization (bytes body) this := by
  rcases qosFields_bind_ok.mp written with ⟨-, qos, there, rfl⟩
  rcases this with ⟨sensorList, _⟩
  cases there
  have encoded : bytes ((.uLong (UInt32.ofNat sensorList.length) ::
      sensorList.flatMap sensorFields) ++ qos.fields) =
        writeList SensorInfo.octets sensorList ++ bytes qos.fields := by
    rw [bytes_append, bytes, List.flatMap_cons, writeList]
    exact congrArg (fun sensors => _ ++ sensors ++ _) (bytes_sensors sensorList)
  rw [encoded] at fits ⊢
  rw [List.length_append] at fits
  have short : (writeList SensorInfo.octets sensorList).length < 2 ^ 32 := by omega
  have sensors := Discovery.reads_list SensorInfo.two_le_length short fun sensor member =>
    SensorInfo.reads (Discovery.length_lt_of_mem member (by
      rw [writeList, List.length_append] at short
      omega))
  apply sensors.bind
  exact qos.reads.bind_pure fun qos => ServiceActuatorParams.mk sensorList (some qos)

end ServiceActuatorParams

/-! ## The round trip -/

namespace QuerySpecialization

variable {this : QuerySpecialization} {fields : List Field}

/-- The size is the number of octets behind it. -/
theorem size_eq (written : this.body = .ok fields) (fits : (bytes fields).length < 2 ^ 32) :
    this.size fields = UInt32.ofNat (bytes fields).length := by
  cases this with
  | absent =>
      cases written
      rfl
  | blob mb =>
      cases written
      rw [size, bytes_singleton, Field.octets, MessageBlock.length_octets]
  | stream members =>
      exact getBodySerializationSize_of_unchained (ServiceStreamParams.unchained written) fits
  | actuator members =>
      exact getBodySerializationSize_of_unchained (ServiceActuatorParams.unchained written) fits

theorem exists_body_iff : (∃ fields, this.body = .ok fields) ↔ this.Complete := by
  cases this with
  | absent => exact iff_of_true ⟨_, rfl⟩ trivial
  | blob mb => exact iff_of_true ⟨_, rfl⟩ trivial
  | stream members =>
      apply exists_qosFields_bind_iff.trans
      rw [List.forall_mem_cons, List.forall_mem_singleton]
      exact and_congr_left' (and_iff_left trivial)
  | actuator members => exact exists_qosFields_bind_iff.trans (and_congr_left' initialized_sensors)

theorem octets_ofBlob (octets : List UInt8) : (ofBlob (blobOf octets)).octets = .ok octets := by
  rw [blobOf]
  split
  · rename_i empty
    rw [empty]
    rfl
  · rw [ofBlob, QuerySpecialization.octets, body, Except.map, bytes_singleton, Field.octets,
      octets_blockOf]

theorem blobOctets_ofBlob (octets : List UInt8) :
    (ofBlob (blobOf octets)).blobOctets = octets := by
  rw [blobOf]
  split
  · rename_i empty
    exact empty.symm
  · exact octets_blockOf octets

/-- What the base class keeps of a body that was written. -/
def copy (this : QuerySpecialization) : QuerySpecialization :=
  match this.octets with
  | .ok octets => ofBlob (blobOf octets)
  | .error _ => absent

theorem octets_of_body (made : this.body = .ok fields) : this.octets = .ok (bytes fields) := by
  rw [octets, made]
  rfl

theorem copy_of_body (made : this.body = .ok fields) :
    this.copy = ofBlob (blobOf (bytes fields)) := by
  rw [copy, octets_of_body made]

end QuerySpecialization

namespace ServiceParams

variable {this : ServiceParams} {fields : List Field}

/-- The parameters as they are read back. -/
def copy (this : ServiceParams) : ServiceParams :=
  { this with specialization := this.specialization.copy }

theorem initialized_metadata {this : ServiceParams} :
    (∀ field ∈ this.serializeMetadata, field.Initialized) ↔ this.sid.Initialized := by
  rcases this with ⟨sid, ftParams, specialization⟩
  rw [serializeMetadata, List.forall_mem_cons]
  apply and_iff_left
  cases ftParams with
  | none =>
      rw [List.forall_mem_singleton]
      trivial
  | some ftParams =>
      rw [List.forall_mem_cons, List.forall_mem_cons, List.forall_mem_singleton]
      exact ⟨trivial, trivial, trivial⟩

theorem serialize_ok : this.serialize = .ok fields ↔ this.sid.Initialized ∧
    ∃ body, this.specialization.body = .ok body ∧
      fields = this.serializeMetadata ++ (.uLong (this.specialization.size body) :: body) := by
  simp only [serialize, Result.bind_eq_ok, writeFields_eq_ok, initialized_metadata]
  constructor
  · rintro ⟨_, ⟨ready, rfl⟩, body, written, ⟨⟩⟩
    exact ⟨ready, body, written, rfl⟩
  · rintro ⟨ready, body, written, rfl⟩
    exact ⟨_, ⟨ready, rfl⟩, body, written, rfl⟩

theorem exists_serialize_iff : (∃ fields, this.serialize = .ok fields) ↔
    this.sid.Initialized ∧ this.specialization.Complete := by
  rw [← QuerySpecialization.exists_body_iff]
  constructor
  · rintro ⟨fields, written⟩
    rcases serialize_ok.mp written with ⟨ready, body, made, -⟩
    exact ⟨ready, body, made⟩
  · rintro ⟨ready, body, made⟩
    exact ⟨_, serialize_ok.mpr ⟨ready, body, made, rfl⟩⟩

theorem bytes_metadata (this : ServiceParams) :
    bytes this.serializeMetadata = this.sid.octets ++
      writeOptional (fun ftParams => writeULong ftParams.replicaCount ++ writeOctet ftParams.policy)
        this.ftParams := by
  rcases this with ⟨sid, ftParams, specialization⟩
  cases ftParams with
  | none => rfl
  | some ftParams => rfl

theorem bytes_serialize (this : ServiceParams) (body : List Field) :
    bytes (this.serializeMetadata ++ (.uLong (this.specialization.size body) :: body)) =
      bytes this.serializeMetadata ++
        (writeULong (this.specialization.size body) ++ bytes body) :=
  bytes_append _ _

theorem reads_ftParams (ftParams : FTServiceParams) :
    Reads deserializeFTParams (writeULong ftParams.replicaCount ++ writeOctet ftParams.policy)
      ftParams := by
  apply (reads_uLong ftParams.replicaCount 0).bind
  exact (reads_octet ftParams.policy 0).bind_pure (FTServiceParams.mk ftParams.replicaCount)

/-- Parameters that are written are read, of the base class. -/
theorem reads (written : this.serialize = .ok fields) (fits : (bytes fields).length < 2 ^ 32) :
    Reads deserialize (bytes fields) this.copy := by
  rcases serialize_ok.mp written with ⟨-, body, made, rfl⟩
  rw [bytes_serialize, bytes_metadata] at fits ⊢
  rw [List.length_append, List.length_append, List.length_append] at fits
  rw [QuerySpecialization.size_eq made (by omega), List.append_assoc, copy,
    QuerySpecialization.copy_of_body made]
  apply (UUID.reads (show this.sid.octets.length < 2 ^ 32 by omega)).bind
  apply (reads_optional fun ftParams _ => reads_ftParams ftParams).bind
  have blob := Discovery.reads_blob (show (bytes body).length < 2 ^ 32 by omega)
  exact blob.bind_pure fun blob => ServiceParams.mk this.sid this.ftParams (.ofBlob blob)

/-- Parameters that are written come back equal. -/
theorem equals_copy (written : this.serialize = .ok fields)
    (fits : (bytes fields).length < 2 ^ 32) : this.Equals this.copy := by
  rcases serialize_ok.mp written with ⟨-, body, made, rfl⟩
  rw [bytes_serialize, List.length_append, List.length_append] at fits
  have short : (bytes body).length < 2 ^ 32 := by omega
  have copied : this.copy.specialization = .ofBlob (blobOf (bytes body)) :=
    QuerySpecialization.copy_of_body made
  constructor
  · rfl
  · rfl
  · rw [copied, QuerySpecialization.octets_ofBlob,
      QuerySpecialization.octets_of_body made]
  · intro members isStream
    rw [isStream] at made
    rw [toStream, copied, QuerySpecialization.blobOctets_ofBlob,
      (ServiceStreamParams.reads made short).run]
    rfl
  · intro members isActuator
    rw [isActuator] at made
    rw [toActuator, copied, QuerySpecialization.blobOctets_ofBlob,
      (ServiceActuatorParams.reads made short).run]
    rfl

end ServiceParams

end Stheno.FT
