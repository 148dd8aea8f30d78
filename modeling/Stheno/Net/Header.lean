import Stheno.Peer.Codec

/-!
# Packet headers

The two header classes of the channels, with fields in the order in which they are
written.  `getSize` counts identifiers with keys of the default size.
-/

namespace Stheno.Net

open Wire

structure SthenoHeader where
  magic : UInt32
  protocol : UInt16
  protocolVersionMajor : UInt8
  protocolVersionMinor : UInt8
  srcPID : UUID
  srcFID : UUID
  dstPID : UUID
  dstFID : UUID
  messageType : UInt16
  requestID : UInt32
  messageSize : UInt32
  deriving DecidableEq

namespace SthenoHeader

def STHENO_MAGIC : UInt32 := 1381264720

def getSize : Nat := 98

theorem getSize_pos : 0 < getSize := by
  decide

def getBodySize (this : SthenoHeader) : UInt32 :=
  this.messageSize

/-- The bytes of a header whose identifiers have key data. -/
def octets (this : SthenoHeader) : List UInt8 :=
  writeULong this.magic ++ (writeUShort this.protocol ++ (writeOctet this.protocolVersionMajor ++
    (writeOctet this.protocolVersionMinor ++ (this.srcPID.octets ++ (this.srcFID.octets ++
      (this.dstPID.octets ++ (this.dstFID.octets ++ (writeUShort this.messageType ++
        (writeULong this.requestID ++ writeULong this.messageSize)))))))))

def serialize (this : SthenoHeader) : Result (List UInt8) := do
  let srcPID ← this.srcPID.serialize
  let srcFID ← this.srcFID.serialize
  let dstPID ← this.dstPID.serialize
  let dstFID ← this.dstFID.serialize
  pure (writeULong this.magic ++ (writeUShort this.protocol ++
    (writeOctet this.protocolVersionMajor ++ (writeOctet this.protocolVersionMinor ++
      (srcPID ++ (srcFID ++ (dstPID ++ (dstFID ++ (writeUShort this.messageType ++
        (writeULong this.requestID ++ writeULong this.messageSize))))))))))

/-- The identifiers have key data. -/
def Initialized (this : SthenoHeader) : Prop :=
  this.srcPID.Initialized ∧ this.srcFID.Initialized ∧ this.dstPID.Initialized ∧
    this.dstFID.Initialized

theorem serialize_eq_ok (this : SthenoHeader) (bytes : List UInt8) :
    this.serialize = .ok bytes ↔ this.Initialized ∧ bytes = this.octets := by
  simp only [serialize, Result.bind_eq_ok, UUID.serialize_eq_ok]
  constructor
  · rintro ⟨_, ⟨srcPID, rfl⟩, _, ⟨srcFID, rfl⟩, _, ⟨dstPID, rfl⟩, _, ⟨dstFID, rfl⟩, done⟩
    cases done
    exact ⟨⟨srcPID, srcFID, dstPID, dstFID⟩, rfl⟩
  · rintro ⟨⟨srcPID, srcFID, dstPID, dstFID⟩, rfl⟩
    exact ⟨_, ⟨srcPID, rfl⟩, _, ⟨srcFID, rfl⟩, _, ⟨dstPID, rfl⟩, _, ⟨dstFID, rfl⟩, rfl⟩

/-- The constructor leaves its fields uninitialised, so a field that cannot be read
holds any value, here 0. -/
def deserialize : Reader SthenoHeader := do
  let magic ← readULong 0
  let protocol ← readUShort 0
  let protocolVersionMajor ← readOctet 0
  let protocolVersionMinor ← readOctet 0
  let srcPID ← UUID.deserialize
  let srcFID ← UUID.deserialize
  let dstPID ← UUID.deserialize
  let dstFID ← UUID.deserialize
  let messageType ← readUShort 0
  let requestID ← readULong 0
  let messageSize ← readULong 0
  pure { magic, protocol, protocolVersionMajor, protocolVersionMinor, srcPID, srcFID, dstPID, dstFID,
         messageType, requestID, messageSize }

/-- The identifiers have keys of `DEFAULT_KEY_SIZE` bytes. -/
structure DefaultKeys (this : SthenoHeader) : Prop where
  srcPID : this.srcPID.key.length = 16
  srcFID : this.srcFID.key.length = 16
  dstPID : this.dstPID.key.length = 16
  dstFID : this.dstFID.key.length = 16

theorem DefaultKeys.initialized {this : SthenoHeader} (keys : this.DefaultKeys) :
    this.Initialized := by
  have data : ∀ uuid : UUID, uuid.key.length = 16 → uuid.Initialized := by
    intro uuid length empty
    rw [empty] at length
    cases length
  exact ⟨data _ keys.srcPID, data _ keys.srcFID, data _ keys.dstPID, data _ keys.dstFID⟩

theorem DefaultKeys.serialize {this : SthenoHeader} (keys : this.DefaultKeys) :
    this.serialize = .ok this.octets :=
  (serialize_eq_ok this _).mpr ⟨keys.initialized, rfl⟩

theorem length_octets {this : SthenoHeader} (keys : this.DefaultKeys) :
    this.octets.length = getSize := by
  simp [octets, writeULong, writeUShort, writeOctet, UUID.length_octets, keys.srcPID,
    keys.srcFID, keys.dstPID, keys.dstFID, getSize]

theorem reads_key {uuid : UUID} (key : uuid.key.length = 16) :
    Reads UUID.deserialize uuid.octets uuid := by
  apply UUID.reads
  rw [UUID.length_octets, key]
  decide

theorem reads {this : SthenoHeader} (keys : this.DefaultKeys) :
    Reads deserialize this.octets this := by
  apply (reads_uLong this.magic 0).bind
  apply (reads_uShort this.protocol 0).bind
  apply (reads_octet this.protocolVersionMajor 0).bind
  apply (reads_octet this.protocolVersionMinor 0).bind
  apply (reads_key keys.srcPID).bind
  apply (reads_key keys.srcFID).bind
  apply (reads_key keys.dstPID).bind
  apply (reads_key keys.dstFID).bind
  apply (reads_uShort this.messageType 0).bind
  apply (reads_uLong this.requestID 0).bind
  exact (reads_uLong this.messageSize 0).bind_pure fun messageSize =>
    { this with messageSize }

end SthenoHeader

structure SthenoStreamHeader where
  magic : UInt32
  protocol : UInt16
  messageType : UInt16
  requestID : UInt32
  messageSize : UInt32
  deriving DecidableEq

namespace SthenoStreamHeader

def getSize : Nat := 16

def getBodySize (this : SthenoStreamHeader) : UInt32 :=
  this.messageSize

def serialize (this : SthenoStreamHeader) : List UInt8 :=
  writeULong this.magic ++ (writeUShort this.protocol ++ (writeUShort this.messageType ++
    (writeULong this.requestID ++ writeULong this.messageSize)))

def deserialize : Reader SthenoStreamHeader := do
  let magic ← readULong 0
  let protocol ← readUShort 0
  let messageType ← readUShort 0
  let requestID ← readULong 0
  let messageSize ← readULong 0
  pure { magic, protocol, messageType, requestID, messageSize }

theorem length_serialize (this : SthenoStreamHeader) : this.serialize.length = getSize := by
  simp [serialize, writeULong, writeUShort, getSize]

theorem reads (this : SthenoStreamHeader) : Reads deserialize this.serialize this := by
  apply (reads_uLong this.magic 0).bind
  apply (reads_uShort this.protocol 0).bind
  apply (reads_uShort this.messageType 0).bind
  apply (reads_uLong this.requestID 0).bind
  exact (reads_uLong this.messageSize 0).bind_pure fun messageSize =>
    { this with messageSize }

end SthenoStreamHeader

end Stheno.Net
