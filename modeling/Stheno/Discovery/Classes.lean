import Stheno.Discovery.Objects

/-!
# The classes of queries and replies

The members of every class, as it writes and reads them behind the metadata.
-/

namespace Stheno.Discovery

open Wire Peer

def GENERALPROVIDER_TYPE : UInt32 := 0x2138AA
def PEER_PROVIDER : UInt32 := 0x45452A
def SERVICE_PROVIDER_TYPE : UInt32 := 0x9912AA

/-! ## Queries -/

/-- The queries that carry one identifier. -/
def identifierQuery : Specialization UUID where
  serializeQuerySpecialization uuid := uuid.serialize
  deserializeQuerySpecialization := UUID.deserialize

def FindPeerQuery : Specialization UUID :=
  identifierQuery

def PeerQuery : Specialization UUID :=
  identifierQuery

def ServiceQuery : Specialization UUID :=
  identifierQuery

structure ServiceInstanceKey where
  sid : UUID
  iid : UUID
  deriving DecidableEq

def FindServiceInstanceQuery : Specialization ServiceInstanceKey where
  serializeQuerySpecialization this := do
    let sid ← this.sid.serialize
    let iid ← this.iid.serialize
    pure (sid ++ iid)
  deserializeQuerySpecialization := do
    let sid ← UUID.deserialize
    let iid ← UUID.deserialize
    pure { sid, iid }

def GetSensorsQuery : Specialization Unit where
  serializeQuerySpecialization _ := pure []
  deserializeQuerySpecialization := pure ()

structure LaunchSite where
  sid : UUID
  requester : UUID
  filterPeers : List UUID
  deriving DecidableEq

/-- The count is written as a signed number and read as an unsigned one. -/
def LaunchServiceSiteQuery : Specialization LaunchSite where
  serializeQuerySpecialization this := do
    let sid ← this.sid.serialize
    let requester ← this.requester.serialize
    let filterPeers ← serializeCounted UUID.serialize this.filterPeers
    pure (sid ++ (requester ++ filterPeers))
  deserializeQuerySpecialization := do
    let sid ← UUID.deserialize
    let requester ← UUID.deserialize
    let filterPeers ← readList UUID.deserialize
    pure { sid, requester, filterPeers }

/-- The tree level is an `int`; `m_treeLevel` has no initial value, the model starts
it at zero. -/
def P3FindPeerQuery : Specialization Int32 where
  serializeQuerySpecialization treeLevel := pure (writeLong treeLevel.toInt)
  deserializeQuerySpecialization := do
    let treeLevel ← readLong 0
    pure (Int32.ofInt treeLevel)

inductive QueryClass where
  | findPeerQuery
  | findServiceInstanceQuery
  | getSensorsQuery
  | launchServiceSiteQuery
  | p3FindPeerQuery
  | peerQuery
  | serviceQuery
  deriving DecidableEq

namespace QueryClass

def Fields : QueryClass → Type
  | findPeerQuery => UUID
  | findServiceInstanceQuery => ServiceInstanceKey
  | getSensorsQuery => Unit
  | launchServiceSiteQuery => LaunchSite
  | p3FindPeerQuery => Int32
  | peerQuery => UUID
  | serviceQuery => UUID

def provider : QueryClass → UInt32
  | findPeerQuery => GENERALPROVIDER_TYPE
  | findServiceInstanceQuery => GENERALPROVIDER_TYPE
  | getSensorsQuery => GENERALPROVIDER_TYPE
  | launchServiceSiteQuery => GENERALPROVIDER_TYPE
  | p3FindPeerQuery => GENERALPROVIDER_TYPE
  | peerQuery => PEER_PROVIDER
  | serviceQuery => SERVICE_PROVIDER_TYPE

def type : QueryClass → UInt32
  | findPeerQuery => 0x332134
  | findServiceInstanceQuery => 0x328300
  | getSensorsQuery => 0x1213AA
  | launchServiceSiteQuery => 0x00FF
  | p3FindPeerQuery => 0x192134
  | peerQuery => 0x32DCAA
  | serviceQuery => 0x34FACB32

def specialization : (this : QueryClass) → Specialization this.Fields
  | findPeerQuery => FindPeerQuery
  | findServiceInstanceQuery => FindServiceInstanceQuery
  | getSensorsQuery => GetSensorsQuery
  | launchServiceSiteQuery => LaunchServiceSiteQuery
  | p3FindPeerQuery => P3FindPeerQuery
  | peerQuery => PeerQuery
  | serviceQuery => ServiceQuery

/-- The constructor of the class. -/
def new (this : QueryClass) (fields : this.Fields) : DiscoveryQuery this.Fields where
  provider := this.provider
  type := this.type
  querySpecializationBlob := none
  fields := fields

end QueryClass

theorem identifierQuery_faithful : identifierQuery.Faithful := by
  intro uuid body written fits
  rcases (uuid.serialize_eq_ok body).mp written with ⟨-, rfl⟩
  exact UUID.reads fits

theorem findServiceInstanceQuery_ok {this : ServiceInstanceKey} {body : List UInt8} :
    FindServiceInstanceQuery.serializeQuerySpecialization this = .ok body ↔
      (this.sid.Initialized ∧ this.iid.Initialized) ∧
        body = this.sid.octets ++ this.iid.octets := by
  simp only [FindServiceInstanceQuery, Result.bind_eq_ok, UUID.serialize_eq_ok]
  constructor
  · rintro ⟨_, ⟨sid, rfl⟩, _, ⟨iid, rfl⟩, done⟩
    cases done
    exact ⟨⟨sid, iid⟩, rfl⟩
  · rintro ⟨⟨sid, iid⟩, rfl⟩
    exact ⟨_, ⟨sid, rfl⟩, _, ⟨iid, rfl⟩, rfl⟩

theorem findServiceInstanceQuery_faithful : FindServiceInstanceQuery.Faithful := by
  rintro ⟨sid, iid⟩ body written fits
  rcases findServiceInstanceQuery_ok.mp written with ⟨-, rfl⟩
  simp only [List.length_append] at fits
  apply (UUID.reads (show sid.octets.length < 2 ^ 32 by omega)).bind
  exact (UUID.reads (show iid.octets.length < 2 ^ 32 by omega)).bind_pure
    (ServiceInstanceKey.mk sid)

theorem getSensorsQuery_faithful : GetSensorsQuery.Faithful := by
  rintro fields body ⟨⟩ fits
  exact Reads.pure ()

theorem two_le_length_uuid (uuid : UUID) : 2 ≤ uuid.octets.length := by
  rw [UUID.length_octets]
  omega

theorem launchServiceSiteQuery_ok {this : LaunchSite} {body : List UInt8} :
    LaunchServiceSiteQuery.serializeQuerySpecialization this = .ok body ↔
      (this.sid.Initialized ∧ this.requester.Initialized ∧
        ∀ uuid ∈ this.filterPeers, uuid.Initialized) ∧
      body = this.sid.octets ++ (this.requester.octets ++
        writeCounted UUID.octets this.filterPeers) := by
  simp only [LaunchServiceSiteQuery, Result.bind_eq_ok, UUID.serialize_eq_ok,
    serializeCounted_eq_ok UUID.serialize_eq_ok]
  constructor
  · rintro ⟨_, ⟨sid, rfl⟩, _, ⟨requester, rfl⟩, _, ⟨filterPeers, rfl⟩, done⟩
    cases done
    exact ⟨⟨sid, requester, filterPeers⟩, rfl⟩
  · rintro ⟨⟨sid, requester, filterPeers⟩, rfl⟩
    exact ⟨_, ⟨sid, rfl⟩, _, ⟨requester, rfl⟩, _, ⟨filterPeers, rfl⟩, rfl⟩

theorem launchServiceSiteQuery_faithful : LaunchServiceSiteQuery.Faithful := by
  rintro ⟨sid, requester, filterPeers⟩ body written fits
  rcases launchServiceSiteQuery_ok.mp written with ⟨-, rfl⟩
  simp only [writeCounted, writeLong_natCast, List.length_append] at fits
  rw [writeCounted, writeLong_natCast]
  apply (UUID.reads (show sid.octets.length < 2 ^ 32 by omega)).bind
  apply (UUID.reads (show requester.octets.length < 2 ^ 32 by omega)).bind
  have peers := reads_list two_le_length_uuid
    (show (writeList UUID.octets filterPeers).length < 2 ^ 32 by
      rw [writeList, List.length_append]
      omega) fun uuid member => UUID.reads (length_lt_of_mem member (by omega))
  exact peers.bind_pure (LaunchSite.mk sid requester)

theorem p3FindPeerQuery_faithful : P3FindPeerQuery.Faithful := by
  rintro treeLevel body ⟨⟩ fits
  have level := (reads_long 0 treeLevel.le_toInt treeLevel.toInt_lt).bind_pure Int32.ofInt
  rwa [Int32.ofInt_toInt] at level

theorem QueryClass.faithful (this : QueryClass) : this.specialization.Faithful := by
  cases this with
  | findPeerQuery => exact identifierQuery_faithful
  | findServiceInstanceQuery => exact findServiceInstanceQuery_faithful
  | getSensorsQuery => exact getSensorsQuery_faithful
  | launchServiceSiteQuery => exact launchServiceSiteQuery_faithful
  | p3FindPeerQuery => exact p3FindPeerQuery_faithful
  | peerQuery => exact identifierQuery_faithful
  | serviceQuery => exact identifierQuery_faithful

/-! ## Replies -/

structure SensorInfo where
  type : Int32
  uuid : UUID
  endpoint : Endpoint
  deriving DecidableEq

namespace SensorInfo

def octets (this : SensorInfo) : List UInt8 :=
  writeLong this.type.toInt ++ (this.uuid.octets ++ this.endpoint.serialize)

def serialize (this : SensorInfo) : Result (List UInt8) := do
  let uuid ← this.uuid.serialize
  pure (writeLong this.type.toInt ++ (uuid ++ this.endpoint.serialize))

theorem serialize_eq_ok (this : SensorInfo) (bytes : List UInt8) :
    this.serialize = .ok bytes ↔ this.uuid.Initialized ∧ bytes = this.octets := by
  simp only [serialize, Result.bind_eq_ok, UUID.serialize_eq_ok]
  constructor
  · rintro ⟨_, ⟨uuid, rfl⟩, done⟩
    cases done
    exact ⟨uuid, rfl⟩
  · rintro ⟨uuid, rfl⟩
    exact ⟨_, ⟨uuid, rfl⟩, rfl⟩

/-- `m_type` has no initial value; the model starts it at zero. -/
def deserialize : Reader SensorInfo := do
  let type ← readLong 0
  let uuid ← UUID.deserialize
  let endpoint ← Endpoint.deserialize
  pure { type := Int32.ofInt type, uuid, endpoint }

theorem two_le_length (this : SensorInfo) : 2 ≤ this.octets.length := by
  rw [octets, writeLong, List.length_append, length_toSignedLE]
  omega

theorem reads {this : SensorInfo} (fits : this.octets.length < 2 ^ 32) :
    Reads deserialize this.octets this := by
  rw [octets, List.length_append, List.length_append] at fits
  apply (reads_long 0 this.type.le_toInt this.type.toInt_lt).bind
  apply (UUID.reads (show this.uuid.octets.length < 2 ^ 32 by omega)).bind
  rw [Int32.ofInt_toInt]
  exact this.endpoint.reads.bind_pure (SensorInfo.mk this.type this.uuid)

end SensorInfo

/-- The replies that carry one peer. -/
def peerReply : Specialization (Option PeerInfo) where
  serializeQuerySpecialization pi := do
    let info ← deref pi
    info.serialize
  deserializeQuerySpecialization := do
    let info ← PeerInfo.deserialize
    pure (some info)

def FindPeerQueryReply : Specialization (Option PeerInfo) :=
  peerReply

def P3FindPeerQueryReply : Specialization (Option PeerInfo) :=
  peerReply

def PeerQueryReply : Specialization (Option PeerInfo) :=
  peerReply

structure InstanceSite where
  sid : Option UUID
  fid : Option UUID
  sapInfo : Option SAPInfo
  deriving DecidableEq

/-- The second identifier replaces the first and the third member is never set. -/
def FindServiceInstanceQueryReply : Specialization InstanceSite where
  serializeQuerySpecialization this := do
    let sid ← deref this.sid
    let sid ← sid.serialize
    let fid ← deref this.fid
    let fid ← fid.serialize
    let sapInfo ← deref this.sapInfo
    pure (sid ++ (fid ++ sapInfo.serialize))
  deserializeQuerySpecialization := do
    let _sid ← UUID.deserialize
    let fid ← UUID.deserialize
    let sapInfo ← SAPInfo.deserialize
    pure { sid := some fid, fid := none, sapInfo := some sapInfo }

structure SensorLists where
  audioSensorList : List SensorInfo
  videoSensorList : List SensorInfo
  eventSensorList : List SensorInfo
  actuatorSensorList : List SensorInfo
  deriving DecidableEq

/-- A list behind a signed count, which a failed read leaves as it was. -/
def readSensors (size : Int) : Reader (Int × List SensorInfo) := do
  let size ← readLong size
  let sensors ← readTimes SensorInfo.deserialize size.toNat
  pure (size, sensors)

/-- One variable takes the counts of all four lists. -/
def GetSensorsQueryReply : Specialization SensorLists where
  serializeQuerySpecialization this := do
    let audio ← serializeCounted SensorInfo.serialize this.audioSensorList
    let video ← serializeCounted SensorInfo.serialize this.videoSensorList
    let event ← serializeCounted SensorInfo.serialize this.eventSensorList
    let actuator ← serializeCounted SensorInfo.serialize this.actuatorSensorList
    pure (audio ++ (video ++ (event ++ actuator)))
  deserializeQuerySpecialization := do
    let (size, audioSensorList) ← readSensors 0
    let (size, videoSensorList) ← readSensors size
    let (size, eventSensorList) ← readSensors size
    let (_, actuatorSensorList) ← readSensors size
    pure { audioSensorList, videoSensorList, eventSensorList, actuatorSensorList }

structure ServiceSite where
  uuid : Option UUID
  fid : Option UUID
  meshSAP : Option SAPInfo
  ftSAP : Option SAPInfo
  deriving DecidableEq

def LaunchServiceSiteQueryReply : Specialization ServiceSite where
  serializeQuerySpecialization this := do
    let uuid ← deref this.uuid
    let uuid ← uuid.serialize
    let fid ← deref this.fid
    let fid ← fid.serialize
    let meshSAP ← deref this.meshSAP
    let ftSAP ← deref this.ftSAP
    pure (uuid ++ (fid ++ (meshSAP.serialize ++ ftSAP.serialize)))
  deserializeQuerySpecialization := do
    let uuid ← UUID.deserialize
    let fid ← UUID.deserialize
    let meshSAP ← SAPInfo.deserialize
    let ftSAP ← SAPInfo.deserialize
    pure { uuid := some uuid, fid := some fid, meshSAP := some meshSAP, ftSAP := some ftSAP }

/-- Its tests for an exception only repeat those of the base class. -/
def ServiceQueryReply : Specialization (List ServiceInstanceInfo) where
  serializeQuerySpecialization := serializeList ServiceInstanceInfo.serialize
  deserializeQuerySpecialization := readList ServiceInstanceInfo.deserialize

inductive ReplyClass where
  | findPeerQueryReply
  | findServiceInstanceQueryReply
  | getSensorsQueryReply
  | launchServiceSiteQueryReply
  | p3FindPeerQueryReply
  | peerQueryReply
  | serviceQueryReply
  deriving DecidableEq

namespace ReplyClass

def Fields : ReplyClass → Type
  | findPeerQueryReply => Option PeerInfo
  | findServiceInstanceQueryReply => InstanceSite
  | getSensorsQueryReply => SensorLists
  | launchServiceSiteQueryReply => ServiceSite
  | p3FindPeerQueryReply => Option PeerInfo
  | peerQueryReply => Option PeerInfo
  | serviceQueryReply => List ServiceInstanceInfo

def provider : ReplyClass → UInt32
  | findPeerQueryReply => GENERALPROVIDER_TYPE
  | findServiceInstanceQueryReply => GENERALPROVIDER_TYPE
  | getSensorsQueryReply => GENERALPROVIDER_TYPE
  | launchServiceSiteQueryReply => GENERALPROVIDER_TYPE
  | p3FindPeerQueryReply => GENERALPROVIDER_TYPE
  | peerQueryReply => PEER_PROVIDER
  | serviceQueryReply => SERVICE_PROVIDER_TYPE

def type : ReplyClass → UInt32
  | findPeerQueryReply => 0x4A313AB
  | findServiceInstanceQueryReply => 0x163130B
  | getSensorsQueryReply => 0xF21364
  | launchServiceSiteQueryReply => 0x01123AF
  | p3FindPeerQueryReply => 0xBC311CC
  | peerQueryReply => 0xA1CF00
  | serviceQueryReply => 0xDA908912

def specialization : (this : ReplyClass) → Specialization this.Fields
  | findPeerQueryReply => FindPeerQueryReply
  | findServiceInstanceQueryReply => FindServiceInstanceQueryReply
  | getSensorsQueryReply => GetSensorsQueryReply
  | launchServiceSiteQueryReply => LaunchServiceSiteQueryReply
  | p3FindPeerQueryReply => P3FindPeerQueryReply
  | peerQueryReply => PeerQueryReply
  | serviceQueryReply => ServiceQueryReply

/-- An object of the class, with an exception or without one. -/
def new (this : ReplyClass) (ex : Option DiscoveryException) (fields : this.Fields) :
    DiscoveryQueryReply this.Fields where
  provider := this.provider
  type := this.type
  querySpecializationBlob := none
  ex := ex
  fields := fields

end ReplyClass

theorem deref_eq_ok {α : Type} {pointer : Option α} {a : α} :
    deref pointer = .ok a ↔ pointer = some a := by
  cases pointer with
  | none => simp [deref]
  | some b => simp [deref, pure, Except.pure]

theorem peerReply_faithful : peerReply.Faithful := by
  intro pointer body written fits
  rcases Result.bind_eq_ok.mp written with ⟨info, target, written⟩
  rcases (info.serialize_eq_ok body).mp written with ⟨-, rfl⟩
  rw [deref_eq_ok.mp target]
  exact (PeerInfo.reads fits).bind_pure some

theorem reads_sensors (sensors : List SensorInfo) (before : Int)
    (fits : (writeCounted SensorInfo.octets sensors).length < 2 ^ 32) :
    Reads (readSensors before) (writeCounted SensorInfo.octets sensors)
      (sensors.length, sensors) := by
  have elements := mul_length_le_length_flatMap sensors SensorInfo.two_le_length
  rw [writeCounted, List.length_append] at fits
  apply (reads_long before (by omega) (by omega)).bind
  have all := Reads.times fun (sensor : SensorInfo) (member : sensor ∈ sensors) =>
    sensor.reads (length_lt_of_mem member (by omega))
  exact all.bind_pure (Prod.mk (sensors.length : Int))

theorem getSensorsQueryReply_faithful : GetSensorsQueryReply.Faithful := by
  rintro ⟨audio, video, event, actuator⟩ body written fits
  simp only [GetSensorsQueryReply, Result.bind_eq_ok,
    serializeCounted_eq_ok SensorInfo.serialize_eq_ok] at written
  rcases written with ⟨_, ⟨-, rfl⟩, _, ⟨-, rfl⟩, _, ⟨-, rfl⟩, _, ⟨-, rfl⟩, ⟨⟩⟩
  simp only [List.length_append] at fits
  apply (reads_sensors audio 0 (by omega)).bind
  apply (reads_sensors video _ (by omega)).bind
  apply (reads_sensors event _ (by omega)).bind
  exact (reads_sensors actuator _ (by omega)).bind_pure fun read => SensorLists.mk audio video event read.2

theorem launchServiceSiteQueryReply_ok {this : ServiceSite} {body : List UInt8} :
    LaunchServiceSiteQueryReply.serializeQuerySpecialization this = .ok body ↔
      ∃ uuid fid meshSAP ftSAP, this = ⟨some uuid, some fid, some meshSAP, some ftSAP⟩ ∧
        (uuid.Initialized ∧ fid.Initialized) ∧
        body = uuid.octets ++ (fid.octets ++ (meshSAP.serialize ++ ftSAP.serialize)) := by
  simp only [LaunchServiceSiteQueryReply, Result.bind_eq_ok, deref_eq_ok, UUID.serialize_eq_ok]
  constructor
  · rintro ⟨uuid, uuidSet, _, ⟨uuidReady, rfl⟩, fid, fidSet, _, ⟨fidReady, rfl⟩, meshSAP, meshSet,
      ftSAP, ftSet, done⟩
    cases this
    cases uuidSet
    cases fidSet
    cases meshSet
    cases ftSet
    cases done
    exact ⟨uuid, fid, meshSAP, ftSAP, rfl, ⟨uuidReady, fidReady⟩, rfl⟩
  · rintro ⟨uuid, fid, meshSAP, ftSAP, rfl, ⟨uuidReady, fidReady⟩, rfl⟩
    exact ⟨uuid, rfl, _, ⟨uuidReady, rfl⟩, fid, rfl, _, ⟨fidReady, rfl⟩, meshSAP, rfl, ftSAP, rfl,
      rfl⟩

theorem launchServiceSiteQueryReply_faithful : LaunchServiceSiteQueryReply.Faithful := by
  intro site body written fits
  rcases launchServiceSiteQueryReply_ok.mp written with
    ⟨uuid', fid', meshSAP', ftSAP', rfl, -, rfl⟩
  simp only [List.length_append] at fits
  apply (UUID.reads (show uuid'.octets.length < 2 ^ 32 by omega)).bind
  apply (UUID.reads (show fid'.octets.length < 2 ^ 32 by omega)).bind
  apply (SAPInfo.reads (show meshSAP'.serialize.length < 2 ^ 32 by omega)).bind
  exact (SAPInfo.reads (show ftSAP'.serialize.length < 2 ^ 32 by omega)).bind_pure
    fun ftSAP => ServiceSite.mk (some uuid') (some fid') (some meshSAP') (some ftSAP)

theorem serviceQueryReply_faithful : ServiceQueryReply.Faithful := by
  intro list body written fits
  rcases (serializeList_eq_ok ServiceInstanceInfo.serialize_eq_ok).mp written with ⟨-, rfl⟩
  apply reads_list ServiceInstanceInfo.two_le_length fits
  intro info member
  rw [writeList, List.length_append] at fits
  exact ServiceInstanceInfo.reads (length_lt_of_mem member (by omega))

/-- All replies but one read back what they write. -/
theorem ReplyClass.faithful {this : ReplyClass} (other : this ≠ findServiceInstanceQueryReply) :
    this.specialization.Faithful := by
  cases this with
  | findPeerQueryReply => exact peerReply_faithful
  | findServiceInstanceQueryReply => exact absurd rfl other
  | getSensorsQueryReply => exact getSensorsQueryReply_faithful
  | launchServiceSiteQueryReply => exact launchServiceSiteQueryReply_faithful
  | p3FindPeerQueryReply => exact peerReply_faithful
  | peerQueryReply => exact peerReply_faithful
  | serviceQueryReply => exact serviceQueryReply_faithful

/-- What is read back where an instance was found: the cell stands in the place of
the runtime, and its own place is empty. -/
theorem reads_findServiceInstanceQueryReply {sid fid : UUID} {sapInfo : SAPInfo}
    (fits : (sid.octets ++ (fid.octets ++ sapInfo.serialize)).length < 2 ^ 32) :
    Reads FindServiceInstanceQueryReply.deserializeQuerySpecialization
      (sid.octets ++ (fid.octets ++ sapInfo.serialize)) ⟨some fid, none, some sapInfo⟩ := by
  simp only [List.length_append] at fits
  apply (UUID.reads (show sid.octets.length < 2 ^ 32 by omega)).bind
  apply (UUID.reads (show fid.octets.length < 2 ^ 32 by omega)).bind
  exact (SAPInfo.reads (show sapInfo.serialize.length < 2 ^ 32 by omega)).bind_pure
    fun sapInfo => InstanceSite.mk (some fid) none (some sapInfo)

end Stheno.Discovery
