import Stheno.Peer.Info

/-!
# Peer records on the wire

Each record is written field by field and read back in the same order.  Whatever
fits a packet, whose size is a 32-bit number, has every length and count below
the width of the field that carries it, so the round trips need no other bound
than the one on the bytes written.

An identifier without key data is not written: `serialize` throws, also for every
record that holds one.  A record is `Initialized` where it holds none, and `octets`
are the bytes that stand for it then.
-/

namespace Stheno

open Wire

/-! ## Optional and repeated parts -/

namespace Wire

/-- A flag, and the value when there is one. -/
def writeOptional {α : Type} (write : α → List UInt8) : Option α → List UInt8
  | some a => writeBoolean true ++ write a
  | none => writeBoolean false

def readOptional {α : Type} (reader : Reader α) : Reader (Option α) := do
  let flag ← readBoolean
  if flag then
    let a ← reader
    pure (some a)
  else
    pure none

theorem reads_optional {α : Type} {reader : Reader α} {write : α → List UInt8} {value : Option α}
    (reads : ∀ a, value = some a → Reads reader (write a) a) :
    Reads (readOptional reader) (writeOptional write value) value := by
  cases value with
  | some a => exact (reads_boolean true).bind ((reads a rfl).bind_pure some)
  | none =>
      have whole : Reads (readOptional reader) (writeBoolean false ++ []) none :=
        (reads_boolean false).bind (Reads.pure none)
      exact whole

theorem length_le_length_flatMap {α : Type} {write : α → List UInt8} {list : List α} {a : α}
    (member : a ∈ list) : (write a).length ≤ (list.flatMap write).length := by
  induction list with
  | nil => cases member
  | cons head tail ih =>
      rw [List.flatMap_cons, List.length_append]
      rcases List.mem_cons.mp member with rfl | inTail
      · exact Nat.le_add_right _ _
      · exact Nat.le_add_left_of_le (ih inTail)

theorem mul_length_le_length_flatMap {α : Type} {write : α → List UInt8} {least : Nat}
    (list : List α) (wide : ∀ a, least ≤ (write a).length) :
    least * list.length ≤ (list.flatMap write).length := by
  induction list with
  | nil => simp
  | cons head tail ih =>
      rw [List.flatMap_cons, List.length_append, List.length_cons, Nat.mul_succ, Nat.add_comm]
      exact Nat.add_le_add (wide head) ih

/-- A list behind its length as a signed 32-bit count. -/
def writeCounted {α : Type} (write : α → List UInt8) (list : List α) : List UInt8 :=
  writeLong list.length ++ list.flatMap write

def readCounted {α : Type} (reader : Reader α) : Reader (List α) := do
  let count ← readLong 0
  readTimes reader count.toNat

/-- `serialize` of a list, which ends at the first element that throws. -/
def serializeCounted {α : Type} (serialize : α → Result (List UInt8)) (list : List α) :
    Result (List UInt8) := do
  let parts ← list.mapM serialize
  pure (writeLong list.length ++ parts.flatten)

theorem serializeCounted_eq_ok {α : Type} {serialize : α → Result (List UInt8)} {ready : α → Prop}
    {write : α → List UInt8} (each : ∀ a bytes, serialize a = .ok bytes ↔ ready a ∧ bytes = write a)
    {list : List α} {bytes : List UInt8} :
    serializeCounted serialize list = .ok bytes ↔
      (∀ a ∈ list, ready a) ∧ bytes = writeCounted write list := by
  simp only [serializeCounted, Result.bind_eq_ok, Result.mapM_eq_ok each]
  constructor
  · rintro ⟨_, ⟨ready, rfl⟩, done⟩
    cases done
    exact ⟨ready, rfl⟩
  · rintro ⟨ready, rfl⟩
    exact ⟨_, ⟨ready, rfl⟩, rfl⟩

theorem length_writeOptional_le {α : Type} {write : α → List UInt8} {a : α} :
    (write a).length ≤ (writeOptional write (some a)).length := by
  simp [writeOptional]

theorem reads_counted {α : Type} {reader : Reader α} {write : α → List UInt8} {list : List α}
    (wide : ∀ a, 2 ≤ (write a).length) (fits : (writeCounted write list).length < 2 ^ 32)
    (reads : ∀ a ∈ list, Reads reader (write a) a) :
    Reads (readCounted reader) (writeCounted write list) list := by
  have elements := mul_length_le_length_flatMap list wide
  rw [writeCounted, List.length_append] at fits
  have count : Reads (readLong 0) (writeLong list.length) (list.length : Int) :=
    reads_long 0 (by omega) (by omega)
  exact count.bind (Reads.times reads)

end Wire

/-! ## Identifiers and access points -/

namespace UUID

/-- The key has data. -/
def Initialized (this : UUID) : Prop :=
  this.key ≠ []

instance (this : UUID) : Decidable this.Initialized :=
  inferInstanceAs (Decidable (this.key ≠ []))

def octets (this : UUID) : List UInt8 :=
  writeULong (UInt32.ofNat this.key.length) ++ this.key

def serialize (this : UUID) : Result (List UInt8) :=
  if this.key = [] then .error .notInitialized
  else .ok (writeULong (UInt32.ofNat this.key.length) ++ this.key)

theorem serialize_eq_ok (this : UUID) (bytes : List UInt8) :
    this.serialize = .ok bytes ↔ this.Initialized ∧ bytes = this.octets := by
  rw [serialize, Initialized]
  by_cases empty : this.key = []
  · rw [if_pos empty]
    simp [empty]
  · rw [if_neg empty]
    simp only [ne_eq, empty, not_false_eq_true, true_and, Except.ok.injEq, octets]
    exact eq_comm

def deserialize : Reader UUID := do
  let size ← readULong 0
  let key ← readOctetArray size.toNat
  pure ⟨key⟩

theorem length_octets (this : UUID) : this.octets.length = 4 + this.key.length := by
  simp [octets, writeULong]

theorem reads {this : UUID} (fits : this.octets.length < 2 ^ 32) :
    Reads deserialize this.octets this := by
  rw [length_octets] at fits
  have bound : this.key.length < UInt32.size := by
    change this.key.length < 2 ^ 32
    omega
  have key := (reads_octetArray this.key).bind_pure UUID.mk
  rw [← UInt32.toNat_ofNat_of_lt' bound] at key
  exact (reads_uLong _ 0).bind key

end UUID

namespace Peer

def QoSEndpoint.serialize (this : QoSEndpoint) : List UInt8 :=
  writeUShort this.type ++ writeUShort this.priority

/-- A fresh `QoSEndpoint` has type -1 and priority 0. -/
def QoSEndpoint.deserialize : Reader QoSEndpoint := do
  let type ← readUShort 65535
  let priority ← readUShort 0
  pure { type, priority }

theorem QoSEndpoint.reads (this : QoSEndpoint) : Reads deserialize this.serialize this := by
  apply (reads_uShort this.type 65535).bind
  exact (reads_uShort this.priority 0).bind_pure (QoSEndpoint.mk this.type)

namespace Endpoint

def serialize (this : Endpoint) : List UInt8 :=
  writeOctet this.type ++ (writeString this.host ++ (writeUShort this.port ++ this.qos.serialize))

def deserialize : Reader Endpoint := do
  let type ← readOctet 0
  let host ← readString
  let port ← readUShort 0
  let qos ← QoSEndpoint.deserialize
  pure { type, host, port, qos }

theorem two_le_length (this : Endpoint) : 2 ≤ this.serialize.length := by
  simp [serialize, QoSEndpoint.serialize, writeUShort]
  omega

theorem reads (this : Endpoint) : Reads deserialize this.serialize this := by
  apply (reads_octet this.type 0).bind
  apply (reads_string this.host).bind
  apply (reads_uShort this.port 0).bind
  exact (QoSEndpoint.reads this.qos).bind_pure (Endpoint.mk this.type this.host this.port)

end Endpoint

namespace SAPInfo

def serialize (this : SAPInfo) : List UInt8 :=
  writeULong (UInt32.ofNat this.endpointList.length) ++ this.endpointList.flatMap Endpoint.serialize

def deserialize : Reader SAPInfo := do
  let size ← readULong 0
  let endpoints ← readTimes Endpoint.deserialize size.toNat
  pure (endpoints.foldl addEndpoint empty)

theorem reads {this : SAPInfo} (fits : this.serialize.length < 2 ^ 32) :
    Reads deserialize this.serialize this := by
  have elements := mul_length_le_length_flatMap this.endpointList Endpoint.two_le_length
  rw [serialize, List.length_append] at fits
  have bound : this.endpointList.length < UInt32.size := by
    change this.endpointList.length < 2 ^ 32
    omega
  have list := Reads.times fun (endpoint : Endpoint) (_ : endpoint ∈ this.endpointList) =>
    endpoint.reads
  rw [← UInt32.toNat_ofNat_of_lt' bound] at list
  have rebuilt := list.bind_pure fun endpoints => endpoints.foldl addEndpoint empty
  rw [foldl_addEndpoint_empty] at rebuilt
  exact (reads_uLong _ 0).bind rebuilt

end SAPInfo

/-! ## Services -/

namespace ServiceInstanceInfo

def Initialized (this : ServiceInstanceInfo) : Prop :=
  this.sid.Initialized ∧ this.iid.Initialized

instance (this : ServiceInstanceInfo) : Decidable this.Initialized :=
  inferInstanceAs (Decidable (_ ∧ _))

def octets (this : ServiceInstanceInfo) : List UInt8 :=
  this.sid.octets ++ (this.iid.octets ++ writeOptional SAPInfo.serialize this.sapInfo)

def serialize (this : ServiceInstanceInfo) : Result (List UInt8) := do
  let sid ← this.sid.serialize
  let iid ← this.iid.serialize
  pure (sid ++ (iid ++ writeOptional SAPInfo.serialize this.sapInfo))

theorem serialize_eq_ok (this : ServiceInstanceInfo) (bytes : List UInt8) :
    this.serialize = .ok bytes ↔ this.Initialized ∧ bytes = this.octets := by
  simp only [serialize, Result.bind_eq_ok, UUID.serialize_eq_ok]
  constructor
  · rintro ⟨_, ⟨sid, rfl⟩, _, ⟨iid, rfl⟩, done⟩
    cases done
    exact ⟨⟨sid, iid⟩, rfl⟩
  · rintro ⟨⟨sid, iid⟩, rfl⟩
    exact ⟨_, ⟨sid, rfl⟩, _, ⟨iid, rfl⟩, rfl⟩

def deserialize : Reader ServiceInstanceInfo := do
  let sid ← UUID.deserialize
  let iid ← UUID.deserialize
  let sapInfo ← readOptional SAPInfo.deserialize
  pure { sid, iid, sapInfo }

theorem two_le_length (this : ServiceInstanceInfo) : 2 ≤ this.octets.length := by
  simp [octets, UUID.length_octets]
  omega

/-- An optional access point that fits is read back. -/
theorem reads_optionalSAP {sap : Option SAPInfo}
    (fits : (writeOptional SAPInfo.serialize sap).length < 2 ^ 32) :
    Reads (readOptional SAPInfo.deserialize) (writeOptional SAPInfo.serialize sap) sap := by
  apply reads_optional
  rintro info rfl
  exact SAPInfo.reads (Nat.lt_of_le_of_lt length_writeOptional_le fits)

theorem reads {this : ServiceInstanceInfo} (fits : this.octets.length < 2 ^ 32) :
    Reads deserialize this.octets this := by
  rw [octets, List.length_append, List.length_append] at fits
  apply (UUID.reads (show this.sid.octets.length < 2 ^ 32 by omega)).bind
  apply (UUID.reads (show this.iid.octets.length < 2 ^ 32 by omega)).bind
  have sap := reads_optionalSAP
    (show (writeOptional SAPInfo.serialize this.sapInfo).length < 2 ^ 32 by omega)
  exact sap.bind_pure (ServiceInstanceInfo.mk this.sid this.iid)

end ServiceInstanceInfo

namespace ServiceInfo

def Initialized (this : ServiceInfo) : Prop :=
  this.sid.Initialized ∧ ∀ info ∈ this.runningServices.entries.map Prod.snd, info.Initialized

instance (this : ServiceInfo) : Decidable this.Initialized :=
  inferInstanceAs (Decidable (_ ∧ _))

def octets (this : ServiceInfo) : List UInt8 :=
  this.sid.octets ++
    writeCounted ServiceInstanceInfo.octets (this.runningServices.entries.map Prod.snd)

def serialize (this : ServiceInfo) : Result (List UInt8) := do
  let sid ← this.sid.serialize
  let instances ← serializeCounted ServiceInstanceInfo.serialize
    (this.runningServices.entries.map Prod.snd)
  pure (sid ++ instances)

theorem serialize_eq_ok (this : ServiceInfo) (bytes : List UInt8) :
    this.serialize = .ok bytes ↔ this.Initialized ∧ bytes = this.octets := by
  simp only [serialize, Result.bind_eq_ok, UUID.serialize_eq_ok,
    serializeCounted_eq_ok ServiceInstanceInfo.serialize_eq_ok]
  constructor
  · rintro ⟨_, ⟨sid, rfl⟩, _, ⟨instances, rfl⟩, done⟩
    cases done
    exact ⟨⟨sid, instances⟩, rfl⟩
  · rintro ⟨⟨sid, instances⟩, rfl⟩
    exact ⟨_, ⟨sid, rfl⟩, _, ⟨instances, rfl⟩, rfl⟩

/-- The service rebuilt from its instances, each bound under its own identifier. -/
def ofInstances (sid : UUID) (instances : List ServiceInstanceInfo) : ServiceInfo where
  sid := sid
  runningServices := Table.empty.bindAll ServiceInstanceInfo.iid instances
  keyed := Table.keyed_bindAll _ _ _ (by simp [Table.empty])

def deserialize : Reader ServiceInfo := do
  let sid ← UUID.deserialize
  let instances ← readCounted ServiceInstanceInfo.deserialize
  pure (ofInstances sid instances)

theorem ofInstances_values (this : ServiceInfo) :
    ofInstances this.sid (this.runningServices.entries.map Prod.snd) = this := by
  cases this with
  | mk sid runningServices keyed =>
      have table := Table.bindAll_values ServiceInstanceInfo.iid runningServices keyed
      simp only [ofInstances, table]

theorem two_le_length (this : ServiceInfo) : 2 ≤ this.octets.length := by
  simp [octets, UUID.length_octets]
  omega

theorem reads {this : ServiceInfo} (fits : this.octets.length < 2 ^ 32) :
    Reads deserialize this.octets this := by
  rw [octets, List.length_append] at fits
  apply (UUID.reads (show this.sid.octets.length < 2 ^ 32 by omega)).bind
  have counted := reads_counted ServiceInstanceInfo.two_le_length
    (show (writeCounted ServiceInstanceInfo.octets
      (this.runningServices.entries.map Prod.snd)).length < 2 ^ 32 by omega) fun info member => by
    apply ServiceInstanceInfo.reads
    have part : info.octets.length ≤ _ := length_le_length_flatMap member
    rw [writeCounted, List.length_append] at fits
    omega
  have rebuilt := counted.bind_pure (ofInstances this.sid)
  rwa [ofInstances_values] at rebuilt

end ServiceInfo

/-! ## Peers -/

namespace PeerInfo

def Initialized (this : PeerInfo) : Prop :=
  this.pid.Initialized ∧ this.fid.Initialized ∧
    ∀ info ∈ this.services.entries.map Prod.snd, info.Initialized

instance (this : PeerInfo) : Decidable this.Initialized :=
  inferInstanceAs (Decidable (_ ∧ _ ∧ _))

def octets (this : PeerInfo) : List UInt8 :=
  writeULong this.type ++ (this.pid.octets ++ (this.fid.octets ++
    (writeOptional SAPInfo.serialize this.meshSAP ++
      (writeOptional SAPInfo.serialize this.discoverySAP ++
        (writeOptional SAPInfo.serialize this.ftSAP ++
          writeCounted ServiceInfo.octets (this.services.entries.map Prod.snd))))))

def serialize (this : PeerInfo) : Result (List UInt8) := do
  let pid ← this.pid.serialize
  let fid ← this.fid.serialize
  let services ← serializeCounted ServiceInfo.serialize (this.services.entries.map Prod.snd)
  pure (writeULong this.type ++ (pid ++ (fid ++ (writeOptional SAPInfo.serialize this.meshSAP ++
    (writeOptional SAPInfo.serialize this.discoverySAP ++
      (writeOptional SAPInfo.serialize this.ftSAP ++ services))))))

theorem serialize_eq_ok (this : PeerInfo) (bytes : List UInt8) :
    this.serialize = .ok bytes ↔ this.Initialized ∧ bytes = this.octets := by
  simp only [serialize, Result.bind_eq_ok, UUID.serialize_eq_ok,
    serializeCounted_eq_ok ServiceInfo.serialize_eq_ok]
  constructor
  · rintro ⟨_, ⟨pid, rfl⟩, _, ⟨fid, rfl⟩, _, ⟨services, rfl⟩, done⟩
    cases done
    exact ⟨⟨pid, fid, services⟩, rfl⟩
  · rintro ⟨⟨pid, fid, services⟩, rfl⟩
    exact ⟨_, ⟨pid, rfl⟩, _, ⟨fid, rfl⟩, _, ⟨services, rfl⟩, rfl⟩

/-- The peer rebuilt from its services, each bound under its own identifier. -/
def ofServices (type : UInt32) (pid fid : UUID) (meshSAP discoverySAP ftSAP : Option SAPInfo)
    (services : List ServiceInfo) : PeerInfo where
  type := type
  pid := pid
  fid := fid
  meshSAP := meshSAP
  discoverySAP := discoverySAP
  ftSAP := ftSAP
  services := Table.empty.bindAll ServiceInfo.sid services
  keyed := Table.keyed_bindAll _ _ _ (by simp [Table.empty])

/-- `m_type` has no initial value; the model starts it at zero. -/
def deserialize : Reader PeerInfo := do
  let type ← readULong 0
  let pid ← UUID.deserialize
  let fid ← UUID.deserialize
  let meshSAP ← readOptional SAPInfo.deserialize
  let discoverySAP ← readOptional SAPInfo.deserialize
  let ftSAP ← readOptional SAPInfo.deserialize
  let services ← readCounted ServiceInfo.deserialize
  pure (ofServices type pid fid meshSAP discoverySAP ftSAP services)

theorem ofServices_values (this : PeerInfo) :
    ofServices this.type this.pid this.fid this.meshSAP this.discoverySAP this.ftSAP
      (this.services.entries.map Prod.snd) = this := by
  cases this with
  | mk type pid fid meshSAP discoverySAP ftSAP services keyed =>
      have table := Table.bindAll_values ServiceInfo.sid services keyed
      simp only [ofServices, table]

theorem reads {this : PeerInfo} (fits : this.octets.length < 2 ^ 32) :
    Reads deserialize this.octets this := by
  simp only [octets, List.length_append] at fits
  apply (reads_uLong this.type 0).bind
  apply (UUID.reads (show this.pid.octets.length < 2 ^ 32 by omega)).bind
  apply (UUID.reads (show this.fid.octets.length < 2 ^ 32 by omega)).bind
  apply (ServiceInstanceInfo.reads_optionalSAP
    (show (writeOptional SAPInfo.serialize this.meshSAP).length < 2 ^ 32 by omega)).bind
  apply (ServiceInstanceInfo.reads_optionalSAP
    (show (writeOptional SAPInfo.serialize this.discoverySAP).length < 2 ^ 32 by omega)).bind
  apply (ServiceInstanceInfo.reads_optionalSAP
    (show (writeOptional SAPInfo.serialize this.ftSAP).length < 2 ^ 32 by omega)).bind
  have counted := reads_counted ServiceInfo.two_le_length
    (show (writeCounted ServiceInfo.octets
      (this.services.entries.map Prod.snd)).length < 2 ^ 32 by omega) fun info member => by
    apply ServiceInfo.reads
    have part : info.octets.length ≤ _ := length_le_length_flatMap member
    simp only [writeCounted, List.length_append] at fits
    omega
  have rebuilt := counted.bind_pure
    (ofServices this.type this.pid this.fid this.meshSAP this.discoverySAP this.ftSAP)
  rwa [ofServices_values] at rebuilt

end PeerInfo

namespace P3PeerInfo

def octets (this : P3PeerInfo) : List UInt8 :=
  this.toPeerInfo.octets ++ writeOptional Endpoint.serialize this.cellEndpoint

def serialize (this : P3PeerInfo) : Result (List UInt8) := do
  let info ← this.toPeerInfo.serialize
  pure (info ++ writeOptional Endpoint.serialize this.cellEndpoint)

theorem serialize_eq_ok (this : P3PeerInfo) (bytes : List UInt8) :
    this.serialize = .ok bytes ↔ this.Initialized ∧ bytes = this.octets := by
  simp only [serialize, Result.bind_eq_ok, PeerInfo.serialize_eq_ok]
  constructor
  · rintro ⟨_, ⟨ready, rfl⟩, done⟩
    cases done
    exact ⟨ready, rfl⟩
  · rintro ⟨ready, rfl⟩
    exact ⟨_, ⟨ready, rfl⟩, rfl⟩

def deserialize : Reader P3PeerInfo := do
  let info ← PeerInfo.deserialize
  let cellEndpoint ← readOptional Endpoint.deserialize
  pure { info with cellEndpoint }

theorem two_le_length (this : P3PeerInfo) : 2 ≤ this.octets.length := by
  simp [octets, PeerInfo.octets, UUID.length_octets, writeULong]
  omega

/-- A peer record whose bytes fit a packet is read back whole: identifiers, type,
access points, services and instances. -/
theorem reads {this : P3PeerInfo} (fits : this.octets.length < 2 ^ 32) :
    Reads deserialize this.octets this := by
  rw [octets, List.length_append] at fits
  apply (PeerInfo.reads (show this.toPeerInfo.octets.length < 2 ^ 32 by omega)).bind
  have endpoint := reads_optional fun (e : Endpoint) (_ : this.cellEndpoint = some e) => e.reads
  exact endpoint.bind_pure (P3PeerInfo.mk this.toPeerInfo)

end P3PeerInfo

end Peer

end Stheno
