import Stheno.Peer.Codec
import Stheno.Superpeer.UpdateCases

/-!
# Updates on the wire

An update is written as its type, its operation and the body of its class.  The factory
reads the type and the operation, which name the class that reads the body.  It answers with
a null pointer where they name none, and no handler looks at what it is given.
-/

namespace Stheno.Superpeer

open Wire Peer

def ADD_SERVICE_UPDATEINFO : UInt32 := 0x21389021
def REMOVE_SERVICE_UPDATEINFO : UInt32 := 0x34899812
def UPDATE_IID_SERVICE_UPDATEINFO : UInt32 := 0x34899810

/-! ## Bodies -/

namespace MeshUpdateInfo

/-- The body of an update whose identifiers have key data. -/
def octets (this : MeshUpdateInfo) : List UInt8 :=
  this.pid.octets ++ (this.fid.octets ++
    match this.update with
    | .addService info => info.octets
    | .removeService sid iid => sid.octets ++ iid.octets
    | .updateIID sid oldIid newIid => sid.octets ++ (oldIid.octets ++ newIid.octets))

/-- What each of the three classes writes behind the identifiers of the peer. -/
def serializeUpdate : ServiceUpdate → Result (List UInt8)
  | .addService info => info.serialize
  | .removeService sid iid => do
      let first ← sid.serialize
      let second ← iid.serialize
      pure (first ++ second)
  | .updateIID sid oldIid newIid => do
      let first ← sid.serialize
      let second ← oldIid.serialize
      let third ← newIid.serialize
      pure (first ++ (second ++ third))

/-- `serializeSpecializationBody` of the class that the update belongs to. -/
def serializeSpecializationBody (this : MeshUpdateInfo) : Result (List UInt8) := do
  let pid ← this.pid.serialize
  let fid ← this.fid.serialize
  let update ← serializeUpdate this.update
  pure (pid ++ (fid ++ update))

/-- The identifiers of the update have key data. -/
def Initialized (this : MeshUpdateInfo) : Prop :=
  this.pid.Initialized ∧ this.fid.Initialized ∧
    match this.update with
    | .addService info => info.Initialized
    | .removeService sid iid => sid.Initialized ∧ iid.Initialized
    | .updateIID sid oldIid newIid =>
        sid.Initialized ∧ oldIid.Initialized ∧ newIid.Initialized

theorem serializeSpecializationBody_eq_ok (this : MeshUpdateInfo) (bytes : List UInt8) :
    this.serializeSpecializationBody = .ok bytes ↔ this.Initialized ∧ bytes = this.octets := by
  rcases this with ⟨pid, fid, update⟩
  cases update with
  | addService info =>
      simp only [serializeSpecializationBody, serializeUpdate, Result.bind_eq_ok,
        UUID.serialize_eq_ok, ServiceInstanceInfo.serialize_eq_ok]
      constructor
      · rintro ⟨_, ⟨pid, rfl⟩, _, ⟨fid, rfl⟩, _, ⟨info, rfl⟩, done⟩
        cases done
        exact ⟨⟨pid, fid, info⟩, rfl⟩
      · rintro ⟨⟨pid, fid, info⟩, rfl⟩
        exact ⟨_, ⟨pid, rfl⟩, _, ⟨fid, rfl⟩, _, ⟨info, rfl⟩, rfl⟩
  | removeService sid iid =>
      simp only [serializeSpecializationBody, serializeUpdate, Result.bind_eq_ok,
        UUID.serialize_eq_ok]
      constructor
      · rintro ⟨_, ⟨pid, rfl⟩, _, ⟨fid, rfl⟩, _, ⟨_, ⟨sid, rfl⟩, _, ⟨iid, rfl⟩, both⟩, done⟩
        cases both
        cases done
        exact ⟨⟨pid, fid, sid, iid⟩, rfl⟩
      · rintro ⟨⟨pid, fid, sid, iid⟩, rfl⟩
        exact ⟨_, ⟨pid, rfl⟩, _, ⟨fid, rfl⟩, _, ⟨_, ⟨sid, rfl⟩, _, ⟨iid, rfl⟩, rfl⟩, rfl⟩
  | updateIID sid oldIid newIid =>
      simp only [serializeSpecializationBody, serializeUpdate, Result.bind_eq_ok,
        UUID.serialize_eq_ok]
      constructor
      · rintro ⟨_, ⟨pid, rfl⟩, _, ⟨fid, rfl⟩, _,
          ⟨_, ⟨sid, rfl⟩, _, ⟨old, rfl⟩, _, ⟨new, rfl⟩, all⟩, done⟩
        cases all
        cases done
        exact ⟨⟨pid, fid, sid, old, new⟩, rfl⟩
      · rintro ⟨⟨pid, fid, sid, old, new⟩, rfl⟩
        exact ⟨_, ⟨pid, rfl⟩, _, ⟨fid, rfl⟩, _,
          ⟨_, ⟨sid, rfl⟩, _, ⟨old, rfl⟩, _, ⟨new, rfl⟩, rfl⟩, rfl⟩

/-- `AddServiceUpdateInfo::deserializeSpecializationBody`. -/
def deserializeAdd : Reader MeshUpdateInfo := do
  let pid ← UUID.deserialize
  let fid ← UUID.deserialize
  let info ← ServiceInstanceInfo.deserialize
  pure { pid, fid, update := .addService info }

/-- `RemoveServiceUpdateInfo::deserializeSpecializationBody`. -/
def deserializeRemove : Reader MeshUpdateInfo := do
  let pid ← UUID.deserialize
  let fid ← UUID.deserialize
  let sid ← UUID.deserialize
  let iid ← UUID.deserialize
  pure { pid, fid, update := .removeService sid iid }

/-- `ChangegIIDServiceUpdateInfo::deserializeSpecializationBody`. -/
def deserializeChangegIID : Reader MeshUpdateInfo := do
  let pid ← UUID.deserialize
  let fid ← UUID.deserialize
  let sid ← UUID.deserialize
  let oldIid ← UUID.deserialize
  let newIid ← UUID.deserialize
  pure { pid, fid, update := .updateIID sid oldIid newIid }

end MeshUpdateInfo

namespace SensorInfoUpdate

/-- The body of an update whose identifier has key data. -/
def octets (this : SensorInfoUpdate) : List UInt8 :=
  this.uuid.octets ++ this.endpoint.serialize

def serializeSpecializationBody (this : SensorInfoUpdate) : Result (List UInt8) := do
  let uuid ← this.uuid.serialize
  pure (uuid ++ this.endpoint.serialize)

theorem serializeSpecializationBody_eq_ok (this : SensorInfoUpdate) (bytes : List UInt8) :
    this.serializeSpecializationBody = .ok bytes ↔
      this.uuid.Initialized ∧ bytes = this.octets := by
  simp only [serializeSpecializationBody, Result.bind_eq_ok, UUID.serialize_eq_ok]
  constructor
  · rintro ⟨_, ⟨uuid, rfl⟩, done⟩
    cases done
    exact ⟨uuid, rfl⟩
  · rintro ⟨uuid, rfl⟩
    exact ⟨_, ⟨uuid, rfl⟩, rfl⟩

def deserializeSpecializationBody (operation : UInt32) : Reader SensorInfoUpdate := do
  let uuid ← UUID.deserialize
  let endpoint ← Endpoint.deserialize
  pure { operation, uuid, endpoint }

end SensorInfoUpdate

/-! ## The factory -/

namespace InfoUpdate

/-- The object of an update. -/
def object : InfoUpdate → InfoUpdateObject
  | .mesh info => .service info
  | .sensor info => .sensor info

def serializeSpecializationBody : InfoUpdate → Result (List UInt8)
  | .mesh info => info.serializeSpecializationBody
  | .sensor info => info.serializeSpecializationBody

def serialize (this : InfoUpdate) : Result (List UInt8) := do
  let body ← this.serializeSpecializationBody
  pure (writeULong this.object.getType ++ (writeULong this.object.getOperation ++ body))

/-- The body of an update whose identifiers have key data. -/
def bodyOctets : InfoUpdate → List UInt8
  | .mesh info => info.octets
  | .sensor info => info.octets

/-- The bytes of an update whose identifiers have key data. -/
def octets (this : InfoUpdate) : List UInt8 :=
  writeULong this.object.getType ++ (writeULong this.object.getOperation ++ this.bodyOctets)

/-- The bytes that are written, if the update is written. -/
theorem octets_of_serialize {this : InfoUpdate} {bytes : List UInt8}
    (written : this.serialize = .ok bytes) : bytes = this.octets := by
  rcases Result.bind_eq_ok.mp written with ⟨body, serialized, done⟩
  cases done
  cases this with
  | mesh info => rw [((info.serializeSpecializationBody_eq_ok body).mp serialized).2, octets, bodyOctets]
  | sensor info => rw [((info.serializeSpecializationBody_eq_ok body).mp serialized).2, octets, bodyOctets]

end InfoUpdate

namespace InfoUpdateFactory

/-- The two switches of `createInfoUpdate`. -/
def createClass (type operation : UInt32) : Reader (Option InfoUpdate) :=
  if type = MESH_UPDATEINFO_TYPE then
    if operation = ADD_SERVICE_UPDATEINFO then do
      let info ← MeshUpdateInfo.deserializeAdd
      pure (some (.mesh info))
    else if operation = REMOVE_SERVICE_UPDATEINFO then do
      let info ← MeshUpdateInfo.deserializeRemove
      pure (some (.mesh info))
    else if operation = UPDATE_IID_SERVICE_UPDATEINFO then do
      let info ← MeshUpdateInfo.deserializeChangegIID
      pure (some (.mesh info))
    else
      pure none
  else if type = SENSOR_UPDATE_TYPE then do
    let info ← SensorInfoUpdate.deserializeSpecializationBody operation
    pure (some (.sensor info))
  else
    pure none

def readInfoUpdate : Reader (Option InfoUpdate) := do
  let type ← readULong 0
  let operation ← readULong 0
  createClass type operation

/-- The answer `none` is the null pointer. -/
def createInfoUpdate (octets : List UInt8) : Result (Option InfoUpdate) :=
  (readInfoUpdate ⟨octets, true⟩).map Prod.fst

end InfoUpdateFactory

/-! ## The round trip -/

namespace MeshUpdateInfo

section Bodies

variable {pid : UUID} {fid : CellID}

theorem reads_add {info : ServiceInstanceInfo}
    (fits : (pid.octets ++ (fid.octets ++ info.octets)).length < 2 ^ 32) :
    Reads deserializeAdd (pid.octets ++ (fid.octets ++ info.octets))
      ⟨pid, fid, .addService info⟩ := by
  rw [List.length_append, List.length_append] at fits
  apply (UUID.reads (show pid.octets.length < 2 ^ 32 by omega)).bind
  apply (UUID.reads (show fid.octets.length < 2 ^ 32 by omega)).bind
  have last := ServiceInstanceInfo.reads (show info.octets.length < 2 ^ 32 by omega)
  exact last.bind_pure fun info => MeshUpdateInfo.mk pid fid (.addService info)

theorem reads_remove {sid iid : UUID}
    (fits : (pid.octets ++ (fid.octets ++ (sid.octets ++ iid.octets))).length <
      2 ^ 32) :
    Reads deserializeRemove (pid.octets ++ (fid.octets ++ (sid.octets ++ iid.octets)))
      ⟨pid, fid, .removeService sid iid⟩ := by
  rw [List.length_append, List.length_append, List.length_append] at fits
  apply (UUID.reads (show pid.octets.length < 2 ^ 32 by omega)).bind
  apply (UUID.reads (show fid.octets.length < 2 ^ 32 by omega)).bind
  apply (UUID.reads (show sid.octets.length < 2 ^ 32 by omega)).bind
  have last := UUID.reads (show iid.octets.length < 2 ^ 32 by omega)
  exact last.bind_pure fun iid => MeshUpdateInfo.mk pid fid (.removeService sid iid)

theorem reads_changegIID {sid oldIid newIid : UUID}
    (fits : (pid.octets ++ (fid.octets ++
      (sid.octets ++ (oldIid.octets ++ newIid.octets)))).length < 2 ^ 32) :
    Reads deserializeChangegIID
      (pid.octets ++ (fid.octets ++
        (sid.octets ++ (oldIid.octets ++ newIid.octets))))
      ⟨pid, fid, .updateIID sid oldIid newIid⟩ := by
  rw [List.length_append, List.length_append, List.length_append, List.length_append] at fits
  apply (UUID.reads (show pid.octets.length < 2 ^ 32 by omega)).bind
  apply (UUID.reads (show fid.octets.length < 2 ^ 32 by omega)).bind
  apply (UUID.reads (show sid.octets.length < 2 ^ 32 by omega)).bind
  apply (UUID.reads (show oldIid.octets.length < 2 ^ 32 by omega)).bind
  have last := UUID.reads (show newIid.octets.length < 2 ^ 32 by omega)
  exact last.bind_pure fun newIid => MeshUpdateInfo.mk pid fid (.updateIID sid oldIid newIid)

end Bodies

/-- The operation of an update names the class that wrote its body. -/
theorem reads {this : MeshUpdateInfo} (fits : this.octets.length < 2 ^ 32) :
    Reads (InfoUpdateFactory.createClass MESH_UPDATEINFO_TYPE this.update.operation)
      this.octets (some (.mesh this)) := by
  rcases this with ⟨pid, fid, update⟩
  cases update with
  | addService info => exact (reads_add fits).bind_pure fun info => some (InfoUpdate.mesh info)
  | removeService sid iid => exact (reads_remove fits).bind_pure fun info => some (InfoUpdate.mesh info)
  | updateIID sid oldIid newIid =>
      exact (reads_changegIID fits).bind_pure fun info => some (InfoUpdate.mesh info)

end MeshUpdateInfo

theorem SensorInfoUpdate.reads {this : SensorInfoUpdate}
    (fits : this.octets.length < 2 ^ 32) :
    Reads (InfoUpdateFactory.createClass SENSOR_UPDATE_TYPE this.operation)
      this.octets (some (.sensor this)) := by
  rw [octets, List.length_append] at fits
  have body : Reads (deserializeSpecializationBody this.operation) this.octets this := by
    apply (UUID.reads (show this.uuid.octets.length < 2 ^ 32 by omega)).bind
    exact this.endpoint.reads.bind_pure (SensorInfoUpdate.mk this.operation this.uuid)
  exact body.bind_pure fun info => some (InfoUpdate.sensor info)

theorem InfoUpdate.reads {this : InfoUpdate} (fits : this.octets.length < 2 ^ 32) :
    Reads InfoUpdateFactory.readInfoUpdate this.octets (some this) := by
  rw [octets, List.length_append, List.length_append] at fits
  apply (reads_uLong _ 0).bind
  apply (reads_uLong _ 0).bind
  have short : this.bodyOctets.length < 2 ^ 32 := by omega
  cases this with
  | mesh info => exact MeshUpdateInfo.reads short
  | sensor info => exact SensorInfoUpdate.reads short

namespace InfoUpdateFactory

/-- An update that was written is read back, whatever its class. -/
theorem createInfoUpdate_serialize {update : InfoUpdate} {bytes : List UInt8}
    (written : update.serialize = .ok bytes) (fits : bytes.length < 2 ^ 32) :
    createInfoUpdate bytes = .ok (some update) := by
  rw [InfoUpdate.octets_of_serialize written] at fits ⊢
  rw [createInfoUpdate, (InfoUpdate.reads fits).run]
  rfl

/-- The types and operations that the factory has a case for. -/
def Known (type operation : UInt32) : Prop :=
  type = MESH_UPDATEINFO_TYPE ∧ isServiceOperation operation = true ∨ type = SENSOR_UPDATE_TYPE

/-- Where the tags are not known, nothing more is read and the pointer is null. -/
theorem createClass_of_unknown {type operation : UInt32} (unknown : ¬Known type operation) :
    createClass type operation = pure none := by
  rw [Known, not_or, not_and] at unknown
  unfold createClass
  split
  · rename_i mesh
    have noCase := unknown.1 mesh
    simp only [isServiceOperation, Bool.or_eq_true, decide_eq_true_eq, not_or] at noCase
    have add : operation ≠ ADD_SERVICE_UPDATEINFO := noCase.1.1
    have remove : operation ≠ REMOVE_SERVICE_UPDATEINFO := noCase.1.2
    have change : operation ≠ UPDATE_IID_SERVICE_UPDATEINFO := noCase.2
    rw [if_neg add, if_neg remove, if_neg change]
  · rw [if_neg unknown.2]

theorem createInfoUpdate_of_unknown {type operation : UInt32} (rest : List UInt8)
    (unknown : ¬Known type operation) :
    createInfoUpdate (writeULong type ++ (writeULong operation ++ rest)) = .ok none := by
  have read : Reads readInfoUpdate (writeULong type ++ (writeULong operation ++ [])) none := by
    apply (reads_uLong type 0).bind
    apply (reads_uLong operation 0).bind
    rw [createClass_of_unknown unknown]
    exact .pure none
  have whole := read rest true
  rw [List.append_nil, List.append_assoc] at whole
  rw [createInfoUpdate, whole]
  rfl

end InfoUpdateFactory

/-! ## The handlers -/

/-- A peer of a cell, with its sensors and its channels. -/
structure UpdatePeer where
  data : CellData
  /-- `IsCoordinator`. -/
  isCoordinator : Bool
  parentChannel : Option ParentChannel
  /-- The members of `m_cellFollowerGroup`. -/
  followers : List UUID

/-- What a handler leaves behind. -/
structure UpdateReply where
  data : CellData
  /-- The status of the reply. -/
  status : Bool
  /-- The packets for the parent and the followers, with what they carry. -/
  relayed : List (UUID × List UInt8)

/-- `serialize` through a pointer. -/
def serializePointer (updateInfo : Option InfoUpdate) : Result (List UInt8) :=
  match updateInfo with
  | some info => info.serialize
  | none => .error .nullDereference

/-- `processUpdateInfo` through a pointer. -/
def CellData.processPointer (this : CellData) (updateInfo : Option InfoUpdate) :
    Result (CellData × Int) :=
  match updateInfo with
  | some info => this.processUpdate info.object
  | none => .error .nullDereference

namespace UpdatePeer

/-- The peers to which a coordinator passes an update from `srcPID` on. -/
def receivers (this : UpdatePeer) (srcPID : UUID) : List UUID :=
  if this.isCoordinator then
    this.parentChannel.toList.map ParentChannel.uuid ++ Cell.groupMembers this.followers srcPID
  else
    []

/-- `Cell::handleUpdateInfo` of the octets of a packet from `srcPID`. -/
def handleUpdateInfo (this : UpdatePeer) (srcPID : UUID) (octets : List UInt8) :
    Result UpdateReply := do
  let updateInfo ← InfoUpdateFactory.createInfoUpdate octets
  let (data, answer) ← this.data.processPointer updateInfo
  let relayed ← (this.receivers srcPID).mapM fun dst => do
    let octets ← serializePointer updateInfo
    pure (dst, octets)
  pure { data, status := answer = 0, relayed }

/-- `Cell::handleCoordinatorUpdateInfo`, which passes nothing on. -/
def handleCoordinatorUpdateInfo (this : UpdatePeer) (octets : List UInt8) :
    Result UpdateReply := do
  let updateInfo ← InfoUpdateFactory.createInfoUpdate octets
  let (data, answer) ← this.data.processPointer updateInfo
  pure { data, status := answer = 0, relayed := [] }

end UpdatePeer

/-! ## No update is refused -/

/-- Where an update is processed, the answer is 0. -/
theorem CellData.answer_of_processPointer {this after : CellData} {updateInfo : Option InfoUpdate}
    {answer : Int} (done : this.processPointer updateInfo = .ok (after, answer)) : answer = 0 := by
  cases updateInfo with
  | none => cases done
  | some info =>
      have processed : this.processUpdate info.object =
          (this.processUpdateInfo info).map fun after => (after, 0) := by
        cases info with
        | mesh info => exact this.processUpdate_service info
        | sensor info => exact this.processUpdate_sensor info
      change this.processUpdate info.object = _ at done
      rw [processed] at done
      rcases Result.map_eq_ok.mp done with ⟨changed, -, equal⟩
      exact (Prod.mk.inj equal).2.symm

namespace UpdatePeer

variable {this : UpdatePeer} {srcPID : UUID} {octets : List UInt8} {reply : UpdateReply}

theorem status_of_handleUpdateInfo (done : this.handleUpdateInfo srcPID octets = .ok reply) :
    reply.status = true := by
  rcases Result.bind_eq_ok.mp done with ⟨updateInfo, -, done⟩
  rcases Result.bind_eq_ok.mp done with ⟨⟨data, answer⟩, processed, done⟩
  rcases Result.bind_eq_ok.mp done with ⟨relayed, -, made⟩
  cases made
  exact decide_eq_true (CellData.answer_of_processPointer processed)

theorem status_of_handleCoordinatorUpdateInfo
    (done : this.handleCoordinatorUpdateInfo octets = .ok reply) : reply.status = true := by
  rcases Result.bind_eq_ok.mp done with ⟨updateInfo, -, done⟩
  rcases Result.bind_eq_ok.mp done with ⟨⟨data, answer⟩, processed, made⟩
  cases made
  exact decide_eq_true (CellData.answer_of_processPointer processed)

/-- A handler that is given octets with unknown tags follows a null pointer. -/
theorem handle_of_unknown {type operation : UInt32} (rest : List UInt8)
    (unknown : ¬InfoUpdateFactory.Known type operation) :
    this.handleUpdateInfo srcPID (writeULong type ++ (writeULong operation ++ rest)) =
        .error .nullDereference ∧
      this.handleCoordinatorUpdateInfo (writeULong type ++ (writeULong operation ++ rest)) =
        .error .nullDereference := by
  have created := InfoUpdateFactory.createInfoUpdate_of_unknown rest unknown
  constructor
  · rw [handleUpdateInfo, created]
    rfl
  · rw [handleCoordinatorUpdateInfo, created]
    rfl

/-- What is passed on is what came, where it was written by an update. -/
theorem relayed_of_handleUpdateInfo {update : InfoUpdate} (written : update.serialize = .ok octets)
    (fits : octets.length < 2 ^ 32) (done : this.handleUpdateInfo srcPID octets = .ok reply) :
    reply.relayed = (this.receivers srcPID).map fun dst => (dst, octets) := by
  rw [handleUpdateInfo, InfoUpdateFactory.createInfoUpdate_serialize written fits] at done
  rcases Result.bind_eq_ok.mp done with ⟨updateInfo, here, done⟩
  cases here
  rcases Result.bind_eq_ok.mp done with ⟨⟨data, answer⟩, -, done⟩
  rcases Result.bind_eq_ok.mp done with ⟨relayed, passed, made⟩
  cases made
  simp only [serializePointer, written] at passed
  have plain : (this.receivers srcPID).mapM (fun dst => do
      let octets ← (Except.ok octets : Result (List UInt8))
      pure (dst, octets)) =
      (pure ((this.receivers srcPID).map fun dst => (dst, octets)) :
        Result (List (UUID × List UInt8))) :=
    List.mapM_pure
  exact Except.ok.inj (passed.symm.trans plain)

end UpdatePeer

/-! ## Which octets are handled right -/

/-- The octets of an UPDATEINFO packet, which carries their number in 32 bits. -/
structure UpdateState where
  octets : List UInt8
  counted : octets.length < 2 ^ 32

namespace UpdateState

/-- Some update wrote the octets. -/
def Written (this : UpdateState) : Prop :=
  ∃ update : InfoUpdate, update.serialize = .ok this.octets

/-- The reply is a failure, and the tree is as it was. -/
def Refused (peer : UpdatePeer) (handled : Result UpdateReply) : Prop :=
  ∃ reply, handled = .ok reply ∧ reply.status = false ∧
    reply.data.cellTree = peer.data.cellTree

/-- What an update wrote is read back, and everything else is refused. -/
structure HandledRight (this : UpdateState) (peer : UpdatePeer) (srcPID : UUID) : Prop where
  decoded : ∀ update : InfoUpdate, update.serialize = .ok this.octets →
    InfoUpdateFactory.createInfoUpdate this.octets = .ok (some update)
  refused : ¬this.Written →
    Refused peer (peer.handleUpdateInfo srcPID this.octets) ∧
      Refused peer (peer.handleCoordinatorUpdateInfo this.octets)

/-- The octets that are handled right are the ones that an update wrote: nothing is refused. -/
theorem handled_iff (this : UpdateState) (peer : UpdatePeer) (srcPID : UUID) :
    this.HandledRight peer srcPID ↔ this.Written := by
  constructor
  · intro handled
    by_contra other
    rcases (handled.refused other).1 with ⟨reply, done, failed, -⟩
    rw [UpdatePeer.status_of_handleUpdateInfo done] at failed
    cases failed
  · intro written
    constructor
    · intro update wrote
      exact InfoUpdateFactory.createInfoUpdate_serialize wrote this.counted
    · intro other
      exact absurd written other

/-- Two tags that name no class. -/
def zeroTags : UpdateState where
  octets := [0, 0, 0, 0, 0, 0, 0, 0]
  counted := by decide

/-- The coordinator of a root cell without followers. -/
def alone : UpdatePeer where
  data :=
    { cellTree := CellTree.new ⟨fun _ => none, fun _ => none, fun _ => none, fun _ => none⟩ ⟨[0]⟩
      sensors := fun _ => [] }
  isCoordinator := true
  parentChannel := none
  followers := []

/-- The factory answers with a null pointer, which `processUpdateInfo` follows. -/
theorem handled_fails_on_zeroTags :
    alone.handleUpdateInfo ⟨[9]⟩ zeroTags.octets = .error .nullDereference ∧
      ¬zeroTags.HandledRight alone ⟨[9]⟩ := by
  constructor
  · rfl
  · intro handled
    have created : InfoUpdateFactory.createInfoUpdate zeroTags.octets = .ok none := rfl
    have other : ¬zeroTags.Written := by
      rintro ⟨update, wrote⟩
      have decoded := handled.decoded update wrote
      rw [created] at decoded
      cases decoded
    rcases (handled.refused other).1 with ⟨reply, done, -⟩
    cases done

end UpdateState

end Stheno.Superpeer
