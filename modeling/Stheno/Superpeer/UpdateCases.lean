import Stheno.Superpeer.UpdateInfo

/-!
# Which updates a cell refuses

`processUpdateInfo` switches over the type and the operation that an update carries and
casts the object to the class that they name.  It answers -1 for a type that it does not
know.  An update of services that cannot be made should be refused in the same way, but
goes on to the case of the sensors, which follows a null pointer, and a renaming that the
service map refuses is answered like one that it makes.
-/

namespace Stheno.Peer.ServiceMap

/-- The updates that the methods of the map answer with true. -/
def Accepts (this : ServiceMap) : ServiceUpdate → Prop
  | .addService info => this.isServiceInstanceRunning info.sid info.iid = false
  | .removeService sid iid => this.isServiceInstanceRunning sid iid = true
  | .updateIID sid oldIid newIid =>
      this.isServiceInstanceRunning sid oldIid = true ∧
        (newIid = oldIid ∨ this.isServiceInstanceRunning sid newIid = false)

/-- The answer of the method that an update calls. -/
def answer (this : ServiceMap) : ServiceUpdate → Bool
  | .addService info => (this.addServiceInstance info.sid info.iid info.sapInfo).isSome
  | .removeService sid iid => (this.removeService sid iid).isSome
  | .updateIID sid oldIid newIid => (this.changeServiceIID sid oldIid newIid).2

/-- A renaming needs its instance and a free new identifier. -/
theorem changeServiceIID_answer_iff {this : ServiceMap} {sid oldIid newIid : UUID} :
    (this.changeServiceIID sid oldIid newIid).2 = true ↔
      this.Accepts (.updateIID sid oldIid newIid) := by
  simp only [changeServiceIID, Accepts, isServiceInstanceRunning]
  cases this.find sid with
  | none => simp
  | some service =>
      simp only [ServiceInfo.setIID, ServiceInfo.isServiceInstanceRunning]
      cases service.runningServices.find oldIid with
      | none => simp
      | some info =>
          simp only [Table.find_unbind, Option.isSome_some, true_and]
          by_cases same : newIid = oldIid
          · simp [same]
          · simp [same]

theorem accepts_iff {this : ServiceMap} {update : ServiceUpdate} :
    this.Accepts update ↔ this.answer update = true := by
  cases update with
  | addService info => simp only [Accepts, answer, isSome_addServiceInstance, Bool.not_eq_true']
  | removeService sid iid => simp only [Accepts, answer, isSome_removeService]
  | updateIID sid oldIid newIid => exact changeServiceIID_answer_iff.symm

/-- An accepted update leaves a map. -/
theorem Accepts.exists_update {this : ServiceMap} {update : ServiceUpdate}
    (accepted : this.Accepts update) : ∃ updated, this.update update = some updated := by
  apply Option.isSome_iff_exists.mp
  apply fits_iff.mp
  cases update with
  | addService info => exact accepted
  | removeService sid iid => exact accepted
  | updateIID sid oldIid newIid => trivial

end Stheno.Peer.ServiceMap

namespace Stheno.Superpeer

open Stheno.Tree Peer

/-- The cell without the service maps of its peers. -/
def CellInfo.withoutServices (this : CellInfo) : CellInfo :=
  { this with
    sps := this.sps.map fun peer => peer.withServices .empty
    sensors := this.sensors.map fun peer => peer.withServices .empty
    monitors := this.monitors.map fun peer => peer.withServices .empty }

/-- The objects below `InfoUpdate`, by class. -/
inductive InfoUpdateObject where
  /-- `AddServiceUpdateInfo`, `RemoveServiceUpdateInfo` or `ChangegIIDServiceUpdateInfo`. -/
  | service (info : MeshUpdateInfo)
  /-- `MeshUpdateInfo` itself, which may be made with any operation. -/
  | mesh (operation : UInt32)
  | sensor (info : SensorInfoUpdate)
  | discovery (operation : UInt32)

def MESH_UPDATEINFO_TYPE : UInt32 := 0x902322
def SENSOR_UPDATE_TYPE : UInt32 := 0x1324821
def DISCOVERY_UPDATEINFO_TYPE : UInt32 := 0x341232

namespace InfoUpdateObject

def getType : InfoUpdateObject → UInt32
  | service _ => MESH_UPDATEINFO_TYPE
  | mesh _ => MESH_UPDATEINFO_TYPE
  | sensor _ => SENSOR_UPDATE_TYPE
  | discovery _ => DISCOVERY_UPDATEINFO_TYPE

def getOperation : InfoUpdateObject → UInt32
  | service info => info.update.operation
  | mesh operation => operation
  | sensor info => info.operation
  | discovery operation => operation

/-- The cast to the class of a service operation. -/
def toService : InfoUpdateObject → Result MeshUpdateInfo
  | service info => .ok info
  | mesh _ | sensor _ | discovery _ => .error .badCast

/-- `static_cast<SensorInfoUpdate*>`. -/
def toSensor : InfoUpdateObject → Result SensorInfoUpdate
  | sensor info => .ok info
  | service _ | mesh _ | discovery _ => .error .badCast

end InfoUpdateObject

/-- The operations that the inner switch has a case for. -/
def isServiceOperation (operation : UInt32) : Bool :=
  operation = 0x21389021 || operation = 0x34899812 || operation = 0x34899810

theorem isServiceOperation_update (update : ServiceUpdate) :
    isServiceOperation update.operation = true := by
  cases update <;> rfl

namespace CellData

/-- The case of the sensors, which an update of services may run into. -/
def processSensors (this : CellData) (updateInfo : InfoUpdateObject) : Result (CellData × Int) :=
  match SensorKind.ofOperation updateInfo.getOperation with
  | none => .error .nullDereference
  | some kind => do
      let info ← updateInfo.toSensor
      if (this.sensors kind).any fun sensor => sensor.uuid.sameKey info.uuid then
        pure (this, 0)
      else
        pure
          ({ this with
              sensors := Function.update this.sensors kind
                (this.sensors kind ++ [{ type := kind, uuid := info.uuid, endpoint := info.endpoint }]) },
            0)

/-- `Cell::processUpdateInfo` with its answer, on an object of any class. -/
def processUpdate (this : CellData) (updateInfo : InfoUpdateObject) : Result (CellData × Int) :=
  if updateInfo.getType = MESH_UPDATEINFO_TYPE then
    if isServiceOperation updateInfo.getOperation then do
      let info ← updateInfo.toService
      match this.cellTree.updateServices info with
      | some tree => pure ({ this with cellTree := tree }, 0)
      -- `break` leaves the inner switch only
      | none => this.processSensors updateInfo
    else
      this.processSensors updateInfo
  else if updateInfo.getType = SENSOR_UPDATE_TYPE then
    this.processSensors updateInfo
  else
    pure (this, -1)

theorem processUpdate_service (this : CellData) (info : MeshUpdateInfo) :
    this.processUpdate (.service info) =
      (this.processUpdateInfo (.mesh info)).map fun after => (after, 0) := by
  have noSensor := SensorKind.ofOperation_update info.update
  simp only [processUpdate, InfoUpdateObject.getType, InfoUpdateObject.getOperation,
    isServiceOperation_update, InfoUpdateObject.toService, processUpdateInfo,
    CellTree.processUpdateInfo, if_true, processSensors, noSensor,
    bind, Except.bind]
  cases this.cellTree.updateServices info <;> rfl

theorem processUpdate_sensor (this : CellData) (info : SensorInfoUpdate) :
    this.processUpdate (.sensor info) =
      (this.processUpdateInfo (.sensor info)).map fun after => (after, 0) := by
  have other : SENSOR_UPDATE_TYPE ≠ MESH_UPDATEINFO_TYPE := by decide
  simp only [processUpdate, InfoUpdateObject.getType, InfoUpdateObject.getOperation,
    processSensors, InfoUpdateObject.toSensor, processUpdateInfo, if_neg other, if_true]
  cases SensorKind.ofOperation info.operation with
  | none => rfl
  | some kind =>
      simp only [bind, Except.bind]
      split <;> rfl

/-- A plain `MeshUpdateInfo` is never refused. -/
theorem exists_processUpdate_mesh (this : CellData) (operation : UInt32) :
    ∃ fault, this.processUpdate (.mesh operation) = .error fault := by
  have sensors : ∃ fault, this.processSensors (.mesh operation) = .error fault := by
    unfold processSensors
    cases SensorKind.ofOperation (InfoUpdateObject.mesh operation).getOperation with
    | none => exact ⟨_, rfl⟩
    | some kind => exact ⟨_, rfl⟩
  unfold processUpdate
  simp only [InfoUpdateObject.getType, if_true]
  split
  · exact ⟨_, rfl⟩
  · exact sensors

/-! ## Refused and made -/

/-- The service map of the peer becomes `map`; everything else in the two trees agrees. -/
structure ServicesChanged (before after : CellTree) (fid : CellID) (pid : UUID)
    (map : ServiceMap) : Prop where
  records : after.rootNode.map CellInfo.withoutServices = before.rootNode.map CellInfo.withoutServices
  services : ∀ cell peer, after.services cell peer =
    if cell = fid ∧ peer = pid then some map else before.services cell peer

/-- The map that a service update is to leave, if the peer is known and its map accepts. -/
def intended (this : CellData) : InfoUpdateObject → Option ServiceMap
  | .service info =>
      (this.cellTree.services info.fid info.pid).bind fun map =>
        if map.answer info.update then map.update info.update else none
  | .mesh _ | .sensor _ | .discovery _ => none

/-- An update that cannot be made is refused and leaves no trace; an update that is
answered 0 has changed the service map of its peer and nothing else. -/
def HandlesMesh (this : CellData) (updateInfo : InfoUpdateObject) : Prop :=
  ∃ after answer, this.processUpdate updateInfo = .ok (after, answer) ∧
    (this.intended updateInfo = none → answer = -1 ∧ after = this) ∧
    (answer = 0 → after.sensors = this.sensors ∧ ∃ info map, updateInfo = .service info ∧
      this.intended updateInfo = some map ∧
      ServicesChanged this.cellTree after.cellTree info.fid info.pid map)

/-- An unknown operation is refused and leaves no trace; a known one changes its list only. -/
def HandlesSensor (this : CellData) (updateInfo : InfoUpdateObject) : Prop :=
  ∃ after answer, this.processUpdate updateInfo = .ok (after, answer) ∧
    match SensorKind.ofOperation updateInfo.getOperation with
    | none => answer = -1 ∧ after = this
    | some kind => after.cellTree = this.cellTree ∧
        ∀ other, other ≠ kind → after.sensors other = this.sensors other

/-- What is asked of `processUpdateInfo`, by the type of the update. -/
def Handles (this : CellData) (updateInfo : InfoUpdateObject) : Prop :=
  (updateInfo.getType = MESH_UPDATEINFO_TYPE → this.HandlesMesh updateInfo) ∧
    (updateInfo.getType = SENSOR_UPDATE_TYPE → this.HandlesSensor updateInfo)

/-- The update can be made: its peer runs in its cell with a service map that accepts
it, or it is an update of a known kind of sensor. -/
def CanBeMade (this : CellData) : InfoUpdateObject → Prop
  | .service info =>
      ∃ map, this.cellTree.services info.fid info.pid = some map ∧ map.Accepts info.update
  | .mesh _ => False
  | .sensor info => (SensorKind.ofOperation info.operation).isSome = true
  | .discovery _ => True

theorem withoutServices_updatePeer (info : CellInfo) (pid : UUID) (map : ServiceMap) :
    (info.updatePeer pid fun peer => peer.withServices map).withoutServices =
      info.withoutServices := by
  have bare : ∀ peers : List P3PeerInfo,
      (peers.lookmap fun temp =>
          if temp.pid.sameKey pid then some (temp.withServices map) else none).map
        (fun peer => peer.withServices .empty) = peers.map fun peer => peer.withServices .empty := by
    intro peers
    apply List.lookmap_map_eq
    intro peer changed member
    split at member
    · obtain rfl := Option.some.inj member
      rfl
    · cases member
  unfold CellInfo.updatePeer
  split
  · rfl
  · rename_i list _
    cases list <;> simp only [CellInfo.withoutServices, CellInfo.setPeers, CellInfo.peers, bare]

theorem intended_service_iff {this : CellData} {info : MeshUpdateInfo} {updated : ServiceMap} :
    this.intended (.service info) = some updated ↔
      ∃ map, this.cellTree.services info.fid info.pid = some map ∧ map.Accepts info.update ∧
        map.update info.update = some updated := by
  rw [intended, Option.bind_eq_some_iff]
  constructor
  · rintro ⟨map, running, taken⟩
    split at taken
    · rename_i accepted
      exact ⟨map, running, ServiceMap.accepts_iff.mpr accepted, taken⟩
    · cases taken
  · rintro ⟨map, running, accepted, taken⟩
    exact ⟨map, running, (if_pos (ServiceMap.accepts_iff.mp accepted)).trans taken⟩

/-- An update of services meets what is asked exactly when it can be made. -/
theorem handlesMesh_service_iff {this : CellData} {info : MeshUpdateInfo} :
    this.HandlesMesh (.service info) ↔ this.CanBeMade (.service info) := by
  have outcome := this.cellTree.updated_processUpdateInfo info
  have whole := this.processUpdate_service info
  simp only [processUpdateInfo] at whole
  generalize this.cellTree.processUpdateInfo info = result at outcome whole
  constructor
  · rintro ⟨after, answer, processed, refused, -⟩
    cases intent : this.intended (.service info) with
    | some updated =>
        rcases intended_service_iff.mp intent with ⟨map, running, accepted, -⟩
        exact ⟨map, running, accepted⟩
    | none =>
        -- the code answers 0 or follows the null pointer
        rw [whole] at processed
        have answered := (refused intent).1
        cases outcome with
        | made known found running fits =>
            obtain ⟨-, zero⟩ := Prod.mk.inj (Except.ok.inj processed)
            cases zero.trans answered
        | fault unmade => cases processed
  · rintro ⟨map, running, accepted⟩
    rcases accepted.exists_update with ⟨updated, fits⟩
    have intent := intended_service_iff.mpr ⟨map, running, accepted, fits⟩
    cases outcome with
    | fault unmade =>
        rw [running, Option.bind_some, fits] at unmade
        cases unmade
    | made known found runningHere fitsHere =>
        obtain rfl := Option.some.inj (running.symm.trans runningHere)
        obtain rfl := Option.some.inj (fits.symm.trans fitsHere)
        refine ⟨_, _, whole, ?_, ?_⟩
        · intro refused
          cases intent.symm.trans refused
        · intro _
          refine ⟨rfl, info, updated, rfl, intent, ?_, ?_⟩
          · exact CellTree.map_relabel found (withoutServices_updatePeer _ _ _)
          · intro cell peer
            rw [CellTree.services_of_made known found]
            split
            · rename_i here
              rw [here.1, here.2, running]
              rfl
            · rfl

theorem handlesSensor_iff {this : CellData} {info : SensorInfoUpdate} :
    this.HandlesSensor (.sensor info) ↔ this.CanBeMade (.sensor info) := by
  rw [HandlesSensor, CanBeMade, processUpdate_sensor, processUpdateInfo]
  simp only [InfoUpdateObject.getOperation]
  cases SensorKind.ofOperation info.operation with
  | none =>
      apply iff_of_false
      · rintro ⟨after, answer, processed, -⟩
        cases processed
      · exact Bool.false_ne_true
  | some kind =>
      apply iff_of_true _ rfl
      by_cases present : ((this.sensors kind).any fun sensor => sensor.uuid.sameKey info.uuid) = true
      · simp only [if_pos present]
        exact ⟨this, 0, rfl, rfl, fun other _ => rfl⟩
      · simp only [if_neg present]
        refine ⟨_, 0, rfl, rfl, ?_⟩
        intro other different
        exact Function.update_of_ne different _ _

end CellData

/-- `processUpdateInfo` does what is asked of it exactly for the updates that can be made:
every update that should be refused ends in a fault or in the answer 0. -/
theorem CellData.handles_iff (this : CellData) (updateInfo : InfoUpdateObject) :
    this.Handles updateInfo ↔ this.CanBeMade updateInfo := by
  have types : SENSOR_UPDATE_TYPE ≠ MESH_UPDATEINFO_TYPE ∧
      DISCOVERY_UPDATEINFO_TYPE ≠ MESH_UPDATEINFO_TYPE ∧
      DISCOVERY_UPDATEINFO_TYPE ≠ SENSOR_UPDATE_TYPE := by decide
  unfold Handles
  cases updateInfo with
  | service info =>
      simp only [InfoUpdateObject.getType, Ne.symm types.1, forall_true_left, false_implies,
        and_true]
      exact handlesMesh_service_iff
  | mesh operation =>
      simp only [InfoUpdateObject.getType, Ne.symm types.1, forall_true_left, false_implies,
        and_true]
      apply iff_of_false
      · rintro ⟨after, answer, processed, -⟩
        rcases this.exists_processUpdate_mesh operation with ⟨fault, failed⟩
        cases processed.symm.trans failed
      · exact id
  | sensor info =>
      simp only [InfoUpdateObject.getType, types.1, forall_true_left, false_implies, true_and]
      exact handlesSensor_iff
  | discovery operation =>
      simp only [InfoUpdateObject.getType, types.2.1, types.2.2, false_implies, and_self]
      exact iff_of_true trivial trivial

/-- A removal for a cell that the tree does not know follows a null pointer. -/
theorem CellData.exists_refusal_faults :
    ∃ (this : CellData) (info : MeshUpdateInfo), this.intended (.service info) = none ∧
      this.processUpdate (.service info) = .error .nullDereference ∧
      ¬this.Handles (.service info) := by
  let this : CellData := 
    ⟨CellTree.new ⟨fun _ => none, fun _ => none, fun _ => none, fun _ => none⟩ ⟨[0]⟩, fun _ => []⟩
  let info : MeshUpdateInfo := ⟨⟨[7]⟩, ⟨[1]⟩, .removeService ⟨[5]⟩ ⟨[6]⟩⟩
  have faulty : this.processUpdate (.service info) = .error .nullDereference := rfl
  refine ⟨this, info, rfl, faulty, ?_⟩
  rintro ⟨mesh, -⟩
  rcases mesh rfl with ⟨after, answer, processed, -⟩
  cases faulty.symm.trans processed

end Stheno.Superpeer
