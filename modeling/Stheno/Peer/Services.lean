import Stheno.Peer.Info

/-!
# Updates of a service map

The methods of `ServiceInfo` and `PeerInfo` that add, remove and rename running
instances.  A method that answers false leaves the map as it is, with one exception:
`setIID` takes the instance from its old identifier before it learns that the new
one is taken.
-/

namespace Stheno.Peer

namespace ServiceInfo

/-- A service without instances. -/
def new (sid : UUID) : ServiceInfo where
  sid
  runningServices := .empty
  keyed := Table.keyed_empty

def isServiceInstanceRunning (this : ServiceInfo) (iid : UUID) : Bool :=
  (this.runningServices.find iid).isSome

/-- `none` is the answer false. -/
def addServiceInstance (this : ServiceInfo) (iid : UUID) (sapInfo : Option SAPInfo) :
    Option ServiceInfo :=
  if this.isServiceInstanceRunning iid then
    none
  else
    some
      { sid := this.sid
        runningServices := this.runningServices.bind iid { sid := this.sid, iid, sapInfo }
        keyed := Table.keyed_bind this.keyed rfl }

/-- `none` is the answer false. -/
def removeServiceInstance (this : ServiceInfo) (iid : UUID) : Option ServiceInfo :=
  if this.isServiceInstanceRunning iid then
    some
      { sid := this.sid
        runningServices := this.runningServices.unbind iid
        keyed := Table.keyed_unbind this.keyed iid }
  else
    none

/-- The instance is lost when its new identifier is taken. -/
def setIID (this : ServiceInfo) (oldIid newIid : UUID) : ServiceInfo × Bool :=
  match this.runningServices.find oldIid with
  | none => (this, false)
  | some info =>
      let unbound := this.runningServices.unbind oldIid
      ({ sid := this.sid
         runningServices := unbound.bind newIid { info with iid := newIid }
         keyed := Table.keyed_bind (Table.keyed_unbind this.keyed oldIid) rfl },
        (unbound.find newIid).isNone)

end ServiceInfo

/-- The service updates of a peer, with the identifiers that their packets carry. -/
inductive ServiceUpdate where
  | addService (info : ServiceInstanceInfo)
  | removeService (sid iid : UUID)
  | updateIID (sid oldIid newIid : UUID)
  deriving DecidableEq

/-- `ADD_SERVICE_UPDATEINFO`, `REMOVE_SERVICE_UPDATEINFO` and `UPDATE_IID_SERVICE_UPDATEINFO`. -/
def ServiceUpdate.operation : ServiceUpdate → UInt32
  | .addService _ => 0x21389021
  | .removeService _ _ => 0x34899812
  | .updateIID _ _ _ => 0x34899810

/-- The services of a peer, stored under their own identifiers. -/
structure ServiceMap where
  services : Table UUID ServiceInfo
  keyed : ∀ entry ∈ services.entries, entry.2.sid = entry.1

namespace ServiceMap

def empty : ServiceMap where
  services := .empty
  keyed := Table.keyed_empty

def find (this : ServiceMap) (sid : UUID) : Option ServiceInfo :=
  this.services.find sid

/-- A `ServiceInfo` of the map changes in place. -/
def replace (this : ServiceMap) (info : ServiceInfo) : ServiceMap where
  services := this.services.replace info.sid info
  keyed := Table.keyed_replace this.keyed rfl

def unbind (this : ServiceMap) (sid : UUID) : ServiceMap where
  services := this.services.unbind sid
  keyed := Table.keyed_unbind this.keyed sid

/-- A service that is bound already is not bound again. -/
def addService (this : ServiceMap) (service : ServiceInfo) : ServiceMap where
  services := this.services.bind service.sid service
  keyed := Table.keyed_bind this.keyed rfl

def isServiceInstanceRunning (this : ServiceMap) (sid iid : UUID) : Bool :=
  match this.find sid with
  | none => false
  | some info => info.isServiceInstanceRunning iid

/-- The first instance of a service brings the service; `none` is the answer false. -/
def addServiceInstance (this : ServiceMap) (sid iid : UUID) (sapInfo : Option SAPInfo) :
    Option ServiceMap :=
  match this.find sid with
  | none =>
      ((ServiceInfo.new sid).addServiceInstance iid sapInfo).map fun info =>
        (this.addService (.new sid)).replace info
  | some service => (service.addServiceInstance iid sapInfo).map fun info => this.replace info

/-- The last instance of a service takes the service along; `none` is the answer false. -/
def removeService (this : ServiceMap) (sid iid : UUID) : Option ServiceMap :=
  match this.find sid with
  | none => none
  | some service =>
      (service.removeServiceInstance iid).map fun info =>
        if info.getInstanceCount = 0 then this.unbind sid else this.replace info

def changeServiceIID (this : ServiceMap) (sid oldIid newIid : UUID) : ServiceMap × Bool :=
  match this.find sid with
  | none => (this, false)
  | some service =>
      let changed := service.setIID oldIid newIid
      (this.replace changed.1, changed.2)

/-- An instance is added exactly when it is not running. -/
theorem isSome_addServiceInstance (this : ServiceMap) (sid iid : UUID) (sapInfo : Option SAPInfo) :
    (this.addServiceInstance sid iid sapInfo).isSome = !this.isServiceInstanceRunning sid iid := by
  unfold addServiceInstance isServiceInstanceRunning
  cases this.find sid with
  | none => rfl
  | some service =>
      simp only [Option.isSome_map, ServiceInfo.addServiceInstance]
      cases service.isServiceInstanceRunning iid <;> rfl

/-- An instance is removed exactly when it is running. -/
theorem isSome_removeService (this : ServiceMap) (sid iid : UUID) :
    (this.removeService sid iid).isSome = this.isServiceInstanceRunning sid iid := by
  unfold removeService isServiceInstanceRunning
  cases this.find sid with
  | none => rfl
  | some service =>
      simp only [Option.isSome_map, ServiceInfo.removeServiceInstance]
      cases service.isServiceInstanceRunning iid <;> rfl

/-- The method that an update calls; `none` where the answer false is looked at.  The
answer of `changeServiceIID` is not. -/
def update (this : ServiceMap) : ServiceUpdate → Option ServiceMap
  | .addService info => this.addServiceInstance info.sid info.iid info.sapInfo
  | .removeService sid iid => this.removeService sid iid
  | .updateIID sid oldIid newIid => some (this.changeServiceIID sid oldIid newIid).1

/-- An update that fits the map: an added instance is not running, a removed one is. -/
def Fits (this : ServiceMap) : ServiceUpdate → Prop
  | .addService info => this.isServiceInstanceRunning info.sid info.iid = false
  | .removeService sid iid => this.isServiceInstanceRunning sid iid = true
  | .updateIID _ _ _ => True

theorem fits_iff {this : ServiceMap} {update : ServiceUpdate} :
    this.Fits update ↔ (this.update update).isSome = true := by
  cases update with
  | addService info =>
      simp only [Fits, update, isSome_addServiceInstance, Bool.not_eq_true']
  | removeService sid iid => simp only [Fits, update, isSome_removeService]
  | updateIID sid oldIid newIid => exact iff_of_true trivial rfl

/-- Updates made one after another; `none` where one of them is not made. -/
def updateAll (this : ServiceMap) (updates : List ServiceUpdate) : Option ServiceMap :=
  updates.foldlM update this

theorem updateAll_concat (this : ServiceMap) (updates : List ServiceUpdate)
    (last : ServiceUpdate) :
    this.updateAll (updates ++ [last]) = (this.updateAll updates).bind fun map => map.update last := by
  rw [updateAll, updateAll, List.foldlM_append]
  cases updates.foldlM update this with
  | none => rfl
  | some map => simp

/-- Every update fits the map that those before it leave. -/
def FitsAll : ServiceMap → List ServiceUpdate → Prop
  | _, [] => True
  | this, first :: rest =>
      this.Fits first ∧ ∀ updated, this.update first = some updated → updated.FitsAll rest

theorem fitsAll_iff {this : ServiceMap} {updates : List ServiceUpdate} :
    this.FitsAll updates ↔ (this.updateAll updates).isSome = true := by
  induction updates generalizing this with
  | nil => exact iff_of_true trivial rfl
  | cons first rest inductionHypothesis =>
      rw [FitsAll, fits_iff, updateAll, List.foldlM_cons]
      cases this.update first with
      | none =>
          apply iff_of_false
          · rintro ⟨impossible, -⟩
            cases impossible
          · intro impossible
            cases impossible
      | some updated =>
          constructor
          · rintro ⟨-, fits⟩
            exact inductionHypothesis.mp (fits updated rfl)
          · intro made
            refine ⟨rfl, ?_⟩
            rintro _ ⟨⟩
            exact inductionHypothesis.mpr made

end ServiceMap

/-- `m_serviceMap` of a peer. -/
def PeerInfo.serviceMap (this : PeerInfo) : ServiceMap :=
  ⟨this.services, this.keyed⟩

/-- The record of a peer whose service map has changed. -/
def P3PeerInfo.withServices (this : P3PeerInfo) (map : ServiceMap) : P3PeerInfo :=
  { this with services := map.services, keyed := map.keyed }

@[simp]
theorem P3PeerInfo.serviceMap_withServices (this : P3PeerInfo) (map : ServiceMap) :
    (this.withServices map).serviceMap = map :=
  rfl

@[simp]
theorem P3PeerInfo.pid_withServices (this : P3PeerInfo) (map : ServiceMap) :
    (this.withServices map).pid = this.pid :=
  rfl

end Stheno.Peer
