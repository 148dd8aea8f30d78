import Stheno.Fault
import Stheno.Peer.Services

/-!
# Renaming an instance

A runtime keeps its services under their identifiers, and each service its running
instances under theirs.  `changeIIDOfService` moves an instance to another identifier,
in the runtime itself and then, by an update, in the service maps that the mesh keeps
for the runtime.  Both moves lose the instance when the new identifier is taken.
-/

namespace Stheno.Peer

/-- A running instance. -/
structure ServiceAbstract where
  sid : UUID
  iid : UUID
  sap : Option SAPInfo
  deriving DecidableEq

/-- A service of the runtime with its running instances under their identifiers. -/
structure LocalService where
  sid : UUID
  runningServices : Table UUID ServiceAbstract
  keyed : ∀ entry ∈ runningServices.entries, entry.2.iid = entry.1

namespace LocalService

def getInstancesOfServiceInfo (this : LocalService) (iid : UUID) : Option ServiceInstanceInfo :=
  (this.runningServices.find iid).map fun service =>
    { sid := service.sid, iid := service.iid, sapInfo := service.sap }

/-- The second component is false where the method throws; the instance is lost when its
new identifier is taken. -/
def setIID (this : LocalService) (iid newIid : UUID) : LocalService × Bool :=
  match this.runningServices.find iid with
  | none => (this, false)
  | some service =>
      let unbound := this.runningServices.unbind iid
      ({ sid := this.sid
         runningServices := unbound.bind newIid { service with iid := newIid }
         keyed := Table.keyed_bind (Table.keyed_unbind this.keyed iid) rfl },
        (unbound.find newIid).isNone)

end LocalService

/-- The runtime of a peer. -/
structure SthenoCore where
  /-- The status is `RUNNING`. -/
  running : Bool
  serviceMap : Table UUID LocalService

namespace SthenoCore

def isValid (this : SthenoCore) : Bool :=
  this.running

/-- A `LocalService` of the map changes in place. -/
def replace (this : SthenoCore) (sid : UUID) (service : LocalService) : SthenoCore :=
  { this with serviceMap := this.serviceMap.replace sid service }

/-- The second component is the update that `onServiceUpdateIID` hands to the mesh.
Nobody catches what the method throws. -/
def changeIIDOfService (this : SthenoCore) (sid iid newIid : UUID) :
    Result (SthenoCore × ServiceUpdate) :=
  if this.isValid then
    match this.serviceMap.find sid with
    | none => .error .uncaughtException
    | some service =>
        let changed := service.setIID iid newIid
        if changed.2 then
          .ok (this.replace sid changed.1, .updateIID sid iid newIid)
        else
          .error .uncaughtException
  else
    .error .uncaughtException

/-- The description of a running instance. -/
def getInstancesOfServiceInfo (this : SthenoCore) (sid iid : UUID) : Option ServiceInstanceInfo :=
  (this.serviceMap.find sid).bind fun service => service.getInstancesOfServiceInfo iid

/-- A running instance moves to an identifier that is free. -/
theorem exists_changeIIDOfService {this : SthenoCore} {sid iid newIid : UUID}
    {info : ServiceInstanceInfo} (valid : this.isValid = true)
    (runs : this.getInstancesOfServiceInfo sid iid = some info)
    (free : this.getInstancesOfServiceInfo sid newIid = none) :
    ∃ after, this.changeIIDOfService sid iid newIid = .ok (after, .updateIID sid iid newIid) ∧
      after.isValid = true ∧
      ∀ other, after.getInstancesOfServiceInfo sid other =
        if other = newIid then some { info with iid := newIid }
        else if other = iid then none
        else this.getInstancesOfServiceInfo sid other := by
  rcases Option.bind_eq_some_iff.mp runs with ⟨service, known, described⟩
  rcases Option.map_eq_some_iff.mp described with ⟨running, found, rfl⟩
  have unused : service.runningServices.find newIid = none := by
    rw [getInstancesOfServiceInfo, known, Option.bind_some] at free
    exact Option.map_eq_none_iff.mp free
  have answered : (service.setIID iid newIid).2 = true := by
    simp only [LocalService.setIID, found, Table.find_unbind, unused, ite_self, Option.isNone_none]
  refine ⟨this.replace sid (service.setIID iid newIid).1, ?_, valid, ?_⟩
  · simp only [changeIIDOfService, valid, known, answered, if_true]
  · intro other
    simp only [getInstancesOfServiceInfo, replace, Table.find_replace, known, if_true,
      Option.map_some, Option.bind_some, LocalService.getInstancesOfServiceInfo,
      LocalService.setIID, found, Table.find_bind_unbind unused]
    split
    · rfl
    · split
      · rfl
      · rfl

end SthenoCore

namespace ServiceMap

/-- The description of a running instance; `none` is the exception. -/
def getInstanceOfService (this : ServiceMap) (sid iid : UUID) : Option ServiceInstanceInfo :=
  (this.find sid).bind fun service => service.runningServices.find iid

/-- A running instance moves to an identifier that is free. -/
theorem getInstanceOfService_changeServiceIID {this : ServiceMap} {sid iid newIid : UUID}
    {info : ServiceInstanceInfo} (runs : this.getInstanceOfService sid iid = some info)
    (free : this.getInstanceOfService sid newIid = none) (other : UUID) :
    (this.changeServiceIID sid iid newIid).1.getInstanceOfService sid other =
      if other = newIid then some { info with iid := newIid }
      else if other = iid then none
      else this.getInstanceOfService sid other := by
  rcases Option.bind_eq_some_iff.mp runs with ⟨service, known, found⟩
  have unused : service.runningServices.find newIid = none := by
    rwa [getInstanceOfService, known, Option.bind_some] at free
  have own : service.sid = sid := by
    rcases Option.map_eq_some_iff.mp known with ⟨entry, listed, rfl⟩
    have hit := List.find?_some listed
    exact (this.keyed entry (List.mem_of_find?_eq_some listed)).trans (of_decide_eq_true hit)
  have here : this.services.find sid = some service := known
  simp only [changeServiceIID, getInstanceOfService, replace, find, ServiceInfo.setIID, found,
    own, Table.find_replace, here, if_true, Option.map_some, Option.bind_some,
    Table.find_bind_unbind unused]

end ServiceMap

end Stheno.Peer
