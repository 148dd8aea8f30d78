import Stheno.Peer.Instances

/-!
# The local services of a runtime

A runtime keeps the services that run on its peer, the replication groups that they
belong to and the mesh that it tells about them.  The methods below throw where the
source throws, and what a method has changed before it throws stays changed.
-/

namespace Stheno.Peer

/-- The messages of `RuntimeException` that the runtime uses. -/
inductive RuntimeException where
  | INSUFFICIENT_RESOURCES
  | INVALID_OVERLAY
  | INVALID_RUNTIME
  deriving DecidableEq

/-- The messages of `ServiceException`. -/
inductive ServiceException where
  | INVALID_STATE
  | INVALID_FT_PARAMS
  | NON_FT_SERVICE
  | INSUFFICIENT_RESOURCES
  | SERVICE_NOT_KNOWN
  | SERVICE_WITHOUT_IMPL
  | REGISTRATION_ERROR
  | INVALID_ARGUMENT
  | LOW_LVL_P2P_UNAVAILABLE
  /-- A message that is written where it is thrown. -/
  | text (message : String)
  deriving DecidableEq

/-- What ends a method before its last statement. -/
inductive Thrown where
  | runtimeException (message : RuntimeException)
  | serviceException (message : ServiceException)
  | fault (fault : Fault)
  deriving DecidableEq

namespace LocalService

/-- A service without instances. -/
def new (sid : UUID) : LocalService where
  sid
  runningServices := .empty
  keyed := Table.keyed_empty

def existsRunningService (this : LocalService) (iid : UUID) : Bool :=
  (this.runningServices.find iid).isSome

/-- An instance under an identifier that is taken is not added. -/
def addServiceInstance (this : LocalService) (service : ServiceAbstract) : LocalService × Bool :=
  ({ sid := this.sid
     runningServices := this.runningServices.bind service.iid service
     keyed := Table.keyed_bind this.keyed rfl },
    !this.existsRunningService service.iid)

/-- `none` is the exception. -/
def removeServiceInstance (this : LocalService) (iid : UUID) : Option LocalService :=
  if this.existsRunningService iid then
    some
      { sid := this.sid
        runningServices := this.runningServices.unbind iid
        keyed := Table.keyed_unbind this.keyed iid }
  else
    none

/-- The access point of a running instance. -/
def setSAP (this : LocalService) (iid : UUID) (sap : Option SAPInfo) : LocalService :=
  match this.runningServices.find iid with
  | none => this
  | some service =>
      { sid := this.sid
        runningServices := this.runningServices.replace service.iid { service with sap }
        keyed := Table.keyed_replace this.keyed rfl }

end LocalService

/-- A runtime with what its methods change: its services, the replication groups of the
peer and what it has told the mesh, oldest first.  The factory knows the services that it
has a prototype of. -/
structure Runtime (γ : Type) where
  core : SthenoCore
  factory : List UUID
  replicationGroups : Table UUID γ
  notified : List ServiceUpdate

/-- What the parts around the runtime do during one call. -/
structure Answers (γ : Type) where
  /-- The overlay has its fault tolerance service. -/
  faultTolerance : Bool
  /-- The overlay has its mesh. -/
  mesh : Bool
  /-- The prototype of the service makes an instance. -/
  duplicates : Except ServiceException Unit
  /-- The group that is made. -/
  group : γ
  groupOpens : Except ServiceException Unit
  /-- The reservation of resources for a replica. -/
  reserves : Except RuntimeException Unit
  /-- An instance that opens has its access point. -/
  serviceOpens : Except ServiceException (Option SAPInfo)
  serviceCloses : Except ServiceException Unit

/-- What a method changes stays changed when it throws. -/
abbrev Method (γ α : Type) := ExceptT Thrown (StateM (Runtime γ)) α

namespace Runtime

variable {γ : Type}

/-- The runtime with another service map. -/
def withServices (this : Runtime γ) (serviceMap : Table UUID LocalService) : Runtime γ :=
  { this with core := { this.core with serviceMap } }

def isServiceInstanceRunning (this : Runtime γ) (sid iid : UUID) : Bool :=
  match this.core.serviceMap.find sid with
  | none => false
  | some service => service.existsRunningService iid

/-- A service that the runtime does not have yet is bound without instances. -/
def bindService (this : Runtime γ) (sid : UUID) : Runtime γ :=
  this.withServices (this.core.serviceMap.bind sid (.new sid))

/-- The instance, and whether it was added. -/
def addInstance (this : Runtime γ) (sid : UUID) (service : ServiceAbstract) : Runtime γ × Bool :=
  match this.core.serviceMap.find sid with
  | none => (this, false)
  | some localService =>
      let added := localService.addServiceInstance service
      (this.withServices (this.core.serviceMap.replace sid added.1), added.2)

def setSAP (this : Runtime γ) (sid iid : UUID) (sap : Option SAPInfo) : Runtime γ :=
  match this.core.serviceMap.find sid with
  | none => this
  | some localService =>
      this.withServices (this.core.serviceMap.replace sid (localService.setSAP iid sap))

def addReplicationGroup (this : Runtime γ) (rgid : UUID) (group : γ) : Runtime γ :=
  { this with replicationGroups := this.replicationGroups.bind rgid group }

def removeReplicationGroup (this : Runtime γ) (rgid : UUID) : Runtime γ :=
  { this with replicationGroups := this.replicationGroups.unbind rgid }

def notify (this : Runtime γ) (update : ServiceUpdate) : Runtime γ :=
  { this with notified := this.notified ++ [update] }

end Runtime

namespace Method

variable {γ : Type}

def requireValid : Method γ Unit := do
  unless (← get).core.isValid do
    throw (.runtimeException .INVALID_RUNTIME)

/-- Part of the overlay that has to be there. -/
def requireOverlay (available : Bool) : Method γ Unit := do
  unless available do
    throw (.runtimeException .INVALID_OVERLAY)

/-- An end that the parts around the runtime decide. -/
def require (done : Except Thrown Unit) : Method γ Unit := do
  match done with
  | .ok _ => pure ()
  | .error thrown => throw thrown

/-- `getInstance` of the factory. -/
def getInstance (answers : Answers γ) (sid : UUID) : Method γ Unit := do
  unless (← get).factory.contains sid do
    throw (.serviceException .SERVICE_NOT_KNOWN)
  require (answers.duplicates.mapError .serviceException)

/-- The service is bound before the factory is asked for its prototype.  The answer is that
of `addServiceInstance`, at which nobody looks. -/
def createServiceInstance (answers : Answers γ) (sid iid : UUID) : Method γ Bool := do
  requireValid
  modify fun this => this.bindService sid
  getInstance answers sid
  modifyGet fun this =>
    let added := this.addInstance sid { sid, iid, sap := none }
    (added.2, added.1)

/-- `createReplicationGroup` of the fault tolerance service.  A group whose identifier is
taken is not added, and a group that does not open is removed by its identifier. -/
def openReplicationGroup (answers : Answers γ) (rgid : UUID) : Method γ Unit := do
  modify fun this => this.addReplicationGroup rgid answers.group
  match answers.groupOpens with
  | .ok _ => pure ()
  | .error message => do
      modify fun this => this.removeReplicationGroup rgid
      throw (.serviceException message)

/-- `open` of an instance, which is in the service map where it was `added`. -/
def openService (answers : Answers γ) (sid iid : UUID) (added : Bool) : Method γ Unit := do
  match answers.serviceOpens with
  | .ok sap => modify fun this => if added then this.setSAP sid iid sap else this
  | .error message => throw (.serviceException message)

/-- The null pointer where there is no such instance. -/
def getInstanceOfService (sid iid : UUID) : Method γ (Option ServiceInstanceInfo) := do
  requireValid
  match (← get).core.serviceMap.find sid with
  | none => throw (.serviceException .SERVICE_NOT_KNOWN)
  | some service => pure (service.getInstancesOfServiceInfo iid)

/-- The mesh is told of a new instance. -/
def announce (answers : Answers γ) (sid iid : UUID) : Method γ Unit := do
  let info ← getInstanceOfService sid iid
  requireOverlay answers.mesh
  match info with
  | none => throw (.fault .nullDereference)
  | some info => modify fun this => this.notify (.addService info)

/-- What the methods that create an instance have in common: the instance is made and
registered, then prepared and opened, then announced. -/
def deploy (answers : Answers γ) (sid iid : UUID) (prepare : Method γ Unit) : Method γ Unit := do
  let added ← createServiceInstance answers sid iid
  prepare
  openService answers sid iid added
  announce answers sid iid

/-- The instance of a service with fault tolerance has the identifier of its group. -/
def createLocalService (answers : Answers γ) (sid : UUID) (ftParams : Bool) (generated : UUID) :
    Method γ Unit := do
  requireValid
  requireOverlay answers.faultTolerance
  if ftParams then
    deploy answers sid generated (openReplicationGroup answers generated)
  else
    deploy answers sid generated (pure ())

def createLocalServiceReplica (answers : Answers γ) (sid generated : UUID) : Method γ Unit := do
  requireValid
  requireOverlay answers.faultTolerance
  deploy answers sid generated (require (answers.reserves.mapError .runtimeException))

/-- A `RuntimeException` is not in the exception specification of this one, so that it ends the
process when it leaves. -/
def createReplicationGroup (answers : Answers γ) (sid rgid : UUID) (ftParams : Bool)
    (generated : UUID) : Method γ Unit := do
  requireValid
  requireOverlay answers.faultTolerance
  if ftParams then
    deploy answers sid generated (openReplicationGroup answers rgid)
  else
    throw (.serviceException .INVALID_FT_PARAMS)

/-- Nobody is told of an instance that is added in this way. -/
def addService (service : ServiceAbstract) : Method γ Bool := do
  requireValid
  modify fun this => this.bindService service.sid
  modifyGet fun this =>
    let added := this.addInstance service.sid service
    (added.2, added.1)

/-- The instance is gone when its `close` throws. -/
def removeServiceInstance (answers : Answers γ) (sid iid : UUID) : Method γ Unit := do
  requireValid
  match (← get).core.serviceMap.find sid with
  | none => throw (.serviceException .SERVICE_NOT_KNOWN)
  | some service =>
      match service.removeServiceInstance iid with
      | none => throw (.serviceException .SERVICE_NOT_KNOWN)
      | some left => do
          modify fun this => this.withServices (this.core.serviceMap.replace sid left)
          require (answers.serviceCloses.mapError .serviceException)

/-- `removeService` of a whole service throws when `unbind` answers that it has unbound. -/
def removeService (sid : UUID) : Method γ Unit := do
  requireValid
  match (← get).core.serviceMap.find sid with
  | none => throw (.serviceException .SERVICE_NOT_KNOWN)
  | some _ => do
      modify fun this => this.withServices (this.core.serviceMap.unbind sid)
      throw (.serviceException .SERVICE_NOT_KNOWN)

/-- The mesh is asked for after the instance has its new identifier. -/
def changeIIDOfService (answers : Answers γ) (sid iid newIid : UUID) : Method γ Unit := do
  requireValid
  match (← get).core.serviceMap.find sid with
  | none => throw (.serviceException .SERVICE_NOT_KNOWN)
  | some service => do
      let changed := service.setIID iid newIid
      modify fun this => this.withServices (this.core.serviceMap.replace sid changed.1)
      unless changed.2 do
        throw (.serviceException (.text (if service.existsRunningService iid then
          "Failed to change IID!" else "Service not fount!")))
      requireOverlay answers.mesh
      modify fun this => this.notify (.updateIID sid iid newIid)

/-! ## Where a method ends -/

variable {α β : Type}

theorem bind_apply (first : Method γ α) (next : α → Method γ β) (this : Runtime γ) :
    (first >>= next) this =
      match first this with
      | (.ok a, after) => next a after
      | (.error thrown, after) => (.error thrown, after) := by
  change (match first this with
    | (result, after) => (ExceptT.bindCont next result) after) = _
  rcases first this with ⟨result, after⟩
  cases result with
  | ok a => rfl
  | error thrown => rfl

/-- A method that returns goes on with the next one. -/
theorem bind_of_ok {first : Method γ α} {next : α → Method γ β} {this after : Runtime γ} {a : α}
    (done : first this = (.ok a, after)) : (first >>= next) this = next a after := by
  rw [bind_apply, done]

/-- A method that throws ends the whole. -/
theorem bind_of_error {first : Method γ α} {next : α → Method γ β} {this after : Runtime γ}
    {thrown : Thrown} (done : first this = (.error thrown, after)) :
    (first >>= next) this = (.error thrown, after) := by
  rw [bind_apply, done]

theorem get_bind (next : Runtime γ → Method γ β) (this : Runtime γ) :
    ((get : Method γ (Runtime γ)) >>= next) this = next this this :=
  rfl

theorem requireValid_of_valid {this : Runtime γ} (valid : this.core.isValid = true) :
    requireValid this = (.ok (), this) := by
  change (if this.core.isValid then (pure () : Method γ Unit) else throw _) this = _
  rw [if_pos valid]
  rfl

theorem requireValid_of_closed {this : Runtime γ} (closed : this.core.isValid = false) :
    requireValid this = (.error (.runtimeException .INVALID_RUNTIME), this) := by
  change (if this.core.isValid then (pure () : Method γ Unit) else throw _) this = _
  rw [closed]
  rfl

theorem requireOverlay_of_available {available : Bool} (there : available = true)
    (this : Runtime γ) : requireOverlay available this = (.ok (), this) := by
  rw [there]
  rfl

theorem requireOverlay_of_missing {available : Bool} (missing : available = false)
    (this : Runtime γ) :
    requireOverlay available this = (.error (.runtimeException .INVALID_OVERLAY), this) := by
  rw [missing]
  rfl

theorem require_apply (done : Except Thrown Unit) (this : Runtime γ) :
    require done this = (done, this) := by
  cases done with
  | ok _ => rfl
  | error thrown => rfl

/-- What `getInstance` comes to. -/
def instantiates (answers : Answers γ) (this : Runtime γ) (sid : UUID) : Except Thrown Unit :=
  if this.factory.contains sid then answers.duplicates.mapError .serviceException
  else .error (.serviceException .SERVICE_NOT_KNOWN)

theorem getInstance_apply (answers : Answers γ) (sid : UUID) (this : Runtime γ) :
    getInstance answers sid this = (instantiates answers this sid, this) := by
  change (if this.factory.contains sid then
      (require (answers.duplicates.mapError .serviceException) : Method γ Unit)
    else throw _ >>= fun _ => require _) this = _
  rw [instantiates]
  by_cases known : this.factory.contains sid = true
  · rw [if_pos known, if_pos known, require_apply]
  · rw [if_neg known, if_neg known]
    rfl

theorem getInstanceOfService_of_valid {this : Runtime γ} (valid : this.core.isValid = true)
    (sid iid : UUID) :
    getInstanceOfService sid iid this =
      (match this.core.serviceMap.find sid with
      | none => .error (.serviceException .SERVICE_NOT_KNOWN)
      | some service => .ok (service.getInstancesOfServiceInfo iid), this) := by
  rw [getInstanceOfService, bind_of_ok (requireValid_of_valid valid), get_bind]
  cases this.core.serviceMap.find sid with
  | none => rfl
  | some service => rfl

/-- A running instance is announced where the mesh is there. -/
theorem announce_of_runs {answers : Answers γ} {this : Runtime γ} {sid iid : UUID}
    {info : ServiceInstanceInfo} (valid : this.core.isValid = true)
    (runs : this.core.getInstancesOfServiceInfo sid iid = some info) :
    announce answers sid iid this =
      if answers.mesh then (.ok (), this.notify (.addService info))
      else (.error (.runtimeException .INVALID_OVERLAY), this) := by
  rcases Option.bind_eq_some_iff.mp runs with ⟨service, known, described⟩
  have found : getInstanceOfService sid iid this = (.ok (some info), this) := by
    rw [getInstanceOfService_of_valid valid, known]
    exact congrArg (fun answer => (Except.ok answer, this)) described
  rw [announce, bind_of_ok found]
  cases available : answers.mesh with
  | true =>
      rw [bind_of_ok (requireOverlay_of_available rfl this)]
      rfl
  | false => exact bind_of_error (requireOverlay_of_missing rfl this)

/-- Where an instance is made: the runtime with the instance, and whether it was added. -/
def withInstance (this : Runtime γ) (sid iid : UUID) : Runtime γ × Bool :=
  (this.bindService sid).addInstance sid { sid, iid, sap := none }

theorem createServiceInstance_of_valid {this : Runtime γ} (valid : this.core.isValid = true)
    (answers : Answers γ) (sid iid : UUID) :
    createServiceInstance answers sid iid this =
      match instantiates answers this sid with
      | .error thrown => (.error thrown, this.bindService sid)
      | .ok _ => (.ok (withInstance this sid iid).2, (withInstance this sid iid).1) := by
  have asked := getInstance_apply answers sid (this.bindService sid)
  have same : instantiates answers (this.bindService sid) sid = instantiates answers this sid := rfl
  rw [same] at asked
  rw [createServiceInstance, bind_of_ok (requireValid_of_valid valid)]
  change (getInstance answers sid >>= fun _ => modifyGet fun this => _) (this.bindService sid) = _
  cases made : instantiates answers this sid with
  | error thrown =>
      rw [made] at asked
      rw [bind_of_error asked]
  | ok _ =>
      rw [made] at asked
      rw [bind_of_ok asked]
      rfl

/-- A preparation that throws or not, and changes the replication groups. -/
def Prepares (prepare : Method γ Unit) (ends : Except Thrown Unit)
    (groups : Table UUID γ → Table UUID γ) : Prop :=
  ∀ this, prepare this =
    (ends, { this with replicationGroups := groups this.replicationGroups })

theorem prepares_pure : Prepares (γ := γ) (pure ()) (.ok ()) id :=
  fun _ => rfl

theorem prepares_require (done : Except Thrown Unit) : Prepares (γ := γ) (require done) done id :=
  fun this => require_apply done this

/-- A group that is opened is registered; one that does not open takes along whatever is
registered under its identifier. -/
theorem prepares_openReplicationGroup (answers : Answers γ) (rgid : UUID) :
    Prepares (openReplicationGroup answers rgid) (answers.groupOpens.mapError .serviceException)
      (match answers.groupOpens with
      | .ok _ => fun groups => groups.bind rgid answers.group
      | .error _ => fun groups => (groups.bind rgid answers.group).unbind rgid) := by
  intro this
  unfold openReplicationGroup
  cases answers.groupOpens with
  | ok _ => rfl
  | error message => rfl

end Method

end Stheno.Peer
