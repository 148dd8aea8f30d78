import Stheno.Peer.Creation
import Stheno.Run

/-!
# What the mesh is told

The services that run on a peer are compared with what the mesh was told about them.
A creation tells the mesh last, a rename after it was made, and nobody tells it of an
instance that is added from outside or removed.
-/

namespace Stheno.Peer

namespace LocalService

theorem setIID_of_unknown {this : LocalService} {iid : UUID} (newIid : UUID)
    (unknown : this.existsRunningService iid = false) : this.setIID iid newIid = (this, false) := by
  have missing : this.runningServices.find iid = none :=
    Option.isNone_iff_eq_none.mp (Option.isSome_eq_false_iff.mp unknown)
  rw [setIID, missing]

theorem setIID_answer {this : LocalService} {iid : UUID} (newIid : UUID)
    (runs : this.existsRunningService iid = true) : (this.setIID iid newIid).2 = true ↔
      newIid = iid ∨ this.existsRunningService newIid = false := by
  rcases Option.isSome_iff_exists.mp runs with ⟨service, found⟩
  simp only [setIID, found, Table.find_unbind, existsRunningService]
  by_cases same : newIid = iid
  · simp [same]
  · simp [same]

/-- What runs after a rename, whether its new identifier was free or not. -/
theorem existsRunningService_setIID {this : LocalService} {iid : UUID} (newIid : UUID)
    (runs : this.existsRunningService iid = true) (other : UUID) :
    (this.setIID iid newIid).1.existsRunningService other =
      (decide (other = newIid) || (decide (other ≠ iid) && this.existsRunningService other)) := by
  rcases Option.isSome_iff_exists.mp runs with ⟨service, found⟩
  simp only [setIID, found, existsRunningService, Table.find_bind, Table.find_unbind]
  by_cases new : other = newIid
  · simp [new]
  · by_cases old : other = iid
    · have apart : iid ≠ newIid := old ▸ new
      simp [old, apart]
    · simp [new, old]

theorem removeServiceInstance_eq_some {this left : LocalService} {iid : UUID}
    (done : this.removeServiceInstance iid = some left) :
    this.existsRunningService iid = true ∧
      ∀ other, left.existsRunningService other =
        (decide (other ≠ iid) && this.existsRunningService other) := by
  rw [removeServiceInstance] at done
  split at done
  · rename_i runs
    cases done
    refine ⟨runs, ?_⟩
    intro other
    simp only [existsRunningService, Table.find_unbind]
    by_cases same : other = iid
    · simp [same]
    · simp [same]
  · cases done

/-- Every instance is one of the service. -/
def Serves (this : LocalService) (sid : UUID) : Prop :=
  ∀ iid service, this.runningServices.find iid = some service → service.sid = sid

namespace Serves

variable {this : LocalService} {sid : UUID}

theorem new (own sid : UUID) : (LocalService.new own).Serves sid := by
  rintro iid service ⟨⟩

theorem addServiceInstance (serves : this.Serves sid) {service : ServiceAbstract}
    (own : service.sid = sid) : (this.addServiceInstance service).1.Serves sid := by
  intro iid other found
  have bound : (this.runningServices.bind service.iid service).find iid = some other := found
  rw [Table.find_bind] at bound
  split at bound
  · cases held : this.runningServices.find service.iid with
    | none =>
        rw [held] at bound
        cases bound
        exact own
    | some before =>
        rw [held] at bound
        cases bound
        exact serves _ _ held
  · exact serves iid other bound

theorem setSAP (serves : this.Serves sid) (iid : UUID) (sap : Option SAPInfo) :
    (this.setSAP iid sap).Serves sid := by
  unfold LocalService.setSAP
  cases held : this.runningServices.find iid with
  | none => exact serves
  | some service =>
      intro other changed found
      have replaced : (this.runningServices.replace service.iid { service with sap }).find other =
        some changed := found
      rw [Table.find_replace] at replaced
      split at replaced
      · rcases Option.map_eq_some_iff.mp replaced with ⟨_, -, rfl⟩
        exact serves iid service held
      · exact serves other changed replaced

theorem setIID (serves : this.Serves sid) (iid newIid : UUID) :
    (this.setIID iid newIid).1.Serves sid := by
  unfold LocalService.setIID
  cases held : this.runningServices.find iid with
  | none => exact serves
  | some service =>
      intro other changed found
      have moved : ((this.runningServices.unbind iid).bind newIid { service with iid := newIid }).find
        other = some changed := found
      rw [Table.find_bind] at moved
      split at moved
      · cases stays : (this.runningServices.unbind iid).find newIid with
        | none =>
            rw [stays] at moved
            cases moved
            exact serves iid service held
        | some before =>
            rw [stays] at moved
            cases moved
            rw [Table.find_unbind] at stays
            split at stays
            · cases stays
            · exact serves newIid before stays
      · rw [Table.find_unbind] at moved
        split at moved
        · cases moved
        · exact serves other changed moved

theorem removeServiceInstance (serves : this.Serves sid) {iid : UUID} {left : LocalService}
    (done : this.removeServiceInstance iid = some left) : left.Serves sid := by
  rw [LocalService.removeServiceInstance] at done
  split at done
  · cases done
    intro other service found
    have stays : (this.runningServices.unbind iid).find other = some service := found
    rw [Table.find_unbind] at stays
    split at stays
    · cases stays
    · exact serves other service stays
  · cases done

end Serves

end LocalService

namespace Runtime

variable {γ : Type} {this : Runtime γ}

/-- Every instance is stored under its own service. -/
def Serves (this : Runtime γ) : Prop :=
  ∀ sid service, this.core.serviceMap.find sid = some service → service.Serves sid

namespace Serves

theorem replace (serves : this.Serves) {sid : UUID} {service : LocalService}
    (own : service.Serves sid) :
    (this.withServices (this.core.serviceMap.replace sid service)).Serves := by
  intro other changed found
  have replaced : (this.core.serviceMap.replace sid service).find other = some changed := found
  rw [Table.find_replace] at replaced
  split at replaced
  · rename_i here
    rcases Option.map_eq_some_iff.mp replaced with ⟨_, -, rfl⟩
    rw [here]
    exact own
  · exact serves other changed replaced

theorem unbind (serves : this.Serves) (sid : UUID) :
    (this.withServices (this.core.serviceMap.unbind sid)).Serves := by
  intro other service found
  have stays : (this.core.serviceMap.unbind sid).find other = some service := found
  rw [Table.find_unbind] at stays
  split at stays
  · cases stays
  · exact serves other service stays

theorem bindService (serves : this.Serves) (sid : UUID) : (this.bindService sid).Serves := by
  intro other service found
  have bound : (this.core.serviceMap.bind sid (.new sid)).find other = some service := found
  rw [Table.find_bind] at bound
  split at bound
  · rename_i here
    rw [here]
    cases known : this.core.serviceMap.find sid with
    | none =>
        rw [known] at bound
        cases bound
        exact LocalService.Serves.new sid sid
    | some before =>
        rw [known] at bound
        cases bound
        exact serves sid before known
  · exact serves other service bound

theorem addInstance (serves : this.Serves) {sid : UUID} {service : ServiceAbstract}
    (own : service.sid = sid) : (this.addInstance sid service).1.Serves := by
  unfold Runtime.addInstance
  cases known : this.core.serviceMap.find sid with
  | none => exact serves
  | some localService => exact serves.replace ((serves sid localService known).addServiceInstance own)

theorem setSAP (serves : this.Serves) (sid iid : UUID) (sap : Option SAPInfo) :
    (this.setSAP sid iid sap).Serves := by
  unfold Runtime.setSAP
  cases known : this.core.serviceMap.find sid with
  | none => exact serves
  | some localService => exact serves.replace ((serves sid localService known).setSAP iid sap)

end Serves

end Runtime

namespace Method

variable {γ : Type} {this : Runtime γ} {sid iid : UUID}

theorem addService_of_valid (valid : this.core.isValid = true) (service : ServiceAbstract) :
    (addService service >>= fun _ => pure ()) this =
      (.ok (), ((this.bindService service.sid).addInstance service.sid service).1) := by
  rw [bind_apply, addService, bind_of_ok (requireValid_of_valid valid)]
  rfl

theorem removeServiceInstance_of_idle (valid : this.core.isValid = true) (answers : Answers γ)
    (idle : this.isServiceInstanceRunning sid iid = false) :
    removeServiceInstance answers sid iid this = (.error (.serviceException .SERVICE_NOT_KNOWN), this) := by
  rw [removeServiceInstance, bind_of_ok (requireValid_of_valid valid), get_bind]
  rw [Runtime.isServiceInstanceRunning] at idle
  cases known : this.core.serviceMap.find sid with
  | none => rfl
  | some service =>
      rw [known] at idle
      have refused : service.removeServiceInstance iid = none := by
        have free : service.existsRunningService iid = false := idle
        rw [LocalService.removeServiceInstance, free]
        rfl
      simp only [refused]
      rfl

theorem removeServiceInstance_of_runs (valid : this.core.isValid = true) (answers : Answers γ)
    (runs : this.isServiceInstanceRunning sid iid = true) :
    ∃ service left, this.core.serviceMap.find sid = some service ∧
      service.removeServiceInstance iid = some left ∧
      removeServiceInstance answers sid iid this =
        (answers.serviceCloses.mapError .serviceException,
          this.withServices (this.core.serviceMap.replace sid left)) := by
  rcases Runtime.isServiceInstanceRunning_iff.mp runs with ⟨service, known, running⟩
  cases removed : service.removeServiceInstance iid with
  | none =>
      rw [LocalService.removeServiceInstance, running] at removed
      cases removed
  | some left =>
      refine ⟨service, left, known, removed, ?_⟩
      rw [removeServiceInstance, bind_of_ok (requireValid_of_valid valid), get_bind, known]
      simp only [removed]
      exact require_apply _ (this.withServices (this.core.serviceMap.replace sid left))

theorem removeService_of_valid (valid : this.core.isValid = true) (sid : UUID) :
    removeService sid this = (.error (.serviceException .SERVICE_NOT_KNOWN),
      this.withServices (this.core.serviceMap.unbind sid)) := by
  rw [removeService, bind_of_ok (requireValid_of_valid valid), get_bind]
  cases known : this.core.serviceMap.find sid with
  | none =>
      rw [Table.unbind_of_fresh known]
      rfl
  | some service => rfl

/-- The runtime when an instance has its new identifier, or is lost. -/
def renamed (this : Runtime γ) (sid iid newIid : UUID) (service : LocalService) : Runtime γ :=
  this.withServices (this.core.serviceMap.replace sid (service.setIID iid newIid).1)

theorem changeIIDOfService_of_known (iid newIid : UUID) {service : LocalService}
    (valid : this.core.isValid = true) (answers : Answers γ)
    (known : this.core.serviceMap.find sid = some service) :
    changeIIDOfService answers sid iid newIid this =
      if (service.setIID iid newIid).2 = true then
        if answers.mesh = true then
          (.ok (), (renamed this sid iid newIid service).notify (.updateIID sid iid newIid))
        else (.error (.runtimeException .INVALID_OVERLAY), renamed this sid iid newIid service)
      else
        (.error (.serviceException (.text (if service.existsRunningService iid then
          "Failed to change IID!" else "Service not fount!"))), renamed this sid iid newIid service) := by
  rw [changeIIDOfService, bind_of_ok (requireValid_of_valid valid), get_bind, known]
  by_cases answered : (service.setIID iid newIid).2 = true
  · simp only [answered, if_true]
    cases answers.mesh with
    | false => rfl
    | true => rfl
  · simp only [answered]
    rfl

theorem changeIIDOfService_of_unknown {newIid : UUID} (valid : this.core.isValid = true)
    (answers : Answers γ) (unknown : this.core.serviceMap.find sid = none) :
    changeIIDOfService answers sid iid newIid this =
      (.error (.serviceException .SERVICE_NOT_KNOWN), this) := by
  rw [changeIIDOfService, bind_of_ok (requireValid_of_valid valid), get_bind, unknown]
  rfl

/-- What runs after a rename of a running instance. -/
theorem isServiceInstanceRunning_renamed (newIid : UUID) {service : LocalService}
    (known : this.core.serviceMap.find sid = some service)
    (runs : service.existsRunningService iid = true) (otherSid other : UUID) :
    (renamed this sid iid newIid service).isServiceInstanceRunning otherSid other =
      (decide ((otherSid, other) = (sid, newIid)) || (decide ((otherSid, other) ≠ (sid, iid)) &&
        this.isServiceInstanceRunning otherSid other)) := by
  rw [Runtime.isServiceInstanceRunning, renamed, Runtime.withServices, Table.find_replace, known]
  by_cases here : otherSid = sid
  · rw [if_pos here, here, Runtime.isServiceInstanceRunning_of_find known]
    change (service.setIID iid newIid).1.existsRunningService other = _
    rw [LocalService.existsRunningService_setIID newIid runs]
    simp
  · rw [if_neg here]
    simp [here, Runtime.isServiceInstanceRunning]

section Deploy

variable {groups : Table UUID γ → Table UUID γ}

theorem serves_prepared (serves : this.Serves) : (prepared this sid iid groups).Serves :=
  (serves.bindService sid).addInstance rfl

theorem serves_opened (serves : this.Serves) (sap : Option SAPInfo) :
    (opened this sid iid groups sap).Serves := by
  unfold opened
  split
  · exact (serves_prepared serves).setSAP sid iid sap
  · exact serves_prepared serves

theorem notified_opened (sap : Option SAPInfo) :
    (opened this sid iid groups sap).notified = this.notified := by
  have notified := (groups_withInstance this sid iid).2.1
  unfold opened Runtime.setSAP
  split
  · split
    · exact notified
    · exact notified
  · exact notified

/-- The description of an instance names its service and the instance. -/
theorem info_of_serves {info : ServiceInstanceInfo} (serves : this.Serves)
    (described : this.core.getInstancesOfServiceInfo sid iid = some info) :
    info.sid = sid ∧ info.iid = iid := by
  rcases Option.bind_eq_some_iff.mp described with ⟨service, known, shown⟩
  rcases Option.map_eq_some_iff.mp shown with ⟨instance', found, rfl⟩
  exact ⟨serves sid service known iid instance' found,
    service.keyed (iid, instance') (Table.find_eq_some_iff.mp found)⟩

end Deploy

end Method

/-- The instances that a list of notices leaves, each with its service. -/
def replayed (live : List (UUID × UUID)) : ServiceUpdate → List (UUID × UUID)
  | .addService info => live.insert (info.sid, info.iid)
  | .removeService sid iid => live.filter fun running => running ≠ (sid, iid)
  | .updateIID sid oldIid newIid =>
      if live.contains (sid, oldIid) then
        (live.filter fun running => running ≠ (sid, oldIid)).insert (sid, newIid)
      else
        live

def replay (updates : List ServiceUpdate) : List (UUID × UUID) :=
  updates.foldl replayed []

theorem replay_concat (updates : List ServiceUpdate) (last : ServiceUpdate) :
    replay (updates ++ [last]) = replayed (replay updates) last := by
  rw [replay, List.foldl_append]
  rfl

/-- The calls on the runtime that change its services. -/
inductive RuntimeCall where
  | createLocalService (sid : UUID) (ftParams : Bool) (generated : UUID)
  | createLocalServiceReplica (sid generated : UUID)
  | createReplicationGroup (sid rgid : UUID) (ftParams : Bool) (generated : UUID)
  | addService (service : ServiceAbstract)
  | changeIIDOfService (sid iid newIid : UUID)
  | removeServiceInstance (sid iid : UUID)
  /-- `removeService` of a whole service. -/
  | removeService (sid : UUID)

def RuntimeCall.method {γ : Type} (answers : Answers γ) : RuntimeCall → Method γ Unit
  | createLocalService sid ftParams generated =>
      Method.createLocalService answers sid ftParams generated
  | createLocalServiceReplica sid generated =>
      Method.createLocalServiceReplica answers sid generated
  | createReplicationGroup sid rgid ftParams generated =>
      Method.createReplicationGroup answers sid rgid ftParams generated
  | addService service => Method.addService service >>= fun _ => pure ()
  | changeIIDOfService sid iid newIid => Method.changeIIDOfService answers sid iid newIid
  | removeServiceInstance sid iid => Method.removeServiceInstance answers sid iid
  | removeService sid => Method.removeService sid

/-- A runtime with how its last call ended and what it was before. -/
structure Told (γ : Type) where
  before : Runtime γ
  ends : Except Thrown Unit
  runtime : Runtime γ

namespace Told

variable {γ : Type}

/-- One call, and what the parts around the runtime do during it. -/
def step (this : Told γ) (event : RuntimeCall × Answers γ) : Result (Told γ) :=
  match event.1.method event.2 this.runtime with
  | (.error (.fault fault), _) => .error fault
  | (ends, after) => .ok { before := this.runtime, ends, runtime := after }

def run (this : Told γ) (events : List (RuntimeCall × Answers γ)) : Result (Told γ) :=
  events.foldlM step this

/-- The instances that run are those of the notices, each is stored under the identifiers
that it reports, and a call that threw has changed neither. -/
structure Agrees (this : Told γ) : Prop where
  pairs : ∀ sid iid, this.runtime.isServiceInstanceRunning sid iid = true ↔
    (sid, iid) ∈ replay this.runtime.notified
  own : ∀ sid localService iid service, this.runtime.core.serviceMap.find sid = some localService →
    localService.runningServices.find iid = some service → service.sid = sid ∧ service.iid = iid
  unchanged : ∀ thrown, this.ends = .error thrown →
    (∀ sid iid, this.runtime.isServiceInstanceRunning sid iid =
      this.before.isServiceInstanceRunning sid iid) ∧
    ∀ pair, pair ∈ replay this.runtime.notified ↔ pair ∈ replay this.before.notified

/-- The condition on a creation: the factory makes no instance, or nothing after it throws,
or the instance is there already. -/
def CreationFits (this : Runtime γ) (answers : Answers γ) (sid iid : UUID)
    (ends : Except Thrown Unit) : Prop :=
  answers.faultTolerance = true → (Method.instantiates answers this sid).isOk = true →
    (ends.isOk = true ∧ answers.serviceOpens.isOk = true ∧ answers.mesh = true) ∨
      this.isServiceInstanceRunning sid iid = true

/-- The condition on a call of a runtime that runs. -/
def CallFits (this : Runtime γ) (answers : Answers γ) : RuntimeCall → Prop
  | .createLocalService sid ftParams generated =>
      CreationFits this answers sid generated
        (if ftParams then answers.groupOpens.mapError .serviceException else .ok ())
  | .createLocalServiceReplica sid generated =>
      CreationFits this answers sid generated (answers.reserves.mapError .runtimeException)
  | .createReplicationGroup sid _ ftParams generated => ftParams = true →
      CreationFits this answers sid generated (answers.groupOpens.mapError .serviceException)
  | .addService service => this.isServiceInstanceRunning service.sid service.iid = true
  | .changeIIDOfService sid iid newIid => this.isServiceInstanceRunning sid iid = true →
      newIid = iid ∨ (this.isServiceInstanceRunning sid newIid = false ∧ answers.mesh = true)
  | .removeServiceInstance sid iid => this.isServiceInstanceRunning sid iid = false
  | .removeService sid => ∀ iid, this.isServiceInstanceRunning sid iid = false

/-- The condition on a call. -/
def Fits (this : Told γ) (event : RuntimeCall × Answers γ) : Prop :=
  this.runtime.core.isValid = true → CallFits this.runtime event.2 event.1

/-- Every call of a run meets the condition where it is made. -/
def FitsAll : Told γ → List (RuntimeCall × Answers γ) → Prop
  | _, [] => True
  | this, first :: rest =>
      ∀ after, this.step first = .ok after → this.Fits first ∧ after.FitsAll rest

theorem runs : Runs (@step γ) run Fits FitsAll where
  run_nil _ := rfl
  run_cons _ _ _ := List.foldlM_cons ..
  allFit_nil _ := trivial
  allFit_cons _ _ _ := Iff.rfl

section Steps

variable {this after : Told γ}

theorem step_eq_ok {event : RuntimeCall × Answers γ} (done : this.step event = .ok after) :
    event.1.method event.2 this.runtime = (after.ends, after.runtime) ∧
      after.before = this.runtime := by
  rw [step] at done
  split at done
  · cases done
  · rename_i ended
    cases done
    exact ⟨ended, rfl⟩

theorem Agrees.serves (agrees : this.Agrees) : this.runtime.Serves := by
  intro sid localService known iid service found
  exact (agrees.own sid localService iid service known found).1

theorem own_of_serves (serves : after.runtime.Serves) (sid : UUID) (localService : LocalService)
    (iid : UUID) (service : ServiceAbstract)
    (known : after.runtime.core.serviceMap.find sid = some localService)
    (found : localService.runningServices.find iid = some service) :
    service.sid = sid ∧ service.iid = iid :=
  ⟨serves sid localService known iid service found,
    localService.keyed (iid, service) (Table.find_eq_some_iff.mp found)⟩

/-- A state that agrees after a step that told the mesh nothing. -/
theorem agrees_iff_of_quiet (agrees : this.Agrees) (started : after.before = this.runtime)
    (serves : after.runtime.Serves) (quiet : after.runtime.notified = this.runtime.notified) :
    after.Agrees ↔ ∀ sid iid, after.runtime.isServiceInstanceRunning sid iid =
      this.runtime.isServiceInstanceRunning sid iid := by
  constructor
  · intro agreesAfter sid iid
    rw [Bool.eq_iff_iff, agreesAfter.pairs, agrees.pairs, quiet]
  · intro same
    constructor
    · intro sid iid
      rw [same, agrees.pairs, quiet]
    · exact own_of_serves serves
    · intro thrown threw
      rw [started, quiet]
      exact ⟨same, fun pair => Iff.rfl⟩

/-- A state that agrees after a step that returned. -/
theorem agrees_of_pairs (returned : after.ends = .ok ()) (serves : after.runtime.Serves)
    (pairs : ∀ sid iid, after.runtime.isServiceInstanceRunning sid iid = true ↔
      (sid, iid) ∈ replay after.runtime.notified) : after.Agrees := by
  constructor
  · exact pairs
  · exact own_of_serves serves
  · intro thrown threw
    rw [returned] at threw
    cases threw

/-- A call that changed the services without a word, and then told the mesh of it. -/
theorem agrees_of_notify {changed : Runtime γ} {update : ServiceUpdate}
    (ended : (.ok (), changed.notify update) = (after.ends, after.runtime))
    (serves : changed.Serves) (quiet : changed.notified = this.runtime.notified)
    (told : ∀ sid iid, changed.isServiceInstanceRunning sid iid = true ↔
      (sid, iid) ∈ replayed (replay this.runtime.notified) update) : after.Agrees := by
  rcases Prod.mk.inj ended with ⟨returned, reached⟩
  apply agrees_of_pairs returned.symm
  · rw [← reached]
    exact serves
  · intro sid iid
    rw [← reached]
    change changed.isServiceInstanceRunning sid iid = true ↔
      (sid, iid) ∈ replay (changed.notified ++ [update])
    rw [told, replay_concat, quiet]

/-- A call that left the runtime as it was. -/
theorem agrees_of_same (agrees : this.Agrees) (started : after.before = this.runtime)
    (same : after.runtime = this.runtime) : after.Agrees := by
  have serves : after.runtime.Serves := same ▸ agrees.serves
  rw [agrees_iff_of_quiet agrees started serves (congrArg Runtime.notified same), same]
  intro sid iid
  rfl

theorem agrees_iff_of_added {sid iid : UUID} (agrees : this.Agrees)
    (started : after.before = this.runtime) (serves : after.runtime.Serves)
    (quiet : after.runtime.notified = this.runtime.notified)
    (added : ∀ otherSid other, after.runtime.isServiceInstanceRunning otherSid other =
      (decide ((otherSid, other) = (sid, iid)) ||
        this.runtime.isServiceInstanceRunning otherSid other)) :
    after.Agrees ↔ this.runtime.isServiceInstanceRunning sid iid = true := by
  rw [agrees_iff_of_quiet agrees started serves quiet]
  simp only [added]
  constructor
  · intro same
    rw [← same sid iid]
    simp
  · intro runs otherSid other
    by_cases here : (otherSid, other) = (sid, iid)
    · cases here
      simp [runs]
    · simp [here]

section Deploy

open Method

variable {answers : Answers γ} {sid iid : UUID} {prepare : Method γ Unit}
  {ends : Except Thrown Unit} {groups : Table UUID γ → Table UUID γ}

/-- An instance that was made, and of which nothing was told. -/
theorem prepared_agrees_iff (agrees : this.Agrees) (started : after.before = this.runtime)
    (reached : prepared this.runtime sid iid groups = after.runtime) :
    after.Agrees ↔ this.runtime.isServiceInstanceRunning sid iid = true := by
  apply agrees_iff_of_added agrees started
  · rw [← reached]
    exact serves_prepared agrees.serves
  · rw [← reached]
    exact (groups_withInstance this.runtime sid iid).2.1
  · rw [← reached]
    exact isServiceInstanceRunning_prepared

/-- An instance that was opened is told of if the mesh is there. -/
theorem opened_agrees_iff {sap : Option SAPInfo} (agrees : this.Agrees)
    (started : after.before = this.runtime) (valid : this.runtime.core.isValid = true)
    (done : announce answers sid iid (opened this.runtime sid iid groups sap) =
      (after.ends, after.runtime)) :
    after.Agrees ↔
      answers.mesh = true ∨ this.runtime.isServiceInstanceRunning sid iid = true := by
  rcases exists_info_opened this.runtime sid iid groups sap with ⟨info, described⟩
  rw [announce_of_runs ((valid_opened sap).trans valid) described] at done
  have served : (opened this.runtime sid iid groups sap).Serves := serves_opened agrees.serves sap
  have runs : ∀ otherSid other,
      (opened this.runtime sid iid groups sap).isServiceInstanceRunning otherSid other =
        (decide ((otherSid, other) = (sid, iid)) ||
          this.runtime.isServiceInstanceRunning otherSid other) := by
    intro otherSid other
    rw [isServiceInstanceRunning_opened, isServiceInstanceRunning_prepared]
  cases there : answers.mesh with
  | false =>
      rw [there] at done
      have reached : opened this.runtime sid iid groups sap = after.runtime :=
        (Prod.mk.inj done).2
      rw [reached] at runs served
      rw [agrees_iff_of_added agrees started served
        ((congrArg Runtime.notified reached).symm.trans (notified_opened sap)) runs]
      simp
  | true =>
      rw [there] at done
      rcases info_of_serves served described with ⟨sameSid, sameIid⟩
      apply iff_of_true
      · apply agrees_of_notify done served (notified_opened sap)
        intro otherSid other
        rw [runs, replayed, List.mem_insert_iff, sameSid, sameIid, ← agrees.pairs]
        simp
      · exact Or.inl rfl

/-- A creation that makes an instance keeps map and notices together exactly when it goes
through, or adds nothing. -/
theorem deploy_agrees_iff (agrees : this.Agrees) (started : after.before = this.runtime)
    (prepares : Prepares prepare ends groups) (valid : this.runtime.core.isValid = true)
    (done : deploy answers sid iid prepare this.runtime = (after.ends, after.runtime)) :
    after.Agrees ↔ ((instantiates answers this.runtime sid).isOk = true →
      (ends.isOk = true ∧ answers.serviceOpens.isOk = true ∧ answers.mesh = true) ∨
        this.runtime.isServiceInstanceRunning sid iid = true) := by
  cases made : instantiates answers this.runtime sid with
  | error thrown =>
      rw [deploy_of_unknown valid made] at done
      rcases Prod.mk.inj done with ⟨-, reached⟩
      apply iff_of_true
      · rw [agrees_iff_of_quiet agrees started]
        · rw [← reached]
          exact this.runtime.isServiceInstanceRunning_bindService sid
        · rw [← reached]
          exact agrees.serves.bindService sid
        · rw [← reached]
          rfl
      · intro impossible
        cases impossible
  | ok _ =>
      cases ends with
      | error thrown =>
          rw [deploy_of_unprepared prepares valid made] at done
          rw [prepared_agrees_iff agrees started (Prod.mk.inj done).2]
          simp [Except.isOk, Except.toBool]
      | ok _ =>
          cases opens : answers.serviceOpens with
          | error message =>
              rw [deploy_of_unopened prepares valid made opens] at done
              rw [prepared_agrees_iff agrees started (Prod.mk.inj done).2]
              simp [Except.isOk, Except.toBool]
          | ok sap =>
              rw [deploy_of_opened prepares valid made opens] at done
              rw [opened_agrees_iff agrees started valid done]
              simp [Except.isOk, Except.toBool]

theorem creation_agrees_iff (agrees : this.Agrees) (started : after.before = this.runtime)
    (prepares : Prepares prepare ends groups) (valid : this.runtime.core.isValid = true)
    (done : (requireOverlay answers.faultTolerance >>= fun _ => deploy answers sid iid prepare)
      this.runtime = (after.ends, after.runtime)) :
    after.Agrees ↔ CreationFits this.runtime answers sid iid ends := by
  rw [CreationFits]
  cases available : answers.faultTolerance with
  | false =>
      rw [bind_of_error (requireOverlay_of_missing available this.runtime)] at done
      apply iff_of_true
      · exact agrees_of_same agrees started (Prod.mk.inj done).2.symm
      · intro impossible
        cases impossible
  | true =>
      rw [bind_of_ok (requireOverlay_of_available available this.runtime)] at done
      rw [deploy_agrees_iff agrees started prepares valid done]
      constructor
      · intro fits _
        exact fits
      · intro fits
        exact fits rfl

/-- A call that throws when it has found the overlay changes nothing. -/
theorem refused_agrees {thrown : Thrown} (agrees : this.Agrees)
    (started : after.before = this.runtime)
    (done : (requireOverlay answers.faultTolerance >>= fun _ => (throw thrown : Method γ Unit))
      this.runtime = (after.ends, after.runtime)) : after.Agrees := by
  have kept : this.runtime = after.runtime := by
    cases available : answers.faultTolerance with
    | false =>
        rw [bind_of_error (requireOverlay_of_missing available this.runtime)] at done
        exact (Prod.mk.inj done).2
    | true =>
        rw [bind_of_ok (requireOverlay_of_available available this.runtime)] at done
        exact (Prod.mk.inj done).2
  exact agrees_of_same agrees started kept.symm

end Deploy

/-- A runtime that does not run throws, whatever is called. -/
theorem method_of_closed (closed : this.runtime.core.isValid = false) (call : RuntimeCall)
    (answers : Answers γ) :
    call.method answers this.runtime =
      (.error (.runtimeException .INVALID_RUNTIME), this.runtime) := by
  cases call with
  | addService service =>
      exact Method.bind_of_error (Method.bind_of_error (Method.requireValid_of_closed closed))
  | _ => exact Method.bind_of_error (Method.requireValid_of_closed closed)

section Rename

variable {answers : Answers γ} {sid iid newIid : UUID} {service : LocalService}

/-- A rename that threw was made all the same. -/
theorem renamed_agrees_iff (agrees : this.Agrees) (started : after.before = this.runtime)
    (known : this.runtime.core.serviceMap.find sid = some service)
    (runs : service.existsRunningService iid = true)
    (reached : Method.renamed this.runtime sid iid newIid service = after.runtime) :
    after.Agrees ↔ newIid = iid := by
  have served : after.runtime.Serves := by
    rw [← reached]
    exact agrees.serves.replace ((agrees.serves sid service known).setIID iid newIid)
  rw [agrees_iff_of_quiet agrees started served (by rw [← reached]; rfl), ← reached]
  simp only [Method.isServiceInstanceRunning_renamed newIid known runs]
  have here : this.runtime.isServiceInstanceRunning sid iid = true := by
    rw [Runtime.isServiceInstanceRunning_of_find known, runs]
  constructor
  · intro same
    have kept := same sid iid
    rw [here] at kept
    simpa [eq_comm] using kept
  · rintro rfl otherSid other
    by_cases this_one : (otherSid, other) = (sid, newIid)
    · cases this_one
      simp [here]
    · simp [this_one]

/-- A rename that the mesh was told of. -/
theorem agrees_of_renamed (agrees : this.Agrees)
    (known : this.runtime.core.serviceMap.find sid = some service)
    (runs : service.existsRunningService iid = true)
    (ended : (.ok (), (Method.renamed this.runtime sid iid newIid service).notify
      (.updateIID sid iid newIid)) = (after.ends, after.runtime)) : after.Agrees := by
  have listed : (sid, iid) ∈ replay this.runtime.notified := by
    rw [← agrees.pairs, Runtime.isServiceInstanceRunning_of_find known, runs]
  have served : (Method.renamed this.runtime sid iid newIid service).Serves :=
    agrees.serves.replace ((agrees.serves sid service known).setIID iid newIid)
  apply agrees_of_notify ended served rfl
  intro otherSid other
  rw [Method.isServiceInstanceRunning_renamed newIid known runs, replayed, if_pos (List.contains_iff_mem.mpr listed),
    List.mem_insert_iff, List.mem_filter, ← agrees.pairs]
  simp [and_comm]

theorem rename_agrees_iff (agrees : this.Agrees)
    (started : after.before = this.runtime) (valid : this.runtime.core.isValid = true)
    (done : Method.changeIIDOfService answers sid iid newIid this.runtime =
      (after.ends, after.runtime)) :
    after.Agrees ↔ (this.runtime.isServiceInstanceRunning sid iid = true → newIid = iid ∨
      (this.runtime.isServiceInstanceRunning sid newIid = false ∧ answers.mesh = true)) := by
  cases known : this.runtime.core.serviceMap.find sid with
  | none =>
      rw [Method.changeIIDOfService_of_unknown valid answers known] at done
      apply iff_of_true
      · exact agrees_of_same agrees started (Prod.mk.inj done).2.symm
      · intro runs
        rw [Runtime.isServiceInstanceRunning, known] at runs
        cases runs
  | some service =>
      have running := Runtime.isServiceInstanceRunning_of_find known
      rw [Method.changeIIDOfService_of_known iid newIid valid answers known] at done
      rw [running, running]
      cases runs : service.existsRunningService iid with
      | false =>
          have kept : Method.renamed this.runtime sid iid newIid service = this.runtime := by
            rw [Method.renamed, LocalService.setIID_of_unknown newIid runs, Table.replace_self known]
            rfl
          rw [LocalService.setIID_of_unknown newIid runs, if_neg Bool.false_ne_true, kept] at done
          apply iff_of_true
          · exact agrees_of_same agrees started (Prod.mk.inj done).2.symm
          · intro impossible
            cases impossible
      | true =>
          have answer := LocalService.setIID_answer newIid runs
          by_cases answered : (service.setIID iid newIid).2 = true
          · rw [if_pos answered] at done
            by_cases there : answers.mesh = true
            · rw [if_pos there] at done
              apply iff_of_true (agrees_of_renamed agrees known runs done)
              intro _
              rcases answer.mp answered with same | free
              · exact Or.inl same
              · exact Or.inr ⟨free, there⟩
            · rw [if_neg there] at done
              rw [renamed_agrees_iff agrees started known runs (Prod.mk.inj done).2]
              simp [there]
          · rw [if_neg answered] at done
            rw [renamed_agrees_iff agrees started known runs (Prod.mk.inj done).2]
            rw [answer, not_or] at answered
            simp [answered.2]

end Rename

theorem removeServiceInstance_agrees_iff {answers : Answers γ} {sid iid : UUID}
    (agrees : this.Agrees) (started : after.before = this.runtime)
    (valid : this.runtime.core.isValid = true)
    (done : Method.removeServiceInstance answers sid iid this.runtime =
      (after.ends, after.runtime)) :
    after.Agrees ↔ this.runtime.isServiceInstanceRunning sid iid = false := by
  cases runs : this.runtime.isServiceInstanceRunning sid iid with
  | false =>
      rw [Method.removeServiceInstance_of_idle valid answers runs] at done
      exact iff_of_true (agrees_of_same agrees started (Prod.mk.inj done).2.symm) rfl
  | true =>
      rcases Method.removeServiceInstance_of_runs valid answers runs with
        ⟨service, left, known, removed, ended⟩
      rw [ended] at done
      have reached := (Prod.mk.inj done).2
      rcases LocalService.removeServiceInstance_eq_some removed with ⟨-, gone⟩
      apply iff_of_false
      · intro agreesAfter
        have listed := (agrees.pairs sid iid).mp runs
        have quiet : after.runtime.notified = this.runtime.notified := by
          rw [← reached]
          rfl
        have held : after.runtime.core.serviceMap.find sid = some left := by
          rw [← reached]
          change (this.runtime.core.serviceMap.replace sid left).find sid = some left
          rw [Table.find_replace, if_pos rfl, known, Option.map_some]
        rw [← quiet, ← agreesAfter.pairs, Runtime.isServiceInstanceRunning_of_find held, gone] at listed
        simp at listed
      · exact Bool.noConfusion

theorem removeService_agrees_iff {sid : UUID} (agrees : this.Agrees)
    (started : after.before = this.runtime) (valid : this.runtime.core.isValid = true)
    (done : Method.removeService sid this.runtime = (after.ends, after.runtime)) :
    after.Agrees ↔ ∀ iid, this.runtime.isServiceInstanceRunning sid iid = false := by
  rw [Method.removeService_of_valid valid] at done
  have reached := (Prod.mk.inj done).2
  have runs : ∀ otherSid other, after.runtime.isServiceInstanceRunning otherSid other =
      (decide (otherSid ≠ sid) && this.runtime.isServiceInstanceRunning otherSid other) := by
    intro otherSid other
    rw [← reached]
    simp only [Runtime.isServiceInstanceRunning, Runtime.withServices, Table.find_unbind]
    by_cases here : otherSid = sid
    · simp [here]
    · simp [here]
  have served : after.runtime.Serves := by
    rw [← reached]
    exact agrees.serves.unbind sid
  rw [agrees_iff_of_quiet agrees started served (by rw [← reached]; rfl)]
  simp only [runs]
  constructor
  · intro same iid
    rw [← same sid iid]
    simp
  · intro idle otherSid other
    by_cases here : otherSid = sid
    · simp [here, idle]
    · simp [here]

/-- Map and notices still agree after a call exactly when the call meets the condition. -/
theorem agrees_step_iff {event : RuntimeCall × Answers γ} (agrees : this.Agrees)
    (done : this.step event = .ok after) : after.Agrees ↔ this.Fits event := by
  rcases step_eq_ok done with ⟨ended, started⟩
  rcases event with ⟨call, answers⟩
  rw [Fits]
  cases valid : this.runtime.core.isValid with
  | false =>
      rw [method_of_closed valid] at ended
      apply iff_of_true
      · exact agrees_of_same agrees started (Prod.mk.inj ended).2.symm
      · intro impossible
        cases impossible
  | true =>
      rw [forall_prop_of_true rfl]
      cases call with
      | createLocalService sid ftParams generated =>
          rw [RuntimeCall.method, Method.createLocalService,
            Method.bind_of_ok (Method.requireValid_of_valid valid)] at ended
          cases ftParams with
          | true =>
              exact creation_agrees_iff agrees started
                (Method.prepares_openReplicationGroup answers generated) valid ended
          | false => exact creation_agrees_iff agrees started Method.prepares_pure valid ended
      | createLocalServiceReplica sid generated =>
          rw [RuntimeCall.method, Method.createLocalServiceReplica,
            Method.bind_of_ok (Method.requireValid_of_valid valid)] at ended
          exact creation_agrees_iff agrees started (Method.prepares_require _) valid ended
      | createReplicationGroup sid rgid ftParams generated =>
          rw [RuntimeCall.method, Method.createReplicationGroup,
            Method.bind_of_ok (Method.requireValid_of_valid valid)] at ended
          cases ftParams with
          | true =>
              rw [CallFits, forall_prop_of_true rfl]
              exact creation_agrees_iff agrees started
                (Method.prepares_openReplicationGroup answers rgid) valid ended
          | false =>
              apply iff_of_true (refused_agrees agrees started ended)
              intro impossible
              cases impossible
      | addService service =>
          rw [RuntimeCall.method, Method.addService_of_valid valid] at ended
          have reached := (Prod.mk.inj ended).2
          apply agrees_iff_of_added agrees started
          · rw [← reached]
            exact (agrees.serves.bindService service.sid).addInstance rfl
          · rw [← reached]
            rcases this.runtime.addInstance_bindService service.sid service with ⟨before, -, -, added⟩
            rw [added]
            rfl
          · rw [← reached]
            exact this.runtime.isServiceInstanceRunning_addInstance service.sid service
      | changeIIDOfService sid iid newIid => exact rename_agrees_iff agrees started valid ended
      | removeServiceInstance sid iid =>
          exact removeServiceInstance_agrees_iff agrees started valid ended
      | removeService sid => exact removeService_agrees_iff agrees started valid ended

end Steps

/-- A runtime without services that has told nothing. -/
def started (running : Bool) (factory : List UUID) (groups : Table UUID γ) : Told γ :=
  let runtime : Runtime γ :=
    { core := { running, serviceMap := .empty }, factory, replicationGroups := groups, notified := [] }
  { before := runtime, ends := .ok (), runtime }

theorem agrees_started (running : Bool) (factory : List UUID) (groups : Table UUID γ) :
    (started running factory groups).Agrees := by
  apply agrees_of_pairs rfl
  · rintro sid service ⟨⟩
  · intro sid iid
    apply iff_of_false
    · intro impossible
      cases impossible
    · exact List.not_mem_nil

/-- In every state of a run the services are those that the mesh was told of, exactly when
no creation throws after it made its instance, no instance is added from outside or
removed, and no rename takes an identifier that is in use or misses the mesh. -/
theorem agrees_through_calls_iff (running : Bool) (factory : List UUID) (groups : Table UUID γ)
    (events : List (RuntimeCall × Answers γ)) :
    (∀ before, before <+: events → ∀ reached,
      (started running factory groups).run before = .ok reached → reached.Agrees) ↔
        (started running factory groups).FitsAll events :=
  @Runs.always_iff (Told γ) (RuntimeCall × Answers γ) step run Fits FitsAll (fun _ => True) Agrees runs
    (fun _ _ => trivial) (fun _ agrees done => agrees_step_iff agrees done)
    (started running factory groups) events trivial (agrees_started running factory groups)

/-- A service is created and then removed: the removal throws that the service is not known,
and the service is gone. -/
theorem agrees_fails_after_removal :
    ∃ (events : List (RuntimeCall × Answers Nat)) (reached : Told Nat),
      (started true [⟨List.replicate 16 1⟩] .empty).run events = .ok reached ∧ ¬reached.Agrees := by
  refine ⟨[(.createLocalService ⟨List.replicate 16 1⟩ false ⟨List.replicate 16 2⟩,
      { Creation.poor with mesh := true, groupOpens := .ok () }),
    (.removeService ⟨List.replicate 16 1⟩,
      { Creation.poor with mesh := true, groupOpens := .ok () })], _, rfl, ?_⟩
  intro agrees
  have kept := (agrees.unchanged (.serviceException .SERVICE_NOT_KNOWN) rfl).1
    ⟨List.replicate 16 1⟩ ⟨List.replicate 16 2⟩
  exact absurd kept (by decide)

end Told

end Stheno.Peer
