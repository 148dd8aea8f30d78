import Stheno.Peer.Runtime

/-!
# What a failed creation leaves

A method that creates an instance registers it first and meets its reasons to fail
later.  A call that throws leaves the service map and the replication groups as they
were exactly when it throws before it registers anything, or when what it would register
is there already.
-/

namespace Stheno.Peer

namespace LocalService

theorem ext {first second : LocalService} (sameSid : first.sid = second.sid)
    (same : first.runningServices = second.runningServices) : first = second := by
  cases first
  cases second
  cases sameSid
  cases same
  rfl

/-- What runs after an instance is added. -/
theorem existsRunningService_addServiceInstance (this : LocalService) (service : ServiceAbstract)
    (iid : UUID) : (this.addServiceInstance service).1.existsRunningService iid =
      (decide (iid = service.iid) || this.existsRunningService iid) := by
  simp only [existsRunningService, addServiceInstance, Table.find_bind]
  by_cases here : iid = service.iid
  · simp [here]
  · simp [here]

theorem addServiceInstance_of_taken {this : LocalService} {service : ServiceAbstract}
    (taken : this.existsRunningService service.iid = true) :
    (this.addServiceInstance service).1 = this := by
  apply ext
  · rfl
  · exact Table.bind_of_taken taken service

/-- A new access point changes nothing about what runs. -/
theorem existsRunningService_setSAP (this : LocalService) (iid : UUID) (sap : Option SAPInfo)
    (other : UUID) :
    (this.setSAP iid sap).existsRunningService other = this.existsRunningService other := by
  unfold setSAP
  cases found : this.runningServices.find iid with
  | none => rfl
  | some service =>
      simp only [existsRunningService, Table.find_replace]
      by_cases here : other = service.iid
      · rw [if_pos here, Option.isSome_map, here]
      · rw [if_neg here]

end LocalService

namespace Runtime

variable {γ : Type}

theorem isServiceInstanceRunning_iff {this : Runtime γ} {sid iid : UUID} :
    this.isServiceInstanceRunning sid iid = true ↔ ∃ service,
      this.core.serviceMap.find sid = some service ∧ service.existsRunningService iid = true := by
  unfold isServiceInstanceRunning
  cases this.core.serviceMap.find sid with
  | none => simp
  | some service => simp

/-- A service under which something changes. -/
theorem isServiceInstanceRunning_of_find {this : Runtime γ} {sid : UUID} {service : LocalService}
    (known : this.core.serviceMap.find sid = some service) (iid : UUID) :
    this.isServiceInstanceRunning sid iid = service.existsRunningService iid := by
  rw [isServiceInstanceRunning, known]

/-- A service that is bound without instances runs nothing new. -/
theorem isServiceInstanceRunning_bindService (this : Runtime γ) (sid otherSid other : UUID) :
    (this.bindService sid).isServiceInstanceRunning otherSid other =
      this.isServiceInstanceRunning otherSid other := by
  simp only [isServiceInstanceRunning, bindService, withServices, Table.find_bind]
  by_cases here : otherSid = sid
  · rw [if_pos here, here]
    cases this.core.serviceMap.find sid with
    | none => rfl
    | some service => rfl
  · rw [if_neg here]

@[simp]
theorem isServiceInstanceRunning_groups (this : Runtime γ) (groups : Table UUID γ) (sid iid : UUID) :
    ({ this with replicationGroups := groups } : Runtime γ).isServiceInstanceRunning sid iid =
      this.isServiceInstanceRunning sid iid :=
  rfl

/-- A new access point changes nothing about what runs. -/
theorem isServiceInstanceRunning_setSAP (this : Runtime γ) (sid iid : UUID) (sap : Option SAPInfo)
    (otherSid other : UUID) : (this.setSAP sid iid sap).isServiceInstanceRunning otherSid other =
      this.isServiceInstanceRunning otherSid other := by
  unfold setSAP
  cases known : this.core.serviceMap.find sid with
  | none => rfl
  | some service =>
      simp only [isServiceInstanceRunning, withServices, Table.find_replace]
      by_cases here : otherSid = sid
      · rw [if_pos here, here, known]
        exact service.existsRunningService_setSAP iid sap other
      · rw [if_neg here]

/-- A service is bound, and an instance added to it. -/
theorem addInstance_bindService (this : Runtime γ) (sid : UUID) (service : ServiceAbstract) :
    ∃ before : LocalService,
      (this.bindService sid).core.serviceMap.find sid = some before ∧
      (∀ iid, before.existsRunningService iid = this.isServiceInstanceRunning sid iid) ∧
      (this.bindService sid).addInstance sid service =
        ((this.bindService sid).withServices ((this.bindService sid).core.serviceMap.replace sid
          (before.addServiceInstance service).1), !this.isServiceInstanceRunning sid service.iid) := by
  have found : (this.bindService sid).core.serviceMap.find sid =
      some ((this.core.serviceMap.find sid).getD (.new sid)) :=
    (Table.find_bind _ _ _ _).trans (if_pos rfl)
  have runs : ∀ iid, ((this.core.serviceMap.find sid).getD (.new sid)).existsRunningService iid =
      this.isServiceInstanceRunning sid iid := by
    intro iid
    rw [← isServiceInstanceRunning_bindService this sid, isServiceInstanceRunning_of_find found]
  refine ⟨_, found, runs, ?_⟩
  rw [addInstance, found, ← runs]
  rfl

/-- What runs after an instance is added. -/
theorem isServiceInstanceRunning_addInstance (this : Runtime γ) (sid : UUID)
    (service : ServiceAbstract) (otherSid other : UUID) :
    ((this.bindService sid).addInstance sid service).1.isServiceInstanceRunning otherSid other =
      (decide ((otherSid, other) = (sid, service.iid)) ||
        this.isServiceInstanceRunning otherSid other) := by
  rcases this.addInstance_bindService sid service with ⟨before, found, runs, added⟩
  rw [added, isServiceInstanceRunning, withServices, Table.find_replace, found]
  by_cases here : otherSid = sid
  · rw [if_pos here, here, Option.map_some]
    change (before.addServiceInstance service).1.existsRunningService other = _
    rw [LocalService.existsRunningService_addServiceInstance, runs]
    simp
  · rw [if_neg here, ← isServiceInstanceRunning_bindService this sid]
    simp [here, isServiceInstanceRunning]

/-- The service map stays as it is exactly when the instance is there already. -/
theorem serviceMap_addInstance_iff (this : Runtime γ) (sid : UUID) (service : ServiceAbstract) :
    ((this.bindService sid).addInstance sid service).1.core.serviceMap = this.core.serviceMap ↔
      this.isServiceInstanceRunning sid service.iid = true := by
  constructor
  · intro same
    have runs := this.isServiceInstanceRunning_addInstance sid service sid service.iid
    rw [isServiceInstanceRunning, same] at runs
    rw [isServiceInstanceRunning, runs]
    simp
  · intro runs
    rcases this.addInstance_bindService sid service with ⟨before, found, ran, added⟩
    rcases isServiceInstanceRunning_iff.mp runs with ⟨held, known, -⟩
    have bound : (this.bindService sid).core.serviceMap = this.core.serviceMap :=
      Table.bind_of_taken (Option.isSome_iff_exists.mpr ⟨held, known⟩) _
    rw [added, LocalService.addServiceInstance_of_taken ((ran _).trans runs)]
    exact (Table.replace_self found).trans bound

end Runtime

namespace Method

open Stheno.Peer.Runtime

variable {γ : Type}

section Deploy

variable {this : Runtime γ} {answers : Answers γ} {sid iid : UUID} {prepare : Method γ Unit}
  {ends : Except Thrown Unit} {groups : Table UUID γ → Table UUID γ}

/-- The runtime when the instance is made and prepared. -/
def prepared (this : Runtime γ) (sid iid : UUID) (groups : Table UUID γ → Table UUID γ) :
    Runtime γ :=
  { (withInstance this sid iid).1 with replicationGroups := groups this.replicationGroups }

/-- The runtime when the instance is open. -/
def opened (this : Runtime γ) (sid iid : UUID) (groups : Table UUID γ → Table UUID γ)
    (sap : Option SAPInfo) : Runtime γ :=
  if (withInstance this sid iid).2 then (prepared this sid iid groups).setSAP sid iid sap
  else prepared this sid iid groups

theorem groups_withInstance (this : Runtime γ) (sid iid : UUID) :
    (withInstance this sid iid).1.replicationGroups = this.replicationGroups ∧
      (withInstance this sid iid).1.notified = this.notified ∧
      (withInstance this sid iid).1.core.isValid = this.core.isValid ∧
      (withInstance this sid iid).1.factory = this.factory := by
  rcases this.addInstance_bindService sid { sid, iid, sap := none } with ⟨before, -, -, added⟩
  rw [withInstance, added]
  exact ⟨rfl, rfl, rfl, rfl⟩

/-- The factory makes no instance: the service is bound all the same. -/
theorem deploy_of_unknown {thrown : Thrown} (valid : this.core.isValid = true)
    (unknown : instantiates answers this sid = .error thrown) (prepare : Method γ Unit) :
    deploy answers sid iid prepare this = (.error thrown, this.bindService sid) := by
  have created := createServiceInstance_of_valid valid answers sid iid
  rw [unknown] at created
  rw [deploy, bind_of_error created]

/-- The instance is made, and what comes next is its preparation. -/
theorem deploy_of_known (prepares : Prepares prepare ends groups) (valid : this.core.isValid = true)
    (known : instantiates answers this sid = .ok ()) :
    deploy answers sid iid prepare this =
      (require ends >>= fun _ => openService answers sid iid (withInstance this sid iid).2 >>= fun _ =>
        announce answers sid iid) (prepared this sid iid groups) := by
  have created := createServiceInstance_of_valid valid answers sid iid
  rw [known] at created
  have ready := prepares (withInstance this sid iid).1
  rw [(groups_withInstance this sid iid).1] at ready
  have again := require_apply ends (prepared this sid iid groups)
  rw [deploy, bind_of_ok created, bind_apply, bind_apply, ready, again]
  rfl

theorem deploy_of_unprepared {thrown : Thrown} (prepares : Prepares prepare (.error thrown) groups)
    (valid : this.core.isValid = true) (known : instantiates answers this sid = .ok ()) :
    deploy answers sid iid prepare this = (.error thrown, prepared this sid iid groups) := by
  rw [deploy_of_known prepares valid known, bind_of_error (require_apply _ _)]

/-- The instance does not open. -/
theorem deploy_of_unopened {message : ServiceException} (prepares : Prepares prepare (.ok ()) groups)
    (valid : this.core.isValid = true) (known : instantiates answers this sid = .ok ())
    (fails : answers.serviceOpens = .error message) :
    deploy answers sid iid prepare this =
      (.error (.serviceException message), prepared this sid iid groups) := by
  have failed : openService answers sid iid (withInstance this sid iid).2
      (prepared this sid iid groups) =
        (.error (.serviceException message), prepared this sid iid groups) := by
    unfold openService
    rw [fails]
    rfl
  rw [deploy_of_known prepares valid known, bind_of_ok (require_apply _ _), bind_of_error failed]

/-- The instance opens and is announced. -/
theorem deploy_of_opened {sap : Option SAPInfo} (prepares : Prepares prepare (.ok ()) groups)
    (valid : this.core.isValid = true) (known : instantiates answers this sid = .ok ())
    (opens : answers.serviceOpens = .ok sap) :
    deploy answers sid iid prepare this =
      announce answers sid iid (opened this sid iid groups sap) := by
  have done : openService answers sid iid (withInstance this sid iid).2
      (prepared this sid iid groups) = (.ok (), opened this sid iid groups sap) := by
    unfold openService
    rw [opens]
    rfl
  rw [deploy_of_known prepares valid known, bind_of_ok (require_apply _ _), bind_of_ok done]

theorem isServiceInstanceRunning_opened (this : Runtime γ) (sid iid : UUID)
    (groups : Table UUID γ → Table UUID γ) (sap : Option SAPInfo) (otherSid other : UUID) :
    (opened this sid iid groups sap).isServiceInstanceRunning otherSid other =
      (prepared this sid iid groups).isServiceInstanceRunning otherSid other := by
  unfold opened
  split
  · exact isServiceInstanceRunning_setSAP ..
  · rfl

/-- What runs when the instance is made. -/
theorem isServiceInstanceRunning_prepared (otherSid other : UUID) :
    (prepared this sid iid groups).isServiceInstanceRunning otherSid other =
      (decide ((otherSid, other) = (sid, iid)) || this.isServiceInstanceRunning otherSid other) :=
  this.isServiceInstanceRunning_addInstance sid _ otherSid other

theorem serviceMap_prepared_iff :
    (prepared this sid iid groups).core.serviceMap = this.core.serviceMap ↔
      this.isServiceInstanceRunning sid iid = true :=
  this.serviceMap_addInstance_iff sid _

theorem serviceMap_opened_iff (sap : Option SAPInfo) :
    (opened this sid iid groups sap).core.serviceMap = this.core.serviceMap ↔
      this.isServiceInstanceRunning sid iid = true := by
  constructor
  · intro same
    have runs := isServiceInstanceRunning_opened this sid iid groups sap sid iid
    rw [isServiceInstanceRunning_prepared, isServiceInstanceRunning, same] at runs
    rw [isServiceInstanceRunning, runs]
    simp
  · intro runs
    have refused : (withInstance this sid iid).2 = false := by
      rcases this.addInstance_bindService sid { sid, iid, sap := none } with ⟨before, -, -, added⟩
      rw [withInstance, added, runs]
      rfl
    rw [opened, refused]
    exact serviceMap_prepared_iff.mpr runs

theorem groups_opened (sap : Option SAPInfo) :
    (opened this sid iid groups sap).replicationGroups = groups this.replicationGroups := by
  unfold opened setSAP
  split
  · split
    · rfl
    · rfl
  · rfl

theorem valid_opened (sap : Option SAPInfo) :
    (opened this sid iid groups sap).core.isValid = this.core.isValid := by
  have valid := (groups_withInstance this sid iid).2.2.1
  unfold opened setSAP
  split
  · split
    · exact valid
    · exact valid
  · exact valid

/-- An instance that is open is there to be announced. -/
theorem exists_info_opened (this : Runtime γ) (sid iid : UUID)
    (groups : Table UUID γ → Table UUID γ) (sap : Option SAPInfo) :
    ∃ info, (opened this sid iid groups sap).core.getInstancesOfServiceInfo sid iid = some info := by
  have runs : (opened this sid iid groups sap).isServiceInstanceRunning sid iid = true := by
    rw [isServiceInstanceRunning_opened, isServiceInstanceRunning_prepared]
    simp
  rcases isServiceInstanceRunning_iff.mp runs with ⟨service, known, running⟩
  apply Option.isSome_iff_exists.mp
  rw [SthenoCore.getInstancesOfServiceInfo, known, Option.bind_some,
    LocalService.getInstancesOfServiceInfo, Option.isSome_map]
  exact running

end Deploy

end Method

/-- The calls that create a service or a replica. -/
inductive Creation where
  | createLocalService (sid : UUID) (ftParams : Bool) (generated : UUID)
  | createReplicationGroup (sid rgid : UUID) (ftParams : Bool) (generated : UUID)

/-- The steps of a creation that can throw, in their order. -/
inductive Stage where
  /-- The runtime does not run. -/
  | runtime
  /-- The overlay has no fault tolerance service. -/
  | faultTolerance
  /-- A replica without parameters for fault tolerance. -/
  | ftParams
  /-- The factory makes no instance of the service. -/
  | factory
  /-- The group does not open. -/
  | group
  /-- The instance does not open. -/
  | service
  /-- The overlay has no mesh. -/
  | mesh
  deriving DecidableEq

namespace Creation

open Method

variable {γ : Type}

def call (answers : Answers γ) : Creation → Method γ Unit
  | createLocalService sid ftParams generated =>
      Method.createLocalService answers sid ftParams generated
  | createReplicationGroup sid rgid ftParams generated =>
      Method.createReplicationGroup answers sid rgid ftParams generated

def sid : Creation → UUID
  | createLocalService sid _ _ => sid
  | createReplicationGroup sid _ _ _ => sid

def iid : Creation → UUID
  | createLocalService _ _ generated => generated
  | createReplicationGroup _ _ _ generated => generated

/-- The group that the instance belongs to. -/
def group : Creation → Option UUID
  | createLocalService _ ftParams generated => if ftParams then some generated else none
  | createReplicationGroup _ rgid _ _ => some rgid

def lacksParams : Creation → Bool
  | createLocalService _ _ _ => false
  | createReplicationGroup _ _ ftParams _ => !ftParams

/-- How the preparation of a call ends. -/
def ends (answers : Answers γ) (creation : Creation) : Except Thrown Unit :=
  match creation.group with
  | some _ => answers.groupOpens.mapError .serviceException
  | none => .ok ()

/-- The step at which a call throws, if any. -/
def throwsAt (this : Runtime γ) (answers : Answers γ) (creation : Creation) : Option Stage :=
  if this.core.isValid = false then some .runtime
  else if answers.faultTolerance = false then some .faultTolerance
  else if creation.lacksParams = true then some .ftParams
  else if (instantiates answers this creation.sid).isOk = false then some .factory
  else if (creation.ends answers).isOk = false then some .group
  else if answers.serviceOpens.isOk = false then some .service
  else if answers.mesh = false then some .mesh
  else none

/-- A call that throws leaves the service map and the replication groups as they were. -/
def LeavesNoTrace (this : Runtime γ) (answers : Answers γ) (creation : Creation) : Prop :=
  ∀ thrown after, creation.call answers this = (.error thrown, after) →
    after.core.serviceMap = this.core.serviceMap ∧
      after.replicationGroups = this.replicationGroups

/-- The condition: the call throws nowhere or before it registers anything; or it does not
know the service, but has it in its map; or what it registers is there already. -/
def Traceless (this : Runtime γ) (answers : Answers γ) (creation : Creation) : Prop :=
  match creation.throwsAt this answers with
  | none | some .runtime | some .faultTolerance | some .ftParams => True
  | some .factory => (this.core.serviceMap.find creation.sid).isSome = true
  | some .group => this.isServiceInstanceRunning creation.sid creation.iid = true ∧
      ∀ rgid, creation.group = some rgid → this.replicationGroups.find rgid = none
  | some .service | some .mesh => this.isServiceInstanceRunning creation.sid creation.iid = true ∧
      ∀ rgid, creation.group = some rgid → (this.replicationGroups.find rgid).isSome = true

/-- What a call prepares: its group, if it has one. -/
def prepare (answers : Answers γ) (creation : Creation) : Method γ Unit :=
  match creation.group with
  | some rgid => openReplicationGroup answers rgid
  | none => pure ()

/-- A call that gets as far as making an instance. -/
theorem call_eq_deploy {this : Runtime γ} {answers : Answers γ} {creation : Creation}
    (valid : this.core.isValid = true) (available : answers.faultTolerance = true)
    (complete : creation.lacksParams = false) :
    creation.call answers this =
      deploy answers creation.sid creation.iid (creation.prepare answers) this := by
  have there := requireOverlay_of_available available this
  cases creation with
  | createLocalService sid ftParams generated =>
      rw [call, Method.createLocalService, bind_of_ok (requireValid_of_valid valid),
        bind_of_ok there]
      cases ftParams with
      | false => rfl
      | true => rfl
  | createReplicationGroup sid rgid ftParams generated =>
      rw [lacksParams, Bool.not_eq_false'] at complete
      rw [call, Method.createReplicationGroup, bind_of_ok (requireValid_of_valid valid),
        bind_of_ok there, complete]
      rfl

/-- A call that ends before it makes an instance. -/
theorem call_of_early {this : Runtime γ} {answers : Answers γ} {creation : Creation}
    (early : this.core.isValid = false ∨ answers.faultTolerance = false ∨
      creation.lacksParams = true) :
    ∃ thrown, creation.call answers this = (.error thrown, this) := by
  cases running : this.core.isValid with
  | false =>
      refine ⟨.runtimeException .INVALID_RUNTIME, ?_⟩
      cases creation with
      | createLocalService sid ftParams generated =>
          exact bind_of_error (requireValid_of_closed running)
      | createReplicationGroup sid rgid ftParams generated =>
          exact bind_of_error (requireValid_of_closed running)
  | true =>
      cases available : answers.faultTolerance with
      | false =>
          have missing := requireOverlay_of_missing available this
          refine ⟨.runtimeException .INVALID_OVERLAY, ?_⟩
          cases creation with
          | createLocalService sid ftParams generated =>
              rw [call, Method.createLocalService, bind_of_ok (requireValid_of_valid running)]
              exact bind_of_error missing
          | createReplicationGroup sid rgid ftParams generated =>
              rw [call, Method.createReplicationGroup, bind_of_ok (requireValid_of_valid running)]
              exact bind_of_error missing
      | true =>
          have lacks : creation.lacksParams = true := by
            simpa [running, available] using early
          cases creation with
          | createLocalService sid ftParams generated => cases lacks
          | createReplicationGroup sid rgid ftParams generated =>
              rw [lacksParams, Bool.not_eq_true'] at lacks
              refine ⟨.serviceException .INVALID_FT_PARAMS, ?_⟩
              rw [call, Method.createReplicationGroup, bind_of_ok (requireValid_of_valid running),
                bind_of_ok (requireOverlay_of_available available this), lacks]
              rfl

/-- A call that throws leaves no trace, or has one; what it leaves is known. -/
theorem leavesNoTrace_of_error {this after : Runtime γ} {answers : Answers γ} {creation : Creation}
    {thrown : Thrown} (threw : creation.call answers this = (.error thrown, after)) :
    creation.LeavesNoTrace this answers ↔ after.core.serviceMap = this.core.serviceMap ∧
      after.replicationGroups = this.replicationGroups := by
  constructor
  · intro none_left
    exact none_left thrown after threw
  · intro same other left again
    rw [threw] at again
    cases again
    exact same

/-- What the preparation of a call makes of the replication groups. -/
def groups (answers : Answers γ) (creation : Creation) (before : Table UUID γ) : Table UUID γ :=
  match creation.group, answers.groupOpens with
  | some rgid, .ok _ => before.bind rgid answers.group
  | some rgid, .error _ => (before.bind rgid answers.group).unbind rgid
  | none, _ => before

theorem prepares (answers : Answers γ) (creation : Creation) :
    Prepares (creation.prepare answers) (creation.ends answers) (creation.groups answers) := by
  intro this
  have opened := fun rgid => prepares_openReplicationGroup answers rgid this
  simp only [prepare, ends, groups]
  cases creation.group with
  | none => rfl
  | some rgid =>
      apply (opened rgid).trans
      cases answers.groupOpens with
      | ok _ => rfl
      | error message => rfl

theorem groups_eq_iff {before : Table UUID γ} {answers : Answers γ} {creation : Creation} :
    creation.groups answers before = before ↔ ∀ rgid, creation.group = some rgid →
      if answers.groupOpens.isOk then (before.find rgid).isSome = true
      else before.find rgid = none := by
  rw [groups]
  cases creation.group with
  | none => simp
  | some rgid =>
      simp only [Option.some.injEq, forall_eq']
      cases answers.groupOpens with
      | ok _ => exact Table.bind_eq_self_iff
      | error message =>
          change (before.bind rgid answers.group).unbind rgid = before ↔ before.find rgid = none
          constructor
          · intro same
            have gone := (before.bind rgid answers.group).find_unbind rgid rgid
            rwa [same, if_pos rfl] at gone
          · intro free
            exact Table.unbind_bind_of_fresh free answers.group

/-- The group of a call, whether it opens or not. -/
theorem groups_kept_iff {before : Table UUID γ} {answers : Answers γ} {creation : Creation} :
    creation.groups answers before = before ↔
      if (creation.ends answers).isOk = false then
        ∀ rgid, creation.group = some rgid → before.find rgid = none
      else ∀ rgid, creation.group = some rgid → (before.find rgid).isSome = true := by
  rw [groups_eq_iff, ends]
  cases creation.group with
  | none => simp
  | some rgid =>
      cases answers.groupOpens with
      | ok _ => exact Iff.rfl
      | error message => exact Iff.rfl

/-- The condition of a call that makes an instance. -/
theorem leavesNoTrace_of_late {this : Runtime γ} {answers : Answers γ} {creation : Creation}
    (valid : this.core.isValid = true) (available : answers.faultTolerance = true)
    (complete : creation.lacksParams = false) :
    creation.LeavesNoTrace this answers ↔ creation.Traceless this answers := by
  have called := call_eq_deploy valid available complete
  have prepares := creation.prepares answers
  have registered : creation.groups answers this.replicationGroups = this.replicationGroups ↔ _ :=
    groups_kept_iff
  rw [Traceless, throwsAt]
  simp only [valid, available, complete, reduceCtorEq, if_false]
  cases made : instantiates answers this creation.sid with
  | error thrown =>
      rw [deploy_of_unknown valid made] at called
      rw [leavesNoTrace_of_error called]
      have bound : (this.bindService creation.sid).core.serviceMap = this.core.serviceMap ↔
          (this.core.serviceMap.find creation.sid).isSome = true := Table.bind_eq_self_iff
      rw [bound]
      exact and_iff_left rfl
  | ok _ =>
      cases ended : creation.ends answers with
      | error thrown =>
          rw [ended] at prepares registered
          rw [deploy_of_unprepared prepares valid made] at called
          rw [leavesNoTrace_of_error called, serviceMap_prepared_iff]
          exact and_congr_right fun _ => registered
      | ok _ =>
          rw [ended] at prepares registered
          cases opens : answers.serviceOpens with
          | error message =>
              rw [deploy_of_unopened prepares valid made opens] at called
              rw [leavesNoTrace_of_error called, serviceMap_prepared_iff]
              exact and_congr_right fun _ => registered
          | ok sap =>
              rw [deploy_of_opened prepares valid made opens] at called
              rcases exists_info_opened this creation.sid creation.iid
                (creation.groups answers) sap with ⟨info, described⟩
              rw [announce_of_runs ((valid_opened sap).trans valid) described] at called
              cases there : answers.mesh with
              | false =>
                  rw [there] at called
                  rw [leavesNoTrace_of_error called, serviceMap_opened_iff, groups_opened]
                  exact and_congr_right fun _ => registered
              | true =>
                  rw [there] at called
                  apply iff_of_true
                  · intro thrown after threw
                    rw [called] at threw
                    cases threw
                  · exact trivial

/-- A call that throws leaves no trace exactly when it meets the condition. -/
theorem leavesNoTrace_iff (this : Runtime γ) (answers : Answers γ) (creation : Creation) :
    creation.LeavesNoTrace this answers ↔ creation.Traceless this answers := by
  by_cases early : this.core.isValid = false ∨ answers.faultTolerance = false ∨
      creation.lacksParams = true
  · rcases call_of_early early with ⟨thrown, threw⟩
    rw [leavesNoTrace_of_error threw]
    apply iff_of_true ⟨rfl, rfl⟩
    rw [Traceless, throwsAt]
    rcases early with closed | missing | lacks
    · rw [closed]
      exact trivial
    · rw [missing]
      cases this.core.isValid with
      | false => exact trivial
      | true => exact trivial
    · rw [lacks]
      cases this.core.isValid with
      | false => exact trivial
      | true =>
          cases answers.faultTolerance with
          | false => exact trivial
          | true => exact trivial
  · simp only [not_or, Bool.not_eq_false, Bool.not_eq_true] at early
    exact leavesNoTrace_of_late early.1 early.2.1 early.2.2

/-- A runtime without services that knows one service and has one group. -/
def crowded (sid rgid : UUID) : Runtime Nat where
  core := { running := true, serviceMap := .empty }
  factory := [sid]
  replicationGroups := Table.empty.bind rgid 1
  notified := []

/-- The parts around a runtime that can do everything but open a group, since the overlay has no
mesh any more. -/
def poor : Answers Nat where
  faultTolerance := true
  mesh := false
  duplicates := .ok ()
  group := 2
  groupOpens := .error .LOW_LVL_P2P_UNAVAILABLE
  reserves := .ok ()
  serviceOpens := .ok none
  serviceCloses := .ok ()

/-- A group that does not open takes along the group that was registered under its
identifier, and the instance that was made for it stays. -/
theorem leavesNoTrace_fails :
    ¬LeavesNoTrace (crowded ⟨List.replicate 16 1⟩ ⟨List.replicate 16 2⟩) poor
      (.createReplicationGroup ⟨List.replicate 16 1⟩ ⟨List.replicate 16 2⟩ true
        ⟨List.replicate 16 3⟩) := by
  intro clean
  have same := clean (.serviceException .LOW_LVL_P2P_UNAVAILABLE) _ rfl
  exact absurd same.2 (by decide)

end Creation

end Stheno.Peer
