import Mathlib.Data.List.Nodup
import Stheno.Peer.Instances

/-!
# What runs after an update

The running instances of a service map after each of its updates.  Every update keeps a
map in which all services have instances, and an instance that was just added is removed
without a trace.
-/

namespace Stheno.Peer

namespace ServiceInfo

theorem ext {first second : ServiceInfo} (sameSid : first.sid = second.sid)
    (same : first.runningServices = second.runningServices) : first = second := by
  cases first
  cases second
  cases sameSid
  cases same
  rfl

theorem getInstanceCount_pos_iff {this : ServiceInfo} :
    0 < this.getInstanceCount ↔ ∃ iid, this.isServiceInstanceRunning iid = true := by
  rw [getInstanceCount, Table.size, List.length_pos_iff_exists_mem]
  constructor
  · rintro ⟨entry, member⟩
    exact ⟨entry.1, isServiceInstanceRunning_iff.mpr
      ⟨entry.2, Table.find_eq_some_iff.mpr member⟩⟩
  · rintro ⟨iid, runs⟩
    rcases isServiceInstanceRunning_iff.mp runs with ⟨info, found⟩
    exact ⟨(iid, info), Table.find_eq_some_iff.mp found⟩

/-- Removing an instance that was just added restores the service. -/
theorem removeServiceInstance_addServiceInstance {this added : ServiceInfo} {iid : UUID}
    {sap : Option SAPInfo} (done : this.addServiceInstance iid sap = some added) :
    added.removeServiceInstance iid = some this := by
  rcases addServiceInstance_eq_some done with ⟨fresh, sameSid, bound⟩
  have runs : added.isServiceInstanceRunning iid = true := by
    rw [isServiceInstanceRunning, bound, Table.find_bind_of_fresh fresh, if_pos rfl]
    rfl
  rw [removeServiceInstance, if_pos runs]
  apply congrArg some
  apply ext
  · exact sameSid
  · change added.runningServices.unbind iid = this.runningServices
    rw [bound, Table.unbind_bind_of_fresh fresh]

end ServiceInfo

namespace ServiceMap

/-- The running instances, each with its service. -/
def instances (this : ServiceMap) : List (UUID × UUID) :=
  this.services.entries.flatMap fun entry =>
    entry.2.runningServices.entries.map fun running => (entry.1, running.1)

theorem mem_instances_iff {this : ServiceMap} {sid iid : UUID} :
    (sid, iid) ∈ this.instances ↔ this.isServiceInstanceRunning sid iid = true := by
  rw [instances, List.mem_flatMap, isServiceInstanceRunning_iff]
  constructor
  · rintro ⟨⟨key, service⟩, member, listed⟩
    rcases List.mem_map.mp listed with ⟨running, held, same⟩
    cases same
    exact ⟨service, Table.find_eq_some_iff.mpr member,
      ServiceInfo.isServiceInstanceRunning_iff.mpr ⟨running.2, Table.find_eq_some_iff.mpr held⟩⟩
  · rintro ⟨service, known, runs⟩
    rcases ServiceInfo.isServiceInstanceRunning_iff.mp runs with ⟨info, found⟩
    exact ⟨(sid, service), Table.find_eq_some_iff.mp known,
      List.mem_map.mpr ⟨(iid, info), Table.find_eq_some_iff.mp found, rfl⟩⟩

theorem nodup_instances (this : ServiceMap) : this.instances.Nodup := by
  rw [instances, List.nodup_flatMap]
  constructor
  · intro entry _
    have paired : (entry.2.runningServices.entries.map fun running => (entry.1, running.1)) =
        (entry.2.runningServices.entries.map Prod.fst).map (Prod.mk entry.1) := by
      rw [List.map_map]
      rfl
    rw [paired]
    exact entry.2.runningServices.unique.map (Prod.mk_right_injective entry.1)
  · have keys := List.pairwise_map.mp this.services.unique
    apply keys.imp
    intro first second apart pair inFirst inSecond
    rcases List.mem_map.mp inFirst with ⟨_, -, rfl⟩
    rcases List.mem_map.mp inSecond with ⟨_, -, same⟩
    exact apart (Prod.mk.inj same).1.symm

/-- `removeService` of a whole service. -/
def removeWholeService (this : ServiceMap) (sid : UUID) : ServiceMap × Bool :=
  match this.find sid with
  | none => (this, false)
  | some _ => (this.unbind sid, true)

/-- Every service has an instance. -/
def Nonempty (this : ServiceMap) : Prop :=
  ∀ sid service, this.find sid = some service → 0 < service.getInstanceCount

/-- Under one service identifier a map changes to `changed`. -/
def ChangesAt (this after : ServiceMap) (sid : UUID) (changed : Option ServiceInfo) : Prop :=
  ∀ other, after.find other = if other = sid then changed else this.find other

namespace ChangesAt

variable {this after : ServiceMap} {sid : UUID} {changed : Option ServiceInfo}

theorem runs_here (changes : this.ChangesAt after sid changed) (iid : UUID) :
    after.isServiceInstanceRunning sid iid = true ↔
      ∃ service, changed = some service ∧ service.isServiceInstanceRunning iid = true := by
  rw [isServiceInstanceRunning_iff, changes, if_pos rfl]

theorem runs_elsewhere (changes : this.ChangesAt after sid changed) {other : UUID}
    (elsewhere : other ≠ sid) (iid : UUID) :
    after.isServiceInstanceRunning other iid = this.isServiceInstanceRunning other iid := by
  rw [isServiceInstanceRunning, changes, if_neg elsewhere, isServiceInstanceRunning]

theorem nonempty (changes : this.ChangesAt after sid changed) (before : this.Nonempty)
    (here : ∀ service, changed = some service → 0 < service.getInstanceCount) :
    after.Nonempty := by
  intro other service known
  rw [changes] at known
  split at known
  · exact here service known
  · exact before other service known

end ChangesAt

/-- A new instance with the service that it is added to. -/
theorem addServiceInstance_eq_some {this added : ServiceMap} {sid iid : UUID}
    {sap : Option SAPInfo} (done : this.addServiceInstance sid iid sap = some added) :
    ∃ before info : ServiceInfo, (this.find sid = some before ∨
        (this.find sid = none ∧ before = .new sid)) ∧
      before.addServiceInstance iid sap = some info ∧ this.ChangesAt added sid (some info) := by
  rw [addServiceInstance] at done
  cases known : this.find sid with
  | none =>
      rw [known] at done
      rcases Option.map_eq_some_iff.mp done with ⟨info, made, rfl⟩
      have own : info.sid = sid := (ServiceInfo.addServiceInstance_eq_some made).2.1
      have fresh : this.find (ServiceInfo.new sid).sid = none := known
      refine ⟨.new sid, info, Or.inr ⟨rfl, rfl⟩, made, ?_⟩
      intro other
      rw [find_replace, find_addService fresh, find_addService fresh, own, ServiceInfo.new, if_pos rfl,
        Option.map_some]
      by_cases here : other = sid
      · rw [if_pos here, if_pos here]
      · rw [if_neg here, if_neg here, if_neg here]
  | some service =>
      rw [known] at done
      rcases Option.map_eq_some_iff.mp done with ⟨info, made, rfl⟩
      have own : info.sid = sid :=
        (ServiceInfo.addServiceInstance_eq_some made).2.1.trans (sid_of_find known)
      refine ⟨service, info, Or.inl rfl, made, ?_⟩
      intro other
      rw [find_replace, own, known, Option.map_some]

/-- What runs after an instance is added. -/
theorem runs_addServiceInstance {this added : ServiceMap} {sid iid : UUID} {sap : Option SAPInfo}
    (done : this.addServiceInstance sid iid sap = some added) (otherSid other : UUID) :
    added.isServiceInstanceRunning otherSid other = true ↔
      (otherSid, other) = (sid, iid) ∨ this.isServiceInstanceRunning otherSid other = true := by
  rcases addServiceInstance_eq_some done with ⟨before, info, origin, made, changes⟩
  rcases ServiceInfo.addServiceInstance_eq_some made with ⟨fresh, -, bound⟩
  by_cases here : otherSid = sid
  · have listed : info.isServiceInstanceRunning other = true ↔
        other = iid ∨ before.isServiceInstanceRunning other = true := by
      simp only [ServiceInfo.isServiceInstanceRunning, bound, Table.find_bind_of_fresh fresh]
      by_cases same : other = iid
      · simp [same]
      · simp [same]
    have held : this.isServiceInstanceRunning sid other = before.isServiceInstanceRunning other := by
      rcases origin with known | ⟨unknown, rfl⟩
      · rw [isServiceInstanceRunning, known]
      · rw [isServiceInstanceRunning, unknown]
        rfl
    rw [here, changes.runs_here, held]
    simpa using listed
  · rw [changes.runs_elsewhere here]
    simp [here]

theorem Nonempty.addServiceInstance {this added : ServiceMap} {sid iid : UUID}
    {sap : Option SAPInfo} (nonempty : this.Nonempty)
    (done : this.addServiceInstance sid iid sap = some added) : added.Nonempty := by
  rcases addServiceInstance_eq_some done with ⟨before, info, -, made, changes⟩
  rcases ServiceInfo.addServiceInstance_eq_some made with ⟨fresh, -, bound⟩
  apply changes.nonempty nonempty
  rintro _ ⟨⟩
  rw [ServiceInfo.getInstanceCount, Table.size, bound,
    Table.bind_of_fresh _ (Table.find_eq_none_iff.mp fresh), List.length_append]
  exact Nat.succ_pos _

/-- An instance is removed from its service, and the last one takes the service along. -/
theorem removeService_eq_some {this removed : ServiceMap} {sid iid : UUID}
    (done : this.removeService sid iid = some removed) :
    ∃ service info : ServiceInfo, this.find sid = some service ∧
      service.removeServiceInstance iid = some info ∧
      this.ChangesAt removed sid (if info.getInstanceCount = 0 then none else some info) := by
  rw [removeService] at done
  cases known : this.find sid with
  | none =>
      rw [known] at done
      cases done
  | some service =>
      rw [known] at done
      rcases Option.map_eq_some_iff.mp done with ⟨info, made, rfl⟩
      have own : info.sid = sid :=
        (ServiceInfo.removeServiceInstance_eq_some made).2.1.trans (sid_of_find known)
      refine ⟨service, info, rfl, made, ?_⟩
      intro other
      split
      · exact find_unbind this sid other
      · rw [find_replace, own, known, Option.map_some]

/-- What runs after an instance is removed. -/
theorem runs_removeService {this removed : ServiceMap} {sid iid : UUID}
    (done : this.removeService sid iid = some removed) (otherSid other : UUID) :
    removed.isServiceInstanceRunning otherSid other = true ↔
      (otherSid, other) ≠ (sid, iid) ∧ this.isServiceInstanceRunning otherSid other = true := by
  rcases removeService_eq_some done with ⟨service, info, known, made, changes⟩
  rcases ServiceInfo.removeServiceInstance_eq_some made with ⟨runs, -, unbound⟩
  by_cases here : otherSid = sid
  · have listed : info.isServiceInstanceRunning other = true ↔
        other ≠ iid ∧ service.isServiceInstanceRunning other = true := by
      simp only [ServiceInfo.isServiceInstanceRunning, unbound, Table.find_unbind]
      by_cases same : other = iid
      · simp [same]
      · simp [same]
    have held : this.isServiceInstanceRunning sid other = service.isServiceInstanceRunning other := by
      rw [isServiceInstanceRunning, known]
    rw [here, changes.runs_here, held]
    split
    · -- The service is gone, and it had no other instance.
      rename_i last
      have idle : ¬info.isServiceInstanceRunning other = true := by
        intro remains
        have counted := ServiceInfo.getInstanceCount_pos_iff.mpr ⟨other, remains⟩
        rw [last] at counted
        exact Nat.lt_irrefl 0 counted
      rw [listed] at idle
      simpa using idle
    · simpa using listed
  · rw [changes.runs_elsewhere here]
    simp [here]

theorem Nonempty.removeService {this removed : ServiceMap} {sid iid : UUID}
    (nonempty : this.Nonempty) (done : this.removeService sid iid = some removed) :
    removed.Nonempty := by
  rcases removeService_eq_some done with ⟨service, info, -, -, changes⟩
  apply changes.nonempty nonempty
  intro left held
  split at held
  · cases held
  · rename_i remains
    cases held
    exact Nat.pos_of_ne_zero remains

/-- A whole service is removed, where it is there. -/
theorem changesAt_removeWholeService (this : ServiceMap) (sid : UUID) :
    this.ChangesAt (this.removeWholeService sid).1 sid none := by
  intro other
  rw [removeWholeService]
  cases known : this.find sid with
  | none =>
      change this.find other = _
      split
      · rename_i here
        rw [here, known]
      · rfl
  | some service => exact find_unbind this sid other

/-- What runs after a whole service is removed. -/
theorem runs_removeWholeService (this : ServiceMap) (sid otherSid other : UUID) :
    (this.removeWholeService sid).1.isServiceInstanceRunning otherSid other = true ↔
      otherSid ≠ sid ∧ this.isServiceInstanceRunning otherSid other = true := by
  have changes := this.changesAt_removeWholeService sid
  by_cases here : otherSid = sid
  · rw [here, changes.runs_here]
    simp
  · rw [changes.runs_elsewhere here]
    simp [here]

theorem Nonempty.removeWholeService {this : ServiceMap} (nonempty : this.Nonempty) (sid : UUID) :
    (this.removeWholeService sid).1.Nonempty := by
  apply (this.changesAt_removeWholeService sid).nonempty nonempty
  rintro _ ⟨⟩

theorem isServiceInstanceRunning_eq (this : ServiceMap) (sid iid : UUID) :
    this.isServiceInstanceRunning sid iid = (this.getInstanceOfService sid iid).isSome := by
  rw [isServiceInstanceRunning, getInstanceOfService]
  cases this.find sid with
  | none => rfl
  | some service => rfl

/-- What runs after a rename that does not collide. -/
theorem runs_changeServiceIID {this : ServiceMap} {sid oldIid newIid : UUID}
    (answered : (this.changeServiceIID sid oldIid newIid).2 = true) (otherSid other : UUID) :
    (this.changeServiceIID sid oldIid newIid).1.isServiceInstanceRunning otherSid other = true ↔
      (otherSid, other) = (sid, newIid) ∨ ((otherSid, other) ≠ (sid, oldIid) ∧
        this.isServiceInstanceRunning otherSid other = true) := by
  rcases moved_of_answer answered with ⟨info, -, here, elsewhere⟩
  by_cases same : otherSid = sid
  · rw [same, isServiceInstanceRunning_eq, here, isServiceInstanceRunning_eq]
    by_cases new : other = newIid
    · simp [new]
    · by_cases old : other = oldIid
      · simp [← old, new]
      · simp [new, old]
  · rw [isServiceInstanceRunning, elsewhere otherSid same, isServiceInstanceRunning]
    simp [same]

theorem Nonempty.changeServiceIID {this : ServiceMap} (nonempty : this.Nonempty)
    {sid oldIid newIid : UUID} (answered : (this.changeServiceIID sid oldIid newIid).2 = true) :
    (this.changeServiceIID sid oldIid newIid).1.Nonempty := by
  rcases (this.changeServiceIID_answer sid oldIid newIid).mp answered with ⟨runs, -⟩
  rcases isServiceInstanceRunning_iff.mp runs with ⟨service, known, -⟩
  have changes : this.ChangesAt (this.changeServiceIID sid oldIid newIid).1 sid
      (some (service.setIID oldIid newIid).1) := find_changeServiceIID oldIid newIid known
  apply changes.nonempty nonempty
  rintro _ ⟨⟩
  have moved := (runs_changeServiceIID answered sid newIid).mpr (Or.inl rfl)
  rcases (changes.runs_here newIid).mp moved with ⟨_, ⟨⟩, listed⟩
  exact ServiceInfo.getInstanceCount_pos_iff.mpr ⟨newIid, listed⟩

/-- Removing an instance that was just added restores the map, where the map has no
service without instances. -/
theorem removeService_addServiceInstance {this : ServiceMap} {sid iid : UUID}
    (nonempty : this.Nonempty) (idle : this.isServiceInstanceRunning sid iid = false)
    (sap : Option SAPInfo) :
    ∃ added, this.addServiceInstance sid iid sap = some added ∧
      added.removeService sid iid = some this := by
  have some_added := this.isSome_addServiceInstance sid iid sap
  rw [idle, Bool.not_false] at some_added
  rcases Option.isSome_iff_exists.mp some_added with ⟨added, done⟩
  refine ⟨added, done, ?_⟩
  rcases addServiceInstance_eq_some done with ⟨before, info, origin, made, changes⟩
  have held : added.find sid = some info := (changes sid).trans (if_pos rfl)
  have back := ServiceInfo.removeServiceInstance_addServiceInstance made
  have own : info.sid = sid := sid_of_find held
  rw [removeService, held]
  simp only [back, Option.map_some, Option.some.injEq]
  rcases origin with known | ⟨unknown, rfl⟩
  · have counted := nonempty sid before known
    have sameSid : before.sid = sid := sid_of_find known
    rw [addServiceInstance, known, Option.map_eq_some_iff] at done
    rcases done with ⟨_, again, rfl⟩
    cases made.symm.trans again
    rw [if_neg (Nat.pos_iff_ne_zero.mp counted)]
    apply ext
    change (this.services.replace info.sid info).replace before.sid before = this.services
    rw [own, sameSid, Table.replace_replace, Table.replace_self known]
  · rw [addServiceInstance, unknown, Option.map_eq_some_iff] at done
    rcases done with ⟨_, again, rfl⟩
    cases made.symm.trans again
    have empty : (ServiceInfo.new sid).getInstanceCount = 0 := rfl
    rw [if_pos empty]
    apply ext
    change ((this.services.bind sid (.new sid)).replace info.sid info).unbind sid = this.services
    rw [own, Table.unbind_replace, Table.unbind_bind_of_fresh unknown]

end ServiceMap

end Stheno.Peer
