import Stheno.Peer.LocalService

/-!
# What the updates of a service map do

Every update of a service map is told by what it leaves under each service
identifier.  A rename is the only one that can fail half way: when the new identifier
is taken, the instance is gone before the method learns it.
-/

namespace Stheno.Peer

namespace ServiceInfo

theorem isServiceInstanceRunning_iff {this : ServiceInfo} {iid : UUID} :
    this.isServiceInstanceRunning iid = true ↔ ∃ info, this.runningServices.find iid = some info :=
  Option.isSome_iff_exists

theorem isServiceInstanceRunning_eq_false {this : ServiceInfo} {iid : UUID} :
    this.isServiceInstanceRunning iid = false ↔ this.runningServices.find iid = none :=
  Option.isSome_eq_false_iff.trans Option.isNone_iff_eq_none

theorem addServiceInstance_eq_some {this added : ServiceInfo} {iid : UUID} {sap : Option SAPInfo}
    (done : this.addServiceInstance iid sap = some added) :
    this.runningServices.find iid = none ∧ added.sid = this.sid ∧
      added.runningServices = this.runningServices.bind iid { sid := this.sid, iid, sapInfo := sap } := by
  rw [addServiceInstance] at done
  split at done
  · cases done
  · rename_i fresh
    cases done
    exact ⟨Option.not_isSome_iff_eq_none.mp fresh, rfl, rfl⟩

theorem removeServiceInstance_eq_some {this removed : ServiceInfo} {iid : UUID}
    (done : this.removeServiceInstance iid = some removed) :
    this.isServiceInstanceRunning iid = true ∧ removed.sid = this.sid ∧
      removed.runningServices = this.runningServices.unbind iid := by
  rw [removeServiceInstance] at done
  split at done
  · rename_i runs
    cases done
    exact ⟨runs, rfl, rfl⟩
  · cases done

@[simp]
theorem sid_setIID (this : ServiceInfo) (oldIid newIid : UUID) :
    (this.setIID oldIid newIid).1.sid = this.sid := by
  unfold setIID
  split
  · rfl
  · rfl

/-- The answer of a rename: the instance is there, and its new identifier is its own or free. -/
theorem setIID_answer (this : ServiceInfo) (oldIid newIid : UUID) :
    (this.setIID oldIid newIid).2 = true ↔ this.isServiceInstanceRunning oldIid = true ∧
      (newIid = oldIid ∨ this.isServiceInstanceRunning newIid = false) := by
  unfold setIID isServiceInstanceRunning
  cases this.runningServices.find oldIid with
  | none => simp
  | some info =>
      by_cases same : newIid = oldIid
      · simp [same, Table.find_unbind]
      · simp [same, Table.find_unbind]

/-- A rename that finds no instance changes nothing. -/
theorem setIID_of_unknown {this : ServiceInfo} {oldIid : UUID} (newIid : UUID)
    (unknown : this.isServiceInstanceRunning oldIid = false) :
    this.setIID oldIid newIid = (this, false) := by
  rw [setIID, isServiceInstanceRunning_eq_false.mp unknown]

/-- A rename to an identifier that another instance has loses the instance. -/
theorem find_setIID_of_taken {this : ServiceInfo} {oldIid newIid : UUID} (apart : newIid ≠ oldIid)
    (runs : this.isServiceInstanceRunning oldIid = true)
    (taken : this.isServiceInstanceRunning newIid = true) (other : UUID) :
    (this.setIID oldIid newIid).1.runningServices.find other =
      if other = oldIid then none else this.runningServices.find other := by
  rcases isServiceInstanceRunning_iff.mp runs with ⟨info, found⟩
  rcases isServiceInstanceRunning_iff.mp taken with ⟨holder, held⟩
  have stays : (this.runningServices.unbind oldIid).find newIid = some holder := by
    rw [Table.find_unbind, if_neg apart, held]
  have listed : newIid ∈ (this.runningServices.unbind oldIid).entries.map Prod.fst :=
    List.mem_map_of_mem (Table.find_eq_some_iff.mp stays)
  have kept : ∀ value, (this.runningServices.unbind oldIid).bind newIid value =
      this.runningServices.unbind oldIid := fun value => dif_pos listed
  simp only [setIID, found, kept, Table.find_unbind]

/-- A rename that is answered with true moves the instance. -/
theorem find_setIID_of_free {this : ServiceInfo} {oldIid newIid : UUID} {info : ServiceInstanceInfo}
    (found : this.runningServices.find oldIid = some info)
    (free : newIid = oldIid ∨ this.isServiceInstanceRunning newIid = false) (other : UUID) :
    (this.setIID oldIid newIid).1.runningServices.find other =
      if other = newIid then some { info with iid := newIid }
      else if other = oldIid then none
      else this.runningServices.find other := by
  have fresh : (this.runningServices.unbind oldIid).find newIid = none := by
    rw [Table.find_unbind]
    rcases free with same | unused
    · rw [if_pos same]
    · rw [isServiceInstanceRunning_eq_false.mp unused, ite_self]
  simp only [setIID, found, Table.find_bind_of_fresh fresh, Table.find_unbind]

end ServiceInfo

namespace ServiceMap

/-- A service is stored under its own identifier. -/
theorem sid_of_find {this : ServiceMap} {sid : UUID} {service : ServiceInfo}
    (known : this.find sid = some service) : service.sid = sid :=
  this.keyed (sid, service) (Table.find_eq_some_iff.mp known)

theorem ext {first second : ServiceMap} (equal : first.services = second.services) :
    first = second := by
  cases first
  cases second
  cases equal
  rfl

theorem find_replace (this : ServiceMap) (info : ServiceInfo) (other : UUID) :
    (this.replace info).find other =
      if other = info.sid then (this.find info.sid).map fun _ => info else this.find other :=
  Table.find_replace this.services info.sid info other

theorem find_unbind (this : ServiceMap) (sid other : UUID) :
    (this.unbind sid).find other = if other = sid then none else this.find other :=
  Table.find_unbind this.services sid other

theorem find_addService {this : ServiceMap} {service : ServiceInfo}
    (fresh : this.find service.sid = none) (other : UUID) :
    (this.addService service).find other =
      if other = service.sid then some service else this.find other :=
  Table.find_bind_of_fresh fresh service other

/-- A service that is replaced by itself. -/
theorem replace_self {this : ServiceMap} {service : ServiceInfo}
    (known : this.find service.sid = some service) : this.replace service = this :=
  ext (Table.replace_self known)

theorem isServiceInstanceRunning_iff {this : ServiceMap} {sid iid : UUID} :
    this.isServiceInstanceRunning sid iid = true ↔
      ∃ service, this.find sid = some service ∧ service.isServiceInstanceRunning iid = true := by
  unfold isServiceInstanceRunning
  cases this.find sid with
  | none => simp
  | some service => simp

/-! ## Renaming -/

/-- Another instance of the service has the new identifier. -/
def Collides (this : ServiceMap) (sid oldIid newIid : UUID) : Prop :=
  newIid ≠ oldIid ∧ this.isServiceInstanceRunning sid oldIid = true ∧
    this.isServiceInstanceRunning sid newIid = true

instance (this : ServiceMap) (sid oldIid newIid : UUID) :
    Decidable (this.Collides sid oldIid newIid) :=
  inferInstanceAs (Decidable (_ ∧ _ ∧ _))

/-- A rename that is made whole or not at all.  One that fails has a reason for it and
leaves the map as it is; after one that succeeds the instance is found under its new
identifier with its access point, and every other instance where it was. -/
structure ChangesAtomically (this : ServiceMap) (sid oldIid newIid : UUID) : Prop where
  reason : (this.changeServiceIID sid oldIid newIid).2 = false →
    this.find sid = none ∨ this.isServiceInstanceRunning sid oldIid = false ∨
      (newIid ≠ oldIid ∧ this.isServiceInstanceRunning sid newIid = true)
  unchanged : (this.changeServiceIID sid oldIid newIid).2 = false →
    (this.changeServiceIID sid oldIid newIid).1 = this
  moved : (this.changeServiceIID sid oldIid newIid).2 = true →
    ∃ info, this.getInstanceOfService sid oldIid = some info ∧
      (∀ other, (this.changeServiceIID sid oldIid newIid).1.getInstanceOfService sid other =
        if other = newIid then some { info with iid := newIid }
        else if other = oldIid then none
        else this.getInstanceOfService sid other) ∧
      ∀ other, other ≠ sid →
        (this.changeServiceIID sid oldIid newIid).1.find other = this.find other

theorem changeServiceIID_of_known {this : ServiceMap} {sid : UUID} {service : ServiceInfo}
    (oldIid newIid : UUID) (known : this.find sid = some service) :
    this.changeServiceIID sid oldIid newIid =
      (this.replace (service.setIID oldIid newIid).1, (service.setIID oldIid newIid).2) := by
  rw [changeServiceIID, known]

/-- The services after a rename. -/
theorem find_changeServiceIID {this : ServiceMap} {sid : UUID} {service : ServiceInfo}
    (oldIid newIid : UUID) (known : this.find sid = some service) (other : UUID) :
    (this.changeServiceIID sid oldIid newIid).1.find other =
      if other = sid then some (service.setIID oldIid newIid).1 else this.find other := by
  rw [changeServiceIID_of_known oldIid newIid known, find_replace, ServiceInfo.sid_setIID,
    sid_of_find known, known, Option.map_some]

/-- The answer of a rename: the instance runs, and its new identifier is its own or free. -/
theorem changeServiceIID_answer (this : ServiceMap) (sid oldIid newIid : UUID) :
    (this.changeServiceIID sid oldIid newIid).2 = true ↔
      this.isServiceInstanceRunning sid oldIid = true ∧
        (newIid = oldIid ∨ this.isServiceInstanceRunning sid newIid = false) := by
  rw [changeServiceIID, isServiceInstanceRunning, isServiceInstanceRunning]
  cases this.find sid with
  | none => simp
  | some service => exact service.setIID_answer oldIid newIid

/-- A rename that finds no instance changes nothing. -/
theorem changeServiceIID_of_idle {this : ServiceMap} {sid oldIid : UUID} (newIid : UUID)
    (idle : this.isServiceInstanceRunning sid oldIid = false) :
    this.changeServiceIID sid oldIid newIid = (this, false) := by
  cases known : this.find sid with
  | none => rw [changeServiceIID, known]
  | some service =>
      rw [isServiceInstanceRunning, known] at idle
      have own : this.find service.sid = some service := by
        rw [sid_of_find known, known]
      rw [changeServiceIID_of_known oldIid newIid known, service.setIID_of_unknown newIid idle,
        replace_self own]

/-- A rename that is answered with true moves the instance, and nothing else. -/
theorem moved_of_answer {this : ServiceMap} {sid oldIid newIid : UUID}
    (answered : (this.changeServiceIID sid oldIid newIid).2 = true) :
    ∃ info, this.getInstanceOfService sid oldIid = some info ∧
      (∀ other, (this.changeServiceIID sid oldIid newIid).1.getInstanceOfService sid other =
        if other = newIid then some { info with iid := newIid }
        else if other = oldIid then none
        else this.getInstanceOfService sid other) ∧
      ∀ other, other ≠ sid →
        (this.changeServiceIID sid oldIid newIid).1.find other = this.find other := by
  rcases (this.changeServiceIID_answer sid oldIid newIid).mp answered with ⟨runs, free⟩
  rcases isServiceInstanceRunning_iff.mp runs with ⟨service, known, here⟩
  rcases ServiceInfo.isServiceInstanceRunning_iff.mp here with ⟨info, found⟩
  rw [isServiceInstanceRunning, known] at free
  refine ⟨info, ?_, ?_, ?_⟩
  · rw [getInstanceOfService, known, Option.bind_some, found]
  · intro other
    rw [getInstanceOfService, getInstanceOfService, find_changeServiceIID oldIid newIid known,
      if_pos rfl, known, Option.bind_some, Option.bind_some,
      ServiceInfo.find_setIID_of_free found free]
  · intro other elsewhere
    rw [find_changeServiceIID oldIid newIid known, if_neg elsewhere]

/-- A colliding rename loses the instance and leaves the others. -/
theorem isServiceInstanceRunning_of_collides {this : ServiceMap} {sid oldIid newIid : UUID}
    (collides : this.Collides sid oldIid newIid) (otherSid other : UUID) :
    (this.changeServiceIID sid oldIid newIid).1.isServiceInstanceRunning otherSid other = true ↔
      (otherSid, other) ≠ (sid, oldIid) ∧
        this.isServiceInstanceRunning otherSid other = true := by
  rcases collides with ⟨apart, runs, taken⟩
  rcases isServiceInstanceRunning_iff.mp runs with ⟨service, known, here⟩
  rcases isServiceInstanceRunning_iff.mp taken with ⟨same, again, there⟩
  cases known.symm.trans again
  rw [isServiceInstanceRunning, find_changeServiceIID oldIid newIid known, isServiceInstanceRunning]
  by_cases elsewhere : otherSid = sid
  · rw [if_pos elsewhere, elsewhere, known]
    simp only [ServiceInfo.isServiceInstanceRunning,
      ServiceInfo.find_setIID_of_taken apart here there]
    by_cases old : other = oldIid
    · simp [old]
    · simp [old]
  · simp [elsewhere]

/-- A rename is made whole or not at all exactly when it does not collide. -/
theorem changeServiceIID_atomic_iff (this : ServiceMap) (sid oldIid newIid : UUID) :
    this.ChangesAtomically sid oldIid newIid ↔ ¬this.Collides sid oldIid newIid := by
  have answer := this.changeServiceIID_answer sid oldIid newIid
  constructor
  · intro atomic collides
    have failed : (this.changeServiceIID sid oldIid newIid).2 = false := by
      rw [← Bool.not_eq_true, answer, collides.2.2]
      rintro ⟨-, own | free⟩
      · exact collides.1 own
      · cases free
    have kept := collides.2.1
    rw [← atomic.unchanged failed, isServiceInstanceRunning_of_collides collides] at kept
    exact kept.1 rfl
  · intro apart
    have idle : (this.changeServiceIID sid oldIid newIid).2 = false →
        this.isServiceInstanceRunning sid oldIid = false := by
      intro failed
      by_contra runs
      rw [Bool.not_eq_false] at runs
      rw [← Bool.not_eq_true, answer, not_and, not_or] at failed
      rcases failed runs with ⟨other, taken⟩
      exact apart ⟨other, runs, Bool.not_eq_false _ ▸ taken⟩
    constructor
    · intro failed
      exact Or.inr (Or.inl (idle failed))
    · intro failed
      rw [changeServiceIID_of_idle newIid (idle failed)]
    · exact moved_of_answer

/-- Two instances of one service. -/
def pair (sid first second : UUID) : ServiceMap :=
  ((empty.addServiceInstance sid first none).bind fun map =>
    map.addServiceInstance sid second none).getD empty

/-- The first of two instances takes the identifier of the second: the method answers
false, and the first instance is gone. -/
theorem changeServiceIID_loses_instance :
    ¬(pair ⟨List.replicate 16 1⟩ ⟨List.replicate 16 2⟩ ⟨List.replicate 16 3⟩).ChangesAtomically
      ⟨List.replicate 16 1⟩ ⟨List.replicate 16 2⟩ ⟨List.replicate 16 3⟩ := by
  intro atomic
  have same := atomic.unchanged (by decide)
  have gone : ((pair ⟨List.replicate 16 1⟩ ⟨List.replicate 16 2⟩ ⟨List.replicate 16 3⟩).changeServiceIID
      ⟨List.replicate 16 1⟩ ⟨List.replicate 16 2⟩ ⟨List.replicate 16 3⟩).1.isServiceInstanceRunning
      ⟨List.replicate 16 1⟩ ⟨List.replicate 16 2⟩ = false := by decide
  rw [same] at gone
  cases gone

end ServiceMap

end Stheno.Peer
