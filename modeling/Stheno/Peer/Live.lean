import Stheno.Peer.Codec
import Stheno.Peer.Changes
import Stheno.Run

/-!
# The instances that are live

The service map of a peer is compared with a ledger of the instances that were added
and not removed.  Map and ledger agree through every run in which no rename takes the
identifier of another instance and no record is read that lists a service without
instances.
-/

namespace Stheno.Peer

open Wire

/-- The calls that change the service map of a peer. -/
inductive ServiceCall where
  | addServiceInstance (sid iid : UUID) (sapInfo : Option SAPInfo)
  /-- `removeService` of a whole service. -/
  | removeWholeService (sid : UUID)
  | removeService (sid iid : UUID)
  | changeServiceIID (sid oldIid newIid : UUID)
  | deserialize (inputStream : InputStream)

namespace PeerInfo

/-- At least one instance of the service runs. -/
def isServiceRunning (this : PeerInfo) (sid : UUID) : Bool :=
  (this.serviceMap.find sid).isSome

/-- The record of a peer whose service map has changed. -/
def withServices (this : PeerInfo) (map : ServiceMap) : PeerInfo :=
  { this with services := map.services, keyed := map.keyed }

@[simp]
theorem serviceMap_withServices (this : PeerInfo) (map : ServiceMap) :
    (this.withServices map).serviceMap = map :=
  rfl

/-- The record that `deserialize` leaves, and the services as the bytes list them. -/
def readRecord (this : PeerInfo) : Reader (PeerInfo × List ServiceInfo) := do
  let type ← readULong this.type
  let pid ← UUID.deserialize
  let fid ← UUID.deserialize
  let meshSAP ← readOptional SAPInfo.deserialize
  let discoverySAP ← readOptional SAPInfo.deserialize
  let ftSAP ← readOptional SAPInfo.deserialize
  let services ← readCounted ServiceInfo.deserialize
  pure (ofServices type pid fid meshSAP discoverySAP ftSAP services, services)

/-- A new record is read as any other. -/
theorem deserialize_eq (this : PeerInfo) (zero : this.type = 0) :
    deserialize = this.readRecord >>= fun read => pure read.1 := by
  simp only [deserialize, readRecord, zero, bind_assoc, pure_bind]

/-- Of the services that are listed under one identifier the first is bound. -/
theorem services_of_readRecord {this info : PeerInfo} {services : List ServiceInfo}
    {stream after : InputStream} (done : this.readRecord stream = .ok ((info, services), after)) :
    info.services = Table.empty.bindAll ServiceInfo.sid services := by
  rcases Reader.bind_eq_ok.mp done with ⟨_, _, -, afterType⟩
  rcases Reader.bind_eq_ok.mp afterType with ⟨_, _, -, afterPid⟩
  rcases Reader.bind_eq_ok.mp afterPid with ⟨_, _, -, afterFid⟩
  rcases Reader.bind_eq_ok.mp afterFid with ⟨_, _, -, afterMesh⟩
  rcases Reader.bind_eq_ok.mp afterMesh with ⟨_, _, -, afterDiscovery⟩
  rcases Reader.bind_eq_ok.mp afterDiscovery with ⟨_, _, -, afterFT⟩
  rcases Reader.bind_eq_ok.mp afterFT with ⟨_, _, -, last⟩
  cases last
  rfl

/-- The instances of a list of services, as a map binds them. -/
def listed (services : List ServiceInfo) : List (UUID × UUID) :=
  (Table.firsts ServiceInfo.sid services).flatMap fun service =>
    service.runningServices.entries.map fun running => (service.sid, running.1)

/-- No service is listed without instances, unless one under the same identifier comes
before it. -/
def ListsInstances (services : List ServiceInfo) : Prop :=
  ∀ service ∈ Table.firsts ServiceInfo.sid services, 0 < service.getInstanceCount

theorem instances_of_readRecord {this info : PeerInfo} {services : List ServiceInfo}
    {stream after : InputStream} (done : this.readRecord stream = .ok ((info, services), after)) :
    info.serviceMap.instances = listed services := by
  change info.services.entries.flatMap _ = _
  rw [services_of_readRecord done, Table.entries_bindAll_empty, List.flatMap_map, listed]

theorem nonempty_of_readRecord {this info : PeerInfo} {services : List ServiceInfo}
    {stream after : InputStream} (done : this.readRecord stream = .ok ((info, services), after)) :
    info.serviceMap.Nonempty ↔ ListsInstances services := by
  have held : ∀ sid service, info.serviceMap.find sid = some service ↔
      service ∈ Table.firsts ServiceInfo.sid services ∧ service.sid = sid := by
    intro sid service
    change info.services.find sid = some service ↔ _
    rw [Table.find_eq_some_iff, services_of_readRecord done, Table.entries_bindAll_empty,
      List.mem_map]
    constructor
    · rintro ⟨_, member, same⟩
      cases same
      exact ⟨member, rfl⟩
    · rintro ⟨member, rfl⟩
      exact ⟨service, member, rfl⟩
  constructor
  · intro nonempty service member
    exact nonempty service.sid service ((held service.sid service).mpr ⟨member, rfl⟩)
  · intro lists sid service known
    exact lists service ((held sid service).mp known).1

theorem toNat_foldl_count (entries : List (UUID × ServiceInfo)) (start : UInt32) :
    (entries.foldl (fun count entry => count + UInt32.ofNat entry.2.getInstanceCount) start).toNat =
      (start.toNat + (entries.map fun entry => entry.2.getInstanceCount).sum) % 2 ^ 32 := by
  induction entries generalizing start with
  | nil =>
      rw [List.foldl_nil, List.map_nil, List.sum_nil, Nat.add_zero, Nat.mod_eq_of_lt start.toNat_lt]
  | cons entry entries inductionHypothesis =>
      rw [List.foldl_cons, inductionHypothesis, UInt32.toNat_add, UInt32.toNat_ofNat', List.map_cons,
        List.sum_cons, Nat.add_mod_mod, Nat.mod_add_mod, Nat.add_assoc]

/-- The total counts the running instances in 32 bits. -/
theorem toNat_getTotalServicesRunning (this : PeerInfo) :
    this.getTotalServicesRunning.toNat = this.serviceMap.instances.length % 2 ^ 32 := by
  rw [getTotalServicesRunning, toNat_foldl_count, ServiceMap.instances, List.length_flatMap]
  simp only [List.length_map]
  exact congrArg (· % 2 ^ 32) (Nat.zero_add _)

/-- The record after a call. -/
def call (this : PeerInfo) : ServiceCall → Result PeerInfo
  | .addServiceInstance sid iid sapInfo =>
      .ok (this.withServices
        ((this.serviceMap.addServiceInstance sid iid sapInfo).getD this.serviceMap))
  | .removeWholeService sid => .ok (this.withServices (this.serviceMap.removeWholeService sid).1)
  | .removeService sid iid =>
      .ok (this.withServices ((this.serviceMap.removeService sid iid).getD this.serviceMap))
  | .changeServiceIID sid oldIid newIid =>
      .ok (this.withServices (this.serviceMap.changeServiceIID sid oldIid newIid).1)
  | .deserialize inputStream => (this.readRecord inputStream).map fun read => read.1.1

end PeerInfo

/-- A record, and the ledger of the instances that were added and not removed. -/
structure Audited where
  info : PeerInfo
  live : List (UUID × UUID)

namespace Audited

open PeerInfo

/-- The ledger after a call. -/
def entered (this : Audited) : ServiceCall → List (UUID × UUID)
  | .addServiceInstance sid iid _ => this.live.insert (sid, iid)
  | .removeWholeService sid => this.live.filter fun running => running.1 ≠ sid
  | .removeService sid iid => this.live.erase (sid, iid)
  | .changeServiceIID sid oldIid newIid =>
      if (sid, oldIid) ∈ this.live ∧ (newIid = oldIid ∨ (sid, newIid) ∉ this.live) then
        (this.live.erase (sid, oldIid)).insert (sid, newIid)
      else
        this.live
  | .deserialize inputStream =>
      match this.info.readRecord inputStream with
      | .error _ => this.live
      | .ok read => listed read.1.2

def step (this : Audited) (call : ServiceCall) : Result Audited :=
  (this.info.call call).map fun info => ⟨info, this.entered call⟩

def run (this : Audited) (calls : List ServiceCall) : Result Audited :=
  calls.foldlM step this

/-- The service map holds what the ledger says. -/
structure Agrees (this : Audited) : Prop where
  nonempty : this.info.serviceMap.Nonempty
  own : ∀ sid service iid info, this.info.serviceMap.find sid = some service →
    service.runningServices.find iid = some info → service.sid = sid ∧ info.iid = iid
  instances : ∀ sid iid, this.info.serviceMap.isServiceInstanceRunning sid iid = true ↔
    (sid, iid) ∈ this.live
  running : ∀ sid, this.info.isServiceRunning sid = true ↔ ∃ iid, (sid, iid) ∈ this.live
  total : this.info.getTotalServicesRunning.toNat = this.live.length
  restores : ∀ sid iid sap, this.info.serviceMap.isServiceInstanceRunning sid iid = false →
    ∃ added, this.info.serviceMap.addServiceInstance sid iid sap = some added ∧
      added.removeService sid iid = some this.info.serviceMap

/-- The condition on a call: a rename does not take the identifier of another instance, a
record that is read lists no service without instances, and the instances can be counted
in 32 bits. -/
def Fits (this : Audited) : ServiceCall → Prop
  | .addServiceInstance sid iid _ => (sid, iid) ∈ this.live ∨ this.live.length + 1 < 2 ^ 32
  | .removeWholeService _ => True
  | .removeService _ _ => True
  | .changeServiceIID sid oldIid newIid => ¬this.info.serviceMap.Collides sid oldIid newIid
  | .deserialize inputStream => ∀ read after, this.info.readRecord inputStream = .ok (read, after) →
      ListsInstances read.2 ∧ (listed read.2).length < 2 ^ 32

/-- Every call of a run meets the condition where it is made. -/
def FitsAll : Audited → List ServiceCall → Prop
  | _, [] => True
  | this, first :: rest =>
      ∀ after, this.step first = .ok after → this.Fits first ∧ after.FitsAll rest

theorem runs : Runs step run Fits FitsAll where
  run_nil _ := rfl
  run_cons _ _ _ := List.foldlM_cons ..
  allFit_nil _ := trivial
  allFit_cons _ _ _ := Iff.rfl

/-- What the ledger lists once is enough to count the instances. -/
theorem agrees_iff {this : Audited} (once : this.live.Nodup) :
    this.Agrees ↔ this.info.serviceMap.Nonempty ∧
      (∀ sid iid, this.info.serviceMap.isServiceInstanceRunning sid iid = true ↔
        (sid, iid) ∈ this.live) ∧ this.live.length < 2 ^ 32 := by
  constructor
  · intro agrees
    refine ⟨agrees.nonempty, agrees.instances, ?_⟩
    rw [← agrees.total]
    exact UInt32.toNat_lt _
  · rintro ⟨nonempty, instances, few⟩
    have permuted : this.info.serviceMap.instances.Perm this.live := by
      rw [List.perm_ext_iff_of_nodup (ServiceMap.nodup_instances _) once]
      rintro ⟨sid, iid⟩
      rw [ServiceMap.mem_instances_iff, instances]
    constructor
    · exact nonempty
    · intro sid service iid info known found
      exact ⟨ServiceMap.sid_of_find known,
        service.keyed (iid, info) (Table.find_eq_some_iff.mp found)⟩
    · exact instances
    · intro sid
      simp only [← instances, ServiceMap.isServiceInstanceRunning_iff]
      rw [isServiceRunning, Option.isSome_iff_exists]
      constructor
      · rintro ⟨service, known⟩
        rcases ServiceInfo.getInstanceCount_pos_iff.mp (nonempty sid service known) with ⟨iid, runs⟩
        exact ⟨iid, service, known, runs⟩
      · rintro ⟨_, service, known, -⟩
        exact ⟨service, known⟩
    · rw [toNat_getTotalServicesRunning, permuted.length_eq, Nat.mod_eq_of_lt few]
    · intro sid iid sap idle
      exact ServiceMap.removeService_addServiceInstance nonempty idle sap

theorem step_eq_ok {this after : Audited} {call : ServiceCall} (done : this.step call = .ok after) :
    this.info.call call = .ok after.info ∧ after.live = this.entered call := by
  rcases Result.map_eq_ok.mp done with ⟨info, called, rfl⟩
  exact ⟨called, rfl⟩

/-- Every entry of the ledger is there once. -/
theorem once_step {this after : Audited} {call : ServiceCall} (once : this.live.Nodup)
    (done : this.step call = .ok after) : after.live.Nodup := by
  rcases step_eq_ok done with ⟨called, entered⟩
  rw [entered]
  cases call with
  | addServiceInstance sid iid sapInfo => exact once.insert
  | removeWholeService sid => exact once.filter _
  | removeService sid iid => exact once.erase _
  | changeServiceIID sid oldIid newIid =>
      rw [Audited.entered]
      split
      · exact (once.erase _).insert
      · exact once
  | deserialize inputStream =>
      rcases Result.map_eq_ok.mp called with ⟨⟨⟨info, services⟩, stream⟩, read, -⟩
      rw [Audited.entered, read]
      change (listed services).Nodup
      rw [← instances_of_readRecord read]
      exact ServiceMap.nodup_instances _

section Steps

variable {this after : Audited}

/-- A call that is refused. -/
theorem Agrees.congr (agrees : this.Agrees) (info : after.info.serviceMap = this.info.serviceMap)
    (live : after.live = this.live) : after.Agrees := by
  have services : after.info.services = this.info.services :=
    congrArg ServiceMap.services info
  have total : after.info.getTotalServicesRunning = this.info.getTotalServicesRunning := by
    rw [getTotalServicesRunning, getTotalServicesRunning, services]
  constructor
  · rw [info]
    exact agrees.nonempty
  · rw [info]
    exact agrees.own
  · rw [info, live]
    exact agrees.instances
  · intro sid
    rw [isServiceRunning, info, live]
    exact agrees.running sid
  · rw [total, live]
    exact agrees.total
  · rw [info]
    exact agrees.restores

theorem agrees_addServiceInstance_iff (once : this.live.Nodup) (agrees : this.Agrees)
    {sid iid : UUID} {sap : Option SAPInfo}
    (done : this.step (.addServiceInstance sid iid sap) = .ok after) :
    after.Agrees ↔ this.Fits (.addServiceInstance sid iid sap) := by
  have onceAfter := once_step once done
  rcases step_eq_ok done with ⟨called, entered⟩
  injection called with called
  have made := this.info.serviceMap.isSome_addServiceInstance sid iid sap
  cases running : this.info.serviceMap.isServiceInstanceRunning sid iid with
  | true =>
      have member := (agrees.instances sid iid).mp running
      rw [running, Bool.not_true, Option.isSome_eq_false_iff, Option.isNone_iff_eq_none] at made
      apply iff_of_true
      · apply agrees.congr
        · rw [← called, serviceMap_withServices, made, Option.getD_none]
        · rw [entered, Audited.entered, List.insert_of_mem member]
      · exact Or.inl member
  | false =>
      have fresh : (sid, iid) ∉ this.live := by
        rw [← agrees.instances, running]
        exact Bool.false_ne_true
      rw [running, Bool.not_false] at made
      rcases Option.isSome_iff_exists.mp made with ⟨added, some_added⟩
      have map : after.info.serviceMap = added := by
        rw [← called, serviceMap_withServices, some_added, Option.getD_some]
      rw [agrees_iff onceAfter, map, entered, Audited.entered, List.length_insert_of_not_mem fresh]
      constructor
      · rintro ⟨-, -, few⟩
        exact Or.inr few
      · intro fits
        refine ⟨agrees.nonempty.addServiceInstance some_added, ?_, fits.resolve_left fresh⟩
        intro other running
        rw [ServiceMap.runs_addServiceInstance some_added, List.mem_insert_iff, agrees.instances]

theorem agrees_removeService (once : this.live.Nodup) (agrees : this.Agrees) {sid iid : UUID}
    (done : this.step (.removeService sid iid) = .ok after) : after.Agrees := by
  have onceAfter := once_step once done
  rcases step_eq_ok done with ⟨called, entered⟩
  injection called with called
  have few : this.live.length < 2 ^ 32 := ((agrees_iff once).mp agrees).2.2
  have made := this.info.serviceMap.isSome_removeService sid iid
  cases running : this.info.serviceMap.isServiceInstanceRunning sid iid with
  | false =>
      have absent : (sid, iid) ∉ this.live := by
        rw [← agrees.instances, running]
        exact Bool.false_ne_true
      rw [running, Option.isSome_eq_false_iff, Option.isNone_iff_eq_none] at made
      apply agrees.congr
      · rw [← called, serviceMap_withServices, made, Option.getD_none]
      · rw [entered, Audited.entered, List.erase_of_not_mem absent]
  | true =>
      rw [running] at made
      rcases Option.isSome_iff_exists.mp made with ⟨removed, some_removed⟩
      have map : after.info.serviceMap = removed := by
        rw [← called, serviceMap_withServices, some_removed, Option.getD_some]
      rw [agrees_iff onceAfter, map, entered, Audited.entered]
      refine ⟨agrees.nonempty.removeService some_removed, ?_, ?_⟩
      · intro other running
        rw [ServiceMap.runs_removeService some_removed, once.mem_erase_iff, agrees.instances]
      · exact lt_of_le_of_lt List.length_erase_le few

theorem agrees_removeWholeService (once : this.live.Nodup) (agrees : this.Agrees) {sid : UUID}
    (done : this.step (.removeWholeService sid) = .ok after) : after.Agrees := by
  have onceAfter := once_step once done
  rcases step_eq_ok done with ⟨called, entered⟩
  injection called with called
  have few : this.live.length < 2 ^ 32 := ((agrees_iff once).mp agrees).2.2
  rw [agrees_iff onceAfter, ← called, serviceMap_withServices, entered, Audited.entered]
  refine ⟨agrees.nonempty.removeWholeService sid, ?_, ?_⟩
  · intro other running
    rw [ServiceMap.runs_removeWholeService, agrees.instances, List.mem_filter, decide_eq_true_eq,
      and_comm]
  · exact lt_of_le_of_lt (List.length_filter_le _ _) few

theorem agrees_changeServiceIID_iff (once : this.live.Nodup) (agrees : this.Agrees)
    {sid oldIid newIid : UUID} (done : this.step (.changeServiceIID sid oldIid newIid) = .ok after) :
    after.Agrees ↔ this.Fits (.changeServiceIID sid oldIid newIid) := by
  have onceAfter := once_step once done
  rcases step_eq_ok done with ⟨called, entered⟩
  injection called with called
  have few : this.live.length < 2 ^ 32 := ((agrees_iff once).mp agrees).2.2
  have map : after.info.serviceMap = (this.info.serviceMap.changeServiceIID sid oldIid newIid).1 := by
    rw [← called, serviceMap_withServices]
  have answer := this.info.serviceMap.changeServiceIID_answer sid oldIid newIid
  have moves : ((sid, oldIid) ∈ this.live ∧ (newIid = oldIid ∨ (sid, newIid) ∉ this.live)) ↔
      (this.info.serviceMap.changeServiceIID sid oldIid newIid).2 = true := by
    rw [answer, agrees.instances, ← Bool.not_eq_true, agrees.instances]
  constructor
  · -- The ledger keeps the instance that a colliding rename loses.
    intro agreesAfter collides
    have kept : after.live = this.live := by
      rw [entered, Audited.entered, if_neg]
      rw [moves, answer, collides.2.2]
      rintro ⟨-, same | impossible⟩
      · exact collides.1 same
      · cases impossible
    have listed := (agrees.instances sid oldIid).mp collides.2.1
    rw [← kept, ← agreesAfter.instances, map, ServiceMap.isServiceInstanceRunning_of_collides collides]
      at listed
    exact listed.1 rfl
  · intro apart
    by_cases answered : (this.info.serviceMap.changeServiceIID sid oldIid newIid).2 = true
    · have moved : after.live = (this.live.erase (sid, oldIid)).insert (sid, newIid) := by
        rw [entered, Audited.entered, if_pos (moves.mpr answered)]
      rw [agrees_iff onceAfter, map]
      refine ⟨agrees.nonempty.changeServiceIID answered, ?_, ?_⟩
      · intro other running
        rw [ServiceMap.runs_changeServiceIID answered, moved, List.mem_insert_iff, once.mem_erase_iff,
          agrees.instances]
      · have present := (moves.mpr answered).1
        have some_entry := List.length_pos_of_mem present
        rw [moved, List.length_insert, List.length_erase_of_mem present]
        split
        · omega
        · omega
    · have kept : after.live = this.live := by
        rw [entered, Audited.entered, if_neg (moves.not.mpr answered)]
      have idle : this.info.serviceMap.isServiceInstanceRunning sid oldIid = false := by
        by_contra runs
        rw [Bool.not_eq_false] at runs
        rw [answer, not_and, not_or] at answered
        exact apart ⟨(answered runs).1, runs, Bool.not_eq_false _ ▸ (answered runs).2⟩
      apply agrees.congr
      · rw [map, ServiceMap.changeServiceIID_of_idle newIid idle]
      · exact kept

theorem agrees_deserialize_iff (once : this.live.Nodup) {inputStream : InputStream}
    (done : this.step (.deserialize inputStream) = .ok after) :
    after.Agrees ↔ this.Fits (.deserialize inputStream) := by
  have onceAfter := once_step once done
  rcases step_eq_ok done with ⟨called, entered⟩
  rcases Result.map_eq_ok.mp called with ⟨⟨⟨info, services⟩, stream⟩, read, same⟩
  have live : after.live = listed services := by
    rw [entered, Audited.entered, read]
  rw [agrees_iff onceAfter, ← same, nonempty_of_readRecord read, live]
  constructor
  · rintro ⟨lists, -, few⟩ other later again
    rw [read] at again
    cases again
    exact ⟨lists, few⟩
  · intro fits
    rcases fits _ _ read with ⟨lists, few⟩
    refine ⟨lists, ?_, few⟩
    intro sid iid
    rw [← ServiceMap.mem_instances_iff, instances_of_readRecord read]

/-- Map and ledger still agree after a call exactly when the call meets the condition. -/
theorem agrees_step_iff {call : ServiceCall} (once : this.live.Nodup) (agrees : this.Agrees)
    (done : this.step call = .ok after) : after.Agrees ↔ this.Fits call := by
  cases call with
  | addServiceInstance sid iid sapInfo => exact agrees_addServiceInstance_iff once agrees done
  | removeWholeService sid => exact iff_of_true (agrees_removeWholeService once agrees done) trivial
  | removeService sid iid => exact iff_of_true (agrees_removeService once agrees done) trivial
  | changeServiceIID sid oldIid newIid => exact agrees_changeServiceIID_iff once agrees done
  | deserialize inputStream => exact agrees_deserialize_iff once done

end Steps

/-- A record without services and an empty ledger. -/
def created (info : PeerInfo) : Audited :=
  ⟨info.withServices .empty, []⟩

theorem agrees_created (info : PeerInfo) : (created info).Agrees := by
  rw [agrees_iff List.nodup_nil]
  refine ⟨?_, ?_, Nat.two_pow_pos 32⟩
  · intro sid service impossible
    cases impossible
  · intro sid iid
    apply iff_of_false
    · intro impossible
      cases impossible
    · exact List.not_mem_nil

/-- In every state of a run the service map holds what was added and not removed, exactly
when no rename takes the identifier of another instance, no record is read that lists a
service without instances, and the instances can be counted. -/
theorem agrees_through_run_iff (info : PeerInfo) (calls : List ServiceCall) :
    (∀ before, before <+: calls → ∀ reached, (created info).run before = .ok reached →
      reached.Agrees) ↔ (created info).FitsAll calls :=
  @Runs.always_iff Audited ServiceCall step run Fits FitsAll (fun this => this.live.Nodup) Agrees runs
    once_step agrees_step_iff (created info) calls List.nodup_nil (agrees_created info)

/-- A peer without access points. -/
def bare : PeerInfo :=
  .ofServices 1 ⟨List.replicate 16 1⟩ ⟨List.replicate 16 2⟩ none none none []

/-- Two instances of a service are added, and the first takes the identifier of the
second: the map holds one instance, though two were added and none was removed. -/
theorem agrees_fails_after_rename :
    ∃ calls reached, (created bare).run calls = .ok reached ∧ ¬reached.Agrees := by
  refine ⟨[.addServiceInstance ⟨List.replicate 16 3⟩ ⟨List.replicate 16 4⟩ none,
    .addServiceInstance ⟨List.replicate 16 3⟩ ⟨List.replicate 16 5⟩ none,
    .changeServiceIID ⟨List.replicate 16 3⟩ ⟨List.replicate 16 4⟩ ⟨List.replicate 16 5⟩], _, rfl, ?_⟩
  intro agrees
  exact absurd agrees.total (by decide)

end Audited

end Stheno.Peer
