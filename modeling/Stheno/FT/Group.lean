import Mathlib.Data.List.Perm.Basic
import Stheno.FT.Failover

/-!
# The members of a replication group

The surviving members of a group process one sequence of additions and closures.  A
new replica starts from the copy of the member that invites it and appends itself;
the others append it by the path of their role.
-/

namespace Stheno.FT

open P3ReplicationGroup

/-- The addition of a replica that was found. -/
structure Addition where
  replica : OverlayPeerInfo
  /-- How the replica describes itself. -/
  self : OverlayPeerInfo
  /-- The instance of the service that the replica creates. -/
  iid : UUID
  /-- What comes of the connections of each member to the replica. -/
  bindings : UUID → Binding

/-- The replica as the packets to the other members describe it. -/
def Addition.announced (this : Addition) (sender : UUID) : OverlayPeerInfo :=
  this.replica.setFTDataSAP (this.bindings sender).ftDataSAP

inductive Event where
  | added (sender : UUID) (addition : Addition)
  /-- The closure of a peer reaches every other member. -/
  | closed (uuid : UUID) (changed : UUID → Bool)

/-- How a member that is in the group already takes an addition. -/
def enlist (sender : UUID) (addition : Addition) (m : P3ReplicationGroup) : P3ReplicationGroup :=
  if m.runtimeUUID = sender then
    (m.addReplica addition.replica (addition.bindings sender)).1
  else
    (m.handleAddReplicaPacket (addition.announced sender) (addition.bindings m.runtimeUUID)).1

/-- The packet of `initSession` carries the primary and the list of the inviting member
as they are before the addition. -/
def initiate (inviting : P3ReplicationGroup) (addition : Addition) : P3ReplicationGroup :=
  openReplica addition.self inviting.groupUUID inviting.sid addition.iid inviting.primaryPeer
    inviting.getReplicaList

def step (members : List P3ReplicationGroup) : Event → List P3ReplicationGroup
  | .added sender addition =>
      match members.find? fun m => m.runtimeUUID = sender with
      | none => members
      | some inviting => members.map (enlist sender addition) ++ [initiate inviting addition]
  | .closed uuid changed =>
      (members.filter fun m => m.runtimeUUID != uuid).map fun m =>
        m.onPeerClosure uuid (changed m.runtimeUUID)

def run (members : List P3ReplicationGroup) (events : List Event) : List P3ReplicationGroup :=
  events.foldl step members

/-- All connections of an addition succeed. -/
structure Binding.Succeeds (this : Binding) : Prop where
  control : this.control = true
  data : this.data = true
  update : this.update = true

/-- A member invites a peer that is not in the group, which the search for resources
leaves out, and its connections and those of the other members succeed. -/
structure Admissible (members : List P3ReplicationGroup) (sender : UUID) (addition : Addition) :
    Prop where
  self : addition.self.uuid = addition.replica.uuid
  sender : ∃ m ∈ members, m.runtimeUUID = sender
  fresh : ∀ m ∈ members, m.runtimeUUID ≠ addition.replica.uuid
  succeeds : ∀ m ∈ members, (addition.bindings m.runtimeUUID).Succeeds

def Valid (members : List P3ReplicationGroup) : List Event → Prop
  | [] => True
  | .added sender addition :: events =>
      Admissible members sender addition ∧ Valid (step members (.added sender addition)) events
  | .closed uuid changed :: events => Valid (step members (.closed uuid changed)) events

theorem Valid.prefix {members : List P3ReplicationGroup} {before later : List Event}
    (valid : Valid members (before ++ later)) : Valid members before := by
  induction before generalizing members with
  | nil => trivial
  | cons event before ih =>
      cases event with
      | added sender addition => exact ⟨valid.1, ih valid.2⟩
      | closed uuid changed => exact ih valid

/-- The members that are left hold one view, which lists exactly them. -/
structure Agreed (members : List P3ReplicationGroup) (view : List UUID) : Prop where
  distinct : view.Nodup
  listed : (members.map runtimeUUID).Perm view
  equal : ∀ m ∈ members, m.view = view

namespace Agreed

variable {members : List P3ReplicationGroup} {view : List UUID}

theorem known (agreed : Agreed members view) {m : P3ReplicationGroup} (member : m ∈ members) :
    m.runtimeUUID ∈ m.view := by
  rw [agreed.equal m member]
  exact agreed.listed.mem_iff.mp (List.mem_map_of_mem member)

theorem view_enlist {m : P3ReplicationGroup} {sender : UUID} {addition : Addition}
    (succeeds : (addition.bindings m.runtimeUUID).Succeeds) :
    (enlist sender addition m).view = m.view ++ [addition.replica.uuid] := by
  rw [enlist]
  split
  next here =>
    subst here
    exact view_addReplica succeeds.control succeeds.data succeeds.update
  next =>
    exact view_addReplica succeeds.control succeeds.data succeeds.update

@[simp]
theorem runtimeUUID_enlist {m : P3ReplicationGroup} {sender : UUID} {addition : Addition} :
    (enlist sender addition m).runtimeUUID = m.runtimeUUID := by
  rw [enlist, handleAddReplicaPacket]
  split
  · exact runtimeUUID_addReplica _ _ _
  · exact runtimeUUID_addReplica _ _ _

theorem eq_of_runtimeUUID (agreed : Agreed members view) {m other : P3ReplicationGroup}
    (member : m ∈ members) (isMember : other ∈ members)
    (named : m.runtimeUUID = other.runtimeUUID) : m = other :=
  List.inj_on_of_nodup_map (agreed.listed.nodup_iff.mpr agreed.distinct) member isMember named

/-- As long as a member survives the primary, the first replica is a member. -/
theorem exists_survivor (agreed : Agreed members view) {a : P3ReplicationGroup}
    (member : a ∈ members) {changed : UUID → Bool}
    (survivors : step members (.closed a.primaryPeer.uuid changed) ≠ []) :
    ∃ heir ∈ members, heir.runtimeUUID ≠ a.primaryPeer.uuid ∧
      (a.replicas.map OverlayPeerInfo.uuid).head? = some heir.runtimeUUID := by
  have distinct := agreed.distinct
  have listed := agreed.listed
  rw [← agreed.equal a member, P3ReplicationGroup.view] at distinct listed
  cases replicas : a.replicas.map OverlayPeerInfo.uuid with
  | nil =>
      rw [replicas] at listed
      apply absurd _ survivors
      rw [step, List.map_eq_nil_iff, List.filter_eq_nil_iff]
      intro m isMember
      have named := listed.mem_iff.mp (List.mem_map_of_mem isMember)
      simp [List.mem_singleton.mp named]
  | cons first rest =>
      rw [replicas] at distinct listed
      have inView : first ∈ a.primaryPeer.uuid :: first :: rest :=
        List.mem_cons_of_mem _ List.mem_cons_self
      rcases List.mem_map.mp (listed.mem_iff.mpr inView) with ⟨heir, isMember, rfl⟩
      refine ⟨heir, isMember, ?_, rfl⟩
      intro same
      rw [← same] at distinct
      exact (List.nodup_cons.mp distinct).1 List.mem_cons_self

/-- An addition puts the new replica at the end of the common view. -/
theorem added (agreed : Agreed members view) {sender : UUID} {addition : Addition}
    (admissible : Admissible members sender addition) :
    Agreed (step members (.added sender addition)) (view ++ [addition.replica.uuid]) := by
  rcases admissible with ⟨same, ⟨m, member, named⟩, fresh, succeeds⟩
  cases found : members.find? fun m => m.runtimeUUID = sender with
  | none => exact absurd (decide_eq_true named) (List.find?_eq_none.mp found m member)
  | some inviting =>
      rw [step, found]
      constructor
      · rw [List.nodup_append]
        refine ⟨agreed.distinct, List.nodup_singleton _, ?_⟩
        intro uuid inView last isLast equal
        rw [equal, List.mem_singleton.mp isLast] at inView
        rcases List.mem_map.mp (agreed.listed.mem_iff.mpr inView) with ⟨other, isMember, other_eq⟩
        exact fresh other isMember other_eq
      · have names : (members.map (enlist sender addition)).map runtimeUUID =
            members.map runtimeUUID := by
          rw [List.map_map]
          exact List.map_congr_left fun m _ => runtimeUUID_enlist
        rw [List.map_append, names, List.map_singleton, ← same]
        exact agreed.listed.append_right _
      · intro m memberAfter
        rcases List.mem_append.mp memberAfter with old | new
        · rcases List.mem_map.mp old with ⟨before, memberBefore, rfl⟩
          rw [view_enlist (succeeds before memberBefore), agreed.equal before memberBefore]
        · rw [List.mem_singleton.mp new, initiate, view_openReplica, same]
          exact congrArg (· ++ [addition.replica.uuid])
            (agreed.equal inviting (List.mem_of_find?_eq_some found))

/-- A closure removes the closed peer from the common view. -/
theorem closed (agreed : Agreed members view) (uuid : UUID) (changed : UUID → Bool) :
    Agreed (step members (.closed uuid changed)) (view.erase uuid) := by
  have each : ∀ m ∈ members.filter fun m => m.runtimeUUID != uuid,
      (m.onPeerClosure uuid (changed m.runtimeUUID)).runtimeUUID = m.runtimeUUID ∧
        (m.onPeerClosure uuid (changed m.runtimeUUID)).view = view.erase uuid := by
    intro m left
    rcases List.mem_filter.mp left with ⟨member, survives⟩
    rcases onPeerClosure_spec (agreed.known member) (bne_iff_ne.mp survives)
      (changed m.runtimeUUID) with ⟨self, views, -⟩
    rw [agreed.equal m member] at views
    exact ⟨self, views⟩
  constructor
  · exact agreed.distinct.erase _
  · have names : (step members (.closed uuid changed)).map runtimeUUID =
        (members.map runtimeUUID).filter fun other => other != uuid := by
      rw [step, List.map_map, List.filter_map]
      exact List.map_congr_left fun m left => (each m left).1
    rw [names, agreed.distinct.erase_eq_filter]
    exact agreed.listed.filter _
  · intro m member
    rcases List.mem_map.mp member with ⟨before, left, rfl⟩
    exact (each before left).2

end Agreed

/-- Whatever a valid sequence of events has done, the members that are left agree. -/
theorem agreed_run {members : List P3ReplicationGroup} {view : List UUID} {events : List Event}
    (agreed : Agreed members view) (valid : Valid members events) :
    ∃ after, Agreed (run members events) after := by
  induction events generalizing members view with
  | nil => exact ⟨view, agreed⟩
  | cons event events ih =>
      cases event with
      | added sender addition => exact ih (agreed.added valid.1) valid.2
      | closed uuid changed => exact ih (agreed.closed uuid changed) valid

theorem agreed_asPrimary (self : OverlayPeerInfo) (groupUUID sid iid : UUID) :
    Agreed [asPrimary self groupUUID sid iid] [self.uuid] where
  distinct := List.nodup_singleton _
  listed := List.Perm.refl _
  equal := by
    intro m member
    rw [List.mem_singleton.mp member]
    rfl

/-- While `openPrimary` adds the resources that it found, it is the first member of a
group that processes these additions. -/
theorem run_additions (founder : P3ReplicationGroup) (others : List P3ReplicationGroup)
    (additions : List Addition) : ∃ members,
      run (founder :: others) (additions.map (.added founder.runtimeUUID)) =
        founder.addReplicas (additions.map fun addition =>
          (addition.replica, addition.bindings founder.runtimeUUID)) :: members := by
  induction additions generalizing founder others with
  | nil => exact ⟨others, rfl⟩
  | cons addition additions ih =>
      have found : (founder :: others).find? (fun m => m.runtimeUUID = founder.runtimeUUID) =
          some founder :=
        List.find?_cons_of_pos (decide_eq_true rfl)
      have here : enlist founder.runtimeUUID addition founder =
          (founder.addReplica addition.replica (addition.bindings founder.runtimeUUID)).1 :=
        if_pos rfl
      rcases ih (enlist founder.runtimeUUID addition founder)
        (others.map (enlist founder.runtimeUUID addition) ++ [initiate founder addition]) with
        ⟨members, ran⟩
      rw [Agreed.runtimeUUID_enlist] at ran
      have first : run (founder :: others) ((addition :: additions).map
          (.added founder.runtimeUUID)) = run (enlist founder.runtimeUUID addition founder ::
            (others.map (enlist founder.runtimeUUID addition) ++ [initiate founder addition]))
              (additions.map (.added founder.runtimeUUID)) := by
        rw [List.map_cons, run, List.foldl_cons, step, found]
        rfl
      rw [here] at ran first
      exact ⟨members, first.trans ran⟩

theorem openPrimary_run (self : OverlayPeerInfo) (groupUUID sid iid : UUID)
    (additions : List Addition) : ∃ founder members,
      openPrimary self groupUUID sid iid (some (additions.map fun addition =>
        (addition.replica, addition.bindings self.uuid))) = some founder ∧
      run [asPrimary self groupUUID sid iid] (additions.map (.added self.uuid)) =
        founder :: members := by
  rcases run_additions (asPrimary self groupUUID sid iid) [] additions with ⟨members, ran⟩
  exact ⟨_, members, rfl, ran⟩

/-- After any part of the events the members that are left agree on the primary and on
the order of the replicas, and when the primary closes, the one at the head of that
order takes its role and no other does. -/
theorem members_agree (self : OverlayPeerInfo) (groupUUID sid iid : UUID)
    (before later : List Event)
    (valid : Valid [asPrimary self groupUUID sid iid] (before ++ later)) :
    let members := run [asPrimary self groupUUID sid iid] before
    (∀ a ∈ members, ∀ b ∈ members, a.primaryPeer.uuid = b.primaryPeer.uuid ∧
      a.replicas.map OverlayPeerInfo.uuid = b.replicas.map OverlayPeerInfo.uuid) ∧
    ∀ a ∈ members, ∀ changed, step members (.closed a.primaryPeer.uuid changed) ≠ [] →
      ∃ heir ∈ members, heir.runtimeUUID ≠ a.primaryPeer.uuid ∧
        (∀ m ∈ members,
          (m.replicas.map OverlayPeerInfo.uuid).head? = some heir.runtimeUUID) ∧
        ∀ m ∈ members, m.runtimeUUID ≠ a.primaryPeer.uuid →
          (m.onPeerClosure a.primaryPeer.uuid (changed m.runtimeUUID)).promotions =
            m.promotions + if m = heir then 1 else 0 := by
  intro members
  rcases agreed_run (agreed_asPrimary self groupUUID sid iid) valid.prefix with ⟨view, agreed⟩
  change Agreed members view at agreed
  constructor
  · intro a memberA b memberB
    have same := (agreed.equal a memberA).trans (agreed.equal b memberB).symm
    exact List.cons.inj same
  · intro a memberA changed survivors
    have equal := agreed.equal
    rw [← equal a memberA, P3ReplicationGroup.view] at equal
    rcases agreed.exists_survivor memberA survivors with ⟨heir, memberHeir, other, head⟩
    refine ⟨heir, memberHeir, other, ?_, ?_⟩
    · intro m member
      rw [(List.cons.inj (equal m member)).2, head]
    · intro m member left
      rcases onPeerClosure_spec (agreed.known member) left (changed m.runtimeUUID) with
        ⟨-, -, promoted⟩
      have primary : m.primaryPeer.uuid = a.primaryPeer.uuid := (List.cons.inj (equal m member)).1
      rw [promoted, equal m member, List.erase_cons_head, head]
      have same : heir.runtimeUUID = m.runtimeUUID ↔ m = heir := by
        constructor
        · intro named
          exact agreed.eq_of_runtimeUUID member memberHeir named.symm
        · rintro rfl
          rfl
      simp only [primary, Option.some_inj, same, true_and]

/-- The addition of the peer `n` whose connections all succeed. -/
def bindingPeer (n : UInt8) : Addition where
  replica := peer n
  self := peer n
  iid := ⟨[10 + n]⟩
  bindings := fun _ => bound

/-- The primary 1 invites 2 and 3. -/
def founding : List Event :=
  [.added ⟨[1]⟩ (bindingPeer 2), .added ⟨[1]⟩ (bindingPeer 3)]

theorem members_agree_founding :
    let members := run [asPrimary (peer 1) ⟨[8]⟩ ⟨[9]⟩ ⟨[11]⟩] founding
    ∃ heir ∈ members, heir.runtimeUUID = ⟨[2]⟩ ∧
      ∀ m ∈ members, m.runtimeUUID ≠ ⟨[1]⟩ →
        (m.onPeerClosure ⟨[1]⟩ true).promotions = m.promotions + if m = heir then 1 else 0 := by
  intro members
  have succeeds : bound.Succeeds := ⟨rfl, rfl, rfl⟩
  have valid : Valid [asPrimary (peer 1) ⟨[8]⟩ ⟨[9]⟩ ⟨[11]⟩] (founding ++ []) :=
    ⟨⟨rfl, by decide, by decide, fun _ _ => succeeds⟩,
      ⟨rfl, by decide, by decide, fun _ _ => succeeds⟩, trivial⟩
  have agree := members_agree (peer 1) ⟨[8]⟩ ⟨[9]⟩ ⟨[11]⟩ founding [] valid
  have first : ∃ a ∈ members, a.primaryPeer.uuid = ⟨[1]⟩ ∧
      a.replicas.map OverlayPeerInfo.uuid = [⟨[2]⟩, ⟨[3]⟩] := by
    decide
  rcases first with ⟨a, memberA, primary, replicas⟩
  rcases agree.2 a memberA (fun _ => true) (by rw [primary]; decide) with
    ⟨heir, memberHeir, -, heads, promoted⟩
  have head := heads a memberA
  rw [replicas, List.head?_cons, Option.some_inj] at head
  rw [primary] at promoted
  exact ⟨heir, memberHeir, head.symm, promoted⟩

end Stheno.FT
