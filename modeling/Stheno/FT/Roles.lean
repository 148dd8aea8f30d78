import Mathlib.Data.Fintype.EquivFin
import Stheno.FT.Failover

/-!
# Roles in a replication group

The role of a member is kept twice, in the flag of the constructor and in the identity
of the primary, and promotion rewrites the second only.  `isPeerReplica` answers true
for every peer once there is a replica.
-/

namespace Stheno.FT

open P3ReplicationGroup

/-- How a group is opened. -/
inductive Opening where
  | primary (self : OverlayPeerInfo) (groupUUID sid iid : UUID)
      (found : List (OverlayPeerInfo × Binding))
  | replica (self : OverlayPeerInfo) (groupUUID sid iid : UUID) (primaryPeer : OverlayPeerInfo)
      (replicas : List OverlayPeerInfo)

def Opening.open : Opening → P3ReplicationGroup
  | .primary self groupUUID sid iid found => (asPrimary self groupUUID sid iid).addReplicas found
  | .replica self groupUUID sid iid primaryPeer replicas =>
      openReplica self groupUUID sid iid primaryPeer replicas

inductive Operation where
  | addReplica (replica : OverlayPeerInfo) (binding : Binding)
  | removeReplica (uuid : UUID)
  | onPeerClosure (uuid : UUID) (changed : Bool)

namespace P3ReplicationGroup

def perform (this : P3ReplicationGroup) : Operation → P3ReplicationGroup
  | .addReplica replica binding => (this.addReplica replica binding).1
  | .removeReplica uuid => (this.removeReplica uuid).1
  | .onPeerClosure uuid changed => this.onPeerClosure uuid changed

def performAll (this : P3ReplicationGroup) (operations : List Operation) : P3ReplicationGroup :=
  operations.foldl perform this

/-- The flag, the recorded primary and the list of the replicas tell one story. -/
structure RolesAgree (this : P3ReplicationGroup) : Prop where
  primary : this.isPrimary = true ↔ this.isThisPeerPrimary = true
  apart : this.primaryPeer.uuid ∉ this.getReplicaList.map OverlayPeerInfo.uuid
  replica : ∀ uuid, this.isPeerReplica uuid = true ↔
    uuid ∈ this.getReplicaList.map OverlayPeerInfo.uuid

/-- The loop of `isPeerReplica` has no way to answer false. -/
theorem isPeerReplicaFrom_eq_true (uuid : UUID) (peers : List OverlayPeerInfo) :
    isPeerReplicaFrom uuid peers = true := by
  induction peers with
  | nil => rfl
  | cons peer rest ih =>
      rw [isPeerReplicaFrom]
      split
      · rfl
      · exact ih

theorem isPeerReplica_iff {this : P3ReplicationGroup} {uuid : UUID} :
    this.isPeerReplica uuid = true ↔ this.replicas ≠ [] := by
  rw [isPeerReplica]
  split
  next empty => simpa using List.length_eq_zero_iff.mp empty
  next some => simpa [isPeerReplicaFrom_eq_true] using some

instance : Infinite UUID :=
  Infinite.of_injective UUID.mk fun _ _ equal => UUID.mk.inj equal

theorem RolesAgree.replicas_eq_nil {this : P3ReplicationGroup} (agree : this.RolesAgree) :
    this.replicas = [] := by
  by_contra some
  rcases Infinite.exists_notMem_finset (this.getReplicaList.map OverlayPeerInfo.uuid).toFinset with
    ⟨uuid, fresh⟩
  rw [List.mem_toFinset] at fresh
  exact fresh ((agree.replica uuid).mp (isPeerReplica_iff.mpr some))

/-- A primary by its flag and by its identity, without a replica. -/
structure Alone (this : P3ReplicationGroup) : Prop where
  primary : this.primary = true
  self : this.runtimeUUID = this.primaryPeer.uuid
  replicas : this.replicas = []

theorem Alone.rolesAgree {this : P3ReplicationGroup} (alone : this.Alone) : this.RolesAgree := by
  constructor
  · constructor
    · intro _
      exact isThisPeerPrimary_iff.mpr alone.self
    · intro _
      exact alone.primary
  · rw [getReplicaList, alone.replicas]
    exact List.not_mem_nil
  · intro uuid
    rw [isPeerReplica_iff, getReplicaList, alone.replicas]
    simp

end P3ReplicationGroup

/-- All parts of a binding to a new replica succeed. -/
def Binding.succeeds (this : Binding) : Bool :=
  this.control && this.data && this.update

namespace P3ReplicationGroup

theorem addReplica_of_primary {this : P3ReplicationGroup} (primary : this.primary = true)
    (replica : OverlayPeerInfo) (binding : Binding) :
    this.addReplica replica binding = this.addReplicaAsPrimary replica binding :=
  if_pos primary

theorem addReplicaAsPrimary_of_succeeds {this : P3ReplicationGroup} {replica : OverlayPeerInfo}
    {binding : Binding} (succeeds : binding.succeeds = true) :
    (this.addReplicaAsPrimary replica binding).1.replicas ≠ [] := by
  rw [Binding.succeeds, Bool.and_eq_true, Bool.and_eq_true] at succeeds
  rw [addReplicaAsPrimary, succeeds.1.1, succeeds.1.2, succeeds.2]
  simp

theorem addReplicaAsPrimary_of_fails {this : P3ReplicationGroup} {replica : OverlayPeerInfo}
    {binding : Binding} (fails : binding.succeeds = false) :
    (this.addReplicaAsPrimary replica binding).1 = this := by
  rcases binding with ⟨control, ftDataSAP, data, update⟩
  cases control with
  | false => rfl
  | true =>
      cases data with
      | false => rfl
      | true =>
          cases update with
          | false => rfl
          | true => cases fails

end P3ReplicationGroup

/-- An operation that binds no replica to a primary. -/
def Operation.BindsNone : Operation → Prop
  | .addReplica _ binding => binding.succeeds = false
  | .removeReplica _ => True
  | .onPeerClosure _ _ => True

/-- A primary that finds no resource to which it can bind. -/
def Opening.BindsNone : Opening → Prop
  | .primary _ _ _ _ found => ∀ peer ∈ found, peer.2.succeeds = false
  | .replica _ _ _ _ _ _ => False

namespace P3ReplicationGroup

theorem Alone.perform {this : P3ReplicationGroup} (alone : this.Alone) {operation : Operation}
    (bindsNone : operation.BindsNone) : (this.perform operation).Alone := by
  cases operation with
  | addReplica replica binding =>
      rw [P3ReplicationGroup.perform, addReplica_of_primary alone.primary,
        addReplicaAsPrimary_of_fails bindsNone]
      exact alone
  | removeReplica uuid =>
      rw [P3ReplicationGroup.perform, removeReplica]
      split
      · exact ⟨alone.primary, alone.self, alone.replicas⟩
      · exact ⟨alone.primary, alone.self, by rw [alone.replicas]; rfl⟩
  | onPeerClosure uuid changed =>
      rw [P3ReplicationGroup.perform, onPeerClosure, alone.replicas]
      split
      · exact ⟨alone.primary, alone.self, alone.replicas⟩
      · rw [removeReplica]
        split
        · exact ⟨alone.primary, alone.self, alone.replicas⟩
        · exact ⟨alone.primary, alone.self, by rw [alone.replicas]; rfl⟩

theorem Alone.performAll {this : P3ReplicationGroup} (alone : this.Alone)
    {operations : List Operation} (bindsNone : ∀ operation ∈ operations, operation.BindsNone) :
    (this.performAll operations).Alone := by
  induction operations generalizing this with
  | nil => exact alone
  | cons operation operations ih =>
      rw [List.forall_mem_cons] at bindsNone
      exact ih (alone.perform bindsNone.1) bindsNone.2

theorem alone_asPrimary (self : OverlayPeerInfo) (groupUUID sid iid : UUID) :
    (asPrimary self groupUUID sid iid).Alone :=
  ⟨rfl, rfl, rfl⟩

theorem addReplicas_eq_performAll (this : P3ReplicationGroup)
    (found : List (OverlayPeerInfo × Binding)) :
    this.addReplicas found =
      this.performAll (found.map fun peer => .addReplica peer.1 peer.2) := by
  rw [performAll, List.foldl_map]
  rfl

/-- An addition to a primary binds a replica or changes nothing, and a replica stays in
the list until it is removed. -/
theorem replicas_addReplicas {this : P3ReplicationGroup} (primary : this.primary = true)
    {found : List (OverlayPeerInfo × Binding)} (empty : (this.addReplicas found).replicas = []) :
    this.replicas = [] ∧ ∀ peer ∈ found, peer.2.succeeds = false := by
  induction found generalizing this with
  | nil => exact ⟨empty, by simp⟩
  | cons peer found ih =>
      rcases addReplica_eq this peer.1 peer.2 with ⟨replicas, equal⟩
      have still : (this.addReplica peer.1 peer.2).1.primary = true := by
        rw [equal]
        exact primary
      rcases ih still empty with ⟨none, later⟩
      rw [addReplica_of_primary primary] at none
      have fails : peer.2.succeeds = false := by
        by_contra succeeds
        exact addReplicaAsPrimary_of_succeeds (Bool.of_not_eq_false succeeds) none
      rw [addReplicaAsPrimary_of_fails fails] at none
      exact ⟨none, List.forall_mem_cons.mpr ⟨fails, later⟩⟩

theorem alone_open {self : OverlayPeerInfo} {groupUUID sid iid : UUID}
    {found : List (OverlayPeerInfo × Binding)} (fail : ∀ peer ∈ found, peer.2.succeeds = false) :
    (Opening.primary self groupUUID sid iid found).open.Alone := by
  rw [Opening.open, addReplicas_eq_performAll]
  apply (alone_asPrimary self groupUUID sid iid).performAll
  intro operation member
  rcases List.mem_map.mp member with ⟨peer, isFound, rfl⟩
  exact fail peer isFound

/-- The first addition that binds a replica to a lone primary ends the agreement. -/
theorem Alone.bindsNone_of_agree {this : P3ReplicationGroup} (alone : this.Alone)
    {operations : List Operation}
    (agree : ∀ before later, operations = before ++ later →
      (this.performAll before).RolesAgree) :
    ∀ operation ∈ operations, operation.BindsNone := by
  induction operations generalizing this with
  | nil => exact List.forall_mem_nil _
  | cons operation operations ih =>
      have first : operation.BindsNone := by
        have none := (agree [operation] operations rfl).replicas_eq_nil
        cases operation with
        | addReplica replica binding =>
            change (this.addReplica replica binding).1.replicas = [] at none
            rw [addReplica_of_primary alone.primary] at none
            change binding.succeeds = false
            by_contra succeeds
            exact addReplicaAsPrimary_of_succeeds (Bool.of_not_eq_false succeeds) none
        | removeReplica uuid => trivial
        | onPeerClosure uuid changed => trivial
      refine List.forall_mem_cons.mpr ⟨first, ih (alone.perform first) ?_⟩
      rintro before later rfl
      exact agree (operation :: before) later rfl

/-- The roles agree in every state of a run exactly if the group is opened as a primary
and never binds a replica. -/
theorem rolesAgree_iff (opening : Opening) (operations : List Operation) :
    (∀ before later, operations = before ++ later →
        (opening.open.performAll before).RolesAgree) ↔
      opening.BindsNone ∧ ∀ operation ∈ operations, operation.BindsNone := by
  constructor
  · intro agree
    have none := (agree [] operations rfl).replicas_eq_nil
    cases opening with
    | replica self groupUUID sid iid primaryPeer replicas =>
        rw [performAll, List.foldl_nil, Opening.open, openReplica] at none
        exact absurd none (List.append_ne_nil_of_right_ne_nil _ (List.cons_ne_nil _ _))
    | primary self groupUUID sid iid found =>
        have opens := (replicas_addReplicas rfl none).2
        exact ⟨opens, (alone_open opens).bindsNone_of_agree agree⟩
  · rintro ⟨opens, bindsNone⟩ before later rfl
    cases opening with
    | replica self groupUUID sid iid primaryPeer replicas => exact opens.elim
    | primary self groupUUID sid iid found =>
        apply Alone.rolesAgree
        exact (alone_open opens).performAll fun operation member =>
          bindsNone operation (List.mem_append_left _ member)

/-- A primary with the replica 2. -/
def withReplica : P3ReplicationGroup :=
  (Opening.primary (peer 1) ⟨[8]⟩ ⟨[9]⟩ ⟨[11]⟩ [(peer 2, bound)]).open

/-- The replica 2 after the closure of the primary 1. -/
def promotedReplica : P3ReplicationGroup :=
  (Opening.replica (peer 2) ⟨[8]⟩ ⟨[9]⟩ ⟨[12]⟩ (peer 1) []).open.perform
    (.onPeerClosure ⟨[1]⟩ true)

/-- With one replica a stranger counts as a replica, and a replica that was promoted is
the primary by its identity but takes the path of a replica. -/
theorem not_rolesAgree_withReplica :
    (¬ withReplica.RolesAgree ∧ withReplica.isPeerReplica ⟨[7]⟩ = true ∧
      (⟨[7]⟩ : UUID) ∉ withReplica.getReplicaList.map OverlayPeerInfo.uuid) ∧
    ¬ promotedReplica.RolesAgree ∧ promotedReplica.isThisPeerPrimary = true ∧
      promotedReplica.isPrimary = false ∧
      promotedReplica.addReplica (peer 3) bound =
        promotedReplica.addReplicaAsReplica (peer 3) bound := by
  have stranger : withReplica.isPeerReplica ⟨[7]⟩ = true := by decide
  have fresh : (⟨[7]⟩ : UUID) ∉ withReplica.getReplicaList.map OverlayPeerInfo.uuid := by decide
  have primary : promotedReplica.isThisPeerPrimary = true := by decide
  constructor
  · refine ⟨?_, stranger, fresh⟩
    intro agree
    exact fresh ((agree.replica _).mp stranger)
  · refine ⟨?_, primary, rfl, rfl⟩
    intro agree
    exact Bool.false_ne_true (agree.primary.mpr primary)

end P3ReplicationGroup

end Stheno.FT
