import Stheno.FT.Renaming

/-!
# Taking the primary's role

A member that hears of a closure removes the closed member from its view.  It takes the
primary's role when that makes it the first of the view, and then its runtime moves the
instance from the identifier that the member generated to that of the group.
-/

namespace Stheno.FT

open Peer Superpeer P3ReplicationGroup

/-- A view without one more member. -/
theorem erase_without {view : List UUID} (distinct : view.Nodup) (closed : List UUID)
    (uuid : UUID) : (without view closed).erase uuid = without view (closed ++ [uuid]) := by
  have left : (without view closed).Nodup := distinct.filter _
  rw [left.erase_eq_filter, without, without, List.filter_filter]
  apply List.filter_congr
  intro other _
  by_cases equal : other = uuid
  · simp [equal]
  · simp [equal]

namespace P3ReplicationGroup

/-- A member is the primary when it is the first of its view. -/
theorem isThisPeerPrimary_iff_head? {this : P3ReplicationGroup} :
    this.isThisPeerPrimary = true ↔ this.view.head? = some this.runtimeUUID := by
  rw [isThisPeerPrimary_iff, view, List.head?_cons, Option.some_inj, eq_comm]

section

variable {group : P3ReplicationGroup} {uuid : UUID}

theorem isThisPeerPrimary_of_takes (known : group.runtimeUUID ∈ group.view)
    (elsewhere : group.runtimeUUID ≠ uuid) (changed : Bool)
    (takes : (group.view.erase uuid).head? = some group.runtimeUUID) :
    (group.onPeerClosure uuid changed).isThisPeerPrimary = true := by
  rcases onPeerClosure_spec known elsewhere changed with ⟨self, views, -⟩
  rw [isThisPeerPrimary_iff_head?, views, self]
  exact takes

/-- A member that does not take the role over is the primary exactly if it was. -/
theorem isThisPeerPrimary_of_not_takes (known : group.runtimeUUID ∈ group.view)
    (elsewhere : group.runtimeUUID ≠ uuid) (changed : Bool)
    (keeps : ¬(group.primaryPeer.uuid = uuid ∧
      (group.view.erase uuid).head? = some group.runtimeUUID)) :
    (group.onPeerClosure uuid changed).isThisPeerPrimary = group.isThisPeerPrimary := by
  have head : group.view = group.primaryPeer.uuid :: group.replicas.map OverlayPeerInfo.uuid := rfl
  rcases onPeerClosure_spec known elsewhere changed with ⟨self, views, -⟩
  rw [Bool.eq_iff_iff, isThisPeerPrimary_iff_head?, isThisPeerPrimary_iff_head?, views, self]
  by_cases first : group.primaryPeer.uuid = uuid
  · constructor
    · intro heir
      exact absurd ⟨first, heir⟩ keeps
    · intro primary
      rw [head, List.head?_cons, Option.some_inj, first] at primary
      exact absurd primary.symm elsewhere
  · rw [head, List.erase_cons_tail (by simpa using first), List.head?_cons, List.head?_cons]

end

end P3ReplicationGroup

/-- The calls of a member that takes the role over. -/
theorem GroupNet.foldlM_obey_takeover {runtime moved : SthenoCore} {sid iid newIid : UUID}
    {update : ServiceUpdate} (done : runtime.changeIIDOfService sid iid newIid = .ok (moved, update)) :
    [Call.changeToPrimaryRole, .changeIIDOfService sid iid newIid].foldlM GroupNet.obey (runtime, []) =
      .ok (moved, [update]) := by
  have obeys : GroupNet.obey (runtime, []) (.changeIIDOfService sid iid newIid) =
      .ok (moved, [update]) := by
    rw [GroupNet.obey, done]
    rfl
  have both : [Call.changeToPrimaryRole, .changeIIDOfService sid iid newIid].foldlM GroupNet.obey
      (runtime, []) =
        GroupNet.obey (runtime, []) (.changeIIDOfService sid iid newIid) >>= pure := rfl
  rw [both, obeys]
  rfl

namespace Deployment

variable (d : Deployment)

/-- A member's copy of the membership agrees with what it has heard, and its runtime holds
the instance under the identifier of its role. -/
structure Role (m : UUID) (runtime : SthenoCore) (group : P3ReplicationGroup)
    (heard : List UUID) : Prop where
  valid : runtime.isValid = true
  self : group.runtimeUUID = m
  sid : group.sid = d.sid
  iid : group.iid = (d.site m).iid
  groupUUID : group.groupUUID = d.groupUUID
  view : group.view = without d.members heard
  stays : m ∉ heard
  names : d.Names m (d.current m group) (runtime.getInstancesOfServiceInfo d.sid)

variable {d} {m uuid : UUID} {runtime : SthenoCore} {group : P3ReplicationGroup}
  {heard : List UUID}

/-- The founder is the primary as long as it runs, so that a member without the role is
one of the replicas. -/
theorem Role.generated (role : d.Role m runtime group heard) (member : m ∈ d.members)
    (waits : group.isThisPeerPrimary ≠ true) : (d.site m).iid ≠ d.groupUUID := by
  rcases List.mem_cons.mp member with rfl | replica
  · apply absurd _ waits
    rw [isThisPeerPrimary_iff_head?, role.view, role.self]
    exact head?_without role.stays
  · exact d.generated m replica

theorem Role.known (role : d.Role m runtime group heard) (member : m ∈ d.members) :
    group.runtimeUUID ∈ group.view := by
  rw [role.view, role.self, without, List.mem_filter]
  exact ⟨member, decide_eq_true role.stays⟩

/-- Of what a member's role says, a closure changes the view and the names. -/
theorem Role.onPeerClosure (role : d.Role m runtime group heard) (member : m ∈ d.members)
    (other : m ≠ uuid) {changed : Bool} {moved : SthenoCore} (valid : moved.isValid = true)
    (names : d.Names m (d.current m (group.onPeerClosure uuid changed))
      (moved.getInstancesOfServiceInfo d.sid)) :
    d.Role m moved (group.onPeerClosure uuid changed) (heard ++ [uuid]) := by
  have known := role.known member
  have elsewhere : group.runtimeUUID ≠ uuid := by
    rw [role.self]
    exact other
  rcases onPeerClosure_spec known elsewhere changed with ⟨self, views, -⟩
  rcases onPeerClosure_calls known elsewhere changed with ⟨sid, iid, groupUUID, -⟩
  have distinct : d.members.Nodup := d.distinct
  have stays : m ∉ heard ++ [uuid] := by
    rw [List.mem_append, List.mem_singleton, not_or]
    exact ⟨role.stays, other⟩
  exact
    { valid
      self := self.trans role.self
      sid := sid.trans role.sid
      iid := iid.trans role.iid
      groupUUID := groupUUID.trans role.groupUUID
      view := by
        rw [views, role.view, erase_without distinct]
      stays
      names }

/-- What a member does when it hears of a closure: it keeps its role, or it takes the
primary's and hands the new identifier of its instance to the mesh. -/
theorem Role.noticed (role : d.Role m runtime group heard) (member : m ∈ d.members)
    (other : m ≠ uuid) (changed : Bool) :
    let after := group.onPeerClosure uuid changed
    ∃ obeyed, (after.calls.drop group.calls.length).foldlM GroupNet.obey (runtime, []) = .ok obeyed ∧
      d.Role m obeyed.1 after (heard ++ [uuid]) ∧
      ((obeyed.2 = [] ∧ d.current m after = d.current m group) ∨
        (obeyed.2 = [.updateIID d.sid (d.site m).iid d.groupUUID] ∧
          d.current m group = (d.site m).iid ∧ d.current m after = d.groupUUID ∧
          (d.site m).iid ≠ d.groupUUID)) := by
  intro after
  have known := role.known member
  have elsewhere : group.runtimeUUID ≠ uuid := by
    rw [role.self]
    exact other
  rcases onPeerClosure_calls known elsewhere changed with ⟨-, -, -, calls⟩
  change after.calls = _ at calls
  by_cases takes : group.primaryPeer.uuid = uuid ∧
      (group.view.erase uuid).head? = some group.runtimeUUID
  · -- the member that follows the closed primary
    have waits : group.isThisPeerPrimary ≠ true := by
      rw [Ne, isThisPeerPrimary_iff, takes.1]
      exact elsewhere
    have before : d.current m group = (d.site m).iid := if_neg waits
    have now : d.current m after = d.groupUUID :=
      if_pos (isThisPeerPrimary_of_takes known elsewhere changed takes.2)
    have generated := role.generated member waits
    have names := role.names
    rw [before] at names
    rcases SthenoCore.exists_changeIIDOfService role.valid names.found (names.free generated) with
      ⟨moved, done, valid, moves⟩
    rw [if_pos takes, role.sid, role.iid, role.groupUUID] at calls
    refine ⟨(moved, [.updateIID d.sid (d.site m).iid d.groupUUID]), ?_, ?_, ?_⟩
    · rw [calls, List.drop_left, GroupNet.foldlM_obey_takeover done]
    · exact role.onPeerClosure member other valid (now ▸ Names.changed moves)
    · exact Or.inr ⟨rfl, before, now, generated⟩
  · have kept : d.current m after = d.current m group := by
      rw [current, current, isThisPeerPrimary_of_not_takes known elsewhere changed takes]
    rw [if_neg takes, List.append_nil] at calls
    refine ⟨(runtime, []), ?_, ?_, Or.inl ⟨rfl, kept⟩⟩
    · rw [calls, List.drop_length]
      rfl
    · exact role.onPeerClosure member other role.valid (kept ▸ role.names)

end Deployment

end Stheno.FT
