import Stheno.FT.Links

/-!
# The mesh of a group

Between two open members there is the pair of channels that the earlier one opened when
the later one joined.  A channel to a closed member is one whose closure was not noticed.
-/

namespace Stheno.FT

open P3ReplicationGroup

namespace P3ReplicationGroup

@[simp]
theorem isPrimary_onPeerClosure (this : P3ReplicationGroup) (uuid : UUID) (changed : Bool) :
    (this.onPeerClosure uuid changed).isPrimary = this.isPrimary := by
  rw [onPeerClosure]
  split
  · split
    · rfl
    · dsimp only
      split
      · cases changed with
        | true => rfl
        | false => rfl
      · rfl
  · rw [removeReplica]
    split
    · rfl
    · rfl

end P3ReplicationGroup

@[simp]
theorem isPrimary_enlist (sender : UUID) (addition : Addition) (m : P3ReplicationGroup) :
    (enlist sender addition m).isPrimary = m.isPrimary := by
  rw [enlist, handleAddReplicaPacket]
  split
  · rcases addReplica_eq m addition.replica (addition.bindings sender) with ⟨replicas, equal⟩
    rw [equal]
    rfl
  · rcases addReplica_eq m (addition.announced sender) (addition.bindings m.runtimeUUID) with
      ⟨replicas, equal⟩
    rw [equal]
    rfl

/-- A list that has a part for each key, of which one is asked for. -/
theorem flatMap_single {clients : List UUID} {here : UUID} {part : List Connection}
    (distinct : clients.Nodup) (member : here ∈ clients) :
    clients.flatMap (fun pid => if pid = here then part else []) = part := by
  induction clients with
  | nil => cases member
  | cons pid clients ih =>
      rw [List.nodup_cons] at distinct
      rw [List.flatMap_cons]
      by_cases same : pid = here
      · subst same
        rw [if_pos rfl, List.append_right_eq_self, List.flatMap_eq_nil_iff]
        intro other isOther
        rw [if_neg]
        rintro rfl
        exact distinct.1 isOther
      · rw [if_neg same, List.nil_append]
        exact ih distinct.2 (List.mem_of_ne_of_mem (Ne.symm same) member)

namespace Net

/-- The primary of the group invites a peer that no open member knows, and every
connection succeeds. -/
structure Admits (this : Net) (sender : UUID) (addition : Addition) : Prop where
  self : addition.self.uuid = addition.replica.uuid
  sender : ∃ m ∈ this.members, m.runtimeUUID = sender ∧ m.isPrimary = true
  fresh : ∀ m ∈ this.members, addition.replica.uuid ∉ m.view
  /-- The closure of an earlier replica of that name has been noticed. -/
  settled : ∀ here ∈ this.order, ∀ channel ∈ this.closing here,
    channel.getPID here ≠ addition.replica.uuid
  succeeds : ∀ m ∈ this.members, (addition.bindings m.runtimeUUID).Succeeds

/-- The channels between two open members, of which the first joined earlier. -/
structure Linked (founder : UUID) (this : Net) (early late : UUID) : Prop where
  later : late ≠ founder
  atClient : this.channelsTo early late = connections early late (early = founder)
  atServer : this.channelsTo late early = connections early late (early = founder)

/-- What holds between the open members of a group that the founder opened. -/
structure Meshed (founder : UUID) (this : Net) : Prop where
  distinct : this.order.Nodup
  primary : ∀ m ∈ this.members, m.isPrimary = true ↔ m.runtimeUUID = founder
  nodup_view : ∀ m ∈ this.members, m.view.Nodup
  /-- Without the closed members, the views are in the order of joining. -/
  view : ∀ m ∈ this.members, m.view.filter (fun uuid => uuid ∈ this.order) = this.order
  linked : this.order.Pairwise (this.Linked founder)
  own : founder ∈ this.order →
    ∀ channel ∈ this.held founder, channel.client = founder ∧ channel.server ≠ founder
  closing : ∀ here ∈ this.order, ∀ channel ∈ this.closing here,
    channel.getPID here ∉ this.order
  /-- A channel to a closed member is held until its closure is noticed. -/
  left : ∀ here ∈ this.order, ∀ channel : Connection, channel.getPID here ∉ this.order →
    (this.held here).count channel = (this.closing here).count channel

namespace Meshed

variable {founder : UUID} {this : Net}

theorem spokes (meshed : this.Meshed founder) (isOpen : founder ∈ this.order) :
    this.Spokes founder where
  own := meshed.own isOpen
  linked := by
    intro peer isMember other
    have either : this.order.Pairwise fun a b =>
        this.Linked founder a b ∨ this.Linked founder b a :=
      meshed.linked.imp fun linked => Or.inl linked
    have symmetric : Std.Symm fun a b => this.Linked founder a b ∨ this.Linked founder b a :=
      ⟨fun a b linked => linked.symm⟩
    rcases either.forall isOpen isMember other.symm with linked | linked
    · rw [linked.atClient]
      simp
    · exact absurd rfl linked.later

theorem known (meshed : this.Meshed founder) {m : P3ReplicationGroup}
    (member : m ∈ this.members) : m.runtimeUUID ∈ m.view := by
  have isOpen : m.runtimeUUID ∈ this.order := List.mem_map_of_mem member
  rw [← meshed.view m member] at isOpen
  exact List.mem_of_mem_filter isOpen

end Meshed

/-! ### A closure -/

/-- The group once a member has closed. -/
def afterClosed (this : Net) (uuid : UUID) : Net :=
  { this with
    members := this.members.filter fun m => m.runtimeUUID ≠ uuid
    closing := fun here => this.closing here ++
      (this.held here).filter fun channel => channel.getPID here = uuid }

namespace Meshed

variable {founder : UUID} {this : Net}

theorem order_afterClosed (meshed : this.Meshed founder) (uuid : UUID) :
    (this.afterClosed uuid).order = this.order.erase uuid := by
  rw [meshed.distinct.erase_eq_filter, Net.order, Net.order, List.filter_map]
  congr 1
  apply List.filter_congr
  intro m _
  by_cases same : m.runtimeUUID = uuid
  · simp [same]
  · simp [same]

/-- The channels to the closed member are those whose closure is to be noticed. -/
theorem left_afterClosed (meshed : this.Meshed founder) {uuid : UUID} (isOpen : uuid ∈ this.order)
    {here : UUID} (member : here ∈ this.order) {channel : Connection}
    (elsewhere : channel.getPID here ∉ this.order.erase uuid) :
    (this.held here).count channel =
      (this.closing here ++ (this.held here).filter fun channel => channel.getPID here = uuid).count
        channel := by
  rw [List.count_append]
  by_cases closes : channel.getPID here = uuid
  · have unknown : channel ∉ this.closing here := by
      intro pending
      exact meshed.closing here member channel pending (closes ▸ isOpen)
    have kept := @List.count_filter _ _ _ (fun channel : Connection =>
      decide (channel.getPID here = uuid)) channel (this.held here) (decide_eq_true closes)
    rw [List.count_eq_zero_of_not_mem unknown, kept, Nat.zero_add]
  · have unlisted : channel.getPID here ∉ this.order := by
      intro isMember
      rw [meshed.distinct.mem_erase_iff] at elsewhere
      exact elsewhere ⟨closes, isMember⟩
    have other : channel ∉ (this.held here).filter fun channel => channel.getPID here = uuid :=
      fun kept => closes (of_decide_eq_true (List.mem_filter.mp kept).2)
    rw [List.count_eq_zero_of_not_mem other, Nat.add_zero]
    exact meshed.left here member channel unlisted

theorem meshed_afterClosed (meshed : this.Meshed founder) {uuid : UUID}
    (isOpen : uuid ∈ this.order) : (this.afterClosed uuid).Meshed founder := by
  have order := meshed.order_afterClosed uuid
  have survives : ∀ {here}, here ∈ (this.afterClosed uuid).order → here ∈ this.order := by
    intro here member
    rw [order] at member
    exact List.mem_of_mem_erase member
  constructor
  case distinct =>
    rw [order]
    exact meshed.distinct.erase uuid
  case primary =>
    intro m member
    exact meshed.primary m (List.mem_of_mem_filter member)
  case nodup_view =>
    intro m member
    exact meshed.nodup_view m (List.mem_of_mem_filter member)
  case view =>
    intro m member
    have view := meshed.view m (List.mem_of_mem_filter member)
    rw [order, meshed.distinct.erase_eq_filter]
    nth_rewrite 3 [← view]
    rw [List.filter_filter]
    apply List.filter_congr
    intro other _
    by_cases same : other = uuid
    · simp [same]
    · simp [same]
  case linked =>
    rw [order]
    apply (meshed.linked.sublist List.erase_sublist).imp
    intro early late linked
    exact ⟨linked.later, linked.atClient, linked.atServer⟩
  case own =>
    intro member
    exact meshed.own (survives member)
  case closing =>
    intro here member channel pending
    rcases List.mem_append.mp pending with old | new
    · exact fun isMember => meshed.closing here (survives member) channel old (survives isMember)
    · have pid := of_decide_eq_true (List.mem_filter.mp new).2
      rw [pid, order]
      exact meshed.distinct.not_mem_erase
  case left =>
    intro here member channel elsewhere
    rw [order] at elsewhere
    exact meshed.left_afterClosed isOpen (survives member) elsewhere

theorem closed (meshed : this.Meshed founder) (uuid : UUID) :
    ∃ after, this.step (.closed uuid) = .ok after ∧ after.Meshed founder ∧
      after.order = this.order.erase uuid := by
  by_cases isOpen : uuid ∈ this.order
  · exact ⟨this.afterClosed uuid, if_pos isOpen, meshed.meshed_afterClosed isOpen,
      meshed.order_afterClosed uuid⟩
  · exact ⟨this, if_neg isOpen, meshed, (List.erase_of_not_mem isOpen).symm⟩

end Meshed

/-! ### A notice -/

/-- What a member makes of a notice. -/
def notice (here : UUID) (channel : Connection) (changed : Bool) (m : P3ReplicationGroup) :
    P3ReplicationGroup :=
  if m.runtimeUUID = here ∧ channel.kind = .control then
    m.onPeerClosure (channel.getPID here) changed
  else m

/-- The group once a member has noticed that a channel has closed. -/
def afterNoticed (this : Net) (here : UUID) (channel : Connection) (changed : Bool) : Net where
  members := this.members.map (notice here channel changed)
  held := Function.update this.held here ((this.held here).erase channel)
  closing := Function.update this.closing here ((this.closing here).erase channel)

/-- The channels of a member, one of which may be dropped. -/
theorem mem_of_mem_update_erase {channels : UUID → List Connection} {here other : UUID}
    {channel kept : Connection}
    (member : kept ∈ Function.update channels here ((channels here).erase channel) other) :
    kept ∈ channels other := by
  by_cases same : other = here
  · subst same
    rw [Function.update_self] at member
    exact List.mem_of_mem_erase member
  · rwa [Function.update_of_ne same] at member

namespace Meshed

variable {founder : UUID} {this : Net} {here : UUID} {channel : Connection}

/-- A member that notices can only drop the peer that the channel led to. -/
theorem notice_spec (meshed : this.Meshed founder) (isOpen : here ∈ this.order)
    (isClosed : channel.getPID here ∉ this.order) (changed : Bool) {m : P3ReplicationGroup}
    (member : m ∈ this.members) :
    (notice here channel changed m).runtimeUUID = m.runtimeUUID ∧
      (notice here channel changed m).isPrimary = m.isPrimary ∧
      ((notice here channel changed m).view = m.view ∨
        (notice here channel changed m).view = m.view.erase (channel.getPID here)) := by
  unfold notice
  by_cases told : m.runtimeUUID = here ∧ channel.kind = .control
  · have elsewhere : m.runtimeUUID ≠ channel.getPID here := by
      rw [told.1]
      rintro same
      exact isClosed (same ▸ isOpen)
    rcases onPeerClosure_spec (meshed.known member) elsewhere changed with ⟨self, view, -⟩
    rw [if_pos told]
    exact ⟨self, isPrimary_onPeerClosure _ _ _, Or.inr view⟩
  · rw [if_neg told]
    exact ⟨rfl, rfl, Or.inl rfl⟩

theorem order_afterNoticed (meshed : this.Meshed founder) (isOpen : here ∈ this.order)
    (isClosed : channel.getPID here ∉ this.order) (changed : Bool) :
    (this.afterNoticed here channel changed).order = this.order := by
  rw [Net.order, Net.order, afterNoticed, List.map_map]
  exact List.map_congr_left fun m member => (meshed.notice_spec isOpen isClosed changed member).1

/-- The dropped channel led to no open member. -/
theorem channelsTo_afterNoticed (isClosed : channel.getPID here ∉ this.order) (changed : Bool)
    {other peer : UUID} (isPeer : peer ∈ this.order) :
    (this.afterNoticed here channel changed).channelsTo other peer = this.channelsTo other peer := by
  rw [Net.channelsTo, Net.channelsTo, afterNoticed]
  dsimp only
  by_cases same : other = here
  · subst same
    rw [Function.update_self, ← List.erase_filter]
    apply List.erase_of_not_mem
    intro kept
    have pid := of_decide_eq_true (List.mem_filter.mp kept).2
    exact isClosed (pid ▸ isPeer)
  · rw [Function.update_of_ne same]

theorem meshed_afterNoticed (meshed : this.Meshed founder) (isOpen : here ∈ this.order)
    (isClosed : channel.getPID here ∉ this.order) (changed : Bool) :
    (this.afterNoticed here channel changed).Meshed founder := by
  have order := meshed.order_afterNoticed isOpen isClosed changed
  have noticed := fun m => @notice_spec founder this here channel meshed isOpen isClosed changed m
  constructor
  case distinct =>
    rw [order]
    exact meshed.distinct
  case primary =>
    intro m member
    rcases List.mem_map.mp member with ⟨before, memberBefore, rfl⟩
    rcases noticed before memberBefore with ⟨self, role, -⟩
    rw [role, self]
    exact meshed.primary before memberBefore
  case nodup_view =>
    intro m member
    rcases List.mem_map.mp member with ⟨before, memberBefore, rfl⟩
    rcases noticed before memberBefore with ⟨-, -, same | erased⟩
    · rw [same]
      exact meshed.nodup_view before memberBefore
    · rw [erased]
      exact (meshed.nodup_view before memberBefore).erase _
  case view =>
    intro m member
    rcases List.mem_map.mp member with ⟨before, memberBefore, rfl⟩
    have view := meshed.view before memberBefore
    rw [order]
    rcases noticed before memberBefore with ⟨-, -, same | erased⟩
    · rw [same]
      exact view
    · rw [erased, (meshed.nodup_view before memberBefore).erase_eq_filter, List.filter_filter]
      apply Eq.trans _ view
      apply List.filter_congr
      intro other _
      by_cases isPeer : other = channel.getPID here
      · simp [isPeer, isClosed]
      · simp [isPeer]
  case linked =>
    rw [order]
    apply meshed.linked.imp_of_mem
    intro early late isEarly isLate linked
    exact ⟨linked.later, (channelsTo_afterNoticed isClosed changed isLate).trans linked.atClient,
      (channelsTo_afterNoticed isClosed changed isEarly).trans linked.atServer⟩
  case own =>
    rw [order]
    intro isMember other isHeld
    exact meshed.own isMember other (mem_of_mem_update_erase isHeld)
  case closing =>
    rw [order]
    intro other isMember closed isPending
    exact meshed.closing other isMember closed (mem_of_mem_update_erase isPending)
  case left =>
    rw [order]
    intro other isMember closed elsewhere
    have counts := meshed.left other isMember closed elsewhere
    rw [afterNoticed]
    dsimp only
    by_cases same : other = here
    · subst same
      rw [Function.update_self, Function.update_self, List.count_erase, List.count_erase, counts]
    · rw [Function.update_of_ne same, Function.update_of_ne same, counts]

theorem noticed (meshed : this.Meshed founder) (here : UUID) (channel : Connection)
    (changed : Bool) :
    ∃ after, this.step (.noticed here channel changed) = .ok after ∧ after.Meshed founder ∧
      after.order = this.order := by
  by_cases pending : here ∈ this.order ∧ channel ∈ this.closing here
  · have isClosed := meshed.closing here pending.1 channel pending.2
    exact ⟨this.afterNoticed here channel changed, if_pos pending,
      meshed.meshed_afterNoticed pending.1 isClosed changed,
      meshed.order_afterNoticed pending.1 isClosed changed⟩
  · exact ⟨this, if_neg pending, meshed, rfl⟩

/-! ### An addition -/

theorem fresh (meshed : this.Meshed founder) {sender : UUID} {addition : Addition}
    (admits : this.Admits sender addition) : addition.replica.uuid ∉ this.order := by
  intro isOpen
  rcases List.mem_map.mp isOpen with ⟨m, member, named⟩
  exact admits.fresh m member (named ▸ meshed.known member)

theorem channelsTo_fresh (meshed : this.Meshed founder) {sender : UUID} {addition : Addition}
    (admits : this.Admits sender addition) {here : UUID} (isOpen : here ∈ this.order) :
    this.channelsTo here addition.replica.uuid = [] := by
  rw [channelsTo, List.filter_eq_nil_iff]
  intro channel isHeld reached
  have pid : channel.getPID here = addition.replica.uuid := of_decide_eq_true reached
  have elsewhere : channel.getPID here ∉ this.order := by
    rw [pid]
    exact meshed.fresh admits
  have counts := meshed.left here isOpen channel elsewhere
  have counted : 0 < (this.closing here).count channel := by
    rw [← counts]
    exact List.count_pos_iff.mpr isHeld
  exact admits.settled here isOpen channel (List.count_pos_iff.mp counted) pid

end Meshed

namespace Joined

variable {founder : UUID} {before after : Net} {inviting : P3ReplicationGroup}
  {addition : Addition}

theorem order (joined : Joined founder before inviting addition after)
    (self : addition.self.uuid = addition.replica.uuid) :
    after.order = before.order ++ [addition.replica.uuid] := by
  rw [Net.order, joined.members, List.map_append, List.map_map, List.map_singleton, ← self]
  congr 1
  exact List.map_congr_left fun m _ => Agreed.runtimeUUID_enlist

theorem channelsTo_old (joined : Joined founder before inviting addition after)
    (fresh : addition.replica.uuid ∉ before.order) {here peer : UUID}
    (isOpen : here ∈ before.order) (isPeer : peer ∈ before.order) :
    after.channelsTo here peer = before.channelsTo here peer := by
  have other : addition.replica.uuid ≠ peer := by
    rintro rfl
    exact fresh isPeer
  rw [channelsTo, joined.held here isOpen, List.filter_append, ← channelsTo]
  simp [connections, other]

theorem channelsTo_new (joined : Joined founder before inviting addition after) {here : UUID}
    (isOpen : here ∈ before.order)
    (unknown : before.channelsTo here addition.replica.uuid = []) :
    after.channelsTo here addition.replica.uuid =
      connections here addition.replica.uuid (here = founder) := by
  rw [channelsTo, joined.held here isOpen, List.filter_append, ← channelsTo, unknown]
  simp [connections]

/-- The channels of the new replica, each of which leads back to the member that opened it. -/
theorem channelsTo_client (joined : Joined founder before inviting addition after)
    (fresh : addition.replica.uuid ∉ before.order) {here : UUID} (isOpen : here ∈ before.order) :
    after.channelsTo addition.replica.uuid here =
      connections here addition.replica.uuid (here = founder) := by
  rcases joined.replica with ⟨clients, distinct, mem_clients, held⟩
  have each : ∀ pid ∈ clients,
      (connections pid addition.replica.uuid (pid = founder)).filter (fun channel =>
        channel.getPID addition.replica.uuid = here) =
          if pid = here then connections here addition.replica.uuid (here = founder) else [] := by
    intro pid member
    have other : pid ≠ addition.replica.uuid := by
      rintro rfl
      exact fresh ((mem_clients _).mp member)
    by_cases same : pid = here
    · subst same
      simp [connections, Connection.getPID_server _ other]
    · simp [connections, Connection.getPID_server _ other, same]
  rw [channelsTo, held, List.filter_flatMap, List.flatMap_congr each]
  exact flatMap_single distinct ((mem_clients here).mpr isOpen)

theorem getPID_replica (joined : Joined founder before inviting addition after)
    (fresh : addition.replica.uuid ∉ before.order) {channel : Connection}
    (isHeld : channel ∈ after.held addition.replica.uuid) :
    channel.getPID addition.replica.uuid ∈ before.order := by
  rcases joined.replica with ⟨clients, -, mem_clients, held⟩
  rw [held, List.mem_flatMap] at isHeld
  rcases isHeld with ⟨pid, member, isChannel⟩
  have isOpen := (mem_clients pid).mp member
  rw [(getPID_of_mem_connections isChannel).2]
  · exact isOpen
  · rintro rfl
    exact fresh isOpen

/-- Every member ends with the view of a member before, and the new replica after it. -/
theorem view (joined : Joined founder before inviting addition after)
    (admits : before.Admits founder addition) {m : P3ReplicationGroup}
    (member : m ∈ after.members) (invites : inviting ∈ before.members) :
    ∃ old ∈ before.members, m.view = old.view ++ [addition.replica.uuid] := by
  rw [joined.members] at member
  rcases List.mem_append.mp member with old | new
  · rcases List.mem_map.mp old with ⟨m, isMember, rfl⟩
    exact ⟨m, isMember, Agreed.view_enlist (admits.succeeds m isMember)⟩
  · rw [List.mem_singleton.mp new, initiate, view_openReplica, admits.self]
    exact ⟨inviting, invites, rfl⟩

end Joined

namespace Meshed

variable {founder : UUID} {this : Net}

section Join

variable {addition : Addition} {after : Net} {inviting : P3ReplicationGroup}

theorem distinct_joined (meshed : this.Meshed founder) (admits : this.Admits founder addition)
    (joined : Joined founder this inviting addition after) : after.order.Nodup := by
  rw [joined.order admits.self, ← List.concat_eq_append]
  exact List.Nodup.concat (meshed.fresh admits) meshed.distinct

theorem primary_joined (meshed : this.Meshed founder) (admits : this.Admits founder addition)
    (other : addition.replica.uuid ≠ founder)
    (joined : Joined founder this inviting addition after) {m : P3ReplicationGroup}
    (memberAfter : m ∈ after.members) : m.isPrimary = true ↔ m.runtimeUUID = founder := by
  rw [joined.members] at memberAfter
  rcases List.mem_append.mp memberAfter with old | new
  · rcases List.mem_map.mp old with ⟨before, memberBefore, rfl⟩
    rw [isPrimary_enlist, Agreed.runtimeUUID_enlist]
    exact meshed.primary before memberBefore
  · rw [List.mem_singleton.mp new]
    change false = true ↔ addition.self.uuid = founder
    simp [admits.self, other]

/-- The new replica is last in every view. -/
theorem view_joined (meshed : this.Meshed founder) (admits : this.Admits founder addition)
    (isMember : inviting ∈ this.members) (joined : Joined founder this inviting addition after)
    {m : P3ReplicationGroup} (memberAfter : m ∈ after.members) :
    m.view.filter (fun uuid => uuid ∈ after.order) = after.order := by
  rcases joined.view admits memberAfter isMember with ⟨before, memberBefore, view⟩
  have known : ∀ other ∈ before.view,
      decide (other ∈ this.order ++ [addition.replica.uuid]) = decide (other ∈ this.order) := by
    intro other isListed
    have different : other ≠ addition.replica.uuid := by
      rintro rfl
      exact admits.fresh before memberBefore isListed
    simp [different]
  rw [view, joined.order admits.self, List.filter_append, List.filter_congr known,
    meshed.view before memberBefore]
  simp

theorem linked_joined (meshed : this.Meshed founder) (admits : this.Admits founder addition)
    (other : addition.replica.uuid ≠ founder)
    (joined : Joined founder this inviting addition after) :
    after.order.Pairwise (after.Linked founder) := by
  have fresh := meshed.fresh admits
  rw [joined.order admits.self, List.pairwise_append]
  refine ⟨?_, List.pairwise_singleton _ _, ?_⟩
  · apply meshed.linked.imp_of_mem
    intro early late isEarly isLate linked
    exact ⟨linked.later,
      (joined.channelsTo_old fresh isEarly isLate).trans linked.atClient,
      (joined.channelsTo_old fresh isLate isEarly).trans linked.atServer⟩
  · intro early isEarly late isLate
    rw [List.mem_singleton.mp isLate]
    exact ⟨other, joined.channelsTo_new isEarly (meshed.channelsTo_fresh admits isEarly),
      joined.channelsTo_client fresh isEarly⟩

theorem closing_joined (meshed : this.Meshed founder) (admits : this.Admits founder addition)
    (joined : Joined founder this inviting addition after) {here : UUID}
    (isMember : here ∈ after.order) {channel : Connection} (pending : channel ∈ after.closing here) :
    channel.getPID here ∉ after.order := by
  rw [joined.order admits.self, List.mem_append, List.mem_singleton] at isMember
  rw [joined.closing] at pending
  by_cases same : here = addition.replica.uuid
  · rw [if_pos same] at pending
    cases pending
  · rw [if_neg same] at pending
    have old := isMember.resolve_right same
    rw [joined.order admits.self, List.mem_append, not_or, List.mem_singleton]
    exact ⟨meshed.closing here old channel pending, admits.settled here old channel pending⟩

theorem left_joined (meshed : this.Meshed founder) (admits : this.Admits founder addition)
    (joined : Joined founder this inviting addition after) {here : UUID}
    (isMember : here ∈ after.order) {channel : Connection}
    (elsewhere : channel.getPID here ∉ after.order) :
    (after.held here).count channel = (after.closing here).count channel := by
  have fresh := meshed.fresh admits
  rw [joined.order admits.self] at isMember elsewhere
  rw [List.mem_append, not_or, List.mem_singleton] at elsewhere
  rw [joined.closing]
  rcases List.mem_append.mp isMember with old | new
  · have unknown : channel ∉ connections here addition.replica.uuid (here = founder) :=
      fun new => elsewhere.2 (getPID_of_mem_connections new).1
    have isOld : here ≠ addition.replica.uuid := by
      rintro rfl
      exact fresh old
    rw [if_neg isOld, joined.held here old, List.count_append,
      List.count_eq_zero_of_not_mem unknown, Nat.add_zero]
    exact meshed.left here old channel elsewhere.1
  · rw [List.mem_singleton.mp new] at elsewhere ⊢
    rw [if_pos rfl, List.count_nil, List.count_eq_zero]
    intro isHeld
    exact elsewhere.1 (joined.getPID_replica fresh isHeld)

/-- The group that the new replica has joined. -/
theorem meshed_joined (meshed : this.Meshed founder) (admits : this.Admits founder addition)
    (isOpen : founder ∈ this.order) (isMember : inviting ∈ this.members)
    (joined : Joined founder this inviting addition after) : after.Meshed founder := by
  have other : addition.replica.uuid ≠ founder := by
    intro same
    exact meshed.fresh admits (same ▸ isOpen)
  constructor
  case distinct => exact meshed.distinct_joined admits joined
  case primary =>
    intro m memberAfter
    exact meshed.primary_joined admits other joined memberAfter
  case nodup_view =>
    intro m memberAfter
    rcases joined.view admits memberAfter isMember with ⟨before, memberBefore, view⟩
    rw [view, ← List.concat_eq_append]
    exact List.Nodup.concat (admits.fresh before memberBefore)
      (meshed.nodup_view before memberBefore)
  case view =>
    intro m memberAfter
    exact meshed.view_joined admits isMember joined memberAfter
  case linked => exact meshed.linked_joined admits other joined
  case own =>
    intro _ channel isHeld
    rw [joined.held founder isOpen, List.mem_append] at isHeld
    rcases isHeld with old | new
    · exact meshed.own isOpen channel old
    · simp only [connections, List.mem_cons, List.not_mem_nil, or_false] at new
      rcases new with rfl | rfl
      · exact ⟨rfl, other⟩
      · exact ⟨rfl, other⟩
  case closing =>
    intro here isMember channel pending
    exact meshed.closing_joined admits joined isMember pending
  case left =>
    intro here isMember channel elsewhere
    exact meshed.left_joined admits joined isMember elsewhere

end Join

theorem added (meshed : this.Meshed founder) {sender : UUID} {addition : Addition}
    (admits : this.Admits sender addition) :
    ∃ after, this.step (.added sender addition) = .ok after ∧ after.Meshed founder ∧
      after.order = this.order ++ [addition.replica.uuid] := by
  rcases admits.sender with ⟨m, member, named, isPrimary⟩
  obtain rfl : sender = founder := named ▸ (meshed.primary m member).mp isPrimary
  have isOpen : sender ∈ this.order := named ▸ List.mem_map_of_mem member
  cases found : this.members.find? fun m => m.runtimeUUID = sender with
  | none => exact absurd (decide_eq_true named) (List.find?_eq_none.mp found m member)
  | some inviting =>
      have isMember := List.mem_of_find?_eq_some found
      have isSender : inviting.runtimeUUID = sender := by
        simpa using List.find?_some found
      have role := (meshed.primary inviting isMember).mpr isSender
      rcases addReplica_joined (meshed.spokes isOpen) isOpen isSender (meshed.fresh admits) with
        ⟨after, added, joined⟩
      refine ⟨after, ?_, meshed.meshed_joined admits isOpen isMember joined,
        joined.order admits.self⟩
      rw [step, found]
      dsimp only
      rw [if_pos role, added]

end Meshed

end Net

end Stheno.FT
