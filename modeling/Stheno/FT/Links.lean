import Mathlib.Data.List.Pairwise
import Stheno.FT.Channels

/-!
# The links of a group

Whatever closes, two open members keep the pair of channels that the earlier one opened
when the later one joined.  The founder opened its channels with an INIT packet, and
every other member with a PREBIND packet.
-/

namespace Stheno.FT

open P3ReplicationGroup

namespace Connection

@[simp]
theorem getPID_client (kind : Kind) (client server : UUID) (bound : Bool) :
    (Connection.mk kind client server bound).getPID client = server :=
  if_pos rfl

theorem getPID_server {kind : Kind} {client server : UUID} (bound : Bool)
    (other : client ≠ server) : (Connection.mk kind client server bound).getPID server = client :=
  if_neg other

end Connection

theorem getPID_of_mem_connections {client server : UUID} {init : Bool} {channel : Connection}
    (member : channel ∈ connections client server init) :
    channel.getPID client = server ∧ (client ≠ server → channel.getPID server = client) := by
  simp only [connections, List.mem_cons, List.not_mem_nil, or_false] at member
  rcases member with rfl | rfl
  · exact ⟨Connection.getPID_client _ _ _ _, Connection.getPID_server _⟩
  · exact ⟨Connection.getPID_client _ _ _ _, Connection.getPID_server _⟩

namespace Net

/-- The channels of a member that lead to a peer. -/
def channelsTo (this : Net) (here peer : UUID) : List Connection :=
  (this.held here).filter fun channel => channel.getPID here = peer

theorem mem_channelsTo {this : Net} {here peer : UUID} {channel : Connection} :
    channel ∈ this.channelsTo here peer ↔
      channel ∈ this.held here ∧ channel.getPID here = peer := by
  rw [channelsTo, List.mem_filter, decide_eq_true_eq]

/-! ## The channels of the founder -/

/-- The founder opened all its channels, two to every other open member. -/
structure Spokes (founder : UUID) (this : Net) : Prop where
  own : ∀ channel ∈ this.held founder, channel.client = founder ∧ channel.server ≠ founder
  linked : ∀ peer ∈ this.order, peer ≠ founder →
    this.channelsTo founder peer = connections founder peer true

namespace Spokes

variable {founder : UUID} {this : Net}

theorem getPID_ne (spokes : this.Spokes founder) {channel : Connection}
    (member : channel ∈ this.held founder) : channel.getPID founder ≠ founder := by
  rcases spokes.own channel member with ⟨client, server⟩
  rw [Connection.getPID, if_pos client]
  exact server

theorem usable (spokes : this.Spokes founder) :
    this.Usable founder (this.controlManager founder) where
  opened := by
    intro channel member
    exact (spokes.own channel (List.mem_of_mem_filter member)).1
  bound := by
    intro channel member isOpen
    have isHeld := List.mem_of_mem_filter member
    have listed : channel ∈ this.channelsTo founder (channel.getPID founder) :=
      mem_channelsTo.mpr ⟨isHeld, rfl⟩
    rw [spokes.linked _ isOpen (spokes.getPID_ne isHeld)] at listed
    simp only [connections, List.mem_cons, List.not_mem_nil, or_false] at listed
    rcases listed with equal | equal
    · rw [equal]
    · rw [equal]

theorem control_filter (spokes : this.Spokes founder) {peer : UUID} (isOpen : peer ∈ this.order)
    (other : peer ≠ founder) :
    (this.controlManager founder).filter (fun channel => channel.getPID founder = peer) =
      [⟨.control, founder, peer, true⟩] := by
  have linked := spokes.linked peer isOpen other
  rw [channelsTo] at linked
  rw [controlManager, List.filter_comm, linked]
  rfl

theorem mem_targets (spokes : this.Spokes founder) {addition : Addition}
    (fresh : addition.replica.uuid ∉ this.order) {peer : UUID} :
    peer ∈ this.targets founder addition (this.controlManager founder) ↔
      peer ∈ this.order ∧ peer ≠ founder := by
  rw [targets, List.mem_filter, List.mem_map, decide_eq_true_eq]
  constructor
  · rintro ⟨⟨channel, member, rfl⟩, -, isOpen⟩
    exact ⟨isOpen, spokes.getPID_ne (List.mem_of_mem_filter member)⟩
  · rintro ⟨isOpen, other⟩
    have member : (⟨.control, founder, peer, true⟩ : Connection) ∈
        (this.controlManager founder).filter fun channel => channel.getPID founder = peer := by
      rw [spokes.control_filter isOpen other]
      exact List.mem_cons_self
    rcases List.mem_filter.mp member with ⟨isHeld, -⟩
    refine ⟨⟨_, isHeld, Connection.getPID_client _ _ _ _⟩, ?_, isOpen⟩
    rintro rfl
    exact fresh isOpen

theorem nodup_targets (spokes : this.Spokes founder) {addition : Addition}
    (fresh : addition.replica.uuid ∉ this.order) :
    (this.targets founder addition (this.controlManager founder)).Nodup := by
  rw [List.nodup_iff_count_le_one]
  intro peer
  by_cases member : peer ∈ this.targets founder addition (this.controlManager founder)
  · rcases (spokes.mem_targets fresh).mp member with ⟨isOpen, other⟩
    have single := spokes.control_filter isOpen other
    calc
      (this.targets founder addition (this.controlManager founder)).count peer
          ≤ ((this.controlManager founder).map fun channel => channel.getPID founder).count peer :=
        List.filter_sublist.count_le peer
      _ = ((this.controlManager founder).filter fun channel =>
            channel.getPID founder = peer).length := by
        rw [List.count, List.countP_map, List.countP_eq_length_filter]
        rfl
      _ = 1 := by rw [single]; rfl
  · rw [List.count_eq_zero_of_not_mem member]
    exact Nat.zero_le 1

end Spokes

/-! ## An addition -/

/-- The state after the founder has added a replica. -/
structure Joined (founder : UUID) (before : Net) (inviting : P3ReplicationGroup)
    (addition : Addition) (after : Net) : Prop where
  members : after.members =
    before.members.map (enlist founder addition) ++ [initiate inviting addition]
  closing : ∀ here, after.closing here =
    if here = addition.replica.uuid then [] else before.closing here
  held : ∀ here ∈ before.order, after.held here =
    before.held here ++ connections here addition.replica.uuid (here = founder)
  replica : ∃ clients : List UUID, clients.Nodup ∧ (∀ pid, pid ∈ clients ↔ pid ∈ before.order) ∧
    after.held addition.replica.uuid =
      clients.flatMap fun pid => connections pid addition.replica.uuid (pid = founder)

/-- The founder before it tells the other replicas. -/
def opened (this : Net) (founder pid : UUID) : Net :=
  connect { this with
    held := Function.update this.held pid []
    closing := Function.update this.closing pid [] } founder pid true

@[simp]
theorem order_opened (this : Net) (founder pid : UUID) :
    (this.opened founder pid).order = this.order :=
  rfl

theorem held_opened (this : Net) {founder pid : UUID} (other : founder ≠ pid) (here : UUID) :
    (this.opened founder pid).held here = (if here = pid then [] else this.held here) ++
      if here = founder ∨ here = pid then connections founder pid true else [] := by
  rw [opened, held_connect _ other]
  congr 1
  exact Function.update_apply _ _ _ _

theorem Spokes.opened {founder pid : UUID} {this : Net} (spokes : this.Spokes founder)
    (other : founder ≠ pid) (fresh : pid ∉ this.order) :
    (this.opened founder pid).Spokes founder := by
  have held : (this.opened founder pid).held founder =
      this.held founder ++ connections founder pid true := by
    rw [held_opened this other, if_neg other, if_pos (Or.inl rfl)]
  constructor
  · intro channel member
    rw [held, List.mem_append] at member
    rcases member with old | new
    · exact spokes.own channel old
    · simp only [connections, List.mem_cons, List.not_mem_nil, or_false] at new
      rcases new with rfl | rfl
      · exact ⟨rfl, other.symm⟩
      · exact ⟨rfl, other.symm⟩
  · intro peer isOpen different
    rw [order_opened] at isOpen
    have linked := spokes.linked peer isOpen different
    have elsewhere : pid ≠ peer := by
      rintro rfl
      exact fresh isOpen
    rw [channelsTo] at linked ⊢
    rw [held, List.filter_append, linked]
    simp [connections, elsewhere]

/-- The founder takes the addition last, when it has told all others. -/
theorem Told.joined {founder : UUID} {addition : Addition} {targets : List UUID}
    {this told : Net} (others : Told founder addition targets
      (this.opened founder addition.replica.uuid) told)
    (isOpen : founder ∈ this.order) (fresh : addition.replica.uuid ∉ this.order)
    (distinct : targets.Nodup)
    (mem_targets : ∀ pid, pid ∈ targets ↔ pid ∈ this.order ∧ pid ≠ founder)
    (inviting : P3ReplicationGroup) :
    Joined founder this inviting addition { told.enlistAt founder addition founder with
      members := (told.enlistAt founder addition founder).members ++
        [initiate inviting addition] } where
  members := by
    change List.map _ told.members ++ _ = _
    rw [others.members, List.map_map]
    congr 1
    apply List.map_congr_left
    intro m member
    have isMember : m.runtimeUUID ∈ this.order := List.mem_map_of_mem member
    rw [Function.comp_apply]
    by_cases first : m.runtimeUUID = founder
    · have elsewhere : m.runtimeUUID ∉ targets := fun told => ((mem_targets _).mp told).2 first
      rw [if_neg elsewhere, if_pos first]
    · rw [if_pos ((mem_targets _).mpr ⟨isMember, first⟩), Agreed.runtimeUUID_enlist,
        if_neg first]
  closing := by
    intro here
    change told.closing here = _
    rw [others.closing]
    exact Function.update_apply _ _ _ _
  held := by
    intro here isMember
    have other : founder ≠ addition.replica.uuid := fun same => fresh (same ▸ isOpen)
    have old : here ≠ addition.replica.uuid := fun same => fresh (same ▸ isMember)
    change told.held here = _
    rw [others.held, held_opened this other, if_neg old, if_neg old]
    by_cases first : here = founder
    · have elsewhere : here ∉ targets := fun told => ((mem_targets _).mp told).2 first
      subst first
      rw [if_pos (Or.inl rfl), if_neg elsewhere, List.append_nil]
      simp
    · rw [if_neg (not_or.mpr ⟨first, old⟩), if_pos ((mem_targets _).mpr ⟨isMember, first⟩)]
      simp [first]
  replica := by
    have other : founder ≠ addition.replica.uuid := fun same => fresh (same ▸ isOpen)
    refine ⟨founder :: targets, ?_, ?_, ?_⟩
    · exact List.nodup_cons.mpr ⟨fun told => ((mem_targets _).mp told).2 rfl, distinct⟩
    · intro pid
      rw [List.mem_cons, mem_targets]
      constructor
      · rintro (rfl | ⟨isOpen, -⟩)
        · exact isOpen
        · exact isOpen
      · intro isMember
        by_cases first : pid = founder
        · exact Or.inl first
        · exact Or.inr ⟨isMember, first⟩
    · change told.held _ = _
      have rest : ∀ pid ∈ targets, connections pid addition.replica.uuid (pid = founder) =
          connections pid addition.replica.uuid false := by
        intro pid told
        simp [((mem_targets _).mp told).2]
      rw [others.held, held_opened this other, if_pos rfl, if_pos (Or.inr rfl), if_pos rfl,
        List.flatMap_cons, List.flatMap_congr rest]
      simp

theorem addReplica_joined {founder : UUID} {this : Net} (spokes : this.Spokes founder)
    (isOpen : founder ∈ this.order) {inviting : P3ReplicationGroup}
    (named : inviting.runtimeUUID = founder) {addition : Addition}
    (fresh : addition.replica.uuid ∉ this.order) :
    ∃ after, this.addReplica inviting addition = .ok after ∧
      Joined founder this inviting addition after := by
  have other : founder ≠ addition.replica.uuid := by
    intro same
    exact fresh (same ▸ isOpen)
  have spokesAfter := spokes.opened other fresh
  have distinct := @Spokes.nodup_targets _ _ spokesAfter addition fresh
  rcases foldlM_tell _ _ spokesAfter.usable distinct with ⟨told, ran, others⟩
  have added : this.addReplica inviting addition =
      .ok { told.enlistAt founder addition founder with
        members := (told.enlistAt founder addition founder).members ++
          [initiate inviting addition] } := by
    rw [opened] at ran
    rw [addReplica, named, ran]
    rfl
  exact ⟨_, added, others.joined isOpen fresh distinct
    (fun pid => spokesAfter.mem_targets fresh) inviting⟩

end Net

end Stheno.FT
