import Stheno.FT.Mesh

/-!
# Reach after a failover

The member that takes the primary's role uses the channels that it opened as a replica.
Their handlers at the other replicas were set up by a PREBIND packet, so they have no
replication group.
-/

namespace Stheno.FT

open P3ReplicationGroup

namespace Net

/-- A member can send to a later one, which can handle what it sends. -/
structure Reaches (this : Net) (early late : UUID) : Prop where
  control : ∃ channel,
    (this.controlManager early).filter (fun channel => channel.getPID early = late) = [channel] ∧
      channel ∈ this.held late ∧ channel.bound = true
  data : ∃ channel,
    (this.dataManager early).filter (fun channel => channel.getPID early = late) = [channel] ∧
      channel ∈ this.held late

/-- Every open member reaches the ones after it, and holds no other channels. -/
structure FailoverReach (this : Net) : Prop where
  reaches : ∀ m ∈ this.members, ∀ early ∈ this.order, ∀ late ∈ this.order,
    [early, late].Sublist m.view → this.Reaches early late
  closed : ∀ here ∈ this.order, ∀ channel ∈ this.held here, channel.getPID here ∈ this.order

/-- Every closure has been noticed. -/
def Quiet (this : Net) : Prop :=
  ∀ here ∈ this.order, this.closing here = []

instance decidableQuiet : DecidablePred Quiet := fun this =>
  inferInstanceAs (Decidable (∀ here ∈ this.order, this.closing here = []))

/-- An addition is one that the group can make. -/
def Allowed (this : Net) : NetEvent → Prop
  | .added sender addition => this.Admits sender addition
  | .closed _ => True
  | .noticed _ _ _ => True

def Valid (this : Net) : List NetEvent → Prop
  | [] => True
  | event :: events => this.Allowed event ∧ ∀ after, this.step event = .ok after → after.Valid events

end Net

/-- The open members after an event. -/
def NetEvent.enroll (standing : List UUID) : NetEvent → List UUID
  | .added _ addition => standing ++ [addition.replica.uuid]
  | .closed uuid => standing.erase uuid
  | .noticed _ _ _ => standing

/-- The open members after the events of a group with this founder. -/
def roster (founder : UUID) (events : List NetEvent) : List UUID :=
  events.foldl NetEvent.enroll [founder]

namespace Net

/-! ## Runs -/

namespace Meshed

variable {founder : UUID} {this : Net}

theorem step (meshed : this.Meshed founder) {event : NetEvent} (allowed : this.Allowed event) :
    ∃ after, this.step event = .ok after ∧ after.Meshed founder ∧
      after.order = event.enroll this.order := by
  cases event with
  | added sender addition => exact meshed.added allowed
  | closed uuid => exact meshed.closed uuid
  | noticed here channel changed => exact meshed.noticed here channel changed

theorem run (meshed : this.Meshed founder) {events : List NetEvent} (valid : this.Valid events) :
    ∃ after, this.run events = .ok after ∧ after.Meshed founder ∧
      after.order = events.foldl NetEvent.enroll this.order := by
  induction events generalizing this with
  | nil => exact ⟨this, rfl, meshed, rfl⟩
  | cons event events ih =>
      rcases meshed.step valid.1 with ⟨next, stepped, meshedNext, order⟩
      rcases ih meshedNext (valid.2 next stepped) with ⟨after, ran, meshedAfter, orderAfter⟩
      refine ⟨after, ?_, meshedAfter, ?_⟩
      · rw [Net.run, List.foldlM_cons, stepped]
        exact ran
      · rw [orderAfter, order, List.foldl_cons]

end Meshed

theorem meshed_founding (self : OverlayPeerInfo) (groupUUID sid iid : UUID) :
    (founding self groupUUID sid iid).Meshed self.uuid where
  distinct := List.nodup_singleton _
  primary := by
    intro m member
    rw [List.mem_singleton.mp member]
    exact ⟨fun _ => rfl, fun _ => rfl⟩
  nodup_view := by
    intro m member
    rw [List.mem_singleton.mp member]
    exact List.nodup_singleton _
  view := by
    intro m member
    rw [List.mem_singleton.mp member]
    exact List.filter_eq_self.mpr fun uuid listed => decide_eq_true listed
  linked := List.pairwise_singleton _ _
  own := by
    intro _ channel isHeld
    cases isHeld
  closing := by
    intro here _ channel pending
    cases pending
  left := by
    intro here _ channel _
    rfl

/-! ## What the members reach -/

namespace Linked

variable {founder early late : UUID} {this : Net}

theorem reaches_iff (linked : this.Linked founder early late) :
    this.Reaches early late ↔ early = founder := by
  have control : (this.controlManager early).filter (fun channel => channel.getPID early = late) =
      [⟨.control, early, late, early = founder⟩] := by
    have atClient := linked.atClient
    rw [channelsTo] at atClient
    rw [controlManager, List.filter_comm, atClient]
    rfl
  have data : (this.dataManager early).filter (fun channel => channel.getPID early = late) =
      [⟨.data, early, late, true⟩] := by
    have atClient := linked.atClient
    rw [channelsTo] at atClient
    rw [dataManager, List.filter_comm, atClient]
    simp [connections]
  have held : ∀ channel ∈ connections early late (early = founder), channel ∈ this.held late := by
    intro channel member
    rw [← linked.atServer] at member
    exact (mem_channelsTo.mp member).1
  constructor
  · rintro ⟨⟨channel, single, -, bound⟩, -⟩
    rw [control, List.singleton_inj] at single
    rw [← single] at bound
    exact of_decide_eq_true bound
  · intro first
    constructor
    · exact ⟨_, control, held _ List.mem_cons_self, decide_eq_true first⟩
    · exact ⟨_, data, held _ (List.mem_cons_of_mem _ List.mem_cons_self)⟩

end Linked

/-- A part of two elements of a view lies in the part that is open. -/
theorem Meshed.sublist_view {founder : UUID} {this : Net} (meshed : this.Meshed founder)
    {m : P3ReplicationGroup} (member : m ∈ this.members) {early late : UUID} :
    [early, late].Sublist this.order ↔
      early ∈ this.order ∧ late ∈ this.order ∧ [early, late].Sublist m.view := by
  have view := meshed.view m member
  constructor
  · intro ordered
    refine ⟨ordered.subset List.mem_cons_self,
      ordered.subset (List.mem_cons_of_mem _ List.mem_cons_self), ?_⟩
    rw [← view] at ordered
    exact ordered.trans List.filter_sublist
  · rintro ⟨isEarly, isLate, ordered⟩
    have kept := ordered.filter fun uuid => decide (uuid ∈ this.order)
    rw [view] at kept
    simpa [isEarly, isLate] using kept

theorem Meshed.failoverReach_iff {founder : UUID} {this : Net} (meshed : this.Meshed founder)
    (quiet : this.Quiet) :
    this.FailoverReach ↔ (this.order.filter fun uuid => uuid ≠ founder).length ≤ 1 := by
  have linked {early late : UUID} (ordered : [early, late].Sublist this.order) :=
    List.pairwise_iff_forall_sublist.mp meshed.linked ordered
  constructor
  · intro reach
    by_contra many
    rcases others : this.order.filter (fun uuid => uuid ≠ founder) with _ | ⟨first, _ | ⟨second, rest⟩⟩
    · rw [others] at many
      simp at many
    · rw [others] at many
      simp at many
    have ordered : [first, second].Sublist this.order := by
      have some : [first, second].Sublist (first :: second :: rest) :=
        ((List.nil_sublist rest).cons_cons second).cons_cons first
      rw [← others] at some
      exact some.trans List.filter_sublist
    have other : first ≠ founder := by
      have member : first ∈ this.order.filter fun uuid => uuid ≠ founder := by
        rw [others]
        exact List.mem_cons_self
      exact of_decide_eq_true (List.mem_filter.mp member).2
    rcases List.mem_map.mp (ordered.subset List.mem_cons_self) with ⟨m, member, -⟩
    rcases (meshed.sublist_view member).mp ordered with ⟨isFirst, isSecond, listed⟩
    have reached := reach.reaches m member first isFirst second isSecond listed
    exact other ((linked ordered).reaches_iff.mp reached)
  · intro few
    constructor
    · intro m member early isEarly late isLate listed
      have ordered := (meshed.sublist_view member).mpr ⟨isEarly, isLate, listed⟩
      rw [(linked ordered).reaches_iff]
      by_contra other
      have kept := ordered.filter fun uuid => decide (uuid ≠ founder)
      have both : [early, late].filter (fun uuid => decide (uuid ≠ founder)) = [early, late] := by
        simp [other, (linked ordered).later]
      rw [both] at kept
      have length := kept.length_le
      exact absurd (length.trans few) (by simp)
    · intro here isOpen channel isHeld
      by_contra elsewhere
      have counts := meshed.left here isOpen channel elsewhere
      rw [quiet here isOpen, List.count_nil, List.count_eq_zero] at counts
      exact counts isHeld

end Net

/-- In a group whose additions all succeed, the members reach each other as soon as every
closure has been noticed exactly if at most one replica of the founder is open. -/
theorem failoverReach_run (self : OverlayPeerInfo) (groupUUID sid iid : UUID)
    (events : List NetEvent) (valid : (Net.founding self groupUUID sid iid).Valid events) :
    ∃ after, (Net.founding self groupUUID sid iid).run events = .ok after ∧
      (after.Quiet → (after.FailoverReach ↔
        ((roster self.uuid events).filter fun uuid => uuid ≠ self.uuid).length ≤ 1)) := by
  rcases (Net.meshed_founding self groupUUID sid iid).run valid with ⟨after, ran, meshed, order⟩
  refine ⟨after, ran, ?_⟩
  intro quiet
  rw [meshed.failoverReach_iff quiet, order]
  rfl

/-! ## Two replicas -/

section Pair

/-- The founder 1 adds 2 and then 3. -/
def additions : List NetEvent :=
  [.added ⟨[1]⟩ (bindingPeer 2), .added ⟨[1]⟩ (bindingPeer 3)]

def pairFounding : Net :=
  Net.founding (peer 1) ⟨[8]⟩ ⟨[9]⟩ ⟨[11]⟩

theorem valid_additions : pairFounding.Valid additions := by
  have succeeds : bound.Succeeds := ⟨rfl, rfl, rfl⟩
  refine ⟨⟨rfl, ?_, ?_, ?_, fun _ _ => succeeds⟩, ?_⟩
  · decide
  · decide
  · decide
  · intro after added
    cases added
    refine ⟨⟨rfl, ?_, ?_, ?_, fun _ _ => succeeds⟩, fun _ _ => trivial⟩
    · decide
    · decide
    · decide

/-- The first replica does not reach the second: the request to add another one is not
handled. -/
theorem not_failoverReach_pair : ∃ after, pairFounding.run additions = .ok after ∧
    after.Quiet ∧ ¬ after.FailoverReach := by
  have quiet : ∃ after, pairFounding.run additions = .ok after ∧ after.Quiet := by
    decide
  rcases quiet with ⟨after, ran, quiet⟩
  rcases (Net.meshed_founding (peer 1) ⟨[8]⟩ ⟨[9]⟩ ⟨[11]⟩).run valid_additions with
    ⟨same, ranAgain, meshed, order⟩
  cases ran.symm.trans ranAgain
  refine ⟨after, ran, quiet, ?_⟩
  rw [meshed.failoverReach_iff quiet, order]
  decide

theorem failoverReach_additions : ∃ after, pairFounding.run additions = .ok after ∧
    (after.Quiet → (after.FailoverReach ↔
      ((roster ⟨[1]⟩ additions).filter fun uuid => uuid ≠ ⟨[1]⟩).length ≤ 1)) :=
  failoverReach_run (peer 1) ⟨[8]⟩ ⟨[9]⟩ ⟨[11]⟩ additions valid_additions

end Pair

end Stheno.FT
