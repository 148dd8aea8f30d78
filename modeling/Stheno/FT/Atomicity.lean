import Stheno.FT.Membership

/-!
# All or nothing

An addition that ends before the data channel is open leaves the control channel behind,
and one that ends later counts as a success whatever the replicas answered.
-/

namespace Stheno.FT

open Peer

/-- A peer that does not belong to the group of a member. -/
structure Member.Stranger (this : Member) (uuid : UUID) : Prop where
  view : uuid ∉ this.group.view
  elsewhere : this.group.runtimeUUID ≠ uuid

namespace Member.Stranger

variable {this : Member} {uuid : UUID} (stranger : this.Stranger uuid)

include stranger

theorem not_lists : ¬ this.Lists uuid := fun listed =>
  stranger.view (List.mem_cons_of_mem _ listed)

theorem apart : this.Apart uuid where
  primary := fun same => stranger.view (same ▸ List.mem_cons_self)
  elsewhere := stranger.elsewhere

theorem listings : this.listings uuid = 0 :=
  List.count_eq_zero.mpr stranger.not_lists

end Member.Stranger

namespace Membership

/-- No member of the group counts the peer as one. -/
structure New (this : Membership) (uuid : UUID) : Prop where
  primary : this.primary.Stranger uuid
  replicas : ∀ pid ∈ this.replicas, (this.members pid).Stranger uuid

theorem New.ne {this : Membership} {uuid : UUID} (new : this.New uuid) {pid : UUID}
    (listed : pid ∈ this.replicas) : pid ≠ uuid := by
  rintro rfl
  exact new.primary.not_lists listed

/-- The primary and the replicas that some list names. -/
def named (this : Membership) (replicas : List UUID) : List Member :=
  this.primary :: replicas.map this.members

/-- No member holds a channel to the peer. -/
def Untouched (this : Membership) (uuid : UUID) : Prop :=
  ∀ member ∈ this.named this.replicas, ¬ member.Reaches uuid

/-- The answer true stands for an opened replica, the consent of the others and one list
more in all of them; the answer false for no trace at the others. -/
def AllOrNothing (this : Membership) (replica : OverlayPeerInfo) (outcomes : Outcomes) : Prop :=
  ∃ added, this.addReplicaAsPrimary replica outcomes = .ok added ∧
    (added.answer = true →
      (outcomes.control.connected && outcomes.init.initialised) = true ∧
      (∀ pid ∈ this.replicas, (pid, true) ∈ added.replies) ∧
      (∀ member ∈ added.group.named this.replicas, member.Lists replica.uuid) ∧
      (added.group.members replica.uuid).Lists replica.uuid) ∧
    (added.answer = false →
      ∀ member ∈ added.group.named this.replicas,
        ¬ member.Lists replica.uuid ∧ ¬ member.Reaches replica.uuid)

section Steps

variable {this : Membership} {replica : OverlayPeerInfo} {outcomes : Outcomes} {ft : Endpoint}

/-- The group after the control channel. -/
def controlled (this : Membership) (replica : OverlayPeerInfo) (outcomes : Outcomes) :
    Membership :=
  { this.initSession replica outcomes with
    primary := this.primary.registerControl replica.uuid outcomes.control }

theorem addReplicaAsPrimary_of_ftSAP (ftSAP : ∀ ft, SAPInfo.getFirstEndpoint replica.ftSAP ≠ .ok ft)
    (added : Added) : this.addReplicaAsPrimary replica outcomes ≠ .ok added := by
  intro returns
  rw [addReplicaAsPrimary, Result.bind_eq_ok] at returns
  obtain ⟨bound, binds, -⟩ := returns
  rw [bindControlToReplica, Result.bind_eq_ok] at binds
  obtain ⟨ft, known, -⟩ := binds
  exact ftSAP ft known

variable (ftSAP : SAPInfo.getFirstEndpoint replica.ftSAP = .ok ft)

include ftSAP

theorem bindControlToReplica_eq : this.bindControlToReplica replica outcomes =
    .ok (this.controlled replica outcomes, replica.setFTDataSAP outcomes.init.ftDataSAP,
      outcomes.control.succeeds) := by
  have primary : (this.initSession replica outcomes).primary = this.primary := by
    rw [initSession]
    split
    · rfl
    · rfl
  rw [bindControlToReplica, ftSAP, controlled, ← primary]
  rfl

theorem addReplicaAsPrimary_of_control (fails : outcomes.control.succeeds = false) :
    this.addReplicaAsPrimary replica outcomes =
      .ok { group := this.controlled replica outcomes, answer := false, replies := [] } := by
  rw [addReplicaAsPrimary, bindControlToReplica_eq ftSAP, fails]
  rfl

section Control

variable (binds : outcomes.control.succeeds = true)

include binds

theorem addReplicaAsPrimary_of_ftDataSAP
    (ftDataSAP : ∀ ft, SAPInfo.getFirstEndpoint outcomes.init.ftDataSAP ≠ .ok ft) (added : Added) :
    this.addReplicaAsPrimary replica outcomes ≠ .ok added := by
  intro returns
  rw [addReplicaAsPrimary, bindControlToReplica_eq ftSAP, binds] at returns
  change (Member.bindDataToReplica _ _ _ >>= _) = _ at returns
  rw [Result.bind_eq_ok] at returns
  obtain ⟨bound, data, -⟩ := returns
  rw [Member.bindDataToReplica, Result.bind_eq_ok] at data
  obtain ⟨ft, known, -⟩ := data
  exact ftDataSAP ft known

variable {ftData : Endpoint}
  (ftDataSAP : SAPInfo.getFirstEndpoint outcomes.init.ftDataSAP = .ok ftData)

include ftDataSAP

theorem addReplicaAsPrimary_of_data (fails : outcomes.data.succeeds = false) :
    this.addReplicaAsPrimary replica outcomes =
      .ok { group := this.controlled replica outcomes, answer := false, replies := [] } := by
  have unbound : (this.controlled replica outcomes).primary.registerData replica.uuid
      outcomes.data = (this.controlled replica outcomes).primary := by
    rw [Member.registerData, ChannelManager.add, fails]
    rfl
  rw [addReplicaAsPrimary, bindControlToReplica_eq ftSAP, binds]
  change (Member.bindDataToReplica _ _ _ >>= _) = _
  rw [Member.bindDataToReplica]
  change ((SAPInfo.getFirstEndpoint outcomes.init.ftDataSAP >>= _) >>= _) = _
  rw [ftDataSAP, fails]
  change Except.ok (Added.mk { this.controlled replica outcomes with
    primary := (this.controlled replica outcomes).primary.registerData replica.uuid
      outcomes.data } _ _) = _
  rw [unbound]

/-- The replicas as they are after the broadcast. -/
def told (this : Membership) (replica : OverlayPeerInfo) (outcomes : Outcomes) : Told :=
  ({ members := (this.controlled replica outcomes).members, replies := [] } : Told).tell
    (replica.setFTDataSAP outcomes.init.ftDataSAP)
    (this.controlled replica outcomes).primary.control outcomes.reactions

/-- Once the data channel is open, the addition counts as a success. -/
theorem addReplicaAsPrimary_of_succeeds (opens : outcomes.data.succeeds = true) :
    ∃ primary, this.addReplicaAsPrimary replica outcomes =
        .ok { group := { primary, members := (this.told replica outcomes).members }
              answer := true
              replies := (this.told replica outcomes).replies } ∧
      primary.group.replicas.map OverlayPeerInfo.uuid = this.replicas ++ [replica.uuid] := by
  have silent : outcomes.control.fires = false := by
    obtain ⟨connected, rest⟩ := Bool.and_eq_true_iff.mp binds
    obtain ⟨done, asynchronous⟩ := Bool.and_eq_true_iff.mp rest
    rw [Opened.fires, of_decide_eq_true done, asynchronous, connected]
    rfl
  have kept : (this.controlled replica outcomes).primary.group = this.primary.group := by
    change (if outcomes.control.fires then _ else _) = _
    rw [silent]
    rfl
  rw [addReplicaAsPrimary, bindControlToReplica_eq ftSAP, binds]
  change ∃ primary, (Member.bindDataToReplica _ _ _ >>= _) = _ ∧ _
  rw [Member.bindDataToReplica]
  change ∃ primary, ((SAPInfo.getFirstEndpoint outcomes.init.ftDataSAP >>= _) >>= _) = _ ∧ _
  rw [ftDataSAP, opens]
  refine ⟨_, rfl, ?_⟩
  change ((this.controlled replica outcomes).primary.group.replicas ++ [_]).map _ = _
  rw [kept, List.map_append]
  rfl

end Control

end Steps

/-! ## When an addition is all or nothing -/

variable {this : Membership} {replica : OverlayPeerInfo} {outcomes : Outcomes}

/-- What the primary has of a new replica before the data channel. -/
theorem New.controlled (new : this.New replica.uuid) :
    (this.controlled replica outcomes).primary.group = this.primary.group ∧
      ∀ pid ∈ this.replicas, (this.controlled replica outcomes).members pid = this.members pid := by
  constructor
  · exact new.primary.apart.group_registerControl new.primary.not_lists _
  · intro pid listed
    change (this.initSession replica outcomes).members pid = _
    rw [initSession]
    split
    · exact Function.update_of_ne (new.ne listed) _ _
    · rfl

/-- An addition that fails at the control channel leaves the members as they were. -/
theorem New.named_controlled (new : this.New replica.uuid)
    (fails : outcomes.control.succeeds = false) :
    (this.controlled replica outcomes).named this.replicas = this.named this.replicas := by
  obtain ⟨group, members⟩ := @New.controlled this replica outcomes new
  have primary : (this.controlled replica outcomes).primary = this.primary := by
    change this.primary.registerControl replica.uuid outcomes.control = this.primary
    change (this.primary.registerControl replica.uuid outcomes.control).group = _ at group
    have control : (this.primary.registerControl replica.uuid outcomes.control).control =
        this.primary.control := by
      rw [Member.registerControl, ChannelManager.add, fails]
      rfl
    calc this.primary.registerControl replica.uuid outcomes.control
        = ⟨(this.primary.registerControl replica.uuid outcomes.control).group,
            (this.primary.registerControl replica.uuid outcomes.control).control,
            this.primary.data⟩ := rfl
      _ = this.primary := by rw [group, control]
  rw [named, named, primary, List.map_congr_left members]

/-- A replica that takes the new one in, over all the channels that the primary has to it. -/
def Admits (this : Membership) (outcomes : Outcomes) (pid : UUID) : Prop :=
  0 < remaining (reactionsOf pid this.primary.control outcomes.reactions) 0

/-- The channel to the new replica itself is passed over. -/
theorem reactionsOf_append {pid uuid : UUID} (other : pid ≠ uuid) (channels : List UUID)
    (reactions : Nat → Reaction) :
    reactionsOf pid (channels ++ [uuid]) reactions = reactionsOf pid channels reactions := by
  induction channels generalizing reactions with
  | nil => simp [reactionsOf, other.symm]
  | cons channel channels ih => rw [List.cons_append, reactionsOf, reactionsOf, ih]

/-- After the broadcast a replica lists the new one if it admits it, and has then accepted
it. -/
theorem New.lists_told (new : this.New replica.uuid) {ft ftData : Endpoint}
    (ftSAP : SAPInfo.getFirstEndpoint replica.ftSAP = .ok ft)
    (ftDataSAP : SAPInfo.getFirstEndpoint outcomes.init.ftDataSAP = .ok ftData)
    (binds : outcomes.control.succeeds = true) {pid : UUID} (listed : pid ∈ this.replicas) :
    (((this.told replica outcomes).members pid).Lists replica.uuid ↔
      this.Admits outcomes pid) ∧
      (this.Admits outcomes pid → (pid, true) ∈ (this.told replica outcomes).replies) := by
  have before : (this.controlled replica outcomes).members pid = this.members pid :=
    (New.controlled new).2 pid listed
  have stranger := new.replicas pid listed
  have channels : (this.controlled replica outcomes).primary.control =
      this.primary.control ++ [replica.uuid] := by
    change this.primary.control.add replica.uuid outcomes.control = _
    rw [ChannelManager.add, if_pos binds]
  have apart : ((this.controlled replica outcomes).members pid).Apart
      (replica.setFTDataSAP outcomes.init.ftDataSAP).uuid := by
    rw [before]
    exact stranger.apart
  obtain ⟨count, answered⟩ := @Told.tell_spec (replica.setFTDataSAP outcomes.init.ftDataSAP)
    ft ftData ftSAP ftDataSAP ⟨(this.controlled replica outcomes).members, []⟩ pid
    (new.ne listed) apart (this.controlled replica outcomes).primary.control outcomes.reactions
  change ((this.told replica outcomes).members pid).listings replica.uuid = remaining _
    (((this.controlled replica outcomes).members pid).listings replica.uuid) at count
  rw [before, stranger.listings, channels, reactionsOf_append (new.ne listed)] at count
  change (pid, true) ∈ (this.told replica outcomes).replies ↔ _ at answered
  rw [channels, reactionsOf_append (new.ne listed)] at answered
  constructor
  · rw [Member.lists_iff, count, Admits]
  · intro admits
    exact answered.mpr (Or.inr ((exists_succeeds_of_remaining admits).resolve_left
      (Nat.lt_irrefl 0)))

/-- The session opened the group of the new replica, which lists itself. -/
theorem initialised_told {ftData : Endpoint}
    (ftDataSAP : SAPInfo.getFirstEndpoint outcomes.init.ftDataSAP = .ok ftData)
    (binds : outcomes.control.succeeds = true) :
    (outcomes.control.connected && outcomes.init.initialised) = true ∧
      ((this.told replica outcomes).members replica.uuid).Lists replica.uuid := by
  have initialised : outcomes.init.initialised = true := by
    cases session : outcomes.init with
    | failed initialised =>
        rw [session] at ftDataSAP
        cases ftDataSAP
    | replied ftDataSAP => rfl
  have connected : outcomes.control.connected = true := (Bool.and_eq_true_iff.mp binds).1
  have opened : (outcomes.control.connected && outcomes.init.initialised) = true := by
    rw [connected, initialised]
    rfl
  have itself : (this.told replica outcomes).members replica.uuid =
      this.initiated replica outcomes.iid := by
    have kept := @Told.members_tell_new (replica.setFTDataSAP outcomes.init.ftDataSAP)
      ⟨(this.controlled replica outcomes).members, []⟩
      (this.controlled replica outcomes).primary.control outcomes.reactions
    change (this.told replica outcomes).members replica.uuid =
      (this.initSession replica outcomes).members replica.uuid at kept
    rw [kept, initSession, if_pos opened]
    exact Function.update_self _ _ _
  refine ⟨opened, ?_⟩
  rw [itself]
  change replica.uuid ∈ (_ ++ [replica]).map OverlayPeerInfo.uuid
  rw [List.map_append]
  exact List.mem_append_right _ List.mem_cons_self

/-- Which outcomes make an addition all or nothing: the control channel fails and no
member has an older channel to the peer, or the session and both channels succeed and
every replica takes the new one in. -/
def Completes (this : Membership) (replica : OverlayPeerInfo) (outcomes : Outcomes) : Prop :=
  (∃ ft, SAPInfo.getFirstEndpoint replica.ftSAP = .ok ft) ∧
    ((outcomes.control.succeeds = false ∧ this.Untouched replica.uuid) ∨
      (outcomes.control.succeeds = true ∧
        (∃ ft, SAPInfo.getFirstEndpoint outcomes.init.ftDataSAP = .ok ft) ∧
        outcomes.data.succeeds = true ∧ ∀ pid ∈ this.replicas, this.Admits outcomes pid))

theorem allOrNothing_of_control (new : this.New replica.uuid) {ft : Endpoint}
    (ftSAP : SAPInfo.getFirstEndpoint replica.ftSAP = .ok ft)
    (fails : outcomes.control.succeeds = false) :
    this.AllOrNothing replica outcomes ↔ this.Untouched replica.uuid := by
  have equal := @addReplicaAsPrimary_of_control this replica outcomes ft ftSAP fails
  have same := @New.named_controlled this replica outcomes new fails
  constructor
  · rintro ⟨added, returns, -, nothing⟩
    rw [equal, Except.ok.injEq] at returns
    subst returns
    intro member isMember
    exact (nothing rfl member (same ▸ isMember)).2
  · intro untouched
    refine ⟨_, equal, fun answer => absurd answer Bool.false_ne_true, ?_⟩
    intro _ member isMember
    change member ∈ (this.controlled replica outcomes).named this.replicas at isMember
    rw [same] at isMember
    refine ⟨?_, untouched member isMember⟩
    rcases List.mem_cons.mp isMember with rfl | other
    · exact new.primary.not_lists
    · obtain ⟨pid, listed, rfl⟩ := List.mem_map.mp other
      exact (new.replicas pid listed).not_lists

/-- The control channel is bound before the data channel fails. -/
theorem not_allOrNothing_of_data {ft ftData : Endpoint}
    (ftSAP : SAPInfo.getFirstEndpoint replica.ftSAP = .ok ft)
    (binds : outcomes.control.succeeds = true)
    (ftDataSAP : SAPInfo.getFirstEndpoint outcomes.init.ftDataSAP = .ok ftData)
    (fails : outcomes.data.succeeds = false) : ¬this.AllOrNothing replica outcomes := by
  rintro ⟨added, returns, -, nothing⟩
  rw [addReplicaAsPrimary_of_data ftSAP binds ftDataSAP fails, Except.ok.injEq] at returns
  subst returns
  apply absurd _ (nothing rfl _ List.mem_cons_self).2
  left
  change replica.uuid ∈ this.primary.control.add replica.uuid outcomes.control
  rw [ChannelManager.add, if_pos binds]
  exact List.mem_append_right _ List.mem_cons_self

/-- When the primary has opened both channels, the replicas decide. -/
theorem allOrNothing_of_succeeds (new : this.New replica.uuid) {ft ftData : Endpoint}
    (ftSAP : SAPInfo.getFirstEndpoint replica.ftSAP = .ok ft)
    (binds : outcomes.control.succeeds = true)
    (ftDataSAP : SAPInfo.getFirstEndpoint outcomes.init.ftDataSAP = .ok ftData)
    (opens : outcomes.data.succeeds = true) :
    this.AllOrNothing replica outcomes ↔ ∀ pid ∈ this.replicas, this.Admits outcomes pid := by
  obtain ⟨primary, equal, replicas⟩ := addReplicaAsPrimary_of_succeeds ftSAP binds ftDataSAP opens
  constructor
  · rintro ⟨added, returns, all, -⟩
    rw [equal, Except.ok.injEq] at returns
    subst returns
    intro pid listed
    apply (new.lists_told ftSAP ftDataSAP binds listed).1.mp
    exact (all rfl).2.2.1 _ (List.mem_cons_of_mem _ (List.mem_map_of_mem listed))
  · intro admitted
    refine ⟨_, equal, fun _ => ?_, fun answer => absurd answer.symm Bool.false_ne_true⟩
    obtain ⟨opened, itself⟩ := this.initialised_told ftDataSAP binds
    refine ⟨opened, ?_, ?_, itself⟩
    · intro pid listed
      exact (new.lists_told ftSAP ftDataSAP binds listed).2 (admitted pid listed)
    · intro member isMember
      rcases List.mem_cons.mp isMember with rfl | other
      · change replica.uuid ∈ _
        rw [replicas]
        exact List.mem_append_right _ List.mem_cons_self
      · obtain ⟨pid, listed, rfl⟩ := List.mem_map.mp other
        exact (new.lists_told ftSAP ftDataSAP binds listed).1.mpr (admitted pid listed)

/-- An addition is all or nothing exactly under these outcomes. -/
theorem allOrNothing_iff (this : Membership) (replica : OverlayPeerInfo) (outcomes : Outcomes)
    (new : this.New replica.uuid) :
    this.AllOrNothing replica outcomes ↔ this.Completes replica outcomes := by
  by_cases known : ∃ ft, SAPInfo.getFirstEndpoint replica.ftSAP = .ok ft
  swap
  · constructor
    · rintro ⟨added, returns, -⟩
      exact absurd returns (addReplicaAsPrimary_of_ftSAP (not_exists.mp known) added)
    · intro completes
      exact absurd completes.1 known
  obtain ⟨ft, ftSAP⟩ := known
  cases binds : outcomes.control.succeeds with
  | false =>
      rw [allOrNothing_of_control new ftSAP binds]
      simp [Completes, ftSAP, binds]
  | true =>
      have completes : this.Completes replica outcomes ↔
          (∃ ft, SAPInfo.getFirstEndpoint outcomes.init.ftDataSAP = .ok ft) ∧
            outcomes.data.succeeds = true ∧ ∀ pid ∈ this.replicas, this.Admits outcomes pid := by
        simp [Completes, ftSAP, binds]
      rw [completes]
      by_cases replied : ∃ ft, SAPInfo.getFirstEndpoint outcomes.init.ftDataSAP = .ok ft
      swap
      · constructor
        · rintro ⟨added, returns, -⟩
          exact absurd returns (addReplicaAsPrimary_of_ftDataSAP ftSAP binds
            (not_exists.mp replied) added)
        · intro all
          exact absurd all.1 replied
      obtain ⟨ftData, ftDataSAP⟩ := replied
      cases opens : outcomes.data.succeeds with
      | false =>
          constructor
          · intro atomic
            exact absurd atomic (not_allOrNothing_of_data ftSAP binds ftDataSAP opens)
          · rintro ⟨-, impossible, -⟩
            exact absurd impossible Bool.false_ne_true
      | true =>
          rw [allOrNothing_of_succeeds new ftSAP binds ftDataSAP opens]
          constructor
          · intro admitted
            exact ⟨⟨ftData, ftDataSAP⟩, rfl, admitted⟩
          · rintro ⟨-, -, admitted⟩
            exact admitted

/-! ## A primary with one replica -/

section Pair

def endpointOf (port : UInt16) : SAPInfo where
  endpointList := [⟨0, Wire.CString.empty, port, ⟨0, 0⟩⟩]
  distinct := List.nodup_singleton _

/-- A peer that the search for resources can find. -/
def found (n : UInt8) : OverlayPeerInfo where
  uuid := ⟨[n]⟩
  fid := ⟨[0]⟩
  meshSAP := none
  ftSAP := some (endpointOf 1)
  ftDataSAP := none

def openChannel : Opened where
  connected := true
  registration := .done
  asynchronous := true
  changed := true

def noChannel : Opened :=
  { openChannel with connected := false }

/-- The primary 1 with its channels to the replica 2, at any peer but the first. -/
def pair : Membership where
  primary :=
    { group := { P3ReplicationGroup.asPrimary (found 1) ⟨[8]⟩ ⟨[9]⟩ ⟨[11]⟩ with
        replicas := [found 2] }
      control := [⟨[2]⟩]
      data := [⟨[2]⟩] }
  members := fun pid =>
    { group := P3ReplicationGroup.openReplica (found 2) ⟨[8]⟩ ⟨[9]⟩ pid (found 1) []
      control := []
      data := [] }

/-- An addition in which only these two channels can fail. -/
def outcomesOf (data reaction : Opened) : Outcomes where
  control := openChannel
  init := .replied (some (endpointOf 2))
  iid := ⟨[13]⟩
  data
  reactions := fun _ => ⟨true, openChannel, reaction⟩

theorem new_pair : pair.New ⟨[3]⟩ where
  primary := ⟨by decide, by decide⟩
  replicas := by
    intro pid listed
    exact ⟨by decide +revert, by decide +revert⟩

/-- Without a data channel to the replica 3 the primary keeps the control channel; without
one from the replica 2 the addition counts all the same. -/
theorem not_allOrNothing_pair :
    ¬ pair.AllOrNothing (found 3) (outcomesOf noChannel openChannel) ∧
      ¬ pair.AllOrNothing (found 3) (outcomesOf openChannel noChannel) := by
  constructor
  · rintro ⟨added, returns, -, nothing⟩
    have left : ∃ added,
        pair.addReplicaAsPrimary (found 3) (outcomesOf noChannel openChannel) = .ok added ∧
          (added.answer = false ∧ added.group.primary.Reaches ⟨[3]⟩) := by
      decide
    obtain ⟨other, equal, answer, reaches⟩ := left
    rw [equal, Except.ok.injEq] at returns
    subst returns
    exact (nothing answer _ List.mem_cons_self).2 reaches
  · rintro ⟨added, returns, all, -⟩
    have refused : ∃ added,
        pair.addReplicaAsPrimary (found 3) (outcomesOf openChannel noChannel) = .ok added ∧
          (added.answer = true ∧ (⟨[2]⟩, true) ∉ added.replies) := by
      decide
    obtain ⟨other, equal, answer, unanswered⟩ := refused
    rw [equal, Except.ok.injEq] at returns
    subst returns
    exact unanswered ((all answer).2.1 _ List.mem_cons_self)

theorem allOrNothing_pair : pair.AllOrNothing (found 3) (outcomesOf openChannel openChannel) := by
  apply (allOrNothing_iff pair (found 3) (outcomesOf openChannel openChannel) new_pair).mpr
  refine ⟨⟨_, rfl⟩, Or.inr ⟨rfl, ⟨_, rfl⟩, rfl, ?_⟩⟩
  intro pid listed
  rw [List.mem_singleton.mp listed, Admits]
  decide

end Pair

end Membership

end Stheno.FT
