import Stheno.Fault
import Stheno.FT.ReplicationGroup

/-!
# Adding a replica

The primary opens a control and a data channel to the new replica and then tells the
replicas that it has.  A manager keeps the channels under generated identifiers, so
that one that is closed right after its registration leaves the manager as it was.
-/

namespace Stheno.FT

open Peer

/-! ## Channels -/

/-- What comes of `ChannelManager::add`. -/
inductive Registration where
  /-- The map does not take the channel.  The source deletes it twice then, which is the fault
  of `Net.ChannelManager.add`; here it is a failure that leaves the member as it was. -/
  | unbound
  /-- The channel does not take the manager as its listener. -/
  | refused
  | done
  deriving DecidableEq

/-- What comes of opening a channel. -/
structure Opened where
  connected : Bool
  registration : Registration
  asynchronous : Bool
  /-- The answer of the service, if a closure promotes it. -/
  changed : Bool
  deriving DecidableEq

namespace Opened

def succeeds (this : Opened) : Bool :=
  this.connected && (this.registration = .done && this.asynchronous)

/-- The manager takes the channel out again and fires its closure. -/
def fires (this : Opened) : Bool :=
  this.connected &&
    match this.registration with
    | .unbound => false
    | .refused => true
    | .done => !this.asynchronous

end Opened

/-- The peers behind the channels of a manager. -/
abbrev ChannelManager := List UUID

/-- `add` followed by `asynchronous`, which closes the channel where it fails.  A channel that
the map does not take is left out without the fault of its second deletion. -/
def ChannelManager.add (this : ChannelManager) (pid : UUID) (opened : Opened) : ChannelManager :=
  if opened.succeeds then this ++ [pid] else this

/-- A member with the channels that it opened. -/
structure Member where
  group : P3ReplicationGroup
  control : ChannelManager
  data : ChannelManager
  deriving DecidableEq

namespace Member

def registerControl (this : Member) (pid : UUID) (opened : Opened) : Member where
  group := if opened.fires then this.group.onPeerClosure pid opened.changed else this.group
  control := this.control.add pid opened
  data := this.data

def registerData (this : Member) (pid : UUID) (opened : Opened) : Member :=
  { this with data := this.data.add pid opened }

/-- The reply to the prebind session is not looked at. -/
def prebindControlToReplica (this : Member) (replica : OverlayPeerInfo) (opened : Opened) :
    Result (Member × Bool) := do
  let _ ← SAPInfo.getFirstEndpoint replica.ftSAP
  return (this.registerControl replica.uuid opened, opened.succeeds)

/-- `bindDataToReplica` and `prebindDataToReplica`, which differ in a session whose result
both drop. -/
def bindDataToReplica (this : Member) (replica : OverlayPeerInfo) (opened : Opened) :
    Result (Member × Bool) := do
  let _ ← SAPInfo.getFirstEndpoint replica.ftDataSAP
  return (this.registerData replica.uuid opened, opened.succeeds)

def addReplicaAsReplica (this : Member) (replica : OverlayPeerInfo) (control data : Opened) :
    Result (Member × Bool) := do
  let (this, bound) ← this.prebindControlToReplica replica control
  let (this, bindRet) ← this.bindDataToReplica replica data
  let (group, acceptance) := this.group.addReplicaAsReplica replica
    { control := bound, ftDataSAP := replica.ftDataSAP, data := bindRet, update := false }
  return ({ this with group }, acceptance)

def Lists (this : Member) (uuid : UUID) : Prop :=
  uuid ∈ this.group.replicas.map OverlayPeerInfo.uuid

def Reaches (this : Member) (uuid : UUID) : Prop :=
  uuid ∈ this.control ∨ uuid ∈ this.data

instance (this : Member) (uuid : UUID) : Decidable (this.Lists uuid) :=
  inferInstanceAs (Decidable (_ ∈ _))

instance (this : Member) (uuid : UUID) : Decidable (this.Reaches uuid) :=
  inferInstanceAs (Decidable (_ ∨ _))

end Member

/-! ## The group -/

/-- The primary and, for every peer, the group that runs there. -/
structure Membership where
  primary : Member
  members : UUID → Member

/-- What comes of the session that the primary starts at the new replica. -/
inductive InitSession where
  /-- No reply of the right type arrives, whether or not the replica opened its group. -/
  | failed (initialised : Bool)
  | replied (ftDataSAP : Option SAPInfo)
  deriving DecidableEq

namespace InitSession

def initialised : InitSession → Bool
  | failed initialised => initialised
  | replied _ => true

/-- The result of `initSession` is dropped, so the access point stays null where it fails. -/
def ftDataSAP : InitSession → Option SAPInfo
  | failed _ => none
  | replied ftDataSAP => ftDataSAP

end InitSession

/-- What comes of an ADD_REPLICA on one channel. -/
structure Reaction where
  sent : Bool
  control : Opened
  data : Opened
  deriving DecidableEq

structure Outcomes where
  control : Opened
  init : InitSession
  /-- The instance of the service that the new replica creates. -/
  iid : UUID
  data : Opened
  /-- For each control channel of the primary, in the order of the manager. -/
  reactions : Nat → Reaction

/-- The answer to the caller with what it is about. -/
structure Added where
  group : Membership
  answer : Bool
  /-- Who answered the ADD_REPLICA, and the acceptance. -/
  replies : List (UUID × Bool)

/-- The members while they are told of a replica, and their replies so far. -/
structure Told where
  members : UUID → Member
  replies : List (UUID × Bool)

namespace Told

/-- `handleAddReplicaPacket` at a member that was opened as a replica.  Without an
endpoint it does not come to a reply. -/
def handleAddReplicaPacket (this : Told) (pid : UUID) (replica : OverlayPeerInfo)
    (reaction : Reaction) : Told :=
  match (this.members pid).addReplicaAsReplica replica reaction.control reaction.data with
  | .error _ => this
  | .ok (member, acceptance) =>
      { members := Function.update this.members pid member
        replies := this.replies ++ [(pid, acceptance)] }

/-- The loop of `FTControlChannelManager::addReplica`.  A request that could not be sent
is left out of those that are waited for. -/
def tell (this : Told) (replica : OverlayPeerInfo) : List UUID → (Nat → Reaction) → Told
  | [], _ => this
  | pid :: rest, reactions =>
      let told :=
        if pid.sameKey replica.uuid then this
        else if (reactions 0).sent then this.handleAddReplicaPacket pid replica (reactions 0)
        else this
      told.tell replica rest fun i => reactions (i + 1)

end Told

namespace Membership

/-- The replies are waited for and not read: `FTControlChannelManager::addReplica` returns
the same number whatever they say. -/
def addReplica (this : Membership) (replica : OverlayPeerInfo) (reactions : Nat → Reaction) :
    Told × Int :=
  (({ members := this.members, replies := [] } : Told).tell replica this.primary.control reactions,
    0)

/-- The group that the session opens at the new replica. -/
def initiated (this : Membership) (replica : OverlayPeerInfo) (iid : UUID) : Member where
  group := P3ReplicationGroup.openReplica replica this.primary.group.groupUUID
    this.primary.group.sid iid this.primary.group.primaryPeer this.primary.group.getReplicaList
  control := []
  data := []

def initSession (this : Membership) (replica : OverlayPeerInfo) (outcomes : Outcomes) :
    Membership :=
  if outcomes.control.connected && outcomes.init.initialised then
    { this with members :=
        Function.update this.members replica.uuid (this.initiated replica outcomes.iid) }
  else
    this

def bindControlToReplica (this : Membership) (replica : OverlayPeerInfo) (outcomes : Outcomes) :
    Result (Membership × OverlayPeerInfo × Bool) := do
  let _ ← SAPInfo.getFirstEndpoint replica.ftSAP
  let this := this.initSession replica outcomes
  return ({ this with primary := this.primary.registerControl replica.uuid outcomes.control },
    replica.setFTDataSAP outcomes.init.ftDataSAP, outcomes.control.succeeds)

def addReplicaAsPrimary (this : Membership) (replica : OverlayPeerInfo) (outcomes : Outcomes) :
    Result Added := do
  let (this, replica, bindRet) ← this.bindControlToReplica replica outcomes
  if !bindRet then
    return { group := this, answer := false, replies := [] }
  let (primary, bindRet) ← this.primary.bindDataToReplica replica outcomes.data
  let this := { this with primary }
  if !bindRet then
    return { group := this, answer := false, replies := [] }
  let (told, groupUpdateRet) := this.addReplica replica outcomes.reactions
  let (group, answer) := this.primary.group.addReplicaAsPrimary replica
    { control := true, ftDataSAP := replica.ftDataSAP, data := true,
      update := groupUpdateRet = 0 }
  return { group := { primary := { this.primary with group }, members := told.members }
           answer
           replies := told.replies }

/-- The replicas that the primary lists. -/
def replicas (this : Membership) : List UUID :=
  this.primary.group.replicas.map OverlayPeerInfo.uuid

end Membership

/-! ## What a member is left with -/

namespace Member

/-- A peer that is neither this member nor, for this member, the primary. -/
structure Apart (this : Member) (uuid : UUID) : Prop where
  primary : this.group.primaryPeer.uuid ≠ uuid
  elsewhere : this.group.runtimeUUID ≠ uuid

/-- How often a peer stands in the list of the replicas. -/
def listings (this : Member) (uuid : UUID) : Nat :=
  (this.group.replicas.map OverlayPeerInfo.uuid).count uuid

theorem lists_iff {this : Member} {uuid : UUID} : this.Lists uuid ↔ 0 < this.listings uuid :=
  List.count_pos_iff.symm

section Apart

variable {this : Member} {uuid : UUID} (apart : this.Apart uuid)

include apart

theorem Apart.registerControl (opened : Opened) :
    (this.registerControl uuid opened).Apart uuid ∧
      (this.registerControl uuid opened).listings uuid =
        this.listings uuid - opened.fires.toNat := by
  cases fires : opened.fires with
  | false =>
      have kept : (this.registerControl uuid opened).group = this.group := by
        simp [Member.registerControl, fires]
      exact ⟨⟨kept ▸ apart.primary, kept ▸ apart.elsewhere⟩, by rw [listings, kept]; rfl⟩
  | true =>
      have closed : (this.registerControl uuid opened).group =
          { this.group with
            replicas := this.group.replicas.eraseP fun peer => peer.uuid.sameKey uuid } := by
        rw [← P3ReplicationGroup.onPeerClosure_replica apart.primary apart.elsewhere opened.changed]
        simp [Member.registerControl, fires]
      constructor
      · constructor
        · rw [closed]
          exact apart.primary
        · rw [closed]
          exact apart.elsewhere
      · rw [listings, closed, P3ReplicationGroup.map_uuid_eraseP, List.count_erase_self]
        rfl

/-- A closure of a peer that is not listed changes nothing. -/
theorem Apart.group_registerControl (absent : ¬ this.Lists uuid) (opened : Opened) :
    (this.registerControl uuid opened).group = this.group := by
  cases fires : opened.fires with
  | false => simp [Member.registerControl, fires]
  | true =>
      have erased : (this.group.replicas.eraseP fun peer => peer.uuid.sameKey uuid) =
          this.group.replicas := by
        apply List.eraseP_of_forall_not
        intro peer listed equal
        rw [UUID.sameKey_iff] at equal
        exact absent (equal ▸ List.mem_map_of_mem listed)
      have closed := P3ReplicationGroup.onPeerClosure_replica apart.primary apart.elsewhere
        opened.changed
      rw [erased] at closed
      simp [Member.registerControl, fires, closed]

end Apart

/-- With endpoints, the acceptance is that of the data channel. -/
theorem addReplicaAsReplica_eq (this : Member) {replica : OverlayPeerInfo} {ft ftData : Endpoint}
    (ftSAP : SAPInfo.getFirstEndpoint replica.ftSAP = .ok ft)
    (ftDataSAP : SAPInfo.getFirstEndpoint replica.ftDataSAP = .ok ftData)
    (control data : Opened) :
    this.addReplicaAsReplica replica control data =
      let registered := (this.registerControl replica.uuid control).registerData replica.uuid data
      .ok (if data.succeeds then
          { registered with group :=
              { registered.group with replicas := registered.group.replicas ++ [replica] } }
        else
          registered, data.succeeds) := by
  rw [addReplicaAsReplica, prebindControlToReplica, ftSAP]
  change (bindDataToReplica _ replica data >>= _) = _
  rw [bindDataToReplica, ftDataSAP]
  cases lands : data.succeeds with
  | false => rfl
  | true => rfl

/-- So is the entry in the list. -/
theorem Apart.addReplicaAsReplica {this : Member} {replica : OverlayPeerInfo}
    (apart : this.Apart replica.uuid) {ft ftData : Endpoint}
    (ftSAP : SAPInfo.getFirstEndpoint replica.ftSAP = .ok ft)
    (ftDataSAP : SAPInfo.getFirstEndpoint replica.ftDataSAP = .ok ftData)
    (control data : Opened) : ∃ after,
      this.addReplicaAsReplica replica control data = .ok (after, data.succeeds) ∧
        after.Apart replica.uuid ∧
        after.listings replica.uuid =
          this.listings replica.uuid - control.fires.toNat + data.succeeds.toNat := by
  obtain ⟨still, left⟩ := apart.registerControl control
  have equal := this.addReplicaAsReplica_eq ftSAP ftDataSAP control data
  cases lands : data.succeeds with
  | false =>
      rw [lands] at equal
      exact ⟨_, equal, ⟨still.primary, still.elsewhere⟩, left⟩
  | true =>
      rw [lands] at equal
      refine ⟨_, equal, ⟨still.primary, still.elsewhere⟩, ?_⟩
      rw [← left]
      simp [listings, registerData]

end Member

/-! ## The replicas are told -/

/-- The listings of the new replica that reactions leave at one member. -/
def remaining (reactions : List Reaction) (listed : Nat) : Nat :=
  reactions.foldl
    (fun listed reaction => listed - reaction.control.fires.toNat + reaction.data.succeeds.toNat)
    listed

/-- A listing that is left was made by a data channel. -/
theorem exists_succeeds_of_remaining {reactions : List Reaction} {listed : Nat}
    (left : 0 < remaining reactions listed) :
    0 < listed ∨ ∃ reaction ∈ reactions, reaction.data.succeeds = true := by
  induction reactions generalizing listed with
  | nil => exact Or.inl left
  | cons reaction reactions ih =>
      rcases ih left with first | ⟨later, member, lands⟩
      · cases lands : reaction.data.succeeds with
        | true => exact Or.inr ⟨reaction, List.mem_cons_self, lands⟩
        | false =>
            dsimp only at first
            rw [lands, Bool.toNat_false, Nat.add_zero] at first
            exact Or.inl (Nat.lt_of_lt_of_le first (Nat.sub_le _ _))
      · exact Or.inr ⟨later, List.mem_cons_of_mem _ member, lands⟩

/-- The reactions of one member, over all its channels. -/
def reactionsOf (pid : UUID) : List UUID → (Nat → Reaction) → List Reaction
  | [], _ => []
  | other :: rest, reactions =>
      let later := reactionsOf pid rest fun i => reactions (i + 1)
      if other = pid && (reactions 0).sent then reactions 0 :: later else later

theorem reactionsOf_of_sent {pid : UUID} (channels : List UUID) {reactions : Nat → Reaction}
    (sent : (reactions 0).sent = true) :
    reactionsOf pid (pid :: channels) reactions =
      reactions 0 :: reactionsOf pid channels fun i => reactions (i + 1) := by
  simp [reactionsOf, sent]

/-- The packet does not reach the member over the first channel. -/
theorem reactionsOf_of_silent {pid channel : UUID} (channels : List UUID)
    {reactions : Nat → Reaction} (silent : channel ≠ pid ∨ (reactions 0).sent = false) :
    reactionsOf pid (channel :: channels) reactions =
      reactionsOf pid channels fun i => reactions (i + 1) := by
  rcases silent with other | unsent
  · simp [reactionsOf, other]
  · simp [reactionsOf, unsent]

namespace Told

variable {replica : OverlayPeerInfo} {ft ftData : Endpoint}

/-- A channel of the new replica is passed over, and a packet may be lost. -/
theorem tell_of_skipped (this : Told) {channel : UUID} (channels : List UUID)
    {reactions : Nat → Reaction}
    (skipped : channel = replica.uuid ∨ (reactions 0).sent = false) :
    this.tell replica (channel :: channels) reactions =
      this.tell replica channels fun i => reactions (i + 1) := by
  rcases skipped with new | unsent
  · simp [tell, new]
  · simp [tell, unsent]

theorem tell_of_sent (this : Told) {channel : UUID} (channels : List UUID)
    {reactions : Nat → Reaction} (other : channel ≠ replica.uuid)
    (sent : (reactions 0).sent = true) :
    this.tell replica (channel :: channels) reactions =
      (this.handleAddReplicaPacket channel replica (reactions 0)).tell replica channels
        fun i => reactions (i + 1) := by
  simp [tell, other, sent]

/-- The packet at a member whose endpoints are known. -/
theorem handleAddReplicaPacket_self
    (ftSAP : SAPInfo.getFirstEndpoint replica.ftSAP = .ok ft)
    (ftDataSAP : SAPInfo.getFirstEndpoint replica.ftDataSAP = .ok ftData)
    {this : Told} {pid : UUID} (apart : (this.members pid).Apart replica.uuid)
    (reaction : Reaction) :
    let told := this.handleAddReplicaPacket pid replica reaction
    (told.members pid).Apart replica.uuid ∧
      (told.members pid).listings replica.uuid =
        (this.members pid).listings replica.uuid - reaction.control.fires.toNat +
          reaction.data.succeeds.toNat ∧
      told.replies = this.replies ++ [(pid, reaction.data.succeeds)] := by
  obtain ⟨after, equal, still, count⟩ := apart.addReplicaAsReplica ftSAP ftDataSAP
    reaction.control reaction.data
  rw [handleAddReplicaPacket, equal]
  dsimp only
  rw [Function.update_self]
  exact ⟨still, count, rfl⟩

/-- The packet at another member. -/
theorem handleAddReplicaPacket_other (this : Told) {pid channel : UUID} (other : channel ≠ pid)
    (reaction : Reaction) :
    let told := this.handleAddReplicaPacket channel replica reaction
    told.members pid = this.members pid ∧
      ((pid, true) ∈ told.replies ↔ (pid, true) ∈ this.replies) := by
  rw [handleAddReplicaPacket]
  split
  · exact ⟨rfl, Iff.rfl⟩
  · constructor
    · exact Function.update_of_ne other.symm _ _
    · simp [other.symm]

/-- What telling all the channels does to one member: only its own reactions count. -/
theorem tell_spec (ftSAP : SAPInfo.getFirstEndpoint replica.ftSAP = .ok ft)
    (ftDataSAP : SAPInfo.getFirstEndpoint replica.ftDataSAP = .ok ftData)
    {this : Told} {pid : UUID} (other : pid ≠ replica.uuid)
    (apart : (this.members pid).Apart replica.uuid) (channels : List UUID)
    (reactions : Nat → Reaction) :
    let told := this.tell replica channels reactions
    let here := reactionsOf pid channels reactions
    (told.members pid).listings replica.uuid =
        remaining here ((this.members pid).listings replica.uuid) ∧
      ((pid, true) ∈ told.replies ↔
        (pid, true) ∈ this.replies ∨ ∃ reaction ∈ here, reaction.data.succeeds = true) := by
  induction channels generalizing this reactions with
  | nil => simp [tell, reactionsOf, remaining]
  | cons channel channels ih =>
      by_cases skipped : channel = replica.uuid ∨ (reactions 0).sent = false
      · have silent : channel ≠ pid ∨ (reactions 0).sent = false :=
          skipped.imp_left fun new same => other (same.symm.trans new)
        rw [tell_of_skipped this channels skipped, reactionsOf_of_silent channels silent]
        exact ih apart _
      · rw [not_or, Bool.not_eq_false] at skipped
        rw [tell_of_sent this channels skipped.1 skipped.2]
        by_cases same : channel = pid
        · subst same
          obtain ⟨still, count, replies⟩ := handleAddReplicaPacket_self ftSAP ftDataSAP apart
            (reactions 0)
          obtain ⟨listed, answered⟩ := ih still fun i => reactions (i + 1)
          rw [count] at listed
          rw [replies, List.mem_append, List.mem_singleton, Prod.mk.injEq] at answered
          rw [reactionsOf_of_sent channels skipped.2]
          constructor
          · exact listed
          · have accepts : channel = channel ∧ true = (reactions 0).data.succeeds ↔
                (reactions 0).data.succeeds = true :=
              ⟨fun both => both.2.symm, fun lands => ⟨rfl, lands.symm⟩⟩
            rw [answered, List.exists_mem_cons_iff, accepts, or_assoc]
        · obtain ⟨untouched, unanswered⟩ := @handleAddReplicaPacket_other replica this
            pid channel same (reactions 0)
          obtain ⟨listed, answered⟩ := ih (untouched ▸ apart) fun i => reactions (i + 1)
          rw [untouched] at listed
          rw [unanswered] at answered
          rw [reactionsOf_of_silent channels (.inl same)]
          exact ⟨listed, answered⟩

/-- The new replica is not told of itself. -/
theorem members_tell_new (this : Told) (channels : List UUID) (reactions : Nat → Reaction) :
    (this.tell replica channels reactions).members replica.uuid = this.members replica.uuid := by
  induction channels generalizing this reactions with
  | nil => rfl
  | cons channel channels ih =>
      rw [tell, ih]
      split
      · rfl
      next other =>
        rw [UUID.sameKey_iff] at other
        split
        · exact (@handleAddReplicaPacket_other replica this replica.uuid channel other _).1
        · rfl

end Told

end Stheno.FT
