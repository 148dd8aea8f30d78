import Stheno.Peer.Info

/-!
# Replication groups

A member of a group keeps its own copy of the membership: the primary and the
ordered list of the replicas.  The flag that selects the path of `addReplica` is
set by the constructor.  Connections and the service of the member are outside the
model: what they answer is an argument.
-/

namespace Stheno.FT

open Peer

structure OverlayPeerInfo where
  uuid : UUID
  fid : UUID
  meshSAP : Option SAPInfo
  ftSAP : Option SAPInfo
  ftDataSAP : Option SAPInfo
  deriving DecidableEq

def OverlayPeerInfo.setFTDataSAP (this : OverlayPeerInfo) (ftDataSAP : Option SAPInfo) :
    OverlayPeerInfo :=
  { this with ftDataSAP }

/-- What comes of connecting to a new replica. -/
structure Binding where
  control : Bool
  /-- The access point in the reply to the initial packet. -/
  ftDataSAP : Option SAPInfo
  data : Bool
  /-- The channels of the other replicas were told. -/
  update : Bool

/-- What a group asks of its service, of the runtime and of the fault tolerance. -/
inductive Call where
  | changeToPrimaryRole
  | changeIIDOfService (sid iid newIid : UUID)
  | onReplicationGroupClose (rgid : UUID)
  deriving DecidableEq

structure P3ReplicationGroup where
  /-- The peer that holds this copy. -/
  runtimeUUID : UUID
  groupUUID : UUID
  sid : UUID
  /-- The instance of the service at this peer. -/
  iid : UUID
  primary : Bool
  primaryPeer : OverlayPeerInfo
  /-- The oldest replica first. -/
  replicas : List OverlayPeerInfo
  closed : Bool
  /-- The calls so far, the oldest first. -/
  calls : List Call
  deriving DecidableEq

namespace P3ReplicationGroup

def call (this : P3ReplicationGroup) (call : Call) : P3ReplicationGroup :=
  { this with calls := this.calls ++ [call] }

def close (this : P3ReplicationGroup) : P3ReplicationGroup :=
  { this with closed := true }

@[simp]
theorem calls_call (this : P3ReplicationGroup) (call : Call) :
    (this.call call).calls = this.calls ++ [call] :=
  rfl

@[simp]
theorem calls_close (this : P3ReplicationGroup) : this.close.calls = this.calls :=
  rfl

/-! ## Roles -/

def isPrimary (this : P3ReplicationGroup) : Bool :=
  this.primary

def isThisPeer (this : P3ReplicationGroup) (uuid : UUID) : Bool :=
  this.runtimeUUID.sameKey uuid

def getPrimaryUUID (this : P3ReplicationGroup) : UUID :=
  this.primaryPeer.uuid

def isThisPeerPrimary (this : P3ReplicationGroup) : Bool :=
  this.isThisPeer this.getPrimaryUUID

def isPeerPrimary (this : P3ReplicationGroup) (uuid : UUID) : Bool :=
  this.primaryPeer.uuid.sameKey uuid

def getReplicaList (this : P3ReplicationGroup) : List OverlayPeerInfo :=
  this.replicas

/-- The loop of `isPeerReplica`. -/
def isPeerReplicaFrom (uuid : UUID) : List OverlayPeerInfo → Bool
  | [] => true -- Should not reach here
  | peer :: rest => if peer.uuid.sameKey uuid then true else isPeerReplicaFrom uuid rest

def isPeerReplica (this : P3ReplicationGroup) (uuid : UUID) : Bool :=
  if this.replicas.length = 0 then false else isPeerReplicaFrom uuid this.replicas

/-! ## Additions -/

def addReplicaAsPrimary (this : P3ReplicationGroup) (replica : OverlayPeerInfo)
    (binding : Binding) : P3ReplicationGroup × Bool :=
  if !binding.control then
    (this, false)
  else
    let replica := replica.setFTDataSAP binding.ftDataSAP
    if !binding.data then
      (this, false)
    else if binding.update then
      ({ this with replicas := this.replicas ++ [replica] }, true)
    else
      (this, false)

/-- The answer of the control connection is overwritten by that of the data connection. -/
def addReplicaAsReplica (this : P3ReplicationGroup) (replica : OverlayPeerInfo)
    (binding : Binding) : P3ReplicationGroup × Bool :=
  if binding.data then
    ({ this with replicas := this.replicas ++ [replica] }, true)
  else
    (this, false)

def addReplica (this : P3ReplicationGroup) (replica : OverlayPeerInfo) (binding : Binding) :
    P3ReplicationGroup × Bool :=
  if this.isPrimary then
    this.addReplicaAsPrimary replica binding
  else
    this.addReplicaAsReplica replica binding

/-- The second component is the acceptance in the reply. -/
def handleAddReplicaPacket (this : P3ReplicationGroup) (peerInfo : OverlayPeerInfo)
    (binding : Binding) : P3ReplicationGroup × Bool :=
  this.addReplica peerInfo binding

/-! ## Removals -/

/-- The channel managers keep their channels under generated identifiers, so that
`remove` with the identifier of a peer finds none. -/
def removeReplica (this : P3ReplicationGroup) (uuid : UUID) : P3ReplicationGroup × Bool :=
  if this.isThisPeer uuid then
    (this.close.call (.onReplicationGroupClose this.groupUUID), true)
  else
    ({ this with replicas := this.replicas.eraseP fun peer => peer.uuid.sameKey uuid },
      this.replicas.any fun peer => peer.uuid.sameKey uuid)

/-- `changed` is the answer of the service, if it is asked to take the primary's role. -/
def onPeerClosure (this : P3ReplicationGroup) (uuid : UUID) (changed : Bool) :
    P3ReplicationGroup :=
  if this.isPeerPrimary uuid then
    match this.replicas with
    | [] => this.close
    | front :: rest =>
        let this := { this with primaryPeer := front, replicas := rest }
        if this.isThisPeerPrimary then
          let fired := this.call .changeToPrimaryRole
          let fired := if changed then fired else fired.close
          fired.call (.changeIIDOfService this.sid this.iid this.groupUUID)
        else
          this
  else
    (this.removeReplica uuid).1

/-! ## Opening -/

/-- The constructor of a primary, and `openPrimary` up to the search for resources. -/
def asPrimary (self : OverlayPeerInfo) (groupUUID sid iid : UUID) : P3ReplicationGroup :=
  { runtimeUUID := self.uuid
    groupUUID
    sid
    iid
    primary := true
    primaryPeer := self
    replicas := []
    closed := false
    calls := [] }

def addReplicas (this : P3ReplicationGroup) (found : List (OverlayPeerInfo × Binding)) :
    P3ReplicationGroup :=
  found.foldl (fun this peer => (this.addReplica peer.1 peer.2).1) this

/-- Without resources the group throws `INSUFFICIENT_RESOURCES`. -/
def openPrimary (self : OverlayPeerInfo) (groupUUID sid iid : UUID)
    (findResources : Option (List (OverlayPeerInfo × Binding))) : Option P3ReplicationGroup :=
  findResources.map (asPrimary self groupUUID sid iid).addReplicas

/-- The constructor of a replica with `openReplica`. -/
def openReplica (self : OverlayPeerInfo) (groupUUID sid iid : UUID)
    (primaryPeer : OverlayPeerInfo) (replicas : List OverlayPeerInfo) : P3ReplicationGroup :=
  { runtimeUUID := self.uuid
    groupUUID
    sid
    iid
    primary := false
    primaryPeer
    replicas := replicas ++ [self]
    closed := false
    calls := [] }

/-! ## The view of a member -/

/-- The primary, then the replicas in their order. -/
def view (this : P3ReplicationGroup) : List UUID :=
  this.primaryPeer.uuid :: this.replicas.map OverlayPeerInfo.uuid

/-- How often the service of this member was asked to take the primary's role. -/
def promotions (this : P3ReplicationGroup) : Nat :=
  this.calls.count .changeToPrimaryRole

@[simp]
theorem isThisPeer_iff {this : P3ReplicationGroup} {uuid : UUID} :
    this.isThisPeer uuid = true ↔ this.runtimeUUID = uuid :=
  UUID.sameKey_iff

@[simp]
theorem isPeerPrimary_iff {this : P3ReplicationGroup} {uuid : UUID} :
    this.isPeerPrimary uuid = true ↔ this.primaryPeer.uuid = uuid :=
  UUID.sameKey_iff

@[simp]
theorem isThisPeerPrimary_iff {this : P3ReplicationGroup} :
    this.isThisPeerPrimary = true ↔ this.runtimeUUID = this.primaryPeer.uuid :=
  UUID.sameKey_iff

theorem map_uuid_eraseP (peers : List OverlayPeerInfo) (uuid : UUID) :
    (peers.eraseP fun peer => peer.uuid.sameKey uuid).map OverlayPeerInfo.uuid =
      (peers.map OverlayPeerInfo.uuid).erase uuid := by
  induction peers with
  | nil => rfl
  | cons peer rest ih =>
      by_cases equal : peer.uuid = uuid
      · simp [UUID.sameKey, equal]
      · have kept := List.erase_cons_tail (l := rest.map OverlayPeerInfo.uuid)
          (a := uuid) (b := peer.uuid) (by simpa using equal)
        rw [List.map_cons, kept, ← ih]
        simp [UUID.sameKey, equal]

/-- An added replica stands at the end of every member's list. -/
theorem view_addReplica {this : P3ReplicationGroup} {replica : OverlayPeerInfo}
    {binding : Binding} (control : binding.control = true) (data : binding.data = true)
    (update : binding.update = true) :
    (this.addReplica replica binding).1.view = this.view ++ [replica.uuid] := by
  rw [addReplica]
  split
  · rw [addReplicaAsPrimary, control, data, update]
    simp [view, OverlayPeerInfo.setFTDataSAP]
  · rw [addReplicaAsReplica, data]
    simp [view]

/-- An addition writes the list of the replicas only. -/
theorem addReplica_eq (this : P3ReplicationGroup) (replica : OverlayPeerInfo)
    (binding : Binding) : ∃ replicas,
      (this.addReplica replica binding).1 = { this with replicas } := by
  rw [addReplica]
  split
  · rw [addReplicaAsPrimary]
    split
    · exact ⟨this.replicas, rfl⟩
    · dsimp only
      split
      · exact ⟨this.replicas, rfl⟩
      · split
        · exact ⟨_, rfl⟩
        · exact ⟨this.replicas, rfl⟩
  · rw [addReplicaAsReplica]
    split
    · exact ⟨_, rfl⟩
    · exact ⟨this.replicas, rfl⟩

@[simp]
theorem runtimeUUID_addReplica (this : P3ReplicationGroup) (replica : OverlayPeerInfo)
    (binding : Binding) : (this.addReplica replica binding).1.runtimeUUID = this.runtimeUUID := by
  rcases addReplica_eq this replica binding with ⟨replicas, equal⟩
  rw [equal]

@[simp]
theorem view_openReplica (self : OverlayPeerInfo) (groupUUID sid iid : UUID)
    (primaryPeer : OverlayPeerInfo) (replicas : List OverlayPeerInfo) :
    (openReplica self groupUUID sid iid primaryPeer replicas).view =
      (primaryPeer.uuid :: replicas.map OverlayPeerInfo.uuid) ++ [self.uuid] := by
  simp [openReplica, view]

/-- The closure of the primary. -/
theorem onPeerClosure_primary {this : P3ReplicationGroup} {front : OverlayPeerInfo}
    {rest : List OverlayPeerInfo} (replicas : this.replicas = front :: rest) (changed : Bool) :
    ∃ closed calls,
      this.onPeerClosure this.primaryPeer.uuid changed =
        { this with primaryPeer := front, replicas := rest, closed, calls } ∧
      calls.count .changeToPrimaryRole =
        this.promotions + if this.runtimeUUID = front.uuid then 1 else 0 := by
  rw [onPeerClosure, if_pos (isPeerPrimary_iff.mpr rfl), replicas]
  by_cases here : this.runtimeUUID = front.uuid
  · rw [if_pos here]
    dsimp only
    rw [if_pos (isThisPeerPrimary_iff.mpr here)]
    cases changed with
    | true => exact ⟨_, _, rfl, by simp [promotions]⟩
    | false => exact ⟨_, _, rfl, by simp [promotions]⟩
  · rw [if_neg here]
    dsimp only
    rw [if_neg (isThisPeerPrimary_iff.not.mpr here)]
    exact ⟨_, _, rfl, rfl⟩

/-- The closure of another peer that is not the primary. -/
theorem onPeerClosure_replica {this : P3ReplicationGroup} {uuid : UUID}
    (other : this.primaryPeer.uuid ≠ uuid) (elsewhere : this.runtimeUUID ≠ uuid)
    (changed : Bool) :
    this.onPeerClosure uuid changed =
      { this with replicas := this.replicas.eraseP fun peer => peer.uuid.sameKey uuid } := by
  rw [onPeerClosure, if_neg (isPeerPrimary_iff.not.mpr other), removeReplica,
    if_neg (isThisPeer_iff.not.mpr elsewhere)]

/-- A member that knows itself and is not the primary has a replica that follows it. -/
theorem exists_front {this : P3ReplicationGroup} (known : this.runtimeUUID ∈ this.view)
    (elsewhere : this.runtimeUUID ≠ this.primaryPeer.uuid) :
    ∃ front rest, this.replicas = front :: rest ∧
      this.view.erase this.primaryPeer.uuid = front.uuid :: rest.map OverlayPeerInfo.uuid := by
  cases replicas : this.replicas with
  | nil =>
      rw [view, replicas, List.map_nil, List.mem_singleton] at known
      exact absurd known elsewhere
  | cons front rest =>
      refine ⟨front, rest, rfl, ?_⟩
      rw [view, replicas, List.erase_cons_head, List.map_cons]

/-- What the closure of another peer leaves of a member that knows itself: its view
without that peer, and a promotion if this member follows a closed primary. -/
theorem onPeerClosure_spec {this : P3ReplicationGroup} {uuid : UUID}
    (known : this.runtimeUUID ∈ this.view) (elsewhere : this.runtimeUUID ≠ uuid)
    (changed : Bool) :
    let after := this.onPeerClosure uuid changed
    after.runtimeUUID = this.runtimeUUID ∧ after.view = this.view.erase uuid ∧
      after.promotions = this.promotions +
        if this.primaryPeer.uuid = uuid ∧
          (this.view.erase uuid).head? = some this.runtimeUUID then 1 else 0 := by
  by_cases primary : this.primaryPeer.uuid = uuid
  · subst primary
    rcases exists_front known elsewhere with ⟨front, rest, replicas, left⟩
    rcases onPeerClosure_primary replicas changed with ⟨closed, calls, equal, count⟩
    rw [left, equal]
    refine ⟨rfl, rfl, ?_⟩
    change calls.count .changeToPrimaryRole = _
    rw [count]
    simp [eq_comm]
  · rw [onPeerClosure_replica primary elsewhere]
    refine ⟨rfl, ?_, ?_⟩
    · change this.primaryPeer.uuid :: _ = (this.primaryPeer.uuid :: _).erase uuid
      rw [map_uuid_eraseP, List.erase_cons_tail (by simpa using primary)]
    · rw [if_neg (fun both => primary both.1)]
      rfl

/-- The calls that the closure of another peer adds, if this member knows itself.  What it
knows of the service stays as it is. -/
theorem onPeerClosure_calls {this : P3ReplicationGroup} {uuid : UUID}
    (known : this.runtimeUUID ∈ this.view) (elsewhere : this.runtimeUUID ≠ uuid)
    (changed : Bool) :
    let after := this.onPeerClosure uuid changed
    after.sid = this.sid ∧ after.iid = this.iid ∧ after.groupUUID = this.groupUUID ∧
      after.calls = this.calls ++
        if this.primaryPeer.uuid = uuid ∧
          (this.view.erase uuid).head? = some this.runtimeUUID then
            [.changeToPrimaryRole, .changeIIDOfService this.sid this.iid this.groupUUID]
        else [] := by
  by_cases primary : this.primaryPeer.uuid = uuid
  · subst primary
    rcases exists_front known elsewhere with ⟨front, rest, replicas, left⟩
    rw [left, onPeerClosure, if_pos (isPeerPrimary_iff.mpr rfl), replicas]
    by_cases here : this.runtimeUUID = front.uuid
    · dsimp only
      rw [if_pos (isThisPeerPrimary_iff.mpr here)]
      cases changed with
      | true => simp [call, here]
      | false => simp [call, close, here]
    · dsimp only
      rw [if_neg (isThisPeerPrimary_iff.not.mpr here)]
      simp [Ne.symm here]
  · rw [onPeerClosure_replica primary elsewhere]
    simp [primary]

end P3ReplicationGroup

end Stheno.FT
