import Mathlib.Data.List.Count
import Mathlib.Logic.Function.Basic
import Stheno.Fault
import Stheno.FT.Group

/-!
# The channels between the members

A primary opens a control and a data channel to a new replica, and so does every replica
that it tells.  The first control packet on a channel decides which fields of the handler
at the other end are set.  A member that closes leaves the others to notice it, channel by
channel.
-/

namespace Stheno.FT

open P3ReplicationGroup

inductive Kind where
  | control
  | data
  deriving DecidableEq

/-- A channel as both of its ends know it. -/
structure Connection where
  kind : Kind
  /-- The member that opened it. -/
  client : UUID
  server : UUID
  /-- The handler that accepted it has its replication group. -/
  bound : Bool
  deriving DecidableEq

/-- `getPID` of the handler at one of the ends. -/
def Connection.getPID (this : Connection) (here : UUID) : UUID :=
  if this.client = here then this.server else this.client

/-- The two channels to a new replica.  An INIT packet makes the control handler look its
group up and a PREBIND packet does not; a data handler has it from its constructor. -/
def connections (client server : UUID) (init : Bool) : List Connection :=
  [⟨.control, client, server, init⟩, ⟨.data, client, server, true⟩]

/-- The open members and their channels. -/
structure Net where
  /-- In the order in which they joined. -/
  members : List P3ReplicationGroup
  /-- What the managers of a member hold, with the data channels that it accepted.  They
  are kept under generated identifiers, so that equal entries are different channels. -/
  held : UUID → List Connection
  /-- The channels whose other end has closed, as long as a member has not noticed. -/
  closing : UUID → List Connection

namespace Net

def order (this : Net) : List UUID :=
  this.members.map runtimeUUID

/-- The control manager of a member holds the channels that it accepted, too. -/
def controlManager (this : Net) (here : UUID) : List Connection :=
  (this.held here).filter fun channel => channel.kind = .control

def dataManager (this : Net) (here : UUID) : List Connection :=
  (this.held here).filter fun channel => channel.kind = .data ∧ channel.client = here

def add (this : Net) (here : UUID) (channels : List Connection) : Net :=
  { this with held := Function.update this.held here (this.held here ++ channels) }

/-- Both ends register their handlers. -/
def connect (this : Net) (client server : UUID) (init : Bool) : Net :=
  (this.add client (connections client server init)).add server (connections client server init)

/-- The members after one of them has taken an addition. -/
def enlistAt (this : Net) (sender : UUID) (addition : Addition) (pid : UUID) : Net :=
  { this with
    members := this.members.map fun m => if m.runtimeUUID = pid then enlist sender addition m else m }

/-- An ADD_REPLICA on one of the channels of the control manager.  A channel that the
sender accepted is taken for one that it opened. -/
def tell (sender : UUID) (addition : Addition) (this : Net) (channel : Connection) :
    Result Net :=
  let pid := channel.getPID sender
  if pid.sameKey addition.replica.uuid then
    .ok this
  else if channel.client ≠ sender then
    .error .badCast
  else if pid ∉ this.order then
    -- The peer has closed: the request is not sent.
    .ok this
  else if channel.bound then
    .ok ((this.connect pid addition.replica.uuid false).enlistAt sender addition pid)
  else
    .error .nullDereference

/-- The addition by the member that was opened as the primary.  The new replica starts
without a channel. -/
def addReplica (this : Net) (inviting : P3ReplicationGroup) (addition : Addition) : Result Net := do
  let sender := inviting.runtimeUUID
  let pid := addition.replica.uuid
  let started : Net :=
    { this with
      held := Function.update this.held pid []
      closing := Function.update this.closing pid [] }
  let opened := started.connect sender pid true
  let told ← (opened.controlManager sender).foldlM (tell sender addition) opened
  let listed := told.enlistAt sender addition sender
  pure { listed with members := listed.members ++ [initiate inviting addition] }

end Net

inductive NetEvent where
  | added (sender : UUID) (addition : Addition)
  | closed (uuid : UUID)
  /-- A member notices that one of its channels has closed. -/
  | noticed (here : UUID) (channel : Connection) (changed : Bool)

namespace Net

/-- A member that was opened as a replica prebinds to the new one, where the group that
the packet names does not exist. -/
def step (this : Net) : NetEvent → Result Net
  | .added sender addition =>
      match this.members.find? fun m => m.runtimeUUID = sender with
      | none => .ok this
      | some inviting =>
          if inviting.isPrimary then this.addReplica inviting addition
          else .error .nullDereference
  | .closed uuid =>
      if uuid ∈ this.order then
        .ok { this with
          members := this.members.filter fun m => m.runtimeUUID ≠ uuid
          closing := fun here => this.closing here ++
            (this.held here).filter fun channel => channel.getPID here = uuid }
      else
        .ok this
  | .noticed here channel changed =>
      if here ∈ this.order ∧ channel ∈ this.closing here then
        -- Only the control manager tells the group.
        .ok { members := this.members.map fun m =>
                if m.runtimeUUID = here ∧ channel.kind = .control then
                  m.onPeerClosure (channel.getPID here) changed
                else m
              held := Function.update this.held here ((this.held here).erase channel)
              closing := Function.update this.closing here ((this.closing here).erase channel) }
      else
        .ok this

def run (this : Net) (events : List NetEvent) : Result Net :=
  events.foldlM step this

/-- A primary before its first addition. -/
def founding (self : OverlayPeerInfo) (groupUUID sid iid : UUID) : Net where
  members := [asPrimary self groupUUID sid iid]
  held := fun _ => []
  closing := fun _ => []

/-! ## Telling the replicas -/

@[simp]
theorem held_add (this : Net) (here other : UUID) (channels : List Connection) :
    (this.add here channels).held other =
      this.held other ++ if other = here then channels else [] := by
  by_cases same : other = here
  · subst same
    simp [add]
  · simp [add, same]

@[simp]
theorem held_connect (this : Net) {client server : UUID} (other : client ≠ server) (init : Bool)
    (here : UUID) : (this.connect client server init).held here =
      this.held here ++
        if here = client ∨ here = server then connections client server init else [] := by
  rw [connect, held_add, held_add]
  by_cases isServer : here = server
  · simp [isServer, other.symm]
  · by_cases isClient : here = client
    · simp [isClient, other]
    · simp [isServer, isClient]

@[simp]
theorem order_enlistAt (this : Net) (sender : UUID) (addition : Addition) (pid : UUID) :
    (this.enlistAt sender addition pid).order = this.order := by
  rw [order, order, enlistAt, List.map_map]
  apply List.map_congr_left
  intro m _
  rw [Function.comp_apply]
  split
  · exact Agreed.runtimeUUID_enlist
  · rfl

/-- The open peers behind some channels, without the new replica. -/
def targets (this : Net) (sender : UUID) (addition : Addition) (channels : List Connection) :
    List UUID :=
  (channels.map fun channel => channel.getPID sender).filter fun pid =>
    pid ≠ addition.replica.uuid ∧ pid ∈ this.order

theorem targets_cons_of_skipped {this : Net} {sender : UUID} {addition : Addition}
    {channel : Connection} {channels : List Connection}
    (skipped : channel.getPID sender ≠ addition.replica.uuid → channel.getPID sender ∉ this.order) :
    this.targets sender addition (channel :: channels) =
      this.targets sender addition channels := by
  rw [targets, List.map_cons, List.filter_cons_of_neg]
  · rfl
  · simpa using skipped

theorem targets_cons_of_told {this : Net} {sender : UUID} {addition : Addition}
    {channel : Connection} {channels : List Connection}
    (other : channel.getPID sender ≠ addition.replica.uuid)
    (isOpen : channel.getPID sender ∈ this.order) :
    this.targets sender addition (channel :: channels) =
      channel.getPID sender :: this.targets sender addition channels := by
  rw [targets, List.map_cons, List.filter_cons_of_pos]
  · rfl
  · simp [other, isOpen]

/-- The sender opened the channels, and those to open peers are bound. -/
structure Usable (this : Net) (sender : UUID) (channels : List Connection) : Prop where
  opened : ∀ channel ∈ channels, channel.client = sender
  bound : ∀ channel ∈ channels, channel.getPID sender ∈ this.order → channel.bound = true

theorem tell_of_skipped {this : Net} {sender : UUID} {addition : Addition}
    {channel : Connection} (opened : channel.client = sender)
    (skipped : channel.getPID sender ≠ addition.replica.uuid → channel.getPID sender ∉ this.order) :
    tell sender addition this channel = .ok this := by
  rw [tell]
  by_cases same : channel.getPID sender = addition.replica.uuid
  · rw [if_pos (UUID.sameKey_iff.mpr same)]
  · rw [if_neg (UUID.sameKey_iff.not.mpr same), if_neg (not_not.mpr opened),
      if_pos (skipped same)]

/-- A peer has opened its channels to the new replica and listed it. -/
def toldAt (this : Net) (sender : UUID) (addition : Addition) (pid : UUID) : Net :=
  (this.connect pid addition.replica.uuid false).enlistAt sender addition pid

theorem order_toldAt (this : Net) (sender : UUID) (addition : Addition) (pid : UUID) :
    (this.toldAt sender addition pid).order = this.order := by
  rw [toldAt, order_enlistAt]
  rfl

theorem targets_toldAt (this : Net) (sender : UUID) (addition : Addition) (pid : UUID)
    (channels : List Connection) : (this.toldAt sender addition pid).targets sender addition channels =
      this.targets sender addition channels := by
  rw [targets, order_toldAt]
  rfl

theorem tell_of_told {this : Net} {sender : UUID} {addition : Addition} {channel : Connection}
    (opened : channel.client = sender) (other : channel.getPID sender ≠ addition.replica.uuid)
    (isOpen : channel.getPID sender ∈ this.order) (bound : channel.bound = true) :
    tell sender addition this channel =
      .ok (this.toldAt sender addition (channel.getPID sender)) := by
  rw [tell]
  rw [if_neg (UUID.sameKey_iff.not.mpr other), if_neg (not_not.mpr opened),
    if_neg (not_not.mpr isOpen), if_pos bound]
  rfl

/-- What telling the peers in turn leaves: each has opened its channels to the new replica and
lists it. -/
structure Told (sender : UUID) (addition : Addition) (targets : List UUID) (this told : Net) :
    Prop where
  members : told.members = this.members.map fun m =>
    if m.runtimeUUID ∈ targets then enlist sender addition m else m
  closing : told.closing = this.closing
  held : ∀ here, told.held here = this.held here ++
    if here = addition.replica.uuid then targets.flatMap fun pid => connections pid here false
    else if here ∈ targets then connections here addition.replica.uuid false
    else []

theorem Told.refl (sender : UUID) (addition : Addition) (this : Net) :
    Told sender addition [] this this where
  members := by simp
  closing := rfl
  held := by simp

/-- One more peer is told, and then the others. -/
theorem Told.cons {sender : UUID} {addition : Addition} {pid : UUID} {targets : List UUID}
    {this told : Net} (others : Told sender addition targets (this.toldAt sender addition pid) told)
    (other : pid ≠ addition.replica.uuid) (once : pid ∉ targets) :
    Told sender addition (pid :: targets) this told where
  members := by
    rw [others.members, toldAt, enlistAt, List.map_map]
    apply List.map_congr_left
    intro m _
    rw [Function.comp_apply]
    by_cases first : m.runtimeUUID = pid
    · rw [if_pos first, Agreed.runtimeUUID_enlist, first, if_neg once, if_pos List.mem_cons_self]
    · simp [first]
  closing := others.closing
  held := by
    intro here
    rw [others.held]
    change (this.connect pid addition.replica.uuid false).held here ++ _ = _
    rw [held_connect this other, List.append_assoc]
    congr 1
    by_cases new : here = addition.replica.uuid
    · subst new
      simp
    · by_cases first : here = pid
      · subst first
        simp [new, once]
      · simp [new, first]

/-- The peers are told one after the other. -/
theorem foldlM_tell {sender : UUID} {addition : Addition} (channels : List Connection) (this : Net)
    (usable : this.Usable sender channels)
    (distinct : (this.targets sender addition channels).Nodup) :
    ∃ told, channels.foldlM (tell sender addition) this = .ok told ∧
      Told sender addition (this.targets sender addition channels) this told := by
  induction channels generalizing this with
  | nil => exact ⟨this, rfl, .refl sender addition this⟩
  | cons channel channels ih =>
      have opened := usable.opened channel List.mem_cons_self
      have rest : this.Usable sender channels :=
        ⟨fun other member => usable.opened other (List.mem_cons_of_mem _ member),
          fun other member => usable.bound other (List.mem_cons_of_mem _ member)⟩
      by_cases told : channel.getPID sender ≠ addition.replica.uuid ∧
          channel.getPID sender ∈ this.order
      · have here := tell_of_told opened told.1 told.2
          (usable.bound channel List.mem_cons_self told.2)
        rw [targets_cons_of_told told.1 told.2] at distinct ⊢
        rw [List.nodup_cons] at distinct
        have same := this.targets_toldAt sender addition (channel.getPID sender) channels
        have usableAfter : (this.toldAt sender addition (channel.getPID sender)).Usable sender
            channels := by
          refine ⟨rest.opened, ?_⟩
          rw [order_toldAt]
          exact rest.bound
        rcases ih _ usableAfter (same ▸ distinct.2) with ⟨after, ran, others⟩
        rw [same] at others
        refine ⟨after, ?_, others.cons told.1 distinct.1⟩
        rw [List.foldlM_cons, here]
        exact ran
      · rw [not_and] at told
        rw [targets_cons_of_skipped told] at distinct ⊢
        rw [List.foldlM_cons, tell_of_skipped opened told]
        exact ih this rest distinct

end Net

end Stheno.FT
