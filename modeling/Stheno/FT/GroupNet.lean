import Mathlib.Logic.Function.Basic
import Mathlib.Logic.Relation
import Stheno.Copies
import Stheno.FT.Failover
import Stheno.Superpeer.Listings

/-!
# A group in the directories of the mesh

Every member of a replication group runs an instance of the service.  Its runtime holds
the instance, and the coordinators from its cell to the root list it.  The primary's
instance carries the identifier of the group.  When a member fails, the other members
and the coordinators hear of it on different ways, and the member that takes the
primary's role renames its instance.  The copies of the trees at the followers of a
cell are outside the model.
-/

namespace Stheno.Superpeer

open Peer

/-- The update of a peer below goes up as it is. -/
def Cell.handleUpdateInfo (this : Cell) (info : MeshUpdateInfo) :
    Result (Handled MeshUpdateInfo MeshUpdateInfo) := do
  let tree ← this.cellTree.processUpdateInfo info
  pure
    { tree
      accepted := true
      toParent := this.parentChannel.map fun _ => info
      toGroup := info }

end Stheno.Superpeer

namespace Stheno.FT

open Peer Superpeer

/-- Where a member is and what it runs. -/
structure Site where
  /-- The coordinator to which the member has its channel. -/
  coordinator : Nat
  fid : CellID
  /-- The identifier with which the member created its instance. -/
  iid : UUID
  sap : Option SAPInfo

/-- The coordinators of a mesh, and a replication group of one service.  The founder's
instance is created with the identifier of the group, and each replica generates one. -/
structure Deployment where
  size : Nat
  /-- Coordinator 0 is the root. -/
  parent : Nat → Nat
  parent_lt : ∀ k, 0 < k → parent k < k
  sid : UUID
  groupUUID : UUID
  founder : UUID
  replicas : List UUID
  site : UUID → Site
  distinct : (founder :: replicas).Nodup
  bound : ∀ m ∈ founder :: replicas, (site m).coordinator < size
  founding : (site founder).iid = groupUUID
  generated : ∀ m ∈ replicas, (site m).iid ≠ groupUUID

namespace Deployment

def members (this : Deployment) : List UUID :=
  this.founder :: this.replicas

/-- The coordinators on the chain from the cell of a member to the root. -/
def OnChain (this : Deployment) (m : UUID) (i : Nat) : Prop :=
  Above this.parent i (this.site m).coordinator

/-- The instance of a member under an identifier. -/
def info (this : Deployment) (m iid : UUID) : ServiceInstanceInfo where
  sid := this.sid
  iid
  sapInfo := (this.site m).sap

def update (this : Deployment) (m : UUID) (update : ServiceUpdate) : MeshUpdateInfo where
  pid := m
  fid := (this.site m).fid
  update

/-- The update with which a member tells the mesh that it has taken the primary's role. -/
def changeIID (this : Deployment) (m : UUID) : MeshUpdateInfo :=
  this.update m (.updateIID this.sid (this.site m).iid this.groupUUID)

/-- Of the identifiers of the member and of the group, the instance has the one. -/
structure Names (this : Deployment) (m iid : UUID) (find : UUID → Option ServiceInstanceInfo) :
    Prop where
  found : find iid = some (this.info m iid)
  only : ∀ other ∈ [(this.site m).iid, this.groupUUID], other ≠ iid → find other = none

instance (this : Deployment) (m iid : UUID) (find : UUID → Option ServiceInstanceInfo) :
    Decidable (this.Names m iid find) :=
  decidable_of_iff (find iid = some (this.info m iid) ∧
      ∀ other ∈ [(this.site m).iid, this.groupUUID], other ≠ iid → find other = none)
    ⟨fun both => ⟨both.1, both.2⟩, fun names => ⟨names.found, names.only⟩⟩

/-- A tree lists the instance of the member under an identifier. -/
def Lists (this : Deployment) (m iid : UUID) (tree : CellTree) : Prop :=
  ∃ map ∈ tree.services (this.site m).fid m, this.Names m iid (map.getInstanceOfService this.sid)

instance (this : Deployment) (m iid : UUID) (tree : CellTree) :
    Decidable (this.Lists m iid tree) := by
  unfold Lists
  infer_instance

/-- The departure of a peer closes neither the root cell nor the cell of another member
that the tree records. -/
def Spares (this : Deployment) (tree : CellTree) (uuid : UUID) (cellID : CellID) : Prop :=
  ¬tree.Closes uuid cellID tree.getRootCellID ∧
    ∀ m ∈ this.members, m ≠ uuid → ((this.site m).fid, m) ∈ tree.entries →
      ¬tree.Closes uuid cellID (this.site m).fid

instance (this : Deployment) (tree : CellTree) (uuid : UUID) (cellID : CellID) :
    Decidable (this.Spares tree uuid cellID) := by
  unfold Spares
  infer_instance

end Deployment

/-- What a coordinator sends to its parent about the members. -/
inductive Report where
  | leaveMesh (packet : LeaveMeshPacket)
  | updateInfo (info : MeshUpdateInfo)

/-- The peer that a report is about. -/
def Report.pid : Report → UUID
  | .leaveMesh packet => packet.uuid
  | .updateInfo info => info.pid

def Report.departure : Report → Option LeaveMeshPacket
  | .leaveMesh packet => some packet
  | .updateInfo _ => none

structure GroupNet where
  cell : Nat → Cell
  /-- The channel of a coordinator to its parent, the oldest report first. -/
  link : Nat → List Report
  /-- The channel of a member to its coordinator is open. -/
  connected : UUID → Bool
  /-- What a member has sent over this channel, the oldest update first. -/
  client : UUID → List MeshUpdateInfo
  runtime : UUID → SthenoCore
  /-- The member's copy of the membership. -/
  group : UUID → P3ReplicationGroup
  failed : List UUID
  /-- The closures that a member has processed. -/
  heard : UUID → List UUID

inductive GroupEvent where
  /-- The process of a member ends. -/
  | fails (pid : UUID)
  /-- The coordinator of a failed member sees that the channel has closed. -/
  | closes (pid : UUID)
  /-- A member is told that another one has closed.  `changed` is the answer of its
  service, if it is asked to take the primary's role. -/
  | noticed (pid uuid : UUID) (changed : Bool)
  /-- The coordinator of a member handles the next update from it. -/
  | arrives (pid : UUID)
  /-- The parent of a coordinator handles the next report from it. -/
  | delivers (k : Nat)

namespace GroupNet

abbrev tree (this : GroupNet) (k : Nat) : CellTree :=
  (this.cell k).cellTree

/-- A coordinator has handled something. -/
def handled (this : GroupNet) (k : Nat) (tree : CellTree) (toParent : Option Report) : GroupNet :=
  { this with
    cell := Function.update this.cell k { this.cell k with cellTree := tree }
    link := Function.update this.link k (this.link k ++ toParent.toList) }

def setLink (this : GroupNet) (k : Nat) (reports : List Report) : GroupNet :=
  { this with link := Function.update this.link k reports }

def setClient (this : GroupNet) (pid : UUID) (updates : List MeshUpdateInfo) : GroupNet :=
  { this with client := Function.update this.client pid updates }

/-- What has been sent over a closed channel and was not read yet is lost. -/
def disconnect (this : GroupNet) (pid : UUID) : GroupNet :=
  { this.setClient pid [] with connected := Function.update this.connected pid false }

/-- The runtime of a member obeys a call of the group.  The updates are those that it has
handed to the mesh. -/
def obey (state : SthenoCore × List ServiceUpdate) : Call →
    Result (SthenoCore × List ServiceUpdate)
  | .changeToPrimaryRole => .ok state
  | .changeIIDOfService sid iid newIid => do
      let changed ← state.1.changeIIDOfService sid iid newIid
      pure (changed.1, state.2 ++ [changed.2])
  | .onReplicationGroupClose _ => .ok state

section

variable (d : Deployment)

/-- A member processes the closure of another one, with the calls that its group makes. -/
def onPeerClosure (this : GroupNet) (pid uuid : UUID) (changed : Bool) : Result GroupNet := do
  let before := this.group pid
  let after := before.onPeerClosure uuid changed
  let obeyed ← (after.calls.drop before.calls.length).foldlM obey (this.runtime pid, [])
  let told := this.setClient pid (this.client pid ++ obeyed.2.map (d.update pid))
  pure
    { told with
      runtime := Function.update this.runtime pid obeyed.1
      group := Function.update this.group pid after
      heard := Function.update this.heard pid (this.heard pid ++ [uuid]) }

/-- An event whose channel, report or closure does not exist changes nothing. -/
def step (this : GroupNet) : GroupEvent → Result GroupNet
  | .fails pid =>
      if pid ∈ d.members ∧ pid ∉ this.failed then
        pure { this with failed := this.failed ++ [pid] }
      else
        pure this
  | .closes pid =>
      if pid ∈ this.failed ∧ this.connected pid then do
        let k := (d.site pid).coordinator
        let handled ← (this.cell k).leaveMesh pid (d.site pid).fid
        pure ((this.handled k handled.tree (handled.toParent.map .leaveMesh)).disconnect pid)
      else
        pure this
  | .noticed pid uuid changed =>
      if pid ∈ d.members ∧ pid ∉ this.failed ∧ uuid ∈ this.failed then
        this.onPeerClosure d pid uuid changed
      else
        pure this
  | .arrives pid =>
      match this.client pid with
      | [] => pure this
      | info :: rest => do
          let k := (d.site pid).coordinator
          let handled ← (this.cell k).handleUpdateInfo info
          pure ((this.setClient pid rest).handled k handled.tree (handled.toParent.map .updateInfo))
  | .delivers k =>
      if 0 < k ∧ k < d.size then
        match this.link k with
        | [] => pure this
        | .leaveMesh packet :: rest => do
            let handled ← (this.cell (d.parent k)).handleLeaveMesh packet
            pure ((this.setLink k rest).handled (d.parent k) handled.tree
              (handled.toParent.map .leaveMesh))
        | .updateInfo info :: rest => do
            let handled ← (this.cell (d.parent k)).handleUpdateInfo info
            pure ((this.setLink k rest).handled (d.parent k) handled.tree
              (handled.toParent.map .updateInfo))
      else
        pure this

def run (this : GroupNet) (events : List GroupEvent) : Result GroupNet :=
  events.foldlM (step d) this

/-- A tree after other activity, which leaves the records of the members alone and lists
no other instance under the identifier of the group. -/
structure Untouched (tree after : CellTree) : Prop where
  orderly : after.Orderly
  members : ∀ m ∈ d.members, after.services (d.site m).fid m = tree.services (d.site m).fid m
  listings : after.listings d.sid d.groupUUID ⊆ tree.listings d.sid d.groupUUID

/-- The departures of members start at the root or at a child of the root, and take no
other member along. -/
def Suits (this : GroupNet) : GroupEvent → Prop
  | .fails _ | .noticed _ _ _ | .arrives _ => True
  | .closes pid => pid ∈ this.failed ∧ this.connected pid →
      ((d.site pid).coordinator = 0 ∨ d.parent (d.site pid).coordinator = 0) ∧
        d.Spares (this.tree (d.site pid).coordinator) pid (d.site pid).fid
  | .delivers k => ∀ packet ∈ (this.link k).head?.bind Report.departure,
      d.Spares (this.tree (d.parent k)) packet.uuid packet.cellID

instance (this : GroupNet) : (event : GroupEvent) → Decidable (this.Suits d event)
  | .fails _ | .noticed _ _ _ | .arrives _ => isTrue trivial
  | .closes pid => inferInstanceAs (Decidable (pid ∈ this.failed ∧ this.connected pid →
      ((d.site pid).coordinator = 0 ∨ d.parent (d.site pid).coordinator = 0) ∧
        d.Spares (this.tree (d.site pid).coordinator) pid (d.site pid).fid))
  | .delivers k => inferInstanceAs (Decidable (∀ packet ∈ (this.link k).head?.bind Report.departure,
      d.Spares (this.tree (d.parent k)) packet.uuid packet.cellID))

/-- What happens next. -/
inductive Next : GroupNet → GroupNet → Prop where
  | event {this next : GroupNet} (event : GroupEvent) (suits : this.Suits d event)
      (done : this.step d event = .ok next) : Next this next
  /-- A coordinator handles something that is not about the members. -/
  | other (this : GroupNet) {k : Nat} {tree : CellTree} (bound : k < d.size)
      (untouched : Untouched d (this.tree k) tree) : Next this (this.handled k tree none)

/-- A group whose members all run, with everything announced and nothing on its way. -/
structure Formed (this : GroupNet) : Prop where
  chained : ∀ k < d.size, (this.cell k).parentChannel = none ↔ k = 0
  orderly : ∀ k < d.size, (this.tree k).Orderly
  announced : ∀ m ∈ d.members, ∀ i, d.OnChain m i → d.Lists m (d.site m).iid (this.tree i)
  only : ∀ i < d.size, ∀ listing ∈ (this.tree i).listings d.sid d.groupUUID,
    listing.pid = d.founder ∧ listing.fid = (d.site d.founder).fid ∧ d.OnChain d.founder i
  idle : ∀ k, this.link k = []
  connected : ∀ m ∈ d.members, this.connected m = true
  silent : ∀ m, this.client m = []
  valid : ∀ m ∈ d.members, (this.runtime m).isValid = true
  runs : ∀ m ∈ d.members,
    d.Names m (d.site m).iid ((this.runtime m).getInstancesOfServiceInfo d.sid)
  self : ∀ m ∈ d.members, (this.group m).runtimeUUID = m
  service : ∀ m ∈ d.members, (this.group m).sid = d.sid ∧ (this.group m).iid = (d.site m).iid ∧
    (this.group m).groupUUID = d.groupUUID
  view : ∀ m ∈ d.members, (this.group m).view = d.members
  failed : this.failed = []
  heard : ∀ m ∈ d.members, this.heard m = []

/-- All closures, departures and updates have been processed. -/
structure Quiet (this : GroupNet) : Prop where
  link : ∀ k < d.size, this.link k = []
  client : ∀ m ∈ d.members, this.client m = []
  departed : ∀ m ∈ this.failed, this.connected m = false
  noticed : ∀ m ∈ d.members, m ∉ this.failed → ∀ uuid ∈ this.failed, uuid ∈ this.heard m

instance (this : GroupNet) : Decidable (this.Quiet d) :=
  decidable_of_iff ((∀ k < d.size, (this.link k).isEmpty = true) ∧
      (∀ m ∈ d.members, (this.client m).isEmpty = true) ∧
      (∀ m ∈ this.failed, this.connected m = false) ∧
      ∀ m ∈ d.members, m ∉ this.failed → ∀ uuid ∈ this.failed, uuid ∈ this.heard m)
    ⟨fun all => ⟨fun k bound => List.isEmpty_iff.mp (all.1 k bound),
        fun m member => List.isEmpty_iff.mp (all.2.1 m member), all.2.2.1, all.2.2.2⟩,
      fun quiet => ⟨fun k bound => List.isEmpty_iff.mpr (quiet.link k bound),
        fun m member => List.isEmpty_iff.mpr (quiet.client m member), quiet.departed,
        quiet.noticed⟩⟩

/-- The coordinators of the primary list one instance under the identifier of the group,
that of the primary, and the primary itself has it under no other identifier. -/
structure Identifies (this : GroupNet) (primary : UUID) : Prop where
  listed : ∀ i, d.OnChain primary i → (this.tree i).listings d.sid d.groupUUID =
    [{ fid := (d.site primary).fid, pid := primary, info := d.info primary d.groupUUID }]
  held : (this.runtime primary).getInstancesOfServiceInfo d.sid d.groupUUID =
    some (d.info primary d.groupUUID)
  former : (d.site primary).iid ≠ d.groupUUID →
    (this.runtime primary).getInstancesOfServiceInfo d.sid (d.site primary).iid = none

end

end GroupNet

end Stheno.FT
