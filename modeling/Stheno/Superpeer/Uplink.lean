import Stheno.Run
import Stheno.Superpeer.CellRequest
import Stheno.Superpeer.Succession

/-!
# The link to the parent

`Cell` describes the peer above it in six fields: the parent channel, the PID and the
cell of the parent, and its three access points.  Two kinds of join and three kinds of
rebind write them, and the close listener of the parent channel, which is the cell
itself, clears them and starts another rebind.
-/

namespace Stheno.Superpeer

open Stheno.Tree Peer

/-! ## What the network answers -/

/-- The peer at the other end of the parent channel, with the access points that the
reply gave for it. -/
structure ParentPeer extends ParentChannel where
  discoverySAP : Option SAPInfo
  meshSAP : Option SAPInfo
  ftSAP : Option SAPInfo

namespace CellReply

/-- The parent, where the reply has an endpoint for it. -/
def parentPeer (this : CellReply) : Option ParentPeer :=
  match this.parent with
  | none => none
  | some (cellID, parent) =>
      if parent.addr.isSome then
        some
          { uuid := parent.uuid
            cellID
            discoverySAP := this.discoverySAP
            meshSAP := this.meshSAP
            ftSAP := this.ftSAP }
      else
        none

/-- The parent of a reply has the cell that the reply names. -/
theorem cellID_of_parentPeer (this : CellReply) {peer : ParentPeer}
    (named : this.parentPeer = some peer) : this.parent.map Prod.fst = some peer.cellID := by
  unfold parentPeer at named
  cases parent : this.parent with
  | none =>
      rw [parent] at named
      cases named
  | some pair =>
      rw [parent] at named
      simp only at named
      split at named
      · cases named
        rfl
      · cases named

end CellReply

/-- What comes of a connection to a parent. -/
inductive Contact where
  | unreachable
  | refused
  | accepted
  deriving DecidableEq

/-- A reply to `requestCell`, with what comes of the rebind to the parent in it. -/
structure Attempt where
  info : CellReply
  contact : Contact

/-- The answers that a cell gets when it calls `requestCell` again and again; none is
left after the last. -/
abbrev Replies := List (Option Attempt)

/-- What comes of the JOIN_CELL at a coordinator: its tree, and whether the channel is
still open when its close listener is set. -/
abbrev JoinAnswer := Option (CellTree × Bool)

/-! ## The state of the link -/

/-- The state of `Cell` that describes its place in the mesh. -/
structure Uplink where
  pid : UUID
  cellID : CellID
  cellTree : CellTree
  coordinator : Bool
  /-- The peer at the other end of `m_client`. -/
  client : Option UUID
  /-- The coordinators of the child cells that are connected. -/
  childrenGroup : List UUID
  parentChannel : Option ParentPeer
  parentUUID : Option UUID
  /-- A null parent and the invalid identifier are the same for `isRoot`. -/
  parentCellID : Option CellID
  parentDiscoverySAP : Option SAPInfo
  parentMeshSAP : Option SAPInfo
  parentFTSAP : Option SAPInfo

namespace Uplink

def isRoot (this : Uplink) : Bool :=
  this.parentCellID.isNone

/-- `rebindToParentCoordinator`; the answer tells whether the parent took the cell. -/
def rebindToParentCoordinator (this : Uplink) (parent : ParentPeer) (contact : Contact) :
    Uplink × Bool :=
  let named := { this with parentCellID := some parent.cellID }
  if contact = .accepted then
    ({ named with parentChannel := some parent }, true)
  else
    ({ named with parentChannel := none }, false)

/-- `fireRebind` while there is no parent channel, and the answers that it leaves. -/
def search (this : Uplink) : Replies → Uplink × Replies
  | [] => ({ this with parentCellID := none }, [])
  | none :: rest => ({ this with parentCellID := none }, rest)
  | some attempt :: rest =>
      match attempt.info.parentPeer with
      | none => this.search rest
      | some parent =>
          match this.rebindToParentCoordinator parent attempt.contact with
          | (bound, true) => (bound, rest)
          | (unbound, false) => unbound.search rest

/-- Without the fields that `onClose` resets. -/
def cleared (this : Uplink) : Uplink :=
  { this with
    parentChannel := none
    parentUUID := none
    parentCellID := none
    parentDiscoverySAP := none
    parentMeshSAP := none
    parentFTSAP := none }

/-- `onClose` of the parent channel. -/
def onParentClose (this : Uplink) (replies : Replies) : Uplink × Replies :=
  this.cleared.search replies

/-- `m_parentChannel->close()`, which calls the close listener, and the `reset(0)`
after it, which drops the channel that the listener has opened. -/
def closeParent (this : Uplink) (replies : Replies) : Uplink × Replies :=
  let (closed, rest) := this.onParentClose replies
  ({ closed with parentChannel := none }, rest)

/-- `fireRebind`: an open channel is closed by the first `rebind`, or at the end when
nobody answers. -/
def fireRebind (this : Uplink) (replies : Replies) : Uplink :=
  match this.parentChannel, replies with
  | none, replies => (this.search replies).1
  | some _, [] => ({ this with parentCellID := none }.closeParent []).1
  | some _, none :: rest => ({ this with parentCellID := none }.closeParent rest).1
  | some _, some attempt :: rest =>
      let (closed, left) := { this with parentCellID := none }.closeParent rest
      (closed.search (some attempt :: left)).1

/-- `rebindToNewCoordinator`, with the fields that it leaves.  Where it is refused it throws, and
nobody on the way from the reactor catches that. -/
def rebindToNewCoordinator (this : Uplink) (newCoord : P3PeerInfo) : JoinAnswer → Uplink
  | none => { this with client := none }
  | some (tree, true) => { this with client := some newCoord.pid, cellTree := tree }
  | some (tree, false) => { this with client := none, cellTree := tree }

/-- `handleCoordinatorFailure(uuid)`. -/
def handleCoordinatorFailure (this : Uplink) (uuid : UUID) (answer : JoinAnswer)
    (replies : Replies) : Result Uplink := do
  match ← this.cellTree.handleFailure this.pid uuid with
  | .wrongCoordinator => pure this
  | .takesOver tree => do
      let leading := { this with cellTree := tree, coordinator := true }
      let bound := if leading.isRoot then leading else leading.fireRebind replies
      let pruned ← bound.cellTree.pruneSubtrees bound.childrenGroup
      pure { bound with cellTree := pruned }
  | .joins tree newCoord =>
      pure ({ this with cellTree := tree }.rebindToNewCoordinator newCoord answer)

/-- What happens to a cell that is open. -/
inductive Event where
  /-- `m_client` closes. -/
  | clientCloses (answer : JoinAnswer) (replies : Replies)
  /-- The parent channel closes. -/
  | parentCloses (replies : Replies)
  /-- A NOTIFY packet of a cell. -/
  | notify (srcFID : CellID) (replies : Replies)
  /-- Packets of the mesh change the tree and the group of the children. -/
  | updated (tree : CellTree) (childrenGroup : List UUID)

def step (this : Uplink) : Event → Result Uplink
  | .clientCloses answer replies =>
      match this.client with
      | none => .ok this
      | some uuid => { this with client := none }.handleCoordinatorFailure uuid answer replies
  | .parentCloses replies =>
      match this.parentChannel with
      | none => .ok this
      | some _ => .ok (this.onParentClose replies).1
  | .notify srcFID replies =>
      if this.cellID.sameKey srcFID then .ok this else .ok (this.fireRebind replies)
  | .updated tree childrenGroup => .ok { this with cellTree := tree, childrenGroup }

def run (this : Uplink) : List Event → Result Uplink
  | [] => .ok this
  | event :: rest => do
      let after ← this.step event
      after.run rest

end Uplink

/-! ### Opening a cell -/

/-- What `Cell::open` finds: the runtime and its access points, the reply that it was
called with, and what comes of the join. -/
structure Opening where
  pid : UUID
  /-- `CellID::generateUUID()`. -/
  generated : CellID
  endpoint : Option Endpoint
  discoverySAP : Option SAPInfo
  meshSAP : Option SAPInfo
  ftSAP : Option SAPInfo
  info : Option CellReply
  contact : Contact
  answer : JoinAnswer

namespace Opening

/-- The tree that `joinCoordinator` starts with. -/
def ownTree (config : P3Configuration) (this : Opening) (cellID : CellID) : CellTree :=
  ((CellTree.new config cellID).addPeer (.announced P3PeerInfo.SUPERPEER_COORD this.pid cellID
    this.endpoint this.meshSAP this.discoverySAP this.ftSAP)).1

/-- A coordinator that has no parent yet. -/
def coordinating (config : P3Configuration) (this : Opening) (cellID : CellID)
    (parentCellID : Option CellID) : Uplink where
  pid := this.pid
  cellID := cellID
  cellTree := this.ownTree config cellID
  coordinator := true
  client := none
  childrenGroup := []
  parentChannel := none
  parentUUID := none
  parentCellID := parentCellID
  parentDiscoverySAP := none
  parentMeshSAP := none
  parentFTSAP := none

/-- `connecToParentCoordinator`; a refused join is no error. -/
def connectToParentCoordinator (this : Uplink) (parent : ParentPeer) :
    Contact → Option Uplink
  | .unreachable => none
  | contact => some
      { this with
        parentUUID := some parent.uuid
        parentDiscoverySAP := parent.discoverySAP
        parentMeshSAP := parent.meshSAP
        parentFTSAP := parent.ftSAP
        parentChannel := if contact = .accepted then some parent else none }

/-- `joinNonCoordinator`, and the access point that `open` keeps. -/
def joinNonCoordinator (this : Opening) (info : CellReply) (coordinator : UUID) : Option Uplink :=
  match this.answer with
  | some (tree, true) => some
      { pid := this.pid
        cellID := info.cell
        cellTree := tree
        coordinator := false
        client := some coordinator
        childrenGroup := []
        parentChannel := none
        parentUUID := some coordinator
        parentCellID := info.parent.map Prod.fst
        parentDiscoverySAP := info.discoverySAP
        parentMeshSAP := none
        parentFTSAP := none }
  | _ => none

/-- `Cell::open`; there is no cell where it throws. -/
def openCell (config : P3Configuration) (this : Opening) : Option Uplink :=
  match this.info with
  | none => some (this.coordinating config this.generated none)
  | some info =>
      match info.coordinator with
      | some ⟨coordinator, some _⟩ => this.joinNonCoordinator info coordinator
      | _ =>
          let leading := this.coordinating config info.cell (info.parent.map Prod.fst)
          match info.parentPeer with
          | none => some leading
          | some parent => connectToParentCoordinator leading parent this.contact

end Opening

/-! ## Consistency -/

/-- The parent that takes the cell, if any does. -/
def Attempt.taker (this : Attempt) : Option ParentPeer :=
  if this.contact = .accepted then this.info.parentPeer else none

namespace Replies

/-- The first parent that takes the cell before nobody answers. -/
def taker : Replies → Option ParentPeer
  | [] => none
  | none :: _ => none
  | some attempt :: rest => attempt.taker.or (taker rest)

/-- The answers behind those that a search uses. -/
def left : Replies → Replies
  | [] => []
  | none :: rest => rest
  | some attempt :: rest => if attempt.taker.isSome then rest else left rest

/-- Nobody takes the cell, neither in the search that the close listener starts nor,
where the rebind has a reply of its own, afterwards. -/
def Deserted : Replies → Prop
  | [] => True
  | none :: rest => taker rest = none
  | some attempt :: rest => taker (some attempt :: left rest) = none

end Replies

namespace Uplink

/-- The PID and the access points of the parent are those of a peer. -/
def Names (this : Uplink) (peer : Option ParentPeer) : Prop :=
  this.parentUUID = peer.map (fun p => p.uuid) ∧
    this.parentDiscoverySAP = peer.bind (fun p => p.discoverySAP) ∧
    this.parentMeshSAP = peer.bind (fun p => p.meshSAP) ∧
    this.parentFTSAP = peer.bind (fun p => p.ftSAP)

/-- The link to the peer above describes the peer at the other end. -/
structure Consistent (this : Uplink) : Prop where
  follower : this.coordinator = false →
    ∃ uuid, this.client = some uuid ∧ this.parentUUID = some uuid
  bound : this.coordinator = true → this.isRoot = false →
    ∃ peer, this.parentChannel = some peer ∧ this.parentCellID = some peer.cellID ∧
      this.Names (some peer)
  root : this.coordinator = true → this.isRoot = true →
    this.parentChannel = none ∧ this.Names none

/-- With a peer as its parent, and no access points of it. -/
def withParent (this : Uplink) (peer : Option ParentPeer) : Uplink :=
  { this with
    parentCellID := peer.map fun p => p.cellID
    parentChannel := peer }

/-- A rebind of a coordinator leaves a consistent link: the fields that it does not
write are those of the parent that it finds, or it closes a channel, which clears them,
and finds none. -/
def RebindFits (this : Uplink) (replies : Replies) : Prop :=
  match this.parentChannel with
  | none => this.Names (Replies.taker replies)
  | some _ => Replies.Deserted replies

/-- The failure of its coordinator leaves a follower with a consistent link. -/
def FailureFits (this : Uplink) (uuid : UUID) (answer : JoinAnswer) (replies : Replies) : Prop :=
  match this.cellTree.sps with
  | [] => True
  | c :: rest => c.pid = uuid ∧
      match rest with
      | [] => True
      | b :: _ =>
          if this.pid = b.pid then
            if this.isRoot then this.parentChannel = none ∧ this.Names none
            else this.RebindFits replies
          else
            (∃ tree, answer = some (tree, true)) ∧ this.parentUUID = some b.pid

/-- The events that leave a consistent link. -/
def Fits (this : Uplink) : Event → Prop
  | .clientCloses answer replies =>
      ∀ uuid, this.client = some uuid → this.FailureFits uuid answer replies
  | .parentCloses replies =>
      this.parentChannel ≠ none → this.coordinator = true ∧ Replies.taker replies = none
  | .notify srcFID replies => this.cellID ≠ srcFID →
      if this.coordinator then this.RebindFits replies else this.parentChannel = none
  | .updated _ _ => True

def AllFit (this : Uplink) : List Event → Prop
  | [] => True
  | event :: rest => ∀ after, this.step event = .ok after → this.Fits event ∧ after.AllFit rest

section

variable {u after : Uplink} {replies : Replies}

/-! ### The rebinds -/

theorem withParent_none (free : u.parentChannel = none) :
    u.withParent none = { u with parentCellID := none } := by
  have same : { u with parentCellID := none } =
      { u with parentCellID := none, parentChannel := u.parentChannel } := rfl
  rw [same, free]
  rfl

theorem search_eq (free : u.parentChannel = none) :
    u.search replies = (u.withParent (Replies.taker replies), Replies.left replies) := by
  induction replies generalizing u with
  | nil =>
      rw [search, Replies.taker, Replies.left, withParent_none free]
  | cons reply rest inductionHypothesis =>
      cases reply with
      | none => rw [search, Replies.taker, Replies.left, withParent_none free]
      | some attempt =>
          cases named : attempt.info.parentPeer with
          | none =>
              have idle : attempt.taker = none := by
                rw [Attempt.taker, named, ite_self]
              simp only [search, named, Replies.taker, Replies.left, idle, Option.none_or,
                Option.isSome_none, inductionHypothesis free]
              rfl
          | some parent =>
              by_cases accepted : attempt.contact = .accepted
              · have takes : attempt.taker = some parent := by
                  rw [Attempt.taker, if_pos accepted, named]
                simp only [search, named, rebindToParentCoordinator, if_pos accepted,
                  Replies.taker, Replies.left, takes, Option.some_or, Option.isSome_some, if_true]
                rfl
              · have idle : attempt.taker = none := by
                  rw [Attempt.taker, if_neg accepted]
                simp only [search, named, rebindToParentCoordinator, if_neg accepted,
                  Replies.taker, Replies.left, idle, Option.none_or, Option.isSome_none]
                rw [inductionHypothesis rfl]
                rfl

theorem onParentClose_eq (u : Uplink) (replies : Replies) :
    u.onParentClose replies =
      (u.cleared.withParent (Replies.taker replies), Replies.left replies) :=
  search_eq rfl

theorem fireRebind_of_free (free : u.parentChannel = none) :
    u.fireRebind replies = u.withParent (Replies.taker replies) := by
  have searched : u.fireRebind replies = (u.search replies).1 := by
    simp only [fireRebind, free]
  rw [searched, search_eq free]

theorem fireRebind_of_bound {peer : ParentPeer} (bound : u.parentChannel = some peer) :
    u.fireRebind replies =
      match replies with
      | [] => u.cleared
      | none :: rest =>
          { u.cleared with parentCellID := (Replies.taker rest).map fun p => p.cellID }
      | some attempt :: rest =>
          u.cleared.withParent (Replies.taker (some attempt :: Replies.left rest)) := by
  cases replies with
  | nil =>
      simp only [fireRebind, bound, closeParent, onParentClose_eq]
      rfl
  | cons reply rest =>
      cases reply with
      | none =>
          simp only [fireRebind, bound, closeParent, onParentClose_eq]
          rfl
      | some attempt =>
          simp only [fireRebind, bound, closeParent, onParentClose_eq]
          rw [search_eq rfl]
          rfl

/-! ### Which rebinds leave a consistent link -/

theorem consistent_follower_iff (follows : u.coordinator = false) :
    u.Consistent ↔ ∃ uuid, u.client = some uuid ∧ u.parentUUID = some uuid := by
  have notLeads : u.coordinator ≠ true := by
    rw [follows]
    exact Bool.false_ne_true
  constructor
  · intro consistent
    exact consistent.follower follows
  · intro joined
    constructor
    · exact fun _ => joined
    · exact fun leads => absurd leads notLeads
    · exact fun leads => absurd leads notLeads

theorem consistent_coordinator_iff (leads : u.coordinator = true) :
    u.Consistent ↔
      u.parentCellID = u.parentChannel.map (fun p => p.cellID) ∧ u.Names u.parentChannel := by
  have notFollows : u.coordinator ≠ false := by
    rw [leads]
    exact Bool.true_eq_false_eq_False
  cases cell : u.parentCellID with
  | none =>
      have root : u.isRoot = true := by
        rw [isRoot, cell]
        rfl
      constructor
      · intro consistent
        rcases consistent.root leads root with ⟨free, names⟩
        rw [free]
        exact ⟨rfl, names⟩
      · rintro ⟨same, names⟩
        have free : u.parentChannel = none := Option.map_eq_none_iff.mp same.symm
        constructor
        · exact fun follows => absurd follows notFollows
        · intro _ below
          rw [root] at below
          cases below
        · intro _ _
          rw [← free]
          exact ⟨rfl, free ▸ names⟩
  | some cellID =>
      have below : u.isRoot = false := by
        rw [isRoot, cell]
        rfl
      constructor
      · intro consistent
        rcases consistent.bound leads below with ⟨peer, bound, same, names⟩
        rw [bound, ← cell]
        exact ⟨same, names⟩
      · rintro ⟨same, names⟩
        rcases Option.map_eq_some_iff.mp same.symm with ⟨peer, bound, named⟩
        rw [bound] at names
        constructor
        · exact fun follows => absurd follows notFollows
        · intro _ _
          refine ⟨peer, bound, ?_, names⟩
          rw [cell, ← named]
        · intro _ root
          rw [below] at root
          cases root

theorem names_cleared_iff {peer : Option ParentPeer} : u.cleared.Names peer ↔ peer = none := by
  constructor
  · rintro ⟨unnamed, -⟩
    exact Option.map_eq_none_iff.mp unnamed.symm
  · rintro rfl
    exact ⟨rfl, rfl, rfl, rfl⟩

theorem consistent_withParent_iff (leads : u.coordinator = true) {peer : Option ParentPeer} :
    (u.withParent peer).Consistent ↔ u.Names peer := by
  have still : (u.withParent peer).coordinator = true := leads
  rw [consistent_coordinator_iff still]
  exact and_iff_right rfl

/-- A cell named as the parent without a channel to it. -/
theorem consistent_named_iff (leads : u.coordinator = true) (cellID : Option CellID) :
    { u.cleared with parentCellID := cellID }.Consistent ↔ cellID = none := by
  have still : { u.cleared with parentCellID := cellID }.coordinator = true := leads
  rw [consistent_coordinator_iff still]
  exact and_iff_left ⟨rfl, rfl, rfl, rfl⟩

theorem fireRebind_consistent_iff (leads : u.coordinator = true) :
    (u.fireRebind replies).Consistent ↔ u.RebindFits replies := by
  cases channel : u.parentChannel with
  | none =>
      rw [fireRebind_of_free channel, consistent_withParent_iff leads, RebindFits, channel]
  | some peer =>
      have led : u.cleared.coordinator = true := leads
      rw [fireRebind_of_bound channel, RebindFits, channel]
      cases replies with
      | nil =>
          rw [consistent_coordinator_iff led]
          exact iff_of_true ⟨rfl, rfl, rfl, rfl, rfl⟩ trivial
      | cons reply rest =>
          cases reply with
          | none =>
              exact (consistent_named_iff leads _).trans Option.map_eq_none_iff
          | some attempt =>
              rw [consistent_withParent_iff led, names_cleared_iff]
              rfl

/-- A rebind leaves the parts of the state that are no part of the link to the parent. -/
theorem fireRebind_keeps (u : Uplink) (replies : Replies) :
    (u.fireRebind replies).coordinator = u.coordinator ∧
      (u.fireRebind replies).client = u.client := by
  cases channel : u.parentChannel with
  | none =>
      rw [fireRebind_of_free channel]
      exact ⟨rfl, rfl⟩
  | some peer =>
      rw [fireRebind_of_bound channel]
      rcases replies with _ | ⟨_ | attempt, rest⟩
      · exact ⟨rfl, rfl⟩
      · exact ⟨rfl, rfl⟩
      · exact ⟨rfl, rfl⟩

theorem fireRebind_parentUUID_of_bound {peer : ParentPeer} (bound : u.parentChannel = some peer) :
    (u.fireRebind replies).parentUUID = none := by
  rw [fireRebind_of_bound bound]
  rcases replies with _ | ⟨_ | attempt, rest⟩
  · rfl
  · rfl
  · rfl

/-! ### Failures of the coordinator -/

/-- What a follower becomes that takes over. -/
theorem takeOver_eq_ok {uuid : UUID} {answer : JoinAnswer} {tree : CellTree}
    (outcome : u.cellTree.handleFailure u.pid uuid = .ok (.takesOver tree))
    (done : u.handleCoordinatorFailure uuid answer replies = .ok after) :
    ∃ pruned, after =
      { (if u.isRoot then { u with cellTree := tree, coordinator := true }
          else { u with cellTree := tree, coordinator := true }.fireRebind replies) with
        cellTree := pruned } := by
  simp only [handleCoordinatorFailure, outcome, bind, Except.bind] at done
  rcases Result.bind_eq_ok.mp done with ⟨pruned, -, built⟩
  cases built
  exact ⟨pruned, rfl⟩

/-- The tree is no part of the link. -/
theorem consistent_tree_iff {tree : CellTree} :
    { u with cellTree := tree }.Consistent ↔ u.Consistent := by
  constructor
  · rintro ⟨follower, bound, root⟩
    exact ⟨follower, bound, root⟩
  · rintro ⟨follower, bound, root⟩
    exact ⟨follower, bound, root⟩

/-- The next one in the list leads: as the root, or under a parent that it looks for. -/
theorem failure_takesOver_iff {answer : JoinAnswer} {c b : P3PeerInfo} {rest : List P3PeerInfo}
    (list : u.cellTree.sps = c :: b :: rest) (first : u.pid = b.pid)
    (done : u.handleCoordinatorFailure c.pid answer replies = .ok after) :
    after.Consistent ↔ u.FailureFits c.pid answer replies := by
  have outcome := CellTree.handleFailure_of_first list u.pid
  rw [if_pos first] at outcome
  rcases takeOver_eq_ok outcome done with ⟨pruned, rfl⟩
  rw [consistent_tree_iff, FailureFits, list]
  simp only [if_pos first, true_and]
  have leads : { u with
      cellTree := u.cellTree.removeFromRoot c.pid
      coordinator := true }.coordinator = true := rfl
  split
  · rename_i root
    have noCell : u.parentCellID = none := Option.isNone_iff_eq_none.mp root
    rw [consistent_coordinator_iff leads]
    constructor
    · rintro ⟨same, named⟩
      have free : u.parentChannel = none :=
        Option.map_eq_none_iff.mp (same.symm.trans noCell)
      exact ⟨free, free ▸ named⟩
    · rintro ⟨free, named⟩
      exact ⟨noCell.trans (Option.map_eq_none_iff.mpr free).symm, free.symm ▸ named⟩
  · exact fireRebind_consistent_iff leads

/-- The others join the next one in the list, whose PID nothing writes. -/
theorem failure_joins_iff {answer : JoinAnswer} {c b : P3PeerInfo} {rest : List P3PeerInfo}
    (follows : u.coordinator = false) (list : u.cellTree.sps = c :: b :: rest)
    (other : u.pid ≠ b.pid)
    (done : u.handleCoordinatorFailure c.pid answer replies = .ok after) :
    after.Consistent ↔ u.FailureFits c.pid answer replies := by
  have outcome := CellTree.handleFailure_of_first list u.pid
  rw [if_neg other] at outcome
  simp only [handleCoordinatorFailure, outcome, bind, Except.bind] at done
  cases done
  rw [FailureFits, list]
  simp only [if_neg other, true_and]
  have still : ({ u with cellTree := u.cellTree.removeFromRoot c.pid
    }.rebindToNewCoordinator b answer).coordinator = false := by
    rcases answer with _ | ⟨tree, _ | _⟩
    · exact follows
    · exact follows
    · exact follows
  rw [consistent_follower_iff still]
  rcases answer with _ | ⟨tree, _ | _⟩
  · apply iff_of_false
    · rintro ⟨joined, ⟨⟩, -⟩
    · rintro ⟨⟨tree, ⟨⟩⟩, -⟩
  · apply iff_of_false
    · rintro ⟨joined, ⟨⟩, -⟩
    · rintro ⟨⟨tree, ⟨⟩⟩, -⟩
  · constructor
    · rintro ⟨joined, ⟨⟩, named⟩
      exact ⟨⟨tree, rfl⟩, named⟩
    · rintro ⟨-, named⟩
      exact ⟨b.pid, rfl, named⟩

/-- A failure of a peer that does not lead the list leaves a follower without a channel. -/
theorem failure_ignored_iff {uuid : UUID} {answer : JoinAnswer} {c : P3PeerInfo}
    {rest : List P3PeerInfo} (follows : u.coordinator = false) (alone : u.client = none)
    (list : u.cellTree.sps = c :: rest) (other : c.pid ≠ uuid)
    (done : u.handleCoordinatorFailure uuid answer replies = .ok after) :
    after.Consistent ↔ u.FailureFits uuid answer replies := by
  have ignored := CellTree.handleFailure_of_other list u.pid other
  simp only [handleCoordinatorFailure, ignored, bind, Except.bind] at done
  cases done
  rw [consistent_follower_iff follows, FailureFits, list]
  apply iff_of_false
  · rintro ⟨joined, isJoined, -⟩
    rw [alone] at isJoined
    cases isJoined
  · rintro ⟨same, -⟩
    exact other same

theorem failure_consistent_iff {uuid : UUID} {answer : JoinAnswer} (follows : u.coordinator = false)
    (alone : u.client = none)
    (done : u.handleCoordinatorFailure uuid answer replies = .ok after) :
    after.Consistent ↔ u.FailureFits uuid answer replies := by
  cases list : u.cellTree.sps with
  | nil =>
      have fault : u.cellTree.handleFailure u.pid uuid = .error .nullDereference :=
        CellTree.handleFailure_error_iff.mpr (Or.inl list)
      simp only [handleCoordinatorFailure, fault, bind, Except.bind] at done
      cases done
  | cons c rest =>
      by_cases names : c.pid = uuid
      · subst names
        cases rest with
        | nil =>
            have fault : u.cellTree.handleFailure u.pid c.pid = .error .nullDereference :=
              CellTree.handleFailure_error_iff.mpr (Or.inr ⟨c, list, rfl⟩)
            simp only [handleCoordinatorFailure, fault, bind, Except.bind] at done
            cases done
        | cons b rest =>
            by_cases first : u.pid = b.pid
            · exact failure_takesOver_iff list first done
            · exact failure_joins_iff follows list first done
      · exact failure_ignored_iff follows alone list names done

/-- Only a follower has a channel to a coordinator of its own cell. -/
def Placed (this : Uplink) : Prop :=
  this.coordinator = true → this.client = none

theorem failure_placed {uuid : UUID} {answer : JoinAnswer} (follows : u.coordinator = false)
    (alone : u.client = none)
    (done : u.handleCoordinatorFailure uuid answer replies = .ok after) : after.Placed := by
  have joining : ∀ (tree : CellTree) (newCoord : P3PeerInfo),
      ({ u with cellTree := tree }.rebindToNewCoordinator newCoord answer).Placed := by
    intro tree newCoord leads
    rcases answer with _ | ⟨tree, _ | _⟩
    · rfl
    · rfl
    · cases follows.symm.trans leads
  cases outcome : u.cellTree.handleFailure u.pid uuid with
  | error fault =>
      simp only [handleCoordinatorFailure, outcome, bind, Except.bind] at done
      cases done
  | ok result =>
      cases result with
      | wrongCoordinator =>
          simp only [handleCoordinatorFailure, outcome, bind, Except.bind] at done
          cases done
          exact fun _ => alone
      | takesOver tree =>
          rcases takeOver_eq_ok outcome done with ⟨pruned, rfl⟩
          intro _
          split
          · exact alone
          · exact (fireRebind_keeps _ _).2.trans alone
      | joins tree newCoord =>
          simp only [handleCoordinatorFailure, outcome, bind, Except.bind] at done
          cases done
          exact joining tree newCoord

/-! ### The step -/

theorem Placed.step {event : Event} (placed : u.Placed) (done : u.step event = .ok after) :
    after.Placed := by
  cases event with
  | clientCloses answer replies =>
      cases client : u.client with
      | none =>
          simp only [Uplink.step, client] at done
          cases done
          exact placed
      | some uuid =>
          simp only [Uplink.step, client] at done
          refine failure_placed ?_ rfl done
          cases leads : u.coordinator with
          | false => rfl
          | true => cases client.symm.trans (placed leads)
  | parentCloses replies =>
      cases channel : u.parentChannel with
      | none =>
          simp only [Uplink.step, channel] at done
          cases done
          exact placed
      | some peer =>
          simp only [Uplink.step, channel, onParentClose_eq] at done
          cases done
          exact placed
  | notify srcFID replies =>
      simp only [Uplink.step] at done
      split at done
      · cases done
        exact placed
      · cases done
        intro leads
        rcases fireRebind_keeps u replies with ⟨coordinator, client⟩
        rw [client]
        exact placed (coordinator.symm.trans leads)
  | updated tree childrenGroup =>
      cases done
      exact placed

theorem clientCloses_consistent_iff {answer : JoinAnswer} (placed : u.Placed)
    (consistent : u.Consistent) (done : u.step (.clientCloses answer replies) = .ok after) :
    after.Consistent ↔ u.Fits (.clientCloses answer replies) := by
  cases client : u.client with
  | none =>
      simp only [Uplink.step, client] at done
      cases done
      apply iff_of_true consistent
      intro uuid joined
      cases client.symm.trans joined
  | some uuid =>
      have follows : u.coordinator = false := by
        cases leads : u.coordinator with
        | false => rfl
        | true => cases client.symm.trans (placed leads)
      simp only [Uplink.step, client] at done
      have left : { u with client := none }.coordinator = false := follows
      rw [failure_consistent_iff left rfl done]
      constructor
      · intro fits other joined
        cases client.symm.trans joined
        exact fits
      · intro fits
        exact fits uuid client

theorem parentCloses_consistent_iff (consistent : u.Consistent)
    (done : u.step (.parentCloses replies) = .ok after) :
    after.Consistent ↔ u.Fits (.parentCloses replies) := by
  cases channel : u.parentChannel with
  | none =>
      simp only [Uplink.step, channel] at done
      cases done
      apply iff_of_true consistent
      intro bound
      exact absurd channel bound
  | some peer =>
      simp only [Uplink.step, channel, onParentClose_eq] at done
      cases done
      have bound : u.parentChannel ≠ none := by
        rw [channel]
        exact Option.some_ne_none peer
      rw [Fits, forall_prop_of_true bound]
      cases leads : u.coordinator with
      | true =>
          have led : u.cleared.coordinator = true := leads
          rw [consistent_withParent_iff led, names_cleared_iff, eq_self, true_and]
      | false =>
          have left : (u.cleared.withParent (Replies.taker replies)).coordinator = false := leads
          rw [consistent_follower_iff left]
          apply iff_of_false
          · rintro ⟨uuid, -, ⟨⟩⟩
          · rintro ⟨⟨⟩, -⟩

theorem notify_consistent_iff {srcFID : CellID} (consistent : u.Consistent)
    (done : u.step (.notify srcFID replies) = .ok after) :
    after.Consistent ↔ u.Fits (.notify srcFID replies) := by
  by_cases own : u.cellID = srcFID
  · rw [Uplink.step, if_pos (UUID.sameKey_iff.mpr own)] at done
    cases done
    apply iff_of_true consistent
    intro other
    exact absurd own other
  · rw [Uplink.step, if_neg (fun same => own (UUID.sameKey_iff.mp same))] at done
    cases done
    rw [Fits, forall_prop_of_true own]
    cases leads : u.coordinator with
    | true =>
        rw [if_pos rfl]
        exact fireRebind_consistent_iff leads
    | false =>
        have left : (u.fireRebind replies).coordinator = false :=
          (fireRebind_keeps u replies).1.trans leads
        rw [if_neg Bool.false_ne_true, consistent_follower_iff left]
        cases channel : u.parentChannel with
        | none =>
            apply iff_of_true ?_ rfl
            rw [fireRebind_of_free channel]
            exact consistent.follower leads
        | some peer =>
            apply iff_of_false
            · rintro ⟨uuid, -, named⟩
              rw [fireRebind_parentUUID_of_bound channel] at named
              cases named
            · rintro ⟨⟩

/-- From a consistent link, the events that fit are those that leave a consistent one. -/
theorem step_consistent_iff {event : Event} (placed : u.Placed) (consistent : u.Consistent)
    (done : u.step event = .ok after) : after.Consistent ↔ u.Fits event := by
  cases event with
  | clientCloses answer replies => exact clientCloses_consistent_iff placed consistent done
  | parentCloses replies => exact parentCloses_consistent_iff consistent done
  | notify srcFID replies => exact notify_consistent_iff consistent done
  | updated tree childrenGroup =>
      cases done
      apply iff_of_true
      · rcases consistent with ⟨follower, bound, root⟩
        exact ⟨follower, bound, root⟩
      · trivial

/-! ### Runs -/

theorem runs_allFit : Runs step run Fits AllFit where
  run_nil := fun _ => rfl
  run_cons := fun _ _ _ => rfl
  allFit_nil := fun _ => trivial
  allFit_cons := fun _ _ _ => Iff.rfl

theorem run_consistent_iff {events : List Event} (placed : u.Placed) (consistent : u.Consistent) :
    (∀ before, before <+: events → ∀ reached, u.run before = .ok reached → reached.Consistent) ↔
      u.AllFit events :=
  runs_allFit.always_iff Placed.step step_consistent_iff placed consistent

end

end Uplink

/-! ### The opening -/

namespace Opening

/-- A cell that opens below another one with itself as coordinator is accepted by the
parent in its reply. -/
def Fits (this : Opening) : Prop :=
  match this.info with
  | none => True
  | some info =>
      match info.coordinator with
      | some ⟨_, some _⟩ => True
      | _ => info.parent = none ∨ info.parentPeer ≠ none ∧ this.contact = .accepted

/-- A coordinator below another cell, or above all. -/
theorem consistent_coordinating_iff (config : P3Configuration) (opening : Opening)
    (cellID : CellID) (parentCellID : Option CellID) :
    (opening.coordinating config cellID parentCellID).Consistent ↔ parentCellID = none := by
  rw [Uplink.consistent_coordinator_iff rfl]
  exact and_iff_left ⟨rfl, rfl, rfl, rfl⟩

section

variable {config : P3Configuration} {opening : Opening} {u : Uplink}

/-- A coordinator that opens has the link that the reply names: without a parent there, or
with one that accepts. -/
theorem coordinating_fits_iff {info : CellReply}
    (built : (match info.parentPeer with
      | none => some (opening.coordinating config info.cell (info.parent.map Prod.fst))
      | some parent => connectToParentCoordinator
          (opening.coordinating config info.cell (info.parent.map Prod.fst)) parent
          opening.contact) = some u) :
    u.coordinator = true ∧ u.client = none ∧
      (u.Consistent ↔
        (info.parent = none ∨ info.parentPeer ≠ none ∧ opening.contact = .accepted)) := by
  cases named : info.parentPeer with
  | none =>
      rw [named] at built
      cases built
      refine ⟨rfl, rfl, ?_⟩
      rw [consistent_coordinating_iff, Option.map_eq_none_iff]
      simp
  | some parent =>
      rw [named] at built
      have cell := info.cellID_of_parentPeer named
      have below : info.parent ≠ none := by
        intro absent
        rw [absent] at cell
        cases cell
      have accepting : (info.parent = none ∨ some parent ≠ none ∧ opening.contact = .accepted) ↔
          opening.contact = .accepted := by
        simp [below]
      rw [accepting]
      cases contact : opening.contact with
      | unreachable =>
          rw [contact] at built
          cases built
      | refused =>
          rw [contact] at built
          cases built
          refine ⟨rfl, rfl, ?_⟩
          rw [Uplink.consistent_coordinator_iff rfl]
          apply iff_of_false
          · rintro ⟨free, -⟩
            cases cell.symm.trans free
          · rintro ⟨⟩
      | accepted =>
          rw [contact] at built
          cases built
          refine ⟨rfl, rfl, ?_⟩
          rw [Uplink.consistent_coordinator_iff rfl]
          exact iff_of_true ⟨cell, rfl, rfl, rfl, rfl⟩ rfl

/-- What a cell opens as. -/
theorem openCell_cases (opened : opening.openCell config = some u) :
    (u.coordinator = false ∧ u.Consistent ∧ opening.Fits) ∨
      (u.coordinator = true ∧ u.client = none ∧ (u.Consistent ↔ opening.Fits)) := by
  unfold openCell at opened
  cases given : opening.info with
  | none =>
      rw [given] at opened
      cases opened
      right
      refine ⟨rfl, rfl, ?_⟩
      rw [consistent_coordinating_iff, Fits, given]
      exact iff_of_true rfl trivial
  | some info =>
      rw [given] at opened
      simp only at opened
      cases coordinator : info.coordinator with
      | none =>
          rw [coordinator] at opened
          right
          rw [Fits, given]
          simp only [coordinator]
          exact coordinating_fits_iff opened
      | some named =>
          rcases named with ⟨uuid, _ | addr⟩
          · rw [coordinator] at opened
            right
            rw [Fits, given]
            simp only [coordinator]
            exact coordinating_fits_iff opened
          · rw [coordinator] at opened
            left
            simp only [joinNonCoordinator] at opened
            split at opened
            · cases opened
              refine ⟨rfl, ?_, ?_⟩
              · rw [Uplink.consistent_follower_iff rfl]
                exact ⟨uuid, rfl, rfl⟩
              · rw [Fits, given]
                simp only [coordinator]
            · cases opened

end

end Opening

/-- A cell and its opening and events, after any of which its link to the peer above
is consistent: exactly those that fit. -/
theorem uplink_consistent_iff {config : P3Configuration} {opening : Opening} {u : Uplink}
    (opened : opening.openCell config = some u) (events : List Uplink.Event) :
    (∀ before, before <+: events → ∀ reached, u.run before = .ok reached → reached.Consistent) ↔
      opening.Fits ∧ u.AllFit events := by
  have start : (∀ before, before <+: events →
      ∀ reached, u.run before = .ok reached → reached.Consistent) → u.Consistent :=
    fun always => always [] List.nil_prefix u rfl
  rcases Opening.openCell_cases opened with ⟨follows, consistent, fits⟩ | ⟨-, alone, fitting⟩
  · have placed : u.Placed := by
      intro leads
      cases follows.symm.trans leads
    rw [Uplink.run_consistent_iff placed consistent]
    exact (and_iff_right fits).symm
  · constructor
    · intro always
      have consistent := start always
      exact ⟨fitting.mp consistent,
        (Uplink.run_consistent_iff (fun _ => alone) consistent).mp always⟩
    · rintro ⟨fits, fit⟩
      exact (Uplink.run_consistent_iff (fun _ => alone) (fitting.mpr fits)).mpr fit

section ChildCell

def someEndpoint : Endpoint :=
  { type := 1, host := .empty, port := 0, qos := { type := 0, priority := 0 } }

/-- The parent of the cell 2 in a reply. -/
def childReply : CellReply where
  cell := ⟨[2]⟩
  coordinator := none
  parent := some (⟨[1]⟩, { uuid := ⟨[11]⟩, addr := some someEndpoint })
  discoverySAP := some .empty
  meshSAP := some .empty
  ftSAP := some .empty

/-- The superpeer 21 opens the cell 2. -/
def childOpening (contact : Contact) (answer : JoinAnswer) : Opening where
  pid := ⟨[21]⟩
  generated := ⟨[9]⟩
  endpoint := none
  discoverySAP := none
  meshSAP := none
  ftSAP := none
  info := some childReply
  contact := contact
  answer := answer

/-- A coordinator loses its parent and finds no other, and no NOTIFY changes that. -/
theorem uplink_consistent_alone :
    ∃ u, (childOpening .accepted none).openCell defaults = some u ∧
      ∀ before, before <+: [.parentCloses [], .notify ⟨[7]⟩ []] →
        ∀ reached, u.run before = .ok reached → reached.Consistent := by
  have opened : (childOpening .accepted none).openCell defaults = some _ := rfl
  refine ⟨_, opened, (uplink_consistent_iff opened _).mpr ⟨?_, ?_⟩⟩
  · exact Or.inr ⟨Option.some_ne_none _, rfl⟩
  · intro after done
    cases done
    constructor
    · exact fun _ => ⟨rfl, rfl⟩
    · intro last done
      cases done
      constructor
      · exact fun _ => ⟨rfl, rfl, rfl, rfl⟩
      · trivial

/-- A follower of the root cell, with the superpeer 11 as its coordinator. -/
def rootFollower : Opening :=
  { childOpening .accepted
      (some (CellState.treeOf (CellTree.new defaults ⟨[1]⟩) [⟨[11]⟩, ⟨[21]⟩], true)) with
    info := some
      { cell := ⟨[1]⟩
        coordinator := some { uuid := ⟨[11]⟩, addr := some someEndpoint }
        parent := none
        discoverySAP := some .empty
        meshSAP := some .empty
        ftSAP := some .empty } }

/-- A coordinator that is taken by a parent again does not know its PID; one that a
parent refuses on opening names a parent without a channel; so does one that closes its
channel on a NOTIFY when the close listener finds a parent; and the new coordinator of
a root cell still names the old one. -/
theorem exists_uplink_stale :
    (∃ u reached, (childOpening .accepted none).openCell defaults = some u ∧
      u.run [.parentCloses [some ⟨childReply, .accepted⟩]] = .ok reached ∧
        reached.parentCellID = some ⟨[1]⟩ ∧ reached.parentUUID = none ∧ ¬reached.Consistent) ∧
    (∃ u, (childOpening .refused none).openCell defaults = some u ∧
      u.parentCellID = some ⟨[1]⟩ ∧ u.parentChannel = none ∧ ¬u.Consistent) ∧
    (∃ u reached, (childOpening .accepted none).openCell defaults = some u ∧
      u.run [.notify ⟨[7]⟩ [none, some ⟨childReply, .accepted⟩]] = .ok reached ∧
        reached.parentCellID = some ⟨[1]⟩ ∧ reached.parentChannel = none ∧ ¬reached.Consistent) ∧
    ∃ u reached, rootFollower.openCell defaults = some u ∧
      u.run [.clientCloses none []] = .ok reached ∧
        reached.isRoot = true ∧ reached.parentUUID = some ⟨[11]⟩ ∧ ¬reached.Consistent := by
  refine ⟨⟨_, _, rfl, rfl, rfl, rfl, ?_⟩, ⟨_, rfl, rfl, rfl, ?_⟩, ⟨_, _, rfl, rfl, rfl, rfl, ?_⟩,
    ⟨_, _, rfl, rfl, rfl, rfl, ?_⟩⟩
  · rintro ⟨-, bound, -⟩
    rcases bound rfl rfl with ⟨peer, -, -, unnamed, -⟩
    cases unnamed
  · rintro ⟨-, bound, -⟩
    rcases bound rfl rfl with ⟨peer, absent, -⟩
    cases absent
  · rintro ⟨-, bound, -⟩
    rcases bound rfl rfl with ⟨peer, absent, -⟩
    cases absent
  · rintro ⟨-, -, root⟩
    rcases root rfl rfl with ⟨-, named, -⟩
    cases named

end ChildCell

end Stheno.Superpeer
