import Stheno.Superpeer.Handlers
import Stheno.Superpeer.Joining
import Stheno.Superpeer.Promotion
import Stheno.Superpeer.RebindChain

/-!
# Succession of coordinators

Every superpeer of a cell holds the list of its superpeers in the root node of its
tree, and the first of the list is the coordinator.  When the coordinator fails
each survivor takes it off its own list; the new first one takes over and the
others join it, which replaces their trees by a copy of its tree.  A survivor that
cannot join throws an exception that ends its process.
-/

namespace Stheno.Superpeer

open Stheno.Tree Peer

/-! ## One survivor -/

/-- What `handleCoordinatorFailure` makes of a notice. -/
inductive FailureOutcome where
  /-- The notice does not name the coordinator. -/
  | wrongCoordinator
  /-- This superpeer takes over. -/
  | takesOver (tree : CellTree)
  /-- This superpeer has to join the new coordinator. -/
  | joins (tree : CellTree) (newCoord : P3PeerInfo)

namespace CellTree

/-- The superpeers of the root cell. -/
def sps (this : CellTree) : List P3PeerInfo :=
  this.rootNode.label.sps

/-- `getRootNode()->remove(uuid)`. -/
def removeFromRoot (this : CellTree) (uuid : UUID) : CellTree :=
  match this.rootNode.label.remove uuid with
  | some info => this.modify [] (SlotTree.mapLabel fun _ => info)
  | none => this

/-- The start of `handleCoordinatorFailure` at the runtime `pid`.  The log of a wrong
coordinator follows the pointer to the one of the list, and the new coordinator is
compared with the runtime, without looking whether there is one. -/
def handleFailure (this : CellTree) (pid uuid : UUID) : Result FailureOutcome :=
  match this.rootNode.label.getCoordinator with
  | none => .error .nullDereference
  | some pi =>
      if pi.pid.sameKey uuid then
        let tree := this.removeFromRoot uuid
        match tree.rootNode.label.getCoordinator with
        | none => .error .nullDereference
        | some newCoord =>
            if pid.sameKey newCoord.pid then .ok (.takesOver tree) else .ok (.joins tree newCoord)
      else
        .ok .wrongCoordinator

end CellTree

/-! ### What happens to the list -/

namespace CellInfo

theorem remove_first {info : CellInfo} {c : P3PeerInfo} {rest : List P3PeerInfo}
    (list : info.sps = c :: rest) : info.remove c.pid = some { info with sps := rest } := by
  have first : (c.pid.sameKey c.pid) = true := UUID.sameKey_iff.mpr rfl
  have erased : (c :: rest).eraseP (fun temp => temp.pid.sameKey c.pid) = rest :=
    List.eraseP_cons_of_pos first
  rw [remove, list, List.any_cons, first, Bool.true_or, if_pos rfl, erased]

/-- A superpeer that is in the list is not added again. -/
theorem add_listed {info : CellInfo} {peer : P3PeerInfo} (type : peer.type = P3PeerInfo.SUPERPEER)
    (listed : peer.pid ∈ info.sps.map fun temp => temp.pid) : info.add peer = none := by
  rcases List.mem_map.mp listed with ⟨temp, member, equal⟩
  have ofType : PeerList.ofType peer.type = some .sps := by
    rw [type]
    rfl
  have present : (info.sps.any fun temp => temp.pid.sameKey peer.pid) = true :=
    List.any_eq_true.mpr ⟨temp, member, UUID.sameKey_iff.mpr equal⟩
  simp only [add, ofType, peers, present, if_true]

end CellInfo

namespace CellTree

theorem addAt_listed {t : CellTree} {peer : P3PeerInfo} (type : peer.type = P3PeerInfo.SUPERPEER)
    (listed : peer.pid ∈ t.sps.map fun temp => temp.pid) : t.addAt [] peer = (t, -1) := by
  rcases t.addAt_cases [] peer with ⟨n, info, found, added, -⟩ | ⟨-, refused⟩
  · rw [SlotTree.at?_nil, Option.some.injEq] at found
    subst found
    cases (CellInfo.add_listed type listed).symm.trans added
  · exact refused

/-- A superpeer of the root cell that is in its list is not added again. -/
theorem addPeer_listed {t : CellTree} {peer : P3PeerInfo} (type : peer.type = P3PeerInfo.SUPERPEER)
    (root : t.getRootCellID = peer.fid) (listed : peer.pid ∈ t.sps.map fun temp => temp.pid) :
    (t.addPeer peer).1 = t := by
  have path : t.getCellTreeNode peer.fid = some [] :=
    SlotTree.findPath_of_label (UUID.sameKey_iff.mpr root)
  simp only [addPeer, path, addAt_listed type listed]

/-- The first superpeer is taken off the list, and nothing else changes in the label
of the root. -/
theorem label_removeFromRoot {t : CellTree} {c : P3PeerInfo} {rest : List P3PeerInfo}
    (list : t.sps = c :: rest) :
    (t.removeFromRoot c.pid).rootNode.label = { t.rootNode.label with sps := rest } := by
  have removed : t.rootNode.label.remove c.pid = some { t.rootNode.label with sps := rest } :=
    CellInfo.remove_first list
  simp only [removeFromRoot, removed, modify, SlotTree.modifyAt_nil, SlotTree.mapLabel,
    SlotTree.label_node]

theorem sps_removeFromRoot {t : CellTree} {c : P3PeerInfo} {rest : List P3PeerInfo}
    (list : t.sps = c :: rest) : (t.removeFromRoot c.pid).sps = rest := by
  rw [sps, label_removeFromRoot list]

theorem getRootCellID_removeFromRoot {t : CellTree} {c : P3PeerInfo} {rest : List P3PeerInfo}
    (list : t.sps = c :: rest) : (t.removeFromRoot c.pid).getRootCellID = t.getRootCellID := by
  rw [getRootCellID, label_removeFromRoot list]
  rfl

theorem sps_relocated (t : CellTree) (base : Addr) : (t.relocated base).sps = t.sps := by
  rw [sps, relocated, CellTreeNode.label_relocate]
  rfl

theorem getRootCellID_relocated (t : CellTree) (base : Addr) :
    (t.relocated base).getRootCellID = t.getRootCellID := by
  rw [getRootCellID, relocated, CellTreeNode.label_relocate]
  rfl

theorem handleFailure_of_first {t : CellTree} {c b : P3PeerInfo} {rest : List P3PeerInfo}
    (list : t.sps = c :: b :: rest) (pid : UUID) :
    t.handleFailure pid c.pid = .ok
      (if pid = b.pid then .takesOver (t.removeFromRoot c.pid)
        else .joins (t.removeFromRoot c.pid) b) := by
  have first : t.rootNode.label.getCoordinator = some c := congrArg List.head? list
  have second : (t.removeFromRoot c.pid).rootNode.label.getCoordinator = some b :=
    congrArg List.head? (sps_removeFromRoot list)
  have same : (c.pid.sameKey c.pid) = true := UUID.sameKey_iff.mpr rfl
  simp only [handleFailure, first, second, same, if_true, UUID.sameKey_iff]
  split
  · rfl
  · rfl

theorem handleFailure_of_other {t : CellTree} {c : P3PeerInfo} {rest : List P3PeerInfo}
    (list : t.sps = c :: rest) (pid : UUID) {uuid : UUID} (other : c.pid ≠ uuid) :
    t.handleFailure pid uuid = .ok .wrongCoordinator := by
  have first : t.rootNode.label.getCoordinator = some c := congrArg List.head? list
  have different : ¬(c.pid.sameKey uuid) = true := by
    rw [UUID.sameKey_iff]
    exact other
  simp only [handleFailure, first, if_neg different]

/-- A notice crashes the runtime exactly where the list is empty, or where it has
nobody behind the coordinator that failed. -/
theorem handleFailure_error_iff {t : CellTree} {pid uuid : UUID} :
    t.handleFailure pid uuid = .error .nullDereference ↔
      t.sps = [] ∨ ∃ c, t.sps = [c] ∧ c.pid = uuid := by
  cases list : t.sps with
  | nil =>
      have first : t.rootNode.label.getCoordinator = none := congrArg List.head? list
      simp [handleFailure, first]
  | cons c rest =>
      by_cases equal : c.pid = uuid
      · subst equal
        cases rest with
        | nil =>
            have first : t.rootNode.label.getCoordinator = some c := congrArg List.head? list
            have second : (t.removeFromRoot c.pid).rootNode.label.getCoordinator = none :=
              congrArg List.head? (sps_removeFromRoot list)
            have same : (c.pid.sameKey c.pid) = true := UUID.sameKey_iff.mpr rfl
            simp [handleFailure, first, second, same]
        | cons b rest =>
            rw [handleFailure_of_first list]
            simp
      · rw [handleFailure_of_other list pid equal]
        simp [equal]

/-- Every child cell of the root has a coordinator. -/
def ChildrenLed (t : CellTree) : Prop :=
  ∀ child, some child ∈ t.rootNode.slots → child.label.getCoordinator ≠ none

theorem pruneSlot_ok_iff {l : List UUID} {slot : Option CellTreeNode} :
    (∃ kept, pruneSlot l slot = .ok kept) ↔
      ∀ child, slot = some child → child.label.getCoordinator ≠ none := by
  cases slot with
  | none => simp [pruneSlot]
  | some child =>
      cases led : child.label.getCoordinator with
      | none => simp [pruneSlot, led]
      | some coord => simp [pruneSlot, led]

/-- Pruning crashes exactly at a child cell without a superpeer. -/
theorem pruneSubtrees_ok_iff {t : CellTree} {l : List UUID} :
    (∃ pruned, t.pruneSubtrees l = .ok pruned) ↔ t.ChildrenLed := by
  have inSlots : ∀ slots : List (Option CellTreeNode),
      (∃ kept, slots.mapM (pruneSlot l) = .ok kept) ↔
        ∀ child, some child ∈ slots → child.label.getCoordinator ≠ none := by
    intro slots
    induction slots with
    | nil =>
        constructor
        · rintro - child ⟨⟩
        · intro _
          exact ⟨[], rfl⟩
    | cons slot slots ih =>
        simp only [List.mapM_cons, Result.bind_eq_ok]
        constructor
        · rintro ⟨kept, first, here, rest, there, -⟩ child member
          rcases List.mem_cons.mp member with rfl | inTail
          · exact pruneSlot_ok_iff.mp ⟨first, here⟩ child rfl
          · exact ih.mp ⟨rest, there⟩ child inTail
        · intro led
          rcases pruneSlot_ok_iff.mpr (fun child equal => led child (equal ▸ List.mem_cons_self)) with
            ⟨first, here⟩
          rcases ih.mpr (fun child member => led child (List.mem_cons_of_mem _ member)) with
            ⟨rest, there⟩
          exact ⟨first :: rest, first, here, rest, there, rfl⟩
  rw [ChildrenLed, ← inSlots]
  simp only [pruneSubtrees, Result.bind_eq_ok]
  constructor
  · rintro ⟨pruned, slots, kept, -⟩
    exact ⟨slots, kept⟩
  · rintro ⟨slots, kept⟩
    exact ⟨_, slots, kept, rfl⟩

theorem childrenLed_removeFromRoot {t : CellTree} {c : P3PeerInfo} {rest : List P3PeerInfo}
    (list : t.sps = c :: rest) : (t.removeFromRoot c.pid).ChildrenLed ↔ t.ChildrenLed := by
  have removed : t.rootNode.label.remove c.pid = some { t.rootNode.label with sps := rest } :=
    CellInfo.remove_first list
  simp only [ChildrenLed, removeFromRoot, removed, modify, SlotTree.modifyAt_nil,
    SlotTree.mapLabel, SlotTree.slots_node]

theorem label_pruneSubtrees {t pruned : CellTree} {l : List UUID}
    (done : t.pruneSubtrees l = .ok pruned) : pruned.rootNode.label = t.rootNode.label := by
  rcases Result.bind_eq_ok.mp done with ⟨slots, -, built⟩
  cases built
  exact SlotTree.label_node _ _

end CellTree

/-- A superpeer of the cell.  A null parent is the invalid identifier, as it is for
`isRoot`. -/
structure Member extends Cell where
  coordinator : Bool
  parentCellID : Option CellID
  /-- The peer at the other end of `m_client`. -/
  client : Option UUID
  /-- The peer that it was last told to connect to. -/
  connectTo : Option UUID
  /-- The coordinators of the child cells that are connected. -/
  childrenGroup : List UUID
  /-- Its own access points. -/
  endpoint : Option Endpoint
  discoverySAP : Option SAPInfo
  meshSAP : Option SAPInfo
  ftSAP : Option SAPInfo

/-- What the network does during a step. -/
structure Network where
  /-- The connection to a new coordinator is made and can be read from. -/
  connected : Bool
  /-- The reply to the JOIN_CELL arrives in time. -/
  answered : Bool
  /-- The channel is still open when its close listener is set. -/
  open_ : Bool
  /-- Where the copy of a tree is allocated. -/
  base : Addr
  /-- The parent that `fireRebind` ends up with. -/
  parentCellID : Option CellID

namespace Member

/-- The JOIN_CELL that `joinMesh` of the client channel sends. -/
def joinCellPacket (this : Member) : JoinCellPacket where
  header := this.header
  endpoint := this.endpoint
  discoverySAP := this.discoverySAP
  meshSAP := this.meshSAP
  ftSAP := this.ftSAP

/-- A coordinator, whose parent is looked for again when its cell has one. -/
def leading (network : Network) (this : Member) (tree : CellTree) : Member :=
  { this with
    cellTree := tree
    coordinator := true
    parentCellID := if this.parentCellID.isSome then network.parentCellID else none }

/-- Taking over: child cells whose coordinator is not connected are pruned. -/
def takeOver (network : Network) (this : Member) (tree : CellTree) : Result Member := do
  let pruned ← tree.pruneSubtrees this.childrenGroup
  pure (this.leading network pruned)

def withTree (this : Member) (tree : CellTree) : Member :=
  { this with cellTree := tree }

/-- Told to connect to a coordinator, with no channel yet. -/
def toldToJoin (this : Member) (tree : CellTree) (coordinator : UUID) : Member :=
  { this with cellTree := tree, client := none, connectTo := some coordinator }

/-- Connected to a coordinator, with a copy of its tree. -/
def joinedTo (this : Member) (coordinator : UUID) (tree : CellTree) : Member :=
  { this with cellTree := tree, client := some coordinator }

/-- What a follower does with the announcement of a superpeer of its own cell. -/
def hearJoin (this : Member) (packet : JoinMeshPacket) : Member :=
  this.withTree (this.cellTree.addPeer packet.peerInfo).1

end Member

/-! ## The cell -/

/-- The superpeers of a cell; those that crashed are not alive. -/
structure CellState where
  member : UUID → Member
  alive : List UUID

namespace CellState

def set (this : CellState) (pid : UUID) (member : Member) : CellState :=
  { this with member := Function.update this.member pid member }

def crash (this : CellState) (pid : UUID) : CellState :=
  { this with alive := this.alive.filter fun p => p ≠ pid }

/-- The relay of a join to the followers of a coordinator other than the joiner. -/
def announce (this : CellState) (coordinator joiner : UUID) (packet : JoinMeshPacket) : CellState :=
  { this with
    member := fun q =>
      if q ∈ this.alive ∧ q ≠ joiner ∧ (this.member q).client = some coordinator then
        (this.member q).hearJoin packet
      else
        this.member q }

/-- `rebindToNewCoordinator` at `p`: the new coordinator answers the JOIN_CELL, takes
over or not, and the tree in its answer replaces that of `p`.  Where the connection or
the join fails, or the listener is not set, it throws a `ServiceException`, which nobody on
the way from the reactor catches. -/
def rebindToNewCoordinator (network : Network) (this : CellState) (p : UUID)
    (newCoord : P3PeerInfo) : Result CellState :=
  if network.connected ∧ newCoord.pid ∈ this.alive then
    let coord := this.member newCoord.pid
    let handled := coord.handleJoinCell (this.member p).joinCellPacket
    let joined := (this.set newCoord.pid (coord.withTree handled.tree)).announce newCoord.pid p
      handled.toGroup
    if handled.accepted ∧ network.answered ∧ network.open_ then
      .ok (joined.set p
        ((joined.member p).joinedTo newCoord.pid (handled.tree.relocated network.base)))
    else
      .error .uncaughtException
  else
    .error .uncaughtException

/-- `handleCoordinatorFailure(uuid)` at the superpeer `p`. -/
def handleCoordinatorFailure (network : Network) (this : CellState) (p uuid : UUID) :
    Result CellState := do
  match ← (this.member p).cellTree.handleFailure (this.member p).pid uuid with
  | .wrongCoordinator => pure this
  | .takesOver tree => do
      let member ← (this.member p).takeOver network tree
      pure (this.set p member)
  | .joins tree newCoord =>
      let told := this.set p ((this.member p).toldToJoin tree newCoord.pid)
      told.rebindToNewCoordinator network p newCoord

end CellState

/-- A notice of failure that reaches a survivor. -/
structure Notice where
  survivor : UUID
  uuid : UUID
  network : Network

namespace CellState

/-- The notices are handled one after the other. -/
def notices : List Notice → CellState → Result CellState
  | [], this => .ok this
  | notice :: rest, this => do
      let after ← this.handleCoordinatorFailure notice.network notice.survivor notice.uuid
      after.notices rest

/-- In every round a superpeer crashes and notices are handled. -/
def rounds : List (UUID × List Notice) → CellState → Result CellState
  | [], this => .ok this
  | (crashed, heard) :: rest, this => do
      let after ← (this.crash crashed).notices heard
      after.rounds rest

/-- The live superpeers hold one list, which names them all.  The first of it is the
only coordinator, and the others were told to connect to it. -/
structure Agreed (cellID : CellID) (common : List P3PeerInfo) (this : CellState) : Prop where
  distinct : (common.map fun info => info.pid).Nodup
  members : ∀ p, p ∈ this.alive ↔ p ∈ common.map fun info => info.pid
  own : ∀ p ∈ this.alive, (this.member p).pid = p
  cell : ∀ p ∈ this.alive, (this.member p).cellID = cellID
  root : ∀ p ∈ this.alive, (this.member p).cellTree.getRootCellID = cellID
  lists : ∀ p ∈ this.alive, (this.member p).cellTree.sps = common
  coordinator : ∀ p ∈ this.alive,
    (this.member p).coordinator = true ↔ common.head?.map (fun info => info.pid) = some p
  connectTo : ∀ p ∈ this.alive, ∀ first ∈ common.head?, p ≠ first.pid →
    (this.member p).connectTo = some first.pid

/-- A superpeer takes in one that joins it: it is up and reached, it has a free slot, and its
answer and the channel last until the join is done. -/
structure Answers (this : CellState) (network : Network) (coordinator : UUID) : Prop where
  connected : network.connected = true
  alive : coordinator ∈ this.alive
  room : (this.member coordinator).cellTree.rootNode.label.hasAvailableSlotsForPeer
    P3PeerInfo.SUPERPEER = true
  answered : network.answered = true
  open_ : network.open_ = true

/-- The state in which a notice does no harm: the list has somebody behind the
coordinator that it names; a superpeer that takes over has no child cell without a
superpeer; and a superpeer that joins gets its answer, from one that has taken the
failed coordinator off its list. -/
def Ready (this : CellState) (notice : Notice) : Prop :=
  match (this.member notice.survivor).cellTree.sps with
  | [] => False
  | [c] => c.pid ≠ notice.uuid
  | c :: b :: _ => c.pid = notice.uuid →
      if b.pid = notice.survivor then
        (this.member notice.survivor).cellTree.ChildrenLed
      else
        this.Answers notice.network b.pid ∧
          ∀ first ∈ (this.member b.pid).cellTree.sps.head?, first.pid ≠ notice.uuid

/-- Every notice finds its survivor ready. -/
def AllReady : List Notice → CellState → Prop
  | [], _ => True
  | notice :: rest, this => this.Ready notice ∧
      ∀ after, this.handleCoordinatorFailure notice.network notice.survivor notice.uuid =
        .ok after → after.AllReady rest

/-- Every notice of every round finds its survivor ready. -/
def RoundsReady : List (UUID × List Notice) → CellState → Prop
  | [], _ => True
  | (crashed, heard) :: rest, this => (this.crash crashed).AllReady heard ∧
      ∀ after, (this.crash crashed).notices heard = .ok after → after.RoundsReady rest

end CellState

/-- What the survivors `rest` hear when `c` crashes: every one of them hears of it, in
any order, and none hears that the next one failed, which is up. -/
structure Heard (c : P3PeerInfo) (rest : List P3PeerInfo) (heard : List Notice) : Prop where
  survivors : ∀ notice ∈ heard, notice.survivor ∈ rest.map fun info => info.pid
  all : ∀ p ∈ rest.map fun info => info.pid,
    ∃ notice ∈ heard, notice.survivor = p ∧ notice.uuid = c.pid
  genuine : ∀ notice ∈ heard, ∀ next ∈ rest.head?, next.pid ≠ notice.uuid

/-- In every round the coordinator crashes, which is the first of the list. -/
def Observed : List (UUID × List Notice) → List P3PeerInfo → Prop
  | [], _ => True
  | _ :: _, [] => False
  | (crashed, heard) :: later, c :: rest =>
      crashed = c.pid ∧ Heard c rest heard ∧ Observed later rest

namespace CellState

/-! ## One step -/

/-- The middle of a round, in which `c` crashed and some survivors have handled it. -/
structure Underway (cellID : CellID) (c : P3PeerInfo) (rest : List P3PeerInfo)
    (handled : UUID → Prop) (this : CellState) : Prop where
  distinct : ((c :: rest).map fun info => info.pid).Nodup
  members : ∀ p, p ∈ this.alive ↔ p ∈ rest.map fun info => info.pid
  own : ∀ p ∈ this.alive, (this.member p).pid = p
  cell : ∀ p ∈ this.alive, (this.member p).cellID = cellID
  root : ∀ p ∈ this.alive, (this.member p).cellTree.getRootCellID = cellID
  pending : ∀ p ∈ this.alive, ¬handled p →
    (this.member p).cellTree.sps = c :: rest ∧ (this.member p).coordinator = false
  lists : ∀ p ∈ this.alive, handled p → (this.member p).cellTree.sps = rest
  coordinator : ∀ p ∈ this.alive, handled p →
    ((this.member p).coordinator = true ↔ rest.head?.map (fun info => info.pid) = some p)
  connectTo : ∀ p ∈ this.alive, handled p → ∀ first ∈ rest.head?, p ≠ first.pid →
    (this.member p).connectTo = some first.pid

section

variable {cellID : CellID} {c : P3PeerInfo} {common rest : List P3PeerInfo}
  {handled : UUID → Prop} {s : CellState}

@[simp]
theorem alive_set (s : CellState) (p : UUID) (m : Member) : (s.set p m).alive = s.alive :=
  rfl

@[simp]
theorem member_set_self (s : CellState) (p : UUID) (m : Member) : (s.set p m).member p = m :=
  Function.update_self _ _ _

theorem member_set_of_ne {p q : UUID} (other : q ≠ p) (m : Member) :
    (s.set p m).member q = s.member q :=
  Function.update_of_ne other _ _

@[simp]
theorem set_self (s : CellState) (p : UUID) : s.set p (s.member p) = s := by
  rw [set, Function.update_eq_self]

theorem Agreed.crash (agreed : s.Agreed cellID (c :: rest)) :
    (s.crash c.pid).Underway cellID c rest fun _ => False := by
  have lives : ∀ p, p ∈ (s.crash c.pid).alive ↔ p ∈ s.alive ∧ p ≠ c.pid := by
    intro p
    rw [CellState.crash, List.mem_filter, decide_eq_true_eq]
  have fresh : c.pid ∉ rest.map fun info => info.pid := (List.nodup_cons.mp agreed.distinct).1
  constructor
  · exact agreed.distinct
  · intro p
    rw [lives, agreed.members, List.map_cons, List.mem_cons]
    constructor
    · rintro ⟨rfl | listed, other⟩
      · exact absurd rfl other
      · exact listed
    · intro listed
      constructor
      · exact Or.inr listed
      · rintro rfl
        exact fresh listed
  · exact fun p alive => agreed.own p ((lives p).mp alive).1
  · exact fun p alive => agreed.cell p ((lives p).mp alive).1
  · exact fun p alive => agreed.root p ((lives p).mp alive).1
  · intro p alive _
    rcases (lives p).mp alive with ⟨before, other⟩
    constructor
    · exact agreed.lists p before
    · rw [← Bool.not_eq_true]
      intro leads
      exact other (Option.some.inj ((agreed.coordinator p before).mp leads)).symm
  · rintro p alive ⟨⟩
  · rintro p alive ⟨⟩
  · rintro p alive ⟨⟩

theorem Underway.agreed (underway : s.Underway cellID c rest handled)
    (all : ∀ p ∈ s.alive, handled p) : s.Agreed cellID rest where
  distinct := (List.nodup_cons.mp underway.distinct).2
  members := underway.members
  own := underway.own
  cell := underway.cell
  root := underway.root
  lists := fun p alive => underway.lists p alive (all p alive)
  coordinator := fun p alive => underway.coordinator p alive (all p alive)
  connectTo := fun p alive => underway.connectTo p alive (all p alive)

/-- Every survivor is in every list, whether it has handled the crash or not. -/
theorem Underway.listed (underway : s.Underway cellID c rest handled) {p q : UUID}
    (alive : p ∈ s.alive) (aliveQ : q ∈ s.alive) :
    p ∈ (s.member q).cellTree.sps.map fun info => info.pid := by
  have inRest := (underway.members p).mp alive
  by_cases done : handled q
  · rw [underway.lists q aliveQ done]
    exact inRest
  · rw [(underway.pending q aliveQ done).1, List.map_cons]
    exact List.mem_cons_of_mem _ inRest

/-! ### Joins of listed superpeers -/

theorem hearJoin_listed {m : Member} {packet : JoinMeshPacket}
    (type : packet.type = P3PeerInfo.SUPERPEER) (root : m.cellTree.getRootCellID = packet.cellID)
    (listed : packet.uuid ∈ m.cellTree.sps.map fun info => info.pid) : m.hearJoin packet = m := by
  have same : (m.cellTree.addPeer packet.peerInfo).1 = m.cellTree :=
    CellTree.addPeer_listed type root listed
  rw [Member.hearJoin, same]
  rfl

/-- A join of a superpeer that every list has is announced without effect. -/
theorem announce_listed {packet : JoinMeshPacket} (type : packet.type = P3PeerInfo.SUPERPEER)
    (known : ∀ q ∈ s.alive, (s.member q).cellTree.getRootCellID = packet.cellID ∧
      packet.uuid ∈ (s.member q).cellTree.sps.map fun info => info.pid)
    (coordinator joiner : UUID) : s.announce coordinator joiner packet = s := by
  have members : (s.announce coordinator joiner packet).member = s.member := by
    funext q
    by_cases hears : q ∈ s.alive ∧ q ≠ joiner ∧ (s.member q).client = some coordinator
    · exact (if_pos hears).trans (hearJoin_listed type (known q hears.1).1 (known q hears.1).2)
    · exact if_neg hears
  calc
    s.announce coordinator joiner packet =
        ⟨(s.announce coordinator joiner packet).member, s.alive⟩ := rfl
    _ = s := by rw [members]

theorem tree_handleJoinCell_listed {cell : Cell} {packet : JoinCellPacket}
    (listed : packet.header.srcPID ∈ cell.cellTree.sps.map fun info => info.pid) :
    (cell.handleJoinCell packet).tree = cell.cellTree := by
  rw [Cell.handleJoinCell]
  split
  · exact congrArg Prod.fst (CellTree.addAt_listed rfl listed)
  · rfl

/-- A join that is answered gives the joiner a copy of the tree of the coordinator, and
nothing else where every list has the joiner. -/
theorem rebindToNewCoordinator_listed {network : Network} {p : UUID} {b : P3PeerInfo}
    (own : (s.member p).pid = p) (cell : (s.member p).cellID = cellID)
    (known : ∀ q ∈ s.alive, (s.member q).cellTree.getRootCellID = cellID ∧
      p ∈ (s.member q).cellTree.sps.map fun info => info.pid)
    (answers : s.Answers network b.pid) :
    s.rebindToNewCoordinator network p b =
      .ok (s.set p
        ((s.member p).joinedTo b.pid ((s.member b.pid).cellTree.relocated network.base))) := by
  have tree : ((s.member b.pid).handleJoinCell (s.member p).joinCellPacket).tree =
      (s.member b.pid).cellTree := by
    apply tree_handleJoinCell_listed
    change (s.member p).pid ∈ _
    rw [own]
    exact (known b.pid answers.alive).2
  have unchanged : s.set b.pid ((s.member b.pid).withTree (s.member b.pid).cellTree) = s :=
    set_self s b.pid
  have relay : s.announce b.pid p
      ((s.member b.pid).handleJoinCell (s.member p).joinCellPacket).toGroup = s := by
    apply announce_listed rfl
    intro q alive
    change (s.member q).cellTree.getRootCellID = (s.member p).cellID ∧ (s.member p).pid ∈ _
    rw [own, cell]
    exact known q alive
  rw [rebindToNewCoordinator, if_pos ⟨answers.connected, answers.alive⟩]
  simp only [tree, unchanged, relay]
  exact if_pos ⟨answers.room, answers.answered, answers.open_⟩

/-- A superpeer joins another one exactly when that one answers. -/
theorem rebindToNewCoordinator_ok_iff {network : Network} {p : UUID} {b : P3PeerInfo} :
    (∃ after, s.rebindToNewCoordinator network p b = .ok after) ↔ s.Answers network b.pid := by
  rw [rebindToNewCoordinator]
  constructor
  · rintro ⟨after, done⟩
    split at done
    · rename_i reached
      dsimp only at done
      split at done
      · rename_i joined
        exact ⟨reached.1, reached.2, joined.1, joined.2.1, joined.2.2⟩
      · cases done
    · cases done
  · intro answers
    rw [if_pos ⟨answers.connected, answers.alive⟩]
    dsimp only
    exact ⟨_, if_pos ⟨answers.room, answers.answered, answers.open_⟩⟩

/-! ### The step -/

theorem handleCoordinatorFailure_of_wrong {network : Network} {p uuid : UUID}
    (outcome : (s.member p).cellTree.handleFailure (s.member p).pid uuid = .ok .wrongCoordinator) :
    s.handleCoordinatorFailure network p uuid = .ok s := by
  simp only [handleCoordinatorFailure, outcome, bind, Except.bind]
  rfl

theorem handleCoordinatorFailure_of_takesOver {network : Network} {p uuid : UUID} {tree : CellTree}
    (outcome : (s.member p).cellTree.handleFailure (s.member p).pid uuid = .ok (.takesOver tree)) :
    s.handleCoordinatorFailure network p uuid = (do
      let pruned ← tree.pruneSubtrees (s.member p).childrenGroup
      pure (s.set p ((s.member p).leading network pruned))) := by
  simp only [handleCoordinatorFailure, outcome, Member.takeOver, bind, Except.bind]
  cases tree.pruneSubtrees (s.member p).childrenGroup with
  | error fault => rfl
  | ok pruned => rfl

theorem handleCoordinatorFailure_of_joins {network : Network} {p uuid : UUID} {tree : CellTree}
    {newCoord : P3PeerInfo} (outcome : (s.member p).cellTree.handleFailure (s.member p).pid uuid =
      .ok (.joins tree newCoord)) :
    s.handleCoordinatorFailure network p uuid =
      (s.set p ((s.member p).toldToJoin tree newCoord.pid)).rebindToNewCoordinator network p
        newCoord := by
  simp only [handleCoordinatorFailure, outcome, bind, Except.bind]

/-- Whether a superpeer answers does not depend on the others. -/
theorem answers_set_iff {network : Network} {p q : UUID} (other : q ≠ p) (m : Member) :
    (s.set p m).Answers network q ↔ s.Answers network q := by
  constructor
  · rintro ⟨connected, alive, room, answered, stays⟩
    rw [member_set_of_ne other] at room
    exact ⟨connected, alive, room, answered, stays⟩
  · rintro ⟨connected, alive, room, answered, stays⟩
    rw [← member_set_of_ne other m] at room
    exact ⟨connected, alive, room, answered, stays⟩

theorem Underway.congr {other : UUID → Prop} (underway : s.Underway cellID c rest handled)
    (same : ∀ q, other q ↔ handled q) : s.Underway cellID c rest other := by
  have equal : other = handled := funext fun q => propext (same q)
  rw [equal]
  exact underway

/-- A survivor that has handled the crash joins the others that have. -/
theorem Underway.handle (underway : s.Underway cellID c rest handled) {p : UUID} {m : Member}
    (own : m.pid = p) (cell : m.cellID = cellID) (root : m.cellTree.getRootCellID = cellID)
    (list : m.cellTree.sps = rest)
    (coordinator : m.coordinator = true ↔ rest.head?.map (fun info => info.pid) = some p)
    (connectTo : ∀ first ∈ rest.head?, p ≠ first.pid → m.connectTo = some first.pid) :
    (s.set p m).Underway cellID c rest fun q => handled q ∨ q = p := by
  have others : ∀ (good : UUID → Member → Prop), good p m →
      (∀ q ∈ s.alive, q ≠ p → good q (s.member q)) →
        ∀ q ∈ (s.set p m).alive, good q ((s.set p m).member q) := by
    intro good here there q alive
    by_cases same : q = p
    · rw [same, member_set_self]
      exact here
    · rw [member_set_of_ne same]
      exact there q alive same
  constructor
  · exact underway.distinct
  · exact underway.members
  · exact others (fun q n => n.pid = q) own fun q alive _ => underway.own q alive
  · exact others (fun _ n => n.cellID = cellID) cell fun q alive _ => underway.cell q alive
  · exact others (fun _ n => n.cellTree.getRootCellID = cellID) root
      fun q alive _ => underway.root q alive
  · apply others (fun q n => ¬(handled q ∨ q = p) → n.cellTree.sps = c :: rest ∧
      n.coordinator = false)
    · intro waiting
      exact absurd (Or.inr rfl) waiting
    · intro q alive _ waiting
      exact underway.pending q alive fun done => waiting (Or.inl done)
  · apply others (fun q n => handled q ∨ q = p → n.cellTree.sps = rest) fun _ => list
    rintro q alive other (done | same)
    · exact underway.lists q alive done
    · exact absurd same other
  · apply others (fun q n => handled q ∨ q = p →
      (n.coordinator = true ↔ rest.head?.map (fun info => info.pid) = some q)) fun _ => coordinator
    rintro q alive other (done | same)
    · exact underway.coordinator q alive done
    · exact absurd same other
  · apply others (fun q n => handled q ∨ q = p → ∀ first ∈ rest.head?, q ≠ first.pid →
      n.connectTo = some first.pid) fun _ => connectTo
    rintro q alive other (done | same)
    · exact underway.connectTo q alive done
    · exact absurd same other

/-- A survivor that is first in the list takes over. -/
theorem Underway.step_takesOver (underway : s.Underway cellID c rest handled) {p : UUID}
    (alive : p ∈ s.alive) {b : P3PeerInfo} {tail : List P3PeerInfo} (next : rest = b :: tail)
    (first : p = b.pid) (list : (s.member p).cellTree.sps = c :: rest)
    (led : (s.member p).cellTree.ChildrenLed) (network : Network) :
    ∃ after, s.handleCoordinatorFailure network p c.pid = .ok after ∧ after.alive = s.alive ∧
      after.Underway cellID c rest fun q => handled q ∨ q = p := by
  have outcome : (s.member p).cellTree.handleFailure (s.member p).pid c.pid =
      .ok (.takesOver ((s.member p).cellTree.removeFromRoot c.pid)) := by
    rw [next] at list
    rw [CellTree.handleFailure_of_first list, underway.own p alive, if_pos first]
  rcases CellTree.pruneSubtrees_ok_iff.mpr ((CellTree.childrenLed_removeFromRoot list).mpr led)
    with ⟨pruned, done⟩
  have label := CellTree.label_pruneSubtrees done
  have step : s.handleCoordinatorFailure network p c.pid =
      .ok (s.set p ((s.member p).leading network pruned)) := by
    rw [handleCoordinatorFailure_of_takesOver outcome, done]
    rfl
  refine ⟨_, step, rfl, ?_⟩
  apply underway.handle
  · exact underway.own p alive
  · exact underway.cell p alive
  · rw [← underway.root p alive, ← CellTree.getRootCellID_removeFromRoot list]
    exact congrArg CellInfo.cellID label
  · exact (congrArg CellInfo.sps label).trans (CellTree.sps_removeFromRoot list)
  · rw [next, first]
    exact iff_of_true rfl rfl
  · intro head isHead other
    rw [next] at isHead
    cases isHead
    exact absurd first other

/-- Any other survivor joins the first, which has the shorter list. -/
theorem Underway.step_joins (underway : s.Underway cellID c rest handled) {p : UUID}
    (alive : p ∈ s.alive) {b : P3PeerInfo} {tail : List P3PeerInfo} (next : rest = b :: tail)
    (other : p ≠ b.pid) (waiting : ¬handled p) {network : Network}
    (answers : s.Answers network b.pid)
    (shorter : ∀ first ∈ (s.member b.pid).cellTree.sps.head?, first.pid ≠ c.pid) :
    ∃ after, s.handleCoordinatorFailure network p c.pid = .ok after ∧ after.alive = s.alive ∧
      after.Underway cellID c rest fun q => handled q ∨ q = p := by
  rcases underway.pending p alive waiting with ⟨list, notLeads⟩
  have outcome : (s.member p).cellTree.handleFailure (s.member p).pid c.pid =
      .ok (.joins ((s.member p).cellTree.removeFromRoot c.pid) b) := by
    rw [next] at list
    rw [CellTree.handleFailure_of_first list, underway.own p alive, if_neg other]
  have follower : ∀ m : Member, m.coordinator = false →
      (m.coordinator = true ↔ rest.head?.map (fun info => info.pid) = some p) := by
    intro m follows
    rw [follows, next]
    apply iff_of_false
    · rintro ⟨⟩
    · intro equal
      exact other (Option.some.inj equal).symm
  have told : (s.set p ((s.member p).toldToJoin ((s.member p).cellTree.removeFromRoot c.pid)
      b.pid)).Underway cellID c rest fun q => handled q ∨ q = p := by
    apply underway.handle
    · exact underway.own p alive
    · exact underway.cell p alive
    · rw [← underway.root p alive]
      exact CellTree.getRootCellID_removeFromRoot list
    · exact CellTree.sps_removeFromRoot list
    · exact follower _ notLeads
    · intro head isHead _
      rw [next] at isHead
      cases isHead
      rfl
  have elsewhere := Ne.symm other
  have joins := rebindToNewCoordinator_listed (told.own p alive) (told.cell p alive)
    (fun q aliveQ => ⟨told.root q aliveQ, told.listed alive aliveQ⟩)
    ((answers_set_iff elsewhere _).mpr answers)
  rw [member_set_of_ne elsewhere] at joins
  refine ⟨_, (handleCoordinatorFailure_of_joins outcome).trans joins, rfl, ?_⟩
  -- the answer comes from a superpeer that has handled the crash
  have handledB : handled b.pid := by
    by_contra notYet
    have before := (underway.pending b.pid answers.alive notYet).1
    exact shorter c (by rw [before]; rfl) rfl
  have joined := told.handle (m := ((s.set p _).member p).joinedTo b.pid
      ((s.member b.pid).cellTree.relocated network.base))
    (told.own p alive) (told.cell p alive)
    ((CellTree.getRootCellID_relocated _ _).trans (underway.root b.pid answers.alive))
    ((CellTree.sps_relocated _ _).trans (underway.lists b.pid answers.alive handledB))
    (told.coordinator p alive (Or.inr rfl)) (told.connectTo p alive (Or.inr rfl))
  apply joined.congr
  intro q
  exact (or_iff_left_of_imp Or.inr).symm

/-- A notice that finds its survivor ready is handled, and brings the round on when
it names the superpeer that crashed. -/
theorem Underway.step (underway : s.Underway cellID c rest handled) {notice : Notice}
    (alive : notice.survivor ∈ s.alive) (other : ∀ next ∈ rest.head?, next.pid ≠ notice.uuid)
    (ready : s.Ready notice) :
    ∃ after, s.handleCoordinatorFailure notice.network notice.survivor notice.uuid = .ok after ∧
      after.alive = s.alive ∧ after.Underway cellID c rest fun q =>
        handled q ∨ (q = notice.survivor ∧ notice.uuid = c.pid) := by
  have ignored : (s.member notice.survivor).cellTree.handleFailure
      (s.member notice.survivor).pid notice.uuid = .ok .wrongCoordinator →
      (notice.uuid = c.pid → handled notice.survivor) →
      ∃ after, s.handleCoordinatorFailure notice.network notice.survivor notice.uuid = .ok after ∧
        after.alive = s.alive ∧ after.Underway cellID c rest fun q =>
          handled q ∨ (q = notice.survivor ∧ notice.uuid = c.pid) := by
    intro wrong already
    refine ⟨s, handleCoordinatorFailure_of_wrong wrong, rfl, underway.congr fun q => ?_⟩
    · constructor
      · rintro (done | ⟨rfl, names⟩)
        · exact done
        · exact already names
      · exact Or.inl
  have inRest := (underway.members notice.survivor).mp alive
  cases next : rest with
  | nil =>
      rw [next] at inRest
      cases inRest
  | cons b tail =>
      rw [← next]
      have second : b.pid ≠ notice.uuid := other b (by rw [next]; rfl)
      by_cases done : handled notice.survivor
      · have list := underway.lists _ alive done
        rw [next] at list
        exact ignored (CellTree.handleFailure_of_other list _ second) fun _ => done
      · rcases underway.pending _ alive done with ⟨list, -⟩
        by_cases names : c.pid = notice.uuid
        · have readiness := ready
          rw [Ready, list, next] at readiness
          have brings : ∀ after : CellState,
              (after.Underway cellID c rest fun q => handled q ∨ q = notice.survivor) →
              after.Underway cellID c rest fun q =>
                handled q ∨ (q = notice.survivor ∧ notice.uuid = c.pid) := by
            intro after reached
            exact reached.congr fun q => or_congr_right (and_iff_left names.symm)
          by_cases first : b.pid = notice.survivor
          · have led : (s.member notice.survivor).cellTree.ChildrenLed := by
              have ready := readiness names
              rwa [if_pos first] at ready
            rcases underway.step_takesOver alive next first.symm list led notice.network with
              ⟨after, step, kept, reached⟩
            rw [← names] at brings ⊢
            exact ⟨after, step, kept, brings after reached⟩
          · have answers := readiness names
            rw [if_neg first, ← names] at answers
            rcases underway.step_joins alive next (Ne.symm first) done answers.1 answers.2 with
              ⟨after, step, kept, reached⟩
            rw [← names] at brings ⊢
            exact ⟨after, step, kept, brings after reached⟩
        · exact ignored (CellTree.handleFailure_of_other list _ names)
            fun same => absurd same.symm names

/-! ## Runs -/

/-- Ready notices are handled without a fault, and afterwards every survivor that was
told of the crash has handled it. -/
theorem Underway.notices {heard : List Notice} (underway : s.Underway cellID c rest handled)
    (survivors : ∀ notice ∈ heard, notice.survivor ∈ s.alive)
    (genuine : ∀ notice ∈ heard, ∀ next ∈ rest.head?, next.pid ≠ notice.uuid)
    (ready : s.AllReady heard) :
    ∃ after, s.notices heard = .ok after ∧ after.alive = s.alive ∧
      after.Underway cellID c rest fun q =>
        handled q ∨ ∃ notice ∈ heard, notice.survivor = q ∧ notice.uuid = c.pid := by
  induction heard generalizing s handled with
  | nil =>
      refine ⟨s, rfl, rfl, underway.congr fun q => or_iff_left ?_⟩
      rintro ⟨notice, ⟨⟩, -⟩
  | cons notice heard inductionHypothesis =>
      rcases ready with ⟨now, later⟩
      rcases underway.step (survivors notice List.mem_cons_self)
        (genuine notice List.mem_cons_self) now with ⟨middle, step, alive, between⟩
      rcases inductionHypothesis between
        (fun other member => by rw [alive]; exact survivors other (List.mem_cons_of_mem _ member))
        (fun other member => genuine other (List.mem_cons_of_mem _ member))
        (later middle step) with ⟨after, done, kept, finished⟩
      refine ⟨after, ?_, kept.trans alive, finished.congr fun q => ?_⟩
      · simp only [CellState.notices, step, bind, Except.bind]
        exact done
      · rw [or_assoc]
        apply or_congr_right
        constructor
        · rintro ⟨other, member, rfl, names⟩
          rcases List.mem_cons.mp member with rfl | inTail
          · exact Or.inl ⟨rfl, names⟩
          · exact Or.inr ⟨other, inTail, rfl, names⟩
        · rintro (⟨rfl, names⟩ | ⟨other, member, rfl, names⟩)
          · exact ⟨notice, List.mem_cons_self, rfl, names⟩
          · exact ⟨other, List.mem_cons_of_mem _ member, rfl, names⟩

/-- After a round the survivors agree on the rest of the list. -/
theorem Agreed.round {heard : List Notice} (agreed : s.Agreed cellID (c :: rest))
    (observed : Heard c rest heard) (ready : (s.crash c.pid).AllReady heard) :
    ∃ after, (s.crash c.pid).notices heard = .ok after ∧ after.Agreed cellID rest := by
  have underway := agreed.crash
  rcases underway.notices
    (fun notice member => (underway.members _).mpr (observed.survivors notice member))
    observed.genuine ready with ⟨after, done, alive, finished⟩
  refine ⟨after, done, finished.agreed ?_⟩
  intro p survives
  exact Or.inr (observed.all p ((finished.members p).mp survives))

theorem Agreed.rounds {rounds : List (UUID × List Notice)} (agreed : s.Agreed cellID common)
    (observed : Observed rounds common) (ready : s.RoundsReady rounds) :
    ∃ after, s.rounds rounds = .ok after ∧ after.Agreed cellID (common.drop rounds.length) := by
  induction rounds generalizing s common with
  | nil => exact ⟨s, rfl, agreed⟩
  | cons round later inductionHypothesis =>
      rcases round with ⟨crashed, heard⟩
      cases common with
      | nil => cases observed
      | cons c rest =>
          rcases observed with ⟨rfl, now, next⟩
          rcases ready with ⟨readyNow, readyNext⟩
          rcases agreed.round now readyNow with ⟨middle, done, between⟩
          rcases inductionHypothesis between next (readyNext middle done) with
            ⟨after, finished, agreedAfter⟩
          refine ⟨after, ?_, agreedAfter⟩
          simp only [CellState.rounds, done, bind, Except.bind]
          exact finished

/-- A notice is handled without a fault exactly where the list has somebody behind the
coordinator that it names, no child cell of a superpeer that takes over is without a
superpeer, and the next coordinator answers a superpeer that joins it. -/
theorem handleCoordinatorFailure_ok_iff {network : Network} {p uuid : UUID}
    (own : (s.member p).pid = p) :
    (∃ after, s.handleCoordinatorFailure network p uuid = .ok after) ↔
      match (s.member p).cellTree.sps with
      | [] => False
      | [c] => c.pid ≠ uuid
      | c :: b :: _ => c.pid = uuid →
          if b.pid = p then (s.member p).cellTree.ChildrenLed else s.Answers network b.pid := by
  have faults : (s.member p).cellTree.handleFailure (s.member p).pid uuid = .error .nullDereference →
      ¬∃ after, s.handleCoordinatorFailure network p uuid = .ok after := by
    rintro fault ⟨after, done⟩
    simp only [handleCoordinatorFailure, fault, bind, Except.bind] at done
    cases done
  have ignored : (s.member p).cellTree.handleFailure (s.member p).pid uuid = .ok .wrongCoordinator →
      ∃ after, s.handleCoordinatorFailure network p uuid = .ok after := by
    intro wrong
    exact ⟨s, handleCoordinatorFailure_of_wrong wrong⟩
  cases list : (s.member p).cellTree.sps with
  | nil =>
      apply iff_of_false
      · exact faults (CellTree.handleFailure_error_iff.mpr (Or.inl list))
      · exact not_false
  | cons c rest =>
      by_cases names : c.pid = uuid
      · subst names
        cases rest with
        | nil =>
            apply iff_of_false
            · exact faults (CellTree.handleFailure_error_iff.mpr (Or.inr ⟨c, list, rfl⟩))
            · exact not_not_intro rfl
        | cons b rest =>
            have outcome := CellTree.handleFailure_of_first list (s.member p).pid
            simp only [true_imp_iff]
            by_cases first : b.pid = p
            · rw [if_pos (own.trans first.symm)] at outcome
              rw [if_pos first, handleCoordinatorFailure_of_takesOver outcome,
                ← CellTree.childrenLed_removeFromRoot list,
                ← CellTree.pruneSubtrees_ok_iff (l := (s.member p).childrenGroup)]
              simp only [Result.bind_eq_ok]
              constructor
              · rintro ⟨-, pruned, done, -⟩
                exact ⟨pruned, done⟩
              · rintro ⟨pruned, done⟩
                exact ⟨_, pruned, done, rfl⟩
            · rw [if_neg (own.symm ▸ Ne.symm first)] at outcome
              rw [if_neg first, handleCoordinatorFailure_of_joins outcome,
                rebindToNewCoordinator_ok_iff, answers_set_iff first]
      · apply iff_of_true
        · exact ignored (CellTree.handleFailure_of_other list _ names)
        · cases rest with
          | nil => exact names
          | cons b rest =>
              intro same
              exact absurd same names

/-- In a run whose notices find their survivors ready, the survivors agree after every
crash.  The second part says which notices crash a runtime, in any state. -/
theorem successors_agree {rounds : List (UUID × List Notice)} (agreed : s.Agreed cellID common)
    (observed : Observed rounds common) (ready : s.RoundsReady rounds) :
    (∃ after, s.rounds rounds = .ok after ∧ after.Agreed cellID (common.drop rounds.length)) ∧
      ∀ (state : CellState) (network : Network) (p uuid : UUID), (state.member p).pid = p →
        ((∃ after, state.handleCoordinatorFailure network p uuid = .ok after) ↔
          match (state.member p).cellTree.sps with
          | [] => False
          | [c] => c.pid ≠ uuid
          | c :: b :: _ => c.pid = uuid →
              if b.pid = p then (state.member p).cellTree.ChildrenLed
              else state.Answers network b.pid) := by
  constructor
  · exact agreed.rounds observed ready
  · intro state network p uuid own
    exact handleCoordinatorFailure_ok_iff own

end

/-! ## Three superpeers -/

section Trio

/-- A superpeer of the cell 1. -/
def superpeer (pid : UUID) : P3PeerInfo :=
  .announced P3PeerInfo.SUPERPEER pid ⟨[1]⟩ none none none none

/-- Superpeers with the same tree, the first of which is the coordinator of the others. -/
def following (tree : CellTree) (pids : List UUID) : CellState where
  member p :=
    { pid := p
      cellID := ⟨[1]⟩
      cellTree := tree
      parentChannel := none
      coordinator := decide (pids.head? = some p)
      parentCellID := none
      client := if pids.head? = some p then none else pids.head?
      connectTo := if pids.head? = some p then none else pids.head?
      childrenGroup := []
      endpoint := none
      discoverySAP := none
      meshSAP := none
      ftSAP := none }
  alive := pids

theorem agreed_following {tree : CellTree} {pids : List UUID} (distinct : pids.Nodup)
    (root : tree.getRootCellID = ⟨[1]⟩) (list : tree.sps = pids.map superpeer) :
    (following tree pids).Agreed ⟨[1]⟩ (pids.map superpeer) := by
  have names : ((pids.map superpeer).map fun info => info.pid) = pids := by
    rw [List.map_map]
    exact List.map_id pids
  have first : (pids.map superpeer).head?.map (fun info => info.pid) = pids.head? := by
    rw [← List.head?_map, names]
  constructor
  · rw [names]
    exact distinct
  · intro p
    rw [names]
    rfl
  · exact fun p _ => rfl
  · exact fun p _ => rfl
  · exact fun p _ => root
  · exact fun p _ => list
  · intro p _
    rw [first]
    exact decide_eq_true_iff
  · intro p _ head isHead other
    have leads : pids.head? = some head.pid := by
      rw [← first, Option.mem_def.mp isHead]
      rfl
    have follows : pids.head? ≠ some p := by
      rw [leads]
      exact fun same => other (Option.some.inj same).symm
    exact (if_neg follows).trans leads

/-- Cells of at most four superpeers. -/
def fourEach : P3Configuration :=
  { defaults with CELL_SPS := fun _ => some 4 }

/-- A tree of the cell 1 with superpeers. -/
def treeOf (tree : CellTree) (pids : List UUID) : CellTree :=
  pids.foldl (fun tree pid => (tree.addPeer (superpeer pid)).1) tree

def trioTree : CellTree :=
  treeOf (CellTree.new fourEach ⟨[1]⟩) [⟨[11]⟩, ⟨[12]⟩, ⟨[13]⟩]

def trio : CellState :=
  following trioTree [⟨[11]⟩, ⟨[12]⟩, ⟨[13]⟩]

/-- A network in which every connection is made and every answer comes. -/
def upNetwork : Network :=
  { connected := true
    answered := true
    open_ := true
    base := 0
    parentCellID := none }

/-- What a superpeer hears when the first one fails. -/
def hears (survivor : UUID) : Notice :=
  { survivor
    uuid := ⟨[11]⟩
    network := upNetwork }

theorem agreed_trio : trio.Agreed ⟨[1]⟩ ([⟨[11]⟩, ⟨[12]⟩, ⟨[13]⟩].map superpeer) :=
  agreed_following (by decide) (by decide) (by decide)

/-- The first of the trio fails, and both others hear of it. -/
theorem observed_trio {heard : List Notice}
    (both : heard.Perm [hears ⟨[12]⟩, hears ⟨[13]⟩]) :
    Observed [(⟨[11]⟩, heard)] ([⟨[11]⟩, ⟨[12]⟩, ⟨[13]⟩].map superpeer) := by
  refine ⟨rfl, ⟨?_, ?_, ?_⟩, trivial⟩
  · intro notice member
    rcases List.mem_pair.mp (both.mem_iff.mp member) with rfl | rfl
    · decide
    · decide
  · intro p member
    rcases List.mem_pair.mp member with rfl | rfl
    · exact ⟨hears ⟨[12]⟩, both.mem_iff.mpr List.mem_cons_self, rfl, rfl⟩
    · exact ⟨hears ⟨[13]⟩, both.mem_iff.mpr (List.mem_cons_of_mem _ List.mem_cons_self), rfl, rfl⟩
  · rintro notice member next ⟨⟩
    rcases List.mem_pair.mp (both.mem_iff.mp member) with rfl | rfl
    · decide
    · decide

/-- The crash of the second superpeer, after that of the first. -/
def lastRound : UUID × List Notice :=
  (⟨[12]⟩, [{ survivor := ⟨[13]⟩, uuid := ⟨[12]⟩, network := upNetwork }])

/-- The second superpeer takes over before the third joins it, and the third when the second
crashes, too. -/
theorem successors_agree_trio :
    ∃ after, trio.rounds [(⟨[11]⟩, [hears ⟨[12]⟩, hears ⟨[13]⟩]), lastRound] = .ok after ∧
      after.Agreed ⟨[1]⟩ ([⟨[13]⟩].map superpeer) := by
  have leaf : ∀ child, some child ∈ trioTree.rootNode.slots → False := by
    intro child member
    have empty : some child ∈ [none, none] := member
    simp at empty
  have ready : trio.RoundsReady [(⟨[11]⟩, [hears ⟨[12]⟩, hears ⟨[13]⟩]), lastRound] := by
    constructor
    · constructor
      · rintro - child member
        exact (leaf child member).elim
      · rintro between done
        have takes : (trio.crash ⟨[11]⟩).handleCoordinatorFailure upNetwork ⟨[12]⟩ ⟨[11]⟩ =
            .ok _ := rfl
        cases takes.symm.trans done
        constructor
        · rintro -
          exact ⟨⟨rfl, by decide, by decide, rfl, rfl⟩, by rintro first ⟨⟩; decide⟩
        · intro last _
          trivial
    · intro middle done
      have agrees : (trio.crash ⟨[11]⟩).notices [hears ⟨[12]⟩, hears ⟨[13]⟩] = .ok _ := rfl
      cases agrees.symm.trans done
      constructor
      · constructor
        · rintro - child member
          have empty : some child ∈ [none, none] := member
          simp at empty
        · intro last _
          trivial
      · intro last _
        trivial
  apply (successors_agree agreed_trio _ ready).1
  rcases observed_trio (List.Perm.refl _) with ⟨same, heard, -⟩
  refine ⟨same, heard, rfl, ⟨?_, ?_, ?_⟩, trivial⟩
  · intro notice member
    rw [List.mem_singleton.mp member]
    decide
  · intro p member
    rw [List.mem_singleton.mp member]
    exact ⟨_, List.mem_cons_self, rfl, rfl⟩
  · rintro notice member next ⟨⟩
    rw [List.mem_singleton.mp member]
    decide

/-- The root cell 1 with the empty cell 2 below it, as a request for a cell makes it,
before two superpeers joined. -/
def heirTree : CellTree :=
  treeOf ((CellTree.new defaults ⟨[1]⟩).createSiblingAt defaults [] ⟨[2]⟩).1 [⟨[11]⟩, ⟨[12]⟩]

def heirs : CellState :=
  following heirTree [⟨[11]⟩, ⟨[12]⟩]

/-- The third superpeer joins the second before that has heard of the failure, and
keeps the failed one in its list; a superpeer that takes over crashes at a child
cell that nobody has joined; and one that is not answered throws. -/
theorem exists_successors_disagree :
    (trio.Agreed ⟨[1]⟩ ([⟨[11]⟩, ⟨[12]⟩, ⟨[13]⟩].map superpeer) ∧
      Observed [(⟨[11]⟩, [hears ⟨[13]⟩, hears ⟨[12]⟩])]
        ([⟨[11]⟩, ⟨[12]⟩, ⟨[13]⟩].map superpeer) ∧
      ∃ after, trio.rounds [(⟨[11]⟩, [hears ⟨[13]⟩, hears ⟨[12]⟩])] = .ok after ∧
        (after.member ⟨[12]⟩).cellTree.sps = [⟨[12]⟩, ⟨[13]⟩].map superpeer ∧
        (after.member ⟨[13]⟩).cellTree.sps = [⟨[11]⟩, ⟨[12]⟩, ⟨[13]⟩].map superpeer) ∧
    (heirs.Agreed ⟨[1]⟩ ([⟨[11]⟩, ⟨[12]⟩].map superpeer) ∧
      Observed [(⟨[11]⟩, [hears ⟨[12]⟩])] ([⟨[11]⟩, ⟨[12]⟩].map superpeer) ∧
      heirs.rounds [(⟨[11]⟩, [hears ⟨[12]⟩])] = .error .nullDereference) ∧
    (trio.crash ⟨[11]⟩).notices [hears ⟨[12]⟩,
      { survivor := ⟨[13]⟩, uuid := ⟨[11]⟩, network := { upNetwork with answered := false } }] =
        .error .uncaughtException := by
  constructor
  · constructor
    · exact agreed_trio
    constructor
    · exact observed_trio (List.Perm.swap _ _ _)
    · exact ⟨_, rfl, by decide, by decide⟩
  constructor
  · constructor
    · exact agreed_following (by decide) (by decide) (by decide)
    constructor
    · refine ⟨rfl, ⟨?_, ?_, ?_⟩, trivial⟩
      · intro notice member
        rw [List.mem_singleton.mp member]
        decide
      · intro p member
        rw [List.mem_singleton.mp member]
        exact ⟨hears ⟨[12]⟩, List.mem_cons_self, rfl, rfl⟩
      · rintro notice member next ⟨⟩
        rw [List.mem_singleton.mp member]
        decide
    · rfl
  · rfl

end Trio

end CellState

end Stheno.Superpeer
