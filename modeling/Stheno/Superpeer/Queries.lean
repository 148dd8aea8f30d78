import Stheno.Superpeer.Shape
import Stheno.Tree.Walk

/-!
# Queries on the cell tree

`getPoL` walks the tree with a stack of slot numbers and climbs by parent
pointers; on a tree whose pointers are right it is a fold over the peers in
preorder.  The other queries are recursions, which pointers do not enter.
-/

namespace Stheno.Superpeer

open Stheno.Tree Peer

namespace CellTree

/-! ## The least loaded superpeer -/

/-- The running minimum of `getPoL` and the peer that it belongs to. -/
structure Least where
  min : Int
  peer : Option P3PeerInfo

/-- `int load = getTotalServicesRunning()`, from an unsigned 32-bit count. -/
def load (peer : P3PeerInfo) : Int :=
  (peer.getTotalServicesRunning.toNat : Int).bmod (2 ^ 32)

/-- The entry of the filter is the receiver of the comparison, so an entry that is shorter than
the identifier only has to be a prefix of it. -/
def isUUIDInList (uuid : UUID) : List UUID → Result Bool
  | [] => .ok false
  | other :: filter => do
      let equal ← other.isEqual uuid
      if equal then pure true else isUUIDInList uuid filter

/-- One round of the inner loop; a later peer with the same load replaces an earlier one. -/
def consider (filter : List UUID) (least : Least) (peer : P3PeerInfo) : Result Least := do
  let filtered ← isUUIDInList peer.pid filter
  if filtered then
    pure least
  else if load peer ≠ -1 ∧ load peer ≤ least.min then
    pure { min := load peer, peer := some peer }
  else
    pure least

/-- The inner loop over the superpeers of a node. -/
def evaluate (filter : List UUID) (least : Least) (info : CellInfo) : Result Least :=
  (info.getPeersByType P3PeerInfo.SUPERPEER_COORD).foldlM (consider filter) least

/-- The variables of the loop of `getPoL`. -/
structure Walk where
  node : Option Path
  index : Nat
  stack : List Nat
  least : Least

/-- The first slot from `index` on that holds a child. -/
def nextSibling (node : CellTreeNode) (index : Nat) : Option Nat :=
  ((node.slots.drop index).findIdx? Option.isSome).map fun skipped => index + skipped

/-- A node is evaluated when it is entered from above. -/
def enter (filter : List UUID) (walk : Walk) (node : CellTreeNode) : Result Least :=
  if walk.index = 0 then evaluate filter walk.least node.label else pure walk.least

/-- One round of the loop of `getPoL` at the node at `path`. -/
def walkStep (this : CellTree) (filter : List UUID) (walk : Walk) (path : Path) : Result Walk :=
  match this.rootNode.at? path with
  | none => .error .nullDereference
  | some node => do
      let least ← enter filter walk node
      match nextSibling node walk.index with
      | some i => pure { node := some (path ++ [i]), index := 0, stack := i :: walk.stack, least }
      | none =>
          match node.label.parent with
          | none => pure { walk with node := none, least }
          | some addr =>
              match this.deref addr, walk.stack with
              | some parent, i :: stack => pure { node := some parent, index := i + 1, stack, least }
              | _, _ => .error .outOfBounds

/-- The loop of `getPoL`, for at most `fuel` rounds. -/
def walkLoop (this : CellTree) (filter : List UUID) : Nat → Walk → Result Least
  | fuel, walk =>
      match walk.node with
      | none => .ok walk.least
      | some path =>
          match fuel with
          | 0 => .error .outOfFuel
          | fuel + 1 => do
              let next ← walkStep this filter walk path
              walkLoop this filter fuel next

/-- `getPoL(peer, filter)`: every node is entered once and left once. -/
def getPoL (this : CellTree) (peer : Option P3PeerInfo) (filter : List UUID) :
    Result (Option P3PeerInfo) := do
  let least ← walkLoop this filter (2 * this.rootNode.nodes.length)
    { node := some [], index := 0, stack := [], least := { min := 2 ^ 31 - 1, peer } }
  pure least.peer

/-! ## Peers and coordinators -/

/-- The first of some peers that is equal to an identifier; the peer is the receiver of the
comparison. -/
def firstEqual (pid : UUID) : List P3PeerInfo → Result (Option P3PeerInfo)
  | [] => pure none
  | info :: rest => do
      let equal ← info.pid.isEqual pid
      if equal then pure (some info) else firstEqual pid rest

/-- `getPeer` for an identifier of any length, which is compared with the peers node by node in
preorder. -/
def findPeer (this : CellTree) (pid : UUID) : Result (Option P3PeerInfo) :=
  firstEqual pid (this.rootNode.labels.flatMap CellInfo.allPeers)

/-- `getPeer` for an identifier that is as long as those of the peers. -/
def getPeer (this : CellTree) (pid : UUID) : Option P3PeerInfo :=
  this.rootNode.labels.findSome? fun info => info.getPeer pid

theorem firstEqual_of_length_eq {pid : UUID} {peers : List P3PeerInfo}
    (sameLength : ∀ info ∈ peers, info.pid.key.length = pid.key.length) :
    firstEqual pid peers = .ok (peers.find? fun info => info.pid.sameKey pid) := by
  induction peers with
  | nil => rfl
  | cons info rest inductionHypothesis =>
      rcases List.forall_mem_cons.mp sameLength with ⟨here, after⟩
      rw [firstEqual, UUID.isEqual_of_length_eq here, List.find?_cons]
      cases info.pid.sameKey pid with
      | true => rfl
      | false => exact inductionHypothesis after

/-- Peers that are as long as the identifier are compared with all of it. -/
theorem findPeer_of_length_eq {t : CellTree} {pid : UUID}
    (sameLength : ∀ info ∈ t.rootNode.labels.flatMap CellInfo.allPeers,
      info.pid.key.length = pid.key.length) :
    t.findPeer pid = .ok (t.getPeer pid) := by
  rw [findPeer, firstEqual_of_length_eq sameLength, getPeer, List.find?_flatMap]
  rfl

/-- The access point of the first instance under two identifiers, among the superpeers in
preorder.  The maps compare the texts of their keys, so that any identifier can be looked up. -/
def getPeerByIID (this : CellTree) (sid iid : UUID) : Option (Option SAPInfo) :=
  (this.rootNode.labels.flatMap CellInfo.sps).findSome? fun info =>
    ((info.services.find sid).bind fun service => service.runningServices.find iid).map
      ServiceInstanceInfo.sapInfo

/-- The superpeer at a random position among those of the tree in preorder. -/
def getRandomPeer (this : CellTree) (rand : Nat) : Option P3PeerInfo :=
  let l := this.rootNode.labels.flatMap CellInfo.sps
  if l.length = 0 then none else l[rand % l.length]?

/-- The coordinators of all cells in preorder, null for a cell without one. -/
def getCoordinators (this : CellTree) : List (Option P3PeerInfo) :=
  this.rootNode.labels.map CellInfo.getCoordinator

/-! ## Nodes with room -/

/-- The first node in preorder with room for a superpeer. -/
def getAvailableNodeForSPI (node : CellTreeNode) (type : UInt32) : Option Path :=
  node.findPath fun info => info.hasAvailableSlotsForPeer type

mutual

/-- The deepest node with room, the first among equally deep ones; a node
answers only when nothing below it does. -/
def getAvailableNodeForSensorI (type : UInt32) : CellTreeNode → Option (Path × Int)
  | .node info slots =>
      match getAvailableNodeForSensorOfSlots type 0 none (-1) slots with
      | some cur => some cur
      | none => if info.hasAvailableSlotsForPeer type then some ([], info.depth) else none

/-- The loop over the children from slot `i` on. -/
def getAvailableNodeForSensorOfSlots (type : UInt32) (i : Nat) (cur : Option (Path × Int))
    (maxDepth : Int) : List (Option CellTreeNode) → Option (Path × Int)
  | [] => cur
  | none :: slots => getAvailableNodeForSensorOfSlots type (i + 1) cur maxDepth slots
  | some c :: slots =>
      match getAvailableNodeForSensorI type c with
      | some ret =>
          if ret.2 > maxDepth then
            getAvailableNodeForSensorOfSlots type (i + 1) (some (i :: ret.1, ret.2)) ret.2 slots
          else
            getAvailableNodeForSensorOfSlots type (i + 1) cur maxDepth slots
      | none => getAvailableNodeForSensorOfSlots type (i + 1) cur maxDepth slots

end

def getAvailableNode (this : CellTree) (type : UInt32) : Option Path :=
  if type = P3PeerInfo.SUPERPEER ∨ type = P3PeerInfo.SUPERPEER_COORD then
    getAvailableNodeForSPI this.rootNode type
  else if type = P3PeerInfo.SENSOR then
    (getAvailableNodeForSensorI type this.rootNode).map Prod.fst
  else if type = P3PeerInfo.MONITOR then
    some []
  else
    none

end CellTree

/-! ## The walk as a fold -/

/-- The part of the representation invariant that does not mention depths. -/
structure PointerInv (t : CellTree) : Prop where
  linked : t.rootNode.AllEdges fun holder (i : Nat) child =>
    child.parent = some holder.addr ∧ child.spanNo = (i : Int)
  unshared : t.addrs.Nodup
  rootParent : t.rootNode.label.parent = none

theorem RepInv.pointerInv {t : CellTree} (inv : RepInv t) : PointerInv t where
  linked := inv.linked.mono fun _ _ _ edge => ⟨edge.parent, edge.spanNo⟩
  unshared := inv.unshared
  rootParent := inv.rootParent

theorem PointerInv.climbable {t : CellTree} (inv : PointerInv t) :
    SlotTree.Climbable CellInfo.addr CellInfo.parent t.rootNode where
  edges := inv.linked.mono fun _ _ _ edge => edge.1
  unshared := inv.unshared
  root := inv.rootParent

namespace CellTree

/-- The labels that a round at the node at `path` evaluates. -/
def examined (this : CellTree) (walk : Walk) (path : Path) : List CellInfo :=
  if walk.index = 0 then ((this.rootNode.at? path).map SlotTree.label).toList else []

/-- The loop of `getPoL`, with the labels that it has evaluated so far. -/
def watchLoop (this : CellTree) (filter : List UUID) :
    Nat → Walk → List CellInfo → Result (List CellInfo × Least)
  | fuel, walk, seen =>
      match walk.node with
      | none => .ok (seen, walk.least)
      | some path =>
          match fuel with
          | 0 => .error .outOfFuel
          | fuel + 1 => do
              let next ← walkStep this filter walk path
              watchLoop this filter fuel next (seen ++ this.examined walk path)

/-- What `getPoL` evaluates until it ends, and the answer. -/
def watchPoL (this : CellTree) (peer : Option P3PeerInfo) (filter : List UUID) :
    Result (List CellInfo × Option P3PeerInfo) := do
  let watched ← watchLoop this filter (2 * this.rootNode.nodes.length)
    { node := some [], index := 0, stack := [], least := { min := 2 ^ 31 - 1, peer } } []
  pure (watched.1, watched.2.peer)

theorem watchLoop_map_snd (t : CellTree) (filter : List UUID) (fuel : Nat) (walk : Walk)
    (seen : List CellInfo) :
    (watchLoop t filter fuel walk seen).map Prod.snd = walkLoop t filter fuel walk := by
  induction fuel generalizing walk seen with
  | zero =>
      rcases walk with ⟨node, index, stack, least⟩
      cases node with
      | none => rfl
      | some path => rfl
  | succ fuel inductionHypothesis =>
      rcases walk with ⟨node, index, stack, least⟩
      cases node with
      | none => rfl
      | some path =>
          rw [watchLoop, walkLoop]
          dsimp only
          cases walkStep t filter ⟨some path, index, stack, least⟩ path with
          | error fault => rfl
          | ok next => exact inductionHypothesis next _

theorem watchPoL_map_snd (t : CellTree) (peer : Option P3PeerInfo) (filter : List UUID) :
    (t.watchPoL peer filter).map Prod.snd = t.getPoL peer filter := by
  rw [watchPoL, getPoL, ← watchLoop_map_snd _ _ _ _ []]
  cases watchLoop t filter (2 * t.rootNode.nodes.length) _ [] with
  | error fault => rfl
  | ok watched => rfl

/-- The variables as those of a walk through a slotted tree, with a value of its own. -/
def Walk.toTree {β : Type} (walk : Walk) (value : β) : SlotTree.Walk β where
  node := walk.node
  index := walk.index
  stack := walk.stack
  value

/-- A visitor that keeps the labels and evaluates them, as long as that succeeds. -/
def record (filter : List UUID) (watched : Result (List CellInfo × Least)) (info : CellInfo) :
    Result (List CellInfo × Least) := do
  let watched ← watched
  let least ← evaluate filter watched.2 info
  pure (watched.1 ++ [info], least)

theorem foldl_record_error (filter : List UUID) (fault : Fault) (labels : List CellInfo) :
    labels.foldl (record filter) (.error fault) = .error fault := by
  induction labels with
  | nil => rfl
  | cons info labels inductionHypothesis => exact inductionHypothesis

theorem foldl_record (filter : List UUID) (seen : List CellInfo) (least : Least)
    (labels : List CellInfo) :
    labels.foldl (record filter) (.ok (seen, least)) =
      (labels.foldlM (evaluate filter) least).map fun least => (seen ++ labels, least) := by
  induction labels generalizing seen least with
  | nil =>
      rw [List.foldl_nil, List.append_nil]
      rfl
  | cons info labels inductionHypothesis =>
      rw [List.foldl_cons, List.foldlM_cons]
      change labels.foldl (record filter) (evaluate filter least info >>= _) = _
      cases evaluate filter least info with
      | error fault => exact foldl_record_error filter fault labels
      | ok evaluated =>
          have later := inductionHypothesis (seen ++ [info]) evaluated
          rw [List.append_assoc] at later
          exact later

/-- The value of a round: what was recorded, or the failure of its evaluation. -/
theorem entered_record {t : CellTree} {n : CellTreeNode} {path : Path} (filter : List UUID)
    (walk : Walk) (seen : List CellInfo) (found : t.rootNode.at? path = some n) :
    SlotTree.entered (record filter) n walk.index (.ok (seen, walk.least)) =
      (enter filter walk n).map fun least => (seen ++ t.examined walk path, least) := by
  rw [SlotTree.entered, enter, examined, found]
  by_cases first : walk.index = 0
  · simp only [if_pos first]
    change (evaluate filter walk.least n.label >>= _) = _
    cases evaluate filter walk.least n.label with
    | error fault => rfl
    | ok least => rfl
  · simp only [if_neg first]
    exact congrArg Except.ok (by simp)

/-- Where the evaluation succeeds, both go the same way: down, to an end, or up. -/
theorem walkStep_record_of_entered {t : CellTree} {filter : List UUID} {walk : Walk} {path : Path}
    {n : CellTreeNode} {seen : List CellInfo} {least : Least}
    {next : SlotTree.Walk (Result (List CellInfo × Least))}
    (found : t.rootNode.at? path = some n) (entered : enter filter walk n = .ok least)
    (stepped : SlotTree.walkStep CellInfo.addr CellInfo.parent (record filter) t.rootNode
      (walk.toTree (.ok (seen, walk.least))) path = some next) :
    ∃ after, walkStep t filter walk path = .ok after ∧
      next = after.toTree (.ok (seen ++ t.examined walk path, after.least)) := by
  have value := entered_record filter walk seen found
  have sibling : n.nextChild walk.index = nextSibling n walk.index := rfl
  rw [entered] at value
  simp only [SlotTree.walkStep, found, Walk.toTree, value, sibling] at stepped
  simp only [walkStep, found, entered, bind, Except.bind]
  cases child : nextSibling n walk.index with
  | some i =>
      rw [child] at stepped
      cases stepped
      exact ⟨_, rfl, rfl⟩
  | none =>
      rw [child] at stepped
      dsimp only at stepped ⊢
      cases up : n.label.parent with
      | none =>
          rw [up] at stepped
          cases stepped
          exact ⟨_, rfl, rfl⟩
      | some addr =>
          have back : (t.rootNode.findPath fun label => label.addr = addr) = t.deref addr := rfl
          rw [up] at stepped
          dsimp only at stepped ⊢
          rw [back] at stepped
          cases above : t.deref addr with
          | none =>
              rw [above] at stepped
              cases stepped
          | some parent =>
              rw [above] at stepped
              cases held : walk.stack with
              | nil =>
                  rw [held] at stepped
                  cases stepped
              | cons i stack =>
                  rw [held] at stepped
                  cases stepped
                  exact ⟨_, rfl, rfl⟩

/-- A round of the walk that records is a round of the loop, unless its evaluation fails. -/
theorem walkStep_record {t : CellTree} {filter : List UUID} {walk : Walk} {path : Path}
    {seen : List CellInfo} {next : SlotTree.Walk (Result (List CellInfo × Least))}
    (stepped : SlotTree.walkStep CellInfo.addr CellInfo.parent (record filter) t.rootNode
      (walk.toTree (.ok (seen, walk.least))) path = some next) :
    (∃ fault, walkStep t filter walk path = .error fault ∧ next.value = .error fault) ∨
    ∃ after, walkStep t filter walk path = .ok after ∧
      next = after.toTree (.ok (seen ++ t.examined walk path, after.least)) := by
  rcases SlotTree.value_of_walkStep stepped with ⟨n, found, value⟩
  cases entered : enter filter walk n with
  | ok least => exact Or.inr (walkStep_record_of_entered found entered stepped)
  | error fault =>
      left
      refine ⟨fault, ?_, ?_⟩
      · simp only [walkStep, found, entered]
        rfl
      · have evaluated := entered_record filter walk seen found
        rw [entered] at evaluated
        exact value.trans evaluated

/-- Where the walk through the tree comes to an end, the loop ends with what it recorded: a round
that fails stops the loop, and the walk keeps the failure. -/
theorem watchLoop_eq {t : CellTree} {filter : List UUID} {fuel : Nat} {walk : Walk}
    {seen : List CellInfo} {result : Result (List CellInfo × Least)}
    (walked : SlotTree.walkLoop CellInfo.addr CellInfo.parent (record filter) t.rootNode fuel
      (walk.toTree (.ok (seen, walk.least))) = some result) :
    watchLoop t filter fuel walk seen = result := by
  induction fuel generalizing walk seen with
  | zero =>
      rcases walk with ⟨node, index, stack, least⟩
      cases node with
      | none =>
          cases walked
          rfl
      | some path => cases walked
  | succ fuel inductionHypothesis =>
      rcases walk with ⟨node, index, stack, least⟩
      cases node with
      | none =>
          cases walked
          rfl
      | some path =>
          rw [SlotTree.walkLoop] at walked
          rw [watchLoop]
          rcases Option.bind_eq_some_iff.mp walked with ⟨next, stepped, walked⟩
          rcases walkStep_record stepped with ⟨fault, failed, value⟩ | ⟨after, done, rfl⟩
          · have kept : ∀ label, record filter next.value label = next.value := by
              intro label
              rw [value]
              rfl
            rw [SlotTree.value_of_walkLoop kept walked, value]
            dsimp only
            rw [failed]
            rfl
          · have later := inductionHypothesis walked
            dsimp only
            rw [done]
            exact later

/-- The loop evaluates every node once, in preorder, and ends unless an evaluation fails. -/
theorem watchPoL_eq {t : CellTree} (inv : PointerInv t) (peer : Option P3PeerInfo)
    (filter : List UUID) :
    t.watchPoL peer filter =
      (t.rootNode.labels.foldlM (evaluate filter) { min := 2 ^ 31 - 1, peer }).map
        fun least => (t.rootNode.labels, least.peer) := by
  have walked : SlotTree.walkLoop CellInfo.addr CellInfo.parent (record filter) t.rootNode
      (2 * t.rootNode.nodes.length)
      { node := some [], index := 0, stack := [], value := .ok ([], { min := 2 ^ 31 - 1, peer }) } =
        some _ :=
    SlotTree.walkLoop_eq inv.climbable _
  rw [foldl_record] at walked
  rw [watchPoL, watchLoop_eq walked]
  cases t.rootNode.labels.foldlM (evaluate filter) { min := 2 ^ 31 - 1, peer } with
  | error fault => rfl
  | ok least => rfl

/-- `getPoL` folds over the nodes in preorder. -/
theorem getPoL_eq {t : CellTree} (inv : PointerInv t) (peer : Option P3PeerInfo)
    (filter : List UUID) :
    t.getPoL peer filter =
      (t.rootNode.labels.foldlM (evaluate filter) { min := 2 ^ 31 - 1, peer }).map Least.peer := by
  rw [← watchPoL_map_snd, watchPoL_eq inv]
  cases t.rootNode.labels.foldlM (evaluate filter) { min := 2 ^ 31 - 1, peer } with
  | error fault => rfl
  | ok least => rfl

end CellTree

end Stheno.Superpeer
