import Stheno.Superpeer.Queries
import Stheno.Superpeer.Growth

/-!
# Nodes with room

The two searches for a node that can take a peer agree with the test that `add` makes:
they answer with a node whose list has room whenever there is one, the first in preorder
for superpeers and the first of the deepest for sensors, and the peer can be added there.
-/

namespace Stheno.Superpeer

open Stheno.Tree Peer

namespace CellInfo

/-- The capacity of a list as it is compared with the size of the list, which is unsigned:
a negative maximum is no limit. -/
def capacity (this : CellInfo) (list : PeerList) : Nat :=
  (this.max list % 2 ^ 64).toNat

/-- The list is not full. -/
def HasRoom (this : CellInfo) (list : PeerList) : Prop :=
  (this.peers list).length < this.capacity list

theorem isFull_eq_false_iff {info : CellInfo} {list : PeerList} :
    info.isFull list = false ↔ info.HasRoom list := by
  rw [isFull, decide_eq_false_iff_not, Nat.not_le]
  rfl

theorem hasAvailableSlotsForPeer_iff {info : CellInfo} {type : UInt32} {list : PeerList}
    (ofType : PeerList.ofType type = some list) :
    info.hasAvailableSlotsForPeer type = true ↔ info.HasRoom list := by
  rw [hasAvailableSlotsForPeer, ofType, ← isFull_eq_false_iff]
  dsimp only
  rw [Bool.not_eq_true']

theorem capacity_le_max {info : CellInfo} {list : PeerList} (limited : 0 ≤ info.max list) :
    (info.capacity list : Int) ≤ info.max list := by
  have divided := Int.emod_add_mul_ediv (info.max list) (2 ^ 64)
  have positive := Int.ediv_nonneg limited (by decide : (0 : Int) ≤ 2 ^ 64)
  rw [capacity, Int.toNat_of_nonneg (Int.emod_nonneg _ (by decide))]
  omega

end CellInfo

namespace CellTree

/-! ## The search for the deepest node -/

/-- The loop of `getAvailableNodeForSensor_i` from slot `i` on; `maxDepth` is the depth of
the node that it holds. -/
theorem answers_getAvailableNodeForSensorOfSlots {type : UInt32} {list : PeerList}
    {t : CellTreeNode} (above : 0 ≤ t.label.depth)
    (each : ∀ i c, t.child i = some c →
      SlotTree.Answers (· > ·) (SlotTree.Passes (fun n => n.label.HasRoom list) c)
        (t.label.depth + 1) (getAvailableNodeForSensorI type c))
    {rest : List (Option CellTreeNode)} {i : Nat} (split : t.slots.drop i = rest)
    {cur : Option (Path × Int)} {maxDepth : Int}
    (answers : SlotTree.Answers (· > ·)
      (SlotTree.PassesBefore (fun n => n.label.HasRoom list) t i) t.label.depth cur)
    (depth : maxDepth = (cur.map Prod.snd).getD (-1)) :
    SlotTree.Answers (· > ·)
      (SlotTree.PassesBefore (fun n => n.label.HasRoom list) t (i + rest.length)) t.label.depth
      (getAvailableNodeForSensorOfSlots type i cur maxDepth rest) := by
  induction rest generalizing i cur maxDepth with
  | nil => exact answers
  | cons slot rest inductionHypothesis =>
      rcases SlotTree.getElem?_of_drop split with ⟨here, next⟩
      rw [List.length_cons, Nat.add_comm rest.length 1, ← Nat.add_assoc]
      cases slot with
      | none =>
          have empty : t.child i = none := by
            rw [SlotTree.child, here]
            rfl
          rw [getAvailableNodeForSensorOfSlots]
          exact inductionHypothesis next (answers.skip (SlotTree.nothing_of_empty empty)) depth
      | some c =>
          have held : t.child i = some c := SlotTree.child_eq_some_iff.mpr here
          have below := each i c held
          rw [getAvailableNodeForSensorOfSlots]
          cases answer : getAvailableNodeForSensorI type c with
          | none =>
              rw [answer] at below
              exact inductionHypothesis next
                (answers.skip (SlotTree.nothing_of_none held below)) depth
          | some ret =>
              rw [answer] at below
              have depthRet := below.1
              dsimp only
              by_cases deeper : ret.2 > maxDepth
              · rw [if_pos deeper]
                apply inductionHypothesis next _ rfl
                apply answers.take SlotTree.preference_gt held below
                rintro old rfl
                have depthOld := answers.1
                rw [Option.map_some, Option.getD_some] at depth
                omega
              · rw [if_neg deeper]
                apply inductionHypothesis next _ depth
                cases cur with
                | none =>
                    rw [Option.map_none, Option.getD_none] at depth
                    omega
                | some cur =>
                    have depthCur := answers.1
                    rw [Option.map_some, Option.getD_some] at depth
                    apply answers.keep SlotTree.preference_gt held below
                    omega

/-- `getAvailableNodeForSensor_i` answers with the first of the deepest nodes with room. -/
theorem answers_getAvailableNodeForSensorI {type : UInt32} {list : PeerList}
    (ofType : PeerList.ofType type = some list) {t : CellTreeNode} (edges : t.AllEdges Deeper)
    (above : 0 ≤ t.label.depth) :
    SlotTree.Answers (· > ·) (SlotTree.Passes (fun n => n.label.HasRoom list) t) t.label.depth
      (getAvailableNodeForSensorI type t) := by
  induction t using SlotTree.induction with
  | node info slots inductionHypothesis =>
      have each : ∀ i c, (SlotTree.node info slots).child i = some c →
          SlotTree.Answers (· > ·) (SlotTree.Passes (fun n => n.label.HasRoom list) c)
            ((SlotTree.node info slots).label.depth + 1) (getAvailableNodeForSensorI type c) := by
        intro i c held
        have edge : c.label.depth = (SlotTree.node info slots).label.depth + 1 :=
          edges _ (SlotTree.mem_nodes_self _) i c held
        rw [← edge]
        apply inductionHypothesis c (SlotTree.mem_slots_of_child held) (edges.child held)
        omega
      have answers := @answers_getAvailableNodeForSensorOfSlots type list (.node info slots) above
        each slots 0 rfl none (-1) (fun path => SlotTree.not_passesBefore_zero) rfl
      rw [Nat.zero_add] at answers
      rw [getAvailableNodeForSensorI]
      cases looped : getAvailableNodeForSensorOfSlots type 0 none (-1) slots with
      | some cur =>
          rw [looped] at answers
          refine ⟨answers.1, SlotTree.passes_iff.mpr (Or.inr answers.2.here), ?_⟩
          intro other passes
          rcases SlotTree.passes_iff.mp passes with ⟨rfl, -⟩ | below
          · -- the answer of the loop lies below the node
            rcases answers.2.here with ⟨j, rest, equal, -⟩
            rw [equal]
            exact Or.inl (Nat.succ_pos _)
          · exact answers.2.first other below
      | none =>
          rw [looped] at answers
          dsimp only
          by_cases room : info.hasAvailableSlotsForPeer type = true
          · rw [if_pos room]
            have hasRoom := (CellInfo.hasAvailableSlotsForPeer_iff ofType).mp room
            refine ⟨by simp, SlotTree.passes_nil_iff.mpr hasRoom, ?_⟩
            intro other passes
            rcases SlotTree.passes_iff.mp passes with ⟨rfl, -⟩ | below
            · exact Or.inr ⟨rfl, SlotTree.not_leftOf_nil []⟩
            · exact absurd below (answers other)
          · rw [if_neg room]
            intro path passes
            rcases SlotTree.passes_iff.mp passes with ⟨-, hasRoom⟩ | below
            · exact room ((CellInfo.hasAvailableSlotsForPeer_iff ofType).mpr hasRoom)
            · exact answers path below

/-! ## What the searches promise -/

/-- The first of the deepest nodes. -/
def DeepestFirst (path : Path) (n : CellTreeNode) (other : Path) (m : CellTreeNode) : Prop :=
  m.label.depth < n.label.depth ∨
    m.label.depth = n.label.depth ∧ ¬SlotTree.LeftOf other path

/-- The first node in preorder. -/
def PreorderFirst (path : Path) (_ : CellTreeNode) (other : Path) (_ : CellTreeNode) : Prop :=
  ¬SlotTree.LeftOf other path

/-- A node takes a peer of a list that it does not have yet, and stays within its capacity. -/
def Takes (t : CellTree) (list : PeerList) (path : Path) (n : CellTreeNode) : Prop :=
  ∀ peer : P3PeerInfo, PeerList.ofType peer.type = some list →
    (∀ temp ∈ n.label.peers list, temp.pid ≠ peer.pid) →
    ∃ info, t.addAt path peer = (t.modify path (SlotTree.mapLabel fun _ => info), 0) ∧
      info.peers list = n.label.peers list ++ [peer] ∧
      (info.peers list).length ≤ n.label.capacity list ∧
      (0 ≤ n.label.max list → ((info.peers list).length : Int) ≤ n.label.max list)

/-- The answer of a search agrees with the capacities of a list: every list is full, or the
answer is the first node with room and takes the peer. -/
def AgreesWithCapacity (t : CellTree) (list : PeerList)
    (first : Path → CellTreeNode → Path → CellTreeNode → Prop) : Option Path → Prop
  | none => ∀ n ∈ t.rootNode.nodes, ¬n.label.HasRoom list
  | some path => ∃ n, t.rootNode.at? path = some n ∧ n.label.HasRoom list ∧
      (∀ other m, t.rootNode.at? other = some m → m.label.HasRoom list → first path n other m) ∧
      t.Takes list path n

theorem takes_of_hasRoom {t : CellTree} {list : PeerList} {path : Path} {n : CellTreeNode}
    (found : t.rootNode.at? path = some n) (room : n.label.HasRoom list) : t.Takes list path n := by
  intro peer ofType absent
  have added : n.label.add peer = some (n.label.setPeers list (n.label.peers list ++ [peer])) :=
    CellInfo.add_eq_some_iff.mpr
      ⟨list, ofType, absent, CellInfo.isFull_eq_false_iff.mpr room, rfl⟩
  have holds : (n.label.setPeers list (n.label.peers list ++ [peer])).peers list =
      n.label.peers list ++ [peer] := by
    rw [CellInfo.peers_setPeers, if_pos rfl]
  have fits : (n.label.peers list ++ [peer]).length ≤ n.label.capacity list := by
    rw [List.length_append, List.length_singleton]
    exact room
  refine ⟨_, ?_, holds, ?_, ?_⟩
  · rw [addAt, found, Option.bind_some, added]
  · rw [holds]
    exact fits
  · intro limited
    rw [holds]
    exact Int.le_trans (Int.ofNat_le.mpr fits) (CellInfo.capacity_le_max limited)

theorem agrees_sensors {t : CellTree} (edges : t.rootNode.AllEdges Deeper)
    (rootDepth : t.rootNode.label.depth = 0) :
    t.AgreesWithCapacity .sensors DeepestFirst (t.getAvailableNode P3PeerInfo.SENSOR) := by
  have answers := @answers_getAvailableNodeForSensorI P3PeerInfo.SENSOR .sensors rfl _ edges
    (Int.le_of_eq rootDepth.symm)
  have searched : t.getAvailableNode P3PeerInfo.SENSOR =
      (getAvailableNodeForSensorI P3PeerInfo.SENSOR t.rootNode).map Prod.fst := rfl
  rw [searched]
  cases answer : getAvailableNodeForSensorI P3PeerInfo.SENSOR t.rootNode with
  | none =>
      rw [answer] at answers
      intro n member room
      rcases SlotTree.exists_at?_of_mem_nodes member with ⟨path, found⟩
      exact answers path ⟨n, found, room⟩
  | some ret =>
      rw [answer] at answers
      rcases answers.2.here with ⟨n, found, room⟩
      refine ⟨n, found, room, ?_, takes_of_hasRoom found room⟩
      intro other m foundM roomM
      rw [DeepestFirst, CellTreeNode.depth_at? edges found, CellTreeNode.depth_at? edges foundM]
      rcases answers.2.first other ⟨m, foundM, roomM⟩ with deeper | ⟨level, notLeft⟩
      · exact Or.inl (Int.add_lt_add_left (Int.ofNat_lt.mpr deeper) _)
      · exact Or.inr ⟨by rw [level], notLeft⟩

theorem agrees_superpeers (t : CellTree) {type : UInt32}
    (ofType : PeerList.ofType type = some .sps) :
    t.AgreesWithCapacity .sps PreorderFirst (getAvailableNodeForSPI t.rootNode type) := by
  rw [getAvailableNodeForSPI]
  cases searched : t.rootNode.findPath fun info => info.hasAvailableSlotsForPeer type with
  | none =>
      intro n member room
      have label := SlotTree.mem_labels_iff.mpr ⟨n, member, rfl⟩
      have refused := SlotTree.findPath_eq_none_iff.mp searched n.label label
      rw [(CellInfo.hasAvailableSlotsForPeer_iff ofType).mpr room] at refused
      cases refused
  | some path =>
      rcases SlotTree.findPath_eq_some searched with ⟨n, found, available⟩
      have room := (CellInfo.hasAvailableSlotsForPeer_iff ofType).mp available
      refine ⟨n, found, room, ?_, takes_of_hasRoom found room⟩
      intro other m foundM roomM
      exact SlotTree.findPath_leftmost searched
        ⟨m, foundM, (CellInfo.hasAvailableSlotsForPeer_iff ofType).mpr roomM⟩

/-- The searches for sensors and for superpeers agree with the capacities. -/
theorem getAvailableNode_agrees {t : CellTree} (edges : t.rootNode.AllEdges Deeper)
    (rootDepth : t.rootNode.label.depth = 0) :
    t.AgreesWithCapacity .sensors DeepestFirst (t.getAvailableNode P3PeerInfo.SENSOR) ∧
      t.AgreesWithCapacity .sps PreorderFirst (t.getAvailableNode P3PeerInfo.SUPERPEER) ∧
      t.AgreesWithCapacity .sps PreorderFirst (t.getAvailableNode P3PeerInfo.SUPERPEER_COORD) :=
  ⟨agrees_sensors edges rootDepth, t.agrees_superpeers rfl, t.agrees_superpeers rfl⟩

/-- One superpeer and one sensor fill a cell. -/
def oneEach : P3Configuration where
  TREE_SPAN := fun _ => none
  CELL_SPS := fun _ => some 1
  CELL_SENSORS := fun _ => some 1
  CELL_MONITORS := fun _ => none

/-- The cells 1 and 2 below the root, with the cell 3 below the first and the cells 4 and 5 below
the second.  The superpeer lists of the root and the cell 1 are full, and the sensor lists of the
cells 1 and 3. -/
def partlyFull : CellTree :=
  [(P3PeerInfo.SUPERPEER, ⟨[10]⟩, ⟨[0]⟩), (P3PeerInfo.SUPERPEER, ⟨[11]⟩, ⟨[1]⟩),
      (P3PeerInfo.SENSOR, ⟨[12]⟩, ⟨[1]⟩), (P3PeerInfo.SENSOR, ⟨[13]⟩, ⟨[3]⟩)].foldl
    (fun (tree : CellTree) (peer : UInt32 × UUID × CellID) =>
      (tree.addPeer (.announced peer.1 peer.2.1 peer.2.2 none none none none)).1)
    ([([], ⟨[1]⟩), ([], ⟨[2]⟩), ([0], ⟨[3]⟩), ([1], ⟨[4]⟩), ([1], ⟨[5]⟩)].foldl
      (fun (tree : CellTree) (cell : Path × CellID) =>
        (tree.createSiblingAt oneEach cell.1 cell.2).1) (CellTree.new oneEach ⟨[0]⟩))

theorem repInv_partlyFull : RepInv partlyFull := by
  have start := RepInv.new oneEach ⟨[0]⟩
  have below := (start.createSiblingAt oneEach [] ⟨[1]⟩).createSiblingAt oneEach [] ⟨[2]⟩
  have left := below.createSiblingAt oneEach [0] ⟨[3]⟩
  have cells := (left.createSiblingAt oneEach [1] ⟨[4]⟩).createSiblingAt oneEach [1] ⟨[5]⟩
  exact (((cells.addPeer _).addPeer _).addPeer _).addPeer _

/-- On the lowest level the cell 3 is full, so a sensor is sent to the cell 4, the first of two with
room; a superpeer is sent to the cell 3, which comes before the cell 2 in preorder. -/
theorem getAvailableNode_agrees_partlyFull :
    (partlyFull.getAvailableNode P3PeerInfo.SENSOR = some [1, 0] ∧
      partlyFull.getAvailableNode P3PeerInfo.SUPERPEER = some [0, 0]) ∧
    partlyFull.AgreesWithCapacity .sensors DeepestFirst
        (partlyFull.getAvailableNode P3PeerInfo.SENSOR) ∧
      partlyFull.AgreesWithCapacity .sps PreorderFirst
        (partlyFull.getAvailableNode P3PeerInfo.SUPERPEER) ∧
      partlyFull.AgreesWithCapacity .sps PreorderFirst
        (partlyFull.getAvailableNode P3PeerInfo.SUPERPEER_COORD) := by
  constructor
  · decide
  · exact getAvailableNode_agrees repInv_partlyFull.deeper rfl

end CellTree

end Stheno.Superpeer
