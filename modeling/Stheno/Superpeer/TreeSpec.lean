import Stheno.Superpeer.Tree

/-!
# What each tree operation can do

One lemma for each operation lists its outcomes, with the guard of each and the
update that it makes.  The invariants of later modules are read off these lists.
-/

namespace Stheno.Superpeer

open Stheno.Tree Peer

namespace CellInfo

/-- Two labels of one node that differ at most in their peers. -/
structure SameNode (before after : CellInfo) : Prop where
  addr : after.addr = before.addr
  parent : after.parent = before.parent
  cellID : after.cellID = before.cellID
  depth : after.depth = before.depth
  spanNo : after.spanNo = before.spanNo
  maxSPs : after.maxSPs = before.maxSPs
  maxSensors : after.maxSensors = before.maxSensors
  maxMonitor : after.maxMonitor = before.maxMonitor

theorem sameNode_setPeers (info : CellInfo) (list : PeerList) (peers : List P3PeerInfo) :
    SameNode info (info.setPeers list peers) := by
  cases list <;> exact ⟨rfl, rfl, rfl, rfl, rfl, rfl, rfl, rfl⟩

theorem peers_setPeers (info : CellInfo) (list other : PeerList) (peers : List P3PeerInfo) :
    (info.setPeers list peers).peers other = if other = list then peers else info.peers other := by
  cases list <;> cases other <;> rfl

theorem max_setPeers (info : CellInfo) (list : PeerList) (peers : List P3PeerInfo) :
    (info.setPeers list peers).max = info.max := by
  funext other
  cases list <;> cases other <;> rfl

theorem mem_pids_iff {info : CellInfo} {pid : UUID} :
    pid ∈ info.pids ↔ ∃ list, ∃ peer ∈ info.peers list, peer.pid = pid := by
  constructor
  · intro member
    rcases List.mem_map.mp member with ⟨peer, inAll, equal⟩
    rcases List.mem_append.mp inAll with inFirst | inMonitors
    · rcases List.mem_append.mp inFirst with inSPs | inSensors
      · exact ⟨.sps, peer, inSPs, equal⟩
      · exact ⟨.sensors, peer, inSensors, equal⟩
    · exact ⟨.monitors, peer, inMonitors, equal⟩
  · rintro ⟨list, peer, inList, rfl⟩
    apply List.mem_map_of_mem
    unfold allPeers
    cases list with
    | sps => exact List.mem_append_left _ (List.mem_append_left _ inList)
    | sensors => exact List.mem_append_left _ (List.mem_append_right _ inList)
    | monitors => exact List.mem_append_right _ inList

/-- `add` succeeds exactly on a type with a list that has room and does not hold
the peer, and appends the peer to that list. -/
theorem add_eq_some_iff {info after : CellInfo} {peer : P3PeerInfo} :
    info.add peer = some after ↔
      ∃ list, PeerList.ofType peer.type = some list ∧
        (∀ temp ∈ info.peers list, temp.pid ≠ peer.pid) ∧ info.isFull list = false ∧
        after = info.setPeers list (info.peers list ++ [peer]) := by
  unfold add
  cases PeerList.ofType peer.type with
  | none => simp
  | some list =>
      by_cases present : ((info.peers list).any fun temp => temp.pid.sameKey peer.pid) = true
      · have found : ∃ temp ∈ info.peers list, temp.pid = peer.pid := by simpa using present
        simp only [present, if_true]
        constructor
        · intro impossible
          cases impossible
        · rintro ⟨other, equal, absent, -, -⟩
          rcases found with ⟨temp, member, same⟩
          cases equal
          exact absurd same (absent temp member)
      · have absent : ∀ temp ∈ info.peers list, temp.pid ≠ peer.pid := by
          simpa using present
        dsimp only
        rw [if_neg present]
        by_cases full : info.isFull list = true
        · simp [full]
        · rw [if_neg full]
          simp only [Option.some.injEq]
          constructor
          · rintro rfl
            exact ⟨list, rfl, absent, by simpa using full, rfl⟩
          · rintro ⟨other, rfl, -, -, rfl⟩
            rfl

theorem sameNode_of_add {info after : CellInfo} {peer : P3PeerInfo}
    (added : info.add peer = some after) : SameNode info after := by
  rcases add_eq_some_iff.mp added with ⟨list, -, -, -, rfl⟩
  exact sameNode_setPeers info list _

/-- `remove` erases the first entry of the peer from one list. -/
theorem remove_eq_some {info after : CellInfo} {uuid : UUID} (removed : info.remove uuid = some after) :
    ∃ list, (∃ temp ∈ info.peers list, temp.pid = uuid) ∧
      after = info.setPeers list ((info.peers list).eraseP fun temp => temp.pid.sameKey uuid) := by
  unfold remove at removed
  split at removed
  · rename_i present
    cases removed
    exact ⟨.sps, by simpa [peers] using present, rfl⟩
  · split at removed
    · rename_i present
      cases removed
      exact ⟨.sensors, by simpa [peers] using present, rfl⟩
    · split at removed
      · rename_i present
        cases removed
        exact ⟨.monitors, by simpa [peers] using present, rfl⟩
      · cases removed

theorem remove_eq_none_iff {info : CellInfo} {uuid : UUID} :
    info.remove uuid = none ↔ uuid ∉ info.pids := by
  rw [mem_pids_iff]
  unfold remove
  constructor
  · intro refused
    rintro ⟨list, peer, inList, equal⟩
    have present : (info.peers list).any (fun temp => temp.pid.sameKey uuid) = true := by
      simpa using ⟨peer, inList, equal⟩
    split at refused
    · cases refused
    · rename_i noSPs
      split at refused
      · cases refused
      · rename_i noSensors
        split at refused
        · cases refused
        · rename_i noMonitors
          cases list with
          | sps => exact noSPs present
          | sensors => exact noSensors present
          | monitors => exact noMonitors present
  · intro absent
    have missing : ∀ list, (info.peers list).any (fun temp => temp.pid.sameKey uuid) = false := by
      intro list
      rw [List.any_eq_false]
      intro peer inList
      rw [UUID.sameKey_iff]
      exact fun equal => absent ⟨list, peer, inList, equal⟩
    have inSPs := missing .sps
    have inSensors := missing .sensors
    have inMonitors := missing .monitors
    simp only [peers] at inSPs inSensors inMonitors
    simp [inSPs, inSensors, inMonitors]

theorem sameNode_of_remove {info after : CellInfo} {uuid : UUID}
    (removed : info.remove uuid = some after) : SameNode info after := by
  rcases remove_eq_some removed with ⟨list, -, rfl⟩
  exact sameNode_setPeers info list _

end CellInfo

namespace CellTreeNode

theorem firstFree_eq_some {this : CellTreeNode} {i : Nat} (free : firstFree this = some i) :
    this.slots[i]? = some none := by
  rcases List.findIdx?_eq_some_iff_getElem.mp free with ⟨bound, isNone, -⟩
  rw [List.getElem?_eq_getElem bound, Option.isNone_iff_eq_none.mp isNone]

theorem firstFree_eq_none_iff {this : CellTreeNode} :
    firstFree this = none ↔ this.slots.all Option.isSome = true := by
  rw [firstFree, List.findIdx?_eq_none_iff, List.all_eq_true]
  apply forall_congr'
  intro slot
  apply imp_congr_right
  intro _
  cases slot <;> simp

end CellTreeNode

namespace CellTree

theorem getCellTreeNode_eq_some {t : CellTree} {fid : CellID} {path : Path}
    (found : t.getCellTreeNode fid = some path) :
    ∃ n, t.rootNode.at? path = some n ∧ n.label.cellID = fid := by
  rcases SlotTree.findPath_eq_some found with ⟨n, atPath, equal⟩
  exact ⟨n, atPath, UUID.sameKey_iff.mp equal⟩

theorem getCellTreeNode_eq_none_iff {t : CellTree} {fid : CellID} :
    t.getCellTreeNode fid = none ↔ ∀ info ∈ t.rootNode.labels, info.cellID ≠ fid := by
  rw [getCellTreeNode, SlotTree.findPath_eq_none_iff]
  simp [Bool.eq_false_iff]

theorem getCellTreeNode_of_root {t : CellTree} : t.getCellTreeNode t.getRootCellID = some [] :=
  SlotTree.findPath_of_label (UUID.sameKey_iff.mpr rfl)

/-- An update depends on its function only at the node it meets. -/
theorem modify_congr {t : CellTree} {n : CellTreeNode} {path : Path}
    {f g : CellTreeNode → CellTreeNode} (found : t.rootNode.at? path = some n)
    (agree : f n = g n) : t.modify path f = t.modify path g := by
  rw [modify, modify, SlotTree.modifyAt_congr found agree]

theorem lt_freshAddr {t : CellTree} {addr : Addr} (member : addr ∈ t.addrs) :
    addr < t.freshAddr := by
  have bounded : ∀ (l : List Addr) (a : Addr), a ∈ l → a ≤ l.foldr Nat.max 0 := by
    intro l
    induction l with
    | nil =>
        intro a impossible
        cases impossible
    | cons b l ih =>
        intro a inList
        rw [List.foldr_cons]
        rcases List.mem_cons.mp inList with rfl | inTail
        · exact Nat.le_max_left _ _
        · exact Nat.le_trans (ih a inTail) (Nat.le_max_right _ _)
  exact Nat.lt_succ_of_le (bounded t.addrs addr member)

theorem freshAddr_not_mem (t : CellTree) : t.freshAddr ∉ t.addrs := by
  intro member
  exact Nat.lt_irrefl _ (lt_freshAddr member)

/-- The node that `createSibling` puts into slot `i` of the node `n`. -/
def newChild (config : P3Configuration) (t : CellTree) (cellID : CellID) (n : CellTreeNode)
    (i : Nat) : CellTreeNode :=
  CellTreeNode.new config t.freshAddr cellID (some n.label.addr) i (n.label.depth + 1)

/-- `createSibling` fills the first empty slot, or there is none. -/
theorem createSiblingAt_cases (config : P3Configuration) (t : CellTree) (path : Path)
    (cellID : CellID) :
    (∃ n i, t.rootNode.at? path = some n ∧ CellTreeNode.firstFree n = some i ∧
      t.createSiblingAt config path cellID =
        (t.modify path fun n => n.setSlot i (some (newChild config t cellID n i)),
          some (path ++ [i]))) ∨
    ((∀ n, t.rootNode.at? path = some n → CellTreeNode.firstFree n = none) ∧
      t.createSiblingAt config path cellID = (t, none)) := by
  unfold createSiblingAt
  cases found : t.rootNode.at? path with
  | none => exact Or.inr ⟨by simp, by simp⟩
  | some n =>
      cases free : CellTreeNode.firstFree n with
      | none =>
          refine Or.inr ⟨?_, by simp [CellTreeNode.createSibling, free]⟩
          intro m equal
          cases equal
          exact free
      | some i =>
          refine Or.inl ⟨n, i, rfl, free, ?_⟩
          simp only [CellTreeNode.createSibling, free, Option.bind_some, Option.map_some]
          rw [modify_congr found]
          rfl

/-- `add` on a node appends the peer, or refuses and changes nothing. -/
theorem addAt_cases (t : CellTree) (path : Path) (peer : P3PeerInfo) :
    (∃ n info, t.rootNode.at? path = some n ∧ n.label.add peer = some info ∧
      t.addAt path peer = (t.modify path (SlotTree.mapLabel fun _ => info), 0)) ∨
    ((∀ n, t.rootNode.at? path = some n → n.label.add peer = none) ∧
      t.addAt path peer = (t, -1)) := by
  unfold addAt
  cases found : t.rootNode.at? path with
  | none => exact Or.inr ⟨by simp, by simp⟩
  | some n =>
      cases added : n.label.add peer with
      | none =>
          refine Or.inr ⟨?_, by simp [added]⟩
          intro m equal
          cases equal
          exact added
      | some info => exact Or.inl ⟨n, info, rfl, added, by simp [added]⟩

/-- `addSubtree` answers 0 for a known root cell, grafts into the first empty slot
of the parent, or refuses and changes nothing. -/
theorem addSubtree_cases (t s : CellTree) (parentCellID : Option CellID) :
    (t.getCellTreeNode s.getRootCellID ≠ none ∧ t.addSubtree s parentCellID = (t, 0)) ∨
    (t.getCellTreeNode s.getRootCellID = none ∧ ∃ path n i,
      t.subtreeParent parentCellID = some path ∧ t.rootNode.at? path = some n ∧
      CellTreeNode.firstFree n = some i ∧
      t.addSubtree s parentCellID = (t.modify path (graft s.rootNode i), 0)) ∨
    (t.getCellTreeNode s.getRootCellID = none ∧
      (∀ path n, t.subtreeParent parentCellID = some path → t.rootNode.at? path = some n →
        CellTreeNode.firstFree n = none) ∧
      t.addSubtree s parentCellID = (t, -1)) := by
  unfold addSubtree
  cases known : t.getCellTreeNode s.getRootCellID with
  | some path => exact Or.inl ⟨by simp, rfl⟩
  | none =>
      refine Or.inr ?_
      cases under : t.subtreeParent parentCellID with
      | none => exact Or.inr ⟨rfl, by simp, rfl⟩
      | some path =>
          cases free : (t.rootNode.at? path).bind CellTreeNode.firstFree with
          | none =>
              refine Or.inr ⟨rfl, ?_, by simp [free]⟩
              intro other n equal found
              rw [Option.some.injEq] at equal
              rwa [equal, found, Option.bind_some] at free
          | some i =>
              rcases Option.bind_eq_some_iff.mp free with ⟨n, found, freeSlot⟩
              exact Or.inl ⟨rfl, path, n, i, rfl, found, freeSlot, by simp [free]⟩

/-- `addPeer` with a parent adds to the peer's cell, creating it when it is new. -/
theorem addPeerUnder_cases (config : P3Configuration) (t : CellTree) (peer : P3PeerInfo)
    (parentCellID : Option CellID) :
    (∃ path, t.getCellTreeNode peer.fid = some path ∧
      t.addPeerUnder config peer parentCellID = .ok (t.addAt path peer)) ∨
    (t.getCellTreeNode peer.fid = none ∧ parentCellID = none ∧
      t.addPeerUnder config peer parentCellID = .error .nullDereference) ∨
    (t.getCellTreeNode peer.fid = none ∧ ∃ parent path n i,
      parentCellID = some parent ∧ t.getCellTreeNode parent = some path ∧
      t.rootNode.at? path = some n ∧ CellTreeNode.firstFree n = some i ∧
      t.addPeerUnder config peer parentCellID =
        .ok ((t.modify path fun n => n.setSlot i (some (newChild config t peer.fid n i))).addAt
          (path ++ [i]) peer)) ∨
    (t.getCellTreeNode peer.fid = none ∧ (∃ parent, parentCellID = some parent ∧
      ∀ path n, t.getCellTreeNode parent = some path → t.rootNode.at? path = some n →
        CellTreeNode.firstFree n = none) ∧
      t.addPeerUnder config peer parentCellID = .ok (t, -1)) := by
  unfold addPeerUnder
  cases known : t.getCellTreeNode peer.fid with
  | some path => exact Or.inl ⟨path, rfl, rfl⟩
  | none =>
      refine Or.inr ?_
      cases parentCellID with
      | none => exact Or.inl ⟨rfl, rfl, rfl⟩
      | some parent =>
          refine Or.inr ?_
          cases under : t.getCellTreeNode parent with
          | none => exact Or.inr ⟨rfl, ⟨parent, rfl, by simp [under]⟩, by simp [under]⟩
          | some path =>
              rcases createSiblingAt_cases config t path peer.fid with
                ⟨n, i, found, free, created⟩ | ⟨full, refused⟩
              · exact Or.inl ⟨rfl, parent, path, n, i, rfl, under, found, free,
                  by simp [under, created]⟩
              · refine Or.inr ⟨rfl, ⟨parent, rfl, ?_⟩, by simp [under, refused]⟩
                intro other n equal found
                rw [under, Option.some.injEq] at equal
                exact full n (equal ▸ found)

end CellTree

end Stheno.Superpeer
