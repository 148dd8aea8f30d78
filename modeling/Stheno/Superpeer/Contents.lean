import Stheno.Superpeer.Shape
import Stheno.Tree.Collect

/-!
# The contents of the cell tree

The cell identifiers of a tree, the identifiers of its peers, and the pairs of a
cell and a peer in it.  Each update adds or removes a known part, whatever the
order in which the tree lists the rest.
-/

namespace Stheno.Superpeer

open Stheno.Tree Peer

namespace CellInfo

/-- The cell with each of its peers. -/
def entries (this : CellInfo) : List (CellID × UUID) :=
  this.pids.map fun pid => (this.cellID, pid)

theorem pids_add_perm {info after : CellInfo} {peer : P3PeerInfo}
    (added : info.add peer = some after) : after.pids.Perm (peer.pid :: info.pids) := by
  rcases add_eq_some_iff.mp added with ⟨list, -, -, -, rfl⟩
  have more : (info.setPeers list (info.peers list ++ [peer])).allPeers.Perm
      (peer :: info.allPeers) := by
    cases list with
    | sps =>
        calc
          List.Perm ((info.sps ++ [peer]) ++ info.sensors ++ info.monitors)
              (info.sps ++ peer :: (info.sensors ++ info.monitors)) := by simp
          List.Perm _ (peer :: (info.sps ++ info.sensors ++ info.monitors)) := by simp
    | sensors =>
        calc
          List.Perm (info.sps ++ (info.sensors ++ [peer]) ++ info.monitors)
              ((info.sps ++ info.sensors) ++ peer :: info.monitors) := by simp
          List.Perm _ (peer :: (info.sps ++ info.sensors ++ info.monitors)) := List.perm_middle
    | monitors =>
        calc
          List.Perm (info.sps ++ info.sensors ++ (info.monitors ++ [peer]))
              ((info.sps ++ info.sensors ++ info.monitors) ++ [peer]) := by simp
          List.Perm _ (peer :: (info.sps ++ info.sensors ++ info.monitors)) :=
            List.perm_append_singleton _ _
  exact more.map fun peer => peer.pid

theorem perm_cons_of_eraseP {peers : List P3PeerInfo} {uuid : UUID}
    (present : ∃ temp ∈ peers, temp.pid = uuid) :
    (peers.map fun peer => peer.pid).Perm
      (uuid :: (peers.eraseP fun temp => temp.pid.sameKey uuid).map fun peer => peer.pid) := by
  induction peers with
  | nil =>
      rcases present with ⟨temp, impossible, -⟩
      cases impossible
  | cons peer peers ih =>
      by_cases here : peer.pid = uuid
      · simp [here]
      · have there : ∃ temp ∈ peers, temp.pid = uuid := by
          rcases present with ⟨temp, member, equal⟩
          rcases List.mem_cons.mp member with rfl | inTail
          · exact absurd equal here
          · exact ⟨temp, inTail, equal⟩
        have kept : (peer.pid.sameKey uuid) = false := by
          rw [Bool.eq_false_iff, ne_eq, UUID.sameKey_iff]
          exact here
        rw [List.eraseP_cons_of_neg (by simp [kept]), List.map_cons, List.map_cons]
        exact ((ih there).cons peer.pid).trans (List.Perm.swap _ _ _)

theorem pids_remove_perm {info after : CellInfo} {uuid : UUID}
    (removed : info.remove uuid = some after) : info.pids.Perm (uuid :: after.pids) := by
  rcases remove_eq_some removed with ⟨list, present, rfl⟩
  have fewer := perm_cons_of_eraseP present
  cases list with
  | sps =>
      have parts := fewer.append_right ((info.sensors ++ info.monitors).map fun peer => peer.pid)
      simpa [pids, allPeers, peers, setPeers] using parts
  | sensors =>
      have parts := (fewer.append_right (info.monitors.map fun peer => peer.pid)).append_left
        (info.sps.map fun peer => peer.pid)
      simpa [pids, allPeers, peers, setPeers] using parts.trans List.perm_middle
  | monitors =>
      have parts := fewer.append_left ((info.sps ++ info.sensors).map fun peer => peer.pid)
      simpa [pids, allPeers, peers, setPeers] using parts.trans List.perm_middle

/-- A removal that empties the superpeers has removed the only one. -/
theorem sps_of_remove {info after : CellInfo} {uuid : UUID} (removed : info.remove uuid = some after)
    (staffed : info.sps ≠ []) (deserted : after.sps = []) :
    info.sps.map (fun peer => peer.pid) = [uuid] := by
  rcases remove_eq_some removed with ⟨list, present, rfl⟩
  cases list with
  | sps =>
      have fewer := perm_cons_of_eraseP present
      have none : info.sps.eraseP (fun temp => temp.pid.sameKey uuid) = [] := deserted
      rw [peers, none] at fewer
      exact List.perm_singleton.mp fewer
  | sensors => exact absurd deserted staffed
  | monitors => exact absurd deserted staffed

theorem entries_of_cellID_eq {info after : CellInfo} (same : after.cellID = info.cellID) :
    after.entries = after.pids.map fun pid => (info.cellID, pid) := by
  rw [entries, same]

end CellInfo

namespace CellTree

def cellIDs (this : CellTree) : List CellID :=
  this.rootNode.labels.map CellInfo.cellID

/-- The identifiers of all peers of all cells. -/
def pids (this : CellTree) : List UUID :=
  this.rootNode.collect CellInfo.pids

/-- All pairs of a cell and a peer in it. -/
def entries (this : CellTree) : List (CellID × UUID) :=
  this.rootNode.collect CellInfo.entries

theorem pids_eq_map_entries (t : CellTree) : t.pids = t.entries.map Prod.snd := by
  simp [pids, entries, SlotTree.collect, List.map_flatMap, CellInfo.entries, Function.comp_def]

theorem mem_entries_iff {t : CellTree} {cellID : CellID} {pid : UUID} :
    (cellID, pid) ∈ t.entries ↔
      ∃ path n, t.rootNode.at? path = some n ∧ n.label.cellID = cellID ∧ pid ∈ n.label.pids := by
  simp [entries, SlotTree.mem_collect_iff, CellInfo.entries, and_comm]

theorem mem_pids_iff {t : CellTree} {pid : UUID} :
    pid ∈ t.pids ↔ ∃ path n, t.rootNode.at? path = some n ∧ pid ∈ n.label.pids :=
  SlotTree.mem_collect_iff

theorem getCellTreeNode_eq_none_iff_notMem {t : CellTree} {fid : CellID} :
    t.getCellTreeNode fid = none ↔ fid ∉ t.cellIDs := by
  rw [getCellTreeNode_eq_none_iff, cellIDs, List.mem_map]
  constructor
  · rintro absent ⟨info, member, equal⟩
    exact absent info member equal
  · intro absent info member equal
    exact absent ⟨info, member, equal⟩

theorem entries_new (config : P3Configuration) (rootCellID : CellID) :
    (new config rootCellID).entries = [] := by
  rw [entries, SlotTree.collect, new, CellTreeNode.labels_new]
  rfl

theorem cellIDs_new (config : P3Configuration) (rootCellID : CellID) :
    (new config rootCellID).cellIDs = [rootCellID] := by
  rw [cellIDs, new, CellTreeNode.labels_new]
  rfl

/-! ## A new peer -/

section AddPeer

variable {t : CellTree} {path : Path} {n : CellTreeNode} {peer : P3PeerInfo} {info : CellInfo}

theorem pids_add_perm (found : t.rootNode.at? path = some n) (added : n.label.add peer = some info) :
    (t.modify path (SlotTree.mapLabel fun _ => info)).pids.Perm (peer.pid :: t.pids) :=
  SlotTree.collect_relabelAt_cons_perm CellInfo.pids found (CellInfo.pids_add_perm added)

theorem entries_add_perm (found : t.rootNode.at? path = some n)
    (added : n.label.add peer = some info) :
    (t.modify path (SlotTree.mapLabel fun _ => info)).entries.Perm
      ((n.label.cellID, peer.pid) :: t.entries) := by
  apply SlotTree.collect_relabelAt_cons_perm CellInfo.entries found
  rw [CellInfo.entries_of_cellID_eq (CellInfo.sameNode_of_add added).cellID, CellInfo.entries]
  exact (CellInfo.pids_add_perm added).map _

end AddPeer

/-- Relabelling a node by another label of the same node keeps the cells. -/
theorem cellIDs_relabel {t : CellTree} {path : Path} {n : CellTreeNode} {info : CellInfo}
    (found : t.rootNode.at? path = some n) (same : CellInfo.SameNode n.label info) :
    (t.modify path (SlotTree.mapLabel fun _ => info)).cellIDs = t.cellIDs := by
  rcases SlotTree.exists_labels_relabelAt found with ⟨before, after, whole, updated⟩
  rw [cellIDs, cellIDs, modify, updated, whole]
  simp [same.cellID]

/-- The peers that leave a node. -/
theorem entries_remove_perm {t : CellTree} {path : Path} {n : CellTreeNode} {uuid : UUID}
    {info : CellInfo} (found : t.rootNode.at? path = some n)
    (removed : n.label.remove uuid = some info) :
    t.entries.Perm
      ((n.label.cellID, uuid) :: (t.modify path (SlotTree.mapLabel fun _ => info)).entries) := by
  apply SlotTree.collect_relabelAt_perm_cons CellInfo.entries found
  rw [CellInfo.entries_of_cellID_eq (CellInfo.sameNode_of_remove removed).cellID, CellInfo.entries]
  exact (CellInfo.pids_remove_perm removed).map _

/-! ## A new cell -/

section NewCell

variable {t : CellTree} {path : Path} {n : CellTreeNode} {i : Nat}

/-- The new node is where `createSibling` put it. -/
theorem at?_fillNew (config : P3Configuration) (cellID : CellID)
    (found : t.rootNode.at? path = some n) (free : CellTreeNode.firstFree n = some i) :
    (t.modify path fun n => n.setSlot i (some (newChild config t cellID n i))).rootNode.at?
      (path ++ [i]) = some (newChild config t cellID n i) := by
  have bound := (List.getElem?_eq_some_iff.mp (CellTreeNode.firstFree_eq_some free)).1
  apply SlotTree.at?_snoc (n := n.setSlot i (some (newChild config t cellID n i)))
  · rw [modify, SlotTree.at?_modifyAt_self, found, Option.map_some]
  · rw [SlotTree.child_setSlot, if_pos ⟨rfl, bound⟩]

theorem cellIDs_fillNew_perm (config : P3Configuration) (cellID : CellID)
    (found : t.rootNode.at? path = some n) (free : CellTreeNode.firstFree n = some i) :
    (t.modify path fun n => n.setSlot i (some (newChild config t cellID n i))).cellIDs.Perm
      (cellID :: t.cellIDs) := by
  have filled := (SlotTree.labels_fillAt_perm (c := newChild config t cellID n i) found
    (CellTreeNode.firstFree_eq_some free)).map CellInfo.cellID
  rw [modify_congr (g := fun m => m.setSlot i (some (newChild config t cellID n i))) found rfl]
  rw [newChild, CellTreeNode.labels_new] at filled
  exact filled

theorem entries_fillNew_perm (config : P3Configuration) (cellID : CellID)
    (found : t.rootNode.at? path = some n) (free : CellTreeNode.firstFree n = some i) :
    (t.modify path fun n => n.setSlot i (some (newChild config t cellID n i))).entries.Perm
      t.entries := by
  have filled := SlotTree.collect_fillAt_perm CellInfo.entries (c := newChild config t cellID n i)
    found (CellTreeNode.firstFree_eq_some free)
  rw [modify_congr (g := fun m => m.setSlot i (some (newChild config t cellID n i))) found rfl]
  have empty : (newChild config t cellID n i).collect CellInfo.entries = [] := by
    rw [SlotTree.collect, newChild, CellTreeNode.labels_new]
    rfl
  rwa [empty] at filled

end NewCell

/-! ## A subtree -/

section Subtree

variable {t s : CellTree} {path : Path} {n : CellTreeNode} {i : Nat}

theorem graft_congr (found : t.rootNode.at? path = some n) :
    t.modify path (graft s.rootNode i) =
      t.modify path fun m => m.setSlot i (some (CellTreeNode.grafted s.rootNode n i)) :=
  modify_congr found rfl

theorem cellIDs_graft_perm (found : t.rootNode.at? path = some n)
    (free : CellTreeNode.firstFree n = some i) :
    (t.modify path (graft s.rootNode i)).cellIDs.Perm (s.cellIDs ++ t.cellIDs) := by
  have filled := (SlotTree.labels_fillAt_perm (c := CellTreeNode.grafted s.rootNode n i) found
    (CellTreeNode.firstFree_eq_some free)).map CellInfo.cellID
  rw [List.map_append, CellTreeNode.map_labels_grafted CellInfo.cellID (fun _ _ _ => rfl)
    (fun _ _ => rfl)] at filled
  rw [graft_congr found]
  exact filled

theorem entries_graft_perm (found : t.rootNode.at? path = some n)
    (free : CellTreeNode.firstFree n = some i) :
    (t.modify path (graft s.rootNode i)).entries.Perm (s.entries ++ t.entries) := by
  have filled := SlotTree.collect_fillAt_perm CellInfo.entries
    (c := CellTreeNode.grafted s.rootNode n i) found (CellTreeNode.firstFree_eq_some free)
  have same : (CellTreeNode.grafted s.rootNode n i).collect CellInfo.entries = s.entries := by
    rw [entries, SlotTree.collect, SlotTree.collect, List.flatMap_def, List.flatMap_def,
      CellTreeNode.map_labels_grafted CellInfo.entries (fun _ _ _ => rfl) (fun _ _ => rfl)]
  rw [same] at filled
  rw [graft_congr found]
  exact filled

end Subtree

end CellTree

end Stheno.Superpeer
