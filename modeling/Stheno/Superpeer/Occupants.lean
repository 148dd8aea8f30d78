import Stheno.Superpeer.Departure
import Stheno.Superpeer.Joining

/-!
# Who is where after a join or a departure

A join adds the pair of the peer and its cell, or nothing.  A departure takes that
pair away, and everything in and below the cell when the peer was its last superpeer.
-/

namespace Stheno.Superpeer

open Stheno.Tree Peer

namespace CellTree

section Join

variable {t : CellTree} {config : P3Configuration} {peer : P3PeerInfo}
  {parentCellID : Option CellID} {out : CellTree × Int}

theorem entries_addAt {path : Path} {n : CellTreeNode} (found : t.rootNode.at? path = some n)
    (peer : P3PeerInfo) :
    (t.addAt path peer).1.entries.Perm t.entries ∨
      (t.addAt path peer).1.entries.Perm ((n.label.cellID, peer.pid) :: t.entries) := by
  rcases t.addAt_cases path peer with ⟨m, info, foundM, added, updated⟩ | ⟨-, refused⟩
  · cases found.symm.trans foundM
    rw [updated]
    exact Or.inr (entries_add_perm found added)
  · rw [refused]
    exact Or.inl (List.Perm.refl _)

theorem entries_join (done : t.join config peer parentCellID = .ok out) :
    out.1.entries.Perm t.entries ∨ out.1.entries.Perm ((peer.fid, peer.pid) :: t.entries) := by
  cases known : t.getCellTreeNode peer.fid with
  | some path =>
      rcases getCellTreeNode_eq_some known with ⟨n, found, labelled⟩
      rw [join_known known] at done
      cases done
      rw [← labelled]
      exact entries_addAt found peer
  | none =>
      cases parentCellID with
      | none =>
          simp only [join, addPeer, known] at done
          cases done
          exact Or.inl (List.Perm.refl _)
      | some parent =>
          rcases t.addPeerUnder_cases config peer (some parent) with
            ⟨path, knownHere, -⟩ | ⟨-, impossible, -⟩ |
              ⟨-, above, path, n, i, -, -, found, free, created⟩ | ⟨-, -, refused⟩
          · cases known.symm.trans knownHere
          · cases impossible
          · cases created.symm.trans done
            have filled := entries_fillNew_perm config peer.fid found free
            rcases entries_addAt (at?_fillNew config peer.fid found free) peer with kept | more
            · exact Or.inl (kept.trans filled)
            · exact Or.inr (more.trans (filled.cons _))
          · cases refused.symm.trans done
            exact Or.inl (List.Perm.refl _)

theorem nodup_cellIDs_join (distinct : t.cellIDs.Nodup)
    (done : t.join config peer parentCellID = .ok out) : out.1.cellIDs.Nodup := by
  cases known : t.getCellTreeNode peer.fid with
  | some path =>
      rw [join_known known] at done
      cases done
      rwa [cellIDs_addAt]
  | none =>
      cases parentCellID with
      | none =>
          simp only [join, addPeer, known] at done
          cases done
          exact distinct
      | some parent =>
          rcases t.addPeerUnder_cases config peer (some parent) with
            ⟨path, knownHere, -⟩ | ⟨-, impossible, -⟩ |
              ⟨-, above, path, n, i, -, -, found, free, created⟩ | ⟨-, -, refused⟩
          · cases known.symm.trans knownHere
          · cases impossible
          · cases created.symm.trans done
            rw [cellIDs_addAt, (cellIDs_fillNew_perm config peer.fid found free).nodup_iff]
            exact List.nodup_cons.mpr ⟨getCellTreeNode_eq_none_iff_notMem.mp known, distinct⟩
          · cases refused.symm.trans done
            exact distinct

end Join

section Leave

/-- The peer is the only superpeer of the cell. -/
def LastSuperpeer (t : CellTree) (uuid : UUID) (cellID : CellID) : Prop :=
  ∃ path n, t.getCellTreeNode cellID = some path ∧ t.rootNode.at? path = some n ∧
    n.label.sps.map (fun peer => peer.pid) = [uuid]

/-- A cell is the given one or below it. -/
def Within (t : CellTree) (cellID id : CellID) : Prop :=
  ∃ path n, t.getCellTreeNode cellID = some path ∧ t.rootNode.at? path = some n ∧
    id ∈ n.labels.map CellInfo.cellID

/-- The cell of the peer has a superpeer, be it the peer itself. -/
def Staffed (t : CellTree) (uuid : UUID) (cellID : CellID) : Prop :=
  ∀ path n, t.getCellTreeNode cellID = some path → t.rootNode.at? path = some n →
    uuid ∈ n.label.pids → n.label.sps ≠ []

instance (t : CellTree) (uuid : UUID) (cellID : CellID) : Decidable (t.Staffed uuid cellID) :=
  decidable_of_iff (∀ path ∈ t.getCellTreeNode cellID, ∀ n ∈ t.rootNode.at? path,
      uuid ∈ n.label.pids → n.label.sps ≠ [])
    ⟨fun staffed path n known found => staffed path known n found,
      fun staffed path known n found => staffed path n known found⟩

variable {t : CellTree} {uuid : UUID} {cellID : CellID} {out : CellTree × Bool}

theorem label_of_known {path : Path} {n : CellTreeNode} (known : t.getCellTreeNode cellID = some path)
    (found : t.rootNode.at? path = some n) : n.label.cellID = cellID := by
  rcases getCellTreeNode_eq_some known with ⟨m, foundM, labelled⟩
  cases found.symm.trans foundM
  exact labelled

/-- What a departure takes from the tree. -/
structure Lost (t : CellTree) (uuid : UUID) (cellID : CellID) (after : CellTree)
    (lost : List (CellID × UUID)) : Prop where
  parts : t.entries.Perm (lost ++ after.entries)
  /-- The peer is gone once from its cell. -/
  peer : (cellID, uuid) ∈ t.entries → (cellID, uuid) ∈ lost
  /-- Others go with the last superpeer. -/
  others : t.Staffed uuid cellID → ∀ entry ∈ lost, entry ≠ (cellID, uuid) →
    t.LastSuperpeer uuid cellID ∧ t.Within cellID entry.1

theorem lost_nothing (absent : (cellID, uuid) ∉ t.entries) : Lost t uuid cellID t [] where
  parts := List.Perm.refl _
  peer := fun present => absurd present absent
  others := by
    rintro - entry impossible
    cases impossible

/-- The peers of a subtree whose root has been relabelled are peers of the same cells. -/
theorem cellID_mem_of_mem_collect {n : CellTreeNode} {info : CellInfo}
    (same : CellInfo.SameNode n.label info) {entry : CellID × UUID}
    (member : entry ∈ (n.mapLabel fun _ => info).collect CellInfo.entries) :
    entry.1 ∈ n.labels.map CellInfo.cellID := by
  rcases List.mem_flatMap.mp member with ⟨label, inTree, inLabel⟩
  rcases List.mem_map.mp inLabel with ⟨pid, -, rfl⟩
  rw [SlotTree.mapLabel, SlotTree.labels_node] at inTree
  rw [SlotTree.labels_eq, List.map_cons]
  rcases List.mem_cons.mp inTree with rfl | below
  · rw [same.cellID]
    exact List.mem_cons_self
  · exact List.mem_cons_of_mem _ (List.mem_map_of_mem below)

theorem not_mem_entries_of_unknownCell (unknown : t.getCellTreeNode cellID = none) :
    (cellID, uuid) ∉ t.entries := by
  intro present
  rcases mem_entries_iff.mp present with ⟨path, n, found, labelled, -⟩
  exact absurd labelled (getCellTreeNode_eq_none_iff.mp unknown n.label
    (SlotTree.mem_labels_iff.mpr ⟨n, SlotTree.mem_nodes_of_at? found, rfl⟩))

theorem not_mem_entries_of_unknownPeer (distinct : t.cellIDs.Nodup) {path : Path} {n : CellTreeNode}
    (known : t.getCellTreeNode cellID = some path) (found : t.rootNode.at? path = some n)
    (absent : n.label.remove uuid = none) : (cellID, uuid) ∉ t.entries := by
  intro present
  rcases mem_entries_iff.mp present with ⟨other, m, foundM, labelledM, held⟩
  have labelled := label_of_known known found
  cases SlotTree.path_eq_of_key_eq distinct foundM found (labelledM.trans labelled.symm)
  cases foundM.symm.trans found
  exact absurd held (CellInfo.remove_eq_none_iff.mp absent)

theorem lost_leave (inv : RepInv t) (distinct : t.cellIDs.Nodup)
    (done : t.leave uuid cellID = .ok out) : ∃ lost, Lost t uuid cellID out.1 lost := by
  have left := left_leave inv uuid cellID
  rw [done] at left
  cases left with
  | unknownCell unknown =>
      exact ⟨[], lost_nothing (not_mem_entries_of_unknownCell unknown)⟩
  | @unknownPeer path n known found absent =>
      exact ⟨[], lost_nothing (not_mem_entries_of_unknownPeer distinct known found absent)⟩
  | @peer path n info known found removed staffed =>
      have parts := entries_remove_perm found removed
      rw [label_of_known known found] at parts
      refine ⟨[(cellID, uuid)], parts, fun _ => List.mem_singleton_self _, ?_⟩
      rintro - entry member apart
      exact absurd (List.mem_singleton.mp member) apart
  | @cell above i n info known found removed deserted =>
      have labelled := label_of_known known found
      have same := CellInfo.sameNode_of_remove removed
      rcases holder_relabel info found with ⟨p, atParent, held⟩
      have parts := entries_remove_perm found removed
      have cleared := SlotTree.collect_clearAt_perm CellInfo.entries atParent held
      rw [labelled] at parts
      refine ⟨(cellID, uuid) :: (n.mapLabel fun _ => info).collect CellInfo.entries,
        parts.trans (cleared.cons _), fun _ => List.mem_cons_self, ?_⟩
      intro staffed entry member apart
      constructor
      · have present := (CellInfo.pids_remove_perm removed).mem_iff.mpr List.mem_cons_self
        exact ⟨above ++ [i], n, known, found,
          CellInfo.sps_of_remove removed (staffed _ n known found present) deserted⟩
      · rcases List.mem_cons.mp member with equal | below
        · exact absurd equal apart
        · exact ⟨above ++ [i], n, known, found, cellID_mem_of_mem_collect same below⟩

theorem nodup_cellIDs_leave (inv : RepInv t) (distinct : t.cellIDs.Nodup)
    (done : t.leave uuid cellID = .ok out) : out.1.cellIDs.Nodup := by
  have left := left_leave inv uuid cellID
  rw [done] at left
  cases left with
  | unknownCell unknown => exact distinct
  | unknownPeer known found absent => exact distinct
  | peer known found removed staffed =>
      rwa [cellIDs_relabel found (CellInfo.sameNode_of_remove removed)]
  | @cell above i n info known found removed deserted =>
      rcases holder_relabel info found with ⟨p, atParent, held⟩
      have cleared := (SlotTree.labels_clearAt_perm atParent held).map CellInfo.cellID
      rw [← cellIDs_relabel found (CellInfo.sameNode_of_remove removed)] at distinct
      rw [List.map_append] at cleared
      exact (List.nodup_append.mp (cleared.nodup_iff.mp distinct)).2.1

end Leave

end CellTree

end Stheno.Superpeer
