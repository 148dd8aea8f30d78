import Stheno.Superpeer.Handlers
import Stheno.Superpeer.Unique

/-!
# What a join changes

`addPeer` and `addPeerUnder` answer -1 for several reasons, and one of them comes
after a new cell has been created.  A join leaves the tree as it was exactly when
it is declined: by the peer's cell, or because that cell cannot be created.
-/

namespace Stheno.Superpeer

open Stheno.Tree Peer

namespace CellTree

/-- The cell of the peer refuses it, or is unknown and finds no slot at the parent. -/
def Declines (t : CellTree) (peer : P3PeerInfo) (parentCellID : Option CellID) : Prop :=
  match t.getCellTreeNode peer.fid with
  | some path => ∀ n, t.rootNode.at? path = some n → ¬n.label.Accepts peer
  | none => ∀ parent, parentCellID = some parent → ¬t.HasRoomUnder (some parent)

section

variable {t : CellTree} {peer : P3PeerInfo} {path : Path} {n : CellTreeNode}

theorem addAt_of_not_accepts (found : t.rootNode.at? path = some n)
    (refuses : ¬n.label.Accepts peer) : t.addAt path peer = (t, -1) := by
  rcases t.addAt_cases path peer with ⟨m, info, foundM, added, -⟩ | ⟨-, refused⟩
  · cases found.symm.trans foundM
    exact absurd (CellInfo.accepts_iff.mpr ⟨info, added⟩) refuses
  · exact refused

theorem join_known {config : P3Configuration} (known : t.getCellTreeNode peer.fid = some path)
    (parentCellID : Option CellID) : t.join config peer parentCellID = .ok (t.addAt path peer) := by
  cases parentCellID with
  | none => simp only [join, addPeer, known]
  | some parentCellID => simp only [join, addPeerUnder, known]

theorem join_of_declines (config : P3Configuration) {parentCellID : Option CellID}
    (declines : t.Declines peer parentCellID) :
    t.join config peer parentCellID = .ok (t, -1) := by
  unfold Declines at declines
  cases known : t.getCellTreeNode peer.fid with
  | some path =>
      rw [known] at declines
      rcases getCellTreeNode_eq_some known with ⟨n, found, -⟩
      rw [join_known known, addAt_of_not_accepts found (declines n found)]
  | none =>
      rw [known] at declines
      cases parentCellID with
      | none => simp only [join, addPeer, known]
      | some parentCellID =>
          rcases t.addPeerUnder_cases config peer (some parentCellID) with
            ⟨path, knownHere, -⟩ | ⟨-, impossible, -⟩ |
              ⟨-, parent, path, n, i, equal, under, found, free, -⟩ | ⟨-, -, refused⟩
          · cases known.symm.trans knownHere
          · cases impossible
          · exact absurd ⟨path, n, i, under, found, free⟩ (declines parent equal)
          · exact refused

end

theorem cellIDs_addAt (t : CellTree) (path : Path) (peer : P3PeerInfo) :
    (t.addAt path peer).1.cellIDs = t.cellIDs := by
  rcases t.addAt_cases path peer with ⟨n, info, found, added, updated⟩ | ⟨-, refused⟩
  · rw [updated]
    exact cellIDs_relabel found (CellInfo.sameNode_of_add added)
  · rw [refused]

/-- A node that accepts a peer records it. -/
theorem addAt_ne_of_accepts {t : CellTree} {path : Path} {n : CellTreeNode} {peer : P3PeerInfo}
    (found : t.rootNode.at? path = some n) (accepts : n.label.Accepts peer) :
    (t.addAt path peer).1 ≠ t := by
  rcases t.addAt_cases path peer with ⟨m, info, foundM, added, updated⟩ | ⟨refuses, -⟩
  · intro same
    have more := (pids_add_perm foundM added).length_eq
    rw [updated] at same
    dsimp only at same
    rw [same, List.length_cons] at more
    exact absurd more (Nat.ne_of_lt (Nat.lt_succ_self _))
  · rcases CellInfo.accepts_iff.mp accepts with ⟨after, added⟩
    cases (refuses n found).symm.trans added

/-- A join leaves the tree as it was exactly when it is declined. -/
theorem join_tree_eq_iff {config : P3Configuration} {t : CellTree} {peer : P3PeerInfo}
    {parentCellID : Option CellID} {out : CellTree × Int}
    (done : t.join config peer parentCellID = .ok out) :
    out.1 = t ↔ t.Declines peer parentCellID := by
  constructor
  · intro same
    unfold Declines
    cases known : t.getCellTreeNode peer.fid with
    | some path =>
        intro n found accepts
        rw [join_known known] at done
        cases done
        exact addAt_ne_of_accepts found accepts same
    | none =>
        rintro parent rfl ⟨path, n, i, under, found, free⟩
        rcases t.addPeerUnder_cases config peer (some parent) with
          ⟨other, knownHere, -⟩ | ⟨-, impossible, -⟩ |
            ⟨-, parentHere, pathHere, m, j, -, -, foundM, freeM, created⟩ |
            ⟨-, ⟨parentHere, equal, full⟩, -⟩
        · cases known.symm.trans knownHere
        · cases impossible
        · cases created.symm.trans done
          have more := (cellIDs_fillNew_perm config peer.fid foundM freeM).length_eq
          rw [← cellIDs_addAt _ (pathHere ++ [j]) peer, same, List.length_cons] at more
          exact absurd more (Nat.ne_of_lt (Nat.lt_succ_self _))
        · cases equal
          cases (full path n under found).symm.trans free
  · intro declines
    rw [join_of_declines config declines] at done
    cases done
    rfl

/-- A subtree is not grafted exactly when its root cell is known or there is no slot. -/
theorem addSubtree_tree_eq_iff {t s : CellTree} {parentCellID : Option CellID} :
    (t.addSubtree s parentCellID).1 = t ↔
      s.getRootCellID ∈ t.cellIDs ∨ ¬t.HasRoomUnder parentCellID := by
  rcases t.addSubtree_cases s parentCellID with
    ⟨known, kept⟩ | ⟨unknown, path, n, i, under, found, free, grafted⟩ | ⟨-, full, refused⟩
  · rw [kept]
    refine iff_of_true rfl (Or.inl ?_)
    by_contra absent
    exact known (getCellTreeNode_eq_none_iff_notMem.mpr absent)
  · rw [grafted]
    apply iff_of_false
    · intro same
      have more := (cellIDs_graft_perm (s := s) found free).length_eq
      have root : 0 < s.cellIDs.length := by
        rw [cellIDs, SlotTree.labels_eq]
        exact Nat.succ_pos _
      dsimp only at same
      rw [same, List.length_append] at more
      exact absurd more (Nat.ne_of_lt (Nat.lt_add_of_pos_left root))
    · rintro (held | full)
      · exact getCellTreeNode_eq_none_iff_notMem.mp unknown held
      · exact full ⟨path, n, i, under, found, free⟩
  · rw [refused]
    refine iff_of_true rfl (Or.inr ?_)
    rintro ⟨path, n, i, under, found, free⟩
    cases (full path n under found).symm.trans free

end CellTree

theorem RepInv.join {t : CellTree} (inv : RepInv t) {config : P3Configuration} {peer : P3PeerInfo}
    {parentCellID : Option CellID} {out : CellTree × Int}
    (done : t.join config peer parentCellID = .ok out) : RepInv out.1 := by
  cases parentCellID with
  | none =>
      cases done
      exact inv.addPeer peer
  | some parentCellID =>
      have added : t.addPeerUnder config peer (some parentCellID) = .ok out := done
      exact inv.addPeerUnder added

theorem RepInv.handleJoinCell {cell : Cell} (inv : RepInv cell.cellTree) (packet : JoinCellPacket) :
    RepInv (cell.handleJoinCell packet).tree := by
  unfold Cell.handleJoinCell
  dsimp only
  split
  · exact inv.addAt _ _
  · exact inv

end Stheno.Superpeer
