import Stheno.Superpeer.Joining
import Stheno.Superpeer.RebindChain

/-!
# Grafting a subtree

`addSubtree` answers 0 when it has grafted the subtree and also when the root cell of
the subtree is in the tree already.  In the second case nothing is grafted, wherever
that cell stands and whatever it holds.
-/

namespace Stheno.Superpeer

open Stheno.Tree Peer

/-- The cell with the record of each of its peers. -/
def CellInfo.occupants (this : CellInfo) : List (CellID × P3PeerInfo) :=
  this.allPeers.map fun peer => (this.cellID, peer)

namespace CellTree

/-- All pairs of a cell and the record of a peer in it. -/
def occupants (this : CellTree) : List (CellID × P3PeerInfo) :=
  this.rootNode.collect CellInfo.occupants

/-- The node at a position is the parent that a call names, the root for null. -/
def IsNamedParent (this : CellTree) (parentCellID : Option CellID) (path : Path) (n : CellTreeNode) :
    Prop :=
  this.rootNode.at? path = some n ∧
    match parentCellID with
    | none => path = []
    | some parentCellID => n.label.cellID = parentCellID

/-- A cell is a direct child of the named parent. -/
def IsDirectChild (this : CellTree) (cellID : CellID) (parentCellID : Option CellID) : Prop :=
  ∃ path n i c, this.IsNamedParent parentCellID path n ∧ n.child i = some c ∧ c.label.cellID = cellID

/-- What success means: the subtree's root is below the parent, the pairs of the
subtree are in the tree, and the pairs of the tree outside the old place of that root
have stayed. -/
structure Grafted (before subTree after : CellTree) (parentCellID : Option CellID) : Prop where
  child : after.IsDirectChild subTree.getRootCellID parentCellID
  added : ∀ pair ∈ subTree.occupants, pair ∈ after.occupants
  kept : ∀ path n, before.rootNode.at? path = some n →
    (∀ old, before.getCellTreeNode subTree.getRootCellID = some old → ¬ List.IsPrefix old path) →
    ∀ pair ∈ n.label.occupants, pair ∈ after.occupants

/-- The subtree is in the tree already, below the parent and with all its pairs. -/
def Held (this subTree : CellTree) (parentCellID : Option CellID) : Prop :=
  this.IsDirectChild subTree.getRootCellID parentCellID ∧
    ∀ pair ∈ subTree.occupants, pair ∈ this.occupants

variable {t s : CellTree} {path : Path} {n : CellTreeNode} {i : Nat}

theorem mem_occupants {pair : CellID × P3PeerInfo} (found : t.rootNode.at? path = some n)
    (member : pair ∈ n.label.occupants) : pair ∈ t.occupants :=
  SlotTree.mem_collect_iff.mpr ⟨path, n, found, member⟩

theorem occupants_graft_perm (found : t.rootNode.at? path = some n)
    (free : CellTreeNode.firstFree n = some i) :
    (t.modify path (graft s.rootNode i)).occupants.Perm (s.occupants ++ t.occupants) := by
  have filled := SlotTree.collect_fillAt_perm CellInfo.occupants
    (c := CellTreeNode.grafted s.rootNode n i) found (CellTreeNode.firstFree_eq_some free)
  have same : (CellTreeNode.grafted s.rootNode n i).collect CellInfo.occupants = s.occupants := by
    rw [occupants, SlotTree.collect, SlotTree.collect, List.flatMap_def, List.flatMap_def,
      CellTreeNode.map_labels_grafted CellInfo.occupants (fun _ _ _ => rfl) (fun _ _ => rfl)]
  rw [same] at filled
  rw [graft_congr found]
  exact filled

/-- The node that `addSubtree` looks up is the parent that the call names. -/
theorem isNamedParent_of_subtreeParent {parentCellID : Option CellID}
    (under : t.subtreeParent parentCellID = some path) (found : t.rootNode.at? path = some n) :
    t.IsNamedParent parentCellID path n := by
  refine ⟨found, ?_⟩
  cases parentCellID with
  | none => exact (Option.some.inj under).symm
  | some parentCellID =>
      rcases getCellTreeNode_eq_some under with ⟨m, foundM, labelled⟩
      cases found.symm.trans foundM
      exact labelled

theorem isDirectChild_graft {parentCellID : Option CellID}
    (parent : t.IsNamedParent parentCellID path n) (free : CellTreeNode.firstFree n = some i) :
    (t.modify path (graft s.rootNode i)).IsDirectChild s.getRootCellID parentCellID := by
  have bound := (List.getElem?_eq_some_iff.mp (CellTreeNode.firstFree_eq_some free)).1
  refine ⟨path, graft s.rootNode i n, i, CellTreeNode.grafted s.rootNode n i, ⟨?_, ?_⟩, ?_, ?_⟩
  · rw [modify, SlotTree.at?_modifyAt_self, parent.1, Option.map_some]
  · have named := parent.2
    cases parentCellID with
    | none => exact named
    | some parentCellID => exact named
  · exact (SlotTree.child_setSlot n i i _).trans (if_pos ⟨rfl, bound⟩)
  · rw [CellTreeNode.grafted, CellTreeNode.setParent, SlotTree.mapLabel, SlotTree.label_node,
      CellTreeNode.label_setLocation]
    rfl

/-- A graft into a free slot meets the description of success. -/
theorem grafted_graft {parentCellID : Option CellID}
    (under : t.subtreeParent parentCellID = some path) (found : t.rootNode.at? path = some n)
    (free : CellTreeNode.firstFree n = some i) :
    Grafted t s (t.modify path (graft s.rootNode i)) parentCellID := by
  have same := occupants_graft_perm (s := s) found free
  constructor
  · exact isDirectChild_graft (isNamedParent_of_subtreeParent under found) free
  · intro pair member
    exact same.mem_iff.mpr (List.mem_append_left _ member)
  · intro place m foundM _ pair member
    exact same.mem_iff.mpr (List.mem_append_right _ (mem_occupants foundM member))

/-- The answer of `addSubtree` says what happened exactly if the root cell of the
subtree was unknown or there was nothing to graft. -/
theorem addSubtree_correct_iff (t s : CellTree) (parentCellID : Option CellID) :
    (((t.addSubtree s parentCellID).2 = 0 →
        Grafted t s (t.addSubtree s parentCellID).1 parentCellID) ∧
      ((t.addSubtree s parentCellID).2 = -1 → (t.addSubtree s parentCellID).1 = t)) ↔
    t.getCellTreeNode s.getRootCellID = none ∨ t.Held s parentCellID := by
  rcases t.addSubtree_cases s parentCellID with
    ⟨known, kept⟩ | ⟨unknown, path, n, i, under, found, free, grafted⟩ | ⟨unknown, full, refused⟩
  · rw [kept]
    constructor
    · rintro ⟨success, -⟩
      have done := success rfl
      exact Or.inr ⟨done.child, done.added⟩
    · rintro (unknown | ⟨child, added⟩)
      · exact absurd unknown known
      · constructor
        · intro _
          exact ⟨child, added, fun path n found _ pair member => mem_occupants found member⟩
        · intro _
          rfl
  · rw [grafted]
    refine iff_of_true ⟨?_, ?_⟩ (Or.inl unknown)
    · intro _
      exact grafted_graft under found free
    · intro impossible
      cases impossible
  · rw [refused]
    refine iff_of_true ⟨?_, ?_⟩ (Or.inl unknown)
    · intro impossible
      cases impossible
    · intro _
      rfl

/-! ## A rebind of a known cell -/

/-- The record of a superpeer of a cell, as a join announces it. -/
def superpeer (pid : UUID) (cellID : CellID) : P3PeerInfo :=
  .announced P3PeerInfo.SUPERPEER pid cellID none none none none

/-- The cell 1 with the superpeer 11 below the root cell 0. -/
def knownCell (config : P3Configuration) : Result (CellTree × Int) :=
  (CellTree.new config ⟨[0]⟩).addPeerUnder config (superpeer ⟨[11]⟩ ⟨[1]⟩) (some ⟨[0]⟩)

/-- The same cell as its coordinator sends it, with the superpeer 12 as well. -/
def newerCell (config : P3Configuration) : CellTree :=
  (((CellTree.new config ⟨[1]⟩).addPeer (superpeer ⟨[11]⟩ ⟨[1]⟩)).1.addPeer
    (superpeer ⟨[12]⟩ ⟨[1]⟩)).1

/-- The newer content is dropped, and the answer is 0. -/
theorem exists_addSubtree_drops :
    ∃ tree, knownCell defaults = .ok (tree, 0) ∧
      (tree.addSubtree (newerCell defaults) (some ⟨[0]⟩)).2 = 0 ∧
      (⟨[1]⟩, superpeer ⟨[12]⟩ ⟨[1]⟩) ∈ (newerCell defaults).occupants ∧
      ¬ Grafted tree (newerCell defaults) (tree.addSubtree (newerCell defaults) (some ⟨[0]⟩)).1
        (some ⟨[0]⟩) := by
  have drops : ∃ out, knownCell defaults = .ok out ∧ out.2 = 0 ∧
      (out.1.addSubtree (newerCell defaults) (some ⟨[0]⟩)).2 = 0 ∧
      (⟨[1]⟩, superpeer ⟨[12]⟩ ⟨[1]⟩) ∈ (newerCell defaults).occupants ∧
      (⟨[1]⟩, superpeer ⟨[12]⟩ ⟨[1]⟩) ∉
        (out.1.addSubtree (newerCell defaults) (some ⟨[0]⟩)).1.occupants := by
    decide +kernel
  rcases drops with ⟨⟨tree, answer⟩, known, rfl, success, sent, dropped⟩
  refine ⟨tree, known, success, sent, ?_⟩
  intro grafted
  exact dropped (grafted.added _ sent)

end CellTree

end Stheno.Superpeer
