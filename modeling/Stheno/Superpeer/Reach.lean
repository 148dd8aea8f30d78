import Stheno.Superpeer.Promotion

/-!
# Runs of the cell tree

`Reachable` is every result that the operations of `CellTree` give on a fresh
tree, in any order and on any arguments.  A run ends at its first fault.  The
guard restricts the calls of `removeCell`; no other call is restricted.
-/

namespace Stheno.Superpeer

open Stheno.Tree Peer

/-- A copy of a tree at other addresses satisfies the invariant. -/
theorem RepInv.relocated {t : CellTree} (inv : RepInv t) (base : Addr) :
    RepInv (t.relocated base) := by
  constructor
  · exact CellTreeNode.allEdges_relocate
      (fun _ _ _ _ _ _ edge => ⟨rfl, edge.spanNo, edge.depth⟩) inv.linked none base
  · rw [CellTree.addrs, CellTree.relocated, (CellTreeNode.addrs_relocate none base t.rootNode).1]
    exact List.nodup_range'
  · rw [CellTree.relocated, CellTreeNode.label_relocate]
  · rw [CellTree.relocated, CellTreeNode.label_relocate]
    exact inv.rootDepth

/-- Every depth has room for at least one child. -/
def P3Configuration.PositiveSpans (config : P3Configuration) : Prop :=
  ∀ depth, 0 < config.treeSpan depth

/-- The results of runs whose calls of `removeCell` satisfy a guard.  Each call
may meet a configuration of its own, since subtrees come from other processes. -/
inductive Reachable (guard : CellTree → CellID → Prop) : Result CellTree → Prop where
  | fresh (config : P3Configuration) (rootCellID : CellID) (spans : config.PositiveSpans) :
      Reachable guard (.ok (CellTree.new config rootCellID))
  /-- Also `createCell()`, whose identifier is generated. -/
  | createCell {t : CellTree} (reached : Reachable guard (.ok t)) (config : P3Configuration)
      (cellID : CellID) (spans : config.PositiveSpans) :
      Reachable guard ((t.createCell config cellID).map Prod.fst)
  | addPeer {t : CellTree} (reached : Reachable guard (.ok t)) (peer : P3PeerInfo) :
      Reachable guard (.ok (t.addPeer peer).1)
  | addPeerUnder {t : CellTree} (reached : Reachable guard (.ok t)) (config : P3Configuration)
      (peer : P3PeerInfo) (parentCellID : Option CellID) (spans : config.PositiveSpans) :
      Reachable guard ((t.addPeerUnder config peer parentCellID).map Prod.fst)
  /-- The subtree is a tree of its own, so its nodes have other addresses. -/
  | addSubtree {t s : CellTree} (reached : Reachable guard (.ok t))
      (reachedSubtree : Reachable guard (.ok s)) (base : Addr)
      (apart : List.Disjoint (s.relocated base).addrs t.addrs) (parentCellID : Option CellID) :
      Reachable guard (.ok (t.addSubtree (s.relocated base) parentCellID).1)
  | removeSubtree {t : CellTree} (reached : Reachable guard (.ok t)) (fid : CellID)
      (notRoot : t.getCellTreeNode fid ≠ some []) :
      Reachable guard ((t.removeSubtree fid).map Prod.fst)
  | pruneSubtrees {t : CellTree} (reached : Reachable guard (.ok t)) (l : List UUID) :
      Reachable guard (t.pruneSubtrees l)
  | removeCell {t : CellTree} (reached : Reachable guard (.ok t)) (cellID : CellID)
      (allowed : guard t cellID) : Reachable guard (t.removeCell cellID)
  | transfer {t copy : CellTree} (reached : Reachable guard (.ok t))
      (transferable : t.Transferable) {bytes : List UInt8} (written : t.serialize = .ok bytes)
      (base : Addr) {rest : List UInt8} {goodBit : Bool} {after : Wire.InputStream}
      (read : CellTree.deserialize base ⟨bytes ++ rest, goodBit⟩ = .ok (copy, after)) :
      Reachable guard (.ok copy)

/-- What a run may end in: a tree with the invariant, or the crash of a call with a
null argument or on a cell without coordinator, which leaves no tree.  Writing
outside an array or linking freed memory is excluded. -/
def Sound : Result CellTree → Prop
  | .ok t => RepInv t
  | .error .nullDereference => True
  | .error _ => False

theorem sound_error_iff {fault : Fault} : Sound (.error fault) ↔ fault = .nullDereference := by
  cases fault <;> simp [Sound]

theorem pruneSlot_error {l : List UUID} {slot : Option CellTreeNode} {fault : Fault}
    (failed : CellTree.pruneSlot l slot = .error fault) : fault = .nullDereference := by
  unfold CellTree.pruneSlot at failed
  split at failed
  · cases failed
  · split at failed <;> cases failed
    rfl

theorem pruneSubtrees_error {t : CellTree} {l : List UUID} {fault : Fault}
    (failed : t.pruneSubtrees l = .error fault) : fault = .nullDereference := by
  have inSlots : ∀ (slots : List (Option CellTreeNode)) (fault : Fault),
      slots.mapM (CellTree.pruneSlot l) = .error fault → fault = .nullDereference := by
    intro slots
    induction slots with
    | nil =>
        intro fault impossible
        cases impossible
    | cons slot slots ih =>
        intro fault failed
        rw [List.mapM_cons] at failed
        cases here : CellTree.pruneSlot l slot with
        | error first =>
            rw [here] at failed
            cases failed
            exact pruneSlot_error here
        | ok after =>
            cases there : slots.mapM (CellTree.pruneSlot l) with
            | error first =>
                rw [here, there] at failed
                cases failed
                exact ih _ there
            | ok rest =>
                rw [here, there] at failed
                cases failed
  unfold CellTree.pruneSubtrees at failed
  cases kept : t.rootNode.slots.mapM (CellTree.pruneSlot l) with
  | error first =>
      rw [kept] at failed
      cases failed
      exact inSlots _ _ kept
  | ok slots =>
      rw [kept] at failed
      cases failed

namespace RepInv

variable {t : CellTree}

/-- A call of `removeCell` ends well exactly when the promoted node fits. -/
theorem sound_removeCell_iff (inv : RepInv t) (cellID : CellID) :
    Sound (t.removeCell cellID) ↔ t.PromotionFits cellID := by
  cases removed : t.removeCell cellID with
  | ok out =>
      exact iff_of_true (inv.removeCell removed) (inv.promotionFits_of_removeCell removed)
  | error fault =>
      rcases inv.removeCell_error_iff.mp removed with ⟨rfl, unfit⟩
      exact iff_of_false id unfit

theorem sound_removeSubtree (inv : RepInv t) {fid : CellID}
    (notRoot : t.getCellTreeNode fid ≠ some []) : Sound ((t.removeSubtree fid).map Prod.fst) := by
  cases removed : t.removeSubtree fid with
  | ok out => exact inv.removeSubtree removed
  | error fault =>
      cases found : t.getCellTreeNode fid with
      | none =>
          rw [CellTree.removeSubtree] at removed
          simp [found] at removed
      | some path =>
          rcases List.eq_nil_or_concat' path with rfl | ⟨above, i, rfl⟩
          · exact absurd found notRoot
          · rw [inv.removeSubtree_eq found] at removed
            cases removed

theorem sound_createCell (inv : RepInv t) (config : P3Configuration) (cellID : CellID) :
    Sound ((t.createCell config cellID).map Prod.fst) := by
  unfold CellTree.createCell
  split
  · exact inv.createSiblingAt config _ cellID
  · trivial

theorem sound_addPeerUnder (inv : RepInv t) (config : P3Configuration) (peer : P3PeerInfo)
    (parentCellID : Option CellID) :
    Sound ((t.addPeerUnder config peer parentCellID).map Prod.fst) := by
  cases added : t.addPeerUnder config peer parentCellID with
  | ok out => exact inv.addPeerUnder added
  | error fault =>
      rcases t.addPeerUnder_cases config peer parentCellID with
        ⟨path, -, here⟩ | ⟨-, -, crash⟩ | ⟨-, parent, path, n, i, -, -, -, -, created⟩ |
          ⟨-, -, refused⟩
      · cases here.symm.trans added
      · cases crash.symm.trans added
        trivial
      · cases created.symm.trans added
      · cases refused.symm.trans added

theorem sound_pruneSubtrees (inv : RepInv t) (l : List UUID) : Sound (t.pruneSubtrees l) := by
  cases pruned : t.pruneSubtrees l with
  | ok out => exact inv.pruneSubtrees pruned
  | error fault => exact sound_error_iff.mpr (pruneSubtrees_error pruned)

end RepInv

/-- A run whose promotions fit keeps the invariant in every tree it reaches. -/
theorem sound_of_reachable {r : Result CellTree}
    (reached : Reachable CellTree.PromotionFits r) : Sound r := by
  induction reached with
  | fresh config rootCellID spans => exact RepInv.new config rootCellID
  | createCell reached config cellID spans ih => exact RepInv.sound_createCell ih config cellID
  | addPeer reached peer ih => exact RepInv.addPeer ih peer
  | addPeerUnder reached config peer parentCellID spans ih =>
      exact RepInv.sound_addPeerUnder ih config peer parentCellID
  | addSubtree reached reachedSubtree base apart parentCellID ih ihSubtree =>
      have subtree := RepInv.relocated ihSubtree base
      exact RepInv.addSubtree ih (subtree.linked.mono fun _ _ _ edge => edge.parent)
        subtree.unshared apart parentCellID
  | removeSubtree reached fid notRoot ih => exact RepInv.sound_removeSubtree ih notRoot
  | pruneSubtrees reached l ih => exact RepInv.sound_pruneSubtrees ih l
  | removeCell reached cellID allowed ih =>
      exact (RepInv.sound_removeCell_iff ih cellID).mpr allowed
  | transfer reached transferable written base read ih =>
      rw [CellTree.octets_of_serialize written, CellTree.reads_tree transferable base] at read
      cases read
      exact RepInv.relocated ih base

/-- The invariant holds in every state of a run whose promotions fit, and the next
`removeCell` keeps it exactly when its promotion fits too. -/
theorem repInv_of_promotionFits {t : CellTree} (reached : Reachable CellTree.PromotionFits (.ok t)) :
    RepInv t ∧ ∀ cellID, Sound (t.removeCell cellID) ↔ t.PromotionFits cellID :=
  ⟨sound_of_reachable reached, fun cellID =>
    RepInv.sound_removeCell_iff (sound_of_reachable reached) cellID⟩

/-- The default configuration, except for the span of the root. -/
def rootSpan (span : Int) : P3Configuration where
  TREE_SPAN := fun depth => if depth = 0 then some span else none
  CELL_SPS := fun _ => none
  CELL_SENSORS := fun _ => none
  CELL_MONITORS := fun _ => none

theorem positiveSpans_rootSpan {span : Int} (positive : 0 < span) :
    (rootSpan span).PositiveSpans := by
  intro depth
  unfold P3Configuration.treeSpan P3Configuration.lookupValue rootSpan
  by_cases root : depth = 0
  · simp [root, positive]
  · simp [root]

/-- A run: a root cell, a child cell, and a peer in a new cell below the child. -/
def twoBelow (span : Int) : Result CellTree :=
  ((CellTree.new (rootSpan span) ⟨[0]⟩).createCell (rootSpan span) ⟨[1]⟩).bind fun first =>
    (first.1.addPeerUnder (rootSpan span)
      (P3PeerInfo.announced P3PeerInfo.SUPERPEER ⟨[9]⟩ ⟨[2]⟩ none none none none)
      (some ⟨[1]⟩)).map Prod.fst

theorem reachable_twoBelow (guard : CellTree → CellID → Prop) {span : Int} (positive : 0 < span)
    {t : CellTree} (built : twoBelow span = .ok t) : Reachable guard (.ok t) := by
  have spans := positiveSpans_rootSpan positive
  have initial : Reachable guard (.ok (CellTree.new (rootSpan span) ⟨[0]⟩)) :=
    .fresh (rootSpan span) ⟨[0]⟩ spans
  have first := initial.createCell (rootSpan span) ⟨[1]⟩ spans
  unfold twoBelow at built
  cases created : (CellTree.new (rootSpan span) ⟨[0]⟩).createCell (rootSpan span) ⟨[1]⟩ with
  | error fault =>
      rw [created] at built
      cases built
  | ok out =>
      rw [created] at first built
      rw [← built]
      exact Reachable.addPeerUnder first (rootSpan span) _ _ spans

/-- With the spans equal, the cell below moves up. -/
theorem repInv_removeCell_twoBelow :
    ∃ t after, twoBelow 2 = .ok t ∧ t.removeCell ⟨[1]⟩ = .ok after ∧ RepInv after := by
  refine ⟨_, _, rfl, rfl, ?_⟩
  have reached := reachable_twoBelow CellTree.PromotionFits (by decide) (rfl : twoBelow 2 = .ok _)
  exact (repInv_of_promotionFits (reached.removeCell ⟨[1]⟩ (by decide))).1

/-- A root of span 3 above cells of span 2: the loop leaves the arrays. -/
theorem not_sound_of_reachable : ¬∀ r, Reachable (fun _ _ => True) r → Sound r := by
  intro sound
  have reached := reachable_twoBelow (fun _ _ => True) (by decide) (rfl : twoBelow 3 = .ok _)
  exact sound _ (reached.removeCell ⟨[1]⟩ trivial)

end Stheno.Superpeer
