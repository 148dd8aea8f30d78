import Stheno.Superpeer.Shape

/-!
# Removing subtrees and cells

`removeSubtree` and `replaceSibling` look a node up by its address.  Under the
representation invariant an address names one position, so both empty or fill
exactly the slot that holds the node.  `removeCell` moves the bottom node found
below the cell into the place of the cell; its inner loop runs over the span of
the parent, so the outcome depends on three spans.
-/

namespace Stheno.Superpeer

open Stheno.Tree Peer

namespace CellTree

/-! ## The searches of `removeCell` -/

/-- The search for the parent of a cell is the search for the cell, one step short. -/
theorem getParentTreeNodeI_eq {t : CellTreeNode} {cellID : CellID}
    (other : t.label.cellID.sameKey cellID = false) :
    getParentTreeNodeI cellID t =
      (t.findPath fun info => info.cellID.sameKey cellID).map List.dropLast := by
  induction t using SlotTree.induction with
  | node info slots ih =>
      have inSlots : ∀ (rest : List (Option CellTreeNode)) (i : Nat),
          (∀ c, some c ∈ rest → some c ∈ slots) →
          getParentTreeNodeOfSlots cellID i rest =
            (SlotTree.findPathInSlots (fun info => info.cellID.sameKey cellID) i rest).map
              List.dropLast := by
        intro rest
        induction rest with
        | nil => simp [getParentTreeNodeOfSlots, SlotTree.findPathInSlots]
        | cons slot rest restIh =>
            intro i included
            have tail := restIh (i + 1) fun c member => included c (List.mem_cons_of_mem _ member)
            cases slot with
            | none => simpa [getParentTreeNodeOfSlots, SlotTree.findPathInSlots] using tail
            | some c =>
                rw [getParentTreeNodeOfSlots, SlotTree.findPathInSlots]
                by_cases here : c.label.cellID.sameKey cellID = true
                · rw [if_pos here, SlotTree.findPath_of_label here]
                  rfl
                · have below := ih c (included c List.mem_cons_self)
                    (Bool.eq_false_iff.mpr here)
                  rw [if_neg here, below]
                  cases searched : c.findPath fun info => info.cellID.sameKey cellID with
                  | none => simpa using tail
                  | some path =>
                      rcases SlotTree.findPath_eq_some searched with ⟨n, atPath, passes⟩
                      -- the root of the child is not the cell, so the position goes on below it
                      have proper : path ≠ [] := by
                        rintro rfl
                        rw [SlotTree.at?_nil, Option.some.injEq] at atPath
                        exact here (atPath ▸ passes)
                      simp [List.dropLast_cons_of_ne_nil proper]
      rw [getParentTreeNodeI, SlotTree.findPath_node, inSlots slots 0 fun c member => member,
        SlotTree.label_node] at *
      rw [if_neg (by simp [other])]

theorem getParentTreeNode_of_root {t : CellTree} {cellID : CellID}
    (found : t.getCellTreeNode cellID = some []) : t.getParentTreeNode cellID = none := by
  rcases getCellTreeNode_eq_some found with ⟨n, atPath, equal⟩
  rw [SlotTree.at?_nil, Option.some.injEq] at atPath
  have same : t.getRootCellID.sameKey cellID = true := by
    rw [UUID.sameKey_iff, ← equal, ← atPath]
    rfl
  rw [getParentTreeNode, if_pos same]

theorem getParentTreeNode_of_child {t : CellTree} {cellID : CellID} {path : Path} {i : Nat}
    (found : t.getCellTreeNode cellID = some (path ++ [i])) :
    t.getParentTreeNode cellID = some path := by
  have other : t.getRootCellID.sameKey cellID = false := by
    rw [Bool.eq_false_iff, ne_eq, UUID.sameKey_iff]
    rintro rfl
    rw [getCellTreeNode_of_root] at found
    simp at found
  rw [getCellTreeNode] at found
  rw [getParentTreeNode, if_neg (by simp [other]), getParentTreeNodeI_eq other, found]
  simp

/-- The way down ends at a node of the subtree whose slots are all empty. -/
theorem at?_findBottomPath (t : CellTreeNode) :
    ∃ bottom, t.at? (findBottomPath t) = some bottom ∧ ∀ i, bottom.child i = none := by
  induction t using SlotTree.induction with
  | node info slots ih =>
      have inSlots : ∀ (done rest : List (Option CellTreeNode)), slots = done ++ rest →
          (∀ slot ∈ done, slot = none) →
          ∃ bottom, (SlotTree.node info slots).at? (findBottomOfSlots done.length rest) =
            some bottom ∧ ∀ i, bottom.child i = none := by
        intro done rest
        induction rest generalizing done with
        | nil =>
            intro whole empty
            refine ⟨.node info slots, by rw [findBottomOfSlots, SlotTree.at?_nil], ?_⟩
            intro i
            cases held : (SlotTree.node info slots).child i with
            | none => rfl
            | some c =>
                have member := SlotTree.mem_slots_of_child held
                rw [SlotTree.slots_node, whole, List.append_nil] at member
                exact absurd (empty _ member) (by simp)
        | cons slot rest restIh =>
            intro whole empty
            cases slot with
            | none =>
                have next := restIh (done ++ [none]) (by simp [whole]) (by
                  intro slot member
                  rcases List.mem_append.mp member with inDone | last
                  · exact empty slot inDone
                  · exact List.mem_singleton.mp last)
                rw [findBottomOfSlots]
                simpa using next
            | some c =>
                have held : (SlotTree.node info slots).child done.length = some c := by
                  rw [SlotTree.child_eq_some_iff, SlotTree.slots_node, whole]
                  simp
                rcases ih c (SlotTree.mem_slots_of_child held) with ⟨bottom, atBottom, leaf⟩
                refine ⟨bottom, ?_, leaf⟩
                rw [findBottomOfSlots, SlotTree.at?_cons, held, Option.bind_some, atBottom]
      rw [findBottomPath]
      exact inSlots [] slots rfl (by simp)

/-! ## Pruning -/

theorem forall₂_pruneSlot {l : List UUID} {slots kept : List (Option CellTreeNode)}
    (done : slots.mapM (pruneSlot l) = .ok kept) :
    List.Forall₂ (fun slot after => after = slot ∨ after = none) slots kept := by
  induction slots generalizing kept with
  | nil =>
      cases done
      exact List.Forall₂.nil
  | cons slot slots ih =>
      rw [List.mapM_cons] at done
      cases here : pruneSlot l slot with
      | error fault =>
          rw [here] at done
          cases done
      | ok after =>
          cases there : slots.mapM (pruneSlot l) with
          | error fault =>
              rw [here, there] at done
              cases done
          | ok rest =>
              rw [here, there] at done
              cases done
              apply List.Forall₂.cons _ (ih there)
              unfold pruneSlot at here
              split at here
              · cases here
                exact Or.inl rfl
              · split at here
                · cases here
                · cases here
                  split
                  · exact Or.inl rfl
                  · exact Or.inr rfl

theorem child_of_pruned {label : CellInfo} {t c : CellTreeNode} {kept : List (Option CellTreeNode)}
    {i : Nat} (slotwise : List.Forall₂ (fun slot after => after = slot ∨ after = none) t.slots kept)
    (held : (SlotTree.node label kept).child i = some c) : t.child i = some c := by
  rw [SlotTree.child_eq_some_iff, SlotTree.slots_node] at held
  rw [SlotTree.child_eq_some_iff]
  have bound : i < t.slots.length := by
    rw [slotwise.length_eq]
    exact (List.getElem?_eq_some_iff.mp held).1
  have boundKept : i < kept.length := slotwise.length_eq ▸ bound
  have related := slotwise.get bound boundKept
  rw [List.getElem?_eq_getElem boundKept, Option.some.injEq] at held
  simp only [List.get_eq_getElem, held, reduceCtorEq, or_false] at related
  rw [List.getElem?_eq_getElem bound, related]

theorem labels_of_pruned {slots kept : List (Option CellTreeNode)}
    (slotwise : List.Forall₂ (fun slot after => after = slot ∨ after = none) slots kept) :
    (SlotTree.labelsOfSlots kept).Sublist (SlotTree.labelsOfSlots slots) := by
  induction slotwise with
  | nil => exact List.Sublist.refl _
  | @cons slot after slots kept related rest ih =>
      rcases related with rfl | rfl
      · cases after with
        | none => simpa using ih
        | some c =>
            simp only [SlotTree.labelsOfSlots_cons_some]
            exact ih.append_left _
      · cases slot with
        | none => simpa using ih
        | some c =>
            simp only [SlotTree.labelsOfSlots_cons_some, SlotTree.labelsOfSlots_cons_none]
            exact ih.trans (List.sublist_append_right _ _)

end CellTree

/-! ## Addresses name positions -/

namespace RepInv

variable {t : CellTree}

theorem deref_addr (inv : RepInv t) {path : Path} {n : CellTreeNode}
    (found : t.rootNode.at? path = some n) : t.deref n.label.addr = some path :=
  SlotTree.findPath_key inv.unshared found

/-- The first slot that holds the address of a child is the slot of the child. -/
theorem findIdx?_addr (inv : RepInv t) {path : Path} {p c : CellTreeNode} {i : Nat}
    (found : t.rootNode.at? path = some p) (held : p.child i = some c) :
    (p.slots.findIdx? fun child => child.any fun d => d.label.addr = c.label.addr) = some i := by
  rcases List.getElem?_eq_some_iff.mp (SlotTree.child_eq_some_iff.mp held) with ⟨bound, entry⟩
  rw [List.findIdx?_eq_some_iff_getElem]
  refine ⟨bound, by simp [entry], ?_⟩
  intro j below
  have boundJ : j < p.slots.length := Nat.lt_trans below bound
  cases slot : p.slots[j] with
  | none => simp
  | some d =>
      have heldD : p.child j = some d :=
        SlotTree.child_eq_some_iff.mpr (by rw [List.getElem?_eq_getElem boundJ, slot])
      simp only [Option.any_some, decide_eq_true_eq]
      intro equal
      have same := SlotTree.path_eq_of_key_eq inv.unshared (SlotTree.at?_snoc found heldD)
        (SlotTree.at?_snoc found held) equal
      exact absurd (List.append_cancel_left same) (by simp [Nat.ne_of_lt below])

/-- The node that a search finds below the root, with the node that holds it. -/
theorem holder_of_found {fid : CellID} {path : Path} {i : Nat}
    (found : t.getCellTreeNode fid = some (path ++ [i])) :
    ∃ p c, t.rootNode.at? path = some p ∧ p.child i = some c ∧ c.label.cellID = fid ∧
      t.rootNode.at? (path ++ [i]) = some c := by
  rcases CellTree.getCellTreeNode_eq_some found with ⟨c, atPath, equal⟩
  have reached := atPath
  rw [SlotTree.at?_append] at reached
  rcases Option.bind_eq_some_iff.mp reached with ⟨p, atParent, last⟩
  rw [SlotTree.at?_cons] at last
  rcases Option.bind_eq_some_iff.mp last with ⟨d, held, atEnd⟩
  rw [SlotTree.at?_nil, Option.some.injEq] at atEnd
  subst atEnd
  exact ⟨p, d, atParent, held, equal, atPath⟩

theorem holder_of_at? {n c : CellTreeNode} {path : Path} {i : Nat}
    (found : n.at? (path ++ [i]) = some c) : ∃ p, n.at? path = some p ∧ p.child i = some c := by
  rw [SlotTree.at?_append] at found
  rcases Option.bind_eq_some_iff.mp found with ⟨p, atParent, last⟩
  rw [SlotTree.at?_cons] at last
  rcases Option.bind_eq_some_iff.mp last with ⟨d, held, atEnd⟩
  rw [SlotTree.at?_nil] at atEnd
  exact ⟨p, atParent, held.trans atEnd⟩

/-- Removing the subtree of a cell below the root empties the slot that holds it. -/
theorem removeSubtree_eq (inv : RepInv t) {fid : CellID} {path : Path} {i : Nat}
    (found : t.getCellTreeNode fid = some (path ++ [i])) :
    t.removeSubtree fid = .ok (t.modify path fun n => n.setSlot i none, 0) := by
  rcases holder_of_found found with ⟨p, c, atParent, held, -, atPath⟩
  have edge := inv.linked p (SlotTree.mem_nodes_of_at? atParent) i c held
  have slot := inv.findIdx?_addr atParent held
  unfold CellTree.removeSubtree
  simp only [found, atPath, Option.bind_some, edge.parent, inv.deref_addr atParent, Option.map_some,
    atParent, Option.some.injEq, slot]

/-- The root has no parent to be unlinked from. -/
theorem removeSubtree_root (inv : RepInv t) {fid : CellID}
    (found : t.getCellTreeNode fid = some []) : t.removeSubtree fid = .error .freedNode := by
  unfold CellTree.removeSubtree
  simp [found, inv.rootParent]

theorem removeSubtree (inv : RepInv t) {fid : CellID} {out : CellTree × Int}
    (removed : t.removeSubtree fid = .ok out) : RepInv out.1 := by
  cases found : t.getCellTreeNode fid with
  | none =>
      simp only [CellTree.removeSubtree, found, Except.ok.injEq] at removed
      rw [← removed]
      exact inv
  | some path =>
      rcases List.eq_nil_or_concat' path with rfl | ⟨above, i, rfl⟩
      · rw [inv.removeSubtree_root found] at removed
        cases removed
      · rcases holder_of_found found with ⟨p, c, atParent, held, -, -⟩
        rw [inv.removeSubtree_eq found] at removed
        cases removed
        exact inv.clear atParent held

/-- Pruning empties slots of the root and touches nothing else. -/
theorem pruneSubtrees (inv : RepInv t) {l : List UUID} {pruned : CellTree}
    (done : t.pruneSubtrees l = .ok pruned) : RepInv pruned := by
  unfold CellTree.pruneSubtrees at done
  cases kept : t.rootNode.slots.mapM (CellTree.pruneSlot l) with
  | error fault =>
      rw [kept] at done
      cases done
  | ok slots =>
      rw [kept] at done
      cases done
      have slotwise := CellTree.forall₂_pruneSlot kept
      constructor
      · rw [SlotTree.allEdges_iff]
        intro i c held
        exact SlotTree.allEdges_iff.mp inv.linked i c (CellTree.child_of_pruned slotwise held)
      · have whole := inv.unshared
        rw [CellTree.addrs, SlotTree.labels_eq, List.map_cons] at whole
        rw [CellTree.addrs, SlotTree.labels_node, List.map_cons]
        exact whole.sublist (((CellTree.labels_of_pruned slotwise).map _).cons_cons _)
      · exact inv.rootParent
      · exact inv.rootDepth

end RepInv

/-! ## Moving a leaf into another place -/

namespace CellTreeNode

/-- `placed` with the first `k` slots of `node` in place of its own. -/
def adopted (node placed : CellTreeNode) (k : Nat) : CellTreeNode :=
  .node placed.label
    ((node.slots.take k).map (Option.map (setParent (some placed.label.addr))) ++
      placed.slots.drop k)

theorem adoptSibling_adopted (node placed : CellTreeNode) {k : Nat} (boundPlaced : k ≤ treeSpan placed)
    (boundNode : k ≤ treeSpan node) :
    adoptSibling node (adopted node placed k) k =
      if k < treeSpan node ∧ k < treeSpan placed then .ok (adopted node placed (k + 1))
      else .error .outOfBounds := by
  have span : treeSpan (adopted node placed k) = treeSpan placed := by
    simp only [treeSpan, adopted, SlotTree.slots_node, List.length_append, List.length_map,
      List.length_take, List.length_drop] at *
    omega
  unfold adoptSibling getSibling setSibbling
  by_cases inNode : k < treeSpan node
  · rw [List.getElem?_eq_getElem inNode]
    simp only [bind, Except.bind, span]
    by_cases inPlaced : k < treeSpan placed
    · rw [if_pos inPlaced, if_pos ⟨inNode, inPlaced⟩]
      have moved : (List.map (Option.map (setParent (some placed.label.addr))) (node.slots.take k)).length =
          k := by
        rw [List.length_map, List.length_take]
        exact Nat.min_eq_left boundNode
      rw [adopted, SlotTree.setSlot, SlotTree.label_node, SlotTree.slots_node, adopted,
        List.set_append_right _ _ (Nat.le_of_eq moved), moved, Nat.sub_self,
        List.drop_eq_getElem_cons inPlaced, List.set_cons_zero, List.take_add_one,
        List.getElem?_eq_getElem inNode]
      simp
    · rw [if_neg inPlaced, if_neg fun both => inPlaced both.2]
  · rw [List.getElem?_eq_none (Nat.le_of_not_lt inNode), if_neg fun both => inNode both.1]
    rfl

/-- The inner loop of `replaceSibling` leaves an array when its bound exceeds one
of the two spans. -/
theorem foldlM_adoptSibling (node placed : CellTreeNode) (k : Nat) :
    (List.range k).foldlM (adoptSibling node) placed =
      if k ≤ treeSpan node ∧ k ≤ treeSpan placed then .ok (adopted node placed k)
      else .error .outOfBounds := by
  induction k with
  | zero => simp [adopted, pure, Except.pure]
  | succ k ih =>
      rw [List.range_succ, List.foldlM_append, ih]
      by_cases fits : k ≤ treeSpan node ∧ k ≤ treeSpan placed
      · rw [if_pos fits]
        simp only [bind, Except.bind, List.foldlM_cons, List.foldlM_nil,
          adoptSibling_adopted node placed fits.2 fits.1, Nat.succ_le_iff]
        by_cases next : k < treeSpan node ∧ k < treeSpan placed
        · rw [if_pos next]
          rfl
        · rw [if_neg next]
      · rw [if_neg fits, if_neg (by omega)]
        rfl

theorem replaceSibling_some {this node newNode : CellTreeNode} {i : Nat}
    (slot : (this.slots.findIdx? fun child => child.any fun c => c.label.addr = node.label.addr) =
      some i) :
    replaceSibling this node (some newNode) =
      if treeSpan this ≤ treeSpan node ∧ treeSpan this ≤ treeSpan newNode then
        .ok (this.setSlot i (some (adopted node (placedAt node newNode) (treeSpan this))))
      else
        .error .outOfBounds := by
  have span : treeSpan (placedAt node newNode) = treeSpan newNode := rfl
  unfold replaceSibling
  simp only [slot, foldlM_adoptSibling, span]
  by_cases fits : treeSpan this ≤ treeSpan node ∧ treeSpan this ≤ treeSpan newNode
  · rw [if_pos fits, if_pos fits]
    rfl
  · rw [if_neg fits, if_neg fits]
    rfl

theorem replaceSibling_none {this node : CellTreeNode} {i : Nat}
    (slot : (this.slots.findIdx? fun child => child.any fun c => c.label.addr = node.label.addr) =
      some i) : replaceSibling this node none = .ok (this.setSlot i none) := by
  unfold replaceSibling
  simp only [slot]

theorem map_labelsOfSlots_setParent {β : Type} (g : CellInfo → β)
    (ignores : ∀ info parent, g { info with parent } = g info) (parent : Option Addr)
    (slots : List (Option CellTreeNode)) :
    (SlotTree.labelsOfSlots (slots.map (Option.map (setParent parent)))).map g =
      (SlotTree.labelsOfSlots slots).map g := by
  induction slots with
  | nil => rfl
  | cons slot slots ih =>
      cases slot with
      | none => simpa using ih
      | some c => simp [ih, map_labels_setParent g ignores]

/-- The nodes of an adopting leaf: the leaf itself and the children it takes over. -/
theorem map_labels_adopted {β : Type} (g : CellInfo → β)
    (ignores : ∀ info parent, g { info with parent } = g info) (node : CellTreeNode)
    {placed : CellTreeNode} (leaf : ∀ i, placed.child i = none) (k : Nat) :
    (adopted node placed k).labels.map g =
      g placed.label :: (SlotTree.labelsOfSlots (node.slots.take k)).map g := by
  have rest : SlotTree.labelsOfSlots (placed.slots.drop k) = [] :=
    SlotTree.labelsOfSlots_of_empty fun slot member =>
      SlotTree.empty_of_childless leaf slot (List.mem_of_mem_drop member)
  rw [adopted, SlotTree.labels_node, SlotTree.labelsOfSlots_append, rest, List.append_nil,
    List.map_cons, map_labelsOfSlots_setParent g ignores]

theorem child_adopted {node placed c : CellTreeNode} {k i : Nat}
    (leaf : ∀ i, placed.child i = none) (held : (adopted node placed k).child i = some c) :
    ∃ d, node.child i = some d ∧ c = setParent (some placed.label.addr) d := by
  rw [SlotTree.child_eq_some_iff, adopted, SlotTree.slots_node] at held
  by_cases inNode : i < ((node.slots.take k).map
      (Option.map (setParent (some placed.label.addr)))).length
  · rw [List.getElem?_append_left inNode, List.getElem?_map] at held
    rcases Option.map_eq_some_iff.mp held with ⟨slot, taken, moved⟩
    rcases Option.map_eq_some_iff.mp moved with ⟨d, rfl, equal⟩
    refine ⟨d, ?_, equal.symm⟩
    rw [List.getElem?_take] at taken
    split at taken
    · exact SlotTree.child_eq_some_iff.mpr taken
    · cases taken
  · rw [List.getElem?_append_right (Nat.le_of_not_lt inNode)] at held
    have gone := SlotTree.empty_of_childless leaf _
      (List.mem_of_mem_drop (List.mem_of_getElem? held))
    cases gone

end CellTreeNode

namespace RepInv

variable {t : CellTree}

/-- A leaf that is not in the tree may take the place of a node and the children
in the first `k` slots of the node. -/
theorem replace (inv : RepInv t) {path : Path} {p node leaf : CellTreeNode} {i : Nat}
    (found : t.rootNode.at? path = some p) (held : p.child i = some node)
    (childless : ∀ j, leaf.child j = none) (apart : leaf.label.addr ∉ t.addrs) (k : Nat) :
    RepInv (t.modify path fun n =>
      n.setSlot i (some (CellTreeNode.adopted node (CellTreeNode.placedAt node leaf) k))) := by
  have edge := inv.linked p (SlotTree.mem_nodes_of_at? found) i node held
  have childlessPlaced : ∀ j, (CellTreeNode.placedAt node leaf).child j = none := childless
  -- first empty the slot, then fill it
  have inTwoSteps :
      (t.modify path fun n => n.setSlot i
        (some (CellTreeNode.adopted node (CellTreeNode.placedAt node leaf) k))) =
      (t.modify path fun n => n.setSlot i none).modify path fun n => n.setSlot i
        (some (CellTreeNode.adopted node (CellTreeNode.placedAt node leaf) k)) := by
    simp only [CellTree.modify, SlotTree.modifyAt_modifyAt, SlotTree.setSlot_setSlot]
  have cleared := inv.clear found held
  have removed := (SlotTree.labels_clearAt_perm found held).map CellInfo.addr
  rw [List.map_append] at removed
  have unshared := removed.nodup_iff.mp inv.unshared
  rw [SlotTree.labels_eq node, List.map_cons] at unshared removed
  rcases List.nodup_append.mp unshared with ⟨ofNode, ofRest, disjoint⟩
  have absent : ∀ a, leaf.label.addr = a →
      a ∉ (node.label.addr :: (SlotTree.labelsOfSlots node.slots).map CellInfo.addr) ++
        (t.rootNode.modifyAt (fun n => n.setSlot i none) path).labels.map CellInfo.addr := by
    rintro a rfl member
    exact apart (removed.mem_iff.mpr member)
  have labels := CellTreeNode.map_labels_adopted CellInfo.addr (fun _ _ => rfl) node
    childlessPlaced k
  have taken := (SlotTree.labelsOfSlots_take_sublist node.slots k).map CellInfo.addr
  have boundSlot : i < p.slots.length :=
    (List.getElem?_eq_some_iff.mp (SlotTree.child_eq_some_iff.mp held)).1
  rw [inTwoSteps]
  apply cleared.fill (n := p.setSlot i none)
  · rw [CellTree.modify, SlotTree.at?_modifyAt_self, found, Option.map_some]
  · rw [SlotTree.setSlot, SlotTree.slots_node, List.getElem?_set_self boundSlot]
  · rw [SlotTree.allEdges_iff]
    intro j c heldC
    rcases CellTreeNode.child_adopted childlessPlaced heldC with ⟨d, heldD, rfl⟩
    have below := SlotTree.allEdges_iff.mp ((inv.linked.at? found).child held) j d heldD
    exact ⟨⟨rfl, below.1.spanNo, below.1.depth⟩, CellTreeNode.linked_setParent below.2 _⟩
  · exact ⟨edge.parent, edge.spanNo, edge.depth⟩
  · rw [labels]
    apply List.nodup_cons.mpr
    constructor
    · intro member
      exact absent _ rfl (List.mem_append_left _ (List.mem_cons_of_mem _ (taken.subset member)))
    · exact (List.nodup_cons.mp ofNode).2.sublist taken
  · rw [labels]
    intro a inAdopted inRest
    rcases List.mem_cons.mp inAdopted with isLeaf | inTaken
    · exact absent a isLeaf.symm (List.mem_append_right _ inRest)
    · exact disjoint a (List.mem_cons_of_mem _ (taken.subset inTaken)) a inRest rfl

end RepInv

/-! ## Removing a cell -/

namespace CellTree

/-- The spans that the promotion of a bottom node depends on: the loop over the span
of the parent stays inside the arrays of the removed node and of the bottom node. -/
def PromotionFits (this : CellTree) (cellID : CellID) : Prop :=
  ∀ path ∈ this.getCellTreeNode cellID, ∀ above ∈ this.getParentTreeNode cellID,
    ∀ node ∈ this.rootNode.at? path, ∀ parent ∈ this.rootNode.at? above,
      ∀ bottom ∈ node.at? (findBottomPath node), findBottomPath node ≠ [] →
        CellTreeNode.treeSpan parent ≤ CellTreeNode.treeSpan node ∧
          CellTreeNode.treeSpan parent ≤ CellTreeNode.treeSpan bottom

instance (this : CellTree) (cellID : CellID) : Decidable (this.PromotionFits cellID) := by
  unfold PromotionFits
  infer_instance

/-- The tree that `removeCell` leaves when the bottom node in slot `j` at `up` below
the cell in slot `i` moves up. -/
def promote (this : CellTree) (path : Path) (i : Nat) (up : Path) (j : Nat)
    (node bottom : CellTreeNode) (span : Nat) : CellTree :=
  let cut := node.modifyAt (fun n => n.setSlot j none) up
  (this.modify (path ++ i :: up) fun n => n.setSlot j none).modify path fun n =>
    n.setSlot i (some (CellTreeNode.adopted cut (CellTreeNode.placedAt cut bottom) span))

end CellTree

namespace RepInv

variable {t : CellTree}

theorem replaceSiblingAt_none (inv : RepInv t) {path : Path} {p c : CellTreeNode} {i : Nat}
    (found : t.rootNode.at? path = some p) (held : p.child i = some c) :
    t.replaceSiblingAt path c none = .ok (t.modify path fun n => n.setSlot i none) := by
  rw [CellTree.replaceSiblingAt]
  simp only [found, CellTreeNode.replaceSibling_none (inv.findIdx?_addr found held)]
  exact congrArg Except.ok (CellTree.modify_congr found rfl)

theorem replaceSiblingAt_some (inv : RepInv t) {path : Path} {p c : CellTreeNode} {i : Nat}
    (found : t.rootNode.at? path = some p) (held : p.child i = some c) (newNode : CellTreeNode) :
    t.replaceSiblingAt path c (some newNode) =
      if CellTreeNode.treeSpan p ≤ CellTreeNode.treeSpan c ∧
          CellTreeNode.treeSpan p ≤ CellTreeNode.treeSpan newNode then
        .ok (t.modify path fun n => n.setSlot i (some
          (CellTreeNode.adopted c (CellTreeNode.placedAt c newNode) (CellTreeNode.treeSpan p))))
      else .error .outOfBounds := by
  rw [CellTree.replaceSiblingAt]
  simp only [found, CellTreeNode.replaceSibling_some (inv.findIdx?_addr found held)]
  by_cases fits : CellTreeNode.treeSpan p ≤ CellTreeNode.treeSpan c ∧
      CellTreeNode.treeSpan p ≤ CellTreeNode.treeSpan newNode
  · rw [if_pos fits, if_pos fits]
    exact congrArg Except.ok (CellTree.modify_congr found rfl)
  · rw [if_neg fits, if_neg fits]
    rfl

theorem treeSpan_modifyAt_setSlot (n : CellTreeNode) (j : Nat) (slot : Option CellTreeNode)
    (path : Path) :
    CellTreeNode.treeSpan (n.modifyAt (fun n => n.setSlot j slot) path) =
      CellTreeNode.treeSpan n := by
  cases path with
  | nil => simp [CellTreeNode.treeSpan, SlotTree.setSlot]
  | cons i path => simp [CellTreeNode.treeSpan, SlotTree.modifyAt_cons]

/-- A node with a node at its bottom: the bottom node leaves its slot, which changes no span
and keeps the invariant, and takes the place of the node. -/
theorem removeCell_of_bottom (inv : RepInv t) {cellID : CellID} {path up : Path} {i j : Nat}
    {p node bottom : CellTreeNode} (found : t.getCellTreeNode cellID = some (path ++ [i]))
    (atParent : t.rootNode.at? path = some p) (held : p.child i = some node)
    (atNode : t.rootNode.at? (path ++ [i]) = some node)
    (down : CellTree.findBottomPath node = up ++ [j]) (atBottom : node.at? (up ++ [j]) = some bottom) :
    t.removeCell cellID =
      if CellTreeNode.treeSpan p ≤ CellTreeNode.treeSpan node ∧
          CellTreeNode.treeSpan p ≤ CellTreeNode.treeSpan bottom then
        .ok (t.promote path i up j node bottom (CellTreeNode.treeSpan p))
      else .error .outOfBounds := by
  have parent := CellTree.getParentTreeNode_of_child found
  rcases holder_of_at? atBottom with ⟨h, atHolder, heldBottom⟩
  have atUp : t.rootNode.at? (path ++ [i] ++ up) = some h := by
    rw [SlotTree.at?_append, atNode, Option.bind_some, atHolder]
  have cut := inv.replaceSiblingAt_none atUp heldBottom
  have cutInv := inv.clear atUp heldBottom
  have nodeCut : (t.modify (path ++ [i] ++ up) fun n => n.setSlot j none).rootNode.at?
      (path ++ [i]) = some (node.modifyAt (fun n => n.setSlot j none) up) := by
    rw [CellTree.modify, SlotTree.at?_modifyAt_append, atNode, Option.map_some]
  have parentCut : (t.modify (path ++ [i] ++ up) fun n => n.setSlot j none).rootNode.at?
      path = some (p.modifyAt (fun n => n.setSlot j none) (i :: up)) := by
    rw [CellTree.modify, List.append_assoc, List.singleton_append,
      SlotTree.at?_modifyAt_append, atParent, Option.map_some]
  have heldCut : (p.modifyAt (fun n => n.setSlot j none) (i :: up)).child i =
      some (node.modifyAt (fun n => n.setSlot j none) up) := by
    rw [SlotTree.modifyAt_cons_child, if_pos rfl, held, Option.map_some]
  have moved := cutInv.replaceSiblingAt_some parentCut heldCut bottom
  simp only [treeSpan_modifyAt_setSlot, List.append_assoc, List.singleton_append] at cut moved
  rw [CellTree.removeCell]
  simp only [found, parent, atNode, atBottom, down, List.dropLast_concat,
    List.append_eq_nil_iff, List.cons_ne_self, and_false, if_false, List.append_assoc,
    List.singleton_append, cut, bind, Except.bind]
  simp only [List.append_assoc, List.singleton_append] at nodeCut
  simp only [nodeCut, moved]
  rfl

/-- The outcomes of `removeCell`: nothing to remove, a leaf cut off, or a bottom
node promoted, which leaves an array when the spans do not fit. -/
theorem removeCell_cases (inv : RepInv t) (cellID : CellID) :
    (t.getCellTreeNode cellID = none ∧ t.removeCell cellID = .ok t) ∨
    (t.getCellTreeNode cellID = some [] ∧ t.removeCell cellID = .ok t) ∨
    (∃ path i p node, t.getCellTreeNode cellID = some (path ++ [i]) ∧
      t.rootNode.at? path = some p ∧ p.child i = some node ∧ CellTree.findBottomPath node = [] ∧
      t.removeCell cellID = .ok (t.modify path fun n => n.setSlot i none)) ∨
    (∃ path i p node up j bottom, t.getCellTreeNode cellID = some (path ++ [i]) ∧
      t.rootNode.at? path = some p ∧ p.child i = some node ∧
      CellTree.findBottomPath node = up ++ [j] ∧ node.at? (up ++ [j]) = some bottom ∧
      (∀ k, bottom.child k = none) ∧
      t.removeCell cellID =
        if CellTreeNode.treeSpan p ≤ CellTreeNode.treeSpan node ∧
            CellTreeNode.treeSpan p ≤ CellTreeNode.treeSpan bottom then
          .ok (t.promote path i up j node bottom (CellTreeNode.treeSpan p))
        else .error .outOfBounds) := by
  cases found : t.getCellTreeNode cellID with
  | none => exact Or.inl ⟨rfl, by simp [CellTree.removeCell, found]⟩
  | some whole =>
      refine Or.inr ?_
      rcases List.eq_nil_or_concat' whole with rfl | ⟨path, i, rfl⟩
      · exact Or.inl ⟨rfl, by
          simp [CellTree.removeCell, found, CellTree.getParentTreeNode_of_root found]⟩
      · refine Or.inr ?_
        rcases holder_of_found found with ⟨p, node, atParent, held, -, atNode⟩
        rcases CellTree.at?_findBottomPath node with ⟨bottom, atBottom, leaf⟩
        rcases List.eq_nil_or_concat' (CellTree.findBottomPath node) with down | ⟨up, j, down⟩
        · have parent := CellTree.getParentTreeNode_of_child found
          refine Or.inl ⟨path, i, p, node, rfl, atParent, held, down, ?_⟩
          rw [CellTree.removeCell]
          simp only [found, parent, atNode, down, if_true]
          exact inv.replaceSiblingAt_none atParent held
        · rw [down] at atBottom
          exact Or.inr ⟨path, i, p, node, up, j, bottom, rfl, atParent, held, down, atBottom, leaf,
            inv.removeCell_of_bottom found atParent held atNode down atBottom⟩

/-- The tree after a promotion satisfies the invariant, whatever the spans are. -/
theorem promote (inv : RepInv t) {path up : Path} {i j : Nat} {p node bottom : CellTreeNode}
    (found : t.rootNode.at? path = some p) (held : p.child i = some node)
    (atBottom : node.at? (up ++ [j]) = some bottom) (leaf : ∀ k, bottom.child k = none)
    (span : Nat) : RepInv (t.promote path i up j node bottom span) := by
  rcases holder_of_at? atBottom with ⟨h, atHolder, heldBottom⟩
  have atUp : t.rootNode.at? (path ++ i :: up) = some h := by
    rw [SlotTree.at?_append, found, Option.bind_some, SlotTree.at?_cons, held, Option.bind_some,
      atHolder]
  apply (inv.clear atUp heldBottom).replace (p := p.modifyAt (fun n => n.setSlot j none) (i :: up))
  · rw [CellTree.modify, SlotTree.at?_modifyAt_append, found, Option.map_some]
  · rw [SlotTree.modifyAt_cons_child, if_pos rfl, held, Option.map_some]
  · exact leaf
  · -- the bottom node was cut off, so its address is gone
    have removed := (SlotTree.labels_clearAt_perm atUp heldBottom).map CellInfo.addr
    rw [List.map_append] at removed
    intro member
    have apart := (List.nodup_append.mp (removed.nodup_iff.mp inv.unshared)).2.2
    have own : bottom.label.addr ∈ bottom.labels.map CellInfo.addr := by
      rw [SlotTree.labels_eq]
      exact List.mem_cons_self
    exact apart _ own _ member rfl

theorem removeCell (inv : RepInv t) {cellID : CellID} {out : CellTree}
    (removed : t.removeCell cellID = .ok out) : RepInv out := by
  rcases inv.removeCell_cases cellID with ⟨-, kept⟩ | ⟨-, kept⟩ |
    ⟨path, i, p, node, -, found, held, -, cut⟩ |
    ⟨path, i, p, node, up, j, bottom, -, found, held, -, atBottom, leaf, promoted⟩
  · cases kept.symm.trans removed
    exact inv
  · cases kept.symm.trans removed
    exact inv
  · cases cut.symm.trans removed
    exact inv.clear found held
  · rw [promoted] at removed
    split at removed
    · cases removed
      exact inv.promote found held atBottom leaf _
    · cases removed

/-- `removeCell` leaves an array exactly when the three spans do not fit. -/
theorem removeCell_error_iff (inv : RepInv t) {cellID : CellID} {fault : Fault} :
    t.removeCell cellID = .error fault ↔ fault = .outOfBounds ∧ ¬t.PromotionFits cellID := by
  unfold CellTree.PromotionFits
  rcases inv.removeCell_cases cellID with ⟨search, kept⟩ | ⟨search, kept⟩ |
    ⟨path, i, p, node, search, found, held, down, cut⟩ |
    ⟨path, i, p, node, up, j, bottom, search, found, held, down, atBottom, -, promoted⟩
  · simp [kept, search]
  · simp [kept, search, CellTree.getParentTreeNode_of_root search]
  · have atNode := SlotTree.at?_snoc found held
    simp [cut, search, CellTree.getParentTreeNode_of_child search, atNode, down]
  · have atNode := SlotTree.at?_snoc found held
    simp only [promoted, search, CellTree.getParentTreeNode_of_child search, atNode, found, down,
      atBottom, Option.mem_def, Option.some.injEq, forall_eq']
    by_cases spans : CellTreeNode.treeSpan p ≤ CellTreeNode.treeSpan node ∧
        CellTreeNode.treeSpan p ≤ CellTreeNode.treeSpan bottom
    · simp [spans]
    · rw [if_neg spans, Except.error.injEq]
      constructor
      · rintro rfl
        exact ⟨rfl, fun fits => spans (fits (by simp))⟩
      · rintro ⟨rfl, -⟩
        rfl

theorem promotionFits_of_removeCell (inv : RepInv t) {cellID : CellID} {after : CellTree}
    (removed : t.removeCell cellID = .ok after) : t.PromotionFits cellID := by
  by_contra unfit
  cases removed.symm.trans (inv.removeCell_error_iff.mpr ⟨rfl, unfit⟩)

end RepInv

end Stheno.Superpeer
