import Stheno.Superpeer.Departure
import Stheno.Superpeer.Pruning

/-!
# The nodes that removals delete

A removal unlinks a subtree from the node above and deletes its nodes from the leaves
up.  The root has no node above: it is deleted like any other, but `m_rootNode` still
points at it.  Here the deleted addresses are kept beside the tree, and using the node
at one of them is a fault.
-/

namespace Stheno.Superpeer

open Stheno.Tree Peer

/-- What `m_rootNode` links, and the addresses of the nodes that were deleted. -/
structure CellHeap where
  tree : CellTree
  freed : List Addr

namespace CellHeap

/-- A member of the node at an address is read or written. -/
def access (freed : List Addr) (addr : Addr) : Result Unit :=
  if addr ∈ freed then .error .freedNode else .ok ()

/-- `delete node`. -/
def delete (freed : List Addr) (addr : Addr) : Result (List Addr) := do
  access freed addr
  pure (freed ++ [addr])

/-! ## The operations -/

mutual

/-- `getCellTreeNode_i`, which looks at every node up to the one that it finds. -/
def getCellTreeNodeI (freed : List Addr) (fid : CellID) : CellTreeNode → Result (Option Path)
  | .node info slots => do
      access freed info.addr
      if info.cellID.sameKey fid then
        pure (some [])
      else
        getCellTreeNodeOfSlots freed fid 0 slots

/-- The loop over the children from slot `i` on. -/
def getCellTreeNodeOfSlots (freed : List Addr) (fid : CellID) (i : Nat) :
    List (Option CellTreeNode) → Result (Option Path)
  | [] => pure none
  | none :: slots => getCellTreeNodeOfSlots freed fid (i + 1) slots
  | some c :: slots => do
      match ← getCellTreeNodeI freed fid c with
      | some path => pure (some (i :: path))
      | none => getCellTreeNodeOfSlots freed fid (i + 1) slots

end

mutual

/-- `removeSubtree_i`, with the addresses that are deleted afterwards. -/
def removeSubtreeI (freed : List Addr) : CellTreeNode → Result (List Addr)
  | .node info slots => do
      access freed info.addr
      let freed ← removeSubtreeOfSlots freed slots
      delete freed info.addr

/-- The loop over the children. -/
def removeSubtreeOfSlots (freed : List Addr) : List (Option CellTreeNode) → Result (List Addr)
  | [] => pure freed
  | none :: slots => removeSubtreeOfSlots freed slots
  | some c :: slots => do
      let freed ← removeSubtreeI freed c
      removeSubtreeOfSlots freed slots

end

/-- The tree after the slot that holds a node has been cleared in the node above it. -/
def unlinked (this : CellHeap) (fidRoot : CellTreeNode) : Result CellTree :=
  match fidRoot.label.parent with
  | none => pure this.tree
  | some addr => do
      access this.freed addr
      match this.tree.deref addr with
      | none => .error .freedNode
      | some parent =>
          match (this.tree.rootNode.at? parent).bind fun node => node.slots.findIdx? fun child =>
              child.any fun c => c.label.addr = fidRoot.label.addr with
          | some i => pure (this.tree.modify parent fun node => node.setSlot i none)
          | none => pure this.tree

/-- `removeSubtree(fid)`. -/
def removeSubtree (this : CellHeap) (fid : CellID) : Result (CellHeap × Int) := do
  match (← getCellTreeNodeI this.freed fid this.tree.rootNode).bind this.tree.rootNode.at? with
  | none => pure (this, -1)
  | some fidRoot => do
      let tree ← this.unlinked fidRoot
      let freed ← removeSubtreeI this.freed fidRoot
      pure ({ tree, freed }, 0)

/-- One round of `removeSubtree()`, whose condition reads the root. -/
def removeChild (this : CellHeap) (i : Nat) : Result CellHeap := do
  access this.freed this.tree.rootNode.label.addr
  match this.tree.rootNode.child i with
  | none => pure this
  | some c => do
      access this.freed c.label.addr
      let removed ← this.removeSubtree c.label.cellID
      pure removed.1

/-- `removeSubtree()`; the condition is read once more than there are rounds. -/
def removeSubtrees (this : CellHeap) : Result (CellHeap × Int) := do
  let after ← (List.range (CellTreeNode.treeSpan this.tree.rootNode)).foldlM removeChild this
  access after.freed after.tree.rootNode.label.addr
  pure (after, 0)

/-- The loop of `pruneSubtrees` over the slots of the root.  A child that is dropped is
deleted, and what is below it stays allocated. -/
def pruneSlots (l : List UUID) (freed : List Addr) :
    List (Option CellTreeNode) → Result (List (Option CellTreeNode) × List Addr)
  | [] => pure ([], freed)
  | none :: slots => do
      let rest ← pruneSlots l freed slots
      pure (none :: rest.1, rest.2)
  | some child :: slots => do
      access freed child.label.addr
      let kept ← CellTree.pruneSlot l (some child)
      let freed ← if kept.isSome then pure freed else delete freed child.label.addr
      let rest ← pruneSlots l freed slots
      pure (kept :: rest.1, rest.2)

def pruneSubtrees (this : CellHeap) (l : List UUID) : Result CellHeap := do
  access this.freed this.tree.rootNode.label.addr
  let pruned ← pruneSlots l this.freed this.tree.rootNode.slots
  pure { tree := ⟨.node this.tree.rootNode.label pruned.1⟩, freed := pruned.2 }

/-- The update that `leaveMesh` and `handleLeaveMesh` make; the answer is the status. -/
def leave (this : CellHeap) (uuid : UUID) (cellID : CellID) : Result (CellHeap × Bool) := do
  match ← getCellTreeNodeI this.freed cellID this.tree.rootNode with
  | none => pure (this, false)
  | some path =>
      match (this.tree.rootNode.at? path).bind fun node => node.label.remove uuid with
      | none => pure (this, false)
      | some info => do
          let removed := { this with tree := this.tree.modify path (SlotTree.mapLabel fun _ => info) }
          if info.getPeerCount = 0 then
            let pruned ← removed.removeSubtree cellID
            pure (pruned.1, true)
          else
            pure (removed, true)

end CellHeap

/-- A call that removes nodes. -/
inductive Removal where
  | removeSubtree (fid : CellID)
  | removeSubtrees
  | pruneSubtrees (l : List UUID)
  /-- `leaveMesh` or `handleLeaveMesh`. -/
  | leave (uuid : UUID) (cellID : CellID)

namespace CellTree

/-- The cell with an identifier and the cells below it. -/
def subtree (this : CellTree) (fid : CellID) : Option CellTreeNode :=
  (this.getCellTreeNode fid).bind this.rootNode.at?

/-- The departure of a peer takes the last superpeer of its cell. -/
def Deserts (this : CellTree) (uuid : UUID) (cellID : CellID) : Prop :=
  ∃ node ∈ this.subtree cellID, ∃ info ∈ node.label.remove uuid, info.sps = []

instance (this : CellTree) (uuid : UUID) (cellID : CellID) :
    Decidable (this.Deserts uuid cellID) := by
  unfold Deserts
  infer_instance

/-- The subtrees that a call is asked to remove. -/
def requested (this : CellTree) : Removal → List CellTreeNode
  | .removeSubtree fid => (this.subtree fid).toList
  | .removeSubtrees => this.rootNode.slots.filterMap id
  | .pruneSubtrees l => (this.rootNode.slots.filterMap id).filter fun child => !isListed l child
  | .leave uuid cellID =>
      if this.Deserts uuid cellID then (this.subtree cellID).toList else []

/-- The call removes the cell of the root: it names its identifier, which a child may
have too. -/
def TakesRoot (this : CellTree) : Removal → Prop
  | .removeSubtree fid => fid = this.getRootCellID
  | .removeSubtrees => ∃ i c, this.rootNode.child i = some c ∧ c.label.cellID = this.getRootCellID
  | .pruneSubtrees _ => False
  | .leave uuid cellID => cellID = this.getRootCellID ∧ this.Deserts uuid cellID

end CellTree

namespace CellHeap

def step (this : CellHeap) : Removal → Result CellHeap
  | .removeSubtree fid => (this.removeSubtree fid).map Prod.fst
  | .removeSubtrees => this.removeSubtrees.map Prod.fst
  | .pruneSubtrees l => this.pruneSubtrees l
  | .leave uuid cellID => (this.leave uuid cellID).map Prod.fst

/-- Every node that the root reaches is allocated. -/
def Allocated (this : CellHeap) : Prop :=
  ∀ addr ∈ this.tree.addrs, addr ∉ this.freed

/-- A well-formed tree of allocated nodes. -/
structure Sound (this : CellHeap) : Prop where
  inv : RepInv this.tree
  allocated : this.Allocated

/-- The addresses of the nodes of some subtrees. -/
def addrsOf (nodes : List CellTreeNode) : List Addr :=
  nodes.flatMap fun node => node.labels.map CellInfo.addr

/-- The nodes of some subtrees are gone from the tree, and those of all others are still
there and allocated. -/
structure Removed (this : CellHeap) (nodes : List CellTreeNode) (after : CellHeap) : Prop where
  root : after.tree.rootNode.label.addr = this.tree.rootNode.label.addr
  others : this.tree.addrs.Perm (addrsOf nodes ++ after.tree.addrs)
  freed : ∀ addr ∈ after.freed, addr ∈ this.freed ∨ addr ∈ addrsOf nodes
  allocated : after.Allocated

/-- What a call may do: it uses no deleted node, and removes what it is asked to remove.
Another fault leaves no tree. -/
structure Removes (this : CellHeap) (removal : Removal) : Prop where
  safe : this.step removal ≠ .error .freedNode
  removed : ∀ after, this.step removal = .ok after →
    this.Removed (this.tree.requested removal) after

/-! ## Searching and deleting -/

theorem access_of_not_mem {freed : List Addr} {addr : Addr} (alive : addr ∉ freed) :
    access freed addr = .ok () :=
  if_neg alive

theorem access_of_mem {freed : List Addr} {addr : Addr} (gone : addr ∈ freed) :
    access freed addr = .error .freedNode :=
  if_pos gone

theorem getCellTreeNodeI_eq {freed : List Addr} (fid : CellID) {t : CellTreeNode}
    (allocated : ∀ info ∈ t.labels, info.addr ∉ freed) :
    getCellTreeNodeI freed fid t = .ok (t.findPath fun info => info.cellID.sameKey fid) := by
  induction t using SlotTree.induction with
  | node info slots inductionHypothesis =>
      have inSlots : ∀ (rest : List (Option CellTreeNode)) (i : Nat),
          (∀ c, some c ∈ rest → some c ∈ slots) → getCellTreeNodeOfSlots freed fid i rest =
            .ok (SlotTree.findPathInSlots (fun info => info.cellID.sameKey fid) i rest) := by
        intro rest
        induction rest with
        | nil =>
            intro i _
            rfl
        | cons slot rest restHypothesis =>
            intro i among
            have later := restHypothesis (i + 1) fun c member => among c (List.mem_cons_of_mem _ member)
            cases slot with
            | none => exact later
            | some c =>
                have member := among c List.mem_cons_self
                have here := inductionHypothesis c member fun below inChild =>
                  allocated below (SlotTree.mem_labels_of_mem_slots member inChild)
                rw [getCellTreeNodeOfSlots, here, SlotTree.findPathInSlots]
                cases c.findPath fun info => info.cellID.sameKey fid with
                | none => exact later
                | some path => rfl
      have alive : info.addr ∉ freed := allocated info (by
        rw [SlotTree.labels_node]
        exact List.mem_cons_self)
      have below := inSlots slots 0 fun c member => member
      rw [getCellTreeNodeI, access_of_not_mem alive, SlotTree.findPath_node]
      by_cases here : info.cellID.sameKey fid = true
      · simp only [here]
        rfl
      · simp only [here, below]
        rfl

/-- Nodes can be deleted where they are distinct and allocated, and these are deleted then. -/
def Deletable (remove : List Addr → Result (List Addr)) (labels : List CellInfo) : Prop :=
  ∀ freed, (labels.map CellInfo.addr).Nodup →
    (∀ addr ∈ labels.map CellInfo.addr, addr ∉ freed) →
      ∃ after, remove freed = .ok after ∧ after.Perm (freed ++ labels.map CellInfo.addr)

/-- The children are deleted one after the other. -/
theorem deletable_slots {slots : List (Option CellTreeNode)}
    (each : ∀ c, some c ∈ slots → Deletable (fun freed => removeSubtreeI freed c) c.labels) :
    Deletable (fun freed => removeSubtreeOfSlots freed slots) (SlotTree.labelsOfSlots slots) := by
  induction slots with
  | nil =>
      intro freed _ _
      exact ⟨freed, rfl, by simp⟩
  | cons slot rest restHypothesis =>
      intro freed distinct allocated
      have rests := restHypothesis fun c member => each c (List.mem_cons_of_mem _ member)
      cases slot with
      | none =>
          rw [SlotTree.labelsOfSlots_cons_none] at distinct allocated ⊢
          exact rests freed distinct allocated
      | some c =>
          rw [SlotTree.labelsOfSlots_cons_some, List.map_append] at distinct allocated ⊢
          rcases List.nodup_append'.mp distinct with ⟨inChild, inRest, apart⟩
          rcases each c List.mem_cons_self freed inChild
            (fun addr member => allocated addr (List.mem_append_left _ member)) with
            ⟨middle, deleted, below⟩
          have left : ∀ addr ∈ (SlotTree.labelsOfSlots rest).map CellInfo.addr, addr ∉ middle := by
            intro addr member gone
            rcases List.mem_append.mp (below.mem_iff.mp gone) with before | now
            · exact allocated addr (List.mem_append_right _ member) before
            · exact apart now member
          rcases rests middle inRest left with ⟨after, done, all⟩
          refine ⟨after, ?_, ?_⟩
          · dsimp only at deleted
            dsimp only
            rw [removeSubtreeOfSlots, deleted]
            exact done
          · rw [← List.append_assoc]
            exact all.trans (below.append_right _)

theorem deletable_node (t : CellTreeNode) :
    Deletable (fun freed => removeSubtreeI freed t) t.labels := by
  induction t using SlotTree.induction with
  | node info slots inductionHypothesis =>
      intro freed distinct allocated
      rw [SlotTree.labels_node, List.map_cons] at distinct allocated ⊢
      rcases List.nodup_cons.mp distinct with ⟨own, below⟩
      have alive := allocated info.addr List.mem_cons_self
      rcases deletable_slots inductionHypothesis freed below
        (fun addr member => allocated addr (List.mem_cons_of_mem _ member)) with ⟨middle, done, deleted⟩
      have still : info.addr ∉ middle := by
        intro gone
        rcases List.mem_append.mp (deleted.mem_iff.mp gone) with before | now
        · exact alive before
        · exact own now
      refine ⟨middle ++ [info.addr], ?_, ?_⟩
      · dsimp only at done
        dsimp only
        rw [removeSubtreeI, access_of_not_mem alive]
        simp only [done, bind, Except.bind, delete, access_of_not_mem still]
        rfl
      · calc
          List.Perm (middle ++ [info.addr]) (info.addr :: middle) := List.perm_append_singleton _ _
          List.Perm _ (info.addr :: (freed ++ (SlotTree.labelsOfSlots slots).map CellInfo.addr)) :=
            deleted.cons _
          List.Perm _ (freed ++ info.addr :: (SlotTree.labelsOfSlots slots).map CellInfo.addr) :=
            List.perm_middle.symm

/-! ## Removing one subtree -/

section

variable {this after : CellHeap} {fid : CellID} {above : Path} {i : Nat} {c : CellTreeNode}

theorem Sound.allocated_node (sound : this.Sound) {path : Path}
    (found : this.tree.rootNode.at? path = some c) :
    ∀ info ∈ c.labels, info.addr ∉ this.freed := by
  intro info member
  apply sound.allocated
  rcases SlotTree.exists_labels_split found with ⟨before, after, whole, -⟩
  rw [CellTree.addrs, whole]
  exact List.mem_map_of_mem (List.mem_append_left _ (List.mem_append_right _ member))

theorem Sound.distinct_node (sound : this.Sound) {path : Path}
    (found : this.tree.rootNode.at? path = some c) : (c.labels.map CellInfo.addr).Nodup := by
  have unshared := sound.inv.unshared
  rcases SlotTree.exists_labels_split found with ⟨before, after, whole, -⟩
  rw [CellTree.addrs, whole, List.map_append, List.map_append] at unshared
  exact (List.nodup_append'.mp (List.nodup_append'.mp unshared).1).2.1

theorem Sound.search (sound : this.Sound) (fid : CellID) :
    getCellTreeNodeI this.freed fid this.tree.rootNode = .ok (this.tree.getCellTreeNode fid) := by
  apply getCellTreeNodeI_eq
  exact sound.allocated_node (SlotTree.at?_nil _)

theorem removeSubtree_unknown (sound : this.Sound) (unknown : this.tree.getCellTreeNode fid = none) :
    this.removeSubtree fid = .ok (this, -1) := by
  rw [removeSubtree, sound.search, unknown]
  rfl

/-- Deleting the nodes of a subtree after a tree has been made of the others. -/
theorem removeSubtree_of_unlinked (sound : this.Sound) {path : Path} {tree : CellTree}
    (known : this.tree.getCellTreeNode fid = some path)
    (found : this.tree.rootNode.at? path = some c) (unlinked : this.unlinked c = .ok tree) :
    ∃ freed, this.removeSubtree fid = .ok ({ tree, freed }, 0) ∧
      freed.Perm (this.freed ++ c.labels.map CellInfo.addr) := by
  have alive : ∀ addr ∈ c.labels.map CellInfo.addr, addr ∉ this.freed := by
    intro addr member
    rcases List.mem_map.mp member with ⟨info, inNode, rfl⟩
    exact sound.allocated_node found info inNode
  rcases deletable_node c _ (sound.distinct_node found) alive with ⟨freed, deleted, all⟩
  refine ⟨freed, ?_, all⟩
  rw [removeSubtree, sound.search, known]
  simp only [bind, Except.bind, Option.bind_some, found, unlinked, deleted]
  rfl

/-- The root stays linked and loses all its nodes. -/
theorem removeSubtree_root (sound : this.Sound) (known : this.tree.getCellTreeNode fid = some []) :
    ∃ freed, this.removeSubtree fid = .ok ({ tree := this.tree, freed }, 0) ∧
      this.tree.rootNode.label.addr ∈ freed := by
  have unlinked : this.unlinked this.tree.rootNode = .ok this.tree := by
    rw [CellHeap.unlinked, sound.inv.rootParent]
    rfl
  rcases removeSubtree_of_unlinked sound known (SlotTree.at?_nil _) unlinked with ⟨freed, done, all⟩
  refine ⟨freed, done, ?_⟩
  apply all.mem_iff.mpr
  apply List.mem_append_right
  apply List.mem_map_of_mem
  rw [SlotTree.labels_eq]
  exact List.mem_cons_self

/-- The slot of a cell below the root is cleared. -/
theorem unlinked_below (sound : this.Sound)
    (found : this.tree.rootNode.at? (above ++ [i]) = some c) :
    this.unlinked c = .ok (this.tree.modify above fun node => node.setSlot i none) := by
  rcases RepInv.holder_of_at? found with ⟨p, atParent, held⟩
  have edge := sound.inv.linked p (SlotTree.mem_nodes_of_at? atParent) i c held
  have slot := sound.inv.findIdx?_addr atParent held
  have alive : p.label.addr ∉ this.freed := by
    apply sound.allocated_node atParent
    rw [SlotTree.labels_eq]
    exact List.mem_cons_self
  simp only [unlinked, edge.parent, access_of_not_mem alive, sound.inv.deref_addr atParent, atParent,
    Option.bind_some, slot]
  rfl

/-- A well-formed tree whose nodes were distinct from the deleted ones. -/
theorem removed_of_perm (sound : this.Sound) {nodes : List CellTreeNode}
    (root : after.tree.rootNode.label.addr = this.tree.rootNode.label.addr)
    (others : this.tree.addrs.Perm (addrsOf nodes ++ after.tree.addrs))
    (freed : ∀ addr ∈ after.freed, addr ∈ this.freed ∨ addr ∈ addrsOf nodes) :
    this.Removed nodes after where
  root := root
  others := others
  freed := freed
  allocated := by
    intro addr member gone
    have split := (others.nodup_iff.mp sound.inv.unshared)
    rcases freed addr gone with before | now
    · exact sound.allocated addr (others.mem_iff.mpr (List.mem_append_right _ member)) before
    · exact (List.nodup_append'.mp split).2.2 now member

theorem addrsOf_singleton (node : CellTreeNode) :
    addrsOf [node] = node.labels.map CellInfo.addr := by
  rw [addrsOf, List.flatMap_singleton]

/-- A cell below the root goes with all cells below it. -/
theorem removeSubtree_below (sound : this.Sound)
    (known : this.tree.getCellTreeNode fid = some (above ++ [i]))
    (found : this.tree.rootNode.at? (above ++ [i]) = some c) :
    ∃ after, this.removeSubtree fid = .ok (after, 0) ∧ RepInv after.tree ∧
      this.Removed [c] after ∧
      after.tree = this.tree.modify above fun node => node.setSlot i none := by
  rcases RepInv.holder_of_at? found with ⟨p, atParent, held⟩
  rcases removeSubtree_of_unlinked sound known found (unlinked_below sound found) with
    ⟨freed, done, all⟩
  refine ⟨_, done, sound.inv.clear atParent held, ?_, rfl⟩
  apply removed_of_perm sound
  · exact congrArg CellInfo.addr (label_modify atParent rfl)
  · have cleared := (SlotTree.labels_clearAt_perm atParent held).map CellInfo.addr
    rw [List.map_append] at cleared
    rw [addrsOf_singleton]
    exact cleared
  · intro addr gone
    rw [addrsOf_singleton]
    exact List.mem_append.mp (all.mem_iff.mp gone)

end

theorem addrsOf_append (first second : List CellTreeNode) :
    addrsOf (first ++ second) = addrsOf first ++ addrsOf second :=
  List.flatMap_append

theorem Sound.removed_nil {this : CellHeap} (sound : this.Sound) : this.Removed [] this where
  root := rfl
  others := List.Perm.refl _
  freed := fun _ gone => Or.inl gone
  allocated := sound.allocated

/-- One removal after another. -/
theorem Removed.trans {this middle after : CellHeap} {first second : List CellTreeNode}
    (once : this.Removed first middle) (twice : middle.Removed second after) :
    this.Removed (first ++ second) after where
  root := twice.root.trans once.root
  others := by
    rw [addrsOf_append, List.append_assoc]
    exact once.others.trans (twice.others.append_left _)
  freed := by
    intro addr gone
    rw [addrsOf_append, List.mem_append, ← or_assoc]
    rcases twice.freed addr gone with before | now
    · exact Or.inl (once.freed addr before)
    · exact Or.inr now
  allocated := twice.allocated

/-! ## Removing the children of the root -/

section

variable {this : CellHeap} {k : Nat} {c : CellTreeNode} {slots : List (Option CellTreeNode)}

/-- The rounds of `removeSubtree()` from slot `k` on. -/
def rounds (this : CellHeap) (k count : Nat) : Result (CellHeap × Int) := do
  let after ← (List.range' k count).foldlM removeChild this
  access after.freed after.tree.rootNode.label.addr
  pure (after, 0)

theorem removeSubtrees_eq_rounds :
    this.removeSubtrees = this.rounds 0 (CellTreeNode.treeSpan this.tree.rootNode) := by
  rw [removeSubtrees, rounds, List.range_eq_range']

theorem rounds_succ (count : Nat) :
    this.rounds k (count + 1) = this.removeChild k >>= fun after => after.rounds (k + 1) count := by
  rw [rounds, List.range'_succ, List.foldlM_cons, bind_assoc]
  rfl

/-- Once the root is deleted, the next reading of its span is a fault. -/
theorem rounds_of_root_freed (gone : this.tree.rootNode.label.addr ∈ this.freed) (k count : Nat) :
    this.rounds k count = .error .freedNode := by
  cases count with
  | zero =>
      rw [rounds, List.range'_zero, List.foldlM_nil]
      simp only [pure_bind, access_of_mem gone]
      rfl
  | succ count =>
      rw [rounds_succ, removeChild, access_of_mem gone]
      rfl

theorem findPathInSlots_replicate (test : CellInfo → Bool) (i count : Nat)
    (slots : List (Option CellTreeNode)) :
    SlotTree.findPathInSlots test i (List.replicate count none ++ slots) =
      SlotTree.findPathInSlots test (i + count) slots := by
  induction count generalizing i with
  | zero => rfl
  | succ count inductionHypothesis =>
      rw [List.replicate_succ, List.cons_append, SlotTree.findPathInSlots, inductionHypothesis,
        Nat.add_right_comm, Nat.add_assoc]

/-- The search for the first child that is left ends at the root or at the child. -/
theorem getCellTreeNode_child {t : CellTree}
    (cleared : t.rootNode.slots = List.replicate k none ++ some c :: slots) :
    t.getCellTreeNode c.label.cellID =
      if c.label.cellID = t.getRootCellID then some [] else some [k] := by
  have here : c.findPath (fun info => info.cellID.sameKey c.label.cellID) = some [] :=
    SlotTree.findPath_of_label (UUID.sameKey_iff.mpr rfl)
  rw [CellTree.getCellTreeNode, ← SlotTree.node_label_slots t.rootNode, SlotTree.findPath_node,
    cleared, findPathInSlots_replicate, SlotTree.findPathInSlots, here, Nat.zero_add]
  by_cases same : c.label.cellID = t.getRootCellID
  · have first : t.rootNode.label.cellID.sameKey c.label.cellID = true :=
      UUID.sameKey_iff.mpr same.symm
    rw [if_pos same, if_pos first]
  · have notFirst : ¬t.rootNode.label.cellID.sameKey c.label.cellID = true :=
      fun equal => same (UUID.sameKey_iff.mp equal).symm
    rw [if_neg same, if_neg notFirst]

theorem Sound.root_alive (sound : this.Sound) : this.tree.rootNode.label.addr ∉ this.freed := by
  apply sound.allocated_node (SlotTree.at?_nil _)
  rw [SlotTree.labels_eq]
  exact List.mem_cons_self

theorem child_of_cleared {t : CellTree} {slot : Option CellTreeNode}
    (cleared : t.rootNode.slots = List.replicate k none ++ slot :: slots) :
    t.rootNode.child k = slot := by
  rw [SlotTree.child, cleared, List.getElem?_append_right (by simp), List.length_replicate,
    Nat.sub_self]
  rfl

theorem removeChild_none (sound : this.Sound)
    (cleared : this.tree.rootNode.slots = List.replicate k none ++ none :: slots) :
    this.removeChild k = .ok this := by
  rw [removeChild, access_of_not_mem sound.root_alive, child_of_cleared cleared]
  rfl

/-- A round at a child calls `removeSubtree` with the identifier of the child. -/
theorem removeChild_some (sound : this.Sound)
    (cleared : this.tree.rootNode.slots = List.replicate k none ++ some c :: slots) :
    this.removeChild k = (this.removeSubtree c.label.cellID).map Prod.fst := by
  have held := child_of_cleared cleared
  have found : this.tree.rootNode.at? [k] = some c :=
    SlotTree.at?_snoc (SlotTree.at?_nil _) held
  have alive : c.label.addr ∉ this.freed := by
    apply sound.allocated_node found
    rw [SlotTree.labels_eq]
    exact List.mem_cons_self
  rw [removeChild, access_of_not_mem sound.root_alive, held]
  simp only [bind, Except.bind, access_of_not_mem alive]
  cases this.removeSubtree c.label.cellID with
  | error fault => rfl
  | ok out => rfl

/-- A round at a child with another identifier than the root clears its slot. -/
theorem removeChild_other (sound : this.Sound)
    (cleared : this.tree.rootNode.slots = List.replicate k none ++ some c :: slots)
    (other : c.label.cellID ≠ this.tree.getRootCellID) :
    ∃ after, this.removeChild k = .ok after ∧ after.Sound ∧ this.Removed [c] after ∧
      after.tree.rootNode.label = this.tree.rootNode.label ∧
      after.tree.rootNode.slots = List.replicate (k + 1) none ++ slots := by
  have known := getCellTreeNode_child cleared
  rw [if_neg other] at known
  have found : this.tree.rootNode.at? [k] = some c :=
    SlotTree.at?_snoc (SlotTree.at?_nil _) (child_of_cleared cleared)
  rcases @removeSubtree_below this c.label.cellID [] k c sound known found with
    ⟨after, done, inv, removed, tree⟩
  refine ⟨after, ?_, ⟨inv, removed.allocated⟩, removed, ?_, ?_⟩
  · rw [removeChild_some sound cleared, done]
    rfl
  · rw [tree]
    rfl
  · rw [tree, CellTree.modify, SlotTree.modifyAt_nil, SlotTree.setSlot, SlotTree.slots_node, cleared,
      List.set_append_right _ _ (by simp), List.length_replicate, Nat.sub_self, List.set_cons_zero,
      List.replicate_succ', List.append_assoc, List.singleton_append]

/-- The rounds remove every child whose identifier is not that of the root. -/
theorem exists_rounds (sound : this.Sound)
    (cleared : this.tree.rootNode.slots = List.replicate k none ++ slots)
    (others : ∀ c, some c ∈ slots → c.label.cellID ≠ this.tree.getRootCellID) :
    ∃ after, this.rounds k slots.length = .ok (after, 0) ∧ after.Sound ∧
      this.Removed (slots.filterMap id) after := by
  induction slots generalizing this k with
  | nil =>
      refine ⟨this, ?_, sound, sound.removed_nil⟩
      rw [rounds, List.length_nil, List.range'_zero, List.foldlM_nil]
      simp only [pure_bind, access_of_not_mem sound.root_alive]
      rfl
  | cons slot slots inductionHypothesis =>
      have tail : ∀ c, some c ∈ slots → c.label.cellID ≠ this.tree.getRootCellID :=
        fun c member => others c (List.mem_cons_of_mem _ member)
      rw [List.length_cons, rounds_succ]
      cases slot with
      | none =>
          have next : this.tree.rootNode.slots = List.replicate (k + 1) none ++ slots := by
            rw [cleared, List.replicate_succ', List.append_assoc, List.singleton_append]
          rw [removeChild_none sound cleared]
          exact inductionHypothesis sound next tail
      | some c =>
          rcases removeChild_other sound cleared (others c List.mem_cons_self) with
            ⟨middle, done, soundMiddle, removed, label, next⟩
          have root : middle.tree.getRootCellID = this.tree.getRootCellID :=
            congrArg CellInfo.cellID label
          rcases inductionHypothesis soundMiddle next (root ▸ tail) with
            ⟨after, finished, soundAfter, rest⟩
          refine ⟨after, ?_, soundAfter, ?_⟩
          · rw [done]
            exact finished
          · exact removed.trans rest

/-- A round at a child with the identifier of the root deletes the root. -/
theorem rounds_of_taken (sound : this.Sound)
    (cleared : this.tree.rootNode.slots = List.replicate k none ++ slots)
    (taken : ∃ c, some c ∈ slots ∧ c.label.cellID = this.tree.getRootCellID) :
    this.rounds k slots.length = .error .freedNode := by
  induction slots generalizing this k with
  | nil =>
      rcases taken with ⟨c, impossible, -⟩
      cases impossible
  | cons slot slots inductionHypothesis =>
      rcases taken with ⟨child, member, same⟩
      rw [List.length_cons, rounds_succ]
      cases slot with
      | none =>
          have next : this.tree.rootNode.slots = List.replicate (k + 1) none ++ slots := by
            rw [cleared, List.replicate_succ', List.append_assoc, List.singleton_append]
          have inTail : some child ∈ slots := by
            rcases List.mem_cons.mp member with impossible | inTail
            · cases impossible
            · exact inTail
          rw [removeChild_none sound cleared]
          exact inductionHypothesis sound next ⟨child, inTail, same⟩
      | some c =>
          by_cases here : c.label.cellID = this.tree.getRootCellID
          · have known := getCellTreeNode_child cleared
            rw [if_pos here] at known
            rcases removeSubtree_root sound known with ⟨freed, done, gone⟩
            rw [removeChild_some sound cleared, done]
            exact rounds_of_root_freed gone _ _
          · rcases removeChild_other sound cleared here with ⟨middle, done, soundMiddle, -, label, next⟩
            have root : middle.tree.getRootCellID = this.tree.getRootCellID :=
              congrArg CellInfo.cellID label
            have inTail : some child ∈ slots := by
              rcases List.mem_cons.mp member with equal | inTail
              · cases equal
                exact absurd same here
              · exact inTail
            rw [done]
            exact inductionHypothesis soundMiddle next ⟨child, inTail, same.trans root.symm⟩

end

/-! ## Pruning -/

section

variable {l : List UUID} {slots : List (Option CellTreeNode)} {freed : List Addr}

/-- The children that are not listed. -/
def dropped (l : List UUID) (slots : List (Option CellTreeNode)) : List CellTreeNode :=
  (slots.filterMap id).filter fun child => !CellTree.isListed l child

theorem dropped_cons_of_listed {child : CellTreeNode} (listed : CellTree.isListed l child = true) :
    dropped l (some child :: slots) = dropped l slots := by
  simp [dropped, listed]

theorem dropped_cons_of_unlisted {child : CellTreeNode}
    (unlisted : CellTree.isListed l child = false) :
    dropped l (some child :: slots) = child :: dropped l slots := by
  simp [dropped, unlisted]

/-- The nodes that pruning unlinks are those of the children that are not listed. -/
theorem perm_dropped (l : List UUID) (slots : List (Option CellTreeNode)) :
    ((SlotTree.labelsOfSlots slots).map CellInfo.addr).Perm (addrsOf (dropped l slots) ++
      (SlotTree.labelsOfSlots (slots.map (Option.filter (CellTree.isListed l)))).map
        CellInfo.addr) := by
  induction slots with
  | nil => exact List.Perm.refl _
  | cons slot slots inductionHypothesis =>
      cases slot with
      | none =>
          rw [List.map_cons, Option.filter_none, SlotTree.labelsOfSlots_cons_none,
            SlotTree.labelsOfSlots_cons_none]
          exact inductionHypothesis
      | some child =>
          rw [List.map_cons, SlotTree.labelsOfSlots_cons_some, List.map_append]
          cases listed : CellTree.isListed l child with
          | true =>
              rw [dropped_cons_of_listed listed, Option.filter_some, if_pos listed,
                SlotTree.labelsOfSlots_cons_some, List.map_append]
              calc
                List.Perm _ (child.labels.map CellInfo.addr ++ (addrsOf (dropped l slots) ++ _)) :=
                  inductionHypothesis.append_left _
                List.Perm _ (addrsOf (dropped l slots) ++ (child.labels.map CellInfo.addr ++ _)) :=
                  List.perm_append_comm_assoc _ _ _
          | false =>
              rw [dropped_cons_of_unlisted listed, Option.filter_some, if_neg (by simp [listed]),
                SlotTree.labelsOfSlots_cons_none, addrsOf, List.flatMap_cons, List.append_assoc]
              exact inductionHypothesis.append_left _

theorem addr_mem_map {child : CellTreeNode} : child.label.addr ∈ child.labels.map CellInfo.addr := by
  rw [SlotTree.labels_eq, List.map_cons]
  exact List.mem_cons_self

/-- Deleting a child leaves the nodes below the other slots allocated. -/
theorem not_mem_deleted {child : CellTreeNode} {rest : List Addr}
    (apart : List.Disjoint (child.labels.map CellInfo.addr) rest)
    (allocated : ∀ addr ∈ rest, addr ∉ freed) :
    ∀ addr ∈ rest, addr ∉ freed ++ [child.label.addr] := by
  intro addr member gone
  rcases List.mem_append.mp gone with before | now
  · exact allocated addr member before
  · rw [List.mem_singleton.mp now] at member
    exact apart addr_mem_map member

/-- The round at an allocated child with a superpeer. -/
theorem pruneSlots_cons_some {child : CellTreeNode} (led : child.label.getCoordinator ≠ none)
    (alive : child.label.addr ∉ freed) :
    pruneSlots l freed (some child :: slots) =
      (pruneSlots l (if CellTree.isListed l child then freed else freed ++ [child.label.addr])
        slots).map fun rest => ((some child).filter (CellTree.isListed l) :: rest.1, rest.2) := by
  have kept : CellTree.pruneSlot l (some child) =
      .ok ((some child).filter (CellTree.isListed l)) := by
    apply CellTree.pruneSlot_of_led
    rintro other ⟨⟩
    exact led
  rw [pruneSlots, access_of_not_mem alive, kept, Option.filter_some]
  by_cases listed : CellTree.isListed l child = true
  · simp only [listed, if_true, bind, Except.bind, Option.isSome_some, pure, Except.pure]
    cases pruneSlots l freed slots with
    | error fault => rfl
    | ok rest => rfl
  · simp only [listed, Bool.false_eq_true, if_false, bind, Except.bind, Option.isSome_none, delete,
      access_of_not_mem alive, pure, Except.pure]
    cases pruneSlots l (freed ++ [child.label.addr]) slots with
    | error fault => rfl
    | ok rest => rfl

/-- What the rounds after a child find: distinct nodes that are still allocated. -/
theorem allocated_after_child {child : CellTreeNode}
    (distinct : ((SlotTree.labelsOfSlots (some child :: slots)).map CellInfo.addr).Nodup)
    (allocated : ∀ addr ∈ (SlotTree.labelsOfSlots (some child :: slots)).map CellInfo.addr,
      addr ∉ freed) :
    child.label.addr ∉ freed ∧ ((SlotTree.labelsOfSlots slots).map CellInfo.addr).Nodup ∧
      ∀ addr ∈ (SlotTree.labelsOfSlots slots).map CellInfo.addr,
        addr ∉ if CellTree.isListed l child then freed else freed ++ [child.label.addr] := by
  rw [SlotTree.labelsOfSlots_cons_some, List.map_append] at distinct allocated
  rcases List.nodup_append'.mp distinct with ⟨-, inRest, apart⟩
  have aliveRest : ∀ addr ∈ (SlotTree.labelsOfSlots slots).map CellInfo.addr, addr ∉ freed :=
    fun addr member => allocated addr (List.mem_append_right _ member)
  constructor
  · exact allocated _ (List.mem_append_left _ addr_mem_map)
  · constructor
    · exact inRest
    · by_cases listed : CellTree.isListed l child = true
      · rw [if_pos listed]
        exact aliveRest
      · rw [if_neg listed]
        exact not_mem_deleted apart aliveRest

/-- The loop deletes the children that are not listed. -/
theorem exists_pruneSlots
    (led : ∀ child, some child ∈ slots → child.label.getCoordinator ≠ none)
    (distinct : ((SlotTree.labelsOfSlots slots).map CellInfo.addr).Nodup)
    (allocated : ∀ addr ∈ (SlotTree.labelsOfSlots slots).map CellInfo.addr, addr ∉ freed) :
    ∃ after, pruneSlots l freed slots =
        .ok (slots.map (Option.filter (CellTree.isListed l)), after) ∧
      ∀ addr ∈ after, addr ∈ freed ∨ addr ∈ addrsOf (dropped l slots) := by
  induction slots generalizing freed with
  | nil => exact ⟨freed, rfl, fun addr gone => Or.inl gone⟩
  | cons slot slots inductionHypothesis =>
      have ledRest : ∀ child, some child ∈ slots → child.label.getCoordinator ≠ none :=
        fun child member => led child (List.mem_cons_of_mem _ member)
      cases slot with
      | none =>
          rw [SlotTree.labelsOfSlots_cons_none] at distinct allocated
          rcases inductionHypothesis ledRest distinct allocated with ⟨after, done, gone⟩
          refine ⟨after, ?_, gone⟩
          rw [pruneSlots, done]
          rfl
      | some child =>
          rcases @allocated_after_child l slots freed child distinct allocated with
            ⟨alive, inRest, aliveRest⟩
          rcases inductionHypothesis ledRest inRest aliveRest with ⟨after, done, gone⟩
          refine ⟨after, ?_, ?_⟩
          · rw [pruneSlots_cons_some (led child List.mem_cons_self) alive, done]
            rfl
          · intro addr member
            have earlier := gone addr member
            cases listed : CellTree.isListed l child with
            | true =>
                rw [listed, if_pos rfl] at earlier
                rw [dropped_cons_of_listed listed]
                exact earlier
            | false =>
                rw [listed, if_neg Bool.false_ne_true] at earlier
                rw [dropped_cons_of_unlisted listed, addrsOf, List.flatMap_cons, List.mem_append]
                rcases earlier with earlier | later
                · rcases List.mem_append.mp earlier with before | now
                  · exact Or.inl before
                  · rw [List.mem_singleton.mp now]
                    exact Or.inr (Or.inl addr_mem_map)
                · exact Or.inr (Or.inr later)

/-- At a child without a superpeer the loop follows a null pointer. -/
theorem pruneSlots_of_unled {child : CellTreeNode} (member : some child ∈ slots)
    (unled : child.label.getCoordinator = none)
    (distinct : ((SlotTree.labelsOfSlots slots).map CellInfo.addr).Nodup)
    (allocated : ∀ addr ∈ (SlotTree.labelsOfSlots slots).map CellInfo.addr, addr ∉ freed) :
    pruneSlots l freed slots = .error .nullDereference := by
  induction slots generalizing freed with
  | nil => cases member
  | cons slot slots inductionHypothesis =>
      cases slot with
      | none =>
          rw [SlotTree.labelsOfSlots_cons_none] at distinct allocated
          have inTail : some child ∈ slots := by
            rcases List.mem_cons.mp member with impossible | inTail
            · cases impossible
            · exact inTail
          rw [pruneSlots, inductionHypothesis inTail distinct allocated]
          rfl
      | some first =>
          rcases @allocated_after_child l slots freed first distinct allocated with
            ⟨alive, inRest, aliveRest⟩
          by_cases leads : first.label.getCoordinator = none
          · rw [pruneSlots, access_of_not_mem alive]
            simp only [CellTree.pruneSlot, leads]
            rfl
          · have inTail : some child ∈ slots := by
              rcases List.mem_cons.mp member with equal | inTail
              · cases equal
                exact absurd unled leads
              · exact inTail
            rw [pruneSlots_cons_some leads alive, inductionHypothesis inTail inRest aliveRest]
            rfl

end

/-! ## One call -/

section

variable {this after : CellHeap}

/-- A call that spares the root removes what it is asked to remove, and may be followed
by another one. -/
structure Spares (this : CellHeap) (removal : Removal) : Prop where
  safe : this.step removal ≠ .error .freedNode
  sound : ∀ after, this.step removal = .ok after → after.Sound
  removed : ∀ after, this.step removal = .ok after →
    this.Removed (this.tree.requested removal) after

theorem spares_of_eq_ok {removal : Removal} (done : this.step removal = .ok after)
    (inv : RepInv after.tree) (removed : this.Removed (this.tree.requested removal) after) :
    this.Spares removal where
  safe := by
    rw [done]
    rintro ⟨⟩
  sound := by
    intro other same
    cases done.symm.trans same
    exact ⟨inv, removed.allocated⟩
  removed := by
    intro other same
    cases done.symm.trans same
    exact removed

/-- The position of a cell that is not that of the root. -/
theorem exists_below {t : CellTree} {fid : CellID} {path : Path}
    (known : t.getCellTreeNode fid = some path) (other : fid ≠ t.getRootCellID) :
    ∃ above i c, path = above ++ [i] ∧ t.rootNode.at? (above ++ [i]) = some c ∧
      t.subtree fid = some c := by
  rcases CellTree.getCellTreeNode_eq_some known with ⟨c, found, labelled⟩
  have held : t.subtree fid = some c := by
    rw [CellTree.subtree, known]
    exact found
  rcases List.eq_nil_or_concat' path with rfl | ⟨above, i, rfl⟩
  · cases found
    exact absurd labelled.symm other
  · exact ⟨above, i, c, rfl, found, held⟩

theorem spares_removeSubtree (sound : this.Sound) {fid : CellID}
    (other : fid ≠ this.tree.getRootCellID) : this.Spares (.removeSubtree fid) := by
  cases known : this.tree.getCellTreeNode fid with
  | none =>
      have nothing : this.tree.requested (.removeSubtree fid) = [] := by
        rw [CellTree.requested, CellTree.subtree, known]
        rfl
      apply @spares_of_eq_ok this this
      · rw [step, removeSubtree_unknown sound known]
        rfl
      · exact sound.inv
      · rw [nothing]
        exact sound.removed_nil
  | some path =>
      rcases exists_below known other with ⟨above, i, c, rfl, found, held⟩
      rcases removeSubtree_below sound known found with ⟨after, done, inv, removed, -⟩
      apply @spares_of_eq_ok this after
      · rw [step, done]
        rfl
      · exact inv
      · rw [CellTree.requested, held]
        exact removed

theorem spares_removeSubtrees (sound : this.Sound)
    (others : ∀ i c, this.tree.rootNode.child i = some c →
      c.label.cellID ≠ this.tree.getRootCellID) : this.Spares .removeSubtrees := by
  have apart : ∀ c, some c ∈ this.tree.rootNode.slots → c.label.cellID ≠ this.tree.getRootCellID := by
    intro c member
    rcases SlotTree.exists_child_of_mem_slots member with ⟨i, held⟩
    exact others i c held
  have start : this.tree.rootNode.slots = List.replicate 0 none ++ this.tree.rootNode.slots := rfl
  rcases exists_rounds sound start apart with ⟨after, done, soundAfter, removed⟩
  apply @spares_of_eq_ok this after
  · rw [step, removeSubtrees_eq_rounds, CellTreeNode.treeSpan, done]
    rfl
  · exact soundAfter.inv
  · exact removed

theorem spares_pruneSubtrees (sound : this.Sound) (l : List UUID) :
    this.Spares (.pruneSubtrees l) := by
  have distinct := sound.inv.unshared
  have allocated := sound.allocated
  rw [Allocated] at allocated
  rw [CellTree.addrs, SlotTree.labels_eq, List.map_cons] at distinct allocated
  have below : ∀ addr ∈ (SlotTree.labelsOfSlots this.tree.rootNode.slots).map CellInfo.addr,
      addr ∉ this.freed := fun addr member => allocated addr (List.mem_cons_of_mem _ member)
  by_cases led : this.tree.ChildrenLed
  · rcases exists_pruneSlots (l := l) led (List.nodup_cons.mp distinct).2 below with ⟨freed, done, gone⟩
    have pruned := CellTree.pruneSubtrees_of_led led l
    let after : CellHeap :=
      { tree := ⟨.node this.tree.rootNode.label
          (this.tree.rootNode.slots.map (Option.filter (CellTree.isListed l)))⟩
        freed }
    apply @spares_of_eq_ok this after
    · rw [step, pruneSubtrees, access_of_not_mem sound.root_alive, done]
      rfl
    · exact sound.inv.pruneSubtrees pruned
    · apply removed_of_perm sound
      · exact congrArg CellInfo.addr (SlotTree.label_node _ _)
      · have unlinked := (perm_dropped l this.tree.rootNode.slots).cons this.tree.rootNode.label.addr
        rw [CellTree.addrs, SlotTree.labels_eq, List.map_cons, CellTree.addrs, SlotTree.labels_node,
          List.map_cons]
        exact unlinked.trans List.perm_middle.symm
      · exact gone
  · have crashes : this.step (.pruneSubtrees l) = .error .nullDereference := by
      unfold CellTree.ChildrenLed at led
      push Not at led
      rcases led with ⟨child, member, unled⟩
      rw [step, pruneSubtrees, access_of_not_mem sound.root_alive]
      simp only [bind, Except.bind,
        pruneSlots_of_unled member unled (List.nodup_cons.mp distinct).2 below]
    constructor
    · rw [crashes]
      rintro ⟨⟩
    · intro after done
      cases crashes.symm.trans done
    · intro after done
      cases crashes.symm.trans done

/-- A departure looks for the cell and strikes the peer before it removes the cell. -/
theorem leave_eq (sound : this.Sound) (uuid : UUID) (cellID : CellID) :
    this.leave uuid cellID =
      match this.tree.getCellTreeNode cellID with
      | none => .ok (this, false)
      | some path =>
          match (this.tree.rootNode.at? path).bind fun node => node.label.remove uuid with
          | none => .ok (this, false)
          | some info =>
              let removed :=
                { this with tree := this.tree.modify path (SlotTree.mapLabel fun _ => info) }
              if info.getPeerCount = 0 then
                (removed.removeSubtree cellID).map fun pruned => (pruned.1, true)
              else
                .ok (removed, true) := by
  rw [leave, sound.search]
  cases this.tree.getCellTreeNode cellID with
  | none => rfl
  | some path =>
      simp only [bind, Except.bind]
      cases (this.tree.rootNode.at? path).bind fun node => node.label.remove uuid with
      | none => rfl
      | some info =>
          dsimp only
          split
          · cases CellHeap.removeSubtree _ cellID with
            | error fault => rfl
            | ok out => rfl
          · rfl

/-- Striking a peer leaves every node where it is. -/
theorem Sound.relabel (sound : this.Sound) {path : Path} {n : CellTreeNode} {info : CellInfo}
    (found : this.tree.rootNode.at? path = some n) (same : CellInfo.SameNode n.label info) :
    ({ this with tree := this.tree.modify path (SlotTree.mapLabel fun _ => info) } : CellHeap).Sound ∧
      (this.tree.modify path (SlotTree.mapLabel fun _ => info)).addrs = this.tree.addrs := by
  have addrs : (this.tree.modify path (SlotTree.mapLabel fun _ => info)).addrs = this.tree.addrs := by
    have mapped := congrArg SlotTree.labels (CellTree.map_relabel found same.addr)
    rw [SlotTree.labels_map, SlotTree.labels_map] at mapped
    exact mapped
  refine ⟨⟨sound.inv.relabel found same, ?_⟩, addrs⟩
  intro addr member
  apply sound.allocated addr
  rw [← addrs]
  exact member

theorem spares_leave_unchanged (sound : this.Sound) {uuid : UUID} {cellID : CellID} {status : Bool}
    (done : this.leave uuid cellID = .ok (this, status)) (staffed : ¬this.tree.Deserts uuid cellID) :
    this.Spares (.leave uuid cellID) := by
  apply @spares_of_eq_ok this this
  · rw [step, done]
    rfl
  · exact sound.inv
  · rw [CellTree.requested, if_neg staffed]
    exact sound.removed_nil

/-- A node whose peers are known is deserted when no superpeer is left. -/
theorem deserts_iff {uuid : UUID} {cellID : CellID} {n : CellTreeNode}
    (held : this.tree.subtree cellID = some n) :
    this.tree.Deserts uuid cellID ↔ ∃ info, n.label.remove uuid = some info ∧ info.sps = [] := by
  constructor
  · rintro ⟨node, heldNode, deserted⟩
    rw [held] at heldNode
    cases heldNode
    exact deserted
  · intro deserted
    exact ⟨n, held, deserted⟩

/-- The leave of a peer that its node knows. -/
theorem leave_of_struck (sound : this.Sound) {uuid : UUID} {cellID : CellID} {path : Path}
    {n : CellTreeNode} {info : CellInfo} (known : this.tree.getCellTreeNode cellID = some path)
    (found : this.tree.rootNode.at? path = some n) (struck : n.label.remove uuid = some info) :
    this.leave uuid cellID =
      if info.sps = [] then
        (({ this with tree := this.tree.modify path (SlotTree.mapLabel fun _ => info) } :
          CellHeap).removeSubtree cellID).map fun pruned => (pruned.1, true)
      else
        .ok ({ this with tree := this.tree.modify path (SlotTree.mapLabel fun _ => info) }, true) := by
  have outcome := leave_eq sound uuid cellID
  rw [known] at outcome
  simp only [found, Option.bind_some, struck, CellInfo.getPeerCount_eq_zero_iff] at outcome
  exact outcome

theorem label_rootNode_relabel {path : Path} {n : CellTreeNode} {info : CellInfo}
    (found : this.tree.rootNode.at? path = some n) (same : CellInfo.SameNode n.label info) :
    (this.tree.modify path (SlotTree.mapLabel fun _ => info)).rootNode.label.addr =
      this.tree.rootNode.label.addr := by
  have mapped := congrArg SlotTree.label (CellTree.map_relabel found same.addr)
  rw [SlotTree.label_map, SlotTree.label_map] at mapped
  exact mapped

/-- The last superpeer of a node below the root leaves. -/
theorem spares_leave_last (sound : this.Sound) {uuid : UUID} {cellID : CellID} {path : Path}
    {n : CellTreeNode} {info : CellInfo} (known : this.tree.getCellTreeNode cellID = some path)
    (found : this.tree.rootNode.at? path = some n) (struck : n.label.remove uuid = some info)
    (deserted : info.sps = []) (notRoot : cellID ≠ this.tree.getRootCellID) :
    this.Spares (.leave uuid cellID) := by
  have same := CellInfo.sameNode_of_remove struck
  rcases sound.relabel found same with ⟨soundRemoved, addrs⟩
  have held : this.tree.subtree cellID = some n := by
    rw [CellTree.subtree, known]
    exact found
  rcases exists_below known notRoot with ⟨above, i, c, rfl, below, heldChild⟩
  cases held.symm.trans heldChild
  have knownRemoved := CellTree.getCellTreeNode_relabel found same cellID
  rw [known] at knownRemoved
  have foundRemoved : (this.tree.modify (above ++ [i])
      (SlotTree.mapLabel fun _ => info)).rootNode.at? (above ++ [i]) =
        some (n.mapLabel fun _ => info) := by
    rw [CellTree.modify, SlotTree.at?_modifyAt_self, found, Option.map_some]
  rcases removeSubtree_below soundRemoved knownRemoved foundRemoved with ⟨after, done, inv, removed, -⟩
  have relabelled : addrsOf [n.mapLabel fun _ => info] = addrsOf [n] := by
    rw [addrsOf_singleton, addrsOf_singleton, SlotTree.mapLabel, SlotTree.labels_node,
      SlotTree.labels_eq, List.map_cons, List.map_cons, same.addr]
  apply @spares_of_eq_ok this after
  · rw [step, leave_of_struck sound known found struck, if_pos deserted, done]
    rfl
  · exact inv
  · rw [CellTree.requested, if_pos ((deserts_iff held).mpr ⟨info, struck, deserted⟩), held]
    apply removed_of_perm sound
    · exact removed.root.trans (label_rootNode_relabel found same)
    · rw [← addrs, Option.toList_some, ← relabelled]
      exact removed.others
    · rw [Option.toList_some, ← relabelled]
      exact removed.freed

/-- A peer leaves a node that keeps a superpeer. -/
theorem spares_leave_staffed (sound : this.Sound) {uuid : UUID} {cellID : CellID} {path : Path}
    {n : CellTreeNode} {info : CellInfo} (known : this.tree.getCellTreeNode cellID = some path)
    (found : this.tree.rootNode.at? path = some n) (struck : n.label.remove uuid = some info)
    (staffed : info.sps ≠ []) (notDeserted : ¬this.tree.Deserts uuid cellID) :
    this.Spares (.leave uuid cellID) := by
  have same := CellInfo.sameNode_of_remove struck
  rcases sound.relabel found same with ⟨soundRemoved, addrs⟩
  apply spares_of_eq_ok
  · rw [step, leave_of_struck sound known found struck, if_neg staffed]
    rfl
  · exact soundRemoved.inv
  · rw [CellTree.requested, if_neg notDeserted]
    apply removed_of_perm sound
    · exact label_rootNode_relabel found same
    · rw [addrs]
      exact List.Perm.refl _
    · exact fun addr gone => Or.inl gone

theorem spares_leave (sound : this.Sound) {uuid : UUID} {cellID : CellID}
    (other : ¬this.tree.TakesRoot (.leave uuid cellID)) : this.Spares (.leave uuid cellID) := by
  have outcome := leave_eq sound uuid cellID
  cases known : this.tree.getCellTreeNode cellID with
  | none =>
      rw [known] at outcome
      apply spares_leave_unchanged sound outcome
      rintro ⟨node, held, -⟩
      rw [CellTree.subtree, known] at held
      cases held
  | some path =>
      rcases CellTree.getCellTreeNode_eq_some known with ⟨n, found, labelled⟩
      have held : this.tree.subtree cellID = some n := by
        rw [CellTree.subtree, known]
        exact found
      cases struck : n.label.remove uuid with
      | none =>
          rw [known] at outcome
          simp only [found, Option.bind_some, struck] at outcome
          apply spares_leave_unchanged sound outcome
          intro deserts
          rcases (deserts_iff held).mp deserts with ⟨info, removed, -⟩
          rw [struck] at removed
          cases removed
      | some info =>
          by_cases deserted : info.sps = []
          · have deserts := (deserts_iff held).mpr ⟨info, struck, deserted⟩
            exact spares_leave_last sound known found struck deserted fun equal =>
              other ⟨equal, deserts⟩
          · apply spares_leave_staffed sound known found struck deserted
            intro deserts
            rcases (deserts_iff held).mp deserts with ⟨after, removed, last⟩
            rw [struck] at removed
            cases removed
            exact deserted last

theorem spares_of_not_takesRoot (sound : this.Sound) {removal : Removal}
    (spared : ¬this.tree.TakesRoot removal) : this.Spares removal := by
  cases removal with
  | removeSubtree fid => exact spares_removeSubtree sound spared
  | removeSubtrees =>
      apply spares_removeSubtrees sound
      intro i c held same
      exact spared ⟨i, c, held, same⟩
  | pruneSubtrees l => exact spares_pruneSubtrees sound l
  | leave uuid cellID => exact spares_leave sound spared

/-- A call that takes the root uses it afterwards, or leaves it linked. -/
theorem not_removes_of_takesRoot (sound : this.Sound) {removal : Removal}
    (takes : this.tree.TakesRoot removal) : ¬this.Removes removal := by
  intro removes
  have dangling : ∀ after, this.step removal = .ok after →
      after.tree.rootNode.label.addr ∈ after.freed → False := by
    intro after done gone
    apply (removes.removed after done).allocated _ _ gone
    rw [CellTree.addrs]
    exact addr_mem_map
  cases removal with
  | removeSubtree fid =>
      have known : this.tree.getCellTreeNode fid = some [] := by
        rw [show fid = _ from takes]
        exact CellTree.getCellTreeNode_of_root
      rcases removeSubtree_root sound known with ⟨freed, done, gone⟩
      apply dangling { tree := this.tree, freed } _ gone
      rw [step, done]
      rfl
  | removeSubtrees =>
      rcases takes with ⟨i, c, held, same⟩
      apply removes.safe
      have start : this.tree.rootNode.slots = List.replicate 0 none ++ this.tree.rootNode.slots := rfl
      rw [step, removeSubtrees_eq_rounds, CellTreeNode.treeSpan,
        rounds_of_taken sound start ⟨c, SlotTree.mem_slots_of_child held, same⟩]
      rfl
  | pruneSubtrees l => exact takes
  | leave uuid cellID =>
      rcases takes with ⟨rfl, node, held, info, struck, deserted⟩
      have known : this.tree.getCellTreeNode this.tree.getRootCellID = some [] :=
        CellTree.getCellTreeNode_of_root
      have found : this.tree.rootNode.at? [] = some node := by
        rw [CellTree.subtree, known] at held
        exact held
      have same := CellInfo.sameNode_of_remove struck
      have knownRemoved := CellTree.getCellTreeNode_relabel found same this.tree.getRootCellID
      rw [known] at knownRemoved
      rcases removeSubtree_root (sound.relabel found same).1 knownRemoved with ⟨freed, done, gone⟩
      have outcome := leave_eq sound uuid this.tree.getRootCellID
      rw [known] at outcome
      simp only [found, Option.bind_some, show node.label.remove uuid = some info from struck,
        CellInfo.getPeerCount_eq_zero_iff, if_pos deserted, done] at outcome
      let after : CellHeap :=
        { tree := this.tree.modify [] (SlotTree.mapLabel fun _ => info), freed }
      apply dangling after _ gone
      rw [step, outcome]
      rfl

end

/-! ## The calls without the addresses -/

section

variable {this : CellHeap}

/-- Below the root, `removeSubtree` makes of the tree what it makes without the addresses. -/
theorem tree_removeSubtree (sound : this.Sound) {fid : CellID}
    (other : fid ≠ this.tree.getRootCellID) :
    (this.removeSubtree fid).map (fun out => (out.1.tree, out.2)) = this.tree.removeSubtree fid := by
  cases known : this.tree.getCellTreeNode fid with
  | none =>
      rw [removeSubtree_unknown sound known, CellTree.removeSubtree, known]
      rfl
  | some path =>
      rcases exists_below known other with ⟨above, i, c, rfl, found, -⟩
      rcases removeSubtree_below sound known found with ⟨after, done, -, -, tree⟩
      rw [done, sound.inv.removeSubtree_eq known, ← tree]
      rfl

/-- The handlers of departures update the tree as `leave` does. -/
theorem tree_leave (sound : this.Sound) {uuid : UUID} {cellID : CellID}
    (other : cellID ≠ this.tree.getRootCellID) :
    (this.leave uuid cellID).map (fun out => (out.1.tree, out.2)) =
      this.tree.leave uuid cellID := by
  rw [leave_eq sound, CellTree.leave]
  cases known : this.tree.getCellTreeNode cellID with
  | none => rfl
  | some path =>
      rcases CellTree.getCellTreeNode_eq_some known with ⟨n, found, -⟩
      simp only [found, Option.bind_some]
      cases struck : n.label.remove uuid with
      | none => rfl
      | some info =>
          have same := CellInfo.sameNode_of_remove struck
          have soundRemoved := (sound.relabel found same).1
          have root : (this.tree.modify path (SlotTree.mapLabel fun _ => info)).getRootCellID =
              this.tree.getRootCellID := by
            have mapped := congrArg SlotTree.label (CellTree.map_relabel found same.cellID)
            rw [SlotTree.label_map, SlotTree.label_map] at mapped
            exact mapped
          dsimp only
          split
          · have removed := tree_removeSubtree soundRemoved (root ▸ other)
            rw [← removed]
            cases CellHeap.removeSubtree _ cellID with
            | error fault => rfl
            | ok out => rfl
          · rfl

end

/-! ## Sequences of calls -/

/-- Every call of a sequence removes what it is asked to remove. -/
def AllRemove : CellHeap → List Removal → Prop
  | _, [] => True
  | this, removal :: rest =>
      this.Removes removal ∧ ∀ after, this.step removal = .ok after → AllRemove after rest

/-- No call of a sequence removes the cell of the root. -/
def AllSpareRoot : CellHeap → List Removal → Prop
  | _, [] => True
  | this, removal :: rest =>
      ¬this.tree.TakesRoot removal ∧ ∀ after, this.step removal = .ok after → AllSpareRoot after rest

/-- The calls of a sequence leave the root and its tree allocated and remove what they
are asked to remove exactly as long as none of them takes the cell of the root. -/
theorem allRemove_iff {this : CellHeap} (sound : this.Sound) (removals : List Removal) :
    this.AllRemove removals ↔ this.AllSpareRoot removals := by
  induction removals generalizing this with
  | nil => exact Iff.rfl
  | cons removal rest inductionHypothesis =>
      rw [AllRemove, AllSpareRoot]
      constructor
      · rintro ⟨removes, later⟩
        have spared : ¬this.tree.TakesRoot removal :=
          fun takes => not_removes_of_takesRoot sound takes removes
        refine ⟨spared, ?_⟩
        intro after done
        have soundAfter := (spares_of_not_takesRoot sound spared).sound after done
        exact (inductionHypothesis soundAfter).mp (later after done)
      · rintro ⟨spared, later⟩
        have spares := spares_of_not_takesRoot sound spared
        refine ⟨⟨spares.safe, spares.removed⟩, ?_⟩
        intro after done
        exact (inductionHypothesis (spares.sound after done)).mpr (later after done)

/-- The root cell 1 with the cell 2 below it. -/
def twoCells : CellHeap where
  tree := ((CellTree.new defaults ⟨[1]⟩).createSiblingAt defaults [] ⟨[2]⟩).1
  freed := []

theorem sound_twoCells : twoCells.Sound where
  inv := (RepInv.new defaults ⟨[1]⟩).createSiblingAt defaults [] ⟨[2]⟩
  allocated := fun _ _ => List.not_mem_nil

/-- The cell below the root is removed, and the root prunes what is left. -/
theorem allRemove_twoCells : twoCells.AllRemove [.removeSubtree ⟨[2]⟩, .pruneSubtrees []] := by
  apply (allRemove_iff sound_twoCells _).mpr
  constructor
  · intro takes
    exact absurd (show (⟨[2]⟩ : CellID) = ⟨[1]⟩ from takes) (by decide)
  · intro after _
    exact ⟨not_false, fun _ _ => trivial⟩

/-- `removeSubtree` with the identifier of the root deletes what `m_rootNode` links. -/
theorem exists_not_allRemove :
    ¬∀ (this : CellHeap) (removals : List Removal), this.Sound → this.AllRemove removals := by
  intro removes
  have removed := removes twoCells [.removeSubtree ⟨[1]⟩] sound_twoCells
  have takes : twoCells.tree.TakesRoot (.removeSubtree ⟨[1]⟩) := rfl
  exact not_removes_of_takesRoot sound_twoCells takes removed.1

end CellHeap

end Stheno.Superpeer
