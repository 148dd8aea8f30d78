import Stheno.Superpeer.Shape

/-!
# Reading a tree from any bytes

The state in a rebind packet is read without a check.  Whatever the bytes are, the
reader links each node to the node that it puts it into and takes a new address for
it; depths and slot numbers are those of the bytes until the tree is grafted.
-/

namespace Stheno.Superpeer

open Stheno.Tree Wire

/-- A node that was read, with everything below it, and the address after the last one. -/
structure Allocated (parent : Option Addr) (addr : Addr) (read : CellTreeNode × Addr) : Prop where
  here : read.1.label.addr = addr
  parent : read.1.label.parent = parent
  points : read.1.AllEdges PointsBack
  own : (read.1.labels.map CellInfo.addr).Nodup
  range : ∀ a ∈ read.1.labels.map CellInfo.addr, addr ≤ a ∧ a < read.2

namespace Allocated

variable {parent : Option Addr} {addr next : Addr} {node : CellTreeNode}

theorem le_next {read : CellTreeNode × Addr} (allocated : Allocated parent addr read) :
    addr < read.2 := by
  have root : addr ∈ read.1.labels.map CellInfo.addr := by
    rw [← allocated.here]
    exact List.mem_map_of_mem (SlotTree.mem_labels_iff.mpr ⟨_, SlotTree.mem_nodes_self _, rfl⟩)
  exact (allocated.range addr root).2

/-- A child in a slot, empty or not, that was read after the node. -/
theorem setSibbling (allocated : Allocated parent addr (node, next))
    {child : CellTreeNode × Addr} (childAllocated : Allocated (some addr) next child) {i : Nat}
    {after : CellTreeNode} (stored : CellTreeNode.setSibbling node i (some child.1) = .ok after) :
    Allocated parent addr (after, child.2) := by
  unfold CellTreeNode.setSibbling at stored
  split at stored
  · rename_i bound
    rw [Option.map_some, allocated.here, CellTreeNode.setParent_eq_self childAllocated.parent] at stored
    cases stored
    have emptied : (node.setSlot i none).slots[i]? = some none := by
      rw [SlotTree.setSlot, SlotTree.slots_node, List.getElem?_set_self bound]
    have fewer := (SlotTree.labels_setSlot_none_sublist node i).map CellInfo.addr
    have filled := (SlotTree.labels_setSlot_some_perm (c := child.1) emptied).map CellInfo.addr
    rw [SlotTree.setSlot_setSlot, List.map_append] at filled
    constructor
    · exact allocated.here
    · exact allocated.parent
    · exact allocated.points.setSlot_some childAllocated.points
        (childAllocated.parent.trans (congrArg some allocated.here.symm))
    · rw [filled.nodup_iff]
      apply childAllocated.own.append (allocated.own.sublist fewer)
      intro a inChild inNode
      exact Nat.not_lt.mpr (childAllocated.range a inChild).1
        (allocated.range a (fewer.subset inNode)).2
    · intro a member
      rcases List.mem_append.mp (filled.mem_iff.mp member) with inChild | inNode
      · have bounds := childAllocated.range a inChild
        exact ⟨Nat.le_trans (Nat.le_of_lt allocated.le_next) bounds.1, bounds.2⟩
      · have bounds := allocated.range a (fewer.subset inNode)
        exact ⟨bounds.1, Nat.lt_trans bounds.2 childAllocated.le_next⟩
  · cases stored

end Allocated

namespace CellTreeNode

theorem allocated_fields {parent : Option Addr} {addr : Addr} {stream after : InputStream}
    {node : CellTreeNode} (read : deserializeFields parent addr stream = .ok (node, after)) :
    Allocated parent addr (node, addr + 1) := by
  have leaf : ∃ info slots, node = .node info (List.replicate slots none) ∧
      info.addr = addr ∧ info.parent = parent := by
    unfold deserializeFields at read
    rcases Reader.bind_eq_ok.mp read with ⟨cellID, _, -, read⟩
    rcases Reader.bind_eq_ok.mp read with ⟨port, _, -, read⟩
    rcases Reader.bind_eq_ok.mp read with ⟨depth, _, -, read⟩
    rcases Reader.bind_eq_ok.mp read with ⟨spanNo, _, -, read⟩
    rcases Reader.bind_eq_ok.mp read with ⟨treeSpan, _, -, read⟩
    rcases Reader.bind_eq_ok.mp read with ⟨maxSPs, _, -, read⟩
    rcases Reader.bind_eq_ok.mp read with ⟨maxSensors, _, -, read⟩
    rcases Reader.bind_eq_ok.mp read with ⟨maxMonitor, _, -, read⟩
    split at read
    · cases read
    · rcases Reader.bind_eq_ok.mp read with ⟨sps, _, -, read⟩
      rcases Reader.bind_eq_ok.mp read with ⟨sensors, _, -, read⟩
      rcases Reader.bind_eq_ok.mp read with ⟨monitors, _, -, read⟩
      cases read
      exact ⟨_, _, rfl, rfl, rfl⟩
  rcases leaf with ⟨info, slots, rfl, here, above⟩
  constructor
  · exact here
  · exact above
  · apply SlotTree.allEdges_of_no_child
    intro i
    rw [SlotTree.child, SlotTree.slots_node, List.getElem?_replicate]
    split <;> rfl
  · simp
  · simp [here]

theorem allocated_siblings {readChild : Addr → Reader (CellTreeNode × Addr)} {addr : Addr}
    (allocates : ∀ next stream child after, readChild next stream = .ok (child, after) →
      Allocated (some addr) next child)
    {parent : Option Addr} {count : Nat} {node : CellTreeNode} {next : Addr}
    (start : Allocated parent addr (node, next)) {stream after : InputStream}
    {out : CellTreeNode × Addr}
    (read : deserializeSiblings readChild count node next stream = .ok (out, after)) :
    Allocated parent addr out := by
  induction count generalizing node next stream with
  | zero =>
      cases read
      exact start
  | succ count ih =>
      rcases Reader.bind_eq_ok.mp read with ⟨order, _, -, read⟩
      rcases Reader.bind_eq_ok.mp read with ⟨child, _, readHere, read⟩
      rcases Reader.bind_eq_ok.mp read with ⟨stored, _, stores, read⟩
      apply ih _ read
      unfold setSibblingRead at stores
      split at stores
      · cases stores
      · cases held : setSibbling node order.toNat (some child.1) with
        | error fault =>
            rw [held] at stores
            cases stores
        | ok filled =>
            rw [held] at stores
            cases stores
            exact start.setSibbling (allocates _ _ _ _ readHere) held

theorem allocated_node {fuel : Nat} {parent : Option Addr} {addr : Addr}
    {stream after : InputStream} {out : CellTreeNode × Addr}
    (read : deserialize fuel parent addr stream = .ok (out, after)) :
    Allocated parent addr out := by
  induction fuel generalizing parent addr stream out after with
  | zero => cases read
  | succ fuel ih =>
      rcases Reader.bind_eq_ok.mp read with ⟨node, _, fields, read⟩
      rcases Reader.bind_eq_ok.mp read with ⟨siblingCount, _, -, read⟩
      exact allocated_siblings (fun _ _ _ _ childRead => ih childRead) (allocated_fields fields) read

end CellTreeNode

/-- A tree that was read has right parent pointers and addresses from `base` on. -/
theorem CellTree.allocated_of_deserialize {base : Addr} {stream after : InputStream} {t : CellTree}
    (read : CellTree.deserialize base stream = .ok (t, after)) :
    t.rootNode.AllEdges PointsBack ∧ t.addrs.Nodup ∧ ∀ a ∈ t.addrs, base ≤ a := by
  rcases Reader.bind_eq_ok.mp read with ⟨whole, _, -, read⟩
  rcases Reader.bind_eq_ok.mp read with ⟨root, _, node, read⟩
  cases read
  have allocated := CellTreeNode.allocated_node node
  exact ⟨allocated.points, allocated.own, fun a member => (allocated.range a member).1⟩

end Stheno.Superpeer
