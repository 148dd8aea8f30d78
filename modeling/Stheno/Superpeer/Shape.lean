import Stheno.Superpeer.TreeCodec
import Stheno.Superpeer.TreeSpec

/-!
# The representation invariant of the cell tree

Every child points at the node that holds it, knows its slot and is one level
deeper; no two positions hold the same node; and the root has no parent and
depth 0.  Each operation is shown to keep the invariant through what it does to
the positions: it fills an empty slot, empties a slot, or relabels one node.
-/

namespace Stheno.Superpeer

open Stheno.Tree Peer

/-- What a child in slot `i` records about the node that holds it. -/
structure Linked (holder : CellInfo) (i : Nat) (child : CellInfo) : Prop where
  parent : child.parent = some holder.addr
  spanNo : child.spanNo = i
  depth : child.depth = holder.depth + 1

/-- The part of `Linked` that grafting does not repair. -/
def PointsBack (holder : CellInfo) (_ : Nat) (child : CellInfo) : Prop :=
  child.parent = some holder.addr

/-- The representation invariant. -/
structure RepInv (t : CellTree) : Prop where
  /-- Parent pointers, slot numbers and depths are right along every edge. -/
  linked : t.rootNode.AllEdges Linked
  /-- No node is reachable through two different slots. -/
  unshared : t.addrs.Nodup
  rootParent : t.rootNode.label.parent = none
  rootDepth : t.rootNode.label.depth = 0

/-! ## Relocation inside the tree -/

namespace CellTreeNode

theorem getElem?_setLocationOfSlots (depth : Int) (i j : Nat) (slots : List (Option CellTreeNode)) :
    (setLocationOfSlots depth i slots)[j]? =
      (slots[j]?).map (Option.map (setLocation depth (i + j : Nat))) := by
  induction slots generalizing i j with
  | nil => simp [setLocationOfSlots]
  | cons slot slots ih =>
      cases j with
      | zero => cases slot <;> simp [setLocationOfSlots]
      | succ j =>
          have later := ih (i + 1) j
          have number : i + 1 + j = i + (j + 1) := by omega
          rw [number] at later
          cases slot <;> simpa only [setLocationOfSlots, List.getElem?_cons_succ] using later

theorem label_setLocation (depth spanNo : Int) (t : CellTreeNode) :
    (setLocation depth spanNo t).label = { t.label with depth, spanNo } := by
  cases t
  rw [setLocation, SlotTree.label_node, SlotTree.label_node]

theorem slots_setLocation (depth spanNo : Int) (t : CellTreeNode) :
    (setLocation depth spanNo t).slots = setLocationOfSlots (depth + 1) 0 t.slots := by
  cases t
  rw [setLocation, SlotTree.slots_node, SlotTree.slots_node]

theorem setLocationOfSlots_replicate (depth : Int) (i count : Nat) :
    setLocationOfSlots depth i (List.replicate count none) = List.replicate count none := by
  induction count generalizing i with
  | zero => simp [setLocationOfSlots]
  | succ count ih => simp [List.replicate_succ, setLocationOfSlots, ih]

theorem child_setLocation (depth spanNo : Int) (t : CellTreeNode) (i : Nat) :
    (setLocation depth spanNo t).child i = (t.child i).map (setLocation (depth + 1) i) := by
  cases t with
  | node info slots =>
      simp only [setLocation, SlotTree.child, SlotTree.slots_node, getElem?_setLocationOfSlots,
        Nat.zero_add]
      cases slots[i]? <;> rfl

/-- Moving a subtree keeps every field but depths and slot numbers. -/
theorem map_labels_setLocation {β : Type} (g : CellInfo → β)
    (ignores : ∀ info depth spanNo, g { info with depth, spanNo } = g info)
    (depth spanNo : Int) (t : CellTreeNode) :
    (setLocation depth spanNo t).labels.map g = t.labels.map g := by
  induction t using SlotTree.induction generalizing depth spanNo with
  | node info slots ih =>
      have inSlots : ∀ (rest : List (Option CellTreeNode)) (i : Nat),
          (∀ c, some c ∈ rest → some c ∈ slots) →
          (SlotTree.labelsOfSlots (setLocationOfSlots (depth + 1) i rest)).map g =
            (SlotTree.labelsOfSlots rest).map g := by
        intro rest
        induction rest with
        | nil => simp [setLocationOfSlots]
        | cons slot rest restIh =>
            intro i included
            have tail := restIh (i + 1) fun c member => included c (List.mem_cons_of_mem _ member)
            cases slot with
            | none => simpa [setLocationOfSlots] using tail
            | some c =>
                have here := ih c (included c List.mem_cons_self) (depth + 1) i
                simp [setLocationOfSlots, here, tail]
      rw [setLocation, SlotTree.labels_node, SlotTree.labels_node, List.map_cons, List.map_cons,
        ignores, inSlots slots 0 fun c member => member]

/-- Relocation sets depths and slot numbers right, whatever they were. -/
theorem linked_setLocation {t : CellTreeNode} (points : t.AllEdges PointsBack)
    (depth spanNo : Int) :
    (setLocation depth spanNo t).AllEdges Linked := by
  induction t using SlotTree.induction generalizing depth spanNo with
  | node info slots ih =>
      rw [SlotTree.allEdges_iff]
      intro i c held
      rw [child_setLocation] at held
      rcases Option.map_eq_some_iff.mp held with ⟨d, original, rfl⟩
      have atChild := SlotTree.allEdges_iff.mp points i d original
      constructor
      · rw [label_setLocation, label_setLocation]
        exact ⟨atChild.1, rfl, rfl⟩
      · exact ih d (SlotTree.mem_slots_of_child original) atChild.2 _ _

theorem linked_setParent {t : CellTreeNode} (linked : t.AllEdges Linked) (parent : Option Addr) :
    (setParent parent t).AllEdges Linked :=
  linked.mapLabel fun _ _ edge => ⟨edge.parent, edge.spanNo, edge.depth⟩

theorem map_labels_setParent {β : Type} (g : CellInfo → β)
    (ignores : ∀ info parent, g { info with parent } = g info) (parent : Option Addr)
    (t : CellTreeNode) : (setParent parent t).labels.map g = t.labels.map g := by
  rw [setParent, SlotTree.mapLabel, SlotTree.labels_node, List.map_cons, ignores,
    SlotTree.labels_eq, List.map_cons]

/-- The subtree that `addSubtree` puts below a node. -/
def grafted (subTree n : CellTreeNode) (i : Nat) : CellTreeNode :=
  setParent (some n.label.addr) (setLocation (n.label.depth + 1) i subTree)

theorem linked_grafted {subTree : CellTreeNode} (points : subTree.AllEdges PointsBack)
    (n : CellTreeNode) (i : Nat) : (grafted subTree n i).AllEdges Linked :=
  linked_setParent (linked_setLocation points _ _) _

theorem linked_to_grafted (subTree n : CellTreeNode) (i : Nat) :
    Linked n.label i (grafted subTree n i).label := by
  rw [grafted, setParent, SlotTree.mapLabel, SlotTree.label_node, label_setLocation]
  exact ⟨rfl, rfl, rfl⟩

theorem map_labels_grafted {β : Type} (g : CellInfo → β)
    (ignoresPlace : ∀ info depth spanNo, g { info with depth, spanNo } = g info)
    (ignoresParent : ∀ info parent, g { info with parent } = g info) (subTree n : CellTreeNode)
    (i : Nat) : (grafted subTree n i).labels.map g = subTree.labels.map g := by
  rw [grafted, map_labels_setParent g ignoresParent, map_labels_setLocation g ignoresPlace]

theorem childless_new (config : P3Configuration) (addr : Addr) (cellID : CellID)
    (parent : Option Addr) (spanNo depth : Int) (i : Nat) :
    (new config addr cellID parent spanNo depth).child i = none := by
  rw [SlotTree.child, new, SlotTree.slots_node, List.getElem?_replicate]
  split <;> rfl

theorem labels_new (config : P3Configuration) (addr : Addr) (cellID : CellID)
    (parent : Option Addr) (spanNo depth : Int) :
    (new config addr cellID parent spanNo depth).labels =
      [(new config addr cellID parent spanNo depth).label] := by
  rw [new, SlotTree.labels_node, SlotTree.labelsOfSlots_replicate_none, SlotTree.label_node]

end CellTreeNode

/-! ## Updates that keep the invariant -/

/-- The root label survives every update that keeps the label of its node. -/
theorem label_modify {t : CellTree} {n : CellTreeNode} {path : Path}
    {f : CellTreeNode → CellTreeNode} (found : t.rootNode.at? path = some n)
    (kept : (f n).label = n.label) : (t.modify path f).rootNode.label = t.rootNode.label := by
  cases path with
  | nil =>
      rw [SlotTree.at?_nil, Option.some.injEq] at found
      rw [CellTree.modify, SlotTree.modifyAt_nil, found, kept]
  | cons i path => exact SlotTree.label_modifyAt_cons f i path t.rootNode

namespace RepInv

variable {t : CellTree}

theorem new (config : P3Configuration) (rootCellID : CellID) :
    RepInv (CellTree.new config rootCellID) where
  linked := SlotTree.allEdges_of_no_child (CellTreeNode.childless_new config 0 rootCellID none 0 0)
  unshared := by
    rw [CellTree.addrs, CellTree.new, CellTreeNode.labels_new]
    exact List.nodup_singleton _
  rootParent := rfl
  rootDepth := rfl

/-- A well-linked subtree of other nodes may fill an empty slot. -/
theorem fill (inv : RepInv t) {path : Path} {n c : CellTreeNode} {i : Nat}
    (found : t.rootNode.at? path = some n) (free : n.slots[i]? = some none)
    (below : c.AllEdges Linked) (edge : Linked n.label i c.label)
    (own : (c.labels.map CellInfo.addr).Nodup)
    (apart : List.Disjoint (c.labels.map CellInfo.addr) t.addrs) :
    RepInv (t.modify path fun n => n.setSlot i (some c)) where
  linked := inv.linked.modifyAt found ((inv.linked.at? found).setSlot_some below edge)
    fun _ _ into => into
  unshared := by
    have added := (SlotTree.labels_fillAt_perm (c := c) found free).map CellInfo.addr
    rw [List.map_append] at added
    exact added.nodup_iff.mpr (own.append inv.unshared apart)
  rootParent := by
    rw [label_modify found rfl]
    exact inv.rootParent
  rootDepth := by
    rw [label_modify found rfl]
    exact inv.rootDepth

/-- A slot may be emptied. -/
theorem clear (inv : RepInv t) {path : Path} {n c : CellTreeNode} {i : Nat}
    (found : t.rootNode.at? path = some n) (held : n.child i = some c) :
    RepInv (t.modify path fun n => n.setSlot i none) where
  linked := inv.linked.modifyAt found ((inv.linked.at? found).setSlot_none i)
    fun _ _ into => into
  unshared := by
    have removed := (SlotTree.labels_clearAt_perm found held).map CellInfo.addr
    rw [List.map_append] at removed
    exact (List.nodup_append.mp (removed.nodup_iff.mp inv.unshared)).2.1
  rootParent := by
    rw [label_modify found rfl]
    exact inv.rootParent
  rootDepth := by
    rw [label_modify found rfl]
    exact inv.rootDepth

/-- The peers of a node may change. -/
theorem relabel (inv : RepInv t) {path : Path} {n : CellTreeNode} {info : CellInfo}
    (found : t.rootNode.at? path = some n) (same : CellInfo.SameNode n.label info) :
    RepInv (t.modify path (SlotTree.mapLabel fun _ => info)) where
  linked := by
    apply inv.linked.modifyAt found
    · apply (inv.linked.at? found).mapLabel
      intro i b edge
      exact ⟨same.addr ▸ edge.parent, edge.spanNo, same.depth ▸ edge.depth⟩
    · intro a i into
      exact ⟨same.parent.trans into.parent, same.spanNo.trans into.spanNo,
        same.depth.trans into.depth⟩
  unshared := by
    rcases SlotTree.exists_labels_relabelAt found with ⟨before, after, whole, updated⟩
    have unshared := inv.unshared
    rw [CellTree.addrs, whole] at unshared
    rw [CellTree.addrs, CellTree.modify, updated]
    simpa [same.addr] using unshared
  rootParent := by
    cases path with
    | nil =>
        rw [SlotTree.at?_nil, Option.some.injEq] at found
        rw [CellTree.modify, SlotTree.modifyAt_nil, SlotTree.mapLabel, SlotTree.label_node,
          same.parent, ← found]
        exact inv.rootParent
    | cons i path =>
        rw [CellTree.modify, SlotTree.label_modifyAt_cons]
        exact inv.rootParent
  rootDepth := by
    cases path with
    | nil =>
        rw [SlotTree.at?_nil, Option.some.injEq] at found
        rw [CellTree.modify, SlotTree.modifyAt_nil, SlotTree.mapLabel, SlotTree.label_node,
          same.depth, ← found]
        exact inv.rootDepth
    | cons i path =>
        rw [CellTree.modify, SlotTree.label_modifyAt_cons]
        exact inv.rootDepth

/-- A new cell in an empty slot. -/
theorem fillNew (inv : RepInv t) (config : P3Configuration) (cellID : CellID) {path : Path}
    {n : CellTreeNode} {i : Nat} (found : t.rootNode.at? path = some n)
    (free : CellTreeNode.firstFree n = some i) :
    RepInv (t.modify path fun n => n.setSlot i (some (CellTree.newChild config t cellID n i))) := by
  have same : t.modify path (fun n => n.setSlot i (some (CellTree.newChild config t cellID n i))) =
      t.modify path (fun m => m.setSlot i (some (CellTree.newChild config t cellID n i))) :=
    CellTree.modify_congr found rfl
  have addrs : (CellTree.newChild config t cellID n i).labels.map CellInfo.addr =
      [t.freshAddr] := by
    rw [CellTree.newChild, CellTreeNode.labels_new]
    rfl
  rw [same]
  apply inv.fill found (CellTreeNode.firstFree_eq_some free)
  · exact SlotTree.allEdges_of_no_child (CellTreeNode.childless_new _ _ _ _ _ _)
  · exact ⟨rfl, rfl, rfl⟩
  · rw [addrs]
    exact List.nodup_singleton _
  · rw [addrs, List.singleton_disjoint]
    exact t.freshAddr_not_mem

theorem createSiblingAt (inv : RepInv t) (config : P3Configuration) (path : Path)
    (cellID : CellID) : RepInv (t.createSiblingAt config path cellID).1 := by
  rcases t.createSiblingAt_cases config path cellID with
    ⟨n, i, found, free, created⟩ | ⟨-, refused⟩
  · rw [created]
    exact inv.fillNew config cellID found free
  · rw [refused]
    exact inv

theorem addAt (inv : RepInv t) (path : Path) (peer : P3PeerInfo) :
    RepInv (t.addAt path peer).1 := by
  rcases t.addAt_cases path peer with ⟨n, info, found, added, updated⟩ | ⟨-, refused⟩
  · rw [updated]
    exact inv.relabel found (CellInfo.sameNode_of_add added)
  · rw [refused]
    exact inv

theorem addPeer (inv : RepInv t) (peer : P3PeerInfo) : RepInv (t.addPeer peer).1 := by
  unfold CellTree.addPeer
  split
  · exact inv.addAt _ _
  · exact inv

theorem addPeerUnder (inv : RepInv t) {config : P3Configuration} {peer : P3PeerInfo}
    {parentCellID : Option CellID} {out : CellTree × Int}
    (added : t.addPeerUnder config peer parentCellID = .ok out) : RepInv out.1 := by
  rcases t.addPeerUnder_cases config peer parentCellID with
    ⟨path, -, here⟩ | ⟨-, -, fault⟩ | ⟨-, parent, path, n, i, -, -, found, free, created⟩ |
      ⟨-, -, refused⟩
  · cases here.symm.trans added
    exact inv.addAt path peer
  · cases fault.symm.trans added
  · cases created.symm.trans added
    exact (inv.fillNew config peer.fid found free).addAt _ peer
  · cases refused.symm.trans added
    exact inv

/-- A subtree of other nodes may be grafted when its parent pointers are right. -/
theorem addSubtree (inv : RepInv t) {s : CellTree} (points : s.rootNode.AllEdges PointsBack)
    (own : s.addrs.Nodup) (apart : List.Disjoint s.addrs t.addrs) (parentCellID : Option CellID) :
    RepInv (t.addSubtree s parentCellID).1 := by
  rcases t.addSubtree_cases s parentCellID with
    ⟨-, known⟩ | ⟨-, path, n, i, -, found, free, grafted⟩ | ⟨-, -, refused⟩
  · rw [known]
    exact inv
  · rw [grafted]
    have addrs : (CellTreeNode.grafted s.rootNode n i).labels.map CellInfo.addr = s.addrs :=
      CellTreeNode.map_labels_grafted CellInfo.addr (fun _ _ _ => rfl) (fun _ _ => rfl) _ _ _
    have same : t.modify path (CellTree.graft s.rootNode i) =
        t.modify path (fun m => m.setSlot i (some (CellTreeNode.grafted s.rootNode n i))) :=
      CellTree.modify_congr found rfl
    rw [same]
    exact inv.fill found (CellTreeNode.firstFree_eq_some free)
      (CellTreeNode.linked_grafted points n i)
      (CellTreeNode.linked_to_grafted s.rootNode n i) (addrs ▸ own) (addrs ▸ apart)
  · rw [refused]
    exact inv

end RepInv

end Stheno.Superpeer
