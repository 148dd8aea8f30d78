import Stheno.Superpeer.Contents
import Stheno.Superpeer.Reach

/-!
# What the removal of a cell keeps

A leaf that takes the place of a removed cell inherits as many of its slots as the
parent has.  Children in later slots go with the removed cell.  A removal loses
nothing else exactly when no child sits there and the promotion stays inside the
arrays, and the cells can be removed one after another exactly when every
promotion on the way does.
-/

namespace Stheno.Superpeer

open Stheno.Tree Peer

/-- A cell as the rest of the mesh knows it: its identifier and its peers. -/
structure CellMembers where
  cellID : CellID
  sps : List P3PeerInfo
  sensors : List P3PeerInfo
  monitors : List P3PeerInfo
  deriving DecidableEq

def CellInfo.members (this : CellInfo) : CellMembers where
  cellID := this.cellID
  sps := this.sps
  sensors := this.sensors
  monitors := this.monitors

namespace CellTree

/-- The cells of a tree with their peers. -/
def cells (this : CellTree) : List CellMembers :=
  this.rootNode.labels.map CellInfo.members

theorem cellIDs_eq_map_cells (t : CellTree) : t.cellIDs = t.cells.map CellMembers.cellID := by
  rw [cellIDs, cells, List.map_map]
  rfl

theorem cells_eq_cons (t : CellTree) :
    t.cells = t.rootNode.label.members ::
      (SlotTree.labelsOfSlots t.rootNode.slots).map CellInfo.members := by
  rw [cells, SlotTree.labels_eq, List.map_cons]

theorem cellIDs_eq_cons (t : CellTree) :
    t.cellIDs = t.getRootCellID ::
      (SlotTree.labelsOfSlots t.rootNode.slots).map CellInfo.cellID := by
  rw [cellIDs, SlotTree.labels_eq, List.map_cons]
  rfl

/-- The call removes the cell and no other. -/
def RemovesOnly (this : CellTree) (cellID : CellID) : Prop :=
  ∃ after gone, this.removeCell cellID = .ok after ∧ gone.cellID = cellID ∧
    this.cells.Perm (gone :: after.cells)

/-- No child but the promoted one sits beyond the first `span` slots. -/
def WithinSpan (node : CellTreeNode) (span : Nat) : Prop :=
  ∀ i < CellTreeNode.treeSpan node, span ≤ i → (node.child i).isSome →
    findBottomPath node = [i]

instance (node : CellTreeNode) (span : Nat) : Decidable (WithinSpan node span) := by
  unfold WithinSpan
  infer_instance

/-- The children of the cell sit in slots that its parent has too. -/
def KeepsChildren (this : CellTree) (cellID : CellID) : Prop :=
  ∀ path ∈ this.getCellTreeNode cellID, ∀ above ∈ this.getParentTreeNode cellID,
    ∀ node ∈ this.rootNode.at? path, ∀ parent ∈ this.rootNode.at? above,
      WithinSpan node (CellTreeNode.treeSpan parent)

instance (this : CellTree) (cellID : CellID) : Decidable (this.KeepsChildren cellID) := by
  unfold KeepsChildren
  infer_instance

/-- The calls of `removeCell` for the cells of a list, one after another. -/
def removeCells (this : CellTree) (order : List CellID) : Result CellTree :=
  order.foldlM removeCell this

/-- The calls leave the root cell, with its peers, and nothing else. -/
def LeavesRoot (this : CellTree) (order : List CellID) : Prop :=
  ∃ after, this.removeCells order = .ok after ∧ after.cells = [this.rootNode.label.members]

/-- Every promotion on the way fits. -/
def AllPromotionsFit (this : CellTree) : List CellID → Prop
  | [] => True
  | cellID :: order =>
      this.PromotionFits cellID ∧
        ∀ after, this.removeCell cellID = .ok after → after.AllPromotionsFit order

/-! ## One removal -/

/-- One entry leaves, one part is kept, one is lost, and the entry comes back. -/
theorem perm_of_exchange {β : Type} {whole cut after kept lost rest : List β} {gone moved : β}
    (first : whole.Perm (moved :: cut)) (second : cut.Perm (gone :: (kept ++ lost) ++ rest))
    (third : after.Perm (moved :: kept ++ rest)) : whole.Perm (gone :: (after ++ lost)) := by
  have last : (kept ++ lost ++ rest).Perm (kept ++ rest ++ lost) := by
    rw [List.append_assoc, List.append_assoc]
    exact List.perm_append_comm.append_left kept
  calc
    List.Perm whole (moved :: gone :: (kept ++ lost ++ rest)) := first.trans (second.cons moved)
    List.Perm _ (gone :: moved :: (kept ++ lost ++ rest)) := List.Perm.swap _ _ _
    List.Perm _ (gone :: moved :: (kept ++ rest ++ lost)) := (last.cons moved).cons gone
    List.Perm _ (gone :: (after ++ lost)) := (third.symm.append_right lost).cons gone

theorem labels_of_childless {leaf : CellTreeNode} (childless : ∀ k, leaf.child k = none) :
    leaf.labels = [leaf.label] := by
  rw [SlotTree.labels_eq,
    SlotTree.labelsOfSlots_of_empty (SlotTree.empty_of_childless childless)]

theorem label_modifyAt_setSlot (n : CellTreeNode) (j : Nat) (slot : Option CellTreeNode)
    (path : Path) : (n.modifyAt (fun n => n.setSlot j slot) path).label = n.label := by
  cases path with
  | nil => rw [SlotTree.modifyAt_nil, SlotTree.setSlot, SlotTree.label_node]
  | cons i path => exact SlotTree.label_modifyAt_cons _ i path n

/-- A promotion takes the removed node and the children beyond the inherited slots. -/
theorem cells_promote_perm {t : CellTree} {path up : Path} {i j : Nat}
    {p node bottom : CellTreeNode} (found : t.rootNode.at? path = some p)
    (held : p.child i = some node) (atBottom : node.at? (up ++ [j]) = some bottom)
    (leaf : ∀ k, bottom.child k = none) (span : Nat) :
    t.cells.Perm (node.label.members :: ((t.promote path i up j node bottom span).cells ++
      (SlotTree.labelsOfSlots
        ((node.modifyAt (fun n => n.setSlot j none) up).slots.drop span)).map CellInfo.members)) := by
  rcases RepInv.holder_of_at? atBottom with ⟨h, atHolder, heldBottom⟩
  have atUp : t.rootNode.at? (path ++ i :: up) = some h := by
    rw [SlotTree.at?_append, found, Option.bind_some, SlotTree.at?_cons, held, Option.bind_some,
      atHolder]
  generalize cutDef : node.modifyAt (fun n => n.setSlot j none) up = cut
  generalize pCutDef : p.modifyAt (fun n => n.setSlot j none) (i :: up) = pCut
  have atPath : (t.rootNode.modifyAt (fun n => n.setSlot j none) (path ++ i :: up)).at? path =
      some pCut := by
    rw [SlotTree.at?_modifyAt_append, found, Option.map_some, pCutDef]
  have heldCut : pCut.child i = some cut := by
    rw [← pCutDef, SlotTree.modifyAt_cons_child, if_pos rfl, held, Option.map_some, cutDef]
  have boundSlot : i < pCut.slots.length :=
    (List.getElem?_eq_some_iff.mp (SlotTree.child_eq_some_iff.mp heldCut)).1
  have emptied : (SlotTree.modifyAt (fun n => n.setSlot i none) path
      (t.rootNode.modifyAt (fun n => n.setSlot j none) (path ++ i :: up))).at? path =
        some (pCut.setSlot i none) := by
    rw [SlotTree.at?_modifyAt_self, atPath, Option.map_some]
  have free : (pCut.setSlot i none).slots[i]? = some none := by
    rw [SlotTree.setSlot, SlotTree.slots_node, List.getElem?_set_self boundSlot]
  -- the bottom node goes, then the removed node, then the bottom node comes back
  have first := (SlotTree.labels_clearAt_perm atUp heldBottom).map CellInfo.members
  have second := (SlotTree.labels_clearAt_perm atPath heldCut).map CellInfo.members
  have third := (SlotTree.labels_fillAt_perm
    (c := CellTreeNode.adopted cut (CellTreeNode.placedAt cut bottom) span) emptied free).map
      CellInfo.members
  have cutLabels : cut.labels = node.label ::
      (SlotTree.labelsOfSlots (cut.slots.take span) ++
        SlotTree.labelsOfSlots (cut.slots.drop span)) := by
    rw [SlotTree.labels_eq, ← cutDef, label_modifyAt_setSlot, ← SlotTree.labelsOfSlots_append,
      List.take_append_drop]
  have childless : ∀ k, (CellTreeNode.placedAt cut bottom).child k = none := leaf
  have adoptedLabels : (CellTreeNode.adopted cut (CellTreeNode.placedAt cut bottom) span).labels.map
      CellInfo.members =
      bottom.label.members :: (SlotTree.labelsOfSlots (cut.slots.take span)).map
        CellInfo.members :=
    CellTreeNode.map_labels_adopted CellInfo.members (fun _ _ => rfl) cut childless span
  simp only [SlotTree.modifyAt_modifyAt, SlotTree.setSlot_setSlot, labels_of_childless leaf,
    cutLabels,
    adoptedLabels, List.map_append, List.map_cons, List.singleton_append] at first second third
  subst cutDef
  exact perm_of_exchange first second third

/-- Slots without labels hold no child. -/
theorem labelsOfSlots_drop_eq_nil_iff {node : CellTreeNode} {span : Nat} :
    SlotTree.labelsOfSlots (node.slots.drop span) = [] ↔ ∀ i, span ≤ i → node.child i = none := by
  constructor
  · intro empty i beyond
    cases held : node.child i with
    | none => rfl
    | some c =>
        have entry : (node.slots.drop span)[i - span]? = some (some c) := by
          rw [List.getElem?_drop, Nat.add_sub_of_le beyond]
          exact SlotTree.child_eq_some_iff.mp held
        obtain ⟨before, after, split⟩ := List.append_of_mem (List.mem_of_getElem? entry)
        rw [split, SlotTree.labelsOfSlots_append, SlotTree.labelsOfSlots_cons_some,
          SlotTree.labels_eq c] at empty
        simp at empty
  · intro empty
    apply SlotTree.labelsOfSlots_of_empty
    intro slot member
    obtain ⟨k, entry⟩ := List.mem_iff_getElem?.mp member
    rw [List.getElem?_drop] at entry
    cases slot with
    | none => rfl
    | some c =>
        have held := SlotTree.child_eq_some_iff.mpr entry
        rw [empty _ (Nat.le_add_right _ _)] at held
        cases held

/-- Beyond the inherited slots nothing is left exactly when no other child sits there. -/
theorem labels_beyond_eq_nil_iff {node : CellTreeNode} {up : Path} {j span : Nat}
    (down : findBottomPath node = up ++ [j]) :
    SlotTree.labelsOfSlots
        ((node.modifyAt (fun n => n.setSlot j none) up).slots.drop span) = [] ↔
      WithinSpan node span := by
  rw [labelsOfSlots_drop_eq_nil_iff, WithinSpan, down]
  cases up with
  | nil =>
      -- the bottom node is a child of the cell, in slot `j`
      simp only [SlotTree.modifyAt_nil, SlotTree.child_setSlot, List.nil_append]
      constructor
      · intro empty i bound beyond present
        by_contra other
        have kept := empty i beyond
        rw [if_neg fun same => other (by rw [same.1])] at kept
        rw [kept] at present
        cases present
      · intro within i beyond
        by_cases same : j = i ∧ j < node.slots.length
        · rw [if_pos same]
        · rw [if_neg same]
          cases held : node.child i with
          | none => rfl
          | some c =>
              have bound := (List.getElem?_eq_some_iff.mp (SlotTree.child_eq_some_iff.mp held)).1
              have equal := within i bound beyond (by rw [held]; rfl)
              obtain ⟨rfl⟩ := equal
              exact absurd ⟨rfl, bound⟩ same
  | cons u up =>
      -- it is further below, so no slot of the cell has been emptied
      have kept : ∀ i, (node.modifyAt (fun n => n.setSlot j none) (u :: up)).child i = none ↔
          node.child i = none := by
        intro i
        rw [SlotTree.modifyAt_cons_child]
        split
        · exact Option.map_eq_none_iff
        · rfl
      simp only [kept]
      constructor
      · intro empty i bound beyond present
        rw [empty i beyond] at present
        cases present
      · intro within i beyond
        cases held : node.child i with
        | none => rfl
        | some c =>
            have bound := (List.getElem?_eq_some_iff.mp (SlotTree.child_eq_some_iff.mp held)).1
            have equal := within i bound beyond (by rw [held]; rfl)
            simp at equal

theorem label_promote {t : CellTree} {path up : Path} {i j : Nat} {p node bottom : CellTreeNode}
    (found : t.rootNode.at? path = some p) (held : p.child i = some node)
    (atBottom : node.at? (up ++ [j]) = some bottom) (span : Nat) :
    (t.promote path i up j node bottom span).rootNode.label = t.rootNode.label := by
  rcases RepInv.holder_of_at? atBottom with ⟨h, atHolder, -⟩
  have atUp : t.rootNode.at? (path ++ i :: up) = some h := by
    rw [SlotTree.at?_append, found, Option.bind_some, SlotTree.at?_cons, held, Option.bind_some,
      atHolder]
  have atPath : (t.modify (path ++ i :: up) fun n => n.setSlot j none).rootNode.at? path =
      some (p.modifyAt (fun n => n.setSlot j none) (i :: up)) := by
    rw [modify, SlotTree.at?_modifyAt_append, found, Option.map_some]
  rw [promote, label_modify atPath, label_modify atUp]
  · rfl
  · rfl

end CellTree

namespace RepInv

variable {t : CellTree}

/-- What a removal that ends well takes away: the cell, and the children that the
promoted node does not inherit. -/
theorem cells_removeCell (inv : RepInv t) {cellID : CellID} (known : cellID ∈ t.cellIDs)
    (other : cellID ≠ t.getRootCellID) {after : CellTree}
    (removed : t.removeCell cellID = .ok after) :
    after.rootNode.label = t.rootNode.label ∧
      ∃ gone lost, gone.cellID = cellID ∧ t.cells.Perm (gone :: (after.cells ++ lost)) ∧
        (lost = [] ↔ t.KeepsChildren cellID) := by
  unfold CellTree.KeepsChildren
  rcases inv.removeCell_cases cellID with ⟨search, -⟩ | ⟨search, -⟩ |
    ⟨path, i, p, node, search, found, held, down, cut⟩ |
    ⟨path, i, p, node, up, j, bottom, search, found, held, down, atBottom, leaf, promoted⟩
  · exact absurd known (CellTree.getCellTreeNode_eq_none_iff_notMem.mp search)
  · rcases CellTree.getCellTreeNode_eq_some search with ⟨n, atRoot, equal⟩
    rw [SlotTree.at?_nil, Option.some.injEq] at atRoot
    exact absurd (equal.symm.trans (congrArg _ (congrArg _ atRoot.symm))) other
  · -- a leaf goes without any promotion
    rcases holder_of_found search with ⟨p', node', -, held', named, atNode⟩
    have whole := SlotTree.at?_snoc found held
    obtain rfl : node' = node := Option.some.inj (atNode.symm.trans whole)
    obtain rfl := Except.ok.inj (cut.symm.trans removed)
    rcases CellTree.at?_findBottomPath node' with ⟨bottom, atBottom, leaf⟩
    rw [down, SlotTree.at?_nil, Option.some.injEq] at atBottom
    subst atBottom
    have fewer := (SlotTree.labels_clearAt_perm found held).map CellInfo.members
    rw [CellTree.labels_of_childless leaf] at fewer
    refine ⟨label_modify found rfl, node'.label.members, [], named, ?_, ?_⟩
    · rw [List.append_nil]
      exact fewer
    · simp [search, CellTree.getParentTreeNode_of_child search, found, whole,
        CellTree.WithinSpan, leaf]
  · rcases holder_of_found search with ⟨p', node', -, held', named, atNode⟩
    have whole := SlotTree.at?_snoc found held
    obtain rfl : node' = node := Option.some.inj (atNode.symm.trans whole)
    rw [promoted] at removed
    split at removed
    · obtain rfl := Except.ok.inj removed
      refine ⟨CellTree.label_promote found held atBottom _, _, _, named,
        CellTree.cells_promote_perm found held atBottom leaf _, ?_⟩
      rw [List.map_eq_nil_iff, CellTree.labels_beyond_eq_nil_iff down]
      simp [search, CellTree.getParentTreeNode_of_child search, found, whole]
    · cases removed

/-- A removal takes only its cell exactly when the promotion fits and the promoted
node inherits every child. -/
theorem removesOnly_iff (inv : RepInv t) {cellID : CellID} (known : cellID ∈ t.cellIDs)
    (other : cellID ≠ t.getRootCellID) :
    t.RemovesOnly cellID ↔ t.PromotionFits cellID ∧ t.KeepsChildren cellID := by
  cases removed : t.removeCell cellID with
  | error fault =>
      rcases inv.removeCell_error_iff.mp removed with ⟨-, unfit⟩
      apply iff_of_false
      · rintro ⟨after, gone, ended, -⟩
        cases removed.symm.trans ended
      · exact fun both => unfit both.1
  | ok after =>
      have fits := inv.promotionFits_of_removeCell removed
      rcases inv.cells_removeCell known other removed with ⟨-, gone, lost, named, taken, kept⟩
      constructor
      · rintro ⟨after', gone', ended, -, only⟩
        obtain rfl := Except.ok.inj (ended.symm.trans removed)
        have sizes := (only.symm.trans taken).length_eq
        simp only [List.length_cons, List.length_append] at sizes
        exact ⟨fits, kept.mp (List.length_eq_zero_iff.mp (by omega))⟩
      · rintro ⟨-, all⟩
        refine ⟨after, gone, removed, named, ?_⟩
        rwa [kept.mpr all, List.append_nil] at taken

/-! ## Removing every cell -/

/-- The calls end exactly when every promotion on the way fits. -/
theorem removeCells_ok_iff (inv : RepInv t) (order : List CellID) :
    (∃ after, t.removeCells order = .ok after) ↔ t.AllPromotionsFit order := by
  induction order generalizing t with
  | nil => exact iff_of_true ⟨t, rfl⟩ trivial
  | cons cellID order ih =>
      rw [CellTree.removeCells, List.foldlM_cons, CellTree.AllPromotionsFit]
      cases removed : t.removeCell cellID with
      | error fault =>
          rcases inv.removeCell_error_iff.mp removed with ⟨-, unfit⟩
          apply iff_of_false
          · rintro ⟨after, ended⟩
            cases ended
          · exact fun both => unfit both.1
      | ok after =>
          have fits := inv.promotionFits_of_removeCell removed
          simpa [fits, bind, Except.bind, CellTree.removeCells] using ih (inv.removeCell removed)

/-- The calls that end leave the root cell alone if they name every other cell. -/
theorem cells_removeCells (inv : RepInv t) (distinct : t.cellIDs.Nodup) {order : List CellID}
    (complete : ∀ cellID ∈ t.cellIDs, cellID ≠ t.getRootCellID → cellID ∈ order)
    (rootKept : t.getRootCellID ∉ order) {after : CellTree}
    (ended : t.removeCells order = .ok after) : after.cells = [t.rootNode.label.members] := by
  induction order generalizing t with
  | nil =>
      obtain rfl := Except.ok.inj ended
      have only : SlotTree.labelsOfSlots t.rootNode.slots = [] := by
        rw [CellTree.cellIDs_eq_cons] at distinct complete
        apply List.eq_nil_iff_forall_not_mem.mpr
        intro info member
        have below := List.mem_map_of_mem (f := CellInfo.cellID) member
        have different : info.cellID ≠ t.getRootCellID := by
          intro same
          exact (List.nodup_cons.mp distinct).1 (same ▸ below)
        cases complete _ (List.mem_cons_of_mem _ below) different
      rw [CellTree.cells_eq_cons, only, List.map_nil]
  | cons cellID order ih =>
      rw [CellTree.removeCells, List.foldlM_cons] at ended
      rcases List.mem_cons.not.mp rootKept |> not_or.mp with ⟨other, rootLater⟩
      cases removed : t.removeCell cellID with
      | error fault =>
          rw [removed] at ended
          cases ended
      | ok middle =>
          rw [removed] at ended
          by_cases known : cellID ∈ t.cellIDs
          · rcases inv.cells_removeCell known (Ne.symm other) removed with
              ⟨label, gone, lost, named, taken, -⟩
            have sameRoot : middle.getRootCellID = t.getRootCellID := congrArg CellInfo.cellID label
            have ids := taken.map CellMembers.cellID
            rw [List.map_cons, List.map_append, ← CellTree.cellIDs_eq_map_cells,
              ← CellTree.cellIDs_eq_map_cells, named] at ids
            have apart := List.nodup_cons.mp (ids.nodup_iff.mp distinct)
            have result := ih (inv.removeCell removed) (List.nodup_append.mp apart.2).1 ?_
              (sameRoot ▸ rootLater) ended
            · rwa [label] at result
            · intro left present notRoot
              have before := ids.mem_iff.mpr (List.mem_cons_of_mem _ (List.mem_append_left _ present))
              rcases List.mem_cons.mp (complete left before (sameRoot ▸ notRoot)) with rfl | later
              · exact absurd (List.mem_append_left _ present) apart.1
              · exact later
          · -- the cell was lost with an earlier one
            have same : middle = t := by
              rw [CellTree.removeCell, CellTree.getCellTreeNode_eq_none_iff_notMem.mpr known] at removed
              exact (Except.ok.inj removed).symm
            subst same
            refine ih inv distinct ?_ rootLater ended
            intro left present notRoot
            rcases List.mem_cons.mp (complete left present notRoot) with rfl | later
            · exact absurd present known
            · exact later

end RepInv

/-- Each removal takes exactly its cell when the promoted node inherits every child
and stays inside the arrays; all removals, in any order, leave the root when every
promotion on the way stays inside the arrays. -/
theorem removals_correct_iff {t : CellTree} (inv : RepInv t) (distinct : t.cellIDs.Nodup) :
    (∀ cellID ∈ t.cellIDs, cellID ≠ t.getRootCellID →
      (t.RemovesOnly cellID ↔ t.PromotionFits cellID ∧ t.KeepsChildren cellID)) ∧
    ∀ order : List CellID, (t.getRootCellID :: order).Perm t.cellIDs →
      (t.LeavesRoot order ↔ t.AllPromotionsFit order) := by
  constructor
  · intro cellID known other
    exact inv.removesOnly_iff known other
  · intro order all
    rw [← inv.removeCells_ok_iff]
    constructor
    · rintro ⟨after, ended, -⟩
      exact ⟨after, ended⟩
    · rintro ⟨after, ended⟩
      refine ⟨after, ended, inv.cells_removeCells distinct ?_ ?_ ended⟩
      · intro cellID known other
        exact (List.mem_cons.mp (all.mem_iff.mpr known)).resolve_left other
      · exact (List.nodup_cons.mp (all.nodup_iff.mpr distinct)).1

/-- With equal spans the cell below moves up and the rest can go as well. -/
theorem removals_correct_twoBelow :
    ∃ t, twoBelow 2 = .ok t ∧ t.RemovesOnly ⟨[1]⟩ ∧ t.LeavesRoot [⟨[1]⟩, ⟨[2]⟩] := by
  refine ⟨_, rfl, ?_⟩
  have reached := reachable_twoBelow CellTree.PromotionFits (by decide) (rfl : twoBelow 2 = .ok _)
  have both := removals_correct_iff (repInv_of_promotionFits reached).1 (by decide)
  constructor
  · exact (both.1 ⟨[1]⟩ (by decide) (by decide)).mpr (by decide)
  · apply (both.2 [⟨[1]⟩, ⟨[2]⟩] (by decide)).mpr
    refine ⟨by decide, fun after removed => ?_⟩
    obtain rfl := Except.ok.inj removed
    exact ⟨by decide, fun after removed => trivial⟩

/-- New cells, one after another. -/
def createCells (config : P3Configuration) (t : CellTree) (created : List CellID) :
    Result CellTree :=
  created.foldlM (fun t cellID => (t.createCell config cellID).map Prod.fst) t

theorem Reachable.createCells {guard : CellTree → CellID → Prop} {config : P3Configuration}
    (spans : config.PositiveSpans) {t after : CellTree} (reached : Reachable guard (.ok t))
    {created : List CellID} (ended : Superpeer.createCells config t created = .ok after) :
    Reachable guard (.ok after) := by
  induction created generalizing t with
  | nil => exact Except.ok.inj ended ▸ reached
  | cons cellID created ih =>
      have next := reached.createCell config cellID spans
      rw [Superpeer.createCells, List.foldlM_cons] at ended
      cases made : (t.createCell config cellID).map Prod.fst with
      | error fault =>
          rw [made] at ended
          cases ended
      | ok middle =>
          rw [made] at ended next
          exact ih next ended

/-- A root of span 1, a cell below it and two cells below that: the promoted cell
inherits one slot, and the second child of the removed cell is lost. -/
theorem exists_removal_loses_cell :
    ∃ t, Reachable CellTree.PromotionFits (.ok t) ∧ t.cellIDs = [⟨[0]⟩, ⟨[1]⟩, ⟨[2]⟩, ⟨[3]⟩] ∧
      (t.removeCell ⟨[1]⟩).map CellTree.cellIDs = .ok [⟨[0]⟩, ⟨[2]⟩] ∧ ¬t.RemovesOnly ⟨[1]⟩ := by
  have spans := positiveSpans_rootSpan (by decide : (0 : Int) < 1)
  have built : createCells (rootSpan 1) (CellTree.new (rootSpan 1) ⟨[0]⟩)
      [⟨[1]⟩, ⟨[2]⟩, ⟨[3]⟩] = .ok _ := rfl
  refine ⟨_, (Reachable.fresh (rootSpan 1) ⟨[0]⟩ spans).createCells spans built, rfl, rfl, ?_⟩
  rintro ⟨after, gone, removed, -, only⟩
  obtain rfl := Except.ok.inj removed
  cases only.length_eq

end Stheno.Superpeer
