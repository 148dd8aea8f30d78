import Stheno.Superpeer.Removal
import Stheno.Tree.Levels
import Stheno.Tree.Order

/-!
# Balanced growth

A new cell goes under the first of the shallowest nodes that have a free slot.  Trees
that grow from a root in this way under one span fill each level before they begin the
next, so no tree of the same span holds as many cells at a smaller depth.
-/

namespace Stheno.Superpeer

open Stheno.Tree

/-- A child is one level deeper than the node that holds it. -/
def Deeper (holder : CellInfo) (_ : Nat) (child : CellInfo) : Prop :=
  child.depth = holder.depth + 1

theorem RepInv.deeper {t : CellTree} (inv : RepInv t) : t.rootNode.AllEdges Deeper :=
  inv.linked.mono fun _ _ _ edge => edge.depth

namespace CellTreeNode

/-- The depth of a node is its distance from the node above plus the depth of that. -/
theorem depth_at? {t n : CellTreeNode} {path : Path} (edges : t.AllEdges Deeper)
    (found : t.at? path = some n) : n.label.depth = t.label.depth + path.length := by
  induction path generalizing t with
  | nil =>
      rw [SlotTree.at?_nil, Option.some.injEq] at found
      rw [found, List.length_nil, Int.natCast_zero, Int.add_zero]
  | cons i path inductionHypothesis =>
      rw [SlotTree.at?_cons] at found
      rcases Option.bind_eq_some_iff.mp found with ⟨c, held, below⟩
      have edge : c.label.depth = t.label.depth + 1 := edges t (SlotTree.mem_nodes_self t) i c held
      rw [inductionHypothesis (edges.child held) below, edge, List.length_cons, Int.natCast_succ]
      omega

/-- The node at a position has a free slot. -/
def Free (t : CellTreeNode) : Path → Prop :=
  SlotTree.Passes (fun n => hasAllSiblings n = false) t

/-- A position with a free slot, none shallower and none as shallow to the left. -/
def Shallowest (t : CellTreeNode) : Path → Prop :=
  SlotTree.IsFirst (· < ·) (Free t)

end CellTreeNode

namespace CellTree

/-! ## The search for a free slot -/

/-- The running minimum keeps to the answer that comes first. -/
theorem answers_shallower {test : CellTreeNode → Prop} {t c : CellTreeNode} {i : Nat}
    {depth : Int} {min temp : Option (Path × Int)}
    (answers : SlotTree.Answers (· < ·) (SlotTree.PassesBefore test t i) depth min)
    (held : t.child i = some c)
    (below : SlotTree.Answers (· < ·) (SlotTree.Passes test c) (depth + 1) temp) :
    SlotTree.Answers (· < ·) (SlotTree.PassesBefore test t (i + 1)) depth
      (shallower min (temp.map fun found => (i :: found.1, found.2))) := by
  cases temp with
  | none => exact answers.skip (SlotTree.nothing_of_none held below)
  | some temp =>
      have depthTemp := below.1
      cases min with
      | none =>
          apply answers.take SlotTree.preference_lt held below
          rintro old ⟨⟩
      | some min =>
          have depthMin := answers.1
          rw [Option.map_some, shallower]
          dsimp only
          by_cases deeper : min.2 > temp.2
          · rw [if_pos deeper]
            apply answers.take SlotTree.preference_lt held below
            rintro old ⟨⟩
            omega
          · rw [if_neg deeper]
            apply answers.keep SlotTree.preference_lt held below
            omega

/-- The loop of `createCell_i` from slot `i` on. -/
theorem answers_createCellOfSlots {t : CellTreeNode}
    (each : ∀ i c, t.child i = some c →
      SlotTree.Answers (· < ·) (CellTreeNode.Free c) (t.label.depth + 1) (createCellI c))
    {rest : List (Option CellTreeNode)} {i : Nat} (split : t.slots.drop i = rest)
    {min : Option (Path × Int)}
    (answers : SlotTree.Answers (· < ·)
      (SlotTree.PassesBefore (fun n => CellTreeNode.hasAllSiblings n = false) t i) t.label.depth min) :
    SlotTree.Answers (· < ·)
      (SlotTree.PassesBefore (fun n => CellTreeNode.hasAllSiblings n = false) t (i + rest.length))
      t.label.depth (createCellOfSlots i min rest) := by
  induction rest generalizing i min with
  | nil => exact answers
  | cons slot rest inductionHypothesis =>
      rcases SlotTree.getElem?_of_drop split with ⟨here, next⟩
      rw [List.length_cons, Nat.add_comm rest.length 1, ← Nat.add_assoc]
      cases slot with
      | none =>
          have empty : t.child i = none := by
            rw [SlotTree.child, here]
            rfl
          rw [createCellOfSlots]
          exact inductionHypothesis next (answers.skip (SlotTree.nothing_of_empty empty))
      | some c =>
          have held : t.child i = some c := SlotTree.child_eq_some_iff.mpr here
          rw [createCellOfSlots]
          exact inductionHypothesis next (answers_shallower answers held (each i c held))

/-- `createCell_i` answers with the first of the shallowest nodes with a free slot. -/
theorem answers_createCellI {t : CellTreeNode} (edges : t.AllEdges Deeper) :
    SlotTree.Answers (· < ·) (CellTreeNode.Free t) t.label.depth (createCellI t) := by
  induction t using SlotTree.induction with
  | node info slots inductionHypothesis =>
      rw [createCellI]
      by_cases full : slots.all Option.isSome = true
      · rw [if_pos full]
        have each : ∀ i c, (SlotTree.node info slots).child i = some c →
            SlotTree.Answers (· < ·) (CellTreeNode.Free c)
              ((SlotTree.node info slots).label.depth + 1) (createCellI c) := by
          intro i c held
          have edge : c.label.depth = (SlotTree.node info slots).label.depth + 1 :=
            edges _ (SlotTree.mem_nodes_self _) i c held
          rw [← edge]
          exact inductionHypothesis c (SlotTree.mem_slots_of_child held) (edges.child held)
        have answers := @answers_createCellOfSlots (.node info slots) each slots 0 rfl none
          fun path => SlotTree.not_passesBefore_zero
        apply answers.congr
        intro path
        rw [CellTreeNode.Free, SlotTree.passes_iff, Nat.zero_add, or_iff_right]
        · rfl
        · rintro ⟨-, notFull⟩
          exact Bool.false_ne_true (notFull.symm.trans full)
      · rw [if_neg full]
        refine ⟨by simp, SlotTree.passes_nil_iff.mpr (Bool.eq_false_iff.mpr full), ?_⟩
        intro other _
        cases other with
        | nil => exact Or.inr ⟨rfl, SlotTree.not_leftOf_nil []⟩
        | cons j rest => exact Or.inl (Nat.succ_pos _)

/-- Every branch ends at a node with a free slot. -/
theorem exists_free {t : CellTreeNode} (spans : ∀ n ∈ t.nodes, n.slots ≠ []) :
    ∃ path, CellTreeNode.Free t path := by
  rcases at?_findBottomPath t with ⟨bottom, found, leaf⟩
  refine ⟨findBottomPath t, bottom, found, ?_⟩
  apply List.all_eq_false.mpr
  rcases List.exists_mem_of_ne_nil _ (spans bottom (SlotTree.mem_nodes_of_at? found)) with
    ⟨slot, member⟩
  refine ⟨slot, member, ?_⟩
  rw [SlotTree.empty_of_childless leaf slot member]
  simp

/-- The search answers, with the depth of the node that it answers. -/
theorem createCellI_of_spans {t : CellTreeNode} (edges : t.AllEdges Deeper)
    (spans : ∀ n ∈ t.nodes, n.slots ≠ []) :
    ∃ path n, createCellI t = some (path, n.label.depth) ∧ t.at? path = some n ∧
      CellTreeNode.Shallowest t path := by
  have answers := answers_createCellI edges
  cases answer : createCellI t with
  | none =>
      rw [answer] at answers
      rcases exists_free spans with ⟨path, free⟩
      exact absurd free (answers path)
  | some found =>
      rw [answer] at answers
      rcases answers with ⟨depth, shallowest⟩
      rcases shallowest.here with ⟨n, atPath, notFull⟩
      refine ⟨found.1, n, ?_, atPath, shallowest⟩
      rw [CellTreeNode.depth_at? edges atPath, ← depth]

/-- `createCell` puts the new node into the first free slot of the node found. -/
theorem createCell_of_shallowest (config : P3Configuration) {t : CellTree} {path : Path} {depth : Int}
    (answer : createCellI t.rootNode = some (path, depth))
    (shallowest : CellTreeNode.Shallowest t.rootNode path) (cellID : CellID) :
    ∃ n i, t.rootNode.at? path = some n ∧ CellTreeNode.firstFree n = some i ∧
      t.createCell config cellID =
        .ok (t.modify path fun n => n.setSlot i (some (newChild config t cellID n i)),
          some (path ++ [i])) := by
  rcases t.createSiblingAt_cases config path cellID with
    ⟨n, i, found, free, created⟩ | ⟨full, -⟩
  · refine ⟨n, i, found, free, ?_⟩
    rw [createCell, answer]
    exact congrArg Except.ok created
  · rcases shallowest.here with ⟨m, foundM, notFull⟩
    have allTaken := CellTreeNode.firstFree_eq_none_iff.mp (full m foundM)
    rw [CellTreeNode.hasAllSiblings, allTaken] at notFull
    cases notFull

end CellTree

/-! ## Growing from a root -/

/-- A tree grown from its root: depths are right and the levels are even. -/
structure Grown (s : Nat) (t : CellTree) : Prop where
  edges : t.rootNode.AllEdges Deeper
  rootDepth : t.rootNode.label.depth = 0
  even : SlotTree.Even s t.rootNode

namespace CellTreeNode

theorem length_slots_new (config : P3Configuration) (addr : Addr) (cellID : CellID)
    (parent : Option Addr) (spanNo depth : Int) :
    (new config addr cellID parent spanNo depth).slots.length = (config.treeSpan depth).toNat := by
  rw [new, SlotTree.slots_node, List.length_replicate]

theorem free_of_mem {t n : CellTreeNode} {path : Path} (found : t.at? path = some n)
    (free : none ∈ n.slots) : Free t path :=
  ⟨n, found, List.all_eq_false.mpr ⟨none, free, by simp⟩⟩

end CellTreeNode

namespace Grown

variable {s : Nat} {t : CellTree} {config : P3Configuration}

theorem new (uniform : ∀ depth : Nat, config.treeSpan depth = s) (rootCellID : CellID) :
    Grown s (CellTree.new config rootCellID) where
  edges := (RepInv.new config rootCellID).deeper
  rootDepth := rfl
  even := by
    have span : (config.treeSpan 0).toNat = s := by
      rw [← Int.natCast_zero, uniform 0, Int.toNat_natCast]
    have even := @SlotTree.Even.leaf CellInfo
      (CellTreeNode.new config 0 rootCellID none 0 0).label
      (List.replicate (config.treeSpan 0).toNat none) fun slot => List.eq_of_mem_replicate
    rw [List.length_replicate] at even
    exact span ▸ even

theorem spans_ne_nil (grown : Grown s t) (positive : 0 < s) :
    ∀ n ∈ t.rootNode.nodes, n.slots ≠ [] := by
  intro n member empty
  have span := grown.even.spans n member
  rw [empty, List.length_nil] at span
  exact Nat.ne_of_gt positive span.symm

/-- `createCell` finds a place and keeps the levels even. -/
theorem createCell (grown : Grown s t) (positive : 0 < s)
    (uniform : ∀ depth : Nat, config.treeSpan depth = s) (cellID : CellID) :
    ∃ after path, t.createCell config cellID = .ok (after, some path) ∧ Grown s after ∧
      after.rootNode.nodes.length = t.rootNode.nodes.length + 1 := by
  rcases CellTree.createCellI_of_spans grown.edges (grown.spans_ne_nil positive) with
    ⟨path, above, answer, -, shallowest⟩
  rcases CellTree.createCell_of_shallowest config answer shallowest cellID with
    ⟨n, i, found, firstFree, created⟩
  have free := CellTreeNode.firstFree_eq_some firstFree
  have depth := CellTreeNode.depth_at? grown.edges found
  have same : t.modify path (fun n => n.setSlot i (some (CellTree.newChild config t cellID n i))) =
      t.modify path (fun m => m.setSlot i (some (CellTree.newChild config t cellID n i))) :=
    CellTree.modify_congr found rfl
  have span : (CellTree.newChild config t cellID n i).slots.length = s := by
    rw [CellTree.newChild, CellTreeNode.length_slots_new, depth, grown.rootDepth, Int.zero_add,
      ← Int.natCast_succ, uniform, Int.toNat_natCast]
  rw [same] at created
  refine ⟨_, _, created, ⟨?_, ?_, ?_⟩, ?_⟩
  · apply grown.edges.modifyAt found
    · apply (grown.edges.at? found).setSlot_some
      · exact SlotTree.allEdges_of_no_child (CellTreeNode.childless_new _ _ _ _ _ _)
      · rfl
    · exact fun _ _ into => into
  · rw [label_modify found rfl]
    exact grown.rootDepth
  · apply grown.even.fill found free
    · intro other m foundM freeM
      rcases shallowest.first other (CellTreeNode.free_of_mem foundM freeM) with shorter | ⟨equal, -⟩
      · exact Nat.le_of_lt shorter
      · exact Nat.le_of_eq equal
    · exact CellTreeNode.childless_new _ _ _ _ _ _
    · exact span
  · have added := (SlotTree.labels_fillAt_perm (c := CellTree.newChild config t cellID n i) found
      free).length_eq
    rw [CellTree.newChild, CellTreeNode.labels_new, List.singleton_append, List.length_cons,
      SlotTree.labels, SlotTree.labels, List.length_map, List.length_map] at added
    exact added

/-- Any number of cells can be created. -/
theorem createCells (grown : Grown s t) (positive : 0 < s)
    (uniform : ∀ depth : Nat, config.treeSpan depth = s) (created : List CellID) :
    ∃ after, Superpeer.createCells config t created = .ok after ∧ Grown s after ∧
      after.rootNode.nodes.length = t.rootNode.nodes.length + created.length := by
  induction created generalizing t with
  | nil => exact ⟨t, rfl, grown, rfl⟩
  | cons cellID created inductionHypothesis =>
      rcases grown.createCell positive uniform cellID with ⟨middle, path, made, grownMiddle, one⟩
      rcases inductionHypothesis grownMiddle with ⟨after, ended, grownAfter, rest⟩
      refine ⟨after, ?_, grownAfter, ?_⟩
      · rw [Superpeer.createCells, List.foldlM_cons, made]
        exact ended
      · rw [rest, one, List.length_cons, Nat.add_assoc, Nat.add_comm 1]

end Grown

/-- `createCell_i` answers with the first of the shallowest nodes with a free slot,
`createCell` always makes a cell there, and the cells created below a fresh root under one
span fill the levels one after another. -/
theorem CellTree.createCell_balanced {t : CellTree} (edges : t.rootNode.AllEdges Deeper)
    (spans : ∀ n ∈ t.rootNode.nodes, n.slots ≠ []) {config : P3Configuration} {s : Nat}
    (positive : 0 < s) (uniform : ∀ depth : Nat, config.treeSpan depth = s) :
    (∃ path n, createCellI t.rootNode = some (path, n.label.depth) ∧
      t.rootNode.at? path = some n ∧ CellTreeNode.Shallowest t.rootNode path ∧
      ∀ config cellID, ∃ after i, t.createCell config cellID = .ok (after, some (path ++ [i]))) ∧
    ∀ rootCellID created, ∃ after,
      createCells config (CellTree.new config rootCellID) created = .ok after ∧
        after.rootNode.nodes.length = created.length + 1 ∧
        (∀ d < after.rootNode.height, (after.rootNode.level d).length = s ^ d) ∧
        ∀ other : CellTree, (∀ n ∈ other.rootNode.nodes, n.slots.length ≤ s) →
          created.length + 1 ≤ other.rootNode.nodes.length →
          after.rootNode.height ≤ other.rootNode.height := by
  constructor
  · rcases createCellI_of_spans edges spans with ⟨path, n, answer, found, shallowest⟩
    refine ⟨path, n, answer, found, shallowest, ?_⟩
    intro config cellID
    rcases createCell_of_shallowest config answer shallowest cellID with ⟨m, i, -, -, created⟩
    exact ⟨_, i, created⟩
  · intro rootCellID created
    rcases (Grown.new uniform rootCellID).createCells positive uniform created with
      ⟨after, ended, grown, count⟩
    have total : after.rootNode.nodes.length = created.length + 1 := by
      rw [count, Nat.add_comm]
      congr 1
      have single := congrArg List.length
        (CellTreeNode.labels_new config 0 rootCellID none 0 0)
      rw [SlotTree.labels, List.length_map] at single
      exact single
    refine ⟨after, ended, total, fun d above => grown.even.length_level above, ?_⟩
    intro other narrow many
    exact grown.even.height_le narrow (total ▸ many)

/-- Below the root the cell 1 is full, and the cell 2 has a gap before the cell 6. -/
def gappedTree : CellTree :=
  let full := [([], ⟨[1]⟩), ([], ⟨[2]⟩), ([0], ⟨[3]⟩), ([0], ⟨[4]⟩), ([1], ⟨[5]⟩), ([1], ⟨[6]⟩)].foldl
    (fun (tree : CellTree) (cell : Path × CellID) =>
      (tree.createSiblingAt (rootSpan 2) cell.1 cell.2).1) (CellTree.new (rootSpan 2) ⟨[0]⟩)
  full.modify [1] fun node => node.setSlot 0 none

theorem repInv_gappedTree : RepInv gappedTree := by
  have start := RepInv.new (rootSpan 2) ⟨[0]⟩
  have below := (start.createSiblingAt (rootSpan 2) [] ⟨[1]⟩).createSiblingAt (rootSpan 2) [] ⟨[2]⟩
  have left := (below.createSiblingAt (rootSpan 2) [0] ⟨[3]⟩).createSiblingAt (rootSpan 2) [0] ⟨[4]⟩
  have right := (left.createSiblingAt (rootSpan 2) [1] ⟨[5]⟩).createSiblingAt (rootSpan 2) [1] ⟨[6]⟩
  exact right.clear rfl rfl

/-- The gap is what `createCell_i` finds, and seven cells fill three levels. -/
theorem CellTree.createCell_balanced_gap :
    (∃ path n, createCellI gappedTree.rootNode = some (path, n.label.depth) ∧
      gappedTree.rootNode.at? path = some n ∧ CellTreeNode.Shallowest gappedTree.rootNode path ∧
      path = [1]) ∧
    ∃ after, createCells (rootSpan 2) (CellTree.new (rootSpan 2) ⟨[0]⟩)
        [⟨[1]⟩, ⟨[2]⟩, ⟨[3]⟩, ⟨[4]⟩, ⟨[5]⟩, ⟨[6]⟩] = .ok after ∧
      after.rootNode.nodes.length = 7 ∧
      ∀ d < after.rootNode.height, (after.rootNode.level d).length = 2 ^ d := by
  have spans : ∀ n ∈ gappedTree.rootNode.nodes, n.slots ≠ [] := by
    decide
  have uniform : ∀ depth : Nat, (rootSpan 2).treeSpan depth = 2 := by
    intro depth
    unfold rootSpan P3Configuration.treeSpan P3Configuration.lookupValue
    dsimp only
    split
    · rfl
    · rfl
  rcases createCell_balanced repInv_gappedTree.deeper spans (by decide) uniform with
    ⟨⟨path, n, answer, found, shallowest, -⟩, grows⟩
  rcases grows ⟨[0]⟩ [⟨[1]⟩, ⟨[2]⟩, ⟨[3]⟩, ⟨[4]⟩, ⟨[5]⟩, ⟨[6]⟩] with ⟨after, done, count, even, -⟩
  have first : (createCellI gappedTree.rootNode).map Prod.fst = some [1] := by
    decide
  rw [answer] at first
  exact ⟨⟨path, n, answer, found, shallowest, Option.some.inj first⟩, after, done, count, even⟩

end Stheno.Superpeer
