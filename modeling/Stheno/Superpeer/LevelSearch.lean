import Stheno.Superpeer.Growth

/-!
# A superpeer of a level

`getPeerByLevel` picks at random among the answers of the children at each node above the
level.  A cell without a superpeer at the level and a cell above it without children answer
0 as well, with no peer, and such an answer may be picked.
-/

namespace Stheno.Superpeer

open Stheno.Tree Peer

namespace CellTree

/-- Take the peer at `rand() % size`; an empty list leaves `info` as it is. -/
def choose (rand : Nat) (l : List (Option P3PeerInfo)) (info : Option P3PeerInfo) :
    Int × Option P3PeerInfo :=
  if l.length = 0 then
    (0, info)
  else
    match l[rand % l.length]? with
    | some peer => (0, peer)
    | none => (-1, info)

mutual

/-- The call for a node makes at most one call of `rand()`, so its values are given by the
positions below the node. -/
def getPeerByLevelI (rand : Path → Nat) (treeLevel : Int) (info : Option P3PeerInfo) :
    CellTreeNode → Int × Option P3PeerInfo
  | .node label slots =>
      if label.depth = treeLevel then
        choose (rand []) ((label.getPeersByType P3PeerInfo.SUPERPEER).map some) info
      else
        choose (rand []) (subInfos rand treeLevel 0 slots) info

/-- The loop over the children from slot `i` on. -/
def subInfos (rand : Path → Nat) (treeLevel : Int) (i : Nat) :
    List (Option CellTreeNode) → List (Option P3PeerInfo)
  | [] => []
  | none :: slots => subInfos rand treeLevel (i + 1) slots
  | some c :: slots =>
      let ret := getPeerByLevelI (fun path => rand (i :: path)) treeLevel none c
      if ret.1 = 0 then
        ret.2 :: subInfos rand treeLevel (i + 1) slots
      else
        subInfos rand treeLevel (i + 1) slots

end

/-- The call for a peer that the caller has not set. -/
def getPeerByLevel (this : CellTree) (rand : Path → Nat) (treeLevel : Int) :
    Int × Option P3PeerInfo :=
  getPeerByLevelI rand treeLevel none this.rootNode

/-! ## What a choice can be -/

theorem choose_ret (rand : Nat) (l : List (Option P3PeerInfo)) (info : Option P3PeerInfo) :
    (choose rand l info).1 = 0 := by
  rw [choose]
  split
  · rfl
  · rename_i notEmpty
    have bound := Nat.mod_lt rand (Nat.pos_of_ne_zero notEmpty)
    rw [List.getElem?_eq_getElem bound]

/-- A choice from a list that is not empty is one of its entries. -/
theorem choose_mem (rand : Nat) {l : List (Option P3PeerInfo)} (info : Option P3PeerInfo)
    (notEmpty : l ≠ []) : (choose rand l info).2 ∈ l := by
  have size : l.length ≠ 0 := fun empty => notEmpty (List.length_eq_zero_iff.mp empty)
  have bound := Nat.mod_lt rand (Nat.pos_of_ne_zero size)
  rw [choose, if_neg size, List.getElem?_eq_getElem bound]
  exact List.getElem_mem bound

/-- Every entry can be chosen. -/
theorem exists_choose {l : List (Option P3PeerInfo)} {peer : Option P3PeerInfo}
    (member : peer ∈ l) : ∃ rand, ∀ info, (choose rand l info).2 = peer := by
  rcases List.getElem?_of_mem member with ⟨rand, atIndex⟩
  refine ⟨rand, fun info => ?_⟩
  have bound := (List.getElem?_eq_some_iff.mp atIndex).1
  rw [choose, if_neg (Nat.ne_of_gt (Nat.lt_of_le_of_lt (Nat.zero_le _) bound)), Nat.mod_eq_of_lt bound,
    atIndex]

theorem getPeerByLevelI_ret (rand : Path → Nat) (treeLevel : Int) (info : Option P3PeerInfo)
    (t : CellTreeNode) : (getPeerByLevelI rand treeLevel info t).1 = 0 := by
  cases t
  rw [getPeerByLevelI]
  split
  · exact choose_ret _ _ _
  · exact choose_ret _ _ _

theorem subInfos_cons_some (rand : Path → Nat) (treeLevel : Int) (i : Nat) (c : CellTreeNode)
    (slots : List (Option CellTreeNode)) :
    subInfos rand treeLevel i (some c :: slots) =
      (getPeerByLevelI (fun path => rand (i :: path)) treeLevel none c).2 ::
        subInfos rand treeLevel (i + 1) slots := by
  rw [subInfos, if_pos (getPeerByLevelI_ret _ _ _ _)]

/-- The answers chosen from are those of the children. -/
theorem mem_subInfos_iff {rand : Path → Nat} {treeLevel : Int} {i : Nat}
    {slots : List (Option CellTreeNode)} {peer : Option P3PeerInfo} :
    peer ∈ subInfos rand treeLevel i slots ↔ ∃ j c, slots[j]? = some (some c) ∧
      (getPeerByLevelI (fun path => rand ((i + j) :: path)) treeLevel none c).2 = peer := by
  induction slots generalizing i with
  | nil => simp [subInfos]
  | cons slot slots inductionHypothesis =>
      cases slot with
      | none =>
          rw [subInfos, inductionHypothesis]
          constructor
          · rintro ⟨j, c, held, answer⟩
            refine ⟨j + 1, c, held, ?_⟩
            rw [Nat.add_right_comm, Nat.add_assoc] at answer
            exact answer
          · rintro ⟨j, c, held, answer⟩
            cases j with
            | zero => cases held
            | succ j =>
                refine ⟨j, c, held, ?_⟩
                rw [Nat.add_right_comm, Nat.add_assoc]
                exact answer
      | some d =>
          rw [subInfos_cons_some, List.mem_cons, inductionHypothesis]
          constructor
          · rintro (rfl | ⟨j, c, held, answer⟩)
            · exact ⟨0, d, rfl, rfl⟩
            · refine ⟨j + 1, c, held, ?_⟩
              rw [Nat.add_right_comm, Nat.add_assoc] at answer
              exact answer
          · rintro ⟨j, c, held, answer⟩
            cases j with
            | zero =>
                cases held
                exact Or.inl answer.symm
            | succ j =>
                refine Or.inr ⟨j, c, held, ?_⟩
                rw [Nat.add_right_comm, Nat.add_assoc]
                exact answer

theorem subInfos_congr {rand other : Path → Nat} (treeLevel : Int) (i : Nat)
    (slots : List (Option CellTreeNode))
    (agree : ∀ i path, rand (i :: path) = other (i :: path)) :
    subInfos rand treeLevel i slots = subInfos other treeLevel i slots := by
  induction slots generalizing i with
  | nil => rfl
  | cons slot slots inductionHypothesis =>
      cases slot with
      | none =>
          rw [subInfos, subInfos]
          exact inductionHypothesis (i + 1)
      | some c =>
          rw [subInfos_cons_some, subInfos_cons_some, inductionHypothesis]
          have same : (fun path => rand (i :: path)) = fun path => other (i :: path) :=
            funext (agree i)
          rw [same]

/-- The numbers that the calls below use, and the own one. -/
def withOwn (own : Nat) (below : Path → Nat) : Path → Nat
  | [] => own
  | _ :: rest => below rest

/-! ## The ways down to the level -/

/-- Every way down from the node meets the level, and the first cell that it meets there
has a superpeer. -/
def Served (treeLevel : Int) (t : CellTreeNode) : Prop :=
  ∀ path n, t.at? path = some n →
    (∀ above m, above <+: path → above ≠ path → t.at? above = some m → m.label.depth ≠ treeLevel) →
    if n.label.depth = treeLevel then n.label.sps ≠ [] else ∃ i c, n.child i = some c

theorem served_of_level {treeLevel : Int} {t : CellTreeNode} (level : t.label.depth = treeLevel) :
    Served treeLevel t ↔ t.label.sps ≠ [] := by
  constructor
  · intro served
    have here := served [] t (SlotTree.at?_nil t) fun above m shorter other =>
      absurd (List.prefix_nil.mp shorter) other
    rw [if_pos level] at here
    exact here
  · intro superpeer path n found first
    cases path with
    | nil =>
        rw [SlotTree.at?_nil, Option.some.injEq] at found
        rw [← found, if_pos level]
        exact superpeer
    | cons i path =>
        exact absurd level (first [] t List.nil_prefix (List.cons_ne_nil i path).symm
          (SlotTree.at?_nil t))

theorem served_of_above {treeLevel : Int} {t : CellTreeNode} (above : t.label.depth ≠ treeLevel) :
    Served treeLevel t ↔
      (∃ i c, t.child i = some c) ∧ ∀ i c, t.child i = some c → Served treeLevel c := by
  constructor
  · intro served
    constructor
    · have here := served [] t (SlotTree.at?_nil t) fun above m shorter other =>
        absurd (List.prefix_nil.mp shorter) other
      rw [if_neg above] at here
      exact here
    · intro i c held path n found first
      apply served (i :: path) n
      · rw [SlotTree.at?_cons, held, Option.bind_some, found]
      · intro higher m shorter other atHigher
        cases higher with
        | nil =>
            rw [SlotTree.at?_nil, Option.some.injEq] at atHigher
            exact atHigher ▸ above
        | cons j higher =>
            rcases List.cons_prefix_cons.mp shorter with ⟨rfl, below⟩
            rw [SlotTree.at?_cons, held, Option.bind_some] at atHigher
            exact first higher m below (fun equal => other (congrArg _ equal)) atHigher
  · rintro ⟨child, each⟩ path n found first
    cases path with
    | nil =>
        rw [SlotTree.at?_nil, Option.some.injEq] at found
        rw [← found, if_neg above]
        exact child
    | cons i path =>
        rw [SlotTree.at?_cons] at found
        rcases Option.bind_eq_some_iff.mp found with ⟨c, held, below⟩
        apply each i c held path n below
        intro higher m shorter other atHigher
        apply first (i :: higher) m
        · exact List.cons_prefix_cons.mpr ⟨rfl, shorter⟩
        · exact fun equal => other (List.cons.inj equal).2
        · rw [SlotTree.at?_cons, held, Option.bind_some, atHigher]

/-- A superpeer of a cell at the level. -/
def PeerOf (treeLevel : Int) (t : CellTreeNode) (peer : P3PeerInfo) : Prop :=
  ∃ n ∈ t.nodes, n.label.depth = treeLevel ∧ peer ∈ n.label.sps

/-- Where every way down is served, every outcome of the choices is such a superpeer. -/
theorem Served.answer {treeLevel : Int} {t : CellTreeNode} (served : Served treeLevel t)
    (rand : Path → Nat) (info : Option P3PeerInfo) :
    ∃ peer, (getPeerByLevelI rand treeLevel info t).2 = some peer ∧ PeerOf treeLevel t peer := by
  induction t using SlotTree.induction generalizing rand info with
  | node label slots inductionHypothesis =>
      rw [getPeerByLevelI]
      by_cases level : label.depth = treeLevel
      · rw [if_pos level]
        have superpeer := (@served_of_level _ (.node label slots) level).mp served
        have notEmpty : (label.getPeersByType P3PeerInfo.SUPERPEER).map some ≠ [] := by
          intro empty
          exact superpeer (List.map_eq_nil_iff.mp empty)
        have member := choose_mem (rand []) info notEmpty
        rcases List.mem_map.mp member with ⟨peer, inCell, chosen⟩
        exact ⟨peer, chosen.symm, _, SlotTree.mem_nodes_self _, level, inCell⟩
      · rw [if_neg level]
        rcases (@served_of_above _ (.node label slots) level).mp served with ⟨⟨i, c, held⟩, each⟩
        have notEmpty : subInfos rand treeLevel 0 slots ≠ [] :=
          List.ne_nil_of_mem (mem_subInfos_iff.mpr
            ⟨i, c, SlotTree.child_eq_some_iff.mp held, rfl⟩)
        have member := choose_mem (rand []) info notEmpty
        rcases mem_subInfos_iff.mp member with ⟨j, d, heldD, answer⟩
        have inSlot : (SlotTree.node label slots).child j = some d :=
          SlotTree.child_eq_some_iff.mpr heldD
        rcases inductionHypothesis d (SlotTree.mem_slots_of_child inSlot) (each j d inSlot)
          (fun path => rand ((0 + j) :: path)) none with ⟨peer, chosen, n, below, atLevel, inCell⟩
        refine ⟨peer, answer.symm.trans chosen, n, ?_, atLevel, inCell⟩
        exact SlotTree.mem_nodes_of_child inSlot below

/-- Where one is not, the choices may lead to no peer. -/
theorem exists_unset {treeLevel : Int} {t : CellTreeNode} (unserved : ¬Served treeLevel t) :
    ∃ rand, (getPeerByLevelI rand treeLevel none t).2 = none := by
  induction t using SlotTree.induction with
  | node label slots inductionHypothesis =>
      by_cases level : label.depth = treeLevel
      · rw [@served_of_level _ (.node label slots) level, not_not] at unserved
        have empty : label.getPeersByType P3PeerInfo.SUPERPEER = [] := unserved
        refine ⟨fun _ => 0, ?_⟩
        rw [getPeerByLevelI, if_pos level, empty]
        rfl
      · rw [@served_of_above _ (.node label slots) level] at unserved
        by_cases child : ∃ i c, (SlotTree.node label slots).child i = some c
        · have dead : ∃ i c, (SlotTree.node label slots).child i = some c ∧
              ¬Served treeLevel c := by
            by_contra none
            apply unserved
            refine ⟨child, fun i c held => ?_⟩
            by_contra notServed
            exact none ⟨i, c, held, notServed⟩
          rcases dead with ⟨i, c, held, notServed⟩
          rcases inductionHypothesis c (SlotTree.mem_slots_of_child held) notServed with
            ⟨randBelow, unset⟩
          have member : none ∈ subInfos (withOwn 0 randBelow) treeLevel 0 slots :=
            mem_subInfos_iff.mpr ⟨i, c, SlotTree.child_eq_some_iff.mp held, unset⟩
          rcases exists_choose member with ⟨own, chosen⟩
          refine ⟨withOwn own randBelow, ?_⟩
          have same : subInfos (withOwn own randBelow) treeLevel 0 slots =
              subInfos (withOwn 0 randBelow) treeLevel 0 slots :=
            subInfos_congr treeLevel 0 slots fun _ _ => rfl
          rw [getPeerByLevelI, if_neg level, same]
          exact chosen none
        · refine ⟨fun _ => 0, ?_⟩
          have empty : subInfos (fun _ => 0) treeLevel 0 slots = [] := by
            rw [List.eq_nil_iff_forall_not_mem]
            intro peer member
            rcases mem_subInfos_iff.mp member with ⟨j, c, held, -⟩
            exact child ⟨j, c, SlotTree.child_eq_some_iff.mpr held⟩
          rw [getPeerByLevelI, if_neg level, empty]
          rfl

/-! ## When the call answers with a superpeer of the level -/

/-- Some cell at the level has a superpeer. -/
def HasPeerOf (treeLevel : Int) (t : CellTreeNode) : Prop :=
  ∃ peer, PeerOf treeLevel t peer

/-- What the answer should be: a superpeer of the level when there is one, and otherwise
not success without a peer. -/
structure AnswersLevel (treeLevel : Int) (t : CellTree) (ret : Int × Option P3PeerInfo) :
    Prop where
  found : HasPeerOf treeLevel t.rootNode →
    ret.1 = 0 ∧ ∃ peer, ret.2 = some peer ∧ PeerOf treeLevel t.rootNode peer
  unset : ¬HasPeerOf treeLevel t.rootNode → ¬(ret.1 = 0 ∧ ret.2 = none)

/-- Every outcome of the choices answers the call exactly when every way down is served. -/
theorem getPeerByLevel_answers_iff (t : CellTree) (treeLevel : Int) :
    (∀ rand, AnswersLevel treeLevel t (t.getPeerByLevel rand treeLevel)) ↔
      Served treeLevel t.rootNode := by
  constructor
  · intro answers
    by_contra unserved
    rcases exists_unset unserved with ⟨rand, unset⟩
    have success := getPeerByLevelI_ret rand treeLevel none t.rootNode
    by_cases peers : HasPeerOf treeLevel t.rootNode
    · rcases (answers rand).found peers with ⟨-, peer, found, -⟩
      cases unset.symm.trans found
    · exact (answers rand).unset peers ⟨success, unset⟩
  · intro served rand
    have success := getPeerByLevelI_ret rand treeLevel none t.rootNode
    rcases served.answer rand none with ⟨peer, found, ofLevel⟩
    constructor
    · intro _
      exact ⟨success, peer, found, ofLevel⟩
    · intro without
      exact absurd ⟨peer, ofLevel⟩ without

/-- The way to a node below the level passes the level. -/
theorem depth_le_of_first {t : CellTree} {treeLevel : Int} (nonneg : 0 ≤ treeLevel)
    (depth : ∀ {path n}, t.rootNode.at? path = some n → n.label.depth = path.length) {path : Path}
    {n : CellTreeNode} (found : t.rootNode.at? path = some n)
    (first : ∀ above m, above <+: path → above ≠ path → t.rootNode.at? above = some m →
      m.label.depth ≠ treeLevel) : n.label.depth ≤ treeLevel := by
  by_contra below
  rw [depth found] at below
  have shorter : treeLevel.toNat < path.length := by
    omega
  have whole : t.rootNode.at? (path.take treeLevel.toNat ++ path.drop treeLevel.toNat) = some n := by
    rw [List.take_append_drop, found]
  rw [SlotTree.at?_append] at whole
  rcases Option.bind_eq_some_iff.mp whole with ⟨m, atLevel, -⟩
  have length : (path.take treeLevel.toNat).length = treeLevel.toNat := by
    rw [List.length_take, Nat.min_eq_left (Nat.le_of_lt shorter)]
  apply first _ m (List.take_prefix _ _) _ atLevel
  · rw [depth atLevel, length, Int.toNat_of_nonneg nonneg]
  · intro equal
    rw [equal] at length
    exact Nat.ne_of_gt shorter length

/-- With right depths: every cell above the level has a child, and every cell at the level
has a superpeer. -/
theorem served_iff_of_depths {t : CellTree} (edges : t.rootNode.AllEdges Deeper)
    (rootDepth : t.rootNode.label.depth = 0) {treeLevel : Int} :
    Served treeLevel t.rootNode ↔ 0 ≤ treeLevel ∧ ∀ n ∈ t.rootNode.nodes,
      (n.label.depth < treeLevel → ∃ i c, n.child i = some c) ∧
        (n.label.depth = treeLevel → n.label.sps ≠ []) := by
  have depth : ∀ {path n}, t.rootNode.at? path = some n → n.label.depth = path.length := by
    intro path n found
    rw [CellTreeNode.depth_at? edges found, rootDepth, Int.zero_add]
  constructor
  · intro served
    constructor
    · rcases served.answer (fun _ => 0) none with ⟨peer, -, n, member, level, -⟩
      rcases SlotTree.exists_at?_of_mem_nodes member with ⟨path, found⟩
      rw [← level, depth found]
      exact Int.natCast_nonneg _
    · intro n member
      rcases SlotTree.exists_at?_of_mem_nodes member with ⟨path, found⟩
      have first : n.label.depth ≤ treeLevel → ∀ above m, above <+: path → above ≠ path →
          t.rootNode.at? above = some m → m.label.depth ≠ treeLevel := by
        intro notBelow above m shorter other atAbove level
        rw [depth found] at notBelow
        rw [depth atAbove] at level
        have longer := Nat.lt_of_le_of_ne shorter.length_le fun equal =>
          other (shorter.eq_of_length equal)
        omega
      constructor
      · intro above
        have here := served path n found (first (Int.le_of_lt above))
        rw [if_neg (Int.ne_of_lt above)] at here
        exact here
      · intro level
        have here := served path n found (first (Int.le_of_eq level))
        rw [if_pos level] at here
        exact here
  · rintro ⟨nonneg, each⟩ path n found first
    have notBelow := depth_le_of_first nonneg depth found first
    have member := SlotTree.mem_nodes_of_at? found
    split
    · rename_i level
      exact (each n member).2 level
    · rename_i other
      exact (each n member).1 (lt_of_le_of_ne notBelow other)

/-- A superpeer of the cell 1. -/
def aSuperpeer : P3PeerInfo :=
  .announced P3PeerInfo.SUPERPEER ⟨[9]⟩ ⟨[1]⟩ none none none none

/-- A root with two cells below it, of which only the first has a superpeer: the second
may be picked. -/
theorem exists_level_unanswered :
    ¬∀ t : CellTree, Reachable (fun _ _ => False) (.ok t) → ∀ treeLevel rand,
      AnswersLevel treeLevel t (t.getPeerByLevel rand treeLevel) := by
  intro answers
  have spans := positiveSpans_rootSpan (by decide : (0 : Int) < 2)
  have created : ∃ t, createCells (rootSpan 2) (CellTree.new (rootSpan 2) ⟨[0]⟩) [⟨[1]⟩, ⟨[2]⟩] =
      .ok t ∧ (∃ n, (t.addPeer aSuperpeer).1.rootNode.at? [0] = some n ∧ n.label.depth = 1 ∧
        n.label.sps = [aSuperpeer]) ∧
      (t.addPeer aSuperpeer).1.getPeerByLevel (fun _ => 1) 1 = (0, none) :=
    ⟨_, rfl, ⟨_, rfl, rfl, rfl⟩, rfl⟩
  rcases created with ⟨t, built, ⟨n, found, level, sps⟩, unset⟩
  have reached : Reachable (fun _ _ => False) (.ok t) :=
    (Reachable.fresh (rootSpan 2) ⟨[0]⟩ spans).createCells spans built
  have answer := answers _ (reached.addPeer aSuperpeer) 1 fun _ => 1
  have inCell : aSuperpeer ∈ n.label.sps := by
    rw [sps]
    exact List.mem_singleton_self _
  rcases (answer.found ⟨aSuperpeer, n, SlotTree.mem_nodes_of_at? found, level, inCell⟩).2 with
    ⟨peer, picked, -⟩
  rw [unset] at picked
  cases picked

end CellTree

end Stheno.Superpeer
