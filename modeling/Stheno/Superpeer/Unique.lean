import Stheno.Superpeer.Contents

/-!
# Uniqueness in the cell tree

Searches and removals assume that a cell identifier labels one node and that a
peer sits in one list of one node.  The operations that add to the tree compare
only part of it, so uniqueness is a condition on their arguments: `Fresh` is that
condition for one call, and a run keeps every tree unique exactly when all of
its calls are fresh.
-/

namespace Stheno.Superpeer

open Stheno.Tree Peer

namespace CellInfo

/-- The type of the peer has a list, which has room and does not hold the peer. -/
def Accepts (this : CellInfo) (peer : P3PeerInfo) : Prop :=
  ∃ list, PeerList.ofType peer.type = some list ∧
    (∀ temp ∈ this.peers list, temp.pid ≠ peer.pid) ∧ this.isFull list = false

theorem accepts_iff {info : CellInfo} {peer : P3PeerInfo} :
    info.Accepts peer ↔ ∃ after, info.add peer = some after := by
  constructor
  · rintro ⟨list, ofType, absent, room⟩
    exact ⟨_, add_eq_some_iff.mpr ⟨list, ofType, absent, room, rfl⟩⟩
  · rintro ⟨after, added⟩
    rcases add_eq_some_iff.mp added with ⟨list, ofType, absent, room, -⟩
    exact ⟨list, ofType, absent, room⟩

end CellInfo

/-- No cell identifier and no peer occurs twice. -/
structure Unique (t : CellTree) : Prop where
  cellIDs : t.cellIDs.Nodup
  pids : t.pids.Nodup

namespace Unique

variable {t : CellTree}

/-- A cell has one position. -/
theorem path_eq (unique : Unique t) {n m : CellTreeNode} {first second : Path}
    (foundN : t.rootNode.at? first = some n) (foundM : t.rootNode.at? second = some m)
    (same : n.label.cellID = m.label.cellID) : first = second :=
  SlotTree.path_eq_of_key_eq unique.cellIDs foundN foundM same

/-- The search for a cell finds the one node that carries the identifier. -/
theorem getCellTreeNode_eq (unique : Unique t) {n : CellTreeNode} {path : Path}
    (found : t.rootNode.at? path = some n) : t.getCellTreeNode n.label.cellID = some path := by
  cases searched : t.getCellTreeNode n.label.cellID with
  | none =>
      have absent := CellTree.getCellTreeNode_eq_none_iff.mp searched
      have member := SlotTree.mem_labels_iff.mpr ⟨n, SlotTree.mem_nodes_of_at? found, rfl⟩
      exact absurd rfl (absent n.label member)
  | some other =>
      rcases CellTree.getCellTreeNode_eq_some searched with ⟨m, foundM, same⟩
      rw [unique.path_eq foundM found same]

end Unique

namespace CellTree

/-! ## Where the next cell goes -/

theorem shallower_cases (min temp : Option (Path × Int)) :
    shallower min temp = min ∨ shallower min temp = temp := by
  unfold shallower
  split
  · exact Or.inl rfl
  · exact Or.inr rfl
  · split
    · exact Or.inr rfl
    · exact Or.inl rfl

/-- The loop answers with its running minimum or with the answer of a child. -/
theorem createCellOfSlots_eq_some {slots : List (Option CellTreeNode)} {i : Nat}
    {min : Option (Path × Int)} {found : Path × Int}
    (answer : createCellOfSlots i min slots = some found) :
    min = some found ∨ ∃ j c below, slots[j]? = some (some c) ∧ createCellI c = some below ∧
      found.1 = (i + j) :: below.1 := by
  induction slots generalizing i min with
  | nil => exact Or.inl answer
  | cons slot slots ih =>
      cases slot with
      | none =>
          rcases ih answer with here | ⟨j, c, below, held, inChild, equal⟩
          · exact Or.inl here
          · refine Or.inr ⟨j + 1, c, below, held, inChild, ?_⟩
            rw [equal, Nat.add_right_comm, Nat.add_assoc]
      | some c =>
          rcases ih answer with here | ⟨j, d, below, held, inChild, equal⟩
          · rcases shallower_cases min ((createCellI c).map fun found => (i :: found.1, found.2)) with
              kept | taken
            · exact Or.inl (kept ▸ here)
            · rcases Option.map_eq_some_iff.mp (taken ▸ here) with ⟨below, inChild, equal⟩
              exact Or.inr ⟨0, c, below, rfl, inChild, by rw [← equal, Nat.add_zero]⟩
          · refine Or.inr ⟨j + 1, d, below, held, inChild, ?_⟩
            rw [equal, Nat.add_right_comm, Nat.add_assoc]

/-- `createCell_i` answers with a node that has an empty slot. -/
theorem createCellI_eq_some {t : CellTreeNode} {found : Path × Int}
    (answer : createCellI t = some found) :
    ∃ n i, t.at? found.1 = some n ∧ CellTreeNode.firstFree n = some i := by
  induction t using SlotTree.induction generalizing found with
  | node info slots ih =>
      rw [createCellI] at answer
      split at answer
      · rcases createCellOfSlots_eq_some answer with impossible | ⟨j, c, below, held, inChild, equal⟩
        · cases impossible
        · rcases ih c (List.mem_of_getElem? held) inChild with ⟨n, i, atPath, free⟩
          refine ⟨n, i, ?_, free⟩
          have heldChild : (SlotTree.node info slots).child (0 + j) = some c := by
            rw [Nat.zero_add]
            exact SlotTree.child_eq_some_iff.mpr held
          rw [equal, SlotTree.at?_cons, heldChild, Option.bind_some, atPath]
      · rename_i notFull
        cases answer
        cases free : CellTreeNode.firstFree (SlotTree.node info slots) with
        | none => exact absurd (CellTreeNode.firstFree_eq_none_iff.mp free) notFull
        | some i => exact ⟨_, i, SlotTree.at?_nil _, free⟩

end CellTree

/-! ## Calls -/

/-- A call that adds to the tree. -/
inductive Call where
  | createCell (cellID : CellID)
  | addPeer (peer : P3PeerInfo)
  | addPeerUnder (peer : P3PeerInfo) (parentCellID : Option CellID)
  | addSubtree (subTree : CellTree) (parentCellID : Option CellID)

namespace CellTree

/-- The tree after a call. -/
def call (config : P3Configuration) (t : CellTree) : Call → Result CellTree
  | .createCell cellID => (t.createCell config cellID).map Prod.fst
  | .addPeer peer => .ok (t.addPeer peer).1
  | .addPeerUnder peer parentCellID => (t.addPeerUnder config peer parentCellID).map Prod.fst
  | .addSubtree subTree parentCellID => .ok (t.addSubtree subTree parentCellID).1

/-- The node that a peer is offered to when its cell may be created: its fields as
they are before the peer is added. -/
def host (config : P3Configuration) (t : CellTree) (peer : P3PeerInfo)
    (parentCellID : Option CellID) : Option CellInfo :=
  match t.getCellTreeNode peer.fid with
  | some path => (t.rootNode.at? path).map SlotTree.label
  | none =>
      parentCellID.bind fun parentCellID =>
        ((t.getCellTreeNode parentCellID).bind t.rootNode.at?).bind fun n =>
          (CellTreeNode.firstFree n).map fun i => (newChild config t peer.fid n i).label

/-- Whether a subtree finds an empty slot at its parent. -/
def HasRoomUnder (t : CellTree) (parentCellID : Option CellID) : Prop :=
  ∃ path n i, t.subtreeParent parentCellID = some path ∧ t.rootNode.at? path = some n ∧
    CellTreeNode.firstFree n = some i

/-- The condition under which a call repeats no identifier of the tree: what it
really adds is new to the tree and unique in itself. -/
def Fresh (config : P3Configuration) (t : CellTree) : Call → Prop
  | .createCell cellID => createCellI t.rootNode ≠ none → cellID ∉ t.cellIDs
  | .addPeer peer =>
      ∀ path, t.getCellTreeNode peer.fid = some path → ∀ n, t.rootNode.at? path = some n →
        n.label.Accepts peer → peer.pid ∉ t.pids
  | .addPeerUnder peer parentCellID =>
      ∀ info, t.host config peer parentCellID = some info → info.Accepts peer → peer.pid ∉ t.pids
  | .addSubtree subTree parentCellID =>
      subTree.getRootCellID ∉ t.cellIDs → t.HasRoomUnder parentCellID →
        Unique subTree ∧ List.Disjoint subTree.cellIDs t.cellIDs ∧
          List.Disjoint subTree.pids t.pids

end CellTree

namespace Unique

variable {t : CellTree}

/-- Offering a peer to a node keeps uniqueness exactly when the node refuses it or
the peer is new. -/
theorem addAt_iff (unique : Unique t) {path : Path} {n : CellTreeNode} (peer : P3PeerInfo)
    (found : t.rootNode.at? path = some n) :
    Unique (t.addAt path peer).1 ↔ (n.label.Accepts peer → peer.pid ∉ t.pids) := by
  rcases t.addAt_cases path peer with ⟨m, info, foundM, added, updated⟩ | ⟨refusal, refused⟩
  · cases found.symm.trans foundM
    have accepts := CellInfo.accepts_iff.mpr ⟨info, added⟩
    have pids := CellTree.pids_add_perm found added
    have cellIDs := CellTree.cellIDs_relabel found (CellInfo.sameNode_of_add added)
    rw [updated]
    constructor
    · intro after _
      exact (List.nodup_cons.mp (pids.nodup_iff.mp after.pids)).1
    · intro fresh
      constructor
      · rw [cellIDs]
        exact unique.cellIDs
      · exact pids.nodup_iff.mpr (List.nodup_cons.mpr ⟨fresh accepts, unique.pids⟩)
  · rw [refused]
    refine iff_of_true unique ?_
    intro accepts
    rcases CellInfo.accepts_iff.mp accepts with ⟨after, added⟩
    rw [refusal n found] at added
    cases added

theorem fillNew_iff (unique : Unique t) (config : P3Configuration) (cellID : CellID) {path : Path}
    {n : CellTreeNode} {i : Nat} (found : t.rootNode.at? path = some n)
    (free : CellTreeNode.firstFree n = some i) :
    Unique (t.modify path fun n => n.setSlot i (some (CellTree.newChild config t cellID n i))) ↔
      cellID ∉ t.cellIDs := by
  have cellIDs := CellTree.cellIDs_fillNew_perm config cellID found free
  have entries := (CellTree.entries_fillNew_perm config cellID found free).map Prod.snd
  rw [← CellTree.pids_eq_map_entries, ← CellTree.pids_eq_map_entries] at entries
  constructor
  · intro after
    exact (List.nodup_cons.mp (cellIDs.nodup_iff.mp after.cellIDs)).1
  · intro fresh
    constructor
    · exact cellIDs.nodup_iff.mpr (List.nodup_cons.mpr ⟨fresh, unique.cellIDs⟩)
    · exact entries.nodup_iff.mpr unique.pids

theorem createCell_iff (unique : Unique t) (config : P3Configuration) {cellID : CellID}
    {out : CellTree × Option Path} (created : t.createCell config cellID = .ok out) :
    Unique out.1 ↔ CellTree.Fresh config t (.createCell cellID) := by
  unfold CellTree.createCell at created
  unfold CellTree.Fresh
  cases place : CellTree.createCellI t.rootNode with
  | none =>
      rw [place] at created
      cases created
  | some found =>
      rw [place] at created
      cases created
      rcases CellTree.createCellI_eq_some place with ⟨m, j, foundM, freeM⟩
      rcases t.createSiblingAt_cases config found.1 cellID with
        ⟨n, i, foundN, free, filled⟩ | ⟨full, -⟩
      · rw [filled, unique.fillNew_iff config cellID foundN free]
        simp
      · cases (full m foundM).symm.trans freeM

theorem addPeer_iff (unique : Unique t) (config : P3Configuration) (peer : P3PeerInfo) :
    Unique (t.addPeer peer).1 ↔ CellTree.Fresh config t (.addPeer peer) := by
  unfold CellTree.addPeer CellTree.Fresh
  cases searched : t.getCellTreeNode peer.fid with
  | none => simp [unique, searched]
  | some path =>
      rcases CellTree.getCellTreeNode_eq_some searched with ⟨n, found, -⟩
      simp [unique.addAt_iff peer found, searched, found]

theorem addPeerUnder_iff (unique : Unique t) {config : P3Configuration} {peer : P3PeerInfo}
    {parentCellID : Option CellID} {out : CellTree × Int}
    (added : t.addPeerUnder config peer parentCellID = .ok out) :
    Unique out.1 ↔ CellTree.Fresh config t (.addPeerUnder peer parentCellID) := by
  unfold CellTree.Fresh CellTree.host
  rcases t.addPeerUnder_cases config peer parentCellID with
    ⟨path, known, here⟩ | ⟨-, -, fault⟩ | ⟨new, parent, path, n, i, rfl, under, found, free, created⟩ |
      ⟨new, ⟨parent, rfl, full⟩, refused⟩
  · cases here.symm.trans added
    rcases CellTree.getCellTreeNode_eq_some known with ⟨n, found, -⟩
    simp [unique.addAt_iff peer found, known, found]
  · cases fault.symm.trans added
  · cases created.symm.trans added
    have filled := (unique.fillNew_iff config peer.fid found free).mpr
      (CellTree.getCellTreeNode_eq_none_iff_notMem.mp new)
    have entries := (CellTree.entries_fillNew_perm config peer.fid found free).map Prod.snd
    rw [← CellTree.pids_eq_map_entries, ← CellTree.pids_eq_map_entries] at entries
    rw [filled.addAt_iff peer (CellTree.at?_fillNew config peer.fid found free)]
    simp [new, under, found, free, entries.mem_iff]
  · cases refused.symm.trans added
    have noHost : (((t.getCellTreeNode parent).bind t.rootNode.at?).bind fun n =>
        (CellTreeNode.firstFree n).map fun i => (CellTree.newChild config t peer.fid n i).label) =
          none := by
      rw [Option.bind_eq_none_iff]
      intro n reached
      rcases Option.bind_eq_some_iff.mp reached with ⟨path, under, found⟩
      rw [full path n under found, Option.map_none]
    simp [unique, new, noHost]

theorem addSubtree_iff (unique : Unique t) (config : P3Configuration) (s : CellTree)
    (parentCellID : Option CellID) :
    Unique (t.addSubtree s parentCellID).1 ↔
      CellTree.Fresh config t (.addSubtree s parentCellID) := by
  unfold CellTree.Fresh
  rcases t.addSubtree_cases s parentCellID with
    ⟨known, here⟩ | ⟨new, path, n, i, under, found, free, grafted⟩ | ⟨-, full, refused⟩
  · rw [here]
    refine iff_of_true unique ?_
    intro absent
    exact absurd (CellTree.getCellTreeNode_eq_none_iff_notMem.mpr absent) known
  · have cellIDs := CellTree.cellIDs_graft_perm (s := s) found free
    have pids := (CellTree.entries_graft_perm (s := s) found free).map Prod.snd
    rw [List.map_append, ← CellTree.pids_eq_map_entries, ← CellTree.pids_eq_map_entries,
      ← CellTree.pids_eq_map_entries] at pids
    rw [grafted]
    constructor
    · intro after _ _
      rcases List.nodup_append'.mp (cellIDs.nodup_iff.mp after.cellIDs) with ⟨ownCells, -, cellsApart⟩
      rcases List.nodup_append'.mp (pids.nodup_iff.mp after.pids) with ⟨ownPids, -, pidsApart⟩
      exact ⟨⟨ownCells, ownPids⟩, cellsApart, pidsApart⟩
    · intro fresh
      rcases fresh (CellTree.getCellTreeNode_eq_none_iff_notMem.mp new) ⟨path, n, i, under, found, free⟩
        with ⟨own, cellsApart, pidsApart⟩
      constructor
      · exact cellIDs.nodup_iff.mpr (own.cellIDs.append unique.cellIDs cellsApart)
      · exact pids.nodup_iff.mpr (own.pids.append unique.pids pidsApart)
  · rw [refused]
    refine iff_of_true unique ?_
    rintro - ⟨path, n, i, under, found, free⟩
    cases (full path n under found).symm.trans free

/-- One call keeps uniqueness exactly when it is fresh. -/
theorem call_iff (unique : Unique t) {config : P3Configuration} {call : Call} {after : CellTree}
    (done : t.call config call = .ok after) : Unique after ↔ CellTree.Fresh config t call := by
  cases call with
  | createCell cellID =>
      simp only [CellTree.call] at done
      cases created : t.createCell config cellID with
      | error fault =>
          rw [created] at done
          cases done
      | ok out =>
          rw [created] at done
          cases done
          exact unique.createCell_iff config created
  | addPeer peer =>
      cases done
      exact unique.addPeer_iff config peer
  | addPeerUnder peer parentCellID =>
      simp only [CellTree.call] at done
      cases added : t.addPeerUnder config peer parentCellID with
      | error fault =>
          rw [added] at done
          cases done
      | ok out =>
          rw [added] at done
          cases done
          exact unique.addPeerUnder_iff added
  | addSubtree s parentCellID =>
      cases done
      exact unique.addSubtree_iff config s parentCellID

end Unique

/-- A call that crashes adds nothing. -/
theorem CellTree.fresh_of_error {config : P3Configuration} {t : CellTree} {call : Call}
    {fault : Fault} (failed : t.call config call = .error fault) : t.Fresh config call := by
  cases call with
  | createCell cellID =>
      simp only [call, CellTree.createCell] at failed
      cases place : createCellI t.rootNode with
      | none =>
          intro place'
          exact absurd place place'
      | some found =>
          rw [place] at failed
          cases failed
  | addPeer peer => cases failed
  | addPeerUnder peer parentCellID =>
      simp only [call] at failed
      rcases t.addPeerUnder_cases config peer parentCellID with
        ⟨path, -, here⟩ | ⟨new, rfl, -⟩ | ⟨-, parent, path, n, i, -, -, -, -, created⟩ |
          ⟨-, -, refused⟩
      · rw [here] at failed
        cases failed
      · unfold Fresh host
        simp [new]
      · rw [created] at failed
        cases failed
      · rw [refused] at failed
        cases failed
  | addSubtree s parentCellID => cases failed

/-! ## Runs -/

namespace CellTree

/-- The trees of a run, which ends with its calls or at the first crash. -/
def states (config : P3Configuration) (t : CellTree) : List Call → List CellTree
  | [] => [t]
  | call :: calls =>
      match t.call config call with
      | .ok after => t :: states config after calls
      | .error _ => [t]

/-- Every call of a run is fresh for the tree that it meets. -/
def AllFresh (config : P3Configuration) (t : CellTree) : List Call → Prop
  | [] => True
  | call :: calls =>
      t.Fresh config call ∧ ∀ after, t.call config call = .ok after → AllFresh config after calls

theorem mem_states_self (config : P3Configuration) (t : CellTree) (calls : List Call) :
    t ∈ t.states config calls := by
  cases calls with
  | nil => exact List.mem_singleton.mpr rfl
  | cons call calls =>
      unfold states
      split
      · exact List.mem_cons_self
      · exact List.mem_singleton.mpr rfl

theorem unique_states_iff {config : P3Configuration} {t : CellTree} (unique : Unique t)
    (calls : List Call) :
    (∀ s ∈ t.states config calls, Unique s) ↔ t.AllFresh config calls := by
  induction calls generalizing t with
  | nil => simp [states, AllFresh, unique]
  | cons call calls ih =>
      unfold states AllFresh
      cases done : t.call config call with
      | error fault => simp [unique, fresh_of_error done]
      | ok after =>
          simp only [List.forall_mem_cons, unique, true_and, Except.ok.injEq, forall_eq']
          constructor
          · intro all
            have uniqueAfter := all after (mem_states_self config after calls)
            exact ⟨(unique.call_iff done).mp uniqueAfter, (ih uniqueAfter).mp all⟩
          · rintro ⟨fresh, rest⟩
            exact (ih ((unique.call_iff done).mpr fresh)).mpr rest

end CellTree

theorem Unique.new (config : P3Configuration) (rootCellID : CellID) :
    Unique (CellTree.new config rootCellID) where
  cellIDs := by
    rw [CellTree.cellIDs_new]
    exact List.nodup_singleton _
  pids := by
    rw [CellTree.pids_eq_map_entries, CellTree.entries_new]
    exact List.nodup_nil

/-- Every tree of a run from a fresh tree is unique exactly when every call of the
run is fresh. -/
theorem unique_run_iff (config : P3Configuration) (rootCellID : CellID) (calls : List Call) :
    (∀ t ∈ (CellTree.new config rootCellID).states config calls, Unique t) ↔
      (CellTree.new config rootCellID).AllFresh config calls :=
  CellTree.unique_states_iff (Unique.new config rootCellID) calls

/-- One peer in two lists of the root cell. -/
theorem not_unique_of_calls :
    ¬∀ (config : P3Configuration) (rootCellID : CellID) (calls : List Call),
      ∀ t ∈ (CellTree.new config rootCellID).states config calls, Unique t := by
  intro unique
  have entries := (unique ⟨fun _ => none, fun _ => none, fun _ => none, fun _ => none⟩ ⟨[0]⟩
    [.addPeer (P3PeerInfo.announced P3PeerInfo.SUPERPEER ⟨[9]⟩ ⟨[0]⟩ none none none none),
      .addPeer (P3PeerInfo.announced P3PeerInfo.SENSOR ⟨[9]⟩ ⟨[0]⟩ none none none none)] _
    (List.mem_cons_of_mem _ (List.mem_cons_of_mem _ (List.mem_singleton.mpr rfl)))).pids
  exact absurd entries (by decide)

end Stheno.Superpeer
