import Mathlib.Algebra.BigOperators.Group.Finset.Piecewise
import Stheno.Queue.Balance
import Stheno.Superpeer.Mesh

/-!
# Accounting for a peer

The packets between the children of the root and the root account for what the root
records: a peer is recorded at most as often as it is at home, and as departures on
their way outnumber the joins.  A coordinator has a record of itself besides, for which
no channel ends at it.
-/

namespace Stheno.Superpeer

open Stheno.Tree Peer Queue

theorem Packet.joins_eq_false {packet : Packet} {cellID : CellID} {uuid : UUID}
    (other : packet.peer ≠ uuid) : packet.joins cellID uuid = false := by
  cases packet with
  | joinMesh packet => exact decide_eq_false fun equal => other equal.2
  | rebindMesh packet => rfl
  | leaveMesh packet => rfl
  | joinCell packet => rfl

theorem Packet.leaves_eq_false {packet : Packet} {cellID : CellID} {uuid : UUID}
    (other : packet.peer ≠ uuid) : packet.leaves cellID uuid = false := by
  cases packet with
  | joinMesh packet => rfl
  | rebindMesh packet => rfl
  | leaveMesh packet => exact decide_eq_false fun equal => other equal.2
  | joinCell packet => rfl

namespace Mesh

/-- The coordinators whose parent is the root. -/
def children (this : Mesh) : Finset Nat :=
  (Finset.range this.size).filter fun k => 0 < k ∧ this.parent k = 0

theorem mem_children_iff {this : Mesh} {k : Nat} :
    k ∈ this.children ↔ k < this.size ∧ 0 < k ∧ this.parent k = 0 := by
  rw [children, Finset.mem_filter, Finset.mem_range]

/-! ## Accounting for one peer -/

/-- Whether a peer is at home in a cell of a coordinator. -/
def lives (this : Mesh) (uuid : UUID) (cellID : CellID) (k : Nat) : Nat :=
  if this.home uuid = some (k, cellID) then 1 else 0

/-- Whether a peer is at home in a cell of any coordinator. -/
def present (this : Mesh) (uuid : UUID) (cellID : CellID) : Nat :=
  if (this.home uuid).map Prod.snd = some cellID then 1 else 0

/-- Whether the record of a peer in a cell is the one that a coordinator has of itself. -/
def own (this : Mesh) (uuid : UUID) (cellID : CellID) (k : Nat) : Nat :=
  if (this.cell k).cellID = cellID ∧ (this.cell k).pid = uuid then 1 else 0

theorem own_handled (this : Mesh) (uuid : UUID) (cellID : CellID) (k i : Nat) (tree : CellTree)
    (toParent : Option Packet) :
    (this.handled k tree toParent).own uuid cellID i = this.own uuid cellID i := by
  unfold own
  rw [cell_handled]
  split
  · rename_i same
    rw [same]
  · rfl

theorem sum_lives_le (this : Mesh) (uuid : UUID) (cellID : CellID) :
    ∑ k ∈ this.children, this.lives uuid cellID k ≤ this.present uuid cellID := by
  unfold lives present
  cases home : this.home uuid with
  | none => simp
  | some place =>
      rcases place with ⟨k, cell⟩
      by_cases same : cell = cellID
      · subst same
        simp only [Option.some.injEq, Prod.mk.injEq, and_true, Option.map_some, if_true]
        rw [Finset.sum_ite_eq]
        split <;> simp
      · simp [same]

/-- The records and packets of a peer that is near the root, or away. -/
structure Accounted (this : Mesh) (uuid : UUID) : Prop where
  apart : ∀ k, k ∉ this.children → ∀ packet ∈ this.link k, packet.peer ≠ uuid
  below : ∀ k < this.size, 0 < k → ∀ cellID,
    (this.tree k).entries.count (cellID, uuid) ≤ this.lives uuid cellID k + this.own uuid cellID k
  balanced : ∀ k ∈ this.children, ∀ cellID,
    Balanced (Packet.joins cellID uuid) (Packet.leaves cellID uuid) (this.lives uuid cellID k)
      (this.link k)
  root : ∀ cellID, (this.tree 0).entries.count (cellID, uuid) +
      inbound this.children this.link (Packet.joins cellID uuid) ≤
    inbound this.children this.link (Packet.leaves cellID uuid) + this.present uuid cellID +
      this.own uuid cellID 0

namespace Accounted

variable {this : Mesh} {uuid : UUID}

/-- The packets alone: the joins are covered without any record. -/
theorem inbound_joins_le (accounted : Accounted this uuid) (cellID : CellID) :
    inbound this.children this.link (Packet.joins cellID uuid) ≤
      inbound this.children this.link (Packet.leaves cellID uuid) +
        ∑ k ∈ this.children, this.lives uuid cellID k :=
  inbound_le fun k member => accounted.balanced k member cellID

/-! ### Other peers -/

theorem setHome (accounted : Accounted this uuid) {other : UUID} (ne : uuid ≠ other)
    (home : Option (Nat × CellID)) : Accounted (this.setHome other home) uuid := by
  have same : (this.setHome other home).home uuid = this.home uuid :=
    Function.update_of_ne ne _ _
  constructor
  · exact accounted.apart
  · intro k bound positive cellID
    unfold lives
    rw [same]
    exact accounted.below k bound positive cellID
  · intro k member cellID
    unfold lives
    rw [same]
    exact accounted.balanced k member cellID
  · intro cellID
    unfold present
    rw [same]
    exact accounted.root cellID

theorem setLink (accounted : Accounted this uuid) {k : Nat} {packet : Packet} {rest : List Packet}
    (head : this.link k = packet :: rest) (other : packet.peer ≠ uuid) :
    Accounted (this.setLink k rest) uuid := by
  constructor
  · intro i outside message member
    rw [link_setLink] at member
    split at member
    · rename_i same
      subst same
      exact accounted.apart i outside message (head ▸ List.mem_cons_of_mem _ member)
    · exact accounted.apart i outside message member
  · exact accounted.below
  · intro i member cellID
    rw [link_setLink]
    split
    · rename_i same
      subst same
      exact (head ▸ accounted.balanced i member cellID).pop
    · exact accounted.balanced i member cellID
  · intro cellID
    have total := accounted.root cellID
    by_cases member : k ∈ this.children
    · rw [inbound_pop _ member head, inbound_pop _ member head, Packet.joins_eq_false other,
        Packet.leaves_eq_false other] at total
      exact total
    · rw [← inbound_of_notMem (Packet.joins cellID uuid) member rest,
        ← inbound_of_notMem (Packet.leaves cellID uuid) member rest] at total
      exact total

/-- A packet about another peer is not counted. -/
theorem inbound_handled {k : Nat} {tree : CellTree} {toParent : Option Packet}
    (other : ∀ packet ∈ toParent, packet.peer ≠ uuid) {test : Packet → Bool}
    (silent : ∀ packet, packet.peer ≠ uuid → test packet = false) :
    inbound this.children (this.handled k tree toParent).link test =
      inbound this.children this.link test := by
  by_cases member : k ∈ this.children
  · have nothing : toParent.toList.countP test = 0 := by
      rw [List.countP_eq_zero]
      intro packet sent
      rw [silent packet (other packet (Option.mem_toList.mp sent))]
      exact Bool.false_ne_true
    rw [Mesh.handled, inbound_push test member, nothing, Nat.add_zero]
  · exact inbound_of_notMem test member _

theorem handled (accounted : Accounted this uuid) {k : Nat} {tree : CellTree}
    {toParent : Option Packet}
    (fewer : ∀ cellID, tree.entries.count (cellID, uuid) ≤
      (this.tree k).entries.count (cellID, uuid))
    (other : ∀ packet ∈ toParent, packet.peer ≠ uuid) :
    Accounted (this.handled k tree toParent) uuid := by
  have trees : ∀ i cellID, ((this.handled k tree toParent).tree i).entries.count (cellID, uuid) ≤
      (this.tree i).entries.count (cellID, uuid) := by
    intro i cellID
    rw [tree_handled]
    split
    · rename_i same
      subst same
      exact fewer cellID
    · exact Nat.le_refl _
  constructor
  · intro i outside message member
    rw [link_handled] at member
    split at member
    · rename_i same
      subst same
      rcases List.mem_append.mp member with before | sent
      · exact accounted.apart i outside message before
      · exact other message (Option.mem_toList.mp sent)
    · exact accounted.apart i outside message member
  · intro i bound positive cellID
    rw [own_handled]
    exact Nat.le_trans (trees i cellID) (accounted.below i bound positive cellID)
  · intro i member cellID
    rw [link_handled]
    split
    · rename_i same
      subst same
      cases toParent with
      | none =>
          rw [Option.toList_none, List.append_nil]
          exact accounted.balanced i member cellID
      | some packet =>
          have joins : packet.joins cellID uuid = false := Packet.joins_eq_false (other packet rfl)
          have leaves : packet.leaves cellID uuid = false := Packet.leaves_eq_false (other packet rfl)
          apply (accounted.balanced i member cellID).push
          · rw [joins, leaves]
            exact Nat.le_refl _
          · rw [joins, leaves]
            exact Nat.zero_le _
    · exact accounted.balanced i member cellID
  · intro cellID
    change ((this.handled k tree toParent).tree 0).entries.count (cellID, uuid) +
        inbound this.children (this.handled k tree toParent).link (Packet.joins cellID uuid) ≤
      inbound this.children (this.handled k tree toParent).link (Packet.leaves cellID uuid) +
        this.present uuid cellID + (this.handled k tree toParent).own uuid cellID 0
    rw [own_handled, inbound_handled other fun packet => Packet.joins_eq_false,
      inbound_handled other fun packet => Packet.leaves_eq_false]
    exact Nat.le_trans (Nat.add_le_add_right (trees 0 cellID) _) (accounted.root cellID)

/-! ### The peer itself -/

section Own

variable {k : Nat} {tree : CellTree} {cellID : CellID}

theorem away_lives (away : this.home uuid = none) (cell : CellID) (i : Nat) :
    this.lives uuid cell i = 0 := by
  rw [lives, away]
  rfl

theorem away_present (away : this.home uuid = none) (cell : CellID) :
    this.present uuid cell = 0 := by
  rw [present, away]
  rfl

theorem lives_setHome (home : Option (Nat × CellID)) (cell : CellID) (i : Nat) :
    (this.setHome uuid home).lives uuid cell i = if home = some (i, cell) then 1 else 0 := by
  rw [lives, home_setHome_self]

theorem present_setHome (home : Option (Nat × CellID)) (cell : CellID) :
    (this.setHome uuid home).present uuid cell =
      if home.map Prod.snd = some cell then 1 else 0 := by
  rw [present, home_setHome_self]

/-- A change at the root, of a peer that lives in no child's subtree. -/
theorem changed_root (accounted : Accounted this uuid)
    (nowhere : ∀ i, 0 < i → ∀ cell, this.lives uuid cell i = 0) {home : Option (Nat × CellID)}
    (total : ∀ cell, tree.entries.count (cell, uuid) +
        inbound this.children this.link (Packet.joins cell uuid) ≤
      inbound this.children this.link (Packet.leaves cell uuid) +
          (if home.map Prod.snd = some cell then 1 else 0) + this.own uuid cell 0) :
    Accounted ((this.handled 0 tree none).setHome uuid home) uuid := by
  have links : (this.handled 0 tree none).link = this.link := link_handled_none this 0 tree
  constructor
  · intro i outside
    change ∀ packet ∈ (this.handled 0 tree none).link i, packet.peer ≠ uuid
    rw [links]
    exact accounted.apart i outside
  · intro i bound positive cell
    change ((this.handled 0 tree none).tree i).entries.count (cell, uuid) ≤
      _ + (this.handled 0 tree none).own uuid cell i
    rw [own_handled, tree_handled, if_neg (Nat.ne_of_gt positive)]
    have none := accounted.below i bound positive cell
    rw [nowhere i positive] at none
    exact Nat.le_trans none (Nat.add_le_add_right (Nat.zero_le _) _)
  · intro i member cell
    change Balanced _ _ _ ((this.handled 0 tree none).link i)
    rw [links]
    have balanced := accounted.balanced i member cell
    rw [nowhere i (mem_children_iff.mp member).2.1] at balanced
    exact balanced.mono (Nat.zero_le _)
  · intro cell
    change ((this.handled 0 tree none).tree 0).entries.count (cell, uuid) +
        inbound this.children (this.handled 0 tree none).link (Packet.joins cell uuid) ≤
      inbound this.children (this.handled 0 tree none).link (Packet.leaves cell uuid) + _ +
        (this.handled 0 tree none).own uuid cell 0
    rw [own_handled, links, tree_handled_self, present_setHome]
    exact total cell

/-- A change at a child, of a peer that lives in no other subtree, and what the child passes
up. -/
theorem changed_child (accounted : Accounted this uuid) (member : k ∈ this.children)
    (elsewhere : ∀ i, i ≠ k → ∀ cell, this.lives uuid cell i = 0) {home : Option (Nat × CellID)}
    {toParent : Option Packet}
    (below : ∀ cell, tree.entries.count (cell, uuid) ≤
      (if home = some (k, cell) then 1 else 0) + this.own uuid cell k)
    (balanced : ∀ cell, Balanced (Packet.joins cell uuid) (Packet.leaves cell uuid)
      (if home = some (k, cell) then 1 else 0) (this.link k ++ toParent.toList))
    (total : ∀ cell, (this.tree 0).entries.count (cell, uuid) +
        (inbound this.children this.link (Packet.joins cell uuid) +
          toParent.toList.countP (Packet.joins cell uuid)) ≤
      inbound this.children this.link (Packet.leaves cell uuid) +
          toParent.toList.countP (Packet.leaves cell uuid) +
        (if home.map Prod.snd = some cell then 1 else 0) + this.own uuid cell 0) :
    Accounted ((this.handled k tree toParent).setHome uuid home) uuid := by
  have positive : 0 < k := (mem_children_iff.mp member).2.1
  constructor
  · intro i outside packet held
    change packet ∈ (this.handled k tree toParent).link i at held
    rw [link_handled, if_neg (fun same : i = k => outside (same ▸ member))] at held
    exact accounted.apart i outside packet held
  · intro i bound above cell
    change ((this.handled k tree toParent).tree i).entries.count (cell, uuid) ≤
      _ + (this.handled k tree toParent).own uuid cell i
    rw [own_handled, tree_handled, lives_setHome]
    by_cases same : i = k
    · rw [if_pos same, same]
      exact below cell
    · have none := accounted.below i bound above cell
      rw [elsewhere i same] at none
      rw [if_neg same]
      exact Nat.le_trans none (Nat.add_le_add_right (Nat.zero_le _) _)
  · intro i child cell
    change Balanced _ _ _ ((this.handled k tree toParent).link i)
    rw [link_handled, lives_setHome]
    by_cases same : i = k
    · rw [if_pos same, same]
      exact balanced cell
    · have before := accounted.balanced i child cell
      rw [elsewhere i same] at before
      rw [if_neg same]
      exact before.mono (Nat.zero_le _)
  · intro cell
    change ((this.handled k tree toParent).tree 0).entries.count (cell, uuid) +
        inbound this.children (this.handled k tree toParent).link (Packet.joins cell uuid) ≤
      inbound this.children (this.handled k tree toParent).link (Packet.leaves cell uuid) + _ +
        (this.handled k tree toParent).own uuid cell 0
    rw [own_handled, tree_handled, if_neg (Nat.ne_of_lt positive), present_setHome, Mesh.handled,
      inbound_push _ member, inbound_push _ member]
    exact total cell

theorem joined_root (accounted : Accounted this uuid) (away : this.home uuid = none)
    (gains : ∀ cell, tree.entries.count (cell, uuid) ≤
      (this.tree 0).entries.count (cell, uuid) + if cell = cellID then 1 else 0) :
    Accounted ((this.handled 0 tree none).setHome uuid (some (0, cellID))) uuid := by
  apply accounted.changed_root fun i _ cell => away_lives away cell i
  intro cell
  have total := accounted.root cell
  have more := gains cell
  rw [away_present away] at total
  by_cases same : cell = cellID
  · rw [if_pos same] at more
    rw [Option.map_some, if_pos (congrArg some same.symm)]
    omega
  · rw [if_neg same] at more
    omega

theorem joined_child (accounted : Accounted this uuid) (away : this.home uuid = none)
    (member : k ∈ this.children) {toParent : Option JoinMeshPacket}
    (gains : ∀ cell, tree.entries.count (cell, uuid) ≤
      (this.tree k).entries.count (cell, uuid) + if cell = cellID then 1 else 0)
    (passed : ∀ up ∈ toParent, up.uuid = uuid ∧ up.cellID = cellID) :
    Accounted ((this.handled k tree (toParent.map .joinMesh)).setHome uuid (some (k, cellID)))
      uuid := by
  have carries : ∀ up ∈ toParent, ∀ cell,
      (Packet.joinMesh up).joins cell uuid = decide (cell = cellID) := by
    intro up sent cell
    rcases passed up sent with ⟨rfl, rfl⟩
    simp [Packet.joins, eq_comm]
  have leaves : ∀ up cell, (Packet.joinMesh up).leaves cell uuid = false := fun up cell => rfl
  apply accounted.changed_child member fun i _ cell => away_lives away cell i
  · intro cell
    have more := gains cell
    have bound := accounted.below k (mem_children_iff.mp member).1 (mem_children_iff.mp member).2.1 cell
    rw [away_lives away] at bound
    by_cases same : cell = cellID
    · rw [if_pos same] at more
      rw [if_pos (same ▸ rfl)]
      omega
    · rw [if_neg same] at more
      omega
  · intro cell
    have balanced := accounted.balanced k member cell
    rw [away_lives away] at balanced
    cases toParent with
    | none =>
        rw [Option.map_none, Option.toList_none, List.append_nil]
        exact balanced.mono (Nat.zero_le _)
    | some up =>
        apply balanced.push
        · rw [carries up rfl, leaves]
          by_cases same : cell = cellID <;> simp [same]
        · rw [carries up rfl]
          by_cases same : cell = cellID <;> simp [same]
  · intro cell
    have total := accounted.root cell
    rw [away_present away] at total
    cases toParent with
    | none =>
        simp only [Option.map_none, Option.toList_none, List.countP_nil, Nat.add_zero] at total ⊢
        omega
    | some up =>
        rw [Option.map_some, Option.toList_some, List.countP_singleton, List.countP_singleton,
          carries up rfl, leaves]
        by_cases same : cell = cellID
        · simp [same] at total ⊢
          omega
        · simp [same] at total ⊢
          omega

theorem left_root (accounted : Accounted this uuid) (atHome : this.home uuid = some (0, cellID))
    (loses : ∀ cell, tree.entries.count (cell, uuid) ≤
      (this.tree 0).entries.count (cell, uuid) - if cell = cellID then 1 else 0) :
    Accounted ((this.handled 0 tree none).setHome uuid none) uuid := by
  have elsewhere : ∀ i, 0 < i → ∀ cell, this.lives uuid cell i = 0 := by
    intro i positive cell
    rw [lives, atHome, if_neg]
    rintro equal
    cases equal
    exact Nat.lt_irrefl 0 positive
  apply accounted.changed_root elsewhere
  intro cell
  have total := accounted.root cell
  have covered := accounted.inbound_joins_le cell
  have fewer := loses cell
  have nowhere : ∑ i ∈ this.children, this.lives uuid cell i = 0 :=
    Finset.sum_eq_zero fun i member => elsewhere i (mem_children_iff.mp member).2.1 cell
  rw [nowhere] at covered
  rw [present, atHome] at total
  by_cases same : cell = cellID
  · rw [if_pos same] at fewer
    rw [Option.map_some, if_pos (congrArg some same.symm)] at total
    omega
  · rw [if_neg same] at fewer
    rw [Option.map_some, if_neg (fun equal => same (Option.some.inj equal).symm)] at total
    omega

theorem left_child (accounted : Accounted this uuid) (atHome : this.home uuid = some (k, cellID))
    (member : k ∈ this.children) {up : LeaveMeshPacket}
    (loses : ∀ cell, tree.entries.count (cell, uuid) ≤
      (this.tree k).entries.count (cell, uuid) - if cell = cellID then 1 else 0)
    (passed : up.uuid = uuid ∧ up.cellID = cellID) :
    Accounted ((this.handled k tree (some (.leaveMesh up))).setHome uuid none) uuid := by
  have elsewhere : ∀ i, i ≠ k → ∀ cell, this.lives uuid cell i = 0 := by
    intro i apart cell
    rw [lives, atHome, if_neg]
    rintro equal
    cases equal
    exact apart rfl
  have here : ∀ cell, this.lives uuid cell k = if cell = cellID then 1 else 0 := by
    intro cell
    simp only [lives, atHome, Option.some.injEq, Prod.mk.injEq, true_and, eq_comm]
  have joins : ∀ cell, (Packet.leaveMesh up).joins cell uuid = false := fun cell => rfl
  have leaves : ∀ cell, (Packet.leaveMesh up).leaves cell uuid = decide (cell = cellID) := by
    intro cell
    simp only [Packet.leaves, passed.1, passed.2, and_true, eq_comm]
  apply accounted.changed_child member elsewhere
  · intro cell
    have fewer := loses cell
    have before := accounted.below k (mem_children_iff.mp member).1 (mem_children_iff.mp member).2.1 cell
    rw [here] at before
    omega
  · intro cell
    have balanced := accounted.balanced k member cell
    rw [here] at balanced
    apply balanced.push
    · rw [joins, leaves]
      by_cases equal : cell = cellID <;> simp [equal]
    · rw [joins]
      exact Nat.zero_le _
  · intro cell
    have total := accounted.root cell
    rw [present, atHome] at total
    rw [Option.toList_some, List.countP_singleton, List.countP_singleton, joins, leaves]
    by_cases same : cell = cellID
    · rw [Option.map_some, if_pos (congrArg some same.symm)] at total
      rw [decide_eq_true same, if_pos rfl, if_neg Bool.false_ne_true]
      omega
    · rw [Option.map_some, if_neg (fun equal => same (Option.some.inj equal).symm)] at total
      rw [decide_eq_false same, if_neg Bool.false_ne_true]
      omega

end Own

/-! ### Arrivals at the root -/

section Arrival

variable {k : Nat} {tree : CellTree} {rest : List Packet}

/-- The root takes a packet from a child; what it records and what the packet counts
for must add up. -/
theorem arrived (accounted : Accounted this uuid) {packet : Packet} (member : k ∈ this.children)
    (head : this.link k = packet :: rest)
    (adds : ∀ cell, tree.entries.count (cell, uuid) +
        inbound this.children (this.setLink k rest).link (Packet.joins cell uuid) ≤
      inbound this.children (this.setLink k rest).link (Packet.leaves cell uuid) +
        this.present uuid cell + this.own uuid cell 0) :
    Accounted ((this.setLink k rest).handled 0 tree none) uuid := by
  have links : ((this.setLink k rest).handled 0 tree none).link = (this.setLink k rest).link :=
    link_handled_none _ 0 tree
  constructor
  · intro i outside message held
    rw [links, link_setLink, if_neg (fun same : i = k => outside (same ▸ member))] at held
    exact accounted.apart i outside message held
  · intro i bound positive cell
    rw [own_handled, tree_handled, if_neg (Nat.ne_of_gt positive)]
    exact accounted.below i bound positive cell
  · intro i child cell
    rw [links, link_setLink]
    split
    · rename_i same
      subst same
      exact (head ▸ accounted.balanced i child cell).pop
    · exact accounted.balanced i child cell
  · intro cell
    rw [own_handled, links, tree_handled_self]
    exact adds cell

theorem arrivedJoin (accounted : Accounted this uuid) {packet : JoinMeshPacket}
    (member : k ∈ this.children) (head : this.link k = .joinMesh packet :: rest)
    (gains : ∀ cell, tree.entries.count (cell, uuid) ≤ (this.tree 0).entries.count (cell, uuid) +
      if (Packet.joinMesh packet).joins cell uuid then 1 else 0) :
    Accounted ((this.setLink k rest).handled 0 tree none) uuid := by
  apply accounted.arrived member head
  intro cell
  have total := accounted.root cell
  have more := gains cell
  rw [inbound_pop _ member head, inbound_pop _ member head] at total
  have leaves : (Packet.joinMesh packet).leaves cell uuid = false := rfl
  rw [leaves, if_neg Bool.false_ne_true] at total
  change _ + inbound this.children (Function.update this.link k rest) _ ≤
    inbound this.children (Function.update this.link k rest) _ + _ + _
  omega

theorem arrivedLeave (accounted : Accounted this uuid) {packet : LeaveMeshPacket}
    (member : k ∈ this.children) (head : this.link k = .leaveMesh packet :: rest)
    (loses : ∀ cell, tree.entries.count (cell, uuid) ≤ (this.tree 0).entries.count (cell, uuid) -
      if (Packet.leaveMesh packet).leaves cell uuid then 1 else 0) :
    Accounted ((this.setLink k rest).handled 0 tree none) uuid := by
  apply accounted.arrived member head
  intro cell
  have total := accounted.root cell
  have fewer := loses cell
  rw [inbound_pop _ member head, inbound_pop _ member head] at total
  have joins : (Packet.leaveMesh packet).joins cell uuid = false := rfl
  rw [joins, if_neg Bool.false_ne_true] at total
  -- When the root does not record the peer, the packets behind this one must do alone.
  have covered : inbound this.children (Function.update this.link k rest)
        (Packet.joins cell uuid) ≤
      inbound this.children (Function.update this.link k rest) (Packet.leaves cell uuid) +
        ∑ i ∈ this.children, this.lives uuid cell i := by
    apply inbound_le
    intro i child
    by_cases same : i = k
    · subst same
      rw [Function.update_self]
      exact (head ▸ accounted.balanced i child cell).pop
    · rw [Function.update_of_ne same]
      exact accounted.balanced i child cell
  have atMost := this.sum_lives_le uuid cell
  change _ + inbound this.children (Function.update this.link k rest) _ ≤
    inbound this.children (Function.update this.link k rest) _ + _ + _
  by_cases closes : (Packet.leaveMesh packet).leaves cell uuid = true
  · rw [if_pos closes] at fewer total
    omega
  · rw [if_neg closes] at fewer total
    omega

end Arrival

end Accounted

end Mesh

end Stheno.Superpeer
