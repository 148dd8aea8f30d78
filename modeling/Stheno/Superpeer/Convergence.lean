import Stheno.Superpeer.Accounts
import Stheno.Superpeer.Agreement

/-!
# Departures reach the root

A departure that the root or a child of the root sees first takes the peer from
every tree that holds it.  Further down, the packet that a relaying coordinator
builds names another peer, and the peer stays.
-/

namespace Stheno.Superpeer

open Stheno.Tree Peer Queue

namespace Mesh

/-! ## The condition -/

/-- The channel of the peer is to the root or to a child of the root, and where the
departure arrives the cell of the peer has a superpeer. -/
def Suits (this : Mesh) : Event → Prop
  | .join _ _ => True
  | .leave k uuid cellID => this.home uuid = some (k, cellID) →
      (k = 0 ∨ this.parent k = 0) ∧ (this.tree k).Staffed uuid cellID
  | .deliver k => ∀ packet ∈ (this.link k).head?.bind Packet.departure,
      (this.tree (this.parent k)).Staffed packet.uuid packet.cellID

instance (this : Mesh) : (event : Event) → Decidable (this.Suits event)
  | .join _ _ => isTrue trivial
  | .leave k uuid cellID => inferInstanceAs (Decidable (this.home uuid = some (k, cellID) →
      (k = 0 ∨ this.parent k = 0) ∧ (this.tree k).Staffed uuid cellID))
  | .deliver k => inferInstanceAs (Decidable (∀ packet ∈ (this.link k).head?.bind Packet.departure,
      (this.tree (this.parent k)).Staffed packet.uuid packet.cellID))

/-- Every event of a run suits the mesh that it meets. -/
def AllSuit (config : P3Configuration) (this : Mesh) : List Event → Prop
  | [] => True
  | event :: rest =>
      this.Suits event ∧ ∀ after, this.step config event = .ok after → after.AllSuit config rest

instance decidableAllSuit (config : P3Configuration) :
    (this : Mesh) → (events : List Event) → Decidable (this.AllSuit config events)
  | _, [] => isTrue trivial
  | this, event :: rest =>
      have later : Decidable (∀ after, this.step config event = .ok after →
          after.AllSuit config rest) :=
        match this.step config event with
        | .ok next =>
            have := decidableAllSuit config next rest
            decidable_of_iff (next.AllSuit config rest) (by
              constructor
              · intro suit after equal
                cases equal
                exact suit
              · intro all
                exact all next rfl)
        | .error _ => isTrue (by
            intro after impossible
            cases impossible)
      inferInstanceAs (Decidable (this.Suits event ∧ ∀ after, this.step config event = .ok after →
        after.AllSuit config rest))

/-! ## The start -/

/-- A coordinator, or one of those above it. -/
inductive Above (this : Mesh) : Nat → Nat → Prop where
  | self (k : Nat) : this.Above k k
  | parent {i k : Nat} (positive : 0 < k) (above : this.Above i (this.parent k)) : this.Above i k

/-- The record that `joinCoordinator` puts into the tree of a coordinator: of itself, in its own
cell. -/
def OwnRecord (this : Mesh) (k : Nat) (cellID : CellID) (uuid : UUID) : Prop :=
  cellID = (this.cell k).cellID ∧ uuid = (this.cell k).pid

/-- Nothing is on its way, and trees record peers where they are at home and above, and
coordinators in their own cells. -/
structure Settled (this : Mesh) : Prop where
  chained : ∀ k < this.size, (this.cell k).parentChannel = none ↔ k = 0
  sound : ∀ k < this.size, RepInv (this.tree k)
  distinct : ∀ k < this.size, (this.tree k).cellIDs.Nodup
  idle : ∀ k, this.link k = []
  homes : ∀ uuid k cellID, this.home uuid = some (k, cellID) → k < this.size
  once : ∀ k < this.size, (this.tree k).entries.Nodup
  recorded : ∀ i < this.size, ∀ cellID uuid, (cellID, uuid) ∈ (this.tree i).entries →
    this.OwnRecord i cellID uuid ∨ ∃ k, this.home uuid = some (k, cellID) ∧ this.Above i k

/-! ## The invariant -/

/-- The peer has no channel, or one to the root or to a child of the root. -/
def Near (this : Mesh) (uuid : UUID) : Prop :=
  ∀ k cellID, this.home uuid = some (k, cellID) → k = 0 ∨ this.parent k = 0

structure Wired (this : Mesh) : Prop where
  chained : ∀ k < this.size, (this.cell k).parentChannel = none ↔ k = 0
  sound : ∀ k < this.size, RepInv (this.tree k)
  distinct : ∀ k < this.size, (this.tree k).cellIDs.Nodup
  carries : ∀ k, ∀ packet ∈ this.link k, (∃ join, packet = .joinMesh join) ∨
    (k ∈ this.children ∧ ∃ leave, packet = .leaveMesh leave)
  homes : ∀ uuid k cellID, this.home uuid = some (k, cellID) → k < this.size

structure Coherent (this : Mesh) : Prop extends Wired this where
  accounted : ∀ uuid, this.Near uuid → this.Accounted uuid

theorem Wired.toCarries {this : Mesh} (wired : this.Wired) : this.Carries := by
  intro k packet member
  rcases wired.carries k packet member with join | ⟨-, leave⟩
  · exact Or.inl join
  · exact Or.inr leave

section Wired

variable {this : Mesh}

theorem Wired.handled (wired : this.Wired) {k : Nat} {tree : CellTree} {toParent : Option Packet}
    (sound : RepInv tree) (distinct : tree.cellIDs.Nodup)
    (passed : ∀ packet ∈ toParent, (∃ join, packet = .joinMesh join) ∨
      (k ∈ this.children ∧ ∃ leave, packet = .leaveMesh leave)) :
    (this.handled k tree toParent).Wired := by
  constructor
  · intro i bound
    rw [parentChannel_handled]
    exact wired.chained i bound
  · intro i bound
    rw [tree_handled]
    split
    · exact sound
    · exact wired.sound i bound
  · intro i bound
    rw [tree_handled]
    split
    · exact distinct
    · exact wired.distinct i bound
  · intro i packet member
    rw [link_handled] at member
    split at member
    · rename_i same
      subst same
      rcases List.mem_append.mp member with before | sent
      · exact wired.carries i packet before
      · exact passed packet (Option.mem_toList.mp sent)
    · exact wired.carries i packet member
  · exact wired.homes

theorem Wired.setLink (wired : this.Wired) {k : Nat} {packet : Packet} {rest : List Packet}
    (head : this.link k = packet :: rest) : (this.setLink k rest).Wired := by
  constructor
  · exact wired.chained
  · exact wired.sound
  · exact wired.distinct
  · intro i message member
    rw [link_setLink] at member
    split at member
    · rename_i same
      subst same
      exact wired.carries i message (head ▸ List.mem_cons_of_mem _ member)
    · exact wired.carries i message member
  · exact wired.homes

theorem Wired.setHome (wired : this.Wired) (uuid : UUID) {home : Option (Nat × CellID)}
    (bound : ∀ k cellID, home = some (k, cellID) → k < this.size) :
    (this.setHome uuid home).Wired := by
  constructor
  · exact wired.chained
  · exact wired.sound
  · exact wired.distinct
  · exact wired.carries
  · intro other k cellID place
    by_cases same : other = uuid
    · subst same
      rw [home_setHome_self] at place
      exact bound k cellID place
    · exact wired.homes other k cellID ((Function.update_of_ne same _ _).symm.trans place)

end Wired

section Trees

variable {config : P3Configuration} {cell : Cell} {tree : CellTree}

theorem Joined.repInv {packet : JoinMeshPacket} {toParent : Option JoinMeshPacket}
    (joined : Joined config cell packet tree toParent) (inv : RepInv cell.cellTree) :
    RepInv tree := by
  rcases joined.joined with ⟨parentCellID, status, done⟩
  exact inv.join done

theorem Joined.nodup {packet : JoinMeshPacket} {toParent : Option JoinMeshPacket}
    (joined : Joined config cell packet tree toParent) (distinct : cell.cellTree.cellIDs.Nodup) :
    tree.cellIDs.Nodup := by
  rcases joined.joined with ⟨parentCellID, status, done⟩
  exact CellTree.nodup_cellIDs_join distinct done

theorem Joined.count_le {packet : JoinMeshPacket} {toParent : Option JoinMeshPacket}
    (joined : Joined config cell packet tree toParent) (cellID : CellID) (uuid : UUID) :
    tree.entries.count (cellID, uuid) ≤ cell.cellTree.entries.count (cellID, uuid) +
      if (Packet.joinMesh packet).joins cellID uuid then 1 else 0 := by
  rcases joined.joined with ⟨parentCellID, status, done⟩
  rcases CellTree.entries_join done with same | more
  · rw [same.count_eq]
    exact Nat.le_add_right _ _
  · rw [more.count_eq, List.count_cons]
    apply Nat.add_le_add_left
    change (if ((packet.cellID, packet.uuid) == (cellID, uuid)) = true then 1 else 0) ≤ _
    simp [Packet.joins]

variable {uuid : UUID} {cellID : CellID} {toParent : Option LeaveMeshPacket}

theorem Departed.repInv (departed : Departed cell uuid cellID tree toParent)
    (inv : RepInv cell.cellTree) : RepInv tree := by
  rcases departed.left with ⟨status, done⟩
  exact inv.leave done

theorem Departed.nodup (departed : Departed cell uuid cellID tree toParent)
    (inv : RepInv cell.cellTree) (distinct : cell.cellTree.cellIDs.Nodup) :
    tree.cellIDs.Nodup := by
  rcases departed.left with ⟨status, done⟩
  exact CellTree.nodup_cellIDs_leave inv distinct done

theorem Departed.lost (departed : Departed cell uuid cellID tree toParent)
    (inv : RepInv cell.cellTree) (distinct : cell.cellTree.cellIDs.Nodup) :
    ∃ lost, CellTree.Lost cell.cellTree uuid cellID tree lost := by
  rcases departed.left with ⟨status, done⟩
  exact CellTree.lost_leave inv distinct done

theorem Departed.count_le (departed : Departed cell uuid cellID tree toParent)
    (inv : RepInv cell.cellTree) (distinct : cell.cellTree.cellIDs.Nodup)
    (entry : CellID × UUID) :
    tree.entries.count entry ≤
      cell.cellTree.entries.count entry - if entry = (cellID, uuid) then 1 else 0 := by
  rcases departed.lost inv distinct with ⟨lost, gone⟩
  have parts := gone.parts.count_eq entry
  rw [List.count_append] at parts
  by_cases same : entry = (cellID, uuid)
  · subst same
    rw [if_pos rfl]
    by_cases present : (cellID, uuid) ∈ cell.cellTree.entries
    · have taken := List.count_pos_iff.mpr (gone.peer present)
      omega
    · rw [List.count_eq_zero_of_not_mem present] at parts
      omega
  · rw [if_neg same]
    omega

end Trees

/-! ## One step -/

section Step

variable {config : P3Configuration} {this after : Mesh} {event : Event}

theorem near_of_setHome {uuid other : UUID} {home : Option (Nat × CellID)} (ne : uuid ≠ other)
    (near : (this.setHome other home).Near uuid) : this.Near uuid := by
  intro k cellID place
  exact near k cellID ((Function.update_of_ne ne _ _).trans place)

theorem Coherent.joined (coherent : this.Coherent) {k : Nat} {packet : JoinMeshPacket}
    {tree : CellTree} {toParent : Option JoinMeshPacket} (bound : k < this.size)
    (away : this.home packet.uuid = none)
    (joined : Joined config (this.cell k) packet tree toParent) :
    ((this.handled k tree (toParent.map .joinMesh)).setHome packet.uuid
      (some (k, packet.cellID))).Coherent := by
  have wired : (this.handled k tree (toParent.map .joinMesh)).Wired := by
    apply coherent.toWired.handled (joined.repInv (coherent.sound k bound))
      (joined.nodup (coherent.distinct k bound))
    intro up sent
    rcases Option.map_eq_some_iff.mp sent with ⟨join, -, rfl⟩
    exact Or.inl ⟨join, rfl⟩
  constructor
  · apply wired.setHome
    rintro i cellID equal
    cases equal
    exact bound
  · intro uuid near
    by_cases same : uuid = packet.uuid
    · subst same
      have accounted := coherent.accounted packet.uuid fun i cellID place => by
        rw [away] at place
        cases place
      have gains : ∀ cell, tree.entries.count (cell, packet.uuid) ≤
          (this.tree k).entries.count (cell, packet.uuid) +
            if cell = packet.cellID then 1 else 0 := by
        intro cell
        have more := joined.count_le cell packet.uuid
        simpa only [Packet.joins, and_true, decide_eq_true_eq, eq_comm (a := cell)] using more
      rcases near k packet.cellID (home_setHome_self _ _ _) with rfl | child
      · rw [joined.root ((coherent.chained 0 bound).mpr rfl), Option.map_none]
        exact accounted.joined_root away gains
      · by_cases isRoot : k = 0
        · subst isRoot
          rw [joined.root ((coherent.chained 0 bound).mpr rfl), Option.map_none]
          exact accounted.joined_root away gains
        · have member : k ∈ this.children :=
            mem_children_iff.mpr ⟨bound, Nat.pos_of_ne_zero isRoot, child⟩
          exact accounted.joined_child away member gains joined.passed
    · apply Accounted.setHome _ same
      apply (coherent.accounted uuid (near_of_setHome same near)).handled
      · intro cell
        have more := joined.count_le cell uuid
        rwa [Packet.joins_eq_false (fun equal => same equal.symm), if_neg Bool.false_ne_true] at more
      · intro up sent
        rcases Option.map_eq_some_iff.mp sent with ⟨join, passed, rfl⟩
        exact fun equal => same (equal.symm.trans (joined.passed join passed).1)

theorem Coherent.left (coherent : this.Coherent) {k : Nat} {uuid : UUID} {cellID : CellID}
    {tree : CellTree} {toParent : Option LeaveMeshPacket}
    (atHome : this.home uuid = some (k, cellID)) (near : k = 0 ∨ this.parent k = 0)
    (left : Departed (this.cell k) uuid cellID tree toParent)
    (passed : ∀ up ∈ toParent, up.uuid = uuid ∧ up.cellID = cellID) :
    ((this.handled k tree (toParent.map .leaveMesh)).setHome uuid none).Coherent := by
  have bound := coherent.homes uuid k cellID atHome
  have sound := coherent.sound k bound
  have distinct := coherent.distinct k bound
  have chained := coherent.chained k bound
  have member : k ≠ 0 → k ∈ this.children := by
    intro notRoot
    rcases near with isRoot | child
    · exact absurd isRoot notRoot
    · exact mem_children_iff.mpr ⟨bound, Nat.pos_of_ne_zero notRoot, child⟩
  have wired : (this.handled k tree (toParent.map .leaveMesh)).Wired := by
    apply coherent.toWired.handled (left.repInv sound) (left.nodup sound distinct)
    intro up sent
    rcases Option.map_eq_some_iff.mp sent with ⟨leave, here, rfl⟩
    refine Or.inr ⟨member ?_, leave, rfl⟩
    intro isRoot
    rw [left.root.mpr (chained.mpr isRoot)] at here
    cases here
  constructor
  · apply wired.setHome
    rintro i cell impossible
    cases impossible
  · intro other nearOther
    by_cases same : other = uuid
    · subst same
      have loses : ∀ cell, tree.entries.count (cell, other) ≤
          (this.tree k).entries.count (cell, other) - if cell = cellID then 1 else 0 := by
        intro cell
        have fewer := left.count_le sound distinct (cell, other)
        simpa only [Prod.mk.injEq, and_true] using fewer
      have accounted := coherent.accounted other fun i cell place => by
        cases atHome.symm.trans place
        exact near
      cases toParent with
      | none =>
          have isRoot := chained.mp (left.root.mp rfl)
          subst isRoot
          exact accounted.left_root atHome loses
      | some up =>
          have notRoot : k ≠ 0 := by
            intro isRoot
            cases left.root.mpr (chained.mpr isRoot)
          exact accounted.left_child atHome (member notRoot) loses (passed up rfl)
    · apply Accounted.setHome _ same
      apply (coherent.accounted other (near_of_setHome same nearOther)).handled
      · intro cell
        exact Nat.le_trans (left.count_le sound distinct (cell, other)) (Nat.sub_le _ _)
      · intro up sent
        rcases Option.map_eq_some_iff.mp sent with ⟨leave, here, rfl⟩
        exact fun equal => same (equal.symm.trans (passed leave here).1)

theorem Coherent.arrivedJoin (coherent : this.Coherent) {k : Nat} {packet : JoinMeshPacket}
    {rest : List Packet} {tree : CellTree} {toParent : Option JoinMeshPacket} (positive : 0 < k)
    (bound : k < this.size) (head : this.link k = .joinMesh packet :: rest)
    (joined : Joined config (this.cell (this.parent k)) packet tree toParent) :
    ((this.setLink k rest).handled (this.parent k) tree (toParent.map .joinMesh)).Coherent := by
  have above := Nat.lt_trans (this.parent_lt k positive) bound
  constructor
  · apply (coherent.toWired.setLink head).handled (joined.repInv (coherent.sound _ above))
      (joined.nodup (coherent.distinct _ above))
    intro up sent
    rcases Option.map_eq_some_iff.mp sent with ⟨join, -, rfl⟩
    exact Or.inl ⟨join, rfl⟩
  · intro uuid near
    have accounted := coherent.accounted uuid near
    by_cases child : this.parent k = 0
    · rw [child] at joined above ⊢
      rw [joined.root ((coherent.chained 0 above).mpr rfl), Option.map_none]
      have member := mem_children_iff.mpr ⟨bound, positive, child⟩
      exact accounted.arrivedJoin member head fun cell => joined.count_le cell uuid
    · have outside : k ∉ this.children := fun member => child (mem_children_iff.mp member).2.2
      have other : packet.uuid ≠ uuid :=
        accounted.apart k outside (.joinMesh packet) (head ▸ List.mem_cons_self)
      apply (accounted.setLink head other).handled
      · intro cell
        have more := joined.count_le cell uuid
        have silent : (Packet.joinMesh packet).joins cell uuid = false := Packet.joins_eq_false other
        rwa [silent, if_neg Bool.false_ne_true] at more
      · intro up sent
        rcases Option.map_eq_some_iff.mp sent with ⟨join, passed, rfl⟩
        exact fun equal => other ((joined.passed join passed).1.symm.trans equal)

theorem Coherent.arrivedLeave (coherent : this.Coherent) {k : Nat} {packet : LeaveMeshPacket}
    {rest : List Packet} {tree : CellTree} {toParent : Option LeaveMeshPacket} (positive : 0 < k)
    (bound : k < this.size) (head : this.link k = .leaveMesh packet :: rest)
    (left : Departed (this.cell (this.parent k)) packet.uuid packet.cellID tree toParent) :
    ((this.setLink k rest).handled (this.parent k) tree (toParent.map .leaveMesh)).Coherent := by
  have member : k ∈ this.children := by
    rcases coherent.carries k (.leaveMesh packet) (head ▸ List.mem_cons_self) with
      ⟨join, impossible⟩ | ⟨member, -⟩
    · cases impossible
    · exact member
  have above := Nat.lt_trans (this.parent_lt k positive) bound
  rw [(mem_children_iff.mp member).2.2] at left above ⊢
  have sound := coherent.sound 0 above
  have distinct := coherent.distinct 0 above
  rw [left.root.mpr ((coherent.chained 0 above).mpr rfl), Option.map_none]
  constructor
  · apply (coherent.toWired.setLink head).handled (left.repInv sound) (left.nodup sound distinct)
    rintro up impossible
    cases impossible
  · intro uuid near
    apply (coherent.accounted uuid near).arrivedLeave member head
    intro cell
    have fewer := left.count_le sound distinct (cell, uuid)
    simpa only [Packet.leaves, Prod.mk.injEq, decide_eq_true_eq, eq_comm (a := cell),
      eq_comm (a := uuid)] using fewer

theorem Coherent.step (coherent : this.Coherent) (suits : this.Suits event)
    (done : this.step config event = .ok after) : after.Coherent := by
  cases stepped_of_step coherent.toCarries done with
  | idle => exact coherent
  | joined bound away joined => exact coherent.joined bound away joined
  | left atHome left passed => exact coherent.left atHome (suits atHome).1 left passed
  | arrivedJoin positive bound head joined => exact coherent.arrivedJoin positive bound head joined
  | arrivedLeave positive bound head left => exact coherent.arrivedLeave positive bound head left

end Step

/-! ## Runs -/

theorem Above.eq_or_eq {this : Mesh} {i k : Nat} (above : this.Above i k)
    (near : k = 0 ∨ this.parent k = 0) : i = k ∨ i = 0 := by
  cases above with
  | self => exact Or.inl rfl
  | parent positive above =>
      rcases near with rfl | child
      · exact absurd positive (Nat.lt_irrefl 0)
      · rw [child] at above
        cases above with
        | self => exact Or.inr rfl
        | parent positive above => exact absurd positive (Nat.lt_irrefl 0)

theorem OwnRecord.own_eq {this : Mesh} {k : Nat} {cellID : CellID} {uuid : UUID}
    (isOwn : this.OwnRecord k cellID uuid) : this.own uuid cellID k = 1 :=
  if_pos ⟨isOwn.1.symm, isOwn.2.symm⟩

theorem ownRecord_of_own_pos {this : Mesh} {k : Nat} {cellID : CellID} {uuid : UUID}
    (positive : 0 < this.own uuid cellID k) : this.OwnRecord k cellID uuid := by
  unfold own at positive
  split at positive
  · rename_i isOwn
    exact ⟨isOwn.1.symm, isOwn.2.symm⟩
  · exact absurd positive (Nat.lt_irrefl 0)

theorem Settled.coherent {this : Mesh} (settled : this.Settled) : this.Coherent := by
  constructor
  · constructor
    · exact settled.chained
    · exact settled.sound
    · exact settled.distinct
    · intro k packet member
      rw [settled.idle k] at member
      cases member
    · exact settled.homes
  · intro uuid near
    have once : ∀ k < this.size, ∀ cellID, (this.tree k).entries.count (cellID, uuid) ≤ 1 :=
      fun k bound cellID => List.nodup_iff_count_le_one.mp (settled.once k bound) _
    constructor
    · intro k outside packet member
      rw [settled.idle k] at member
      cases member
    · intro i bound positive cellID
      by_cases present : (cellID, uuid) ∈ (this.tree i).entries
      · rcases settled.recorded i bound cellID uuid present with isOwn | ⟨k, place, above⟩
        · rw [isOwn.own_eq]
          exact Nat.le_trans (once i bound cellID) (Nat.le_add_left _ _)
        · rcases above.eq_or_eq (near k cellID place) with rfl | isRoot
          · rw [lives, if_pos place]
            exact Nat.le_trans (once i bound cellID) (Nat.le_add_right _ _)
          · exact absurd isRoot (Nat.ne_of_gt positive)
      · rw [List.count_eq_zero_of_not_mem present]
        exact Nat.zero_le _
    · intro k member cellID
      rw [settled.idle k]
      trivial
    · intro cellID
      have nothing : ∀ test, inbound this.children this.link test = 0 := by
        intro test
        apply inbound_eq_zero
        intro k member packet held
        rw [settled.idle k] at held
        cases held
      rw [nothing, nothing, Nat.zero_add, Nat.add_zero]
      by_cases present : (cellID, uuid) ∈ (this.tree 0).entries
      · rcases settled.recorded 0 this.size_pos cellID uuid present with isOwn | ⟨k, place, -⟩
        · rw [isOwn.own_eq]
          exact Nat.le_trans (once 0 this.size_pos cellID) (Nat.le_add_left _ _)
        · rw [Mesh.present, place, Option.map_some, if_pos rfl]
          exact Nat.le_trans (once 0 this.size_pos cellID) (Nat.le_add_right _ _)
      · rw [List.count_eq_zero_of_not_mem present]
        exact Nat.zero_le _

theorem Coherent.run {config : P3Configuration} {this after : Mesh} {events : List Event}
    (coherent : this.Coherent) (suit : this.AllSuit config events)
    (done : this.run config events = .ok after) : after.Coherent := by
  induction events generalizing this with
  | nil =>
      cases done
      exact coherent
  | cons event rest ih =>
      rw [Mesh.run, List.foldlM_cons] at done
      rcases Result.bind_eq_ok.mp done with ⟨next, first, later⟩
      exact ih (coherent.step suit.1 first) (suit.2 next first) later

/-- No packet about the peer is on its way. -/
def Processed (this : Mesh) (uuid : UUID) : Prop :=
  ∀ k < this.size, ∀ packet ∈ this.link k, packet.peer ≠ uuid

instance (this : Mesh) (uuid : UUID) : Decidable (this.Processed uuid) :=
  inferInstanceAs (Decidable (∀ k < this.size, ∀ packet ∈ this.link k, packet.peer ≠ uuid))

/-- An event takes a peer from a cell in the tree of a coordinator. -/
inductive Withdraws (this : Mesh) : Event → Nat → UUID → CellID → Prop where
  | leave {k : Nat} {uuid : UUID} {cellID : CellID} (atHome : this.home uuid = some (k, cellID)) :
      this.Withdraws (.leave k uuid cellID) k uuid cellID
  | deliver {k : Nat} {packet : LeaveMeshPacket} {rest : List Packet} (positive : 0 < k)
      (bound : k < this.size) (head : this.link k = .leaveMesh packet :: rest) :
      this.Withdraws (.deliver k) (this.parent k) packet.uuid packet.cellID

/-- The rest of a tree that loses a peer. -/
def OthersStay (before after : CellTree) (uuid : UUID) (cellID : CellID) : Prop :=
  ∀ entry : CellID × UUID, entry.2 ≠ uuid →
    (entry ∈ after.entries → entry ∈ before.entries) ∧
    (entry ∈ before.entries → entry ∈ after.entries ∨
      before.LastSuperpeer uuid cellID ∧ before.Within cellID entry.1)

theorem othersStay_self (tree : CellTree) (uuid : UUID) (cellID : CellID) :
    OthersStay tree tree uuid cellID :=
  fun _ _ => ⟨id, Or.inl⟩

/-- No coordinator has the peer in its tree, apart from itself in its own cell. -/
def Forgotten (this : Mesh) (uuid : UUID) : Prop :=
  ∀ k < this.size, ∀ cellID, (cellID, uuid) ∈ (this.tree k).entries → this.OwnRecord k cellID uuid

theorem Forgotten.notMem_pids {this : Mesh} {uuid : UUID} (forgotten : this.Forgotten uuid)
    {k : Nat} (bound : k < this.size) (other : uuid ≠ (this.cell k).pid) :
    uuid ∉ (this.tree k).pids := by
  intro present
  rw [CellTree.pids_eq_map_entries] at present
  rcases List.mem_map.mp present with ⟨⟨cellID, peer⟩, member, same⟩
  change peer = uuid at same
  subst same
  exact other (forgotten k bound cellID member).2

theorem Coherent.forgotten {this : Mesh} (coherent : this.Coherent) {uuid : UUID}
    (away : this.home uuid = none) (processed : this.Processed uuid) : this.Forgotten uuid := by
  intro k bound cellID member
  have accounted := coherent.accounted uuid fun i cellID place => by
    rw [away] at place
    cases place
  have recorded := List.count_pos_iff.mpr member
  apply ownRecord_of_own_pos
  by_cases isRoot : k = 0
  · subst isRoot
    have total := accounted.root cellID
    have nothing : inbound this.children this.link (Packet.leaves cellID uuid) = 0 := by
      apply inbound_eq_zero
      intro i child packet held
      exact Packet.leaves_eq_false (processed i (mem_children_iff.mp child).1 packet held)
    rw [nothing, Accounted.away_present away] at total
    omega
  · have atMost := accounted.below k bound (Nat.pos_of_ne_zero isRoot) cellID
    rw [Accounted.away_lives away] at atMost
    omega

theorem Departed.othersStay {cell : Cell} {tree : CellTree} {uuid : UUID} {cellID : CellID}
    {toParent : Option LeaveMeshPacket} (departed : Departed cell uuid cellID tree toParent)
    (inv : RepInv cell.cellTree) (distinct : cell.cellTree.cellIDs.Nodup)
    (staffed : cell.cellTree.Staffed uuid cellID) : OthersStay cell.cellTree tree uuid cellID := by
  rcases departed.lost inv distinct with ⟨lost, gone⟩
  intro entry apart
  constructor
  · intro member
    exact gone.parts.mem_iff.mpr (List.mem_append_right _ member)
  · intro member
    rcases List.mem_append.mp (gone.parts.mem_iff.mp member) with inLost | kept
    · apply Or.inr
      apply gone.others staffed entry inLost
      rintro rfl
      exact apart rfl
    · exact Or.inl kept

theorem Coherent.withdraws {config : P3Configuration} {this after : Mesh} {event : Event}
    {station : Nat} {uuid : UUID} {cellID : CellID} (coherent : this.Coherent)
    (withdraws : this.Withdraws event station uuid cellID) (suits : this.Suits event)
    (done : this.step config event = .ok after) :
    (∀ k, k ≠ station → after.tree k = this.tree k) ∧
      OthersStay (this.tree station) (after.tree station) uuid cellID := by
  have stepped := stepped_of_step coherent.toCarries done
  cases withdraws with
  | leave atHome =>
      cases stepped with
      | idle => exact ⟨fun k apart => rfl, othersStay_self _ _ _⟩
      | @left _ _ _ tree toParent atHome left passed =>
          have bound := coherent.homes _ _ _ atHome
          constructor
          · intro k apart
            exact (tree_handled this station k tree (toParent.map .leaveMesh)).trans (if_neg apart)
          · change OthersStay _ ((this.handled station tree (toParent.map .leaveMesh)).tree station) _ _
            rw [tree_handled_self]
            exact left.othersStay (coherent.sound _ bound) (coherent.distinct _ bound)
              (suits atHome).2
  | @deliver k packet rest positive bound head =>
      have above := Nat.lt_trans (this.parent_lt k positive) bound
      cases stepped with
      | idle => exact ⟨fun k apart => rfl, othersStay_self _ _ _⟩
      | arrivedJoin _ _ other joined => cases head.symm.trans other
      | @arrivedLeave _ _ _ tree toParent _ _ other left =>
          cases head.symm.trans other
          constructor
          · intro i apart
            exact (tree_handled (this.setLink k rest) _ i tree (toParent.map .leaveMesh)).trans
              (if_neg apart)
          · rw [tree_handled_self]
            exact left.othersStay (coherent.sound _ above) (coherent.distinct _ above)
              (suits packet (by rw [head]; rfl))

/-- In a run whose departures all start at the root or next to it, a peer that has left
is in no tree but its own once its packets are processed, and each withdrawal leaves the other
peers in place, except for those that go with the last superpeer of their cell. -/
theorem departures_converge {config : P3Configuration} {mesh after : Mesh} {events : List Event}
    (settled : mesh.Settled) (suit : mesh.AllSuit config events)
    (done : mesh.run config events = .ok after) :
    (∀ uuid, after.home uuid = none → after.Processed uuid → after.Forgotten uuid) ∧
    ∀ event station uuid cellID last, after.Withdraws event station uuid cellID →
      after.Suits event → after.step config event = .ok last →
        (∀ k, k ≠ station → last.tree k = after.tree k) ∧
          OthersStay (after.tree station) (last.tree station) uuid cellID := by
  have coherent := settled.coherent.run suit done
  constructor
  · intro uuid away processed
    exact coherent.forgotten away processed
  · intro event station uuid cellID last withdraws suits step
    exact coherent.withdraws withdraws suits step

/-! ## Three coordinators in a row -/

section Row

/-- The tree of a coordinator that has opened its cell. -/
def coordinatorTree (pid : UUID) (cellID : CellID) : CellTree :=
  ((CellTree.new defaults cellID).addPeer
    (.announced P3PeerInfo.SUPERPEER_COORD pid cellID none none none none)).1

theorem join_coordinatorTree (pid : UUID) (cellID : CellID) :
    ∃ status, (CellTree.new defaults cellID).join defaults
      (.announced P3PeerInfo.SUPERPEER_COORD pid cellID none none none none) none =
        .ok (coordinatorTree pid cellID, status) :=
  ⟨_, rfl⟩

theorem entries_coordinatorTree (pid : UUID) (cellID : CellID) :
    (coordinatorTree pid cellID).entries = [] ∨
      (coordinatorTree pid cellID).entries = [(cellID, pid)] := by
  rcases join_coordinatorTree pid cellID with ⟨status, joined⟩
  rcases CellTree.entries_join joined with same | more
  · rw [CellTree.entries_new] at same
    exact Or.inl same.eq_nil
  · rw [CellTree.entries_new] at more
    exact Or.inr (List.perm_singleton.mp more)

/-- A row of coordinators, each with a tree of its own cell with itself in it. -/
def row (size : Nat) (size_pos : 0 < size) : Mesh where
  size
  size_pos
  parent := fun k => k - 1
  parent_lt := fun _ positive => Nat.sub_lt positive Nat.one_pos
  cell := fun k =>
    { pid := ⟨[UInt8.ofNat (10 + k)]⟩
      cellID := ⟨[UInt8.ofNat k]⟩
      cellTree := coordinatorTree ⟨[UInt8.ofNat (10 + k)]⟩ ⟨[UInt8.ofNat k]⟩
      parentChannel :=
        if k = 0 then none
        else some { uuid := ⟨[UInt8.ofNat (10 + (k - 1))]⟩, cellID := ⟨[UInt8.ofNat (k - 1)]⟩ } }
  link := fun _ => []
  home := fun _ => none

theorem settled_row (size : Nat) (size_pos : 0 < size) : (row size size_pos).Settled where
  chained := by
    intro k _
    simp [row]
  sound := fun _ _ => (RepInv.new defaults _).addPeer _
  distinct := by
    intro k _
    rcases join_coordinatorTree ⟨[UInt8.ofNat (10 + k)]⟩ ⟨[UInt8.ofNat k]⟩ with ⟨status, joined⟩
    apply CellTree.nodup_cellIDs_join _ joined
    rw [CellTree.cellIDs_new]
    exact List.nodup_singleton _
  idle := fun _ => rfl
  homes := by
    rintro uuid _ cellID impossible
    cases impossible
  once := by
    intro k _
    change (coordinatorTree _ _).entries.Nodup
    rcases entries_coordinatorTree ⟨[UInt8.ofNat (10 + k)]⟩ ⟨[UInt8.ofNat k]⟩ with same | same
    · rw [same]
      exact List.nodup_nil
    · rw [same]
      exact List.nodup_singleton _
  recorded := by
    intro k bound cellID uuid member
    change (cellID, uuid) ∈ (coordinatorTree _ _).entries at member
    rcases entries_coordinatorTree ⟨[UInt8.ofNat (10 + k)]⟩ ⟨[UInt8.ofNat k]⟩ with same | same
    · rw [same] at member
      cases member
    · rw [same] at member
      cases List.mem_singleton.mp member
      exact Or.inl ⟨rfl, rfl⟩

/-- The coordinator of a cell next to the root joins it, one peer joins the cell and leaves,
another one joins, and then the channel of the coordinator closes. -/
def shortLeave : List Event :=
  [.join 0 (joining ⟨[11]⟩ ⟨[1]⟩ (some ⟨[0]⟩)),
    .join 1 (joining ⟨[20]⟩ ⟨[1]⟩ (some ⟨[0]⟩)), .deliver 1, .leave 1 ⟨[20]⟩ ⟨[1]⟩, .deliver 1,
    .join 1 (joining ⟨[21]⟩ ⟨[1]⟩ (some ⟨[0]⟩)), .deliver 1, .leave 0 ⟨[11]⟩ ⟨[1]⟩]

/-- Three coordinators join one below the other, and a peer joins the lowest cell and leaves. -/
def longLeave : List Event :=
  [.join 0 (joining ⟨[11]⟩ ⟨[1]⟩ (some ⟨[0]⟩)),
    .join 1 (joining ⟨[12]⟩ ⟨[2]⟩ (some ⟨[1]⟩)), .deliver 1,
    .join 2 (joining ⟨[20]⟩ ⟨[2]⟩ (some ⟨[1]⟩)), .deliver 2, .deliver 1,
    .leave 2 ⟨[20]⟩ ⟨[2]⟩, .deliver 2, .deliver 1]

/-- The root has neither the peer that left nor the coordinator any more; it has itself and the
other peer, and the coordinator has itself. -/
theorem departures_converge_shortLeave :
    ∃ after, (row 2 Nat.two_pos).run defaults shortLeave = .ok after ∧
      after.Forgotten ⟨[20]⟩ ∧ ⟨[11]⟩ ∉ (after.tree 0).pids ∧ ⟨[21]⟩ ∈ (after.tree 0).pids ∧
        ⟨[10]⟩ ∈ (after.tree 0).pids ∧ ⟨[11]⟩ ∈ (after.tree 1).pids := by
  have ends : ∃ after, (row 2 Nat.two_pos).run defaults shortLeave = .ok after ∧
      (after.home ⟨[20]⟩ = none ∧ after.Processed ⟨[20]⟩) ∧
      (after.home ⟨[11]⟩ = none ∧ after.Processed ⟨[11]⟩) ∧
      (0 < after.size ∧ (after.cell 0).pid = ⟨[10]⟩) ∧ ⟨[21]⟩ ∈ (after.tree 0).pids ∧
        ⟨[10]⟩ ∈ (after.tree 0).pids ∧ ⟨[11]⟩ ∈ (after.tree 1).pids := by
    decide +kernel
  have suit : (row 2 Nat.two_pos).AllSuit defaults shortLeave := by
    decide +kernel
  rcases ends with ⟨after, done, peerLeft, coordinatorLeft, ⟨bound, root⟩, stays⟩
  have converged := departures_converge (settled_row 2 Nat.two_pos) suit done
  have forgotten := converged.1 ⟨[11]⟩ coordinatorLeft.1 coordinatorLeft.2
  refine ⟨after, done, converged.1 _ peerLeft.1 peerLeft.2, ?_, stays⟩
  apply forgotten.notMem_pids bound
  rw [root]
  decide

/-- The packet that coordinator 1 passes on does not name the peer that left. -/
theorem exists_departed_stays :
    ¬∀ (config : P3Configuration) (mesh after : Mesh) (events : List Event), mesh.Settled →
      mesh.run config events = .ok after → ∀ uuid, after.home uuid = none →
        after.Processed uuid → after.Forgotten uuid := by
  intro converges
  have ends : ∃ after, (row 3 (Nat.succ_pos 2)).run defaults longLeave = .ok after ∧
      after.home ⟨[20]⟩ = none ∧ after.Processed ⟨[20]⟩ ∧
      (0 < after.size ∧ (after.cell 0).pid = ⟨[10]⟩) ∧ ⟨[20]⟩ ∈ (after.tree 0).pids := by
    decide +kernel
  rcases ends with ⟨after, done, away, processed, ⟨bound, root⟩, stays⟩
  have forgotten := converges defaults _ after longLeave (settled_row 3 (Nat.succ_pos 2)) done _ away
    processed
  apply forgotten.notMem_pids bound _ stays
  rw [root]
  decide

end Row

end Mesh

end Stheno.Superpeer
