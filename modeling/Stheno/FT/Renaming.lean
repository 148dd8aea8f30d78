import Stheno.FT.GroupNet

/-!
# What a report changes

A coordinator that handles a report about a member changes what its tree lists for that
member, and for no other: the instance gets the identifier of the group, or its record
goes.  On the chain of the member these changes arrive at each coordinator in the order
in which they were made.
-/

namespace Stheno.FT

open Peer Superpeer

namespace Deployment

variable (d : Deployment)

/-- What a report changes for the member that it is about.  The value is the identifier
under which the instance is listed, and `none` when there is no record of the member. -/
inductive Acts (m : UUID) : Option UUID → Report → Option UUID → Prop where
  | changed (generated : (d.site m).iid ≠ d.groupUUID) :
      Acts m (some (d.site m).iid) (.updateInfo (d.changeIID m)) (some d.groupUUID)
  | left {iid : UUID} {packet : LeaveMeshPacket} (named : packet.uuid = m)
      (placed : packet.cellID = (d.site m).fid) : Acts m (some iid) (.leaveMesh packet) none

/-- What a tree shows of a member. -/
def Shows (m : UUID) (tree : CellTree) : Option UUID → Prop
  | some iid => d.Lists m iid tree
  | none => tree.services (d.site m).fid m = none

/-- The identifier that a member has given to its instance. -/
def current (m : UUID) (group : P3ReplicationGroup) : UUID :=
  if group.isThisPeerPrimary then d.groupUUID else (d.site m).iid

/-- A tree after a coordinator has handled a report about a member. -/
structure Handles (m : UUID) (tree after : CellTree) : Prop where
  orderly : after.Orderly
  others : ∀ other ∈ d.members, other ≠ m →
    after.services (d.site other).fid other = tree.services (d.site other).fid other
  listings : ∀ listing ∈ after.listings d.sid d.groupUUID,
    listing ∈ tree.listings d.sid d.groupUUID ∨
      (listing.pid = m ∧ listing.fid = (d.site m).fid)

variable {d} {m : UUID} {tree after : CellTree}

theorem Acts.pid {before value : Option UUID} {report : Report}
    (acts : d.Acts m before report value) : report.pid = m := by
  cases acts with
  | changed generated => rfl
  | left named placed => exact named

theorem Shows.congr (same : after.services (d.site m).fid m = tree.services (d.site m).fid m)
    {value : Option UUID} (shows : d.Shows m tree value) : d.Shows m after value := by
  cases value with
  | none => exact same.trans shows
  | some iid =>
      rcases shows with ⟨map, held, names⟩
      exact ⟨map, same.trans held, names⟩

/-- An instance that moves to the identifier of the group has no other one afterwards. -/
theorem Names.changed {find moved : UUID → Option ServiceInstanceInfo}
    (moves : ∀ other, moved other =
      if other = d.groupUUID then some { d.info m (d.site m).iid with iid := d.groupUUID }
      else if other = (d.site m).iid then none
      else find other) : d.Names m d.groupUUID moved := by
  constructor
  · rw [moves, if_pos rfl]
    rfl
  · intro other asked apart
    rw [moves, if_neg apart]
    have own : other = (d.site m).iid := by
      simpa [apart] using asked
    rw [if_pos own]

theorem Names.free {find : UUID → Option ServiceInstanceInfo}
    (names : d.Names m (d.site m).iid find) (generated : (d.site m).iid ≠ d.groupUUID) :
    find d.groupUUID = none :=
  names.only _ (List.mem_cons_of_mem _ (List.mem_singleton_self _)) (Ne.symm generated)

/-- A coordinator that lists the member makes its update. -/
theorem exists_changeIID (orderly : tree.Orderly) (generated : (d.site m).iid ≠ d.groupUUID)
    (lists : d.Lists m (d.site m).iid tree) :
    ∃ after, tree.processUpdateInfo (d.changeIID m) = .ok after ∧ d.Handles m tree after ∧
      d.Lists m d.groupUUID after := by
  rcases lists with ⟨map, held, names⟩
  rcases @CellTree.exists_processUpdateInfo _ (d.changeIID m) _ _ held rfl with
    ⟨after, done, updated⟩
  have orderlyAfter := orderly.processUpdateInfo done
  refine ⟨after, done, ⟨orderlyAfter, ?_, ?_⟩, _, updated, ?_⟩
  · intro other _ apart
    rw [CellTree.services_after_update done, if_neg]
    exact fun same => apart same.2
  · intro listing listed
    rcases orderlyAfter.mem_listings_iff.mp listed with ⟨mapAfter, heldAfter, runs⟩
    rw [CellTree.services_after_update done] at heldAfter
    split at heldAfter
    · rename_i same
      exact Or.inr ⟨same.2, same.1⟩
    · exact Or.inl (orderly.mem_listings_iff.mpr ⟨mapAfter, heldAfter, runs⟩)
  · exact Names.changed
      (ServiceMap.getInstanceOfService_changeServiceIID names.found (names.free generated))

/-- A departure that spares the others takes the record of the member. -/
theorem exists_departure (orderly : tree.Orderly) (spares : d.Spares tree m (d.site m).fid) :
    ∃ out, tree.leave m (d.site m).fid = .ok out ∧ d.Handles m tree out.1 ∧
      out.1.services (d.site m).fid m = none := by
  rcases CellTree.exists_leave orderly.inv spares.1 with ⟨out, done⟩
  have orderlyAfter := orderly.leave done
  refine ⟨out, done, ⟨orderlyAfter, ?_, ?_⟩, orderly.services_leave_self done⟩
  · intro other member apart
    apply orderly.services_leave_other done
    · intro same
      exact apart (Prod.mk.inj same).2
    · exact spares.2 other member apart
  · intro listing listed
    rcases orderlyAfter.mem_listings_iff.mp listed with ⟨map, held, runs⟩
    exact Or.inl (orderly.mem_listings_iff.mpr ⟨map, orderly.services_of_leave done held, runs⟩)

end Deployment

namespace GroupNet

variable (d : Deployment) (this : GroupNet)

/-- The reports about a member in the channel of a coordinator to its parent. -/
def about (m : UUID) (k : Nat) : List Report :=
  (this.link k).filter fun report => report.pid = m

/-- What a member with a channel has told the mesh in the end. -/
def source (m : UUID) : Option UUID :=
  if this.connected m then some (d.current m (this.group m)) else none

/-- The trees on the chain of a member show what the reports on their way have not changed
yet. -/
structure Tracks (m : UUID) (copy : Nat → Option UUID) : Prop where
  shows : ∀ i, d.OnChain m i → d.Shows m (this.tree i) (copy i)
  copies : Copies d.parent (d.Acts m) (d.site m).coordinator copy (this.about m)
    ((this.client m).map .updateInfo) (this.source d m)

variable {d} {this}

section Handled

variable (k i : Nat) (tree : CellTree) (toParent : Option Report)

theorem tree_handled :
    (this.handled k tree toParent).tree i = if i = k then tree else this.tree i := by
  have cell : (this.handled k tree toParent).cell i =
      if i = k then { this.cell k with cellTree := tree } else this.cell i :=
    Function.update_apply _ _ _ _
  unfold GroupNet.tree
  rw [cell]
  split <;> rfl

theorem parentChannel_handled :
    ((this.handled k tree toParent).cell i).parentChannel = (this.cell i).parentChannel := by
  have cell : (this.handled k tree toParent).cell i =
      if i = k then { this.cell k with cellTree := tree } else this.cell i :=
    Function.update_apply _ _ _ _
  rw [cell]
  split
  · rename_i same
    rw [same]
  · rfl

theorem link_handled :
    (this.handled k tree toParent).link i =
      if i = k then this.link k ++ toParent.toList else this.link i :=
  Function.update_apply _ _ _ _

theorem link_setLink (reports : List Report) :
    (this.setLink k reports).link i = if i = k then reports else this.link i :=
  Function.update_apply _ _ _ _

theorem about_handled_of_ne (m : UUID) (other : i ≠ k) :
    (this.handled k tree toParent).about m i = this.about m i := by
  rw [about, link_handled, if_neg other]
  rfl

theorem about_handled_self {m : UUID} {report : Report} (named : report.pid = m) :
    (this.handled k tree (some report)).about m k = this.about m k ++ [report] := by
  rw [about, link_handled, if_pos rfl, List.filter_append, Option.toList_some,
    List.filter_singleton, decide_eq_true named]
  rfl

theorem about_handled_apart {m : UUID} (apart : ∀ report ∈ toParent, report.pid ≠ m) :
    (this.handled k tree toParent).about m i = this.about m i := by
  rw [about, link_handled]
  by_cases here : i = k
  · rw [if_pos here, List.filter_append, here]
    have none : toParent.toList.filter (fun report => decide (report.pid = m)) = [] := by
      rw [List.filter_eq_nil_iff]
      intro report member same
      exact apart report (Option.mem_toList.mp member) (of_decide_eq_true same)
    rw [none, List.append_nil]
    rfl
  · rw [if_neg here]
    rfl

theorem about_setLink_of_ne (m : UUID) (other : i ≠ k) (reports : List Report) :
    (this.setLink k reports).about m i = this.about m i := by
  rw [about, link_setLink, if_neg other]
  rfl

end Handled

/-- The first report in a channel is the first about its member. -/
theorem about_of_head {k : Nat} {report : Report} {rest : List Report}
    (head : this.link k = report :: rest) :
    this.about report.pid k = report :: (this.setLink k rest).about report.pid k := by
  rw [about, head, about, link_setLink, if_pos rfl, List.filter_cons, if_pos (decide_eq_true rfl)]

theorem about_of_head_apart {k : Nat} {report : Report} {rest : List Report} {m : UUID}
    (head : this.link k = report :: rest) (apart : report.pid ≠ m) (i : Nat) :
    (this.setLink k rest).about m i = this.about m i := by
  by_cases here : i = k
  · subst here
    have skipped : ¬decide (report.pid = m) = true := fun same => apart (of_decide_eq_true same)
    rw [about, link_setLink, if_pos rfl, about, head, List.filter_cons, if_neg skipped]
  · exact about_setLink_of_ne k i m here rest

end GroupNet

end Stheno.FT
