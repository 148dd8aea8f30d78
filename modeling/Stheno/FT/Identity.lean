import Stheno.FT.Takeover

/-!
# The identity of a group in the directories

As long as departures reach every coordinator of the chain and take no other member
along, the trees on the chain of a member show what the member has announced, up to the
reports on their way.  Once everything has been processed, the identifier of the group
stands for the instance of the primary.
-/

namespace Stheno.FT

open Peer Superpeer P3ReplicationGroup

/-- A coordinator makes the change of an update that acts on its tree, and passes it on. -/
theorem Deployment.exists_handleUpdateInfo {d : Deployment} {m : UUID} {cell : Cell}
    {before value : Option UUID} {info : MeshUpdateInfo} (orderly : cell.cellTree.Orderly)
    (shows : d.Shows m cell.cellTree before) (acts : d.Acts m before (.updateInfo info) value) :
    ∃ handled, cell.handleUpdateInfo info = .ok handled ∧
      d.Handles m cell.cellTree handled.tree ∧ d.Shows m handled.tree value ∧
      handled.toParent = cell.parentChannel.map fun _ => info := by
  cases acts with
  | changed generated =>
      rcases exists_changeIID orderly generated shows with ⟨after, done, handles, lists⟩
      let handled : Handled MeshUpdateInfo MeshUpdateInfo :=
        { tree := after
          accepted := true
          toParent := cell.parentChannel.map fun _ => d.changeIID m
          toGroup := d.changeIID m }
      refine ⟨handled, ?_, handles, lists, rfl⟩
      rw [Cell.handleUpdateInfo, done]
      rfl

namespace GroupNet

variable (d : Deployment)

/-- What holds of the coordinators, their channels and the members. -/
structure Wired (this : GroupNet) : Prop where
  chained : ∀ k < d.size, (this.cell k).parentChannel = none ↔ k = 0
  orderly : ∀ k < d.size, (this.tree k).Orderly
  routed : ∀ k, ∀ report ∈ this.link k, report.pid ∈ d.members ∧ d.OnChain report.pid k
  departures : ∀ k packet, .leaveMesh packet ∈ this.link k → d.parent k = 0
  only : ∀ i < d.size, ∀ listing ∈ (this.tree i).listings d.sid d.groupUUID,
    listing.pid ∈ d.members ∧ listing.fid = (d.site listing.pid).fid ∧ d.OnChain listing.pid i
  role : ∀ m ∈ d.members, d.Role m (this.runtime m) (this.group m) (this.heard m)
  connected : ∀ m ∈ d.members, m ∉ this.failed → this.connected m = true
  failed : ∀ m ∈ this.failed, m ∈ d.members
  heard : ∀ m ∈ d.members, ∀ uuid ∈ this.heard m, uuid ∈ this.failed
  strangers : ∀ m, m ∉ d.members → this.client m = []

/-- The trees on the chains show what the members have announced. -/
structure Coherent (this : GroupNet) : Prop extends Wired d this where
  tracks : ∀ m ∈ d.members, ∃ copy, Tracks d this m copy

variable {d} {this next : GroupNet} {m : UUID} {copy : Nat → Option UUID} {k : Nat}

/-! ## What stays -/

theorem Tracks.congr (tracks : Tracks d this m copy)
    (services : ∀ i, d.OnChain m i →
      (next.tree i).services (d.site m).fid m = (this.tree i).services (d.site m).fid m)
    (about : ∀ i, next.about m i = this.about m i) (client : next.client m = this.client m)
    (source : next.source d m = this.source d m) : Tracks d next m copy where
  shows := fun i onChain => (tracks.shows i onChain).congr (services i onChain)
  copies := by
    rw [funext about, client, source]
    exact tracks.copies

theorem Wired.setClient (wired : this.Wired d) (member : m ∈ d.members)
    (updates : List MeshUpdateInfo) : (this.setClient m updates).Wired d where
  chained := wired.chained
  orderly := wired.orderly
  routed := wired.routed
  departures := wired.departures
  only := wired.only
  role := wired.role
  connected := wired.connected
  failed := wired.failed
  heard := wired.heard
  strangers := by
    intro other stranger
    have apart : other ≠ m := fun same => stranger (same ▸ member)
    exact (Function.update_of_ne apart _ _).trans (wired.strangers other stranger)

theorem Wired.disconnect (wired : this.Wired d) (failed : m ∈ this.failed) :
    (this.disconnect m).Wired d where
  chained := wired.chained
  orderly := wired.orderly
  routed := wired.routed
  departures := wired.departures
  only := wired.only
  role := wired.role
  connected := by
    intro other member runs
    have apart : other ≠ m := fun same => runs (same ▸ failed)
    exact (Function.update_of_ne apart _ _).trans (wired.connected other member runs)
  failed := wired.failed
  heard := wired.heard
  strangers := (wired.setClient (wired.failed m failed) []).strangers

theorem mem_link_of_setLink {report : Report} {rest : List Report}
    (head : this.link k = report :: rest) {i : Nat} {other : Report}
    (member : other ∈ (this.setLink k rest).link i) : other ∈ this.link i := by
  rw [link_setLink] at member
  split at member
  · rename_i here
    rw [here, head]
    exact List.mem_cons_of_mem _ member
  · exact member

theorem Wired.setLink (wired : this.Wired d) {report : Report} {rest : List Report}
    (head : this.link k = report :: rest) : (this.setLink k rest).Wired d where
  chained := wired.chained
  orderly := wired.orderly
  routed := fun i other member => wired.routed i other (mem_link_of_setLink head member)
  departures := fun i packet member => wired.departures i packet (mem_link_of_setLink head member)
  only := wired.only
  role := wired.role
  connected := wired.connected
  failed := wired.failed
  heard := wired.heard
  strangers := wired.strangers

/-- A coordinator has handled a report about a member of its chain. -/
theorem Wired.handled (wired : this.Wired d) {tree : CellTree} {toParent : Option Report}
    (member : m ∈ d.members) (onChain : d.OnChain m k)
    (handles : d.Handles m (this.tree k) tree)
    (passed : ∀ report ∈ toParent, report.pid = m ∧
      ∀ packet, report = .leaveMesh packet → d.parent k = 0) :
    (this.handled k tree toParent).Wired d where
  chained := by
    intro i bound
    rw [parentChannel_handled]
    exact wired.chained i bound
  orderly := by
    intro i bound
    rw [tree_handled]
    split
    · exact handles.orderly
    · exact wired.orderly i bound
  routed := by
    intro i report inLink
    rw [link_handled] at inLink
    split at inLink
    · rename_i here
      rw [here]
      rcases List.mem_append.mp inLink with before | sent
      · exact wired.routed k report before
      · rw [(passed report (Option.mem_toList.mp sent)).1]
        exact ⟨member, onChain⟩
    · exact wired.routed i report inLink
  departures := by
    intro i packet inLink
    rw [link_handled] at inLink
    split at inLink
    · rename_i here
      rw [here]
      rcases List.mem_append.mp inLink with before | sent
      · exact wired.departures k packet before
      · exact (passed _ (Option.mem_toList.mp sent)).2 packet rfl
    · exact wired.departures i packet inLink
  only := by
    intro i bound listing listed
    rw [tree_handled] at listed
    split at listed
    · rename_i here
      rw [here] at bound ⊢
      rcases handles.listings listing listed with before | ⟨own, placed⟩
      · exact wired.only k bound listing before
      · rw [own]
        exact ⟨member, placed, onChain⟩
    · exact wired.only i bound listing listed
  role := wired.role
  connected := wired.connected
  failed := wired.failed
  heard := wired.heard
  strangers := wired.strangers

/-- The trees show of the others what they showed before. -/
theorem Tracks.handled (tracks : Tracks d this m copy) (member : m ∈ d.members) {pid : UUID}
    (apart : m ≠ pid) {tree : CellTree} {toParent : Option Report}
    (handles : d.Handles pid (this.tree k) tree)
    (passed : ∀ report ∈ toParent, report.pid = pid) :
    Tracks d (this.handled k tree toParent) m copy := by
  have services : ∀ i, d.OnChain m i → ((this.handled k tree toParent).tree i).services
      (d.site m).fid m = (this.tree i).services (d.site m).fid m := by
    intro i _
    rw [tree_handled]
    split
    · rename_i here
      rw [here]
      exact handles.others m member apart
    · rfl
  have about : ∀ i, (this.handled k tree toParent).about m i = this.about m i := by
    intro i
    apply about_handled_apart
    intro report sent same
    exact apart (same.symm.trans (passed report sent))
  exact tracks.congr services about rfl rfl

/-- A coordinator has handled a report about a member, and the copies account for it. -/
theorem Coherent.of_handled (wired : this.Wired d) (member : m ∈ d.members)
    (others : ∀ other ∈ d.members, other ≠ m → ∃ copy, Tracks d this other copy)
    (onChain : d.OnChain m k) {tree : CellTree} {toParent : Option Report}
    (handles : d.Handles m (this.tree k) tree)
    (passed : ∀ report ∈ toParent, report.pid = m ∧
      ∀ packet, report = .leaveMesh packet → d.parent k = 0)
    {value : Option UUID} (shows : ∀ i, d.OnChain m i → d.Shows m (this.tree i) (copy i))
    (here : d.Shows m tree value)
    (copies : Copies d.parent (d.Acts m) (d.site m).coordinator (Function.update copy k value)
      ((this.handled k tree toParent).about m) ((this.client m).map .updateInfo)
      (this.source d m)) :
    (this.handled k tree toParent).Coherent d where
  toWired := wired.handled member onChain handles passed
  tracks := by
    intro other isMember
    by_cases same : other = m
    · subst same
      refine ⟨Function.update copy k value, ?_, copies⟩
      intro i onChainI
      rw [tree_handled, Function.update_apply]
      split
      · exact here
      · exact shows i onChainI
    · rcases others other isMember same with ⟨copyOther, tracks⟩
      exact ⟨copyOther, tracks.handled isMember same handles fun report sent => (passed report sent).1⟩

/-! ## One step -/

/-- The root has nobody to tell, and every other coordinator tells its parent. -/
theorem Wired.parentChannel_map (wired : this.Wired d) (bound : k < d.size) {α : Type}
    (report : α) :
    ((this.cell k).parentChannel.map fun _ => report) = if k = 0 then none else some report := by
  have chained := wired.chained k bound
  cases channel : (this.cell k).parentChannel with
  | none => rw [if_pos (chained.mp channel), Option.map_none]
  | some parent =>
      have lower : k ≠ 0 := by
        intro isRoot
        rw [chained.mpr isRoot] at channel
        cases channel
      rw [if_neg lower, Option.map_some]

/-- An update that a coordinator passes on is about the same member, and no departure. -/
theorem passes_updateInfo {toParent : Option MeshUpdateInfo} {info : MeshUpdateInfo} {i : Nat}
    (up : toParent = if i = 0 then none else some info) (about : info.pid = m) :
    ∀ report ∈ toParent.map Report.updateInfo, report.pid = m ∧
      ∀ packet, report = .leaveMesh packet → d.parent k = 0 := by
  intro report sent
  rcases Option.map_eq_some_iff.mp sent with ⟨sentInfo, passed, rfl⟩
  rw [up] at passed
  split at passed
  · cases passed
  · cases passed
    constructor
    · exact about
    · intro packet impossible
      cases impossible

/-- An identifier is listed until the departure. -/
theorem exists_of_leads {value : Option UUID} {reports : List Report} {iid : UUID}
    (leads : Leads (d.Acts m) value reports (some iid)) : ∃ listed, value = some listed := by
  cases value with
  | some listed => exact ⟨listed, rfl⟩
  | none =>
      cases leads with
      | next act rest => cases act

/-- The coordinator of a member handles its next update. -/
theorem Coherent.arrives (coherent : this.Coherent d) (pid : UUID) :
    ∃ next, this.step d (.arrives pid) = .ok next ∧ next.Coherent d := by
  cases waiting : this.client pid with
  | nil => exact ⟨this, by simp only [step, waiting]; rfl, coherent⟩
  | cons info rest =>
      have member : pid ∈ d.members := by
        by_contra stranger
        rw [coherent.strangers pid stranger] at waiting
        cases waiting
      rcases coherent.tracks pid member with ⟨copy, tracks⟩
      have copies := tracks.copies
      rw [waiting, List.map_cons] at copies
      rcases copies.arrive d.parent_lt with ⟨value, acts, later⟩
      have bound := d.bound pid member
      have onChain : d.OnChain pid (d.site pid).coordinator := .here
      rcases Deployment.exists_handleUpdateInfo (coherent.orderly _ bound)
        (tracks.shows _ onChain) acts with ⟨handled, done, handles, shows, up⟩
      rw [coherent.parentChannel_map bound] at up
      refine ⟨(this.setClient pid rest).handled (d.site pid).coordinator handled.tree
        (handled.toParent.map .updateInfo), ?_, ?_⟩
      · simp only [step, waiting, done]
        rfl
      · apply Coherent.of_handled (coherent.toWired.setClient member rest) member _ onChain handles _
          tracks.shows shows
        · have left : (this.setClient pid rest).client pid = rest := Function.update_self _ _ _
          rw [left]
          apply later
          · intro positive
            rw [up, if_neg (Nat.ne_of_gt positive), Option.map_some]
            exact about_handled_self _ _ acts.pid
          · intro i _ other
            exact about_handled_of_ne _ i _ _ pid other
        · intro other isMember apart
          rcases coherent.tracks other isMember with ⟨copyOther, tracksOther⟩
          refine ⟨copyOther, tracksOther.congr (fun _ _ => rfl) (fun _ => rfl) ?_ rfl⟩
          exact Function.update_of_ne apart _ _
        · exact passes_updateInfo up acts.pid

/-- What the others are shown does not change with the first report about a member. -/
theorem Coherent.tracks_setLink (coherent : this.Coherent d) {report : Report}
    {rest : List Report} (head : this.link k = report :: rest) {other : UUID}
    (member : other ∈ d.members) (apart : other ≠ report.pid) :
    ∃ copy, Tracks d (this.setLink k rest) other copy := by
  rcases coherent.tracks other member with ⟨copy, tracks⟩
  refine ⟨copy, tracks.congr (fun _ _ => rfl) ?_ rfl rfl⟩
  exact about_of_head_apart head (Ne.symm apart)

/-- The parent of a coordinator handles its first report.  What it does changes its copy, and
the copies account for the report where every parent but the root passes it on. -/
theorem Coherent.of_delivered (coherent : this.Coherent d) (positive : 0 < k)
    {report : Report} {rest : List Report} (head : this.link k = report :: rest) :
    ∃ before value, d.Shows report.pid (this.tree (d.parent k)) before ∧
      d.Acts report.pid before report value ∧
        ∀ (tree : CellTree) (toParent : Option Report),
          d.Handles report.pid (this.tree (d.parent k)) tree → d.Shows report.pid tree value →
          (∀ sent ∈ toParent, sent.pid = report.pid ∧
            ∀ packet, sent = .leaveMesh packet → d.parent (d.parent k) = 0) →
          (0 < d.parent k → toParent = some report) →
            ((this.setLink k rest).handled (d.parent k) tree toParent).Coherent d := by
  have routed := coherent.routed k report (head ▸ List.mem_cons_self)
  have member : report.pid ∈ d.members := routed.1
  have onChain : d.OnChain report.pid (d.parent k) := Above.parent_above positive routed.2
  have lower : k ≠ d.parent k := Nat.ne_of_gt (d.parent_lt k positive)
  rcases coherent.tracks report.pid member with ⟨copy, tracks⟩
  rcases tracks.copies.deliver d.parent_lt positive routed.2 (about_of_head head) with
    ⟨value, acts, later⟩
  refine ⟨copy (d.parent k), value, tracks.shows _ onChain, acts, ?_⟩
  intro tree toParent handles shows passed sent
  apply Coherent.of_handled (coherent.toWired.setLink head) member _ onChain handles passed
    tracks.shows shows
  · apply later
    · exact about_handled_of_ne _ k _ _ _ lower
    · intro positiveAbove
      have kept := @about_setLink_of_ne this k (d.parent k) report.pid (Ne.symm lower) rest
      rw [sent positiveAbove]
      exact (about_handled_self _ _ rfl).trans (congrArg (· ++ [_]) kept)
    · intro i _ other notParent
      rw [about_handled_of_ne _ i _ _ _ notParent, about_setLink_of_ne k i _ other]
  · intro other isMember apart
    exact coherent.tracks_setLink head isMember apart

/-- The parent of a coordinator handles an update. -/
theorem Coherent.delivers_updateInfo (coherent : this.Coherent d) (positive : 0 < k)
    (bound : k < d.size) {info : MeshUpdateInfo} {rest : List Report}
    (head : this.link k = .updateInfo info :: rest) :
    ∃ next, this.step d (.delivers k) = .ok next ∧ next.Coherent d := by
  rcases coherent.of_delivered positive head with ⟨before, value, shown, acts, account⟩
  have above := Nat.lt_trans (d.parent_lt k positive) bound
  rcases Deployment.exists_handleUpdateInfo (coherent.orderly _ above) shown acts with
    ⟨handled, done, handles, shows, up⟩
  rw [coherent.parentChannel_map above] at up
  refine ⟨(this.setLink k rest).handled (d.parent k) handled.tree
    (handled.toParent.map .updateInfo), ?_, ?_⟩
  · simp only [step, positive, bound, and_self, if_true, head, done]
    rfl
  · apply account _ _ handles shows (passes_updateInfo up acts.pid)
    intro positiveAbove
    rw [up, if_neg (Nat.ne_of_gt positiveAbove), Option.map_some]

/-- The root handles a departure, which ends there. -/
theorem Coherent.delivers_leaveMesh (coherent : this.Coherent d) (positive : 0 < k)
    (bound : k < d.size) {packet : LeaveMeshPacket} {rest : List Report}
    (head : this.link k = .leaveMesh packet :: rest)
    (spares : d.Spares (this.tree (d.parent k)) packet.uuid packet.cellID) :
    ∃ next, this.step d (.delivers k) = .ok next ∧ next.Coherent d := by
  have isRoot : d.parent k = 0 := coherent.departures k packet (head ▸ List.mem_cons_self)
  rcases coherent.of_delivered positive head with ⟨before, value, -, acts, account⟩
  have above := Nat.lt_trans (d.parent_lt k positive) bound
  cases acts with
  | left named placed =>
      change packet.cellID = (d.site packet.uuid).fid at placed
      rw [placed] at spares
      rcases Deployment.exists_departure (coherent.orderly _ above) spares with
        ⟨out, done, handles, gone⟩
      refine ⟨(this.setLink k rest).handled (d.parent k) out.1 none, ?_, ?_⟩
      · have handled : (this.cell (d.parent k)).handleLeaveMesh packet =
            .ok
              { tree := out.1
                accepted := out.2
                toParent := none
                toGroup := { packet with header := (this.cell (d.parent k)).header } } := by
          rw [Cell.handleLeaveMesh, placed, done]
          simp only [coherent.parentChannel_map above, if_pos isRoot]
          rfl
        simp only [step, positive, bound, and_self, if_true, head, handled]
        rfl
      · apply account out.1 none handles gone
        · intro report impossible
          cases impossible
        · intro positiveAbove
          rw [isRoot] at positiveAbove
          exact absurd positiveAbove (Nat.lt_irrefl 0)

/-- What a coordinator reports of a member that has left. -/
theorem leaveMesh_of_leave {cell : Cell} {pid : UUID} {cellID : CellID} {left : CellTree × Bool}
    (done : cell.cellTree.leave pid cellID = .ok left) :
    cell.leaveMesh pid cellID =
      .ok
        { tree := left.1
          accepted := left.2
          toParent := cell.parentChannel.map fun _ =>
            { header := cell.header, uuid := pid, cellID := cellID }
          toGroup := { header := cell.header, uuid := pid, cellID := cellID } } := by
  rw [Cell.leaveMesh, done]
  rfl

/-- The others are shown as before when the channel of a member closes. -/
theorem Coherent.tracks_disconnect (coherent : this.Coherent d) {pid other : UUID}
    (member : other ∈ d.members) (apart : other ≠ pid) :
    ∃ copy, Tracks d (this.disconnect pid) other copy := by
  rcases coherent.tracks other member with ⟨copy, tracks⟩
  refine ⟨copy, tracks.congr (fun _ _ => rfl) (fun _ => rfl) ?_ ?_⟩
  · exact Function.update_of_ne apart _ _
  · have connected : (this.disconnect pid).connected other = this.connected other :=
      Function.update_of_ne apart _ _
    rw [GroupNet.source, connected]
    rfl

/-- A departure that a coordinator reports is that of its member, and ends at the root. -/
theorem passes_leaveMesh {packet : LeaveMeshPacket} {i : Nat} (near : i = 0 ∨ d.parent i = 0) :
    ∀ report ∈ (if i = 0 then none else some packet).map Report.leaveMesh,
      report.pid = packet.uuid ∧ ∀ other, report = .leaveMesh other → d.parent i = 0 := by
  intro report sent
  rcases Option.map_eq_some_iff.mp sent with ⟨reported, passed, rfl⟩
  split at passed
  · cases passed
  · rename_i lower
    cases passed
    exact ⟨rfl, fun _ _ => near.resolve_left lower⟩

/-- The coordinator of a failed member sees that its channel has closed. -/
theorem Coherent.closes (coherent : this.Coherent d) {pid : UUID}
    (departs : pid ∈ this.failed ∧ this.connected pid = true)
    (near : (d.site pid).coordinator = 0 ∨ d.parent (d.site pid).coordinator = 0)
    (spares : d.Spares (this.tree (d.site pid).coordinator) pid (d.site pid).fid) :
    ∃ next, this.step d (.closes pid) = .ok next ∧ next.Coherent d := by
  have member := coherent.failed pid departs.1
  have bound := d.bound pid member
  have onChain : d.OnChain pid (d.site pid).coordinator := .here
  rcases coherent.tracks pid member with ⟨copy, tracks⟩
  rcases Deployment.exists_departure (coherent.orderly _ bound) spares with
    ⟨out, done, handles, gone⟩
  have copies := tracks.copies
  have home := copies.home
  rw [source, if_pos departs.2] at home
  rcases exists_of_leads home with ⟨listed, listing⟩
  have shows : d.Shows pid out.1 none := gone
  have left := leaveMesh_of_leave done
  rw [coherent.parentChannel_map bound] at left
  generalize (this.cell (d.site pid).coordinator).header = from_ at left
  have acts : d.Acts pid (copy (d.site pid).coordinator)
      (.leaveMesh { header := from_, uuid := pid, cellID := (d.site pid).fid }) none := by
    rw [listing]
    exact .left rfl rfl
  refine ⟨(this.disconnect pid).handled (d.site pid).coordinator out.1
    ((if (d.site pid).coordinator = 0 then none else
      some { header := from_, uuid := pid, cellID := (d.site pid).fid }).map .leaveMesh), ?_, ?_⟩
  · simp only [step, departs, and_self, if_true, left]
    rfl
  · have source : (this.disconnect pid).source d pid = none := by
      have closed : (this.disconnect pid).connected pid = false := Function.update_self _ _ _
      rw [GroupNet.source, closed]
      rfl
    have client : (this.disconnect pid).client pid = [] := Function.update_self _ _ _
    apply Coherent.of_handled (coherent.toWired.disconnect departs.1) member
      (fun other isMember apart => coherent.tracks_disconnect isMember apart) onChain handles
      (passes_leaveMesh near) tracks.shows shows
    rw [source, client, List.map_nil]
    apply copies.enter d.parent_lt acts
    · intro positive
      rw [if_neg (Nat.ne_of_gt positive), Option.map_some]
      exact about_handled_self _ _ rfl
    · intro i _ other
      exact about_handled_of_ne _ i _ _ pid other

end GroupNet

end Stheno.FT
