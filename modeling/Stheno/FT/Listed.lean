import Mathlib.Data.Option.Basic
import Stheno.FT.Identity

/-!
# The primary is found under the identifier of the group

A run keeps the account of what the trees show.  In its quiet states every open member
has the same view of the group.  The first of the view has the primary's role, and its
instance is the only one under the identifier of the group on its chain.
-/

namespace Stheno.FT

open Peer Superpeer P3ReplicationGroup

namespace GroupNet

variable {d : Deployment} {this next : GroupNet} {m : UUID} {k : Nat}

/-! ## The start of a group -/

theorem Formed.current (formed : this.Formed d) (member : m ∈ d.members) :
    d.current m (this.group m) = (d.site m).iid := by
  have views : (this.group m).view = d.founder :: d.replicas := formed.view m member
  unfold Deployment.current
  split
  · rename_i primary
    have first : m = d.founder := by
      rw [isThisPeerPrimary_iff_head?, views, formed.self m member] at primary
      exact (Option.some.inj primary).symm
    rw [first, d.founding]
  · rfl

theorem Formed.coherent (formed : this.Formed d) : this.Coherent d where
  chained := formed.chained
  orderly := formed.orderly
  routed := by
    intro i report inLink
    rw [formed.idle] at inLink
    cases inLink
  departures := by
    intro i packet inLink
    rw [formed.idle] at inLink
    cases inLink
  only := by
    intro i bound listing listed
    rcases formed.only i bound listing listed with ⟨host, placed, onChain⟩
    rw [host]
    exact ⟨List.mem_cons_self, placed, onChain⟩
  role := by
    intro m member
    have names := formed.runs m member
    rw [← formed.current member] at names
    exact
      { valid := formed.valid m member
        self := formed.self m member
        sid := (formed.service m member).1
        iid := (formed.service m member).2.1
        groupUUID := (formed.service m member).2.2
        view := by
          rw [formed.heard m member, formed.view m member, without]
          simp
        stays := by
          rw [formed.heard m member]
          exact List.not_mem_nil
        names }
  connected := fun m member _ => formed.connected m member
  failed := by
    rw [formed.failed]
    intro m impossible
    cases impossible
  heard := by
    intro m member uuid inHeard
    rw [formed.heard m member] at inHeard
    cases inHeard
  strangers := fun m _ => formed.silent m
  tracks := by
    intro m member
    refine ⟨fun _ => some (d.site m).iid, formed.announced m member, ?_⟩
    rw [formed.silent m, List.map_nil, source, if_pos (formed.connected m member),
      formed.current member]
    constructor
    · intro i _ _
      rw [about, formed.idle, List.filter_nil]
      exact .done _
    · exact .done _

/-! ## The events of the members -/

/-- The process of a member ends. -/
theorem Coherent.fails (coherent : this.Coherent d) (pid : UUID) :
    ∃ next, this.step d (.fails pid) = .ok next ∧ next.Coherent d := by
  by_cases ends : pid ∈ d.members ∧ pid ∉ this.failed
  · refine ⟨{ this with failed := this.failed ++ [pid] }, ?_, ?_⟩
    · simp only [step, if_pos ends]
      rfl
    · exact
        { chained := coherent.chained
          orderly := coherent.orderly
          routed := coherent.routed
          departures := coherent.departures
          only := coherent.only
          role := coherent.role
          connected := by
            intro m member runs
            exact coherent.connected m member fun before => runs (List.mem_append_left _ before)
          failed := by
            intro m gone
            rcases List.mem_append.mp gone with before | now
            · exact coherent.failed m before
            · rw [List.mem_singleton.mp now]
              exact ends.1
          heard := fun m member uuid inHeard =>
            List.mem_append_left _ (coherent.heard m member uuid inHeard)
          strangers := coherent.strangers
          tracks := by
            intro m member
            rcases coherent.tracks m member with ⟨copy, tracks⟩
            exact ⟨copy, tracks.congr (fun _ _ => rfl) (fun _ => rfl) rfl rfl⟩ }
  · refine ⟨this, ?_, coherent⟩
    simp only [step, if_neg ends]
    rfl

/-- The group once a member has processed a closure, with what its calls left. -/
def afterClosure (d : Deployment) (this : GroupNet) (pid uuid : UUID) (changed : Bool)
    (obeyed : SthenoCore × List ServiceUpdate) : GroupNet :=
  { this.setClient pid (this.client pid ++ obeyed.2.map (d.update pid)) with
    runtime := Function.update this.runtime pid obeyed.1
    group := Function.update this.group pid ((this.group pid).onPeerClosure uuid changed)
    heard := Function.update this.heard pid (this.heard pid ++ [uuid]) }

/-- What a member announces when it takes the role over is issued to its directories. -/
theorem Coherent.tracks_afterClosure (coherent : this.Coherent d) {pid uuid : UUID}
    (member : pid ∈ d.members) (runs : pid ∉ this.failed) {changed : Bool}
    {obeyed : SthenoCore × List ServiceUpdate}
    (effect : (obeyed.2 = [] ∧ d.current pid ((this.group pid).onPeerClosure uuid changed) =
        d.current pid (this.group pid)) ∨
      (obeyed.2 = [.updateIID d.sid (d.site pid).iid d.groupUUID] ∧
        d.current pid (this.group pid) = (d.site pid).iid ∧
        d.current pid ((this.group pid).onPeerClosure uuid changed) = d.groupUUID ∧
        (d.site pid).iid ≠ d.groupUUID)) {m : UUID} (isMember : m ∈ d.members) :
    ∃ copy, Tracks d (afterClosure d this pid uuid changed obeyed) m copy := by
  rcases coherent.tracks m isMember with ⟨copy, tracks⟩
  refine ⟨copy, tracks.shows, ?_⟩
  have copies := tracks.copies
  by_cases same : m = pid
  · subst same
    have isOpen := coherent.connected m member runs
    have client : (afterClosure d this m uuid changed obeyed).client m =
        this.client m ++ obeyed.2.map (d.update m) := Function.update_self _ _ _
    have source : (afterClosure d this m uuid changed obeyed).source d m =
        some (d.current m ((this.group m).onPeerClosure uuid changed)) := by
      have role : (afterClosure d this m uuid changed obeyed).group m =
          (this.group m).onPeerClosure uuid changed := Function.update_self _ _ _
      rw [GroupNet.source, role, if_pos]
      exact isOpen
    rw [GroupNet.source, if_pos isOpen] at copies
    rw [client, source]
    rcases effect with ⟨silent, kept⟩ | ⟨renamed, before, now, generated⟩
    · simp only [silent, List.map_nil, List.append_nil]
      rw [kept]
      exact copies
    · rw [before] at copies
      simp only [renamed, List.map_append]
      rw [now]
      exact copies.issue (.changed generated)
  · have client : (afterClosure d this pid uuid changed obeyed).client m = this.client m :=
      Function.update_of_ne same _ _
    have source : (afterClosure d this pid uuid changed obeyed).source d m = this.source d m := by
      simp only [GroupNet.source, afterClosure, Function.update_of_ne same]
      rfl
    rw [client, source]
    exact copies

/-- A member hears of the closure of another one. -/
theorem Coherent.noticed (coherent : this.Coherent d) (pid uuid : UUID) (changed : Bool) :
    ∃ next, this.step d (.noticed pid uuid changed) = .ok next ∧ next.Coherent d := by
  by_cases hears : pid ∈ d.members ∧ pid ∉ this.failed ∧ uuid ∈ this.failed
  · have ⟨member, runs, gone⟩ := hears
    have other : pid ≠ uuid := fun same => runs (same ▸ gone)
    rcases (coherent.role pid member).noticed member other changed with
      ⟨obeyed, done, role, effect⟩
    have wired := coherent.toWired.setClient member
      (this.client pid ++ obeyed.2.map (d.update pid))
    refine ⟨afterClosure d this pid uuid changed obeyed, ?_, ?_⟩
    · simp only [step, if_pos hears, onPeerClosure, done]
      rfl
    · exact
        { chained := wired.chained
          orderly := wired.orderly
          routed := wired.routed
          departures := wired.departures
          only := wired.only
          connected := wired.connected
          failed := wired.failed
          strangers := wired.strangers
          role := by
            intro m isMember
            by_cases same : m = pid
            · subst same
              simp only [afterClosure, Function.update_self]
              exact role
            · simp only [afterClosure, Function.update_of_ne same]
              exact coherent.role m isMember
          heard := by
            intro m isMember closed inHeard
            by_cases same : m = pid
            · subst same
              simp only [afterClosure, Function.update_self] at inHeard
              rcases List.mem_append.mp inHeard with before | now
              · exact coherent.heard m isMember closed before
              · rw [List.mem_singleton.mp now]
                exact gone
            · simp only [afterClosure, Function.update_of_ne same] at inHeard
              exact coherent.heard m isMember closed inHeard
          tracks := fun m isMember => coherent.tracks_afterClosure member runs effect isMember }
  · refine ⟨this, ?_, coherent⟩
    simp only [step, if_neg hears]
    rfl

/-- An event that suits the group leads to a coherent state. -/
theorem Coherent.exists_step (coherent : this.Coherent d) {event : GroupEvent}
    (suits : this.Suits d event) : ∃ next, this.step d event = .ok next ∧ next.Coherent d := by
  cases event with
  | fails pid => exact coherent.fails pid
  | closes pid =>
      by_cases departs : pid ∈ this.failed ∧ this.connected pid = true
      · rcases suits departs with ⟨near, spares⟩
        exact coherent.closes departs near spares
      · refine ⟨this, ?_, coherent⟩
        simp only [step, if_neg departs]
        rfl
  | noticed pid uuid changed => exact coherent.noticed pid uuid changed
  | arrives pid => exact coherent.arrives pid
  | delivers k =>
      by_cases below : 0 < k ∧ k < d.size
      · cases head : this.link k with
        | nil =>
            refine ⟨this, ?_, coherent⟩
            simp only [step, if_pos below, head]
            rfl
        | cons report rest =>
            cases report with
            | leaveMesh packet =>
                apply coherent.delivers_leaveMesh below.1 below.2 head
                apply suits
                rw [head]
                rfl
            | updateInfo info => exact coherent.delivers_updateInfo below.1 below.2 head
      · refine ⟨this, ?_, coherent⟩
        simp only [step, if_neg below]
        rfl

/-- Other activity of a coordinator. -/
theorem Coherent.other (coherent : this.Coherent d) {tree : CellTree}
    (untouched : Untouched d (this.tree k) tree) : (this.handled k tree none).Coherent d where
  chained := by
    intro i bound
    rw [parentChannel_handled]
    exact coherent.chained i bound
  orderly := by
    intro i bound
    rw [tree_handled]
    split
    · exact untouched.orderly
    · exact coherent.orderly i bound
  routed := by
    intro i report inLink
    rw [link_handled, Option.toList_none, List.append_nil] at inLink
    split at inLink
    · rename_i here
      rw [here]
      exact coherent.routed k report inLink
    · exact coherent.routed i report inLink
  departures := by
    intro i packet inLink
    rw [link_handled, Option.toList_none, List.append_nil] at inLink
    split at inLink
    · rename_i here
      rw [here]
      exact coherent.departures k packet inLink
    · exact coherent.departures i packet inLink
  only := by
    intro i bound listing listed
    rw [tree_handled] at listed
    split at listed
    · rename_i here
      rw [here] at bound ⊢
      exact coherent.only k bound listing (untouched.listings listed)
    · exact coherent.only i bound listing listed
  role := coherent.role
  connected := coherent.connected
  failed := coherent.failed
  heard := coherent.heard
  strangers := coherent.strangers
  tracks := by
    intro m member
    rcases coherent.tracks m member with ⟨copy, tracks⟩
    have services : ∀ i, d.OnChain m i → ((this.handled k tree none).tree i).services
        (d.site m).fid m = (this.tree i).services (d.site m).fid m := by
      intro i _
      rw [tree_handled]
      split
      · rename_i here
        rw [here]
        exact untouched.members m member
      · rfl
    have about : ∀ i, (this.handled k tree none).about m i = this.about m i := by
      intro i
      apply about_handled_apart
      intro report impossible
      cases impossible
    exact ⟨copy, tracks.congr services about rfl rfl⟩

theorem Coherent.goes (coherent : this.Coherent d) (goes : Next d this next) :
    next.Coherent d := by
  cases goes with
  | event event suits done =>
      rcases coherent.exists_step suits with ⟨reached, stepped, after⟩
      have same : next = reached := Except.ok.inj (done.symm.trans stepped)
      rw [same]
      exact after
  | other _ untouched => exact coherent.other untouched

theorem Coherent.run {start : GroupNet} (coherent : start.Coherent d)
    (run : Relation.ReflTransGen (Next d) start this) : this.Coherent d := by
  induction run with
  | refl => exact coherent
  | tail _ goes inductionHypothesis => exact inductionHypothesis.goes goes

/-! ## Quiet states -/

/-- What has been processed everywhere is in the view of every open member. -/
theorem Quiet.view (quiet : this.Quiet d) (coherent : this.Coherent d) (member : m ∈ d.members)
    (runs : m ∉ this.failed) : (this.group m).view = without d.members this.failed := by
  rw [(coherent.role m member).view, without, without]
  apply List.filter_congr
  intro uuid _
  rw [decide_eq_decide, not_iff_not]
  exact ⟨coherent.heard m member uuid, quiet.noticed m member runs uuid⟩

/-- The trees on the chain of a member show what the member has told the mesh. -/
theorem Quiet.shows (quiet : this.Quiet d) (coherent : this.Coherent d) (member : m ∈ d.members)
    {i : Nat} (onChain : d.OnChain m i) : d.Shows m (this.tree i) (this.source d m) := by
  rcases coherent.tracks m member with ⟨copy, tracks⟩
  have copies := tracks.copies
  rw [quiet.client m member, List.map_nil] at copies
  have idle : ∀ j, 0 < j → Above d.parent j (d.site m).coordinator → this.about m j = [] := by
    intro j _ above
    have bound := Nat.lt_of_le_of_lt (above.le d.parent_lt) (d.bound m member)
    rw [about, quiet.link j bound, List.filter_nil]
  rw [← copies.eq_source idle onChain]
  exact tracks.shows i onChain

/-- The first open member is the one that the directories and its runtime show under the
identifier of the group. -/
theorem Quiet.identifies (quiet : this.Quiet d) (coherent : this.Coherent d)
    (first : (without d.members this.failed).head? = some m) : this.Identifies d m := by
  have among : m ∈ without d.members this.failed := List.mem_of_head? first
  rcases List.mem_filter.mp among with ⟨member, stays⟩
  have runs : m ∉ this.failed := of_decide_eq_true stays
  have primary : ∀ other ∈ d.members, other ∉ this.failed →
      ((this.group other).isThisPeerPrimary = true ↔ other = m) := by
    intro other isMember opens
    rw [isThisPeerPrimary_iff_head?, quiet.view coherent isMember opens, first,
      (coherent.role other isMember).self, Option.some_inj, eq_comm]
  have current : d.current m (this.group m) = d.groupUUID :=
    if_pos ((primary m member runs).mpr rfl)
  have names := (coherent.role m member).names
  rw [current] at names
  constructor
  · intro i onChain
    have bound : i < d.size := Nat.lt_of_le_of_lt (onChain.le d.parent_lt) (d.bound m member)
    have orderly := coherent.orderly i bound
    have shows := quiet.shows coherent member onChain
    rw [source, if_pos (coherent.connected m member runs), current] at shows
    rcases shows with ⟨map, held, lists⟩
    apply orderly.listings_eq
    · exact orderly.mem_listings_iff.mpr ⟨map, held, lists.found⟩
    · intro other listed
      rcases coherent.only i bound other listed with ⟨isMember, placed, above⟩
      by_cases same : other.pid = m
      · rw [placed, same]
        exact ⟨rfl, rfl⟩
      · -- another member shows no instance under the identifier of the group
        exfalso
        rcases orderly.mem_listings_iff.mp listed with ⟨otherMap, otherHeld, found⟩
        have otherShows := quiet.shows coherent isMember above
        by_cases opens : other.pid ∈ this.failed
        · rw [source, quiet.departed other.pid opens] at otherShows
          rw [placed, show (this.tree i).services _ _ = none from otherShows] at otherHeld
          cases otherHeld
        · have waits : (this.group other.pid).isThisPeerPrimary ≠ true :=
            fun role => same ((primary other.pid isMember opens).mp role)
          have generated := (coherent.role other.pid isMember).generated isMember waits
          have keeps : d.current other.pid (this.group other.pid) = (d.site other.pid).iid :=
            if_neg waits
          rw [source, if_pos (coherent.connected other.pid isMember opens), keeps] at otherShows
          rcases otherShows with ⟨ownMap, ownHeld, own⟩
          have sameMap : otherMap = ownMap := by
            rw [placed, ownHeld] at otherHeld
            exact (Option.some.inj otherHeld).symm
          rw [sameMap, own.free generated] at found
          cases found
  · exact names.found
  · intro apart
    exact names.only _ List.mem_cons_self apart

/-- In every run whose departures reach all coordinators of the chain and take no other
member along, no step fails.  Once everything has been processed, all open members agree
on a primary, which is open, and the identifier of the group stands for its instance. -/
theorem identifies_run {d : Deployment} {start this : GroupNet} (formed : start.Formed d)
    (run : Relation.ReflTransGen (Next d) start this) :
    (∀ event, this.Suits d event → ∃ next, this.step d event = .ok next) ∧
      (this.Quiet d → ∀ m ∈ d.members, m ∉ this.failed →
        (this.group m).getPrimaryUUID ∈ d.members ∧ (this.group m).getPrimaryUUID ∉ this.failed ∧
          (this.group (this.group m).getPrimaryUUID).isThisPeerPrimary = true ∧
          this.Identifies d (this.group m).getPrimaryUUID) := by
  have coherent := formed.coherent.run run
  constructor
  · intro event suits
    rcases coherent.exists_step suits with ⟨next, done, -⟩
    exact ⟨next, done⟩
  · intro quiet m member runs
    have view := quiet.view coherent member runs
    have first : (without d.members this.failed).head? = some (this.group m).getPrimaryUUID := by
      rw [← view]
      rfl
    rcases List.mem_filter.mp (List.mem_of_head? first) with ⟨isMember, stays⟩
    have opens : (this.group m).getPrimaryUUID ∉ this.failed := of_decide_eq_true stays
    refine ⟨isMember, opens, ?_, quiet.identifies coherent first⟩
    rw [isThisPeerPrimary_iff_head?, quiet.view coherent isMember opens, first,
      (coherent.role _ isMember).self]

/-! ## A founder and a replica in the cell of the last coordinator of a row -/

section Row

theorem row_parent_lt (k : Nat) (positive : 0 < k) : k - 1 < k :=
  Nat.sub_lt positive Nat.one_pos

/-- The coordinators 0 to `last` in a row, with the members 20 and 21 in the cell of the
last one.  The group is 9, and 8 is the identifier that the replica generated. -/
def rowDeployment (last : Nat) : Deployment where
  size := last + 1
  parent := fun k => k - 1
  parent_lt := row_parent_lt
  sid := ⟨[7]⟩
  groupUUID := ⟨[9]⟩
  founder := ⟨[20]⟩
  replicas := [⟨[21]⟩]
  site := fun m =>
    { coordinator := last
      fid := ⟨[UInt8.ofNat last]⟩
      iid := if m = ⟨[20]⟩ then ⟨[9]⟩ else ⟨[8]⟩
      sap := some { endpointList := [⟨0, Wire.CString.empty, 1, ⟨0, 0⟩⟩], distinct := List.nodup_singleton _ } }
  distinct := by decide
  bound := fun _ _ => Nat.lt_succ_self last
  founding := rfl
  generated := by
    intro m replica
    rw [List.mem_singleton.mp replica]
    have own : (if (⟨[21]⟩ : UUID) = ⟨[20]⟩ then ⟨[9]⟩ else ⟨[8]⟩ : UUID) ≠ ⟨[9]⟩ := by decide
    exact own

/-- The services of a member. -/
def rowServices (last : Nat) (m : UUID) : ServiceMap where
  services := Table.empty.bind ⟨[7]⟩
    { sid := ⟨[7]⟩
      runningServices := Table.empty.bind ((rowDeployment last).site m).iid
        ((rowDeployment last).info m ((rowDeployment last).site m).iid)
      keyed := Table.keyed_bind Table.keyed_empty rfl }
  keyed := Table.keyed_bind Table.keyed_empty rfl

def rowPeer (pid : UUID) (k : Nat) (services : ServiceMap) : P3PeerInfo :=
  { P3PeerInfo.announced P3PeerInfo.SUPERPEER pid ⟨[UInt8.ofNat k]⟩ none none none none with
    services := services.services
    keyed := services.keyed }

/-- The peers in the tree of a coordinator: itself, the coordinators below it, and the
members. -/
def rowPeers (last k : Nat) : List P3PeerInfo :=
  ((List.range' k (last + 1 - k)).map fun j => rowPeer ⟨[UInt8.ofNat (10 + j)]⟩ j .empty) ++
    [⟨[20]⟩, ⟨[21]⟩].map fun m => rowPeer m last (rowServices last m)

/-- Cells of at most three superpeers. -/
def threeEach : P3Configuration :=
  { defaults with CELL_SPS := fun _ => some 3 }

/-- A peer joins its cell, below the cell before it in the row. -/
def rowJoin (tree : CellTree) (peer : P3PeerInfo) : CellTree :=
  match tree.join threeEach peer (some ⟨peer.fid.key.map (· - 1)⟩) with
  | .ok out => out.1
  | .error _ => tree

def rowTree (last k : Nat) : CellTree :=
  (rowPeers last k).foldl rowJoin (CellTree.new threeEach ⟨[UInt8.ofNat k]⟩)

theorem repInv_rowTree (last k : Nat) : RepInv (rowTree last k) := by
  apply List.foldlRecOn
  · exact RepInv.new threeEach _
  · intro tree inv peer _
    unfold rowJoin
    split
    · rename_i done
      exact inv.join done
    · exact inv

def rowRuntime (last : Nat) (m : UUID) : SthenoCore where
  running := true
  serviceMap := Table.empty.bind ⟨[7]⟩
    { sid := ⟨[7]⟩
      runningServices := Table.empty.bind ((rowDeployment last).site m).iid
        { sid := ⟨[7]⟩
          iid := ((rowDeployment last).site m).iid
          sap := ((rowDeployment last).site m).sap }
      keyed := Table.keyed_bind Table.keyed_empty rfl }

def rowGroup (last : Nat) : GroupNet where
  cell := fun k =>
    { pid := ⟨[UInt8.ofNat (10 + k)]⟩
      cellID := ⟨[UInt8.ofNat k]⟩
      cellTree := rowTree last k
      parentChannel :=
        if k = 0 then none
        else some { uuid := ⟨[UInt8.ofNat (10 + (k - 1))]⟩, cellID := ⟨[UInt8.ofNat (k - 1)]⟩ } }
  link := fun _ => []
  connected := fun _ => true
  client := fun _ => []
  runtime := rowRuntime last
  group := fun m =>
    { runtimeUUID := m
      groupUUID := ⟨[9]⟩
      sid := ⟨[7]⟩
      iid := ((rowDeployment last).site m).iid
      primary := decide (m = ⟨[20]⟩)
      primaryPeer :=
        { uuid := ⟨[20]⟩, fid := ⟨[UInt8.ofNat last]⟩, meshSAP := none, ftSAP := none, ftDataSAP := none }
      replicas :=
        [{ uuid := ⟨[21]⟩, fid := ⟨[UInt8.ofNat last]⟩, meshSAP := none, ftSAP := none, ftDataSAP := none }]
      closed := false
      calls := [] }
  failed := []
  heard := fun _ => []

/-- What is left to check of a row. -/
def RowChecks (last : Nat) : Prop :=
  (∀ k < last + 1, (rowTree last k).cellIDs.Nodup ∧ (rowTree last k).entries.Nodup) ∧
    (∀ m ∈ (rowDeployment last).members, ∀ k < last + 1,
      (rowDeployment last).Lists m ((rowDeployment last).site m).iid (rowTree last k)) ∧
    (∀ k < last + 1, ∀ listing ∈ (rowTree last k).listings ⟨[7]⟩ ⟨[9]⟩,
      listing.pid = ⟨[20]⟩ ∧ listing.fid = ⟨[UInt8.ofNat last]⟩) ∧
    ∀ m ∈ (rowDeployment last).members, (rowDeployment last).Names m
      ((rowDeployment last).site m).iid ((rowRuntime last m).getInstancesOfServiceInfo ⟨[7]⟩)

instance (last : Nat) : Decidable (RowChecks last) := by
  unfold RowChecks
  infer_instance

theorem onChain_rowDeployment {last k : Nat} (bound : k < last + 1) (m : UUID) :
    (rowDeployment last).OnChain m k := by
  have above : ∀ j, k ≤ j → Above (rowDeployment last).parent k j := by
    intro j higher
    induction j, higher using Nat.le_induction with
    | base => exact .here
    | succ j _ inductionHypothesis => exact .parent (Nat.succ_pos j) inductionHypothesis
  exact above last (Nat.le_of_lt_succ bound)

theorem formed_rowGroup {last : Nat} (checks : RowChecks last) :
    (rowGroup last).Formed (rowDeployment last) where
  chained := by
    intro k _
    simp [rowGroup]
  orderly := fun k bound => ⟨repInv_rowTree last k, (checks.1 k bound).1, (checks.1 k bound).2⟩
  announced := by
    intro m member k onChain
    apply checks.2.1 m member k
    exact Nat.lt_succ_of_le (Above.le (rowDeployment last).parent_lt onChain)
  only := by
    intro k bound listing listed
    have founder := checks.2.2.1 k bound listing listed
    exact ⟨founder.1, founder.2, onChain_rowDeployment bound _⟩
  idle := fun _ => rfl
  connected := fun _ _ => rfl
  silent := fun _ => rfl
  valid := fun _ _ => rfl
  runs := checks.2.2.2
  self := fun _ _ => rfl
  service := fun _ _ => ⟨rfl, rfl, rfl⟩
  view := fun _ _ => rfl
  failed := rfl
  heard := fun _ _ => rfl

/-- The founder fails, and the replica hears of it before the coordinator does. -/
def rowFailover : List GroupEvent :=
  [.fails ⟨[20]⟩, .noticed ⟨[21]⟩ ⟨[20]⟩ true, .closes ⟨[20]⟩, .arrives ⟨[21]⟩]

/-- Every event suits the group in the state in which it happens. -/
def AllSuit (d : Deployment) (this : GroupNet) : List GroupEvent → Prop
  | [] => True
  | event :: events =>
      this.Suits d event ∧ ∀ next ∈ (this.step d event).toOption, AllSuit d next events

instance decidableAllSuit (d : Deployment) :
    (this : GroupNet) → (events : List GroupEvent) → Decidable (AllSuit d this events)
  | _, [] => isTrue trivial
  | state, event :: events =>
      have : ∀ next, Decidable (AllSuit d next events) := fun next => decidableAllSuit d next events
      inferInstanceAs (Decidable (state.Suits d event ∧
        ∀ next ∈ (state.step d event).toOption, AllSuit d next events))

theorem reflTransGen_of_run {d : Deployment} {start this : GroupNet} {events : List GroupEvent}
    (suit : AllSuit d start events) (done : start.run d events = .ok this) :
    Relation.ReflTransGen (Next d) start this := by
  induction events generalizing start with
  | nil =>
      cases done
      exact .refl
  | cons event events inductionHypothesis =>
      rw [run, List.foldlM_cons] at done
      rcases Result.bind_eq_ok.mp done with ⟨next, stepped, later⟩
      have onward : AllSuit d next events := by
        apply suit.2
        rw [stepped]
        rfl
      exact .head (.event event suit.1 stepped) (inductionHypothesis onward later)

/-- Next to the root, the group stands for the replica afterwards. -/
theorem identifies_run_row :
    ∃ this, (rowGroup 1).run (rowDeployment 1) (rowFailover ++ [.delivers 1, .delivers 1]) =
      .ok this ∧ this.Identifies (rowDeployment 1) ⟨[21]⟩ := by
  have checks : RowChecks 1 := by
    decide +kernel
  have suit : AllSuit (rowDeployment 1) (rowGroup 1)
      (rowFailover ++ [.delivers 1, .delivers 1]) := by
    decide +kernel
  have ends : ∃ this, (rowGroup 1).run (rowDeployment 1)
      (rowFailover ++ [.delivers 1, .delivers 1]) = .ok this ∧ this.Quiet (rowDeployment 1) ∧
        ⟨[21]⟩ ∉ this.failed ∧ (this.group ⟨[21]⟩).getPrimaryUUID = ⟨[21]⟩ := by
    decide +kernel
  rcases ends with ⟨this, done, quiet, runs, primary⟩
  have run := reflTransGen_of_run suit done
  have member : ⟨[21]⟩ ∈ (rowDeployment 1).members := by
    decide
  have found := (identifies_run (formed_rowGroup checks) run).2 quiet ⟨[21]⟩ member runs
  rw [primary] at found
  exact ⟨this, done, found.2.2.2⟩

/-- One coordinator further down, the root keeps the founder and lists two instances. -/
theorem exists_not_identifies :
    ¬∀ (d : Deployment) (start this : GroupNet) (events : List GroupEvent), start.Formed d →
      start.run d events = .ok this → this.Quiet d → ∀ m ∈ d.members, m ∉ this.failed →
        this.Identifies d (this.group m).getPrimaryUUID := by
  intro identifies
  have checks : RowChecks 2 := by
    decide +kernel
  have ends : ∃ this, (rowGroup 2).run (rowDeployment 2)
      (rowFailover ++ [.delivers 2, .delivers 2, .delivers 1, .delivers 1]) = .ok this ∧
        this.Quiet (rowDeployment 2) ∧ ⟨[21]⟩ ∉ this.failed ∧
          ((this.tree 0).listings (rowDeployment 2).sid (rowDeployment 2).groupUUID).length = 2 := by
    decide +kernel
  rcases ends with ⟨this, done, quiet, runs, twice⟩
  have member : ⟨[21]⟩ ∈ (rowDeployment 2).members := by
    decide
  have found := identifies _ _ _ _ (formed_rowGroup checks) done quiet _ member runs
  have once := found.listed 0 (onChain_rowDeployment (Nat.succ_pos 2) _)
  rw [once] at twice
  cases twice

end Row

end GroupNet

end Stheno.FT
