import Stheno.Superpeer.UpdateInfo
import Stheno.Superpeer.UpdateRoute

/-!
# The service directories of the mesh

A peer updates its own service map and sends the update on its way; every process
that it reaches makes it in its own tree.  A process that cannot make an update
dereferences a null pointer, and what is sent to it afterwards is lost.  The
directories converge exactly when all coordinators know the peer and each of its
updates fits the service map that it has at that moment.
-/

namespace Stheno.Superpeer

open Stheno.Tree Peer

/-- The processes with their trees, where `none` is a process that has ended, the
updates of one peer that they have made or that are under way, and those that the
peer has issued. -/
structure ServiceNet where
  tree : UUID → Option CellTree
  flood : Flood UUID ServiceUpdate
  issued : List ServiceUpdate

namespace ServiceNet

section

variable (route : Route)

/-- The service map that a process holds for the peer. -/
def holds (this : ServiceNet) (pid : UUID) : Option ServiceMap :=
  (this.tree pid).bind fun tree => tree.services route.fid route.pid

/-- `Cell::updateState` of the peer. -/
def updateState (this : ServiceNet) (update : ServiceUpdate) : ServiceNet :=
  match this.tree route.pid with
  | none => this
  | some tree =>
      match tree.processUpdateInfo { pid := route.pid, fid := route.fid, update } with
      | .error _ =>
          { tree := Function.update this.tree route.pid none
            flood := this.flood
            issued := this.issued ++ [update] }
      | .ok after =>
          { tree := Function.update this.tree route.pid (some after)
            flood := this.flood.handle route.pid route.outlets update
            issued := this.issued ++ [update] }

/-- `Cell::handleUpdateInfo` of a coordinator, or `handleCoordinatorUpdateInfo` of a
follower, for the oldest packet in the channel from `srcPID`. -/
def handleUpdateInfo (this : ServiceNet) (srcPID pid : UUID) : ServiceNet :=
  match this.flood.channel srcPID pid with
  | [] => this
  | update :: _ =>
      let received := this.flood.receive srcPID pid
      match this.tree pid with
      | none => { this with flood := received }
      | some tree =>
          match tree.processUpdateInfo { pid := route.pid, fid := route.fid, update } with
          | .error _ =>
              { tree := Function.update this.tree pid none
                flood := received
                issued := this.issued }
          | .ok after =>
              { tree := Function.update this.tree pid (some after)
                flood := received.handle pid (passOn route.chain srcPID pid) update
                issued := this.issued }

/-- What happens next: the peer issues an update, a packet is handled, or a process
does something else, which leaves its record of the peer's services alone. -/
inductive Step : ServiceNet → ServiceNet → Prop where
  | issue (this : ServiceNet) (update : ServiceUpdate)
      (runs : (this.tree route.pid).isSome = true) : Step this (this.updateState route update)
  | handle (this : ServiceNet) (srcPID pid : UUID) : Step this (this.handleUpdateInfo route srcPID pid)
  | other (this : ServiceNet) {pid : UUID} {tree after : CellTree}
      (runs : this.tree pid = some tree)
      (kept : after.services route.fid route.pid = tree.services route.fid route.pid) :
      Step this { this with tree := Function.update this.tree pid (some after) }

/-- Nothing has been issued, and whoever knows the peer holds the map of the peer. -/
structure Starts (map : ServiceMap) (this : ServiceNet) : Prop where
  own : this.holds route route.pid = some map
  agree : ∀ pid ∈ route.peers, ∀ held, this.holds route pid = some held → held = map
  silent : this.issued = []
  unhandled : ∀ pid, this.flood.handled pid = []
  quiet : this.flood.Quiet

/-- The coordinators on the chain, and the followers that knew the peer. -/
def Concerned (start : ServiceNet) (pid : UUID) : Prop :=
  pid ∈ route.chain.map CellLinks.coordinator ∨
    (pid ∈ route.peers ∧ (start.holds route pid).isSome = true)

/-- The peer and all concerned hold one map, after each update has been made once. -/
def Converged (start this : ServiceNet) : Prop :=
  ∃ map, this.holds route route.pid = some map ∧ ∀ pid, start.Concerned route pid →
    this.holds route pid = some map ∧ this.flood.handled pid = this.issued

end

variable {route : Route}

/-! ## One step -/

theorem holds_update (this : ServiceNet) (flood : Flood UUID ServiceUpdate)
    (issued : List ServiceUpdate) (pid other : UUID) (tree : Option CellTree) :
    holds route { tree := Function.update this.tree pid tree, flood, issued } other =
      if other = pid then tree.bind fun tree => tree.services route.fid route.pid
      else this.holds route other := by
  unfold holds
  dsimp only
  rw [Function.update_apply]
  split <;> rfl

/-- What a process does with an update depends on the map that it holds. -/
theorem process_cases {this : ServiceNet} {pid : UUID} {tree : CellTree}
    (runs : this.tree pid = some tree) (update : ServiceUpdate) :
    (∃ map updated after, this.holds route pid = some map ∧ map.update update = some updated ∧
      tree.processUpdateInfo { pid := route.pid, fid := route.fid, update } = .ok after ∧
        after.services route.fid route.pid = some updated) ∨
      ((this.holds route pid).bind (fun map => map.update update) = none ∧ ∃ fault,
        tree.processUpdateInfo { pid := route.pid, fid := route.fid, update } = .error fault) := by
  have held : this.holds route pid = tree.services route.fid route.pid := by
    rw [holds, runs, Option.bind_some]
  rw [held]
  have outcome := tree.updated_processUpdateInfo { pid := route.pid, fid := route.fid, update }
  cases done : tree.processUpdateInfo { pid := route.pid, fid := route.fid, update } with
  | error fault =>
      rw [done] at outcome
      cases outcome with
      | fault unmade => exact Or.inr ⟨unmade, _, rfl⟩
  | ok after =>
      rcases CellTree.services_of_processUpdateInfo done with ⟨map, updated, running, fits, holds⟩
      exact Or.inl ⟨map, updated, after, running, fits, rfl, holds⟩

/-- The peer issues an update that fits its map, or ends with one that does not. -/
theorem updateState_cases {this : ServiceNet} {map : ServiceMap}
    (held : this.holds route route.pid = some map) (update : ServiceUpdate) :
    (∃ updated after, map.update update = some updated ∧
      after.services route.fid route.pid = some updated ∧
        this.updateState route update =
          { tree := Function.update this.tree route.pid (some after)
            flood := this.flood.handle route.pid route.outlets update
            issued := this.issued ++ [update] }) ∨
      (map.update update = none ∧
        this.updateState route update =
          { tree := Function.update this.tree route.pid none
            flood := this.flood
            issued := this.issued ++ [update] }) := by
  rcases Option.bind_eq_some_iff.mp held with ⟨tree, runs, -⟩
  unfold updateState
  rcases process_cases runs update with
    ⟨mapHere, updated, after, heldHere, fits, done, holdsAfter⟩ | ⟨unmade, fault, done⟩
  · cases held.symm.trans heldHere
    refine Or.inl ⟨updated, after, fits, holdsAfter, ?_⟩
    simp only [runs, done]
  · rw [held, Option.bind_some] at unmade
    refine Or.inr ⟨unmade, ?_⟩
    simp only [runs, done]

variable (route) in
/-- A packet is handled and passed on, or it is lost with the process or before. -/
theorem handleUpdateInfo_cases {this : ServiceNet} {srcPID pid : UUID} {update : ServiceUpdate}
    {rest : List ServiceUpdate} (waiting : this.flood.channel srcPID pid = update :: rest) :
    (∃ map updated after, this.holds route pid = some map ∧ map.update update = some updated ∧
      after.services route.fid route.pid = some updated ∧
        this.handleUpdateInfo route srcPID pid =
          { tree := Function.update this.tree pid (some after)
            flood := (this.flood.receive srcPID pid).handle pid (passOn route.chain srcPID pid) update
            issued := this.issued }) ∨
      ((this.holds route pid).bind (fun map => map.update update) = none ∧
        this.handleUpdateInfo route srcPID pid =
          { tree := Function.update this.tree pid none
            flood := this.flood.receive srcPID pid
            issued := this.issued }) := by
  unfold handleUpdateInfo
  simp only [waiting]
  cases runs : this.tree pid with
  | none =>
      refine Or.inr ⟨by rw [holds, runs]; rfl, ?_⟩
      have same : Function.update this.tree pid none = this.tree := by
        rw [← runs, Function.update_eq_self]
      rw [same]
  | some tree =>
      rcases process_cases runs update with
        ⟨map, updated, after, held, fits, done, holdsAfter⟩ | ⟨unmade, fault, done⟩
      · refine Or.inl ⟨map, updated, after, held, fits, holdsAfter, ?_⟩
        simp only [done]
      · refine Or.inr ⟨unmade, ?_⟩
        simp only [done]

/-! ## What a run keeps -/

/-- A process without a record of the peer does not get one. -/
theorem holds_eq_none {this next : ServiceNet} {pid : UUID} (step : Step route this next)
    (other : pid ≠ route.pid) (absent : this.holds route pid = none) :
    next.holds route pid = none := by
  cases step with
  | issue update runs =>
      unfold updateState
      split
      · exact absent
      · split
        · rw [holds_update, if_neg other]
          exact absent
        · rw [holds_update, if_neg other]
          exact absent
  | handle srcPID dst =>
      cases waiting : this.flood.channel srcPID dst with
      | nil =>
          unfold handleUpdateInfo
          simp only [waiting]
          exact absent
      | cons update rest =>
          rcases handleUpdateInfo_cases route waiting with
            ⟨map, updated, after, held, -, -, equal⟩ | ⟨-, equal⟩
          · rw [equal, holds_update, if_neg]
            · exact absent
            · rintro rfl
              cases held.symm.trans absent
          · rw [equal, holds_update]
            split
            · rfl
            · exact absent
  | @other process tree after runs kept =>
      rw [holds_update]
      split
      · rename_i same
        rw [Option.bind_some, kept]
        rw [same, holds, runs, Option.bind_some] at absent
        exact absent
      · exact absent

/-- What holds once all coordinators know the peer, whose map was `map` at the start. -/
structure Converging (route : Route) (map : ServiceMap) (knows : UUID → Prop) (this : ServiceNet) :
    Prop where
  onlyAlong : this.flood.OnlyAlong route.Link
  inOrder : this.flood.InOrder fun src dst => route.Link src dst ∧ knows dst
  /-- A process that knows the peer has made all updates that it has handled. -/
  replica : ∀ pid, knows pid → pid ≠ route.pid → ∃ held, this.holds route pid = some held ∧
    map.updateAll (this.flood.handled pid) = some held
  /-- The peer has made all its updates, or the last one has ended it. -/
  own : ∃ held, map.updateAll (this.flood.handled route.pid) = some held ∧
    ((this.holds route route.pid = some held ∧ this.flood.handled route.pid = this.issued) ∨
      (this.tree route.pid = none ∧ map.updateAll this.issued = none))

namespace Converging

variable {map : ServiceMap} {knows : UUID → Prop} {this next : ServiceNet}

theorem updateState (converging : this.Converging route map knows) (update : ServiceUpdate)
    (runs : (this.tree route.pid).isSome = true) :
    (this.updateState route update).Converging route map knows := by
  rcases converging.own with ⟨held, made, ⟨holds, complete⟩ | ⟨ended, -⟩⟩
  · have issued : map.updateAll (this.issued ++ [update]) = held.update update := by
      rw [ServiceMap.updateAll_concat, ← complete, made, Option.bind_some]
    rcases updateState_cases holds update with
      ⟨updated, after, fits, holdsAfter, equal⟩ | ⟨unfit, equal⟩
    · rw [equal]
      constructor
      · apply converging.onlyAlong.handle
        intro dst member
        exact route.mem_outlets_iff.mp member
      · apply converging.inOrder.handle
        · rintro src ⟨linked, -⟩
          exact linked.1 rfl
        · rintro dst ⟨linked, -⟩
          exact route.mem_outlets_iff.mpr linked
      · intro pid known other
        rw [holds_update, if_neg other, Flood.handled_handle_of_ne _ other]
        exact converging.replica pid known other
      · refine ⟨updated, ?_, Or.inl ⟨?_, ?_⟩⟩
        · rw [Flood.handled_handle_self, complete, issued, fits]
        · rw [holds_update, if_pos rfl]
          exact holdsAfter
        · rw [Flood.handled_handle_self, complete]
    · rw [equal]
      constructor
      · exact converging.onlyAlong
      · exact converging.inOrder
      · intro pid known other
        rw [holds_update, if_neg other]
        exact converging.replica pid known other
      · exact ⟨held, made, Or.inr ⟨Function.update_self .., issued.trans unfit⟩⟩
  · rw [ended] at runs
    cases runs

/-- The next update on a link to a process that knows the peer fits the map there. -/
theorem fits_next (converging : this.Converging route map knows)
    (coordinators : ∀ pid ∈ route.chain.map CellLinks.coordinator, knows pid) {srcPID pid : UUID}
    {update : ServiceUpdate} {rest : List ServiceUpdate}
    (waiting : this.flood.channel srcPID pid = update :: rest) (linked : route.Link srcPID pid)
    (known : knows pid) {held : ServiceMap} (holds : this.holds route pid = some held) :
    map.updateAll (this.flood.handled pid ++ [update]) = held.update update ∧
      (held.update update).isSome = true := by
  rcases converging.replica pid known linked.1 with ⟨heldHere, holdsHere, made⟩
  cases holds.symm.trans holdsHere
  have sent : ∃ heldThere, map.updateAll (this.flood.handled srcPID) = some heldThere := by
    by_cases own : srcPID = route.pid
    · rcases converging.own with ⟨heldThere, madeThere, -⟩
      exact ⟨heldThere, own ▸ madeThere⟩
    · rcases linked.source with same | coordinates
      · exact absurd same own
      · rcases converging.replica srcPID (coordinators srcPID coordinates) own with
          ⟨heldThere, -, madeThere⟩
        exact ⟨heldThere, madeThere⟩
  rcases sent with ⟨heldThere, sent⟩
  have next : map.updateAll (this.flood.handled pid ++ [update]) = held.update update := by
    rw [ServiceMap.updateAll_concat, made, Option.bind_some]
  refine ⟨next, ?_⟩
  rw [converging.inOrder srcPID pid ⟨linked, known⟩, waiting, List.append_cons,
    ServiceMap.updateAll, List.foldlM_append] at sent
  rw [← next, ServiceMap.updateAll]
  rcases Option.bind_eq_some_iff.mp sent with ⟨middle, first, -⟩
  rw [first]
  rfl

/-- A process that knows the peer makes its update and passes it on. -/
theorem passedOn (converging : this.Converging route map knows) {srcPID pid : UUID}
    {update : ServiceUpdate} {rest : List ServiceUpdate} {updated : ServiceMap} {after : CellTree}
    (waiting : this.flood.channel srcPID pid = update :: rest) (linked : route.Link srcPID pid)
    (known : knows pid) (made : map.updateAll (this.flood.handled pid ++ [update]) = some updated)
    (holdsAfter : after.services route.fid route.pid = some updated) :
    ServiceNet.Converging route map knows
      { tree := Function.update this.tree pid (some after)
        flood := (this.flood.receive srcPID pid).handle pid (passOn route.chain srcPID pid) update
        issued := this.issued } := by
  have apart : route.pid ≠ pid := fun same => linked.1 same.symm
  constructor
  · apply (converging.onlyAlong.receive srcPID pid).handle
    intro dst member
    exact (Route.mem_passOn_iff linked).mp member
  · apply converging.inOrder.forward waiting ⟨linked, known⟩
    · rintro other ⟨otherLinked, -⟩
      exact otherLinked.single linked
    · rintro ⟨loop, -⟩
      exact Route.Link.loopless pid loop
    · rintro dst ⟨onward, -⟩
      exact (Route.mem_passOn_iff linked).mpr onward
  · intro other knownOther otherPeer
    rw [holds_update]
    by_cases here : other = pid
    · rw [if_pos here, here, Flood.handled_handle_self, Flood.handled_receive]
      exact ⟨updated, holdsAfter, made⟩
    · rw [if_neg here, Flood.handled_handle_of_ne _ here, Flood.handled_receive]
      exact converging.replica other knownOther otherPeer
  · rw [holds_update, if_neg apart, Flood.handled_handle_of_ne _ apart, Flood.handled_receive]
    dsimp only
    rw [Function.update_of_ne apart]
    exact converging.own

/-- An update is lost at a process that does not know the peer. -/
theorem lost (converging : this.Converging route map knows) {srcPID pid : UUID}
    (linked : route.Link srcPID pid) (unknown : ¬knows pid) :
    ServiceNet.Converging route map knows
      { tree := Function.update this.tree pid none
        flood := this.flood.receive srcPID pid
        issued := this.issued } := by
  have apart : route.pid ≠ pid := fun same => linked.1 same.symm
  constructor
  · exact converging.onlyAlong.receive srcPID pid
  · exact converging.inOrder.receive fun both => unknown both.2
  · intro other knownOther otherPeer
    have here : other ≠ pid := by
      rintro rfl
      exact unknown knownOther
    rw [holds_update, if_neg here]
    exact converging.replica other knownOther otherPeer
  · rw [holds_update, if_neg apart]
    dsimp only
    rw [Function.update_of_ne apart]
    exact converging.own

theorem handleUpdateInfo (converging : this.Converging route map knows)
    (coordinators : ∀ pid ∈ route.chain.map CellLinks.coordinator, knows pid)
    (ignorant : ∀ pid, pid ∈ route.peers → ¬knows pid → this.holds route pid = none)
    (srcPID pid : UUID) : (this.handleUpdateInfo route srcPID pid).Converging route map knows := by
  cases waiting : this.flood.channel srcPID pid with
  | nil =>
      unfold ServiceNet.handleUpdateInfo
      simp only [waiting]
      exact converging
  | cons update rest =>
      have linked : route.Link srcPID pid := by
        by_contra unlinked
        rw [converging.onlyAlong srcPID pid unlinked] at waiting
        cases waiting
      rcases handleUpdateInfo_cases route waiting with
        ⟨held, updated, after, holds, fits, holdsAfter, equal⟩ | ⟨unmade, equal⟩
      · have known : knows pid := by
          by_contra unknown
          cases holds.symm.trans (ignorant pid linked.mem_peers unknown)
        have next := (converging.fits_next coordinators waiting linked known holds).1
        rw [equal]
        exact converging.passedOn waiting linked known (next.trans fits) holdsAfter
      · have unknown : ¬knows pid := by
          intro known
          rcases converging.replica pid known linked.1 with ⟨held, holds, -⟩
          have fits := (converging.fits_next coordinators waiting linked known holds).2
          rw [holds, Option.bind_some] at unmade
          rw [unmade] at fits
          cases fits
        rw [equal]
        exact converging.lost linked unknown

theorem step (converging : this.Converging route map knows)
    (coordinators : ∀ pid ∈ route.chain.map CellLinks.coordinator, knows pid)
    (ignorant : ∀ pid, pid ∈ route.peers → ¬knows pid → this.holds route pid = none)
    (step : Step route this next) : next.Converging route map knows := by
  cases step with
  | issue update runs => exact converging.updateState update runs
  | handle srcPID pid => exact converging.handleUpdateInfo coordinators ignorant srcPID pid
  | @other process tree after runs kept =>
      have same : ∀ pid, holds route { this with tree := Function.update this.tree process (some after) }
          pid = this.holds route pid := by
        intro pid
        rw [holds_update]
        split
        · rename_i here
          rw [here, holds, runs, Option.bind_some, Option.bind_some, kept]
        · rfl
      constructor
      · exact converging.onlyAlong
      · exact converging.inOrder
      · intro pid known other
        rw [same]
        exact converging.replica pid known other
      · rcases converging.own with ⟨held, made, ⟨holds, complete⟩ | ⟨ended, unmade⟩⟩
        · exact ⟨held, made, Or.inl ⟨(same route.pid).trans holds, complete⟩⟩
        · refine ⟨held, made, Or.inr ⟨?_, unmade⟩⟩
          dsimp only
          rw [Function.update_of_ne, ended]
          rintro rfl
          cases ended.symm.trans runs

end Converging

/-! ## A run -/

section

variable {start this : ServiceNet} {map : ServiceMap}

theorem holds_eq_none_of_run (run : Relation.ReflTransGen (Step route) start this) {pid : UUID}
    (other : pid ≠ route.pid) (absent : start.holds route pid = none) :
    this.holds route pid = none := by
  induction run with
  | refl => exact absent
  | tail _ step inductionHypothesis => exact holds_eq_none step other inductionHypothesis

/-- The peers that know the peer of the route. -/
def Knows (route : Route) (start : ServiceNet) (pid : UUID) : Prop :=
  pid ∈ route.peers ∧ (start.holds route pid).isSome = true

theorem ignorant_of_run (starts : start.Starts route map)
    (run : Relation.ReflTransGen (Step route) start this) {pid : UUID}
    (member : pid ∈ route.peers) (unknown : ¬start.Knows route pid) :
    this.holds route pid = none := by
  apply holds_eq_none_of_run run
  · rintro rfl
    apply unknown
    refine ⟨member, ?_⟩
    rw [starts.own]
    rfl
  · rw [← Option.not_isSome_iff_eq_none]
    intro known
    exact unknown ⟨member, known⟩

theorem converging_of_run (starts : start.Starts route map)
    (coordinators : ∀ pid ∈ route.chain.map CellLinks.coordinator, start.Knows route pid)
    (run : Relation.ReflTransGen (Step route) start this) :
    this.Converging route map (start.Knows route) := by
  induction run with
  | refl =>
      constructor
      · intro src dst _
        exact starts.quiet src dst
      · intro src dst _
        rw [starts.unhandled, starts.unhandled, starts.quiet src dst]
        rfl
      · rintro pid ⟨member, known⟩ -
        rcases Option.isSome_iff_exists.mp known with ⟨held, holds⟩
        refine ⟨held, holds, ?_⟩
        rw [starts.unhandled, starts.agree pid member held holds]
        rfl
      · refine ⟨map, ?_, Or.inl ⟨starts.own, ?_⟩⟩
        · rw [starts.unhandled]
          rfl
        · rw [starts.unhandled, starts.silent]
  | tail run step inductionHypothesis =>
      apply inductionHypothesis.step coordinators _ step
      intro pid member unknown
      exact ignorant_of_run starts run member unknown

/-- Whoever is concerned is behind the peer, over processes that know it. -/
theorem reaches_concerned
    (coordinators : ∀ pid ∈ route.chain.map CellLinks.coordinator, start.Knows route pid)
    {pid : UUID} (concerned : start.Concerned route pid) :
    start.Knows route pid ∧
      Relation.ReflTransGen (fun src dst => route.Link src dst ∧ start.Knows route dst)
        route.pid pid := by
  have behind : ∀ pid ∈ route.chain.map CellLinks.coordinator,
      Relation.ReflTransGen (fun src dst => route.Link src dst ∧ start.Knows route dst)
        route.pid pid := by
    intro pid coordinates
    apply Relation.ReflTransGen.mono _ _ _ (Route.reaches_coordinator coordinates)
    rintro src dst ⟨linked, coordinatesHere⟩
    exact ⟨linked, coordinators dst coordinatesHere⟩
  rcases concerned with coordinates | known
  · exact ⟨coordinators pid coordinates, behind pid coordinates⟩
  · refine ⟨known, ?_⟩
    rcases List.mem_flatMap.mp known.1 with ⟨cell, held, member⟩
    rcases List.mem_cons.mp member with rfl | follows
    · exact behind _ (List.mem_map_of_mem held)
    · by_cases own : pid = route.pid
      · rw [own]
      · exact (behind _ (List.mem_map_of_mem held)).tail
          ⟨Route.link_of_follower held follows own, known⟩

/-- Once every packet has been handled, the directories have converged exactly when all
coordinators knew the peer and each of its updates fitted the map that it had. -/
theorem directories_converge_iff (starts : start.Starts route map)
    (run : Relation.ReflTransGen (Step route) start this) (quiet : this.flood.Quiet) :
    start.Converged route this ↔
      (∀ pid ∈ route.chain.map CellLinks.coordinator, (start.holds route pid).isSome = true) ∧
        map.FitsAll this.issued := by
  constructor
  · rintro ⟨held, own, all⟩
    have coordinators : ∀ pid ∈ route.chain.map CellLinks.coordinator, start.Knows route pid := by
      intro pid coordinates
      by_contra unknown
      have absent := ignorant_of_run starts run (coordinator_mem_members coordinates) unknown
      cases absent.symm.trans (all pid (Or.inl coordinates)).1
    refine ⟨fun pid coordinates => (coordinators pid coordinates).2, ?_⟩
    rcases (converging_of_run starts coordinators run).own with
      ⟨ownHeld, made, ⟨-, complete⟩ | ⟨ended, -⟩⟩
    · rw [ServiceMap.fitsAll_iff, ← complete, made]
      rfl
    · rw [holds, ended] at own
      cases own
  · rintro ⟨known, fits⟩
    have coordinators : ∀ pid ∈ route.chain.map CellLinks.coordinator, start.Knows route pid :=
      fun pid coordinates => ⟨coordinator_mem_members coordinates, known pid coordinates⟩
    have converging := converging_of_run starts coordinators run
    rcases converging.own with ⟨held, made, ⟨own, complete⟩ | ⟨-, unmade⟩⟩
    · refine ⟨held, own, ?_⟩
      intro pid concerned
      rcases reaches_concerned coordinators concerned with ⟨knowsHere, behind⟩
      have same := converging.inOrder.handled_eq quiet behind
      refine ⟨?_, same.trans complete⟩
      by_cases here : pid = route.pid
      · rw [here]
        exact own
      · rcases converging.replica pid knowsHere here with ⟨heldHere, holdsHere, madeHere⟩
        rw [same, made] at madeHere
        cases madeHere
        exact holdsHere
    · rw [ServiceMap.fitsAll_iff, unmade] at fits
      cases fits

end

section OneCell

/-- The coordinator of the root cell with one follower. -/
def rootRoute : Route where
  pid := ⟨[9]⟩
  fid := ⟨[0]⟩
  cell := { coordinator := ⟨[9]⟩, followers := [⟨[10]⟩] }
  above := []
  home := by decide
  distinct := by decide

/-- The root cell with both of its superpeers. -/
def rootPair : CellTree :=
  (((CellTree.new ⟨fun _ => none, fun _ => none, fun _ => none, fun _ => none⟩ ⟨[0]⟩).addPeer
      (P3PeerInfo.announced P3PeerInfo.SUPERPEER ⟨[9]⟩ ⟨[0]⟩ none none none none)).1.addPeer
    (P3PeerInfo.announced P3PeerInfo.SUPERPEER ⟨[10]⟩ ⟨[0]⟩ none none none none)).1

def rootNet : ServiceNet where
  tree := fun _ => some rootPair
  flood := { handled := fun _ => [], channel := fun _ _ => [] }
  issued := []

theorem starts_rootNet : rootNet.Starts rootRoute .empty where
  own := rfl
  agree := by
    intro pid _ held holds
    cases holds
    rfl
  silent := rfl
  unhandled := fun _ => rfl
  quiet := fun _ _ => rfl

/-- An instance of a service starts. -/
def starting : ServiceUpdate :=
  .addService { sid := ⟨[30]⟩, iid := ⟨[31]⟩, sapInfo := none }

/-- The coordinator tells its follower about the instance. -/
def toldNet : ServiceNet :=
  (rootNet.updateState rootRoute starting).handleUpdateInfo rootRoute ⟨[9]⟩ ⟨[10]⟩

theorem run_toldNet : Relation.ReflTransGen (Step rootRoute) rootNet toldNet :=
  (Relation.ReflTransGen.single (.issue _ starting rfl)).tail (.handle _ ⟨[9]⟩ ⟨[10]⟩)

theorem quiet_toldNet : toldNet.flood.Quiet := by
  have flood : toldNet.flood = ((rootNet.flood.handle ⟨[9]⟩ [⟨[10]⟩] starting).receive
      ⟨[9]⟩ ⟨[10]⟩).handle ⟨[10]⟩ [] starting := rfl
  intro src dst
  rw [flood]
  by_cases here : src = ⟨[9]⟩ ∧ dst = ⟨[10]⟩
  · rcases here with ⟨rfl, rfl⟩
    rfl
  · simp [Flood.handle, Flood.receive, rootNet, here]

theorem directories_converge_told : rootNet.Converged rootRoute toldNet := by
  apply (directories_converge_iff starts_rootNet run_toldNet quiet_toldNet).mpr
  constructor
  · intro pid _
    rfl
  · exact ⟨rfl, fun _ _ => trivial⟩

/-- The same instance is announced again; the coordinator does not survive it. -/
theorem exists_directories_diverge :
    ¬∀ (route : Route) (map : ServiceMap) (start this : ServiceNet), start.Starts route map →
      (∀ pid ∈ route.chain.map CellLinks.coordinator, (start.holds route pid).isSome = true) →
      Relation.ReflTransGen (Step route) start this → this.flood.Quiet →
      start.Converged route this := by
  intro converge
  have run : Relation.ReflTransGen (Step rootRoute) rootNet (toldNet.updateState rootRoute starting) :=
    run_toldNet.tail (.issue _ starting rfl)
  have flood : (toldNet.updateState rootRoute starting).flood = toldNet.flood := rfl
  rcases converge rootRoute .empty rootNet _ starts_rootNet (fun _ _ => rfl) run
    (flood ▸ quiet_toldNet) with ⟨map, own, -⟩
  cases own

end OneCell

end ServiceNet

end Stheno.Superpeer
