import Mathlib.Algebra.Order.BigOperators.Group.List
import Stheno.FT.Atomicity
import Stheno.FT.Resources

/-!
# Placing the replicas of a group

At the root no round finds a peer, so no group with replicas is opened.  At a distance from it
each round finds another peer, but the end of the resources is a fault, and an addition that
fails is not made up for.
-/

namespace Stheno.FT

open Peer Wire Discovery Superpeer

/-- The superpeers other than the primary that can take an instance. -/
def hosts (tree : CellTree) (primary : UUID) : List P3PeerInfo :=
  tree.sites.filter fun peer => pidOf peer ≠ primary

/-- The queries and replies of a search can be told by the size fields of their bodies. -/
structure SearchFits (tree : CellTree) (sid primary : UUID) : Prop where
  query : QueryClass.octets .launchServiceSiteQuery
    (LaunchSite.mk sid primary (tree.sites.map pidOf)) < 2 ^ 32
  reply : ∀ peer ∈ tree.sites, ReplyFits peer

/-- The identifiers of the service, the runtimes and the cells were generated. -/
structure Identified (tree : CellTree) (sid primary : UUID) : Prop where
  sid : sid.key.length = 16
  primary : primary.key.length = 16
  peers : ∀ peer ∈ tree.superpeers, peer.pid.key.length = 16 ∧ peer.fid.key.length = 16

/-- A round sends identifiers that were generated. -/
theorem Identified.generated {tree : CellTree} {sid primary : UUID}
    (identified : Identified tree sid primary) {chosen : List P3PeerInfo}
    (candidate : ∀ peer ∈ chosen, peer ∈ tree.sites) :
    Generated tree (LaunchSite.mk sid primary (chosen.map pidOf)) where
  sid := identified.sid
  filter := by
    intro uuid member
    rcases List.mem_append.mp member with before | last
    · rcases List.mem_map.mp before with ⟨peer, isChosen, rfl⟩
      exact (identified.peers peer (List.mem_of_mem_filter (candidate peer isChosen))).1
    · rw [List.mem_singleton.mp last]
      exact identified.primary
  peers := identified.peers

/-! ## The rounds at a distance -/

section Distance

variable {mesh : P3Mesh} {tree : CellTree} (inv : PointerInv tree) {sid primary : UUID}
  (identified : Identified tree sid primary) (fits : SearchFits tree sid primary) {hop : Hop}
  {upstream : List Hop} (answers : ∀ next ∈ hop :: upstream, next.answers = true)

/-- What was chosen so far takes no more room in a query than all the sites. -/
theorem SearchFits.chosen (fits : SearchFits tree sid primary) {chosen : List P3PeerInfo}
    (held : Chosen pidOf tree.sites primary chosen) :
    QueryClass.octets .launchServiceSiteQuery (LaunchSite.mk sid primary (chosen.map pidOf)) <
      2 ^ 32 := by
  obtain ⟨kept, perm, sublist⟩ := List.subperm_of_subset (List.Nodup.of_map pidOf held.distinct)
    held.candidate
  have sums : ((chosen.map pidOf).map QueryClass.uuidOctets).sum ≤
      ((tree.sites.map pidOf).map QueryClass.uuidOctets).sum := by
    rw [← ((perm.map pidOf).map QueryClass.uuidOctets).sum_eq]
    exact ((sublist.map pidOf).map QueryClass.uuidOctets).sum_le_sum fun _ _ => Nat.zero_le _
  exact Nat.lt_of_le_of_lt
    (Nat.add_le_add_left (Nat.add_le_add_left (Nat.add_le_add_left sums 4) _) _) fits.query

theorem resources_map_uuid (chosen : List P3PeerInfo) :
    (chosen.map resourceOf).map OverlayPeerInfo.uuid = chosen.map pidOf := by
  rw [List.map_map]
  rfl

include inv identified fits answers

/-- Rounds that end have made the choices of the search, and null is not among their
results. -/
theorem findResources_distance_eq_ok {n : Nat} {chosen : List P3PeerInfo}
    (held : Chosen pidOf tree.sites primary chosen) (announced : ∀ peer ∈ chosen, Announced peer)
    {answer : Option (List OverlayPeerInfo)}
    (found : findResources (some (meshAtRoot mesh tree)) (hop :: upstream) sid primary n
      (chosen.map resourceOf) = .ok answer) :
    ∃ all, chooseMany pidOf tree.leastLoaded primary n chosen = some all ∧
      (∀ peer ∈ all, Announced peer) ∧ answer = some (all.map resourceOf) := by
  induction n generalizing chosen with
  | zero =>
      cases found
      exact ⟨chosen, rfl, announced, rfl⟩
  | succ n ih =>
      rw [findResources] at found
      obtain ⟨round, ran, later⟩ := Result.bind_eq_ok.mp found
      obtain ⟨peer, offered, isAnnounced, rfl⟩ := @findResource_distance_eq_ok mesh tree inv
        (LaunchSite.mk sid primary (chosen.map pidOf)) (identified.generated held.candidate)
        (fits.chosen held) hop upstream answers _ _ (resources_map_uuid chosen) fits.reply ran
      change tree.leastLoaded (chosen.map pidOf ++ [primary]) = some peer at offered
      obtain ⟨site, fresh⟩ := tree.chooses_leastLoaded.chosen offered
      have more : chosen.map resourceOf ++ [resourceOf peer] =
          (chosen ++ [peer]).map resourceOf := by
        rw [List.map_append]
        rfl
      change findResources _ _ _ _ n (chosen.map resourceOf ++ [resourceOf peer]) = _ at later
      rw [more] at later
      rw [chooseMany, offered]
      apply ih (held.snoc site fresh) _ later
      intro other member
      rcases List.mem_append.mp member with before | last
      · exact announced other before
      · rw [List.mem_singleton.mp last]
        exact isAnnounced

/-- Choices of peers that announce their access points are found. -/
theorem findResources_distance_of_announced {n : Nat} {chosen all : List P3PeerInfo}
    (held : Chosen pidOf tree.sites primary chosen)
    (chose : chooseMany pidOf tree.leastLoaded primary n chosen = some all)
    (announced : ∀ peer ∈ all, Announced peer) :
    findResources (some (meshAtRoot mesh tree)) (hop :: upstream) sid primary n
      (chosen.map resourceOf) = .ok (some (all.map resourceOf)) := by
  induction n generalizing chosen with
  | zero =>
      cases chose
      rfl
  | succ n ih =>
      rw [chooseMany] at chose
      cases offered : tree.leastLoaded (chosen.map pidOf ++ [primary]) with
      | none =>
          rw [offered] at chose
          cases chose
      | some peer =>
          rw [offered] at chose
          obtain ⟨site, fresh⟩ := tree.chooses_leastLoaded.chosen offered
          have next := held.snoc site fresh
          have taken : peer ∈ all :=
            (tree.chooses_leastLoaded.of_chooseMany next chose).2.1
              (List.mem_append_right _ List.mem_cons_self)
          have round := @findResource_distance_of_offer mesh tree inv
            (LaunchSite.mk sid primary (chosen.map pidOf)) (identified.generated held.candidate)
            (fits.chosen held) hop upstream answers _ peer (resources_map_uuid chosen) fits.reply
            offered (announced peer taken)
          have later := ih next chose
          rw [List.map_append] at later
          change findResource _ _ sid primary _ = _ at round
          rw [findResources, round]
          exact later

end Distance

/-! ## The rounds at the root -/

/-- The first round ends the search. -/
theorem findResources_root {mesh : P3Mesh} {tree : CellTree} (inv : PointerInv tree)
    (sid primary : UUID) (n : Nat) (peerList : List OverlayPeerInfo) :
    findResources (some (meshAtRoot mesh tree)) [] sid primary (n + 1) peerList = .ok none := by
  rw [findResources, findResource_root inv]
  rfl

/-! ## The additions -/

/-- The primary asks the new replica for a data access point that it did not get. -/
def Outcomes.Faults (this : Outcomes) : Prop :=
  this.control.succeeds = true ∧ ¬ HasEndpoint this.init.ftDataSAP

/-- All the steps of the primary succeed. -/
def Outcomes.Succeeds (this : Outcomes) : Prop :=
  this.control.succeeds = true ∧ HasEndpoint this.init.ftDataSAP ∧ this.data.succeeds = true

namespace P3ReplicationGroup

/-- No closure makes the list longer. -/
theorem length_onPeerClosure_le (this : P3ReplicationGroup) (uuid : UUID) (changed : Bool) :
    (this.onPeerClosure uuid changed).replicas.length ≤ this.replicas.length := by
  by_cases primary : this.primaryPeer.uuid = uuid
  · subst primary
    cases replicas : this.replicas with
    | nil =>
        rw [onPeerClosure, if_pos (isPeerPrimary_iff.mpr rfl), replicas]
        exact Nat.le_of_eq (congrArg List.length replicas)
    | cons front rest =>
        obtain ⟨closed, calls, equal, -⟩ := onPeerClosure_primary replicas changed
        rw [equal]
        exact Nat.le_succ _
  · by_cases here : this.runtimeUUID = uuid
    · rw [onPeerClosure, if_neg (isPeerPrimary_iff.not.mpr primary), removeReplica,
        if_pos (isThisPeer_iff.mpr here)]
      exact Nat.le_refl _
    · rw [onPeerClosure_replica primary here]
      exact List.eraseP_sublist.length_le

end P3ReplicationGroup

namespace Membership

/-- One addition at a primary whose connection has an address. -/
theorem addReplicaAsPrimary_replicas (this : Membership) {replica : OverlayPeerInfo}
    {outcomes : Outcomes} (ft : HasEndpoint replica.ftSAP) (safe : ¬ outcomes.Faults) :
    ∃ added, this.addReplicaAsPrimary replica outcomes = .ok added ∧
      (outcomes.Succeeds → added.group.replicas = this.replicas ++ [replica.uuid]) ∧
      (¬ outcomes.Succeeds → added.group.replicas.length ≤ this.replicas.length) := by
  obtain ⟨endpoint, ftSAP⟩ := ft
  have controlled : (this.controlled replica outcomes).replicas.length ≤ this.replicas.length := by
    rw [replicas, replicas, List.length_map, List.length_map]
    change (if outcomes.control.fires then _ else _ : P3ReplicationGroup).replicas.length ≤ _
    split
    · exact P3ReplicationGroup.length_onPeerClosure_le _ _ _
    · exact Nat.le_refl _
  cases binds : outcomes.control.succeeds with
  | false =>
      refine ⟨_, addReplicaAsPrimary_of_control ftSAP binds, ?_, fun _ => controlled⟩
      intro succeeds
      exact absurd (binds.symm.trans succeeds.1) Bool.false_ne_true
  | true =>
      have replied : HasEndpoint outcomes.init.ftDataSAP := by
        by_contra missing
        exact safe ⟨binds, missing⟩
      obtain ⟨ftData, ftDataSAP⟩ := replied
      cases opens : outcomes.data.succeeds with
      | false =>
          refine ⟨_, addReplicaAsPrimary_of_data ftSAP binds ftDataSAP opens, ?_,
            fun _ => controlled⟩
          intro succeeds
          exact absurd (opens.symm.trans succeeds.2.2) Bool.false_ne_true
      | true =>
          obtain ⟨primary, equal, listed⟩ := addReplicaAsPrimary_of_succeeds ftSAP binds
            ftDataSAP opens
          refine ⟨_, equal, fun _ => listed, ?_⟩
          intro fails
          exact absurd ⟨binds, ⟨ftData, ftDataSAP⟩, opens⟩ fails

theorem addReplicaAsPrimary_of_faults (this : Membership) {replica : OverlayPeerInfo}
    {outcomes : Outcomes} (ft : HasEndpoint replica.ftSAP) (faults : outcomes.Faults)
    (added : Added) : this.addReplicaAsPrimary replica outcomes ≠ .ok added := by
  obtain ⟨endpoint, ftSAP⟩ := ft
  exact addReplicaAsPrimary_of_ftDataSAP ftSAP faults.1 (not_exists.mp faults.2) added

/-- An addition that runs into a fault ends the loop. -/
theorem addReplicas_of_faults (this : Membership) {found : List OverlayPeerInfo}
    (ft : ∀ peer ∈ found, HasEndpoint peer.ftSAP) {outcomes : Nat → Outcomes}
    (faults : ∃ i < found.length, (outcomes i).Faults) (group : Membership) :
    this.addReplicas found outcomes ≠ .ok group := by
  induction found generalizing this outcomes with
  | nil =>
      obtain ⟨i, impossible, -⟩ := faults
      cases impossible
  | cons peer rest ih =>
      obtain ⟨here, later⟩ := List.forall_mem_cons.mp ft
      intro returns
      obtain ⟨added, first, others⟩ := Result.bind_eq_ok.mp returns
      obtain ⟨i, bound, faults⟩ := faults
      cases i with
      | zero => exact this.addReplicaAsPrimary_of_faults here faults added first
      | succ i => exact ih added.group later ⟨i, Nat.lt_of_succ_lt_succ bound, faults⟩ others

/-- Otherwise the loop ends, and lists all the peers exactly if all the additions succeed:
each makes the list longer by one at most. -/
theorem addReplicas_of_safe (this : Membership) {found : List OverlayPeerInfo}
    (ft : ∀ peer ∈ found, HasEndpoint peer.ftSAP) {outcomes : Nat → Outcomes}
    (safe : ∀ i < found.length, ¬ (outcomes i).Faults) :
    ∃ group, this.addReplicas found outcomes = .ok group ∧
      group.replicas.length ≤ this.replicas.length + found.length ∧
      (group.replicas.length = this.replicas.length + found.length →
        ∀ i < found.length, (outcomes i).Succeeds) ∧
      ((∀ i < found.length, (outcomes i).Succeeds) →
        group.replicas = this.replicas ++ found.map OverlayPeerInfo.uuid) := by
  induction found generalizing this outcomes with
  | nil =>
      refine ⟨this, rfl, Nat.le_refl _, ?_, fun _ => (List.append_nil _).symm⟩
      intro _ i impossible
      cases impossible
  | cons peer rest ih =>
      obtain ⟨here, later⟩ := List.forall_mem_cons.mp ft
      obtain ⟨added, first, lists, fails⟩ := this.addReplicaAsPrimary_replicas here
        (safe 0 (Nat.succ_pos _))
      obtain ⟨group, others, most, all, equal⟩ := @ih added.group later
        (fun i => outcomes (i + 1)) fun i bound => safe (i + 1) (Nat.succ_lt_succ bound)
      have returns : this.addReplicas (peer :: rest) outcomes = .ok group := by
        rw [addReplicas, first]
        exact others
      rw [List.length_cons]
      by_cases succeeds : (outcomes 0).Succeeds
      · have longer : added.group.replicas.length = this.replicas.length + 1 := by
          rw [lists succeeds, List.length_append, List.length_singleton]
        rw [longer, Nat.add_assoc, Nat.add_comm 1] at most all
        refine ⟨group, returns, most, ?_, ?_⟩
        · intro full i bound
          cases i with
          | zero => exact succeeds
          | succ i => exact all full i (Nat.lt_of_succ_lt_succ bound)
        · intro every
          rw [equal fun i bound => every (i + 1) (Nat.succ_lt_succ bound), lists succeeds,
            List.append_assoc]
          rfl
      · have short := Nat.le_trans most (Nat.add_le_add_right (fails succeeds) rest.length)
        refine ⟨group, returns, Nat.le_succ_of_le short, ?_, ?_⟩
        · intro full
          rw [full] at short
          exact absurd short (Nat.not_succ_le_self _)
        · intro every
          exact absurd (every 0 (Nat.succ_pos _)) succeeds

end Membership

/-! ## The group that is opened -/

/-- A group that is opened has all its replicas, other ones and other than the primary,
and a mesh without enough hosts is told by `INSUFFICIENT_RESOURCES`. -/
def Placed (tree : CellTree) (primary : UUID) (n : Nat) (result : Result (Option Membership)) :
    Prop :=
  (∀ group, result = .ok (some group) →
    group.replicas.length = n ∧ group.replicas.Nodup ∧ primary ∉ group.replicas) ∧
  ((hosts tree primary).length < n → result = .ok none)

section Opening

variable {tree : CellTree} {self : OverlayPeerInfo} {groupUUID sid iid : UUID}
  {members : UUID → Member} {mesh : Option P3Mesh} {hops : List Hop} {n : Nat}
  {outcomes : Nat → Outcomes}

/-- A search that does not end or finds nobody. -/
theorem openPrimary_ne_some (ends : ∀ found,
    findResources mesh hops sid self.uuid n [] ≠ .ok (some found)) (group : Membership) :
    Membership.openPrimary self groupUUID sid iid members mesh hops n outcomes ≠
      .ok (some group) := by
  intro opened
  obtain ⟨answer, found, opened⟩ := Result.bind_eq_ok.mp opened
  cases answer with
  | none => cases opened
  | some replicaPeers => exact ends replicaPeers found

theorem openPrimary_eq_none {result : Option Membership} (none : result = none)
    (opened : Membership.openPrimary self groupUUID sid iid members mesh hops n outcomes =
      .ok result) : findResources mesh hops sid self.uuid n [] = .ok .none := by
  subst none
  obtain ⟨answer, found, opened⟩ := Result.bind_eq_ok.mp opened
  cases answer with
  | none => exact found
  | some replicaPeers =>
      obtain ⟨group, -, impossible⟩ := Result.bind_eq_ok.mp opened
      cases impossible

/-- What is left to ask once the search has found as many as it should. -/
theorem placed_of_found {found : List OverlayPeerInfo}
    (search : findResources mesh hops sid self.uuid n [] = .ok (some found))
    (ft : ∀ peer ∈ found, HasEndpoint peer.ftSAP) (length : found.length = n)
    (enough : n ≤ (hosts tree self.uuid).length) :
    Placed tree self.uuid n
        (Membership.openPrimary self groupUUID sid iid members mesh hops n outcomes) ↔
      (∃ i < n, (outcomes i).Faults) ∨
        (∀ i < n, (outcomes i).Succeeds) ∧ (found.map OverlayPeerInfo.uuid).Nodup ∧
          self.uuid ∉ found.map OverlayPeerInfo.uuid := by
  subst length
  have opens : Membership.openPrimary self groupUUID sid iid members mesh hops found.length
      outcomes = (Membership.addReplicas
        ⟨⟨P3ReplicationGroup.asPrimary self groupUUID sid iid, [], []⟩, members⟩ found outcomes).map
          some := by
    rw [Membership.openPrimary, search]
    rfl
  rw [opens]
  by_cases faults : ∃ i < found.length, (outcomes i).Faults
  · simp only [faults, true_or, iff_true]
    constructor
    · intro group opened
      obtain ⟨added, returns, -⟩ := Result.map_eq_ok.mp opened
      exact absurd returns (Membership.addReplicas_of_faults _ ft faults added)
    · intro few
      exact absurd enough (Nat.not_le_of_lt few)
  · rw [or_iff_right faults]
    push Not at faults
    obtain ⟨group, returns, -, all, equal⟩ := Membership.addReplicas_of_safe
      ⟨⟨P3ReplicationGroup.asPrimary self groupUUID sid iid, [], []⟩, members⟩ ft faults
    rw [returns]
    have empty : (Membership.replicas
        ⟨⟨P3ReplicationGroup.asPrimary self groupUUID sid iid, [], []⟩, members⟩) = [] := rfl
    rw [empty, List.length_nil, Nat.zero_add] at all
    rw [empty, List.nil_append] at equal
    constructor
    · rintro ⟨placed, -⟩
      obtain ⟨full, distinct, other⟩ := placed group rfl
      have every := all full
      rw [equal every] at distinct other
      exact ⟨every, distinct, other⟩
    · rintro ⟨every, distinct, other⟩
      constructor
      · rintro opened ⟨⟩
        rw [equal every, List.length_map]
        exact ⟨rfl, distinct, other⟩
      · intro few
        exact absurd enough (Nat.not_le_of_lt few)

end Opening

/-- When a primary at a distance has placed its replicas: there are enough hosts, and all the additions succeed
or the run ends in a fault. -/
def PlacesAtDistance (tree : CellTree) (primary : UUID) (n : Nat) (outcomes : Nat → Outcomes) :
    Prop :=
  n ≤ (hosts tree primary).length ∧
    ∀ all, chooseMany pidOf tree.leastLoaded primary n [] = some all →
      (∃ peer ∈ all, ¬ Announced peer) ∨ (∃ i < n, (outcomes i).Faults) ∨
        ∀ i < n, (outcomes i).Succeeds

section Theorem

variable (tree : CellTree) (inv : PointerInv tree) (mesh : P3Mesh) (self : OverlayPeerInfo)
  (groupUUID sid iid : UUID) (members : UUID → Member) (n : Nat) (outcomes : Nat → Outcomes)

include inv

theorem placed_distance_iff (unique : tree.pids.Nodup) (identified : Identified tree sid self.uuid)
    (fits : SearchFits tree sid self.uuid) {hop : Hop} {upstream : List Hop}
    (answers : ∀ next ∈ hop :: upstream, next.answers = true) :
    Placed tree self.uuid n (Membership.openPrimary self groupUUID sid iid members
        (some (meshAtRoot mesh tree)) (hop :: upstream) n outcomes) ↔
      PlacesAtDistance tree self.uuid n outcomes := by
  by_cases enough : n ≤ (hosts tree self.uuid).length
  swap
  · constructor
    · rintro ⟨-, few⟩
      have found := openPrimary_eq_none rfl (few (Nat.lt_of_not_le enough))
      obtain ⟨all, -, -, impossible⟩ := findResources_distance_eq_ok inv identified fits answers
        Chosen.nil (List.forall_mem_nil _) found
      cases impossible
    · intro places
      exact absurd places.1 enough
  have enoughFromNone : ([] : List P3PeerInfo).length + n ≤ (hosts tree self.uuid).length := by
    rwa [List.length_nil, Nat.zero_add]
  obtain ⟨all, chose⟩ := tree.chooses_leastLoaded.exists_chooseMany
    (CellTree.nodup_sites unique) enoughFromNone
  obtain ⟨good, -, length⟩ := tree.chooses_leastLoaded.of_chooseMany Chosen.nil chose
  rw [List.length_nil, Nat.zero_add] at length
  have places : PlacesAtDistance tree self.uuid n outcomes ↔
      (∃ peer ∈ all, ¬ Announced peer) ∨ (∃ i < n, (outcomes i).Faults) ∨
        ∀ i < n, (outcomes i).Succeeds := by
    constructor
    · intro places
      exact places.2 all chose
    · intro this
      refine ⟨enough, fun other chosen => ?_⟩
      rw [chose] at chosen
      cases chosen
      exact this
  rw [places]
  by_cases silent : ∃ peer ∈ all, ¬ Announced peer
  · simp only [silent, true_or, iff_true]
    constructor
    · intro group opened
      apply absurd opened (openPrimary_ne_some _ group)
      intro found search
      obtain ⟨other, chosen, announced, -⟩ := findResources_distance_eq_ok inv identified fits answers
        Chosen.nil (List.forall_mem_nil _) search
      rw [chose] at chosen
      cases chosen
      obtain ⟨peer, member, unannounced⟩ := silent
      exact unannounced (announced peer member)
    · intro few
      exact absurd enough (Nat.not_le_of_lt few)
  · rw [or_iff_right silent]
    push Not at silent
    have search := @findResources_distance_of_announced mesh tree inv sid self.uuid identified fits
      hop upstream answers n [] all Chosen.nil chose silent
    rw [placed_of_found search _ (by rw [List.length_map, length]) enough, resources_map_uuid]
    · simp only [good.distinct, good.other, not_false_eq_true, and_true]
    · intro resource member
      obtain ⟨peer, isPeer, rfl⟩ := List.mem_map.mp member
      exact (silent peer isPeer).ft

/-- At the root nothing is opened, unless no replica is asked for. -/
theorem placed_root :
    Placed tree self.uuid n (Membership.openPrimary self groupUUID sid iid members
      (some (meshAtRoot mesh tree)) [] n outcomes) := by
  cases n with
  | zero =>
      constructor
      · rintro group ⟨⟩
        exact ⟨rfl, List.nodup_nil, List.not_mem_nil⟩
      · intro few
        exact absurd few (Nat.not_lt_zero _)
  | succ n =>
      have opened : Membership.openPrimary self groupUUID sid iid members
          (some (meshAtRoot mesh tree)) [] (n + 1) outcomes = .ok none := by
        rw [Membership.openPrimary, findResources_root inv]
        rfl
      rw [opened]
      constructor
      · rintro group ⟨⟩
      · intro _
        rfl

/-- A group that is opened at the root or at any distance from it has placed its replicas
exactly under these conditions. -/
theorem placed_iff (unique : tree.pids.Nodup) (hops : List Hop)
    (answers : ∀ hop ∈ hops, hop.answers = true)
    (identified : hops ≠ [] → Identified tree sid self.uuid)
    (fits : hops ≠ [] → SearchFits tree sid self.uuid) :
    Placed tree self.uuid n (Membership.openPrimary self groupUUID sid iid members
        (some (meshAtRoot mesh tree)) hops n outcomes) ↔
      hops = [] ∨ PlacesAtDistance tree self.uuid n outcomes := by
  cases hops with
  | nil =>
      apply iff_of_true
      · exact placed_root tree inv mesh self groupUUID sid iid members n outcomes
      · exact Or.inl rfl
  | cons hop upstream =>
      rw [placed_distance_iff tree inv mesh self groupUUID sid iid members n outcomes unique
        (identified (List.cons_ne_nil _ _)) (fits (List.cons_ne_nil _ _)) answers]
      simp

end Theorem

/-! ## A root cell with three superpeers -/

section Trio

def generatedUUID (n : UInt8) : UUID :=
  ⟨List.replicate 15 0 ++ [n]⟩

def announcedPeer (type : UInt32) (n : UInt8) : P3PeerInfo :=
  .announced type (generatedUUID n) (generatedUUID 0) none (some (Membership.endpointOf 3)) none
    (some (Membership.endpointOf 1))

/-- The coordinator 3 and the superpeers 1 and 2. -/
def trioPeers : List P3PeerInfo :=
  [announcedPeer P3PeerInfo.SUPERPEER_COORD 3, announcedPeer P3PeerInfo.SUPERPEER 1,
    announcedPeer P3PeerInfo.SUPERPEER 2]

def trioTree : CellTree where
  rootNode := .node
    { addr := 0, parent := none, cellID := generatedUUID 0, port := 0, depth := 0, spanNo := 0,
      maxSPs := 3, maxSensors := 0, maxMonitor := 0, sps := trioPeers, sensors := [], monitors := [] } []

def anyMesh : P3Mesh where
  isRootFID := false
  cellTree := trioTree
  audioSensors := []
  videoSensors := []
  eventSensors := []
  actuatorSensors := []
  runtime := ⟨true, Table.empty⟩
  runtimeUUID := generatedUUID 3
  fid := generatedUUID 0
  randomPeer := 0
  randomByLevel _ := 0

/-- The superpeer 1, which is connected to the root. -/
def belowRoot : Hop where
  runtimeUUID := generatedUUID 1
  fid := generatedUUID 0
  generated := by decide
  discoverySAPInfo := some (Membership.endpointOf 5)
  connection := .replies

theorem pointerInv_trioTree : PointerInv trioTree where
  linked := Tree.SlotTree.allEdges_of_no_child fun _ => rfl
  unshared := List.nodup_singleton _
  rootParent := rfl

/-- The addition whose control channel does not open. -/
def isolated : Outcomes :=
  { Membership.outcomesOf Membership.openChannel Membership.openChannel with
    control := Membership.noChannel }

/-- The primary is the superpeer 1. -/
def opening (hops : List Hop) (n : Nat) (outcomes : Outcomes) : Result (Option Membership) :=
  Membership.openPrimary { Membership.found 1 with uuid := generatedUUID 1 } (generatedUUID 8)
    (generatedUUID 9) (generatedUUID 11) Membership.pair.members (some (meshAtRoot anyMesh trioTree))
    hops n fun _ => outcomes

theorem identified_trioTree : Identified trioTree (generatedUUID 9) (generatedUUID 1) where
  sid := rfl
  primary := rfl
  peers := by
    change ∀ peer ∈ trioPeers, _
    decide

theorem searchFits_trioTree : SearchFits trioTree (generatedUUID 9) (generatedUUID 1) where
  query := by decide
  reply := by
    intro peer site body written
    have superpeer : peer ∈ trioPeers := List.mem_of_mem_filter site
    rcases List.mem_cons.mp superpeer with rfl | superpeer
    · cases written
      decide
    · rcases List.mem_cons.mp superpeer with rfl | superpeer
      · cases written
        decide
      · rw [List.mem_singleton.mp superpeer] at written
        cases written
        decide

theorem answers_belowRoot : ∀ hop ∈ [belowRoot], hop.answers = true := by
  decide

/-- Below the root a third host is asked for in vain, and null is not what comes back; and a
group is opened without the only replica that it asked for. -/
theorem not_placed_trio :
    ¬ Placed trioTree (generatedUUID 1) 3 (opening [belowRoot] 3
        (Membership.outcomesOf Membership.openChannel Membership.openChannel)) ∧
      ¬ Placed trioTree (generatedUUID 1) 1 (opening [belowRoot] 1 isolated) := by
  constructor
  · intro placed
    have places := (placed_distance_iff trioTree pointerInv_trioTree anyMesh _ _ _ _ _ 3 _
      (by decide) identified_trioTree searchFits_trioTree answers_belowRoot).mp placed
    exact absurd places.1 (by decide)
  · intro placed
    have places := (placed_distance_iff trioTree pointerInv_trioTree anyMesh _ _ _ _ _ 1 _
      (by decide) identified_trioTree searchFits_trioTree answers_belowRoot).mp placed
    have chose : chooseMany pidOf trioTree.leastLoaded (generatedUUID 1) 1 [] =
        some [announcedPeer P3PeerInfo.SUPERPEER 2] := by
      decide
    rcases places.2 _ chose with ⟨peer, member, silent⟩ | ⟨i, -, binds, -⟩ | every
    · rw [List.mem_singleton.mp member] at silent
      exact silent ⟨by decide, ⟨_, rfl⟩⟩
    · cases binds
    · exact absurd (every 0 Nat.one_pos).1 Bool.false_ne_true

/-- With two hosts and additions that succeed, a primary below the root places two replicas. -/
theorem placed_trio : Placed trioTree (generatedUUID 1) 2 (opening [belowRoot] 2
    (Membership.outcomesOf Membership.openChannel Membership.openChannel)) := by
  apply (placed_iff trioTree pointerInv_trioTree anyMesh _ _ _ _ _ 2 _ (by decide) [belowRoot]
    answers_belowRoot (fun _ => identified_trioTree) fun _ => searchFits_trioTree).mpr
  right
  refine ⟨by decide, ?_⟩
  intro all _
  exact Or.inr (Or.inr fun i _ => ⟨rfl, ⟨_, rfl⟩, rfl⟩)

end Trio

end Stheno.FT
