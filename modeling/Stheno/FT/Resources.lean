import Stheno.Discovery.Distance
import Stheno.FT.Membership
import Stheno.Superpeer.Sites

/-!
# Finding the resources of a group

The primary asks its discovery for one site after the other and lists those that it has
in the query.  The query reaches the root as a packet, unless the primary is itself the
coordinator of the root: there it is read without its members, and the filter is the
identifier without data of the requester, which excludes every peer.
-/

namespace Stheno.FT

open Peer Wire Discovery Superpeer

/-- The mesh of the coordinator of the root, which answers from its cell tree. -/
def meshAtRoot (mesh : P3Mesh) (tree : CellTree) : P3Mesh :=
  { mesh with isRootFID := true, cellTree := tree }

/-- The members of a reply that `findResources` takes for one of its class.  Nothing reads
the provider, which the copy leaves unset. -/
def narrowReply (reply : AnyReply) : Result ServiceSite :=
  match reply.base.querySpecializationBlob with
  | none =>
      match reply with
      | .typed .launchServiceSiteQueryReply reply => pure reply.fields
      | _ => .error .badCast
  | some _ => do
      let (reply, _) ← reply.base.narrow LaunchServiceSiteQueryReply 0
      pure reply.fields

/-- The resource that a reply describes.  Its endpoint is logged, so there has to be one. -/
def resourceAt (site : ServiceSite) : Result OverlayPeerInfo := do
  let uuid ← deref site.uuid
  let fid ← deref site.fid
  let _ ← SAPInfo.getFirstEndpoint site.ftSAP
  pure { uuid, fid, meshSAP := site.meshSAP, ftSAP := site.ftSAP, ftDataSAP := none }

/-- What a round makes of the reply, which is null without resources. -/
def takeReply : Option AnyReply → Result (Option OverlayPeerInfo)
  | none => pure none
  | some reply => do
      let site ← narrowReply reply
      let peer ← resourceAt site
      pure (some peer)

/-- One round of `findResources`, in a mesh of which the overlay gives the discovery. -/
def findResource (mesh : Option P3Mesh) (hops : List Hop) (sid runtimeUUID : UUID)
    (peerList : List OverlayPeerInfo) : Result (Option OverlayPeerInfo) := do
  let query : LaunchSite :=
    { sid, requester := runtimeUUID, filterPeers := peerList.map OverlayPeerInfo.uuid }
  let executed ← SuperPeerDiscovery.executeQuery mesh hops (.typed .launchServiceSiteQuery query)
  takeReply executed.reply

/-- `findResources`, from the peers that it has found so far. -/
def findResources (mesh : Option P3Mesh) (hops : List Hop) (sid runtimeUUID : UUID) :
    Nat → List OverlayPeerInfo → Result (Option (List OverlayPeerInfo))
  | 0, peerList => pure (some peerList)
  | n + 1, peerList => do
      match ← findResource mesh hops sid runtimeUUID peerList with
      | none => pure none
      | some peer => findResources mesh hops sid runtimeUUID n (peerList ++ [peer])

namespace Membership

/-- The loop of `openPrimary` over the peers that were found; the answers are dropped. -/
def addReplicas (this : Membership) : List OverlayPeerInfo → (Nat → Outcomes) → Result Membership
  | [], _ => pure this
  | peer :: rest, outcomes => do
      let added ← this.addReplicaAsPrimary peer (outcomes 0)
      added.group.addReplicas rest fun i => outcomes (i + 1)

/-- `openPrimary` of a primary that describes itself by `self`; null stands for
`INSUFFICIENT_RESOURCES`. -/
def openPrimary (self : OverlayPeerInfo) (groupUUID sid iid : UUID) (members : UUID → Member)
    (mesh : Option P3Mesh) (hops : List Hop) (replicaCount : Nat) (outcomes : Nat → Outcomes) :
    Result (Option Membership) := do
  let primary : Member :=
    { group := P3ReplicationGroup.asPrimary self groupUUID sid iid, control := [], data := [] }
  match ← findResources mesh hops sid self.uuid replicaCount [] with
  | none => pure none
  | some replicaPeers => do
      let group ← addReplicas { primary, members } replicaPeers outcomes
      pure (some group)

end Membership

/-! ## One round -/

/-- A peer of the tree as a resource. -/
def resourceOf (peer : P3PeerInfo) : OverlayPeerInfo where
  uuid := peer.pid
  fid := peer.fid
  meshSAP := peer.meshSAP
  ftSAP := peer.ftSAP
  ftDataSAP := none

/-- A peer with an access point for fault tolerance. -/
def HasEndpoint (sap : Option SAPInfo) : Prop :=
  ∃ endpoint, SAPInfo.getFirstEndpoint sap = .ok endpoint

/-- The members of the reply that offers a peer. -/
def siteOf (peer : P3PeerInfo) : ServiceSite where
  uuid := some peer.pid
  fid := some peer.fid
  meshSAP := peer.meshSAP
  ftSAP := peer.ftSAP

theorem resourceAt_siteOf {peer : P3PeerInfo} (ft : HasEndpoint peer.ftSAP) :
    resourceAt (siteOf peer) = .ok (resourceOf peer) := by
  obtain ⟨endpoint, known⟩ := ft
  change (SAPInfo.getFirstEndpoint peer.ftSAP >>= _) = _
  rw [known]
  rfl

theorem resourceAt_eq_ok {peer : P3PeerInfo} {resource : OverlayPeerInfo}
    (made : resourceAt (siteOf peer) = .ok resource) :
    HasEndpoint peer.ftSAP ∧ resource = resourceOf peer := by
  change (SAPInfo.getFirstEndpoint peer.ftSAP >>= _) = _ at made
  obtain ⟨endpoint, known, equal⟩ := Result.bind_eq_ok.mp made
  cases equal
  exact ⟨⟨endpoint, known⟩, rfl⟩

/-- The reply of the root to a query whose members are in some octets. -/
def rootReply (tree : CellTree) (filter : List UUID) : Option AnyReply :=
  (tree.leastLoaded filter).map fun peer =>
    SuperPeerDiscovery.answerOf .launchServiceSiteQuery (siteOf peer)

section Root

variable {mesh : P3Mesh} {tree : CellTree} (inv : PointerInv tree)

include inv

/-- The search of the provider for members that it could read. -/
theorem find_launchSite {octets : List UInt8} {site : LaunchSite}
    (read : P3GeneralProvider.members .launchServiceSiteQuery octets = .ok site)
    (sameLength : ∀ peer ∈ tree.superpeers, ∀ other ∈ site.filterPeers ++ [site.requester],
      other.key.length = peer.pid.key.length) :
    P3GeneralProvider.find (meshAtRoot mesh tree) .launchServiceSiteQuery octets =
      .ok ((tree.leastLoaded (site.filterPeers ++ [site.requester])).map siteOf) := by
  rw [P3GeneralProvider.find, read]
  change (tree.getPoL none (site.filterPeers ++ [site.requester]) >>= _) = _
  rw [CellTree.getPoL_eq_leastLoaded inv sameLength]
  rfl

/-- At the root itself the query is read without its members, and nobody is found. -/
theorem findResource_root (sid runtimeUUID : UUID) (peerList : List OverlayPeerInfo) :
    findResource (some (meshAtRoot mesh tree)) [] sid runtimeUUID peerList = .ok none := by
  have found : P3GeneralProvider.find (meshAtRoot mesh tree) .launchServiceSiteQuery [] =
      .ok none := by
    change (tree.getPoL none [⟨[]⟩] >>= _) = _
    rw [CellTree.getPoL_of_empty inv rfl]
    rfl
  have executed : SuperPeerDiscovery.executeQuery (some (meshAtRoot mesh tree)) []
      (.typed .launchServiceSiteQuery
        (LaunchSite.mk sid runtimeUUID (peerList.map OverlayPeerInfo.uuid))) =
      .ok ⟨none, true, []⟩ := by
    change SuperPeerDiscovery.executeLocalQuery _ _ = _
    rw [@SuperPeerDiscovery.executeLocalQuery_of_served _ (meshAtRoot mesh tree)
      .launchServiceSiteQuery _ rfl]
    change Except.map _ (P3GeneralProvider.find _ _ []) = _
    rw [found]
    rfl
  rw [findResource]
  change (SuperPeerDiscovery.executeQuery _ _ (.typed .launchServiceSiteQuery
    (LaunchSite.mk sid runtimeUUID (peerList.map OverlayPeerInfo.uuid))) >>= _) = _
  rw [executed]
  rfl

end Root

/-! ### At a distance -/

theorem findResource_eq (mesh : Option P3Mesh) (hops : List Hop) (sid runtimeUUID : UUID)
    (peerList : List OverlayPeerInfo) :
    findResource mesh hops sid runtimeUUID peerList =
      (SuperPeerDiscovery.executeQuery mesh hops (.typed .launchServiceSiteQuery
        (LaunchSite.mk sid runtimeUUID (peerList.map OverlayPeerInfo.uuid)))).map Executed.reply >>=
        takeReply := by
  rw [findResource]
  cases SuperPeerDiscovery.executeQuery mesh hops (.typed .launchServiceSiteQuery
      (LaunchSite.mk sid runtimeUUID (peerList.map OverlayPeerInfo.uuid))) with
  | error fault => rfl
  | ok executed => rfl

/-- A peer with both access points that a reply carries. -/
structure Announced (peer : P3PeerInfo) : Prop where
  mesh : peer.meshSAP ≠ none
  ft : HasEndpoint peer.ftSAP

/-- The reply that offers a peer can be told by the size field of its body. -/
def ReplyFits (peer : P3PeerInfo) : Prop :=
  ∀ body, LaunchServiceSiteQueryReply.serializeQuerySpecialization (siteOf peer) = .ok body →
    body.length < 2 ^ 32

/-- The identifiers that a search sends, which were generated: they have 16 octets. -/
structure Generated (tree : CellTree) (site : LaunchSite) : Prop where
  sid : site.sid.key.length = 16
  filter : ∀ uuid ∈ site.filterPeers ++ [site.requester], uuid.key.length = 16
  peers : ∀ peer ∈ tree.superpeers, peer.pid.key.length = 16 ∧ peer.fid.key.length = 16

theorem initialized_of_length {uuid : UUID} (length : uuid.key.length = 16) : uuid.Initialized := by
  intro empty
  rw [empty] at length
  cases length

theorem Generated.initialized {tree : CellTree} {site : LaunchSite}
    (generated : Generated tree site) : QueryClass.Initialized .launchServiceSiteQuery site := by
  refine ⟨initialized_of_length generated.sid, initialized_of_length (generated.filter _ ?_), ?_⟩
  · exact List.mem_append_right _ List.mem_cons_self
  · intro uuid member
    exact initialized_of_length (generated.filter uuid (List.mem_append_left _ member))

/-- Only a reply with both access points can be written. -/
theorem exists_body_iff {peer : P3PeerInfo} (pid : peer.pid.Initialized)
    (fid : peer.fid.Initialized) :
    (∃ body, LaunchServiceSiteQueryReply.serializeQuerySpecialization (siteOf peer) = .ok body) ↔
      peer.meshSAP ≠ none ∧ peer.ftSAP ≠ none := by
  have pidWritten := (UUID.serialize_eq_ok peer.pid _).mpr ⟨pid, rfl⟩
  have fidWritten := (UUID.serialize_eq_ok peer.fid _).mpr ⟨fid, rfl⟩
  cases meshSAP : peer.meshSAP with
  | none =>
      simp [LaunchServiceSiteQueryReply, siteOf, meshSAP, pidWritten, fidWritten, deref, bind,
        Except.bind, pure, Except.pure]
  | some mesh =>
      cases ftSAP : peer.ftSAP with
      | none =>
          simp [LaunchServiceSiteQueryReply, siteOf, meshSAP, ftSAP, pidWritten, fidWritten, deref,
            bind, Except.bind, pure, Except.pure]
      | some ft =>
          simp [LaunchServiceSiteQueryReply, siteOf, meshSAP, ftSAP, pidWritten, fidWritten, deref,
            bind, Except.bind, pure, Except.pure]

theorem HasEndpoint.ne_none {sap : Option SAPInfo} (ft : HasEndpoint sap) : sap ≠ none := by
  rintro rfl
  obtain ⟨endpoint, impossible⟩ := ft
  cases impossible

/-- The reply as it comes back describes the peer that was offered. -/
theorem takeReply_received {peer : P3PeerInfo} {body : List UInt8} (provider type : UInt32)
    (written : LaunchServiceSiteQueryReply.serializeQuerySpecialization (siteOf peer) = .ok body)
    (fits : body.length < 2 ^ 32) :
    takeReply (some (.plain ⟨provider, type, blobOf body, none, ()⟩)) =
      (resourceAt (siteOf peer)).map some := by
  have members := (launchServiceSiteQueryReply_faithful (siteOf peer) body written fits).run
  have carried : body ≠ [] := by
    rintro rfl
    obtain ⟨uuid, known, rest⟩ := Result.bind_eq_ok.mp written
    cases known
    obtain ⟨pid, pidWritten, rest⟩ := Result.bind_eq_ok.mp rest
    obtain ⟨fid, -, rest⟩ := Result.bind_eq_ok.mp rest
    obtain ⟨fidOctets, -, rest⟩ := Result.bind_eq_ok.mp rest
    obtain ⟨meshSAP, -, rest⟩ := Result.bind_eq_ok.mp rest
    obtain ⟨ftSAP, -, impossible⟩ := Result.bind_eq_ok.mp rest
    have wide := two_le_length_uuid peer.pid
    rw [← ((UUID.serialize_eq_ok peer.pid _).mp pidWritten).2] at wide
    have empty := congrArg List.length (Except.ok.inj impossible)
    rw [List.length_append, List.length_nil] at empty
    omega
  have narrowed : narrowReply (.plain ⟨provider, type, blobOf body, none, ()⟩) =
      .ok (siteOf peer) := by
    rw [blobOf, if_neg carried]
    change (DiscoveryQueryReply.narrow _ _ _ >>= _) = _
    change ((LaunchServiceSiteQueryReply.deserializeQuerySpecialization ⟨body, true⟩ >>= _) >>= _) = _
    rw [members]
    rfl
  rw [takeReply, narrowed]
  change (resourceAt (siteOf peer) >>= _) = _
  cases resourceAt (siteOf peer) with
  | error fault => rfl
  | ok resource => rfl

section Distance

variable {mesh : P3Mesh} {tree : CellTree} (inv : PointerInv tree) {site : LaunchSite}
  (generated : Generated tree site)
  (fits : QueryClass.octets .launchServiceSiteQuery site < 2 ^ 32)
  {hop : Hop} {upstream : List Hop} (answers : ∀ next ∈ hop :: upstream, next.answers = true)

include inv generated fits answers

/-- The root gets the members as they are, and its reply comes back as one packet. -/
theorem reply_distance : ∃ arrived,
    (SuperPeerDiscovery.executeQuery (some (meshAtRoot mesh tree)) (hop :: upstream)
        (.typed .launchServiceSiteQuery site)).map Executed.reply =
      (SuperPeerDiscovery.passOn arrived
        (.ok ⟨rootReply tree (site.filterPeers ++ [site.requester]), true, []⟩)).map
          fun received => some (.plain received) := by
  obtain ⟨body, written, length⟩ := QueryClass.exists_body generated.initialized
  rw [← length] at fits
  have whole := AnyQuery.cut_body_typed (c := .launchServiceSiteQuery) written fits
  have carried : cut (AnyQuery.typed .launchServiceSiteQuery site).body ≠ [] := by
    have wide : 4 ≤ QueryClass.octets .launchServiceSiteQuery site := by
      change 4 ≤ 4 + site.sid.key.length + _
      omega
    rw [whole]
    rintro rfl
    rw [← length] at wide
    exact absurd wide (Nat.not_succ_le_zero 3)
  have read := P3GeneralProvider.members_of_written (c := .launchServiceSiteQuery) written fits
  have sameLength : ∀ peer ∈ tree.superpeers, ∀ other ∈ site.filterPeers ++ [site.requester],
      other.key.length = peer.pid.key.length := by
    intro peer isPeer other member
    rw [generated.filter other member, (generated.peers peer isPeer).1]
  have reply := SuperPeerDiscovery.reply_executeQuery (some (meshAtRoot mesh tree)) answers
    (.typed .launchServiceSiteQuery site) carried
  rw [whole] at reply
  have answered : SuperPeerDiscovery.executeLocalQuery (some (meshAtRoot mesh tree))
      (.plain ⟨(AnyQuery.typed .launchServiceSiteQuery site).getProvider,
        (AnyQuery.typed .launchServiceSiteQuery site).getType, some body, ()⟩) =
      .ok ⟨rootReply tree (site.filterPeers ++ [site.requester]), true, []⟩ := by
    rw [@SuperPeerDiscovery.executeLocalQuery_of_served _ (meshAtRoot mesh tree)
      .launchServiceSiteQuery _ rfl]
    change Except.map _ (P3GeneralProvider.find _ _ body) = _
    rw [find_launchSite inv read sameLength, rootReply]
    cases tree.leastLoaded (site.filterPeers ++ [site.requester]) with
    | none => rfl
    | some peer => rfl
  rw [answered] at reply
  exact ⟨_, reply⟩

omit inv fits answers in
/-- A peer that the search offers can be described. -/
theorem exists_body_of_offer {peer : P3PeerInfo}
    (offered : tree.leastLoaded (site.filterPeers ++ [site.requester]) = some peer) :
    (∃ body, LaunchServiceSiteQueryReply.serializeQuerySpecialization (siteOf peer) = .ok body) ↔
      peer.meshSAP ≠ none ∧ peer.ftSAP ≠ none := by
  have isSite := (tree.chooses_leastLoaded.chosen offered).1
  obtain ⟨pid, fid⟩ := generated.peers peer (List.mem_of_mem_filter isSite)
  exact exists_body_iff (initialized_of_length pid) (initialized_of_length fid)

/-- A round comes to a resource or to nothing at all: null is not an answer. -/
theorem findResource_distance_eq_ok {peerList : List OverlayPeerInfo} {answer : Option OverlayPeerInfo}
    (listed : peerList.map OverlayPeerInfo.uuid = site.filterPeers)
    (replyFits : ∀ peer ∈ tree.sites, ReplyFits peer)
    (found : findResource (some (meshAtRoot mesh tree)) (hop :: upstream) site.sid site.requester
      peerList = .ok answer) :
    ∃ peer, tree.leastLoaded (site.filterPeers ++ [site.requester]) = some peer ∧ Announced peer ∧
      answer = some (resourceOf peer) := by
  rw [findResource_eq, listed] at found
  obtain ⟨arrived, reply⟩ := @reply_distance mesh tree inv site generated fits hop upstream answers
  change (Except.map Executed.reply (SuperPeerDiscovery.executeQuery _ _
    (.typed .launchServiceSiteQuery site)) >>= _) = _ at found
  rw [reply] at found
  obtain ⟨received, mapped, taken⟩ := Result.bind_eq_ok.mp found
  obtain ⟨plain, passed, rfl⟩ := Result.map_eq_ok.mp mapped
  have shape : SuperPeerDiscovery.passOn arrived
      ((Except.ok ((tree.leastLoaded (site.filterPeers ++ [site.requester])).map siteOf)).map
        fun fields => ⟨fields.map (SuperPeerDiscovery.answerOf .launchServiceSiteQuery), true, []⟩) =
      .ok plain := by
    rw [← passed, rootReply]
    cases tree.leastLoaded (site.filterPeers ++ [site.requester]) with
    | none => rfl
    | some peer => rfl
  obtain ⟨fields, body, found, written, rfl⟩ := @SuperPeerDiscovery.passOn_eq_ok arrived
    .launchServiceSiteQuery _ [] plain shape
  obtain ⟨peer, offered, rfl⟩ := Option.map_eq_some_iff.mp (Except.ok.inj found)
  have isSite := (tree.chooses_leastLoaded.chosen offered).1
  have small := replyFits peer isSite body written
  rw [cut_eq_iff.mpr small, takeReply_received _ _ written small] at taken
  obtain ⟨resource, made, rfl⟩ := Result.map_eq_ok.mp taken
  obtain ⟨ft, rfl⟩ := resourceAt_eq_ok made
  exact ⟨peer, offered, ⟨((exists_body_of_offer generated offered).mp ⟨body, written⟩).1, ft⟩, rfl⟩

theorem findResource_distance_of_offer {peerList : List OverlayPeerInfo} {peer : P3PeerInfo}
    (listed : peerList.map OverlayPeerInfo.uuid = site.filterPeers)
    (replyFits : ∀ peer ∈ tree.sites, ReplyFits peer)
    (offered : tree.leastLoaded (site.filterPeers ++ [site.requester]) = some peer)
    (announced : Announced peer) :
    findResource (some (meshAtRoot mesh tree)) (hop :: upstream) site.sid site.requester
      peerList = .ok (some (resourceOf peer)) := by
  obtain ⟨body, written⟩ :=
    (exists_body_of_offer generated offered).mpr ⟨announced.mesh, announced.ft.ne_none⟩
  have small := replyFits peer (tree.chooses_leastLoaded.chosen offered).1 body written
  obtain ⟨arrived, reply⟩ := @reply_distance mesh tree inv site generated fits hop upstream answers
  rw [findResource_eq, listed]
  change (Except.map Executed.reply (SuperPeerDiscovery.executeQuery _ _
    (.typed .launchServiceSiteQuery site)) >>= _) = _
  rw [reply, rootReply, offered]
  change (Except.map _ (SuperPeerDiscovery.passOn arrived
    (.ok ⟨some (SuperPeerDiscovery.answerOf .launchServiceSiteQuery (siteOf peer)), true, []⟩)) >>=
      _) = _
  rw [@SuperPeerDiscovery.passOn_answer arrived .launchServiceSiteQuery (siteOf peer) body true []
    written]
  change takeReply (some (.plain ⟨_, _, blobOf (cut body), none, ()⟩)) = _
  rw [cut_eq_iff.mpr small, takeReply_received _ _ written small, resourceAt_siteOf announced.ft]
  rfl

end Distance

end Stheno.FT
