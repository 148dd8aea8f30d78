import Stheno.Peer.LocalService
import Stheno.Superpeer.Catalogue
import Stheno.Superpeer.Occupants

/-!
# The instances that a cell tree lists

A cell tree records the service map of each peer of each cell.  An update of services
changes the map of one peer.  A departure takes the record of one peer away, and with
the last superpeer of a cell those of all peers in the cell and below it.
-/

namespace Stheno.Superpeer

open Stheno.Tree Peer

/-- A peer of a cell with its services. -/
structure PeerRecord where
  fid : CellID
  pid : UUID
  services : ServiceMap

/-- A running instance with its host. -/
structure Listing where
  fid : CellID
  pid : UUID
  info : ServiceInstanceInfo
  deriving DecidableEq

def PeerRecord.key (this : PeerRecord) : CellID × UUID :=
  (this.fid, this.pid)

/-- The instance of a service that the record lists under an identifier. -/
def PeerRecord.listing (sid iid : UUID) (this : PeerRecord) : Option Listing :=
  (this.services.getInstanceOfService sid iid).map fun info =>
    { fid := this.fid, pid := this.pid, info }

namespace CellInfo

def record (this : CellInfo) (peer : P3PeerInfo) : PeerRecord where
  fid := this.cellID
  pid := peer.pid
  services := peer.serviceMap

def records (this : CellInfo) : List PeerRecord :=
  this.allPeers.map this.record

theorem perm_cons_of_eraseP_pid {peers : List P3PeerInfo} {uuid : UUID}
    (present : ∃ temp ∈ peers, temp.pid = uuid) : ∃ peer, peer.pid = uuid ∧
      peers.Perm (peer :: peers.eraseP fun temp => temp.pid.sameKey uuid) := by
  rcases present with ⟨temp, member, same⟩
  have hit : temp.pid.sameKey uuid = true := UUID.sameKey_iff.mpr same
  rcases @List.exists_of_eraseP _ (fun temp => temp.pid.sameKey uuid) peers temp member hit with
    ⟨peer, first, second, -, found, whole, erased⟩
  refine ⟨peer, UUID.sameKey_iff.mp found, ?_⟩
  rw [erased]
  nth_rewrite 1 [whole]
  exact List.perm_middle

/-- A removal takes one record of the peer. -/
theorem allPeers_remove_perm {info after : CellInfo} {uuid : UUID}
    (removed : info.remove uuid = some after) :
    ∃ peer, peer.pid = uuid ∧ info.allPeers.Perm (peer :: after.allPeers) := by
  rcases remove_eq_some removed with ⟨list, present, rfl⟩
  rcases perm_cons_of_eraseP_pid present with ⟨peer, named, fewer⟩
  refine ⟨peer, named, ?_⟩
  cases list with
  | sps =>
      have parts := fewer.append_right (info.sensors ++ info.monitors)
      simpa [allPeers, peers, setPeers] using parts
  | sensors =>
      have parts := (fewer.append_right info.monitors).append_left info.sps
      simpa [allPeers, peers, setPeers] using parts.trans List.perm_middle
  | monitors =>
      have parts := fewer.append_left (info.sps ++ info.sensors)
      simpa [allPeers, peers, setPeers] using parts.trans List.perm_middle

theorem entries_updatePeer (info : CellInfo) (pid : UUID) {f : P3PeerInfo → P3PeerInfo}
    (kept : ∀ peer, (f peer).pid = peer.pid) : (info.updatePeer pid f).entries = info.entries := by
  have same := info.sameNode_updatePeer pid f
  have pids : (info.updatePeer pid f).pids = info.pids := by
    rw [CellInfo.pids, allPeers_updatePeer, CellInfo.pids]
    apply List.lookmap_map_eq
    intro peer changed hit
    split at hit
    · cases hit
      exact (kept peer).symm
    · cases hit
  rw [CellInfo.entries_of_cellID_eq same.cellID, pids, CellInfo.entries]

end CellInfo

namespace CellTree

/-- The records of all peers of all cells. -/
def records (this : CellTree) : List PeerRecord :=
  this.rootNode.collect CellInfo.records

/-- The instances of a service that the tree lists under an identifier. -/
def listings (this : CellTree) (sid iid : UUID) : List Listing :=
  this.records.filterMap (PeerRecord.listing sid iid)

/-- The departure of the peer closes the cell `id`. -/
def Closes (this : CellTree) (uuid : UUID) (cellID id : CellID) : Prop :=
  ∃ path ∈ this.getCellTreeNode cellID, ∃ n ∈ this.rootNode.at? path,
    ∃ info ∈ n.label.remove uuid, info.sps = [] ∧ id ∈ n.labels.map CellInfo.cellID

instance (this : CellTree) (uuid : UUID) (cellID id : CellID) :
    Decidable (this.Closes uuid cellID id) := by
  unfold Closes
  infer_instance

/-- A well-formed tree in which no cell and no peer of a cell occurs twice. -/
structure Orderly (t : CellTree) : Prop where
  inv : RepInv t
  distinct : t.cellIDs.Nodup
  once : t.entries.Nodup

theorem entries_eq_map_records (t : CellTree) : t.entries = t.records.map PeerRecord.key := by
  rw [entries, records, SlotTree.collect, SlotTree.collect, List.map_flatMap]
  apply List.flatMap_congr
  intro info _
  rw [CellInfo.entries, CellInfo.pids, CellInfo.records, List.map_map, List.map_map]
  rfl

/-- A selection that keeps the keys lists no key that was not there. -/
theorem map_filterMap_sublist {α β κ : Type} {f : α → Option β} {key : α → κ} {own : β → κ}
    (kept : ∀ a b, f a = some b → own b = key a) (l : List α) :
    ((l.filterMap f).map own).Sublist (l.map key) := by
  induction l with
  | nil => exact List.Sublist.refl _
  | cons a l inductionHypothesis =>
      cases selected : f a with
      | none =>
          rw [List.filterMap_cons_none selected, List.map_cons]
          exact inductionHypothesis.cons _
      | some b =>
          rw [List.filterMap_cons_some selected, List.map_cons, List.map_cons, kept a b selected]
          exact inductionHypothesis.cons_cons _

section Services

variable {t : CellTree}

/-- The services that the tree keeps for a peer are those of its record. -/
theorem Orderly.mem_records_iff (orderly : t.Orderly) {fid : CellID} {pid : UUID}
    {map : ServiceMap} : ⟨fid, pid, map⟩ ∈ t.records ↔ t.services fid pid = some map := by
  have recorded : ∀ path n, t.rootNode.at? path = some n →
      ((n.label.getPeer pid).map (fun peer => peer.serviceMap) = some map ↔
        ⟨n.label.cellID, pid, map⟩ ∈ n.label.records) := by
    intro path n found
    have member := SlotTree.mem_labels_iff.mpr ⟨n, SlotTree.mem_nodes_of_at? found, rfl⟩
    have nodup : (n.label.allPeers.map fun peer => peer.pid).Nodup := by
      have here := (List.nodup_flatMap.mp orderly.once).1 n.label member
      rw [CellInfo.entries] at here
      exact here.of_map _
    constructor
    · intro held
      rcases Option.map_eq_some_iff.mp held with ⟨peer, got, rfl⟩
      have hit := List.find?_some got
      rw [← UUID.sameKey_iff.mp hit]
      exact List.mem_map_of_mem (List.mem_of_find?_eq_some got)
    · intro held
      rcases List.mem_map.mp held with ⟨peer, inCell, same⟩
      cases same
      cases searched : n.label.getPeer peer.pid with
      | none =>
          exact absurd (UUID.sameKey_iff.mpr rfl) (List.find?_eq_none.mp searched peer inCell)
      | some other =>
          have hit := List.find?_some searched
          rw [List.inj_on_of_nodup_map nodup (List.mem_of_find?_eq_some searched) inCell
            (UUID.sameKey_iff.mp hit)]
          rfl
  rw [records, SlotTree.mem_collect_iff, services]
  constructor
  · rintro ⟨path, n, found, held⟩
    rcases List.mem_map.mp held with ⟨peer, -, same⟩
    cases same
    have known : t.getCellTreeNode n.label.cellID = some path := by
      cases searched : t.getCellTreeNode n.label.cellID with
      | none =>
          exact absurd rfl (getCellTreeNode_eq_none_iff.mp searched n.label
            (SlotTree.mem_labels_iff.mpr ⟨n, SlotTree.mem_nodes_of_at? found, rfl⟩))
      | some other =>
          rcases getCellTreeNode_eq_some searched with ⟨m, foundM, same⟩
          rw [SlotTree.path_eq_of_key_eq orderly.distinct foundM found same]
    rw [known, Option.bind_some, found, Option.bind_some]
    exact (recorded path n found).mpr held
  · intro held
    rcases Option.bind_eq_some_iff.mp held with ⟨path, known, inCell⟩
    rcases Option.bind_eq_some_iff.mp inCell with ⟨n, found, got⟩
    refine ⟨path, n, found, ?_⟩
    rw [← label_of_known known found]
    exact (recorded path n found).mp got

theorem Orderly.mem_listings_iff (orderly : t.Orderly) {sid iid : UUID} {listing : Listing} :
    listing ∈ t.listings sid iid ↔ ∃ map, t.services listing.fid listing.pid = some map ∧
      map.getInstanceOfService sid iid = some listing.info := by
  rw [listings, List.mem_filterMap]
  constructor
  · rintro ⟨record, member, listed⟩
    rcases Option.map_eq_some_iff.mp listed with ⟨info, runs, rfl⟩
    exact ⟨record.services, orderly.mem_records_iff.mp member, runs⟩
  · rintro ⟨map, held, runs⟩
    refine ⟨⟨listing.fid, listing.pid, map⟩, orderly.mem_records_iff.mpr held, ?_⟩
    rw [PeerRecord.listing, runs]
    rfl

/-- A tree lists a peer once. -/
theorem Orderly.nodup_listings (orderly : t.Orderly) (sid iid : UUID) :
    ((t.listings sid iid).map fun listing => (listing.fid, listing.pid)).Nodup := by
  have once := orderly.once
  rw [entries_eq_map_records] at once
  apply List.Nodup.sublist _ once
  apply map_filterMap_sublist
  intro record listing listed
  rcases Option.map_eq_some_iff.mp listed with ⟨info, -, rfl⟩
  rfl

/-- The tree lists the one instance, and no other. -/
theorem Orderly.listings_eq (orderly : t.Orderly) {sid iid : UUID} {listing : Listing}
    (listed : listing ∈ t.listings sid iid)
    (only : ∀ other ∈ t.listings sid iid, other.fid = listing.fid ∧ other.pid = listing.pid) :
    t.listings sid iid = [listing] := by
  have nodup := orderly.nodup_listings sid iid
  generalize t.listings sid iid = listings at *
  cases listings with
  | nil => cases listed
  | cons first rest =>
      have none : rest = [] := by
        apply List.eq_nil_iff_forall_not_mem.mpr
        intro other member
        rw [List.map_cons, List.nodup_cons] at nodup
        apply nodup.1
        have here := only first List.mem_cons_self
        have there := only other (List.mem_cons_of_mem _ member)
        rw [here.1, here.2, ← there.1, ← there.2]
        exact List.mem_map_of_mem member
      rw [none] at listed ⊢
      rw [List.mem_singleton.mp listed]

/-! ## A service update -/

theorem entries_relabel {path : Path} {n : CellTreeNode} {info : CellInfo}
    (found : t.rootNode.at? path = some n) (same : info.entries = n.label.entries) :
    (t.modify path (SlotTree.mapLabel fun _ => info)).entries = t.entries := by
  rcases SlotTree.collect_relabelAt CellInfo.entries found with ⟨before, after, whole, updated⟩
  rw [entries, entries, modify, updated, whole, same]

/-- What the tree keeps for the peers after an update. -/
theorem services_after_update {info : MeshUpdateInfo} {after : CellTree}
    (done : t.processUpdateInfo info = .ok after) (fid : CellID) (pid : UUID) :
    after.services fid pid =
      if fid = info.fid ∧ pid = info.pid then
        (t.services fid pid).bind fun map => map.update info.update
      else t.services fid pid := by
  have outcome := t.updated_processUpdateInfo info
  rw [done] at outcome
  cases outcome with
  | made known found running fits =>
      rw [services_of_made known found]
      by_cases here : fid = info.fid ∧ pid = info.pid
      · rw [if_pos here, if_pos here, here.1, here.2, running, Option.bind_some, fits]
        rfl
      · rw [if_neg here, if_neg here]

theorem Orderly.processUpdateInfo (orderly : t.Orderly) {info : MeshUpdateInfo} {after : CellTree}
    (done : t.processUpdateInfo info = .ok after) : after.Orderly := by
  have outcome := t.updated_processUpdateInfo info
  rw [done] at outcome
  refine ⟨orderly.inv.processUpdateInfo done, ?_, ?_⟩
  · cases outcome with
    | made known found running fits =>
        rw [cellIDs_relabel found (CellInfo.sameNode_updatePeer _ _ _)]
        exact orderly.distinct
  · cases outcome with
    | @made map updated path n known found running fits =>
        have same := n.label.entries_updatePeer info.pid (f := fun peer => peer.withServices updated)
          fun _ => rfl
        rw [entries_relabel found same]
        exact orderly.once

/-! ## A departure -/

/-- What a departure takes from the tree. -/
structure Dropped (t : CellTree) (uuid : UUID) (cellID : CellID) (after : CellTree)
    (dropped : List PeerRecord) : Prop where
  parts : t.records.Perm (dropped ++ after.records)
  peer : (cellID, uuid) ∈ t.entries → (cellID, uuid) ∈ dropped.map PeerRecord.key
  /-- Others go with their cell. -/
  others : ∀ record ∈ dropped, record.key ≠ (cellID, uuid) → t.Closes uuid cellID record.fid

theorem dropped_nothing {uuid : UUID} {cellID : CellID} (absent : (cellID, uuid) ∉ t.entries) :
    Dropped t uuid cellID t [] where
  parts := List.Perm.refl _
  peer := fun present => absurd present absent
  others := by
    intro record impossible
    cases impossible

/-- The record that leaves a node. -/
theorem records_remove_perm {path : Path} {n : CellTreeNode} {uuid : UUID} {info : CellInfo}
    (found : t.rootNode.at? path = some n) (removed : n.label.remove uuid = some info) :
    ∃ record, record.key = (n.label.cellID, uuid) ∧
      t.records.Perm (record :: (t.modify path (SlotTree.mapLabel fun _ => info)).records) := by
  rcases CellInfo.allPeers_remove_perm removed with ⟨peer, rfl, fewer⟩
  refine ⟨n.label.record peer, rfl, ?_⟩
  apply SlotTree.collect_relabelAt_perm_cons CellInfo.records found
  have same : info.record = n.label.record := by
    funext other
    rw [CellInfo.record, CellInfo.record, (CellInfo.sameNode_of_remove removed).cellID]
  rw [CellInfo.records, CellInfo.records, same]
  exact fewer.map _

theorem dropped_leave (inv : RepInv t) (distinct : t.cellIDs.Nodup) {uuid : UUID}
    {cellID : CellID} {out : CellTree × Bool} (done : t.leave uuid cellID = .ok out) :
    ∃ dropped, Dropped t uuid cellID out.1 dropped := by
  have left := left_leave inv uuid cellID
  rw [done] at left
  cases left with
  | unknownCell unknown =>
      exact ⟨[], dropped_nothing (not_mem_entries_of_unknownCell unknown)⟩
  | @unknownPeer path n known found absent =>
      exact ⟨[], dropped_nothing (not_mem_entries_of_unknownPeer distinct known found absent)⟩
  | @peer path n info known found removed staffed =>
      rcases records_remove_perm found removed with ⟨record, named, parts⟩
      rw [label_of_known known found] at named
      refine ⟨[record], parts, fun _ => List.mem_singleton.mpr named.symm, ?_⟩
      intro other member apart
      rw [List.mem_singleton.mp member] at apart
      exact absurd named apart
  | @cell above i n info known found removed deserted =>
      rcases records_remove_perm found removed with ⟨record, named, parts⟩
      rw [label_of_known known found] at named
      have same := CellInfo.sameNode_of_remove removed
      rcases holder_relabel info found with ⟨p, atParent, held⟩
      have cleared := SlotTree.collect_clearAt_perm CellInfo.records atParent held
      refine ⟨record :: (n.mapLabel fun _ => info).collect CellInfo.records,
        parts.trans (cleared.cons _), fun _ => List.mem_map.mpr ⟨record, List.mem_cons_self, named⟩, ?_⟩
      intro other member apart
      rcases List.mem_cons.mp member with rfl | below
      · exact absurd named apart
      · refine ⟨above ++ [i], known, n, found, info, removed, deserted, ?_⟩
        have inBelow : other.key ∈ (n.mapLabel fun _ => info).collect CellInfo.entries := by
          rcases List.mem_flatMap.mp below with ⟨label, inTree, inLabel⟩
          rcases List.mem_map.mp inLabel with ⟨peer, inCell, rfl⟩
          exact List.mem_flatMap.mpr ⟨label, inTree,
            List.mem_map.mpr ⟨peer.pid, List.mem_map_of_mem inCell, rfl⟩⟩
        exact cellID_mem_of_mem_collect same inBelow

variable {uuid : UUID} {cellID : CellID} {out : CellTree × Bool}

theorem Orderly.leave (orderly : t.Orderly) (done : t.leave uuid cellID = .ok out) :
    out.1.Orderly := by
  rcases dropped_leave orderly.inv orderly.distinct done with ⟨dropped, gone⟩
  refine ⟨orderly.inv.leave done, nodup_cellIDs_leave orderly.inv orderly.distinct done, ?_⟩
  have once := orderly.once
  rw [entries_eq_map_records] at once ⊢
  have parts := (gone.parts.map PeerRecord.key).nodup_iff.mp once
  rw [List.map_append] at parts
  exact (List.nodup_append.mp parts).2.1

/-- A departure leaves nothing for the peer itself. -/
theorem Orderly.services_leave_self (orderly : t.Orderly) (done : t.leave uuid cellID = .ok out) :
    out.1.services cellID uuid = none := by
  rcases dropped_leave orderly.inv orderly.distinct done with ⟨dropped, gone⟩
  cases held : out.1.services cellID uuid with
  | none => rfl
  | some map =>
      exfalso
      have kept := (orderly.leave done).mem_records_iff.mpr held
      have once := orderly.once
      rw [entries_eq_map_records] at once
      have parts := (gone.parts.map PeerRecord.key).nodup_iff.mp once
      rw [List.map_append, List.nodup_append] at parts
      have present : (cellID, uuid) ∈ t.entries := by
        rw [entries_eq_map_records]
        exact List.mem_map_of_mem (gone.parts.mem_iff.mpr (List.mem_append_right _ kept))
      exact parts.2.2 _ (gone.peer present) _ (List.mem_map_of_mem kept) rfl

/-- A departure adds nothing. -/
theorem Orderly.services_of_leave (orderly : t.Orderly) (done : t.leave uuid cellID = .ok out)
    {fid : CellID} {pid : UUID} {map : ServiceMap} (held : out.1.services fid pid = some map) :
    t.services fid pid = some map := by
  rcases dropped_leave orderly.inv orderly.distinct done with ⟨dropped, gone⟩
  have kept := (orderly.leave done).mem_records_iff.mpr held
  exact orderly.mem_records_iff.mp (gone.parts.mem_iff.mpr (List.mem_append_right _ kept))

/-- A departure leaves the services of another peer, unless it closes the cell. -/
theorem Orderly.services_leave_other (orderly : t.Orderly) (done : t.leave uuid cellID = .ok out)
    {fid : CellID} {pid : UUID} (apart : (fid, pid) ≠ (cellID, uuid))
    (spared : (fid, pid) ∈ t.entries → ¬t.Closes uuid cellID fid) :
    out.1.services fid pid = t.services fid pid := by
  rcases dropped_leave orderly.inv orderly.distinct done with ⟨dropped, gone⟩
  cases held : t.services fid pid with
  | none =>
      by_contra found
      rcases Option.ne_none_iff_exists'.mp found with ⟨map, heldAfter⟩
      cases held.symm.trans (orderly.services_of_leave done heldAfter)
  | some map =>
      have recorded := orderly.mem_records_iff.mpr held
      rcases List.mem_append.mp (gone.parts.mem_iff.mp recorded) with lost | kept
      · have present : (fid, pid) ∈ t.entries := by
          rw [entries_eq_map_records]
          exact List.mem_map_of_mem recorded
        exact absurd (gone.others _ lost apart) (spared present)
      · exact (orderly.leave done).mem_records_iff.mp kept

/-- Only the end of the root cell is a fault. -/
theorem exists_leave (inv : RepInv t) (spared : ¬t.Closes uuid cellID t.getRootCellID) :
    ∃ out, t.leave uuid cellID = .ok out := by
  have left := left_leave inv uuid cellID
  generalize t.leave uuid cellID = result at left
  cases left with
  | unknownCell unknown => exact ⟨_, rfl⟩
  | unknownPeer known found absent => exact ⟨_, rfl⟩
  | peer known found removed staffed => exact ⟨_, rfl⟩
  | cell known found removed deserted => exact ⟨_, rfl⟩
  | @root n info known found removed deserted =>
      exfalso
      apply spared
      refine ⟨[], known, n, found, info, removed, deserted, ?_⟩
      cases found
      rw [SlotTree.labels_eq, List.map_cons]
      exact List.mem_cons_self

end Services

end CellTree

end Stheno.Superpeer
