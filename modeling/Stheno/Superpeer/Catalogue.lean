import Stheno.Superpeer.Agreement
import Stheno.Superpeer.UpdateInfo

/-!
# The catalogue behind a cell tree

A catalogue keeps more of a cell tree than a directory: beside each peer it has the
service map of the peer.  The updates of the mesh are updates of the catalogue, and so
are those of the services, so that a follower whose catalogue is that of its
coordinator keeps it by making the same updates.
-/

namespace Stheno.Superpeer

open Stheno.Tree Peer

/-- What a catalogue records of a cell. -/
structure CatalogueCell where
  cellID : CellID
  depth : Int
  max : PeerList → Int
  peers : PeerList → List (UUID × ServiceMap)

namespace CatalogueCell

def isFull (this : CatalogueCell) (list : PeerList) : Bool :=
  (this.max list % 2 ^ 64).toNat ≤ (this.peers list).length

def lists (this : CatalogueCell) (list : PeerList) (pid : UUID) : Bool :=
  (this.peers list).any fun entry => entry.1.sameKey pid

def setPeers (this : CatalogueCell) (list : PeerList) (peers : List (UUID × ServiceMap)) :
    CatalogueCell :=
  { this with peers := Function.update this.peers list peers }

/-- Record a peer with its services in the list of its type. -/
def add (this : CatalogueCell) (peer : P3PeerInfo) : Option CatalogueCell :=
  match PeerList.ofType peer.type with
  | none => none
  | some list =>
      if this.lists list peer.pid then
        none
      else if this.isFull list then
        none
      else
        some (this.setPeers list (this.peers list ++ [(peer.pid, peer.serviceMap)]))

/-- The first list that records a peer. -/
def listOf (this : CatalogueCell) (pid : UUID) : Option PeerList :=
  [PeerList.sps, .sensors, .monitors].find? fun list => this.lists list pid

/-- Strike a peer from the first list that records it. -/
def remove (this : CatalogueCell) (pid : UUID) : Option CatalogueCell :=
  (this.listOf pid).map fun list =>
    this.setPeers list ((this.peers list).eraseP fun entry => entry.1.sameKey pid)

/-- Replace the service map of a peer in the first list that records it. -/
def setServices (this : CatalogueCell) (pid : UUID) (map : ServiceMap) : CatalogueCell :=
  match this.listOf pid with
  | none => this
  | some list =>
      this.setPeers list ((this.peers list).lookmap fun entry =>
        if entry.1.sameKey pid then some (entry.1, map) else none)

/-- The service map beside a peer. -/
def services (this : CatalogueCell) (pid : UUID) : Option ServiceMap :=
  ((this.peers .sps ++ this.peers .sensors ++ this.peers .monitors).find? fun entry =>
    entry.1.sameKey pid).map Prod.snd

/-- A cell without peers, with the capacities configured for its depth. -/
def new (config : P3Configuration) (cellID : CellID) (depth : Int) : CatalogueCell where
  cellID
  depth
  max
    | .sps => P3Configuration.lookupValue (config.CELL_SPS depth) 2
    | .sensors => P3Configuration.lookupValue (config.CELL_SENSORS depth) 80
    | .monitors => P3Configuration.lookupValue (config.CELL_MONITORS depth) 2
  peers := fun _ => []

end CatalogueCell

/-! ## The catalogue of a cell tree -/

/-- What a catalogue records of a peer. -/
def CatalogueCell.entry (peer : P3PeerInfo) : UUID × ServiceMap :=
  (peer.pid, peer.serviceMap)

namespace CellInfo

def catalogueCell (this : CellInfo) : CatalogueCell where
  cellID := this.cellID
  depth := this.depth
  max := this.max
  peers := fun list => (this.peers list).map CatalogueCell.entry

theorem catalogueCell_isFull (info : CellInfo) (list : PeerList) :
    info.catalogueCell.isFull list = info.isFull list := by
  simp only [CatalogueCell.isFull, isFull, catalogueCell, List.length_map]

theorem catalogueCell_lists (info : CellInfo) (list : PeerList) (pid : UUID) :
    info.catalogueCell.lists list pid = (info.peers list).any fun temp => temp.pid.sameKey pid := by
  rw [CatalogueCell.lists, catalogueCell, List.any_map]
  rfl

theorem catalogueCell_setPeers (info : CellInfo) (list : PeerList) (peers : List P3PeerInfo) :
    (info.setPeers list peers).catalogueCell =
      info.catalogueCell.setPeers list (peers.map CatalogueCell.entry) := by
  have records : ∀ other, ((info.setPeers list peers).peers other).map CatalogueCell.entry =
      Function.update info.catalogueCell.peers list (peers.map CatalogueCell.entry) other := by
    intro other
    rw [peers_setPeers, Function.update_apply]
    split <;> rfl
  have same := sameNode_setPeers info list peers
  unfold catalogueCell CatalogueCell.setPeers
  rw [same.cellID, same.depth, max_setPeers, funext records]
  rfl

theorem catalogueCell_add (info : CellInfo) (peer : P3PeerInfo) :
    (info.add peer).map catalogueCell = info.catalogueCell.add peer := by
  unfold add CatalogueCell.add
  cases PeerList.ofType peer.type with
  | none => rfl
  | some list =>
      simp only [catalogueCell_lists, catalogueCell_isFull]
      split
      · rfl
      · split
        · rfl
        · rw [Option.map_some, catalogueCell_setPeers, List.map_append]
          rfl

theorem catalogueCell_remove (info : CellInfo) (pid : UUID) :
    (info.remove pid).map catalogueCell = info.catalogueCell.remove pid := by
  have erased : ∀ list, (info.setPeers list
      ((info.peers list).eraseP fun temp => temp.pid.sameKey pid)).catalogueCell =
        info.catalogueCell.setPeers list
          ((info.catalogueCell.peers list).eraseP fun entry => entry.1.sameKey pid) := by
    intro list
    rw [catalogueCell_setPeers, catalogueCell, List.eraseP_map]
    rfl
  unfold remove CatalogueCell.remove CatalogueCell.listOf
  rw [List.find?_cons, List.find?_cons, List.find?_cons, List.find?_nil]
  simp only [catalogueCell_lists, peers]
  cases info.sps.any fun temp => temp.pid.sameKey pid with
  | true => exact congrArg some (erased .sps)
  | false =>
      cases info.sensors.any fun temp => temp.pid.sameKey pid with
      | true => exact congrArg some (erased .sensors)
      | false =>
          cases info.monitors.any fun temp => temp.pid.sameKey pid with
          | true => exact congrArg some (erased .monitors)
          | false => rfl

/-- The record of a peer changes beside its entry. -/
theorem catalogueCell_updatePeer (info : CellInfo) (pid : UUID) (map : ServiceMap) :
    (info.updatePeer pid fun peer => peer.withServices map).catalogueCell =
      info.catalogueCell.setServices pid map := by
  unfold updatePeer CatalogueCell.setServices CatalogueCell.listOf
  simp only [catalogueCell_lists]
  cases [PeerList.sps, .sensors, .monitors].find? fun list =>
      (info.peers list).any fun temp => temp.pid.sameKey pid with
  | none => rfl
  | some list =>
      have alike : ∀ temp : P3PeerInfo,
          (if temp.pid.sameKey pid then some (temp.withServices map) else none).map
              CatalogueCell.entry =
            if (CatalogueCell.entry temp).1.sameKey pid then some ((CatalogueCell.entry temp).1, map)
            else none := by
        intro temp
        rw [CatalogueCell.entry]
        split <;> rfl
      simp only
      rw [catalogueCell_setPeers,
        map_lookmap (h := fun entry => if entry.1.sameKey pid then some (entry.1, map) else none) alike]
      rfl

theorem catalogueCell_services (info : CellInfo) (pid : UUID) :
    info.catalogueCell.services pid = (info.getPeer pid).map fun peer => peer.serviceMap := by
  unfold CatalogueCell.services getPeer
  simp only [catalogueCell, peers]
  rw [← List.map_append, ← List.map_append, List.find?_map, Option.map_map]
  rfl

end CellInfo

/-- The catalogue as a view. -/
def catalogueView : CellView CatalogueCell where
  view := CellInfo.catalogueCell
  cellID := CatalogueCell.cellID
  depth := CatalogueCell.depth
  deserted := fun cell => (cell.peers .sps).isEmpty = true
  decideDeserted := fun _ => inferInstance
  new := CatalogueCell.new
  add := CatalogueCell.add
  remove := CatalogueCell.remove
  cellID_view := fun _ => rfl
  depth_view := fun _ => rfl
  deserted_view := by
    intro info
    rw [List.isEmpty_iff, CellInfo.catalogueCell, List.map_eq_nil_iff]
    rfl
  view_placed := fun _ _ _ _ => rfl
  view_new := by
    intro config addr cellID parent spanNo depth
    unfold CellInfo.catalogueCell CatalogueCell.new
    congr 1
    funext list
    cases list <;> rfl
  view_add := CellInfo.catalogueCell_add
  view_remove := CellInfo.catalogueCell_remove

namespace CellTree

variable {t copy after : CellTree}

def catalogue (this : CellTree) : SlotTree CatalogueCell :=
  catalogueView.tree this

/-- The service map of a peer stands in the catalogue. -/
theorem services_eq (t : CellTree) (fid : CellID) (pid : UUID) :
    t.services fid pid =
      (catalogueView.findCell t.catalogue fid).bind fun path =>
        (t.catalogue.at? path).bind fun node => node.label.services pid := by
  rw [catalogue, CellView.findCell_tree]
  unfold services
  cases t.getCellTreeNode fid with
  | none => rfl
  | some path =>
      simp only [Option.bind_some, CellView.at?_tree]
      cases t.rootNode.at? path with
      | none => rfl
      | some n =>
          rw [Option.bind_some, Option.map_some, Option.bind_some, SlotTree.label_map]
          exact (n.label.catalogueCell_services pid).symm

theorem services_of_catalogue (same : copy.catalogue = t.catalogue) (fid : CellID) (pid : UUID) :
    copy.services fid pid = t.services fid pid := by
  rw [services_eq, services_eq, same]

/-- The catalogue after a service update that is made. -/
theorem catalogue_processUpdateInfo {info : MeshUpdateInfo}
    (done : t.processUpdateInfo info = .ok after) :
    ∃ map updated path, t.services info.fid info.pid = some map ∧
      map.update info.update = some updated ∧ t.getCellTreeNode info.fid = some path ∧
      after.catalogue = t.catalogue.modifyAt
        (SlotTree.mapLabel fun cell => cell.setServices info.pid updated) path := by
  have outcome := t.updated_processUpdateInfo info
  rw [done] at outcome
  cases outcome with
  | @made map updated path n known found running fits =>
      refine ⟨map, updated, path, running, fits, known, ?_⟩
      have atPath : t.catalogue.at? path = some (n.map catalogueView.view) := by
        rw [catalogue, CellView.at?_tree, found, Option.map_some]
      rw [catalogue, CellView.tree_relabel found]
      apply SlotTree.modifyAt_congr atPath
      rw [SlotTree.mapLabel, SlotTree.mapLabel, SlotTree.label_map]
      exact congrArg (fun cell => SlotTree.node cell _)
        (CellInfo.catalogueCell_updatePeer _ info.pid _)

/-- Trees with one catalogue make the same service updates. -/
theorem processUpdateInfo_of_catalogue (same : copy.catalogue = t.catalogue)
    {info : MeshUpdateInfo} (done : t.processUpdateInfo info = .ok after) :
    ∃ copyAfter, copy.processUpdateInfo info = .ok copyAfter ∧
      copyAfter.catalogue = after.catalogue := by
  rcases catalogue_processUpdateInfo done with ⟨map, updated, path, running, fits, known, shown⟩
  have runningCopy := (services_of_catalogue same info.fid info.pid).trans running
  rcases exists_processUpdateInfo runningCopy fits with ⟨copyAfter, made, -⟩
  rcases catalogue_processUpdateInfo made with
    ⟨mapCopy, updatedCopy, pathCopy, held, fitsCopy, knownCopy, shownCopy⟩
  cases runningCopy.symm.trans held
  cases fits.symm.trans fitsCopy
  have samePath : path = pathCopy := by
    have searched := congrArg (fun d => catalogueView.findCell d info.fid) same
    simp only [catalogue, CellView.findCell_tree, known, knownCopy] at searched
    exact (Option.some.inj searched).symm
  refine ⟨copyAfter, made, ?_⟩
  rw [shownCopy, shown, same, samePath]

end CellTree

theorem RepInv.processUpdateInfo {t after : CellTree} (inv : RepInv t) {info : MeshUpdateInfo}
    (done : t.processUpdateInfo info = .ok after) : RepInv after := by
  have outcome := t.updated_processUpdateInfo info
  rw [done] at outcome
  cases outcome with
  | made known found running fits => exact inv.relabel found (CellInfo.sameNode_updatePeer _ _ _)

end Stheno.Superpeer
