import Mathlib.Data.List.Lookmap
import Stheno.Peer.Services
import Stheno.Superpeer.Departure

/-!
# Service updates of a cell tree

`Cell::processUpdateInfo` finds the peer that an update names and changes its service
map in place.  A service update that cannot be made leaves the inner switch, and as
no `break` ends the outer case the function runs on into the case of the sensors.
-/

namespace Stheno.Superpeer

open Stheno.Tree Peer

/-- A service update with the peer that makes it and the cell of the peer. -/
structure MeshUpdateInfo where
  pid : UUID
  fid : CellID
  update : ServiceUpdate

structure SensorInfoUpdate where
  operation : UInt32
  uuid : UUID
  endpoint : Endpoint

inductive InfoUpdate where
  | mesh (info : MeshUpdateInfo)
  | sensor (info : SensorInfoUpdate)

/-! ## The cell tree -/

/-- Change the record that `getPeer` finds. -/
def CellInfo.updatePeer (this : CellInfo) (pid : UUID) (f : P3PeerInfo → P3PeerInfo) : CellInfo :=
  match [PeerList.sps, .sensors, .monitors].find? fun list =>
      (this.peers list).any fun temp => temp.pid.sameKey pid with
  | none => this
  | some list =>
      this.setPeers list
        ((this.peers list).lookmap fun temp => if temp.pid.sameKey pid then some (f temp) else none)

namespace CellTree

/-- The service map of a peer in a cell. -/
def services (this : CellTree) (fid : CellID) (pid : UUID) : Option ServiceMap :=
  (this.getCellTreeNode fid).bind fun path =>
    (this.rootNode.at? path).bind fun node =>
      (node.label.getPeer pid).map fun peer => peer.serviceMap

/-- The case of a service update; `none` where it leaves the inner switch by `break`. -/
def updateServices (this : CellTree) (info : MeshUpdateInfo) : Option CellTree :=
  match this.getCellTreeNode info.fid with
  | none => none
  | some path =>
      match (this.rootNode.at? path).bind fun node => node.label.getPeer info.pid with
      | none => none
      | some peerInfo =>
          (peerInfo.serviceMap.update info.update).map fun map =>
            this.modify path (SlotTree.mapLabel fun cell =>
              cell.updatePeer info.pid fun peer => peer.withServices map)

/-- The sensors have no operation of a service update, so the pointer to the list is
null when an update that was not made comes there. -/
def processUpdateInfo (this : CellTree) (info : MeshUpdateInfo) : Result CellTree :=
  match this.updateServices info with
  | some tree => .ok tree
  | none => .error .nullDereference

end CellTree

/-! ## The sensors -/

inductive SensorKind where
  | audio
  | video
  | event
  | actuator
  deriving DecidableEq

/-- `SENSOR_UPDATE_AUDIO_OP` to `SENSOR_UPDATE_ACTUATOR_OP`. -/
def SensorKind.ofOperation (operation : UInt32) : Option SensorKind :=
  if operation = 1 then some .audio
  else if operation = 2 then some .video
  else if operation = 3 then some .event
  else if operation = 4 then some .actuator
  else none

/-- No service update has the operation of a sensor. -/
theorem SensorKind.ofOperation_update (update : ServiceUpdate) :
    ofOperation update.operation = none := by
  cases update <;> rfl

structure SensorInfo where
  type : SensorKind
  uuid : UUID
  endpoint : Endpoint
  deriving DecidableEq

/-- What `processUpdateInfo` works on: the tree and the four lists of sensors. -/
structure CellData where
  cellTree : CellTree
  sensors : SensorKind → List SensorInfo

/-- `Cell::processUpdateInfo`, which answers 0 wherever it returns. -/
def CellData.processUpdateInfo (this : CellData) : InfoUpdate → Result CellData
  | .mesh info => (this.cellTree.processUpdateInfo info).map fun tree => { this with cellTree := tree }
  | .sensor info =>
      match SensorKind.ofOperation info.operation with
      | none => .error .nullDereference
      | some kind =>
          if (this.sensors kind).any fun sensor => sensor.uuid.sameKey info.uuid then
            .ok this
          else
            .ok { this with
              sensors := Function.update this.sensors kind
                (this.sensors kind ++ [{ type := kind, uuid := info.uuid, endpoint := info.endpoint }]) }

/-! ## What an update changes -/

section Lookmap

variable {α : Type} {f : α → Option α} {first : List α}

theorem lookmap_append_of_hit (hit : ∃ a ∈ first, (f a).isSome = true) (second : List α) :
    (first ++ second).lookmap f = first.lookmap f ++ second := by
  induction first with
  | nil =>
      rcases hit with ⟨a, impossible, -⟩
      cases impossible
  | cons head rest inductionHypothesis =>
      cases here : f head with
      | some changed =>
          rw [List.cons_append, List.lookmap_cons_some _ _ here, List.lookmap_cons_some _ _ here,
            List.cons_append]
      | none =>
          have later : ∃ a ∈ rest, (f a).isSome = true := by
            rcases hit with ⟨a, member, some_here⟩
            rcases List.mem_cons.mp member with rfl | inRest
            · rw [here] at some_here
              cases some_here
            · exact ⟨a, inRest, some_here⟩
          rw [List.cons_append, List.lookmap_cons_none _ _ here, List.lookmap_cons_none _ _ here,
            inductionHypothesis later, List.cons_append]

theorem lookmap_append_of_miss (miss : ∀ a ∈ first, f a = none) (second : List α) :
    (first ++ second).lookmap f = first ++ second.lookmap f := by
  induction first with
  | nil => rfl
  | cons head rest inductionHypothesis =>
      have here := miss head List.mem_cons_self
      rw [List.cons_append, List.lookmap_cons_none _ _ here,
        inductionHypothesis fun a member => miss a (List.mem_cons_of_mem _ member), List.cons_append]

/-- The first hit of a search changes alike before and after a map. -/
theorem map_lookmap {β : Type} {g : α → β} {h : β → Option β}
    (alike : ∀ a, (f a).map g = h (g a)) (l : List α) :
    (l.lookmap f).map g = (l.map g).lookmap h := by
  induction l with
  | nil => rfl
  | cons a l inductionHypothesis =>
      have first := alike a
      cases here : f a with
      | none =>
          rw [here] at first
          rw [List.lookmap_cons_none _ _ here, List.map_cons, List.map_cons,
            List.lookmap_cons_none _ _ first.symm, inductionHypothesis]
      | some changed =>
          rw [here] at first
          rw [List.lookmap_cons_some _ _ here, List.map_cons, List.map_cons,
            List.lookmap_cons_some _ _ first.symm]

end Lookmap

theorem find?_lookmap (peers : List P3PeerInfo) (pid : UUID) {f : P3PeerInfo → P3PeerInfo}
    (kept : ∀ peer, (f peer).pid = peer.pid) (other : UUID) :
    (peers.lookmap fun temp => if temp.pid.sameKey pid then some (f temp) else none).find?
        (fun info => info.pid.sameKey other) =
      if other = pid then (peers.find? fun info => info.pid.sameKey pid).map f
      else peers.find? fun info => info.pid.sameKey other := by
  induction peers with
  | nil =>
      rw [List.lookmap_nil]
      split <;> rfl
  | cons peer peers inductionHypothesis =>
      cases here : peer.pid.sameKey pid with
      | true =>
          have first : (if peer.pid.sameKey pid then some (f peer) else none) = some (f peer) :=
            if_pos here
          rw [List.lookmap_cons_some _ _ first]
          simp only [List.find?_cons, kept, here]
          by_cases asked : other = pid
          · rw [if_pos asked, asked, here]
            rfl
          · have skipped : peer.pid.sameKey other = false := by
              rw [Bool.eq_false_iff, ne_eq, UUID.sameKey_iff, UUID.sameKey_iff.mp here]
              exact fun equal => asked equal.symm
            rw [if_neg asked, skipped]
      | false =>
          have first : (if peer.pid.sameKey pid then some (f peer) else none) = none :=
            if_neg (Bool.eq_false_iff.mp here)
          rw [List.lookmap_cons_none _ _ first]
          simp only [List.find?_cons, here, inductionHypothesis]
          by_cases asked : other = pid
          · rw [if_pos asked, if_pos asked, asked, here]
          · rw [if_neg asked, if_neg asked]

namespace CellInfo

theorem sameNode_updatePeer (info : CellInfo) (pid : UUID) (f : P3PeerInfo → P3PeerInfo) :
    SameNode info (info.updatePeer pid f) := by
  unfold updatePeer
  split
  · exact ⟨rfl, rfl, rfl, rfl, rfl, rfl, rfl, rfl⟩
  · exact sameNode_setPeers info _ _

/-- The lists of the cell, one behind the other, change where the search hits first. -/
theorem allPeers_updatePeer (info : CellInfo) (pid : UUID) (f : P3PeerInfo → P3PeerInfo) :
    (info.updatePeer pid f).allPeers =
      info.allPeers.lookmap fun temp => if temp.pid.sameKey pid then some (f temp) else none := by
  have hits : ∀ list, ((info.peers list).any fun temp => temp.pid.sameKey pid) = true →
      ∃ temp ∈ info.peers list,
        (if temp.pid.sameKey pid then some (f temp) else none).isSome = true := by
    intro list some_here
    rcases List.any_eq_true.mp some_here with ⟨temp, member, same⟩
    exact ⟨temp, member, by rw [if_pos same]; rfl⟩
  have misses : ∀ list, ((info.peers list).any fun temp => temp.pid.sameKey pid) = false →
      ∀ temp ∈ info.peers list,
        (if temp.pid.sameKey pid then some (f temp) else none) = none := by
    intro list none_here temp member
    exact if_neg (List.any_eq_false.mp none_here temp member)
  have whole : info.allPeers =
      info.peers .sps ++ (info.peers .sensors ++ info.peers .monitors) := List.append_assoc _ _ _
  unfold updatePeer
  rw [List.find?_cons, List.find?_cons, List.find?_cons, List.find?_nil, whole]
  cases inSPs : (info.peers .sps).any fun temp => temp.pid.sameKey pid with
  | true =>
      rw [lookmap_append_of_hit (hits .sps inSPs)]
      exact List.append_assoc _ _ _
  | false =>
      rw [lookmap_append_of_miss (misses .sps inSPs)]
      cases inSensors : (info.peers .sensors).any fun temp => temp.pid.sameKey pid with
      | true =>
          rw [lookmap_append_of_hit (hits .sensors inSensors)]
          exact List.append_assoc _ _ _
      | false =>
          rw [lookmap_append_of_miss (misses .sensors inSensors)]
          cases inMonitors : (info.peers .monitors).any fun temp => temp.pid.sameKey pid with
          | true => exact List.append_assoc _ _ _
          | false =>
              rw [List.lookmap_of_forall_not _ (misses .monitors inMonitors)]
              exact whole

/-- The record of the peer changes and no other record does. -/
theorem getPeer_updatePeer (info : CellInfo) (pid : UUID) {f : P3PeerInfo → P3PeerInfo}
    (kept : ∀ peer, (f peer).pid = peer.pid) (other : UUID) :
    (info.updatePeer pid f).getPeer other =
      if other = pid then (info.getPeer pid).map f else info.getPeer other := by
  have searched : ∀ cell uuid, CellInfo.getPeer cell uuid =
      cell.allPeers.find? fun peer => peer.pid.sameKey uuid := fun _ _ => rfl
  simp only [searched, allPeers_updatePeer]
  exact find?_lookmap info.allPeers pid kept other

end CellInfo

namespace CellTree

variable {t after : CellTree}

/-- Relabelling a node changes no services but those that its two labels differ in. -/
theorem services_relabel {path : Path} {n : CellTreeNode} {info : CellInfo}
    (found : t.rootNode.at? path = some n) (same : CellInfo.SameNode n.label info)
    {fid : CellID} {pid : UUID}
    (kept : n.label.cellID = fid → (info.getPeer pid).map (fun peer => peer.serviceMap) =
      (n.label.getPeer pid).map fun peer => peer.serviceMap) :
    (t.modify path (SlotTree.mapLabel fun _ => info)).services fid pid = t.services fid pid := by
  -- the services of the cells `fid`, and nothing of the others
  let listed : CellInfo → Option ServiceMap := fun cell =>
    if cell.cellID = fid then (cell.getPeer pid).map fun peer => peer.serviceMap else none
  have agrees : listed info = listed n.label := by
    simp only [listed, same.cellID]
    by_cases here : n.label.cellID = fid
    · rw [if_pos here, if_pos here, kept here]
    · rw [if_neg here, if_neg here]
  have reads : ∀ tree : CellTree, tree.services fid pid =
      (tree.getCellTreeNode fid).bind fun path =>
        ((tree.rootNode.map listed).at? path).bind fun node => node.label := by
    intro tree
    unfold services
    cases known : tree.getCellTreeNode fid with
    | none => rfl
    | some path =>
        rcases getCellTreeNode_eq_some known with ⟨m, foundM, cellID⟩
        simp only [Option.bind_some, SlotTree.at?_map, foundM, Option.map_some, SlotTree.label_map,
          listed, cellID, if_true]
  rw [reads, reads, getCellTreeNode_relabel found same, map_relabel found agrees]

/-- What a service update does to the tree. -/
inductive Updated (t : CellTree) (info : MeshUpdateInfo) : Result CellTree → Prop where
  /-- The service map of the peer changes, and no other. -/
  | made {map updated : ServiceMap} {path : Path} {n : CellTreeNode}
      (known : t.getCellTreeNode info.fid = some path) (found : t.rootNode.at? path = some n)
      (running : t.services info.fid info.pid = some map)
      (fits : map.update info.update = some updated) :
      Updated t info (.ok (t.modify path (SlotTree.mapLabel fun _ =>
        n.label.updatePeer info.pid fun peer => peer.withServices updated)))
  /-- The peer is not known, or the update does not fit its service map. -/
  | fault (unmade : (t.services info.fid info.pid).bind (fun map => map.update info.update) = none) :
      Updated t info (.error .nullDereference)

theorem updated_processUpdateInfo (t : CellTree) (info : MeshUpdateInfo) :
    Updated t info (t.processUpdateInfo info) := by
  unfold processUpdateInfo updateServices
  cases known : t.getCellTreeNode info.fid with
  | none =>
      apply Updated.fault
      rw [services, known]
      rfl
  | some path =>
      rcases getCellTreeNode_eq_some known with ⟨n, found, -⟩
      simp only [found, Option.bind_some]
      cases held : n.label.getPeer info.pid with
      | none =>
          apply Updated.fault
          simp only [services, known, found, held, Option.bind_some, Option.map_none, Option.bind_none]
      | some peer =>
          have running : t.services info.fid info.pid = some peer.serviceMap := by
            simp only [services, known, found, held, Option.bind_some, Option.map_some]
          simp only
          cases fits : peer.serviceMap.update info.update with
          | none =>
              apply Updated.fault
              rw [running]
              exact fits
          | some updated =>
              have relabelled : t.modify path (SlotTree.mapLabel fun cell =>
                  cell.updatePeer info.pid fun peer => peer.withServices updated) =
                    t.modify path (SlotTree.mapLabel fun _ =>
                      n.label.updatePeer info.pid fun peer => peer.withServices updated) :=
                modify_congr found rfl
              simp only [Option.map_some, relabelled]
              exact .made known found running fits

/-- The update of the peer's service map is the only change of services. -/
theorem services_of_made {info : MeshUpdateInfo} {updated : ServiceMap} {path : Path}
    {n : CellTreeNode} (known : t.getCellTreeNode info.fid = some path)
    (found : t.rootNode.at? path = some n) (fid : CellID) (pid : UUID) :
    (t.modify path (SlotTree.mapLabel fun _ =>
        n.label.updatePeer info.pid fun peer => peer.withServices updated)).services fid pid =
      if fid = info.fid ∧ pid = info.pid then (t.services fid pid).map fun _ => updated
      else t.services fid pid := by
  have same := n.label.sameNode_updatePeer info.pid fun peer => peer.withServices updated
  have record := n.label.getPeer_updatePeer info.pid
    (f := fun peer => peer.withServices updated) (fun _ => rfl)
  by_cases here : fid = info.fid ∧ pid = info.pid
  · rcases here with ⟨rfl, rfl⟩
    rw [if_pos ⟨rfl, rfl⟩]
    unfold services
    rw [getCellTreeNode_relabel found same, known]
    simp only [Option.bind_some, modify, SlotTree.at?_modifyAt_self, found, Option.map_some,
      SlotTree.mapLabel, SlotTree.label_node, record, if_true, Option.map_map]
    rfl
  · rw [if_neg here]
    apply services_relabel found same
    intro cellID
    have other : pid ≠ info.pid := by
      intro samePID
      rcases getCellTreeNode_eq_some known with ⟨m, foundM, cellIDHere⟩
      cases found.symm.trans foundM
      exact here ⟨cellID.symm.trans cellIDHere, samePID⟩
    rw [record, if_neg other]

/-- An update that the tree takes fits the service map that it holds for the peer. -/
theorem services_of_processUpdateInfo {info : MeshUpdateInfo}
    (done : t.processUpdateInfo info = .ok after) :
    ∃ map updated, t.services info.fid info.pid = some map ∧
      map.update info.update = some updated ∧ after.services info.fid info.pid = some updated := by
  have updated := t.updated_processUpdateInfo info
  rw [done] at updated
  cases updated with
  | made known found running fits =>
      refine ⟨_, _, running, fits, ?_⟩
      rw [services_of_made known found, if_pos ⟨rfl, rfl⟩, running]
      rfl

/-- An update that fits the service map is taken. -/
theorem exists_processUpdateInfo {info : MeshUpdateInfo} {map updated : ServiceMap}
    (running : t.services info.fid info.pid = some map)
    (fits : map.update info.update = some updated) :
    ∃ after, t.processUpdateInfo info = .ok after ∧
      after.services info.fid info.pid = some updated := by
  have outcome := t.updated_processUpdateInfo info
  generalize made : t.processUpdateInfo info = result at outcome
  cases outcome with
  | made known found runningHere fitsHere =>
      cases running.symm.trans runningHere
      cases fits.symm.trans fitsHere
      refine ⟨_, rfl, ?_⟩
      rw [services_of_made known found, if_pos ⟨rfl, rfl⟩, running]
      rfl
  | fault unmade =>
      rw [running, Option.bind_some, fits] at unmade
      cases unmade

end CellTree

end Stheno.Superpeer
