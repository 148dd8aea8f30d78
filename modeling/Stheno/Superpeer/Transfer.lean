import Stheno.Superpeer.Sites
import Stheno.Superpeer.TreeCodec

/-!
# The transferred tree answers alike

A copy of a tree differs from it in addresses only.  Queries do not look at
addresses, except for the walk of `getPoL`, which climbs by them; on both trees
that walk is the same fold.
-/

namespace Stheno.Superpeer

open Stheno.Tree Peer Wire

namespace CellTree

/-- The same shape, slot by slot, and the same fields at each node up to addresses. -/
def SameUpToPointers (t copy : CellTree) : Prop :=
  copy.rootNode.map CellTreeNode.forgetPointers = t.rootNode.map CellTreeNode.forgetPointers

theorem sameUpToPointers_relocated (t : CellTree) (base : Addr) :
    t.SameUpToPointers (t.relocated base) :=
  CellTreeNode.map_forgetPointers_relocate none base t.rootNode

namespace SameUpToPointers

variable {t copy : CellTree}

theorem labels_map {β : Type} (same : t.SameUpToPointers copy) (g : CellInfo → β)
    (ignores : ∀ info, g (CellTreeNode.forgetPointers info) = g info) :
    copy.rootNode.labels.map g = t.rootNode.labels.map g := by
  have forgotten := congrArg SlotTree.labels same
  rw [SlotTree.labels_map, SlotTree.labels_map] at forgotten
  have mapped := congrArg (List.map g) forgotten
  simpa [Function.comp_def, ignores] using mapped

theorem findPath (same : t.SameUpToPointers copy) (test : CellInfo → Bool)
    (ignores : ∀ info, test (CellTreeNode.forgetPointers info) = test info) :
    copy.rootNode.findPath test = t.rootNode.findPath test := by
  have searched := congrArg (SlotTree.findPath test) same
  rw [SlotTree.findPath_map, SlotTree.findPath_map] at searched
  simpa [ignores] using searched

theorem label_at? {β : Type} (same : t.SameUpToPointers copy) (g : CellInfo → β)
    (ignores : ∀ info, g (CellTreeNode.forgetPointers info) = g info) (path : Path) :
    (copy.rootNode.at? path).map (fun n => g n.label) =
      (t.rootNode.at? path).map fun n => g n.label := by
  have reached := congrArg (fun n => (n.at? path).map fun m => g m.label) same
  simpa [SlotTree.at?_map, Function.comp_def, ignores] using reached

theorem getPeer (same : t.SameUpToPointers copy) (pid : UUID) :
    copy.getPeer pid = t.getPeer pid := by
  have peers := same.labels_map (fun info => info.getPeer pid) fun _ => rfl
  have first := congrArg (List.findSome? id) peers
  simpa [CellTree.getPeer, List.findSome?_map] using first

theorem getCoordinators (same : t.SameUpToPointers copy) :
    copy.getCoordinators = t.getCoordinators :=
  same.labels_map CellInfo.getCoordinator fun _ => rfl

theorem findPeer (same : t.SameUpToPointers copy) (pid : UUID) :
    copy.findPeer pid = t.findPeer pid := by
  have peers := congrArg List.flatten (same.labels_map CellInfo.allPeers fun _ => rfl)
  rw [← List.flatMap_def, ← List.flatMap_def] at peers
  exact congrArg (firstEqual pid) peers

theorem superpeers (same : t.SameUpToPointers copy) : copy.superpeers = t.superpeers := by
  have peers := congrArg List.flatten (same.labels_map
    (fun info => info.getPeersByType P3PeerInfo.SUPERPEER_COORD) fun _ => rfl)
  rw [← List.flatMap_def, ← List.flatMap_def] at peers
  exact peers

end SameUpToPointers

/-- The search for a sensor's node does not look at addresses. -/
theorem getAvailableNodeForSensorI_map (type : UInt32) (t : CellTreeNode) :
    getAvailableNodeForSensorI type (t.map CellTreeNode.forgetPointers) =
      getAvailableNodeForSensorI type t := by
  induction t using SlotTree.induction with
  | node info slots ih =>
      have inSlots : ∀ (rest : List (Option CellTreeNode)) (i : Nat) (cur : Option (Path × Int))
          (maxDepth : Int), (∀ c, some c ∈ rest → some c ∈ slots) →
          getAvailableNodeForSensorOfSlots type i cur maxDepth
              (rest.map (Option.map (SlotTree.map CellTreeNode.forgetPointers))) =
            getAvailableNodeForSensorOfSlots type i cur maxDepth rest := by
        intro rest
        induction rest with
        | nil => simp [getAvailableNodeForSensorOfSlots]
        | cons slot rest restIh =>
            intro i cur maxDepth included
            have tail := fun i cur maxDepth => restIh i cur maxDepth fun c member =>
              included c (List.mem_cons_of_mem _ member)
            cases slot with
            | none => simpa [getAvailableNodeForSensorOfSlots] using tail _ _ _
            | some c =>
                have here := ih c (included c List.mem_cons_self)
                simp only [List.map_cons, Option.map_some, getAvailableNodeForSensorOfSlots, here,
                  tail]
      rw [SlotTree.map_node, getAvailableNodeForSensorI, getAvailableNodeForSensorI,
        inSlots slots 0 none (-1) fun c member => member]
      rfl

theorem SameUpToPointers.getAvailableNode {t copy : CellTree} (same : t.SameUpToPointers copy)
    (type : UInt32) : copy.getAvailableNode type = t.getAvailableNode type := by
  have superpeers : getAvailableNodeForSPI copy.rootNode type =
      getAvailableNodeForSPI t.rootNode type :=
    same.findPath (fun info => info.hasAvailableSlotsForPeer type) fun _ => rfl
  have sensors := congrArg (getAvailableNodeForSensorI type) same
  rw [getAvailableNodeForSensorI_map, getAvailableNodeForSensorI_map] at sensors
  rw [CellTree.getAvailableNode, CellTree.getAvailableNode, superpeers, sensors]

/-- Every query answers on the copy as it does on the tree.  The walk of `getPoL` ends on both
with a peer or without one, unless the filter has an entry that is longer than the identifiers it
is compared with. -/
structure AnswersAlike (t copy : CellTree) : Prop where
  getCoordinator : ∀ path,
    (copy.rootNode.at? path).map (fun node => node.label.getCoordinator) =
      (t.rootNode.at? path).map fun node => node.label.getCoordinator
  getCoordinators : copy.getCoordinators = t.getCoordinators
  getPeer : ∀ pid, copy.findPeer pid = t.findPeer pid
  getPoL : ∀ peer filter, copy.getPoL peer filter = t.getPoL peer filter
  ends : ∀ peer filter,
    (∀ superpeer ∈ t.superpeers, ∀ other ∈ filter,
      other.key.length ≤ superpeer.pid.key.length) →
    ∃ answer, t.getPoL peer filter = .ok answer
  getAvailableNode : ∀ type, copy.getAvailableNode type = t.getAvailableNode type

theorem answersAlike_of_same {t copy : CellTree} (same : t.SameUpToPointers copy)
    (inv : PointerInv t) (invCopy : PointerInv copy) : t.AnswersAlike copy where
  getCoordinator := same.label_at? CellInfo.getCoordinator fun _ => rfl
  getCoordinators := same.getCoordinators
  getPeer := same.findPeer
  getPoL := by
    intro peer filter
    rw [getPoL_eq_foldlM invCopy, getPoL_eq_foldlM inv, same.superpeers]
  ends := by
    intro peer filter bounded
    exact ⟨_, getPoL_eq_weigh inv (fun superpeer member =>
      isUUIDInList_of_le (bounded superpeer member)) peer⟩
  getAvailableNode := same.getAvailableNode

end CellTree

theorem PointerInv.relocated {t : CellTree} (inv : PointerInv t) (base : Addr) :
    PointerInv (t.relocated base) := by
  constructor
  · exact CellTreeNode.allEdges_relocate (fun _ _ _ _ _ _ edge => ⟨rfl, edge.2⟩) inv.linked none base
  · rw [CellTree.addrs, CellTree.relocated, (CellTreeNode.addrs_relocate none base t.rootNode).1]
    exact List.nodup_range'
  · rw [CellTree.relocated, CellTreeNode.label_relocate]

/-- Reading the bytes that `serialize` wrote for a tree, whatever follows them, gives a tree of
the same shape and contents with right pointers, which answers every query alike. -/
theorem transfer_roundTrip {t : CellTree} (inv : PointerInv t) (transferable : t.Transferable)
    {bytes : List UInt8} (written : t.serialize = .ok bytes) (base : Addr) (rest : List UInt8)
    (goodBit : Bool) :
    ∃ copy, CellTree.deserialize base ⟨bytes ++ rest, goodBit⟩ = .ok (copy, ⟨rest, goodBit⟩) ∧
      t.SameUpToPointers copy ∧ PointerInv copy ∧ t.AnswersAlike copy := by
  have same := t.sameUpToPointers_relocated base
  have invCopy := inv.relocated base
  rw [CellTree.octets_of_serialize written]
  exact ⟨t.relocated base, CellTree.reads_tree transferable base rest goodBit, same, invCopy,
    CellTree.answersAlike_of_same same inv invCopy⟩

/-- Two instances of the service 40, one of them with an access point. -/
def busyService : ServiceInfo where
  sid := ⟨[40]⟩
  runningServices :=
    ⟨[(⟨[41]⟩, ⟨⟨[40]⟩, ⟨[41]⟩, none⟩),
      (⟨[42]⟩, ⟨⟨[40]⟩, ⟨[42]⟩, some (SAPInfo.empty.addEndpoint ⟨1, ⟨[104], by decide, by decide⟩, 80, ⟨1, 2⟩⟩)⟩)],
      by decide⟩
  keyed := by decide

/-- A peer of a cell that runs the service 40. -/
def busyPeer (type : UInt32) (pid fid : UUID) : P3PeerInfo where
  __ := P3PeerInfo.announced type pid fid (some ⟨1, ⟨[104], by decide, by decide⟩, 81, ⟨1, 2⟩⟩) none
    (some SAPInfo.empty) none
  services := ⟨[(⟨[40]⟩, busyService)], by decide⟩
  keyed := by decide

/-- The root cell 1 with an empty first slot and the cell 3 in the second one, which has the cell
4 below it. -/
def gappedCells : CellTree :=
  let pair := ((CellTree.new defaults ⟨[1]⟩).createSiblingAt defaults [] ⟨[2]⟩).1.createSiblingAt
    defaults [] ⟨[3]⟩
  ((pair.1.modify [] fun node => node.setSlot 0 none).createSiblingAt defaults [1] ⟨[4]⟩).1

/-- The root cell has a superpeer, a sensor and a monitor, and the cell 4 two superpeers. -/
def busyTree : CellTree :=
  [busyPeer P3PeerInfo.SUPERPEER ⟨[11]⟩ ⟨[1]⟩, busyPeer P3PeerInfo.SENSOR ⟨[12]⟩ ⟨[1]⟩,
      busyPeer P3PeerInfo.MONITOR ⟨[13]⟩ ⟨[1]⟩, busyPeer P3PeerInfo.SUPERPEER ⟨[14]⟩ ⟨[4]⟩,
      P3PeerInfo.announced P3PeerInfo.SUPERPEER ⟨[15]⟩ ⟨[4]⟩ none none none none].foldl
    (fun tree peer => (tree.addPeer peer).1) gappedCells

theorem repInv_gappedCells : RepInv gappedCells := by
  have pair := ((RepInv.new defaults ⟨[1]⟩).createSiblingAt defaults [] ⟨[2]⟩).createSiblingAt
    defaults [] ⟨[3]⟩
  exact (pair.clear rfl rfl).createSiblingAt defaults [1] ⟨[4]⟩

theorem repInv_busyTree : RepInv busyTree :=
  ((((repInv_gappedCells.addPeer _).addPeer _).addPeer _).addPeer _).addPeer _

set_option maxRecDepth 4000 in
/-- Two cells with a gap before them, peers of all three kinds and their services survive the
transfer. -/
theorem transfer_busyTree :
    ∃ bytes copy, busyTree.serialize = .ok bytes ∧
      CellTree.deserialize 7 ⟨bytes ++ [9], true⟩ = .ok (copy, ⟨[9], true⟩) ∧
      busyTree.SameUpToPointers copy ∧ busyTree.AnswersAlike copy := by
  have written : busyTree.serialize = .ok busyTree.octets :=
    CellTree.serialize_of_initialized (by decide)
  rcases transfer_roundTrip repInv_busyTree.pointerInv ⟨by decide, by decide⟩ written 7 [9] true with
    ⟨copy, read, same, -, alike⟩
  exact ⟨_, copy, written, read, same, alike⟩

end Stheno.Superpeer
