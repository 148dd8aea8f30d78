import Stheno.Run
import Stheno.Superpeer.Requests

/-!
# The addresses of cells

The members of a cell listen on a multicast address, and a reply to a REQUEST_CELL
carries the address of the offered cell and of the cell above.  A coordinator takes a
port for a cell that it creates, and announces it in the reply to the request that
created the cell.
-/

namespace Stheno.Superpeer

open Stheno.Tree Peer

/-- The address that the members of a cell listen on. -/
structure CellAddr where
  cellID : CellID
  itf : String
  ip : String
  port : Int16
  deriving DecidableEq

/-- The entries of the configuration file for the discovery of cells. -/
structure DiscoveryConfiguration where
  CELL_MULTICAST_INTERFACE : Option String
  CELL_ROOT_DISCOVERY_IP : Option String
  CELL_ROOT_DISCOVERY_PORT : Option Int

namespace DiscoveryConfiguration

/-- `lookupValue` for a `Short`, which takes the low 16 bits of what is configured. -/
def lookupShort (entry : Option Int) : Option Int16 :=
  entry.bind fun value => if value > 1 <<< 16 then none else some (Int16.ofInt value)

def rootDiscoveryPort (this : DiscoveryConfiguration) : Option Int16 :=
  lookupShort this.CELL_ROOT_DISCOVERY_PORT

/-- An entry without which a `CellException` is thrown, which no caller catches. -/
def required {α : Type} (entry : Option α) : Result α :=
  match entry with
  | some value => .ok value
  | none => .error .uncaughtException

end DiscoveryConfiguration

/-- `node->setPort(port)`. -/
def CellTree.setPort (this : CellTree) (node : CellTreeNode) (port : Int16) : CellTree :=
  match this.deref node.label.addr with
  | some path => this.modify path (SlotTree.mapLabel fun info => { info with port := port.toInt })
  | none => this

/-- A coordinator with what it needs to announce addresses. -/
structure Coordinator where
  cell : Cell
  /-- The invalid identifier, here null, in the root cell. -/
  parentCellID : Option CellID
  startAllocationPort : Int16

/-- The reply with its two addresses. -/
structure AddressedReply where
  reply : CellReply
  cellAddr : CellAddr
  parentCellAddr : Option CellAddr

namespace Coordinator

def isRoot (this : Coordinator) : Bool :=
  this.parentCellID.isNone

/-- No cell has room for a superpeer. -/
def full (this : Coordinator) : Bool :=
  (this.cell.cellTree.getAvailableNode P3PeerInfo.SUPERPEER).isNone

/-- The constructor and `joinCoordinator`, which starts a tree of the own cell with the own
record, whose type is that of a coordinator. -/
def opened (config : P3Configuration) (entries : DiscoveryConfiguration) (own : P3PeerInfo)
    (parentCellID : Option CellID) (parentChannel : Option ParentChannel) :
    Result Coordinator := do
  let startAllocationPort ← DiscoveryConfiguration.required entries.rootDiscoveryPort
  pure
    { cell :=
        { pid := own.pid
          cellID := own.fid
          cellTree := ((CellTree.new config own.fid).addPeer own).1
          parentChannel }
      parentCellID
      startAllocationPort := startAllocationPort + 1 }

/-- The local `port` of `handleCellRequest`, which starts as -1. -/
def announcedPort (entries : DiscoveryConfiguration) (this : Coordinator) (tree : CellTree)
    (node : CellTreeNode) : Result Int16 :=
  if this.isRoot ∧ node.label.addr = tree.rootNode.label.addr then
    DiscoveryConfiguration.required entries.rootDiscoveryPort
  else if this.full then
    .ok this.startAllocationPort
  else
    .ok (-1)

/-- `handleCellRequest` for a new peer.  Both addresses carry the port of the reply. -/
def handleCellRequest (config : P3Configuration) (entries : DiscoveryConfiguration)
    (this : Coordinator) (generated : CellID) : Result (Coordinator × AddressedReply) := do
  let (tree, node) ← this.cell.cellTree.offer config generated
  let itf ← DiscoveryConfiguration.required entries.CELL_MULTICAST_INTERFACE
  let ip ← DiscoveryConfiguration.required entries.CELL_ROOT_DISCOVERY_IP
  let port ← this.announcedPort entries tree node
  let reply ← Cell.offerReply tree node
  let cellTree := if this.full then tree.setPort node this.startAllocationPort else tree
  pure
    ({ this with
        cell := { this.cell with cellTree }
        startAllocationPort :=
          if this.full then this.startAllocationPort + 1 else this.startAllocationPort },
      { reply
        cellAddr := { cellID := node.label.cellID, itf, ip, port }
        parentCellAddr := reply.parent.map fun parent => { cellID := parent.1, itf, ip, port } })

end Coordinator

/-- A reply that was sent, and whether its cell was created for it. -/
structure SentReply extends AddressedReply where
  created : Bool

/-- A coordinator and the replies that it has sent. -/
structure AddressBook where
  coordinator : Coordinator
  sent : List SentReply

namespace AddressBook

/-- What happens to the coordinator. -/
inductive Event where
  | requestCell (generated : CellID)
  | joinMesh (packet : JoinMeshPacket)
  | joinCell (packet : JoinCellPacket)

def withTree (this : AddressBook) (cellTree : CellTree) : AddressBook :=
  let coordinator := this.coordinator
  { this with coordinator := { coordinator with cell := { coordinator.cell with cellTree } } }

def step (config : P3Configuration) (entries : DiscoveryConfiguration) (this : AddressBook) :
    Event → Result AddressBook
  | .requestCell generated =>
      (this.coordinator.handleCellRequest config entries generated).map fun out =>
        ⟨out.1, this.sent ++ [⟨out.2, this.coordinator.full⟩]⟩
  | .joinMesh packet =>
      (this.coordinator.cell.handleJoinMesh config packet).map fun handled =>
        this.withTree handled.tree
  | .joinCell packet => .ok (this.withTree (this.coordinator.cell.handleJoinCell packet).tree)

def run (config : P3Configuration) (entries : DiscoveryConfiguration) (this : AddressBook)
    (events : List Event) : Result AddressBook :=
  events.foldlM (step config entries) this

/-! ## What is announced -/

/-- The cell of a coordinator that has no cell above it. -/
def rootCell (this : AddressBook) : Option CellID :=
  if this.coordinator.isRoot then some this.coordinator.cell.cellTree.getRootCellID else none

/-- The address of the root cell, which every peer has in its configuration. -/
def rootAddr (entries : DiscoveryConfiguration) (this : AddressBook) : Option CellAddr := do
  let cellID ← this.rootCell
  let itf ← entries.CELL_MULTICAST_INTERFACE
  let ip ← entries.CELL_ROOT_DISCOVERY_IP
  let port ← entries.rootDiscoveryPort
  some { cellID, itf, ip, port }

/-- The addresses that cells were announced with. -/
def announced (entries : DiscoveryConfiguration) (this : AddressBook) : List CellAddr :=
  (this.rootAddr entries).toList ++ this.sent.map fun reply => reply.cellAddr

/-- The replies that came with a new cell. -/
def creations (this : AddressBook) : List SentReply :=
  this.sent.filter fun reply => reply.created

/-- The ports of the created cells. -/
def allocated (this : AddressBook) : List Int16 :=
  this.creations.map fun reply => reply.cellAddr.port

/-- The port counter has not passed 65535. -/
def Unwrapped (entries : DiscoveryConfiguration) (this : AddressBook) : Prop :=
  ∀ port, entries.rootDiscoveryPort = some port →
    port.toUInt16.toNat + 1 + this.allocated.length < 2 ^ 16

/-- The announcements of a cell agree with each other and with what the cells below
it are told, and no port is taken twice. -/
structure Agrees (entries : DiscoveryConfiguration) (this : AddressBook) : Prop where
  cells : ∀ a ∈ this.announced entries, ∀ b ∈ this.announced entries,
    a.cellID = b.cellID → a = b
  parents : ∀ reply ∈ this.sent, ∀ parent, reply.parentCellAddr = some parent →
    ∀ a ∈ this.announced entries, a.cellID = parent.cellID → a = parent
  ports : this.allocated.Nodup

/-! ## The condition -/

/-- The cell is neither the root cell nor created for a request. -/
def Foreign (this : AddressBook) (cellID : CellID) : Prop :=
  this.rootCell ≠ some cellID ∧ ∀ reply ∈ this.creations, reply.cellAddr.cellID ≠ cellID

/-- The identifier is in no reply, neither as the cell nor as the parent. -/
def Unmentioned (this : AddressBook) (cellID : CellID) : Prop :=
  ∀ reply ∈ this.sent, reply.cellAddr.cellID ≠ cellID ∧
    ∀ parent, reply.parentCellAddr = some parent → parent.cellID ≠ cellID

/-- A cell that is offered again is the root cell; or neither it nor the cell above it is
the root cell or was created for a request, and no cell was created below it. -/
def FitsOffer (this : AddressBook) (path : Path) : Prop :=
  (this.coordinator.isRoot = true ∧ path = []) ∨
    ∀ node, this.coordinator.cell.cellTree.rootNode.at? path = some node →
      this.Foreign node.label.cellID ∧
      (∀ reply ∈ this.creations, ∀ parent, reply.parentCellAddr = some parent →
        parent.cellID ≠ node.label.cellID) ∧
      ∀ parent, this.coordinator.cell.cellTree.parentOf node = some parent →
        this.Foreign parent.label.cellID

/-- A cell is created with a new identifier, below one that is not the root cell and that
no reply offered. -/
def FitsCreation (this : AddressBook) (generated : CellID) : Prop :=
  (this.rootCell ≠ some generated ∧ this.Unmentioned generated) ∧
    ∀ place node, CellTree.createCellI this.coordinator.cell.cellTree.rootNode = some place →
      this.coordinator.cell.cellTree.rootNode.at? place.1 = some node →
        this.rootCell ≠ some node.label.cellID ∧
        ∀ reply ∈ this.sent, reply.cellAddr.cellID ≠ node.label.cellID

/-- The port counter does not pass 65535 when the next port is taken. -/
def HasPort (entries : DiscoveryConfiguration) (this : AddressBook) : Prop :=
  ∀ port, entries.rootDiscoveryPort = some port →
    port.toUInt16.toNat + 1 + (this.allocated.length + 1) < 2 ^ 16

/-- While there are ports, a request meets the condition of the cell that it is answered
with. -/
def Fits (entries : DiscoveryConfiguration) (this : AddressBook) : Event → Prop
  | .requestCell generated =>
      match this.coordinator.cell.cellTree.getAvailableNode P3PeerInfo.SUPERPEER with
      | some path => this.Unwrapped entries → this.FitsOffer path
      | none => this.HasPort entries → this.FitsCreation generated
  | .joinMesh _ => True
  | .joinCell _ => True

/-- Every event meets its condition in the state where it happens. -/
def FitsAll (config : P3Configuration) (entries : DiscoveryConfiguration) (this : AddressBook) :
    List Event → Prop
  | [] => True
  | event :: rest => ∀ after, this.step config entries event = .ok after →
      this.Fits entries event ∧ after.FitsAll config entries rest

theorem runs (config : P3Configuration) (entries : DiscoveryConfiguration) :
    Runs (step config entries) (run config entries) (Fits entries) (FitsAll config entries) where
  run_nil _ := rfl
  run_cons _ _ _ := rfl
  allFit_nil _ := trivial
  allFit_cons _ _ _ := Iff.rfl

end AddressBook

/-! ## The port counter -/

/-- The port that a coordinator takes for a cell after `count` others. -/
def takenPort (root : Int16) (count : Nat) : Int16 :=
  root + 1 + Int16.ofNat count

section Ports

variable {root : Int16} {count other : Nat}

theorem toNat_takenPort (unwrapped : root.toUInt16.toNat + 1 + count < 2 ^ 16) :
    (takenPort root count).toUInt16.toNat = root.toUInt16.toNat + 1 + count := by
  rw [takenPort, Int16.toUInt16_add, Int16.toUInt16_add, Int16.toUInt16_ofNat', UInt16.toNat_add,
    UInt16.toNat_add, UInt16.toNat_ofNat', Nat.add_mod_mod, Nat.mod_add_mod]
  exact Nat.mod_eq_of_lt unwrapped

theorem takenPort_succ (root : Int16) (count : Nat) :
    takenPort root count + 1 = takenPort root (count + 1) := by
  rw [takenPort, takenPort, Int16.ofNat_add, Int16.add_assoc _ (Int16.ofNat count)]
  rfl

theorem takenPort_ne (unwrapped : root.toUInt16.toNat + 1 + count < 2 ^ 16) (before : other < count) :
    takenPort root other ≠ takenPort root count := by
  intro same
  have numbers := congrArg (fun port => port.toUInt16.toNat) same
  rw [toNat_takenPort unwrapped, toNat_takenPort (by omega)] at numbers
  omega

theorem takenPort_ne_root (unwrapped : root.toUInt16.toNat + 1 + count < 2 ^ 16) :
    takenPort root count ≠ root := by
  intro same
  have numbers := congrArg (fun port => port.toUInt16.toNat) same
  rw [toNat_takenPort unwrapped] at numbers
  omega

/-- The port -1 is 65535, which is taken last. -/
theorem takenPort_ne_neg_one (unwrapped : root.toUInt16.toNat + 1 + (count + 1) < 2 ^ 16) :
    takenPort root count ≠ -1 := by
  intro same
  have numbers := congrArg (fun port => port.toUInt16.toNat) same
  have last : (-1 : Int16).toUInt16.toNat = 65535 := rfl
  rw [toNat_takenPort (by omega), last] at numbers
  omega

theorem root_ne_neg_one (unwrapped : root.toUInt16.toNat + 1 + count < 2 ^ 16) : root ≠ -1 := by
  rintro rfl
  have last : (-1 : Int16).toUInt16.toNat = 65535 := rfl
  rw [last] at unwrapped
  omega

theorem nodup_takenPorts (unwrapped : root.toUInt16.toNat + 1 + count < 2 ^ 16) :
    ((List.range count).map (takenPort root)).Nodup := by
  apply List.Nodup.map_on _ List.nodup_range
  intro i lower j upper same
  rw [List.mem_range] at lower upper
  rcases Nat.lt_trichotomy i j with before | equal | behind
  · exact absurd same (takenPort_ne (by omega) before)
  · exact equal
  · exact absurd same.symm (takenPort_ne (by omega) behind)

end Ports

/-! ## One request -/

theorem CellTree.setPort_eq {t : CellTree} (inv : RepInv t) {path : Path} {n : CellTreeNode}
    (found : t.rootNode.at? path = some n) (port : Int16) :
    t.setPort n port =
      t.modify path (SlotTree.mapLabel fun _ => { n.label with port := port.toInt }) := by
  rw [setPort, inv.deref_addr found]
  exact modify_congr found rfl

theorem RepInv.setPort {t : CellTree} (inv : RepInv t) {path : Path} {n : CellTreeNode}
    (found : t.rootNode.at? path = some n) (port : Int16) : RepInv (t.setPort n port) := by
  rw [CellTree.setPort_eq inv found]
  exact inv.relabel found ⟨rfl, rfl, rfl, rfl, rfl, rfl, rfl, rfl⟩

/-- The root keeps its identifier when the label of a node changes. -/
theorem CellTree.getRootCellID_relabel {t : CellTree} {path : Path} {n : CellTreeNode}
    {info : CellInfo} (found : t.rootNode.at? path = some n)
    (same : CellInfo.SameNode n.label info) :
    (t.modify path (SlotTree.mapLabel fun _ => info)).getRootCellID = t.getRootCellID := by
  rw [getRootCellID, getRootCellID, modify]
  cases path with
  | nil =>
      rw [SlotTree.at?_nil, Option.some.injEq] at found
      rw [SlotTree.modifyAt_nil, found]
      exact same.cellID
  | cons i path => rw [SlotTree.label_modifyAt_cons]

theorem CellTree.getRootCellID_setPort {t : CellTree} (inv : RepInv t) {path : Path}
    {n : CellTreeNode} (found : t.rootNode.at? path = some n) (port : Int16) :
    (t.setPort n port).getRootCellID = t.getRootCellID := by
  rw [setPort_eq inv found]
  exact getRootCellID_relabel found ⟨rfl, rfl, rfl, rfl, rfl, rfl, rfl, rfl⟩

theorem CellTree.getRootCellID_addAt (t : CellTree) (path : Path) (peer : P3PeerInfo) :
    (t.addAt path peer).1.getRootCellID = t.getRootCellID := by
  rcases t.addAt_cases path peer with ⟨n, info, found, added, updated⟩ | ⟨-, refused⟩
  · rw [updated]
    exact getRootCellID_relabel found (CellInfo.sameNode_of_add added)
  · rw [refused]

theorem CellTree.getRootCellID_fillNew (config : P3Configuration) {t : CellTree} {path : Path}
    {n : CellTreeNode} (found : t.rootNode.at? path = some n) (cellID : CellID) (i : Nat) :
    (t.modify path fun n => n.setSlot i (some (newChild config t cellID n i))).getRootCellID =
      t.getRootCellID := by
  rw [getRootCellID, label_modify found rfl]
  rfl

theorem CellTree.getRootCellID_join {config : P3Configuration} {t : CellTree} {peer : P3PeerInfo}
    {parentCellID : Option CellID} {out : CellTree × Int}
    (done : t.join config peer parentCellID = .ok out) :
    out.1.getRootCellID = t.getRootCellID := by
  cases known : t.getCellTreeNode peer.fid with
  | some path =>
      rw [join_known known] at done
      cases done
      exact getRootCellID_addAt t path peer
  | none =>
      cases parentCellID with
      | none =>
          simp only [join, addPeer, known] at done
          cases done
          rfl
      | some parent =>
          rcases t.addPeerUnder_cases config peer (some parent) with
            ⟨path, knownHere, -⟩ | ⟨-, impossible, -⟩ |
              ⟨-, above, path, n, i, -, -, found, free, created⟩ | ⟨-, -, refused⟩
          · cases known.symm.trans knownHere
          · cases impossible
          · cases created.symm.trans done
            exact (getRootCellID_addAt _ _ peer).trans (getRootCellID_fillNew config found _ i)
          · cases refused.symm.trans done
            rfl

/-- Only the root has the address of the root. -/
theorem RepInv.addr_eq_root_iff {t : CellTree} (inv : RepInv t) {path : Path} {n : CellTreeNode}
    (found : t.rootNode.at? path = some n) : n.label.addr = t.rootNode.label.addr ↔ path = [] := by
  constructor
  · intro same
    have here := inv.deref_addr found
    rw [same, inv.deref_addr (SlotTree.at?_nil t.rootNode)] at here
    exact (Option.some.inj here).symm
  · rintro rfl
    rw [SlotTree.at?_nil, Option.some.injEq] at found
    rw [found]

theorem Cell.parent_of_offerReply {tree : CellTree} {node : CellTreeNode} {reply : CellReply}
    (done : Cell.offerReply tree node = .ok reply) :
    reply.parent.map Prod.fst = (tree.parentOf node).map fun parent => parent.label.cellID := by
  rcases Result.bind_eq_ok.mp done with ⟨parent, found, rest⟩
  cases rest
  unfold above at found
  cases upper : tree.parentOf node with
  | none =>
      rw [upper] at found
      cases found
      rfl
  | some n =>
      rw [upper] at found
      rcases Result.map_eq_ok.mp found with ⟨coord, -, rfl⟩
      rfl

theorem DiscoveryConfiguration.required_eq_ok {α : Type} {entry : Option α} {value : α} :
    required entry = .ok value ↔ entry = some value := by
  cases entry with
  | none =>
      apply iff_of_false
      · intro impossible
        cases impossible
      · intro impossible
        cases impossible
  | some found =>
      rw [required, Except.ok.injEq, Option.some.injEq]

/-- The two addresses of a reply, which differ in the cell alone. -/
def AddressedReply.Names (this : AddressedReply) (entries : DiscoveryConfiguration)
    (cell : CellID) (parent : Option CellID) (port : Int16) : Prop :=
  ∃ itf ip, entries.CELL_MULTICAST_INTERFACE = some itf ∧ entries.CELL_ROOT_DISCOVERY_IP = some ip ∧
    this.cellAddr = ⟨cell, itf, ip, port⟩ ∧
    this.parentCellAddr = parent.map fun parent => ⟨parent, itf, ip, port⟩

theorem AddressedReply.Names.self {reply : AddressedReply} {entries : DiscoveryConfiguration}
    {cell : CellID} {parent : Option CellID} {port : Int16}
    (named : reply.Names entries cell parent port) :
    reply.Names entries reply.cellAddr.cellID parent reply.cellAddr.port := by
  have same := named
  rcases same with ⟨itf, ip, -, -, cellAddr, -⟩
  rw [cellAddr]
  exact named

namespace Coordinator

/-- The coordinator after it created a cell. -/
structure Takes (this after : Coordinator) : Prop where
  inv : RepInv after.cell.cellTree
  root : after.cell.cellTree.getRootCellID = this.cell.cellTree.getRootCellID
  parentCellID : after.parentCellID = this.parentCellID
  startAllocationPort : after.startAllocationPort = this.startAllocationPort + 1

variable {config : P3Configuration} {entries : DiscoveryConfiguration} {this : Coordinator}
  {root : Int16} {generated : CellID} {out : Coordinator × AddressedReply}

/-- The reply names the cell that is offered and the cell above it, with one port. -/
theorem handleCellRequest_eq_ok (done : this.handleCellRequest config entries generated = .ok out) :
    ∃ tree node port, this.cell.cellTree.offer config generated = .ok (tree, node) ∧
      this.announcedPort entries tree node = .ok port ∧
      out.1 = { this with
        cell := { this.cell with
          cellTree := if this.full then tree.setPort node this.startAllocationPort else tree }
        startAllocationPort :=
          if this.full then this.startAllocationPort + 1 else this.startAllocationPort } ∧
      out.2.Names entries node.label.cellID
        ((tree.parentOf node).map fun parent => parent.label.cellID) port := by
  rcases Result.bind_eq_ok.mp done with ⟨⟨tree, node⟩, offered, afterOffer⟩
  rcases Result.bind_eq_ok.mp afterOffer with ⟨itf, foundItf, afterItf⟩
  rcases Result.bind_eq_ok.mp afterItf with ⟨ip, foundIp, afterIp⟩
  rcases Result.bind_eq_ok.mp afterIp with ⟨port, foundPort, afterPort⟩
  rcases Result.bind_eq_ok.mp afterPort with ⟨reply, replied, made⟩
  cases made
  rw [DiscoveryConfiguration.required_eq_ok] at foundItf foundIp
  refine ⟨tree, node, port, offered, foundPort, rfl, itf, ip, foundItf, foundIp, rfl, ?_⟩
  rw [← Cell.parent_of_offerReply replied, Option.map_map]
  rfl

/-- The port is the configured one for the root, the next one for a new cell, else -1. -/
theorem announcedPort_eq_ok {tree : CellTree} {path : Path} {node : CellTreeNode} {port : Int16}
    (inv : RepInv tree) (found : tree.rootNode.at? path = some node)
    (configured : entries.rootDiscoveryPort = some root)
    (done : this.announcedPort entries tree node = .ok port) :
    port = if this.isRoot = true ∧ path = [] then root
      else if this.full = true then this.startAllocationPort else -1 := by
  simp only [announcedPort, inv.addr_eq_root_iff found] at done
  by_cases special : this.isRoot = true ∧ path = []
  · rw [if_pos special, DiscoveryConfiguration.required_eq_ok, configured, Option.some.injEq] at done
    rw [if_pos special, done]
  · rw [if_neg special] at done ⊢
    split at done
    · rename_i full
      cases done
      rw [if_pos full]
    · rename_i room
      cases done
      rw [if_neg room]

/-- A request is answered with a cell that has room, or with a new one. -/
theorem handleCellRequest_cases (inv : RepInv this.cell.cellTree)
    (configured : entries.rootDiscoveryPort = some root)
    (done : this.handleCellRequest config entries generated = .ok out) :
    (∃ path n, this.cell.cellTree.getAvailableNode P3PeerInfo.SUPERPEER = some path ∧
      this.cell.cellTree.rootNode.at? path = some n ∧ out.1 = this ∧
      out.2.Names entries n.label.cellID
        ((this.cell.cellTree.parentOf n).map fun parent => parent.label.cellID)
        (if this.isRoot = true ∧ path = [] then root else -1)) ∨
    (∃ place n, this.cell.cellTree.getAvailableNode P3PeerInfo.SUPERPEER = none ∧
      CellTree.createCellI this.cell.cellTree.rootNode = some place ∧
      this.cell.cellTree.rootNode.at? place.1 = some n ∧ this.Takes out.1 ∧
      out.2.Names entries generated (some n.label.cellID) this.startAllocationPort) := by
  rcases handleCellRequest_eq_ok done with ⟨tree, node, port, offered, foundPort, after, named⟩
  cases available : this.cell.cellTree.getAvailableNode P3PeerInfo.SUPERPEER with
  | some path =>
      left
      rcases SlotTree.findPath_eq_some available with ⟨n, found, -⟩
      simp only [CellTree.offer, available, found] at offered
      cases offered
      have room : ¬this.full = true := by
        rw [full, available]
        exact Bool.false_ne_true
      rw [announcedPort_eq_ok inv found configured foundPort, if_neg room] at named
      refine ⟨path, node, rfl, found, ?_, named⟩
      rw [after, if_neg room, if_neg room]
  | none =>
      right
      have full : this.full = true := by
        rw [full, available]
        rfl
      cases under : CellTree.createCellI this.cell.cellTree.rootNode with
      | none =>
          simp only [CellTree.offer, available, CellTree.createCell, under] at offered
          cases offered
      | some place =>
          rcases CellTree.createCellI_eq_some under with ⟨n, i, found, free⟩
          rw [CellTree.offer_created config generated available under found free] at offered
          cases offered
          have invNew := inv.fillNew config generated found free
          have new := CellTree.at?_fillNew config generated found free
          have rootSame := CellTree.getRootCellID_fillNew config found generated i
          have below : ¬(this.isRoot = true ∧ place.1 ++ [i] = []) := by
            rintro ⟨-, impossible⟩
            exact List.cons_ne_nil i [] (List.append_eq_nil_iff.mp impossible).2
          rw [announcedPort_eq_ok invNew new configured foundPort, if_neg below, if_pos full,
            inv.parentOf_created config generated found free] at named
          refine ⟨place, n, rfl, rfl, found, ?_, named⟩
          rw [after, if_pos full, if_pos full]
          exact ⟨invNew.setPort new _, (CellTree.getRootCellID_setPort invNew new _).trans rootSame,
            rfl, rfl⟩

end Coordinator

end Stheno.Superpeer
