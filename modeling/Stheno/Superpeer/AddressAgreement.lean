import Stheno.Superpeer.CellAddresses
import Stheno.Superpeer.Agreement

/-!
# The announcements of a coordinator agree

The port of a created cell is announced once: a later reply for the cell says -1, and
every reply gives the cell above the port of the cell below.  While the counter has not
wrapped, the announcements of a run agree exactly when no reply meets one of these.
-/

namespace Stheno.Superpeer

open Stheno.Tree Peer

namespace AddressBook

variable {config : P3Configuration} {entries : DiscoveryConfiguration} {this after : AddressBook}
  {root : Int16}

/-! ## What every event keeps -/

/-- A reply carries one port, which is the next one if it came with a new cell, the
configured one for the root cell, and -1 otherwise. -/
structure Regular (entries : DiscoveryConfiguration) (this : AddressBook) (root : Int16)
    (reply : SentReply) : Prop where
  names : ∃ parent, reply.Names entries reply.cellAddr.cellID parent reply.cellAddr.port
  port : reply.created = false → reply.cellAddr.port = -1 ∨
    (this.rootCell = some reply.cellAddr.cellID ∧ reply.cellAddr.port = root ∧
      reply.parentCellAddr = none)

structure Sound (entries : DiscoveryConfiguration) (root : Int16) (this : AddressBook) : Prop where
  configured : entries.rootDiscoveryPort = some root
  inv : RepInv this.coordinator.cell.cellTree
  counter : this.coordinator.startAllocationPort = takenPort root this.allocated.length
  allocated : this.allocated = (List.range this.allocated.length).map (takenPort root)
  regular : ∀ reply ∈ this.sent, this.Regular entries root reply

/-- One more reply was sent, and the root cell is the same. -/
structure Sends (this after : AddressBook) (reply : SentReply) : Prop where
  rootCell : after.rootCell = this.rootCell
  sent : after.sent = this.sent ++ [reply]

theorem Regular.congr {reply : SentReply} (regular : this.Regular entries root reply)
    (rootCell : after.rootCell = this.rootCell) : after.Regular entries root reply where
  names := regular.names
  port plain := by
    rw [rootCell]
    exact regular.port plain

theorem allocated_of_sends {reply : SentReply} (sends : this.Sends after reply) :
    after.allocated =
      this.allocated ++ if reply.created = true then [reply.cellAddr.port] else [] := by
  rw [allocated, creations, sends.sent, List.filter_append, List.map_append]
  cases made : reply.created with
  | true => simp [made, allocated, creations]
  | false => simp [made, allocated, creations]

/-- What a request does to the coordinator and to the replies. -/
theorem step_requestCell (sound : this.Sound entries root) {generated : CellID}
    (done : this.step config entries (.requestCell generated) = .ok after) :
    ∃ reply, this.Sends after reply ∧
      ((∃ path n, this.coordinator.cell.cellTree.getAvailableNode P3PeerInfo.SUPERPEER = some path ∧
        this.coordinator.cell.cellTree.rootNode.at? path = some n ∧
        after.coordinator = this.coordinator ∧ reply.created = false ∧
        reply.Names entries n.label.cellID
          ((this.coordinator.cell.cellTree.parentOf n).map fun parent => parent.label.cellID)
          (if this.coordinator.isRoot = true ∧ path = [] then root else -1)) ∨
      (∃ place n, this.coordinator.cell.cellTree.getAvailableNode P3PeerInfo.SUPERPEER = none ∧
        CellTree.createCellI this.coordinator.cell.cellTree.rootNode = some place ∧
        this.coordinator.cell.cellTree.rootNode.at? place.1 = some n ∧
        this.coordinator.Takes after.coordinator ∧ reply.created = true ∧
        reply.Names entries generated (some n.label.cellID)
          this.coordinator.startAllocationPort)) := by
  rcases Result.map_eq_ok.mp done with ⟨out, handled, rfl⟩
  rcases Coordinator.handleCellRequest_cases sound.inv sound.configured handled with
    ⟨path, n, available, found, same, named⟩ | ⟨place, n, available, under, found, takes, named⟩
  · have room : this.coordinator.full = false := by
      rw [Coordinator.full, available]
      rfl
    have sends : this.Sends ⟨out.1, this.sent ++ [⟨out.2, this.coordinator.full⟩]⟩
        ⟨out.2, this.coordinator.full⟩ := ⟨by rw [rootCell, same]; rfl, rfl⟩
    exact ⟨_, sends, Or.inl ⟨path, n, available, found, same, room, named⟩⟩
  · have full : this.coordinator.full = true := by
      rw [Coordinator.full, available]
      rfl
    have rootCell : AddressBook.rootCell ⟨out.1, this.sent ++ [⟨out.2, this.coordinator.full⟩]⟩ =
        this.rootCell := by
      rw [AddressBook.rootCell, AddressBook.rootCell, Coordinator.isRoot, Coordinator.isRoot,
        takes.parentCellID, takes.root]
    exact ⟨_, ⟨rootCell, rfl⟩,
      Or.inr ⟨place, n, available, under, found, takes, full, named⟩⟩

/-- A join sends no reply and keeps the root cell. -/
theorem step_join (sound : this.Sound entries root) {event : Event}
    (joins : ∀ generated, event ≠ .requestCell generated)
    (done : this.step config entries event = .ok after) :
    after.rootCell = this.rootCell ∧ after.sent = this.sent ∧ after.Sound entries root := by
  have kept : ∀ tree, RepInv tree →
      tree.getRootCellID = this.coordinator.cell.cellTree.getRootCellID →
      (this.withTree tree).rootCell = this.rootCell ∧ (this.withTree tree).sent = this.sent ∧
        (this.withTree tree).Sound entries root := by
    intro tree inv same
    have rootCell : (this.withTree tree).rootCell = this.rootCell := by
      rw [AddressBook.rootCell, AddressBook.rootCell]
      change (if this.coordinator.isRoot = true then some tree.getRootCellID else none) = _
      rw [same]
    exact ⟨rootCell, rfl, sound.configured, inv, sound.counter, sound.allocated,
      fun reply member => (sound.regular reply member).congr rootCell⟩
  cases event with
  | requestCell generated => exact absurd rfl (joins generated)
  | joinMesh packet =>
      rcases Result.map_eq_ok.mp done with ⟨handled, here, rfl⟩
      rcases Cell.handleJoinMesh_eq here with ⟨status, joined, -⟩
      exact kept handled.tree (sound.inv.join joined) (CellTree.getRootCellID_join joined)
  | joinCell packet =>
      cases done
      apply kept _ (sound.inv.handleJoinCell packet)
      unfold Cell.handleJoinCell
      dsimp only
      split
      · exact CellTree.getRootCellID_addAt _ _ _
      · rfl

theorem Sound.parentOf_root (sound : this.Sound entries root) {n : CellTreeNode}
    (found : this.coordinator.cell.cellTree.rootNode.at? [] = some n) :
    this.coordinator.cell.cellTree.parentOf n = none := by
  rw [SlotTree.at?_nil, Option.some.injEq] at found
  rw [← found]
  exact sound.inv.parentOf_root

/-- The replies stay regular when the last one is. -/
theorem Sound.regular_of_sends (sound : this.Sound entries root) {reply : SentReply}
    (sends : this.Sends after reply) (last : this.Regular entries root reply) :
    ∀ other ∈ after.sent, after.Regular entries root other := by
  intro other member
  apply Regular.congr _ sends.rootCell
  rw [sends.sent] at member
  rcases List.mem_append.mp member with earlier | this_one
  · exact sound.regular other earlier
  · rw [List.mem_singleton.mp this_one]
    exact last

theorem sound_requestCell (sound : this.Sound entries root) {generated : CellID}
    (done : this.step config entries (.requestCell generated) = .ok after) :
    after.Sound entries root := by
  rcases step_requestCell sound done with
    ⟨reply, sends, ⟨path, n, -, found, same, old, named⟩ | ⟨place, n, -, -, -, takes, new, named⟩⟩
  · have none_taken : after.allocated = this.allocated := by
      rw [allocated_of_sends sends, old, if_neg Bool.false_ne_true, List.append_nil]
    refine ⟨sound.configured, same ▸ sound.inv, ?_, ?_, ?_⟩
    · rw [same, none_taken]
      exact sound.counter
    · rw [none_taken]
      exact sound.allocated
    · apply sound.regular_of_sends sends
      refine ⟨⟨_, named.self⟩, ?_⟩
      intro _
      rcases named with ⟨itf, ip, -, -, cellAddr, parentCellAddr⟩
      rw [cellAddr]
      by_cases special : this.coordinator.isRoot = true ∧ path = []
      · right
        rcases special with ⟨top, rfl⟩
        rw [sound.parentOf_root found] at parentCellAddr
        rw [SlotTree.at?_nil, Option.some.injEq] at found
        refine ⟨?_, ?_, parentCellAddr⟩
        · rw [rootCell, if_pos top, ← found]
          rfl
        · exact if_pos ⟨top, rfl⟩
      · left
        exact if_neg special
  · have one_taken : after.allocated = this.allocated ++ [reply.cellAddr.port] := by
      rw [allocated_of_sends sends, if_pos new]
    have taken : reply.cellAddr.port = takenPort root this.allocated.length := by
      rcases named with ⟨itf, ip, -, -, cellAddr, -⟩
      rw [cellAddr]
      exact sound.counter
    refine ⟨sound.configured, takes.inv, ?_, ?_, ?_⟩
    · rw [takes.startAllocationPort, sound.counter, one_taken, List.length_append,
        List.length_singleton, takenPort_succ]
    · rw [one_taken, List.length_append, List.length_singleton, List.range_succ, List.map_append,
        ← sound.allocated, List.map_singleton, taken]
    · apply sound.regular_of_sends sends
      refine ⟨⟨_, named.self⟩, ?_⟩
      intro impossible
      rw [new] at impossible
      cases impossible

theorem sound_step (sound : this.Sound entries root) {event : Event}
    (done : this.step config entries event = .ok after) : after.Sound entries root := by
  cases event with
  | requestCell generated => exact sound_requestCell sound done
  | joinMesh packet => exact (step_join sound (by rintro generated ⟨⟩) done).2.2
  | joinCell packet => exact (step_join sound (by rintro generated ⟨⟩) done).2.2

/-! ## One more reply -/

/-- A reply agrees with what was announced before. -/
structure Joins (entries : DiscoveryConfiguration) (this : AddressBook) (reply : SentReply) :
    Prop where
  cell : ∀ a ∈ this.announced entries, a.cellID = reply.cellAddr.cellID → a = reply.cellAddr
  parent : ∀ parent, reply.parentCellAddr = some parent →
    (∀ a ∈ this.announced entries, a.cellID = parent.cellID → a = parent) ∧
      (reply.cellAddr.cellID = parent.cellID → reply.cellAddr = parent)
  below : ∀ other ∈ this.sent, ∀ parent, other.parentCellAddr = some parent →
    reply.cellAddr.cellID = parent.cellID → reply.cellAddr = parent

theorem announced_of_sends {reply : SentReply} (sends : this.Sends after reply) :
    after.announced entries = this.announced entries ++ [reply.cellAddr] := by
  rw [announced, announced, rootAddr, rootAddr, sends.rootCell, sends.sent, List.map_append,
    List.append_assoc]
  rfl

theorem agrees_iff_joins {reply : SentReply} (sends : this.Sends after reply)
    (ports : after.allocated.Nodup) (agrees : this.Agrees entries) :
    after.Agrees entries ↔ this.Joins entries reply := by
  have announces : ∀ a, a ∈ after.announced entries ↔
      a ∈ this.announced entries ∨ a = reply.cellAddr := by
    intro a
    rw [announced_of_sends sends, List.mem_append, List.mem_singleton]
  have sent : ∀ other, other ∈ after.sent ↔ other ∈ this.sent ∨ other = reply := by
    intro other
    rw [sends.sent, List.mem_append, List.mem_singleton]
  constructor
  · intro agreesAfter
    have newCell := (announces reply.cellAddr).mpr (Or.inr rfl)
    have newReply := (sent reply).mpr (Or.inr rfl)
    constructor
    · intro a member same
      exact agreesAfter.cells a ((announces a).mpr (Or.inl member)) _ newCell same
    · intro parent above
      constructor
      · intro a member same
        exact agreesAfter.parents reply newReply parent above a ((announces a).mpr (Or.inl member)) same
      · exact agreesAfter.parents reply newReply parent above _ newCell
    · intro other member parent above
      exact agreesAfter.parents other ((sent other).mpr (Or.inl member)) parent above _ newCell
  · intro joins
    constructor
    · intro a memberA b memberB same
      rcases (announces a).mp memberA with oldA | rfl
      · rcases (announces b).mp memberB with oldB | rfl
        · exact agrees.cells a oldA b oldB same
        · exact joins.cell a oldA same
      · rcases (announces b).mp memberB with oldB | rfl
        · exact (joins.cell b oldB same.symm).symm
        · rfl
    · intro other member parent above a memberA same
      rcases (sent other).mp member with old | rfl
      · rcases (announces a).mp memberA with oldA | rfl
        · exact agrees.parents other old parent above a oldA same
        · exact joins.below other old parent above same
      · rcases (announces a).mp memberA with oldA | rfl
        · exact (joins.parent parent above).1 a oldA same
        · exact (joins.parent parent above).2 same
    · exact ports

/-! ## The ports of the announcements -/

theorem mem_announced_iff {a : CellAddr} : a ∈ this.announced entries ↔
    this.rootAddr entries = some a ∨ ∃ reply ∈ this.sent, reply.cellAddr = a := by
  rw [announced, List.mem_append, Option.mem_toList, List.mem_map]

theorem rootAddr_eq_some {a : CellAddr} (addr : this.rootAddr entries = some a) :
    this.rootCell = some a.cellID ∧ entries.CELL_MULTICAST_INTERFACE = some a.itf ∧
      entries.CELL_ROOT_DISCOVERY_IP = some a.ip ∧ entries.rootDiscoveryPort = some a.port := by
  rcases Option.bind_eq_some_iff.mp addr with ⟨cellID, isRoot, afterRoot⟩
  rcases Option.bind_eq_some_iff.mp afterRoot with ⟨itf, foundItf, afterItf⟩
  rcases Option.bind_eq_some_iff.mp afterItf with ⟨ip, foundIp, afterIp⟩
  rcases Option.bind_eq_some_iff.mp afterIp with ⟨port, foundPort, made⟩
  cases made
  exact ⟨isRoot, foundItf, foundIp, foundPort⟩

theorem rootAddr_of_rootCell (sound : this.Sound entries root) {cellID : CellID}
    (isRoot : this.rootCell = some cellID) {itf ip : String}
    (foundItf : entries.CELL_MULTICAST_INTERFACE = some itf)
    (foundIp : entries.CELL_ROOT_DISCOVERY_IP = some ip) :
    this.rootAddr entries = some ⟨cellID, itf, ip, root⟩ := by
  rw [rootAddr, isRoot, foundItf, foundIp, sound.configured]
  rfl

/-- All addresses of a coordinator have the configured interface and group. -/
theorem uniform (sound : this.Sound entries root) {itf ip : String}
    (foundItf : entries.CELL_MULTICAST_INTERFACE = some itf)
    (foundIp : entries.CELL_ROOT_DISCOVERY_IP = some ip) {a : CellAddr}
    (member : a ∈ this.announced entries) : a = ⟨a.cellID, itf, ip, a.port⟩ := by
  rcases mem_announced_iff.mp member with addr | ⟨reply, sent, rfl⟩
  · rcases rootAddr_eq_some addr with ⟨-, hereItf, hereIp, -⟩
    rw [foundItf, Option.some.injEq] at hereItf
    rw [foundIp, Option.some.injEq] at hereIp
    rw [hereItf, hereIp]
  · rcases (sound.regular reply sent).names with ⟨parent, otherItf, otherIp, hereItf, hereIp, addr, -⟩
    rw [foundItf, Option.some.injEq] at hereItf
    rw [foundIp, Option.some.injEq] at hereIp
    rw [hereItf, hereIp]
    exact addr

/-- The address of the cell above has the port of the reply. -/
theorem parentCellAddr_of_sent (sound : this.Sound entries root) {itf ip : String}
    (foundItf : entries.CELL_MULTICAST_INTERFACE = some itf)
    (foundIp : entries.CELL_ROOT_DISCOVERY_IP = some ip) {reply : SentReply}
    (member : reply ∈ this.sent) {parent : CellAddr} (above : reply.parentCellAddr = some parent) :
    parent = ⟨parent.cellID, itf, ip, reply.cellAddr.port⟩ := by
  rcases (sound.regular reply member).names with ⟨named, otherItf, otherIp, hereItf, hereIp, -, addr⟩
  rw [foundItf, Option.some.injEq] at hereItf
  rw [foundIp, Option.some.injEq] at hereIp
  rw [above] at addr
  rcases Option.map_eq_some_iff.mp addr.symm with ⟨cellID, -, same⟩
  rw [← same, hereItf, hereIp]

theorem mem_creations_iff {reply : SentReply} :
    reply ∈ this.creations ↔ reply ∈ this.sent ∧ reply.created = true := by
  rw [creations, List.mem_filter]

theorem port_of_creation (sound : this.Sound entries root) {reply : SentReply}
    (member : reply ∈ this.creations) :
    ∃ count < this.allocated.length, reply.cellAddr.port = takenPort root count := by
  have taken : reply.cellAddr.port ∈ this.allocated := List.mem_map_of_mem member
  rw [sound.allocated] at taken
  rcases List.mem_map.mp taken with ⟨count, below, same⟩
  exact ⟨count, List.mem_range.mp below, same.symm⟩

/-- An announced address is that of the root cell, or of a created cell, or has no port. -/
theorem announced_cases (sound : this.Sound entries root) {a : CellAddr}
    (member : a ∈ this.announced entries) :
    (this.rootCell = some a.cellID ∧ a.port = root) ∨
      (∃ reply ∈ this.creations, reply.cellAddr = a) ∨ a.port = -1 := by
  rcases mem_announced_iff.mp member with addr | ⟨reply, sent, rfl⟩
  · rcases rootAddr_eq_some addr with ⟨isRoot, -, -, port⟩
    rw [sound.configured, Option.some.injEq] at port
    exact Or.inl ⟨isRoot, port.symm⟩
  · cases made : reply.created with
    | true => exact Or.inr (Or.inl ⟨reply, mem_creations_iff.mpr ⟨sent, made⟩, rfl⟩)
    | false =>
        rcases (sound.regular reply sent).port made with noPort | ⟨isRoot, port, -⟩
        · exact Or.inr (Or.inr noPort)
        · exact Or.inl ⟨isRoot, port⟩

section Joins

variable {reply : SentReply} {cell : CellID} {parent : Option CellID} {port : Int16}

/-- A reply agrees with the earlier ones where the ports do. -/
theorem joins_iff (sound : this.Sound entries root) (named : reply.Names entries cell parent port) :
    this.Joins entries reply ↔
      (∀ a ∈ this.announced entries, a.cellID = cell → a.port = port) ∧
      (∀ above, parent = some above → ∀ a ∈ this.announced entries,
        a.cellID = above → a.port = port) ∧
      ∀ other ∈ this.sent, ∀ above, other.parentCellAddr = some above →
        above.cellID = cell → other.cellAddr.port = port := by
  rcases named with ⟨itf, ip, foundItf, foundIp, cellAddr, parentCellAddr⟩
  constructor
  · intro joins
    refine ⟨?_, ?_, ?_⟩
    · intro a member same
      rw [joins.cell a member (by rw [cellAddr]; exact same), cellAddr]
    · rintro above rfl a member same
      have agree := (joins.parent _ parentCellAddr).1 a member same
      rw [agree]
    · intro other member above listed same
      have agree := joins.below other member above listed (by rw [cellAddr]; exact same.symm)
      rw [parentCellAddr_of_sent sound foundItf foundIp member listed, cellAddr] at agree
      exact (congrArg CellAddr.port agree).symm
  · rintro ⟨cells, parents, below⟩
    constructor
    · intro a member same
      rw [cellAddr] at same ⊢
      rw [uniform sound foundItf foundIp member, same, cells a member same]
    · intro above listed
      rw [listed] at parentCellAddr
      rcases Option.map_eq_some_iff.mp parentCellAddr.symm with ⟨cellID, rfl, rfl⟩
      constructor
      · intro a member same
        rw [uniform sound foundItf foundIp member, same, parents cellID rfl a member same]
      · intro same
        rw [cellAddr] at same ⊢
        have sameCell : cell = cellID := same
        rw [sameCell]
    · intro other member above listed same
      rw [cellAddr] at same ⊢
      rw [parentCellAddr_of_sent sound foundItf foundIp member listed, ← same,
        below other member above listed same.symm]

end Joins

/-! ## Cells without a port -/

theorem foreign_iff (sound : this.Sound entries root) (unwrapped : this.Unwrapped entries)
    {itf ip : String} (foundItf : entries.CELL_MULTICAST_INTERFACE = some itf)
    (foundIp : entries.CELL_ROOT_DISCOVERY_IP = some ip) {cellID : CellID} :
    (∀ a ∈ this.announced entries, a.cellID = cellID → a.port = -1) ↔ this.Foreign cellID := by
  have room := unwrapped root sound.configured
  constructor
  · intro noPort
    constructor
    · intro isRoot
      have addr := rootAddr_of_rootCell sound isRoot foundItf foundIp
      exact root_ne_neg_one room (noPort _ (mem_announced_iff.mpr (Or.inl addr)) rfl)
    · intro reply member same
      rcases port_of_creation sound member with ⟨count, below, port⟩
      have sent := (mem_creations_iff.mp member).1
      have none_there := noPort _ (mem_announced_iff.mpr (Or.inr ⟨reply, sent, rfl⟩)) same
      exact takenPort_ne_neg_one (by omega) (port.symm.trans none_there)
  · rintro ⟨notRoot, notCreated⟩ a member rfl
    rcases announced_cases sound member with ⟨isRoot, -⟩ | ⟨reply, created, rfl⟩ | noPort
    · exact absurd isRoot notRoot
    · exact absurd rfl (notCreated reply created)
    · exact noPort

theorem hosts_iff (sound : this.Sound entries root) (unwrapped : this.Unwrapped entries)
    {cellID : CellID} :
    (∀ other ∈ this.sent, ∀ above, other.parentCellAddr = some above →
      above.cellID = cellID → other.cellAddr.port = -1) ↔
    ∀ reply ∈ this.creations, ∀ parent, reply.parentCellAddr = some parent →
      parent.cellID ≠ cellID := by
  have room := unwrapped root sound.configured
  constructor
  · intro noPort reply member parent above same
    rcases port_of_creation sound member with ⟨count, below, port⟩
    have none_there := noPort reply (mem_creations_iff.mp member).1 parent above same
    exact takenPort_ne_neg_one (by omega) (port.symm.trans none_there)
  · intro apart other member above listed same
    cases made : other.created with
    | true => exact absurd same (apart other (mem_creations_iff.mpr ⟨member, made⟩) above listed)
    | false =>
        rcases (sound.regular other member).port made with noPort | ⟨-, -, noParent⟩
        · exact noPort
        · cases noParent.symm.trans listed

/-! ## A new port -/

/-- The next port was not announced before. -/
theorem port_ne_next (sound : this.Sound entries root) (room : this.HasPort entries) {a : CellAddr}
    (member : a ∈ this.announced entries) :
    a.port ≠ takenPort root this.allocated.length := by
  have below := room root sound.configured
  rcases announced_cases sound member with ⟨-, port⟩ | ⟨reply, created, rfl⟩ | noPort
  · rw [port]
    exact (takenPort_ne_root (by omega)).symm
  · rcases port_of_creation sound created with ⟨count, earlier, port⟩
    rw [port]
    exact takenPort_ne (by omega) earlier
  · rw [noPort]
    exact (takenPort_ne_neg_one (by omega)).symm

/-- A cell is announced with the next port when it was not announced before. -/
theorem unannounced_iff (sound : this.Sound entries root) (room : this.HasPort entries)
    {itf ip : String} (foundItf : entries.CELL_MULTICAST_INTERFACE = some itf)
    (foundIp : entries.CELL_ROOT_DISCOVERY_IP = some ip) {cellID : CellID} :
    (∀ a ∈ this.announced entries, a.cellID = cellID →
      a.port = takenPort root this.allocated.length) ↔
    this.rootCell ≠ some cellID ∧ ∀ reply ∈ this.sent, reply.cellAddr.cellID ≠ cellID := by
  constructor
  · intro next
    constructor
    · intro isRoot
      have addr := mem_announced_iff.mpr (Or.inl (rootAddr_of_rootCell sound isRoot foundItf foundIp))
      exact port_ne_next sound room addr (next _ addr rfl)
    · intro reply member same
      have addr : reply.cellAddr ∈ this.announced entries :=
        mem_announced_iff.mpr (Or.inr ⟨reply, member, rfl⟩)
      exact port_ne_next sound room addr (next _ addr same)
  · rintro ⟨notRoot, notSent⟩ a member same
    rcases mem_announced_iff.mp member with addr | ⟨reply, sent, rfl⟩
    · exact absurd (same ▸ (rootAddr_eq_some addr).1) notRoot
    · exact absurd same (notSent reply sent)

/-- No earlier reply named the cell as the one above with the next port. -/
theorem port_of_sent_ne_next (sound : this.Sound entries root) (room : this.HasPort entries)
    {reply : SentReply} (member : reply ∈ this.sent) :
    reply.cellAddr.port ≠ takenPort root this.allocated.length :=
  port_ne_next sound room (mem_announced_iff.mpr (Or.inr ⟨reply, member, rfl⟩))

/-! ## The two kinds of replies -/

section Kinds

variable {reply : SentReply} {path : Path} {n : CellTreeNode} {generated : CellID}

/-- The root cell is always announced with its configured address. -/
theorem joins_of_root (sound : this.Sound entries root) (agrees : this.Agrees entries)
    (top : this.coordinator.isRoot = true)
    (named : reply.Names entries this.coordinator.cell.cellTree.getRootCellID none root) :
    this.Joins entries reply := by
  have isRoot : this.rootCell = some this.coordinator.cell.cellTree.getRootCellID := by
    rw [rootCell, if_pos top]
  rw [joins_iff sound named]
  rcases named with ⟨itf, ip, foundItf, foundIp, -, -⟩
  have addr : this.rootAddr entries = some ⟨_, itf, ip, root⟩ :=
    rootAddr_of_rootCell sound isRoot foundItf foundIp
  have listed : _ ∈ this.announced entries := mem_announced_iff.mpr (Or.inl addr)
  refine ⟨?_, ?_, ?_⟩
  · intro a member same
    rw [agrees.cells a member _ listed same]
  · intro above impossible
    cases impossible
  · intro other member above upper same
    have equal := agrees.parents other member above upper _ listed same.symm
    rw [parentCellAddr_of_sent sound foundItf foundIp member upper] at equal
    exact (congrArg CellAddr.port equal).symm

theorem joins_offer_iff (sound : this.Sound entries root) (unwrapped : this.Unwrapped entries)
    (agrees : this.Agrees entries)
    (found : this.coordinator.cell.cellTree.rootNode.at? path = some n)
    (named : reply.Names entries n.label.cellID
      ((this.coordinator.cell.cellTree.parentOf n).map fun parent => parent.label.cellID)
      (if this.coordinator.isRoot = true ∧ path = [] then root else -1)) :
    this.Joins entries reply ↔ this.FitsOffer path := by
  unfold FitsOffer
  by_cases special : this.coordinator.isRoot = true ∧ path = []
  · rcases special with ⟨top, rfl⟩
    apply iff_of_true
    · rw [sound.parentOf_root found, if_pos ⟨top, rfl⟩] at named
      rw [SlotTree.at?_nil, Option.some.injEq] at found
      rw [← found] at named
      exact joins_of_root sound agrees top named
    · exact Or.inl ⟨top, rfl⟩
  · rw [if_neg special] at named
    rw [joins_iff sound named, or_iff_right special]
    rcases named with ⟨itf, ip, foundItf, foundIp, -, -⟩
    rw [foreign_iff sound unwrapped foundItf foundIp, hosts_iff sound unwrapped]
    simp only [foreign_iff sound unwrapped foundItf foundIp, found, Option.some.injEq, forall_eq',
      Option.map_eq_some_iff, forall_exists_index, and_imp, forall_apply_eq_imp_iff₂]
    constructor
    · rintro ⟨foreign, parents, hosts⟩
      exact ⟨foreign, hosts, parents⟩
    · rintro ⟨foreign, hosts, parents⟩
      exact ⟨foreign, parents, hosts⟩

theorem joins_creation_iff (sound : this.Sound entries root) (room : this.HasPort entries)
    {place : Path × Int}
    (under : CellTree.createCellI this.coordinator.cell.cellTree.rootNode = some place)
    (found : this.coordinator.cell.cellTree.rootNode.at? place.1 = some n)
    (named : reply.Names entries generated (some n.label.cellID)
      this.coordinator.startAllocationPort) :
    this.Joins entries reply ↔ this.FitsCreation generated := by
  rw [sound.counter] at named
  rw [joins_iff sound named]
  rcases named with ⟨itf, ip, foundItf, foundIp, -, -⟩
  rw [unannounced_iff sound room foundItf foundIp]
  simp only [Option.some.injEq, forall_eq', unannounced_iff sound room foundItf foundIp]
  unfold FitsCreation Unmentioned
  constructor
  · rintro ⟨⟨notRoot, fresh⟩, parents, below⟩
    refine ⟨⟨notRoot, ?_⟩, ?_⟩
    · intro other member
      refine ⟨fresh other member, ?_⟩
      intro above upper same
      exact port_of_sent_ne_next sound room member (below other member above upper same)
    · intro place' node' under' found'
      obtain rfl := Option.some.inj (under.symm.trans under')
      obtain rfl := Option.some.inj (found.symm.trans found')
      exact parents
  · rintro ⟨⟨notRoot, fresh⟩, parents⟩
    refine ⟨⟨notRoot, fun other member => (fresh other member).1⟩, parents place n under found, ?_⟩
    intro other member above upper same
    exact absurd same ((fresh other member).2 above upper)

end Kinds

/-! ## Runs -/

theorem nodup_allocated (sound : this.Sound entries root) (unwrapped : this.Unwrapped entries) :
    this.allocated.Nodup := by
  rw [sound.allocated]
  exact nodup_takenPorts (unwrapped root sound.configured)

/-- While the counter has not wrapped, the addresses agree. -/
def AgreesUnwrapped (entries : DiscoveryConfiguration) (this : AddressBook) : Prop :=
  this.Unwrapped entries → this.Agrees entries

theorem agrees_requestCell_iff (sound : this.Sound entries root)
    (good : this.AgreesUnwrapped entries) {generated : CellID}
    (done : this.step config entries (.requestCell generated) = .ok after) :
    after.AgreesUnwrapped entries ↔ this.Fits entries (.requestCell generated) := by
  have soundAfter := sound_requestCell sound done
  rcases step_requestCell sound done with ⟨reply, sends,
    ⟨path, n, available, found, -, old, named⟩ | ⟨place, n, available, under, found, -, new, named⟩⟩
  · have same : after.Unwrapped entries ↔ this.Unwrapped entries := by
      rw [Unwrapped, Unwrapped, allocated_of_sends sends, old, if_neg Bool.false_ne_true,
        List.append_nil]
    simp only [Fits, available, AgreesUnwrapped]
    constructor
    · intro agreesAfter unwrapped
      rw [← joins_offer_iff sound unwrapped (good unwrapped) found named,
        ← agrees_iff_joins sends (nodup_allocated soundAfter (same.mpr unwrapped)) (good unwrapped)]
      exact agreesAfter (same.mpr unwrapped)
    · intro fits unwrappedAfter
      have unwrapped := same.mp unwrappedAfter
      rw [agrees_iff_joins sends (nodup_allocated soundAfter unwrappedAfter) (good unwrapped),
        joins_offer_iff sound unwrapped (good unwrapped) found named]
      exact fits unwrapped
  · have same : after.Unwrapped entries ↔ this.HasPort entries := by
      rw [Unwrapped, HasPort, allocated_of_sends sends, new, if_pos rfl, List.length_append,
        List.length_singleton]
    have earlier : this.HasPort entries → this.Unwrapped entries := by
      intro room port configured
      have more := room port configured
      omega
    simp only [Fits, available, AgreesUnwrapped]
    constructor
    · intro agreesAfter room
      rw [← joins_creation_iff sound room under found named,
        ← agrees_iff_joins sends (nodup_allocated soundAfter (same.mpr room)) (good (earlier room))]
      exact agreesAfter (same.mpr room)
    · intro fits unwrappedAfter
      have room := same.mp unwrappedAfter
      rw [agrees_iff_joins sends (nodup_allocated soundAfter unwrappedAfter) (good (earlier room)),
        joins_creation_iff sound room under found named]
      exact fits room

/-- A join announces nothing. -/
theorem agrees_join (sound : this.Sound entries root) (good : this.AgreesUnwrapped entries)
    {event : Event} (joins : ∀ generated, event ≠ .requestCell generated)
    (done : this.step config entries event = .ok after) : after.AgreesUnwrapped entries := by
  rcases step_join sound joins done with ⟨rootCell, sent, -⟩
  have announced : after.announced entries = this.announced entries := by
    rw [AddressBook.announced, AddressBook.announced, rootAddr, rootAddr, rootCell, sent]
  have allocated : after.allocated = this.allocated := by
    rw [AddressBook.allocated, AddressBook.allocated, creations, creations, sent]
  intro unwrapped
  rw [Unwrapped, allocated] at unwrapped
  have agrees := good unwrapped
  constructor
  · rw [announced]
    exact agrees.cells
  · rw [announced, sent]
    exact agrees.parents
  · rw [allocated]
    exact agrees.ports

theorem agrees_step_iff (sound : this.Sound entries root) (good : this.AgreesUnwrapped entries)
    {event : Event} (done : this.step config entries event = .ok after) :
    after.AgreesUnwrapped entries ↔ this.Fits entries event := by
  cases event with
  | requestCell generated => exact agrees_requestCell_iff sound good done
  | joinMesh packet =>
      exact iff_of_true (agrees_join sound good (by rintro generated ⟨⟩) done) trivial
  | joinCell packet =>
      exact iff_of_true (agrees_join sound good (by rintro generated ⟨⟩) done) trivial

theorem sound_opened {own : P3PeerInfo} {parentCellID : Option CellID}
    {parentChannel : Option ParentChannel} {coordinator : Coordinator}
    (opened : Coordinator.opened config entries own parentCellID parentChannel =
      .ok coordinator) : ∃ root, (AddressBook.mk coordinator []).Sound entries root := by
  rcases Result.bind_eq_ok.mp opened with ⟨root, configured, made⟩
  rw [DiscoveryConfiguration.required_eq_ok] at configured
  cases made
  refine ⟨root, configured, (RepInv.new config own.fid).addPeer own, ?_, rfl, ?_⟩
  · exact (Int16.add_zero (root + 1)).symm
  · intro reply impossible
    cases impossible

/-- A mesh whose cells hold one superpeer. -/
def narrow : P3Configuration :=
  ⟨fun _ => none, fun _ => some 1, fun _ => none, fun _ => none⟩

/-- The record of the coordinator of a cell. -/
def leading (cellID : CellID) : P3PeerInfo :=
  .announced P3PeerInfo.SUPERPEER_COORD ⟨[9]⟩ cellID none none none none

/-- A coordinator whose cell is full with its own record. -/
def leader (cellID : CellID) (parent : Option (CellID × ParentChannel)) : Coordinator where
  cell :=
    { pid := ⟨[9]⟩
      cellID
      cellTree := ((CellTree.new narrow cellID).addPeer (leading cellID)).1
      parentChannel := parent.map Prod.snd }
  parentCellID := parent.map Prod.fst
  startAllocationPort := 2002

/-- The coordinator of the cell 5 below the root cell. -/
def inner : Coordinator :=
  leader ⟨[5]⟩ (some (⟨[0]⟩, { uuid := ⟨[8]⟩, cellID := ⟨[0]⟩ }))

end AddressBook

end Stheno.Superpeer
