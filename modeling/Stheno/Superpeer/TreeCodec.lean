import Stheno.Superpeer.Tree
import Stheno.Peer.Codec

/-!
# Transfer of a cell tree

`serialize` writes a node, its three peer lists and its children, each behind the
number of its slot.  `deserialize` builds new nodes, so the copy has addresses of
its own: `relocate` numbers the nodes of a tree in the order in which the reader
allocates them, and the round trip gives exactly the relocated tree.  A tree with an
identifier without key data is not written; `octets` are the bytes of every other tree.
-/

namespace Stheno.Superpeer

open Stheno.Tree Peer Wire

namespace CellTreeNode

/-- The fields of a node and its peers, up to its children. -/
def fieldOctets (info : CellInfo) (treeSpan : Nat) : List UInt8 :=
  info.cellID.octets ++ (writeShort info.port ++ (writeLong info.depth ++
    (writeLong info.spanNo ++ (writeLong treeSpan ++ (writeLong info.maxSPs ++
      (writeLong info.maxSensors ++ (writeLong info.maxMonitor ++
        (writeCounted P3PeerInfo.octets info.sps ++
          (writeCounted P3PeerInfo.octets info.sensors ++
            writeCounted P3PeerInfo.octets info.monitors)))))))))

mutual

def octets : CellTreeNode → List UInt8
  | .node info slots =>
      fieldOctets info slots.length ++
        (writeLong (slots.countP Option.isSome) ++ octetsOfSlots 0 slots)

/-- The children from slot `i` on, each behind its slot number. -/
def octetsOfSlots (i : Nat) : List (Option CellTreeNode) → List UInt8
  | [] => []
  | none :: slots => octetsOfSlots (i + 1) slots
  | some c :: slots => writeLong i ++ (octets c ++ octetsOfSlots (i + 1) slots)

end

/-- `serialize` of a node up to its children. -/
def serializeFields (info : CellInfo) (treeSpan : Nat) : Result (List UInt8) := do
  let cellID ← info.cellID.serialize
  let sps ← serializeCounted P3PeerInfo.serialize info.sps
  let sensors ← serializeCounted P3PeerInfo.serialize info.sensors
  let monitors ← serializeCounted P3PeerInfo.serialize info.monitors
  pure (cellID ++ (writeShort info.port ++ (writeLong info.depth ++ (writeLong info.spanNo ++
    (writeLong treeSpan ++ (writeLong info.maxSPs ++ (writeLong info.maxSensors ++
      (writeLong info.maxMonitor ++ (sps ++ (sensors ++ monitors))))))))))

mutual

def serialize : CellTreeNode → Result (List UInt8)
  | .node info slots => do
      let fields ← serializeFields info slots.length
      let children ← serializeOfSlots 0 slots
      pure (fields ++ (writeLong (slots.countP Option.isSome) ++ children))

/-- The children from slot `i` on, each behind its slot number. -/
def serializeOfSlots (i : Nat) : List (Option CellTreeNode) → Result (List UInt8)
  | [] => pure []
  | none :: slots => serializeOfSlots (i + 1) slots
  | some c :: slots => do
      let child ← serialize c
      let rest ← serializeOfSlots (i + 1) slots
      pure (writeLong i ++ (child ++ rest))

end

/-- The identifiers of a cell and of its peers have key data. -/
def InitializedCell (info : CellInfo) : Prop :=
  info.cellID.Initialized ∧ (∀ peer ∈ info.sps, peer.Initialized) ∧
    (∀ peer ∈ info.sensors, peer.Initialized) ∧ ∀ peer ∈ info.monitors, peer.Initialized

instance (info : CellInfo) : Decidable (InitializedCell info) :=
  inferInstanceAs (Decidable (_ ∧ _))

theorem serializeFields_eq_ok {info : CellInfo} {treeSpan : Nat} {bytes : List UInt8} :
    serializeFields info treeSpan = .ok bytes ↔
      InitializedCell info ∧ bytes = fieldOctets info treeSpan := by
  simp only [serializeFields, Result.bind_eq_ok, UUID.serialize_eq_ok,
    serializeCounted_eq_ok P3PeerInfo.serialize_eq_ok]
  constructor
  · rintro ⟨_, ⟨cellID, rfl⟩, _, ⟨sps, rfl⟩, _, ⟨sensors, rfl⟩, _, ⟨monitors, rfl⟩, done⟩
    cases done
    exact ⟨⟨cellID, sps, sensors, monitors⟩, rfl⟩
  · rintro ⟨⟨cellID, sps, sensors, monitors⟩, rfl⟩
    exact ⟨_, ⟨cellID, rfl⟩, _, ⟨sps, rfl⟩, _, ⟨sensors, rfl⟩, _, ⟨monitors, rfl⟩, rfl⟩

/-- A tree is written where every identifier in it has key data. -/
theorem serialize_eq_ok (t : CellTreeNode) (bytes : List UInt8) :
    serialize t = .ok bytes ↔ (∀ info ∈ t.labels, InitializedCell info) ∧ bytes = octets t := by
  induction t using SlotTree.induction generalizing bytes with
  | node info slots ih =>
      have inSlots : ∀ (rest : List (Option CellTreeNode)) (i : Nat) (bytes : List UInt8),
          (∀ c, some c ∈ rest → some c ∈ slots) →
          (serializeOfSlots i rest = .ok bytes ↔
            (∀ info ∈ SlotTree.labelsOfSlots rest, InitializedCell info) ∧
              bytes = octetsOfSlots i rest) := by
        intro rest
        induction rest with
        | nil =>
            intro i bytes _
            rw [serializeOfSlots, octetsOfSlots]
            constructor
            · rintro ⟨⟩
              exact ⟨by simp, rfl⟩
            · rintro ⟨-, rfl⟩
              rfl
        | cons slot rest restIh =>
            intro i bytes included
            have tail := fun bytes => restIh (i + 1) bytes fun c member =>
              included c (List.mem_cons_of_mem _ member)
            cases slot with
            | none =>
                rw [serializeOfSlots, octetsOfSlots, SlotTree.labelsOfSlots_cons_none]
                exact tail bytes
            | some c =>
                have child := ih c (included c List.mem_cons_self)
                rw [serializeOfSlots, octetsOfSlots, SlotTree.labelsOfSlots_cons_some]
                simp only [Result.bind_eq_ok, child, tail, List.forall_mem_append]
                constructor
                · rintro ⟨_, ⟨here, rfl⟩, _, ⟨rest, rfl⟩, done⟩
                  cases done
                  exact ⟨⟨here, rest⟩, rfl⟩
                · rintro ⟨⟨here, rest⟩, rfl⟩
                  exact ⟨_, ⟨here, rfl⟩, _, ⟨rest, rfl⟩, rfl⟩
      have children := fun bytes => inSlots slots 0 bytes fun c member => member
      rw [serialize, octets, SlotTree.labels_node]
      simp only [Result.bind_eq_ok, serializeFields_eq_ok, children, List.forall_mem_cons]
      constructor
      · rintro ⟨_, ⟨own, rfl⟩, _, ⟨below, rfl⟩, done⟩
        cases done
        exact ⟨⟨own, below⟩, rfl⟩
      · rintro ⟨⟨own, below⟩, rfl⟩
        exact ⟨_, ⟨own, rfl⟩, _, ⟨below, rfl⟩, rfl⟩

/-- Read the fields of a node at a given address; its slots start out empty. -/
def deserializeFields (parent : Option Addr) (addr : Addr) : Reader CellTreeNode := do
  let cellID ← UUID.deserialize
  let port ← readShort 0
  let depth ← readLong 0
  let spanNo ← readLong 0
  let treeSpan ← readLong 0
  let maxSPs ← readLong 0
  let maxSensors ← readLong 0
  let maxMonitor ← readLong 0
  if treeSpan < 0 then
    throw .badArrayLength
  else
    let sps ← readCounted P3PeerInfo.deserialize
    let sensors ← readCounted P3PeerInfo.deserialize
    let monitors ← readCounted P3PeerInfo.deserialize
    pure (.node
      { addr, parent, cellID, port, depth, spanNo, maxSPs, maxSensors, maxMonitor, sps, sensors,
        monitors }
      (List.replicate treeSpan.toNat none))

/-- `setSibbling` with the signed slot number that was read. -/
def setSibblingRead (this : CellTreeNode) (order : Int) (child : CellTreeNode) :
    Reader CellTreeNode :=
  if order < 0 then
    throw .outOfBounds
  else
    match setSibbling this order.toNat (some child) with
    | .ok node => pure node
    | .error fault => throw fault

/-- The loop over the children; `next` is the address of the next allocation. -/
def deserializeSiblings (readChild : Addr → Reader (CellTreeNode × Addr)) :
    Nat → CellTreeNode → Addr → Reader (CellTreeNode × Addr)
  | 0, this, next => pure (this, next)
  | count + 1, this, next => do
      let order ← readLong 0
      let child ← readChild next
      let node ← setSibblingRead this order child.1
      deserializeSiblings readChild count node child.2

/-- Read a node allocated at `addr`; the answer holds the address after the last
one allocated.  The first argument bounds the depth of the recursion. -/
def deserialize : Nat → Option Addr → Addr → Reader (CellTreeNode × Addr)
  | 0, _, _ => throw .outOfFuel
  | fuel + 1, parent, addr => do
      let node ← deserializeFields parent addr
      let siblingCount ← readLong 0
      deserializeSiblings (deserialize fuel (some addr)) siblingCount.toNat node (addr + 1)

mutual

/-- The tree at new addresses from `addr` on, in preorder. -/
def relocate (parent : Option Addr) (addr : Addr) : CellTreeNode → CellTreeNode × Addr
  | .node info slots =>
      let placed := relocateSlots addr (addr + 1) slots
      (.node { info with addr, parent } placed.1, placed.2)

/-- The children of a node at `parent`, at new addresses from `next` on. -/
def relocateSlots (parent next : Addr) :
    List (Option CellTreeNode) → List (Option CellTreeNode) × Addr
  | [] => ([], next)
  | none :: slots =>
      let placed := relocateSlots parent next slots
      (none :: placed.1, placed.2)
  | some c :: slots =>
      let child := relocate (some parent) next c
      let placed := relocateSlots parent child.2 slots
      (some child.1 :: placed.1, placed.2)

end

/-- The fields that the class declares as `int` and `Short` hold such values. -/
structure IntFields (this : CellTreeNode) : Prop where
  port : -2 ^ 15 ≤ this.label.port ∧ this.label.port < 2 ^ 15
  depth : -2 ^ 31 ≤ this.label.depth ∧ this.label.depth < 2 ^ 31
  spanNo : -2 ^ 31 ≤ this.label.spanNo ∧ this.label.spanNo < 2 ^ 31
  maxSPs : -2 ^ 31 ≤ this.label.maxSPs ∧ this.label.maxSPs < 2 ^ 31
  maxSensors : -2 ^ 31 ≤ this.label.maxSensors ∧ this.label.maxSensors < 2 ^ 31
  maxMonitor : -2 ^ 31 ≤ this.label.maxMonitor ∧ this.label.maxMonitor < 2 ^ 31
  treeSpan : treeSpan this < 2 ^ 31

instance (this : CellTreeNode) : Decidable (IntFields this) :=
  decidable_of_iff
    ((-2 ^ 15 ≤ this.label.port ∧ this.label.port < 2 ^ 15) ∧
      (-2 ^ 31 ≤ this.label.depth ∧ this.label.depth < 2 ^ 31) ∧
      (-2 ^ 31 ≤ this.label.spanNo ∧ this.label.spanNo < 2 ^ 31) ∧
      (-2 ^ 31 ≤ this.label.maxSPs ∧ this.label.maxSPs < 2 ^ 31) ∧
      (-2 ^ 31 ≤ this.label.maxSensors ∧ this.label.maxSensors < 2 ^ 31) ∧
      (-2 ^ 31 ≤ this.label.maxMonitor ∧ this.label.maxMonitor < 2 ^ 31) ∧ treeSpan this < 2 ^ 31)
    ⟨fun ⟨port, depth, spanNo, maxSPs, maxSensors, maxMonitor, span⟩ =>
      ⟨port, depth, spanNo, maxSPs, maxSensors, maxMonitor, span⟩,
    fun fields => ⟨fields.port, fields.depth, fields.spanNo, fields.maxSPs, fields.maxSensors,
      fields.maxMonitor, fields.treeSpan⟩⟩

/-! ## Round trip -/

theorem setParent_eq_self {parent : Option Addr} {this : CellTreeNode}
    (here : this.label.parent = parent) : setParent parent this = this := by
  subst here
  exact SlotTree.node_label_slots this

private theorem reads_peers (peers : List P3PeerInfo)
    (fits : (writeCounted P3PeerInfo.octets peers).length < 2 ^ 32) :
    Reads (readCounted P3PeerInfo.deserialize) (writeCounted P3PeerInfo.octets peers) peers := by
  apply reads_counted P3PeerInfo.two_le_length fits
  intro peer member
  have part : peer.octets.length ≤ _ := length_le_length_flatMap member
  rw [writeCounted, List.length_append] at fits
  apply P3PeerInfo.reads
  omega

/-- The fields are read back into a node without children. -/
theorem reads_fields {info : CellInfo} {slots : List (Option CellTreeNode)} (parent : Option Addr)
    (addr : Addr) (ints : IntFields (.node info slots))
    (fits : (fieldOctets info slots.length).length < 2 ^ 32) :
    Reads (deserializeFields parent addr) (fieldOctets info slots.length)
      (.node { info with addr, parent } (List.replicate slots.length none)) := by
  rcases ints with ⟨port, depth, spanNo, maxSPs, maxSensors, maxMonitor, span⟩
  change slots.length < 2 ^ 31 at span
  simp only [fieldOctets, List.length_append] at fits
  apply (UUID.reads (show info.cellID.octets.length < 2 ^ 32 by omega)).bind
  apply (reads_short 0 port.1 port.2).bind
  apply (reads_long 0 depth.1 depth.2).bind
  apply (reads_long 0 spanNo.1 spanNo.2).bind
  apply (reads_long (x := (slots.length : Int)) 0 (by omega) (by omega)).bind
  apply (reads_long 0 maxSPs.1 maxSPs.2).bind
  apply (reads_long 0 maxSensors.1 maxSensors.2).bind
  apply (reads_long 0 maxMonitor.1 maxMonitor.2).bind
  rw [if_neg (by omega)]
  apply (reads_peers info.sps (by omega)).bind
  apply (reads_peers info.sensors (by omega)).bind
  exact (reads_peers info.monitors (by omega)).bind_pure fun monitors =>
    SlotTree.node
      { info with addr := addr, parent := parent, monitors := monitors }
      (List.replicate slots.length none)

private theorem setSibblingRead_eq {info : CellInfo} (done : List (Option CellTreeNode))
    (count : Nat) {child : CellTreeNode} (here : child.label.parent = some info.addr) :
    setSibblingRead (.node info (done ++ none :: List.replicate count none)) done.length child =
      pure (.node info (done ++ some child :: List.replicate count none)) := by
  have bound : done.length < treeSpan (.node info (done ++ none :: List.replicate count none)) := by
    simp [treeSpan]
  rw [setSibblingRead, if_neg (by omega), Int.toNat_natCast, setSibbling, if_pos bound,
    Option.map_some, SlotTree.label_node, setParent_eq_self here]
  simp [SlotTree.setSlot]

theorem label_relocate (parent : Option Addr) (addr : Addr) (t : CellTreeNode) :
    (relocate parent addr t).1.label = { t.label with addr, parent } := by
  cases t
  rw [relocate, SlotTree.label_node, SlotTree.label_node]

/-- The loop fills the slots that the written children came from, from slot
`done.length` on. -/
private theorem reads_siblings {fuel : Nat} {info : CellInfo} {rest : List (Option CellTreeNode)}
    (readsChild : ∀ c, some c ∈ rest → ∀ next,
      Reads (deserialize fuel (some info.addr) next) (octets c)
        (relocate (some info.addr) next c))
    (done : List (Option CellTreeNode)) (next : Addr)
    (bound : done.length + rest.length < 2 ^ 31) :
    Reads (deserializeSiblings (deserialize fuel (some info.addr)) (rest.countP Option.isSome)
        (.node info (done ++ List.replicate rest.length none)) next)
      (octetsOfSlots done.length rest)
      (.node info (done ++ (relocateSlots info.addr next rest).1),
        (relocateSlots info.addr next rest).2) := by
  induction rest generalizing done next with
  | nil => simpa [octetsOfSlots, relocateSlots, deserializeSiblings] using Reads.pure _
  | cons slot rest ih =>
      have readsRest := ih fun c member => readsChild c (List.mem_cons_of_mem _ member)
      rw [List.length_cons] at bound
      cases slot with
      | none =>
          have tail := readsRest (done ++ [none]) next (by simp; omega)
          simp only [List.append_assoc, List.singleton_append, List.length_append,
            List.length_singleton] at tail
          simpa [octetsOfSlots, relocateSlots, List.replicate_succ] using tail
      | some c =>
          have child := readsChild c List.mem_cons_self next
          have here : (relocate (some info.addr) next c).1.label.parent = some info.addr := by
            rw [label_relocate]
          have tail := readsRest (done ++ [some (relocate (some info.addr) next c).1])
            (relocate (some info.addr) next c).2 (by simp; omega)
          simp only [List.append_assoc, List.singleton_append, List.length_append,
            List.length_singleton] at tail
          have order : Reads (readLong 0) (writeLong done.length) (done.length : Int) :=
            reads_long 0 (by omega) (by omega)
          rw [List.countP_cons_of_pos (by rfl), List.length_cons, List.replicate_succ,
            octetsOfSlots, relocateSlots]
          apply order.bind
          apply child.bind
          rw [setSibblingRead_eq done rest.length here]
          exact tail

theorem length_octetsOfSlots_ge {slots : List (Option CellTreeNode)} {c : CellTreeNode}
    (member : some c ∈ slots) (i : Nat) :
    (octets c).length ≤ (octetsOfSlots i slots).length := by
  induction slots generalizing i with
  | nil => cases member
  | cons slot slots ih =>
      cases slot with
      | none =>
          rw [octetsOfSlots]
          rcases List.mem_cons.mp member with impossible | inTail
          · cases impossible
          · exact ih inTail (i + 1)
      | some d =>
          rw [octetsOfSlots, List.length_append, List.length_append]
          rcases List.mem_cons.mp member with equal | inTail
          · cases equal
            omega
          · have part := ih inTail (i + 1)
            omega

theorem length_octets_child_lt (info : CellInfo) {slots : List (Option CellTreeNode)}
    {c : CellTreeNode} (member : some c ∈ slots) :
    (octets c).length < (octets (.node info slots)).length := by
  have part := length_octetsOfSlots_ge member 0
  rw [octets, List.length_append, List.length_append, writeLong, length_toSignedLE]
  omega

/-- The bytes of a tree that fits a packet are read back as the tree at its new
addresses. -/
theorem reads_node {t : CellTreeNode} (ints : ∀ n ∈ t.nodes, IntFields n)
    (fits : (octets t).length < 2 ^ 32) {fuel : Nat} (enough : (octets t).length < fuel)
    (parent : Option Addr) (addr : Addr) :
    Reads (deserialize fuel parent addr) (octets t) (relocate parent addr t) := by
  induction t using SlotTree.induction generalizing fuel parent addr with
  | node info slots ih =>
      cases fuel with
      | zero => cases enough
      | succ fuel =>
          have own := ints _ (SlotTree.mem_nodes_self _)
          have span : slots.length < 2 ^ 31 := own.treeSpan
          have some_le : slots.countP Option.isSome ≤ slots.length := List.countP_le_length
          let placed : CellInfo := { info with addr, parent }
          have readsChild : ∀ c, some c ∈ slots → ∀ next,
              Reads (deserialize fuel (some placed.addr) next) (octets c)
                (relocate (some placed.addr) next c) := by
            intro c member next
            have shorter := length_octets_child_lt info member
            apply ih c member
            · intro n below
              exact ints n (SlotTree.mem_nodes_iff.mpr (Or.inr ⟨c, member, below⟩))
            · omega
            · omega
          have siblings := reads_siblings readsChild []
            (addr + 1) (by simpa using span)
          rw [octets, List.length_append] at fits
          rw [octets, relocate, deserialize]
          apply (reads_fields parent addr own (by omega)).bind
          have count : Reads (readLong 0) (writeLong (slots.countP Option.isSome))
              (slots.countP Option.isSome : Int) := reads_long 0 (by omega) (by omega)
          apply count.bind
          rw [Int.toNat_natCast]
          exact siblings

end CellTreeNode

namespace CellTree

def octets (this : CellTree) : List UInt8 :=
  CellTreeNode.octets this.rootNode

def serialize (this : CellTree) : Result (List UInt8) :=
  CellTreeNode.serialize this.rootNode

/-- The bytes that are written, if the tree is written. -/
theorem octets_of_serialize {this : CellTree} {bytes : List UInt8}
    (written : this.serialize = .ok bytes) : bytes = this.octets :=
  ((CellTreeNode.serialize_eq_ok this.rootNode bytes).mp written).2

/-- A tree is written where every identifier in it has key data. -/
theorem serialize_of_initialized {this : CellTree}
    (ready : ∀ info ∈ this.rootNode.labels, CellTreeNode.InitializedCell info) :
    this.serialize = .ok this.octets :=
  (CellTreeNode.serialize_eq_ok this.rootNode _).mpr ⟨ready, rfl⟩

/-- Read a tree into nodes allocated from `base` on.  A node takes at least one
byte, so the recursion is no deeper than the stream is long. -/
def deserialize (base : Addr) : Reader CellTree := do
  let stream ← get
  let root ← CellTreeNode.deserialize (stream.data.length + 1) none base
  pure ⟨root.1⟩

/-- The copy of a tree whose nodes are allocated from `base` on. -/
def relocated (this : CellTree) (base : Addr) : CellTree :=
  ⟨(CellTreeNode.relocate none base this.rootNode).1⟩

/-- The tree is one that the declared field types can hold and a packet, whose
size is a 32-bit number, can carry. -/
structure Transferable (this : CellTree) : Prop where
  ints : ∀ n ∈ this.rootNode.nodes, CellTreeNode.IntFields n
  fits : this.octets.length < 2 ^ 32

/-- Deserializing the bytes of a tree, whatever follows them, gives its copy. -/
theorem reads_tree {t : CellTree} (transferable : t.Transferable) (base : Addr) :
    Reads (deserialize base) t.octets (t.relocated base) := by
  intro rest goodBit
  have budget : t.octets.length < (t.octets ++ rest).length + 1 := by
    rw [List.length_append]
    exact Nat.lt_succ_of_le (Nat.le_add_right _ _)
  have node := CellTreeNode.reads_node transferable.ints transferable.fits budget none base
  exact (node.bind_pure fun root => CellTree.mk root.1) rest goodBit

end CellTree

/-! ## The copy -/

namespace CellTreeNode

/-- A node's fields without its address and its parent pointer. -/
def forgetPointers (info : CellInfo) : CellInfo :=
  { info with addr := 0, parent := none }

/-- A child of the copy is the copy of the child in the same slot. -/
theorem exists_of_relocateSlots {parent next : Addr} {slots : List (Option CellTreeNode)} {i : Nat}
    {c : CellTreeNode} (held : (relocateSlots parent next slots).1[i]? = some (some c)) :
    ∃ original addr, slots[i]? = some (some original) ∧
      c = (relocate (some parent) addr original).1 := by
  induction slots generalizing next i with
  | nil => simp [relocateSlots] at held
  | cons slot slots ih =>
      cases slot with
      | none =>
          rw [relocateSlots] at held
          cases i with
          | zero => simp at held
          | succ i =>
              rcases ih held with ⟨original, addr, atSlot, equal⟩
              exact ⟨original, addr, atSlot, equal⟩
      | some d =>
          rw [relocateSlots] at held
          cases i with
          | zero =>
              simp only [List.getElem?_cons_zero, Option.some.injEq] at held
              exact ⟨d, next, rfl, held.symm⟩
          | succ i =>
              rcases ih held with ⟨original, addr, atSlot, equal⟩
              exact ⟨original, addr, atSlot, equal⟩

/-- The copy has the same shape and, pointers aside, the same fields. -/
theorem map_forgetPointers_relocate (parent : Option Addr) (addr : Addr) (t : CellTreeNode) :
    (relocate parent addr t).1.map forgetPointers = t.map forgetPointers := by
  induction t using SlotTree.induction generalizing parent addr with
  | node info slots ih =>
      have inSlots : ∀ (rest : List (Option CellTreeNode)) (next : Addr),
          (∀ c, some c ∈ rest → some c ∈ slots) →
          (relocateSlots addr next rest).1.map (Option.map (SlotTree.map forgetPointers)) =
            rest.map (Option.map (SlotTree.map forgetPointers)) := by
        intro rest
        induction rest with
        | nil => simp [relocateSlots]
        | cons slot rest restIh =>
            intro next included
            have tail := fun next => restIh next fun c member =>
              included c (List.mem_cons_of_mem _ member)
            cases slot with
            | none => simp [relocateSlots, tail]
            | some c => simp [relocateSlots, tail, ih c (included c List.mem_cons_self)]
      rw [relocate, SlotTree.map_node, SlotTree.map_node, inSlots slots _ fun c member => member]
      rfl

/-- The nodes of the copy are numbered one after another in preorder. -/
theorem addrs_relocate (parent : Option Addr) (addr : Addr) (t : CellTreeNode) :
    (relocate parent addr t).1.labels.map CellInfo.addr = List.range' addr t.labels.length ∧
      (relocate parent addr t).2 = addr + t.labels.length := by
  induction t using SlotTree.induction generalizing parent addr with
  | node info slots ih =>
      have inSlots : ∀ (rest : List (Option CellTreeNode)) (next : Addr),
          (∀ c, some c ∈ rest → some c ∈ slots) →
          (SlotTree.labelsOfSlots (relocateSlots addr next rest).1).map CellInfo.addr =
              List.range' next (SlotTree.labelsOfSlots rest).length ∧
            (relocateSlots addr next rest).2 =
              next + (SlotTree.labelsOfSlots rest).length := by
        intro rest
        induction rest with
        | nil => simp [relocateSlots]
        | cons slot rest restIh =>
            intro next included
            have tail := fun next => restIh next fun c member =>
              included c (List.mem_cons_of_mem _ member)
            cases slot with
            | none => simpa [relocateSlots] using tail next
            | some c =>
                rcases ih c (included c List.mem_cons_self) (some addr) next with
                  ⟨childAddrs, childNext⟩
                rcases tail (next + c.labels.length) with ⟨restAddrs, restNext⟩
                rw [relocateSlots, childNext, restNext]
                simp only [SlotTree.labelsOfSlots_cons_some, List.map_append, childAddrs, restAddrs,
                  List.length_append]
                constructor
                · rw [List.range'_append_1]
                · exact Nat.add_assoc _ _ _
      rcases inSlots slots (addr + 1) fun c member => member with ⟨below, after⟩
      rw [relocate, SlotTree.labels_node, SlotTree.labels_node, List.map_cons, below, after,
        List.length_cons]
      constructor
      · rw [List.range'_succ]
      · exact Nat.add_right_comm _ _ _

/-- What holds along the edges of a tree carries over to the copy, where the parent
pointer of a child is the address of the node that holds it. -/
theorem allEdges_relocate {R S : CellInfo → Nat → CellInfo → Prop}
    (carry : ∀ a i b parent addr next, R a i b →
      S { a with addr, parent } i { b with addr := next, parent := some addr })
    {t : CellTreeNode} (edges : t.AllEdges R) (parent : Option Addr) (addr : Addr) :
    (relocate parent addr t).1.AllEdges S := by
  induction t using SlotTree.induction generalizing parent addr with
  | node info slots ih =>
      rw [SlotTree.allEdges_iff]
      intro i c held
      rw [relocate, SlotTree.child_eq_some_iff, SlotTree.slots_node] at held
      rcases exists_of_relocateSlots held with ⟨original, next, atSlot, rfl⟩
      have heldOriginal : (SlotTree.node info slots).child i = some original :=
        SlotTree.child_eq_some_iff.mpr atSlot
      have atChild := SlotTree.allEdges_iff.mp edges i original heldOriginal
      constructor
      · rw [label_relocate, label_relocate]
        exact carry _ _ _ _ _ _ atChild.1
      · exact ih original (SlotTree.mem_slots_of_child heldOriginal) atChild.2 _ _

end CellTreeNode

end Stheno.Superpeer
