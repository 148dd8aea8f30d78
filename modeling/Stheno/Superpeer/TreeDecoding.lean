import Stheno.Superpeer.Queries
import Stheno.Tree.Follows
import Stheno.Wire.Steady

/-!
# Reading a cell state from any bytes

`deserialize` takes spans, counts and slot numbers from the stream and consults no good bit
between its reads: a field whose read fails keeps what the memory of the new node held.
The layout of the bytes is what they say when they are only read, with a missing number
where a read fails; it decides whether the tree can be built.
-/

namespace Stheno.Wire

/-- Read a field of `size` bytes, missing when the stream is too short. -/
def tryField {α : Type} (size : Nat) (decode : List UInt8 → α) : Reader (Option α) := do
  match ← adjust size with
  | some bytes => pure (some (decode bytes))
  | none => pure none

def tryShort : Reader (Option Int) :=
  tryField 2 ofSignedLE

def tryLong : Reader (Option Int) :=
  tryField 4 ofSignedLE

end Stheno.Wire

namespace Stheno.Superpeer

open Stheno.Tree Peer Wire

namespace CellTreeNode

/-- What the memory of a node holds before its fields are read into it. -/
structure Uninitialised where
  port : Int
  depth : Int
  spanNo : Int
  treeSpan : Int
  maxSPs : Int
  maxSensors : Int
  maxMonitor : Int

/-- The fields in front of the peer lists. -/
structure Header where
  cellID : CellID
  port : Option Int
  depth : Option Int
  spanNo : Option Int
  treeSpan : Option Int
  maxSPs : Option Int
  maxSensors : Option Int
  maxMonitor : Option Int

def readHeader : Reader Header := do
  let cellID ← UUID.deserialize
  let port ← tryShort
  let depth ← tryLong
  let spanNo ← tryLong
  let treeSpan ← tryLong
  let maxSPs ← tryLong
  let maxSensors ← tryLong
  let maxMonitor ← tryLong
  pure { cellID, port, depth, spanNo, treeSpan, maxSPs, maxSensors, maxMonitor }

/-- The three lists of peers. -/
structure PeerLists where
  sps : List P3PeerInfo
  sensors : List P3PeerInfo
  monitors : List P3PeerInfo

/-- The number of peers that were read. -/
def PeerLists.size (this : PeerLists) : Nat :=
  this.sps.length + this.sensors.length + this.monitors.length

/-- One variable `count` serves the three loops, so it keeps the count of the list before
when the read of the next one fails. -/
def readPeerLists : Reader PeerLists := do
  let count ← readLong 0
  let sps ← readTimes P3PeerInfo.deserialize count.toNat
  let count ← readLong count
  let sensors ← readTimes P3PeerInfo.deserialize count.toNat
  let count ← readLong count
  let monitors ← readTimes P3PeerInfo.deserialize count.toNat
  pure { sps, sensors, monitors }

/-- The new node with its fields and peers, and an array of empty slots. -/
def allocated (memory : Uninitialised) (parent : Option Addr) (addr : Addr) (header : Header)
    (treeSpan : Int) (lists : PeerLists) : CellTreeNode :=
  .node
    { addr
      parent
      cellID := header.cellID
      port := header.port.getD memory.port
      depth := header.depth.getD memory.depth
      spanNo := header.spanNo.getD memory.spanNo
      maxSPs := header.maxSPs.getD memory.maxSPs
      maxSensors := header.maxSensors.getD memory.maxSensors
      maxMonitor := header.maxMonitor.getD memory.maxMonitor
      sps := lists.sps
      sensors := lists.sensors
      monitors := lists.monitors }
    (List.replicate treeSpan.toNat none)

/-- The loop over the children; `next` is the address of the next allocation and `reads`
the number of peers and children read so far. -/
def readSiblings (readChild : Addr → Reader (CellTreeNode × Addr × Nat)) :
    Nat → CellTreeNode → Addr → Nat → Reader (CellTreeNode × Addr × Nat)
  | 0, this, next, reads => pure (this, next, reads)
  | count + 1, this, next, reads => do
      let order ← readLong 0
      let child ← readChild next
      let node ← setSibblingRead this order child.1
      readSiblings readChild count node child.2.1 (reads + child.2.2 + 1)

/-- `deserialize` into memory with any content: the node, the address after the last one
allocated, and the number of peers and children read.  The first argument bounds the depth
of the recursion. -/
def deserializeOver (memory : Addr → Uninitialised) :
    Nat → Option Addr → Addr → Reader (CellTreeNode × Addr × Nat)
  | 0, _, _ => throw .outOfFuel
  | fuel + 1, parent, addr => do
      let header ← readHeader
      let treeSpan := header.treeSpan.getD (memory addr).treeSpan
      if treeSpan < 0 then
        throw .badArrayLength
      else do
        let lists ← readPeerLists
        let siblingCount ← readLong 0
        readSiblings (deserializeOver memory fuel (some addr)) siblingCount.toNat
          (allocated (memory addr) parent addr header treeSpan lists) (addr + 1) lists.size

end CellTreeNode

/-- `deserialize` of a tree into nodes allocated from `base` on, with the number of peers
and children read. -/
def CellTree.deserializeOver (memory : Addr → CellTreeNode.Uninitialised) (base : Addr) :
    Reader (CellTree × Nat) := do
  let stream ← get
  let root ← CellTreeNode.deserializeOver memory (stream.data.length + 1) none base
  pure (⟨root.1⟩, root.2.2)

/-! ## The layout of the bytes -/

/-- The numbers of a node that decide over its construction. -/
structure Entry where
  /-- The slot number in front of the node; 0 for the root. -/
  order : Int
  spanNo : Option Int
  treeSpan : Option Int
  peers : Nat

/-- The nodes in the order of the bytes. -/
abbrev Layout := SlotTree Entry

namespace Layout

open CellTreeNode

def readChildren (readChild : Int → Reader Layout) : Nat → Reader (List Layout)
  | 0 => pure []
  | count + 1 => do
      let order ← readLong 0
      let child ← readChild order
      let rest ← readChildren readChild count
      pure (child :: rest)

/-- Read the numbers and build nothing. -/
def read : Nat → Int → Reader Layout
  | 0, _ => throw .outOfFuel
  | fuel + 1, order => do
      let header ← readHeader
      let lists ← readPeerLists
      let siblingCount ← readLong 0
      let children ← readChildren (read fuel) siblingCount.toNat
      pure (.node ⟨order, header.spanNo, header.treeSpan, lists.size⟩ (children.map some))

/-- Every span is there and not negative, and the slot numbers of the children are within
the span. -/
def Fits (layout : Layout) : Prop :=
  ∀ n ∈ layout.nodes, ∃ s, n.label.treeSpan = some s ∧ 0 ≤ s ∧
    ∀ c, some c ∈ n.slots → 0 ≤ c.label.order ∧ c.label.order < s

mutual

/-- The nodes in the slots they name; a later child takes the slot of an earlier one. -/
def placed : Layout → Layout
  | .node entry children =>
      place (.node entry (List.replicate (entry.treeSpan.getD 0).toNat none)) children

def place (this : Layout) : List (Option Layout) → Layout
  | [] => this
  | none :: rest => place this rest
  | some c :: rest => place (this.setSlot c.label.order.toNat (some (placed c))) rest

end

/-- The number of peers and nodes that the bytes ask for. -/
def records (layout : Layout) : Nat :=
  (layout.labels.map fun entry => entry.peers + 1).sum

end Layout

/-! ## Building what the bytes say -/

namespace CellTreeNode

/-- The slot number that a node recorded is the one that was read, if any. -/
def RecordsSpan (memory : Addr → Uninitialised) (info : CellInfo) (entry : Entry) : Prop :=
  info.spanNo = entry.spanNo.getD (memory info.addr).spanNo

/-- A node built for a layout from the addresses `first` up to `next`. -/
structure Built (memory : Addr → Uninitialised) (first next : Addr) (layout : Layout)
    (n : CellTreeNode) : Prop where
  follows : SlotTree.Follows (RecordsSpan memory) n layout
  points : n.AllEdges PointsBack
  fresh : ∀ addr ∈ n.labels.map CellInfo.addr, first ≤ addr ∧ addr < next
  unshared : (n.labels.map CellInfo.addr).Nodup

theorem child_replicate_none {α : Type} (a : α) (count i : Nat) :
    (SlotTree.node a (List.replicate count (none : Option (SlotTree α)))).child i = none := by
  rw [SlotTree.child, SlotTree.slots_node, List.getElem?_replicate]
  split <;> rfl

/-- A new node is built for the entry of its header. -/
theorem built_allocated {memory : Addr → Uninitialised} {parent : Option Addr} {addr : Addr}
    {header : Header} {lists : PeerLists} {entry : Entry} {treeSpan : Int} {count : Nat}
    (spanNo : entry.spanNo = header.spanNo) :
    Built memory addr (addr + 1) (.node entry (List.replicate count none))
      (allocated (memory addr) parent addr header treeSpan lists) where
  follows := by
    rw [SlotTree.follows_iff]
    constructor
    · rw [RecordsSpan, SlotTree.label_node, spanNo]
      rfl
    · intro i
      rw [allocated, child_replicate_none, child_replicate_none]
      exact Option.Rel.none
  points := SlotTree.allEdges_of_no_child fun i => child_replicate_none _ _ i
  fresh := by
    intro other member
    rw [allocated, SlotTree.labels_node, SlotTree.labelsOfSlots_replicate_none,
      List.map_singleton, List.mem_singleton] at member
    rw [member]
    exact ⟨Nat.le_refl _, Nat.lt_succ_self _⟩
  unshared := by
    rw [allocated, SlotTree.labels_node, SlotTree.labelsOfSlots_replicate_none]
    exact List.nodup_singleton _

/-- The own address of a built node is in its range. -/
theorem Built.own {memory : Addr → Uninitialised} {first next : Addr} {layout : Layout}
    {n : CellTreeNode} (built : Built memory first next layout n) :
    first ≤ n.label.addr ∧ n.label.addr < next := by
  apply built.fresh
  rw [SlotTree.labels_eq]
  exact List.mem_map_of_mem List.mem_cons_self

/-- A child built from later addresses may go into any slot. -/
theorem Built.setSlot {memory : Addr → Uninitialised} {first next last : Addr}
    {layout below : Layout} {n c : CellTreeNode} {i : Nat}
    (built : Built memory first next layout n) (builtChild : Built memory next last below c)
    (parent : c.label.parent = some n.label.addr) (bound : i < n.slots.length)
    (boundLayout : i < layout.slots.length) :
    Built memory first last (layout.setSlot i (some below)) (n.setSlot i (some c)) := by
  rcases SlotTree.exists_labels_setSlot n c bound with ⟨kept, among, perm⟩
  have addrs := perm.map CellInfo.addr
  rw [List.map_append] at addrs
  have old : ∀ addr ∈ kept.map CellInfo.addr, first ≤ addr ∧ addr < next := fun addr member =>
    built.fresh addr ((among.map CellInfo.addr).subset member)
  constructor
  · exact built.follows.setSlot builtChild.follows bound boundLayout
  · exact built.points.setSlot_some builtChild.points parent
  · intro addr member
    rcases List.mem_append.mp (addrs.subset member) with inChild | inKept
    · have range := builtChild.fresh addr inChild
      exact ⟨Nat.le_trans (Nat.le_of_lt (Nat.lt_of_le_of_lt built.own.1 built.own.2)) range.1,
        range.2⟩
    · have range := old addr inKept
      exact ⟨range.1, Nat.lt_trans range.2 (Nat.lt_of_le_of_lt builtChild.own.1 builtChild.own.2)⟩
  · rw [addrs.nodup_iff]
    apply builtChild.unshared.append ((among.map CellInfo.addr).nodup built.unshared)
    intro addr inChild inKept
    exact Nat.lt_irrefl _ (Nat.lt_of_lt_of_le (old addr inKept).2 (builtChild.fresh addr inChild).1)

/-- A child is stored exactly when the slot number that was read is in the array. -/
theorem setSibblingRead_ok_iff {this child node : CellTreeNode} {order : Int}
    {stream after : InputStream} :
    setSibblingRead this order child stream = .ok (node, after) ↔
      (0 ≤ order ∧ order < this.slots.length) ∧
        node = this.setSlot order.toNat (some (setParent (some this.label.addr) child)) ∧
        after = stream := by
  rw [setSibblingRead]
  by_cases negative : order < 0
  · rw [if_pos negative]
    constructor
    · rintro ⟨⟩
    · rintro ⟨⟨nonneg, -⟩, -⟩
      exact absurd negative (Int.not_lt.mpr nonneg)
  · rw [if_neg negative, setSibbling, treeSpan]
    have nonneg := Int.not_lt.mp negative
    by_cases bound : order.toNat < this.slots.length
    · rw [if_pos bound]
      constructor
      · rintro ⟨⟩
        exact ⟨⟨nonneg, by omega⟩, rfl, rfl⟩
      · rintro ⟨-, rfl, rfl⟩
        rfl
    · rw [if_neg bound]
      constructor
      · rintro ⟨⟩
      · rintro ⟨⟨-, less⟩, -⟩
        exact absurd (by omega) bound

end CellTreeNode

namespace Layout

open CellTreeNode

theorem records_node (entry : Entry) (children : List Layout) :
    records (.node entry (children.map some)) = entry.peers + 1 + (children.map records).sum := by
  rw [records, SlotTree.labels_node, List.map_cons, List.sum_cons]
  congr 1
  induction children with
  | nil => rfl
  | cons child rest inductionHypothesis =>
      rw [List.map_cons, SlotTree.labelsOfSlots_cons_some, List.map_append, List.sum_append,
        inductionHypothesis, List.map_cons, List.sum_cons]
      rfl

theorem order_of_read {fuel : Nat} {order : Int} {stream after : InputStream} {layout : Layout}
    (done : read fuel order stream = .ok (layout, after)) : layout.label.order = order := by
  cases fuel with
  | zero => cases done
  | succ fuel =>
      rw [read] at done
      rcases Reader.bind_eq_ok.mp done with ⟨header, s₁, -, done⟩
      rcases Reader.bind_eq_ok.mp done with ⟨lists, s₂, -, done⟩
      rcases Reader.bind_eq_ok.mp done with ⟨siblingCount, s₃, -, done⟩
      rcases Reader.bind_eq_ok.mp done with ⟨children, s₄, -, done⟩
      cases done
      rfl

end Layout

/-! ## The two readers -/

namespace CellTreeNode

variable {memory : Addr → Uninitialised} {fuel : Nat} {addr : Addr}

/-- The node read for a layout: built from its address on, below its parent, with one read
for each record but its own. -/
structure ReadAs (memory : Addr → Uninitialised) (parent : Option Addr) (addr : Addr)
    (layout : Layout) (out : CellTreeNode × Addr × Nat) : Prop where
  built : Built memory addr out.2.1 layout.placed out.1
  parent : out.1.label.parent = parent
  reads : out.2.2 + 1 = layout.records

/-- The loop over the children stores what the layout says. -/
theorem readSiblings_of_children
    (each : ∀ order next stream layout after,
      Layout.read fuel order stream = .ok (layout, after) → layout.Fits →
        ∃ out, deserializeOver memory fuel (some addr) next stream = .ok (out, after) ∧
          ReadAs memory (some addr) next layout out)
    {count : Nat} {stream after : InputStream} {children : List Layout}
    (read : Layout.readChildren (Layout.read fuel) count stream = .ok (children, after))
    {span : Nat} (fits : ∀ c ∈ children, c.Fits ∧ 0 ≤ c.label.order ∧ c.label.order < span)
    {first next reads : Nat} {layout : Layout} {this : CellTreeNode}
    (built : Built memory first next layout this) (own : this.label.addr = addr)
    (spanThis : this.slots.length = span) (spanLayout : layout.slots.length = span) :
    ∃ n last, readSiblings (deserializeOver memory fuel (some addr)) count this next reads stream =
        .ok ((n, last, reads + (children.map Layout.records).sum), after) ∧
      Built memory first last (layout.place (children.map some)) n ∧ n.label = this.label := by
  induction count generalizing stream children next reads layout this with
  | zero =>
      cases read
      exact ⟨this, next, rfl, built, rfl⟩
  | succ count inductionHypothesis =>
      rw [Layout.readChildren] at read
      rcases Reader.bind_eq_ok.mp read with ⟨order, s₁, readOrder, read⟩
      rcases Reader.bind_eq_ok.mp read with ⟨child, s₂, readChild, read⟩
      rcases Reader.bind_eq_ok.mp read with ⟨rest, s₃, readRest, read⟩
      cases read
      have sameOrder := Layout.order_of_read readChild
      rcases fits child List.mem_cons_self with ⟨fitsChild, nonneg, less⟩
      rw [sameOrder] at nonneg less
      rcases each order next s₁ child s₂ readChild fitsChild with ⟨out, readOut, readAs⟩
      have parent : out.1.label.parent = some this.label.addr := by
        rw [readAs.parent, own]
      have bound : order.toNat < this.slots.length := by omega
      have boundLayout : order.toNat < layout.slots.length := by omega
      have stored : setSibblingRead this order out.1 s₂ =
          .ok (this.setSlot order.toNat (some out.1), s₂) := by
        rw [setSibblingRead_ok_iff, setParent_eq_self parent]
        exact ⟨⟨nonneg, by omega⟩, rfl, rfl⟩
      rcases inductionHypothesis readRest
          (fun c member => fits c (List.mem_cons_of_mem _ member))
          (built.setSlot readAs.built parent bound boundLayout) own
          ((SlotTree.length_slots_setSlot _ _ _).trans spanThis)
          ((SlotTree.length_slots_setSlot _ _ _).trans spanLayout) with
        ⟨n, last, readAll, builtAll, sameLabel⟩
      refine ⟨n, last, ?_, ?_, sameLabel⟩
      · rw [readSiblings]
        apply Reader.bind_eq_ok.mpr
        refine ⟨order, s₁, readOrder, ?_⟩
        apply Reader.bind_eq_ok.mpr
        refine ⟨out, s₂, readOut, ?_⟩
        apply Reader.bind_eq_ok.mpr
        refine ⟨_, s₂, stored, ?_⟩
        rw [readAll, List.map_cons, List.sum_cons, ← readAs.reads]
        congr 4
        omega
      · rw [List.map_cons, Layout.place, sameOrder]
        exact builtAll

/-- A layout that fits is built, whatever the memory holds. -/
theorem deserializeOver_of_fits (memory : Addr → Uninitialised) (parent : Option Addr)
    (addr : Addr) {fuel : Nat} {order : Int} {stream after : InputStream} {layout : Layout}
    (read : Layout.read fuel order stream = .ok (layout, after)) (fits : layout.Fits) :
    ∃ out, deserializeOver memory fuel parent addr stream = .ok (out, after) ∧
      ReadAs memory parent addr layout out := by
  induction fuel generalizing parent addr order stream after layout with
  | zero => cases read
  | succ fuel inductionHypothesis =>
      rw [Layout.read] at read
      rcases Reader.bind_eq_ok.mp read with ⟨header, s₁, readHeader, read⟩
      rcases Reader.bind_eq_ok.mp read with ⟨lists, s₂, readLists, read⟩
      rcases Reader.bind_eq_ok.mp read with ⟨siblingCount, s₃, readCount, read⟩
      rcases Reader.bind_eq_ok.mp read with ⟨children, s₄, readChildren, read⟩
      cases read
      rcases fits _ (SlotTree.mem_nodes_self _) with ⟨span, treeSpan, nonneg, slots⟩
      rw [SlotTree.label_node] at treeSpan
      dsimp only at treeSpan
      have fitsChildren : ∀ c ∈ children,
          c.Fits ∧ 0 ≤ c.label.order ∧ c.label.order < span.toNat := by
        intro c member
        have inSlots : some c ∈ (SlotTree.node (⟨order, header.spanNo, header.treeSpan,
            lists.size⟩ : Entry) (children.map some)).slots := by
          rw [SlotTree.slots_node]
          exact List.mem_map_of_mem member
        rcases slots c inSlots with ⟨lower, upper⟩
        refine ⟨?_, lower, by omega⟩
        intro n below
        exact fits n (SlotTree.mem_nodes_iff.mpr (Or.inr ⟨c, inSlots, below⟩))
      have built := @built_allocated memory parent addr header lists
        ⟨order, header.spanNo, header.treeSpan, lists.size⟩ span span.toNat rfl
      rcases readSiblings_of_children
          (fun order next stream layout after read fits =>
            inductionHypothesis (some addr) next read fits)
          readChildren fitsChildren built rfl List.length_replicate List.length_replicate with
        ⟨n, last, readAll, builtAll, sameLabel⟩
      refine ⟨(n, last, lists.size + (children.map Layout.records).sum), ?_, ?_, ?_, ?_⟩
      · rw [deserializeOver]
        apply Reader.bind_eq_ok.mpr
        refine ⟨header, s₁, readHeader, ?_⟩
        rw [treeSpan, Option.getD_some, if_neg (Int.not_lt.mpr nonneg)]
        apply Reader.bind_eq_ok.mpr
        refine ⟨lists, s₂, readLists, ?_⟩
        apply Reader.bind_eq_ok.mpr
        exact ⟨siblingCount, s₃, readCount, readAll⟩
      · rw [Layout.placed, treeSpan, Option.getD_some]
        rw [treeSpan] at builtAll
        exact builtAll
      · rw [sameLabel]
        rfl
      · rw [Layout.records_node]
        dsimp only
        omega

/-- The loop over the children stores nothing that the layout does not say. -/
theorem children_of_readSiblings
    (each : ∀ next stream out after,
      deserializeOver memory fuel (some addr) next stream = .ok (out, after) → ∀ order,
        ∃ layout, Layout.read fuel order stream = .ok (layout, after) ∧ layout.Fits)
    {count : Nat} {stream after : InputStream} {this : CellTreeNode} {next reads : Nat}
    {out : CellTreeNode × Addr × Nat} {span : Nat} (spanThis : this.slots.length = span)
    (done : readSiblings (deserializeOver memory fuel (some addr)) count this next reads stream =
      .ok (out, after)) :
    ∃ children, Layout.readChildren (Layout.read fuel) count stream = .ok (children, after) ∧
      ∀ c ∈ children, c.Fits ∧ 0 ≤ c.label.order ∧ c.label.order < span := by
  induction count generalizing stream this next reads with
  | zero =>
      cases done
      refine ⟨[], rfl, ?_⟩
      intro c impossible
      cases impossible
  | succ count inductionHypothesis =>
      rw [readSiblings] at done
      rcases Reader.bind_eq_ok.mp done with ⟨order, s₁, readOrder, done⟩
      rcases Reader.bind_eq_ok.mp done with ⟨child, s₂, readChild, done⟩
      rcases Reader.bind_eq_ok.mp done with ⟨node, s₃, stored, readRest⟩
      rcases setSibblingRead_ok_iff.mp stored with ⟨⟨nonneg, less⟩, rfl, rfl⟩
      rcases each next s₁ child s₃ readChild order with ⟨layout, readLayout, fits⟩
      rcases inductionHypothesis ((SlotTree.length_slots_setSlot _ _ _).trans spanThis) readRest with
        ⟨children, readChildren, fitsRest⟩
      refine ⟨layout :: children, ?_, ?_⟩
      · rw [Layout.readChildren]
        apply Reader.bind_eq_ok.mpr
        refine ⟨order, s₁, readOrder, ?_⟩
        apply Reader.bind_eq_ok.mpr
        refine ⟨layout, s₃, readLayout, ?_⟩
        apply Reader.bind_eq_ok.mpr
        exact ⟨children, after, readChildren, rfl⟩
      · intro c member
        rcases List.mem_cons.mp member with rfl | inRest
        · rw [Layout.order_of_read readLayout, ← spanThis]
          exact ⟨fits, nonneg, less⟩
        · exact fitsRest c inRest

/-- Over memory in which every span is negative only a layout that fits is built. -/
theorem fits_of_deserializeOver (negative : ∀ addr, (memory addr).treeSpan < 0)
    {parent : Option Addr} {stream after : InputStream} {out : CellTreeNode × Addr × Nat}
    (done : deserializeOver memory fuel parent addr stream = .ok (out, after)) (order : Int) :
    ∃ layout, Layout.read fuel order stream = .ok (layout, after) ∧ layout.Fits := by
  induction fuel generalizing parent addr stream after out order with
  | zero => cases done
  | succ fuel inductionHypothesis =>
      rw [deserializeOver] at done
      rcases Reader.bind_eq_ok.mp done with ⟨header, s₁, readHeader, done⟩
      by_cases below : header.treeSpan.getD (memory addr).treeSpan < 0
      · rw [if_pos below] at done
        cases done
      · rw [if_neg below] at done
        rcases Reader.bind_eq_ok.mp done with ⟨lists, s₂, readLists, done⟩
        rcases Reader.bind_eq_ok.mp done with ⟨siblingCount, s₃, readCount, done⟩
        have spanThis : (allocated (memory addr) parent addr header
            (header.treeSpan.getD (memory addr).treeSpan) lists).slots.length =
              (header.treeSpan.getD (memory addr).treeSpan).toNat := List.length_replicate
        rcases children_of_readSiblings
            (fun next stream out after done order => inductionHypothesis done order)
            spanThis done with ⟨children, readChildren, fits⟩
        refine ⟨.node ⟨order, header.spanNo, header.treeSpan, lists.size⟩ (children.map some),
          ?_, ?_⟩
        · rw [Layout.read]
          apply Reader.bind_eq_ok.mpr
          refine ⟨header, s₁, readHeader, ?_⟩
          apply Reader.bind_eq_ok.mpr
          refine ⟨lists, s₂, readLists, ?_⟩
          apply Reader.bind_eq_ok.mpr
          refine ⟨siblingCount, s₃, readCount, ?_⟩
          apply Reader.bind_eq_ok.mpr
          exact ⟨children, after, readChildren, rfl⟩
        · have present : ∃ span, header.treeSpan = some span ∧ 0 ≤ span := by
            cases read : header.treeSpan with
            | none =>
                rw [read, Option.getD_none] at below
                exact absurd (negative addr) below
            | some span =>
                rw [read, Option.getD_some] at below
                exact ⟨span, rfl, Int.not_lt.mp below⟩
          rcases present with ⟨span, treeSpan, nonneg⟩
          intro n member
          rcases SlotTree.mem_nodes_iff.mp member with rfl | ⟨c, inSlots, inChild⟩
          · refine ⟨span, treeSpan, nonneg, ?_⟩
            intro c inSlots
            rcases List.mem_map.mp inSlots with ⟨d, inChildren, equal⟩
            cases equal
            rcases fits c inChildren with ⟨-, lower, upper⟩
            rw [treeSpan, Option.getD_some] at upper
            exact ⟨lower, by omega⟩
          · rcases List.mem_map.mp inSlots with ⟨d, inChildren, equal⟩
            cases equal
            exact (fits c inChildren).1 n inChild

end CellTreeNode

/-! ## The recursion budget -/

namespace CellTreeNode

theorem steady_tryField {α : Type} (size : Nat) (decode : List UInt8 → α) :
    Steady (tryField size decode) := by
  apply (Steady.adjust size).bind
  intro bytes
  cases bytes
  · exact Steady.pure _
  · exact Steady.pure _

theorem steady_readHeader : Steady readHeader := by
  apply UUID.steady.bind
  intro cellID
  apply (steady_tryField 2 _).bind
  intro port
  iterate 6
    apply (steady_tryField 4 _).bind
    intro field
  exact Steady.pure _

theorem steady_readPeerLists : Steady readPeerLists := by
  iterate 3
    apply (Steady.field 4 _ _).bind
    intro count
    apply (P3PeerInfo.steady.times _).bind
    intro peers
  exact Steady.pure _

theorem steady_setSibblingRead (this : CellTreeNode) (order : Int) (child : CellTreeNode) :
    Steady (setSibblingRead this order child) := by
  rw [setSibblingRead]
  split
  · apply Steady.throw
    rintro ⟨⟩
  · rw [setSibbling]
    split
    · rename_i stored
      exact Steady.pure _
    · rename_i fault failed
      apply Steady.throw
      rintro rfl
      split at failed
      · cases failed
      · cases failed

/-- A count that is not zero takes bytes. -/
theorem length_of_readLong {stream after : InputStream} {count : Int}
    (done : readLong 0 stream = .ok (count, after)) (positive : count.toNat ≠ 0) :
    after.data.length < stream.data.length := by
  rcases Reader.bind_eq_ok.mp done with ⟨bytes, middle, taken, rest⟩
  unfold adjust at taken
  split at taken
  · rename_i enough
    cases taken
    cases rest
    rw [List.length_drop]
    omega
  · cases taken
    cases rest
    exact absurd rfl positive

/-- The loop over the children stays within the budget of its reads. -/
theorem readSiblings_within {readChild : Addr → Reader (CellTreeNode × Addr × Nat)} {size : Nat}
    (shrinks : ∀ {next stream out after}, readChild next stream = .ok (out, after) →
      after.data.length ≤ stream.data.length)
    (within : ∀ {next stream}, stream.data.length < size →
      readChild next stream ≠ .error .outOfFuel)
    {count : Nat} {this : CellTreeNode} {next reads : Nat} {stream : InputStream}
    (short : stream.data.length < size) :
    readSiblings readChild count this next reads stream ≠ .error .outOfFuel := by
  induction count generalizing this next reads stream with
  | zero => rintro ⟨⟩
  | succ count inductionHypothesis =>
      intro failed
      rw [readSiblings] at failed
      rcases Reader.bind_eq_error failed with here | ⟨order, s₁, readOrder, failed⟩
      · exact (Steady.field 4 _ _).total stream here
      · have short₁ := Nat.lt_of_le_of_lt ((Steady.field 4 _ _).shrinks readOrder) short
        rcases Reader.bind_eq_error failed with here | ⟨child, s₂, done, failed⟩
        · exact within short₁ here
        · have short₂ := Nat.lt_of_le_of_lt (shrinks done) short₁
          rcases Reader.bind_eq_error failed with here | ⟨node, s₃, stored, failed⟩
          · exact (steady_setSibblingRead this order child.1).total s₂ here
          · have stored := (steady_setSibblingRead this order child.1).shrinks stored
            exact inductionHypothesis (Nat.lt_of_le_of_lt stored short₂) failed

theorem readSiblings_shrinks {readChild : Addr → Reader (CellTreeNode × Addr × Nat)}
    (shrinks : ∀ {next stream out after}, readChild next stream = .ok (out, after) →
      after.data.length ≤ stream.data.length)
    {count : Nat} {this : CellTreeNode} {next reads : Nat} {stream after : InputStream}
    {out : CellTreeNode × Addr × Nat}
    (done : readSiblings readChild count this next reads stream = .ok (out, after)) :
    after.data.length ≤ stream.data.length := by
  induction count generalizing this next reads stream with
  | zero =>
      cases done
      exact Nat.le_refl _
  | succ count inductionHypothesis =>
      rw [readSiblings] at done
      rcases Reader.bind_eq_ok.mp done with ⟨order, s₁, readOrder, done₁⟩
      rcases Reader.bind_eq_ok.mp done₁ with ⟨child, s₂, readChild, done₂⟩
      rcases Reader.bind_eq_ok.mp done₂ with ⟨node, s₃, stored, readRest⟩
      calc
        after.data.length ≤ s₃.data.length := inductionHypothesis readRest
        _ ≤ s₂.data.length := (steady_setSibblingRead this order child.1).shrinks stored
        _ ≤ s₁.data.length := shrinks readChild
        _ ≤ stream.data.length := (Steady.field 4 _ _).shrinks readOrder

theorem deserializeOver_shrinks {memory : Addr → Uninitialised} {fuel : Nat}
    {parent : Option Addr} {addr : Addr} {stream after : InputStream}
    {out : CellTreeNode × Addr × Nat}
    (done : deserializeOver memory fuel parent addr stream = .ok (out, after)) :
    after.data.length ≤ stream.data.length := by
  induction fuel generalizing parent addr stream after out with
  | zero => cases done
  | succ fuel inductionHypothesis =>
      rw [deserializeOver] at done
      rcases Reader.bind_eq_ok.mp done with ⟨header, s₁, readHeader, done₁⟩
      split at done₁
      · cases done₁
      · rcases Reader.bind_eq_ok.mp done₁ with ⟨lists, s₂, readLists, done₂⟩
        rcases Reader.bind_eq_ok.mp done₂ with ⟨siblingCount, s₃, readCount, readAll⟩
        calc
          after.data.length ≤ s₃.data.length :=
            readSiblings_shrinks (fun done => inductionHypothesis done) readAll
          _ ≤ s₂.data.length := (Steady.field 4 _ _).shrinks readCount
          _ ≤ s₁.data.length := steady_readPeerLists.shrinks readLists
          _ ≤ stream.data.length := steady_readHeader.shrinks readHeader

/-- A budget beyond the number of bytes is never spent, since a node with children takes
bytes for their count. -/
theorem deserializeOver_ne_outOfFuel (memory : Addr → Uninitialised) {fuel : Nat}
    (parent : Option Addr) (addr : Addr) {stream : InputStream}
    (enough : stream.data.length < fuel) :
    deserializeOver memory fuel parent addr stream ≠ .error .outOfFuel := by
  induction fuel generalizing parent addr stream with
  | zero => cases enough
  | succ fuel inductionHypothesis =>
      intro failed
      rw [deserializeOver] at failed
      rcases Reader.bind_eq_error failed with here | ⟨header, s₁, readHeader, failed₁⟩
      · exact steady_readHeader.total stream here
      · have short₁ := steady_readHeader.shrinks readHeader
        dsimp only at failed₁
        split at failed₁
        · cases failed₁
        · rcases Reader.bind_eq_error failed₁ with here | ⟨lists, s₂, readLists, failed₂⟩
          · exact steady_readPeerLists.total s₁ here
          · have short₂ := steady_readPeerLists.shrinks readLists
            rcases Reader.bind_eq_error failed₂ with here | ⟨siblingCount, s₃, readCount, failed₃⟩
            · exact (Steady.field 4 _ _).total s₂ here
            · by_cases none : siblingCount.toNat = 0
              · rw [none, readSiblings] at failed₃
                cases failed₃
              · have short₃ := length_of_readLong readCount none
                apply @readSiblings_within _ fuel _ _ _ _ _ _ _ (by omega) failed₃
                · exact fun done => deserializeOver_shrinks done
                · exact fun short => inductionHypothesis _ _ short

end CellTreeNode

/-! ## Agreement where every read succeeds -/

namespace CellTreeNode

/-- Bytes taken without loss of the good bit are there. -/
theorem exists_of_adjust {size : Nat} {stream after : InputStream} {bytes : Option (List UInt8)}
    (taken : adjust size stream = .ok (bytes, after)) (good : after.goodBit = true) :
    ∃ there, bytes = some there := by
  unfold adjust at taken
  split at taken
  · cases taken
    exact ⟨_, rfl⟩
  · cases taken
    cases good

/-- A field read without loss of the good bit is there. -/
theorem readField_of_tryField {α : Type} {size : Nat} {decode : List UInt8 → α}
    {stream after : InputStream} {field : Option α}
    (done : tryField size decode stream = .ok (field, after)) (good : after.goodBit = true)
    (before : α) : ∃ a, field = some a ∧ readField size decode before stream = .ok (a, after) := by
  rcases Reader.bind_eq_ok.mp done with ⟨bytes, middle, taken, rest⟩
  cases bytes with
  | none =>
      cases rest
      rcases exists_of_adjust taken good with ⟨there, impossible⟩
      cases impossible
  | some there =>
      cases rest
      refine ⟨_, rfl, ?_⟩
      apply Reader.bind_eq_ok.mpr
      exact ⟨some there, after, taken, rfl⟩

/-- What is read without loss of the good bit does not depend on the variable. -/
theorem readField_before {α : Type} {size : Nat} {decode : List UInt8 → α}
    {stream after : InputStream} {before a : α}
    (done : readField size decode before stream = .ok (a, after)) (good : after.goodBit = true)
    (other : α) : readField size decode other stream = .ok (a, after) := by
  rcases Reader.bind_eq_ok.mp done with ⟨bytes, middle, taken, rest⟩
  cases bytes with
  | none =>
      cases rest
      rcases exists_of_adjust taken good with ⟨there, impossible⟩
      cases impossible
  | some there =>
      cases rest
      apply Reader.bind_eq_ok.mpr
      exact ⟨some there, after, taken, rfl⟩

/-- Lists that are read to the end without loss of the good bit are three counted lists. -/
theorem readCounted_of_readPeerLists {middle after : InputStream} {lists : PeerLists}
    (readLists : readPeerLists middle = .ok (lists, after)) (good : after.goodBit = true) :
    ∃ afterSps afterSensors,
      readCounted P3PeerInfo.deserialize middle = .ok (lists.sps, afterSps) ∧
        readCounted P3PeerInfo.deserialize afterSps = .ok (lists.sensors, afterSensors) ∧
          readCounted P3PeerInfo.deserialize afterSensors = .ok (lists.monitors, after) := by
  rcases Reader.bind_eq_ok.mp readLists with ⟨count, t₁, readCount, rest⟩
  rcases Reader.bind_eq_ok.mp rest with ⟨sps, t₂, readSps, rest⟩
  rcases Reader.bind_eq_ok.mp rest with ⟨count', t₃, readCount', rest⟩
  rcases Reader.bind_eq_ok.mp rest with ⟨sensors, t₄, readSensors, rest⟩
  rcases Reader.bind_eq_ok.mp rest with ⟨count'', t₅, readCount'', rest⟩
  rcases Reader.bind_eq_ok.mp rest with ⟨monitors, t₆, readMonitors, last⟩
  cases last
  have good₅ := (P3PeerInfo.steady.times _).good readMonitors good
  have good₄ := (Steady.field 4 _ _).good readCount'' good₅
  have good₃ := (P3PeerInfo.steady.times _).good readSensors good₄
  refine ⟨t₂, t₄, ?_, ?_, ?_⟩
  · exact Reader.bind_eq_ok.mpr ⟨count, t₁, readCount, readSps⟩
  · exact Reader.bind_eq_ok.mpr ⟨count', t₃, readField_before readCount' good₃ 0, readSensors⟩
  · exact Reader.bind_eq_ok.mpr ⟨count'', t₅, readField_before readCount'' good₅ 0, readMonitors⟩

/-- The fields and peers that both readers take. -/
theorem deserializeFields_of_reads {parent : Option Addr} {addr : Addr}
    {stream middle after : InputStream} {header : Header} {lists : PeerLists}
    {memory : Uninitialised} (readFields : readHeader stream = .ok (header, middle))
    (nonneg : ¬header.treeSpan.getD memory.treeSpan < 0)
    (readLists : readPeerLists middle = .ok (lists, after)) (good : after.goodBit = true) :
    deserializeFields parent addr stream =
      .ok (allocated memory parent addr header (header.treeSpan.getD memory.treeSpan) lists,
        after) := by
  have goodMiddle := steady_readPeerLists.good readLists good
  rcases Reader.bind_eq_ok.mp readFields with ⟨cellID, s₁, readID, rest⟩
  rcases Reader.bind_eq_ok.mp rest with ⟨port, s₂, readPort, rest⟩
  rcases Reader.bind_eq_ok.mp rest with ⟨depth, s₃, readDepth, rest⟩
  rcases Reader.bind_eq_ok.mp rest with ⟨spanNo, s₄, readSpanNo, rest⟩
  rcases Reader.bind_eq_ok.mp rest with ⟨treeSpan, s₅, readTreeSpan, rest⟩
  rcases Reader.bind_eq_ok.mp rest with ⟨maxSPs, s₆, readMaxSPs, rest⟩
  rcases Reader.bind_eq_ok.mp rest with ⟨maxSensors, s₇, readMaxSensors, rest⟩
  rcases Reader.bind_eq_ok.mp rest with ⟨maxMonitor, s₈, readMaxMonitor, last⟩
  cases last
  -- the good bit at the end was there after every read
  have good₇ := (steady_tryField 4 _).good readMaxMonitor goodMiddle
  have good₆ := (steady_tryField 4 _).good readMaxSensors good₇
  have good₅ := (steady_tryField 4 _).good readMaxSPs good₆
  have good₄ := (steady_tryField 4 _).good readTreeSpan good₅
  have good₃ := (steady_tryField 4 _).good readSpanNo good₄
  have good₂ := (steady_tryField 4 _).good readDepth good₃
  rcases readField_of_tryField readPort good₂ 0 with ⟨port, rfl, portThere⟩
  rcases readField_of_tryField readDepth good₃ 0 with ⟨depth, rfl, depthThere⟩
  rcases readField_of_tryField readSpanNo good₄ 0 with ⟨spanNo, rfl, spanNoThere⟩
  rcases readField_of_tryField readTreeSpan good₅ 0 with ⟨treeSpan, rfl, treeSpanThere⟩
  rcases readField_of_tryField readMaxSPs good₆ 0 with ⟨maxSPs, rfl, maxSPsThere⟩
  rcases readField_of_tryField readMaxSensors good₇ 0 with ⟨maxSensors, rfl, maxSensorsThere⟩
  rcases readField_of_tryField readMaxMonitor goodMiddle 0 with
    ⟨maxMonitor, rfl, maxMonitorThere⟩
  rcases readCounted_of_readPeerLists readLists good with
    ⟨afterSps, afterSensors, readSps, readSensors, readMonitors⟩
  rw [Option.getD_some] at nonneg
  rw [deserializeFields]
  apply Reader.bind_eq_ok.mpr
  refine ⟨cellID, s₁, readID, ?_⟩
  apply Reader.bind_eq_ok.mpr
  refine ⟨port, s₂, portThere, ?_⟩
  apply Reader.bind_eq_ok.mpr
  refine ⟨depth, s₃, depthThere, ?_⟩
  apply Reader.bind_eq_ok.mpr
  refine ⟨spanNo, s₄, spanNoThere, ?_⟩
  apply Reader.bind_eq_ok.mpr
  refine ⟨treeSpan, s₅, treeSpanThere, ?_⟩
  apply Reader.bind_eq_ok.mpr
  refine ⟨maxSPs, s₆, maxSPsThere, ?_⟩
  apply Reader.bind_eq_ok.mpr
  refine ⟨maxSensors, s₇, maxSensorsThere, ?_⟩
  apply Reader.bind_eq_ok.mpr
  refine ⟨maxMonitor, _, maxMonitorThere, ?_⟩
  rw [if_neg nonneg]
  apply Reader.bind_eq_ok.mpr
  refine ⟨lists.sps, afterSps, readSps, ?_⟩
  apply Reader.bind_eq_ok.mpr
  refine ⟨lists.sensors, afterSensors, readSensors, ?_⟩
  apply Reader.bind_eq_ok.mpr
  exact ⟨lists.monitors, after, readMonitors, rfl⟩

theorem deserializeSiblings_of_readSiblings
    {readChild : Addr → Reader (CellTreeNode × Addr × Nat)}
    {readPlain : Addr → Reader (CellTreeNode × Addr)}
    (agrees : ∀ {next stream out after}, readChild next stream = .ok (out, after) →
      after.goodBit = true →
        stream.goodBit = true ∧ readPlain next stream = .ok ((out.1, out.2.1), after))
    {count : Nat} {this : CellTreeNode} {next reads : Nat} {stream after : InputStream}
    {out : CellTreeNode × Addr × Nat}
    (done : readSiblings readChild count this next reads stream = .ok (out, after))
    (good : after.goodBit = true) :
    stream.goodBit = true ∧
      deserializeSiblings readPlain count this next stream = .ok ((out.1, out.2.1), after) := by
  induction count generalizing this next reads stream with
  | zero =>
      cases done
      exact ⟨good, rfl⟩
  | succ count inductionHypothesis =>
      rw [readSiblings] at done
      rcases Reader.bind_eq_ok.mp done with ⟨order, s₁, readOrder, rest⟩
      rcases Reader.bind_eq_ok.mp rest with ⟨child, s₂, readOne, rest⟩
      rcases Reader.bind_eq_ok.mp rest with ⟨node, s₃, stored, readRest⟩
      rcases inductionHypothesis readRest with ⟨good₃, plainRest⟩
      have good₂ := (steady_setSibblingRead this order child.1).good stored good₃
      rcases agrees readOne good₂ with ⟨good₁, plainOne⟩
      refine ⟨(Steady.field 4 _ _).good readOrder good₁, ?_⟩
      rw [deserializeSiblings]
      apply Reader.bind_eq_ok.mpr
      refine ⟨order, s₁, readOrder, ?_⟩
      apply Reader.bind_eq_ok.mpr
      refine ⟨_, s₂, plainOne, ?_⟩
      apply Reader.bind_eq_ok.mpr
      exact ⟨node, s₃, stored, plainRest⟩

/-- Where no read loses the good bit, the memory does not matter and the reader is the one
that reads serialized trees back. -/
theorem deserialize_of_deserializeOver {memory : Addr → Uninitialised} {fuel : Nat}
    {parent : Option Addr} {addr : Addr} {stream after : InputStream}
    {out : CellTreeNode × Addr × Nat}
    (done : deserializeOver memory fuel parent addr stream = .ok (out, after))
    (good : after.goodBit = true) :
    stream.goodBit = true ∧
      deserialize fuel parent addr stream = .ok ((out.1, out.2.1), after) := by
  induction fuel generalizing parent addr stream after out with
  | zero => cases done
  | succ fuel inductionHypothesis =>
      rw [deserializeOver] at done
      rcases Reader.bind_eq_ok.mp done with ⟨header, s₁, readFields, rest⟩
      split at rest
      · cases rest
      · rename_i nonneg
        rcases Reader.bind_eq_ok.mp rest with ⟨lists, s₂, readLists, rest⟩
        rcases Reader.bind_eq_ok.mp rest with ⟨siblingCount, s₃, readCount, readAll⟩
        rcases deserializeSiblings_of_readSiblings
            (fun done good => inductionHypothesis done good) readAll good with ⟨good₃, plainAll⟩
        have good₂ := (Steady.field 4 _ _).good readCount good₃
        have good₁ := steady_readPeerLists.good readLists good₂
        refine ⟨steady_readHeader.good readFields good₁, ?_⟩
        rw [deserialize]
        apply Reader.bind_eq_ok.mpr
        refine ⟨_, s₂, deserializeFields_of_reads readFields nonneg readLists good₂, ?_⟩
        apply Reader.bind_eq_ok.mpr
        exact ⟨siblingCount, s₃, readCount, plainAll⟩

end CellTreeNode

/-! ## When a cell state is read safely -/

/-- Whatever the memory holds and wherever nodes are allocated, the bytes are read by at most
as many reads of peers and children as there are bytes, and the tree has right pointers and
slots.  A lost good bit is no failure: `deserialize` returns and nobody asks for the bit. -/
def ReadSafely (data : List UInt8) : Prop :=
  ∀ memory base, ∃ t reads after,
    CellTree.deserializeOver memory base ⟨data, true⟩ = .ok ((t, reads), after) ∧
      PointerInv t ∧ reads ≤ data.length

/-- The bytes give every node a span that is not negative and every child a slot number in
the span of its holder, the counts ask for at most as many peers and children as there are
bytes, and every child that keeps its slot records that number itself. -/
def WellLaidOut (data : List UInt8) : Prop :=
  ∃ layout after, Layout.read (data.length + 1) 0 ⟨data, true⟩ = .ok (layout, after) ∧
    layout.Fits ∧ layout.records ≤ data.length + 1 ∧
      layout.placed.AllEdges fun _ i child => child.spanNo = some (i : Int)

theorem deserializeOver_tree_ok_iff {memory : Addr → CellTreeNode.Uninitialised} {base : Addr}
    {data : List UInt8} {t : CellTree} {reads : Nat} {after : InputStream} :
    CellTree.deserializeOver memory base ⟨data, true⟩ = .ok ((t, reads), after) ↔
      ∃ last, CellTreeNode.deserializeOver memory (data.length + 1) none base ⟨data, true⟩ =
        .ok ((t.rootNode, last, reads), after) := by
  constructor
  · intro done
    rcases Reader.bind_eq_ok.mp done with ⟨stream, s₁, got, rest⟩
    cases got
    rcases Reader.bind_eq_ok.mp rest with ⟨root, s₂, readRoot, last⟩
    cases last
    exact ⟨root.2.1, readRoot⟩
  · rintro ⟨last, readRoot⟩
    apply Reader.bind_eq_ok.mpr
    refine ⟨_, _, rfl, ?_⟩
    apply Reader.bind_eq_ok.mpr
    exact ⟨_, _, readRoot, rfl⟩

/-- A state read to its end is the one that the reader of serialized trees gives. -/
theorem deserialize_tree_of_deserializeOver {memory : Addr → CellTreeNode.Uninitialised}
    {base : Addr} {data : List UInt8} {t : CellTree} {reads : Nat} {after : InputStream}
    (done : CellTree.deserializeOver memory base ⟨data, true⟩ = .ok ((t, reads), after))
    (good : after.goodBit = true) : CellTree.deserialize base ⟨data, true⟩ = .ok (t, after) := by
  rcases deserializeOver_tree_ok_iff.mp done with ⟨last, readRoot⟩
  rcases CellTreeNode.deserialize_of_deserializeOver readRoot good with ⟨-, plain⟩
  apply Reader.bind_eq_ok.mpr
  refine ⟨_, _, rfl, ?_⟩
  apply Reader.bind_eq_ok.mpr
  exact ⟨_, _, plain, rfl⟩

/-- A cell state is read safely exactly when the bytes are well laid out. -/
theorem readSafely_iff (data : List UInt8) : ReadSafely data ↔ WellLaidOut data := by
  constructor
  · intro safely
    rcases safely (fun _ => ⟨-1, -1, -1, -1, -1, -1, -1⟩) 0 with ⟨t, reads, after, done, inv, few⟩
    rcases deserializeOver_tree_ok_iff.mp done with ⟨last, readRoot⟩
    rcases CellTreeNode.fits_of_deserializeOver (fun _ => by decide) readRoot 0 with
      ⟨layout, read, fits⟩
    rcases CellTreeNode.deserializeOver_of_fits (fun _ => ⟨-1, -1, -1, -1, -1, -1, -1⟩) none 0 read
      fits with ⟨out, readOut, readAs⟩
    cases readOut.symm.trans readRoot
    have counted : reads + 1 = layout.records := readAs.reads
    refine ⟨layout, after, read, fits, by omega, ?_⟩
    apply readAs.built.follows.allEdges (T := fun _ i child => child.spanNo = some (i : Int))
      inv.linked
    rintro a a' i b b' - related ⟨-, here⟩
    rw [CellTreeNode.RecordsSpan, here] at related
    cases recorded : b'.spanNo with
    | none =>
        rw [recorded, Option.getD_none] at related
        have impossible : (i : Int) = -1 := related
        omega
    | some spanNo =>
        rw [recorded, Option.getD_some] at related
        rw [related]
  · rintro ⟨layout, after, read, fits, few, slots⟩ memory base
    rcases CellTreeNode.deserializeOver_of_fits memory none base read fits with
      ⟨out, readOut, readAs⟩
    have counted : out.2.2 + 1 = layout.records := readAs.reads
    refine ⟨⟨out.1⟩, out.2.2, after, deserializeOver_tree_ok_iff.mpr ⟨out.2.1, readOut⟩, ?_,
      by omega⟩
    constructor
    · have recorded : out.1.AllEdges fun _ i child => child.spanNo = (i : Int) := by
        apply readAs.built.follows.symm.allEdges (T := fun _ i child => child.spanNo = (i : Int))
          slots
        rintro a a' i b b' - related here
        rw [CellTreeNode.RecordsSpan, here, Option.getD_some] at related
        exact related
      intro n member i c held
      exact ⟨readAs.built.points n member i c held, recorded n member i c held⟩
    · exact readAs.built.unshared
    · exact readAs.parent

/-- A root of span -1. -/
theorem exists_state_unsafe : ¬∀ data, ReadSafely data := by
  intro safely
  rcases safely (List.replicate 14 0 ++ [255, 255, 255, 255])
    (fun _ => ⟨0, 0, 0, 0, 0, 0, 0⟩) 0 with ⟨t, reads, after, done, -⟩
  have crashed : CellTree.deserializeOver (fun _ => ⟨0, 0, 0, 0, 0, 0, 0⟩) 0
      ⟨List.replicate 14 0 ++ [255, 255, 255, 255], true⟩ = .error .badArrayLength := rfl
  cases crashed.symm.trans done

end Stheno.Superpeer
