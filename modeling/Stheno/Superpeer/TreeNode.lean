import Stheno.Peer.Info
import Stheno.Tree.Edges

/-!
# Nodes of the cell tree

A `CellTreeNode` is a slotted tree whose labels are the fields of the node; the
array `m_siblings` of children is the array of slots and `m_treeSpan` is its
length.  The label of a node holds the node's own address, so that the pointer
`m_parent` can be compared with it.
-/

namespace Stheno.Superpeer

open Stheno.Tree Peer

/-- A heap address. -/
abbrev Addr := Nat

/-- The fields of a `CellTreeNode` other than its array of children. -/
structure CellInfo where
  /-- The `this` pointer of the node. -/
  addr : Addr
  parent : Option Addr
  cellID : CellID
  port : Int
  depth : Int
  spanNo : Int
  maxSPs : Int
  maxSensors : Int
  maxMonitor : Int
  sps : List P3PeerInfo
  sensors : List P3PeerInfo
  monitors : List P3PeerInfo
  deriving DecidableEq

/-- A node with the subtree below it. -/
abbrev CellTreeNode := SlotTree CellInfo

/-- The per-depth entries `TREE_SPAN_d`, `CELL_SPS_d`, `CELL_SENSORS_d` and
`CELL_MONITORS_d` of the configuration file. -/
structure P3Configuration where
  TREE_SPAN : Int → Option Int
  CELL_SPS : Int → Option Int
  CELL_SENSORS : Int → Option Int
  CELL_MONITORS : Int → Option Int

namespace P3Configuration

/-- A configured value, or the default of the caller. -/
def lookupValue (entry : Option Int) (default : Int) : Int :=
  entry.getD default

/-- The number of children of a node created at a depth. -/
def treeSpan (config : P3Configuration) (depth : Int) : Int :=
  lookupValue (config.TREE_SPAN depth) 2

end P3Configuration

/-- The default configuration. -/
def defaults : P3Configuration :=
  { TREE_SPAN := fun _ => none
    CELL_SPS := fun _ => none
    CELL_SENSORS := fun _ => none
    CELL_MONITORS := fun _ => none }

/-- The three peer lists of a cell. -/
inductive PeerList where
  | sps
  | sensors
  | monitors
  deriving DecidableEq

/-- The list that keeps peers of a type; other types have none. -/
def PeerList.ofType (type : UInt32) : Option PeerList :=
  if type = P3PeerInfo.SUPERPEER ∨ type = P3PeerInfo.SUPERPEER_COORD then
    some .sps
  else if type = P3PeerInfo.SENSOR then
    some .sensors
  else if type = P3PeerInfo.MONITOR then
    some .monitors
  else
    none

namespace CellInfo

def peers (this : CellInfo) : PeerList → List P3PeerInfo
  | .sps => this.sps
  | .sensors => this.sensors
  | .monitors => this.monitors

def max (this : CellInfo) : PeerList → Int
  | .sps => this.maxSPs
  | .sensors => this.maxSensors
  | .monitors => this.maxMonitor

def setPeers (this : CellInfo) (list : PeerList) (peers : List P3PeerInfo) : CellInfo :=
  match list with
  | .sps => { this with sps := peers }
  | .sensors => { this with sensors := peers }
  | .monitors => { this with monitors := peers }

/-- `list->size() >= max`, where the comparison takes `max` to an unsigned 64-bit
number. -/
def isFull (this : CellInfo) (list : PeerList) : Bool :=
  (this.max list % 2 ^ 64).toNat ≤ (this.peers list).length

/-- A type without a list falls through to `return -1`, which is `true`. -/
def hasAvailableSlotsForPeer (this : CellInfo) (type : UInt32) : Bool :=
  match PeerList.ofType type with
  | some list => !this.isFull list
  | none => true

def getPeersByType (this : CellInfo) (type : UInt32) : List P3PeerInfo :=
  match PeerList.ofType type with
  | some list => this.peers list
  | none => []

def getCoordinator (this : CellInfo) : Option P3PeerInfo :=
  this.sps.head?

def getPeerCount (this : CellInfo) : Nat :=
  this.sps.length

/-- The first peer with an identifier, in the order superpeers, sensors, monitors. -/
def getPeer (this : CellInfo) (pid : UUID) : Option P3PeerInfo :=
  (this.sps ++ this.sensors ++ this.monitors).find? fun info => info.pid.sameKey pid

/-- Append a peer to the list of its type; `none` is the answer -1 for a type
without a list, a peer that its list holds already, and a full list. -/
def add (this : CellInfo) (peer : P3PeerInfo) : Option CellInfo :=
  match PeerList.ofType peer.type with
  | none => none
  | some list =>
      if (this.peers list).any fun temp => temp.pid.sameKey peer.pid then
        none
      else if this.isFull list then
        none
      else
        some (this.setPeers list (this.peers list ++ [peer]))

/-- Erase the first entry with an identifier from the first list that has one;
`none` is the answer -1. -/
def remove (this : CellInfo) (uuid : UUID) : Option CellInfo :=
  if this.sps.any fun temp => temp.pid.sameKey uuid then
    some { this with sps := this.sps.eraseP fun temp => temp.pid.sameKey uuid }
  else if this.sensors.any fun temp => temp.pid.sameKey uuid then
    some { this with sensors := this.sensors.eraseP fun temp => temp.pid.sameKey uuid }
  else if this.monitors.any fun temp => temp.pid.sameKey uuid then
    some { this with monitors := this.monitors.eraseP fun temp => temp.pid.sameKey uuid }
  else
    none

/-- All peers of the cell. -/
def allPeers (this : CellInfo) : List P3PeerInfo :=
  this.sps ++ this.sensors ++ this.monitors

/-- The identifiers of the peers of the cell. -/
def pids (this : CellInfo) : List UUID :=
  this.allPeers.map fun peer => peer.pid

end CellInfo

namespace CellTreeNode

/-- A node constructed by `new`, with the capacities configured for its depth.
The constructor leaves `m_port` as it finds it. -/
def new (config : P3Configuration) (addr : Addr) (cellID : CellID) (parent : Option Addr)
    (spanNo depth : Int) : CellTreeNode :=
  .node
    { addr
      parent
      cellID
      port := 0
      depth
      spanNo
      maxSPs := P3Configuration.lookupValue (config.CELL_SPS depth) 2
      maxSensors := P3Configuration.lookupValue (config.CELL_SENSORS depth) 80
      maxMonitor := P3Configuration.lookupValue (config.CELL_MONITORS depth) 2
      sps := []
      sensors := []
      monitors := [] }
    (List.replicate (config.treeSpan depth).toNat none)

/-- `m_treeSpan`, the length of the array of children. -/
def treeSpan (this : CellTreeNode) : Nat :=
  this.slots.length

def hasAllSiblings (this : CellTreeNode) : Bool :=
  this.slots.all Option.isSome

def countSiblings (this : CellTreeNode) : Nat :=
  this.slots.countP Option.isSome

/-- The number of the first empty slot. -/
def firstFree (this : CellTreeNode) : Option Nat :=
  this.slots.findIdx? Option.isNone

/-- Create a child in the first empty slot; the answer is its slot number and the
node with the child, or `none` for the null pointer when every slot is taken. -/
def createSibling (config : P3Configuration) (addr : Addr) (cellID : CellID)
    (this : CellTreeNode) : Option (Nat × CellTreeNode) :=
  (firstFree this).map fun i =>
    (i, this.setSlot i (some (new config addr cellID (some this.label.addr) i
      (this.label.depth + 1))))

def setParent (parent : Option Addr) (this : CellTreeNode) : CellTreeNode :=
  this.mapLabel fun info => { info with parent }

/-- Store a child, possibly null, in a slot and point its parent here. -/
def setSibbling (this : CellTreeNode) (spanNo : Nat) (newChild : Option CellTreeNode) :
    Result CellTreeNode :=
  if spanNo < treeSpan this then
    .ok (this.setSlot spanNo (newChild.map (setParent (some this.label.addr))))
  else
    .error .outOfBounds

/-- Read a slot. -/
def getSibling (this : CellTreeNode) (spanNo : Nat) : Result (Option CellTreeNode) :=
  match this.slots[spanNo]? with
  | some child => .ok child
  | none => .error .outOfBounds

/-- One round of the inner loop of `replaceSibling`: child `i` of `node` moves to
slot `i` of `newNode`. -/
def adoptSibling (node newNode : CellTreeNode) (i : Nat) : Result CellTreeNode := do
  let child ← getSibling node i
  setSibbling newNode i child

/-- `newNode` with the depth, the slot number and the parent of `node`. -/
def placedAt (node newNode : CellTreeNode) : CellTreeNode :=
  newNode.mapLabel fun info =>
    { info with
      depth := node.label.depth
      spanNo := node.label.spanNo
      parent := node.label.parent }

/-- Put `newNode` in the place of the child `node`.  The inner loop runs over the
span of this node, not over the spans of the two nodes whose slots it uses. -/
def replaceSibling (this node : CellTreeNode) (newNode : Option CellTreeNode) :
    Result CellTreeNode :=
  match this.slots.findIdx? fun child => child.any fun c => c.label.addr = node.label.addr with
  | none => .ok this
  | some i =>
      match newNode with
      | none => .ok (this.setSlot i none)
      | some newNode => do
          let adopted ← (List.range (treeSpan this)).foldlM (adoptSibling node)
            (placedAt node newNode)
          .ok (this.setSlot i (some adopted))

mutual

/-- Set the depth and slot number of a node and of everything below it. -/
def setLocation (depth spanNo : Int) : CellTreeNode → CellTreeNode
  | .node info slots =>
      .node { info with depth, spanNo } (setLocationOfSlots (depth + 1) 0 slots)

/-- The loop of `setLocation` from slot `i` on. -/
def setLocationOfSlots (depth : Int) (i : Nat) :
    List (Option CellTreeNode) → List (Option CellTreeNode)
  | [] => []
  | none :: slots => none :: setLocationOfSlots depth (i + 1) slots
  | some c :: slots => some (setLocation depth i c) :: setLocationOfSlots depth (i + 1) slots

end

end CellTreeNode

end Stheno.Superpeer
