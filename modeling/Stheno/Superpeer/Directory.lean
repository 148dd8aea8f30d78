import Stheno.Superpeer.CellView

/-!
# The directory behind a cell tree

A coordinator and its followers keep cell trees for what they record: which peers
are in which cell, which cell is below which, and how much room is left.  A
directory keeps just that.  Each update of a cell tree is an update of its
directory, which addresses, pointers and peer records do not enter; a removal
needs the representation invariant, since it follows pointers.
-/

namespace Stheno.Superpeer

open Stheno.Tree Peer

/-- What a directory records of a cell. -/
structure DirectoryCell where
  cellID : CellID
  depth : Int
  max : PeerList → Int
  pids : PeerList → List UUID

abbrev Directory := SlotTree DirectoryCell

namespace DirectoryCell

def isFull (this : DirectoryCell) (list : PeerList) : Bool :=
  (this.max list % 2 ^ 64).toNat ≤ (this.pids list).length

def setPids (this : DirectoryCell) (list : PeerList) (pids : List UUID) : DirectoryCell :=
  { this with pids := Function.update this.pids list pids }

/-- Record a peer in the list of its type. -/
def add (this : DirectoryCell) (type : UInt32) (pid : UUID) : Option DirectoryCell :=
  match PeerList.ofType type with
  | none => none
  | some list =>
      if pid ∈ this.pids list ∨ this.isFull list then
        none
      else
        some (this.setPids list (this.pids list ++ [pid]))

theorem depth_of_add {this cell : DirectoryCell} {type : UInt32} {pid : UUID}
    (added : this.add type pid = some cell) : cell.depth = this.depth := by
  unfold add at added
  split at added
  · cases added
  · split at added
    · cases added
    · cases added
      rfl

/-- Strike a peer from the first list that records it. -/
def remove (this : DirectoryCell) (pid : UUID) : Option DirectoryCell :=
  ([PeerList.sps, .sensors, .monitors].find? fun list => pid ∈ this.pids list).map fun list =>
    this.setPids list ((this.pids list).erase pid)

/-- A cell without peers, with the capacities configured for its depth. -/
def new (config : P3Configuration) (cellID : CellID) (depth : Int) : DirectoryCell where
  cellID
  depth
  max
    | .sps => P3Configuration.lookupValue (config.CELL_SPS depth) 2
    | .sensors => P3Configuration.lookupValue (config.CELL_SENSORS depth) 80
    | .monitors => P3Configuration.lookupValue (config.CELL_MONITORS depth) 2
  pids := fun _ => []

end DirectoryCell

namespace Directory

def findCell (this : Directory) (cellID : CellID) : Option Path :=
  this.findPath fun cell => cell.cellID.sameKey cellID

def addAt (this : Directory) (path : Path) (type : UInt32) (pid : UUID) : Directory :=
  match (this.at? path).bind fun n => n.label.add type pid with
  | some cell => this.modifyAt (SlotTree.mapLabel fun _ => cell) path
  | none => this

def addPeer (this : Directory) (type : UInt32) (pid : UUID) (cellID : CellID) : Directory :=
  match this.findCell cellID with
  | some path => this.addAt path type pid
  | none => this

/-- The first empty slot of the cell at a position. -/
def freeSlot (this : Directory) (path : Path) : Option (DirectoryCell × Nat) :=
  (this.at? path).bind fun n =>
    (n.slots.findIdx? Option.isNone).map fun i => (n.label, i)

/-- A new cell in slot `i` below the cell `above`. -/
def fillNew (config : P3Configuration) (this : Directory) (path : Path) (above : DirectoryCell)
    (i : Nat) (cellID : CellID) : Directory :=
  this.modifyAt (fun n => n.setSlot i (some (.node (.new config cellID (above.depth + 1))
    (List.replicate (config.treeSpan (above.depth + 1)).toNat none)))) path

/-- Record a peer; a cell that is not known yet goes below the parent. -/
def addPeerUnder (config : P3Configuration) (this : Directory) (type : UInt32) (pid : UUID)
    (cellID : CellID) (parentCellID : CellID) : Directory :=
  match this.findCell cellID with
  | some path => this.addAt path type pid
  | none =>
      match this.findCell parentCellID with
      | none => this
      | some path =>
          match this.freeSlot path with
          | none => this
          | some (above, i) => (this.fillNew config path above i cellID).addAt (path ++ [i]) type pid

/-- A peer that joins without a parent needs a known cell. -/
def join (config : P3Configuration) (this : Directory) (type : UInt32) (pid : UUID)
    (cellID : CellID) (parentCellID : Option CellID) : Directory :=
  match parentCellID with
  | none => this.addPeer type pid cellID
  | some parentCellID => this.addPeerUnder config type pid cellID parentCellID

/-- Remove the cell at a position with all cells below it; the root cell stays. -/
def prune (this : Directory) (path : Path) : Option Directory :=
  match path.getLast? with
  | none => none
  | some i => some (this.modifyAt (fun n => n.setSlot i none) path.dropLast)

/-- Strike a peer from a cell, and the cell itself when no superpeer is left.  There
is no directory without its root cell. -/
def leave (this : Directory) (pid : UUID) (cellID : CellID) : Option Directory :=
  match this.findCell cellID with
  | none => some this
  | some path =>
      match (this.at? path).bind fun n => n.label.remove pid with
      | none => some this
      | some cell =>
          let removed : Directory := this.modifyAt (SlotTree.mapLabel fun _ => cell) path
          if cell.pids .sps = [] then removed.prune path else some removed

end Directory

/-! ## The directory of a cell tree -/

def CellInfo.directoryCell (this : CellInfo) : DirectoryCell where
  cellID := this.cellID
  depth := this.depth
  max := this.max
  pids := fun list => (this.peers list).map fun peer => peer.pid

def CellTree.directory (this : CellTree) : Directory :=
  this.rootNode.map CellInfo.directoryCell

namespace CellInfo

theorem directoryCell_isFull (info : CellInfo) (list : PeerList) :
    info.directoryCell.isFull list = info.isFull list := by
  simp [DirectoryCell.isFull, isFull, directoryCell]

theorem directoryCell_setPeers (info : CellInfo) (list : PeerList) (peers : List P3PeerInfo) :
    (info.setPeers list peers).directoryCell =
      info.directoryCell.setPids list (peers.map fun peer => peer.pid) := by
  have pids : ∀ other, ((info.setPeers list peers).peers other).map (fun peer => peer.pid) =
      Function.update info.directoryCell.pids list (peers.map fun peer => peer.pid) other := by
    intro other
    rw [peers_setPeers, Function.update_apply]
    split <;> rfl
  have same := sameNode_setPeers info list peers
  unfold directoryCell DirectoryCell.setPids
  rw [same.cellID, same.depth, max_setPeers, funext pids]
  rfl

theorem any_sameKey (info : CellInfo) (list : PeerList) (uuid : UUID) :
    ((info.peers list).any fun temp => temp.pid.sameKey uuid) =
      decide (uuid ∈ info.directoryCell.pids list) := by
  rw [Bool.eq_iff_iff, List.any_eq_true, decide_eq_true_iff]
  simp [directoryCell]

theorem directoryCell_add (info : CellInfo) (peer : P3PeerInfo) :
    (info.add peer).map directoryCell = info.directoryCell.add peer.type peer.pid := by
  unfold add DirectoryCell.add
  cases PeerList.ofType peer.type with
  | none => rfl
  | some list =>
      have appended : (info.setPeers list (info.peers list ++ [peer])).directoryCell =
          info.directoryCell.setPids list (info.directoryCell.pids list ++ [peer.pid]) := by
        rw [directoryCell_setPeers, List.map_append]
        rfl
      simp only [any_sameKey, directoryCell_isFull, decide_eq_true_eq]
      by_cases present : peer.pid ∈ info.directoryCell.pids list
      · simp only [present, if_true, true_or, Option.map_none]
      · by_cases full : info.isFull list = true
        · simp only [present, full, if_true, if_false, or_true, Option.map_none]
        · simp only [present, full, Bool.false_eq_true, if_false, or_self, Option.map_some, appended]

theorem map_pid_eraseP (peers : List P3PeerInfo) (uuid : UUID) :
    (peers.eraseP fun temp => temp.pid.sameKey uuid).map (fun peer => peer.pid) =
      (peers.map fun peer => peer.pid).erase uuid := by
  induction peers with
  | nil => rfl
  | cons peer peers ih =>
      by_cases here : peer.pid = uuid
      · simp [here]
      · have kept : peer.pid.sameKey uuid = false := by
          rw [Bool.eq_false_iff, ne_eq, UUID.sameKey_iff]
          exact here
        rw [List.eraseP_cons_of_neg (by simp [kept]), List.map_cons, List.map_cons, ih,
          List.erase_cons_tail (by simpa using here)]

theorem directoryCell_remove (info : CellInfo) (uuid : UUID) :
    (info.remove uuid).map directoryCell = info.directoryCell.remove uuid := by
  have erased : ∀ list, (info.setPeers list
      ((info.peers list).eraseP fun temp => temp.pid.sameKey uuid)).directoryCell =
        info.directoryCell.setPids list ((info.directoryCell.pids list).erase uuid) := by
    intro list
    rw [directoryCell_setPeers, map_pid_eraseP]
    rfl
  have knownSPs := info.any_sameKey .sps uuid
  have knownSensors := info.any_sameKey .sensors uuid
  have knownMonitors := info.any_sameKey .monitors uuid
  simp only [peers] at knownSPs knownSensors knownMonitors
  unfold remove DirectoryCell.remove
  rw [knownSPs, knownSensors, knownMonitors]
  by_cases inSPs : uuid ∈ info.directoryCell.pids .sps
  · simp [inSPs, ← erased, setPeers, peers]
  · by_cases inSensors : uuid ∈ info.directoryCell.pids .sensors
    · simp [inSPs, inSensors, ← erased, setPeers, peers]
    · by_cases inMonitors : uuid ∈ info.directoryCell.pids .monitors
      · simp [inSPs, inSensors, inMonitors, ← erased, setPeers, peers]
      · simp [inSPs, inSensors, inMonitors]

end CellInfo

/-- The directory as a view: the records of the peers do not enter. -/
def directoryView : CellView DirectoryCell where
  view := CellInfo.directoryCell
  cellID := DirectoryCell.cellID
  depth := DirectoryCell.depth
  deserted := fun cell => cell.pids .sps = []
  decideDeserted := fun _ => inferInstance
  new := DirectoryCell.new
  add := fun cell peer => cell.add peer.type peer.pid
  remove := DirectoryCell.remove
  cellID_view := fun _ => rfl
  depth_view := fun _ => rfl
  deserted_view := fun _ => List.map_eq_nil_iff
  view_placed := fun _ _ _ _ => rfl
  view_new := by
    intro config addr cellID parent spanNo depth
    unfold CellInfo.directoryCell DirectoryCell.new
    congr 1
    funext list
    cases list <;> rfl
  view_add := CellInfo.directoryCell_add
  view_remove := CellInfo.directoryCell_remove

namespace Directory

/-! The updates of a directory are those of its view. -/

variable (this : Directory) (peer : P3PeerInfo)

theorem addAt_eq (path : Path) :
    this.addAt path peer.type peer.pid = directoryView.addAt this path peer := by
  unfold addAt CellView.addAt
  split
  · rename_i cell added
    rw [show (this.at? path).bind (fun n => directoryView.add n.label peer) = some cell from added]
  · rename_i refused
    rw [show (this.at? path).bind (fun n => directoryView.add n.label peer) = none from refused]

theorem addPeer_eq :
    this.addPeer peer.type peer.pid peer.fid = directoryView.addPeer this peer := by
  unfold addPeer CellView.addPeer
  split
  · rename_i path known
    rw [show directoryView.findCell this peer.fid = some path from known, addAt_eq]
  · rename_i unknown
    rw [show directoryView.findCell this peer.fid = none from unknown]

theorem addPeerUnder_eq (config : P3Configuration) (parentCellID : CellID) :
    this.addPeerUnder config peer.type peer.pid peer.fid parentCellID =
      directoryView.addPeerUnder config this peer parentCellID := by
  unfold addPeerUnder CellView.addPeerUnder
  split
  · rename_i path known
    rw [show directoryView.findCell this peer.fid = some path from known, addAt_eq]
  · rename_i unknown
    rw [show directoryView.findCell this peer.fid = none from unknown]
    split
    · rename_i astray
      rw [show directoryView.findCell this parentCellID = none from astray]
    · rename_i path under
      rw [show directoryView.findCell this parentCellID = some path from under]
      split
      · rename_i full
        simp only [show CellView.freeSlot this path = none from full]
      · rename_i above i free
        simp only [show CellView.freeSlot this path = some (above, i) from free, addAt_eq]
        rfl

theorem join_eq (config : P3Configuration) (parentCellID : Option CellID) :
    this.join config peer.type peer.pid peer.fid parentCellID =
      directoryView.join config this peer parentCellID := by
  cases parentCellID with
  | none => exact this.addPeer_eq peer
  | some parentCellID => exact this.addPeerUnder_eq peer config parentCellID

theorem leave_eq (pid : UUID) (cellID : CellID) :
    this.leave pid cellID = directoryView.leave this pid cellID := by
  unfold leave CellView.leave
  split
  · rename_i unknown
    rw [show directoryView.findCell this cellID = none from unknown]
  · rename_i path known
    rw [show directoryView.findCell this cellID = some path from known]
    split
    · rename_i absent
      simp only [show (this.at? path).bind (fun n => directoryView.remove n.label pid) = none
        from absent]
    · rename_i cell removed
      simp only [show (this.at? path).bind (fun n => directoryView.remove n.label pid) = some cell
        from removed]
      rfl

end Directory

namespace CellTree

variable {t : CellTree}

theorem directory_join (config : P3Configuration) (t : CellTree) (peer : P3PeerInfo)
    (parentCellID : Option CellID) :
    ∃ out, t.join config peer parentCellID = .ok out ∧
      out.1.directory = t.directory.join config peer.type peer.pid peer.fid parentCellID := by
  rw [Directory.join_eq]
  exact CellView.tree_join (V := directoryView) config t peer parentCellID

/-- The directory after a departure, or none when the root cell is freed. -/
theorem directory_leave (inv : RepInv t) (uuid : UUID) (cellID : CellID) :
    t.directory.leave uuid cellID =
      match t.leave uuid cellID with
      | .ok out => some out.1.directory
      | .error _ => none := by
  rw [Directory.leave_eq]
  exact CellView.tree_leave (V := directoryView) inv uuid cellID

end CellTree

end Stheno.Superpeer
