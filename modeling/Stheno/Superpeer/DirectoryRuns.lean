import Stheno.Simulation
import Stheno.Superpeer.Departure
import Stheno.Superpeer.Directory
import Stheno.Superpeer.Joining
import Stheno.Superpeer.RebindChain

/-!
# Runs of a cell tree

Peers join and leave, and a cell tree stands for its directory all the while.  What the
directory does not keep never decides what becomes of it: the addresses of the cells, the
pointers between them, and the records of the peers.
-/

namespace Stheno.Superpeer

open Stheno.Tree Peer

/-- A change of the peers. -/
inductive PeerChange where
  | join (peer : P3PeerInfo) (parentCellID : Option CellID)
  | leave (uuid : UUID) (cellID : CellID)

/-- What a directory is told of a change. -/
inductive DirectoryChange where
  | join (type : UInt32) (pid : UUID) (cellID : CellID) (parentCellID : Option CellID)
  | leave (pid : UUID) (cellID : CellID)

def PeerChange.told : PeerChange → DirectoryChange
  | .join peer parentCellID => .join peer.type peer.pid peer.fid parentCellID
  | .leave uuid cellID => .leave uuid cellID

def CellTree.change (config : P3Configuration) (this : CellTree) : PeerChange → Result CellTree
  | .join peer parentCellID => (this.join config peer parentCellID).map Prod.fst
  | .leave uuid cellID => (this.leave uuid cellID).map Prod.fst

def Directory.change (config : P3Configuration) (this : Directory) :
    DirectoryChange → Option Directory
  | .join type pid cellID parentCellID => some (this.join config type pid cellID parentCellID)
  | .leave pid cellID => this.leave pid cellID

theorem simulates_change (config : P3Configuration) :
    Simulates (CellTree.change config) (Directory.change config) CellTree.directory PeerChange.told
      RepInv where
  keeps := by
    intro t change after inv done
    cases change with
    | join peer parentCellID =>
        rcases Result.map_eq_ok.mp done with ⟨out, joined, rfl⟩
        exact inv.join joined
    | leave uuid cellID =>
        rcases Result.map_eq_ok.mp done with ⟨out, left, rfl⟩
        exact inv.leave left
  shows := by
    intro t change inv
    cases change with
    | join peer parentCellID =>
        rcases t.directory_join config peer parentCellID with ⟨out, joined, same⟩
        rw [CellTree.change, joined, PeerChange.told, Directory.change, ← same]
        rfl
    | leave uuid cellID =>
        have left := CellTree.directory_leave inv uuid cellID
        rw [PeerChange.told, Directory.change, left, CellTree.change]
        cases t.leave uuid cellID with
        | error fault => rfl
        | ok out => rfl

/-- Over any changes, a cell tree goes through the trees of its directory's run, and it faults
where the directory is left without its root cell and nowhere else. -/
theorem directory_run (config : P3Configuration) {t : CellTree} (inv : RepInv t)
    (changes : List PeerChange) :
    (changes.map PeerChange.told).foldlM (Directory.change config) t.directory =
        (changes.foldlM (CellTree.change config) t).toOption.map CellTree.directory ∧
      ∀ after, changes.foldlM (CellTree.change config) t = .ok after → RepInv after :=
  (simulates_change config).run inv changes

/-- Superpeers join the root cell and a new cell below it, and one of them leaves. -/
def comings : List PeerChange :=
  [.join (.announced P3PeerInfo.SUPERPEER ⟨[11]⟩ ⟨[0]⟩ none none none none) none,
    .join (.announced P3PeerInfo.SUPERPEER ⟨[12]⟩ ⟨[1]⟩ none none none none) (some ⟨[0]⟩),
    .join (.announced P3PeerInfo.SUPERPEER ⟨[13]⟩ ⟨[1]⟩ none none none none) (some ⟨[0]⟩),
    .leave ⟨[12]⟩ ⟨[1]⟩]

/-- The last peer of the lower cell leaves, and then that of the root cell. -/
def goings : List PeerChange :=
  comings ++ [.leave ⟨[13]⟩ ⟨[1]⟩, .leave ⟨[11]⟩ ⟨[0]⟩]

/-- The tree keeps to the directory, and both end where the root cell is emptied. -/
theorem directory_run_goings :
    (∃ after, comings.foldlM (CellTree.change defaults) (CellTree.new defaults ⟨[0]⟩) = .ok after ∧
      (comings.map PeerChange.told).foldlM (Directory.change defaults)
        (CellTree.new defaults ⟨[0]⟩).directory = some after.directory ∧
      after.entries = [(⟨[0]⟩, ⟨[11]⟩), (⟨[1]⟩, ⟨[13]⟩)] ∧ RepInv after) ∧
    (∃ fault, goings.foldlM (CellTree.change defaults) (CellTree.new defaults ⟨[0]⟩) =
      .error fault) ∧
    (goings.map PeerChange.told).foldlM (Directory.change defaults)
      (CellTree.new defaults ⟨[0]⟩).directory = none := by
  have first := directory_run defaults (RepInv.new defaults ⟨[0]⟩) comings
  have whole := directory_run defaults (RepInv.new defaults ⟨[0]⟩) goings
  have settles : ∃ after, comings.foldlM (CellTree.change defaults)
      (CellTree.new defaults ⟨[0]⟩) = .ok after ∧
        after.entries = [(⟨[0]⟩, ⟨[11]⟩), (⟨[1]⟩, ⟨[13]⟩)] :=
    ⟨_, rfl, by decide⟩
  have ends : ∃ fault, goings.foldlM (CellTree.change defaults) (CellTree.new defaults ⟨[0]⟩) =
      .error fault :=
    ⟨_, rfl⟩
  rcases settles with ⟨after, done, entries⟩
  rcases ends with ⟨fault, failed⟩
  refine ⟨⟨after, done, ?_, entries, first.2 after done⟩, ⟨fault, failed⟩, ?_⟩
  · rw [first.1, done]
    rfl
  · rw [whole.1, failed]
    rfl

/-- Two trees of one directory stay so over any changes that tell a directory the same,
and one of the runs faults if the other does. -/
theorem directories_agree (config : P3Configuration) {t u : CellTree} (inv : RepInv t)
    (inv' : RepInv u) (same : t.directory = u.directory) {changes changes' : List PeerChange}
    (told : changes.map PeerChange.told = changes'.map PeerChange.told) :
    (changes.foldlM (CellTree.change config) t).toOption.map CellTree.directory =
      (changes'.foldlM (CellTree.change config) u).toOption.map CellTree.directory := by
  rcases (simulates_change config).run inv changes with ⟨shown, -⟩
  rcases (simulates_change config).run inv' changes' with ⟨shown', -⟩
  rw [← shown, ← shown', same, told]

end Stheno.Superpeer
