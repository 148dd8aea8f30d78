import Stheno.Discovery.Objects
import Stheno.Superpeer.Uplink

/-!
# The access points of a peer

A cell looks up where a peer is reached: for its discovery, its mesh and its fault
tolerance service.  The peer may be the cell's own, the parent or one of the tree, and
each of the three functions decides by itself which of them it is.
-/

namespace Stheno.Superpeer

open Stheno.Tree Peer

/-- What a lookup leaves in `si`, or the text of its `ServiceException`. -/
inductive SAPAnswer where
  | found (si : Option SAPInfo)
  | thrown (message : String)
  deriving DecidableEq

/-- The services that a peer can be reached for. -/
inductive SAPKind where
  | discovery
  | mesh
  | ft
  deriving DecidableEq

/-- The access points of the services of one peer. -/
structure AccessPoints where
  discoverySAP : Option SAPInfo
  meshSAP : Option SAPInfo
  ftSAP : Option SAPInfo
  deriving DecidableEq

def AccessPoints.of (this : AccessPoints) : SAPKind → Option SAPInfo
  | .discovery => this.discoverySAP
  | .mesh => this.meshSAP
  | .ft => this.ftSAP

namespace Uplink

variable (this : Uplink) (overlay : AccessPoints) (uuid : UUID)

/-- The case that is left: the peer has to be in the tree. -/
def getTreeSAPInfo (recorded : P3PeerInfo → Option SAPInfo) : SAPAnswer :=
  match this.cellTree.getPeer uuid with
  | none => .thrown "Invalid Peer"
  | some peerInfo => .found (recorded peerInfo)

/-- `sameKey` follows the handle of the parent's identifier without a test. -/
def getSAPInfo (own parent : Option SAPInfo) (recorded : P3PeerInfo → Option SAPInfo) :
    Result SAPAnswer :=
  if uuid.sameKey this.pid then
    pure (.found own)
  else do
    let parentUUID ← Discovery.deref this.parentUUID
    if uuid.sameKey parentUUID then
      pure (.found parent)
    else
      pure (this.getTreeSAPInfo uuid recorded)

/-- `overlay` holds the access points of the services that the overlay opened before
the cell. -/
def getDiscoverySAPInfo : Result SAPAnswer :=
  this.getSAPInfo uuid overlay.discoverySAP this.parentDiscoverySAP fun peerInfo =>
    peerInfo.discoverySAP

def getMeshSAPInfo : Result SAPAnswer :=
  this.getSAPInfo uuid overlay.meshSAP this.parentMeshSAP fun peerInfo => peerInfo.meshSAP

/-- The second test repeats the first; the parent's identifier is not read. -/
def getFTSAPInfo : Result SAPAnswer :=
  if uuid.sameKey this.pid then
    pure (.found overlay.ftSAP)
  else if uuid.sameKey this.pid then
    pure (.found this.parentFTSAP)
  else
    pure (this.getTreeSAPInfo uuid fun peerInfo => peerInfo.ftSAP)

def lookup : SAPKind → Result SAPAnswer
  | .discovery => this.getDiscoverySAPInfo overlay uuid
  | .mesh => this.getMeshSAPInfo overlay uuid
  | .ft => this.getFTSAPInfo overlay uuid

/-! ## One lookup for all kinds -/

/-- The peer that an identifier means. -/
inductive Entry where
  | own
  | parent
  | recorded (peerInfo : P3PeerInfo)
  | unknown

/-- The own identifier comes before the parent's, and the parent's before the tree. -/
def entry : Entry :=
  if uuid = this.pid then
    .own
  else if this.parentUUID = some uuid then
    .parent
  else
    match this.cellTree.getPeer uuid with
    | some peerInfo => .recorded peerInfo
    | none => .unknown

def parentSAPs : AccessPoints where
  discoverySAP := this.parentDiscoverySAP
  meshSAP := this.parentMeshSAP
  ftSAP := this.parentFTSAP

def accessPoints (peerInfo : P3PeerInfo) : AccessPoints where
  discoverySAP := peerInfo.discoverySAP
  meshSAP := peerInfo.meshSAP
  ftSAP := peerInfo.ftSAP

/-- What a lookup owes for a peer. -/
def answer (kind : SAPKind) : Entry → SAPAnswer
  | .own => .found (overlay.of kind)
  | .parent => .found (this.parentSAPs.of kind)
  | .recorded peerInfo => .found ((accessPoints peerInfo).of kind)
  | .unknown => .thrown "Invalid Peer"

/-- The three lookups decide alike and follow no null handle. -/
def LookupsAgree : Prop :=
  ∀ kind, this.lookup overlay uuid kind = .ok (this.answer overlay kind (this.entry uuid))

variable {this uuid}

theorem entry_own : this.entry this.pid = .own :=
  if_pos rfl

theorem entry_parent (other : uuid ≠ this.pid) (parent : this.parentUUID = some uuid) :
    this.entry uuid = .parent := by
  rw [entry, if_neg other, if_pos parent]

/-- A peer that is neither the own one nor the parent is looked up in the tree. -/
theorem answer_tree {overlay : AccessPoints} (other : uuid ≠ this.pid)
    (below : this.parentUUID ≠ some uuid) (kind : SAPKind) :
    this.answer overlay kind (this.entry uuid) =
      this.getTreeSAPInfo uuid fun peerInfo => (accessPoints peerInfo).of kind := by
  rw [entry, if_neg other, if_neg below, getTreeSAPInfo]
  cases this.cellTree.getPeer uuid with
  | none => rfl
  | some peerInfo => rfl

theorem getSAPInfo_own (own parent : Option SAPInfo) (recorded : P3PeerInfo → Option SAPInfo) :
    this.getSAPInfo this.pid own parent recorded = .ok (.found own) :=
  if_pos (UUID.sameKey_iff.mpr rfl)

theorem getSAPInfo_parent (own parent : Option SAPInfo) (recorded : P3PeerInfo → Option SAPInfo)
    (other : uuid ≠ this.pid) (above : this.parentUUID = some uuid) :
    this.getSAPInfo uuid own parent recorded = .ok (.found parent) := by
  rw [getSAPInfo, if_neg (mt UUID.sameKey_iff.mp other), above]
  exact if_pos (UUID.sameKey_iff.mpr rfl)

theorem getSAPInfo_tree (own parent : Option SAPInfo) (recorded : P3PeerInfo → Option SAPInfo)
    {parentUUID : UUID} (other : uuid ≠ this.pid) (above : this.parentUUID = some parentUUID)
    (below : uuid ≠ parentUUID) :
    this.getSAPInfo uuid own parent recorded = .ok (this.getTreeSAPInfo uuid recorded) := by
  rw [getSAPInfo, if_neg (mt UUID.sameKey_iff.mp other), above]
  exact if_neg (mt UUID.sameKey_iff.mp below)

/-- Without a parent the comparison with its identifier has no result. -/
theorem getSAPInfo_orphan (own parent : Option SAPInfo) (recorded : P3PeerInfo → Option SAPInfo)
    (other : uuid ≠ this.pid) (orphan : this.parentUUID = none) :
    this.getSAPInfo uuid own parent recorded = .error .nullDereference := by
  rw [getSAPInfo, if_neg (mt UUID.sameKey_iff.mp other), orphan]
  rfl

theorem getFTSAPInfo_own : this.getFTSAPInfo overlay this.pid = .ok (.found overlay.ftSAP) :=
  if_pos (UUID.sameKey_iff.mpr rfl)

theorem getFTSAPInfo_other (other : uuid ≠ this.pid) :
    this.getFTSAPInfo overlay uuid = .ok (this.getTreeSAPInfo uuid fun peerInfo => peerInfo.ftSAP) := by
  have apart := mt UUID.sameKey_iff.mp other
  rw [getFTSAPInfo, if_neg apart, if_neg apart]
  rfl

variable (this uuid)

theorem lookupsAgree_own : this.LookupsAgree overlay this.pid := by
  intro kind
  rw [entry_own]
  cases kind with
  | discovery => exact getSAPInfo_own _ _ _
  | mesh => exact getSAPInfo_own _ _ _
  | ft => exact getFTSAPInfo_own overlay

/-- Below a parent the lookups agree on every peer of the tree and on every stranger. -/
theorem lookupsAgree_tree {parentUUID : UUID} (other : uuid ≠ this.pid)
    (above : this.parentUUID = some parentUUID) (below : uuid ≠ parentUUID) :
    this.LookupsAgree overlay uuid := by
  have notParent : this.parentUUID ≠ some uuid := by
    rw [above]
    exact fun same => below (Option.some.inj same).symm
  intro kind
  rw [answer_tree other notParent]
  cases kind with
  | discovery => exact getSAPInfo_tree _ _ _ other above below
  | mesh => exact getSAPInfo_tree _ _ _ other above below
  | ft => exact getFTSAPInfo_other overlay other

/-- On the parent they agree only if the tree happens to hold its access point. -/
theorem lookupsAgree_parent_iff (other : uuid ≠ this.pid) (above : this.parentUUID = some uuid) :
    this.LookupsAgree overlay uuid ↔
      ∃ peerInfo, this.cellTree.getPeer uuid = some peerInfo ∧ peerInfo.ftSAP = this.parentFTSAP := by
  have faultTolerance : this.lookup overlay uuid .ft =
      .ok (this.answer overlay .ft (this.entry uuid)) ↔
        ∃ peerInfo, this.cellTree.getPeer uuid = some peerInfo ∧ peerInfo.ftSAP = this.parentFTSAP := by
    have asked : this.lookup overlay uuid .ft = _ := getFTSAPInfo_other overlay other
    rw [asked, entry_parent other above, getTreeSAPInfo]
    cases this.cellTree.getPeer uuid with
    | none => simp [answer]
    | some peerInfo => simp [answer, parentSAPs, AccessPoints.of]
  rw [← faultTolerance]
  constructor
  · intro agree
    exact agree .ft
  · intro same kind
    cases kind with
    | discovery =>
        rw [entry_parent other above]
        exact getSAPInfo_parent _ _ _ other above
    | mesh =>
        rw [entry_parent other above]
        exact getSAPInfo_parent _ _ _ other above
    | ft => exact same

theorem lookupsAgree_iff : this.LookupsAgree overlay uuid ↔
    uuid = this.pid ∨ ∃ parentUUID, this.parentUUID = some parentUUID ∧ (uuid = parentUUID →
      ∃ peerInfo, this.cellTree.getPeer uuid = some peerInfo ∧
        peerInfo.ftSAP = this.parentFTSAP) := by
  by_cases own : uuid = this.pid
  · subst own
    exact iff_of_true (this.lookupsAgree_own overlay) (Or.inl rfl)
  · rw [or_iff_right own]
    cases above : this.parentUUID with
    | none =>
        apply iff_of_false
        · intro agree
          have asked : this.lookup overlay uuid .discovery = _ :=
            getSAPInfo_orphan _ _ _ own above
          rw [agree .discovery] at asked
          cases asked
        · rintro ⟨parentUUID, impossible, -⟩
          cases impossible
    | some parentUUID =>
        by_cases parent : uuid = parentUUID
        · subst parent
          rw [this.lookupsAgree_parent_iff overlay uuid own above]
          simp
        · apply iff_of_true
          · exact this.lookupsAgree_tree overlay uuid own above parent
          · exact ⟨parentUUID, rfl, fun same => absurd same parent⟩

/-- A superpeer that opens a cell of its own; the access points have no endpoints. -/
def opening : Opening where
  pid := ⟨[1]⟩
  generated := ⟨[2]⟩
  endpoint := none
  discoverySAP := some .empty
  meshSAP := some .empty
  ftSAP := some .empty
  info := none
  contact := .accepted
  answer := none

def rootCell : Uplink :=
  opening.coordinating ⟨fun _ => none, fun _ => none, fun _ => none, fun _ => none⟩ ⟨[2]⟩ none

/-- The same cell with a parent, all of whose access points are set. -/
def childCell : Uplink :=
  (Opening.connectToParentCoordinator rootCell
    ⟨⟨⟨[9]⟩, ⟨[8]⟩⟩, some .empty, some .empty, some .empty⟩ .accepted).getD rootCell

/-- The fault tolerance lookup refuses the parent, and a root cell asks for nobody. -/
theorem not_lookupsAgree_opened :
    ¬ childCell.LookupsAgree ⟨some .empty, some .empty, some .empty⟩ ⟨[9]⟩ ∧
      ¬ rootCell.LookupsAgree ⟨some .empty, some .empty, some .empty⟩ ⟨[9]⟩ := by
  constructor
  · intro agree
    exact absurd (agree .ft) (by decide)
  · intro agree
    exact absurd (agree .mesh) (by decide)

end Uplink

end Stheno.Superpeer
