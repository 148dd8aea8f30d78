import Stheno.Table
import Stheno.Wire.Stream

/-!
# Peers, their access points and their services

A peer record carries the peer's identifier, the identifier of its cell, the
optional service access points of the runtime and the services it runs.  The
service map is keyed by service identifier and every service keeps its running
instances keyed by instance identifier; both records carry the fact that the
values are stored under their own identifiers.
-/

namespace Stheno

/-- A key of any length: `deserialize` takes what the wire says.  A key without octets has no
data, so its base is null. -/
structure UUID where
  key : List UInt8
  deriving DecidableEq

/-- Cells are named by keys of the same kind. -/
abbrev CellID := UUID

namespace UUID

/-- A `memcmp` over the length of the receiver's key: what follows in the argument is not looked
at, and a receiver without data is equal to everything. -/
def isEqual (this uuid : UUID) : Result Bool :=
  if this.key.length ≤ uuid.key.length then
    .ok (this.key.isPrefixOf uuid.key)
  else if uuid.key = [] then
    .error .nullDereference
  else
    .error .outOfBounds

/-- Whether two keys are the same.  The identifiers of the peers, cells and services of a runtime
come from `generateUUID` and are compared with it: they have one length, where `isEqual` answers
this. -/
def sameKey (this uuid : UUID) : Bool :=
  this = uuid

@[simp]
theorem sameKey_iff {this uuid : UUID} : this.sameKey uuid = true ↔ this = uuid := by
  simp [sameKey]

theorem isEqual_of_length_eq {this uuid : UUID} (sameLength : this.key.length = uuid.key.length) :
    this.isEqual uuid = .ok (this.sameKey uuid) := by
  cases this with
  | mk first =>
      cases uuid with
      | mk second =>
          have agree : first.isPrefixOf second = decide (UUID.mk first = UUID.mk second) := by
            rw [Bool.eq_iff_iff, List.isPrefixOf_iff_prefix, decide_eq_true_iff, UUID.mk.injEq]
            constructor
            · intro starts
              exact starts.eq_of_length sameLength
            · rintro rfl
              exact List.prefix_refl first
          rw [isEqual, if_pos (Nat.le_of_eq sameLength), agree]
          rfl

/-- A receiver without data is equal to every identifier. -/
theorem isEqual_of_empty {this : UUID} (empty : this.key = []) (uuid : UUID) :
    this.isEqual uuid = .ok true := by
  have within : this.key.length ≤ uuid.key.length := by
    rw [empty]
    exact Nat.zero_le _
  rw [isEqual, if_pos within, empty]
  rfl

end UUID

namespace Peer

structure QoSEndpoint where
  type : UInt16
  priority : UInt16
  deriving DecidableEq

structure Endpoint where
  type : UInt8
  host : Wire.CString
  port : UInt16
  qos : QoSEndpoint
  deriving DecidableEq

def Endpoint.isEqual (this node : Endpoint) : Bool :=
  this.type = node.type && this.host = node.host && this.port = node.port && this.qos = node.qos

theorem Endpoint.isEqual_iff {this node : Endpoint} : this.isEqual node = true ↔ this = node := by
  cases this
  cases node
  simp [isEqual, and_assoc]

/-- A service access point: endpoints without repetition. -/
structure SAPInfo where
  endpointList : List Endpoint
  distinct : endpointList.Nodup
  deriving DecidableEq

namespace SAPInfo

def empty : SAPInfo :=
  ⟨[], List.nodup_nil⟩

/-- An endpoint that is in the list already is not added again. -/
def addEndpoint (this : SAPInfo) (endpoint : Endpoint) : SAPInfo :=
  if present : endpoint ∈ this.endpointList then
    this
  else
    { endpointList := this.endpointList ++ [endpoint]
      distinct := by
        rw [List.nodup_append]
        refine ⟨this.distinct, List.nodup_singleton _, ?_⟩
        intro other member last isLast equal
        rw [equal, List.mem_singleton.mp isLast] at member
        exact present member }

theorem addEndpoint_of_fresh {this : SAPInfo} {endpoint : Endpoint}
    (fresh : endpoint ∉ this.endpointList) :
    (this.addEndpoint endpoint).endpointList = this.endpointList ++ [endpoint] := by
  rw [addEndpoint, dif_neg fresh]

theorem foldl_addEndpoint (this : SAPInfo) (endpoints : List Endpoint)
    (fresh : (this.endpointList ++ endpoints).Nodup) :
    (endpoints.foldl addEndpoint this).endpointList = this.endpointList ++ endpoints := by
  induction endpoints generalizing this with
  | nil => simp
  | cons endpoint endpoints ih =>
      have notPresent : endpoint ∉ this.endpointList := by
        intro present
        rw [List.nodup_append] at fresh
        exact fresh.2.2 _ present _ List.mem_cons_self rfl
      have added := addEndpoint_of_fresh notPresent
      rw [List.foldl_cons, ih, added]
      · simp
      · rw [added]
        simpa using fresh

/-- Adding the endpoints of an access point one by one rebuilds it. -/
theorem foldl_addEndpoint_empty (this : SAPInfo) :
    this.endpointList.foldl addEndpoint empty = this := by
  have list := foldl_addEndpoint empty this.endpointList (by simpa [empty] using this.distinct)
  cases this with
  | mk endpointList distinct =>
      change (endpointList.foldl addEndpoint empty).endpointList = endpointList at list
      generalize endpointList.foldl addEndpoint empty = built at list
      cases built
      cases list
      rfl

/-- A pointer to an access point is followed; without endpoints the call throws. -/
def getFirstEndpoint : Option SAPInfo → Result Endpoint
  | none => .error .nullDereference
  | some sap =>
      match sap.endpointList with
      | [] => .error .uncaughtException
      | endpoint :: _ => .ok endpoint

end SAPInfo

structure ServiceInstanceInfo where
  sid : UUID
  iid : UUID
  sapInfo : Option SAPInfo
  deriving DecidableEq

/-- A service with its running instances under their instance identifiers. -/
structure ServiceInfo where
  sid : UUID
  runningServices : Table UUID ServiceInstanceInfo
  keyed : ∀ entry ∈ runningServices.entries, entry.2.iid = entry.1
  deriving DecidableEq

def ServiceInfo.getInstanceCount (this : ServiceInfo) : Nat :=
  this.runningServices.size

/-- A peer's record, with its services under their service identifiers. -/
structure PeerInfo where
  type : UInt32
  pid : UUID
  fid : UUID
  meshSAP : Option SAPInfo
  discoverySAP : Option SAPInfo
  ftSAP : Option SAPInfo
  services : Table UUID ServiceInfo
  keyed : ∀ entry ∈ services.entries, entry.2.sid = entry.1
  deriving DecidableEq

/-- The instances of all services, counted in an unsigned 32-bit integer. -/
def PeerInfo.getTotalServicesRunning (this : PeerInfo) : UInt32 :=
  this.services.entries.foldl (fun count entry => count + UInt32.ofNat entry.2.getInstanceCount) 0

/-- A peer of the overlay, with the endpoint on which it serves its cell. -/
structure P3PeerInfo extends PeerInfo where
  cellEndpoint : Option Endpoint
  deriving DecidableEq

namespace P3PeerInfo

def SUPERPEER : UInt32 := 1
def SUPERPEER_COORD : UInt32 := 2
def SENSOR : UInt32 := 3
def MONITOR : UInt32 := 4

/-- A peer as a packet announces it: without services. -/
def announced (type : UInt32) (pid fid : UUID) (cellEndpoint : Option Endpoint)
    (meshSAP discoverySAP ftSAP : Option SAPInfo) : P3PeerInfo where
  type := type
  pid := pid
  fid := fid
  meshSAP := meshSAP
  discoverySAP := discoverySAP
  ftSAP := ftSAP
  services := .empty
  keyed := by
    intro entry member
    cases member
  cellEndpoint := cellEndpoint

end P3PeerInfo

end Peer

end Stheno
