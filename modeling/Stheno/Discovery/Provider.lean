import Stheno.Discovery.Relay
import Stheno.Peer.LocalService
import Stheno.Superpeer.LevelSearch
import Stheno.Superpeer.Queries

/-!
# The general provider

Every superpeer registers one provider, which answers five classes of queries from
its mesh.  It narrows the query to its class first, which takes the query over and
deletes it.  The tree of the mesh is searched as it is, so a query whose members were
not read is searched for with an identifier that has no data.
-/

namespace Stheno.Discovery

open Stheno.Tree Wire Peer Superpeer

/-! ## Objects of any class -/

/-- A query as its class built it, or a plain one as a packet brought it. -/
inductive AnyQuery where
  | typed (c : QueryClass) (fields : c.Fields)
  | plain (query : DiscoveryQuery Unit)

namespace AnyQuery

/-- The part of the base class. -/
def base : AnyQuery → DiscoveryQuery Unit
  | typed c _ => { provider := c.provider, type := c.type, querySpecializationBlob := none, fields := () }
  | plain query => query

def getProvider (this : AnyQuery) : UInt32 :=
  this.base.provider

def getType (this : AnyQuery) : UInt32 :=
  this.base.type

def serialize : AnyQuery → Result (List UInt8)
  | typed c fields => (c.new fields).serialize c.specialization
  | plain query => query.serialize DiscoveryQuery.plain

end AnyQuery

inductive AnyReply where
  | typed (c : ReplyClass) (reply : DiscoveryQueryReply c.Fields)
  | plain (reply : DiscoveryQueryReply Unit)

def AnyReply.serialize : AnyReply → Result (List UInt8)
  | typed c reply => reply.serialize c.specialization
  | plain reply => reply.serializePlain

/-! ## Queries to the mesh -/

/-- What the provider asks of its mesh.  The values of `rand()` are those of the query. -/
structure P3Mesh where
  isRootFID : Bool
  cellTree : CellTree
  audioSensors : List SensorInfo
  videoSensors : List SensorInfo
  eventSensors : List SensorInfo
  actuatorSensors : List SensorInfo
  runtime : SthenoCore
  runtimeUUID : UUID
  fid : UUID
  randomPeer : Nat
  randomByLevel : Path → Nat

namespace P3Mesh

/-- `getInstancesOfService` of the runtime, with null also for a service that is not known.  The
exception of a runtime that is not valid is not among those that the interface may throw. -/
def getInstancesOfService (this : P3Mesh) (sid iid : UUID) : Result (Option ServiceInstanceInfo) :=
  if this.runtime.isValid then
    pure (this.runtime.getInstancesOfServiceInfo sid iid)
  else
    .error .uncaughtException

/-- The runtime is asked for what the tree does not have. -/
def getPeerInfoByIID (this : P3Mesh) (sid iid : UUID) : Result (Option (Option SAPInfo)) :=
  match this.cellTree.getPeerByIID sid iid with
  | some sapInfo => pure (some sapInfo)
  | none => do
      let info ← this.getInstancesOfService sid iid
      pure (info.map ServiceInstanceInfo.sapInfo)

end P3Mesh

/-- A peer as a reply describes it: without services. -/
def describe (pi : P3PeerInfo) : PeerInfo :=
  (P3PeerInfo.announced pi.type pi.pid pi.fid none pi.meshSAP pi.discoverySAP pi.ftSAP).toPeerInfo

def INT_MAX : Int32 :=
  Int32.maxValue

/-- The class of the replies to a class of queries. -/
def QueryClass.replyClass : QueryClass → ReplyClass
  | findPeerQuery => .findPeerQueryReply
  | findServiceInstanceQuery => .findServiceInstanceQueryReply
  | getSensorsQuery => .getSensorsQueryReply
  | launchServiceSiteQuery => .launchServiceSiteQueryReply
  | p3FindPeerQuery => .p3FindPeerQueryReply
  | peerQuery => .peerQueryReply
  | serviceQuery => .serviceQueryReply

namespace P3GeneralProvider

/-- The branch of a class, with the members that it narrowed. -/
def answer (mesh : P3Mesh) :
    (c : QueryClass) → c.Fields → Result (Option c.replyClass.Fields)
  | .getSensorsQuery, _ =>
      if mesh.isRootFID then
        pure (some (SensorLists.mk mesh.audioSensors mesh.videoSensors mesh.eventSensors
          mesh.actuatorSensors))
      else
        pure none
  | .launchServiceSiteQuery, site =>
      if mesh.isRootFID then do
        let peer ← mesh.cellTree.getPoL none (site.filterPeers ++ [site.requester])
        pure (peer.map fun peer =>
          ServiceSite.mk (some peer.pid) (some peer.fid) peer.meshSAP peer.ftSAP)
      else
        pure none
  | .findPeerQuery, uuid => do
      let pi ← mesh.cellTree.findPeer uuid
      pure (pi.map fun pi => some (describe pi))
  | .p3FindPeerQuery, (treeLevel : Int32) =>
      if treeLevel = INT_MAX then
        pure ((mesh.cellTree.getRandomPeer mesh.randomPeer).map fun pi => some (describe pi))
      else
        let found := mesh.cellTree.getPeerByLevel mesh.randomByLevel treeLevel.toInt
        if found.1 = 0 then do
          let pi ← deref found.2
          pure (some (some (describe pi)))
        else
          pure none
  | .findServiceInstanceQuery, key => do
      let pi ← mesh.getPeerInfoByIID key.sid key.iid
      pure (pi.map fun sapInfo => InstanceSite.mk (some mesh.runtimeUUID) (some mesh.fid) sapInfo)
  -- The provider has no branch for the other classes.
  | .peerQuery, _ => pure none
  | .serviceQuery, _ => pure none

/-- Among the provided events there is one type of a reply. -/
def providedEvents : List UInt32 :=
  [QueryClass.getSensorsQuery.type, QueryClass.launchServiceSiteQuery.type,
    ReplyClass.findPeerQueryReply.type, QueryClass.findServiceInstanceQuery.type,
    QueryClass.p3FindPeerQuery.type, QueryClass.findPeerQuery.type]

/-- The branch that the `switch` takes. -/
def branch (type : UInt32) : Option QueryClass :=
  if type = QueryClass.getSensorsQuery.type then some .getSensorsQuery
  else if type = QueryClass.launchServiceSiteQuery.type then some .launchServiceSiteQuery
  else if type = QueryClass.findPeerQuery.type then some .findPeerQuery
  else if type = QueryClass.p3FindPeerQuery.type then some .p3FindPeerQuery
  else if type = QueryClass.findServiceInstanceQuery.type then some .findServiceInstanceQuery
  else none

/-- How `executeQuery` ends: with a `DiscoveryException`, or with a reply or a null
pointer, after which the query may be deleted. -/
inductive Outcome where
  | thrown
  | returned (reply : Option AnyReply) (deleted : Bool)

/-- The members that a class reads from the octets of a blob. -/
def members (c : QueryClass) (octets : List UInt8) : Result c.Fields := do
  let (fields, _) ← c.specialization.deserializeQuerySpecialization ⟨octets, true⟩
  pure fields

theorem members_of_written {c : QueryClass} {fields : c.Fields} {body : List UInt8}
    (written : c.specialization.serializeQuerySpecialization fields = .ok body)
    (fits : body.length < 2 ^ 32) : members c body = .ok fields := by
  rw [members, (c.faithful fields body written fits).run]
  rfl

/-- The branch of a class for the octets of a blob. -/
def find (mesh : P3Mesh) (c : QueryClass) (octets : List UInt8) :
    Result (Option c.replyClass.Fields) := do
  let fields ← members c octets
  answer mesh c fields

/-- The query is narrowed to the class of its branch, which reads the blob and not
the members that the query may have. -/
def executeQuery (mesh : Option P3Mesh) (query : AnyQuery) : Result Outcome :=
  if query.getProvider ≠ GENERALPROVIDER_TYPE then
    pure .thrown
  else if query.getType ∉ providedEvents then
    pure .thrown
  else
    match mesh with
    | none => pure .thrown
    | some mesh =>
        match branch query.getType with
        | none => pure (.returned none false)
        | some c => do
            let (narrowed, _) ← query.base.narrow c.specialization
            let reply ← answer mesh c narrowed.fields
            pure (.returned (reply.map fun fields =>
              .typed c.replyClass (c.replyClass.new none fields)) true)

/-- The class that the provider takes a query for. -/
def servedClass (provider type : UInt32) : Option QueryClass :=
  if provider = GENERALPROVIDER_TYPE ∧ type ∈ providedEvents then branch type else none

theorem executeQuery_of_served {mesh : P3Mesh} {query : AnyQuery} {c : QueryClass}
    (served : servedClass query.getProvider query.getType = some c) :
    executeQuery (some mesh) query = (do
      let reply ← find mesh c (query.base.querySpecializationBlob.getD [])
      pure (.returned (reply.map fun fields =>
        .typed c.replyClass (c.replyClass.new none fields)) true)) := by
  rw [servedClass] at served
  split at served
  · rename_i registered
    rw [executeQuery, if_neg (not_not_intro registered.1), if_neg (not_not_intro registered.2)]
    simp only [served]
    rw [DiscoveryQuery.narrow, find, members, streamOf]
    cases c.specialization.deserializeQuerySpecialization
      ⟨query.base.querySpecializationBlob.getD [], true⟩ with
    | error fault => rfl
    | ok read => rfl
  · cases served

/-- A query that no branch takes is not deleted and has no reply. -/
theorem executeQuery_of_unserved {mesh : Option P3Mesh} {query : AnyQuery}
    (unserved : mesh = none ∨ servedClass query.getProvider query.getType = none) :
    executeQuery mesh query = .ok .thrown ∨ executeQuery mesh query = .ok (.returned none false) := by
  unfold executeQuery
  by_cases provider : query.getProvider = GENERALPROVIDER_TYPE
  · rw [if_neg (not_not_intro provider)]
    by_cases provided : query.getType ∈ providedEvents
    · rw [if_neg (not_not_intro provided)]
      cases mesh with
      | none => exact Or.inl rfl
      | some mesh =>
          rcases unserved with impossible | noBranch
          · cases impossible
          · rw [servedClass, if_pos ⟨provider, provided⟩] at noBranch
            simp only [noBranch]
            exact Or.inr rfl
    · rw [if_pos provided]
      exact Or.inl rfl
  · rw [if_pos provider]
    exact Or.inl rfl

end P3GeneralProvider

end Stheno.Discovery
