import Stheno.FT.ReplicaParams

/-!
# The packet that initialises a replica

A new replica is told of the group by one packet.  The replicas come in the order in which
they take over, and each is written with its three access points, which must not be null,
behind its identifiers, which must have key data.
-/

namespace Stheno.FT

open Wire Peer Superpeer.Packets
open Stheno.Discovery (readList)

namespace OverlayPeerInfo

/-- The access points are followed without a check. -/
def serialize (this : OverlayPeerInfo) : Result (List Field) := do
  let identifiers ← writeFields [.uuid this.uuid, .uuid this.fid]
  let meshSAP ← dereference .sapInfo this.meshSAP
  let ftSAP ← dereference .sapInfo this.ftSAP
  let ftDataSAP ← dereference .sapInfo this.ftDataSAP
  pure (identifiers ++ (meshSAP ++ (ftSAP ++ ftDataSAP)))

def deserialize : Reader OverlayPeerInfo := do
  let uuid ← UUID.deserialize
  let fid ← UUID.deserialize
  let meshSAP ← SAPInfo.deserialize
  let ftSAP ← SAPInfo.deserialize
  let ftDataSAP ← SAPInfo.deserialize
  pure { uuid, fid, meshSAP := some meshSAP, ftSAP := some ftSAP, ftDataSAP := some ftDataSAP }

/-- The peer has all its access points, and its identifiers have key data. -/
structure Complete (this : OverlayPeerInfo) : Prop where
  uuid : this.uuid.Initialized
  fid : this.fid.Initialized
  meshSAP : this.meshSAP ≠ none
  ftSAP : this.ftSAP ≠ none
  ftDataSAP : this.ftDataSAP ≠ none

variable {this : OverlayPeerInfo} {fields : List Field}

/-- What a peer with these access points writes. -/
def members (uuid fid : UUID) (meshSAP ftSAP ftDataSAP : SAPInfo) : List Field :=
  [.uuid uuid, .uuid fid, .sapInfo meshSAP, .sapInfo ftSAP, .sapInfo ftDataSAP]

theorem serialize_ok : this.serialize = .ok fields ↔
    (this.uuid.Initialized ∧ this.fid.Initialized) ∧ ∃ meshSAP ftSAP ftDataSAP,
      this = ⟨this.uuid, this.fid, some meshSAP, some ftSAP, some ftDataSAP⟩ ∧
      fields = members this.uuid this.fid meshSAP ftSAP ftDataSAP := by
  rcases this with ⟨uuid, fid, meshSAP, ftSAP, ftDataSAP⟩
  have identifiers : (∀ field ∈ [Field.uuid uuid, .uuid fid], field.Initialized) ↔
      uuid.Initialized ∧ fid.Initialized := by
    rw [List.forall_mem_cons, List.forall_mem_singleton]
    exact Iff.rfl
  simp only [serialize, Result.bind_eq_ok, dereference_ok, writeFields_eq_ok, identifiers, mk.injEq,
    true_and]
  constructor
  · rintro ⟨_, ⟨ready, rfl⟩, _, ⟨mesh, rfl, -, rfl⟩, _, ⟨ft, rfl, -, rfl⟩, _, ⟨data, rfl, -, rfl⟩, ⟨⟩⟩
    exact ⟨ready, mesh, ft, data, ⟨rfl, rfl, rfl⟩, rfl⟩
  · rintro ⟨ready, mesh, ft, data, ⟨rfl, rfl, rfl⟩, rfl⟩
    exact ⟨_, ⟨ready, rfl⟩, _, ⟨mesh, rfl, trivial, rfl⟩, _, ⟨ft, rfl, trivial, rfl⟩, _,
      ⟨data, rfl, trivial, rfl⟩, rfl⟩

theorem exists_serialize_iff : (∃ fields, this.serialize = .ok fields) ↔ this.Complete := by
  constructor
  · rintro ⟨fields, written⟩
    rcases serialize_ok.mp written with ⟨⟨uuid, fid⟩, mesh, ft, data, whole, -⟩
    rw [whole]
    exact ⟨uuid, fid, Option.some_ne_none _, Option.some_ne_none _, Option.some_ne_none _⟩
  · rintro ⟨uuid, fid, mesh, ft, data⟩
    rcases Option.ne_none_iff_exists'.mp mesh with ⟨meshSAP, hasMesh⟩
    rcases Option.ne_none_iff_exists'.mp ft with ⟨ftSAP, hasFT⟩
    rcases Option.ne_none_iff_exists'.mp data with ⟨ftDataSAP, hasData⟩
    refine ⟨_, serialize_ok.mpr ⟨⟨uuid, fid⟩, meshSAP, ftSAP, ftDataSAP, ?_, rfl⟩⟩
    rw [← hasMesh, ← hasFT, ← hasData]

theorem bytes_members (uuid fid : UUID) (meshSAP ftSAP ftDataSAP : SAPInfo) :
    bytes (members uuid fid meshSAP ftSAP ftDataSAP) =
      uuid.octets ++ (fid.octets ++
        (meshSAP.serialize ++ (ftSAP.serialize ++ ftDataSAP.serialize))) := by
  rw [← List.append_nil ftDataSAP.serialize]
  rfl

theorem length_pos (written : this.serialize = .ok fields) : 0 < (bytes fields).length := by
  rcases serialize_ok.mp written with ⟨-, mesh, ft, data, -, rfl⟩
  rw [bytes_members, List.length_append, UUID.length_octets]
  omega

theorem reads (written : this.serialize = .ok fields) (fits : (bytes fields).length < 2 ^ 32) :
    Reads deserialize (bytes fields) this := by
  rcases serialize_ok.mp written with ⟨-, mesh, ft, data, whole, rfl⟩
  rw [bytes_members] at fits ⊢
  rw [List.length_append, List.length_append, List.length_append, List.length_append] at fits
  apply (UUID.reads (show this.uuid.octets.length < 2 ^ 32 by omega)).bind
  apply (UUID.reads (show this.fid.octets.length < 2 ^ 32 by omega)).bind
  apply (SAPInfo.reads (show mesh.serialize.length < 2 ^ 32 by omega)).bind
  apply (SAPInfo.reads (show ft.serialize.length < 2 ^ 32 by omega)).bind
  have last := SAPInfo.reads (show data.serialize.length < 2 ^ 32 by omega)
  rw [whole]
  exact last.bind_pure fun data =>
    OverlayPeerInfo.mk this.uuid this.fid (some mesh) (some ft) (some data)

/-! ## The members of the group -/

/-- All members are written where each is. -/
theorem exists_mapM_iff (group : List OverlayPeerInfo) :
    (∃ bodies, group.mapM serialize = .ok bodies) ↔ ∀ peer ∈ group, peer.Complete := by
  induction group with
  | nil => exact iff_of_true ⟨[], rfl⟩ (by rintro peer ⟨⟩)
  | cons peer rest inductionHypothesis =>
      rw [List.forall_mem_cons, ← exists_serialize_iff, ← inductionHypothesis]
      simp only [List.mapM_cons, Result.bind_eq_ok]
      constructor
      · rintro ⟨_, fields, written, bodies, later, ⟨⟩⟩
        exact ⟨⟨fields, written⟩, bodies, later⟩
      · rintro ⟨⟨fields, written⟩, bodies, later⟩
        exact ⟨_, fields, written, bodies, later, rfl⟩

/-- The members are read in the order in which they were written. -/
theorem reads_mapM {group : List OverlayPeerInfo} {bodies : List (List Field)}
    (written : group.mapM serialize = .ok bodies)
    (fits : (bytes bodies.flatten).length < 2 ^ 32) :
    group.length ≤ (bytes bodies.flatten).length ∧
      Reads (readTimes deserialize group.length) (bytes bodies.flatten) group := by
  induction group generalizing bodies with
  | nil =>
      cases written
      exact ⟨Nat.le_refl 0, .pure []⟩
  | cons peer rest inductionHypothesis =>
      rw [List.mapM_cons, Result.bind_eq_ok] at written
      rcases written with ⟨fields, first, written⟩
      rcases Result.bind_eq_ok.mp written with ⟨bodies, later, ⟨⟩⟩
      rw [List.flatten_cons, bytes_append] at fits ⊢
      rw [List.length_append] at fits ⊢
      rcases inductionHypothesis later (by omega) with ⟨shorter, readsRest⟩
      have positive := length_pos first
      constructor
      · rw [List.length_cons]
        omega
      · have readsFirst := reads first (by omega)
        exact readsFirst.bind (readsRest.bind_pure fun rest => peer :: rest)

theorem reads_group {group : List OverlayPeerInfo} {bodies : List (List Field)}
    (written : group.mapM serialize = .ok bodies)
    (fits : (bytes bodies.flatten).length < 2 ^ 32) :
    Reads (readList deserialize)
      (writeULong (UInt32.ofNat group.length) ++ bytes bodies.flatten) group := by
  rcases reads_mapM written fits with ⟨shorter, all⟩
  have bound : group.length < UInt32.size := Nat.lt_of_le_of_lt shorter fits
  rw [← UInt32.toNat_ofNat_of_lt' bound] at all
  exact (reads_uLong _ 0).bind all

end OverlayPeerInfo

/-! ## The packet -/

structure FTInitReplicaPacket where
  uuid : UUID
  fid : UUID
  rgid : UUID
  sid : UUID
  iid : UUID
  params : ServiceParams
  primary : OverlayPeerInfo
  group : List OverlayPeerInfo

namespace FTInitReplicaPacket

def identifiers (this : FTInitReplicaPacket) : List Field :=
  [.uuid this.uuid, .uuid this.fid, .uuid this.rgid, .uuid this.sid, .uuid this.iid]

def serializeBody (this : FTInitReplicaPacket) : Result (List Field) := do
  let identifiers ← writeFields this.identifiers
  let params ← this.params.serialize
  let primary ← this.primary.serialize
  let group ← this.group.mapM OverlayPeerInfo.serialize
  pure (identifiers ++
    (params ++ (primary ++ ([.uLong (UInt32.ofNat this.group.length)] ++ group.flatten))))

def deserializeBody : Reader FTInitReplicaPacket := do
  let uuid ← UUID.deserialize
  let fid ← UUID.deserialize
  let rgid ← UUID.deserialize
  let sid ← UUID.deserialize
  let iid ← UUID.deserialize
  let params ← ServiceParams.deserialize
  let primary ← OverlayPeerInfo.deserialize
  let group ← readList OverlayPeerInfo.deserialize
  pure { uuid, fid, rgid, sid, iid, params, primary, group }

/-- The packet that is read has the same identifiers, equal parameters, the same primary
and the same replicas in the same order. -/
structure Returns (this decoded : FTInitReplicaPacket) : Prop where
  uuid : decoded.uuid = this.uuid
  fid : decoded.fid = this.fid
  rgid : decoded.rgid = this.rgid
  sid : decoded.sid = this.sid
  iid : decoded.iid = this.iid
  params : this.params.Equals decoded.params
  primary : decoded.primary = this.primary
  group : decoded.group = this.group

/-- The body is written to a stream, exactly what was written is read, and the packet
comes back. -/
def RoundTrips (out : ByteOutputStream) (this : FTInitReplicaPacket) : Prop :=
  RoundTrip out this.serializeBody deserializeBody this.Returns

/-- A 32-bit size can count the octets of the body, if there is one. -/
def Fits (this : FTInitReplicaPacket) : Prop :=
  ∀ body, this.serializeBody = .ok body → (bytes body).length < 2 ^ 32

/-- Every peer has its access points, the parameters of a class their QoS, and every identifier
has key data. -/
structure Complete (this : FTInitReplicaPacket) : Prop where
  identifiers : ∀ field ∈ this.identifiers, field.Initialized
  sid : this.params.sid.Initialized
  primary : this.primary.Complete
  group : ∀ peer ∈ this.group, peer.Complete
  params : this.params.specialization.Complete

variable {this : FTInitReplicaPacket} {body : List Field}

theorem serializeBody_ok : this.serializeBody = .ok body ↔
    (∀ field ∈ this.identifiers, field.Initialized) ∧
      ∃ params primary group, this.params.serialize = .ok params ∧
        this.primary.serialize = .ok primary ∧
        this.group.mapM OverlayPeerInfo.serialize = .ok group ∧
        body = this.identifiers ++
          (params ++ (primary ++ ([.uLong (UInt32.ofNat this.group.length)] ++ group.flatten))) := by
  simp only [serializeBody, Result.bind_eq_ok, writeFields_eq_ok]
  constructor
  · rintro ⟨_, ⟨ready, rfl⟩, params, ofParams, primary, ofPrimary, group, ofGroup, ⟨⟩⟩
    exact ⟨ready, params, primary, group, ofParams, ofPrimary, ofGroup, rfl⟩
  · rintro ⟨ready, params, primary, group, ofParams, ofPrimary, ofGroup, rfl⟩
    exact ⟨_, ⟨ready, rfl⟩, params, ofParams, primary, ofPrimary, group, ofGroup, rfl⟩

theorem exists_serializeBody_iff : (∃ body, this.serializeBody = .ok body) ↔ this.Complete := by
  constructor
  · rintro ⟨body, written⟩
    rcases serializeBody_ok.mp written with
      ⟨ready, params, primary, group, ofParams, ofPrimary, ofGroup, -⟩
    rcases ServiceParams.exists_serialize_iff.mp ⟨params, ofParams⟩ with ⟨sid, complete⟩
    constructor
    · exact ready
    · exact sid
    · exact OverlayPeerInfo.exists_serialize_iff.mp ⟨primary, ofPrimary⟩
    · exact (OverlayPeerInfo.exists_mapM_iff this.group).mp ⟨group, ofGroup⟩
    · exact complete
  · rintro ⟨ready, sid, primary, group, params⟩
    rcases OverlayPeerInfo.exists_serialize_iff.mpr primary with ⟨_, ofPrimary⟩
    rcases (OverlayPeerInfo.exists_mapM_iff this.group).mpr group with ⟨_, ofGroup⟩
    rcases ServiceParams.exists_serialize_iff.mpr ⟨sid, params⟩ with ⟨_, ofParams⟩
    exact ⟨_, serializeBody_ok.mpr ⟨ready, _, _, _, ofParams, ofPrimary, ofGroup, rfl⟩⟩

/-- The packet as it is read back. -/
def copy (this : FTInitReplicaPacket) : FTInitReplicaPacket :=
  { this with params := this.params.copy }

theorem bytes_identifiers (this : FTInitReplicaPacket) :
    bytes this.identifiers = this.uuid.octets ++ (this.fid.octets ++
      (this.rgid.octets ++ (this.sid.octets ++ this.iid.octets))) := by
  rw [← List.append_nil this.iid.octets]
  rfl

/-- What is written is read, one field after the other. -/
theorem reads (written : this.serializeBody = .ok body) (fits : (bytes body).length < 2 ^ 32) :
    Reads deserializeBody (bytes body) this.copy := by
  rcases serializeBody_ok.mp written with
    ⟨-, params, primary, group, ofParams, ofPrimary, ofGroup, rfl⟩
  have count : bytes [.uLong (UInt32.ofNat this.group.length)] =
      writeULong (UInt32.ofNat this.group.length) := bytes_singleton _
  rw [bytes_append, bytes_append, bytes_append, bytes_append, bytes_identifiers, count] at fits ⊢
  simp only [List.length_append] at fits
  simp only [List.append_assoc]
  apply (UUID.reads (show this.uuid.octets.length < 2 ^ 32 by omega)).bind
  apply (UUID.reads (show this.fid.octets.length < 2 ^ 32 by omega)).bind
  apply (UUID.reads (show this.rgid.octets.length < 2 ^ 32 by omega)).bind
  apply (UUID.reads (show this.sid.octets.length < 2 ^ 32 by omega)).bind
  apply (UUID.reads (show this.iid.octets.length < 2 ^ 32 by omega)).bind
  apply (ServiceParams.reads ofParams (by omega)).bind
  apply (OverlayPeerInfo.reads ofPrimary (by omega)).bind
  have last := OverlayPeerInfo.reads_group ofGroup (by omega)
  exact last.bind_pure fun group => FTInitReplicaPacket.mk this.uuid this.fid this.rgid this.sid
    this.iid this.params.copy this.primary group

theorem returns_copy (written : this.serializeBody = .ok body)
    (fits : (bytes body).length < 2 ^ 32) : this.Returns this.copy := by
  rcases serializeBody_ok.mp written with ⟨-, params, primary, group, ofParams, -, -, rfl⟩
  rw [bytes_append, bytes_append, List.length_append, List.length_append] at fits
  exact
    { uuid := rfl
      fid := rfl
      rgid := rfl
      sid := rfl
      iid := rfl
      params := ServiceParams.equals_copy ofParams (by omega)
      primary := rfl
      group := rfl }

/-- A packet comes back exactly where every peer has its access points, a class of parameters
its QoS and every identifier key data. -/
theorem comesBack_iff (out : ByteOutputStream) (this : FTInitReplicaPacket) (fits : this.Fits) :
    this.RoundTrips out ↔ this.Complete := by
  rw [RoundTrips, roundTrip_iff fits fun body written => reads written (fits body written),
    ← exists_serializeBody_iff]
  apply and_iff_left_of_imp
  rintro ⟨body, written⟩
  exact returns_copy written (fits body written)

/-- A peer whose data channel has the given access point. -/
def member (key : UInt8) (ftDataSAP : Option SAPInfo) : OverlayPeerInfo where
  uuid := ⟨[key]⟩
  fid := ⟨[0]⟩
  meshSAP := some .empty
  ftSAP := some .empty
  ftDataSAP := ftDataSAP

/-- The packet of a group with two replicas, for a stream. -/
def initial (ftDataSAP : Option SAPInfo) : FTInitReplicaPacket where
  uuid := ⟨[1]⟩
  fid := ⟨[0]⟩
  rgid := ⟨[3]⟩
  sid := ⟨[4]⟩
  iid := ⟨[3]⟩
  params :=
    { sid := ⟨[4]⟩
      ftParams := some ⟨2, 1⟩
      specialization := .stream
        { sensorUUID := ⟨[5]⟩
          endpoint := ⟨1, .empty, 7, ⟨0, 0⟩⟩
          qos := some ⟨25, 1024⟩ } }
  primary := member 1 (some .empty)
  group := [member 2 ftDataSAP, member 6 (some .empty)]

set_option maxRecDepth 2000 in
theorem comesBack_initial :
    (initial (some .empty)).RoundTrips (.start .ace 520) := by
  apply (comesBack_iff (.start .ace 520) (initial (some .empty)) ?fits).mpr
  · have complete : ∀ key, (member key (some .empty)).Complete := fun key =>
      ⟨List.cons_ne_nil _ _, List.cons_ne_nil _ _, Option.some_ne_none _, Option.some_ne_none _,
        Option.some_ne_none _⟩
    constructor
    · decide
    · decide
    · exact complete 1
    · intro peer inGroup
      rcases List.mem_cons.mp inGroup with rfl | last
      · exact complete 2
      · rw [List.mem_singleton.mp last]
        exact complete 6
    · exact ⟨List.cons_ne_nil _ _, Option.some_ne_none _⟩
  · rintro body ⟨⟩
    decide

/-- A replica whose access point for data is not known yet cannot be written. -/
theorem comesBack_fails_without_dataSAP :
    (initial none).Fits ∧ (initial none).serializeBody = .error .nullDereference ∧
      ¬(initial none).RoundTrips (.start .ace 520) := by
  refine ⟨?_, rfl, ?_⟩
  · rintro body ⟨⟩
  · rintro ⟨body, encoded, packet, ⟨⟩, -⟩

end FTInitReplicaPacket

end Stheno.FT
