import Stheno.Discovery.Classes

/-!
# Relayed queries and replies

A relay decodes the plain object and writes it again.  A query whose body fits its
size field passes any number of relays unchanged and is narrowed to what was sent.
A reply passes them as well, but narrowing forgets its provider and its exception.
-/

namespace Stheno.Discovery

open Wire Peer

/-- Relays in a row. -/
def relays (relay : List UInt8 → Result (List UInt8)) : Nat → List UInt8 → Result (List UInt8)
  | 0, packet => pure packet
  | hops + 1, packet => do
      let next ← relay packet
      relays relay hops next

theorem relays_of_fixed {relay : List UInt8 → Result (List UInt8)} {packet : List UInt8}
    (fixed : relay packet = .ok packet) (hops : Nat) :
    relays relay hops packet = .ok packet := by
  induction hops with
  | zero => rfl
  | succ hops inductionHypothesis =>
      rw [relays, fixed]
      exact inductionHypothesis

/-! ## Queries -/

namespace DiscoveryQuery

/-- What a relay sends for a packet. -/
def relay (packet : List UInt8) : Result (List UInt8) := do
  let (query, _) ← deserialize ⟨packet, true⟩
  query.serialize plain

/-- The packet of a query. -/
def packet (provider type : UInt32) (body : List UInt8) : List UInt8 :=
  writeULong provider ++ (writeULong type ++ writeSized body)

theorem packet_injective {provider type : UInt32} {body other : List UInt8}
    (same : packet provider type body = packet provider type other) : body = other := by
  have sized : writeSized body = writeSized other := by
    apply List.append_cancel_left
    exact List.append_cancel_left same
  exact writeSized_injective sized

theorem reads (provider type : UInt32) {body : List UInt8} (fits : body.length < 2 ^ 32) :
    Reads deserialize (packet provider type body) ⟨provider, type, blobOf body, ()⟩ := by
  apply (reads_uLong provider 0).bind
  apply (reads_uLong type 0).bind
  exact (reads_blob fits).bind_pure fun blob => DiscoveryQuery.mk provider type blob ()

theorem serialize_blobOf (provider type : UInt32) (body : List UInt8) :
    serialize plain ⟨provider, type, blobOf body, ()⟩ = .ok (packet provider type body) := by
  rw [packet, ← List.append_assoc]
  by_cases empty : body = []
  · rw [empty]
    rfl
  · rw [blobOf, if_neg empty]
    rfl

/-- The receiver of a packet reads as much of the body as its size field says. -/
theorem deserialize_packet (provider type : UInt32) (body : List UInt8) :
    ∃ rest, deserialize ⟨packet provider type body, true⟩ =
      .ok (⟨provider, type, blobOf (cut body), ()⟩, rest) := by
  have split : packet provider type body =
      packet provider type (cut body) ++ body.drop (body.length % 2 ^ 32) := by
    rw [packet, writeSized_eq, packet, List.append_assoc, List.append_assoc]
  rw [split, reads provider type (length_cut_lt body)]
  exact ⟨_, rfl⟩

theorem relay_packet (provider type : UInt32) (body : List UInt8) :
    relay (packet provider type body) = .ok (packet provider type (cut body)) := by
  rcases deserialize_packet provider type body with ⟨rest, decoded⟩
  rw [relay, decoded]
  exact serialize_blobOf _ _ _

theorem relay_packet_iff {provider type : UInt32} {body : List UInt8} :
    relay (packet provider type body) = .ok (packet provider type body) ↔
      body.length < 2 ^ 32 := by
  rw [relay_packet, ← cut_eq_iff]
  constructor
  · intro same
    exact packet_injective (Except.ok.inj same)
  · intro whole
    rw [whole]

theorem serialize_new {c : QueryClass} {fields : c.Fields} {body : List UInt8}
    (written : c.specialization.serializeQuerySpecialization fields = .ok body) :
    (c.new fields).serialize c.specialization = .ok (packet c.provider c.type body) := by
  rw [packet, ← List.append_assoc]
  change (c.specialization.serializeQuerySpecialization fields >>= fun octets =>
    pure (_ ++ writeSized octets)) = _
  rw [written]
  rfl

/-- The narrowed query is the one that was written, read without a byte too few or
too many. -/
theorem narrow_blobOf {c : QueryClass} {fields : c.Fields} {body : List UInt8}
    (written : c.specialization.serializeQuerySpecialization fields = .ok body)
    (fits : body.length < 2 ^ 32) :
    narrow c.specialization ⟨c.provider, c.type, blobOf body, ()⟩ =
      .ok (c.new fields, ⟨[], true⟩) := by
  have members := (c.faithful fields body written fits).run
  rw [narrow, streamOf, getD_blobOf, members]
  rfl

end DiscoveryQuery

namespace QueryClass

/-- Relays do not change the packet of a query, and the class built from the plain
query at its end is the query that was sent. -/
def Transparent (this : QueryClass) (fields : this.Fields) : Prop :=
  ∃ packet, (this.new fields).serialize this.specialization = .ok packet ∧
    (∀ hops, relays DiscoveryQuery.relay hops packet = .ok packet) ∧
    ∃ query rest stream, DiscoveryQuery.deserialize ⟨packet, true⟩ = .ok (query, rest) ∧
      query.narrow this.specialization = .ok (this.new fields, stream) ∧
      (query.querySpecializationBlob = none → stream.goodBit = true)

/-- The octets of an identifier behind its length. -/
def uuidOctets (uuid : UUID) : Nat :=
  4 + uuid.key.length

/-- The octets of the members of a query. -/
def octets : (this : QueryClass) → this.Fields → Nat
  | findPeerQuery, uuid => uuidOctets uuid
  | findServiceInstanceQuery, key => uuidOctets key.sid + uuidOctets key.iid
  | getSensorsQuery, _ => 0
  | launchServiceSiteQuery, site =>
      uuidOctets site.sid + (uuidOctets site.requester + (4 + (site.filterPeers.map uuidOctets).sum))
  | p3FindPeerQuery, _ => 4
  | peerQuery, uuid => uuidOctets uuid
  | serviceQuery, sid => uuidOctets sid

theorem length_identifiers (uuids : List UUID) :
    (uuids.flatMap UUID.octets).length = (uuids.map uuidOctets).sum := by
  rw [List.length_flatMap]
  congr 1
  exact List.map_congr_left fun uuid _ => uuid.length_octets

/-- The identifiers among the members of a query have key data. -/
def Initialized : (this : QueryClass) → this.Fields → Prop
  | findPeerQuery, uuid => UUID.Initialized uuid
  | findServiceInstanceQuery, key =>
      UUID.Initialized (ServiceInstanceKey.sid key) ∧ UUID.Initialized (ServiceInstanceKey.iid key)
  | getSensorsQuery, _ => True
  | launchServiceSiteQuery, site =>
      UUID.Initialized (LaunchSite.sid site) ∧ UUID.Initialized (LaunchSite.requester site) ∧
        ∀ uuid ∈ LaunchSite.filterPeers site, UUID.Initialized uuid
  | p3FindPeerQuery, _ => True
  | peerQuery, uuid => UUID.Initialized uuid
  | serviceQuery, sid => UUID.Initialized sid

/-- Only a query whose identifiers have key data is written. -/
theorem initialized_of_written {this : QueryClass} {fields : this.Fields} {body : List UInt8}
    (written : this.specialization.serializeQuerySpecialization fields = .ok body) :
    this.Initialized fields := by
  cases this with
  | findPeerQuery => exact ((UUID.serialize_eq_ok fields body).mp written).1
  | findServiceInstanceQuery => exact (findServiceInstanceQuery_ok.mp written).1
  | getSensorsQuery => trivial
  | launchServiceSiteQuery => exact (launchServiceSiteQuery_ok.mp written).1
  | p3FindPeerQuery => trivial
  | peerQuery => exact ((UUID.serialize_eq_ok fields body).mp written).1
  | serviceQuery => exact ((UUID.serialize_eq_ok fields body).mp written).1

/-- Such a query is written, and takes the octets of its members. -/
theorem exists_body {this : QueryClass} {fields : this.Fields} (ready : this.Initialized fields) :
    ∃ body, this.specialization.serializeQuerySpecialization fields = .ok body ∧
      body.length = this.octets fields := by
  cases this with
  | findPeerQuery =>
      exact ⟨_, (UUID.serialize_eq_ok fields _).mpr ⟨ready, rfl⟩, UUID.length_octets fields⟩
  | findServiceInstanceQuery =>
      refine ⟨_, findServiceInstanceQuery_ok.mpr ⟨ready, rfl⟩, ?_⟩
      rw [List.length_append, UUID.length_octets, UUID.length_octets]
      rfl
  | getSensorsQuery => exact ⟨_, rfl, rfl⟩
  | launchServiceSiteQuery =>
      refine ⟨_, launchServiceSiteQuery_ok.mpr ⟨ready, rfl⟩, ?_⟩
      rw [List.length_append, List.length_append, writeCounted, List.length_append,
        UUID.length_octets, UUID.length_octets, length_identifiers, writeLong, length_toSignedLE]
      rfl
  | p3FindPeerQuery => exact ⟨_, rfl, length_toSignedLE 4 _⟩
  | peerQuery =>
      exact ⟨_, (UUID.serialize_eq_ok fields _).mpr ⟨ready, rfl⟩, UUID.length_octets fields⟩
  | serviceQuery =>
      exact ⟨_, (UUID.serialize_eq_ok fields _).mpr ⟨ready, rfl⟩, UUID.length_octets fields⟩

theorem transparent_of_fits {this : QueryClass} {fields : this.Fields}
    (ready : this.Initialized fields) (fits : this.octets fields < 2 ^ 32) :
    this.Transparent fields := by
  rcases exists_body ready with ⟨body, written, length⟩
  rw [← length] at fits
  refine ⟨_, DiscoveryQuery.serialize_new written, ?_, ?_⟩
  · exact relays_of_fixed (DiscoveryQuery.relay_packet_iff.mpr fits)
  · refine ⟨_, _, _, (DiscoveryQuery.reads _ _ fits).run, DiscoveryQuery.narrow_blobOf written fits, ?_⟩
    intro _
    rfl

theorem fits_of_transparent {this : QueryClass} {fields : this.Fields}
    (transparent : this.Transparent fields) :
    this.Initialized fields ∧ this.octets fields < 2 ^ 32 := by
  rcases transparent with ⟨packet, sent, same, -⟩
  rcases Result.bind_eq_ok.mp sent with ⟨_, held, -⟩
  have ready : this.Initialized fields := initialized_of_written held
  rcases exists_body ready with ⟨body, written, length⟩
  rw [DiscoveryQuery.serialize_new written] at sent
  cases sent
  have once := same 1
  have relayed : DiscoveryQuery.relay (DiscoveryQuery.packet this.provider this.type body) =
      .ok (DiscoveryQuery.packet this.provider this.type body) := by
    rw [relays, DiscoveryQuery.relay_packet] at once
    rw [DiscoveryQuery.relay_packet]
    exact once
  rw [← length]
  exact ⟨ready, DiscoveryQuery.relay_packet_iff.mp relayed⟩

end QueryClass

/-! ## Replies -/

namespace DiscoveryQueryReply

variable {Fields : Type}

/-- What a relay sends for a packet. -/
def relay (packet : List UInt8) : Result (List UInt8) := do
  let (reply, _) ← deserialize ⟨packet, true⟩
  reply.serializePlain

/-- The packet of a reply without an exception. -/
def packet (provider type : UInt32) (body : List UInt8) : List UInt8 :=
  writeULong provider ++ (writeULong type ++ (writeBoolean false ++ writeSized body))

theorem packet_injective {provider type : UInt32} {body other : List UInt8}
    (same : packet provider type body = packet provider type other) : body = other := by
  have sized : writeSized body = writeSized other := by
    apply List.append_cancel_left
    apply List.append_cancel_left
    exact List.append_cancel_left same
  exact writeSized_injective sized

/-- The packet of a reply with an exception, whichever it is. -/
def exceptionPacket (provider type : UInt32) : List UInt8 :=
  writeULong provider ++ (writeULong type ++
    (writeBoolean true ++ DiscoveryException.noReplyAvailable.serialize))

theorem reads (provider type : UInt32) {body : List UInt8} (fits : body.length < 2 ^ 32) :
    Reads deserialize (packet provider type body)
      ⟨provider, type, blobOf body, none, ()⟩ := by
  apply (reads_uLong provider 0).bind
  apply (reads_uLong type 0).bind
  apply (reads_boolean false).bind
  exact (reads_blob fits).bind_pure
    fun blob => DiscoveryQueryReply.mk provider type blob none ()

theorem reads_exception (provider type : UInt32) :
    Reads deserialize (exceptionPacket provider type)
      ⟨provider, type, none, some ⟨""⟩, ()⟩ := by
  apply (reads_uLong provider 0).bind
  apply (reads_uLong type 0).bind
  apply (reads_boolean true).bind
  exact DiscoveryException.noReplyAvailable.reads.bind_pure
    fun ex => DiscoveryQueryReply.mk provider type none (some ex) ()

/-- The receiver of a packet reads as much of the body as its size field says. -/
theorem deserialize_packet (provider type : UInt32) (body : List UInt8) :
    ∃ rest, deserialize ⟨packet provider type body, true⟩ =
      .ok (⟨provider, type, blobOf (cut body), none, ()⟩, rest) := by
  have split : packet provider type body =
      packet provider type (cut body) ++ body.drop (body.length % 2 ^ 32) := by
    rw [packet, writeSized_eq, packet, List.append_assoc, List.append_assoc, List.append_assoc]
  rw [split, reads provider type (length_cut_lt body)]
  exact ⟨_, rfl⟩

theorem serializePlain_blobOf (provider type : UInt32) (body : List UInt8) :
    serializePlain ⟨provider, type, blobOf body, none, ()⟩ = .ok (packet provider type body) := by
  rw [serializePlain, getD_blobOf, packet, ← List.append_assoc]
  rfl

theorem relay_packet {provider type : UInt32} {body : List UInt8} (fits : body.length < 2 ^ 32) :
    relay (packet provider type body) = .ok (packet provider type body) := by
  rw [relay, (reads provider type fits).run]
  exact serializePlain_blobOf provider type body

theorem relay_exceptionPacket (provider type : UInt32) :
    relay (exceptionPacket provider type) = .ok (exceptionPacket provider type) := by
  rw [relay, (reads_exception provider type).run]
  rfl

/-- Narrowing leaves the provider to the memory and never keeps an exception. -/
theorem narrow_base {specialization : Specialization Fields} {memory : UInt32}
    {query : DiscoveryQueryReply Unit} {reply : DiscoveryQueryReply Fields} {stream : InputStream}
    (narrowed : query.narrow specialization memory = .ok (reply, stream)) :
    reply.provider = memory ∧ reply.type = query.type ∧ reply.ex = none := by
  rw [narrow] at narrowed
  rcases Result.bind_eq_ok.mp narrowed with ⟨read, -, equal⟩
  cases equal
  exact ⟨rfl, rfl, rfl⟩

/-- A reply with an exception has no blob, and its members are read all the same. -/
theorem narrow_exception (specialization : Specialization Fields) (memory : UInt32)
    {query : DiscoveryQueryReply Unit} {ex : DiscoveryException} (raised : query.ex = some ex) :
    query.narrow specialization memory = (do
      let (fields, stream) ← specialization.deserializeQuerySpecialization ⟨[], true⟩
      pure (⟨memory, query.type, none, none, fields⟩, stream)) := by
  have blob : (ofReply memory query).querySpecializationBlob = none := by
    rw [ofReply, raised]
    rfl
  rw [narrow]
  simp only [blob]
  rfl

end DiscoveryQueryReply

namespace ReplyClass

/-- Relays do not change the packet of a reply, and the class built from the plain
reply at its end is the reply that was sent, whatever the memory held before. -/
def Transparent (this : ReplyClass) (ex : Option DiscoveryException) (fields : this.Fields) :
    Prop :=
  ∃ packet, (this.new ex fields).serialize this.specialization = .ok packet ∧
    (∀ hops, relays DiscoveryQueryReply.relay hops packet = .ok packet) ∧
    ∃ query rest, DiscoveryQueryReply.deserialize ⟨packet, true⟩ = .ok (query, rest) ∧
      ∀ memory, ∃ stream,
        query.narrow this.specialization memory = .ok (this.new ex fields, stream) ∧
        (query.querySpecializationBlob = none → stream.goodBit = true)

theorem not_transparent (this : ReplyClass) (ex : Option DiscoveryException)
    (fields : this.Fields) : ¬ this.Transparent ex fields := by
  rintro ⟨packet, -, -, query, rest, -, every⟩
  rcases every (this.provider + 1) with ⟨stream, narrowed, -⟩
  have provider : this.provider = this.provider + 1 :=
    (DiscoveryQueryReply.narrow_base narrowed).1
  exact absurd provider.symm (by simp)

/-- A reply with an exception is relayed unchanged, without its message. -/
theorem relays_exception (this : ReplyClass) (ex : DiscoveryException) (fields : this.Fields)
    (hops : Nat) :
    ∃ packet, (this.new (some ex) fields).serialize this.specialization = .ok packet ∧
      relays DiscoveryQueryReply.relay hops packet = .ok packet :=
  ⟨_, rfl, relays_of_fixed (DiscoveryQueryReply.relay_exceptionPacket _ _) hops⟩

/-- A reply whose body fits is relayed unchanged and, for every class but one,
narrowed to what was sent except for its provider. -/
theorem relays_narrow {this : ReplyClass} {fields : this.Fields} {body : List UInt8}
    (written : this.specialization.serializeQuerySpecialization fields = .ok body)
    (fits : body.length < 2 ^ 32) (other : this ≠ findServiceInstanceQueryReply)
    (hops : Nat) (memory : UInt32) :
    ∃ packet query, (this.new none fields).serialize this.specialization = .ok packet ∧
      relays DiscoveryQueryReply.relay hops packet = .ok packet ∧
      DiscoveryQueryReply.deserialize ⟨packet, true⟩ = .ok (query, ⟨[], true⟩) ∧
      query.narrow this.specialization memory =
        .ok ({ this.new none fields with provider := memory }, ⟨[], true⟩) := by
  have sent : (this.new none fields).serialize this.specialization =
      .ok (DiscoveryQueryReply.packet this.provider this.type body) := by
    rw [DiscoveryQueryReply.serialize, DiscoveryQueryReply.serializeBody, ReplyClass.new]
    simp only
    rw [written]
    rfl
  have members := (ReplyClass.faithful other fields body written fits).run
  refine ⟨_, _, sent, relays_of_fixed (DiscoveryQueryReply.relay_packet fits) hops,
    (DiscoveryQueryReply.reads _ _ fits).run, ?_⟩
  have blob : streamOf (DiscoveryQueryReply.ofReply memory
      ⟨this.provider, this.type, blobOf body, none, ()⟩).querySpecializationBlob = ⟨body, true⟩ := by
    rw [DiscoveryQueryReply.ofReply, streamOf]
    simp
  rw [DiscoveryQueryReply.narrow]
  simp only [blob, members]
  rfl

end ReplyClass

/-! ## All classes -/

/-- A query or a reply of one of the classes. -/
inductive DiscoveryObject where
  | query (c : QueryClass) (fields : c.Fields)
  | reply (c : ReplyClass) (ex : Option DiscoveryException) (fields : c.Fields)

namespace DiscoveryObject

def Transparent : DiscoveryObject → Prop
  | query c fields => c.Transparent fields
  | reply c ex fields => c.Transparent ex fields

/-- A query that can be written, whose members take fewer than `2 ^ 32` octets. -/
def FitsQuery : DiscoveryObject → Prop
  | query c fields => c.Initialized fields ∧ c.octets fields < 2 ^ 32
  | reply _ _ _ => False

/-- The codec is transparent for the queries that fit, and for no reply. -/
theorem transparent_iff (object : DiscoveryObject) : object.Transparent ↔ object.FitsQuery := by
  cases object with
  | query c fields =>
      exact ⟨QueryClass.fits_of_transparent, fun fits => QueryClass.transparent_of_fits fits.1 fits.2⟩
  | reply c ex fields => exact ⟨c.not_transparent ex fields, False.elim⟩

/-- The reply that says that nothing was found.  Behind a relay it is narrowed to a
reply without an exception, whose members were read from no blob. -/
theorem exception_lost :
    (¬ (reply .launchServiceSiteQueryReply (some .noReplyAvailable)
      ⟨none, none, none, none⟩).Transparent) ∧
    DiscoveryQueryReply.narrow LaunchServiceSiteQueryReply 0
        ⟨GENERALPROVIDER_TYPE, 0x01123AF, none, some ⟨""⟩, ()⟩ =
      .ok (⟨0, 0x01123AF, none, none, ⟨some ⟨[]⟩, some ⟨[]⟩, some .empty, some .empty⟩⟩,
        ⟨[], false⟩) := by
  constructor
  · exact ReplyClass.not_transparent _ _ _
  · rfl

end DiscoveryObject

end Stheno.Discovery
