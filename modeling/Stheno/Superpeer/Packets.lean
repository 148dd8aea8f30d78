import Stheno.Peer.Fields

/-!
# The bodies of the cell packets

The three packets that carry addresses of peers: their members, what their
constructors keep, and what `serializeBody` writes and `deserializeBody` reads.  A
member that is written without a flag is dereferenced, so it must not be null, and
an identifier that is written must have key data.
-/

namespace Stheno.Superpeer.Packets

open Peer Wire

/-! ## Members of a body -/

/-- The fields for a pointer that a flag announces. -/
def optional {α : Type} (field : α → Field) : Option α → List Field
  | some a => [.boolean true, field a]
  | none => [.boolean false]

/-- The field for a pointer that is followed without a check; an identifier without key data
throws. -/
def dereference {α : Type} (field : α → Field) : Option α → Result (List Field)
  | some a => writeFields [field a]
  | none => .error .nullDereference

/-- The bytes of a list of fields. -/
def bytes (body : List Field) : List UInt8 :=
  body.flatMap Field.octets

theorem bytes_append (first second : List Field) :
    bytes (first ++ second) = bytes first ++ bytes second :=
  List.flatMap_append

theorem bytes_optional {α : Type} {field : α → Field} {write : α → List UInt8}
    (written : ∀ a, (field a).octets = write a) (value : Option α) :
    bytes (optional field value) = writeOptional write value := by
  cases value with
  | none => rfl
  | some a =>
      rw [optional, bytes, List.flatMap_cons, List.flatMap_singleton, written]
      rfl

theorem bytes_singleton (field : Field) : bytes [field] = field.octets :=
  List.flatMap_singleton _ field

theorem reads_optionalUUID {uuid : Option UUID} (fits : (bytes (optional .uuid uuid)).length < 2 ^ 32) :
    Reads (readOptional UUID.deserialize) (bytes (optional .uuid uuid)) uuid := by
  have encoded : bytes (optional .uuid uuid) = writeOptional UUID.octets uuid :=
    bytes_optional (fun _ => rfl) uuid
  rw [encoded] at fits ⊢
  apply reads_optional
  rintro key rfl
  exact UUID.reads (Nat.lt_of_le_of_lt length_writeOptional_le fits)

theorem reads_optionalEndpoint (endpoint : Option Endpoint) :
    Reads (readOptional Endpoint.deserialize) (bytes (optional .endpoint endpoint)) endpoint := by
  have encoded : bytes (optional .endpoint endpoint) = writeOptional Endpoint.serialize endpoint :=
    bytes_optional (fun _ => rfl) endpoint
  rw [encoded]
  exact reads_optional fun e _ => e.reads

theorem reads_optionalSAP {sap : Option SAPInfo}
    (fits : (bytes (optional .sapInfo sap)).length < 2 ^ 32) :
    Reads (readOptional SAPInfo.deserialize) (bytes (optional .sapInfo sap)) sap := by
  have encoded : bytes (optional .sapInfo sap) = writeOptional SAPInfo.serialize sap :=
    bytes_optional (fun _ => rfl) sap
  rw [encoded] at fits ⊢
  exact ServiceInstanceInfo.reads_optionalSAP fits

/-- The state of a rebind behind its length, as 32 bits. -/
def stateFields (state : List MessageBlock) : List Field :=
  [.uLong (UInt32.ofNat (MessageBlock.totalLength state)), .octetArrayMb state]

/-- A new block filled with the octets that are read. -/
def blockOf (octets : List UInt8) : List MessageBlock :=
  [{ data := octets, space := 0, size := octets.length, dontDelete := false, fits := by simp }]

/-- The state is read into one new block. -/
def readState : Reader (List MessageBlock) := do
  let count ← readULong 0
  let octets ← readOctetArray count.toNat
  pure (blockOf octets)

theorem octets_blockOf (octets : List UInt8) : MessageBlock.octets (blockOf octets) = octets :=
  List.flatMap_singleton _ _

/-- The copy of a state has its octets, in one block. -/
theorem reads_state {state : List MessageBlock} (fits : (bytes (stateFields state)).length < 2 ^ 32) :
    Reads readState (bytes (stateFields state)) (blockOf (MessageBlock.octets state)) := by
  have encoded : bytes (stateFields state) =
      writeULong (UInt32.ofNat (MessageBlock.octets state).length) ++ MessageBlock.octets state := by
    rw [stateFields, bytes, List.flatMap_cons, List.flatMap_singleton, MessageBlock.length_octets]
    rfl
  rw [encoded] at fits ⊢
  rw [List.length_append] at fits
  have bound : (MessageBlock.octets state).length < UInt32.size := by
    change (MessageBlock.octets state).length < 2 ^ 32
    omega
  have octets := (reads_octetArray (MessageBlock.octets state)).bind_pure blockOf
  rw [← UInt32.toNat_ofNat_of_lt' bound] at octets
  exact (reads_uLong _ 0).bind octets

/-- A state that is there follows its flag. -/
def optionalState : Option (List MessageBlock) → List Field
  | some state => .boolean true :: stateFields state
  | none => [.boolean false]

/-- The state read for a state: nothing for none, else its octets in one block. -/
theorem reads_optionalState {state : Option (List MessageBlock)}
    (fits : (bytes (optionalState state)).length < 2 ^ 32) :
    Reads (readOptional readState) (bytes (optionalState state))
      (state.map fun mb => blockOf (MessageBlock.octets mb)) := by
  cases state with
  | none =>
      have whole : Reads (readOptional readState) (writeBoolean false ++ []) none :=
        (reads_boolean false).bind (Reads.pure none)
      exact whole
  | some mb =>
      have encoded : bytes (optionalState (some mb)) = writeBoolean true ++ bytes (stateFields mb) :=
        List.flatMap_cons
      rw [encoded] at fits ⊢
      rw [List.length_append] at fits
      exact (reads_boolean true).bind ((reads_state (by omega)).bind_pure some)

theorem dereference_ok {α : Type} {field : α → Field} {value : Option α} {body : List Field} :
    dereference field value = .ok body ↔
      ∃ a, value = some a ∧ (field a).Initialized ∧ body = [field a] := by
  cases value with
  | none =>
      constructor
      · rintro ⟨⟩
      · rintro ⟨a, impossible, -⟩
        cases impossible
  | some a =>
      rw [dereference, writeFields_eq_ok, List.forall_mem_singleton]
      constructor
      · rintro ⟨ready, rfl⟩
        exact ⟨a, rfl, ready, rfl⟩
      · rintro ⟨b, equal, ready, rfl⟩
        cases equal
        exact ⟨ready, rfl⟩

/-- The identifier that is given, if there is one, has key data. -/
def Keyed (uuid : Option UUID) : Prop :=
  ∀ key ∈ uuid, key.Initialized

instance (uuid : Option UUID) : Decidable (Keyed uuid) :=
  match uuid with
  | none => .isTrue (by simp [Keyed])
  | some key => decidable_of_iff key.Initialized (by simp [Keyed])

theorem keyed_some {key : UUID} : Keyed (some key) ↔ key.Initialized := by
  simp [Keyed]

/-- An identifier that a flag announces is written if it has key data. -/
theorem optionalUUID_ok {uuid : Option UUID} {body : List Field} :
    writeFields (optional .uuid uuid) = .ok body ↔ Keyed uuid ∧ body = optional .uuid uuid := by
  rw [writeFields_eq_ok, and_congr_left_iff]
  rintro -
  cases uuid with
  | none =>
      rw [optional, List.forall_mem_singleton, Keyed]
      constructor
      · intro _ key impossible
        cases impossible
      · exact fun _ => trivial
  | some key =>
      rw [optional, List.forall_mem_cons, List.forall_mem_singleton, keyed_some]
      exact and_iff_right trivial

/-! ## `JoinMeshPacket` -/

structure JoinMeshPacket where
  type : Int32
  uuid : Option UUID
  cellID : Option CellID
  parentCellID : Option CellID
  endpoint : Option Endpoint
  discoverySAP : Option SAPInfo
  meshSAP : Option SAPInfo
  ftSAP : Option SAPInfo
  deriving DecidableEq

namespace JoinMeshPacket

def construct (peerType : Int32) (uuid : Option UUID) (cellID parentCellID : Option CellID)
    (endpoint : Option Endpoint) (discoverySAP meshSAP ftSAP : Option SAPInfo) : JoinMeshPacket where
  parentCellID := parentCellID
  type := peerType
  uuid := uuid
  cellID := cellID
  endpoint := endpoint
  discoverySAP := discoverySAP
  meshSAP := meshSAP
  ftSAP := ftSAP

def serializeBody (this : JoinMeshPacket) : Result (List Field) := do
  let uuid ← dereference .uuid this.uuid
  let cellID ← dereference .uuid this.cellID
  let parentCellID ← writeFields (optional .uuid this.parentCellID)
  pure ([.long this.type.toInt] ++ (uuid ++ (cellID ++ (parentCellID ++
    (optional .endpoint this.endpoint ++ (optional .sapInfo this.discoverySAP ++
      (optional .sapInfo this.meshSAP ++ optional .sapInfo this.ftSAP)))))))

def deserializeBody : Reader JoinMeshPacket := do
  let type ← readLong 0
  let uuid ← UUID.deserialize
  let cellID ← UUID.deserialize
  let parentCellID ← readOptional UUID.deserialize
  let endpoint ← readOptional Endpoint.deserialize
  let discoverySAP ← readOptional SAPInfo.deserialize
  let meshSAP ← readOptional SAPInfo.deserialize
  let ftSAP ← readOptional SAPInfo.deserialize
  pure { type := Int32.ofInt type, uuid := some uuid, cellID := some cellID, parentCellID, endpoint,
         discoverySAP, meshSAP, ftSAP }

theorem serializeBody_ok {this : JoinMeshPacket} {body : List Field} :
    this.serializeBody = .ok body ↔
      ∃ uuid cellID, this.uuid = some uuid ∧ this.cellID = some cellID ∧
        (uuid.Initialized ∧ cellID.Initialized ∧ Keyed this.parentCellID) ∧
        body = [.long this.type.toInt] ++ ([.uuid uuid] ++ ([.uuid cellID] ++
          (optional .uuid this.parentCellID ++ (optional .endpoint this.endpoint ++
            (optional .sapInfo this.discoverySAP ++ (optional .sapInfo this.meshSAP ++
              optional .sapInfo this.ftSAP)))))) := by
  simp only [serializeBody, Result.bind_eq_ok, dereference_ok, optionalUUID_ok]
  constructor
  · rintro ⟨_, ⟨uuid, hasUUID, own, rfl⟩, _, ⟨cellID, hasCellID, cell, rfl⟩, _, ⟨parent, rfl⟩, done⟩
    cases done
    exact ⟨uuid, cellID, hasUUID, hasCellID, ⟨own, cell, parent⟩, rfl⟩
  · rintro ⟨uuid, cellID, hasUUID, hasCellID, ⟨own, cell, parent⟩, rfl⟩
    exact ⟨_, ⟨uuid, hasUUID, own, rfl⟩, _, ⟨cellID, hasCellID, cell, rfl⟩, _, ⟨parent, rfl⟩, rfl⟩

/-- What is written is read back with every member. -/
theorem reads {this : JoinMeshPacket} {body : List Field} (written : this.serializeBody = .ok body)
    (fits : (bytes body).length < 2 ^ 32) : Reads deserializeBody (bytes body) this := by
  rcases serializeBody_ok.mp written with ⟨uuid, cellID, hasUUID, hasCellID, -, rfl⟩
  rcases this with ⟨type, _, _, parentCellID, endpoint, discoverySAP, meshSAP, ftSAP⟩
  cases hasUUID
  cases hasCellID
  simp only [bytes_append, bytes_singleton, List.length_append, Field.octets] at fits ⊢
  apply (reads_long 0 type.le_toInt type.toInt_lt).bind
  apply (UUID.reads (show uuid.octets.length < 2 ^ 32 by omega)).bind
  apply (UUID.reads (show cellID.octets.length < 2 ^ 32 by omega)).bind
  apply (reads_optionalUUID (by omega)).bind
  apply (reads_optionalEndpoint endpoint).bind
  apply (reads_optionalSAP (by omega)).bind
  apply (reads_optionalSAP (by omega)).bind
  have last : Reads (readOptional SAPInfo.deserialize) (bytes (optional .sapInfo ftSAP)) ftSAP :=
    reads_optionalSAP (by omega)
  rw [Int32.ofInt_toInt]
  exact last.bind_pure (JoinMeshPacket.mk type (some uuid) (some cellID) parentCellID endpoint
    discoverySAP meshSAP)

end JoinMeshPacket

/-! ## `RebindMeshPacket` -/

structure RebindMeshPacket where
  type : Int32
  uuid : Option UUID
  cellID : Option CellID
  parentCellID : Option CellID
  endpoint : Option Endpoint
  followerEndpoint : Option Endpoint
  discoverySAP : Option SAPInfo
  meshSAP : Option SAPInfo
  ftSAP : Option SAPInfo
  state : Option (List MessageBlock)
  deriving DecidableEq

namespace RebindMeshPacket

/-- The initialisers leave out `m_followerEndpoint`, which stays null. -/
def construct (peerType : Int32) (uuid : Option UUID) (cellID parentCellID : Option CellID)
    (endpoint _followerEndpoint : Option Endpoint) (discoverySAP meshSAP ftSAP : Option SAPInfo)
    (state : Option (List MessageBlock)) : RebindMeshPacket where
  parentCellID := parentCellID
  type := peerType
  uuid := uuid
  cellID := cellID
  endpoint := endpoint
  followerEndpoint := none
  discoverySAP := discoverySAP
  meshSAP := meshSAP
  ftSAP := ftSAP
  state := state

def serializeBody (this : RebindMeshPacket) : Result (List Field) := do
  let uuid ← dereference .uuid this.uuid
  let cellID ← dereference .uuid this.cellID
  let parentCellID ← dereference .uuid this.parentCellID
  pure ([.long this.type.toInt] ++ (uuid ++ (cellID ++ (parentCellID ++
    (optional .endpoint this.endpoint ++ (optional .endpoint this.followerEndpoint ++
      (optional .sapInfo this.discoverySAP ++ (optional .sapInfo this.meshSAP ++
        (optional .sapInfo this.ftSAP ++ optionalState this.state)))))))))

def deserializeBody : Reader RebindMeshPacket := do
  let type ← readLong 0
  let uuid ← UUID.deserialize
  let cellID ← UUID.deserialize
  let parentCellID ← UUID.deserialize
  let endpoint ← readOptional Endpoint.deserialize
  let followerEndpoint ← readOptional Endpoint.deserialize
  let discoverySAP ← readOptional SAPInfo.deserialize
  let meshSAP ← readOptional SAPInfo.deserialize
  let ftSAP ← readOptional SAPInfo.deserialize
  let state ← readOptional readState
  pure { type := Int32.ofInt type, uuid := some uuid, cellID := some cellID,
         parentCellID := some parentCellID, endpoint, followerEndpoint, discoverySAP, meshSAP,
         ftSAP, state }

theorem serializeBody_ok {this : RebindMeshPacket} {body : List Field} :
    this.serializeBody = .ok body ↔
      ∃ uuid cellID parentCellID, this.uuid = some uuid ∧ this.cellID = some cellID ∧
        this.parentCellID = some parentCellID ∧
        (uuid.Initialized ∧ cellID.Initialized ∧ parentCellID.Initialized) ∧
        body = [.long this.type.toInt] ++ ([.uuid uuid] ++ ([.uuid cellID] ++
          ([.uuid parentCellID] ++ (optional .endpoint this.endpoint ++
            (optional .endpoint this.followerEndpoint ++ (optional .sapInfo this.discoverySAP ++
              (optional .sapInfo this.meshSAP ++ (optional .sapInfo this.ftSAP ++
                optionalState this.state)))))))) := by
  simp only [serializeBody, Result.bind_eq_ok, dereference_ok]
  constructor
  · rintro ⟨_, ⟨uuid, hasUUID, own, rfl⟩, _, ⟨cellID, hasCellID, cell, rfl⟩, _,
      ⟨parentCellID, hasParent, parent, rfl⟩, done⟩
    cases done
    exact ⟨uuid, cellID, parentCellID, hasUUID, hasCellID, hasParent, ⟨own, cell, parent⟩, rfl⟩
  · rintro ⟨uuid, cellID, parentCellID, hasUUID, hasCellID, hasParent, ⟨own, cell, parent⟩, rfl⟩
    exact ⟨_, ⟨uuid, hasUUID, own, rfl⟩, _, ⟨cellID, hasCellID, cell, rfl⟩, _,
      ⟨parentCellID, hasParent, parent, rfl⟩, rfl⟩

/-- What is written is read back with every member; the state comes in one block. -/
theorem reads {this : RebindMeshPacket} {body : List Field}
    (written : this.serializeBody = .ok body) (fits : (bytes body).length < 2 ^ 32) :
    Reads deserializeBody (bytes body)
      { this with state := this.state.map fun mb => blockOf (MessageBlock.octets mb) } := by
  rcases serializeBody_ok.mp written with
    ⟨uuid, cellID, parentCellID, hasUUID, hasCellID, hasParent, -, rfl⟩
  rcases this with
    ⟨type, _, _, _, endpoint, followerEndpoint, discoverySAP, meshSAP, ftSAP, state⟩
  cases hasUUID
  cases hasCellID
  cases hasParent
  simp only [bytes_append, bytes_singleton, List.length_append, Field.octets] at fits ⊢
  apply (reads_long 0 type.le_toInt type.toInt_lt).bind
  apply (UUID.reads (show uuid.octets.length < 2 ^ 32 by omega)).bind
  apply (UUID.reads (show cellID.octets.length < 2 ^ 32 by omega)).bind
  apply (UUID.reads (show parentCellID.octets.length < 2 ^ 32 by omega)).bind
  apply (reads_optionalEndpoint endpoint).bind
  apply (reads_optionalEndpoint followerEndpoint).bind
  apply (reads_optionalSAP (by omega)).bind
  apply (reads_optionalSAP (by omega)).bind
  apply (reads_optionalSAP (by omega)).bind
  have last : Reads (readOptional readState) (bytes (optionalState state)) _ :=
    reads_optionalState (by omega)
  rw [Int32.ofInt_toInt]
  exact last.bind_pure (RebindMeshPacket.mk type (some uuid) (some cellID) (some parentCellID)
    endpoint followerEndpoint discoverySAP meshSAP ftSAP)

end RebindMeshPacket

/-! ## `JoinCellPacket` -/

structure JoinCellPacket where
  endpoint : Option Endpoint
  followerEndpoint : Option Endpoint
  discoverySAP : Option SAPInfo
  meshSAP : Option SAPInfo
  ftSAP : Option SAPInfo
  deriving DecidableEq

namespace JoinCellPacket

def construct (endpoint followerEndpoint : Option Endpoint)
    (discoverySAP meshSAP ftSAP : Option SAPInfo) : JoinCellPacket where
  endpoint := endpoint
  followerEndpoint := followerEndpoint
  discoverySAP := discoverySAP
  meshSAP := meshSAP
  ftSAP := ftSAP

def serializeBody (this : JoinCellPacket) : Result (List Field) := do
  let endpoint ← dereference .endpoint this.endpoint
  let followerEndpoint ← dereference .endpoint this.followerEndpoint
  pure (endpoint ++ (followerEndpoint ++ (optional .sapInfo this.discoverySAP ++
    (optional .sapInfo this.meshSAP ++ optional .sapInfo this.ftSAP))))

def deserializeBody : Reader JoinCellPacket := do
  let endpoint ← Endpoint.deserialize
  let followerEndpoint ← Endpoint.deserialize
  let discoverySAP ← readOptional SAPInfo.deserialize
  let meshSAP ← readOptional SAPInfo.deserialize
  let ftSAP ← readOptional SAPInfo.deserialize
  pure { endpoint := some endpoint, followerEndpoint := some followerEndpoint, discoverySAP,
         meshSAP, ftSAP }

theorem serializeBody_ok {this : JoinCellPacket} {body : List Field} :
    this.serializeBody = .ok body ↔
      ∃ endpoint followerEndpoint, this.endpoint = some endpoint ∧
        this.followerEndpoint = some followerEndpoint ∧
        body = [.endpoint endpoint] ++ ([.endpoint followerEndpoint] ++
          (optional .sapInfo this.discoverySAP ++ (optional .sapInfo this.meshSAP ++
            optional .sapInfo this.ftSAP))) := by
  simp only [serializeBody, Result.bind_eq_ok, dereference_ok]
  constructor
  · rintro ⟨_, ⟨endpoint, hasEndpoint, -, rfl⟩, _, ⟨follower, hasFollower, -, rfl⟩, done⟩
    cases done
    exact ⟨endpoint, follower, hasEndpoint, hasFollower, rfl⟩
  · rintro ⟨endpoint, follower, hasEndpoint, hasFollower, rfl⟩
    exact ⟨_, ⟨endpoint, hasEndpoint, trivial, rfl⟩, _, ⟨follower, hasFollower, trivial, rfl⟩, rfl⟩

/-- What is written is read back with every member. -/
theorem reads {this : JoinCellPacket} {body : List Field} (written : this.serializeBody = .ok body)
    (fits : (bytes body).length < 2 ^ 32) : Reads deserializeBody (bytes body) this := by
  rcases serializeBody_ok.mp written with
    ⟨endpoint, followerEndpoint, hasEndpoint, hasFollower, rfl⟩
  rcases this with ⟨_, _, discoverySAP, meshSAP, ftSAP⟩
  cases hasEndpoint
  cases hasFollower
  simp only [bytes_append, bytes_singleton, List.length_append, Field.octets] at fits ⊢
  apply endpoint.reads.bind
  apply followerEndpoint.reads.bind
  apply (reads_optionalSAP (by omega)).bind
  apply (reads_optionalSAP (by omega)).bind
  have last : Reads (readOptional SAPInfo.deserialize) (bytes (optional .sapInfo ftSAP)) ftSAP :=
    reads_optionalSAP (by omega)
  exact last.bind_pure (JoinCellPacket.mk (some endpoint) (some followerEndpoint) discoverySAP
    meshSAP)

end JoinCellPacket

/-! ## Round trips -/

/-- What a packet is given when it is constructed. -/
inductive Construction where
  | joinMesh (peerType : Int32) (uuid : Option UUID) (cellID parentCellID : Option CellID)
      (endpoint : Option Endpoint) (discoverySAP meshSAP ftSAP : Option SAPInfo)
  | rebindMesh (peerType : Int32) (uuid : Option UUID) (cellID parentCellID : Option CellID)
      (endpoint followerEndpoint : Option Endpoint) (discoverySAP meshSAP ftSAP : Option SAPInfo)
      (state : Option (List MessageBlock))
  | joinCell (endpoint followerEndpoint : Option Endpoint)
      (discoverySAP meshSAP ftSAP : Option SAPInfo)

/-- The getters of a decoded rebind answer what was given; a state is the same when
its octets are. -/
structure RebindMeshPacket.Returns (packet : RebindMeshPacket) (peerType : Int32)
    (uuid : Option UUID) (cellID parentCellID : Option CellID)
    (endpoint followerEndpoint : Option Endpoint) (discoverySAP meshSAP ftSAP : Option SAPInfo)
    (state : Option (List MessageBlock)) : Prop where
  type : packet.type = peerType
  uuid : packet.uuid = uuid
  cellID : packet.cellID = cellID
  parentCellID : packet.parentCellID = parentCellID
  endpoint : packet.endpoint = endpoint
  followerEndpoint : packet.followerEndpoint = followerEndpoint
  discoverySAP : packet.discoverySAP = discoverySAP
  meshSAP : packet.meshSAP = meshSAP
  ftSAP : packet.ftSAP = ftSAP
  state : packet.state.map MessageBlock.octets = state.map MessageBlock.octets

/-- A body is written to a stream, exactly what was written is read, and the packet
that was read is good. -/
def RoundTrip {Packet : Type} (out : ByteOutputStream) (serialized : Result (List Field))
    (deserializeBody : Reader Packet) (returned : Packet → Prop) : Prop :=
  ∃ body encoded packet, serialized = .ok body ∧
    (out.run (serializeBody body)).contents = out.contents ++ encoded ∧
    Reads deserializeBody encoded packet ∧ returned packet

/-- A reader gives one answer for the same bytes. -/
theorem eq_of_reads {α : Type} {reader : Reader α} {encoded : List UInt8} {a b : α}
    (first : Reads reader encoded a) (second : Reads reader encoded b) : a = b := by
  have same := (first [] true).symm.trans (second [] true)
  cases same
  rfl

/-- Where every body that is written is read as `copy`, the round trip is good when
there is a body and the copy is good. -/
theorem roundTrip_iff {Packet : Type} {out : ByteOutputStream} {serialized : Result (List Field)}
    {deserializeBody : Reader Packet} {returned : Packet → Prop} {copy : Packet}
    (fits : ∀ body, serialized = .ok body → (bytes body).length < 2 ^ 32)
    (reads : ∀ body, serialized = .ok body → Reads deserializeBody (bytes body) copy) :
    RoundTrip out serialized deserializeBody returned ↔
      (∃ body, serialized = .ok body) ∧ returned copy := by
  constructor
  · rintro ⟨body, encoded, packet, done, wire, decoded, good⟩
    have encoding : encoded = bytes body := by
      rw [ByteOutputStream.contents_run] at wire
      rw [← List.append_cancel_left wire]
      exact written_serializeBody (fits body done)
    rw [encoding] at decoded
    rw [← eq_of_reads decoded (reads body done)]
    exact ⟨⟨body, done⟩, good⟩
  · rintro ⟨⟨body, done⟩, good⟩
    refine ⟨body, bytes body, copy, done, ?_, reads body done, good⟩
    rw [ByteOutputStream.contents_run]
    exact congrArg _ (written_serializeBody (fits body done))

namespace Construction

/-- The body of the packet that is constructed. -/
def serialized : Construction → Result (List Field)
  | .joinMesh peerType uuid cellID parentCellID endpoint discoverySAP meshSAP ftSAP =>
      (JoinMeshPacket.construct peerType uuid cellID parentCellID endpoint discoverySAP meshSAP
        ftSAP).serializeBody
  | .rebindMesh peerType uuid cellID parentCellID endpoint followerEndpoint discoverySAP meshSAP
      ftSAP state =>
      (RebindMeshPacket.construct peerType uuid cellID parentCellID endpoint followerEndpoint
        discoverySAP meshSAP ftSAP state).serializeBody
  | .joinCell endpoint followerEndpoint discoverySAP meshSAP ftSAP =>
      (JoinCellPacket.construct endpoint followerEndpoint discoverySAP meshSAP ftSAP).serializeBody

/-- The getters of the packet that is read answer what the constructor was given. -/
def RoundTrips (out : ByteOutputStream) (this : Construction) : Prop :=
  match this with
  | .joinMesh peerType uuid cellID parentCellID endpoint discoverySAP meshSAP ftSAP =>
      RoundTrip out this.serialized JoinMeshPacket.deserializeBody fun packet =>
        packet = { type := peerType, uuid, cellID, parentCellID, endpoint, discoverySAP, meshSAP,
                   ftSAP }
  | .rebindMesh peerType uuid cellID parentCellID endpoint followerEndpoint discoverySAP meshSAP
      ftSAP state =>
      RoundTrip out this.serialized RebindMeshPacket.deserializeBody fun packet =>
        packet.Returns peerType uuid cellID parentCellID endpoint followerEndpoint discoverySAP
          meshSAP ftSAP state
  | .joinCell endpoint followerEndpoint discoverySAP meshSAP ftSAP =>
      RoundTrip out this.serialized JoinCellPacket.deserializeBody fun packet =>
        packet = { endpoint, followerEndpoint, discoverySAP, meshSAP, ftSAP }

/-- The members that are written without a flag are there, the identifiers that are given
have key data, and no follower endpoint is given to a rebind. -/
def Kept : Construction → Prop
  | .joinMesh _ uuid cellID parentCellID _ _ _ _ =>
      uuid ≠ none ∧ cellID ≠ none ∧ (Keyed uuid ∧ Keyed cellID ∧ Keyed parentCellID)
  | .rebindMesh _ uuid cellID parentCellID _ followerEndpoint _ _ _ _ =>
      uuid ≠ none ∧ cellID ≠ none ∧ parentCellID ≠ none ∧
        (Keyed uuid ∧ Keyed cellID ∧ Keyed parentCellID) ∧ followerEndpoint = none
  | .joinCell endpoint followerEndpoint _ _ _ => endpoint ≠ none ∧ followerEndpoint ≠ none

/-- A 32-bit size can count the bytes of the body, if there is one. -/
def Fits (this : Construction) : Prop :=
  ∀ body, this.serialized = .ok body → (bytes body).length < 2 ^ 32

section

variable {out : ByteOutputStream} {peerType : Int32} {uuid : Option UUID}
  {cellID parentCellID : Option CellID} {endpoint followerEndpoint : Option Endpoint}
  {discoverySAP meshSAP ftSAP : Option SAPInfo} {state : Option (List MessageBlock)}

theorem joinMesh_roundTrips_iff
    (fits : (joinMesh peerType uuid cellID parentCellID endpoint discoverySAP meshSAP ftSAP).Fits) :
    (joinMesh peerType uuid cellID parentCellID endpoint discoverySAP meshSAP ftSAP).RoundTrips out ↔
      uuid ≠ none ∧ cellID ≠ none ∧ (Keyed uuid ∧ Keyed cellID ∧ Keyed parentCellID) := by
  apply (roundTrip_iff fits fun body done => JoinMeshPacket.reads done (fits body done)).trans
  simp only [serialized, JoinMeshPacket.serializeBody_ok, JoinMeshPacket.construct,
    Option.ne_none_iff_exists', and_true]
  constructor
  · rintro ⟨body, key, cell, rfl, rfl, ready, -⟩
    rw [keyed_some, keyed_some]
    exact ⟨⟨key, rfl⟩, ⟨cell, rfl⟩, ready⟩
  · rintro ⟨⟨key, rfl⟩, ⟨cell, rfl⟩, ready⟩
    rw [keyed_some, keyed_some] at ready
    exact ⟨_, key, cell, rfl, rfl, ready, rfl⟩

theorem rebindMesh_roundTrips_iff
    (fits : (rebindMesh peerType uuid cellID parentCellID endpoint followerEndpoint discoverySAP
      meshSAP ftSAP state).Fits) :
    (rebindMesh peerType uuid cellID parentCellID endpoint followerEndpoint discoverySAP meshSAP ftSAP
      state).RoundTrips out ↔
      uuid ≠ none ∧ cellID ≠ none ∧ parentCellID ≠ none ∧
        (Keyed uuid ∧ Keyed cellID ∧ Keyed parentCellID) ∧ followerEndpoint = none := by
  apply (roundTrip_iff fits fun body done => RebindMeshPacket.reads done (fits body done)).trans
  simp only [serialized, RebindMeshPacket.serializeBody_ok, RebindMeshPacket.construct,
    Option.ne_none_iff_exists']
  constructor
  · rintro ⟨⟨body, key, cell, parent, rfl, rfl, rfl, ready, -⟩, returns⟩
    rw [keyed_some, keyed_some, keyed_some]
    exact ⟨⟨key, rfl⟩, ⟨cell, rfl⟩, ⟨parent, rfl⟩, ready, returns.followerEndpoint.symm⟩
  · rintro ⟨⟨key, rfl⟩, ⟨cell, rfl⟩, ⟨parent, rfl⟩, ready, rfl⟩
    rw [keyed_some, keyed_some, keyed_some] at ready
    constructor
    · exact ⟨_, key, cell, parent, rfl, rfl, rfl, ready, rfl⟩
    · -- the state comes in one block with the same octets
      have octets : (state.map fun mb => blockOf (MessageBlock.octets mb)).map MessageBlock.octets =
          state.map MessageBlock.octets := by
        cases state with
        | none => rfl
        | some mb => exact congrArg some (octets_blockOf _)
      exact ⟨rfl, rfl, rfl, rfl, rfl, rfl, rfl, rfl, rfl, octets⟩

theorem joinCell_roundTrips_iff
    (fits : (joinCell endpoint followerEndpoint discoverySAP meshSAP ftSAP).Fits) :
    (joinCell endpoint followerEndpoint discoverySAP meshSAP ftSAP).RoundTrips out ↔
      endpoint ≠ none ∧ followerEndpoint ≠ none := by
  apply (roundTrip_iff fits fun body done => JoinCellPacket.reads done (fits body done)).trans
  simp only [serialized, JoinCellPacket.serializeBody_ok, JoinCellPacket.construct,
    Option.ne_none_iff_exists', and_true]
  constructor
  · rintro ⟨body, first, second, hasEndpoint, hasFollower, -⟩
    exact ⟨⟨first, hasEndpoint⟩, second, hasFollower⟩
  · rintro ⟨⟨first, hasEndpoint⟩, second, hasFollower⟩
    exact ⟨_, first, second, hasEndpoint, hasFollower, rfl⟩

end

/-- A packet that carries addresses comes back as it was constructed exactly where the
members that it writes without a flag are there, the identifiers it is given have key data
and, in a rebind, there is no follower endpoint. -/
theorem roundTrips_iff (out : ByteOutputStream) (this : Construction) (fits : this.Fits) :
    this.RoundTrips out ↔ this.Kept := by
  cases this with
  | joinMesh => exact joinMesh_roundTrips_iff fits
  | rebindMesh => exact rebindMesh_roundTrips_iff fits
  | joinCell => exact joinCell_roundTrips_iff fits

/-! A superpeer with short identifiers and an endpoint on port 7. -/

def shortKey (byte : UInt8) : UUID :=
  ⟨[byte]⟩

def portSeven : Endpoint :=
  { type := 1, host := .empty, port := 7, qos := { type := 0, priority := 0 } }

/-- A superpeer that joins the mesh with an endpoint and without access points. -/
theorem roundTrips_joinMesh_portSeven :
    (joinMesh 1 (some (shortKey 1)) (some (shortKey 2)) none (some portSeven) none none
      none).RoundTrips (.start .ace 520) := by
  apply (roundTrips_iff (.start .ace 520) _ ?fits).mpr
  · exact ⟨Option.some_ne_none _, Option.some_ne_none _, by decide⟩
  · rintro body ⟨⟩
    decide

/-- A rebind that is given a follower endpoint loses it. -/
theorem not_roundTrips_rebindMesh_portSeven :
    ¬(rebindMesh 1 (some (shortKey 1)) (some (shortKey 2)) (some (shortKey 3)) (some portSeven)
      (some portSeven) none none none none).RoundTrips (.start .ace 520) := by
  rw [rebindMesh_roundTrips_iff]
  · rintro ⟨-, -, -, -, impossible⟩
    cases impossible
  · rintro body ⟨⟩
    decide

end Construction

end Stheno.Superpeer.Packets
