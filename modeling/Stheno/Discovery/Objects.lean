import Stheno.Peer.Codec

/-!
# Discovery queries and replies

Every query and every reply has a class of its own, which writes its members as
one opaque body behind the metadata of the base class.  A superpeer that passes
one on only knows the base class: it decodes the body as a blob and writes the
blob back.  The two ends narrow what they decoded to the class they expect.
-/

namespace Stheno.Discovery

open Wire Peer

/-- A pointer that is followed without a test. -/
def deref {α : Type} : Option α → Result α
  | some a => pure a
  | none => .error .nullDereference

/-- What a class adds to its base: the writer of its members and their reader,
which fills a new object. -/
structure Specialization (Fields : Type) where
  serializeQuerySpecialization : Fields → Result (List UInt8)
  deserializeQuerySpecialization : Reader Fields

/-- Every body shorter than `2 ^ 32` octets is read back. -/
def Specialization.Faithful {Fields : Type} (specialization : Specialization Fields) : Prop :=
  ∀ fields body, specialization.serializeQuerySpecialization fields = .ok body →
    body.length < 2 ^ 32 → Reads specialization.deserializeQuerySpecialization body fields

/-! ## The body on the wire -/

/-- A body behind its size, which is cut to 32 bits. -/
def writeSized (body : List UInt8) : List UInt8 :=
  writeULong (UInt32.ofNat body.length) ++ body

/-- A block is only made for a body that is not empty. -/
def readBlob : Reader (Option (List UInt8)) := do
  let size ← readULong 0
  if size = 0 then
    pure none
  else
    let blob ← readOctetArray size.toNat
    pure (some blob)

/-- A stream over a blob, which is empty where there is none. -/
def streamOf (blob : Option (List UInt8)) : InputStream :=
  ⟨blob.getD [], true⟩

/-- The blob of a body that was read whole. -/
def blobOf (body : List UInt8) : Option (List UInt8) :=
  if body = [] then none else some body

@[simp]
theorem getD_blobOf (body : List UInt8) : (blobOf body).getD [] = body := by
  rw [blobOf]
  split
  · rename_i empty
    exact empty.symm
  · rfl

theorem reads_blob {body : List UInt8} (fits : body.length < 2 ^ 32) :
    Reads readBlob (writeSized body) (blobOf body) := by
  have size : (UInt32.ofNat body.length).toNat = body.length := UInt32.toNat_ofNat_of_lt' fits
  apply (reads_uLong _ 0).bind
  rw [blobOf]
  by_cases empty : body = []
  · subst empty
    exact Reads.pure none
  · have nonzero : UInt32.ofNat body.length ≠ 0 := by
      intro zero
      rw [zero] at size
      exact empty (List.length_eq_zero_iff.mp size.symm)
    rw [if_neg nonzero, if_neg empty]
    have blob := (reads_octetArray body).bind_pure some
    rwa [← size] at blob

/-- What a receiver takes of a body behind its size. -/
def cut (body : List UInt8) : List UInt8 :=
  body.take (body.length % 2 ^ 32)

theorem length_cut (body : List UInt8) : (cut body).length = body.length % 2 ^ 32 := by
  rw [cut, List.length_take]
  exact Nat.min_eq_left (Nat.mod_le _ _)

theorem length_cut_lt (body : List UInt8) : (cut body).length < 2 ^ 32 := by
  rw [length_cut]
  exact Nat.mod_lt _ (by norm_num)

theorem cut_eq_iff {body : List UInt8} : cut body = body ↔ body.length < 2 ^ 32 := by
  constructor
  · intro whole
    rw [← whole]
    exact length_cut_lt body
  · intro fits
    rw [cut, Nat.mod_eq_of_lt fits, List.take_length]

/-- A body that does not fit is written as a shorter one and the octets behind it. -/
theorem writeSized_eq (body : List UInt8) :
    writeSized body = writeSized (cut body) ++ body.drop (body.length % 2 ^ 32) := by
  have sameSize : UInt32.ofNat (body.length % 2 ^ 32) = UInt32.ofNat body.length :=
    UInt32.ofNat_mod_size
  rw [writeSized, writeSized, length_cut, sameSize, cut, List.append_assoc,
    List.take_append_drop]

theorem length_writeSized (body : List UInt8) : (writeSized body).length = 4 + body.length := by
  simp [writeSized, writeULong]

theorem writeSized_injective {body other : List UInt8} (same : writeSized body = writeSized other) :
    body = other := by
  have length := congrArg List.length same
  rw [length_writeSized, length_writeSized] at length
  exact (List.append_inj' same (by omega)).2

/-! ## The base classes -/

/-- A `DiscoveryQuery` with the members of its class. -/
structure DiscoveryQuery (Fields : Type) where
  provider : UInt32
  type : UInt32
  querySpecializationBlob : Option (List UInt8)
  fields : Fields
  deriving DecidableEq

namespace DiscoveryQuery

variable {Fields : Type}

def serializeMetadata (this : DiscoveryQuery Fields) : List UInt8 :=
  writeULong this.provider ++ writeULong this.type

/-- The blob, where there is one, goes before the members. -/
def serialize (specialization : Specialization Fields) (this : DiscoveryQuery Fields) :
    Result (List UInt8) := do
  let body ← match this.querySpecializationBlob with
    | some blob => pure blob
    | none => specialization.serializeQuerySpecialization this.fields
  pure (this.serializeMetadata ++ writeSized body)

/-- A plain query has no members. -/
def plain : Specialization Unit where
  serializeQuerySpecialization _ := pure []
  deserializeQuerySpecialization := pure ()

def deserialize : Reader (DiscoveryQuery Unit) := do
  let provider ← readULong 0
  let type ← readULong 0
  let querySpecializationBlob ← readBlob
  pure { provider, type, querySpecializationBlob, fields := () }

/-- The constructor of a class from a plain query, with what is left of the stream
over the blob. -/
def narrow (specialization : Specialization Fields) (query : DiscoveryQuery Unit) :
    Result (DiscoveryQuery Fields × InputStream) := do
  let (fields, stream) ←
    specialization.deserializeQuerySpecialization (streamOf query.querySpecializationBlob)
  pure ({ query with querySpecializationBlob := none, fields := fields }, stream)

end DiscoveryQuery

/-- The message stays behind: only the identifier of the class is written. -/
structure DiscoveryException where
  message : String
  deriving DecidableEq

namespace DiscoveryException

def noReplyAvailable : DiscoveryException :=
  ⟨"No reply was available!"⟩

def objectID : CString where
  chars := ['6', 'A', '3', 'D', '7', '3', '8', '5', '9', 'F', 'C', '7', '0', 'A', 'C', '2',
    '0', 'F', '1', '1', 'A', '8', '9', 'E', '4', 'C', '0', '3', '9', 'C', '5', '9'].map
      fun c => UInt8.ofNat c.toNat
  noNul := by decide
  bounded := by decide

def serialize (_this : DiscoveryException) : List UInt8 :=
  writeString objectID

/-- The identifier is not compared. -/
def deserialize : Reader DiscoveryException := do
  let _ ← readString
  pure ⟨""⟩

theorem reads (this : DiscoveryException) : Reads deserialize this.serialize ⟨""⟩ :=
  (reads_string objectID).bind_pure fun _ => DiscoveryException.mk ""

end DiscoveryException

/-- A `DiscoveryQueryReply` with the members of its class. -/
structure DiscoveryQueryReply (Fields : Type) where
  provider : UInt32
  type : UInt32
  querySpecializationBlob : Option (List UInt8)
  ex : Option DiscoveryException
  fields : Fields
  deriving DecidableEq

namespace DiscoveryQueryReply

variable {Fields : Type}

def serializeMetadata (this : DiscoveryQueryReply Fields) : List UInt8 :=
  writeULong this.provider ++ writeULong this.type

/-- The exception takes the place of the body. -/
def serializeBody (this : DiscoveryQueryReply Fields) (body : Result (List UInt8)) :
    Result (List UInt8) :=
  match this.ex with
  | some ex => pure (this.serializeMetadata ++ (writeBoolean true ++ ex.serialize))
  | none => do
      let octets ← body
      pure (this.serializeMetadata ++ (writeBoolean false ++ writeSized octets))

def serialize (specialization : Specialization Fields) (this : DiscoveryQueryReply Fields) :
    Result (List UInt8) :=
  this.serializeBody (specialization.serializeQuerySpecialization this.fields)

/-- A plain reply writes its blob as the body. -/
def serializePlain (this : DiscoveryQueryReply Unit) : Result (List UInt8) :=
  this.serializeBody (pure (this.querySpecializationBlob.getD []))

def deserialize : Reader (DiscoveryQueryReply Unit) := do
  let provider ← readULong 0
  let type ← readULong 0
  let flag ← readBoolean
  if flag then
    let ex ← DiscoveryException.deserialize
    pure { provider, type, querySpecializationBlob := none, ex := some ex, fields := () }
  else
    let querySpecializationBlob ← readBlob
    pure { provider, type, querySpecializationBlob, ex := none, fields := () }

/-- The constructor of the base from another reply.  It never sets the provider,
which keeps what the memory held, and it takes the exception out of the source but
into no member. -/
def ofReply (memory : UInt32) (query : DiscoveryQueryReply Unit) : DiscoveryQueryReply Unit where
  provider := memory
  type := query.type
  querySpecializationBlob := if query.ex = none then query.querySpecializationBlob else none
  ex := none
  fields := ()

/-- The constructor of a class from a plain reply, with what is left of the stream
over the blob.  The class only reads its members where the base has no exception,
which is always. -/
def narrow (specialization : Specialization Fields) (memory : UInt32)
    (query : DiscoveryQueryReply Unit) : Result (DiscoveryQueryReply Fields × InputStream) := do
  let base := ofReply memory query
  let (fields, stream) ←
    specialization.deserializeQuerySpecialization (streamOf base.querySpecializationBlob)
  pure ({ base with querySpecializationBlob := none, fields := fields }, stream)

end DiscoveryQueryReply

/-! ## Counted lists -/

/-- An unsigned count behind which every element follows. -/
def writeList {α : Type} (write : α → List UInt8) (list : List α) : List UInt8 :=
  writeULong (UInt32.ofNat list.length) ++ list.flatMap write

/-- `serialize` of a list behind an unsigned count, which ends at the first element that throws. -/
def serializeList {α : Type} (serialize : α → Result (List UInt8)) (list : List α) :
    Result (List UInt8) := do
  let parts ← list.mapM serialize
  pure (writeULong (UInt32.ofNat list.length) ++ parts.flatten)

theorem serializeList_eq_ok {α : Type} {serialize : α → Result (List UInt8)} {ready : α → Prop}
    {write : α → List UInt8} (each : ∀ a bytes, serialize a = .ok bytes ↔ ready a ∧ bytes = write a)
    {list : List α} {bytes : List UInt8} :
    serializeList serialize list = .ok bytes ↔
      (∀ a ∈ list, ready a) ∧ bytes = writeList write list := by
  simp only [serializeList, Result.bind_eq_ok, Result.mapM_eq_ok each]
  constructor
  · rintro ⟨_, ⟨ready, rfl⟩, done⟩
    cases done
    exact ⟨ready, rfl⟩
  · rintro ⟨ready, rfl⟩
    exact ⟨_, ⟨ready, rfl⟩, rfl⟩

def readList {α : Type} (reader : Reader α) : Reader (List α) := do
  let count ← readULong 0
  readTimes reader count.toNat

theorem reads_list {α : Type} {reader : Reader α} {write : α → List UInt8} {list : List α}
    (wide : ∀ a, 2 ≤ (write a).length) (fits : (writeList write list).length < 2 ^ 32)
    (reads : ∀ a ∈ list, Reads reader (write a) a) :
    Reads (readList reader) (writeList write list) list := by
  have elements := mul_length_le_length_flatMap list wide
  rw [writeList, List.length_append] at fits
  have bound : list.length < UInt32.size := by
    change list.length < 2 ^ 32
    omega
  have all := Reads.times reads
  rw [← UInt32.toNat_ofNat_of_lt' bound] at all
  exact (reads_uLong _ 0).bind all

theorem writeLong_natCast (n : Nat) : writeLong n = writeULong (UInt32.ofNat n) := by
  have pattern : ((n : Int) % (256 ^ 4 : Nat)).toNat = n % 2 ^ 32 := by
    norm_num
    omega
  rw [writeLong, toSignedLE, pattern, writeULong, UInt32.toNat_ofNat']

/-- An element of a list that fits does so itself. -/
theorem length_lt_of_mem {α : Type} {write : α → List UInt8} {list : List α} {a : α} {bound : Nat}
    (member : a ∈ list) (fits : (list.flatMap write).length < bound) : (write a).length < bound :=
  Nat.lt_of_le_of_lt (length_le_length_flatMap member) fits

end Stheno.Discovery
