import Stheno.Net.Header

/-!
# Headers that are built and headers that arrive

The declared size of a header counts four identifiers with keys of the default size.  A
header that is built with such identifiers has it, although its constructors lose one
argument each.  A header that arrives has it exactly when the length prefixes of its
identifiers add up to the size of four default keys.
-/

namespace Stheno.Wire

/-! ## Reading at an offset -/

/-- A field that is whole is taken off. -/
theorem field_at {α : Type} {size : Nat} {decode : List UInt8 → α} {before a : α}
    {data : List UInt8} {offset : Nat} {goodBit : Bool} {after : InputStream}
    (done : readField size decode before ⟨data.drop offset, goodBit⟩ = .ok (a, after))
    (whole : offset + size ≤ data.length) :
    a = decode ((data.drop offset).take size) ∧ after = ⟨data.drop (offset + size), goodBit⟩ := by
  have long : size ≤ (data.drop offset).length := by
    rw [List.length_drop]
    exact Nat.le_sub_of_add_le' whole
  have read : readField size decode before ⟨data.drop offset, goodBit⟩ =
      .ok (decode ((data.drop offset).take size), ⟨(data.drop offset).drop size, goodBit⟩) := by
    change (Wire.adjust size ⟨data.drop offset, goodBit⟩).bind _ = _
    rw [Wire.adjust, if_pos long]
    rfl
  rw [read, List.drop_drop] at done
  cases done
  exact ⟨rfl, rfl⟩

/-- A reader that always returns. -/
def Total {α : Type} (reader : Reader α) : Prop :=
  ∀ stream, ∃ a after, reader stream = .ok (a, after)

namespace Total

variable {α β : Type}

theorem pure (a : α) : Total (Pure.pure a : Reader α) :=
  fun stream => ⟨a, stream, rfl⟩

theorem bind {first : Reader α} {next : α → Reader β} (total : Total first)
    (totalNext : ∀ a, Total (next a)) : Total (first >>= next) := by
  intro stream
  rcases total stream with ⟨a, middle, read⟩
  rcases totalNext a middle with ⟨b, after, rest⟩
  exact ⟨b, after, Reader.bind_eq_ok.mpr ⟨a, middle, read, rest⟩⟩

theorem adjust (size : Nat) : Total (Wire.adjust size) := by
  intro stream
  unfold Wire.adjust
  split
  · exact ⟨_, _, rfl⟩
  · exact ⟨_, _, rfl⟩

theorem field (size : Nat) (decode : List UInt8 → α) (before : α) :
    Total (readField size decode before) := by
  apply (adjust size).bind
  intro bytes
  cases bytes
  · exact pure _
  · exact pure _

theorem octetArray (size : Nat) : Total (readOctetArray size) := by
  apply (adjust size).bind
  intro bytes
  cases bytes
  · exact pure _
  · exact pure _

end Total

end Stheno.Wire

namespace Stheno

open Wire

namespace UUID

theorem total_deserialize : Total deserialize :=
  (Total.field 4 _ _).bind fun size => (Total.octetArray size.toNat).bind fun _ => Total.pure _

/-- The length prefix of an identifier at an offset. -/
def keySize (data : List UInt8) (offset : Nat) : Nat :=
  ofLE ((data.drop offset).take 4)

theorem ofLE_lt (bytes : List UInt8) : ofLE bytes < 256 ^ bytes.length := by
  induction bytes with
  | nil => exact Nat.one_pos
  | cons byte bytes inductionHypothesis =>
      have bound : byte.toNat < 256 := byte.toNat_lt
      rw [ofLE, List.length_cons, Nat.pow_succ]
      omega

theorem keySize_lt (data : List UInt8) (offset : Nat) : keySize data offset < 2 ^ 32 := by
  have bound := ofLE_lt ((data.drop offset).take 4)
  have short : ((data.drop offset).take 4).length ≤ 4 := List.length_take_le _ _
  have small : 256 ^ ((data.drop offset).take 4).length ≤ 256 ^ 4 :=
    Nat.pow_le_pow_right (by decide) short
  exact Nat.lt_of_lt_of_le bound small

/-- The key has the size that its prefix says, and where there are so many bytes they are
taken off. -/
theorem key_at {data : List UInt8} {offset : Nat} {goodBit : Bool} {uuid : UUID}
    {after : InputStream} (done : deserialize ⟨data.drop offset, goodBit⟩ = .ok (uuid, after))
    (whole : offset + 4 ≤ data.length) :
    uuid.key.length = keySize data offset ∧
      (offset + 4 + keySize data offset ≤ data.length →
        after = ⟨data.drop (offset + 4 + keySize data offset), goodBit⟩) := by
  rcases Reader.bind_eq_ok.mp done with ⟨size, middle, sized, rest⟩
  rcases field_at sized whole with ⟨rfl, rfl⟩
  have exact_size : (UInt32.ofNat (ofLE ((data.drop offset).take 4))).toNat = keySize data offset :=
    UInt32.toNat_ofNat_of_lt' (keySize_lt data offset)
  rw [exact_size] at rest
  rcases Reader.bind_eq_ok.mp rest with ⟨key, last, filled, same⟩
  cases same
  change (Wire.adjust (keySize data offset) ⟨data.drop (offset + 4), goodBit⟩).bind _ = _ at filled
  rw [Wire.adjust] at filled
  by_cases long : keySize data offset ≤ (data.drop (offset + 4)).length
  · rw [if_pos long, List.drop_drop] at filled
    cases filled
    constructor
    · exact List.length_take_of_le long
    · intro _
      rfl
  · rw [if_neg long] at filled
    cases filled
    constructor
    · exact List.length_replicate
    · intro fits
      rw [List.length_drop] at long
      omega

end UUID

/-- An identifier with a key of `DEFAULT_KEY_SIZE` bytes. -/
abbrev DefaultUUID := { uuid : UUID // uuid.key.length = 16 }

namespace Net

namespace SthenoHeader

/-- The constructor without protocol numbers: the message size is not the one it is given. -/
def ofPeers (srcPID srcFID dstPID dstFID : UUID) (messageType : UInt16) (requestID : UInt32)
    (_messageSize : UInt32) : SthenoHeader where
  magic := STHENO_MAGIC
  protocol := 0
  protocolVersionMajor := 0
  protocolVersionMinor := 1
  srcPID
  srcFID
  dstPID
  dstFID
  messageType
  requestID
  messageSize := 0

/-- The constructor with protocol numbers: the destination peer is the source peer. -/
def ofFields (magic : UInt32) (protocol : UInt16) (protocolVersionMajor protocolVersionMinor : UInt8)
    (srcPID srcFID _dstPID dstFID : UUID) (messageType : UInt16) (requestID messageSize : UInt32) :
    SthenoHeader where
  magic
  protocol
  protocolVersionMajor
  protocolVersionMinor
  srcPID
  srcFID
  dstPID := srcPID
  dstFID
  messageType
  requestID
  messageSize

theorem length_octets_eq (this : SthenoHeader) :
    this.octets.length = 34 + (this.srcPID.key.length + this.srcFID.key.length +
      this.dstPID.key.length + this.dstFID.key.length) := by
  simp only [octets, List.length_append, writeULong, writeUShort, writeOctet, length_toLE,
    List.length_singleton, UUID.length_octets]
  omega

theorem total_deserialize : Total deserialize := by
  apply (Total.field 4 _ _).bind
  intro magic
  apply (Total.field 2 _ _).bind
  intro protocol
  apply (Total.field 1 _ _).bind
  intro protocolVersionMajor
  apply (Total.field 1 _ _).bind
  intro protocolVersionMinor
  apply UUID.total_deserialize.bind
  intro srcPID
  apply UUID.total_deserialize.bind
  intro srcFID
  apply UUID.total_deserialize.bind
  intro dstPID
  apply UUID.total_deserialize.bind
  intro dstFID
  apply (Total.field 2 _ _).bind
  intro messageType
  apply (Total.field 4 _ _).bind
  intro requestID
  apply (Total.field 4 _ _).bind
  intro messageSize
  exact Total.pure _

/-- The length prefixes of the identifiers, each where the identifier before it ends. -/
def keySizes (bytes : List UInt8) : Nat × Nat × Nat × Nat :=
  let srcPID := UUID.keySize bytes 8
  let srcFID := UUID.keySize bytes (8 + 4 + srcPID)
  let dstPID := UUID.keySize bytes (8 + 4 + srcPID + 4 + srcFID)
  let dstFID := UUID.keySize bytes (8 + 4 + srcPID + 4 + srcFID + 4 + dstPID)
  (srcPID, srcFID, dstPID, dstFID)

/-- The length prefixes add up to the size of four default keys, and none of them is 0. -/
def PrefixesAddUp (bytes : List UInt8) : Prop :=
  (keySizes bytes).1 + (keySizes bytes).2.1 + (keySizes bytes).2.2.1 + (keySizes bytes).2.2.2 = 64 ∧
    (keySizes bytes).1 ≠ 0 ∧ (keySizes bytes).2.1 ≠ 0 ∧ (keySizes bytes).2.2.1 ≠ 0 ∧
    (keySizes bytes).2.2.2 ≠ 0

instance (bytes : List UInt8) : Decidable (PrefixesAddUp bytes) :=
  inferInstanceAs (Decidable (_ ∧ _))

theorem keySize_append {bytes : List UInt8} (rest : List UInt8) {offset : Nat}
    (whole : offset + 4 ≤ bytes.length) :
    UUID.keySize (bytes ++ rest) offset = UUID.keySize bytes offset := by
  have long : offset ≤ bytes.length := Nat.le_of_add_right_le whole
  have enough : 4 ≤ (bytes.drop offset).length := by
    rw [List.length_drop]
    exact Nat.le_sub_of_add_le' whole
  rw [UUID.keySize, UUID.keySize, List.drop_append_of_le_length long,
    List.take_append_of_le_length enough]

/-- An identifier in the bytes of a header, and where the next one starts. -/
theorem next_key {bytes rest : List UInt8} (length : bytes.length = getSize) {offset : Nat}
    {stream after : InputStream} {uuid : UUID}
    (starts : offset + 4 ≤ 98 → stream = ⟨(bytes ++ rest).drop offset, true⟩)
    (done : UUID.deserialize stream = .ok (uuid, after)) :
    (offset + 4 ≤ 98 → uuid.key.length = UUID.keySize bytes offset) ∧
      (offset + 4 + UUID.keySize bytes offset ≤ 98 →
        after = ⟨(bytes ++ rest).drop (offset + 4 + UUID.keySize bytes offset), true⟩) := by
  have total : 98 ≤ (bytes ++ rest).length := by
    rw [List.length_append, length]
    exact Nat.le_add_right _ _
  have read : offset + 4 ≤ 98 → uuid.key.length = UUID.keySize bytes offset ∧
      (offset + 4 + UUID.keySize bytes offset ≤ (bytes ++ rest).length →
        after = ⟨(bytes ++ rest).drop (offset + 4 + UUID.keySize bytes offset), true⟩) := by
    intro whole
    rw [starts whole] at done
    have known := UUID.key_at done (Nat.le_trans whole total)
    rwa [keySize_append rest (length ▸ whole)] at known
  constructor
  · intro whole
    exact (read whole).1
  · intro fits
    exact (read (Nat.le_of_add_right_le fits)).2 (Nat.le_trans fits total)

/-- The identifiers of a header are read behind its first four fields, and three fields are
read behind them. -/
theorem deserialize_eq_ok {data : List UInt8} {header : SthenoHeader} {after : InputStream}
    (room : 8 ≤ data.length) (done : deserialize ⟨data, true⟩ = .ok (header, after)) :
    ∃ first second third fourth,
      UUID.deserialize ⟨data.drop 8, true⟩ = .ok (header.srcPID, first) ∧
      UUID.deserialize first = .ok (header.srcFID, second) ∧
      UUID.deserialize second = .ok (header.dstPID, third) ∧
      UUID.deserialize third = .ok (header.dstFID, fourth) ∧
      ∀ offset, offset + 10 ≤ data.length → fourth = ⟨data.drop offset, true⟩ →
        after = ⟨data.drop (offset + 10), true⟩ := by
  rw [← @List.drop_zero _ data] at done
  rcases Reader.bind_eq_ok.mp done with ⟨_, _, magic, done⟩
  rcases field_at magic (by omega) with ⟨-, rfl⟩
  rcases Reader.bind_eq_ok.mp done with ⟨_, _, protocol, done⟩
  rcases field_at protocol (by omega) with ⟨-, rfl⟩
  rcases Reader.bind_eq_ok.mp done with ⟨_, _, major, done⟩
  rcases field_at major (by omega) with ⟨-, rfl⟩
  rcases Reader.bind_eq_ok.mp done with ⟨_, _, minor, done⟩
  rcases field_at minor (by omega) with ⟨-, rfl⟩
  rcases Reader.bind_eq_ok.mp done with ⟨srcPID, first, readFirst, done⟩
  rcases Reader.bind_eq_ok.mp done with ⟨srcFID, second, readSecond, done⟩
  rcases Reader.bind_eq_ok.mp done with ⟨dstPID, third, readThird, done⟩
  rcases Reader.bind_eq_ok.mp done with ⟨dstFID, fourth, readFourth, done⟩
  rcases Reader.bind_eq_ok.mp done with ⟨_, _, messageType, done⟩
  rcases Reader.bind_eq_ok.mp done with ⟨_, _, requestID, done⟩
  rcases Reader.bind_eq_ok.mp done with ⟨_, _, messageSize, done⟩
  cases done
  refine ⟨first, second, third, fourth, readFirst, readSecond, readThird, readFourth, ?_⟩
  rintro offset fits rfl
  rcases field_at messageType (by omega) with ⟨-, rfl⟩
  rcases field_at requestID (by omega) with ⟨-, rfl⟩
  exact (field_at messageSize (by omega)).2

/-- What is read from the bytes of a header: each key has the size of its prefix, as long as
the keys before it leave room for the prefix. -/
theorem keys_of_deserialize {bytes rest : List UInt8} {header : SthenoHeader} {after : InputStream}
    (length : bytes.length = getSize)
    (done : deserialize ⟨bytes ++ rest, true⟩ = .ok (header, after)) :
    header.srcPID.key.length = (keySizes bytes).1 ∧
    ((keySizes bytes).1 ≤ 64 → header.srcFID.key.length = (keySizes bytes).2.1) ∧
    ((keySizes bytes).1 + (keySizes bytes).2.1 ≤ 64 →
      header.dstPID.key.length = (keySizes bytes).2.2.1) ∧
    ((keySizes bytes).1 + (keySizes bytes).2.1 + (keySizes bytes).2.2.1 ≤ 64 →
      header.dstFID.key.length = (keySizes bytes).2.2.2) ∧
    (PrefixesAddUp bytes → after = ⟨rest, true⟩) := by
  have total : 98 ≤ (bytes ++ rest).length := by
    rw [List.length_append, length]
    exact Nat.le_add_right _ _
  rcases deserialize_eq_ok (Nat.le_trans (by decide) total) done with
    ⟨_, _, _, _, first, second, third, fourth, fields⟩
  rcases next_key length (fun _ => rfl) first with ⟨firstSize, firstEnd⟩
  rcases next_key length (fun whole => firstEnd (Nat.le_of_add_right_le whole)) second with
    ⟨secondSize, secondEnd⟩
  rcases next_key length (fun whole => secondEnd (Nat.le_of_add_right_le whole)) third with
    ⟨thirdSize, thirdEnd⟩
  rcases next_key length (fun whole => thirdEnd (Nat.le_of_add_right_le whole)) fourth with
    ⟨fourthSize, fourthEnd⟩
  simp only [keySizes, PrefixesAddUp]
  generalize UUID.keySize bytes 8 = a at *
  generalize UUID.keySize bytes (8 + 4 + a) = b at *
  generalize UUID.keySize bytes (8 + 4 + a + 4 + b) = c at *
  generalize UUID.keySize bytes (8 + 4 + a + 4 + b + 4 + c) = d at *
  refine ⟨firstSize (by decide), ?_, ?_, ?_, ?_⟩
  · intro small
    exact secondSize (by omega)
  · intro small
    exact thirdSize (by omega)
  · intro small
    exact fourthSize (by omega)
  · rintro ⟨sum, -⟩
    have whole : 8 + 4 + a + 4 + b + 4 + c + 4 + d + 10 = bytes.length := by
      rw [length, getSize]
      omega
    rw [fields _ (by omega) (fourthEnd (by omega)), whole, List.drop_left]

/-- Bytes of a header's size that are followed by anything: no more than these are taken, and
the header that they make is written in as many again. -/
def KeepsSize (bytes rest : List UInt8) : Prop :=
  ∃ header after again, deserialize ⟨bytes ++ rest, true⟩ = .ok (header, after) ∧
    (bytes ++ rest).length ≤ after.data.length + getSize ∧ header.serialize = .ok again ∧
    again.length = getSize

/-- Four keys of known sizes, which add up. -/
theorem keys_of_addUp {bytes rest : List UInt8} {header : SthenoHeader} {after : InputStream}
    (length : bytes.length = getSize)
    (done : deserialize ⟨bytes ++ rest, true⟩ = .ok (header, after))
    (sum : (keySizes bytes).1 + (keySizes bytes).2.1 + (keySizes bytes).2.2.1 +
      (keySizes bytes).2.2.2 = 64) :
    header.srcPID.key.length = (keySizes bytes).1 ∧
      header.srcFID.key.length = (keySizes bytes).2.1 ∧
      header.dstPID.key.length = (keySizes bytes).2.2.1 ∧
      header.dstFID.key.length = (keySizes bytes).2.2.2 := by
  rcases keys_of_deserialize length done with ⟨first, second, third, fourth, -⟩
  exact ⟨first, second (by omega), third (by omega), fourth (by omega)⟩

theorem initialized_iff_length (uuid : UUID) : uuid.Initialized ↔ uuid.key.length ≠ 0 :=
  not_congr List.length_eq_zero_iff.symm

/-- A header keeps the size of its bytes exactly when their length prefixes add up and each of
its keys has data. -/
theorem keepsSize_iff {bytes : List UInt8} (length : bytes.length = getSize) (rest : List UInt8) :
    KeepsSize bytes rest ↔ PrefixesAddUp bytes := by
  constructor
  · rintro ⟨header, after, again, done, -, encoded, same⟩
    rcases (serialize_eq_ok header again).mp encoded with ⟨initialized, rfl⟩
    rcases keys_of_deserialize length done with ⟨first, second, third, fourth, -⟩
    rw [length_octets_eq, getSize] at same
    have two := second (by omega)
    have three := third (by omega)
    have four := fourth (by omega)
    simp only [Initialized, initialized_iff_length, first, two, three, four] at initialized
    exact ⟨by omega, initialized⟩
  · intro addUp
    rcases total_deserialize ⟨bytes ++ rest, true⟩ with ⟨header, after, done⟩
    rcases keys_of_deserialize length done with ⟨-, -, -, -, last⟩
    rcases addUp with ⟨sum, data⟩
    rcases keys_of_addUp length done sum with ⟨first, second, third, fourth⟩
    have initialized : header.Initialized := by
      simp only [Initialized, initialized_iff_length, first, second, third, fourth]
      exact data
    refine ⟨header, after, header.octets, done, ?_, (serialize_eq_ok header _).mpr ⟨initialized, rfl⟩,
      ?_⟩
    · rw [last ⟨sum, data⟩, List.length_append, length, Nat.add_comm]
    · rw [length_octets_eq, getSize]
      omega

def getType (this : SthenoHeader) : UInt16 :=
  this.messageType

def getPacketID (this : SthenoHeader) : UInt32 :=
  this.requestID

def getSrcPID (this : SthenoHeader) : UUID :=
  this.srcPID

def getSrcFID (this : SthenoHeader) : UUID :=
  this.srcFID

def getDstPID (this : SthenoHeader) : UUID :=
  this.dstPID

def getDstFID (this : SthenoHeader) : UUID :=
  this.dstFID

/-- A header is written in the bytes of its declared size, and read back from them, whatever
follows. -/
def RoundTrips (this : SthenoHeader) : Prop :=
  ∃ bytes, this.serialize = .ok bytes ∧ bytes.length = getSize ∧ Reads deserialize bytes this

theorem roundTrips_of_keys {this : SthenoHeader} (keys : this.DefaultKeys) : this.RoundTrips :=
  ⟨this.octets, keys.serialize, length_octets keys, reads keys⟩

/-- A way to come by a header. -/
inductive Origin where
  /-- The constructor without protocol numbers. -/
  | peers (srcPID srcFID dstPID dstFID : DefaultUUID) (messageType : UInt16)
      (requestID messageSize : UInt32)
  /-- The constructor with protocol numbers. -/
  | fields (magic : UInt32) (protocol : UInt16) (protocolVersionMajor protocolVersionMinor : UInt8)
      (srcPID srcFID dstPID dstFID : DefaultUUID) (messageType : UInt16)
      (requestID messageSize : UInt32)
  /-- Bytes that arrive, and what follows them. -/
  | bytes (header : { bytes : List UInt8 // bytes.length = getSize }) (rest : List UInt8)

namespace Origin

/-- A header that is built has the arguments of its constructor and makes the round trip; bytes
that arrive make a header of their size. -/
def Faithful : Origin → Prop
  | peers srcPID srcFID dstPID dstFID messageType requestID messageSize =>
      let header := ofPeers srcPID srcFID dstPID dstFID messageType requestID messageSize
      (header.getSrcPID = srcPID ∧ header.getSrcFID = srcFID ∧ header.getDstPID = dstPID ∧
        header.getDstFID = dstFID ∧ header.getType = messageType ∧
        header.getPacketID = requestID ∧ header.getBodySize = messageSize) ∧
      header.RoundTrips
  | fields magic protocol protocolVersionMajor protocolVersionMinor srcPID srcFID dstPID dstFID
      messageType requestID messageSize =>
      let header := ofFields magic protocol protocolVersionMajor protocolVersionMinor srcPID srcFID
        dstPID dstFID messageType requestID messageSize
      (header.magic = magic ∧ header.protocol = protocol ∧
        header.protocolVersionMajor = protocolVersionMajor ∧
        header.protocolVersionMinor = protocolVersionMinor ∧
        header.getSrcPID = srcPID ∧ header.getSrcFID = srcFID ∧ header.getDstPID = dstPID ∧
        header.getDstFID = dstFID ∧ header.getType = messageType ∧
        header.getPacketID = requestID ∧ header.getBodySize = messageSize) ∧
      header.RoundTrips
  | bytes header rest => KeepsSize header rest

/-- The argument that a constructor loses is the one that it sets; the length prefixes of bytes
that arrive add up. -/
def Harmless : Origin → Prop
  | peers _ _ _ _ _ _ messageSize => messageSize = 0
  | fields _ _ _ _ srcPID _ dstPID _ _ _ _ => dstPID = srcPID
  | bytes header _ => PrefixesAddUp header

theorem faithful_iff (origin : Origin) : origin.Faithful ↔ origin.Harmless := by
  cases origin with
  | peers srcPID srcFID dstPID dstFID messageType requestID messageSize =>
      have trips : (ofPeers srcPID srcFID dstPID dstFID messageType requestID messageSize).RoundTrips :=
        roundTrips_of_keys ⟨srcPID.2, srcFID.2, dstPID.2, dstFID.2⟩
      constructor
      · rintro ⟨⟨-, -, -, -, -, -, size⟩, -⟩
        exact size.symm
      · rintro rfl
        exact ⟨⟨rfl, rfl, rfl, rfl, rfl, rfl, rfl⟩, trips⟩
  | fields magic protocol protocolVersionMajor protocolVersionMinor srcPID srcFID dstPID dstFID
      messageType requestID messageSize =>
      have trips : (ofFields magic protocol protocolVersionMajor protocolVersionMinor srcPID srcFID
          dstPID dstFID messageType requestID messageSize).RoundTrips :=
        roundTrips_of_keys ⟨srcPID.2, srcFID.2, srcPID.2, dstFID.2⟩
      constructor
      · rintro ⟨⟨-, -, -, -, -, -, destination, -⟩, -⟩
        exact Subtype.ext destination.symm
      · rintro rfl
        exact ⟨⟨rfl, rfl, rfl, rfl, rfl, rfl, rfl, rfl, rfl, rfl, rfl⟩, trips⟩
  | bytes header rest => exact keepsSize_iff header.2 rest

/-- A key of the default size. -/
def uuidOf (octet : UInt8) : DefaultUUID :=
  ⟨⟨List.replicate 16 octet⟩, List.length_replicate⟩

/-- A header that is built for another peer is addressed to the peer that sends it. -/
theorem faithful_fails :
    ¬(fields STHENO_MAGIC 0 0 1 (uuidOf 1) (uuidOf 2) (uuidOf 3) (uuidOf 4) 5 6 7).Faithful := by
  rintro ⟨⟨-, -, -, -, -, -, destination, -⟩, -⟩
  exact absurd destination (by decide)

end Origin

end SthenoHeader

end Net

end Stheno
