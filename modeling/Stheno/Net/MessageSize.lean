import Stheno.Net.Header
import Stheno.Peer.Fields

/-!
# The declared size of a packet

A packet counts its body in a `StreamSize`, puts the size in its header and writes
both to a `ByteOutputStream`.  The receiver takes as many octets for the body as
the header says.
-/

namespace Stheno.Net

open Wire

/-- The fields of a header in the order in which it writes them. -/
def SthenoHeader.fields (this : SthenoHeader) : List Field :=
  [.uLong this.magic, .uShort this.protocol, .octet this.protocolVersionMajor,
    .octet this.protocolVersionMinor, .uuid this.srcPID, .uuid this.srcFID, .uuid this.dstPID,
    .uuid this.dstFID, .uShort this.messageType, .uLong this.requestID, .uLong this.messageSize]

namespace SthenoPacket

/-- The header with the size of the body it goes with. -/
def declare (header : SthenoHeader) (body : List Field) : SthenoHeader :=
  { header with messageSize := getBodySerializationSize body }

def serializeHeader (header : SthenoHeader) (out : ByteOutputStream) : ByteOutputStream :=
  out.run (serializeBody header.fields)

def serialize (header : SthenoHeader) (body : List Field) (out : ByteOutputStream) :
    ByteOutputStream :=
  (serializeHeader (declare header body) out).run (serializeBody body)

/-- Behind the header there are as many octets as it declares. -/
def SizeDeclared (header : SthenoHeader) (body : List Field) (out : ByteOutputStream) : Prop :=
  (serialize header body out).totalLength =
    (serializeHeader (declare header body) out).totalLength +
      (declare header body).messageSize.toNat

instance (header : SthenoHeader) (body : List Field) (out : ByteOutputStream) :
    Decidable (SizeDeclared header body out) :=
  inferInstanceAs (Decidable (_ = _))

/-- The number of octets of a body. -/
def bodyLength (body : List Field) : Nat :=
  (written (serializeBody body)).length

/-- The body fits a 32-bit size, and over all its chains the number of blocks times
the length of the first block adds up to the octets there are. -/
structure ChainsCounted (body : List Field) : Prop where
  fits : bodyLength body < 2 ^ 32
  chains : (body.map fun field => MessageBlock.firstLengths field.chain).sum ≡
    (body.map fun field => MessageBlock.totalLength field.chain).sum [MOD 2 ^ 32]

theorem totalLength_serialize (header : SthenoHeader) (body : List Field)
    (out : ByteOutputStream) :
    (serialize header body out).totalLength =
      (serializeHeader (declare header body) out).totalLength + bodyLength body := by
  rw [← ByteOutputStream.length_contents, serialize, ByteOutputStream.contents_run,
    List.length_append, ByteOutputStream.length_contents]
  rfl

theorem messageSize_declare (header : SthenoHeader) (body : List Field) :
    (declare header body).messageSize.toNat =
      ((serializeBody body).map Call.counted).sum % 2 ^ 32 := by
  rw [declare, getBodySerializationSize, StreamSize.totalLength, StreamSize.size_run, Nat.zero_add,
    UInt32.toNat_ofNat']

/-- What the header declares and what the body writes differ as the chains do from
chains of equal blocks. -/
theorem counted_add_totalLengths (body : List Field) :
    ((serializeBody body).map Call.counted).sum +
        (body.map fun field => MessageBlock.totalLength field.chain).sum ≡
      bodyLength body +
        (body.map fun field => MessageBlock.firstLengths field.chain).sum [MOD 2 ^ 32] := by
  have calls := Call.sum_counted_add (serializeBody body)
  rwa [sum_chains body MessageBlock.totalLength rfl,
    sum_chains body MessageBlock.firstLengths rfl] at calls

/-- Chains whose blocks are all as long as their first one add up. -/
theorem ChainsCounted.of_uniform {body : List Field} (fits : bodyLength body < 2 ^ 32)
    (uniform : ∀ field ∈ body, ∀ first ∈ field.chain.head?, ∀ block ∈ field.chain,
      block.length = first.length) : ChainsCounted body := by
  have equal : (body.map fun field => MessageBlock.firstLengths field.chain) =
      body.map fun field => MessageBlock.totalLength field.chain := by
    apply List.map_congr_left
    intro field member
    exact MessageBlock.firstLengths_of_uniform (uniform field member)
  constructor
  · exact fits
  · rw [equal]

/-- A packet declares the true length of its body exactly where that fits and its
chains add up. -/
theorem sizeDeclared_iff (header : SthenoHeader) (body : List Field) (out : ByteOutputStream) :
    SizeDeclared header body out ↔ ChainsCounted body := by
  have difference := counted_add_totalLengths body
  rw [SizeDeclared, totalLength_serialize, messageSize_declare, Nat.add_left_cancel_iff]
  constructor
  · intro exact
    have fits : bodyLength body < 2 ^ 32 := by
      rw [exact]
      exact Nat.mod_lt _ (by decide)
    have counted : ((serializeBody body).map Call.counted).sum ≡ bodyLength body [MOD 2 ^ 32] := by
      rw [exact]
      exact (Nat.mod_modEq _ _).symm
    exact ⟨fits, (Nat.ModEq.add_left_cancel counted difference).symm⟩
  · rintro ⟨fits, chains⟩
    have counted := Nat.ModEq.add_right_cancel chains.symm difference
    rw [← Nat.mod_eq_of_lt fits]
    exact counted.symm

/-! A reply whose state is held in two blocks, of one octet and of two. -/

def twoBlocks : List Wire.MessageBlock :=
  [⟨[1], 0, 1, false, by decide⟩, ⟨[2, 3], 0, 2, false, by decide⟩]

def twoBlocksBody : List Field :=
  [.uLong 7, .boolean true, .uLong 3, .octetArrayMb twoBlocks]

def plainHeader : SthenoHeader :=
  { magic := SthenoHeader.STHENO_MAGIC, protocol := 0, protocolVersionMajor := 1,
    protocolVersionMinor := 0, srcPID := ⟨List.replicate 16 1⟩, srcFID := ⟨List.replicate 16 2⟩,
    dstPID := ⟨List.replicate 16 3⟩, dstFID := ⟨List.replicate 16 2⟩, messageType := 0,
    requestID := 7, messageSize := 0 }

/-- The reply writes twelve octets behind a header that declares eleven. -/
theorem not_sizeDeclared_twoBlocks :
    ¬SizeDeclared plainHeader twoBlocksBody (.start .ace 520) := by
  decide +kernel

end SthenoPacket

end Stheno.Net
