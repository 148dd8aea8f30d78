import Stheno.Net.Framing

/-!
# Room for the body of a packet

When a header has been read and its body is incomplete, the bytes of the body that are
there move to a buffer that should hold the rest as well.  The size of a larger buffer is
the sum of three 32-bit numbers, so a body size near 2 ^ 32 makes a small buffer.
-/

namespace Stheno.Net

open Wire

namespace MessageBlock

/-- A block is moved to one that is at least as long as its bytes. -/
theorem moveTo_eq_ok {block buffer : MessageBlock} {size : Nat}
    (moved : block.moveTo size = .ok buffer) :
    block.length ≤ size ∧ buffer.size = size ∧ buffer.rd = 0 ∧ buffer.data = block.data := by
  unfold moveTo at moved
  split at moved
  · rename_i fits
    cases moved
    exact ⟨fits, rfl, rfl, rfl⟩
  · cases moved

end MessageBlock

namespace PacketChannel

variable {HEADER PACKET : Type} {protocol : Protocol HEADER PACKET}
  {this : PacketChannel HEADER} {header : HEADER} {behind : MessageBlock}

/-- A call reads `header` and finds its body incomplete; `behind` is the buffer once the
header has been stepped over. -/
structure HeaderParsed (protocol : Protocol HEADER PACKET) (this : PacketChannel HEADER)
    (header : HEADER) (behind : MessageBlock) : Prop where
  awaited : this.header = none
  complete : protocol.getSize ≤ this.partialMessage.length
  read : ∃ left, protocol.readHeader { data := this.partialMessage.data, goodBit := true } =
    .ok (header, { data := left, goodBit := true }) ∧
      behind = this.partialMessage.consumeTo left.length
  incomplete : behind.length < (protocol.getBodySize header).toNat

/-- The call copies what there is of the body to a buffer that is as large as these bytes
and the bytes still to come, and what `recv` stores stays in it. -/
def RoomForBody (protocol : Protocol HEADER PACKET) (this : PacketChannel HEADER)
    (header : HEADER) (behind : MessageBlock) : Prop :=
  ∃ buffer, this.handleInputParsePacket protocol =
      .ok { channel := { header := some header, partialMessage := buffer }
            inputPacket := none, ret := 0 } ∧
    buffer.data = behind.data ∧
    buffer.rd + buffer.length + ((protocol.getBodySize header).toNat - buffer.length) ≤
      buffer.size ∧
    ∀ recv : List UInt8, recv.length ≤ buffer.space → ∃ received,
      readInputBuffer { header := some header, partialMessage := buffer } recv = .ok received

/-- The rest of the body fits behind the write pointer, or the size of a larger buffer is
below 2 ^ 32. -/
def GrowthFits (protocol : Protocol HEADER PACKET) (header : HEADER) (behind : MessageBlock) :
    Prop :=
  (protocol.getBodySize header).toNat - behind.length ≤ behind.space ∨
    protocol.getSize + (protocol.getBodySize header).toNat + MAX_BUFFER_SIZE < 2 ^ 32

instance (protocol : Protocol HEADER PACKET) (header : HEADER) (behind : MessageBlock) :
    Decidable (GrowthFits protocol header behind) :=
  inferInstanceAs (Decidable (_ ∨ _))

/-- What `recv` delivers has room, since it is asked for no more than the space. -/
theorem exists_readInputBuffer (this : PacketChannel HEADER) {recv : List UInt8}
    (fits : recv.length ≤ this.partialMessage.space) :
    ∃ received, this.readInputBuffer recv = .ok received := by
  unfold readInputBuffer
  by_cases closed : recv = []
  · rw [if_pos closed]
    exact ⟨_, rfl⟩
  · rcases MessageBlock.exists_append fits with ⟨room, appended⟩
    rw [if_neg closed, appended]
    exact ⟨_, rfl⟩

/-- The size of the buffer that an incomplete body is moved to. -/
def roomSize (protocol : Protocol HEADER PACKET) (header : HEADER) (behind : MessageBlock) : Nat :=
  if behind.space < (protocol.getBodySize header).toNat - behind.length then
    (protocol.getSize + (protocol.getBodySize header).toNat + MAX_BUFFER_SIZE) % 2 ^ 32
  else
    behind.size

theorem makeRoom_of_incomplete (incomplete : behind.length < (protocol.getBodySize header).toNat) :
    makeRoom protocol behind header = behind.moveTo (roomSize protocol header behind) := by
  unfold makeRoom roomSize
  rw [if_pos incomplete]
  by_cases tight : behind.space < (protocol.getBodySize header).toNat - behind.length
  · rw [if_pos tight, if_pos tight]
  · rw [if_neg tight, if_neg tight]

/-- Only a buffer that is not too small holds the body, since at most 1122 octets are
added before the sum wraps around. -/
theorem body_le_roomSize_iff (incomplete : behind.length < (protocol.getBodySize header).toNat) :
    (protocol.getBodySize header).toNat ≤ roomSize protocol header behind ↔
      GrowthFits protocol header behind := by
  have small := protocol.getSize_le
  have bound := (protocol.getBodySize header).toNat_lt
  have held := behind.fits
  unfold roomSize GrowthFits MAX_BUFFER_SIZE
  by_cases tight : behind.space < (protocol.getBodySize header).toNat - behind.length
  · rw [if_pos tight]
    by_cases below : protocol.getSize + (protocol.getBodySize header).toNat + 1024 < 2 ^ 32
    · rw [Nat.mod_eq_of_lt below]
      exact ⟨fun _ => Or.inr below, fun _ => by omega⟩
    · constructor
      · intro enough
        omega
      · rintro (fits | fits)
        · exact absurd tight (Nat.not_lt.mpr fits)
        · exact absurd fits below
  · rw [if_neg tight]
    unfold MessageBlock.space MessageBlock.length at *
    exact ⟨fun _ => Or.inl (Nat.le_of_not_lt tight), fun _ => by omega⟩

/-- The call moves what is there and waits for the rest of the body. -/
theorem handleInputParsePacket_of_headerParsed
    (parsed : HeaderParsed protocol this header behind) :
    this.handleInputParsePacket protocol =
      (behind.moveTo (roomSize protocol header behind)).bind fun buffer =>
        .ok { channel := { header := some header, partialMessage := buffer }
              inputPacket := none, ret := 0 } := by
  rcases parsed with ⟨awaited, complete, ⟨left, read, rfl⟩, incomplete⟩
  have positive := protocol.getSize_pos
  have someBody : protocol.getBodySize header ≠ 0 := by
    intro empty
    rw [empty] at incomplete
    exact Nat.not_lt_zero _ incomplete
  unfold handleInputParsePacket
  rw [if_neg (by omega), awaited]
  simp only [if_neg (Nat.not_lt.mpr complete)]
  unfold parseHeader
  simp only [read, bind, Except.bind, Bool.not_true, Bool.false_eq_true, if_false]
  rw [if_neg someBody, makeRoom_of_incomplete incomplete]
  generalize this.partialMessage.consumeTo left.length = behind at incomplete ⊢
  cases moved : behind.moveTo (roomSize protocol header behind) with
  | error fault => rfl
  | ok buffer =>
      rcases MessageBlock.moveTo_eq_ok moved with ⟨-, -, -, data⟩
      have missing : buffer.length < (protocol.getBodySize header).toNat := by
        unfold MessageBlock.length at incomplete ⊢
        rwa [data]
      unfold parseBody
      exact if_pos missing

/-- The buffer has room for the body exactly when the rest fits behind the write pointer or
the size of a larger buffer does not wrap around. -/
theorem roomForBody_iff (parsed : HeaderParsed protocol this header behind) :
    RoomForBody protocol this header behind ↔ GrowthFits protocol header behind := by
  have incomplete := parsed.incomplete
  rw [← body_le_roomSize_iff incomplete, RoomForBody,
    handleInputParsePacket_of_headerParsed parsed]
  constructor
  · rintro ⟨buffer, done, data, room, -⟩
    cases moved : behind.moveTo (roomSize protocol header behind) with
    | error fault =>
        rw [moved] at done
        cases done
    | ok moved' =>
        rw [moved] at done
        cases done
        rcases MessageBlock.moveTo_eq_ok moved with ⟨-, size, -, -⟩
        rw [size] at room
        omega
  · intro enough
    rcases behind.exists_moveTo (Nat.le_trans (Nat.le_of_lt incomplete) enough) with
      ⟨buffer, moved, size, rd, data⟩
    rw [moved]
    refine ⟨buffer, rfl, data, ?_, ?_⟩
    · unfold MessageBlock.length at incomplete ⊢
      rw [size, rd, data]
      omega
    · intro recv fits
      exact exists_readInputBuffer _ fits

/-! A leave packet with its header and the first octet of its body in the buffer, for any
declared body size. -/

def declaring (bodySize : UInt32) : SthenoHeader :=
  { (leaving 5).header with messageSize := bodySize }

def begun (bodySize : UInt32) : PacketChannel SthenoHeader where
  header := none
  partialMessage :=
    { size := MAX_BUFFER_SIZE
      rd := 0
      data := (declaring bodySize).octets ++ [16]
      fits := by
        have keys : (declaring bodySize).DefaultKeys := ⟨rfl, rfl, rfl, rfl⟩
        rw [List.length_append, SthenoHeader.length_octets keys]
        decide }

theorem headerParsed_begun {bodySize : UInt32} (incomplete : 1 < bodySize.toNat) :
    HeaderParsed leaveProtocol (begun bodySize) (declaring bodySize)
      ((begun bodySize).partialMessage.consumeTo 1) := by
  have keys : (declaring bodySize).DefaultKeys := ⟨rfl, rfl, rfl, rfl⟩
  have length : (begun bodySize).partialMessage.length = 99 := by
    unfold MessageBlock.length begun
    rw [List.length_append, SthenoHeader.length_octets keys]
    rfl
  constructor
  · rfl
  · rw [length]
    decide
  · exact ⟨[16], SthenoHeader.reads keys [16] true, rfl⟩
  · have split : (begun bodySize).partialMessage.data = (declaring bodySize).octets ++ [16] :=
      rfl
    have kept := MessageBlock.data_consumeTo split
    rw [List.length_singleton] at kept
    unfold MessageBlock.length
    rw [kept]
    exact incomplete

theorem roomForBody_begun : RoomForBody leaveProtocol (begun 40) (declaring 40)
    ((begun 40).partialMessage.consumeTo 1) :=
  (roomForBody_iff (headerParsed_begun (by decide))).mpr (Or.inr (by decide))

/-- For a body of 2 ^ 32 - 1122 octets the octet that is there is copied to an empty buffer. -/
theorem exists_growth_overflow : ¬∀ (this : PacketChannel SthenoHeader) header behind,
    HeaderParsed leaveProtocol this header behind →
      RoomForBody leaveProtocol this header behind := by
  intro roomForBody
  rcases roomForBody _ _ _ (@headerParsed_begun 4294966174 (by decide)) with
    ⟨buffer, done, -⟩
  have overflows : (begun 4294966174).handleInputParsePacket leaveProtocol =
      .error .outOfBounds := rfl
  cases overflows.symm.trans done

end PacketChannel

end Stheno.Net
