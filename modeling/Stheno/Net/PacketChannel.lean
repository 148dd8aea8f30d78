import Stheno.Wire.Stream

/-!
# The input side of a packet channel

`PacketChannel` collects received bytes in a buffer and cuts packets off its front.
Between calls it keeps the bytes of an incomplete packet and, once the header is
complete, the header.
-/

namespace Stheno.Net

open Wire

/-! ## The buffer -/

/-- An `ACE_Message_Block`: its capacity, the offset of its read pointer, and the
bytes between the read and the write pointer. -/
structure MessageBlock where
  size : Nat
  rd : Nat
  data : List UInt8
  fits : rd + data.length ≤ size

namespace MessageBlock

def new (size : Nat) : MessageBlock where
  size
  rd := 0
  data := []
  fits := Nat.zero_le _

def length (this : MessageBlock) : Nat :=
  this.data.length

/-- The bytes behind the write pointer. -/
def space (this : MessageBlock) : Nat :=
  this.size - (this.rd + this.data.length)

/-- Bytes arrive at the write pointer. -/
def append (this : MessageBlock) (bytes : List UInt8) : Result MessageBlock :=
  if fits : this.rd + (this.data ++ bytes).length ≤ this.size then
    .ok { this with data := this.data ++ bytes, fits }
  else
    .error .outOfBounds

theorem exists_append {this : MessageBlock} {bytes : List UInt8} (fits : bytes.length ≤ this.space) :
    ∃ room, this.append bytes = .ok { this with data := this.data ++ bytes, fits := room } := by
  have room : this.rd + (this.data ++ bytes).length ≤ this.size := by
    have held := this.fits
    unfold space at fits
    rw [List.length_append]
    omega
  exact ⟨room, dif_pos room⟩

/-- Advance the read pointer until `left` bytes remain. -/
def consumeTo (this : MessageBlock) (left : Nat) : MessageBlock where
  size := this.size
  rd := this.rd + (this.data.length - left)
  data := this.data.drop (this.data.length - left)
  fits := by
    have fits := this.fits
    rw [List.length_drop]
    omega

/-- Copy the bytes to the start of a new block. -/
def moveTo (this : MessageBlock) (size : Nat) : Result MessageBlock :=
  if fits : this.data.length ≤ size then
    .ok { size, rd := 0, data := this.data, fits := by rwa [Nat.zero_add] }
  else
    .error .outOfBounds

end MessageBlock

/-! ## The channel -/

/-- What a channel is instantiated with: its header class and its packet factory.
The largest header of the channels has 98 bytes. -/
structure Protocol (HEADER PACKET : Type) where
  getSize : Nat
  getSize_pos : 0 < getSize
  getSize_le : getSize ≤ 98
  readHeader : Reader HEADER
  getBodySize : HEADER → UInt32
  /-- The factory answers null for a type that it does not know. -/
  createPacket : HEADER → Reader (Option PACKET)

structure PacketChannel (HEADER : Type) where
  header : Option HEADER
  partialMessage : MessageBlock

/-- What a call of `handleInputParsePacket` leaves behind. -/
structure Parsed (HEADER PACKET : Type) where
  channel : PacketChannel HEADER
  inputPacket : Option PACKET
  ret : Int

/-- What a call of `handleInput_i` leaves behind, with the packets that it has handed
to `handlePacket`. -/
structure Handed (HEADER PACKET : Type) where
  channel : PacketChannel HEADER
  packets : List PACKET
  ret : Int

namespace PacketChannel

variable {HEADER PACKET : Type}

def MAX_BUFFER_SIZE : Nat := 1024

def new : PacketChannel HEADER where
  header := none
  partialMessage := .new MAX_BUFFER_SIZE

/-- Receive bytes at the write pointer; nothing is received when the peer has closed. -/
def readInputBuffer (this : PacketChannel HEADER) (recv : List UInt8) :
    Result (PacketChannel HEADER × Int) :=
  if recv = [] then
    .ok (this, -1)
  else do
    let partialMessage ← this.partialMessage.append recv
    pure ({ this with partialMessage }, recv.length)

/-- Create the packet, step over its body and move what is left to a new buffer of
the same size. -/
def finishPacket (protocol : Protocol HEADER PACKET) (partialMessage : MessageBlock)
    (header : HEADER) (bis : InputStream) : Result (Parsed HEADER PACKET) := do
  let created ← protocol.createPacket header bis
  let consumed := partialMessage.consumeTo created.2.data.length
  let buffer ← consumed.moveTo consumed.size
  pure { channel := { header := none, partialMessage := buffer }, inputPacket := created.1, ret := 0 }

/-- The last part of `handleInputParsePacket`, once there is a header. -/
def parseBody (protocol : Protocol HEADER PACKET) (partialMessage : MessageBlock) (header : HEADER)
    (bis : InputStream) : Result (Parsed HEADER PACKET) :=
  if partialMessage.length < (protocol.getBodySize header).toNat then
    .ok { channel := { header := some header, partialMessage }, inputPacket := none, ret := 0 }
  else
    finishPacket protocol partialMessage header bis

/-- Make room for a body that is longer than what has arrived; the size of a larger
buffer is a 32-bit sum. -/
def makeRoom (protocol : Protocol HEADER PACKET) (partialMessage : MessageBlock) (header : HEADER) :
    Result MessageBlock :=
  let bodySize := (protocol.getBodySize header).toNat
  if partialMessage.length < bodySize then
    if partialMessage.space < bodySize - partialMessage.length then
      partialMessage.moveTo ((protocol.getSize + bodySize + MAX_BUFFER_SIZE) % 2 ^ 32)
    else
      partialMessage.moveTo partialMessage.size
  else
    .ok partialMessage

/-- The part of `handleInputParsePacket` that reads a header.  A header that cannot be
read is deleted but stays linked. -/
def parseHeader (protocol : Protocol HEADER PACKET) (partialMessage : MessageBlock) :
    Result (Parsed HEADER PACKET) := do
  let read ← protocol.readHeader { data := partialMessage.data, goodBit := true }
  if !read.2.goodBit then
    pure { channel := { header := some read.1, partialMessage }, inputPacket := none, ret := -1 }
  else
    let behind := partialMessage.consumeTo read.2.data.length
    if protocol.getBodySize read.1 = 0 then
      finishPacket protocol behind read.1 read.2
    else do
      let roomy ← makeRoom protocol behind read.1
      parseBody protocol roomy read.1 read.2

def handleInputParsePacket (protocol : Protocol HEADER PACKET) (this : PacketChannel HEADER) :
    Result (Parsed HEADER PACKET) :=
  if this.partialMessage.length = 0 then
    .ok { channel := this, inputPacket := none, ret := 0 }
  else
    match this.header with
    | none =>
        if this.partialMessage.length < protocol.getSize then
          .ok { channel := this, inputPacket := none, ret := 0 }
        else
          parseHeader protocol this.partialMessage
    | some header =>
        parseBody protocol this.partialMessage header
          { data := this.partialMessage.data, goodBit := true }

/-- The loop of `handleInput_i`; `handlePacket` answers -1 to close the channel. -/
def parseLoop (protocol : Protocol HEADER PACKET) (handlePacket : PACKET → Int) :
    Nat → PacketChannel HEADER → Result (Handed HEADER PACKET)
  | 0, _ => .error .outOfFuel
  | fuel + 1, this => do
      let parsed ← this.handleInputParsePacket protocol
      if parsed.ret = -1 then
        pure { channel := parsed.channel, packets := [], ret := -1 }
      else
        match parsed.inputPacket with
        | none => pure { channel := parsed.channel, packets := [], ret := parsed.ret }
        | some packet =>
            if handlePacket packet = -1 then
              pure { channel := parsed.channel, packets := [packet], ret := -1 }
            else do
              let rest ← parseLoop protocol handlePacket fuel parsed.channel
              pure { rest with packets := packet :: rest.packets }

/-- Every packet takes at least one byte of the buffer, so the loop ends. -/
def handleInput_i (protocol : Protocol HEADER PACKET) (handlePacket : PACKET → Int)
    (this : PacketChannel HEADER) (recv : List UInt8) : Result (Handed HEADER PACKET) := do
  let read ← this.readInputBuffer recv
  if read.2 = -1 then
    pure { channel := read.1, packets := [], ret := -1 }
  else
    parseLoop protocol handlePacket (read.1.partialMessage.length + 1) read.1

/-- One call of `handleInput_i` for each result of `recv`, until the channel closes. -/
def run (protocol : Protocol HEADER PACKET) (handlePacket : PACKET → Int) :
    PacketChannel HEADER → List (List UInt8) → Result (Handed HEADER PACKET)
  | this, [] => .ok { channel := this, packets := [], ret := 0 }
  | this, recv :: later => do
      let handed ← this.handleInput_i protocol handlePacket recv
      if handed.ret = -1 then
        pure handed
      else do
        let rest ← run protocol handlePacket handed.channel later
        pure { rest with packets := handed.packets ++ rest.packets }

end PacketChannel

end Stheno.Net
