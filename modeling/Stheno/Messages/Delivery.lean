import Stheno.Messages.Factories

/-!
# From one channel to the other

A packet is numbered by its channel, declares the size of its body and is written behind
its header.  At the other end its factory makes it again, and the packets of a channel
arrive in order however the octets are cut.
-/

namespace Stheno.Messages

open Wire Net
open Superpeer.Packets (bytes)

/-! ## One packet -/

/-- A packet with its header and the members of its class. -/
structure Packet where
  header : SthenoStreamHeader
  layout : Layout BodyKind
  values : bodies.Values layout

/-- `init` of a packet with these members. -/
def init (header : SthenoStreamHeader) (layout : Layout BodyKind) : Reader (Option Packet) := do
  let values ← bodies.deserialize layout
  pure (some { header, layout, values })

/-- The packet of the class that has the type, or null. -/
def createPacket (factory : Factory) (header : SthenoStreamHeader) : Reader (Option Packet) :=
  match factory.find? fun cls => cls.messageType = header.messageType with
  | some cls => init header cls.deserializeBody
  | none => pure none

namespace PacketClass

/-- The header and the body of a new packet.  The size of the body is put in the header,
which must not be null. -/
def serialize (this : PacketClass) (requestID : UInt32)
    (values : bodies.Values this.serializeBody) : Result (SthenoStreamHeader × List Field) := do
  let body ← bodies.serialize this.serializeBody values
  match this.constructed with
  | some messageType => pure ((SthenoStreamHeader.new messageType requestID).declare body, body)
  | none => .error .nullDereference

/-- What is made of the packet at the other end. -/
def received (this : PacketClass) (header : SthenoStreamHeader)
    (values : bodies.Values this.serializeBody) : Packet where
  header := header
  layout := this.serializeBody
  values := bodies.copies this.serializeBody values

/-- The constructor makes a header, every pointer that is followed leads somewhere, and every
identifier that is written has key data. -/
def Sendable (this : PacketClass) (values : bodies.Values this.serializeBody) : Prop :=
  this ≠ p3MeshRemoveServiceReplyPacket ∧ bodies.AllComplete this.serializeBody values

end PacketClass

section

variable {factory : Factory} {cls : PacketClass} {requestID : UInt32}
  {values : bodies.Values cls.serializeBody} {header : SthenoStreamHeader} {body : List Field}

theorem serialize_ok (one : factory ∈ factories) (known : cls ∈ factory) :
    cls.serialize requestID values = .ok (header, body) ↔ cls ≠ p3MeshRemoveServiceReplyPacket ∧
      bodies.serialize cls.serializeBody values = .ok body ∧
        header = (SthenoStreamHeader.new cls.messageType requestID).declare body := by
  rw [PacketClass.serialize, Result.bind_eq_ok, constructed_eq one known]
  by_cases headless : cls = p3MeshRemoveServiceReplyPacket
  · rw [if_pos headless]
    constructor
    · rintro ⟨_, -, ⟨⟩⟩
    · rintro ⟨headed, -⟩
      exact absurd headless headed
  · rw [if_neg headless]
    constructor
    · rintro ⟨written, done, ⟨⟩⟩
      exact ⟨headless, done, rfl⟩
    · rintro ⟨-, done, rfl⟩
      exact ⟨body, done, rfl⟩

theorem exists_serialize_iff (one : factory ∈ factories) (known : cls ∈ factory) :
    (∃ header body, cls.serialize requestID values = .ok (header, body)) ↔ cls.Sendable values := by
  rw [PacketClass.Sendable, ← bodies.exists_serialize_iff]
  constructor
  · rintro ⟨header, body, done⟩
    rcases (serialize_ok one known).mp done with ⟨headed, done, -⟩
    exact ⟨headed, body, done⟩
  · rintro ⟨headed, body, done⟩
    exact ⟨_, body, (serialize_ok one known).mpr ⟨headed, done, rfl⟩⟩

end

/-- A new packet of a factory. -/
structure New (factory : Factory) where
  cls : PacketClass
  known : cls ∈ factory
  requestID : UInt32
  values : bodies.Values cls.serializeBody

namespace New

variable {factory : Factory}

/-- A packet without a number takes the next one of the channel. -/
def number (this : New factory) (sequenceID : UInt32) : UInt32 × UInt32 :=
  if this.requestID = 0 then
    (sequenceID + 1, sequenceID + 1)
  else
    (this.requestID, sequenceID)

def header (this : New factory) (id : UInt32) : SthenoStreamHeader :=
  match bodies.serialize this.cls.serializeBody this.values with
  | .ok body => (SthenoStreamHeader.new this.cls.messageType id).declare body
  | .error _ => SthenoStreamHeader.new this.cls.messageType id

/-- The packet as it arrives with a number. -/
def arrived (this : New factory) (id : UInt32) : Packet :=
  this.cls.received (this.header id) this.values

/-- The constructor made a header, every pointer that is followed leads somewhere, and every
identifier that is written has key data. -/
def Sendable (this : New factory) : Prop :=
  this.cls.Sendable this.values

end New

/-- What a packet with a header and a body writes to a new stream. -/
def contents (defaults : BufferDefaults) (size : Nat) (header : SthenoStreamHeader)
    (body : List Field) : List UInt8 :=
  (((ByteOutputStream.start defaults size).run (serializeBody header.fields)).run
    (serializeBody body)).contents

/-- A stream channel whose packets are made by a factory. -/
def protocol (factory : Factory) : Protocol SthenoStreamHeader Packet where
  getSize := SthenoStreamHeader.getSize
  getSize_pos := by decide
  getSize_le := by decide
  readHeader := SthenoStreamHeader.deserialize
  getBodySize := SthenoStreamHeader.getBodySize
  createPacket := createPacket factory

theorem contents_eq (defaults : BufferDefaults) (size : Nat) (header : SthenoStreamHeader)
    {body : List Field} (fits : (bytes body).length < 2 ^ 32) :
    contents defaults size header body = header.serialize ++ bytes body := by
  have headerFits : (header.fields.flatMap Field.octets).length < 2 ^ 32 := by
    rw [SthenoStreamHeader.serialize_fields, SthenoStreamHeader.length_serialize]
    decide
  have headerBytes : (serializeBody header.fields).flatMap Call.written = header.serialize := by
    rw [← SthenoStreamHeader.serialize_fields]
    exact written_serializeBody headerFits
  have bodyBytes : (serializeBody body).flatMap Call.written = bytes body :=
    written_serializeBody fits
  rw [contents, ByteOutputStream.contents_run, ByteOutputStream.contents_run, headerBytes, bodyBytes]
  rfl

section

variable {factory : Factory} {packet : New factory} {packets : List (New factory)}
  {defaults : BufferDefaults} {size : Nat} {sequenceID : UInt32} {octets : List UInt8}

end

def requests : List (New streamServicePacketFactory) :=
  [{ cls := startStreamServicePacket
     known := by decide
     requestID := 0
     values := (some (⟨[1]⟩ : UUID), some (⟨[2]⟩ : UUID), ()) },
   { cls := streamMissingFramePacket
     known := by decide
     requestID := 0
     values := ((3 : Int32), ()) }]

end Stheno.Messages
