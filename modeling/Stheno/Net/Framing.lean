import Stheno.Net.Header
import Stheno.Net.PacketChannel

/-!
# Packet framing

However the bytes of a sequence of packets are cut into pieces, the channel hands on
these packets in order.  Between calls the buffer and the bytes still to come are the
packets still to come, less a header that has been read already, and there is room
for the rest of the header or body that the channel waits for.
-/

namespace Stheno.Net

open Wire

variable {HEADER PACKET : Type}

/-- A packet on the wire: its header declares the length of its body, and the factory
knows its type. -/
structure Sent (protocol : Protocol HEADER PACKET) where
  packet : PACKET
  header : HEADER
  headerBytes : List UInt8
  body : List UInt8
  headerLength : headerBytes.length = protocol.getSize
  headerReads : Reads protocol.readHeader headerBytes header
  bodySize : (protocol.getBodySize header).toNat = body.length
  bodyReads : Reads (protocol.createPacket header) body (some packet)
  bounded : body.length < 2 ^ 32 - 1122

def Sent.bytes {protocol : Protocol HEADER PACKET} (this : Sent protocol) : List UInt8 :=
  this.headerBytes ++ this.body

/-! ## The buffer -/

namespace MessageBlock

variable {block : MessageBlock} {first left : List UInt8}

theorem data_consumeTo (split : block.data = first ++ left) :
    (block.consumeTo left.length).data = left := by
  simp [consumeTo, split]

theorem rd_consumeTo (split : block.data = first ++ left) :
    (block.consumeTo left.length).rd = block.rd + first.length := by
  simp [consumeTo, split]

theorem exists_moveTo {size : Nat} (fits : block.data.length ≤ size) :
    ∃ buffer, block.moveTo size = .ok buffer ∧ buffer.size = size ∧ buffer.rd = 0 ∧
      buffer.data = block.data :=
  ⟨_, dif_pos fits, rfl, rfl, rfl⟩

theorem data_length_le (block : MessageBlock) : block.data.length ≤ block.size :=
  Nat.le_trans (Nat.le_add_left _ _) block.fits

end MessageBlock

namespace PacketChannel

variable {protocol : Protocol HEADER PACKET}

/-- There is room for the rest of the header, or of the body once there is a header. -/
def HasRoom (protocol : Protocol HEADER PACKET) (this : PacketChannel HEADER) : Prop :=
  0 < this.partialMessage.space ∧
  match this.header with
  | none => protocol.getSize ≤ this.partialMessage.length + this.partialMessage.space
  | some header => (protocol.getBodySize header).toNat ≤
      this.partialMessage.length + this.partialMessage.space

/-- The buffer ends before the header or the body does. -/
def Waits (protocol : Protocol HEADER PACKET) (this : PacketChannel HEADER) : Prop :=
  match this.header with
  | none => this.partialMessage.length < protocol.getSize
  | some header => this.partialMessage.length < (protocol.getBodySize header).toNat

/-- The bytes in the buffer and those to come are the pending packets, less the header
that the channel has. -/
inductive Holds (protocol : Protocol HEADER PACKET) :
    PacketChannel HEADER → List UInt8 → List (Sent protocol) → Prop where
  | start {block : MessageBlock} {future : List UInt8} {pending : List (Sent protocol)}
      (front : block.rd = 0) (large : MAX_BUFFER_SIZE ≤ block.size)
      (stream : block.data ++ future = pending.flatMap Sent.bytes) :
      Holds protocol { header := none, partialMessage := block } future pending
  | body {block : MessageBlock} {future : List UInt8} {sent : Sent protocol}
      {pending : List (Sent protocol)} (missing : 0 < sent.body.length)
      (room : block.rd + sent.body.length ≤ block.size)
      (large : MAX_BUFFER_SIZE ≤ block.size)
      (stream : block.data ++ future = sent.body ++ pending.flatMap Sent.bytes) :
      Holds protocol { header := some sent.header, partialMessage := block } future
        (sent :: pending)

theorem Holds.hasRoom {this : PacketChannel HEADER} {future : List UInt8}
    {pending : List (Sent protocol)} (holds : Holds protocol this future pending)
    (waits : Waits protocol this) : HasRoom protocol this := by
  cases holds with
  | @start block future pending front large stream =>
      have small := protocol.getSize_le
      unfold Waits at waits
      unfold HasRoom
      simp only [MessageBlock.space, MessageBlock.length, MAX_BUFFER_SIZE, front] at *
      omega
  | @body block future sent pending missing room large stream =>
      have declared := sent.bodySize
      unfold Waits at waits
      unfold HasRoom
      simp only [MessageBlock.space, MessageBlock.length] at *
      omega

/-! ## One packet -/

theorem finishPacket_sent (sent : Sent protocol) {block : MessageBlock} {left : List UInt8}
    (goodBit : Bool) (split : block.data = sent.body ++ left) :
    ∃ buffer, finishPacket protocol block sent.header { data := block.data, goodBit } =
        .ok { channel := { header := none, partialMessage := buffer }
              inputPacket := some sent.packet, ret := 0 } ∧
      buffer.rd = 0 ∧ buffer.size = block.size ∧ buffer.data = left := by
  have created := sent.bodyReads left goodBit
  rw [← split] at created
  rcases (block.consumeTo left.length).exists_moveTo (MessageBlock.data_length_le _) with
    ⟨buffer, moved, size, rd, data⟩
  refine ⟨buffer, ?_, rd, size, ?_⟩
  · simp only [finishPacket, created, bind, Except.bind, moved]
    rfl
  · rw [data, MessageBlock.data_consumeTo split]

theorem exists_makeRoom (sent : Sent protocol) {block : MessageBlock}
    (large : MAX_BUFFER_SIZE ≤ block.size) (missing : block.length < sent.body.length) :
    ∃ roomy, makeRoom protocol block sent.header = .ok roomy ∧ roomy.data = block.data ∧
      roomy.rd + sent.body.length ≤ roomy.size ∧ MAX_BUFFER_SIZE ≤ roomy.size := by
  have bounded := sent.bounded
  have small := protocol.getSize_le
  unfold makeRoom
  simp only [sent.bodySize]
  rw [if_pos missing]
  by_cases grows : block.space < sent.body.length - block.length
  · have noWrap : (protocol.getSize + sent.body.length + MAX_BUFFER_SIZE) % 2 ^ 32 =
        protocol.getSize + sent.body.length + MAX_BUFFER_SIZE := by
      apply Nat.mod_eq_of_lt
      simp only [MAX_BUFFER_SIZE]
      omega
    rw [if_pos grows, noWrap]
    have fits : block.data.length ≤ protocol.getSize + sent.body.length + MAX_BUFFER_SIZE := by
      simp only [MessageBlock.length] at missing
      omega
    rcases block.exists_moveTo fits with ⟨roomy, moved, size, rd, data⟩
    refine ⟨roomy, moved, data, ?_, ?_⟩
    · rw [size, rd]
      omega
    · rw [size]
      exact Nat.le_add_left _ _
  · rw [if_neg grows]
    rcases block.exists_moveTo block.data_length_le with ⟨roomy, moved, size, rd, data⟩
    refine ⟨roomy, moved, data, ?_, ?_⟩
    · rw [size, rd]
      have fits := block.fits
      simp only [MessageBlock.space, MessageBlock.length] at grows missing
      omega
    · rw [size]
      exact large

/-- The next thing a channel hands on, or nothing yet. -/
def Advances (protocol : Protocol HEADER PACKET) (result : Result (Parsed HEADER PACKET))
    (length : Nat) (future : List UInt8) (pending : List (Sent protocol)) : Prop :=
  (∃ channel, result = .ok { channel, inputPacket := none, ret := 0 } ∧
    Holds protocol channel future pending ∧ Waits protocol channel) ∨
  ∃ sent rest channel, pending = sent :: rest ∧
    result = .ok { channel, inputPacket := some sent.packet, ret := 0 } ∧
    Holds protocol channel future rest ∧ channel.partialMessage.length < length

/-- Two ways to cut one list: the longer first part starts with the shorter one. -/
theorem exists_of_append_eq_append {α : Type} {as bs cs ds : List α}
    (equal : as ++ bs = cs ++ ds) (longer : cs.length ≤ as.length) :
    ∃ rest, as = cs ++ rest ∧ rest ++ bs = ds := by
  rcases List.append_eq_append_iff.mp equal with ⟨more, whole, tail⟩ | ⟨more, whole, tail⟩
  · have none : more = [] := by
      have lengths := congrArg List.length whole
      rw [List.length_append] at lengths
      exact List.eq_nil_of_length_eq_zero (by omega)
    subst none
    exact ⟨[], by simp [whole], by simpa using tail⟩
  · exact ⟨more, whole, tail.symm⟩

theorem advances_parseBody (sent : Sent protocol) {block : MessageBlock} {length : Nat}
    {future : List UInt8} {pending : List (Sent protocol)} (goodBit : Bool)
    (room : block.length < sent.body.length → block.rd + sent.body.length ≤ block.size)
    (large : MAX_BUFFER_SIZE ≤ block.size)
    (stream : block.data ++ future = sent.body ++ pending.flatMap Sent.bytes)
    (shorter : block.length < length + sent.body.length) :
    Advances protocol (parseBody protocol block sent.header { data := block.data, goodBit }) length
      future (sent :: pending) := by
  unfold parseBody
  rw [sent.bodySize]
  by_cases missing : block.length < sent.body.length
  · rw [if_pos missing]
    refine Or.inl ⟨_, rfl, .body (Nat.zero_lt_of_lt missing) (room missing) large stream, ?_⟩
    change block.length < (protocol.getBodySize sent.header).toNat
    rwa [sent.bodySize]
  · rw [if_neg missing]
    rcases exists_of_append_eq_append stream (Nat.le_of_not_lt missing) with ⟨left, split, rest⟩
    rcases finishPacket_sent sent goodBit split with ⟨buffer, finished, rd, size, data⟩
    refine Or.inr ⟨sent, pending, _, rfl, finished, .start rd (size ▸ large) (data ▸ rest), ?_⟩
    have lengths := congrArg List.length split
    rw [List.length_append] at lengths
    simp only [MessageBlock.length, data] at *
    omega

theorem advances_parseHeader (sent : Sent protocol) {block : MessageBlock} {future left : List UInt8}
    {pending : List (Sent protocol)} (front : block.rd = 0) (large : MAX_BUFFER_SIZE ≤ block.size)
    (split : block.data = sent.headerBytes ++ left)
    (stream : left ++ future = sent.body ++ pending.flatMap Sent.bytes) :
    Advances protocol (parseHeader protocol block) block.length future (sent :: pending) := by
  have positive := protocol.getSize_pos
  have headerLength := sent.headerLength
  have read := sent.headerReads left true
  rw [← split] at read
  have data := MessageBlock.data_consumeTo split
  have rd := MessageBlock.rd_consumeTo split
  have lengths := congrArg List.length split
  rw [List.length_append] at lengths
  have bis : ({ data := left, goodBit := true } : InputStream) =
      { data := (block.consumeTo left.length).data, goodBit := true } := by
    rw [data]
  have size : (block.consumeTo left.length).size = block.size := rfl
  unfold parseHeader
  simp only [read, bind, Except.bind, Bool.not_true, Bool.false_eq_true, if_false]
  rw [bis]
  generalize block.consumeTo left.length = behind at data rd size
  subst data
  by_cases empty : protocol.getBodySize sent.header = 0
  · rw [if_pos empty]
    have noBody : sent.body = [] := by
      have declared := sent.bodySize
      rw [empty] at declared
      exact List.eq_nil_of_length_eq_zero declared.symm
    have start : behind.data = sent.body ++ behind.data := by
      rw [noBody, List.nil_append]
    rcases finishPacket_sent sent true start with ⟨buffer, finished, front, whole, rest⟩
    rw [noBody, List.nil_append] at stream
    refine Or.inr ⟨sent, pending, _, rfl, finished, .start front ?_ (rest ▸ stream), ?_⟩
    · rw [whole, size]
      exact large
    · simp only [MessageBlock.length, rest]
      omega
  · rw [if_neg empty]
    by_cases missing : behind.length < sent.body.length
    · rcases exists_makeRoom sent (size ▸ large) missing with ⟨roomy, made, same, room, largeRoomy⟩
      simp only [made]
      rw [← same]
      apply advances_parseBody sent true (fun _ => room) largeRoomy (same ▸ stream)
      simp only [MessageBlock.length, same] at missing ⊢
      omega
    · have kept : makeRoom protocol behind sent.header = .ok behind := by
        unfold makeRoom
        simp only [sent.bodySize]
        exact if_neg missing
      simp only [kept]
      apply advances_parseBody sent true (fun absurdly => absurd absurdly missing) (size ▸ large) stream
      simp only [MessageBlock.length] at *
      omega

/-- Every call either waits for more bytes or hands on the next packet. -/
theorem advances_handleInputParsePacket {this : PacketChannel HEADER} {future : List UInt8}
    {pending : List (Sent protocol)} (holds : Holds protocol this future pending) :
    Advances protocol (this.handleInputParsePacket protocol) this.partialMessage.length future
      pending := by
  have positive := protocol.getSize_pos
  unfold handleInputParsePacket
  cases holds with
  | @start block future pending front large stream =>
      by_cases empty : block.length = 0
      · rw [if_pos empty]
        refine Or.inl ⟨_, rfl, .start front large stream, ?_⟩
        change block.length < protocol.getSize
        rwa [empty]
      · rw [if_neg empty]
        by_cases missing : block.length < protocol.getSize
        · simp only [if_pos missing]
          exact Or.inl ⟨_, rfl, .start front large stream, missing⟩
        · simp only [if_neg missing]
          cases pending with
          | nil =>
              have nothing := (List.append_eq_nil_iff.mp stream).1
              exact absurd (congrArg List.length nothing) empty
          | cons sent rest =>
              rw [List.flatMap_cons, Sent.bytes, List.append_assoc] at stream
              have longer : sent.headerBytes.length ≤ block.data.length := by
                rw [sent.headerLength]
                exact Nat.le_of_not_lt missing
              rcases exists_of_append_eq_append stream longer with ⟨left, split, remains⟩
              exact advances_parseHeader sent front large split remains
  | @body block future sent pending missing room large stream =>
      by_cases empty : block.length = 0
      · rw [if_pos empty]
        refine Or.inl ⟨_, rfl, .body missing room large stream, ?_⟩
        change block.length < (protocol.getBodySize sent.header).toNat
        rwa [empty, sent.bodySize]
      · rw [if_neg empty]
        exact advances_parseBody sent true (fun _ => room) large stream
          (Nat.lt_add_of_pos_right missing)

/-! ## All packets of one call -/

/-- A call hands on the first packets that are pending, and waits. -/
def HandsOn (protocol : Protocol HEADER PACKET) (result : Result (Handed HEADER PACKET))
    (future : List UInt8) (pending : List (Sent protocol)) : Prop :=
  ∃ first rest channel, pending = first ++ rest ∧
    result = .ok { channel, packets := first.map Sent.packet, ret := 0 } ∧
    Holds protocol channel future rest ∧ Waits protocol channel

variable {handlePacket : PACKET → Int} {future : List UInt8} {pending : List (Sent protocol)}

theorem handsOn_parseLoop {this : PacketChannel HEADER} (holds : Holds protocol this future pending)
    (stays : ∀ sent ∈ pending, handlePacket sent.packet ≠ -1) {fuel : Nat}
    (enough : this.partialMessage.length < fuel) :
    HandsOn protocol (parseLoop protocol handlePacket fuel this) future pending := by
  induction fuel generalizing this pending with
  | zero => cases enough
  | succ fuel ih =>
      rcases advances_handleInputParsePacket holds with
        ⟨channel, parsed, holdsAfter, waits⟩ | ⟨sent, rest, channel, rfl, parsed, holdsAfter, shorter⟩
      · refine ⟨[], pending, channel, rfl, ?_, holdsAfter, waits⟩
        simp only [parseLoop, parsed, bind, Except.bind]
        rfl
      · have staysHere := stays sent List.mem_cons_self
        rcases ih holdsAfter (fun other member => stays other (List.mem_cons_of_mem _ member))
          (Nat.lt_of_lt_of_le shorter (Nat.le_of_lt_succ enough)) with
          ⟨first, later, last, rfl, done, holdsLast, waits⟩
        refine ⟨sent :: first, later, last, rfl, ?_, holdsLast, waits⟩
        simp only [parseLoop, parsed, bind, Except.bind, if_neg staysHere, done]
        rfl

theorem handsOn_handleInput_i {this : PacketChannel HEADER} {recv : List UInt8}
    (holds : Holds protocol this (recv ++ future) pending)
    (stays : ∀ sent ∈ pending, handlePacket sent.packet ≠ -1) (some : recv ≠ [])
    (fits : recv.length ≤ this.partialMessage.space) :
    HandsOn protocol (this.handleInput_i protocol handlePacket recv) future pending := by
  rcases MessageBlock.exists_append fits with ⟨room, appended⟩
  have holdsAfter : Holds protocol { this with partialMessage :=
      { this.partialMessage with data := this.partialMessage.data ++ recv, fits := room } }
      future pending := by
    cases holds with
    | start front large stream =>
        rw [← List.append_assoc] at stream
        exact .start front large stream
    | body missing bodyRoom large stream =>
        rw [← List.append_assoc] at stream
        exact .body missing bodyRoom large stream
  have received : (recv.length : Int) ≠ -1 := by
    omega
  have looped := handsOn_parseLoop holdsAfter stays (Nat.lt_succ_self _)
  unfold handleInput_i readInputBuffer
  simp only [if_neg some, appended, bind, Except.bind, pure, Except.pure, if_neg received]
  exact looped

/-! ## All calls -/

/-- What `recv` may answer: at least one byte, and no more than there is space for. -/
def Fits (protocol : Protocol HEADER PACKET) (handlePacket : PACKET → Int) :
    PacketChannel HEADER → List (List UInt8) → Prop
  | _, [] => True
  | this, recv :: later =>
      recv ≠ [] ∧ recv.length ≤ this.partialMessage.space ∧
        ∀ handed, this.handleInput_i protocol handlePacket recv = .ok handed →
          Fits protocol handlePacket handed.channel later

theorem handsOn_run {this : PacketChannel HEADER} {chunks : List (List UInt8)}
    (holds : Holds protocol this (chunks.flatten ++ future) pending)
    (waits : Waits protocol this) (stays : ∀ sent ∈ pending, handlePacket sent.packet ≠ -1)
    (fits : Fits protocol handlePacket this chunks) :
    HandsOn protocol (this.run protocol handlePacket chunks) future pending := by
  induction chunks generalizing this pending with
  | nil => exact ⟨[], pending, this, rfl, rfl, holds, waits⟩
  | cons recv later ih =>
      rw [List.flatten_cons, List.append_assoc] at holds
      rcases handsOn_handleInput_i holds stays fits.1 fits.2.1 with
        ⟨first, rest, channel, rfl, handed, holdsAfter, waitsAfter⟩
      rcases ih holdsAfter waitsAfter (fun sent member => stays sent (List.mem_append_right _ member))
        (fits.2.2 _ handed) with ⟨more, left, last, rfl, done, holdsLast, waitsLast⟩
      refine ⟨first ++ more, left, last, (List.append_assoc _ _ _).symm, ?_, holdsLast, waitsLast⟩
      simp only [run, handed, bind, Except.bind, done, List.map_append]
      rfl

theorem Fits.prefix {this : PacketChannel HEADER} {before after : List (List UInt8)}
    (fits : Fits protocol handlePacket this (before ++ after)) :
    Fits protocol handlePacket this before := by
  induction before generalizing this with
  | nil => trivial
  | cons recv later ih =>
      rcases fits with ⟨some, small, all⟩
      exact ⟨some, small, fun handed done => ih (all handed done)⟩

theorem holds_new {future : List UInt8} (stream : future = pending.flatMap Sent.bytes) :
    Holds protocol new future pending :=
  .start rfl (Nat.le_refl _) stream

theorem waits_new : Waits protocol (new : PacketChannel HEADER) :=
  protocol.getSize_pos

/-- Nothing is pending once all bytes have come. -/
theorem Holds.pending_eq_nil {this : PacketChannel HEADER} (holds : Holds protocol this [] pending)
    (waits : Waits protocol this) : pending = [] := by
  cases holds with
  | @start block _ pending front large stream =>
      cases pending with
      | nil => rfl
      | cons sent rest =>
          have lengths := congrArg List.length stream
          simp only [List.append_nil, List.flatMap_cons, List.length_append, Sent.bytes,
            sent.headerLength] at lengths
          change block.data.length < protocol.getSize at waits
          omega
  | @body block _ sent pending missing room large stream =>
      have lengths := congrArg List.length stream
      rw [List.append_nil, List.length_append] at lengths
      change block.data.length < (protocol.getBodySize sent.header).toNat at waits
      rw [sent.bodySize] at waits
      omega

/-- However the stream is cut, the channel hands on the packets that were sent, in
order, and whenever it waits there is room for what it waits for. -/
theorem packets_delivered (protocol : Protocol HEADER PACKET) (handlePacket : PACKET → Int)
    (packets : List (Sent protocol)) (chunks : List (List UInt8))
    (split : chunks.flatten = packets.flatMap Sent.bytes)
    (fits : Fits protocol handlePacket new chunks)
    (stays : ∀ sent ∈ packets, handlePacket sent.packet ≠ -1) :
    (∃ channel, run protocol handlePacket new chunks =
      .ok { channel, packets := packets.map Sent.packet, ret := 0 }) ∧
    ∀ before after, chunks = before ++ after → ∃ channel first,
      run protocol handlePacket new before =
        .ok { channel, packets := first.map Sent.packet, ret := 0 } ∧
      List.IsPrefix first packets ∧ HasRoom protocol channel := by
  constructor
  · have holds : Holds protocol (new : PacketChannel HEADER) (chunks.flatten ++ []) packets := by
      apply holds_new
      rw [List.append_nil, split]
    rcases handsOn_run holds waits_new stays fits with
      ⟨first, rest, channel, rfl, done, holdsAfter, waits⟩
    rw [holdsAfter.pending_eq_nil waits, List.append_nil]
    exact ⟨channel, done⟩
  · rintro before after rfl
    have holds : Holds protocol (new : PacketChannel HEADER) (before.flatten ++ after.flatten)
        packets := by
      apply holds_new
      rw [← List.flatten_append, split]
    rcases handsOn_run holds waits_new stays fits.prefix with
      ⟨first, rest, channel, rfl, done, holdsAfter, waits⟩
    exact ⟨channel, first, done, List.prefix_append _ _, holdsAfter.hasRoom waits⟩

/-! ## Leave packets of a cell -/

section LeaveMesh

/-- A `LeaveMeshPacket` with its header. -/
structure LeaveMesh where
  header : SthenoHeader
  uuid : UUID
  cellID : UUID
  deriving DecidableEq

def LEAVE_MESH_PACKET : UInt16 := 0x15

/-- The case of `CellPacketFactory` for leave packets. -/
def leaveProtocol : Protocol SthenoHeader LeaveMesh where
  getSize := SthenoHeader.getSize
  getSize_pos := by decide
  getSize_le := Nat.le_refl _
  readHeader := SthenoHeader.deserialize
  getBodySize := SthenoHeader.getBodySize
  createPacket := fun header =>
    if header.messageType = LEAVE_MESH_PACKET then do
      let uuid ← UUID.deserialize
      let cellID ← UUID.deserialize
      pure (some { header, uuid, cellID })
    else
      pure none

def LeaveMesh.body (this : LeaveMesh) : List UInt8 :=
  this.uuid.octets ++ this.cellID.octets

/-- A leave packet whose header is that of its class and declares its body. -/
structure LeaveMesh.Ready (this : LeaveMesh) : Prop where
  type : this.header.messageType = LEAVE_MESH_PACKET
  size : this.header.messageSize.toNat = this.body.length
  keys : this.header.DefaultKeys
  uuid : this.uuid.key.length = 16
  cellID : this.cellID.key.length = 16

def LeaveMesh.sent (this : LeaveMesh) (ready : this.Ready) : Sent leaveProtocol where
  packet := this
  header := this.header
  headerBytes := this.header.octets
  body := this.body
  headerLength := SthenoHeader.length_octets ready.keys
  headerReads := SthenoHeader.reads ready.keys
  bodySize := ready.size
  bodyReads := by
    change Reads (if this.header.messageType = LEAVE_MESH_PACKET then _ else _) _ _
    rw [if_pos ready.type]
    apply (SthenoHeader.reads_key ready.uuid).bind
    exact (SthenoHeader.reads_key ready.cellID).bind_pure fun cellID =>
      some (LeaveMesh.mk this.header this.uuid cellID)
  bounded := by
    rw [LeaveMesh.body, List.length_append, UUID.length_octets, UUID.length_octets,
      ready.uuid, ready.cellID]
    decide

instance decidableFits (protocol : Protocol HEADER PACKET) (handlePacket : PACKET → Int) :
    (this : PacketChannel HEADER) → (chunks : List (List UInt8)) →
      Decidable (Fits protocol handlePacket this chunks)
  | _, [] => isTrue trivial
  | this, recv :: later =>
      have rest : Decidable (∀ handed, this.handleInput_i protocol handlePacket recv = .ok handed →
          Fits protocol handlePacket handed.channel later) :=
        match this.handleInput_i protocol handlePacket recv with
        | .ok handed =>
            have := decidableFits protocol handlePacket handed.channel later
            decidable_of_iff (Fits protocol handlePacket handed.channel later) (by
              constructor
              · intro fits other equal
                cases equal
                exact fits
              · intro all
                exact all handed rfl)
        | .error _ => isTrue (by
            intro handed impossible
            cases impossible)
      inferInstanceAs (Decidable (recv ≠ [] ∧ recv.length ≤ this.partialMessage.space ∧ _))

/-- The departure of a peer from a cell. -/
def leaving (uuid : UInt8) : LeaveMesh where
  header :=
    { magic := SthenoHeader.STHENO_MAGIC
      protocol := 0
      protocolVersionMajor := 0
      protocolVersionMinor := 1
      srcPID := ⟨List.replicate 16 1⟩
      srcFID := ⟨List.replicate 16 2⟩
      dstPID := ⟨List.replicate 16 3⟩
      dstFID := ⟨List.replicate 16 4⟩
      messageType := LEAVE_MESH_PACKET
      requestID := 7
      messageSize := 40 }
  uuid := ⟨List.replicate 16 uuid⟩
  cellID := ⟨List.replicate 16 2⟩

theorem ready_leaving (uuid : UInt8) : (leaving uuid).Ready :=
  ⟨rfl, rfl, ⟨rfl, rfl, rfl, rfl⟩, rfl, rfl⟩

theorem headerLength_leaving (uuid : UInt8) :
    (leaving uuid).header.octets.length = SthenoHeader.getSize :=
  SthenoHeader.length_octets (ready_leaving uuid).keys

theorem headerReads_leaving (uuid : UInt8) :
    Reads SthenoHeader.deserialize (leaving uuid).header.octets (leaving uuid).header :=
  SthenoHeader.reads (ready_leaving uuid).keys

theorem bodySize_leaving (uuid : UInt8) :
    (SthenoHeader.getBodySize (leaving uuid).header).toNat = (leaving uuid).body.length :=
  (ready_leaving uuid).size

/-- Two packets in pieces that end inside a header, inside a body and behind a header. -/
def pieces : List (List UInt8) :=
  let stream := ((leaving 5).sent (ready_leaving 5)).bytes ++ ((leaving 6).sent (ready_leaving 6)).bytes
  [stream.take 1, (stream.drop 1).take 107, (stream.drop 108).take 128, stream.drop 236]

theorem packets_delivered_pieces :
    ∃ channel, run leaveProtocol (fun _ => 0) new pieces =
      .ok { channel, packets := [leaving 5, leaving 6], ret := 0 } := by
  have fits : Fits leaveProtocol (fun _ => 0) new pieces := by
    decide +kernel
  have split : pieces.flatten = [(leaving 5).sent (ready_leaving 5),
      (leaving 6).sent (ready_leaving 6)].flatMap Sent.bytes := by
    decide +kernel
  exact (packets_delivered leaveProtocol (fun _ => 0)
    [(leaving 5).sent (ready_leaving 5), (leaving 6).sent (ready_leaving 6)] pieces split fits
    (by decide)).1

end LeaveMesh

end PacketChannel

end Stheno.Net
