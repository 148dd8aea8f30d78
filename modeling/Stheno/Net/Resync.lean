import Mathlib.Logic.Relation
import Stheno.Net.BufferGrowth
import Stheno.Net.Frames

/-!
# Unknown frames in the stream of a channel

The factory answers null for an unknown frame and leaves its body in the buffer, and the
loop of `handleInput_i` takes null for an incomplete packet.  The channel gets over an
unknown frame if that has no body, and if the known frames that came with it are handed on
by a later call.
-/

namespace Stheno.Net.PacketChannel

open Wire Relation

variable {HEADER PACKET : Type} {protocol : Protocol HEADER PACKET} {handlePacket : PACKET → Int}

/-! ## What a channel should do -/

/-- The loop of `handleInput_i` hands a packet on and goes on with the next channel. -/
def LoopsTo (protocol : Protocol HEADER PACKET) (handlePacket : PACKET → Int)
    (this next : PacketChannel HEADER) : Prop :=
  ∃ parsed packet, this.handleInputParsePacket protocol = .ok parsed ∧ parsed.ret ≠ -1 ∧
    parsed.inputPacket = some packet ∧ handlePacket packet ≠ -1 ∧ next = parsed.channel

/-- In a run from `this`, `handleInputParsePacket` is called on `last` while the bytes
`future` are still to come. -/
inductive Called (protocol : Protocol HEADER PACKET) (handlePacket : PACKET → Int) :
    PacketChannel HEADER → List (List UInt8) → PacketChannel HEADER → List UInt8 → Prop where
  | here {this last received : PacketChannel HEADER} {recv : List UInt8}
      {later : List (List UInt8)} {size : Int}
      (read : this.readInputBuffer recv = .ok (received, size)) (some : size ≠ -1)
      (loops : ReflTransGen (LoopsTo protocol handlePacket) received last) :
      Called protocol handlePacket this (recv :: later) last later.flatten
  | later {this last : PacketChannel HEADER} {recv future : List UInt8}
      {later : List (List UInt8)} {handed : Handed HEADER PACKET}
      (done : this.handleInput_i protocol handlePacket recv = .ok handed) (stays : handed.ret ≠ -1)
      (called : Called protocol handlePacket handed.channel later last future) :
      Called protocol handlePacket this (recv :: later) last future

/-- At any time the packets of the known frames that have arrived have been handed on, in
order, unless the channel is closed, and headers are read at the starts of frames only. -/
structure Resynchronises (protocol : Protocol HEADER PACKET) (handlePacket : PACKET → Int)
    (frames : List (Frame protocol)) (this : PacketChannel HEADER) (pending : List (Frame protocol))
    (held : Nat) (chunks : List (List UInt8)) : Prop where
  delivers : ∀ before after, chunks = before ++ after → ∃ handed,
    run protocol handlePacket this before = .ok handed ∧
      handed.packets <+: pending.filterMap Frame.packet ∧
      (handed.ret ≠ -1 → handed.packets =
        (arrived pending (held + before.flatten.length)).filterMap Frame.packet)
  headers : ∀ last future, Called protocol handlePacket this chunks last future →
    last.header = none → protocol.getSize ≤ last.partialMessage.length →
      ∃ rest, rest <:+ frames ∧ last.partialMessage.data ++ future = rest.flatMap Frame.bytes

/-- No call stops at an unknown frame with a complete known frame behind it, and only the
last one stops at an unknown frame with a body. -/
def Resumes (handlePacket : PACKET → Int) :
    List (Frame protocol) → Nat → List (List UInt8) → Prop
  | _, _, [] => True
  | pending, held, recv :: later =>
      let next := progress handlePacket pending (held + recv.length)
      next.closed = false →
        (∀ f ∈ arrived next.left next.held, f.packet = none) ∧
        (∀ f ∈ next.skipped, f.body = [] ∨ later = []) ∧
        Resumes handlePacket next.left next.held later

instance decidableResumes (handlePacket : PACKET → Int) :
    (pending : List (Frame protocol)) → (held : Nat) → (chunks : List (List UInt8)) →
      Decidable (Resumes handlePacket pending held chunks)
  | _, _, [] => isTrue trivial
  | pending, held, recv :: later =>
      have := decidableResumes handlePacket
        (progress handlePacket pending (held + recv.length)).left
        (progress handlePacket pending (held + recv.length)).held later
      inferInstanceAs (Decidable (_ = false → _ ∧ _ ∧ _))

/-- Whenever a header is read and its body is incomplete, the buffer can grow. -/
def Grows (protocol : Protocol HEADER PACKET) (handlePacket : PACKET → Int)
    (this : PacketChannel HEADER) (chunks : List (List UInt8)) : Prop :=
  ∀ last future, Called protocol handlePacket this chunks last future →
    ∀ header behind, HeaderParsed protocol last header behind → GrowthFits protocol header behind

/-! ## One call of the parser -/

/-- The bytes in the buffer and those to come are the frames, less a header that the channel
has, and `held` bytes of the frames are there. -/
inductive Aligned (protocol : Protocol HEADER PACKET) :
    PacketChannel HEADER → List UInt8 → List (Frame protocol) → Nat → Prop where
  | start {block : MessageBlock} {future : List UInt8} {pending : List (Frame protocol)}
      (stream : block.data ++ future = pending.flatMap Frame.bytes) :
      Aligned protocol { header := none, partialMessage := block } future pending block.length
  | body {block : MessageBlock} {future : List UInt8} {f : Frame protocol}
      {pending : List (Frame protocol)} (more : 0 < f.body.length)
      (stream : block.data ++ future = f.body ++ pending.flatMap Frame.bytes) :
      Aligned protocol { header := some f.header, partialMessage := block } future (f :: pending)
        (protocol.getSize + block.length)

variable {this : PacketChannel HEADER} {future : List UInt8} {f : Frame protocol}
  {rest pending : List (Frame protocol)} {held : Nat}

/-- The body of a known frame is consumed, that of an unknown one is not. -/
theorem finishPacket_frame (f : Frame protocol) {block : MessageBlock} {left : List UInt8}
    (split : block.data = f.body ++ left) :
    ∃ buffer, finishPacket protocol block f.header { data := block.data, goodBit := true } =
        .ok { channel := { header := none, partialMessage := buffer }
              inputPacket := f.packet, ret := 0 } ∧
      buffer.data = f.leftover ++ left := by
  cases known : f.packet with
  | none =>
      have created : protocol.createPacket f.header { data := block.data, goodBit := true } =
          .ok (none, { data := block.data, goodBit := true }) := by
        rw [f.unknown known]
        rfl
      rcases (block.consumeTo block.data.length).exists_moveTo (MessageBlock.data_length_le _) with
        ⟨buffer, moved, -, -, data⟩
      refine ⟨buffer, ?_, ?_⟩
      · simp only [finishPacket, created, bind, Except.bind, moved]
        rfl
      · rw [data, Frame.leftover, known, ← split]
        exact MessageBlock.data_consumeTo (List.nil_append _).symm
  | some p =>
      have created := f.known p known left true
      rw [← split] at created
      rcases (block.consumeTo left.length).exists_moveTo (MessageBlock.data_length_le _) with
        ⟨buffer, moved, -, -, data⟩
      refine ⟨buffer, ?_, ?_⟩
      · simp only [finishPacket, created, bind, Except.bind, moved]
        rfl
      · rw [data, MessageBlock.data_consumeTo split, Frame.leftover, known]
        rfl

theorem handleInputParsePacket_header {block : MessageBlock}
    (enough : protocol.getSize ≤ block.length) :
    handleInputParsePacket protocol { header := none, partialMessage := block } =
      parseHeader protocol block := by
  have positive := protocol.getSize_pos
  unfold handleInputParsePacket
  rw [if_neg (Nat.ne_of_gt (Nat.lt_of_lt_of_le positive enough))]
  exact if_neg (Nat.not_lt.mpr enough)

theorem handleInputParsePacket_body {block : MessageBlock} {header : HEADER}
    (some : 0 < block.length) :
    handleInputParsePacket protocol { header := Option.some header, partialMessage := block } =
      parseBody protocol block header { data := block.data, goodBit := true } := by
  unfold handleInputParsePacket
  rw [if_neg (Nat.ne_of_gt some)]

/-- A header whose body is there leads to the end of the packet. -/
theorem parseHeader_complete (f : Frame protocol) {block : MessageBlock} {behind : List UInt8}
    (split : block.data = f.headerBytes ++ behind) (complete : f.body.length ≤ behind.length) :
    parseHeader protocol block = finishPacket protocol (block.consumeTo behind.length) f.header
      { data := (block.consumeTo behind.length).data, goodBit := true } := by
  have read := f.headerReads behind true
  have data := MessageBlock.data_consumeTo split
  rw [← split] at read
  unfold parseHeader
  simp only [read, bind, Except.bind, Bool.not_true, Bool.false_eq_true, if_false]
  by_cases empty : protocol.getBodySize f.header = 0
  · rw [if_pos empty, data]
  · have there : ¬(block.consumeTo behind.length).length < (protocol.getBodySize f.header).toNat := by
      unfold MessageBlock.length
      rw [data, f.bodySize]
      exact Nat.not_lt.mpr complete
    have kept : makeRoom protocol (block.consumeTo behind.length) f.header =
        .ok (block.consumeTo behind.length) := by
      unfold makeRoom
      exact if_neg there
    rw [if_neg empty, kept]
    dsimp only
    rw [parseBody, if_neg there, data]

/-- A complete frame is finished; what is left of it stays in front of the rest. -/
theorem parse_complete (aligned : Aligned protocol this future (f :: rest) held)
    (complete : f.length ≤ held) :
    ∃ buffer left, this.handleInputParsePacket protocol =
        .ok { channel := { header := none, partialMessage := buffer }
              inputPacket := f.packet, ret := 0 } ∧
      buffer.data = f.leftover ++ left ∧ left ++ future = rest.flatMap Frame.bytes ∧
      left.length + f.length = held ∧ left.length < this.partialMessage.length := by
  have positive := protocol.getSize_pos
  unfold Frame.length at complete ⊢
  cases aligned with
  | @start block future pending stream =>
      change protocol.getSize + f.body.length ≤ block.data.length at complete
      rw [List.flatMap_cons, Frame.bytes, List.append_assoc] at stream
      have longer : f.headerBytes.length ≤ block.data.length := by
        rw [f.headerLength]
        omega
      rcases exists_of_append_eq_append stream longer with ⟨behind, split, stream⟩
      have lengths := congrArg List.length split
      rw [List.length_append, f.headerLength] at lengths
      have longerBody : f.body.length ≤ behind.length := by
        omega
      rcases exists_of_append_eq_append stream longerBody with ⟨left, splitBody, stream⟩
      have lengthsBody := congrArg List.length splitBody
      rw [List.length_append] at lengthsBody
      have data := (MessageBlock.data_consumeTo split).trans splitBody
      rcases finishPacket_frame f data with ⟨buffer, finished, kept⟩
      refine ⟨buffer, left, ?_, kept, stream, ?_, ?_⟩
      · rw [handleInputParsePacket_header (Nat.le_trans (Nat.le_add_right _ _) complete),
          parseHeader_complete f split longerBody, finished]
      · change left.length + (protocol.getSize + f.body.length) = block.data.length
        omega
      · change left.length < block.data.length
        omega
  | @body block future f pending more stream =>
      have longer : f.body.length ≤ block.data.length := Nat.le_of_add_le_add_left complete
      rcases exists_of_append_eq_append stream longer with ⟨left, split, stream⟩
      have lengths := congrArg List.length split
      rw [List.length_append] at lengths
      rcases finishPacket_frame f split with ⟨buffer, finished, kept⟩
      refine ⟨buffer, left, ?_, kept, stream, ?_, ?_⟩
      · have there : ¬block.length < (protocol.getBodySize f.header).toNat := by
          rw [f.bodySize]
          exact Nat.not_lt.mpr longer
        rw [handleInputParsePacket_body (Nat.lt_of_lt_of_le more longer), parseBody,
          if_neg there, finished]
      · change left.length + (protocol.getSize + f.body.length) = protocol.getSize + block.data.length
        omega
      · change left.length < block.data.length
        omega

/-- A header that is read is that of the next frame. -/
theorem headerParsed_aligned (aligned : Aligned protocol this future pending held)
    {header : HEADER} {behind : MessageBlock}
    (parsed : HeaderParsed protocol this header behind) :
    ∃ f rest, pending = f :: rest ∧ header = f.header ∧
      behind.data ++ future = f.body ++ rest.flatMap Frame.bytes ∧
      held = protocol.getSize + behind.length := by
  have positive := protocol.getSize_pos
  rcases parsed with ⟨awaited, enough, ⟨left, read, rfl⟩, -⟩
  cases aligned with
  | @start block future pending stream =>
      change protocol.getSize ≤ block.data.length at enough
      cases pending with
      | nil =>
          rw [(List.append_eq_nil_iff.mp stream).1] at enough
          exact absurd positive (Nat.not_lt.mpr enough)
      | cons f rest =>
          rw [List.flatMap_cons, Frame.bytes, List.append_assoc] at stream
          rw [← f.headerLength] at enough
          rcases exists_of_append_eq_append stream enough with ⟨behind, split, stream⟩
          have readFrame := f.headerReads behind true
          rw [← split] at readFrame
          cases read.symm.trans readFrame
          have data := MessageBlock.data_consumeTo split
          refine ⟨f, rest, rfl, rfl, ?_, ?_⟩
          · rw [data]
            exact stream
          · unfold MessageBlock.length
            rw [data, split, List.length_append, f.headerLength]
  | body more stream => cases awaited

/-- Without a complete frame the call leaves the channel as it is, or reads a header. -/
theorem parse_waits (aligned : Aligned protocol this future pending held)
    (waits : ∀ f rest, pending = f :: rest → held < f.length) :
    this.handleInputParsePacket protocol = .ok { channel := this, inputPacket := none, ret := 0 } ∨
      ∃ header behind, HeaderParsed protocol this header behind := by
  by_cases empty : this.partialMessage.length = 0
  · unfold handleInputParsePacket
    rw [if_pos empty]
    exact Or.inl rfl
  · cases aligned with
    | @start block future pending stream =>
        by_cases short : block.length < protocol.getSize
        · unfold handleInputParsePacket
          rw [if_neg empty]
          exact Or.inl (if_pos short)
        · cases pending with
          | nil =>
              have nothing := (List.append_eq_nil_iff.mp stream).1
              exact absurd (congrArg List.length nothing) empty
          | cons f rest =>
              rw [List.flatMap_cons, Frame.bytes, List.append_assoc] at stream
              have enough : f.headerBytes.length ≤ block.data.length := by
                rw [f.headerLength]
                exact Nat.not_lt.mp short
              rcases exists_of_append_eq_append stream enough with ⟨behind, split, -⟩
              have read := f.headerReads behind true
              rw [← split] at read
              refine Or.inr ⟨f.header, block.consumeTo behind.length, rfl, Nat.not_lt.mp short,
                ⟨behind, read, rfl⟩, ?_⟩
              have incomplete : block.data.length < protocol.getSize + f.body.length :=
                waits f rest rfl
              unfold MessageBlock.length
              rw [MessageBlock.data_consumeTo split, f.bodySize]
              rw [split, List.length_append, f.headerLength] at incomplete
              exact Nat.lt_of_add_lt_add_left incomplete
    | @body block future f pending more stream =>
        have incomplete : block.length < (protocol.getBodySize f.header).toNat := by
          rw [f.bodySize]
          exact Nat.lt_of_add_lt_add_left (waits f pending rfl)
        rw [handleInputParsePacket_body (Nat.pos_of_ne_zero empty), parseBody, if_pos incomplete]
        exact Or.inl rfl

/-- Where the buffer can grow, a call without a complete frame waits for more. -/
theorem parse_incomplete (aligned : Aligned protocol this future pending held)
    (waits : ∀ f rest, pending = f :: rest → held < f.length)
    (grows : ∀ header behind, HeaderParsed protocol this header behind →
      GrowthFits protocol header behind) :
    ∃ channel, this.handleInputParsePacket protocol =
        .ok { channel, inputPacket := none, ret := 0 } ∧
      Aligned protocol channel future pending held := by
  rcases parse_waits aligned waits with stays | ⟨header, behind, parsed⟩
  · exact ⟨this, stays, aligned⟩
  · rcases headerParsed_aligned aligned parsed with ⟨f, rest, rfl, rfl, stream, rfl⟩
    have incomplete := parsed.incomplete
    have enough := (body_le_roomSize_iff incomplete).mpr (grows f.header behind parsed)
    rcases behind.exists_moveTo (Nat.le_trans (Nat.le_of_lt incomplete) enough) with
      ⟨buffer, moved, -, -, data⟩
    refine ⟨{ header := some f.header, partialMessage := buffer }, ?_, ?_⟩
    · rw [handleInputParsePacket_of_headerParsed parsed, moved]
      rfl
    · have same : behind.length = buffer.length := (congrArg List.length data).symm
      rw [← data] at stream
      rw [same]
      apply Aligned.body _ stream
      rw [← f.bodySize]
      exact Nat.zero_lt_of_lt incomplete

/-- Where it cannot, the call fails or leaves a buffer that never holds the body. -/
theorem parse_overgrown {header : HEADER} {behind : MessageBlock}
    (parsed : HeaderParsed protocol this header behind)
    (tight : ¬GrowthFits protocol header behind) :
    (∃ fault, this.handleInputParsePacket protocol = .error fault) ∨
      ∃ buffer, this.handleInputParsePacket protocol =
          .ok { channel := { header := some header, partialMessage := buffer }
                inputPacket := none, ret := 0 } ∧
        buffer.data = behind.data ∧ buffer.size < (protocol.getBodySize header).toNat := by
  rw [handleInputParsePacket_of_headerParsed parsed]
  cases moved : behind.moveTo (roomSize protocol header behind) with
  | error fault => exact Or.inl ⟨fault, rfl⟩
  | ok buffer =>
      rcases MessageBlock.moveTo_eq_ok moved with ⟨-, size, -, data⟩
      refine Or.inr ⟨buffer, rfl, data, ?_⟩
      rw [size]
      apply Nat.lt_of_not_le
      intro enough
      exact tight ((body_le_roomSize_iff parsed.incomplete).mp enough)

/-! ## One call of `handleInput_i` -/

theorem leftover_of_known {p : PACKET} (known : f.packet = some p) : f.leftover = [] := by
  rw [Frame.leftover, known]

theorem leftover_of_unknown (unknown : f.packet = none) : f.leftover = f.body := by
  rw [Frame.leftover, unknown]

/-- Behind a known frame the channel is at the start of the next one. -/
theorem aligned_of_known {p : PACKET} {buffer : MessageBlock} {left : List UInt8}
    (known : f.packet = some p) (data : buffer.data = f.leftover ++ left)
    (stream : left ++ future = rest.flatMap Frame.bytes) (count : left.length + f.length = held) :
    Aligned protocol { header := none, partialMessage := buffer } future rest (held - f.length) := by
  rw [leftover_of_known known, List.nil_append] at data
  rw [← data] at stream
  have same : held - f.length = buffer.length := by
    unfold MessageBlock.length
    rw [data]
    omega
  rw [same]
  exact .start stream

/-- The loop goes on behind known frames only. -/
theorem aligned_of_loopsTo {next : PacketChannel HEADER}
    (aligned : Aligned protocol this future pending held)
    (loops : LoopsTo protocol handlePacket this next) :
    ∃ f rest, pending = f :: rest ∧ Aligned protocol next future rest (held - f.length) := by
  rcases loops with ⟨parsed, packet, call, -, found, -, rfl⟩
  by_cases waits : ∀ f rest, pending = f :: rest → held < f.length
  · rcases parse_waits aligned waits with stays | ⟨header, behind, headerParsed⟩
    · cases call.symm.trans stays
      cases found
    · rw [handleInputParsePacket_of_headerParsed headerParsed] at call
      cases moved : behind.moveTo (roomSize protocol header behind) with
      | error fault =>
          rw [moved] at call
          cases call
      | ok buffer =>
          rw [moved] at call
          cases call
          cases found
  · push Not at waits
    rcases waits with ⟨f, rest, rfl, complete⟩
    rcases parse_complete aligned complete with ⟨buffer, left, finished, data, stream, count, -⟩
    cases call.symm.trans finished
    exact ⟨f, rest, rfl, aligned_of_known found data stream count⟩

/-- Wherever the loop calls the parser, the channel is at a frame. -/
theorem aligned_of_loops {last : PacketChannel HEADER}
    (aligned : Aligned protocol this future pending held)
    (loops : ReflTransGen (LoopsTo protocol handlePacket) this last) :
    ∃ rest left, rest <:+ pending ∧ Aligned protocol last future rest left := by
  induction loops with
  | refl => exact ⟨pending, held, List.suffix_refl _, aligned⟩
  | tail _ step inductionHypothesis =>
      rcases inductionHypothesis with ⟨rest, left, suffix, here⟩
      rcases aligned_of_loopsTo here step with ⟨f, behind, rfl, next⟩
      exact ⟨behind, left - f.length, (List.suffix_cons f behind).trans suffix, next⟩

/-- Where a call stops: at a frame, or in front of the body of an unknown one. -/
def Stops (next : Progress protocol) (channel : PacketChannel HEADER) (future : List UInt8) : Prop :=
  match next.skipped with
  | none => Aligned protocol channel future next.left next.held
  | some f => channel.header = none ∧ ∃ tail, channel.partialMessage.data = f.body ++ tail ∧
      tail ++ future = next.left.flatMap Frame.bytes ∧ tail.length = next.held

/-- The loop makes the progress that the frames allow. -/
theorem parseLoop_progress (aligned : Aligned protocol this future pending held)
    (grows : ∀ last, ReflTransGen (LoopsTo protocol handlePacket) this last → ∀ header behind,
      HeaderParsed protocol last header behind → GrowthFits protocol header behind)
    {fuel : Nat} (enough : this.partialMessage.length < fuel) :
    ∃ channel, parseLoop protocol handlePacket fuel this =
        .ok { channel, packets := (progress handlePacket pending held).packets
              ret := if (progress handlePacket pending held).closed then -1 else 0 } ∧
      ((progress handlePacket pending held).closed = false →
        Stops (progress handlePacket pending held) channel future) := by
  induction fuel generalizing this pending held with
  | zero => cases enough
  | succ fuel inductionHypothesis =>
      by_cases waits : ∀ f rest, pending = f :: rest → held < f.length
      · rcases parse_incomplete aligned waits (grows this .refl) with ⟨channel, call, after⟩
        have still : progress handlePacket pending held =
            { packets := [], closed := false, skipped := none, left := pending, held } := by
          cases pending with
          | nil => rfl
          | cons f rest => exact progress_of_incomplete (waits f rest rfl)
        rw [still]
        refine ⟨channel, ?_, fun _ => after⟩
        simp only [parseLoop, call, bind, Except.bind]
        rfl
      · push Not at waits
        rcases waits with ⟨f, rest, rfl, complete⟩
        rcases parse_complete aligned complete with
          ⟨buffer, left, call, data, stream, count, shorter⟩
        rcases f.cases held handlePacket with incomplete | ⟨-, unknown⟩ |
          ⟨-, p, known, closes⟩ | ⟨-, p, known, stays⟩
        · exact absurd complete (Nat.not_le.mpr incomplete)
        · rw [progress_of_unknown complete unknown]
          rw [leftover_of_unknown unknown] at data
          rw [unknown] at call
          refine ⟨{ header := none, partialMessage := buffer }, ?_, fun _ => ?_⟩
          · simp only [parseLoop, call, bind, Except.bind]
            rfl
          · exact ⟨rfl, left, data, stream, Nat.eq_sub_of_add_eq count⟩
        · rw [progress_of_closing complete known closes]
          rw [known] at call
          refine ⟨{ header := none, partialMessage := buffer }, ?_, ?_⟩
          · simp only [parseLoop, call, bind, Except.bind, closes]
            rfl
          · rintro ⟨⟩
        · have next := aligned_of_known known data stream count
          rw [known] at call
          have step : LoopsTo protocol handlePacket this
              { header := none, partialMessage := buffer } :=
            ⟨_, p, call, show (0 : Int) ≠ -1 by decide, rfl, stays, rfl⟩
          have length : buffer.length = left.length := by
            rw [leftover_of_known known, List.nil_append] at data
            exact congrArg List.length data
          rcases inductionHypothesis next
              (fun last loops => grows last (ReflTransGen.head step loops))
              (show buffer.length < fuel by omega) with
            ⟨channel, done, stops⟩
          rw [progress_of_known complete known stays]
          refine ⟨channel, ?_, stops⟩
          simp only [parseLoop, call, bind, Except.bind, if_neg stays, done]
          rfl

/-- The loop passes through the channels that it goes on with, if its budget lasts. -/
theorem parseLoop_of_loops {last : PacketChannel HEADER}
    (loops : ReflTransGen (LoopsTo protocol handlePacket) this last) (fuel : Nat) :
    (∃ fault, parseLoop protocol handlePacket fuel this = .error fault) ∨
      ∃ left packets, parseLoop protocol handlePacket fuel this =
        (parseLoop protocol handlePacket left last).bind fun later =>
          .ok { later with packets := packets ++ later.packets } := by
  induction loops using ReflTransGen.head_induction_on generalizing fuel with
  | refl =>
      refine Or.inr ⟨fuel, [], ?_⟩
      cases parseLoop protocol handlePacket fuel last with
      | error fault => rfl
      | ok handed => rfl
  | head step _ inductionHypothesis =>
      rcases step with ⟨parsed, packet, call, goesOn, found, stays, rfl⟩
      cases fuel with
      | zero => exact Or.inl ⟨.outOfFuel, rfl⟩
      | succ fuel =>
          rcases inductionHypothesis fuel with ⟨fault, failed⟩ | ⟨left, packets, passes⟩
          · refine Or.inl ⟨fault, ?_⟩
            simp only [parseLoop, call, bind, Except.bind, if_neg goesOn, found, if_neg stays,
              failed]
          · refine Or.inr ⟨left, packet :: packets, ?_⟩
            simp only [parseLoop, call, bind, Except.bind, if_neg goesOn, found, if_neg stays,
              passes]
            cases parseLoop protocol handlePacket left last with
            | error fault => rfl
            | ok handed => rfl

/-- The channel waits for a body that its buffer never holds. -/
def Stuck (protocol : Protocol HEADER PACKET) (this : PacketChannel HEADER)
    (future : List UInt8) : Prop :=
  ∃ header buffer body rest, this = { header := some header, partialMessage := buffer } ∧
    (protocol.getBodySize header).toNat = body.length ∧ buffer.data ++ future = body ++ rest ∧
    buffer.size < body.length

theorem parseLoop_overgrown (aligned : Aligned protocol this future pending held)
    {last : PacketChannel HEADER} (loops : ReflTransGen (LoopsTo protocol handlePacket) this last)
    {header : HEADER} {behind : MessageBlock} (parsed : HeaderParsed protocol last header behind)
    (tight : ¬GrowthFits protocol header behind) (fuel : Nat) :
    (∃ fault, parseLoop protocol handlePacket fuel this = .error fault) ∨
      ∃ handed, parseLoop protocol handlePacket fuel this = .ok handed ∧ handed.ret ≠ -1 ∧
        Stuck protocol handed.channel future := by
  rcases parseLoop_of_loops loops fuel with failed | ⟨left, packets, passes⟩
  · exact Or.inl failed
  · rw [passes]
    cases left with
    | zero => exact Or.inl ⟨.outOfFuel, rfl⟩
    | succ left =>
        rcases parse_overgrown parsed tight with ⟨fault, failed⟩ | ⟨buffer, call, data, small⟩
        · refine Or.inl ⟨fault, ?_⟩
          simp only [parseLoop, failed, bind, Except.bind]
        · rcases aligned_of_loops aligned loops with ⟨rest, count, -, here⟩
          rcases headerParsed_aligned here parsed with ⟨f, others, rfl, rfl, stream, -⟩
          rw [← data] at stream
          rw [f.bodySize] at small
          refine Or.inr ⟨{ channel := { header := some f.header, partialMessage := buffer }
                           packets := packets ++ [], ret := 0 }, ?_, ?_, ?_⟩
          · simp only [parseLoop, call, bind, Except.bind]
            rfl
          · exact show (0 : Int) ≠ -1 by decide
          · exact ⟨f.header, buffer, f.body, _, rfl, f.bodySize, stream, small⟩

/-- A chunk that fits is received, and the loop starts behind it. -/
theorem handleInput_i_of_fits (handlePacket : PACKET → Int) {recv : List UInt8} (some : recv ≠ [])
    (fits : recv.length ≤ this.partialMessage.space) :
    ∃ buffer, this.readInputBuffer recv =
        .ok ({ header := this.header, partialMessage := buffer }, (recv.length : Int)) ∧
      buffer.data = this.partialMessage.data ++ recv ∧ buffer.size = this.partialMessage.size ∧
      this.handleInput_i protocol handlePacket recv =
        parseLoop protocol handlePacket (buffer.length + 1)
          { header := this.header, partialMessage := buffer } := by
  rcases MessageBlock.exists_append fits with ⟨room, appended⟩
  have received : (recv.length : Int) ≠ -1 := by
    omega
  refine ⟨{ this.partialMessage with data := this.partialMessage.data ++ recv, fits := room }, ?_,
    rfl, rfl, ?_⟩
  · unfold readInputBuffer
    simp only [if_neg some, appended, bind, Except.bind, pure, Except.pure]
  · unfold handleInput_i readInputBuffer
    simp only [if_neg some, appended, bind, Except.bind, pure, Except.pure, if_neg received]

theorem not_fits_of_stuck {chunks : List (List UInt8)}
    (stuck : Stuck protocol this chunks.flatten) : ¬Fits protocol handlePacket this chunks := by
  intro fits
  induction chunks generalizing this with
  | nil =>
      rcases stuck with ⟨header, buffer, body, rest, rfl, -, stream, small⟩
      have lengths := congrArg List.length stream
      rw [List.flatten_nil, List.append_nil, List.length_append] at lengths
      have bound := buffer.data_length_le
      omega
  | cons recv later inductionHypothesis =>
      rcases fits with ⟨some, fits, goesOn⟩
      rcases stuck with ⟨header, buffer, body, rest, rfl, bodySize, stream, small⟩
      rcases handleInput_i_of_fits handlePacket some fits with ⟨whole, -, data, size, handled⟩
      have bound := whole.data_length_le
      dsimp only at data size handled
      have incomplete : whole.length < (protocol.getBodySize header).toNat := by
        unfold MessageBlock.length
        omega
      have positive : 0 < whole.length := by
        unfold MessageBlock.length
        rw [data, List.length_append]
        exact Nat.add_pos_right _ (List.length_pos_of_ne_nil some)
      have call := @handleInputParsePacket_body _ _ protocol whole header positive
      rw [parseBody, if_pos incomplete] at call
      have waits : parseLoop protocol handlePacket (whole.length + 1)
          { header := Option.some header, partialMessage := whole } =
            .ok { channel := { header := Option.some header, partialMessage := whole }
                  packets := [], ret := 0 } := by
        simp only [parseLoop, call, bind, Except.bind]
        rfl
      apply inductionHypothesis _ (goesOn _ (handled.trans waits))
      refine ⟨header, whole, body, rest, rfl, bodySize, ?_, ?_⟩
      · rw [data, List.append_assoc]
        exact stream
      · rw [size]
        exact small

/-! ## Runs -/

theorem Aligned.append {recv : List UInt8} {buffer : MessageBlock}
    (aligned : Aligned protocol this (recv ++ future) pending held)
    (data : buffer.data = this.partialMessage.data ++ recv) :
    Aligned protocol { header := this.header, partialMessage := buffer } future pending
      (held + recv.length) := by
  have length : buffer.length = this.partialMessage.length + recv.length := by
    unfold MessageBlock.length
    rw [data, List.length_append]
  cases aligned with
  | @start block future pending stream =>
      rw [← List.append_assoc] at stream
      change Aligned protocol _ _ _ (block.length + recv.length)
      rw [← length]
      apply Aligned.start
      rwa [data]
  | @body block future f pending more stream =>
      rw [← List.append_assoc] at stream
      rw [Nat.add_assoc]
      change Aligned protocol _ _ _ (protocol.getSize + (block.length + recv.length))
      rw [← length]
      apply Aligned.body more
      rwa [data]

/-- Without a body of an unknown frame in front the channel is at a frame. -/
theorem Stops.aligned {next : Progress protocol} (stops : Stops next this future)
    (bodiless : ∀ f, next.skipped = some f → f.body = []) :
    Aligned protocol this future next.left next.held := by
  unfold Stops at stops
  cases skipped : next.skipped with
  | none =>
      rw [skipped] at stops
      exact stops
  | some f =>
      rw [skipped] at stops
      rcases this with ⟨header, buffer⟩
      rcases stops with ⟨rfl, tail, data, stream, length⟩
      rw [bodiless f skipped, List.nil_append] at data
      dsimp only at data
      rw [← data] at stream
      rw [← length, ← data]
      exact .start stream

theorem run_cons {handed : Handed HEADER PACKET} {recv : List UInt8}
    (handled : this.handleInput_i protocol handlePacket recv = .ok handed)
    (goesOn : handed.ret ≠ -1) (later : List (List UInt8)) :
    run protocol handlePacket this (recv :: later) =
      (run protocol handlePacket handed.channel later).bind fun rest =>
        .ok { rest with packets := handed.packets ++ rest.packets } := by
  simp only [run, handled, bind, Except.bind, if_neg goesOn]
  rfl

theorem run_cons_closed {handed : Handed HEADER PACKET} {recv : List UInt8}
    (handled : this.handleInput_i protocol handlePacket recv = .ok handed)
    (closed : handed.ret = -1) (later : List (List UInt8)) :
    run protocol handlePacket this (recv :: later) = .ok handed := by
  simp only [run, handled, bind, Except.bind, closed]
  rfl

/-- When enough bytes for a header come, the parser reads one at the front of the buffer. -/
theorem exists_header_read {chunks : List (List UInt8)} (awaited : this.header = none)
    (fits : Fits protocol handlePacket this chunks) (more : chunks ≠ [])
    (enough : protocol.getSize ≤ (this.partialMessage.data ++ chunks.flatten).length) :
    ∃ last future, Called protocol handlePacket this chunks last future ∧ last.header = none ∧
      protocol.getSize ≤ last.partialMessage.length ∧
      last.partialMessage.data ++ future = this.partialMessage.data ++ chunks.flatten := by
  induction chunks generalizing this with
  | nil => exact absurd rfl more
  | cons recv later inductionHypothesis =>
      rcases fits with ⟨some, fits, goesOn⟩
      rcases handleInput_i_of_fits handlePacket some fits with ⟨buffer, read, data, -, handled⟩
      have received : (recv.length : Int) ≠ -1 := by
        omega
      rw [awaited] at read handled
      rw [List.flatten_cons, ← List.append_assoc, ← data] at enough ⊢
      by_cases short : buffer.length < protocol.getSize
      · have call : handleInputParsePacket protocol { header := none, partialMessage := buffer } =
            .ok { channel := { header := none, partialMessage := buffer }
                  inputPacket := none, ret := 0 } := by
          unfold handleInputParsePacket
          by_cases empty : buffer.length = 0
          · rw [if_pos empty]
          · rw [if_neg empty]
            exact if_pos short
        have waits : parseLoop protocol handlePacket (buffer.length + 1)
            { header := none, partialMessage := buffer } =
              .ok { channel := { header := none, partialMessage := buffer }
                    packets := [], ret := 0 } := by
          simp only [parseLoop, call, bind, Except.bind]
          rfl
        have done := handled.trans waits
        have moreLater : later ≠ [] := by
          rintro rfl
          rw [List.flatten_nil, List.append_nil] at enough
          exact absurd short (Nat.not_lt.mpr enough)
        rcases inductionHypothesis rfl (goesOn _ done) moreLater enough with
          ⟨last, future, called, rest⟩
        exact ⟨last, future, .later done (show (0 : Int) ≠ -1 by decide) called, rest⟩
      · exact ⟨_, _, .here read received .refl, rfl, Nat.not_lt.mp short, rfl⟩

theorem length_flatMap_le_of_suffix {frames : List (Frame protocol)} (suffix : rest <:+ frames) :
    (rest.flatMap Frame.bytes).length ≤ (frames.flatMap Frame.bytes).length := by
  rcases suffix with ⟨front, rfl⟩
  rw [List.flatMap_append, List.length_append]
  exact Nat.le_add_left _ _

/-- The body of a frame in front of the next ones does not start at a frame. -/
theorem no_frame_at_body {frames others : List (Frame protocol)} {stream : List UInt8}
    (suffix : f :: rest <:+ frames) (some : f.body ≠ [])
    (length : stream.length = f.body.length + (rest.flatMap Frame.bytes).length)
    (other : others <:+ frames) : stream ≠ others.flatMap Frame.bytes := by
  rintro rfl
  have positive := protocol.getSize_pos
  have body := List.length_pos_of_ne_nil some
  have whole : ((f :: rest).flatMap Frame.bytes).length =
      protocol.getSize + f.body.length + (rest.flatMap Frame.bytes).length := by
    rw [List.flatMap_cons, List.length_append, f.length_bytes, Frame.length]
  rcases List.suffix_or_suffix_of_suffix other suffix with below | above
  · rcases List.suffix_cons_iff.mp below with rfl | inRest
    · omega
    · have bound := length_flatMap_le_of_suffix inRest
      omega
  · have bound := length_flatMap_le_of_suffix above
    omega

section

variable {frames : List (Frame protocol)} {recv : List UInt8} {later : List (List UInt8)}
  {channel : PacketChannel HEADER}

theorem filterMap_arrived_eq_nil_iff :
    (arrived pending held).filterMap Frame.packet = [] ↔
      ∀ f ∈ arrived pending held, f.packet = none :=
  List.filterMap_eq_nil_iff

/-- With no more bytes to come nothing known may be waiting. -/
theorem resynchronises_nil (quiet : ∀ f ∈ arrived pending held, f.packet = none) :
    Resynchronises protocol handlePacket frames this pending held [] := by
  constructor
  · intro before after split
    rcases List.append_eq_nil_iff.mp split.symm with ⟨rfl, rfl⟩
    refine ⟨_, rfl, List.nil_prefix, fun _ => ?_⟩
    exact (filterMap_arrived_eq_nil_iff.mpr quiet).symm
  · rintro last future ⟨⟩

/-- What a call makes of the frames, as its caller sees it. -/
def Handled (handlePacket : PACKET → Int) (this : PacketChannel HEADER)
    (recv : List UInt8) (next : Progress protocol) (channel : PacketChannel HEADER) : Prop :=
  this.handleInput_i protocol handlePacket recv =
    .ok { channel, packets := next.packets, ret := if next.closed then -1 else 0 }

/-- Where the first call stops without closing, the rest of the run is a run of its own. -/
theorem Resynchronises.tail
    (run : Resynchronises protocol handlePacket frames this pending held (recv :: later))
    (handled : Handled handlePacket this recv
      (progress handlePacket pending (held + recv.length)) channel)
    (goesOn : (progress handlePacket pending (held + recv.length)).closed = false) :
    Resynchronises protocol handlePacket frames channel
      (progress handlePacket pending (held + recv.length)).left
      (progress handlePacket pending (held + recv.length)).held later := by
  have stays : (if (progress handlePacket pending (held + recv.length)).closed then -1 else 0 : Int) ≠
      -1 := by
    rw [goesOn]
    decide
  constructor
  · intro before after split
    rcases run.delivers (recv :: before) after (congrArg (List.cons recv) split) with
      ⟨whole, done, first, delivered⟩
    rw [run_cons handled stays] at done
    cases rest : PacketChannel.run protocol handlePacket channel before with
    | error fault =>
        rw [rest] at done
        cases done
    | ok handed =>
        rw [rest] at done
        cases done
        rw [filterMap_eq_append_left goesOn, List.prefix_append_right_inj] at first
        refine ⟨handed, rfl, first, fun answers => ?_⟩
        have all := delivered answers
        rw [List.flatten_cons, List.length_append, ← Nat.add_assoc,
          filterMap_arrived_add goesOn] at all
        exact List.append_cancel_left all
  · intro last future called
    exact run.headers last future (.later handled stays called)

/-- A run that goes on from where the first call stopped. -/
theorem Resynchronises.cons (aligned : Aligned protocol this (recv :: later).flatten pending held)
    (quiet : ∀ f ∈ arrived pending held, f.packet = none) (among : pending <:+ frames)
    (fits : Fits protocol handlePacket this (recv :: later))
    (handled : Handled handlePacket this recv
      (progress handlePacket pending (held + recv.length)) channel)
    (rest : (progress handlePacket pending (held + recv.length)).closed = false →
      Resynchronises protocol handlePacket frames channel
        (progress handlePacket pending (held + recv.length)).left
        (progress handlePacket pending (held + recv.length)).held later) :
    Resynchronises protocol handlePacket frames this pending held (recv :: later) := by
  constructor
  · intro before after split
    cases before with
    | nil =>
        refine ⟨_, rfl, List.nil_prefix, fun _ => ?_⟩
        exact (filterMap_arrived_eq_nil_iff.mpr quiet).symm
    | cons first before =>
        cases split
        cases goesOn : (progress handlePacket pending (held + recv.length)).closed with
        | true =>
            rw [Handled, goesOn, if_pos rfl] at handled
            refine ⟨_, run_cons_closed handled rfl before, packets_prefix _ _ _, ?_⟩
            intro answers
            exact absurd rfl answers
        | false =>
            rw [Handled, goesOn] at handled
            have stays : (if false = true then -1 else 0 : Int) ≠ -1 := by
              decide
            rcases (rest goesOn).delivers before after rfl with ⟨handed, done, first, delivered⟩
            refine ⟨{ handed with packets :=
              (progress handlePacket pending (held + recv.length)).packets ++ handed.packets },
                ?_, ?_, ?_⟩
            · rw [run_cons handled stays, done]
              rfl
            · rw [filterMap_eq_append_left goesOn, List.prefix_append_right_inj]
              exact first
            · intro answers
              rw [List.flatten_cons, List.length_append, ← Nat.add_assoc,
                filterMap_arrived_add goesOn, ← delivered answers]
  · intro last future called
    cases called with
    | @here _ _ received _ _ size read some loops =>
        rcases @handleInput_i_of_fits _ _ protocol _ handlePacket _ fits.1 fits.2.1 with
          ⟨buffer, readFits, data, -, -⟩
        cases read.symm.trans readFits
        intro awaited enough
        rcases aligned_of_loops (aligned.append data) loops with ⟨rest, count, suffix, here⟩
        cases here with
        | start stream => exact ⟨rest, suffix.trans among, stream⟩
        | body more stream => cases awaited
    | @later _ _ _ _ _ handed done stays called =>
        cases handled.symm.trans done
        cases goesOn : (progress handlePacket pending (held + recv.length)).closed with
        | true =>
            rw [goesOn] at stays
            exact absurd rfl stays
        | false => exact (rest goesOn).headers last future called

/-- The buffer can grow in the first call. -/
def GrowsFirst (protocol : Protocol HEADER PACKET) (handlePacket : PACKET → Int)
    (this : PacketChannel HEADER) (recv : List UInt8) : Prop :=
  ∀ received size last, this.readInputBuffer recv = .ok (received, size) →
    ReflTransGen (LoopsTo protocol handlePacket) received last →
      ∀ header behind, HeaderParsed protocol last header behind → GrowthFits protocol header behind

/-- A run that delivers lets the buffer grow in the first call. -/
theorem grows_of_delivers (aligned : Aligned protocol this (recv :: later).flatten pending held)
    (fits : Fits protocol handlePacket this (recv :: later)) {out : Handed HEADER PACKET}
    (done : run protocol handlePacket this [recv] = .ok out) :
    GrowsFirst protocol handlePacket this recv := by
  intro received size last read loops header behind parsed
  rcases @handleInput_i_of_fits _ _ protocol _ handlePacket _ fits.1 fits.2.1 with
    ⟨buffer, readFits, data, -, handled⟩
  cases read.symm.trans readFits
  by_contra tight
  rcases parseLoop_overgrown (aligned.append data) loops parsed tight (buffer.length + 1) with
    ⟨fault, failed⟩ | ⟨handed, stops, -, stuck⟩
  · rw [← handled] at failed
    simp only [run, failed, bind, Except.bind] at done
    cases done
  · rw [← handled] at stops
    exact not_fits_of_stuck stuck (fits.2.2 handed stops)

theorem Grows.first (grows : Grows protocol handlePacket this (recv :: later))
    (fits : Fits protocol handlePacket this (recv :: later)) :
    GrowsFirst protocol handlePacket this recv := by
  intro received size last read loops
  have some : size ≠ -1 := by
    rcases @handleInput_i_of_fits _ _ protocol _ handlePacket _ fits.1 fits.2.1 with
      ⟨buffer, readFits, -⟩
    cases read.symm.trans readFits
    omega
  exact grows last _ (.here read some loops)

theorem Grows.tail (grows : Grows protocol handlePacket this (recv :: later))
    (handled : Handled handlePacket this recv
      (progress handlePacket pending (held + recv.length)) channel)
    (goesOn : (progress handlePacket pending (held + recv.length)).closed = false) :
    Grows protocol handlePacket channel later := by
  intro last future called
  apply grows last future (.later handled _ called)
  rw [goesOn]
  exact show (0 : Int) ≠ -1 by decide

/-- The calls of a run are those of its first chunk, and those of a run of its own. -/
theorem Grows.cons (first : GrowsFirst protocol handlePacket this recv)
    (handled : Handled handlePacket this recv
      (progress handlePacket pending (held + recv.length)) channel)
    (rest : (progress handlePacket pending (held + recv.length)).closed = false →
      Grows protocol handlePacket channel later) :
    Grows protocol handlePacket this (recv :: later) := by
  intro last future called header behind parsed
  cases called with
  | here read some loops => exact first _ _ last read loops header behind parsed
  | later done stays called =>
      cases handled.symm.trans done
      cases goesOn : (progress handlePacket pending (held + recv.length)).closed with
      | true =>
          rw [goesOn] at stays
          exact absurd rfl stays
      | false => exact rest goesOn last future called header behind parsed

/-- Where the buffer can grow, the call makes the progress that the frames allow. -/
theorem exists_handled (aligned : Aligned protocol this (recv :: later).flatten pending held)
    (fits : Fits protocol handlePacket this (recv :: later))
    (grows : GrowsFirst protocol handlePacket this recv) :
    ∃ channel, Handled handlePacket this recv (progress handlePacket pending (held + recv.length))
        channel ∧
      ((progress handlePacket pending (held + recv.length)).closed = false →
        Stops (progress handlePacket pending (held + recv.length)) channel later.flatten) := by
  rcases @handleInput_i_of_fits _ _ protocol _ handlePacket _ fits.1 fits.2.1 with
    ⟨buffer, read, data, -, handled⟩
  rcases parseLoop_progress (aligned.append data) (fun last loops => grows _ _ last read loops)
      (Nat.lt_succ_self _) with ⟨channel, done, stops⟩
  exact ⟨channel, handled.trans done, stops⟩

/-- A call that stops at an unknown frame with a body is the last one. -/
theorem bodiless_of_headers (among : pending <:+ frames)
    (fits : Fits protocol handlePacket this (recv :: later))
    (run : Resynchronises protocol handlePacket frames this pending held (recv :: later))
    (handled : Handled handlePacket this recv
      (progress handlePacket pending (held + recv.length)) channel)
    (stops : Stops (progress handlePacket pending (held + recv.length)) channel later.flatten)
    (skipped : (progress handlePacket pending (held + recv.length)).skipped = some f) :
    f.body = [] ∨ later = [] := by
  by_contra wrong
  push Not at wrong
  rcases exists_of_skipped skipped with ⟨-, goesOn, suffix⟩
  have tail := run.tail handled goesOn
  unfold Stops at stops
  rw [skipped] at stops
  rcases stops with ⟨awaited, left, data, stream, -⟩
  have fitsLater := fits.2.2 _ handled
  have whole : (channel.partialMessage.data ++ later.flatten).length = f.body.length +
      ((progress handlePacket pending (held + recv.length)).left.flatMap Frame.bytes).length := by
    rw [data, List.append_assoc, stream, List.length_append]
  have someLeft : protocol.getSize ≤
      ((progress handlePacket pending (held + recv.length)).left.flatMap Frame.bytes).length := by
    cases left' : (progress handlePacket pending (held + recv.length)).left with
    | nil =>
        rw [left', List.flatMap_nil] at stream
        cases later with
        | nil => exact absurd rfl wrong.2
        | cons first later =>
            rw [List.flatten_cons] at stream
            have nothing := (List.append_eq_nil_iff.mp (List.append_eq_nil_iff.mp stream).2).1
            exact absurd nothing fitsLater.1
    | cons g others =>
        rw [List.flatMap_cons, List.length_append, g.length_bytes, Frame.length]
        omega
  rcases exists_header_read awaited fitsLater wrong.2 (by omega) with
    ⟨last, future, called, lastAwaits, enough, same⟩
  rcases tail.headers last future called lastAwaits enough with ⟨others, other, atFrame⟩
  exact no_frame_at_body (suffix.trans among) wrong.1 whole other (same.symm.trans atFrame)

/-- A call stops in front of unknown frames only, and behind no body unless it is the last. -/
def Clear (next : Progress protocol) (later : List (List UInt8)) : Prop :=
  (∀ f ∈ arrived next.left next.held, f.packet = none) ∧
    ∀ f, next.skipped = some f → f.body = [] ∨ later = []

/-- A run that is as it should be is clear behind its first call. -/
theorem clear_of_resynchronises (among : pending <:+ frames)
    (fits : Fits protocol handlePacket this (recv :: later))
    (run : Resynchronises protocol handlePacket frames this pending held (recv :: later))
    (handled : Handled handlePacket this recv
      (progress handlePacket pending (held + recv.length)) channel)
    (stops : Stops (progress handlePacket pending (held + recv.length)) channel later.flatten)
    (goesOn : (progress handlePacket pending (held + recv.length)).closed = false) :
    Clear (progress handlePacket pending (held + recv.length)) later := by
  constructor
  · rcases (run.tail handled goesOn).delivers [] later rfl with ⟨none, ran, -, delivered⟩
    cases ran
    have nothing := delivered (show (0 : Int) ≠ -1 by decide)
    exact filterMap_arrived_eq_nil_iff.mp nothing.symm
  · intro f skipped
    exact bodiless_of_headers among fits run handled stops skipped

/-- Nothing is called without a chunk. -/
theorem grows_nil : Grows protocol handlePacket this [] := by
  rintro last future ⟨⟩

/-- From a channel at a frame the run is as it should be exactly when the calls resume
behind unknown frames and the buffer can grow. -/
theorem resynchronises_iff {chunks : List (List UInt8)}
    (aligned : Aligned protocol this chunks.flatten pending held)
    (quiet : ∀ f ∈ arrived pending held, f.packet = none) (among : pending <:+ frames)
    (fits : Fits protocol handlePacket this chunks) :
    Resynchronises protocol handlePacket frames this pending held chunks ↔
      Resumes handlePacket pending held chunks ∧ Grows protocol handlePacket this chunks := by
  induction chunks generalizing this pending held with
  | nil =>
      constructor
      · intro run
        exact ⟨trivial, grows_nil⟩
      · intro conditions
        exact resynchronises_nil quiet
  | cons recv later inductionHypothesis =>
      -- behind the first call there is nothing more to come, or a channel at a frame
      have rest : ∀ channel, Handled handlePacket this recv
            (progress handlePacket pending (held + recv.length)) channel →
          Stops (progress handlePacket pending (held + recv.length)) channel later.flatten →
          Clear (progress handlePacket pending (held + recv.length)) later →
          (Resynchronises protocol handlePacket frames channel
              (progress handlePacket pending (held + recv.length)).left
              (progress handlePacket pending (held + recv.length)).held later ↔
            Resumes handlePacket (progress handlePacket pending (held + recv.length)).left
                (progress handlePacket pending (held + recv.length)).held later ∧
              Grows protocol handlePacket channel later) := by
        intro channel handled stops clear
        by_cases last : later = []
        · subst last
          exact iff_of_true (resynchronises_nil clear.1) ⟨trivial, grows_nil⟩
        · have here := stops.aligned fun f skipped => (clear.2 f skipped).resolve_right last
          exact inductionHypothesis here clear.1
            ((left_suffix handlePacket pending (held + recv.length)).trans among)
            (fits.2.2 _ handled)
      constructor
      · intro run
        rcases run.delivers [recv] later rfl with ⟨out, done, -, -⟩
        have first := grows_of_delivers aligned fits done
        rcases exists_handled aligned fits first with ⟨channel, handled, stops⟩
        have clear := fun goesOn => clear_of_resynchronises among fits run handled (stops goesOn) goesOn
        have after := fun goesOn => (rest channel handled (stops goesOn) (clear goesOn)).mp
          (run.tail handled goesOn)
        constructor
        · intro goesOn
          exact ⟨(clear goesOn).1, (clear goesOn).2, (after goesOn).1⟩
        · exact Grows.cons first handled fun goesOn => (after goesOn).2
      · rintro ⟨resumes, grows⟩
        rcases exists_handled aligned fits (grows.first fits) with ⟨channel, handled, stops⟩
        apply Resynchronises.cons aligned quiet among fits handled
        intro goesOn
        rcases resumes goesOn with ⟨quietLeft, bodiless, resumesLeft⟩
        apply (rest channel handled (stops goesOn) ⟨quietLeft, bodiless⟩).mpr
        exact ⟨resumesLeft, grows.tail handled goesOn⟩

theorem growthFits_of_small (small : ∀ f ∈ pending, f.Small)
    (aligned : Aligned protocol this future pending held) {header : HEADER} {behind : MessageBlock}
    (parsed : HeaderParsed protocol this header behind) : GrowthFits protocol header behind := by
  rcases headerParsed_aligned aligned parsed with ⟨f, rest, rfl, rfl, -, -⟩
  right
  rw [f.bodySize]
  exact small f List.mem_cons_self

/-- Small frames only have to be resumed behind. -/
theorem grows_of_small {chunks : List (List UInt8)} (small : ∀ f ∈ pending, f.Small)
    (aligned : Aligned protocol this chunks.flatten pending held)
    (fits : Fits protocol handlePacket this chunks)
    (resumes : Resumes handlePacket pending held chunks) :
    Grows protocol handlePacket this chunks := by
  induction chunks generalizing this pending held with
  | nil => exact grows_nil
  | cons recv later inductionHypothesis =>
      have first : GrowsFirst protocol handlePacket this recv := by
        intro received size last read loops header behind parsed
        rcases @handleInput_i_of_fits _ _ protocol _ handlePacket _ fits.1 fits.2.1 with
          ⟨buffer, readFits, data, -, -⟩
        cases read.symm.trans readFits
        rcases aligned_of_loops (aligned.append data) loops with ⟨rest, count, suffix, atFrame⟩
        exact growthFits_of_small (fun f member => small f (suffix.subset member)) atFrame parsed
      rcases exists_handled aligned fits first with ⟨channel, handled, stops⟩
      apply Grows.cons first handled
      intro goesOn
      rcases resumes goesOn with ⟨-, bodiless, resumesLeft⟩
      by_cases last : later = []
      · subst last
        exact grows_nil
      · have atFrame := (stops goesOn).aligned fun f skipped =>
          (bodiless f skipped).resolve_right last
        exact inductionHypothesis
          (fun f member => small f ((left_suffix handlePacket pending _).subset member))
          atFrame (fits.2.2 _ handled) resumesLeft

end

/-- However a stream of frames is cut, the channel skips the unknown ones and hands on the
others exactly when its calls resume behind unknown frames and its buffer can grow. -/
theorem resynchronised_iff (protocol : Protocol HEADER PACKET) (handlePacket : PACKET → Int)
    (frames : List (Frame protocol)) (chunks : List (List UInt8))
    (split : chunks.flatten = frames.flatMap Frame.bytes)
    (fits : Fits protocol handlePacket new chunks) :
    Resynchronises protocol handlePacket frames new frames 0 chunks ↔
      Resumes handlePacket frames 0 chunks ∧ Grows protocol handlePacket new chunks := by
  have aligned : Aligned protocol (new : PacketChannel HEADER) chunks.flatten frames 0 :=
    .start split
  apply resynchronises_iff aligned _ (List.suffix_refl frames) fits
  intro f member
  cases frames with
  | nil => cases member
  | cons g rest =>
      rw [arrived, if_neg (Nat.not_le.mpr g.length_pos)] at member
      cases member

/-! Leave packets around a frame of another type without a body. -/

def leaveFrame (uuid : UInt8) : Frame leaveProtocol where
  packet := some (leaving uuid)
  header := (leaving uuid).header
  headerBytes := (leaving uuid).header.octets
  body := (leaving uuid).body
  headerLength := headerLength_leaving uuid
  headerReads := headerReads_leaving uuid
  bodySize := bodySize_leaving uuid
  known := by
    rintro p ⟨⟩
    exact ((leaving uuid).sent (ready_leaving uuid)).bodyReads
  unknown := by
    rintro ⟨⟩

def otherHeader : SthenoHeader :=
  { (leaving 5).header with messageType := 0x21, messageSize := 0 }

def otherFrame : Frame leaveProtocol where
  packet := none
  header := otherHeader
  headerBytes := otherHeader.octets
  body := []
  headerLength := SthenoHeader.length_octets ⟨rfl, rfl, rfl, rfl⟩
  headerReads := SthenoHeader.reads ⟨rfl, rfl, rfl, rfl⟩
  bodySize := rfl
  known := by
    rintro p ⟨⟩
  unknown := by
    intro _
    rfl

/-- The pieces end behind the other frame and within the second leave packet. -/
def otherPieces : List (List UInt8) :=
  [(leaveFrame 5).bytes ++ otherFrame.bytes, (leaveFrame 6).bytes.take 100,
    (leaveFrame 6).bytes.drop 100]

theorem resynchronised_otherPieces : Resynchronises leaveProtocol (fun _ => 0)
    [leaveFrame 5, otherFrame, leaveFrame 6] new [leaveFrame 5, otherFrame, leaveFrame 6] 0
    otherPieces := by
  have split : otherPieces.flatten =
      [leaveFrame 5, otherFrame, leaveFrame 6].flatMap Frame.bytes := by
    decide +kernel
  have fits : Fits leaveProtocol (fun _ => 0) new otherPieces := by
    decide +kernel
  have resumes : Resumes (fun _ => 0) [leaveFrame 5, otherFrame, leaveFrame 6] 0 otherPieces := by
    decide +kernel
  have small : ∀ f ∈ [leaveFrame 5, otherFrame, leaveFrame 6], f.Small := by
    intro f member
    have length : f.length ≤ 138 := by
      simp only [List.mem_cons, List.not_mem_nil, or_false] at member
      rcases member with rfl | rfl | rfl
      · decide +kernel
      · decide +kernel
      · decide +kernel
    unfold Frame.Small MAX_BUFFER_SIZE
    omega
  have aligned : Aligned leaveProtocol (new : PacketChannel SthenoHeader) otherPieces.flatten
      [leaveFrame 5, otherFrame, leaveFrame 6] 0 :=
    .start split
  have grows := grows_of_small small aligned fits resumes
  exact (resynchronised_iff leaveProtocol (fun _ => 0) _ otherPieces split fits).mpr
    ⟨resumes, grows⟩

end Stheno.Net.PacketChannel
