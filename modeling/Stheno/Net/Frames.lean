import Stheno.Net.PacketChannel

/-!
# Frames of known and unknown types

A stream of frames, some of a type that the factory does not know.  A call of
`handleInput_i` goes on from packet to packet and stops at the first frame that is
incomplete or unknown, since the factory answers null for both.
-/

namespace Stheno.Net

open Wire

variable {HEADER PACKET : Type}

/-- A well-formed frame.  For a type that it does not know the factory answers null and
reads nothing. -/
structure Frame (protocol : Protocol HEADER PACKET) where
  packet : Option PACKET
  header : HEADER
  headerBytes : List UInt8
  body : List UInt8
  headerLength : headerBytes.length = protocol.getSize
  headerReads : Reads protocol.readHeader headerBytes header
  bodySize : (protocol.getBodySize header).toNat = body.length
  known : ∀ p, packet = some p → Reads (protocol.createPacket header) body (some p)
  unknown : packet = none → protocol.createPacket header = pure none

namespace Frame

variable {protocol : Protocol HEADER PACKET}

def bytes (this : Frame protocol) : List UInt8 :=
  this.headerBytes ++ this.body

def length (this : Frame protocol) : Nat :=
  protocol.getSize + this.body.length

theorem length_bytes (this : Frame protocol) : this.bytes.length = this.length := by
  rw [bytes, List.length_append, this.headerLength, length]

theorem length_pos (this : Frame protocol) : 0 < this.length :=
  Nat.add_pos_left protocol.getSize_pos _

/-- The length of the frame and the reserve behind it are below 2 ^ 32. -/
def Small (this : Frame protocol) : Prop :=
  this.length + PacketChannel.MAX_BUFFER_SIZE < 2 ^ 32

/-- The bytes of its body that stay in the buffer once the frame has been handled. -/
def leftover (this : Frame protocol) : List UInt8 :=
  match this.packet with
  | some _ => []
  | none => this.body

end Frame

/-- The frames that lie wholly within the first `held` bytes. -/
def arrived {protocol : Protocol HEADER PACKET} : List (Frame protocol) → Nat → List (Frame protocol)
  | [], _ => []
  | f :: rest, held => if f.length ≤ held then f :: arrived rest (held - f.length) else []

/-- What one call of `handleInput_i` makes of the frames: the packets it hands on, whether
one of them closed the channel, the unknown frame at which it stopped, and what is left,
with the number of bytes that are there of it. -/
structure Progress (protocol : Protocol HEADER PACKET) where
  packets : List PACKET
  closed : Bool
  skipped : Option (Frame protocol)
  left : List (Frame protocol)
  held : Nat

/-- The packets are handed on up to the first frame that is incomplete or unknown. -/
def progress {protocol : Protocol HEADER PACKET} (handlePacket : PACKET → Int) :
    List (Frame protocol) → Nat → Progress protocol
  | [], held => { packets := [], closed := false, skipped := none, left := [], held }
  | f :: rest, held =>
      if f.length ≤ held then
        match f.packet with
        | none =>
            { packets := [], closed := false, skipped := some f, left := rest,
              held := held - f.length }
        | some p =>
            if handlePacket p = -1 then
              { packets := [p], closed := true, skipped := none, left := rest,
                held := held - f.length }
            else
              let later := progress handlePacket rest (held - f.length)
              { later with packets := p :: later.packets }
      else
        { packets := [], closed := false, skipped := none, left := f :: rest, held }

section

variable {protocol : Protocol HEADER PACKET} {handlePacket : PACKET → Int} {f : Frame protocol}
  {rest pending : List (Frame protocol)} {held : Nat} {p : PACKET}

theorem progress_of_incomplete (incomplete : held < f.length) :
    progress handlePacket (f :: rest) held =
      { packets := [], closed := false, skipped := none, left := f :: rest, held } := by
  rw [progress, if_neg (Nat.not_le.mpr incomplete)]

theorem progress_of_unknown (complete : f.length ≤ held) (unknown : f.packet = none) :
    progress handlePacket (f :: rest) held =
      { packets := [], closed := false, skipped := some f, left := rest,
        held := held - f.length } := by
  rw [progress, if_pos complete, unknown]

theorem progress_of_closing (complete : f.length ≤ held) (known : f.packet = some p)
    (closes : handlePacket p = -1) :
    progress handlePacket (f :: rest) held =
      { packets := [p], closed := true, skipped := none, left := rest,
        held := held - f.length } := by
  rw [progress, if_pos complete, known]
  exact if_pos closes

theorem progress_of_known (complete : f.length ≤ held) (known : f.packet = some p)
    (stays : handlePacket p ≠ -1) :
    progress handlePacket (f :: rest) held =
      { progress handlePacket rest (held - f.length) with
        packets := p :: (progress handlePacket rest (held - f.length)).packets } := by
  rw [progress, if_pos complete, known]
  exact if_neg stays

/-- A frame is incomplete, unknown, or handed on, which may close the channel. -/
theorem Frame.cases (f : Frame protocol) (held : Nat) (handlePacket : PACKET → Int) :
    held < f.length ∨ (f.length ≤ held ∧ f.packet = none) ∨
      (f.length ≤ held ∧ ∃ p, f.packet = some p ∧ handlePacket p = -1) ∨
        (f.length ≤ held ∧ ∃ p, f.packet = some p ∧ handlePacket p ≠ -1) := by
  rcases Nat.lt_or_ge held f.length with incomplete | complete
  · exact Or.inl incomplete
  · cases known : f.packet with
    | none => exact Or.inr (Or.inl ⟨complete, rfl⟩)
    | some p =>
        by_cases closes : handlePacket p = -1
        · exact Or.inr (Or.inr (Or.inl ⟨complete, p, rfl, closes⟩))
        · exact Or.inr (Or.inr (Or.inr ⟨complete, p, rfl, closes⟩))

/-! ## Progress through the frames -/

theorem left_suffix (handlePacket : PACKET → Int) (pending : List (Frame protocol)) (held : Nat) :
    (progress handlePacket pending held).left <:+ pending := by
  induction pending generalizing held with
  | nil => exact List.suffix_refl []
  | cons f rest inductionHypothesis =>
      rcases f.cases held handlePacket with incomplete | ⟨complete, unknown⟩ |
        ⟨complete, p, known, closes⟩ | ⟨complete, p, known, stays⟩
      · have still : (progress handlePacket (f :: rest) held).left = f :: rest :=
          congrArg Progress.left (progress_of_incomplete incomplete)
        exact ⟨[], still⟩
      · rw [progress_of_unknown complete unknown]
        exact List.suffix_cons f rest
      · rw [progress_of_closing complete known closes]
        exact List.suffix_cons f rest
      · rw [progress_of_known complete known stays]
        exact (inductionHypothesis (held - f.length)).trans (List.suffix_cons f rest)

/-- The packets handed on are the first ones of the known frames. -/
theorem packets_prefix (handlePacket : PACKET → Int) (pending : List (Frame protocol))
    (held : Nat) :
    (progress handlePacket pending held).packets <+: pending.filterMap Frame.packet := by
  induction pending generalizing held with
  | nil => exact List.nil_prefix
  | cons f rest inductionHypothesis =>
      rcases f.cases held handlePacket with incomplete | ⟨complete, unknown⟩ |
        ⟨complete, p, known, closes⟩ | ⟨complete, p, known, stays⟩
      · rw [progress_of_incomplete incomplete]
        exact List.nil_prefix
      · rw [progress_of_unknown complete unknown]
        exact List.nil_prefix
      · rw [progress_of_closing complete known closes, List.filterMap_cons_some known]
        exact List.prefix_append [p] _
      · rw [progress_of_known complete known stays, List.filterMap_cons_some known,
          List.cons_prefix_cons]
        exact ⟨rfl, inductionHypothesis (held - f.length)⟩

/-- Every known frame is handed on or left. -/
theorem filterMap_eq_append_left (goesOn : (progress handlePacket pending held).closed = false) :
    pending.filterMap Frame.packet = (progress handlePacket pending held).packets ++
      (progress handlePacket pending held).left.filterMap Frame.packet := by
  induction pending generalizing held with
  | nil => rfl
  | cons f rest inductionHypothesis =>
      rcases f.cases held handlePacket with incomplete | ⟨complete, unknown⟩ |
        ⟨complete, p, known, closes⟩ | ⟨complete, p, known, stays⟩
      · rw [progress_of_incomplete incomplete]
        rfl
      · rw [progress_of_unknown complete unknown, List.filterMap_cons_none unknown]
        rfl
      · rw [progress_of_closing complete known closes] at goesOn
        cases goesOn
      · rw [progress_of_known complete known stays] at goesOn ⊢
        rw [List.filterMap_cons_some known, inductionHypothesis goesOn]
        rfl

/-- What has arrived once more bytes come: what was handed on, and what has arrived of the
rest. -/
theorem filterMap_arrived_add (goesOn : (progress handlePacket pending held).closed = false)
    (more : Nat) :
    (arrived pending (held + more)).filterMap Frame.packet =
      (progress handlePacket pending held).packets ++
        (arrived (progress handlePacket pending held).left
          ((progress handlePacket pending held).held + more)).filterMap Frame.packet := by
  induction pending generalizing held with
  | nil => rfl
  | cons f rest inductionHypothesis =>
      rcases f.cases held handlePacket with incomplete | ⟨complete, unknown⟩ |
        ⟨complete, p, known, closes⟩ | ⟨complete, p, known, stays⟩
      · rw [progress_of_incomplete incomplete]
        rfl
      · rw [progress_of_unknown complete unknown, arrived, if_pos (by omega),
          List.filterMap_cons_none unknown, Nat.sub_add_comm complete]
        rfl
      · rw [progress_of_closing complete known closes] at goesOn
        cases goesOn
      · rw [progress_of_known complete known stays] at goesOn ⊢
        rw [arrived, if_pos (by omega), List.filterMap_cons_some known,
          Nat.sub_add_comm complete, inductionHypothesis goesOn]
        rfl

/-- The frame at which a call stops is unknown, and follows what was handed on. -/
theorem exists_of_skipped (skipped : (progress handlePacket pending held).skipped = some f) :
    f.packet = none ∧ (progress handlePacket pending held).closed = false ∧
      f :: (progress handlePacket pending held).left <:+ pending := by
  induction pending generalizing held with
  | nil => cases skipped
  | cons g rest inductionHypothesis =>
      rcases g.cases held handlePacket with incomplete | ⟨complete, unknown⟩ |
        ⟨complete, p, known, closes⟩ | ⟨complete, p, known, stays⟩
      · rw [progress_of_incomplete incomplete] at skipped
        cases skipped
      · rw [progress_of_unknown complete unknown] at skipped ⊢
        cases skipped
        exact ⟨unknown, rfl, List.suffix_refl _⟩
      · rw [progress_of_closing complete known closes] at skipped
        cases skipped
      · rw [progress_of_known complete known stays] at skipped ⊢
        rcases inductionHypothesis skipped with ⟨unknown, goesOn, suffix⟩
        exact ⟨unknown, goesOn, suffix.trans (List.suffix_cons g rest)⟩

end

end Stheno.Net
