import Stheno.Ring
import Stheno.Wire.TimeValue

/-!
# The storage of a stream service

A stream service keeps the frames of its sensor for a client that comes back.  They are
written round a vector of fixed size, and a client is given the frames from a number on.
-/

namespace Stheno.Streaming

open Wire (TimeValue)

/-- A frame as the sensor sends it. -/
structure FramePacket where
  frameNo : UInt32
  frameSize : Int32
  timestamp : TimeValue
  payload : List UInt8
  deriving DecidableEq

/-- A frame as the service sends it on. -/
structure StreamFramePacket where
  frameNo : UInt32
  frameSize : Int32
  timestamp : TimeValue
  payload : List UInt8
  deriving DecidableEq

/-- The packet that is made of a stored frame, with the same payload. -/
def StreamFramePacket.relay (packet : FramePacket) : StreamFramePacket where
  frameNo := packet.frameNo
  frameSize := packet.frameSize
  timestamp := packet.timestamp
  payload := packet.payload

@[simp]
theorem StreamFramePacket.relay_frameNo (packet : FramePacket) :
    (StreamFramePacket.relay packet).frameNo = packet.frameNo := rfl

/-- Ten minutes of frames. -/
def storageMaxLimit : UInt32 := 24 * 60 * 10

/-- The number of slots. -/
abbrev slots : Nat := 14400

theorem toNat_storageMaxLimit : storageMaxLimit.toNat = slots := by
  decide

structure StreamService where
  storage : List (Option FramePacket)
  storageIndex : UInt32
  sized : storage.length = slots

namespace StreamService

/-- The constructor, which fills the vector with null pointers. -/
def new : StreamService where
  storage := List.replicate slots none
  storageIndex := 0
  sized := List.length_replicate

/-- Where the next frame is written. -/
def realPos (this : StreamService) : Nat :=
  (this.storageIndex % storageMaxLimit).toNat

theorem realPos_eq (this : StreamService) : this.realPos = this.storageIndex.toNat % slots := by
  rw [realPos, UInt32.toNat_mod, toNat_storageMaxLimit]

/-- Every frame is written into the array. -/
theorem realPos_lt (this : StreamService) : this.realPos < this.storage.length := by
  rw [this.realPos_eq, this.sized]
  exact Nat.mod_lt _ (by decide)

/-- The frame that was in the slot is deleted. -/
def addToStorage (this : StreamService) (frame : FramePacket) : StreamService where
  storage := this.storage.set this.realPos (some frame)
  storageIndex := this.storageIndex + 1
  sized := by
    rw [List.length_set]
    exact this.sized

/-- A slot is followed without a check when the frames are copied. -/
def copy : Option FramePacket → Result StreamFramePacket
  | some packet => .ok (.relay packet)
  | none => .error .nullDereference

def getRetrieveStorage (this : StreamService) (frameNo : UInt32) :
    Result (Int × List StreamFramePacket) :=
  match this.storage.findIdx? fun slot => slot.any fun packet => packet.frameNo = frameNo with
  | none => .ok (-1, [])
  | some i =>
      if i < this.realPos then do
        let l ← ((this.storage.drop i).take (this.realPos - i)).mapM copy
        pure (0, l)
      else do
        let upper ← (this.storage.drop i).mapM copy
        let lower ← (this.storage.take this.realPos).mapM copy
        pure (0, upper ++ lower)

/-! ## What is stored -/

/-- The service after the frames of its sensor were stored one after another. -/
def stored (frames : List FramePacket) : StreamService :=
  frames.foldl addToStorage new

@[simp]
theorem stored_concat (frames : List FramePacket) (frame : FramePacket) :
    stored (frames ++ [frame]) = (stored frames).addToStorage frame := by
  rw [stored, List.foldl_append]
  rfl

/-- Until it wraps, the index is the number of frames stored. -/
theorem toNat_storageIndex (frames : List FramePacket) :
    (stored frames).storageIndex.toNat = frames.length % 2 ^ 32 := by
  induction frames using List.reverseRecOn with
  | nil => rfl
  | append_singleton frames frame inductionHypothesis =>
      rw [stored_concat, addToStorage, UInt32.toNat_add, inductionHypothesis, List.length_append]
      exact Nat.mod_add_mod _ _ _

/-- The frames stored, behind the null pointers of the constructor. -/
def written (frames : List FramePacket) : List (Option FramePacket) :=
  List.replicate slots none ++ frames.map some

/-- The window of what was written: null pointers, if any are left, before the frames. -/
theorem window_written (frames : List FramePacket) :
    window slots (written frames) =
      List.replicate (slots - frames.length) none ++ (window slots frames).map some := by
  have behind : (written frames).length - slots = frames.length := by
    rw [written, List.length_append, List.length_replicate, List.length_map, Nat.add_sub_cancel_left]
  rw [window, behind, written, List.drop_append, List.drop_replicate, List.length_replicate, window,
    List.map_drop]

/-- The storage is a ring over the frames until the index wraps. -/
theorem holds_stored {frames : List FramePacket} (bounded : frames.length < 2 ^ 32) :
    Holds (stored frames).storage (stored frames).realPos (written frames) := by
  induction frames using List.reverseRecOn with
  | nil =>
      rw [written, List.map_nil, List.append_nil]
      exact Holds.blank (by decide) none
  | append_singleton frames frame inductionHypothesis =>
      rw [List.length_append, List.length_singleton] at bounded
      have before : frames.length < 2 ^ 32 := by omega
      have next := (inductionHypothesis before).put (some frame)
      have position : (stored (frames ++ [frame])).realPos =
          ((stored frames).realPos + 1) % (stored frames).storage.length := by
        rw [realPos_eq, realPos_eq, toNat_storageIndex, toNat_storageIndex, (stored frames).sized,
          Nat.mod_eq_of_lt before, List.length_append, List.length_singleton,
          Nat.mod_eq_of_lt bounded, Nat.mod_add_mod]
      have longer : written (frames ++ [frame]) = written frames ++ [some frame] := by
        rw [written, written, List.map_append, List.append_assoc]
        rfl
      rw [position, longer, stored_concat]
      exact next

theorem mapM_copy (frames : List FramePacket) :
    (frames.map some).mapM copy = .ok (frames.map StreamFramePacket.relay) := by
  induction frames with
  | nil => rfl
  | cons frame frames inductionHypothesis =>
      rw [List.map_cons, List.mapM_cons, inductionHypothesis]
      rfl

/-- From the slot that is found on, the window is copied to its end. -/
theorem getRetrieveStorage_found {this : StreamService} {history : List (Option FramePacket)}
    {frameNo : UInt32} {place : Nat} (holds : Holds this.storage this.realPos history)
    (found : this.storage.findIdx? (fun slot => slot.any fun packet => packet.frameNo = frameNo) =
      some place) (inside : place < this.storage.length) :
    ∃ start, this.storage[place]? = (window slots history)[start]? ∧
      this.getRetrieveStorage frameNo =
        ((window slots history).drop start).mapM copy >>= fun l => pure (0, l) := by
  have item := holds.getElem?_eq inside
  have reading := holds.drop_eq inside
  rw [this.sized] at item reading
  refine ⟨_, item, ?_⟩
  rw [← reading, getRetrieveStorage, found]
  by_cases before : place < this.realPos
  · simp only [if_pos before]
  · simp only [if_neg before, List.mapM_append, bind_assoc, pure_bind]

/-- What lies behind null pointers, from an entry that is none of them on. -/
theorem drop_padded {blanks start : Nat} {frames : List FramePacket} {first : FramePacket}
    (item : (List.replicate blanks none ++ frames.map some)[start]? = some (some first)) :
    ∃ later, first :: later <:+ frames ∧
      (List.replicate blanks none ++ frames.map some).drop start = (first :: later).map some := by
  by_cases early : start < blanks
  · rw [List.getElem?_append_left (by rw [List.length_replicate]; exact early),
      List.getElem?_replicate_of_lt early] at item
    cases item
  · have passed : blanks ≤ start := Nat.le_of_not_lt early
    rw [List.getElem?_append_right (by rw [List.length_replicate]; exact passed),
      List.length_replicate, List.getElem?_map, Option.map_eq_some_iff] at item
    rcases item with ⟨_, item, ⟨⟩⟩
    rcases List.getElem?_eq_some_iff.mp item with ⟨inside, isFirst⟩
    have rest : frames.drop (start - blanks) = first :: frames.drop (start - blanks + 1) := by
      rw [List.drop_eq_getElem_cons inside, isFirst]
    refine ⟨frames.drop (start - blanks + 1), ?_, ?_⟩
    · rw [← rest]
      exact List.drop_suffix _ _
    · have replicated : (List.replicate blanks (none : Option FramePacket)).length ≤ start := by
        rw [List.length_replicate]
        exact passed
      rw [List.drop_append, List.drop_eq_nil_of_le replicated, List.nil_append,
        List.length_replicate, ← List.map_drop, rest]

/-- The frames from the one that is found to the newest. -/
theorem getRetrieveStorage_of_found {frames : List FramePacket} {frameNo : UInt32} {place : Nat}
    (bounded : frames.length < 2 ^ 32)
    (found : (stored frames).storage.findIdx?
      (fun slot => slot.any fun packet => packet.frameNo = frameNo) = some place) :
    ∃ first later, first :: later <:+ window slots frames ∧ first.frameNo = frameNo ∧
      (stored frames).getRetrieveStorage frameNo =
        .ok (0, (first :: later).map StreamFramePacket.relay) := by
  rcases List.findIdx?_eq_some_iff_getElem.mp found with ⟨inside, numbered, -⟩
  rcases Option.any_eq_true _ _ |>.mp numbered with ⟨first, isFirst, numbered⟩
  rcases getRetrieveStorage_found (holds_stored bounded) found inside with ⟨start, item, copied⟩
  rw [List.getElem?_eq_getElem inside, isFirst, window_written] at item
  rcases drop_padded item.symm with ⟨later, suffix, rest⟩
  refine ⟨first, later, suffix, of_decide_eq_true numbered, ?_⟩
  rw [copied, window_written, rest, mapM_copy]
  rfl

/-- A number that no slot has is none of the frames in the window. -/
theorem getRetrieveStorage_of_missing {frames : List FramePacket} {frameNo : UInt32}
    (bounded : frames.length < 2 ^ 32)
    (missing : (stored frames).storage.findIdx?
      (fun slot => slot.any fun packet => packet.frameNo = frameNo) = none) :
    (∀ frame ∈ window slots frames, frame.frameNo ≠ frameNo) ∧
      (stored frames).getRetrieveStorage frameNo = .ok (-1, []) := by
  constructor
  · intro frame member numbered
    have read := (holds_stored bounded).reads
    rw [(stored frames).sized, window_written] at read
    have slot : some frame ∈ (stored frames).storage := by
      rw [← List.mem_rotate, read]
      exact List.mem_append_right _ (List.mem_map_of_mem member)
    have other := List.findIdx?_eq_none_iff.mp missing _ slot
    exact of_decide_eq_false other numbered
  · rw [getRetrieveStorage, missing]

/-- What a request for the frames from a number on is to be answered with: the frames from
that one to the newest if it is among the last ten minutes of frames, and else nothing. -/
def Answers (frames : List FramePacket) (frameNo : UInt32)
    (out : Int × List StreamFramePacket) : Prop :=
  (∃ first later, first :: later <:+ window slots frames ∧ first.frameNo = frameNo ∧
    out = (0, (first :: later).map StreamFramePacket.relay)) ∨
  ((∀ frame ∈ window slots frames, frame.frameNo ≠ frameNo) ∧ out = (-1, []))

theorem getRetrieveStorage_stored {frames : List FramePacket} (bounded : frames.length < 2 ^ 32)
    (frameNo : UInt32) :
    ∃ out, (stored frames).getRetrieveStorage frameNo = .ok out ∧ Answers frames frameNo out := by
  cases found : (stored frames).storage.findIdx?
      fun slot => slot.any fun packet => packet.frameNo = frameNo with
  | none =>
      rcases getRetrieveStorage_of_missing bounded found with ⟨other, answer⟩
      exact ⟨_, answer, .inr ⟨other, rfl⟩⟩
  | some place =>
      rcases getRetrieveStorage_of_found bounded found with ⟨first, later, suffix, numbered, answer⟩
      exact ⟨_, answer, .inl ⟨first, later, suffix, numbered, rfl⟩⟩

/-! ## No null pointer is followed -/

/-- Every slot has a frame. -/
def Full (this : StreamService) : Prop :=
  ∀ slot ∈ this.storage, slot ≠ none

theorem Full.addToStorage {this : StreamService} (full : this.Full) (frame : FramePacket) :
    (this.addToStorage frame).Full := by
  intro slot member
  rcases List.mem_or_eq_of_mem_set member with old | rfl
  · exact full slot old
  · exact Option.some_ne_none frame

theorem full_stored {frames : List FramePacket} (many : slots ≤ frames.length) :
    (stored frames).Full := by
  induction frames using List.reverseRecOn with
  | nil => exact absurd many (by decide)
  | append_singleton frames frame inductionHypothesis =>
      by_cases before : slots ≤ frames.length
      · rw [stored_concat]
        exact (inductionHypothesis before).addToStorage frame
      · rw [List.length_append, List.length_singleton] at many
        have exactly : (frames ++ [frame]).length = slots := by
          rw [List.length_append, List.length_singleton]
          omega
        have bounded : (frames ++ [frame]).length < 2 ^ 32 := by
          rw [exactly]
          decide
        have read := (holds_stored bounded).reads
        rw [StreamService.sized, window_written, exactly, Nat.sub_self, List.replicate_zero,
          List.nil_append] at read
        intro slot member
        have rotated : slot ∈ (stored (frames ++ [frame])).storage.rotate
            (stored (frames ++ [frame])).realPos := List.mem_rotate.mpr member
        rw [read] at rotated
        rcases List.mem_map.mp rotated with ⟨other, -, rfl⟩
        exact Option.some_ne_none other

theorem mapM_copy_of_full {list : List (Option FramePacket)} (full : ∀ slot ∈ list, slot ≠ none) :
    ∃ l, list.mapM copy = .ok l := by
  have each : ∀ slot ∈ list, ∃ packet, copy slot = .ok packet ∧ True := by
    intro slot member
    rcases Option.ne_none_iff_exists'.mp (full slot member) with ⟨packet, rfl⟩
    exact ⟨_, rfl, trivial⟩
  rcases Result.exists_mapM each with ⟨l, copied, -⟩
  exact ⟨l, copied⟩

theorem getRetrieveStorage_of_full {this : StreamService} (full : this.Full) (frameNo : UInt32) :
    ∃ out, this.getRetrieveStorage frameNo = .ok out := by
  rw [getRetrieveStorage]
  cases this.storage.findIdx? fun slot => slot.any fun packet => packet.frameNo = frameNo with
  | none => exact ⟨_, rfl⟩
  | some i =>
      have upTo : ∀ slot ∈ this.storage.drop i, slot ≠ none :=
        fun slot member => full slot (List.mem_of_mem_drop member)
      rcases mapM_copy_of_full upTo with ⟨upper, copiedUpper⟩
      rcases mapM_copy_of_full fun slot member => full slot (List.mem_of_mem_take member)
        with ⟨lower, copiedLower⟩
      rcases mapM_copy_of_full fun slot member => upTo slot (List.mem_of_mem_take member)
        with ⟨l, copied⟩
      by_cases before : i < this.realPos
      · simp only [if_pos before]
        exact ⟨_, Result.bind_eq_ok.mpr ⟨l, copied, rfl⟩⟩
      · simp only [if_neg before]
        exact ⟨_, Result.bind_eq_ok.mpr ⟨upper, copiedUpper,
          Result.bind_eq_ok.mpr ⟨lower, copiedLower, rfl⟩⟩⟩

theorem getRetrieveStorage_total (frames : List FramePacket) (frameNo : UInt32) :
    ∃ out, (stored frames).getRetrieveStorage frameNo = .ok out := by
  by_cases bounded : frames.length < 2 ^ 32
  · rcases getRetrieveStorage_stored bounded frameNo with ⟨out, answer, -⟩
    exact ⟨out, answer⟩
  · have many : slots ≤ frames.length := Nat.le_trans (by decide) (Nat.le_of_not_lt bounded)
    exact getRetrieveStorage_of_full (full_stored many) frameNo

/-- However many frames were stored, a request follows no null pointer, and until the index
wraps it is answered with the frames from the requested one on. -/
theorem getRetrieveStorage_answers (frames : List FramePacket) (frameNo : UInt32) :
    ∃ out, (stored frames).getRetrieveStorage frameNo = .ok out ∧
      (frames.length < 2 ^ 32 → Answers frames frameNo out) := by
  by_cases bounded : frames.length < 2 ^ 32
  · rcases getRetrieveStorage_stored bounded frameNo with ⟨out, answer, answers⟩
    exact ⟨out, answer, fun _ => answers⟩
  · rcases getRetrieveStorage_total frames frameNo with ⟨out, answer⟩
    exact ⟨out, answer, fun few => absurd few bounded⟩

end StreamService

end Stheno.Streaming
