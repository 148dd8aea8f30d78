import Stheno.Net.Sending
import Stheno.Run

/-!
# The order of the outgoing stream

Until a send fails, the block in hand and the queue line up behind what the socket took.
The channel delivers for as long as it never closes with blocks left, queues no packet that
the reactor does not send, and wakes no thread with `JOIN_FAILED`.
-/

namespace Stheno.Net.Sending

open Events Lineup

/-! ## What the steps keep -/

/-- What holds of a channel also while a packet is on its way to the queue or the socket. -/
structure Kept (this : Sending) : Prop where
  failed : this.sendFailed = true → this.closed = true
  inOrder : this.socket <+: this.handed.flatten
  notices : this.asyncWrite = true → this.notified = this.outputQueue.length
  direct : this.asyncWrite = false → this.notified = 0 ∧ this.inHand = none
  unqueued : this.asyncWrite = false → this.sendFailed = false → this.outputQueue = []
  holding : this.inHand ≠ none → this.closed = false
  succeeded : ∀ entry ∈ this.completed, entry.2 = ES_SUCCESS ∧
    Complete this.handed this.socket entry.1
  returned : ∀ id ∈ this.returned0, Complete this.handed this.socket id
  told : this.closedOn = []
  defined : this.dangling = false

/-- Until a send fails, the blocks that are left line up behind what is written. -/
structure Sound (this : Sending) : Prop extends Kept this where
  lined : this.sendFailed = false → Lined this.handed this.socket this.outstanding

variable {capacity : Nat} {this after : Sending} {packet : SerializedPacket} {id : Nat}
  {event : SendEvent}

theorem close_of_closed (closed : this.closed = true) : this.close = this := by
  rw [close, if_pos closed]

theorem close_closed : this.close.closed = true := by
  rw [close]
  split
  · assumption
  · rfl

/-- A channel that closes with blocks left has not told their callers. -/
theorem closedOn_close (opened : this.closed = false) :
    this.close.closedOn = this.outstanding.map Block.id := by
  rw [close, if_neg (ne_true_of_eq_false opened)]

theorem completed_close : this.close.completed = this.completed := by
  rw [close]
  split
  · rfl
  · rfl

namespace Kept

theorem unfailed (kept : this.Kept) (opened : this.closed = false) : this.sendFailed = false := by
  rw [← Bool.not_eq_true]
  exact fun failed => ne_true_of_eq_false opened (kept.failed failed)

/-- No block is completed with a failure. -/
theorem successes (kept : this.Kept) : ∀ entry ∈ this.completed, entry.2 = ES_SUCCESS :=
  fun entry member => (kept.succeeded entry member).1

theorem hand (kept : this.Kept) (packet : SerializedPacket) : (this.hand packet).Kept where
  __ := kept
  inOrder := prefix_hand kept.inOrder packet.bytes
  succeeded entry member :=
    ⟨(kept.succeeded entry member).1, (kept.succeeded entry member).2.hand packet.bytes⟩
  returned id member := (kept.returned id member).hand packet.bytes

theorem write (kept : this.Kept) {bytes : List UInt8}
    (begins : this.socket ++ bytes <+: this.handed.flatten) : (this.write bytes).Kept where
  __ := kept
  inOrder := begins
  succeeded entry member :=
    ⟨(kept.succeeded entry member).1, (kept.succeeded entry member).2.write bytes⟩
  returned id member := (kept.returned id member).write bytes

theorem close (kept : this.Kept) (mayClose : this.MayClose) : this.close.Kept := by
  rcases mayClose with closed | nothing
  · rw [close_of_closed closed]
    exact kept
  · by_cases closed : this.closed = true
    · rw [close_of_closed closed]
      exact kept
    · have empty : this.inHand = none := by
        rcases held : this.inHand with _ | block
        · rfl
        · rw [outstanding, held] at nothing
          cases nothing
      rw [Sending.close, if_neg closed]
      exact { kept with
        failed := fun _ => rfl
        holding := fun held => absurd empty held
        told := by
          rw [nothing]
          rfl }

/-- After a failed send nothing has to line up any more. -/
theorem fail (kept : this.Kept) (closed : this.closed = true) : this.fail.Sound where
  __ := kept
  failed _ := closed
  unqueued _ impossible := by cases impossible
  lined impossible := by cases impossible

/-- A block more in the queue, which the reactor will send or which nobody has to send. -/
theorem enqueue (kept : this.Kept) {queue : List (Block UInt8)}
    (longer : queue.length = this.outputQueue.length + 1)
    (served : this.asyncWrite = true ∨ this.sendFailed = true) :
    { this with outputQueue := queue }.notify.Kept where
  __ := kept
  notices (async : this.asyncWrite = true) := by
    change (if this.asyncWrite then this.notified + 1 else this.notified) = queue.length
    rw [if_pos async, longer, kept.notices async]
  direct (direct : this.asyncWrite = false) := by
    change (if this.asyncWrite then this.notified + 1 else this.notified) = 0 ∧ this.inHand = none
    rw [if_neg (ne_true_of_eq_false direct)]
    exact kept.direct direct
  unqueued direct unfailed := by
    rcases served with async | failed
    · exact absurd async (ne_true_of_eq_false direct)
    · exact absurd failed (ne_true_of_eq_false unfailed)

theorem release (kept : this.Kept) : this.release.Kept where
  __ := kept
  direct direct := ⟨(kept.direct direct).1, rfl⟩
  holding impossible := absurd rfl impossible

/-- A notification takes the first block from the queue. -/
theorem dequeue (kept : this.Kept) {notified : Nat} {block : Block UInt8}
    {rest : List (Block UInt8)} (notice : this.notified = notified + 1)
    (queue : this.outputQueue = block :: rest) :
    { this with notified := notified, outputQueue := rest }.Kept where
  __ := kept
  notices async := by
    have equal := kept.notices async
    rw [notice, queue, List.length_cons] at equal
    exact Nat.succ.inj equal
  direct direct := by
    rw [(kept.direct direct).1] at notice
    cases notice
  unqueued direct unfailed := by
    rw [kept.unqueued direct unfailed] at queue
    cases queue

/-- Only an open channel with asynchronous writes holds a block. -/
theorem hold (kept : this.Kept) (block : Block UInt8) (async : this.asyncWrite = true)
    (opened : this.closed = false) : { this with inHand := some block }.Kept where
  __ := kept
  direct (direct : this.asyncWrite = false) := absurd async (ne_true_of_eq_false direct)
  holding _ := opened

/-- A block whose packet is written is completed. -/
theorem complete (kept : this.Kept) (complete : Complete this.handed this.socket id) :
    { this.release with completed := this.completed ++ [(id, ES_SUCCESS)] }.Kept where
  __ := kept.release
  succeeded entry member := by
    rcases List.mem_append.mp member with earlier | last
    · exact kept.succeeded entry earlier
    · rw [List.mem_singleton.mp last]
      exact ⟨rfl, complete⟩

/-- A `send` comes back with success. -/
theorem answer (kept : this.Kept) (complete : Complete this.handed this.socket id)
    (waiting : List Nat) :
    { this with waiting := waiting, returned0 := this.returned0 ++ [id] }.Kept where
  __ := kept
  returned other member := by
    rcases List.mem_append.mp member with earlier | last
    · exact kept.returned other earlier
    · rw [List.mem_singleton.mp last]
      exact complete

/-- A call that closes the channel and fails. -/
theorem close_fail (kept : this.Kept) (mayClose : this.MayClose) : this.close.fail.Sound :=
  (kept.close mayClose).fail close_closed

end Kept

/-! ### Queued packets -/

theorem sendAsync_of_room (room : this.outputQueue.length < capacity) (block : Block UInt8) :
    this.sendAsync capacity block =
      ({ this with outputQueue := this.outputQueue ++ [block] }.notify, true) := by
  rw [sendAsync, queueOutput, if_pos room]

theorem sendAsync_of_full (full : ¬ this.outputQueue.length < capacity) (block : Block UInt8) :
    this.sendAsync capacity block = (this.close, false) := by
  rw [sendAsync, queueOutput, if_neg full]

/-- A packet goes to the end of the queue. -/
theorem Sound.queue (sound : this.Sound) (packet : SerializedPacket)
    (served : this.asyncWrite = true ∨ this.sendFailed = true) :
    { this.hand packet with
      outputQueue := this.outputQueue ++ [Block.mk this.handed.length packet.bytes] }.notify.Sound where
  toKept := by
    apply (sound.hand packet).enqueue _ served
    rw [List.length_append, List.length_singleton]
    rfl
  lined unfailed := by
    have behind := (sound.lined unfailed).hand packet.bytes
    rw [outstanding, List.append_assoc] at behind
    exact behind

theorem sendPacketAsync_of_full (full : ¬ this.outputQueue.length < capacity) :
    this.sendPacketAsync capacity packet = (this.hand packet).close.fail := by
  have fullLater : ¬ (this.hand packet).outputQueue.length < capacity := full
  rw [sendPacketAsync, sendAsync_of_full fullLater]

theorem sendPacketAsync_of_room (room : this.outputQueue.length < capacity) :
    this.sendPacketAsync capacity packet =
      { this.hand packet with
        outputQueue := this.outputQueue ++ [Block.mk this.handed.length packet.bytes] }.notify := by
  have roomLater : (this.hand packet).outputQueue.length < capacity := room
  rw [sendPacketAsync, sendAsync_of_room roomLater]
  rfl

theorem sendPacket_of_full {results : Nat → Option Nat} (opened : this.closed = false)
    (async : this.asyncWrite = true) (full : ¬ this.outputQueue.length < capacity) :
    this.sendPacket capacity packet results = (this.hand packet).close.fail := by
  have fullLater : ¬ (this.hand packet).outputQueue.length < capacity := full
  rw [sendPacket, if_neg (ne_true_of_eq_false opened), if_pos async, sendAsync_of_full fullLater]
  exact congrArg fail (close_of_closed close_closed)

/-- A synchronous channel on which nothing failed has an empty queue. -/
theorem Kept.mayClose_of_direct (kept : this.Kept) (direct : this.asyncWrite = false) :
    this.MayClose := by
  by_cases failed : this.sendFailed = true
  · exact .inl (kept.failed failed)
  · right
    rw [outstanding, kept.unqueued direct (eq_false_of_ne_true failed), (kept.direct direct).2]
    rfl

theorem Sound.sendPacketAsync (sound : this.Sound)
    (fits : this.Fits capacity (.sendPacketAsync packet)) :
    (this.sendPacketAsync capacity packet).Sound := by
  rw [Fits] at fits
  by_cases room : this.outputQueue.length < capacity
  · have served : this.asyncWrite = true ∨ this.sendFailed = true := by
      by_cases async : this.asyncWrite = true
      · exact .inl async
      · rw [if_neg async] at fits
        exact .inr (fits.resolve_right fun full => full room)
    rw [sendPacketAsync_of_room room]
    exact sound.queue packet served
  · rw [sendPacketAsync_of_full room]
    apply (sound.hand packet).close_fail
    by_cases async : this.asyncWrite = true
    · rw [if_pos async] at fits
      exact fits.resolve_left room
    · exact sound.mayClose_of_direct (eq_false_of_ne_true async)

/-! ### Packets written at once -/

theorem write_write (bytes more : List UInt8) :
    (this.write bytes).write more = this.write (bytes ++ more) := by
  simp only [write, List.append_assoc]

theorem write_nil : this.write [] = this := by
  simp only [write, List.append_nil]

theorem sendSync_none (buffer : List UInt8) : this.sendSync buffer none = (this.close, none) := by
  cases opened : this.closed with
  | false => simp only [sendSync, opened]
  | true => simp only [sendSync, opened]

theorem sendSync_of_closed (closed : this.closed = true) (buffer : List UInt8)
    (result : Option Nat) : this.sendSync buffer result = (this, none) := by
  simp only [sendSync, closed, close_of_closed closed]

theorem sendSync_some (opened : this.closed = false) (buffer : List UInt8) (more : Nat) :
    this.sendSync buffer (some more) =
      (this.write (buffer.take (more + 1)), some (buffer.drop (more + 1))) := by
  simp only [sendSync, opened]

/-- The loop writes the packet, or a beginning of it before it closes the channel. -/
theorem sendLoop_of_open {fuel : Nat} {buffer : List UInt8} {results : Nat → Option Nat}
    (opened : this.closed = false) (enough : buffer.length ≤ fuel) :
    sendLoop fuel this buffer results = (this.write buffer, true) ∨
      ∃ part, part <+: buffer ∧
        sendLoop fuel this buffer results = ((this.write part).close, false) := by
  induction fuel generalizing this buffer results with
  | zero =>
      left
      rw [List.length_eq_zero_iff.mp (Nat.le_zero.mp enough), sendLoop, write_nil]
  | succ fuel inductionHypothesis =>
      cases buffer with
      | nil =>
          left
          rw [sendLoop, write_nil]
      | cons byte buffer =>
          rw [sendLoop]
          cases results 0 with
          | none =>
              right
              refine ⟨[], List.nil_prefix, ?_⟩
              rw [sendSync_none, write_nil]
              exact congrArg (·, false) (close_of_closed close_closed)
          | some more =>
              rw [sendSync_some opened]
              -- A round leaves fewer bytes for the others.
              have fewer : ((byte :: buffer).drop (more + 1)).length ≤ fuel := by
                rw [List.drop_succ_cons, List.length_drop]
                exact (Nat.sub_le _ _).trans (Nat.le_of_succ_le_succ enough)
              have joined := List.take_append_drop (more + 1) (byte :: buffer)
              have openedLater : (this.write ((byte :: buffer).take (more + 1))).closed = false :=
                opened
              rcases inductionHypothesis openedLater fewer with sent | ⟨part, begins, stopped⟩
              · left
                rw [write_write, joined] at sent
                exact sent
              · right
                refine ⟨(byte :: buffer).take (more + 1) ++ part, ?_, ?_⟩
                · conv_rhs => rw [← joined]
                  exact (List.prefix_append_right_inj _).mpr begins
                · rw [← write_write]
                  exact stopped

/-- With nothing outstanding, a packet follows what is written. -/
theorem Sound.follow (sound : this.Sound) (direct : this.asyncWrite = false)
    (opened : this.closed = false) (packet : SerializedPacket) :
    Lined (this.handed ++ [packet.bytes]) this.socket
      [⟨this.handed.length, packet.bytes⟩] := by
  have nothing : this.outstanding = [] :=
    (sound.mayClose_of_direct direct).resolve_left (ne_true_of_eq_false opened)
  have lined := sound.lined (sound.unfailed opened)
  rw [nothing] at lined
  exact lined.hand packet.bytes

theorem Sound.sendPacket (sound : this.Sound) {results : Nat → Option Nat}
    (fits : this.Fits capacity (.sendPacket packet results)) :
    (this.sendPacket capacity packet results).Sound := by
  have handed := sound.hand packet
  by_cases closed : this.closed = true
  · rw [Sending.sendPacket, if_pos closed]
    exact handed.fail closed
  · have opened := eq_false_of_ne_true closed
    by_cases async : this.asyncWrite = true
    · by_cases room : this.outputQueue.length < capacity
      · have roomLater : (this.hand packet).outputQueue.length < capacity := room
        have queued := sound.queue packet (.inl async)
        rw [Sending.sendPacket, if_neg closed, if_pos async, sendAsync_of_room roomLater]
        exact { queued with lined := queued.lined }
      · rw [sendPacket_of_full opened async room]
        exact handed.close_fail ((fits async).resolve_left room)
    · have direct := eq_false_of_ne_true async
      have follow := sound.follow direct opened packet
      have openedLater : (this.hand packet).closed = false := opened
      rw [Sending.sendPacket, if_neg closed, if_neg async]
      rcases sendLoop_of_open openedLater (Nat.le_refl packet.bytes.length) with
        sent | ⟨part, begins, stopped⟩
      · rw [sent]
        have written := follow.write packet.bytes.length
        rw [List.take_length, List.drop_length] at written
        have answered := (handed.write written.written_prefix).answer written.complete this.waiting
        exact { answered with
          lined := fun unfailed => by
            have finished := written.finish
            rw [← (sound.mayClose_of_direct direct).resolve_left closed] at finished
            exact finished }
      · rw [stopped]
        have within : this.socket ++ part <+: (this.handed ++ [packet.bytes]).flatten := by
          rcases follow with ⟨-, -, whole⟩
          exact ((List.prefix_append_right_inj _).mpr begins).trans whole.written_prefix
        exact (handed.write within).close_fail (sound.mayClose_of_direct direct)

/-! ### Blocks that the reactor sends -/

theorem handleOutput_of_notice {notified : Nat} {result : Option Nat}
    (notice : this.notified = notified + 1) (free : this.inHand = none) :
    this.handleOutput result = (this.noticed notified).handleOutput_i result := by
  simp only [handleOutput, notice, free]

/-- Without a notification, or with a block in hand, nothing is dispatched. -/
theorem handleOutput_of_busy {result : Option Nat}
    (busy : this.notified = 0 ∨ this.inHand ≠ none) : this.handleOutput result = this := by
  rw [handleOutput]
  split
  · rename_i notified notice free
    rcases busy with quiet | held
    · rw [quiet] at notice
      cases notice
    · exact absurd free held
  · rfl

theorem handleOutput_i_none {block : Block UInt8} {rest : List (Block UInt8)}
    (queue : this.outputQueue = block :: rest) :
    this.handleOutput_i none = (this.take block rest).close.release.fail := by
  simp only [handleOutput_i, queue, sendSync_none]

theorem handleOutput_i_of_closed {block : Block UInt8} {rest : List (Block UInt8)}
    {result : Option Nat} (queue : this.outputQueue = block :: rest)
    (closed : this.closed = true) :
    this.handleOutput_i result = (this.take block rest).release.fail := by
  have closedLater : (this.take block rest).closed = true := closed
  simp only [handleOutput_i, queue, sendSync_of_closed closedLater]

/-- The socket takes a piece of the block. -/
theorem handleOutput_i_of_open {block : Block UInt8} {rest : List (Block UInt8)} {more : Nat}
    (queue : this.outputQueue = block :: rest) (opened : this.closed = false) :
    this.handleOutput_i (some more) =
      let written := (this.take block rest).write (block.remaining.take (more + 1))
      match block.remaining.drop (more + 1) with
      | [] => { written.release with completed := this.completed ++ [(block.id, ES_SUCCESS)] }
      | byte :: left => { written with inHand := some ⟨block.id, byte :: left⟩ } := by
  have openedLater : (this.take block rest).closed = false := opened
  simp only [handleOutput_i, queue, sendSync_some openedLater]
  cases block.remaining.drop (more + 1) with
  | nil => rfl
  | cons byte left => rfl

/-- A notification of a channel with asynchronous writes finds a block. -/
theorem Kept.block_of_notice (kept : this.Kept) {notified : Nat}
    (notice : this.notified = notified + 1) :
    this.asyncWrite = true ∧ ∃ block rest, this.outputQueue = block :: rest := by
  have async : this.asyncWrite = true := by
    by_contra direct
    rw [(kept.direct (eq_false_of_ne_true direct)).1] at notice
    cases notice
  have length := kept.notices async
  rw [notice] at length
  exact ⟨async, List.exists_cons_of_length_eq_add_one length.symm⟩

/-- On a closed channel the block is dropped. -/
theorem Sound.drop (sound : this.Sound) {notified : Nat} {block : Block UInt8}
    {rest : List (Block UInt8)} {result : Option Nat} (notice : this.notified = notified + 1)
    (queue : this.outputQueue = block :: rest) (closed : this.closed = true) :
    ((this.noticed notified).handleOutput_i result).Sound := by
  have queueLater : (this.noticed notified).outputQueue = block :: rest := queue
  rw [handleOutput_i_of_closed queueLater closed]
  exact (sound.dequeue notice queue).release.fail closed

/-- On an open channel the socket takes a piece of the block. -/
theorem Sound.sendPiece (sound : this.Sound) {notified : Nat} {block : Block UInt8}
    {rest : List (Block UInt8)} {more : Nat} (notice : this.notified = notified + 1)
    (free : this.inHand = none) (queue : this.outputQueue = block :: rest)
    (async : this.asyncWrite = true) (opened : this.closed = false) :
    ((this.noticed notified).handleOutput_i (some more)).Sound := by
  have lined := sound.lined (sound.unfailed opened)
  rw [outstanding, free, queue] at lined
  have written := Lined.write lined (more + 1)
  have taken := ((sound.dequeue notice queue).hold block async opened).write
    written.written_prefix
  have queueLater : (this.noticed notified).outputQueue = block :: rest := queue
  rw [handleOutput_i_of_open queueLater opened]
  cases left : block.remaining.drop (more + 1) with
  | nil =>
      rw [left] at written
      exact { taken.complete written.complete with
        lined := fun _ => written.finish }
  | cons byte left' =>
      rw [left] at written
      exact { taken.hold ⟨block.id, byte :: left'⟩ async opened with
        lined := fun _ => written }

theorem Sound.handleOutput (sound : this.Sound) {result : Option Nat}
    (fits : this.Fits capacity (.handleOutput result)) : (this.handleOutput result).Sound := by
  by_cases busy : this.notified = 0 ∨ this.inHand ≠ none
  · rw [handleOutput_of_busy busy]
    exact sound
  · rw [not_or, not_not] at busy
    rcases busy with ⟨notices, free⟩
    rcases Nat.exists_eq_succ_of_ne_zero notices with ⟨notified, notice⟩
    rcases sound.block_of_notice notice with ⟨async, block, rest, queue⟩
    rw [handleOutput_of_notice notice free]
    by_cases closed : this.closed = true
    · exact sound.drop notice queue closed
    · cases result with
      | none =>
          rcases fits rfl with quiet | held | closed'
          · exact absurd quiet notices
          · exact absurd free held
          · exact absurd closed' closed
      | some more => exact sound.sendPiece notice free queue async (eq_false_of_ne_true closed)

theorem Sound.requeue (sound : this.Sound) (fits : this.Fits capacity .requeue) :
    (this.requeue capacity).Sound := by
  rw [Sending.requeue]
  cases held : this.inHand with
  | none => exact sound
  | some block =>
      have room : this.outputQueue.length < capacity :=
        fits.resolve_left (by
          rw [held]
          exact Option.some_ne_none block)
      have async : this.asyncWrite = true := by
        by_contra direct
        rw [(sound.direct (eq_false_of_ne_true direct)).2] at held
        cases held
      have longer : (block :: this.outputQueue).length = this.outputQueue.length + 1 := rfl
      have queued := sound.release.enqueue longer (.inl async)
      simp only [if_pos room]
      exact { queued with
        lined := fun unfailed => by
          have lined := sound.lined unfailed
          rw [outstanding, held] at lined
          exact lined }

/-! ### Threads that wait -/

theorem Sound.complete_of_successful (sound : this.Sound) (successful : this.successful id = true) :
    Complete this.handed this.socket id := by
  rcases List.any_eq_true.mp successful with ⟨entry, member, matched⟩
  rw [Bool.and_eq_true, beq_iff_eq, beq_iff_eq] at matched
  rw [← matched.1]
  exact (sound.succeeded entry member).2

/-- A block that is final is successful. -/
theorem Sound.successful_of_final (sound : this.Sound) (final : this.isStateFinal id = true) :
    this.successful id = true := by
  rcases List.any_eq_true.mp final with ⟨entry, member, matched⟩
  rw [Bool.and_eq_true, beq_iff_eq] at matched
  apply List.any_eq_true.mpr
  refine ⟨entry, member, ?_⟩
  rw [Bool.and_eq_true, beq_iff_eq, beq_iff_eq]
  exact ⟨matched.1, (sound.succeeded entry member).1⟩

theorem Sound.resume (sound : this.Sound) {joined : Joined}
    (fits : this.Fits capacity (.resume id joined)) : (this.resume id joined).Sound := by
  by_cases waits : id ∈ this.waiting
  · have here := fits waits
    cases joined with
    | check =>
        simp only [Sending.resume, if_pos waits]
        by_cases successful : this.successful id = true
        · have complete := sound.complete_of_successful successful
          rw [if_pos successful]
          exact { sound.answer complete (this.waiting.erase id) with lined := sound.lined }
        · rw [if_neg successful,
            if_neg fun final => successful (sound.successful_of_final final)]
          exact sound
    | otherException =>
        have gone : { this with waiting := this.waiting.erase id }.Kept := { sound with }
        simp only [Sending.resume, if_pos waits]
        exact gone.close_fail here
    | joinFailed => exact here.elim
  · simp only [Sending.resume, if_neg waits]
    exact sound

theorem Sound.close (sound : this.Sound) (mayClose : this.MayClose) : this.close.Sound where
  toKept := sound.toKept.close mayClose
  lined unfailed := by
    rw [Sending.close] at unfailed ⊢
    split at unfailed
    · rw [if_pos (by assumption)]
      exact sound.lined unfailed
    · rw [if_neg (by assumption)]
      exact sound.lined unfailed

/-- One event that fits keeps the blocks lined up. -/
theorem Sound.step (sound : this.Sound) (fits : this.Fits capacity event) :
    (this.step capacity event).Sound := by
  cases event with
  | sendPacket packet results => exact sound.sendPacket fits
  | sendPacketAsync packet => exact sound.sendPacketAsync fits
  | handleOutput result => exact sound.handleOutput fits
  | requeue => exact sound.requeue fits
  | resume id joined => exact sound.resume fits
  | close => exact sound.close fits

/-! ## Runs -/

theorem sound_new (asyncWrite : Bool) : (new asyncWrite).Sound where
  failed impossible := by cases impossible
  inOrder := List.nil_prefix
  notices _ := rfl
  direct _ := ⟨rfl, rfl⟩
  unqueued _ _ := rfl
  holding impossible := absurd rfl impossible
  succeeded _ impossible := by cases impossible
  returned _ impossible := by cases impossible
  told := rfl
  defined := rfl
  lined _ := rfl

theorem Sound.delivers (sound : this.Sound) : this.Delivers where
  inOrder := sound.inOrder
  whole unfailed quiet free := by
    have queue : this.outputQueue = [] := by
      by_cases async : this.asyncWrite = true
      · rw [← List.length_eq_zero_iff, ← sound.notices async]
        exact quiet
      · exact sound.unqueued (eq_false_of_ne_true async) unfailed
    have lined := sound.lined unfailed
    rw [outstanding, free, queue] at lined
    exact lined
  returned := sound.returned
  succeeded id member := (sound.succeeded _ member).2
  told id member := by
    rw [sound.told] at member
    cases member
  defined := sound.defined

/-- As no block is completed with a failure, a close that leaves blocks is not told. -/
theorem mayClose_of_delivers (delivers : after.Delivers)
    (succeeded : ∀ entry ∈ this.completed, entry.2 = ES_SUCCESS)
    (completed : after.completed = this.completed)
    (closedOn : after.closedOn = this.close.closedOn) : this.MayClose := by
  rw [MayClose, or_iff_not_imp_left]
  intro opened
  cases left : this.outstanding with
  | nil => rfl
  | cons block rest =>
      have member : block.id ∈ after.closedOn := by
        rw [closedOn, closedOn_close (eq_false_of_ne_true opened), left]
        exact List.mem_cons_self
      rcases delivers.told block.id member with ⟨state, recorded, -, failure⟩
      rw [completed] at recorded
      exact absurd (succeeded _ recorded) failure

theorem Sound.fits_sendPacketAsync (sound : this.Sound)
    (delivers : (this.sendPacketAsync capacity packet).Delivers) :
    this.Fits capacity (.sendPacketAsync packet) := by
  rw [Fits]
  by_cases room : this.outputQueue.length < capacity
  · by_cases async : this.asyncWrite = true
    · rw [if_pos async]
      exact .inl room
    · rw [if_neg async]
      left
      by_contra unfailed
      -- Nobody sends the block that is queued.
      have direct := eq_false_of_ne_true async
      have nothing := sound.lined (eq_false_of_ne_true unfailed)
      rw [outstanding, sound.unqueued direct (eq_false_of_ne_true unfailed),
        (sound.direct direct).2] at nothing
      rw [sendPacketAsync_of_room room] at delivers
      have quiet : (if this.asyncWrite then this.notified + 1 else this.notified) = 0 := by
        rw [if_neg async]
        exact (sound.direct direct).1
      have whole : this.socket = (this.handed ++ [packet.bytes]).flatten :=
        delivers.whole (eq_false_of_ne_true unfailed) quiet (sound.direct direct).2
      have written : this.socket = this.handed.flatten := nothing
      rw [List.flatten_append, ← written, List.flatten_singleton, List.self_eq_append_right] at whole
      exact packet.header whole
  · rw [sendPacketAsync_of_full room] at delivers
    by_cases async : this.asyncWrite = true
    · have mayClose : (this.hand packet).MayClose :=
        mayClose_of_delivers delivers sound.successes completed_close rfl
      rw [if_pos async]
      exact .inr mayClose
    · rw [if_neg async]
      exact .inr room

theorem Sound.fits_handleOutput (sound : this.Sound) {result : Option Nat}
    (delivers : (this.handleOutput result).Delivers) : this.Fits capacity (.handleOutput result) := by
  rintro rfl
  by_contra stuck
  rw [not_or, not_or, not_not] at stuck
  rcases stuck with ⟨notices, free, opened⟩
  rcases Nat.exists_eq_succ_of_ne_zero notices with ⟨notified, notice⟩
  rcases sound.block_of_notice notice with ⟨-, block, rest, queue⟩
  have queueLater : (this.noticed notified).outputQueue = block :: rest := queue
  rw [handleOutput_of_notice notice free, handleOutput_i_none queueLater] at delivers
  have mayClose : ((this.noticed notified).take block rest).MayClose :=
    mayClose_of_delivers delivers sound.successes completed_close rfl
  rcases mayClose with closed | nothing
  · exact opened closed
  · cases nothing

theorem Sound.fits_requeue (sound : this.Sound) (delivers : (this.requeue capacity).Delivers) :
    this.Fits capacity .requeue := by
  rw [Fits, or_iff_not_imp_left]
  intro held
  rcases Option.ne_none_iff_exists'.mp held with ⟨block, inHand⟩
  by_contra full
  have lost : this.requeue capacity = this.close.release.fail := by
    simp only [Sending.requeue, inHand, if_neg full]
  rw [lost] at delivers
  have mayClose : this.MayClose :=
    mayClose_of_delivers delivers sound.successes completed_close rfl
  rcases mayClose with closed | nothing
  · exact absurd closed (ne_true_of_eq_false (sound.holding held))
  · rw [outstanding, inHand] at nothing
    cases nothing

theorem Sound.fits_resume (sound : this.Sound) {joined : Joined}
    (delivers : (this.resume id joined).Delivers) : this.Fits capacity (.resume id joined) := by
  intro waits
  cases joined with
  | check => trivial
  | otherException =>
      simp only [Sending.resume, if_pos waits] at delivers
      have mayClose : { this with waiting := this.waiting.erase id }.MayClose :=
        mayClose_of_delivers delivers sound.successes completed_close rfl
      exact mayClose
  | joinFailed =>
      simp only [Sending.resume, if_pos waits] at delivers
      exact absurd delivers.defined (by simp)

/-- An event after which the channel still delivers fits. -/
theorem Sound.fits (sound : this.Sound) (delivers : (this.step capacity event).Delivers) :
    this.Fits capacity event := by
  cases event with
  | sendPacket packet results =>
      intro async
      rw [or_iff_not_imp_left]
      intro full
      by_cases closed : this.closed = true
      · exact .inl closed
      · rw [Sending.step, sendPacket_of_full (eq_false_of_ne_true closed) async full] at delivers
        have mayClose : (this.hand packet).MayClose :=
          mayClose_of_delivers delivers sound.successes completed_close rfl
        exact mayClose
  | sendPacketAsync packet => exact sound.fits_sendPacketAsync delivers
  | handleOutput result => exact sound.fits_handleOutput delivers
  | requeue => exact sound.fits_requeue delivers
  | resume id joined => exact sound.fits_resume delivers
  | close => exact mayClose_of_delivers delivers sound.successes completed_close rfl

theorem runs (capacity : Nat) : Runs (fun this event => .ok (step capacity this event))
    (fun this events => .ok (run capacity this events)) (Fits capacity) (FitsAll capacity) :=
  Runs.of_total (fun _ => trivial) fun _ _ _ => Iff.rfl

theorem alwaysDelivers_iff (capacity : Nat) (asyncWrite : Bool) (events : List SendEvent) :
    AlwaysDelivers capacity asyncWrite events ↔ (new asyncWrite).FitsAll capacity events := by
  have keeps : ∀ {state event after}, Sound state → Fits capacity state event →
      Except.ok (step capacity state event) = (.ok after : Result Sending) → Sound after := by
    rintro state event after sound fits ⟨⟩
    exact sound.step fits
  have fits : ∀ {state event after}, Sound state →
      Except.ok (step capacity state event) = (.ok after : Result Sending) → Delivers after →
        Fits capacity state event := by
    rintro state event after sound ⟨⟩ delivers
    exact sound.fits delivers
  have delivers : ∀ {state}, Sound state → Delivers state := Sound.delivers
  rw [← (runs capacity).good_iff keeps delivers fits (sound_new asyncWrite)]
  exact forall_reached_iff.symm

/-- A channel is closed with a packet in its queue, and nobody is told. -/
theorem not_alwaysDelivers_queued :
    ¬ AlwaysDelivers 2048 true [.sendPacketAsync ⟨[1], List.cons_ne_nil 1 []⟩, .close] := by
  intro always
  rcases (always _ (List.prefix_refl _)).told 0 (by decide) with ⟨state, recorded, -⟩
  cases recorded

end Stheno.Net.Sending
