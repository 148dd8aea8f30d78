import Mathlib.Data.List.Chain
import Stheno.Streaming.Resume

/-!
# Where a resumed stream goes on

The frames that a client took and those on the way to it are one unbroken sequence.  The
only events that can break it are a request that comes too late for the storage and a
registration that does not follow the last frame copied.
-/

namespace Stheno.Streaming

open Wire (TimeValue)

namespace Stream

/-- What holds of every state while all events fit; the sensor had counted to `base` when
the service connected to it. -/
structure Sound (base : Nat) (this : Stream) : Prop where
  uninterrupted : this.Uninterrupted
  service : this.service = StreamService.stored this.frames
  counted : this.frameCounter = base + this.frames.length
  numbered : ∀ i (inside : i < this.frames.length), (this.frames[i]).frameNo.toNat = base + i + 1
  begun : base ≤ this.sent
  idle : this.pending = none → this.sent = this.frameCounter
  busy : ∀ packet ∈ this.pending, packet.frameNo.toNat = this.sent + 1 ∧
    this.frameCounter = this.sent + 1
  within : ∀ number ∈ this.underway, base < number.toNat ∧ number.toNat ≤ this.frameCounter
  last : ∀ number ∈ this.client.taken.getLast?, number = this.client.lastFrameNo
  unopened : this.client.bound = false → this.client.taken = [] ∧ this.channel = none
  resumes : ∀ channel ∈ this.channel, ∀ reply ∈ channel.reply, ∀ packet ∈ reply.head?,
    Next this.client.lastFrameNo packet.frameNo

/-! ## The frames in the storage -/

section Numbered

variable {base : Nat} {frames : List FramePacket}
  (numbered : ∀ i (inside : i < frames.length), (frames[i]).frameNo.toNat = base + i + 1)
include numbered

theorem chain_of_numbered : (frames.map FramePacket.frameNo).IsChain Next := by
  rw [List.isChain_map, List.isChain_iff_getElem]
  intro i inside
  rw [Next, numbered i (by omega), numbered (i + 1) inside]
  omega

/-- Frames copied from the storage are the newest ones, and at most as many as it holds. -/
theorem numbers_of_suffix {first : FramePacket} {later : List FramePacket}
    (suffix : first :: later <:+ window slots frames) :
    first.frameNo.toNat + later.length = base + frames.length ∧
      frames.length < first.frameNo.toNat - base + slots := by
  have whole := suffix.trans (window_suffix slots frames)
  have short := suffix.length_le
  rw [length_window, List.length_cons] at short
  have start : frames.length - (first :: later).length < frames.length := by
    rw [List.length_cons]
    omega
  have isFirst : frames[frames.length - (first :: later).length] = first := by
    have read := congrArg List.head? (List.suffix_iff_eq_drop.mp whole)
    rw [List.head?_cons, List.head?_drop, List.getElem?_eq_getElem start] at read
    exact (Option.some.inj read).symm
  have number := numbered _ start
  rw [isFirst, List.length_cons] at number
  omega

theorem within_of_numbered {frame : FramePacket} (member : frame ∈ frames) :
    base < frame.frameNo.toNat ∧ frame.frameNo.toNat ≤ base + frames.length := by
  rcases List.getElem_of_mem member with ⟨i, inside, rfl⟩
  rw [numbered i inside]
  omega

theorem newest_of_numbered {frame : FramePacket} (newest : frames.getLast? = some frame) :
    frame.frameNo.toNat = base + frames.length := by
  rw [List.getLast?_eq_getElem?] at newest
  rcases List.getElem?_eq_some_iff.mp newest with ⟨inside, rfl⟩
  rw [numbered _ inside]
  omega

/-- A frame that is one of the newest is in the storage. -/
theorem exists_in_window {number : Nat} (after : base < number)
    (upTo : number ≤ base + frames.length) (recent : base + frames.length < number + slots) :
    ∃ frame ∈ window slots frames, frame.frameNo.toNat = number := by
  have inside : number - base - 1 < frames.length := by omega
  have late : frames.length - slots + (number - base - 1 - (frames.length - slots)) =
      number - base - 1 := by omega
  refine ⟨frames[number - base - 1], ?_, ?_⟩
  · rw [window, List.mem_drop_iff_getElem]
    exact ⟨number - base - 1 - (frames.length - slots), by omega, by simp only [late]⟩
  · rw [numbered _ inside]
    omega

end Numbered

/-! ## The events -/

/-- A frame that follows is one that the 32-bit sum reaches without a carry. -/
theorem next_of_add {last number : UInt32} (follows : number = last + 1)
    (positive : 0 < number.toNat) : Next last number := by
  have sum := congrArg UInt32.toNat follows
  rw [UInt32.toNat_add] at sum
  have small := last.toNat_lt
  have one : (1 : UInt32).toNat = 1 := rfl
  rw [one] at sum
  rw [Next]
  by_cases carry : last.toNat + 1 = 2 ^ 32
  · rw [carry, Nat.mod_self] at sum
    omega
  · rw [Nat.mod_eq_of_lt (by omega)] at sum
    exact sum

variable {base : Nat} {this after : Stream} {event : Event}

/-- Before a channel is opened, only what the client took is under way. -/
theorem underway_of_none (noChannel : this.channel = none) : this.underway = this.client.taken := by
  rw [underway, ahead, noChannel]
  exact List.append_nil _

/-- What the handler answers a client with: nothing, where the client has the newest frame or
one too old, or else the frames from the next one to the newest. -/
theorem Sound.openHandler (sound : Sound base this) (noChannel : this.channel = none) :
    ∃ reply : Option (List StreamFramePacket),
      this.openHandler = .ok { registered := false, retrieved := this.frameCounter, reply, queue := [] } ∧
      ((reply.getD [] = [] ∧ ∀ last ∈ this.client.taken.getLast?,
          last.toNat = this.frameCounter ∨ last.toNat + slots < this.frameCounter) ∨
        ∃ first later, first :: later <:+ window slots this.frames ∧
          Next this.client.lastFrameNo first.frameNo ∧
          reply = some ((first :: later).map StreamFramePacket.relay)) := by
  have bounded : this.frames.length < 2 ^ 32 := by
    have unwrapped := sound.uninterrupted.unwrapped
    have counted := sound.counted
    omega
  have inUnderway : ∀ last ∈ this.client.taken.getLast?, last ∈ this.underway := by
    intro last isLast
    rw [underway_of_none noChannel]
    exact List.mem_of_getLast? isLast
  by_cases starts : this.openingNo = 0
  · refine ⟨none, ?_, .inl ⟨rfl, ?_⟩⟩
    · rw [Stream.openHandler, if_pos starts]
    · intro last isLast
      have positive := sound.within last (inUnderway last isLast)
      rw [openingNo] at starts
      cases bound : this.client.bound with
      | false =>
          rw [(sound.unopened bound).1] at isLast
          cases isLast
      | true =>
          rw [bound, if_pos rfl, ← sound.last last isLast] at starts
          rw [starts] at positive
          exact absurd positive.1 (Nat.not_lt_zero base)
  · have resumed : this.openingNo = this.client.lastFrameNo := by
      rw [openingNo] at starts ⊢
      cases bound : this.client.bound with
      | false =>
          rw [bound] at starts
          exact absurd rfl starts
      | true => rfl
    rcases StreamService.getRetrieveStorage_stored bounded (this.openingNo + 1) with
      ⟨out, answer, answers⟩
    refine ⟨some out.2, ?_, ?_⟩
    · rw [Stream.openHandler, if_neg starts, sound.service, answer]
      rfl
    · rcases answers with ⟨first, later, suffix, number, rfl⟩ | ⟨other, rfl⟩
      · right
        refine ⟨first, later, suffix, ?_, rfl⟩
        rw [resumed] at number
        have size := suffix.length_le
        have numbers := numbers_of_suffix sound.numbered suffix
        rw [length_window, List.length_cons] at size
        exact next_of_add number (by omega)
      · left
        refine ⟨rfl, ?_⟩
        intro last isLast
        rcases sound.within last (inUnderway last isLast) with ⟨afterBase, upTo⟩
        by_contra neither
        rw [not_or] at neither
        have counted := sound.counted
        have stored : ∃ frame ∈ window slots this.frames, frame.frameNo.toNat = last.toNat + 1 := by
          exact exists_in_window sound.numbered (by omega) (by omega) (by omega)
        rcases stored with ⟨frame, member, number⟩
        apply other frame member
        rw [resumed, ← sound.last last isLast, ← UInt32.toNat_inj, UInt32.toNat_add, number]
        have small := frame.frameNo.toNat_lt
        rw [number] at small
        exact (Nat.mod_eq_of_lt small).symm

theorem Sound.store (sound : Sound base this) {frameSize : Int32} {timestamp : TimeValue}
    {payload : List UInt8} (idle : this.pending = none)
    (fits : this.frameCounter + 1 < 2 ^ 32)
    (done : this.step (.store frameSize timestamp payload) = .ok after) : Sound base after := by
  rw [step, idle] at done
  cases done
  have number : (UInt32.ofNat (this.frameCounter + 1)).toNat = this.frameCounter + 1 :=
    UInt32.toNat_ofNat_of_lt' fits
  exact {
    uninterrupted := { sound.uninterrupted with unwrapped := fits }
    service := by
      rw [StreamService.stored_concat, ← sound.service]
    counted := by
      rw [List.length_append, sound.counted]
      rfl
    numbered := by
      intro i inside
      by_cases old : i < this.frames.length
      · rw [List.getElem_append_left old]
        exact sound.numbered i old
      · rw [List.length_append, List.length_singleton] at inside
        have newest : i = this.frames.length := by omega
        subst newest
        rw [List.getElem_append_right (Nat.le_refl _)]
        simp only [Nat.sub_self, List.getElem_singleton]
        rw [number, sound.counted]
    begun := sound.begun
    idle := by
      rintro ⟨⟩
    busy := by
      rintro packet ⟨⟩
      rw [sound.idle idle]
      exact ⟨number, rfl⟩
    within := by
      intro other member
      rcases sound.within other member with ⟨afterBase, upTo⟩
      exact ⟨afterBase, Nat.le_succ_of_le upTo⟩
    last := sound.last
    unopened := sound.unopened
    resumes := sound.resumes }

theorem ahead_enqueue (packet : FramePacket) {channel : Channel}
    (registered : channel.registered = true) :
    (enqueue packet channel).ahead = channel.ahead ++ [.relay packet] := by
  rw [enqueue, if_pos registered, Channel.ahead, Channel.ahead, List.append_assoc]

/-- A frame that no registered channel gets. -/
theorem Sound.sendFrame_unregistered (sound : Sound base this) {packet : FramePacket}
    (busy : this.pending = some packet)
    (unregistered : ∀ channel ∈ this.channel, channel.registered = false) :
    Sound base { this with pending := none, sent := this.sent + 1 } where
  uninterrupted := {
    sound.uninterrupted with
    upToDate := by
      intro channel isChannel last isLast
      have upTo := sound.uninterrupted.upToDate channel isChannel last isLast
      rw [unregistered channel isChannel] at upTo ⊢
      exact upTo }
  service := sound.service
  counted := sound.counted
  numbered := sound.numbered
  begun := Nat.le_succ_of_le sound.begun
  idle := fun _ => (sound.busy packet busy).2.symm
  busy := by
    rintro other ⟨⟩
  within := sound.within
  last := sound.last
  unopened := sound.unopened
  resumes := sound.resumes

/-- A frame that goes to the registered channel follows all that is under way. -/
theorem Sound.sendFrame_registered (sound : Sound base this) {packet : FramePacket}
    {channel : Channel} (busy : this.pending = some packet) (isChannel : this.channel = some channel)
    (registered : channel.registered = true) :
    Sound base { this with
      pending := none, sent := this.sent + 1, channel := some (enqueue packet channel) } := by
  rcases sound.busy packet busy with ⟨number, counted⟩
  have same : (enqueue packet channel).registered = true := by
    rw [enqueue, if_pos registered]
    exact registered
  have longer : ({ this with
      pending := none, sent := this.sent + 1, channel := some (enqueue packet channel) } :
        Stream).underway = this.underway ++ [packet.frameNo] := by
    rw [underway, underway, ahead, ahead, isChannel, Option.map_some, Option.map_some,
      Option.getD_some, Option.getD_some, ahead_enqueue packet registered, List.map_append,
      ← List.append_assoc]
    rfl
  exact {
    uninterrupted := {
      unwrapped := sound.uninterrupted.unwrapped
      consecutive := by
        rw [longer]
        apply sound.uninterrupted.consecutive.append (List.isChain_singleton _)
        intro last isLast other isOther
        cases isOther
        have upTo := sound.uninterrupted.upToDate channel isChannel last isLast
        rw [if_pos registered] at upTo
        rw [Next, upTo, number]
      upToDate := by
        rintro other ⟨⟩ last isLast
        rw [longer, List.getLast?_concat] at isLast
        cases isLast
        rw [if_pos same, number] }
    service := sound.service
    counted := sound.counted
    numbered := sound.numbered
    begun := Nat.le_succ_of_le sound.begun
    idle := fun _ => counted.symm
    busy := by
      rintro other ⟨⟩
    within := by
      rw [longer, List.forall_mem_append]
      refine ⟨sound.within, ?_⟩
      intro other isOther
      rw [List.mem_singleton.mp isOther, number, counted]
      exact ⟨Nat.lt_succ_of_le sound.begun, Nat.le_refl _⟩
    last := sound.last
    unopened := by
      intro unbound
      have noChannel := (sound.unopened unbound).2
      rw [isChannel] at noChannel
      cases noChannel
    resumes := by
      rintro other ⟨⟩ reply isReply
      rw [enqueue, if_pos registered] at isReply
      exact sound.resumes channel isChannel reply isReply }

theorem Sound.sendFrame (sound : Sound base this) {packet : FramePacket}
    (busy : this.pending = some packet) (done : this.step .sendFrame = .ok after) :
    Sound base after := by
  rw [step, busy] at done
  cases done
  cases isChannel : this.channel with
  | none =>
      have kept := sound.sendFrame_unregistered busy (by
        rw [isChannel]
        rintro channel ⟨⟩)
      rw [isChannel] at kept
      exact kept
  | some channel =>
      cases registered : channel.registered with
      | true => exact sound.sendFrame_registered busy isChannel registered
      | false =>
          have kept := sound.sendFrame_unregistered busy (by
            rw [isChannel]
            rintro other ⟨⟩
            exact registered)
          rw [isChannel] at kept
          rw [Option.map_some, enqueue, registered]
          exact kept

/-- A channel is opened with a reply that goes on where the client stopped. -/
theorem Sound.opened (sound : Sound base this) {reply : Option (List StreamFramePacket)}
    (noChannel : this.channel = none)
    (starts : ∀ packets ∈ reply, ∀ packet ∈ packets.head?,
      Next this.client.lastFrameNo packet.frameNo)
    (consecutive : ((reply.getD []).map StreamFramePacket.frameNo).IsChain Next)
    (within : ∀ packet ∈ reply.getD [], base < packet.frameNo.toNat ∧
      packet.frameNo.toNat ≤ this.frameCounter)
    (upToDate : ∀ last ∈ (this.client.taken ++
      (reply.getD []).map StreamFramePacket.frameNo).getLast?, last.toNat = this.frameCounter) :
    Sound base { this with
      channel := some { registered := false, retrieved := this.frameCounter, reply, queue := [] }
      client := { this.client with bound := true } } := by
  have longer : ({ this with
      channel := some { registered := false, retrieved := this.frameCounter, reply, queue := [] }
      client := { this.client with bound := true } } : Stream).underway =
        this.client.taken ++ (reply.getD []).map StreamFramePacket.frameNo := by
    rw [underway, ahead, Option.map_some, Option.getD_some, Channel.ahead, List.append_nil]
  have before := underway_of_none noChannel
  exact {
    uninterrupted := {
      unwrapped := sound.uninterrupted.unwrapped
      consecutive := by
        rw [longer]
        have chain := sound.uninterrupted.consecutive
        rw [before] at chain
        apply chain.append consecutive
        intro last isLast other isOther
        rw [sound.last last isLast]
        cases reply with
        | none => cases isOther
        | some packets =>
            rw [Option.getD_some, List.head?_map] at isOther
            rcases Option.map_eq_some_iff.mp isOther with ⟨packet, isHead, rfl⟩
            exact starts packets rfl packet isHead
      upToDate := by
        rintro channel ⟨⟩ last isLast
        rw [longer] at isLast
        exact upToDate last isLast }
    service := sound.service
    counted := sound.counted
    numbered := sound.numbered
    begun := sound.begun
    idle := sound.idle
    busy := sound.busy
    within := by
      rw [longer, List.forall_mem_append, ← before]
      refine ⟨sound.within, ?_⟩
      intro number member
      rcases List.mem_map.mp member with ⟨packet, isPacket, rfl⟩
      exact within packet isPacket
    last := sound.last
    unopened := by
      rintro ⟨⟩
    resumes := by
      rintro channel ⟨⟩
      exact starts }

theorem step_open (noChannel : this.channel = none) {channel : Channel}
    (answered : this.openHandler = .ok channel) (done : this.step .open = .ok after) :
    after = { this with
      channel := some channel, client := { this.client with bound := true } } := by
  rw [step, noChannel] at done
  simp only [answered] at done
  cases done
  rfl

/-- The reply continues the stream exactly where the next frame is still stored. -/
theorem Sound.open_iff (sound : Sound base this) (noChannel : this.channel = none)
    (done : this.step .open = .ok after) :
    ((∀ last ∈ this.client.taken.getLast?, this.frameCounter ≤ last.toNat + slots) →
      Sound base after) ∧
    (after.Uninterrupted →
      ∀ last ∈ this.client.taken.getLast?, this.frameCounter ≤ last.toNat + slots) := by
  rcases sound.openHandler noChannel with ⟨reply, answered, nothing | ⟨first, later, suffix, starts, rfl⟩⟩
  · rcases nothing with ⟨empty, newestOrOld⟩
    rw [step_open noChannel answered done]
    constructor
    · intro recent
      apply sound.opened noChannel
      · rintro packets ⟨⟩ packet isHead
        rw [Option.getD_some] at empty
        rw [empty] at isHead
        cases isHead
      · rw [empty]
        exact List.isChain_nil
      · rw [empty]
        rintro packet ⟨⟩
      · rw [empty, List.map_nil, List.append_nil]
        intro last isLast
        rcases newestOrOld last isLast with newest | old
        · exact newest
        · exact absurd (recent last isLast) (Nat.not_le_of_lt old)
    · intro uninterrupted last isLast
      have upTo := uninterrupted.upToDate _ rfl last (by
        rw [underway, ahead, Option.map_some, Option.getD_some, Channel.ahead, empty]
        rw [List.append_nil, List.map_nil, List.append_nil]
        exact isLast)
      rw [upTo]
      exact Nat.le_add_right _ _
  · have ofFrames : ((first :: later).map StreamFramePacket.relay).map StreamFramePacket.frameNo =
        (first :: later).map FramePacket.frameNo := by
      rw [List.map_map]
      rfl
    have whole := suffix.trans (window_suffix slots this.frames)
    rcases numbers_of_suffix sound.numbered suffix with ⟨number, recent⟩
    constructor
    · intro _
      rw [step_open noChannel answered done]
      apply sound.opened noChannel
      · rintro packets ⟨⟩ packet ⟨⟩
        exact starts
      · rw [Option.getD_some, ofFrames]
        exact (chain_of_numbered sound.numbered).suffix (whole.map _)
      · intro packet member
        rcases List.mem_map.mp member with ⟨frame, isFrame, rfl⟩
        rw [sound.counted]
        exact within_of_numbered sound.numbered (whole.subset isFrame)
      · intro last isLast
        rw [Option.getD_some, ofFrames, List.map_cons, List.getLast?_append_cons, ← List.map_cons,
          List.getLast?_map] at isLast
        rcases Option.map_eq_some_iff.mp isLast with ⟨frame, newest, rfl⟩
        rcases whole with ⟨older, split⟩
        rw [sound.counted]
        apply newest_of_numbered sound.numbered
        rw [← split, List.getLast?_append_of_ne_nil _ (List.cons_ne_nil _ _)]
        exact newest
    · intro _ last isLast
      have isStored := sound.last last isLast
      rw [← isStored, Next] at starts
      have counted := sound.counted
      have afterBase := within_of_numbered sound.numbered (whole.subset List.mem_cons_self)
      omega

theorem Sound.add (sound : Sound base this)
    (fits : ∀ channel ∈ this.channel, channel.registered = false → this.underway ≠ [] →
      channel.retrieved = this.sent)
    (done : this.step .add = .ok after) : Sound base after := by
  rw [step] at done
  cases done
  have same : ({ this with channel := this.channel.map fun channel =>
      { channel with registered := true } } : Stream).underway = this.underway := by
    rw [underway, underway, ahead, ahead, Option.map_map]
    rfl
  exact {
    uninterrupted := {
      unwrapped := sound.uninterrupted.unwrapped
      consecutive := by
        rw [same]
        exact sound.uninterrupted.consecutive
      upToDate := by
        intro other isOther last isLast
        rw [same] at isLast
        rcases Option.map_eq_some_iff.mp isOther with ⟨channel, isChannel, rfl⟩
        have upTo := sound.uninterrupted.upToDate channel isChannel last isLast
        cases registered : channel.registered with
        | true =>
            rw [registered, if_pos rfl] at upTo
            rw [if_pos rfl, upTo]
        | false =>
            have some : this.underway ≠ [] := by
              intro none
              rw [none] at isLast
              cases isLast
            rw [registered, if_neg Bool.false_ne_true] at upTo
            rw [if_pos rfl, upTo, fits channel isChannel registered some] }
    service := sound.service
    counted := sound.counted
    numbered := sound.numbered
    begun := sound.begun
    idle := sound.idle
    busy := sound.busy
    within := by
      rw [same]
      exact sound.within
    last := sound.last
    unopened := by
      intro unbound
      rcases sound.unopened unbound with ⟨untaken, noChannel⟩
      rw [noChannel]
      exact ⟨untaken, rfl⟩
    resumes := by
      intro other isOther
      rcases Option.map_eq_some_iff.mp isOther with ⟨channel, isChannel, rfl⟩
      exact sound.resumes channel isChannel }

/-- The client takes frames that were on the way to it. -/
theorem Sound.took (sound : Sound base this) {channel rest : Channel} {client : StreamClient}
    (isChannel : this.channel = some channel) (registered : rest.registered = channel.registered)
    (retrieved : rest.retrieved = channel.retrieved) (noReply : rest.reply = none)
    (bound : client.bound = this.client.bound)
    (same : client.taken ++ rest.ahead.map StreamFramePacket.frameNo = this.underway)
    (last : ∀ number ∈ client.taken.getLast?, number = client.lastFrameNo) :
    Sound base { this with channel := some rest, client := client } where
  uninterrupted := {
    unwrapped := sound.uninterrupted.unwrapped
    consecutive := by
      have chain := sound.uninterrupted.consecutive
      rw [← same] at chain
      exact chain
    upToDate := by
      rintro other ⟨⟩
      have upTo := sound.uninterrupted.upToDate channel isChannel
      rw [← same, ← registered, ← retrieved] at upTo
      exact upTo }
  service := sound.service
  counted := sound.counted
  numbered := sound.numbered
  begun := sound.begun
  idle := sound.idle
  busy := sound.busy
  within := by
    have within := sound.within
    rw [← same] at within
    exact within
  last := last
  unopened := by
    intro unbound
    rw [bound] at unbound
    have noChannel := (sound.unopened unbound).2
    rw [isChannel] at noChannel
    cases noChannel
  resumes := by
    rintro other ⟨⟩ reply isReply
    rw [noReply] at isReply
    cases isReply

theorem underway_of_channel {channel : Channel} (isChannel : this.channel = some channel) :
    this.underway = this.client.taken ++ channel.ahead.map StreamFramePacket.frameNo := by
  rw [underway, ahead, isChannel, Option.map_some, Option.getD_some]

theorem Sound.takeReply (sound : Sound base this) {channel : Channel}
    (isChannel : this.channel = some channel) (done : this.step .takeReply = .ok after) :
    Sound base after := by
  rw [step, isChannel] at done
  cases done
  have chain := sound.uninterrupted.consecutive
  rw [underway_of_channel isChannel, Channel.ahead, List.map_append, ← List.append_assoc] at chain
  have starts : ∀ packet ∈ (channel.reply.getD []).head?,
      Next this.client.lastFrameNo packet.frameNo := by
    intro packet isHead
    cases isReply : channel.reply with
    | none =>
        rw [isReply] at isHead
        cases isHead
    | some reply =>
        rw [isReply] at isHead
        exact sound.resumes channel isChannel reply isReply packet isHead
  rcases StreamClient.takeInit_loop chain.left_of_append.right_of_append starts with
    ⟨taken, lastTaken⟩
  have registered : ({ channel with reply := none } : Channel).registered = channel.registered := rfl
  apply sound.took isChannel registered rfl rfl
  · exact StreamClient.bound_takeInit_loop _ _
  · have left : ({ channel with reply := none } : Channel).ahead = channel.queue := rfl
    rw [taken, left, underway_of_channel isChannel, Channel.ahead, List.map_append,
      List.append_assoc]
  · intro number isLast
    rw [taken, List.getLast?_append] at isLast
    rw [lastTaken, List.getLastD_eq_getLast?]
    cases newest : ((channel.reply.getD []).map StreamFramePacket.frameNo).getLast? with
    | none =>
        rw [newest, Option.none_or] at isLast
        exact sound.last number isLast
    | some other =>
        rw [newest] at isLast
        cases isLast
        rfl

theorem Sound.deliver (sound : Sound base this) {registered : Bool} {retrieved : Nat}
    {frame : StreamFramePacket} {queue : List StreamFramePacket}
    (isChannel : this.channel = some ⟨registered, retrieved, none, frame :: queue⟩)
    (done : this.step .deliver = .ok after) : Sound base after := by
  rw [step, isChannel] at done
  cases done
  rcases this.client.onFrame_spec frame with ⟨lastTaken, taken⟩
  have same : (⟨registered, retrieved, none, queue⟩ : Channel).registered = registered := rfl
  apply sound.took isChannel same rfl rfl
  · exact StreamClient.bound_onFrame _ _
  · rw [taken, underway_of_channel isChannel, List.append_assoc]
    rfl
  · intro number isLast
    rw [taken, List.getLast?_concat] at isLast
    rw [lastTaken]
    exact (Option.some.inj isLast).symm

theorem Sound.close (sound : Sound base this) (done : this.step .close = .ok after) :
    Sound base after := by
  rw [step] at done
  cases done
  have taken : ({ this with channel := none } : Stream).underway = this.client.taken :=
    underway_of_none rfl
  have prefixTaken : this.client.taken <+: this.underway := List.prefix_append _ _
  exact {
    uninterrupted := {
      unwrapped := sound.uninterrupted.unwrapped
      consecutive := by
        rw [taken]
        exact sound.uninterrupted.consecutive.prefix prefixTaken
      upToDate := by
        rintro channel ⟨⟩ }
    service := sound.service
    counted := sound.counted
    numbered := sound.numbered
    begun := sound.begun
    idle := sound.idle
    busy := sound.busy
    within := by
      rw [taken]
      intro number member
      exact sound.within number (prefixTaken.subset member)
    last := sound.last
    unopened := fun unbound => ⟨(sound.unopened unbound).1, rfl⟩
    resumes := by
      rintro channel ⟨⟩ }

/-- Every event that fits keeps the invariant. -/
theorem Sound.step (sound : Sound base this) (fits : this.Fits event)
    (done : this.step event = .ok after) : Sound base after := by
  cases event with
  | store frameSize timestamp payload =>
      cases idle : this.pending with
      | none => exact sound.store idle (fits idle) done
      | some packet =>
          rw [Stream.step, idle] at done
          cases done
          exact sound
  | sendFrame =>
      cases busy : this.pending with
      | none =>
          rw [Stream.step, busy] at done
          cases done
          exact sound
      | some packet => exact sound.sendFrame busy done
  | «open» =>
      cases isChannel : this.channel with
      | none => exact (sound.open_iff isChannel done).1 (fits isChannel)
      | some channel =>
          rw [Stream.step, isChannel] at done
          cases done
          exact sound
  | add => exact sound.add fits done
  | takeReply =>
      cases isChannel : this.channel with
      | none =>
          rw [Stream.step, isChannel] at done
          cases done
          exact sound
      | some channel => exact sound.takeReply isChannel done
  | deliver =>
      rcases isChannel : this.channel with _ | ⟨registered, retrieved, _ | reply, _ | ⟨frame, queue⟩⟩
      case deliver.some.none.cons => exact sound.deliver isChannel done
      all_goals
        rw [Stream.step, isChannel] at done
        cases done
        exact sound
  | close => exact sound.close done

theorem sound_start (frameCounter lastFrameNo : UInt32) :
    Sound frameCounter.toNat (start frameCounter lastFrameNo) where
  uninterrupted := {
    unwrapped := frameCounter.toNat_lt
    consecutive := List.isChain_nil
    upToDate := by
      rintro channel ⟨⟩ }
  service := rfl
  counted := rfl
  numbered := by
    rintro i ⟨⟩
  begun := Nat.le_refl _
  idle := fun _ => rfl
  busy := by
    rintro packet ⟨⟩
  within := by
    rintro number ⟨⟩
  last := by
    rintro number ⟨⟩
  unopened := fun _ => ⟨rfl, rfl⟩
  resumes := by
    rintro channel ⟨⟩

/-- An event after which the stream is uninterrupted fits. -/
theorem Sound.fits (sound : Sound base this) (done : this.step event = .ok after)
    (uninterrupted : after.Uninterrupted) : this.Fits event := by
  cases event with
  | store frameSize timestamp payload =>
      intro idle
      rw [Stream.step, idle] at done
      cases done
      exact uninterrupted.unwrapped
  | «open» =>
      intro noChannel
      exact (sound.open_iff noChannel done).2 uninterrupted
  | add =>
      intro channel isChannel unregistered some
      rw [Stream.step] at done
      cases done
      rcases Option.ne_none_iff_exists'.mp fun none => some (List.getLast?_eq_none_iff.mp none)
        with ⟨last, isLast⟩
      have upTo := sound.uninterrupted.upToDate channel isChannel last isLast
      have registered := uninterrupted.upToDate { channel with registered := true }
        (by rw [isChannel]; rfl) last (by
          rw [underway_of_channel isChannel] at isLast
          rw [isChannel]
          exact isLast)
      rw [unregistered, if_neg Bool.false_ne_true] at upTo
      rw [if_pos rfl] at registered
      rw [← upTo, registered]
  | sendFrame => trivial
  | takeReply => trivial
  | deliver => trivial
  | close => trivial

/-! ## Runs -/

theorem openHandler_total (stored : this.service = StreamService.stored this.frames) :
    ∃ channel, this.openHandler = .ok channel := by
  rw [Stream.openHandler]
  by_cases starts : this.openingNo = 0
  · rw [if_pos starts]
    exact ⟨_, rfl⟩
  · rcases StreamService.getRetrieveStorage_total this.frames (this.openingNo + 1) with ⟨out, answer⟩
    rw [if_neg starts, stored, answer]
    exact ⟨_, rfl⟩

theorem step_total (stored : this.service = StreamService.stored this.frames) (event : Event) :
    ∃ after, this.step event = .ok after ∧ after.service = StreamService.stored after.frames := by
  cases event with
  | store frameSize timestamp payload =>
      rw [Stream.step]
      cases this.pending with
      | none =>
          refine ⟨_, rfl, ?_⟩
          rw [StreamService.stored_concat, ← stored]
      | some packet => exact ⟨_, rfl, stored⟩
  | sendFrame =>
      rw [Stream.step]
      cases this.pending with
      | none => exact ⟨_, rfl, stored⟩
      | some packet => exact ⟨_, rfl, stored⟩
  | «open» =>
      rw [Stream.step]
      cases this.channel with
      | none =>
          rcases openHandler_total stored with ⟨channel, answered⟩
          simp only [answered]
          exact ⟨_, rfl, stored⟩
      | some channel => exact ⟨_, rfl, stored⟩
  | add => exact ⟨_, rfl, stored⟩
  | takeReply =>
      rw [Stream.step]
      cases this.channel with
      | none => exact ⟨_, rfl, stored⟩
      | some channel => exact ⟨_, rfl, stored⟩
  | deliver =>
      rcases isChannel : this.channel with _ | ⟨registered, retrieved, _ | reply, _ | ⟨frame, queue⟩⟩
      all_goals
        rw [Stream.step, isChannel]
        exact ⟨_, rfl, stored⟩
  | close => exact ⟨_, rfl, stored⟩

theorem run_total (stored : this.service = StreamService.stored this.frames) (events : List Event) :
    ∃ reached, this.run events = .ok reached := by
  induction events generalizing this with
  | nil => exact ⟨this, rfl⟩
  | cons event rest inductionHypothesis =>
      rcases step_total stored event with ⟨after, done, kept⟩
      rcases inductionHypothesis kept with ⟨reached, later⟩
      exact ⟨reached, Result.bind_eq_ok.mpr ⟨after, done, later⟩⟩

/-- No run follows a null pointer.  In every state of a run the client's frames follow one
another without a gap or a frame twice, as far as the service sent them, exactly when each
time it came back the next frame was still stored, and the frames copied for it were the
ones sent when its channel was registered. -/
theorem uninterrupted_iff (frameCounter lastFrameNo : UInt32) (events : List Event) :
    (∃ reached, run (start frameCounter lastFrameNo) events = .ok reached) ∧
    ((∀ before, before <+: events → ∀ reached,
        run (start frameCounter lastFrameNo) before = .ok reached → reached.Uninterrupted) ↔
      AllFit (start frameCounter lastFrameNo) events) := by
  constructor
  · exact run_total rfl events
  · exact runs.good_iff (fun sound fits done => Sound.step sound fits done) Sound.uninterrupted
      (fun sound done uninterrupted => sound.fits done uninterrupted)
      (sound_start frameCounter lastFrameNo)

end Stream

end Stheno.Streaming
