import Mathlib.Data.List.Chain
import Stheno.Run
import Stheno.Streaming.Storage

/-!
# A stream that is resumed

The service stores each frame of its sensor and then sends it to its registered channels.
A client that loses its channel opens another and asks for the frames behind the last one
it has.  The handler copies them out of the storage before the channel is registered, so
what the sensor does in between decides whether the client misses a frame or takes one
twice.
-/

namespace Stheno.Streaming

open Wire (TimeValue)

/-- A frame number that is one higher. -/
def Next (a b : UInt32) : Prop :=
  b.toNat = a.toNat + 1

/-! ## The client -/

structure StreamClient where
  /-- `m_sid` is set, so that the client was opened before. -/
  bound : Bool
  /-- Not initialised by the constructor. -/
  lastFrameNo : UInt32
  frameCount : UInt32
  /-- The numbers of the frames that the client took, in turn. -/
  taken : List UInt32

namespace StreamClient

/-- One round of the loop in `open` over the frames of the reply. -/
def takeInit (this : StreamClient) (packet : StreamFramePacket) : StreamClient :=
  if packet.frameNo ≤ this.lastFrameNo then
    this
  else if packet.frameNo = this.lastFrameNo + 1 then
    { this with
      lastFrameNo := this.lastFrameNo + 1
      frameCount := this.frameCount + 1
      taken := this.taken ++ [packet.frameNo] }
  else
    { this with
      frameCount := this.frameCount + 1
      taken := this.taken ++ [packet.frameNo] }

def onFrame (this : StreamClient) (frame : StreamFramePacket) : StreamClient :=
  if this.lastFrameNo = 0 then
    { this with
      lastFrameNo := frame.frameNo
      taken := this.taken ++ [frame.frameNo] }
  else if this.lastFrameNo + 1 = frame.frameNo then
    { this with
      lastFrameNo := this.lastFrameNo + 1
      frameCount := this.frameCount + 1
      taken := this.taken ++ [frame.frameNo] }
  else
    { this with
      lastFrameNo := frame.frameNo
      frameCount := this.frameCount + 1
      taken := this.taken ++ [frame.frameNo] }

/-- Whatever came before, the frame becomes the last one. -/
theorem onFrame_spec (this : StreamClient) (frame : StreamFramePacket) :
    (this.onFrame frame).lastFrameNo = frame.frameNo ∧
      (this.onFrame frame).taken = this.taken ++ [frame.frameNo] := by
  by_cases first : this.lastFrameNo = 0
  · rw [onFrame, if_pos first]
    exact ⟨rfl, rfl⟩
  · rw [onFrame, if_neg first]
    by_cases next : this.lastFrameNo + 1 = frame.frameNo
    · rw [if_pos next]
      exact ⟨next, rfl⟩
    · rw [if_neg next]
      exact ⟨rfl, rfl⟩

theorem takeInit_of_next {this : StreamClient} {packet : StreamFramePacket}
    (next : Next this.lastFrameNo packet.frameNo) :
    (this.takeInit packet).lastFrameNo = packet.frameNo ∧
      (this.takeInit packet).taken = this.taken ++ [packet.frameNo] := by
  have later : ¬packet.frameNo ≤ this.lastFrameNo := by
    rw [UInt32.le_iff_toNat_le, next]
    exact Nat.not_succ_le_self _
  have small := packet.frameNo.toNat_lt
  have follows : packet.frameNo = this.lastFrameNo + 1 := by
    rw [← UInt32.toNat_inj, UInt32.toNat_add, next]
    rw [next] at small
    exact (Nat.mod_eq_of_lt small).symm
  rw [takeInit, if_neg later, if_pos follows]
  exact ⟨follows.symm, rfl⟩

/-- The loop takes every frame of a reply that goes on where the client stopped. -/
theorem takeInit_loop {reply : List StreamFramePacket} {this : StreamClient}
    (chain : (reply.map StreamFramePacket.frameNo).IsChain Next)
    (starts : ∀ packet ∈ reply.head?, Next this.lastFrameNo packet.frameNo) :
    (reply.foldl takeInit this).taken = this.taken ++ reply.map StreamFramePacket.frameNo ∧
      (reply.foldl takeInit this).lastFrameNo =
        (reply.map StreamFramePacket.frameNo).getLastD this.lastFrameNo := by
  induction reply generalizing this with
  | nil => exact ⟨(List.append_nil _).symm, rfl⟩
  | cons packet reply inductionHypothesis =>
      rcases takeInit_of_next (starts packet rfl) with ⟨last, taken⟩
      rw [List.map_cons, List.isChain_cons] at chain
      have goesOn : ∀ other ∈ reply.head?, Next (this.takeInit packet).lastFrameNo other.frameNo := by
        intro other isHead
        rw [last]
        apply chain.1
        rw [List.head?_map, Option.mem_def.mp isHead]
        rfl
      rcases inductionHypothesis chain.2 goesOn with ⟨takenAll, lastOfAll⟩
      rw [List.foldl_cons, takenAll, lastOfAll, taken, last, List.append_assoc, List.map_cons,
        List.getLastD_cons]
      exact ⟨rfl, rfl⟩

theorem bound_onFrame (this : StreamClient) (frame : StreamFramePacket) :
    (this.onFrame frame).bound = this.bound := by
  rw [onFrame]
  split_ifs <;> rfl

theorem bound_takeInit_loop (reply : List StreamFramePacket) (this : StreamClient) :
    (reply.foldl takeInit this).bound = this.bound := by
  induction reply generalizing this with
  | nil => rfl
  | cons packet reply inductionHypothesis =>
      rw [List.foldl_cons, inductionHypothesis, takeInit]
      split_ifs <;> rfl

end StreamClient

/-! ## The service and its channel -/

/-- A connection of the client. -/
structure Channel where
  /-- The manager of the acceptor has the channel. -/
  registered : Bool
  /-- What the sensor had counted when the handler copied the frames. -/
  retrieved : Nat
  /-- The reply to the request to resume, until the client takes it. -/
  reply : Option (List StreamFramePacket)
  /-- The frames sent that the client did not take yet. -/
  queue : List StreamFramePacket

/-- The frames on the way to the client. -/
def Channel.ahead (this : Channel) : List StreamFramePacket :=
  this.reply.getD [] ++ this.queue

structure Stream where
  /-- `m_frameCounter` of the sensor, before it is cut to 32 bits. -/
  frameCounter : Nat
  /-- The frames stored so far. -/
  frames : List FramePacket
  service : StreamService
  /-- The frame that `onFramePacket` has stored and not sent yet. -/
  pending : Option FramePacket
  /-- The number of the last frame sent to the channels. -/
  sent : Nat
  channel : Option Channel
  client : StreamClient

inductive Event where
  /-- The sensor counts on, and the service stores the frame. -/
  | store (frameSize : Int32) (timestamp : TimeValue) (payload : List UInt8)
  /-- The service sends the frame that it stored. -/
  | sendFrame
  /-- The client opens a channel, and the handler reads its first packet. -/
  | open
  /-- `m_scvHandlers.add`. -/
  | add
  /-- The client goes through the reply. -/
  | takeReply
  /-- The client is handed the next frame. -/
  | deliver
  /-- The channel is closed, and what was on the way is lost. -/
  | close

namespace Stream

/-- The number in the packet that opens a channel, and 0 where it starts the stream. -/
def openingNo (this : Stream) : UInt32 :=
  if this.client.bound then this.client.lastFrameNo else 0

/-- `StreamServiceSvcHandler::open`. -/
def openHandler (this : Stream) : Result Channel :=
  if this.openingNo = 0 then
    .ok { registered := false, retrieved := this.frameCounter, reply := none, queue := [] }
  else do
    let (_, frameList) ← this.service.getRetrieveStorage (this.openingNo + 1)
    pure { registered := false, retrieved := this.frameCounter, reply := some frameList, queue := [] }

/-- `sendFrame` reaches the channel if the manager has it. -/
def enqueue (packet : FramePacket) (channel : Channel) : Channel :=
  if channel.registered then
    { channel with queue := channel.queue ++ [.relay packet] }
  else
    channel

def step (this : Stream) : Event → Result Stream
  | .store frameSize timestamp payload =>
      match this.pending with
      | some _ => .ok this
      | none =>
          let packet : FramePacket :=
            { frameNo := UInt32.ofNat (this.frameCounter + 1), frameSize, timestamp, payload }
          .ok { this with
            frameCounter := this.frameCounter + 1
            frames := this.frames ++ [packet]
            service := this.service.addToStorage packet
            pending := some packet }
  | .sendFrame =>
      match this.pending with
      | none => .ok this
      | some packet =>
          .ok { this with
            pending := none
            sent := this.sent + 1
            channel := this.channel.map (enqueue packet) }
  | .open =>
      match this.channel with
      | some _ => .ok this
      | none => do
          let channel ← this.openHandler
          pure { this with
            channel := some channel
            client := { this.client with bound := true } }
  | .add => .ok { this with
      channel := this.channel.map fun channel => { channel with registered := true } }
  | .takeReply =>
      match this.channel with
      | none => .ok this
      | some channel => .ok { this with
          channel := some { channel with reply := none }
          client := (channel.reply.getD []).foldl StreamClient.takeInit this.client }
  | .deliver =>
      match this.channel with
      | some { registered, retrieved, reply := none, queue := frame :: queue } =>
          .ok { this with
            channel := some { registered, retrieved, reply := none, queue }
            client := this.client.onFrame frame }
      | _ => .ok this
  | .close => .ok { this with channel := none }

def run : Stream → List Event → Result Stream
  | this, [] => .ok this
  | this, event :: rest => do
      let after ← this.step event
      run after rest

/-- Nothing stored yet, and a client that was not opened. -/
def start (frameCounter lastFrameNo : UInt32) : Stream where
  frameCounter := frameCounter.toNat
  frames := []
  service := .new
  pending := none
  sent := frameCounter.toNat
  channel := none
  client := { bound := false, lastFrameNo, frameCount := 0, taken := [] }

/-! ## What the client gets -/

/-- The frames on the way. -/
def ahead (this : Stream) : List StreamFramePacket :=
  (this.channel.map Channel.ahead).getD []

/-- The numbers of the frames that the client took and of those on the way to it. -/
def underway (this : Stream) : List UInt32 :=
  this.client.taken ++ this.ahead.map StreamFramePacket.frameNo

/-- The client takes the frames one after another, without a gap and none of them twice,
and none is missing up to the last one sent, or before the channel is registered the last
one stored. -/
structure Uninterrupted (this : Stream) : Prop where
  unwrapped : this.frameCounter < 2 ^ 32
  consecutive : this.underway.IsChain Next
  upToDate : ∀ channel ∈ this.channel, ∀ last ∈ this.underway.getLast?,
    last.toNat = if channel.registered then this.sent else channel.retrieved

/-- The condition on an event: the counter does not wrap, the next frame of a client that
comes back is still stored, and a channel is registered when what was stored for its reply
is what was sent. -/
def Fits (this : Stream) : Event → Prop
  | .store _ _ _ => this.pending = none → this.frameCounter + 1 < 2 ^ 32
  | .open => this.channel = none → ∀ last ∈ this.client.taken.getLast?,
      this.frameCounter ≤ last.toNat + slots
  | .add => ∀ channel ∈ this.channel, channel.registered = false → this.underway ≠ [] →
      channel.retrieved = this.sent
  | _ => True

def AllFit : Stream → List Event → Prop
  | _, [] => True
  | this, event :: rest =>
      ∀ after, this.step event = .ok after → this.Fits event ∧ AllFit after rest

theorem runs : Runs step run Fits AllFit where
  run_nil _ := rfl
  run_cons _ _ _ := rfl
  allFit_nil _ := trivial
  allFit_cons _ _ _ := Iff.rfl

end Stream

end Stheno.Streaming
