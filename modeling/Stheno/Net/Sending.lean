import Stheno.Events.Classes
import Stheno.Lineup

/-!
# The outgoing stream of a channel

A channel writes a packet at once, or queues it as a write block that `handle_output` sends
when the reactor dispatches a notification.  What the socket does not take of a block goes
back to the head of the queue.  The calls run under the lock of the channel, and one thread
at a time runs the reactor of its engine.
-/

namespace Stheno.Net

open Events Lineup

/-- A packet is serialized with its header, so it is not empty. -/
structure SerializedPacket where
  bytes : List UInt8
  header : bytes ≠ []

/-- How `join` comes back to a thread that waits for its block. -/
inductive Joined where
  /-- The reactor ran, or its time was up. -/
  | check
  /-- An exception other than `JOIN_FAILED`. -/
  | otherException
  | joinFailed

/-- A call of the channel, or what the reactor and the engine do with it.  A result of the
socket is one less than the bytes it takes, or `none` where it fails or the deadline has
passed. -/
inductive SendEvent where
  | sendPacket (packet : SerializedPacket) (results : Nat → Option Nat)
  | sendPacketAsync (packet : SerializedPacket)
  | handleOutput (result : Option Nat)
  | requeue
  | resume (id : Nat) (joined : Joined)
  | close

/-- The sending side of `AbstractStreamChannel`, with the history of what its callers got. -/
structure Sending where
  asyncWrite : Bool
  closed : Bool
  outputQueue : List (Block UInt8)
  /-- The notifications that the reactor has not dispatched. -/
  notified : Nat
  /-- The block that `handleOutput_i` has taken from the queue. -/
  inHand : Option (Block UInt8)
  /-- All bytes that the socket took. -/
  socket : List UInt8
  handed : List (List UInt8)
  /-- The state changes of the write blocks. -/
  completed : List (Nat × Int)
  /-- The blocks for which a `send` waits. -/
  waiting : List Nat
  returned0 : List Nat
  sendFailed : Bool
  /-- The blocks that were not sent when the channel closed. -/
  closedOn : List Nat
  /-- A deleted block was used. -/
  dangling : Bool

namespace Sending

def new (asyncWrite : Bool) : Sending where
  asyncWrite := asyncWrite
  closed := false
  outputQueue := []
  notified := 0
  inHand := none
  socket := []
  handed := []
  completed := []
  waiting := []
  returned0 := []
  sendFailed := false
  closedOn := []
  dangling := false

/-- The blocks that are not sent, in order. -/
def outstanding (this : Sending) : List (Block UInt8) :=
  this.inHand.toList ++ this.outputQueue

def hand (this : Sending) (packet : SerializedPacket) : Sending :=
  { this with handed := this.handed ++ [packet.bytes] }

def fail (this : Sending) : Sending :=
  { this with sendFailed := true }

def write (this : Sending) (bytes : List UInt8) : Sending :=
  { this with socket := this.socket ++ bytes }

/-- A notification is dispatched, and these are left. -/
def noticed (this : Sending) (notified : Nat) : Sending :=
  { this with notified := notified }

/-- The block at the head of the queue is dequeued. -/
def take (this : Sending) (block : Block UInt8) (rest : List (Block UInt8)) : Sending :=
  { this with outputQueue := rest, inHand := some block }

/-- The block in hand is put away. -/
def release (this : Sending) : Sending :=
  { this with inHand := none }

/-- The queue has a notification strategy only for asynchronous writes. -/
def notify (this : Sending) : Sending :=
  { this with notified := if this.asyncWrite then this.notified + 1 else this.notified }

/-- The blocks of the queue are left as they are. -/
def close (this : Sending) : Sending :=
  if this.closed then
    this
  else
    { this with
      closed := true
      closedOn := this.outstanding.map Block.id }

/-- What is left of the buffer, unless the socket fails. -/
def sendSync (this : Sending) (buffer : List UInt8) (result : Option Nat) :
    Sending × Option (List UInt8) :=
  match this.closed, result with
  | false, some more => (this.write (buffer.take (more + 1)), some (buffer.drop (more + 1)))
  | _, _ => (this.close, none)

/-- The queue refuses a block when it holds as many as its high water mark allows. -/
def queueOutput (capacity : Nat) (this : Sending) (block : Block UInt8) : Option Sending :=
  if this.outputQueue.length < capacity then
    some { this with outputQueue := this.outputQueue ++ [block] }.notify
  else
    none

def sendAsync (capacity : Nat) (this : Sending) (block : Block UInt8) : Sending × Bool :=
  match this.queueOutput capacity block with
  | some queued => (queued, true)
  | none => (this.close, false)

/-- The loop of `send` for synchronous writes.  Each round takes a byte at least. -/
def sendLoop : Nat → Sending → List UInt8 → (Nat → Option Nat) → Sending × Bool
  | _, this, [], _ => (this, true)
  | 0, this, _ :: _, _ => (this, false)
  | fuel + 1, this, byte :: buffer, results =>
      match this.sendSync (byte :: buffer) (results 0) with
      | (after, some left) => sendLoop fuel after left fun round => results (round + 1)
      | (after, none) => (after.close, false)

/-- For asynchronous writes, the part of `send` before it waits for its block. -/
def sendPacket (capacity : Nat) (this : Sending) (packet : SerializedPacket)
    (results : Nat → Option Nat) : Sending :=
  if this.closed then
    (this.hand packet).fail
  else if this.asyncWrite then
    match (this.hand packet).sendAsync capacity ⟨this.handed.length, packet.bytes⟩ with
    | (queued, true) => { queued with waiting := queued.waiting ++ [this.handed.length] }
    | (refused, false) => refused.close.fail
  else
    match sendLoop packet.bytes.length (this.hand packet) packet.bytes results with
    | (sent, true) => { sent with returned0 := sent.returned0 ++ [this.handed.length] }
    | (stopped, false) => stopped.fail

/-- Neither `m_close` nor the write mode is looked at. -/
def sendPacketAsync (capacity : Nat) (this : Sending) (packet : SerializedPacket) : Sending :=
  match (this.hand packet).sendAsync capacity ⟨this.handed.length, packet.bytes⟩ with
  | (queued, true) => queued
  | (refused, false) => refused.fail

/-- `handleOutput_i` up to the point where a block goes back to the queue. -/
def handleOutput_i (this : Sending) (result : Option Nat) : Sending :=
  match this.outputQueue with
  | [] => this
  | block :: rest =>
      match (this.take block rest).sendSync block.remaining result with
      -- The block is deleted, and `handle_close` finds the channel closed.
      | (after, none) => after.release.fail
      | (after, some []) =>
          { after.release with completed := after.completed ++ [(block.id, ES_SUCCESS)] }
      | (after, some (byte :: left)) => { after with inHand := some ⟨block.id, byte :: left⟩ }

/-- The reactor dispatches a notification. -/
def handleOutput (this : Sending) (result : Option Nat) : Sending :=
  match this.notified, this.inHand with
  | notified + 1, none => (this.noticed notified).handleOutput_i result
  | _, _ => this

/-- `enqueue_head`, at the end of `handleOutput_i`.  Where it fails, `handle_close` follows. -/
def requeue (capacity : Nat) (this : Sending) : Sending :=
  match this.inHand with
  | none => this
  | some block =>
      if this.outputQueue.length < capacity then
        { this.release with outputQueue := block :: this.outputQueue }.notify
      else
        this.close.release.fail

def successful (this : Sending) (id : Nat) : Bool :=
  this.completed.any fun entry => entry.1 == id && entry.2 == ES_SUCCESS

def isStateFinal (this : Sending) (id : Nat) : Bool :=
  this.completed.any fun entry => entry.1 == id && isFinal entry.2

/-- The rest of `send`, in a thread that waits for its block. -/
def resume (this : Sending) (id : Nat) (joined : Joined) : Sending :=
  if id ∈ this.waiting then
    match joined with
    | .check =>
        if this.successful id then
          { this with waiting := this.waiting.erase id, returned0 := this.returned0 ++ [id] }
        else if this.isStateFinal id then
          { this with waiting := this.waiting.erase id }.close.fail
        else
          this
    | .otherException => { this with waiting := this.waiting.erase id }.close.fail
    -- The block is waited for after it was deleted.
    | .joinFailed => { this with waiting := this.waiting.erase id, dangling := true }
  else
    this

def step (capacity : Nat) (this : Sending) : SendEvent → Sending
  | .sendPacket packet results => this.sendPacket capacity packet results
  | .sendPacketAsync packet => this.sendPacketAsync capacity packet
  | .handleOutput result => this.handleOutput result
  | .requeue => this.requeue capacity
  | .resume id joined => this.resume id joined
  | .close => this.close

def run (capacity : Nat) (this : Sending) (events : List SendEvent) : Sending :=
  events.foldl (step capacity) this

/-- What the callers of a channel rely on. -/
structure Delivers (this : Sending) : Prop where
  inOrder : this.socket <+: this.handed.flatten
  whole : this.sendFailed = false → this.notified = 0 → this.inHand = none →
    this.socket = this.handed.flatten
  returned : ∀ id ∈ this.returned0, Complete this.handed this.socket id
  succeeded : ∀ id, (id, ES_SUCCESS) ∈ this.completed → Complete this.handed this.socket id
  told : ∀ id ∈ this.closedOn, ∃ state, (id, state) ∈ this.completed ∧
    isFinal state = true ∧ state ≠ ES_SUCCESS
  defined : this.dangling = false

/-- Closing the channel leaves no block behind. -/
def MayClose (this : Sending) : Prop :=
  this.closed = true ∨ this.outstanding = []

/-- Every state of a run delivers. -/
def AlwaysDelivers (capacity : Nat) (asyncWrite : Bool) (events : List SendEvent) : Prop :=
  ∀ before, before <+: events → ((new asyncWrite).run capacity before).Delivers

/-- No block is left when the channel closes, a block is queued only where the reactor will
send it, and a thread that waits is never told `JOIN_FAILED`. -/
def Fits (capacity : Nat) (this : Sending) : SendEvent → Prop
  | .sendPacket _ _ =>
      this.asyncWrite = true → this.outputQueue.length < capacity ∨ this.MayClose
  | .sendPacketAsync _ =>
      if this.asyncWrite then
        this.outputQueue.length < capacity ∨ this.MayClose
      else
        this.sendFailed = true ∨ ¬ this.outputQueue.length < capacity
  | .handleOutput result =>
      result = none → this.notified = 0 ∨ this.inHand ≠ none ∨ this.closed = true
  | .requeue => this.inHand = none ∨ this.outputQueue.length < capacity
  | .resume id joined =>
      id ∈ this.waiting →
        match joined with
        | .check => True
        | .otherException => this.MayClose
        | .joinFailed => False
  | .close => this.MayClose

/-- Every event fits where it happens. -/
def FitsAll (capacity : Nat) (this : Sending) : List SendEvent → Prop
  | [] => True
  | event :: rest => this.Fits capacity event ∧ (this.step capacity event).FitsAll capacity rest

end Sending

end Stheno.Net
