import Mathlib.Logic.Function.Basic
import Stheno.Fault

/-!
# Requests and their replies

The engine of a channel keeps the requests that wait for a reply under their 32-bit
identifiers.  A request object lives as long as somebody refers to it: the entry of
the engine, the sender, or the copy that a failed `bind` leaks.  Its destructor
clears the entry of its identifier, whichever request stands there.
-/

namespace Stheno.Net

inductive EventState where
  | idle
  | success
  | timeout
  | cancel
  deriving DecidableEq

def EventState.isStateFinal (this : EventState) : Bool :=
  this ≠ .idle

/-- A request object; it expects one reply. -/
structure Request (REPLY : Type) where
  id : UInt32
  state : EventState
  /-- Null once it was detached. -/
  result : Option (List REPLY)
  disableClearMap : Bool
  /-- The sender still refers to the request. -/
  held : Bool
  /-- A copy of the pointer that no map holds refers to it. -/
  leaked : Bool

namespace Request

variable {REPLY : Type}

def new (id : UInt32) : Request REPLY :=
  { id, state := .idle, result := some [], disableClearMap := false, held := true, leaked := false }

def setFuture (this : Request REPLY) (reply : REPLY) : Request REPLY :=
  match this.result with
  | none => this
  | some replies => { this with result := some (replies ++ [reply]), state := .success }

def detach (this : Request REPLY) : Request REPLY :=
  { this with result := none }

/-- `waitFuture` returns when the state is final or the time is over. -/
def waitFuture (this : Request REPLY) (timedOut : Bool) : Request REPLY :=
  if this.state.isStateFinal then
    this.detach
  else if timedOut then
    { this with state := .timeout }.detach
  else
    this

def cancelled (this : Request REPLY) : Request REPLY :=
  { this with state := .cancel }

end Request

/-- A channel with its request engine.  Request objects are numbered in the order of
their creation. -/
structure RequestChannel (REPLY : Type) where
  sequenceID : UInt32
  map : UInt32 → Option Nat
  requests : Nat → Option (Request REPLY)
  next : Nat

namespace RequestChannel

variable {REPLY : Type}

def new : RequestChannel REPLY :=
  { sequenceID := 0, map := fun _ => none, requests := fun _ => none, next := 0 }

def modify (this : RequestChannel REPLY) (k : Nat) (f : Request REPLY → Request REPLY) :
    RequestChannel REPLY :=
  { this with requests := Function.update this.requests k ((this.requests k).map f) }

def remove (this : RequestChannel REPLY) (k : Nat) : RequestChannel REPLY :=
  { this with requests := Function.update this.requests k none }

def unbind (this : RequestChannel REPLY) (id : UInt32) : RequestChannel REPLY :=
  { this with map := Function.update this.map id none }

/-- The entry of a request is gone.  The destructor of an object that nobody refers to
finds no entry of its own. -/
def collect (this : RequestChannel REPLY) (k : Nat) : RequestChannel REPLY :=
  match this.requests k with
  | none => this
  | some r => if r.held || r.leaked then this else this.remove k

def clear (this : RequestChannel REPLY) (id : UInt32) : RequestChannel REPLY :=
  match this.map id with
  | none => this
  | some k => (this.unbind id).collect k

/-- A taken identifier keeps its entry, and the new pointer is lost. -/
def bind (this : RequestChannel REPLY) (k : Nat) : RequestChannel REPLY :=
  match this.requests k with
  | none => this
  | some r =>
      match this.map r.id with
      | none => { this with map := Function.update this.map r.id (some k) }
      | some _ => this.modify k fun r => { r with leaked := true }

def setReply (this : RequestChannel REPLY) (id : UInt32) (reply : REPLY) :
    RequestChannel REPLY × Int :=
  match this.map id with
  | none => (this, -1)
  | some k => ((this.modify k fun r => r.setFuture reply).clear id, 0)

def cancel (this : RequestChannel REPLY) (k : Nat) : RequestChannel REPLY :=
  match this.requests k with
  | none => this
  | some r =>
      let cleared := if r.disableClearMap then this else this.clear r.id
      cleared.modify k Request.cancelled

/-- The sender deletes its pointer.  The last pointer destroys the request, which
cancels it first. -/
def release (this : RequestChannel REPLY) (k : Nat) : RequestChannel REPLY :=
  match this.requests k with
  | none => this
  | some r =>
      let released := this.modify k fun r => { r with held := false }
      if r.leaked || this.map r.id = some k then
        released
      else
        (released.cancel k).remove k

/-- Every bound request is cancelled without touching the map, which is emptied. -/
def clearAll (this : RequestChannel REPLY) : RequestChannel REPLY :=
  { this with
    map := fun _ => none
    requests := fun k => (this.requests k).bind fun r =>
      if this.map r.id = some k then
        if r.held || r.leaked then some { r.cancelled with disableClearMap := true } else none
      else
        some r }

/-- The identifier of a packet: its own, or the next of the channel for 0. -/
def serializePacket (this : RequestChannel REPLY) (packetID : UInt32) :
    UInt32 × RequestChannel REPLY :=
  if packetID = 0 then
    (this.sequenceID + 1, { this with sequenceID := this.sequenceID + 1 })
  else
    (packetID, this)

def sendRequest (this : RequestChannel REPLY) (packetID : UInt32) (sent : Bool) :
    RequestChannel REPLY :=
  let (id, this) := this.serializePacket packetID
  let k := this.next
  let created := { this with
    requests := Function.update this.requests k (some (Request.new id))
    next := k + 1 }
  let bound := created.bind k
  if sent then bound else bound.release k

inductive Event (REPLY : Type) where
  /-- `sent` is false when the socket refuses the packet. -/
  | send (packetID : UInt32) (sent : Bool)
  | reply (id : UInt32) (reply : REPLY)
  | cancel (k : Nat)
  | wait (k : Nat) (timedOut : Bool)
  | release (k : Nat)
  | clearAll

/-- The sender can use a request as long as it has its pointer. -/
def Held (this : RequestChannel REPLY) (k : Nat) : Bool :=
  (this.requests k).any Request.held

def step (this : RequestChannel REPLY) : Event REPLY → RequestChannel REPLY
  | .send packetID sent => this.sendRequest packetID sent
  | .reply id reply => (this.setReply id reply).1
  | .cancel k => if this.Held k then this.cancel k else this
  | .wait k timedOut => if this.Held k then this.modify k fun r => r.waitFuture timedOut else this
  | .release k => if this.Held k then this.release k else this
  | .clearAll => this.clearAll

def run (this : RequestChannel REPLY) (events : List (Event REPLY)) : RequestChannel REPLY :=
  events.foldl step this

end RequestChannel

end Stheno.Net
