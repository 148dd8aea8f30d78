import Stheno.FT.Replication
import Stheno.RPC.Objects

/-!
# Clients, connections and the replicas of the RPC service

A client has one connection at a time and one call on it; it takes the next packet that
it receives for the reply.  Each connection has a thread of the service of its own.  The
sum is made under the lock of its object; the call of `replicate` that follows and the
reply are not, so that the threads interleave between them.
-/

namespace Stheno.RPC

open FT

inductive Packet where
  /-- `RPCInvocationPacket`.  The call is not in the packet. -/
  | invocation (call : Nat) (invocation : Invocation)
  /-- `RPCInvocationOneWayPacket`. -/
  | oneWay (invocation : Invocation)

/-- Where the thread of a connection is in `RPCServiceSvcHandler::handlePacket`. -/
inductive Handling where
  | idle
  /-- The sum is made, as that of the first `upTo` calls served. -/
  | replicate (call : Nat) (payload update : List UInt8) (upTo : Nat)
  /-- It is in its call of `replicate`. -/
  | replicating (call : Nat) (payload : List UInt8) (k : Nat)
  | reply (call : Nat) (payload : List UInt8)

structure Connection where
  packets : List Packet
  handling : Handling
  /-- The payloads of the replies on their way.  The calls are not looked at. -/
  replies : List (Nat × List UInt8)
  clientOpen : Bool
  serviceOpen : Bool

namespace Connection

def new : Connection where
  packets := []
  handling := .idle
  replies := []
  clientOpen := true
  serviceOpen := true

/-- The client sends a packet, which is lost where the service has closed. -/
def send (this : Connection) (packet : Packet) : Connection :=
  if this.serviceOpen then
    { this with packets := this.packets ++ [packet] }
  else
    this

/-- The thread sends the reply, if it can, and goes on to the next packet. -/
def sendReply (this : Connection) (call : Nat) (payload : List UInt8) : Connection :=
  if this.clientOpen && this.serviceOpen then
    { this with handling := .idle, replies := this.replies ++ [(call, payload)] }
  else
    { this with handling := .idle }

/-- The client deletes its handler. -/
def closeClient (this : Connection) : Connection :=
  { this with replies := [], clientOpen := false }

def closeService (this : Connection) : Connection :=
  { this with packets := [], serviceOpen := false }

end Connection

/-- An `RPCServiceClient`, whose lock is held during a call. -/
structure Client where
  clientHandler : Option Nat
  waits : Option Nat

structure System where
  service : RPCService
  /-- Whether a hard fault has ended the process. -/
  exited : Bool
  clients : Nat → Client
  connections : List Connection
  replication : Replication
  /-- How many calls were made. -/
  calls : Nat
  /-- What the clients have seen. -/
  history : List (Seen Invocation (List UInt8))
  /-- The calls in the order in which the service has served them. -/
  served : List (Served Invocation (List UInt8))
  /-- How many calls were served when the update of each call of `replicate` was made. -/
  updates : List Nat

inductive Event where
  /-- `bindClientHandler` has found the service. -/
  | bind (client : Nat)
  | twoWay (client : Nat) (invocation : Invocation)
  | oneWay (client : Nat) (invocation : Invocation)
  /-- The thread of the connection handles its next packet. -/
  | handle (connection : Nat) (left : Uninitialised)
  | replicate (connection : Nat)
  /-- What `replicate` and the replicas do. -/
  | replication (event : ReplicationEvent)
  /-- `replicate` returns. -/
  | replicated (connection : Nat)
  | reply (connection : Nat)
  | receive (client : Nat)
  /-- The channel fails, which an `RPCException` tells the caller, or the client closes it. -/
  | fail (client : Nat)
  /-- The channel fails at the end of the service. -/
  | drop (connection : Nat)

def Event.isBind : Event → Bool
  | bind _ => true
  | _ => false

namespace System

def modify (this : System) (i : Nat) (f : Connection → Connection) : System :=
  { this with connections := this.connections.modify i f }

def setClient (this : System) (i : Nat) (client : Client) : System :=
  { this with clients := Function.update this.clients i client }

/-- The client is not in a call, and its lock is free. -/
def bind (this : System) (i : Nat) : System :=
  match (this.clients i).clientHandler with
  | none =>
      { this with connections := this.connections ++ [Connection.new] }.setClient i
        { this.clients i with clientHandler := some this.connections.length }
  | some _ => this

def twoWay (this : System) (i : Nat) (invocation : Invocation) : System :=
  match this.clients i with
  | ⟨some handler, none⟩ =>
      { (this.modify handler fun connection =>
            connection.send (.invocation this.calls invocation)).setClient i
          ⟨some handler, some this.calls⟩ with
        calls := this.calls + 1
        history := this.history ++ [.call this.calls invocation] }
  | _ => this

def oneWay (this : System) (i : Nat) (invocation : Invocation) : System :=
  match this.clients i with
  | ⟨some handler, none⟩ => this.modify handler fun connection => connection.send (.oneWay invocation)
  | _ => this

/-- Where a thread goes on when its invocation has a reply.  The serialization of a reply
follows its payload. -/
def serve (this : System) (i call : Nat) (invocation : Invocation) (invoked : Invoked RPCService) :
    Result System :=
  match invoked.reply with
  | none => .error .nullDereference
  | some payload =>
      let served := this.served ++ [⟨call, invocation, payload⟩]
      let handling := match invoked.update with
        | some update => Handling.replicate call payload update served.length
        | none => .reply call payload
      .ok { this.modify i fun connection => { connection with handling } with
        service := invoked.object, served }

def handlePacket (this : System) (i : Nat) (left : Uninitialised) : Packet → Result System
  | .invocation call invocation => do
      let invoked ← this.service.handleTwoWayInvocation left invocation.oid invocation.arg
      this.serve i call invocation invoked
  | .oneWay invocation => do
      let exited ← RPCService.handleOneWayInvocation left invocation.oid invocation.arg
      pure { this with exited }

def handle (this : System) (i : Nat) (left : Uninitialised) : Result System :=
  match this.connections[i]? with
  | some ⟨packet :: packets, .idle, _, _, _⟩ =>
      (this.modify i fun connection => { connection with packets }).handlePacket i left packet
  | _ => .ok this

variable (members : List UUID) (groups : UUID → P3ReplicationGroup)

/-- `RPCTestObject` calls `replicate` when its lock is free again. -/
def replicate (this : System) (i : Nat) : System :=
  match this.connections[i]? with
  | some ⟨_, .replicate call payload update upTo, _, _, _⟩ =>
      { this.modify i fun connection =>
          { connection with handling := .replicating call payload this.replication.calls.length } with
        replication := this.replication.step members groups (.replicate update)
        updates := this.updates ++ [upTo] }
  | _ => this

/-- What goes on without the threads of the service; the replicas are other processes. -/
def stepReplication (this : System) : ReplicationEvent → System
  | .replicate _ => this
  | .deliver peer =>
      { this with replication := this.replication.step members groups (.deliver peer) }
  | event =>
      if this.exited then
        this
      else
        { this with replication := this.replication.step members groups event }

def replicated (this : System) (i : Nat) : System :=
  match this.connections[i]? with
  | some ⟨_, .replicating call payload k, _, _, _⟩ =>
      match this.replication.calls[k]? with
      | some thread =>
          if thread.returned then
            this.modify i fun connection => { connection with handling := .reply call payload }
          else
            this
      | none => this
  | _ => this

def reply (this : System) (i : Nat) : System :=
  match this.connections[i]? with
  | some ⟨_, .reply call payload, _, _, _⟩ =>
      this.modify i fun connection => connection.sendReply call payload
  | _ => this

/-- The call that waits gets the next reply of the connection. -/
def receive (this : System) (i : Nat) : System :=
  match this.clients i with
  | ⟨some handler, some call⟩ =>
      match this.connections[handler]? with
      | some ⟨_, _, (_, payload) :: replies, _, _⟩ =>
          { (this.modify handler fun connection => { connection with replies }).setClient i
              ⟨some handler, none⟩ with
            history := this.history ++ [.answer call payload] }
      | _ => this
  | _ => this

def fail (this : System) (i : Nat) : System :=
  match (this.clients i).clientHandler with
  | some handler =>
      (this.modify handler Connection.closeClient).setClient i ⟨none, none⟩
  | none => this

/-- An event for which it is not the time changes nothing, nor does a process that has
ended. -/
def step (this : System) : Event → Result System
  | .bind client => .ok (if this.exited then this else this.bind client)
  | .twoWay client invocation => .ok (this.twoWay client invocation)
  | .oneWay client invocation => .ok (this.oneWay client invocation)
  | .handle connection left => if this.exited then .ok this else this.handle connection left
  | .replicate connection =>
      .ok (if this.exited then this else this.replicate members groups connection)
  | .replication event => .ok (this.stepReplication members groups event)
  | .replicated connection => .ok (if this.exited then this else this.replicated connection)
  | .reply connection => .ok (if this.exited then this else this.reply connection)
  | .receive client => .ok (this.receive client)
  | .fail client => .ok (this.fail client)
  | .drop connection => .ok (this.modify connection Connection.closeService)

def run (this : System) (events : List Event) : Result System :=
  events.foldlM (step members groups) this

/-- The service is open and has no client yet. -/
def opened (isFT : Bool) (sequenceID : UUID → UInt32) : System where
  service := { testObject := .new, isFT }
  exited := false
  clients := fun _ => ⟨none, none⟩
  connections := []
  replication := .opened sequenceID
  calls := 0
  history := []
  served := []
  updates := []

end System

end Stheno.RPC
