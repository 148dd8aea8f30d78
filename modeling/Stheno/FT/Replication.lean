import Stheno.FT.ReplicationGroup
import Stheno.Net.RequestEngine
import Stheno.Wire.Stream

/-!
# Replicating updates

Each call of `replicate` copies the list of the data channels and then uses them one
after the other: it sends its payload over all of them, and waits for all the replies.
The manager is not locked meanwhile, so that the calls of several threads interleave from
channel to channel.
-/

namespace Stheno.FT

open Stheno.Net Wire

namespace FTDataReplicationPacket

def serializeBody (payload : List UInt8) : List UInt8 :=
  writeULong (UInt32.ofNat payload.length) ++ payload

/-- The payload stays null for a size of 0. -/
def deserializeBody : Reader (Option (List UInt8)) := do
  let size ← readULong 0
  if 0 < size then
    let payload ← readOctetArray size.toNat
    pure (some payload)
  else
    pure none

theorem reads_body {payload : List UInt8} (fits : payload.length < 2 ^ 32) :
    Reads deserializeBody (serializeBody payload) (if payload = [] then none else some payload) := by
  apply Reads.bind (reads_uLong _ _)
  by_cases empty : payload = []
  · subst empty
    exact Reads.pure none
  · have length : (UInt32.ofNat payload.length).toNat = payload.length :=
      UInt32.toNat_ofNat_of_lt' fits
    have positive : 0 < UInt32.ofNat payload.length := by
      rw [UInt32.lt_iff_toNat_lt, length]
      exact List.length_pos_of_ne_nil empty
    rw [if_neg empty, if_pos positive, length]
    exact (reads_octetArray payload).bind_pure some

end FTDataReplicationPacket

/-- What the service is asked to replay.  The replica duplicates the payload without
looking whether there is one. -/
def P3ReplicationGroup.handleReplicationPacket (this : P3ReplicationGroup)
    (payload : Option (List UInt8)) : Result (Option (List UInt8)) :=
  if !this.isThisPeerPrimary then
    match payload with
    | none => .error .nullDereference
    | some payload => .ok (some payload)
  else
    .ok none

/-- A packet on its way to a replica. -/
structure ReplicationPacket where
  /-- The call that sent it, which the packet does not tell. -/
  call : Nat
  packetID : UInt32
  body : List UInt8

/-- `FTDataSvcHandler::handlePacket` up to the reply. -/
def ReplicationPacket.handle (this : ReplicationPacket) (group : P3ReplicationGroup) :
    Result (Option (List UInt8)) := do
  let (payload, _) ← FTDataReplicationPacket.deserializeBody ⟨this.body, true⟩
  group.handleReplicationPacket payload

/-- A data channel with the replica at its end. -/
structure DataChannel where
  /-- The requests of the client handler. -/
  requests : RequestChannel Bool
  packets : List ReplicationPacket
  /-- The identifiers in the replies on their way back. -/
  replies : List UInt32
  /-- The calls of `onReplication`. -/
  log : List (Nat × List UInt8)
  /-- What stopped the replica. -/
  fault : Option Fault

namespace DataChannel

/-- `FTDataClientHandler::replicate`, of which the request is the next object. -/
def replicate (this : DataChannel) (call : Nat) (payload : List UInt8) : DataChannel :=
  { this with
    requests := this.requests.sendRequest 0 true
    packets := this.packets ++ [{
      call
      packetID := (this.requests.serializePacket 0).1
      body := FTDataReplicationPacket.serializeBody payload }] }

/-- The replica handles the next packet and replies. -/
def deliver (this : DataChannel) (group : P3ReplicationGroup) : DataChannel :=
  match this.fault, this.packets with
  | none, packet :: packets =>
      match packet.handle group with
      | .ok replayed =>
          { this with
            packets
            replies := this.replies ++ [packet.packetID]
            log := this.log ++ (replayed.map fun payload => (packet.call, payload)).toList }
      | .error fault => { this with packets, fault := some fault }
  | _, _ => this

/-- The client handler takes the next reply. -/
def receive (this : DataChannel) : DataChannel :=
  match this.replies with
  | id :: replies => { this with requests := (this.requests.setReply id true).1, replies }
  | [] => this

/-- `waitFuture` without a timeout, and the deletion of the request. -/
def await (this : DataChannel) (k : Nat) : Option DataChannel :=
  match this.requests.requests k with
  | some request =>
      if request.state.isStateFinal then
        some { this with
          requests := (this.requests.modify k fun request => request.waitFuture false).release k }
      else
        none
  | none => none

end DataChannel

/-- A thread in `FTDataChannelManager::replicate`. -/
structure ReplicateCall where
  payload : List UInt8
  /-- The channels that it still has to send over. -/
  memberList : List UUID
  /-- The requests that it has to wait for. -/
  lr : List (UUID × Nat)

def ReplicateCall.returned (this : ReplicateCall) : Bool :=
  this.memberList.isEmpty && this.lr.isEmpty

/-- The calls of a primary and its data channels. -/
structure Replication where
  calls : List ReplicateCall
  channels : UUID → DataChannel

inductive ReplicationEvent where
  | replicate (payload : List UInt8)
  /-- The call sends over its next channel. -/
  | send (call : Nat)
  /-- The replica handles its next packet. -/
  | deliver (peer : UUID)
  | receive (peer : UUID)
  /-- The call goes on to its next request. -/
  | await (call : Nat)

namespace Replication

def put (this : Replication) (call : Nat) (after : ReplicateCall) (peer : UUID)
    (channel : DataChannel) : Replication where
  calls := this.calls.set call after
  channels := Function.update this.channels peer channel

def send (this : Replication) (call : Nat) : Replication :=
  match this.calls[call]? with
  | some ⟨payload, peer :: memberList, lr⟩ =>
      let channel := this.channels peer
      this.put call ⟨payload, memberList, lr ++ [(peer, channel.requests.next)]⟩ peer
        (channel.replicate call payload)
  | _ => this

def await (this : Replication) (call : Nat) : Replication :=
  match this.calls[call]? with
  | some ⟨payload, [], (peer, k) :: lr⟩ =>
      match (this.channels peer).await k with
      | some channel => this.put call ⟨payload, [], lr⟩ peer channel
      | none => this
  | _ => this

/-- An event of a group with these members.  An event for which it is not the time
changes nothing. -/
def step (members : List UUID) (groups : UUID → P3ReplicationGroup) (this : Replication) :
    ReplicationEvent → Replication
  | .replicate payload => { this with calls := this.calls ++ [⟨payload, members, []⟩] }
  | .send call => this.send call
  | .deliver peer =>
      { this with
        channels := Function.update this.channels peer
          ((this.channels peer).deliver (groups peer)) }
  | .receive peer =>
      { this with
        channels := Function.update this.channels peer (this.channels peer).receive }
  | .await call => this.await call

def run (members : List UUID) (groups : UUID → P3ReplicationGroup) (this : Replication)
    (events : List ReplicationEvent) : Replication :=
  events.foldl (step members groups) this

/-- Before the first call.  The channels have been used to open their sessions. -/
def opened (sequenceID : UUID → UInt32) : Replication where
  calls := []
  channels := fun peer =>
    { requests := { RequestChannel.new with sequenceID := sequenceID peer }
      packets := []
      replies := []
      log := []
      fault := none }

end Replication

end Stheno.FT
