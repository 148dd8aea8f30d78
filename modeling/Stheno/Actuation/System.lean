import Stheno.Linearization
import Stheno.Net.Session

/-!
# Actions through the actuator service

The service has a channel to each sensor.  The thread of a client's connection copies the
list of the channels, sends the action over one after another, waits for a reply or the
end of each channel, and then replies to the client.  The channels are not locked
meanwhile, so that the threads interleave.
-/

namespace Stheno.Actuation

open Net

structure Action where
  /-- The call that made it, which no packet tells. -/
  call : Nat
  payload : List UInt8

/-- An `ActuatorClientHandler` with the sensor at its end. -/
structure Sensor where
  session : Session Action Bool
  /-- The calls of `ActuatorServer::handleAction`. -/
  performed : List (Served (List UInt8) Unit)

def ActuatorServer.handleAction : List UInt8 → Bool :=
  fun _ => true

namespace Sensor

/-- `ActuatorSvcHandler::handlePacket`. -/
def handlePacket (this : Sensor) : Sensor :=
  match this.session.take with
  | some (⟨_, action⟩, session) =>
      { session := session.answer (ActuatorServer.handleAction action.payload)
        performed := this.performed ++ [⟨action.call, action.payload, ()⟩] }
  | none => this

end Sensor

/-- An `ActuatorServiceClientHandler` with the thread of the service at its end, which may be
in `ActuatorServiceChannelManager::sendAction`. -/
structure Connection where
  session : Session Action Bool
  /-- The sensors that it still has to send to. -/
  memberList : List Nat
  /-- The requests that it has to wait for. -/
  lr : List (Nat × Nat)

/-- An `ActuatorServiceClient`, which one thread uses. -/
structure Client where
  clientHandler : Option Nat
  /-- The call and its request. -/
  waits : Option (Nat × Nat)

structure System where
  sensors : List Sensor
  /-- The channels of the manager. -/
  members : List Nat
  clients : Nat → Client
  connections : List Connection
  /-- How many calls were made. -/
  calls : Nat
  /-- What the clients have seen. -/
  history : List (Seen (List UInt8) Unit)

inductive Event where
  /-- `bindClientHandler` has found the service. -/
  | bind (client : Nat)
  | action (client : Nat) (payload : List UInt8) (accepted : Bool)
  /-- `waitFuture` returns to the client. -/
  | finish (client : Nat)
  /-- The thread takes the next packet, and copies the channels in the order of the map. -/
  | handlePacket (connection : Nat) (memberList : List Nat)
  | send (connection : Nat) (accepted : Bool)
  | await (connection : Nat)
  | reply (connection : Nat)
  /-- The sensor handles its next packet. -/
  | perform (sensor : Nat)
  | connection (connection : Nat) (event : Session.Event)
  | sensor (sensor : Nat) (event : Session.Event)

def Event.isBind : Event → Bool
  | bind _ => true
  | _ => false

namespace System

/-- `ActuatorService::open_i` adds the null pointer of a handler that could not connect. -/
def open_i (connected : List Bool) : Result System := do
  let sensors ← connected.mapM fun made =>
    if made then .ok ⟨Session.start, []⟩ else .error .nullDereference
  pure {
    sensors
    members := List.range sensors.length
    clients := fun _ => ⟨none, none⟩
    connections := []
    calls := 0
    history := [] }

def setClient (this : System) (i : Nat) (client : Client) : System :=
  { this with clients := Function.update this.clients i client }

def setConnection (this : System) (i : Nat) (connection : Connection) : System :=
  { this with connections := this.connections.set i connection }

def setSensor (this : System) (s : Nat) (sensor : Sensor) : System :=
  { this with sensors := this.sensors.set s sensor }

/-- The client has no handler, and connects. -/
def bind (this : System) (i : Nat) : System :=
  match (this.clients i).clientHandler with
  | none =>
      { this with
        connections := this.connections ++ [⟨Session.start, [], []⟩]
        clients := Function.update this.clients i ⟨some this.connections.length, none⟩ }
  | some _ => this

/-- The exception reaches the caller, after the handler was deleted. -/
def raise (this : System) (i handler : Nat) (connection : Connection) : System :=
  (this.setConnection handler { connection with session := connection.session.delete }).setClient i
    ⟨none, none⟩

def action (this : System) (i : Nat) (payload : List UInt8) (accepted : Bool) : Result System :=
  match this.clients i with
  | ⟨some handler, none⟩ =>
      match this.connections[handler]? with
      | some connection => do
          let (session, number) ← connection.session.sendRequest ⟨this.calls, payload⟩ accepted
          let called : System := { this with
            calls := this.calls + 1
            history := this.history ++ [.call this.calls payload] }
          match number with
          | some k =>
              pure ((called.setConnection handler { connection with session }).setClient i
                ⟨some handler, some (this.calls, k)⟩)
          | none => pure (called.raise i handler { connection with session })
      | none => pure this
  | _ => pure this

def finish (this : System) (i : Nat) : System :=
  match this.clients i with
  | ⟨some handler, some (call, k)⟩ =>
      match this.connections[handler]? with
      | some connection =>
          if connection.session.isFinal k then
            match connection.session.result k with
            | [] => this.raise i handler connection
            | _ :: _ =>
                { (this.setConnection handler
                      { connection with session := connection.session.fetch k }).setClient i
                    ⟨some handler, none⟩ with
                  history := this.history ++ [.answer call ()] }
          else
            this
      | none => this
  | _ => this

def handlePacket (this : System) (i : Nat) (memberList : List Nat) : System :=
  match this.connections[i]? with
  | some connection =>
      match connection.session.take with
      | some (_, session) =>
          if memberList.isPerm this.members then
            this.setConnection i ⟨session, memberList, []⟩
          else
            this
      | none => this
  | none => this

/-- The next request of `sendAction`.  A channel that the send closes leaves the manager. -/
def send (this : System) (i : Nat) (accepted : Bool) : Result System :=
  match this.connections[i]? with
  | some ⟨session, s :: memberList, lr⟩ =>
      match session.current, this.sensors[s]? with
      | some packet, some sensor => do
          let (channel, number) ← sensor.session.sendRequest packet.request accepted
          let sent := this.setSensor s { sensor with session := channel }
          match number with
          | some k => pure (sent.setConnection i ⟨session, memberList, lr ++ [(s, k)]⟩)
          | none =>
              pure { sent.setConnection i ⟨session, memberList, lr⟩ with
                members := this.members.erase s }
      | _, _ => pure this
  | _ => pure this

/-- `waitFuture` returns to `sendAction`, which does not look at what it returns. -/
def await (this : System) (i : Nat) : System :=
  match this.connections[i]? with
  | some ⟨session, [], (s, k) :: lr⟩ =>
      match this.sensors[s]? with
      | some sensor =>
          if sensor.session.isFinal k then
            (this.setSensor s { sensor with session := sensor.session.fetch k }).setConnection i
              ⟨session, [], lr⟩
          else
            this
      | none => this
  | _ => this

/-- `handleActionPacket` accepts every action. -/
def reply (this : System) (i : Nat) : System :=
  match this.connections[i]? with
  | some ⟨session, [], []⟩ => this.setConnection i ⟨session.answer true, [], []⟩
  | _ => this

def perform (this : System) (s : Nat) : System :=
  match this.sensors[s]? with
  | some sensor => this.setSensor s sensor.handlePacket
  | none => this

def stepConnection (this : System) (i : Nat) (event : Session.Event) : Result System :=
  match this.connections[i]? with
  | some connection => do
      let session ← connection.session.step event
      pure (this.setConnection i { connection with session })
  | none => pure this

/-- A channel that is marked as closed leaves the manager. -/
def stepSensor (this : System) (s : Nat) (event : Session.Event) : Result System :=
  match this.sensors[s]? with
  | some sensor => do
      let session ← sensor.session.step event
      pure { this.setSensor s { sensor with session } with
        members := if session.state = .closed then this.members.erase s else this.members }
  | none => pure this

/-- An event for which it is not the time changes nothing. -/
def step (this : System) : Event → Result System
  | .bind client => .ok (this.bind client)
  | .action client payload accepted => this.action client payload accepted
  | .finish client => .ok (this.finish client)
  | .handlePacket connection memberList => .ok (this.handlePacket connection memberList)
  | .send connection accepted => this.send connection accepted
  | .await connection => .ok (this.await connection)
  | .reply connection => .ok (this.reply connection)
  | .perform sensor => .ok (this.perform sensor)
  | .connection connection event => this.stepConnection connection event
  | .sensor sensor event => this.stepSensor sensor event

def run (this : System) (events : List Event) : Result System :=
  events.foldlM step this

end System

end Stheno.Actuation
