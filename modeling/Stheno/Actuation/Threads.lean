import Stheno.Actuation.Sensors
import Stheno.Selection

/-!
# What holds between the threads of the service

Each action has one thread that sends it, and a channel waits for replies to different
threads.  A thread either still has to send its action over a channel, or waits for the
reply, or there was one, or the channel is closed.
-/

namespace Stheno.Actuation

open Net

/-- The actions that the thread of the service has or will have from the connection. -/
def Connection.pending (this : Connection) : List Action :=
  (this.session.current.toList ++ this.session.packets).map Envelope.request

/-- A client that waits has sent the last request of its connection.  Otherwise it has a
reply to each. -/
structure Listens (waits : Option (Nat × Nat)) (session : Session Action Bool) : Prop where
  idle : waits = none → session.state = .opened → session.answered = session.sent.length
  waiting : ∀ call k, waits = some (call, k) →
    session.sent[k]?.map Action.call = some call ∧ k + 1 = session.sent.length

namespace System

/-- Each sensor with an open channel has performed the action of the call. -/
def Reached (this : System) (call : Nat) : Prop :=
  ∀ (s : Nat) (sensor : Sensor), this.sensors[s]? = some sensor →
    sensor.session.state = .opened → call ∈ sensor.calls

/-- A thread that sends an action: each open channel is ahead of it, or it waits for the
reply, or the reply is there. -/
structure Handles (this : System) (connection : Connection) (call : Nat) : Prop where
  distinct : connection.memberList.Nodup
  unsent : ∀ s ∈ connection.memberList, ∀ sensor : Sensor, this.sensors[s]? = some sensor →
    call ∉ sensor.sends
  awaits : ∀ (s : Nat) (sensor : Sensor), this.sensors[s]? = some sensor →
    sensor.session.state = .opened → s ∈ connection.memberList ∨ ∃ k, sensor.sends[k]? = some call ∧
      ((s, k) ∈ connection.lr ∨ k < sensor.session.answered)

/-- A connection with its thread. -/
structure Carries (this : System) (place : Nat → Nat) (i : Nat) (connection : Connection) :
    Prop where
  session : connection.session.Sound fun action => this.Reached action.call
  few : connection.session.state = .opened →
    connection.session.sent.length ≤ connection.session.answered + 1
  distinct : (connection.pending.map Action.call).Nodup
  placed : ∀ action ∈ connection.pending,
    place action.call = i ∧ Seen.call action.call action.payload ∈ this.history
  unsent : ∀ packet ∈ connection.session.packets, ∀ (s : Nat) (sensor : Sensor),
    this.sensors[s]? = some sensor → packet.request.call ∉ sensor.sends
  handles : ∀ packet, connection.session.current = some packet →
    this.Handles connection packet.request.call

/-- What holds between the threads. -/
structure Sound (this : System) (place : Nat → Nat) : Prop where
  made : ∀ id payload, Seen.call id payload ∈ this.history → id < this.calls
  members : ∀ (s : Nat) (sensor : Sensor), this.sensors[s]? = some sensor →
    sensor.session.state = .opened → s ∈ this.members
  distinctMembers : this.members.Nodup
  sensors : ∀ (s : Nat) (sensor : Sensor), this.sensors[s]? = some sensor →
    sensor.Sound this.history
  connections : ∀ (i : Nat) (connection : Connection), this.connections[i]? = some connection →
    this.Carries place i connection
  owned : ∀ (s : Nat) (sensor : Sensor), this.sensors[s]? = some sensor →
    sensor.session.state = .opened → ∀ k call, sensor.session.answered ≤ k →
      sensor.sends[k]? = some call →
      ∃ (i : Nat) (connection : Connection) (packet : Envelope Action),
        this.connections[i]? = some connection ∧ connection.session.current = some packet ∧
          packet.request.call = call
  clients : ∀ j handler, (this.clients j).clientHandler = some handler →
    ∃ connection, this.connections[handler]? = some connection ∧
      Listens (this.clients j).waits connection.session
  distinct : ∀ i j handler, (this.clients i).clientHandler = some handler →
    (this.clients j).clientHandler = some handler → i = j

/-- The sensors go on, and more is seen. -/
structure Later (new : List Nat) (before after : System) : Prop where
  sensors : ∀ (s : Nat) (sensor : Sensor), after.sensors[s]? = some sensor →
    ∃ earlier, before.sensors[s]? = some earlier ∧ earlier.Becomes new sensor
  history : before.history ⊆ after.history

variable {this after : System} {place : Nat → Nat} {new : List Nat}

theorem Reached.later {call : Nat} (reached : this.Reached call) (later : this.Later new after) :
    after.Reached call := by
  intro s sensor found opened
  rcases later.sensors s sensor found with ⟨earlier, before, becomes⟩
  exact becomes.calls (reached s earlier before (becomes.opened opened))

theorem Handles.later {connection : Connection} {call : Nat}
    (handles : this.Handles connection call) (later : this.Later new after) (old : call ∉ new) :
    after.Handles connection call where
  distinct := handles.distinct
  unsent := by
    intro s isMember sensor found isSent
    rcases later.sensors s sensor found with ⟨earlier, before, becomes⟩
    rcases becomes.only call isSent with already | now
    · exact handles.unsent s isMember earlier before already
    · exact old now
  awaits := by
    intro s sensor found opened
    rcases later.sensors s sensor found with ⟨earlier, before, becomes⟩
    rcases handles.awaits s earlier before (becomes.opened opened) with ahead | ⟨k, isSent, waits⟩
    · exact Or.inl ahead
    · right
      rcases becomes.sends with ⟨rest, whole⟩
      refine ⟨k, ?_, ?_⟩
      · rw [← whole, List.getElem?_append_left (List.getElem?_eq_some_iff.mp isSent).1]
        exact isSent
      · exact waits.imp_right fun had => Nat.lt_of_lt_of_le had becomes.answered

theorem Carries.placed_current {i : Nat} {connection : Connection} {packet : Envelope Action}
    (carries : this.Carries place i connection)
    (isCurrent : connection.session.current = some packet) :
    place packet.request.call = i ∧
      Seen.call packet.request.call packet.request.payload ∈ this.history := by
  apply carries.placed packet.request
  apply List.mem_map_of_mem
  rw [isCurrent]
  exact List.mem_cons_self

theorem Carries.later {i : Nat} {connection : Connection}
    (carries : this.Carries place i connection) (later : this.Later new after)
    (old : ∀ action ∈ connection.pending, action.call ∉ new) :
    after.Carries place i connection where
  session := carries.session.mono fun _ reached => reached.later later
  few := carries.few
  distinct := carries.distinct
  placed := by
    intro action isPending
    rcases carries.placed action isPending with ⟨here, made⟩
    exact ⟨here, later.history made⟩
  unsent := by
    intro packet isPacket s sensor found isSent
    rcases later.sensors s sensor found with ⟨earlier, before, becomes⟩
    rcases becomes.only _ isSent with already | now
    · exact carries.unsent packet isPacket s earlier before already
    · exact old packet.request
        (List.mem_map_of_mem (List.mem_append_right _ isPacket)) now
  handles := by
    intro packet isCurrent
    apply (carries.handles packet isCurrent).later later
    apply old packet.request
    apply List.mem_map_of_mem
    rw [isCurrent]
    exact List.mem_cons_self

theorem Later.of_sensors (sensors : after.sensors = this.sensors)
    (history : this.history ⊆ after.history) : this.Later [] after where
  sensors := by
    intro s sensor found
    rw [sensors] at found
    exact ⟨sensor, found, .refl [] sensor⟩
  history := history

/-- A connection does not see what happens to other connections and to the clients. -/
theorem Carries.of_sensors {i : Nat} {connection : Connection}
    (carries : this.Carries place i connection) (sensors : after.sensors = this.sensors)
    (history : this.history ⊆ after.history) : after.Carries place i connection :=
  carries.later (.of_sensors sensors history) fun _ _ => List.not_mem_nil

/-- An entry of a list of which one was replaced. -/
theorem of_set {α : Type} {list : List α} {i j : Nat} {a b : α}
    (found : (list.set i a)[j]? = some b) : (j = i ∧ b = a) ∨ (j ≠ i ∧ list[j]? = some b) := by
  by_cases here : i = j
  · subst here
    have within : i < list.length := by
      rw [← List.length_set (a := a)]
      exact (List.getElem?_eq_some_iff.mp found).1
    rw [List.getElem?_set_self within, Option.some_inj] at found
    exact Or.inl ⟨rfl, found.symm⟩
  · rw [List.getElem?_set_ne here] at found
    exact Or.inr ⟨Ne.symm here, found⟩

theorem getElem?_set_of {α : Type} {list : List α} {i : Nat} {a b : α} (found : list[i]? = some a) :
    (list.set i b)[i]? = some b :=
  List.getElem?_set_self (List.getElem?_eq_some_iff.mp found).1

namespace Sound

/-- A connection and the clients go on, and no thread leaves an action of which a reply is
missing. -/
theorem put (sound : this.Sound place) {i : Nat} {connection later : Connection}
    {clients : Nat → Client} (found : this.connections[i]? = some connection)
    (carries : this.Carries place i later)
    (current : ∀ packet, connection.session.current = some packet →
      later.session.current = some packet ∨ ∀ (s : Nat) (sensor : Sensor),
        this.sensors[s]? = some sensor → sensor.session.state = .opened →
          ∀ k : Nat, sensor.sends[k]? = some packet.request.call → k < sensor.session.answered)
    (handlers : ∀ j handler, (clients j).clientHandler = some handler →
      (this.clients j).clientHandler = some handler)
    (listens : ∀ j handler, (clients j).clientHandler = some handler →
      (handler = i → Listens (clients j).waits later.session) ∧
        (handler ≠ i → (clients j).waits = (this.clients j).waits)) :
    Sound { this.setConnection i later with clients } place where
  made := sound.made
  members := sound.members
  distinctMembers := sound.distinctMembers
  sensors := sound.sensors
  connections := by
    intro j other isOther
    rcases of_set isOther with ⟨rfl, rfl⟩ | ⟨-, same⟩
    · exact carries.of_sensors rfl fun _ old => old
    · exact (sound.connections j other same).of_sensors rfl fun _ old => old
  owned := by
    intro s sensor isSensor opened k call missing isSent
    rcases sound.owned s sensor isSensor opened k call missing isSent with
      ⟨j, other, packet, isOther, isCurrent, rfl⟩
    by_cases here : j = i
    · subst here
      rw [found, Option.some_inj] at isOther
      rw [← isOther] at isCurrent
      rcases current packet isCurrent with stays | had
      · exact ⟨j, later, packet, getElem?_set_of found, stays, rfl⟩
      · exact absurd (had s sensor isSensor opened k isSent) (Nat.not_lt.mpr missing)
    · refine ⟨j, other, packet, ?_, isCurrent, rfl⟩
      change (this.connections.set i later)[j]? = some other
      rw [List.getElem?_set_ne (Ne.symm here)]
      exact isOther
  clients := by
    intro j handler isHandler
    rcases listens j handler isHandler with ⟨here, elsewhere⟩
    by_cases same : handler = i
    · subst same
      exact ⟨later, getElem?_set_of found, here rfl⟩
    · rcases sound.clients j handler (handlers j handler isHandler) with ⟨other, isOther, old⟩
      refine ⟨other, ?_, ?_⟩
      · change (this.connections.set i later)[handler]? = some other
        rw [List.getElem?_set_ne (Ne.symm same)]
        exact isOther
      · change Listens (clients j).waits other.session
        rw [elsewhere same]
        exact old
  distinct := by
    intro j k handler isHandler isOther
    exact sound.distinct j k handler (handlers j handler isHandler) (handlers k handler isOther)

/-- A connection goes on. -/
theorem setConnection (sound : this.Sound place) {i : Nat} {connection later : Connection}
    (found : this.connections[i]? = some connection) (carries : this.Carries place i later)
    (current : ∀ packet, connection.session.current = some packet →
      later.session.current = some packet ∨ ∀ (s : Nat) (sensor : Sensor),
        this.sensors[s]? = some sensor → sensor.session.state = .opened →
          ∀ k : Nat, sensor.sends[k]? = some packet.request.call → k < sensor.session.answered)
    (listens : ∀ waits, Listens waits connection.session → Listens waits later.session) :
    (this.setConnection i later).Sound place := by
  apply sound.put found carries current (fun j handler isHandler => isHandler)
  intro j handler isHandler
  refine ⟨?_, fun _ => rfl⟩
  rintro rfl
  rcases sound.clients j handler isHandler with ⟨other, isOther, old⟩
  rw [found, Option.some_inj] at isOther
  rw [← isOther] at old
  exact listens _ old

/-- A client and its connection go on. -/
theorem setClient (sound : this.Sound place) {i handler : Nat} {connection later : Connection}
    {client : Client} (found : this.connections[handler]? = some connection)
    (isHandler : (this.clients i).clientHandler = some handler)
    (carries : this.Carries place handler later)
    (current : later.session.current = connection.session.current)
    (same : ∀ other, client.clientHandler = some other → other = handler)
    (listens : client.clientHandler = some handler → Listens client.waits later.session) :
    ((this.setConnection handler later).setClient i client).Sound place := by
  apply sound.put found carries (fun packet isCurrent => Or.inl (current.trans isCurrent))
  case handlers =>
    intro j other isOther
    by_cases here : j = i
    · rw [here, Function.update_self] at isOther
      rw [here, same other isOther]
      exact isHandler
    · rw [Function.update_of_ne here] at isOther
      exact isOther
  case listens =>
    intro j other isOther
    by_cases here : j = i
    · rw [here, Function.update_self] at isOther ⊢
      cases same other isOther
      exact ⟨fun _ => listens isOther, fun elsewhere => absurd rfl elsewhere⟩
    · rw [Function.update_of_ne here] at isOther ⊢
      refine ⟨?_, fun _ => rfl⟩
      rintro rfl
      exact absurd (sound.distinct j i other isOther isHandler) here

/-- A sensor goes on, to which nothing is sent. -/
theorem setSensor (sound : this.Sound place) {s : Nat} {sensor : Sensor} (later : Sensor)
    {members : List Nat} (found : this.sensors[s]? = some sensor)
    (ages : sensor.session.Ages later.session) (calls : sensor.calls ⊆ later.calls)
    (explained : later.Sound this.history) (distinct : members.Nodup)
    (kept : ∀ t ∈ this.members, t ∈ members ∨ t = s ∧ later.session.state ≠ .opened) :
    Sound { this.setSensor s later with members } place := by
  have goesOn : this.Later [] { this.setSensor s later with members } := by
    refine ⟨?_, fun _ old => old⟩
    intro t other isOther
    rcases of_set isOther with ⟨rfl, rfl⟩ | ⟨-, same⟩
    · exact ⟨sensor, found, .of_ages ages calls⟩
    · exact ⟨other, same, .refl [] other⟩
  constructor
  case made => exact sound.made
  case members =>
    intro t other isOther opened
    rcases of_set isOther with ⟨rfl, rfl⟩ | ⟨elsewhere, same⟩
    · rcases kept t (sound.members t sensor found (ages.opened opened)) with stays | ⟨-, closed⟩
      · exact stays
      · exact absurd opened closed
    · rcases kept t (sound.members t other same opened) with stays | ⟨here, -⟩
      · exact stays
      · exact absurd here elsewhere
  case distinctMembers => exact distinct
  case sensors =>
    intro t other isOther
    rcases of_set isOther with ⟨rfl, rfl⟩ | ⟨-, same⟩
    · exact explained
    · exact sound.sensors t other same
  case connections =>
    intro i connection isConnection
    exact (sound.connections i connection isConnection).later goesOn fun _ _ => List.not_mem_nil
  case owned =>
    intro t other isOther opened k call missing isSent
    rcases of_set isOther with ⟨rfl, rfl⟩ | ⟨-, same⟩
    · rw [Sensor.sends, ages.sent] at isSent
      exact sound.owned t sensor found (ages.opened opened) k call
        (Nat.le_trans ages.answered missing) isSent
    · exact sound.owned t other same opened k call missing isSent
  case clients => exact sound.clients
  case distinct => exact sound.distinct

/-- The clients see more. -/
theorem see (sound : this.Sound place) {event : Seen (List UInt8) Unit} {calls : Nat}
    (grows : this.calls ≤ calls) (made : ∀ id payload, event = .call id payload → id < calls)
    (goesOn : ∀ (s : Nat) (sensor : Sensor), this.sensors[s]? = some sensor →
      sensor.session.state = .opened →
        Linearizes log [] this.history sensor.performed (sensor.performed.map Served.op) →
          Linearizes log [] (this.history ++ [event]) sensor.performed
            (sensor.performed.map Served.op)) :
    Sound { this with calls, history := this.history ++ [event] } place where
  made := by
    intro id payload isCall
    rcases List.mem_append.mp isCall with old | new
    · exact Nat.lt_of_lt_of_le (sound.made id payload old) grows
    · exact made id payload (List.mem_singleton.mp new).symm
  members := sound.members
  distinctMembers := sound.distinctMembers
  sensors := fun s sensor found => (sound.sensors s sensor found).see (goesOn s sensor found)
  connections := fun i connection found =>
    (sound.connections i connection found).of_sensors rfl (List.subset_append_left _ _)
  owned := sound.owned
  clients := sound.clients
  distinct := sound.distinct

/-- The next call has a connection. -/
theorem assign (sound : this.Sound place) (i : Nat) :
    this.Sound (Function.update place this.calls i) where
  made := sound.made
  members := sound.members
  distinctMembers := sound.distinctMembers
  sensors := sound.sensors
  connections := by
    intro j connection found
    have carries := sound.connections j connection found
    refine { carries with placed := ?_ }
    intro action isPending
    rcases carries.placed action isPending with ⟨here, made⟩
    refine ⟨?_, made⟩
    rw [Function.update_of_ne (Nat.ne_of_lt (sound.made _ _ made))]
    exact here
  owned := sound.owned
  clients := sound.clients
  distinct := sound.distinct

/-- The action of a call, among those that were sent to a sensor. -/
theorem only_once (sound : this.Sound place) {s : Nat} {sensor : Sensor}
    (found : this.sensors[s]? = some sensor) {j k call : Nat}
    (first : sensor.sends[j]? = some call) (second : sensor.sends[k]? = some call) : j = k := by
  rcases List.getElem?_eq_some_iff.mp first with ⟨within, isFirst⟩
  rcases List.getElem?_eq_some_iff.mp second with ⟨within', isSecond⟩
  exact (sound.sensors s sensor found).once.getElem_inj_iff.mp (isFirst.trans isSecond.symm)

/-- An action with a reply from the sensor was performed. -/
theorem performed (sound : this.Sound place) {s : Nat} {sensor : Sensor}
    (found : this.sensors[s]? = some sensor) (opened : sensor.session.state = .opened)
    {k call : Nat} (isSent : sensor.sends[k]? = some call) (had : k < sensor.session.answered) :
    call ∈ sensor.calls := by
  rw [Sensor.sends, List.getElem?_map, Option.map_eq_some_iff] at isSent
  rcases isSent with ⟨action, isSent, rfl⟩
  exact ((sound.sensors s sensor found).session.carries opened).done k had action isSent

/-- The replies that a channel still has to bring are for different threads. -/
theorem waiting_le (sound : this.Sound place) {s : Nat} {sensor : Sensor}
    (isSensor : this.sensors[s]? = some sensor) (opened : sensor.session.state = .opened) :
    sensor.session.sent.length ≤ sensor.session.answered + this.connections.length := by
  have distinct : (sensor.sends.drop sensor.session.answered).Nodup :=
    (sound.sensors s sensor isSensor).once.sublist (List.drop_sublist _ _)
  have owned : ∀ call ∈ sensor.sends.drop sensor.session.answered,
      ∃ i, i < this.connections.length ∧ (this.connections[i]?.bind fun connection =>
        connection.session.current.map fun packet => packet.request.call) = some call := by
    intro call isSent
    rcases List.mem_iff_getElem?.mp isSent with ⟨k, isSent⟩
    rw [List.getElem?_drop] at isSent
    rcases sound.owned s sensor isSensor opened _ call (Nat.le_add_right _ k) isSent with
      ⟨i, connection, packet, found, isCurrent, rfl⟩
    refine ⟨i, (List.getElem?_eq_some_iff.mp found).1, ?_⟩
    rw [found, Option.bind_some, isCurrent, Option.map_some]
  have waiting := length_le_of_owners distinct owned fun i first second isFirst isSecond =>
    Option.some.inj (isFirst.symm.trans isSecond)
  rw [List.length_drop, Sensor.sends, List.length_map, Nat.sub_le_iff_le_add] at waiting
  rw [Nat.add_comm]
  exact waiting

/-- The client that has a handler listens to it. -/
theorem listens_of (sound : this.Sound place) {i handler : Nat} {connection : Connection}
    (found : this.connections[handler]? = some connection)
    (isHandler : (this.clients i).clientHandler = some handler) :
    Listens (this.clients i).waits connection.session := by
  rcases sound.clients i handler isHandler with ⟨other, isOther, listens⟩
  rw [found, Option.some_inj] at isOther
  rw [isOther]
  exact listens

/-- A thread goes on to the next sensor, after it has sent its action to one or found its
channel closed. -/
theorem carries_send {i s : Nat} {session : Session Action Bool} {memberList : List Nat}
    {lr waits : List (Nat × Nat)} {packet : Envelope Action} {later : Sensor}
    (carries : this.Carries place i ⟨session, s :: memberList, lr⟩)
    (isCurrent : session.current = some packet) (goesOn : this.Later [packet.request.call] after)
    (sensors : after.sensors = this.sensors.set s later)
    (waitsFor : later.session.state = .opened →
      ∃ k : Nat, later.sends[k]? = some packet.request.call ∧ (s, k) ∈ waits) (more : lr ⊆ waits) :
    after.Carries place i ⟨session, memberList, waits⟩ := by
  have handles := carries.handles packet isCurrent
  have apart := handles.distinct
  rw [List.nodup_cons] at apart
  constructor
  case session => exact carries.session.mono fun _ reached => reached.later goesOn
  case few => exact carries.few
  case distinct => exact carries.distinct
  case placed =>
    intro action isPending
    rcases carries.placed action isPending with ⟨here, made⟩
    exact ⟨here, goesOn.history made⟩
  case unsent =>
    intro waiting isWaiting t other isOther isSent
    rcases goesOn.sensors t other isOther with ⟨earlier, before, becomes⟩
    rcases becomes.only _ isSent with already | now
    · exact carries.unsent waiting isWaiting t earlier before already
    · have twice := carries.distinct
      simp only [Connection.pending, isCurrent, Option.toList_some, List.singleton_append,
        List.map_cons, List.map_map, List.nodup_cons] at twice
      apply twice.1
      rw [← List.mem_singleton.mp now]
      exact List.mem_map_of_mem isWaiting
  case handles =>
    intro other isOther
    rw [isCurrent, Option.some_inj] at isOther
    subst isOther
    constructor
    case distinct => exact apart.2
    case unsent =>
      intro t isMember other isOther
      rw [sensors] at isOther
      rcases of_set isOther with ⟨rfl, -⟩ | ⟨-, same⟩
      · exact absurd isMember apart.1
      · exact handles.unsent t (List.mem_cons_of_mem _ isMember) other same
    case awaits =>
      intro t other isOther opened
      rw [sensors] at isOther
      rcases of_set isOther with ⟨rfl, rfl⟩ | ⟨elsewhere, same⟩
      · rcases waitsFor opened with ⟨k, isSent, isWaited⟩
        exact Or.inr ⟨k, isSent, Or.inl isWaited⟩
      · rcases handles.awaits t other same opened with ahead | ⟨k, isSent, isWaited⟩
        · rcases List.mem_cons.mp ahead with impossible | ahead
          · exact absurd impossible elsewhere
          · exact Or.inl ahead
        · exact Or.inr ⟨k, isSent, isWaited.imp_left fun old => more old⟩

/-- The sessions stay where they are. -/
theorem exists_set {connections : List Connection} {i j : Nat} {connection other : Connection}
    (later : Connection) (found : connections[i]? = some connection)
    (session : later.session = connection.session)
    (isOther : connections[j]? = some other) :
    ∃ same, (connections.set i later)[j]? = some same ∧ same.session = other.session := by
  by_cases here : j = i
  · subst here
    rw [found, Option.some_inj] at isOther
    subst isOther
    exact ⟨later, getElem?_set_of found, session⟩
  · refine ⟨other, ?_, rfl⟩
    rw [List.getElem?_set_ne (Ne.symm here)]
    exact isOther

/-- A thread sends its action to one more sensor, or finds its channel closed. -/
theorem sendTo (sound : this.Sound place) {i s : Nat} {session : Session Action Bool}
    {memberList members : List Nat} {lr waits : List (Nat × Nat)} {packet : Envelope Action}
    {sensor later : Sensor} (found : this.connections[i]? = some ⟨session, s :: memberList, lr⟩)
    (isCurrent : session.current = some packet) (isSensor : this.sensors[s]? = some sensor)
    (explained : later.Sound this.history) (becomes : sensor.Becomes [packet.request.call] later)
    (answered : later.session.answered = sensor.session.answered)
    (sends : later.sends = sensor.sends ∨ later.sends = sensor.sends ++ [packet.request.call])
    (distinct : members.Nodup)
    (kept : ∀ t ∈ this.members, t ∈ members ∨ t = s ∧ later.session.state ≠ .opened)
    (waitsFor : later.session.state = .opened →
      ∃ k : Nat, later.sends[k]? = some packet.request.call ∧ (s, k) ∈ waits) (more : lr ⊆ waits) :
    Sound { this.setSensor s later with
      members, connections := this.connections.set i ⟨session, memberList, waits⟩ } place := by
  have carries := sound.connections i _ found
  have goesOn : this.Later [packet.request.call] { this.setSensor s later with
      members, connections := this.connections.set i ⟨session, memberList, waits⟩ } := by
    refine ⟨?_, List.Subset.refl _⟩
    intro t other isOther
    rcases of_set isOther with ⟨rfl, rfl⟩ | ⟨-, same⟩
    · exact ⟨sensor, isSensor, becomes⟩
    · exact ⟨other, same, .refl _ other⟩
  constructor
  case made => exact sound.made
  case members =>
    intro t other isOther opened
    rcases of_set isOther with ⟨rfl, rfl⟩ | ⟨elsewhere, same⟩
    · have isMember := sound.members t sensor isSensor (becomes.opened opened)
      rcases kept t isMember with stays | ⟨-, closed⟩
      · exact stays
      · exact absurd opened closed
    · rcases kept t (sound.members t other same opened) with stays | ⟨impossible, -⟩
      · exact stays
      · exact absurd impossible elsewhere
  case distinctMembers => exact distinct
  case sensors =>
    intro t other isOther
    rcases of_set isOther with ⟨rfl, rfl⟩ | ⟨-, same⟩
    · exact explained
    · exact sound.sensors t other same
  case connections =>
    intro j connection isConnection
    rcases of_set isConnection with ⟨rfl, rfl⟩ | ⟨elsewhere, same⟩
    · exact carries_send carries isCurrent goesOn rfl waitsFor more
    · apply (sound.connections j connection same).later goesOn
      intro action isAction again
      have there := ((sound.connections j connection same).placed action isAction).1
      rw [List.mem_singleton.mp again, (carries.placed_current isCurrent).1] at there
      exact elsewhere there.symm
  case owned =>
    intro t other isOther opened k call missing isSent
    have owner : ∃ (j : Nat) (connection : Connection) (owner : Envelope Action),
        this.connections[j]? = some connection ∧ connection.session.current = some owner ∧
          owner.request.call = call := by
      rcases of_set isOther with ⟨rfl, rfl⟩ | ⟨-, same⟩
      · rw [answered] at missing
        have old := sound.owned t sensor isSensor (becomes.opened opened) k call missing
        rcases sends with same | more
        · rw [same] at isSent
          exact old isSent
        · rw [more] at isSent
          by_cases before : k < sensor.sends.length
          · rw [List.getElem?_append_left before] at isSent
            exact old isSent
          · rw [List.getElem?_append_right (Nat.not_lt.mp before)] at isSent
            have last := List.mem_singleton.mp (List.mem_of_getElem? isSent)
            exact ⟨i, _, packet, found, isCurrent, last.symm⟩
      · exact sound.owned t other same opened k call missing isSent
    rcases owner with ⟨j, connection, owner, isConnection, isOwner, same⟩
    rcases exists_set ⟨session, memberList, waits⟩ found rfl isConnection with
      ⟨stays, isThere, kept⟩
    exact ⟨j, stays, owner, isThere, kept ▸ isOwner, same⟩
  case clients =>
    intro j handler isHandler
    rcases sound.clients j handler isHandler with ⟨connection, isConnection, listens⟩
    rcases exists_set ⟨session, memberList, waits⟩ found rfl isConnection with
      ⟨stays, isThere, kept⟩
    exact ⟨stays, isThere, kept ▸ listens⟩
  case distinct => exact sound.distinct

/-- The action of a new call is on its way to the service. -/
theorem carries_call {i : Nat} {connection : Connection} {session : Session Action Bool}
    {request : Action} {accepted : Bool} {k : Nat} (carries : this.Carries place i connection)
    (isSent : connection.session.sendRequest request accepted = .ok (session, some k))
    (idle : connection.session.state = .opened →
      connection.session.answered = connection.session.sent.length)
    (here : place request.call = i)
    (made : Seen.call request.call request.payload ∈ this.history)
    (new : request.call ∉ connection.pending.map Action.call)
    (unsent : ∀ (s : Nat) (sensor : Sensor), this.sensors[s]? = some sensor →
      request.call ∉ sensor.sends) :
    this.Carries place i { connection with session } := by
  have explained := carries.session.sendRequest isSent
  rcases Session.sendRequest_cases isSent with ⟨-, none, -⟩ | ⟨opened, -, rfl⟩ | ⟨-, none, -⟩
  · cases none
  · constructor
    case session => exact explained
    case few =>
      intro _
      dsimp only
      rw [List.length_append, idle opened]
      exact Nat.le_refl _
    case distinct =>
      dsimp only [Connection.pending]
      split
      · rw [← List.append_assoc, List.map_append, List.map_append, List.map_singleton,
          List.map_singleton, ← List.concat_eq_append]
        exact List.Nodup.concat new carries.distinct
      · exact carries.distinct
    case placed =>
      intro action isPending
      dsimp only [Connection.pending] at isPending
      split at isPending
      · rw [← List.append_assoc, List.map_append, List.mem_append] at isPending
        rcases isPending with old | last
        · exact carries.placed action old
        · rw [List.mem_singleton.mp last]
          exact ⟨here, made⟩
      · exact carries.placed action isPending
    case unsent =>
      intro packet isPacket s sensor isSensor
      dsimp only at isPacket
      split at isPacket
      · rcases List.mem_append.mp isPacket with old | last
        · exact carries.unsent packet old s sensor isSensor
        · rw [List.mem_singleton.mp last]
          exact unsent s sensor isSensor
      · exact carries.unsent packet isPacket s sensor isSensor
    case handles =>
      intro packet isCurrent
      have handles := carries.handles packet isCurrent
      exact ⟨handles.distinct, handles.unsent, handles.awaits⟩
  · cases none

end Sound

end System

end Stheno.Actuation
