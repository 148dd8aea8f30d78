import Stheno.Actuation.System

/-!
# What a sensor is sent and performs

A sensor gets the actions over one channel and performs them as they come.  What it has
performed explains what the clients have seen as long as its channel is open, and after
that what they had seen before.
-/

namespace Stheno.Actuation

open Net

/-- What a sensor has performed, as an object of the clients. -/
def log (before : List (List UInt8)) (payload : List UInt8) (after : List (List UInt8))
    (_ : Unit) : Prop :=
  after = before ++ [payload]

namespace Sensor

/-- The calls of the actions that were sent to the sensor. -/
def sends (this : Sensor) : List Nat :=
  this.session.sent.map Action.call

/-- The calls of the actions that the sensor has performed. -/
def calls (this : Sensor) : List Nat :=
  this.performed.map Served.id

/-- Each action is sent once at most and performed in the order of the channel.  What was
seen since the channel has closed is not for the sensor. -/
structure Sound (history : List (Seen (List UInt8) Unit)) (this : Sensor) : Prop where
  session : this.session.Sound fun action => action.call ∈ this.calls
  seen : ∃ seen, seen <+: history ∧ (this.session.state = .opened → seen = history) ∧
    Linearizes log [] seen this.performed (this.performed.map Served.op) ∧
    ∀ packet ∈ this.session.packets, Seen.call packet.request.call packet.request.payload ∈ seen
  order : (this.calls ++ this.session.packets.map fun packet => packet.request.call).Sublist
    this.sends
  once : this.sends.Nodup
  made : ∀ call ∈ this.sends, ∃ payload, Seen.call call payload ∈ history

namespace Sound

variable {history : List (Seen (List UInt8) Unit)} {this : Sensor}

theorem new (history : List (Seen (List UInt8) Unit)) (empty : history = []) :
    Sensor.Sound history ⟨Session.start, []⟩ where
  session := Session.Sound.new _
  seen := by
    rw [empty]
    exact ⟨[], List.prefix_rfl, fun _ => rfl, Linearizes.start_nil log [], by simp [Session.start]⟩
  order := List.Sublist.refl _
  once := List.nodup_nil
  made := by
    intro call impossible
    cases impossible

/-- The channel goes on. -/
theorem ages (sound : this.Sound history) {session : Session Action Bool}
    (ages : this.session.Ages session)
    (carries : session.Sound fun action => action.call ∈ this.calls) :
    Sensor.Sound history { this with session } where
  session := carries
  seen := by
    rcases sound.seen with ⟨seen, upTo, open_, linearizes, packets⟩
    exact ⟨seen, upTo, fun opened => open_ (ages.opened opened), linearizes,
      fun packet isPacket => packets packet (ages.packets.subset isPacket)⟩
  order := by
    rw [sends, ages.sent]
    exact ((List.Sublist.refl _).append (ages.packets.map _)).trans sound.order
  once := by
    rw [sends, ages.sent]
    exact sound.once
  made := by
    rw [sends, ages.sent]
    exact sound.made

/-- The sensor performs what its channel has brought it. -/
theorem handlePacket (sound : this.Sound history) : this.handlePacket.Sound history := by
  rw [Sensor.handlePacket]
  split
  next packetID action session took =>
    have ages := (Session.Ages.take took).trans (.answer session
      (ActuatorServer.handleAction action.payload))
    have taken := sound.session.take took
    rcases Session.take_cases took with ⟨packets, idle, first, rfl⟩
    have order := sound.order
    rw [first, List.map_cons] at order
    have new : action.call ∉ this.calls := by
      intro old
      have distinct := sound.once.sublist order
      rw [List.nodup_append] at distinct
      exact distinct.2.2 _ old _ List.mem_cons_self rfl
    constructor
    case session =>
      have performed : ∀ other : Action, other.call ∈ this.calls →
          other.call ∈ List.map Served.id
            (this.performed ++ [⟨action.call, action.payload, ()⟩]) := by
        intro other old
        rw [List.map_append]
        exact List.mem_append_left _ old
      apply (taken.mono performed).answer
      intro packet handled
      cases handled
      rw [List.map_append]
      exact List.mem_append_right _ List.mem_cons_self
    case seen =>
      rcases sound.seen with ⟨seen, upTo, whole, linearizes, made⟩
      refine ⟨seen, upTo, fun opened => whole (ages.opened opened), ?_, ?_⟩
      · rw [List.map_append]
        exact linearizes.serve (made _ (first ▸ List.mem_cons_self)) new rfl
      · exact fun packet isPacket => made packet (ages.packets.subset isPacket)
    case order =>
      rw [sends, ages.sent, calls, List.map_append, List.append_assoc]
      exact order
    case once =>
      rw [sends, ages.sent]
      exact sound.once
    case made =>
      rw [sends, ages.sent]
      exact sound.made
  next => exact sound

/-- The service sends an action that it has not sent before. -/
theorem sendRequest (sound : this.Sound history) {action : Action} {accepted : Bool}
    {session : Session Action Bool} {number : Option Nat}
    (ran : this.session.sendRequest action accepted = .ok (session, number))
    (new : action.call ∉ this.sends) (made : Seen.call action.call action.payload ∈ history) :
    Sensor.Sound history { this with session } := by
  have carries := sound.session.sendRequest ran
  have once : (this.session.sent ++ [action]).map Action.call |>.Nodup := by
    rw [List.map_append, List.map_singleton, ← List.concat_eq_append]
    exact List.Nodup.concat new sound.once
  have madeAll : ∀ call ∈ (this.session.sent ++ [action]).map Action.call,
      ∃ payload, Seen.call call payload ∈ history := by
    intro call isSent
    rw [List.map_append, List.mem_append] at isSent
    rcases isSent with old | last
    · exact sound.made call old
    · rw [List.mem_singleton.mp last]
      exact ⟨action.payload, made⟩
  have order : (this.calls ++ this.session.packets.map fun packet => packet.request.call).Sublist
      ((this.session.sent ++ [action]).map Action.call) := by
    rw [List.map_append]
    exact sound.order.trans (List.sublist_append_left _ _)
  rcases sound.seen with ⟨seen, upTo, whole, linearizes, madePackets⟩
  rcases Session.sendRequest_cases ran with ⟨-, -, rfl⟩ | ⟨opened, -, rfl⟩ | ⟨-, -, rfl⟩
  · exact sound
  · refine ⟨carries, ⟨seen, upTo, whole, linearizes, ?_⟩, ?_, once, madeAll⟩
    · intro packet isPacket
      split at isPacket
      · rcases List.mem_append.mp isPacket with old | last
        · exact madePackets packet old
        · rw [List.mem_singleton.mp last, whole opened]
          exact made
      · exact madePackets packet isPacket
    · dsimp only
      split
      · rw [List.map_append, ← List.append_assoc, sends, List.map_append]
        exact sound.order.append (List.Sublist.refl _)
      · exact order
  · exact ⟨carries, ⟨seen, upTo, nofun, linearizes, madePackets⟩, order, once, madeAll⟩

/-- The clients see more, which only an open channel has to explain. -/
theorem see (sound : this.Sound history) {event : Seen (List UInt8) Unit}
    (goesOn : this.session.state = .opened →
      Linearizes log [] history this.performed (this.performed.map Served.op) →
        Linearizes log [] (history ++ [event]) this.performed (this.performed.map Served.op)) :
    this.Sound (history ++ [event]) where
  session := sound.session
  seen := by
    rcases sound.seen with ⟨seen, upTo, whole, linearizes, made⟩
    by_cases opened : this.session.state = .opened
    · have same := whole opened
      subst same
      exact ⟨seen ++ [event], List.prefix_rfl, fun _ => rfl, goesOn opened linearizes,
        fun packet isPacket => List.mem_append_left _ (made packet isPacket)⟩
    · exact ⟨seen, upTo.trans (List.prefix_append _ _), fun again => absurd again opened,
        linearizes, made⟩
  order := sound.order
  once := sound.once
  made := by
    intro call isSent
    rcases sound.made call isSent with ⟨payload, made⟩
    exact ⟨payload, List.mem_append_left _ made⟩

end Sound

theorem ages_handlePacket (this : Sensor) : this.session.Ages this.handlePacket.session ∧
    this.calls ⊆ this.handlePacket.calls := by
  rw [handlePacket]
  split
  next packetID action session took =>
    refine ⟨(Session.Ages.take took).trans (.answer session _), ?_⟩
    rw [calls, calls, List.map_append]
    exact List.subset_append_left _ _
  next => exact ⟨.refl _, List.Subset.refl _⟩

/-- A sensor goes on, to which only new actions are sent. -/
structure Becomes (new : List Nat) (before after : Sensor) : Prop where
  opened : after.session.state = .opened → before.session.state = .opened
  calls : before.calls ⊆ after.calls
  sends : before.sends <+: after.sends
  only : ∀ call ∈ after.sends, call ∈ before.sends ∨ call ∈ new
  answered : before.session.answered ≤ after.session.answered

theorem Becomes.refl (new : List Nat) (this : Sensor) : Becomes new this this :=
  ⟨id, fun _ old => old, List.prefix_rfl, fun _ old => Or.inl old, Nat.le_refl _⟩

theorem Becomes.of_ages {before after : Sensor} (ages : before.session.Ages after.session)
    (calls : before.calls ⊆ after.calls) : Becomes [] before after where
  opened := ages.opened
  calls := calls
  sends := by
    rw [Sensor.sends, Sensor.sends, ages.sent]
  only := by
    intro call isSent
    rw [Sensor.sends, ages.sent] at isSent
    exact Or.inl isSent
  answered := ages.answered

theorem Becomes.of_sends {this : Sensor} {action : Action} {number : Option Nat}
    {session : Session Action Bool} (sends : this.session.Sends action number session) :
    Becomes [action.call] this { this with session } where
  opened := fun opened => (sends.opened opened).1
  calls := List.Subset.refl _
  sends := by
    rcases sends.sent with same | more
    · rw [Sensor.sends, Sensor.sends, same]
    · rw [Sensor.sends, Sensor.sends, more, List.map_append]
      exact List.prefix_append _ _
  only := by
    intro call isSent
    rcases sends.sent with same | more
    · rw [Sensor.sends, same] at isSent
      exact Or.inl isSent
    · rw [Sensor.sends, more, List.map_append] at isSent
      exact List.mem_append.mp isSent
  answered := Nat.le_of_eq sends.answered.symm

end Sensor

end Stheno.Actuation
