import Stheno.Actuation.Threads

/-!
# What an action has reached when its client goes on

When the service replies to a client, every channel that is open has had the reply of its
sensor.  So a sensor has performed all actions that the clients have a reply to, in an
order in which they could have been made, as long as its channel is open.
-/

namespace Stheno.Actuation

open Net

namespace System

variable {this after : System} {place : Nat → Nat}

namespace Sound

/-! ## Steps -/

theorem bind (sound : this.Sound place) (i : Nat) : (this.bind i).Sound place := by
  rw [System.bind]
  split
  next =>
    have old : ∀ (j : Nat) (connection : Connection), this.connections[j]? = some connection →
        (this.connections ++ [⟨Session.start, [], []⟩])[j]? = some connection := by
      intro j connection found
      rw [List.getElem?_append_left (List.getElem?_eq_some_iff.mp found).1]
      exact found
    have used : ∀ j handler, (this.clients j).clientHandler = some handler →
        handler < this.connections.length := by
      intro j handler isHandler
      rcases sound.clients j handler isHandler with ⟨connection, found, -⟩
      exact (List.getElem?_eq_some_iff.mp found).1
    constructor
    case made => exact sound.made
    case members => exact sound.members
    case distinctMembers => exact sound.distinctMembers
    case sensors => exact sound.sensors
    case connections =>
      intro j connection found
      by_cases before : j < this.connections.length
      · rw [List.getElem?_append_left before] at found
        exact (sound.connections j connection found).of_sensors rfl (List.Subset.refl _)
      · rw [List.getElem?_append_right (Nat.not_lt.mp before)] at found
        have new := List.mem_singleton.mp (List.mem_of_getElem? found)
        subst new
        constructor
        case session => exact Session.Sound.new _
        case few => exact fun _ => Nat.le_succ 0
        case distinct => exact List.nodup_nil
        case placed =>
          intro action impossible
          cases impossible
        case unsent =>
          intro packet impossible
          cases impossible
        case handles =>
          intro packet impossible
          cases impossible
    case owned =>
      intro s sensor isSensor opened k call missing isSent
      rcases sound.owned s sensor isSensor opened k call missing isSent with
        ⟨j, connection, packet, found, isCurrent, same⟩
      exact ⟨j, connection, packet, old j connection found, isCurrent, same⟩
    case clients =>
      intro j handler isHandler
      dsimp only at isHandler ⊢
      by_cases here : j = i
      · subst here
        rw [Function.update_self] at isHandler ⊢
        cases isHandler
        exact ⟨_, List.getElem?_concat_length, fun _ _ => rfl, nofun⟩
      · rw [Function.update_of_ne here] at isHandler ⊢
        rcases sound.clients j handler isHandler with ⟨connection, found, listens⟩
        exact ⟨connection, old handler connection found, listens⟩
    case distinct =>
      intro j k handler isHandler isOther
      dsimp only at isHandler isOther
      by_cases here : j = i
      · by_cases there : k = i
        · exact here.trans there.symm
        · rw [here, Function.update_self] at isHandler
          rw [Function.update_of_ne there] at isOther
          cases isHandler
          exact absurd (used k _ isOther) (Nat.lt_irrefl _)
      · rw [Function.update_of_ne here] at isHandler
        by_cases there : k = i
        · rw [there, Function.update_self] at isOther
          cases isOther
          exact absurd (used j _ isHandler) (Nat.lt_irrefl _)
        · rw [Function.update_of_ne there] at isOther
          exact sound.distinct j k handler isHandler isOther
  next => exact sound

theorem handlePacket (sound : this.Sound place) (i : Nat) (memberList : List Nat) :
    (this.handlePacket i memberList).Sound place := by
  rw [System.handlePacket]
  split
  next connection found =>
    split
    next packet session took =>
      split
      next same =>
        have carries := sound.connections i connection found
        have members := List.isPerm_iff.mp same
        have taken := carries.session.take took
        rcases Session.take_cases took with ⟨packets, idle, first, rfl⟩
        have pending : Connection.pending
            ⟨{ connection.session with packets, current := some packet }, memberList, []⟩ =
              connection.pending := by
          rw [Connection.pending, Connection.pending, idle, first]
          rfl
        apply sound.setConnection found
        case carries =>
          constructor
          case session => exact taken
          case few => exact carries.few
          case distinct =>
            rw [pending]
            exact carries.distinct
          case placed =>
            rw [pending]
            exact carries.placed
          case unsent =>
            intro other isPacket
            exact carries.unsent other (first ▸ List.mem_cons_of_mem _ isPacket)
          case handles =>
            intro current isCurrent
            cases isCurrent
            constructor
            case distinct => exact members.nodup_iff.mpr sound.distinctMembers
            case unsent =>
              intro s _ sensor isSensor
              exact carries.unsent packet (first ▸ List.mem_cons_self) s sensor isSensor
            case awaits =>
              intro s sensor isSensor opened
              exact Or.inl (members.mem_iff.mpr (sound.members s sensor isSensor opened))
        case current =>
          intro current isCurrent
          rw [idle] at isCurrent
          cases isCurrent
        case listens => exact fun waits listens => ⟨listens.idle, listens.waiting⟩
      next => exact sound
    next => exact sound
  next => exact sound

theorem reply (sound : this.Sound place) (i : Nat) : (this.reply i).Sound place := by
  rw [System.reply]
  split
  next session found =>
    have carries := sound.connections i _ found
    have ages := Session.Ages.answer session true
    have had : ∀ packet, session.current = some packet → ∀ (s : Nat) (sensor : Sensor),
        this.sensors[s]? = some sensor → sensor.session.state = .opened →
          ∃ k : Nat, sensor.sends[k]? = some packet.request.call ∧
            k < sensor.session.answered := by
      intro packet isCurrent s sensor isSensor opened
      rcases (carries.handles packet isCurrent).awaits s sensor isSensor opened with
        impossible | ⟨k, isSent, impossible | had⟩
      · cases impossible
      · cases impossible
      · exact ⟨k, isSent, had⟩
    have pending : (Connection.pending ⟨session.answer true, [], []⟩).Sublist
        (Connection.pending ⟨session, [], []⟩) := by
      apply List.Sublist.map
      rw [Session.current_answer]
      exact (ages.packets.trans (List.sublist_append_right _ _) :)
    apply sound.setConnection found
    case carries =>
      constructor
      case session =>
        apply carries.session.answer true
        intro packet isCurrent s sensor isSensor opened
        rcases had packet isCurrent s sensor isSensor opened with ⟨k, isSent, before⟩
        exact sound.performed isSensor opened isSent before
      case few =>
        intro opened
        rw [ages.sent]
        exact Nat.le_trans (carries.few (ages.opened opened)) (Nat.succ_le_succ ages.answered)
      case distinct => exact carries.distinct.sublist (pending.map _)
      case placed => exact fun action isPending => carries.placed action (pending.subset isPending)
      case unsent =>
        exact fun packet isPacket => carries.unsent packet (ages.packets.subset isPacket)
      case handles =>
        intro packet isCurrent
        rw [Session.current_answer] at isCurrent
        cases isCurrent
    case current =>
      intro packet isCurrent
      right
      intro s sensor isSensor opened k isSent
      rcases had packet isCurrent s sensor isSensor opened with ⟨k', isSent', before⟩
      rw [sound.only_once isSensor isSent isSent']
      exact before
    case listens =>
      intro waits listens
      rw [Session.answer]
      split
      · exact listens
      · exact ⟨listens.idle, listens.waiting⟩
  next => exact sound

/-- A thread goes on from a request that is final. -/
theorem await (sound : this.Sound place) (i : Nat) : (this.await i).Sound place := by
  rw [System.await]
  split
  next session s k lr found =>
    split
    next sensor isSensor =>
      split
      next final =>
        have explained := sound.sensors s sensor isSensor
        have ages := Session.Ages.fetch sensor.session k
        have fetched := sound.setSensor { sensor with session := sensor.session.fetch k } isSensor
          ages (List.Subset.refl _) (explained.ages ages (explained.session.fetch final))
          sound.distinctMembers fun t isMember => Or.inl isMember
        have carries := fetched.connections i _ found
        apply fetched.setConnection found
        case carries =>
          refine { carries with handles := ?_ }
          intro packet isCurrent
          have handles := carries.handles packet isCurrent
          refine ⟨handles.distinct, handles.unsent, ?_⟩
          intro t other isOther opened
          rcases handles.awaits t other isOther opened with impossible | ⟨j, isSent, waits | had⟩
          · cases impossible
          · rcases List.mem_cons.mp waits with here | later
            · cases here
              rcases of_set isOther with ⟨-, rfl⟩ | ⟨elsewhere, -⟩
              · exact Or.inr ⟨k, isSent, Or.inr (explained.session.final opened final)⟩
              · exact absurd rfl elsewhere
            · exact Or.inr ⟨j, isSent, Or.inl later⟩
          · exact Or.inr ⟨j, isSent, Or.inr had⟩
        case current => exact fun packet isCurrent => Or.inl isCurrent
        case listens => exact fun waits listens => listens
      next => exact sound
    next => exact sound
  next => exact sound

theorem perform (sound : this.Sound place) (s : Nat) : (this.perform s).Sound place := by
  rw [System.perform]
  split
  next sensor isSensor =>
    have explained := (sound.sensors s sensor isSensor).handlePacket
    rcases sensor.ages_handlePacket with ⟨ages, calls⟩
    exact sound.setSensor sensor.handlePacket isSensor ages calls explained sound.distinctMembers
      fun t isMember => Or.inl isMember
  next => exact sound

theorem stepSensor (sound : this.Sound place) (few : this.connections.length ≤ 2 ^ 32) {s : Nat}
    {event : Session.Event} (ran : this.stepSensor s event = .ok after) : after.Sound place := by
  rw [System.stepSensor] at ran
  split at ran
  next sensor isSensor =>
    rcases Result.bind_eq_ok.mp ran with ⟨session, stepped, ran⟩
    cases ran
    have explained := sound.sensors s sensor isSensor
    have ages := Session.Ages.step stepped
    have carries := explained.session.step
      (fun opened => Nat.le_trans (sound.waiting_le isSensor opened) (Nat.add_le_add_left few _))
      stepped
    apply sound.setSensor { sensor with session } isSensor ages (List.Subset.refl _)
      (explained.ages ages carries)
    case distinct =>
      split
      · exact sound.distinctMembers.erase s
      · exact sound.distinctMembers
    case kept =>
      intro t isMember
      split
      next closed =>
        by_cases here : t = s
        · right
          exact ⟨here, fun opened => nomatch opened.symm.trans closed⟩
        · left
          exact (List.mem_erase_of_ne here).mpr isMember
      next => exact Or.inl isMember
  next =>
    cases ran
    exact sound

theorem stepConnection (sound : this.Sound place) {i : Nat} {event : Session.Event}
    (ran : this.stepConnection i event = .ok after) : after.Sound place := by
  rw [System.stepConnection] at ran
  split at ran
  next connection found =>
    rcases Result.bind_eq_ok.mp ran with ⟨session, stepped, ran⟩
    cases ran
    have carries := sound.connections i connection found
    have ages := Session.Ages.step stepped
    have current := Session.current_step stepped
    have explained := carries.session.step (fun opened => Nat.le_trans (carries.few opened)
      (Nat.add_le_add_left (by decide) _)) stepped
    have pending : (Connection.pending { connection with session }).Sublist connection.pending := by
      apply List.Sublist.map
      dsimp only
      rw [current]
      exact (List.Sublist.refl _).append ages.packets
    apply sound.setConnection found
    case carries =>
      constructor
      case session => exact explained
      case few =>
        intro opened
        rw [ages.sent]
        exact Nat.le_trans (carries.few (ages.opened opened)) (Nat.succ_le_succ ages.answered)
      case distinct => exact carries.distinct.sublist (pending.map _)
      case placed => exact fun action isPending => carries.placed action (pending.subset isPending)
      case unsent =>
        exact fun packet isPacket => carries.unsent packet (ages.packets.subset isPacket)
      case handles =>
        intro packet isCurrent
        have handles := carries.handles packet (current.symm.trans isCurrent)
        exact ⟨handles.distinct, handles.unsent, handles.awaits⟩
    case current => exact fun packet isCurrent => Or.inl (current.trans isCurrent)
    case listens =>
      intro waits listens
      refine ⟨?_, ?_⟩
      · intro idle opened
        have all := listens.idle idle (ages.opened opened)
        apply Nat.le_antisymm (explained.carries opened).within
        rw [ages.sent, ← all]
        exact ages.answered
      · rw [ages.sent]
        exact listens.waiting
  next =>
    cases ran
    exact sound

theorem send (sound : this.Sound place) {i : Nat} {accepted : Bool}
    (ran : this.send i accepted = .ok after) : after.Sound place := by
  rw [System.send] at ran
  split at ran
  next session s memberList lr found =>
    split at ran
    next packet sensor isCurrent isSensor =>
      rcases Result.bind_eq_ok.mp ran with ⟨⟨channel, number⟩, isSent, ran⟩
      have carries := sound.connections i _ found
      have explained := sound.sensors s sensor isSensor
      have sends := explained.session.sends isSent
      have new : packet.request.call ∉ sensor.sends :=
        (carries.handles packet isCurrent).unsent s List.mem_cons_self sensor isSensor
      have later := explained.sendRequest isSent new (carries.placed_current isCurrent).2
      have more : channel.sent.map Action.call = sensor.sends ∨
          channel.sent.map Action.call = sensor.sends ++ [packet.request.call] := by
        rcases sends.sent with same | more
        · rw [same]
          exact Or.inl rfl
        · rw [more, List.map_append]
          exact Or.inr rfl
      cases number with
      | some k =>
          cases ran
          apply sound.sendTo found isCurrent isSensor later (.of_sends sends) sends.answered more
            sound.distinctMembers (fun t isMember => Or.inl isMember)
          case waitsFor =>
            intro opened
            rcases sends.opened opened with ⟨-, number, more⟩
            cases number
            refine ⟨_, ?_, List.mem_append_right _ List.mem_cons_self⟩
            rw [Sensor.sends, more, List.getElem?_map, List.getElem?_concat_length]
            rfl
          case more => exact List.subset_append_left _ _
      | none =>
          cases ran
          rcases sends.closed rfl with ⟨closed, -⟩
          have notOpened : channel.state ≠ .opened := by
            rw [closed]
            intro impossible
            cases impossible
          apply sound.sendTo found isCurrent isSensor later (.of_sends sends) sends.answered more
            (sound.distinctMembers.erase s)
          case kept =>
            intro t isMember
            by_cases here : t = s
            · exact Or.inr ⟨here, notOpened⟩
            · exact Or.inl ((List.mem_erase_of_ne here).mpr isMember)
          case waitsFor => exact fun opened => absurd opened notOpened
          case more => exact List.Subset.refl _
    next =>
      cases ran
      exact sound
  next =>
    cases ran
    exact sound

/-- The exception leaves the client without a connection. -/
theorem raise (sound : this.Sound place) {i handler : Nat} {connection : Connection}
    {session : Session Action Bool} (found : this.connections[handler]? = some connection)
    (isHandler : (this.clients i).clientHandler = some handler)
    (explained : session.Sound fun action => this.Reached action.call)
    (current : session.current = connection.session.current)
    (packets : session.packets = connection.session.packets) :
    (this.raise i handler { connection with session }).Sound place := by
  have carries := sound.connections handler connection found
  have pending : Connection.pending { connection with session := session.delete } =
      connection.pending := by
    rw [Connection.pending, Connection.pending, ← current, ← packets]
    rfl
  apply sound.setClient found isHandler
  case carries =>
    constructor
    case session => exact explained.delete
    case few =>
      intro impossible
      cases impossible
    case distinct =>
      rw [pending]
      exact carries.distinct
    case placed =>
      rw [pending]
      exact carries.placed
    case unsent => exact fun packet isPacket => carries.unsent packet (packets ▸ isPacket)
    case handles =>
      intro packet isCurrent
      have handles := carries.handles packet (current.symm.trans isCurrent)
      exact ⟨handles.distinct, handles.unsent, handles.awaits⟩
  case current => exact current
  case same =>
    intro other impossible
    cases impossible
  case listens =>
    intro impossible
    cases impossible

theorem action (sound : this.Sound place) {i : Nat} {payload : List UInt8} {accepted : Bool}
    (ran : this.action i payload accepted = .ok after) : ∃ place, after.Sound place := by
  rw [System.action] at ran
  split at ran
  next handler isClient =>
    split at ran
    next connection found =>
      rcases Result.bind_eq_ok.mp ran with ⟨⟨session, number⟩, isSent, ran⟩
      have isHandler : (this.clients i).clientHandler = some handler := by rw [isClient]
      have old : ∀ op, Seen.call this.calls op ∉ this.history :=
        fun op old => Nat.lt_irrefl _ (sound.made _ op old)
      have called : Sound { this with
          calls := this.calls + 1, history := this.history ++ [.call this.calls payload] }
          (Function.update place this.calls handler) := by
        apply (sound.assign handler).see (Nat.le_succ this.calls)
        case made =>
          intro id op isCall
          cases isCall
          exact Nat.lt_succ_self _
        case goesOn => exact fun s sensor _ _ linearizes => linearizes.call old payload
      have carries := called.connections handler connection found
      refine ⟨Function.update place this.calls handler, ?_⟩
      cases number with
      | none =>
          cases ran
          have sends := carries.session.sends isSent
          exact called.raise found isHandler (carries.session.sendRequest isSent) sends.current
            (sends.closed rfl).2
      | some k =>
          cases ran
          have sends := carries.session.sends isSent
          have opened := Session.opened_of_sendRequest isSent
          have number := (sends.opened opened).2.1
          have listens := sound.listens_of found isHandler
          apply called.setClient found isHandler
          case carries =>
            apply carries_call carries isSent
            case idle => exact listens.idle (by rw [isClient])
            case here => exact Function.update_self _ _ _
            case made => exact List.mem_append_right _ List.mem_cons_self
            case new =>
              intro again
              rcases List.mem_map.mp again with ⟨action, isPending, same⟩
              have mine := sound.connections handler connection found
              have before := (mine.placed action isPending).2
              rw [same] at before
              exact old _ before
            case unsent =>
              intro s sensor isSensor again
              rcases (sound.sensors s sensor isSensor).made _ again with ⟨op, before⟩
              exact old op before
          case current => exact sends.current
          case same => exact fun other isOther => (Option.some.inj isOther).symm
          case listens =>
            intro _
            refine ⟨nofun, ?_⟩
            intro call k' waits
            cases waits
            rw [Option.some.inj number, (sends.opened opened).2.2, List.getElem?_concat_length,
              List.length_append]
            exact ⟨rfl, rfl⟩
    next =>
      cases ran
      exact ⟨place, sound⟩
  next =>
    cases ran
    exact ⟨place, sound⟩

/-- `waitFuture` returns to a client, with a result only if each open channel has performed
the action. -/
theorem finish (sound : this.Sound place) (i : Nat) : (this.finish i).Sound place := by
  rw [System.finish]
  split
  next handler call k isClient =>
    split
    next connection found =>
      split
      next final =>
        have isHandler : (this.clients i).clientHandler = some handler := by rw [isClient]
        have carries := sound.connections handler connection found
        split
        next => exact sound.raise found isHandler carries.session rfl rfl
        next reply replies result =>
          have listens := sound.listens_of found isHandler
          rcases listens.waiting call k (by rw [isClient]) with ⟨isSent, last⟩
          have served : this.Reached call := by
            have nonempty : connection.session.result k ≠ [] := by
              rw [result]
              exact List.cons_ne_nil _ _
            rcases carries.session.result nonempty with ⟨request, isRequest, reached⟩
            rw [isRequest, Option.map_some, Option.some_inj] at isSent
            rw [← isSent]
            exact reached
          have fetched : Sound ((this.setConnection handler
              { connection with session := connection.session.fetch k }).setClient i
                ⟨some handler, none⟩) place := by
            apply sound.setClient found isHandler
            case carries =>
              refine ⟨carries.session.fetch final, carries.few, carries.distinct, carries.placed,
                carries.unsent, ?_⟩
              intro packet isCurrent
              have handles := carries.handles packet isCurrent
              exact ⟨handles.distinct, handles.unsent, handles.awaits⟩
            case current => rfl
            case same => exact fun other isOther => (Option.some.inj isOther).symm
            case listens =>
              intro _
              refine ⟨?_, nofun⟩
              intro _ opened
              apply Nat.le_antisymm (carries.session.carries opened).within
              have had := carries.session.final opened final
              rw [← last]
              exact had
          apply fetched.see (Nat.le_refl _)
          case made =>
            intro id op impossible
            cases impossible
          case goesOn =>
            intro s sensor isSensor opened linearizes
            have performed := served s sensor isSensor opened
            rcases List.mem_map.mp performed with ⟨⟨id, op, ret⟩, isServed, rfl⟩
            exact linearizes.answer isServed
      next => exact sound
    next => exact sound
  next => exact sound

theorem step (sound : this.Sound place) (few : this.connections.length ≤ 2 ^ 32) {event : Event}
    (ran : this.step event = .ok after) : ∃ place, after.Sound place := by
  cases event with
  | bind client =>
      cases ran
      exact ⟨place, sound.bind client⟩
  | action client payload accepted => exact sound.action ran
  | finish client =>
      cases ran
      exact ⟨place, sound.finish client⟩
  | handlePacket connection memberList =>
      cases ran
      exact ⟨place, sound.handlePacket connection memberList⟩
  | send connection accepted => exact ⟨place, sound.send ran⟩
  | await connection =>
      cases ran
      exact ⟨place, sound.await connection⟩
  | reply connection =>
      cases ran
      exact ⟨place, sound.reply connection⟩
  | perform sensor =>
      cases ran
      exact ⟨place, sound.perform sensor⟩
  | connection connection event => exact ⟨place, sound.stepConnection ran⟩
  | sensor sensor event => exact ⟨place, sound.stepSensor few ran⟩

end Sound

/-! ## Runs -/

@[simp]
theorem length_setConnection (this : System) (i : Nat) (connection : Connection) :
    (this.setConnection i connection).connections.length = this.connections.length :=
  List.length_set

@[simp]
theorem connections_setClient (this : System) (i : Nat) (client : Client) :
    (this.setClient i client).connections = this.connections :=
  rfl

@[simp]
theorem connections_setSensor (this : System) (s : Nat) (sensor : Sensor) :
    (this.setSensor s sensor).connections = this.connections :=
  rfl

@[simp]
theorem length_raise (this : System) (i handler : Nat) (connection : Connection) :
    (this.raise i handler connection).connections.length = this.connections.length :=
  List.length_set

/-- Only a new connection of a client is one more. -/
theorem length_step {event : Event} (ran : this.step event = .ok after) :
    after.connections.length ≤ this.connections.length + if event.isBind then 1 else 0 := by
  cases event with
  | bind client =>
      cases ran
      rw [System.bind]
      split
      next => exact Nat.le_of_eq List.length_append
      next => exact Nat.le_succ _
  | action client payload accepted =>
      simp only [System.step, System.action] at ran
      split at ran
      next =>
        split at ran
        next =>
          rcases Result.bind_eq_ok.mp ran with ⟨⟨session, number⟩, -, ran⟩
          cases number with
          | some k =>
              cases ran
              simp
          | none =>
              cases ran
              simp
        next =>
          cases ran
          simp
      next =>
        cases ran
        simp
  | finish client =>
      cases ran
      rw [System.finish]
      repeat' split
      all_goals simp
  | handlePacket connection memberList =>
      cases ran
      rw [System.handlePacket]
      repeat' split
      all_goals simp
  | send connection accepted =>
      simp only [System.step, System.send] at ran
      split at ran
      next =>
        split at ran
        next =>
          rcases Result.bind_eq_ok.mp ran with ⟨⟨channel, number⟩, -, ran⟩
          cases number with
          | some k =>
              cases ran
              simp
          | none =>
              cases ran
              simp
        next =>
          cases ran
          simp
      next =>
        cases ran
        simp
  | await connection =>
      cases ran
      rw [System.await]
      repeat' split
      all_goals simp
  | reply connection =>
      cases ran
      rw [System.reply]
      repeat' split
      all_goals simp
  | perform sensor =>
      cases ran
      rw [System.perform]
      repeat' split
      all_goals simp
  | connection connection event =>
      simp only [System.step, System.stepConnection] at ran
      split at ran
      next =>
        rcases Result.bind_eq_ok.mp ran with ⟨session, -, ran⟩
        cases ran
        simp
      next =>
        cases ran
        simp
  | sensor sensor event =>
      simp only [System.step, System.stepSensor] at ran
      split at ran
      next =>
        rcases Result.bind_eq_ok.mp ran with ⟨session, -, ran⟩
        cases ran
        simp
      next =>
        cases ran
        simp

theorem Sound.run (sound : this.Sound place) {events : List Event}
    (bounded : this.connections.length + events.countP Event.isBind ≤ 2 ^ 32)
    (ran : this.run events = .ok after) : ∃ place, after.Sound place := by
  induction events generalizing this place with
  | nil =>
      cases ran
      exact ⟨place, sound⟩
  | cons event rest inductionHypothesis =>
      rw [System.run, List.foldlM_cons] at ran
      rcases Result.bind_eq_ok.mp ran with ⟨next, stepped, ran⟩
      rw [List.countP_cons] at bounded
      have grows := length_step stepped
      rcases sound.step (Nat.le_trans (Nat.le_add_right _ _) bounded) stepped with ⟨place, sound⟩
      apply inductionHypothesis sound _ ran
      omega

theorem Sound.start {connected : List Bool} {start : System} (opened : open_i connected = .ok start)
    (place : Nat → Nat) : start.Sound place ∧ start.connections = [] := by
  rw [open_i] at opened
  rcases Result.bind_eq_ok.mp opened with ⟨sensors, made, opened⟩
  cases opened
  have new : ∀ sensor ∈ sensors, sensor = ⟨Session.start, []⟩ := by
    apply Result.forall_of_mapM (fun sensor => sensor = ⟨Session.start, []⟩) _ made
    intro made sensor connects
    split at connects
    next => exact (Except.ok.inj connects).symm
    next => cases connects
  refine ⟨?_, rfl⟩
  constructor
  case made =>
    intro id payload impossible
    cases impossible
  case members =>
    intro s sensor isSensor _
    exact List.mem_range.mpr (List.getElem?_eq_some_iff.mp isSensor).1
  case distinctMembers => exact List.nodup_range
  case sensors =>
    intro s sensor isSensor
    rw [new sensor (List.mem_of_getElem? isSensor)]
    exact Sensor.Sound.new [] rfl
  case connections =>
    intro i connection impossible
    cases impossible
  case owned =>
    intro s sensor isSensor _ k call _ impossible
    rw [new sensor (List.mem_of_getElem? isSensor)] at impossible
    cases impossible
  case clients =>
    intro j handler impossible
    cases impossible
  case distinct =>
    intro i j handler impossible
    cases impossible

/-- In every run each sensor performs the actions of the clients one after another as they
are seen to be made, as long as its channel is open; an action that a client has the reply
of was performed by all sensors whose channels are open then.  Where the channel has closed,
this holds up to what the clients had seen at some time before. -/
theorem actions_reach_sensors (connected : List Bool) (events : List Event) {start after : System}
    (opened : open_i connected = .ok start) (ran : start.run events = .ok after)
    (bounded : events.countP Event.isBind ≤ 2 ^ 32) :
    ∀ (s : Nat) (sensor : Sensor), after.sensors[s]? = some sensor →
      ∃ seen, seen <+: after.history ∧ (sensor.session.state = .opened → seen = after.history) ∧
        Linearizes log [] seen sensor.performed (sensor.performed.map Served.op) := by
  rcases Sound.start opened fun _ => 0 with ⟨sound, none⟩
  have few : start.connections.length + events.countP Event.isBind ≤ 2 ^ 32 := by
    rw [none]
    exact Nat.le_trans (Nat.le_of_eq (Nat.zero_add _)) bounded
  rcases sound.run few ran with ⟨place, sound⟩
  intro s sensor isSensor
  rcases (sound.sensors s sensor isSensor).seen with ⟨seen, upTo, whole, linearizes, -⟩
  exact ⟨seen, upTo, whole, linearizes⟩

/-- Two threads send to the sensors in different orders. -/
def crossing : List Event :=
  [.bind 0, .bind 1, .action 0 [1] true, .action 1 [2] true, .handlePacket 0 [0, 1],
    .handlePacket 1 [1, 0], .send 0 true, .send 1 true, .send 0 true, .send 1 true, .perform 0,
    .perform 0, .perform 1, .perform 1, .sensor 0 .receive, .sensor 0 .receive,
    .sensor 1 .receive, .sensor 1 .receive, .await 0, .await 0, .reply 0, .await 1, .await 1,
    .reply 1, .connection 0 .receive, .connection 1 .receive, .finish 0, .finish 1]

theorem actions_reach_sensors_crossing :
    ∃ start after, open_i [true, true] = .ok start ∧ start.run crossing = .ok after ∧
      ∀ (s : Nat) (sensor : Sensor), after.sensors[s]? = some sensor →
        ∃ seen, seen <+: after.history ∧
          (sensor.session.state = .opened → seen = after.history) ∧
          Linearizes log [] seen sensor.performed (sensor.performed.map Served.op) :=
  ⟨_, _, rfl, rfl, actions_reach_sensors [true, true] crossing rfl rfl (by decide)⟩

/-- The sensors need not perform actions of different clients in one order. -/
example : ((open_i [true, true] >>= fun start => start.run crossing).toOption.map fun after =>
    after.sensors.map fun sensor => sensor.performed.map Served.op) =
      some [[[1], [2]], [[2], [1]]] := by
  decide

/-- A sensor closes its end before it performs an action, and the client has the reply. -/
example : ((open_i [true, true] >>= fun start => start.run
    [.bind 0, .action 0 [1] true, .handlePacket 0 [0, 1], .send 0 true, .send 0 true, .perform 0,
      .sensor 0 .receive, .sensor 1 .closePeer, .sensor 1 .close, .await 0, .await 0, .reply 0,
      .connection 0 .receive, .finish 0]).toOption.map fun after =>
        (after.history, after.sensors.map fun sensor => sensor.performed.map Served.op)) =
      some ([.call 0 [1], .answer 0 ()], [[[1]], []]) := by
  decide

end System

end Stheno.Actuation
