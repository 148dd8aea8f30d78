import Stheno.Events.Classes

/-!
# What a call does to an event

A call sets the state of an event, gives it another listener, or leaves both alone, whatever
the class of the object.  Which of these it does can be read off the call and the object
before it, and so can the listener that is told a final state.
-/

namespace Stheno.Events

variable {LISTENER RESULT : Type}

/-- The listeners that are told a final state, in order. -/
def told (notices : List (Notice LISTENER)) : List LISTENER :=
  (notices.filter fun notice => isFinal notice.newState).map Notice.listener

/-! ## Actions -/

inductive Action (LISTENER : Type) where
  | keep
  | change (newState : Int)
  | listen (listener : Option LISTENER)

namespace Event

def act (this : Event LISTENER) : Action LISTENER → Event LISTENER
  | .keep => this
  | .change newState => { this with state := newState }
  | .listen listener => { this with listener }

/-- The listener that an action tells a final state. -/
def tells (this : Event LISTENER) : Action LISTENER → Option LISTENER
  | .keep => none
  | .change newState => if isFinal newState then this.listener else none
  | .listen listener => if isFinal this.state then listener else none

end Event

namespace EventObject

/-- The result completes the future: the list of results is there and has as many as
expected. -/
def completedBy (this : EventFuture LISTENER RESULT) : Bool :=
  this.result.any fun results => this.expectedSize ≤ results.length + 1

/-- The state or the listener that a call sets. -/
def action (this : EventObject LISTENER RESULT) (call : Call LISTENER RESULT) : Action LISTENER :=
  match call, this with
  | .stateChanged newState, _ => .change newState
  | .resetState newState, _ => .change newState
  | .setListener listener, _ => .listen listener
  | .removeListener, _ => .listen none
  | .cancel, _ => .change ES_CANCEL
  | .handle_close, _ => .change ES_CANCEL
  | .timeout, _ => .change ES_TIMEOUT
  | .handle_timeout, _ => .change ES_TIMEOUT
  | .setFuture _, .future _ this => if completedBy this then .change ES_SUCCESS else .keep
  | .setFuture _, .requestGroup this =>
      if completedBy this.toEventFuture then .change ES_SUCCESS else .keep
  | .waitFuture, .requestGroup this => if this.isAllEventFinal then .change ES_SUCCESS else .keep
  | .awake timedOut, .future _ this =>
      if this.waiting ≠ 0 ∧ timedOut then .change ES_TIMEOUT else .keep
  | .awake timedOut, .requestGroup this =>
      if this.waiting ≠ 0 ∧ timedOut then .change ES_TIMEOUT else .keep
  | .close, .future .channelRequest _ => .change ES_CANCEL
  | .close, .requestGroup _ => .change ES_CANCEL
  | .destroy, .future .request _ => .change ES_CANCEL
  | .onEvent final, .requestGroup this =>
      if this.expectedSize = this.finishedRequests + final.toNat then .change ES_SUCCESS else .keep
  | _, _ => .keep

end EventObject

/-- An effect leaves the event as an action does and tells the listener that this tells. -/
structure Acts {OBJECT : Type} (core : OBJECT → Event LISTENER) (this : Event LISTENER)
    (action : Action LISTENER) (effect : Effect LISTENER OBJECT) : Prop where
  core : core effect.object = this.act action
  told : told effect.notices = (this.tells action).toList

namespace Acts

variable {OBJECT OTHER : Type} {core : OBJECT → Event LISTENER} {this : Event LISTENER}
  {action : Action LISTENER}

theorem keep {object : OBJECT} (same : core object = this) :
    Acts core this .keep (Effect.keep object) :=
  ⟨same, rfl⟩

theorem map {effect : Effect LISTENER OBJECT} (acts : Acts core this action effect)
    {f : OBJECT → OTHER} {other : OTHER → Event LISTENER}
    (same : ∀ object, other (f object) = core object) : Acts other this action (effect.map f) :=
  ⟨(same effect.object).trans acts.core, acts.told⟩

end Acts

theorem told_fireEventChange (this : Event LISTENER) (oldState newState : Int) :
    told (this.fireEventChange oldState newState) =
      (if isFinal newState then this.listener else none).toList := by
  unfold told Event.fireEventChange
  cases this.listener with
  | none =>
      cases isFinal newState with
      | true => rfl
      | false => rfl
  | some listener =>
      dsimp only
      by_cases final : isFinal newState = true
      · rw [if_pos final]
        exact congrArg (List.map Notice.listener) (List.filter_cons_of_pos final)
      · rw [if_neg final]
        exact congrArg (List.map Notice.listener) (List.filter_cons_of_neg final)

namespace Event

theorem acts_stateChanged_i (this : Event LISTENER) (newState : Int) :
    Acts id this (.change newState) (this.stateChanged_i newState) :=
  ⟨rfl, told_fireEventChange _ _ _⟩

theorem acts_setListener (this : Event LISTENER) (listener : Option LISTENER) :
    Acts id this (.listen listener) (this.setListener listener) := by
  constructor
  · rfl
  · have fired : told ({ this with listener }.fireEventChange this.state this.state) =
        (if isFinal this.state then listener else none).toList := told_fireEventChange _ _ _
    unfold setListener isStateFinal tells
    dsimp only
    by_cases final : isFinal this.state = true
    · rw [if_pos final]
      exact fired
    · rw [if_neg final, if_neg final]
      rfl

theorem acts_removeListener (this : Event LISTENER) :
    Acts id this (.listen none) this.removeListener := by
  constructor
  · rfl
  · unfold tells
    dsimp only
    rw [ite_self]
    rfl

end Event

namespace EventFuture

theorem acts_stateChanged_i (this : EventFuture LISTENER RESULT) (newState : Int) :
    Acts EventFuture.toEvent this.toEvent (.change newState) (this.stateChanged_i newState) :=
  (this.toEvent.acts_stateChanged_i newState).map fun _ => rfl

theorem acts_setFuture (this : EventFuture LISTENER RESULT) (result : RESULT) :
    Acts EventFuture.toEvent this.toEvent
      (if EventObject.completedBy this then .change ES_SUCCESS else .keep)
      (this.setFuture result) := by
  unfold setFuture EventObject.completedBy
  cases this.result with
  | none => exact Acts.keep rfl
  | some results =>
      simp only [Option.any_some, decide_eq_true_eq, List.length_append, List.length_singleton]
      by_cases complete : this.expectedSize ≤ results.length + 1
      · rw [if_pos complete, if_pos complete]
        exact acts_stateChanged_i { this with result := some (results ++ [result]) } ES_SUCCESS
      · rw [if_neg complete, if_neg complete]
        exact Acts.keep rfl

theorem acts_waitFuture (this : EventFuture LISTENER RESULT) :
    Acts EventFuture.toEvent this.toEvent .keep this.waitFuture := by
  unfold waitFuture
  split
  · exact Acts.keep rfl
  · exact Acts.keep rfl

theorem acts_awake (this : EventFuture LISTENER RESULT) (timedOut : Bool) :
    Acts EventFuture.toEvent this.toEvent
      (if this.waiting ≠ 0 ∧ timedOut then .change ES_TIMEOUT else .keep)
      (this.awake timedOut) := by
  unfold awake
  by_cases nobody : this.waiting = 0
  · rw [if_pos nobody, if_neg fun both => both.1 nobody]
    exact Acts.keep rfl
  · rw [if_neg nobody]
    cases timedOut with
    | true =>
        rw [if_pos ⟨nobody, rfl⟩, if_pos rfl]
        exact (acts_stateChanged_i { this with waiting := this.waiting - 1 } ES_TIMEOUT).map
          fun _ => rfl
    | false =>
        rw [if_neg fun both => Bool.false_ne_true both.2, if_neg Bool.false_ne_true]
        split
        · exact Acts.keep rfl
        · exact Acts.keep rfl

end EventFuture

namespace RequestGroup

variable {REQUEST : Type}

/-- The members of the base class. -/
def base (this : RequestGroup LISTENER REQUEST) : Event LISTENER :=
  this.toEvent

theorem acts_stateChanged_i (this : RequestGroup LISTENER REQUEST) (newState : Int) :
    Acts base this.base (.change newState) (this.stateChanged_i newState) :=
  (this.toEventFuture.acts_stateChanged_i newState).map fun _ => rfl

theorem acts_setFuture (this : RequestGroup LISTENER REQUEST) (request : REQUEST) :
    Acts base this.base
      (if EventObject.completedBy this.toEventFuture then .change ES_SUCCESS else .keep)
      (this.setFuture request) :=
  (this.toEventFuture.acts_setFuture request).map fun _ => rfl

theorem acts_addRequest (this : RequestGroup LISTENER REQUEST) (request : REQUEST) :
    Acts base this.base .keep (this.addRequest request) := by
  unfold addRequest
  split
  · exact Acts.keep rfl
  · exact Acts.keep rfl

theorem acts_detach (this : RequestGroup LISTENER REQUEST) :
    Acts base this.base .keep this.detach := by
  unfold detach
  split
  · exact ⟨rfl, rfl⟩
  · exact Acts.keep rfl

theorem acts_thenDetach {this : Event LISTENER} {action : Action LISTENER}
    {effect : Effect LISTENER (RequestGroup LISTENER REQUEST)}
    (acts : Acts base this action effect) : Acts base this action (thenDetach effect) :=
  ⟨effect.object.acts_detach.core.trans acts.core, acts.told⟩

theorem acts_waitFuture (this : RequestGroup LISTENER REQUEST) :
    Acts base this.base (if this.isAllEventFinal then .change ES_SUCCESS else .keep)
      this.waitFuture := by
  unfold waitFuture
  by_cases all : this.isAllEventFinal = true
  · rw [if_pos all, if_pos all]
    exact acts_thenDetach (this.acts_stateChanged_i ES_SUCCESS)
  · rw [if_neg all, if_neg all]
    split
    · exact this.acts_detach
    · exact Acts.keep rfl

theorem acts_awake (this : RequestGroup LISTENER REQUEST) (timedOut : Bool) :
    Acts base this.base
      (if this.waiting ≠ 0 ∧ timedOut then .change ES_TIMEOUT else .keep)
      (this.awake timedOut) := by
  have changed := acts_stateChanged_i
    { this with waiting := this.waiting - 1 } ES_TIMEOUT
  have returned := acts_detach { this with waiting := this.waiting - 1 }
  unfold awake
  by_cases nobody : this.waiting = 0
  · rw [if_pos nobody, if_neg fun both => both.1 nobody]
    exact Acts.keep rfl
  · rw [if_neg nobody]
    cases timedOut with
    | true =>
        rw [if_pos ⟨nobody, rfl⟩, if_pos rfl]
        exact acts_thenDetach changed
    | false =>
        rw [if_neg fun both => Bool.false_ne_true both.2, if_neg Bool.false_ne_true]
        split
        · exact returned
        · exact Acts.keep rfl

theorem acts_open_ (this : RequestGroup LISTENER REQUEST) (final : Nat) :
    Acts base this.base .keep (this.open_ final) := by
  unfold open_
  split
  · exact Acts.keep rfl
  · split
    · exact ⟨rfl, rfl⟩
    · exact Acts.keep rfl

/-- A final request is counted before the counts are compared. -/
theorem acts_onEvent (this : RequestGroup LISTENER REQUEST) (final : Bool) :
    Acts base this.base
      (if this.expectedSize = this.finishedRequests + final.toNat then .change ES_SUCCESS
        else .keep)
      (this.onEvent final) := by
  have compared : ∀ counted : RequestGroup LISTENER REQUEST, counted.base = this.base →
      Acts base this.base
        (if counted.expectedSize = counted.finishedRequests then .change ES_SUCCESS else .keep)
        (if counted.isAllEventFinal then counted.stateChanged_i ES_SUCCESS else .keep counted) := by
    intro counted same
    unfold isAllEventFinal
    by_cases all : counted.expectedSize = counted.finishedRequests
    · rw [if_pos all, if_pos (beq_iff_eq.mpr all), ← same]
      exact counted.acts_stateChanged_i ES_SUCCESS
    · rw [if_neg all, if_neg fun equal => all (beq_iff_eq.mp equal)]
      exact Acts.keep same
  cases final with
  | true => exact compared { this with finishedRequests := this.finishedRequests + 1 } rfl
  | false => exact compared this rfl

end RequestGroup

namespace EventObject

/-- A method of the base class acts on every object as on an event. -/
theorem acts_onCore (this : EventObject LISTENER RESULT)
    {method : Event LISTENER → Effect LISTENER (Event LISTENER)} {action : Action LISTENER}
    (acts : ∀ event, Acts id event action (method event)) :
    Acts core this.core action (this.onCore method) := by
  cases this with
  | event this => exact (acts this).map fun _ => rfl
  | future cls this =>
      exact (acts this.toEvent).map
        (f := fun event => EventObject.future cls { this with toEvent := event }) fun _ => rfl
  | requestGroup this =>
      exact (acts this.toEvent).map
        (f := fun event => EventObject.requestGroup { this with toEvent := event }) fun _ => rfl

theorem acts_cancel (this : EventObject LISTENER RESULT) :
    Acts core this.core (.change ES_CANCEL) this.cancel :=
  this.acts_onCore fun event => event.acts_stateChanged_i ES_CANCEL

theorem acts_close (this : EventObject LISTENER RESULT) :
    Acts core this.core (this.action .close) this.close := by
  cases this with
  | event this => exact Acts.keep rfl
  | future cls this =>
      cases cls with
      | eventFuture => exact Acts.keep rfl
      | request => exact Acts.keep rfl
      | channelRequest => exact acts_cancel _
  | requestGroup this => exact acts_cancel _

theorem acts_destroy (this : EventObject LISTENER RESULT) :
    Acts core this.core (this.action .destroy) this.destroy := by
  cases this with
  | event this => exact Acts.keep rfl
  | future cls this =>
      cases cls with
      | eventFuture => exact Acts.keep rfl
      | request => exact acts_cancel _
      | channelRequest => exact Acts.keep rfl
  | requestGroup this => exact Acts.keep rfl

/-- The action of a method of futures and groups is that of the method of its class. -/
theorem acts_onFuture (this : EventObject LISTENER RESULT) (call : Call LISTENER RESULT)
    {method : EventFuture LISTENER RESULT → Effect LISTENER (EventFuture LISTENER RESULT)}
    {groupMethod : RequestGroup LISTENER RESULT → Effect LISTENER (RequestGroup LISTENER RESULT)}
    (ignored : ∀ event, (EventObject.event event).action call = .keep)
    (acts : ∀ cls future,
      Acts EventFuture.toEvent future.toEvent ((EventObject.future cls future).action call)
        (method future))
    (groupActs : ∀ group,
      Acts RequestGroup.base group.base ((EventObject.requestGroup group).action call)
        (groupMethod group)) :
    Acts core this.core (this.action call) (this.onFuture method groupMethod) := by
  cases this with
  | event this =>
      rw [ignored]
      exact Acts.keep rfl
  | future cls this => exact (acts cls this).map fun _ => rfl
  | requestGroup this => exact (groupActs this).map fun _ => rfl

/-- Every call acts as its action. -/
theorem acts_step (this : EventObject LISTENER RESULT) (call : Call LISTENER RESULT) :
    Acts core this.core (this.action call) (this.step call) := by
  cases call with
  | stateChanged newState => exact this.acts_onCore fun event => event.acts_stateChanged_i newState
  | resetState newState => exact this.acts_onCore fun event => event.acts_stateChanged_i newState
  | setListener listener => exact this.acts_onCore fun event => event.acts_setListener listener
  | removeListener => exact this.acts_onCore fun event => event.acts_removeListener
  | cancel => exact this.acts_cancel
  | timeout => exact this.acts_onCore fun event => event.acts_stateChanged_i ES_TIMEOUT
  | handle_timeout => exact this.acts_onCore fun event => event.acts_stateChanged_i ES_TIMEOUT
  | handle_close => exact this.acts_onCore fun event => event.acts_stateChanged_i ES_CANCEL
  | setFuture result =>
      exact this.acts_onFuture (.setFuture result) (fun _ => rfl) (fun _ future => future.acts_setFuture result)
        fun group => group.acts_setFuture result
  | waitFuture =>
      exact this.acts_onFuture .waitFuture (fun _ => rfl) (fun _ future => future.acts_waitFuture)
        fun group => group.acts_waitFuture
  | awake timedOut =>
      exact this.acts_onFuture (.awake timedOut) (fun _ => rfl) (fun _ future => future.acts_awake timedOut)
        fun group => group.acts_awake timedOut
  | detach =>
      exact this.acts_onFuture .detach (fun _ => rfl) (fun _ _ => Acts.keep rfl) fun group => group.acts_detach
  | close => exact this.acts_close
  | destroy => exact this.acts_destroy
  | addRequest request =>
      exact this.acts_onFuture (.addRequest request) (fun _ => rfl) (fun _ _ => Acts.keep rfl)
        fun group => group.acts_addRequest request
  | open_ final =>
      exact this.acts_onFuture (.open_ final) (fun _ => rfl) (fun _ _ => Acts.keep rfl)
        fun group => group.acts_open_ final
  | onEvent final =>
      exact this.acts_onFuture (.onEvent final) (fun _ => rfl) (fun _ _ => Acts.keep rfl)
        fun group => group.acts_onEvent final

end EventObject

end Stheno.Events
