import Stheno.Fault

/-!
# Events, futures and requests

An event has a state and a listener.  A future completes when it has as many results as it
expects, a request is cancelled when it is destroyed, and a group of requests completes
when as many of them are final as it has.  The methods run under the lock of the event, so
calls of any threads come one after another; a thread that waits for a future gives the
lock away between `waitFuture` and `awake`.
-/

namespace Stheno.Events

/-! ## `Event` -/

def ES_IDLE : Int := 0

def SS_ACTIVE : Int := 1

def ES_SUCCESS : Int := 2

def ES_ERROR : Int := 3

def ES_TIMEOUT : Int := 4

def ES_CANCEL : Int := 5

/-- The switch of `isStateFinal`. -/
def isFinal (state : Int) : Bool :=
  state == ES_ERROR || state == ES_SUCCESS || state == ES_TIMEOUT || state == ES_CANCEL

/-- A call of `onEvent`. -/
structure Notice (LISTENER : Type) where
  listener : LISTENER
  oldState : Int
  newState : Int
  deriving DecidableEq

/-- What a call leaves of an object, the listeners that it has called, and the fault at
which it ended. -/
structure Effect (LISTENER OBJECT : Type) where
  object : OBJECT
  notices : List (Notice LISTENER)
  fault : Option Fault

namespace Effect

variable {LISTENER OBJECT OTHER : Type}

/-- Nothing happens. -/
def keep (object : OBJECT) : Effect LISTENER OBJECT :=
  { object, notices := [], fault := none }

def map (f : OBJECT → OTHER) (this : Effect LISTENER OBJECT) : Effect LISTENER OTHER :=
  { object := f this.object, notices := this.notices, fault := this.fault }

end Effect

structure Event (LISTENER : Type) where
  state : Int
  listener : Option LISTENER
  deriving DecidableEq

namespace Event

variable {LISTENER : Type}

def isStateFinal (this : Event LISTENER) : Bool :=
  isFinal this.state

def fireEventChange (this : Event LISTENER) (oldState newState : Int) : List (Notice LISTENER) :=
  match this.listener with
  | some listener => [{ listener, oldState, newState }]
  | none => []

/-- The check of the old state is commented out. -/
def stateChanged_i (this : Event LISTENER) (newState : Int) : Effect LISTENER (Event LISTENER) :=
  let changed := { this with state := newState }
  { object := changed, notices := changed.fireEventChange this.state changed.state, fault := none }

def stateChanged (this : Event LISTENER) (newState : Int) : Effect LISTENER (Event LISTENER) :=
  this.stateChanged_i newState

def resetState (this : Event LISTENER) (newState : Int) : Effect LISTENER (Event LISTENER) :=
  this.stateChanged_i newState

/-- A listener that is set on a final event is told its state. -/
def setListener (this : Event LISTENER) (listener : Option LISTENER) :
    Effect LISTENER (Event LISTENER) :=
  let changed := { this with listener }
  { object := changed
    notices := if changed.isStateFinal then changed.fireEventChange changed.state changed.state
      else []
    fault := none }

def removeListener (this : Event LISTENER) : Effect LISTENER (Event LISTENER) :=
  .keep { this with listener := none }

def cancel (this : Event LISTENER) : Effect LISTENER (Event LISTENER) :=
  this.resetState ES_CANCEL

def timeout (this : Event LISTENER) : Effect LISTENER (Event LISTENER) :=
  this.resetState ES_TIMEOUT

def handle_timeout (this : Event LISTENER) : Effect LISTENER (Event LISTENER) :=
  this.timeout

def handle_close (this : Event LISTENER) : Effect LISTENER (Event LISTENER) :=
  this.cancel

end Event

/-! ## `EventFuture` -/

structure EventFuture (LISTENER RESULT : Type) extends Event LISTENER where
  /-- Null once it was detached. -/
  result : Option (List RESULT)
  expectedSize : Nat
  /-- The threads that wait for the state to become final. -/
  waiting : Nat

namespace EventFuture

variable {LISTENER RESULT : Type}

def stateChanged_i (this : EventFuture LISTENER RESULT) (newState : Int) :
    Effect LISTENER (EventFuture LISTENER RESULT) :=
  (this.toEvent.stateChanged_i newState).map fun event => { this with toEvent := event }

def detach (this : EventFuture LISTENER RESULT) : EventFuture LISTENER RESULT :=
  { this with result := none }

def setFuture (this : EventFuture LISTENER RESULT) (result : RESULT) :
    Effect LISTENER (EventFuture LISTENER RESULT) :=
  match this.result with
  | none => .keep this
  | some results =>
      let pushed := { this with result := some (results ++ [result]) }
      if this.expectedSize ≤ (results ++ [result]).length then
        pushed.stateChanged_i ES_SUCCESS
      else
        .keep pushed

/-- The first check of `waitFuture`; then the thread waits. -/
def waitFuture (this : EventFuture LISTENER RESULT) : Effect LISTENER (EventFuture LISTENER RESULT) :=
  if this.isStateFinal then
    .keep this.detach
  else
    .keep { this with waiting := this.waiting + 1 }

/-- A thread that has waited has the lock again: after the time-out it sets the state
whatever that is by now, and after a signal it returns or goes on waiting. -/
def awake (this : EventFuture LISTENER RESULT) (timedOut : Bool) :
    Effect LISTENER (EventFuture LISTENER RESULT) :=
  let returned := { this with waiting := this.waiting - 1 }
  if this.waiting = 0 then
    .keep this
  else if timedOut then
    (returned.stateChanged_i ES_TIMEOUT).map detach
  else if this.isStateFinal then
    .keep returned.detach
  else
    .keep this

end EventFuture

/-! ## `RequestGroup` -/

/-- The results of a group are its requests. -/
structure RequestGroup (LISTENER REQUEST : Type) extends EventFuture LISTENER REQUEST where
  finishedRequests : Nat
  opened : Bool

namespace RequestGroup

variable {LISTENER REQUEST : Type}

def stateChanged_i (this : RequestGroup LISTENER REQUEST) (newState : Int) :
    Effect LISTENER (RequestGroup LISTENER REQUEST) :=
  (this.toEventFuture.stateChanged_i newState).map fun future =>
    { this with toEventFuture := future }

def isAllEventFinal (this : RequestGroup LISTENER REQUEST) : Bool :=
  this.expectedSize == this.finishedRequests

def addRequest (this : RequestGroup LISTENER REQUEST) (request : REQUEST) :
    Effect LISTENER (RequestGroup LISTENER REQUEST) :=
  match this.result with
  | none => .keep this
  | some requests =>
      .keep { this with
        result := some (requests ++ [request])
        expectedSize := this.expectedSize + 1 }

/-- Each request is closed, through a pointer to their list that is not checked. -/
def detach (this : RequestGroup LISTENER REQUEST) : Effect LISTENER (RequestGroup LISTENER REQUEST) :=
  match this.result with
  | none => { object := this, notices := [], fault := some .nullDereference }
  | some _ => .keep { this with toEventFuture := this.toEventFuture.detach }

/-- What is left of a call that ends with `detach`. -/
def thenDetach (this : Effect LISTENER (RequestGroup LISTENER REQUEST)) :
    Effect LISTENER (RequestGroup LISTENER REQUEST) :=
  { this.object.detach with notices := this.notices }

def waitFuture (this : RequestGroup LISTENER REQUEST) :
    Effect LISTENER (RequestGroup LISTENER REQUEST) :=
  if this.isAllEventFinal then
    thenDetach (this.stateChanged_i ES_SUCCESS)
  else if this.isStateFinal then
    this.detach
  else
    .keep { this with waiting := this.waiting + 1 }

def awake (this : RequestGroup LISTENER REQUEST) (timedOut : Bool) :
    Effect LISTENER (RequestGroup LISTENER REQUEST) :=
  let returned := { this with waiting := this.waiting - 1 }
  if this.waiting = 0 then
    .keep this
  else if timedOut then
    thenDetach (returned.stateChanged_i ES_TIMEOUT)
  else if this.isStateFinal then
    returned.detach
  else
    .keep this

/-- `open`: so many of the requests are `final` already; the group becomes the listener of
the others. -/
def open_ (this : RequestGroup LISTENER REQUEST) (final : Nat) :
    Effect LISTENER (RequestGroup LISTENER REQUEST) :=
  if this.opened then
    .keep this
  else
    match this.result with
    | none => { object := { this with opened := true }, notices := [], fault := some .nullDereference }
    | some _ => .keep { this with opened := true, finishedRequests := this.finishedRequests + final }

/-- A request of the group has changed its state; a notice of the write block changes
nothing. -/
def onEvent (this : RequestGroup LISTENER REQUEST) (final : Bool) :
    Effect LISTENER (RequestGroup LISTENER REQUEST) :=
  let counted := if final then { this with finishedRequests := this.finishedRequests + 1 } else this
  if counted.isAllEventFinal then
    counted.stateChanged_i ES_SUCCESS
  else
    .keep counted

/-- Inherited from the future. -/
def setFuture (this : RequestGroup LISTENER REQUEST) (request : REQUEST) :
    Effect LISTENER (RequestGroup LISTENER REQUEST) :=
  (this.toEventFuture.setFuture request).map fun future => { this with toEventFuture := future }

end RequestGroup

/-! ## Any event -/

/-- The classes without data of their own beyond that of the future. -/
inductive FutureClass where
  | eventFuture
  | request
  | channelRequest
  deriving DecidableEq

inductive EventObject (LISTENER RESULT : Type) where
  | event (this : Event LISTENER)
  | future (cls : FutureClass) (this : EventFuture LISTENER RESULT)
  | requestGroup (this : RequestGroup LISTENER RESULT)

/-- The calls; a class without the method ignores a call. -/
inductive Call (LISTENER RESULT : Type) where
  | stateChanged (newState : Int)
  | resetState (newState : Int)
  | setListener (listener : Option LISTENER)
  | removeListener
  | cancel
  | timeout
  | handle_timeout
  | handle_close
  | setFuture (result : RESULT)
  | waitFuture
  | awake (timedOut : Bool)
  | detach
  | close
  /-- The destructor. -/
  | destroy
  | addRequest (request : RESULT)
  | open_ (final : Nat)
  | onEvent (final : Bool)

namespace EventObject

variable {LISTENER RESULT : Type}

/-- The members of the base class. -/
def core : EventObject LISTENER RESULT → Event LISTENER
  | .event this => this
  | .future _ this => this.toEvent
  | .requestGroup this => this.toEvent

/-- A call of a method of the base class. -/
def onCore (this : EventObject LISTENER RESULT) (method : Event LISTENER → Effect LISTENER (Event LISTENER)) :
    Effect LISTENER (EventObject LISTENER RESULT) :=
  match this with
  | .event this => (method this).map .event
  | .future cls this =>
      (method this.toEvent).map fun event => .future cls { this with toEvent := event }
  | .requestGroup this =>
      (method this.toEvent).map fun event => .requestGroup { this with toEvent := event }

/-- A call of a method that only futures and groups have. -/
def onFuture (this : EventObject LISTENER RESULT)
    (method : EventFuture LISTENER RESULT → Effect LISTENER (EventFuture LISTENER RESULT))
    (groupMethod : RequestGroup LISTENER RESULT → Effect LISTENER (RequestGroup LISTENER RESULT)) :
    Effect LISTENER (EventObject LISTENER RESULT) :=
  match this with
  | .event this => .keep (.event this)
  | .future cls this => (method this).map (.future cls)
  | .requestGroup this => (groupMethod this).map .requestGroup

/-- A call of a method that only groups have. -/
def onGroup (this : EventObject LISTENER RESULT)
    (method : RequestGroup LISTENER RESULT → Effect LISTENER (RequestGroup LISTENER RESULT)) :
    Effect LISTENER (EventObject LISTENER RESULT) :=
  this.onFuture Effect.keep method

/-- A request clears its entry in the engine and a group cancels its requests before the
event is cancelled. -/
def cancel (this : EventObject LISTENER RESULT) : Effect LISTENER (EventObject LISTENER RESULT) :=
  this.onCore Event.cancel

/-- `ChannelRequest` has this method, and groups inherit it. -/
def close (this : EventObject LISTENER RESULT) : Effect LISTENER (EventObject LISTENER RESULT) :=
  match this with
  | .future .channelRequest _ => this.cancel
  | .requestGroup _ => this.cancel
  | _ => .keep this

/-- Only the destructor of `Request` cancels the event itself. -/
def destroy (this : EventObject LISTENER RESULT) : Effect LISTENER (EventObject LISTENER RESULT) :=
  match this with
  | .future .request _ => this.cancel
  | _ => .keep this

def step (this : EventObject LISTENER RESULT) :
    Call LISTENER RESULT → Effect LISTENER (EventObject LISTENER RESULT)
  | .stateChanged newState => this.onCore fun event => event.stateChanged newState
  | .resetState newState => this.onCore fun event => event.resetState newState
  | .setListener listener => this.onCore fun event => event.setListener listener
  | .removeListener => this.onCore Event.removeListener
  | .cancel => this.cancel
  | .timeout => this.onCore Event.timeout
  | .handle_timeout => this.onCore Event.handle_timeout
  | .handle_close => this.onCore Event.handle_close
  | .setFuture result =>
      this.onFuture (fun future => future.setFuture result) fun group => group.setFuture result
  | .waitFuture => this.onFuture EventFuture.waitFuture RequestGroup.waitFuture
  | .awake timedOut =>
      this.onFuture (fun future => future.awake timedOut) fun group => group.awake timedOut
  | .detach => this.onFuture (fun future => .keep future.detach) RequestGroup.detach
  | .close => this.close
  | .destroy => this.destroy
  | .addRequest request => this.onGroup fun group => group.addRequest request
  | .open_ final => this.onGroup fun group => group.open_ final
  | .onEvent final => this.onGroup fun group => group.onEvent final

end EventObject

end Stheno.Events
