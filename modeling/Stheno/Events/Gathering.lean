import Mathlib.Data.List.Dedup
import Mathlib.Logic.Function.Basic
import Stheno.Events.Classes

/-!
# A group and its requests

A group counts: `open` counts the requests that are final already and becomes the listener
of the others, and each notice of a final state is counted once more.  The requests may be
added, opened, completed and waited for in any order, and some complete while `open` is
under way.
-/

namespace Stheno.Events

/-- What `open` has still to visit, and whether it has found the first of these not final. -/
structure Visit (REQUEST : Type) where
  rest : List REQUEST
  checked : Bool

/-- A group and its requests, which have no other listener. -/
structure Gathering (LISTENER REQUEST : Type) where
  group : RequestGroup LISTENER REQUEST
  request : REQUEST → Event Unit
  /-- Present while `open` runs, which holds the lock of the group. -/
  opening : Option (Visit REQUEST)
  /-- The group became successful while a request was not final. -/
  hasty : Bool
  fault : Option Fault

namespace Gathering

variable {LISTENER REQUEST : Type}

/-- The requests of the group, until it gives their list away. -/
def members (this : Gathering LISTENER REQUEST) : List REQUEST :=
  this.group.result.getD []

def isRequestFinal (this : Gathering LISTENER REQUEST) (request : REQUEST) : Bool :=
  (this.request request).isStateFinal

def listens (this : Gathering LISTENER REQUEST) (request : REQUEST) : Bool :=
  (this.request request).listener.isSome

def allFinal (this : Gathering LISTENER REQUEST) : Bool :=
  this.members.all this.isRequestFinal

/-- What a call does to the group. -/
def absorb (this : Gathering LISTENER REQUEST)
    (effect : Effect LISTENER (RequestGroup LISTENER REQUEST)) : Gathering LISTENER REQUEST :=
  { this with
    group := effect.object
    hasty := this.hasty ||
      (effect.object.state == ES_SUCCESS && this.group.state != ES_SUCCESS && !this.allFinal)
    fault := this.fault.or effect.fault }

/-- The group is told of a request. -/
def notify (this : Gathering LISTENER REQUEST) (request : REQUEST) (notices : List (Notice Unit)) :
    Gathering LISTENER REQUEST :=
  notices.foldl
    (fun this _ => this.absorb (this.group.onEvent (this.isRequestFinal request))) this

/-- The requests that `open` has to visit, if any. -/
def visiting (rest : List REQUEST) : Option (Visit REQUEST) :=
  if rest.isEmpty then none else some { rest, checked := false }

section Calls

variable [DecidableEq REQUEST]

def withRequest (this : Gathering LISTENER REQUEST) (request : REQUEST) (event : Event Unit) :
    Gathering LISTENER REQUEST :=
  { this with request := Function.update this.request request event }

/-- A call on a request, whose listener is told while the lock of the request is held. -/
def onRequest (this : Gathering LISTENER REQUEST) (request : REQUEST)
    (effect : Effect Unit (Event Unit)) : Gathering LISTENER REQUEST :=
  (this.withRequest request effect.object).notify request effect.notices

def change (this : Gathering LISTENER REQUEST) (request : REQUEST) (newState : Int) :
    Gathering LISTENER REQUEST :=
  this.onRequest request ((this.request request).stateChanged newState)

def addRequest (this : Gathering LISTENER REQUEST) (request : REQUEST) :
    Gathering LISTENER REQUEST :=
  this.absorb (this.group.addRequest request)

/-- The beginning of `open`. -/
def open_ (this : Gathering LISTENER REQUEST) : Gathering LISTENER REQUEST :=
  let group := this.group
  if group.opened then
    this
  else
    match group.result with
    | none =>
        { this with group := { group with opened := true }, fault := some .nullDereference }
    | some requests =>
        { this with group := { group with opened := true }, opening := visiting requests }

/-- The next statement of the loop of `open`.  `setListener` tells the group of a request
that became final after it was checked. -/
def visit (this : Gathering LISTENER REQUEST) : Gathering LISTENER REQUEST :=
  let group := this.group
  match this.opening with
  | none => this
  | some ⟨[], _⟩ => { this with opening := none }
  | some ⟨request :: rest, false⟩ =>
      if this.isRequestFinal request then
        { this with
          group := { group with finishedRequests := group.finishedRequests + 1 }
          opening := visiting rest }
      else
        { this with opening := some { rest := request :: rest, checked := true } }
  | some ⟨request :: rest, true⟩ =>
      Gathering.onRequest { this with opening := visiting rest } request
        ((this.request request).setListener (some ()))

/-- `detach` has closed the requests of a list that was given away. -/
def closeAll (this : Gathering LISTENER REQUEST) (requests : List REQUEST) :
    Gathering LISTENER REQUEST :=
  { this with
    request := fun request =>
      if request ∈ requests ∧ this.group.result.isNone then
        (this.request request).removeListener.object.cancel.object
      else
        this.request request }

def waitFuture (this : Gathering LISTENER REQUEST) : Gathering LISTENER REQUEST :=
  (this.absorb this.group.waitFuture).closeAll this.members

def awake (this : Gathering LISTENER REQUEST) (timedOut : Bool) : Gathering LISTENER REQUEST :=
  (this.absorb (this.group.awake timedOut)).closeAll this.members

/-! ## Runs -/

inductive Event (REQUEST : Type) where
  | addRequest (request : REQUEST)
  | open_
  | visit
  | change (request : REQUEST) (newState : Int)
  | waitFuture
  | awake (timedOut : Bool)

/-- The call needs the lock of the group, which `open` has. -/
def blocks (this : Gathering LISTENER REQUEST) : Event REQUEST → Bool
  | .visit => false
  | .change request _ => this.opening.isSome && this.listens request
  | _ => this.opening.isSome

def call (this : Gathering LISTENER REQUEST) : Event REQUEST → Gathering LISTENER REQUEST
  | .addRequest request => this.addRequest request
  | .open_ => this.open_
  | .visit => this.visit
  | .change request newState => this.change request newState
  | .waitFuture => this.waitFuture
  | .awake timedOut => this.awake timedOut

/-- A call that cannot be made yet is made later, and none is made after a fault. -/
def step (this : Gathering LISTENER REQUEST) (event : Event REQUEST) :
    Gathering LISTENER REQUEST :=
  if this.blocks event || this.fault.isSome then this else this.call event

def run (this : Gathering LISTENER REQUEST) (events : List (Event REQUEST)) :
    Gathering LISTENER REQUEST :=
  events.foldl step this

end Calls

/-- An empty group, and requests in any states. -/
def created (listener : Option LISTENER) (states : REQUEST → Int) : Gathering LISTENER REQUEST where
  group :=
    { state := ES_IDLE
      listener
      result := some []
      expectedSize := 0
      waiting := 0
      finishedRequests := 0
      opened := false }
  request request := { state := states request, listener := none }
  opening := none
  hasty := false
  fault := none

/-- The group became successful only when every request was final; its count is the number
of these, and no thread goes on waiting once all of them are. -/
structure Completes [DecidableEq REQUEST] (this : Gathering LISTENER REQUEST) : Prop where
  success : this.hasty = false
  counted : this.group.opened = true → this.opening = none → ∀ members,
    this.group.result = some members →
      this.group.finishedRequests = (members.dedup.filter this.isRequestFinal).length
  released : this.group.opened = true → this.opening = none → this.group.result.isSome = true →
    this.allFinal = true → this.group.waiting = 0 ∨ this.group.isStateFinal = true
  running : this.fault = none

/-! ## The condition -/

/-- The requests that `open` has not visited yet. -/
def unvisited (this : Gathering LISTENER REQUEST) : List REQUEST :=
  if this.group.opened then (this.opening.map Visit.rest).getD [] else this.members

/-- A request is added once, and before the group is opened; one that is final, and that
`open` has visited, changes no more, or stays final if the group does not listen to it; `open`
does not find the last request final when the others are, too, and a thread waits; and no
call needs the list of requests after it was given away. -/
def Allows (this : Gathering LISTENER REQUEST) : Event REQUEST → Prop
  | .addRequest request =>
      this.group.result.isSome = true → this.group.opened = false ∧ request ∉ this.members
  | .open_ => this.group.opened = true ∨ this.group.result.isSome = true
  | .visit => this.opening.any (fun visit => !visit.checked && visit.rest.length = 1) = true →
      this.allFinal = true → this.group.waiting = 0
  | .change request newState => request ∈ this.members → request ∉ this.unvisited →
      this.isRequestFinal request = true →
        isFinal newState = true ∧ this.listens request = false
  | .waitFuture => this.group.result.isSome = true
  | .awake _ => this.group.waiting = 0 ∨ this.group.result.isSome = true

/-- The event is allowed where it happens. -/
def Fits (this : Gathering LISTENER REQUEST) (event : Event REQUEST) : Prop :=
  this.blocks event = false → this.Allows event

/-- Every event meets its condition in the state where it happens. -/
def FitsAll [DecidableEq REQUEST] (this : Gathering LISTENER REQUEST) : List (Event REQUEST) → Prop
  | [] => True
  | event :: rest => this.Fits event ∧ (this.step event).FitsAll rest

end Gathering

end Stheno.Events
