import Mathlib.Data.List.Infix
import Stheno.Net.InOrder

/-!
# Requests over a channel

A channel sends its requests to a peer that takes one packet after another and replies to
each.  It closes in two parts: its request engine is deleted under the lock, and the
channel is marked as closed when the lock is free again.
-/

namespace Stheno.Net

namespace RequestChannel

variable {REPLY : Type} {this : RequestChannel REPLY}

/-- No request has replies that it had not before. -/
def Keeps (before after : RequestChannel REPLY) : Prop :=
  ∀ k q, after.requests k = some q → (∀ replies, q.result = some replies → replies = []) ∨
    ∃ r, before.requests k = some r ∧ q.result = r.result

namespace Keeps

variable {before after later : RequestChannel REPLY}

theorem trans (first : before.Keeps after) (second : after.Keeps later) : before.Keeps later := by
  intro k q isRequest
  rcases second k q isRequest with empty | ⟨r, isR, same⟩
  · exact Or.inl empty
  · rcases first k r isR with empty | ⟨old, isOld, same'⟩
    · left
      rw [same]
      exact empty
    · exact Or.inr ⟨old, isOld, same.trans same'⟩

/-- A new request has an empty result. -/
theorem sendRequest (this : RequestChannel REPLY) : this.Keeps (this.sendRequest 0 true) := by
  intro k q isRequest
  rw [RequestChannel.sendRequest, serializePacket, if_pos rfl] at isRequest
  dsimp only at isRequest
  rw [if_pos rfl] at isRequest
  rcases Sound.requests_bind_eq_some isRequest with ⟨created, isCreated, same⟩
  dsimp only at isCreated
  by_cases new : k = this.next
  · rw [new, Function.update_self, Option.some_inj] at isCreated
    left
    intro replies result
    rw [same, ← isCreated] at result
    exact (Option.some.inj result).symm
  · rw [Function.update_of_ne new] at isCreated
    exact Or.inr ⟨created, isCreated, same⟩

theorem clearAll (this : RequestChannel REPLY) : this.Keeps this.clearAll := by
  intro k q isRequest
  rcases requests_clearAll_eq_some isRequest with ⟨r, isR, -, same⟩
  exact Or.inr ⟨r, isR, same⟩

theorem release (this : RequestChannel REPLY) (k : Nat) : this.Keeps (this.release k) :=
  fun _ _ isRequest => Or.inr (Sound.requests_release_eq_some isRequest)

theorem waitFuture (this : RequestChannel REPLY) (k : Nat) :
    this.Keeps (this.modify k fun r => r.waitFuture false) := by
  intro j q isRequest
  rcases requests_modify_eq_some isRequest with ⟨r, isR, rfl⟩
  split
  · rcases r.result_waitFuture false with same | gone
    · exact Or.inr ⟨r, isR, same⟩
    · left
      intro replies result
      rw [gone] at result
      cases result
  · exact Or.inr ⟨r, isR, rfl⟩

/-- Only the request of the entry has a reply. -/
theorem setReply {id : UInt32} {reply : REPLY} {k : Nat} {q : Request REPLY}
    (isRequest : (this.setReply id reply).1.requests k = some q) :
    this.map id = some k ∨ ∃ r, this.requests k = some r ∧ q.result = r.result := by
  cases entry : this.map id with
  | none =>
      rw [RequestChannel.setReply, entry] at isRequest
      exact Or.inr ⟨q, isRequest, rfl⟩
  | some j =>
      by_cases here : k = j
      · rw [here]
        exact Or.inl rfl
      · rw [Sound.requests_setReply entry here] at isRequest
        exact Or.inr ⟨q, isRequest, rfl⟩

end Keeps

end RequestChannel

inductive ChannelState where
  | opened
  /-- The engine is deleted, and the channel is not marked yet. -/
  | closing
  | closed
  deriving DecidableEq

/-- A packet of a request with its identifier. -/
structure Envelope (REQUEST : Type) where
  packetID : UInt32
  request : REQUEST

structure Session (REQUEST REPLY : Type) where
  requests : RequestChannel REPLY
  state : ChannelState
  packets : List (Envelope REQUEST)
  /-- The packet that the peer handles. -/
  current : Option (Envelope REQUEST)
  /-- The replies on their way, of which the identifiers are looked at only. -/
  replies : List (Envelope REQUEST × REPLY)
  peerOpen : Bool
  /-- What was sent over the channel, in order. -/
  sent : List REQUEST
  /-- How many replies the channel has had. -/
  answered : Nat

namespace Session

variable {REQUEST REPLY : Type}

/-- The first packet opens the session. -/
def start : Session REQUEST REPLY where
  requests := { RequestChannel.new with sequenceID := 1 }
  state := .opened
  packets := []
  current := none
  replies := []
  peerOpen := true
  sent := []
  answered := 0

/-- The request and its number, or nothing if it is not sent.  A send that the socket
refuses closes the channel. -/
def sendRequest (this : Session REQUEST REPLY) (request : REQUEST) (accepted : Bool) :
    Result (Session REQUEST REPLY × Option Nat) :=
  match this.state with
  | .closed => .ok (this, none)
  | .closing => .error .nullDereference
  | .opened =>
      let k := this.requests.next
      let bound := this.requests.sendRequest 0 true
      let sent := this.sent ++ [request]
      if accepted then
        let packet := ⟨(this.requests.serializePacket 0).1, request⟩
        let packets := if this.peerOpen then this.packets ++ [packet] else this.packets
        .ok ({ this with requests := bound, packets, sent }, some k)
      else
        .ok ({ this with requests := bound.clearAll.release k, state := .closed, sent }, none)

/-- The reader hands the next reply to the engine. -/
def receive (this : Session REQUEST REPLY) : Result (Session REQUEST REPLY) :=
  match this.replies with
  | [] => .ok this
  | (envelope, reply) :: replies =>
      match this.state with
      | .opened =>
          .ok { this with
            requests := (this.requests.setReply envelope.packetID reply).1
            replies
            answered := this.answered + 1 }
      | _ => .error .nullDereference

def isFinal (this : Session REQUEST REPLY) (k : Nat) : Bool :=
  (this.requests.requests k).any fun request => request.state.isStateFinal

/-- What `waitFuture` returns for a request that is final. -/
def result (this : Session REQUEST REPLY) (k : Nat) : List REPLY :=
  ((this.requests.requests k).bind Request.result).getD []

/-- `waitFuture` for a request that is final, and its deletion. -/
def fetch (this : Session REQUEST REPLY) (k : Nat) : Session REQUEST REPLY :=
  { this with
    requests := (this.requests.modify k fun request => request.waitFuture false).release k }

/-- The reader closes the channel and reads no more. -/
def close (this : Session REQUEST REPLY) : Session REQUEST REPLY :=
  match this.state with
  | .opened => { this with requests := this.requests.clearAll, state := .closing, replies := [] }
  | _ => this

def closeEnd (this : Session REQUEST REPLY) : Session REQUEST REPLY :=
  match this.state with
  | .closing => { this with state := .closed }
  | _ => this

/-- A channel that another thread has closed is not read any more. -/
def unregister (this : Session REQUEST REPLY) : Session REQUEST REPLY :=
  match this.state with
  | .opened => this
  | _ => { this with replies := [] }

/-- The handler is deleted. -/
def delete (this : Session REQUEST REPLY) : Session REQUEST REPLY :=
  { this with requests := this.requests.clearAll, state := .closed, replies := [] }

/-- The peer takes the next packet. -/
def take (this : Session REQUEST REPLY) : Option (Envelope REQUEST × Session REQUEST REPLY) :=
  match this.current, this.packets with
  | none, packet :: packets => some (packet, { this with packets, current := some packet })
  | _, _ => none

/-- The peer replies to the packet that it handles. -/
def answer (this : Session REQUEST REPLY) (reply : REPLY) : Session REQUEST REPLY :=
  match this.current with
  | none => this
  | some packet =>
      { this with
        current := none
        replies := if this.peerOpen && this.state = .opened then this.replies ++ [(packet, reply)]
          else this.replies }

/-- The peer closes its end, and what it has not taken is lost. -/
def closePeer (this : Session REQUEST REPLY) : Session REQUEST REPLY :=
  { this with packets := [], peerOpen := false }

/-- What goes on without the threads that send requests and without the peer. -/
inductive Event where
  | receive
  | close
  | closeEnd
  | unregister
  | closePeer

def step (this : Session REQUEST REPLY) : Event → Result (Session REQUEST REPLY)
  | .receive => this.receive
  | .close => .ok this.close
  | .closeEnd => .ok this.closeEnd
  | .unregister => .ok this.unregister
  | .closePeer => .ok this.closePeer

/-! ## What is on its way -/

/-- The packets of all requests. -/
def envelopes (this : Session REQUEST REPLY) : List (Envelope REQUEST) :=
  this.sent.zipIdx.map fun entry => ⟨RequestChannel.packetID 1 entry.2, entry.1⟩

/-- The requests of which the channel may still have a reply. -/
def flight (this : Session REQUEST REPLY) : List (Envelope REQUEST) :=
  this.replies.map Prod.fst ++ this.current.toList ++ this.packets

theorem length_envelopes (this : Session REQUEST REPLY) :
    this.envelopes.length = this.sent.length := by
  rw [envelopes, List.length_map, List.length_zipIdx]

theorem getElem?_envelopes (this : Session REQUEST REPLY) (k : Nat) :
    this.envelopes[k]? =
      this.sent[k]?.map fun request => ⟨RequestChannel.packetID 1 k, request⟩ := by
  rw [envelopes, List.getElem?_map, List.getElem?_zipIdx, Option.map_map]
  simp only [Nat.zero_add]
  rfl

theorem envelopes_concat {before after : Session REQUEST REPLY} {request : REQUEST}
    (sent : after.sent = before.sent ++ [request]) :
    after.envelopes =
      before.envelopes ++ [⟨RequestChannel.packetID 1 before.sent.length, request⟩] := by
  rw [envelopes, sent, List.zipIdx_append, List.map_append, envelopes, Nat.zero_add]
  rfl

/-- The peer replies in the order of the requests, and to what is done.  Where it has not
closed its end, everything without a reply is on its way. -/
structure Carries (Done : REQUEST → Prop) (this : Session REQUEST REPLY) : Prop where
  inOrder : this.requests.InOrder 1 this.answered
  next : this.requests.next = this.sent.length
  within : this.answered ≤ this.sent.length
  flight : this.flight <+: this.envelopes.drop this.answered
  whole : this.peerOpen = true → this.flight = this.envelopes.drop this.answered
  ended : this.peerOpen = false → this.packets = []
  done : ∀ k < this.answered, ∀ request, this.sent[k]? = some request → Done request
  replies : ∀ reply ∈ this.replies, Done reply.1.request

/-- A request with a result is done, and so are those that have become final while the
channel is open. -/
structure Sound (Done : REQUEST → Prop) (this : Session REQUEST REPLY) : Prop where
  results : ∀ k r replies, this.requests.requests k = some r → r.result = some replies →
    replies ≠ [] → ∃ request, this.sent[k]? = some request ∧ Done request
  carries : this.state = .opened → this.Carries Done

variable {Done After : REQUEST → Prop} {this after : Session REQUEST REPLY}

namespace Sound

theorem new (Done : REQUEST → Prop) : (start : Session REQUEST REPLY).Sound Done where
  results := by
    intro k r replies impossible
    cases impossible
  carries := by
    intro _
    constructor
    case inOrder => exact RequestChannel.InOrder.new 1
    case next => rfl
    case within => exact Nat.le_refl 0
    case flight => exact List.prefix_rfl
    case whole => exact fun _ => rfl
    case ended => exact fun _ => rfl
    case done =>
      intro k impossible
      cases impossible
    case replies =>
      intro reply impossible
      cases impossible

/-- More is done. -/
theorem mono (sound : this.Sound Done) (more : ∀ request, Done request → After request) :
    this.Sound After where
  results := by
    intro k r replies isRequest result nonempty
    rcases sound.results k r replies isRequest result nonempty with ⟨request, isSent, done⟩
    exact ⟨request, isSent, more request done⟩
  carries := by
    intro opened
    have carries := sound.carries opened
    exact { carries with
      done := fun k earlier request isSent => more request (carries.done k earlier request isSent)
      replies := fun reply isReply => more _ (carries.replies reply isReply) }

/-- A request that is final while the channel is open has had its reply. -/
theorem final (sound : this.Sound Done) (opened : this.state = .opened) {k : Nat}
    (isFinal : this.isFinal k = true) : k < this.answered := by
  rw [Session.isFinal] at isFinal
  cases isRequest : this.requests.requests k with
  | none =>
      rw [isRequest] at isFinal
      cases isFinal
  | some r =>
      rw [isRequest] at isFinal
      exact ((sound.carries opened).inOrder.request k r isRequest).2 isFinal

theorem result (sound : this.Sound Done) {k : Nat} (nonempty : this.result k ≠ []) :
    ∃ request, this.sent[k]? = some request ∧ Done request := by
  rw [Session.result] at nonempty
  cases isRequest : this.requests.requests k with
  | none =>
      rw [isRequest] at nonempty
      exact absurd rfl nonempty
  | some r =>
      rw [isRequest, Option.bind_some] at nonempty
      cases isResult : r.result with
      | none =>
          rw [isResult] at nonempty
          exact absurd rfl nonempty
      | some replies =>
          rw [isResult] at nonempty
          exact sound.results k r replies isRequest isResult nonempty

/-! ## What the steps keep -/

theorem results_of (sound : this.Sound Done) (keeps : this.requests.Keeps after.requests)
    (sent : this.sent <+: after.sent) : ∀ k r replies, after.requests.requests k = some r →
      r.result = some replies → replies ≠ [] →
        ∃ request, after.sent[k]? = some request ∧ Done request := by
  intro k q replies isRequest result nonempty
  rcases keeps k q isRequest with empty | ⟨r, isR, same⟩
  · exact absurd (empty replies result) nonempty
  · rw [same] at result
    rcases sound.results k r replies isR result nonempty with ⟨request, isSent, done⟩
    rcases sent with ⟨later, whole⟩
    refine ⟨request, ?_, done⟩
    rw [← whole, List.getElem?_append_left (List.getElem?_eq_some_iff.mp isSent).1]
    exact isSent

/-- The channel has closed. -/
theorem of_closed (sound : this.Sound Done) (keeps : this.requests.Keeps after.requests)
    (sent : this.sent <+: after.sent) (closed : after.state ≠ .opened) : after.Sound Done where
  results := sound.results_of keeps sent
  carries := fun opened => absurd opened closed

/-- The channel carries less, or the same. -/
theorem of_flight (sound : this.Sound Done) (requests : after.requests = this.requests)
    (state : after.state = this.state) (sent : after.sent = this.sent)
    (answered : after.answered = this.answered)
    (flight : this.state = .opened → after.flight <+: this.flight)
    (whole : this.state = .opened → after.peerOpen = true →
      this.peerOpen = true ∧ after.flight = this.flight)
    (ended : this.state = .opened → after.peerOpen = false → after.packets = [])
    (replies : this.state = .opened → ∀ reply ∈ after.replies, Done reply.1.request) :
    after.Sound Done where
  results := by
    rw [requests, sent]
    exact sound.results
  carries := by
    intro opened
    rw [state] at opened
    have carries := sound.carries opened
    have envelopes : after.envelopes = this.envelopes := by rw [Session.envelopes, sent]; rfl
    constructor
    case inOrder =>
      rw [requests, answered]
      exact carries.inOrder
    case next =>
      rw [requests, sent]
      exact carries.next
    case within =>
      rw [answered, sent]
      exact carries.within
    case flight =>
      rw [envelopes, answered]
      exact (flight opened).trans carries.flight
    case whole =>
      intro peerOpen
      rcases whole opened peerOpen with ⟨before, same⟩
      rw [envelopes, answered, same]
      exact carries.whole before
    case ended => exact ended opened
    case done =>
      rw [answered, sent]
      exact carries.done
    case replies => exact replies opened

end Sound

theorem sendRequest_cases {request : REQUEST} {accepted : Bool} {number : Option Nat}
    (ran : this.sendRequest request accepted = .ok (after, number)) :
    (this.state = .closed ∧ number = none ∧ after = this) ∨
      (this.state = .opened ∧ number = some this.requests.next ∧
        after = { this with
          requests := this.requests.sendRequest 0 true
          packets := if this.peerOpen then
              this.packets ++ [⟨(this.requests.serializePacket 0).1, request⟩]
            else this.packets
          sent := this.sent ++ [request] }) ∨
      (this.state = .opened ∧ number = none ∧
        after = { this with
          requests := (this.requests.sendRequest 0 true).clearAll.release this.requests.next
          state := .closed
          sent := this.sent ++ [request] }) := by
  rw [sendRequest] at ran
  split at ran
  next closed =>
    cases ran
    exact Or.inl ⟨closed, rfl, rfl⟩
  next => cases ran
  next opened =>
    cases accepted with
    | true =>
        cases ran
        exact Or.inr (Or.inl ⟨opened, rfl, rfl⟩)
    | false =>
        cases ran
        exact Or.inr (Or.inr ⟨opened, rfl, rfl⟩)

theorem opened_of_sendRequest {request : REQUEST} {accepted : Bool} {k : Nat}
    (ran : this.sendRequest request accepted = .ok (after, some k)) : after.state = .opened := by
  rcases sendRequest_cases ran with ⟨-, none, -⟩ | ⟨opened, -, rfl⟩ | ⟨-, none, -⟩
  · cases none
  · exact opened
  · cases none

theorem receive_cases (ran : this.receive = .ok after) :
    (this.replies = [] ∧ after = this) ∨
      ∃ envelope reply replies, this.replies = (envelope, reply) :: replies ∧
        this.state = .opened ∧
        after = { this with
          requests := (this.requests.setReply envelope.packetID reply).1
          replies
          answered := this.answered + 1 } := by
  rw [receive] at ran
  split at ran
  next none =>
    cases ran
    exact Or.inl ⟨none, rfl⟩
  next envelope reply replies first =>
    split at ran
    next opened =>
      cases ran
      exact Or.inr ⟨envelope, reply, replies, first, opened, rfl⟩
    next => cases ran

theorem take_cases {packet : Envelope REQUEST} (took : this.take = some (packet, after)) :
    ∃ packets, this.current = none ∧ this.packets = packet :: packets ∧
      after = { this with packets, current := some packet } := by
  rw [take] at took
  split at took
  next packets idle first =>
    cases took
    exact ⟨packets, idle, first, rfl⟩
  next => cases took

namespace Sound

theorem sendRequest (sound : this.Sound Done) {request : REQUEST} {accepted : Bool}
    {number : Option Nat} (ran : this.sendRequest request accepted = .ok (after, number)) :
    after.Sound Done := by
  rcases sendRequest_cases ran with ⟨-, -, rfl⟩ | ⟨opened, -, rfl⟩ | ⟨opened, -, rfl⟩
  · exact sound
  · have carries := sound.carries opened
    have outstanding : this.answered ≤ this.requests.next := by
      rw [carries.next]
      exact carries.within
    have identifier : (this.requests.serializePacket 0).1 =
        RequestChannel.packetID 1 this.sent.length := by
      rw [carries.inOrder.serializePacket, carries.next]
    have behind : this.answered ≤ this.envelopes.length := by
      rw [length_envelopes]
      exact carries.within
    rcases carries.inOrder.sendRequest outstanding with ⟨inOrder, next⟩
    constructor
    case results => exact sound.results_of (.sendRequest _) (List.prefix_append _ _)
    case carries =>
      intro _
      constructor
      case inOrder => exact inOrder
      case next =>
        rw [next, carries.next, List.length_append, List.length_singleton]
      case within =>
        rw [List.length_append]
        exact Nat.le_add_right_of_le carries.within
      case flight =>
        rw [envelopes_concat rfl, List.drop_append_of_le_length behind]
        cases peerOpen : this.peerOpen with
        | true =>
            rw [← carries.whole peerOpen, ← identifier, Session.flight, Session.flight,
              List.append_assoc _ _ [_]]
            exact List.prefix_rfl
        | false => exact carries.flight.trans (List.prefix_append _ _)
      case whole =>
        intro peerOpen
        rw [envelopes_concat rfl, List.drop_append_of_le_length behind,
          ← carries.whole peerOpen, ← identifier, Session.flight, Session.flight, if_pos peerOpen,
          List.append_assoc _ _ [_]]
      case ended =>
        intro closed
        rw [if_neg (Bool.eq_false_iff.mp closed)]
        exact carries.ended closed
      case done =>
        intro k earlier other isSent
        rw [List.getElem?_append_left (Nat.lt_of_lt_of_le earlier carries.within)] at isSent
        exact carries.done k earlier other isSent
      case replies => exact carries.replies
  · exact sound.of_closed ((RequestChannel.Keeps.sendRequest _).trans
      ((RequestChannel.Keeps.clearAll _).trans (RequestChannel.Keeps.release _ _)))
      (List.prefix_append _ _) nofun

/-- The channel has the reply to its first request without one, if fewer than 2 ^ 32 are. -/
theorem receive (sound : this.Sound Done) (few : this.sent.length ≤ this.answered + 2 ^ 32)
    (ran : this.receive = .ok after) : after.Sound Done := by
  rcases receive_cases ran with ⟨-, rfl⟩ | ⟨envelope, reply, replies, first, opened, rfl⟩
  · exact sound
  · have carries := sound.carries opened
    have head : envelope :: (replies.map Prod.fst ++ this.current.toList ++ this.packets) =
        this.flight := by
      rw [Session.flight, first]
      rfl
    have onWay := carries.flight
    rw [← head] at onWay
    rcases onWay with ⟨later, drop⟩
    rw [List.cons_append] at drop
    have behind : this.envelopes.drop (this.answered + 1) =
        replies.map Prod.fst ++ this.current.toList ++ this.packets ++ later := by
      rw [← List.tail_drop, ← drop, List.tail_cons]
    have isFirst : this.envelopes[this.answered]? = some envelope := by
      rw [← List.head?_drop, ← drop, List.head?_cons]
    rw [getElem?_envelopes, Option.map_eq_some_iff] at isFirst
    rcases isFirst with ⟨request, isSent, rfl⟩
    have done : Done request := carries.replies (_, reply) (first ▸ List.mem_cons_self)
    rw [← carries.next] at few
    rcases carries.inOrder.setReply few reply with ⟨inOrder, next⟩
    constructor
    case results =>
      intro k q stored isRequest result nonempty
      rcases RequestChannel.Keeps.setReply isRequest with entry | ⟨r, isR, same⟩
      · rcases carries.inOrder.entry _ k entry with ⟨notAnswered, before, same⟩
        have here := RequestChannel.packetID_inj notAnswered (Nat.lt_of_lt_of_le before few) same
        rw [← here]
        exact ⟨request, isSent, done⟩
      · rw [same] at result
        exact sound.results k r stored isR result nonempty
    case carries =>
      intro _
      constructor
      case inOrder => exact inOrder
      case next => exact next.trans carries.next
      case within => exact (List.getElem?_eq_some_iff.mp isSent).1
      case flight => exact ⟨later, behind.symm⟩
      case whole =>
        intro peerOpen
        have whole := carries.whole peerOpen
        rw [← head, ← drop, List.cons_inj_right] at whole
        exact whole.trans behind.symm
      case ended => exact carries.ended
      case done =>
        intro k earlier other isOther
        rcases Nat.lt_succ_iff_lt_or_eq.mp earlier with before | rfl
        · exact carries.done k before other isOther
        · rw [isSent, Option.some_inj] at isOther
          rw [← isOther]
          exact done
      case replies =>
        intro other isReply
        exact carries.replies other (first ▸ List.mem_cons_of_mem _ isReply)

theorem fetch (sound : this.Sound Done) {k : Nat} (isFinal : this.isFinal k = true) :
    (this.fetch k).Sound Done where
  results := sound.results_of ((RequestChannel.Keeps.waitFuture _ k).trans
    (RequestChannel.Keeps.release _ k)) List.prefix_rfl
  carries := by
    intro opened
    have carries := sound.carries opened
    rcases carries.inOrder.release (sound.final opened isFinal) with ⟨inOrder, next⟩
    exact { carries with
      inOrder
      next := next.trans carries.next }

theorem close (sound : this.Sound Done) : this.close.Sound Done := by
  rw [Session.close]
  split
  · exact sound.of_closed (.clearAll _) List.prefix_rfl nofun
  · exact sound

theorem closeEnd (sound : this.Sound Done) : this.closeEnd.Sound Done := by
  rw [Session.closeEnd]
  split
  · exact ⟨sound.results, nofun⟩
  · exact sound

theorem unregister (sound : this.Sound Done) : this.unregister.Sound Done := by
  rw [Session.unregister]
  split
  · exact sound
  next closed => exact ⟨sound.results, fun opened => absurd opened closed⟩

theorem delete (sound : this.Sound Done) : this.delete.Sound Done :=
  sound.of_closed (.clearAll _) List.prefix_rfl nofun

theorem take (sound : this.Sound Done) {packet : Envelope REQUEST}
    (took : this.take = some (packet, after)) : after.Sound Done := by
  rcases take_cases took with ⟨packets, idle, first, rfl⟩
  have same : Session.flight { this with packets, current := some packet } = this.flight := by
    rw [Session.flight, Session.flight, idle, first]
    simp
  apply sound.of_flight
  case requests => rfl
  case state => rfl
  case sent => rfl
  case answered => rfl
  case flight =>
    intro _
    rw [same]
  case whole => exact fun _ peerOpen => ⟨peerOpen, same⟩
  case ended =>
    intro opened closed
    have none := (sound.carries opened).ended closed
    rw [first] at none
    cases none
  case replies => exact fun opened => (sound.carries opened).replies

/-- The peer has done what the request is for when it replies. -/
theorem answer (sound : this.Sound Done) (reply : REPLY)
    (done : ∀ packet, this.current = some packet → Done packet.request) :
    (this.answer reply).Sound Done := by
  rw [Session.answer]
  split
  · exact sound
  next packet handled =>
    apply sound.of_flight
    case requests => rfl
    case state => rfl
    case sent => rfl
    case answered => rfl
    case flight =>
      intro opened
      rw [Session.flight, Session.flight, handled]
      cases peerOpen : this.peerOpen with
      | true =>
          rw [opened]
          simp
      | false =>
          rw [(sound.carries opened).ended peerOpen]
          simp
    case ended => exact fun opened => (sound.carries opened).ended
    case whole =>
      intro opened peerOpen
      refine ⟨peerOpen, ?_⟩
      rw [Session.flight, Session.flight, handled, opened, peerOpen]
      simp
    case replies =>
      intro opened other isReply
      split at isReply
      · rcases List.mem_append.mp isReply with old | new
        · exact (sound.carries opened).replies other old
        · rw [List.mem_singleton.mp new]
          exact done packet handled
      · exact (sound.carries opened).replies other isReply

theorem closePeer (sound : this.Sound Done) : this.closePeer.Sound Done := by
  apply sound.of_flight
  case requests => rfl
  case state => rfl
  case sent => rfl
  case answered => rfl
  case flight =>
    intro _
    rw [Session.flight, Session.flight, Session.closePeer, List.append_nil]
    exact List.prefix_append _ _
  case whole =>
    intro _ impossible
    cases impossible
  case ended => exact fun _ _ => rfl
  case replies => exact fun opened => (sound.carries opened).replies

theorem step (sound : this.Sound Done)
    (few : this.state = .opened → this.sent.length ≤ this.answered + 2 ^ 32) {event : Event}
    (ran : this.step event = .ok after) : after.Sound Done := by
  cases event with
  | receive =>
      rcases receive_cases ran with ⟨-, rfl⟩ | ⟨-, -, -, -, opened, -⟩
      · exact sound
      · exact sound.receive (few opened) ran
  | close =>
      cases ran
      exact sound.close
  | closeEnd =>
      cases ran
      exact sound.closeEnd
  | unregister =>
      cases ran
      exact sound.unregister
  | closePeer =>
      cases ran
      exact sound.closePeer

end Sound

/-- What a send does to a session, apart from its requests. -/
structure Sends (request : REQUEST) (number : Option Nat) (before after : Session REQUEST REPLY) :
    Prop where
  opened : after.state = .opened → before.state = .opened ∧ number = some before.sent.length ∧
    after.sent = before.sent ++ [request]
  sent : after.sent = before.sent ∨ after.sent = before.sent ++ [request]
  closed : number = none → after.state = .closed ∧ after.packets = before.packets
  answered : after.answered = before.answered
  current : after.current = before.current

theorem Sound.sends (sound : this.Sound Done) {request : REQUEST} {accepted : Bool}
    {number : Option Nat} (ran : this.sendRequest request accepted = .ok (after, number)) :
    this.Sends request number after := by
  rcases sendRequest_cases ran with ⟨closed, -, rfl⟩ | ⟨opened, rfl, rfl⟩ | ⟨-, -, rfl⟩
  · have notOpened : after.state ≠ .opened := by
      rw [closed]
      exact nofun
    exact ⟨fun opened => absurd opened notOpened, Or.inl rfl, fun _ => ⟨closed, rfl⟩, rfl, rfl⟩
  · refine ⟨fun _ => ⟨opened, ?_, rfl⟩, Or.inr rfl, nofun, rfl, rfl⟩
    rw [(sound.carries opened).next]
  · exact ⟨nofun, Or.inr rfl, fun _ => ⟨rfl, rfl⟩, rfl, rfl⟩

/-- A session goes on and sends nothing. -/
structure Ages (before after : Session REQUEST REPLY) : Prop where
  opened : after.state = .opened → before.state = .opened
  sent : after.sent = before.sent
  packets : after.packets.Sublist before.packets
  answered : before.answered ≤ after.answered

namespace Ages

theorem refl (this : Session REQUEST REPLY) : this.Ages this :=
  ⟨id, rfl, List.Sublist.refl _, Nat.le_refl _⟩

theorem trans {before this after : Session REQUEST REPLY} (first : before.Ages this)
    (second : this.Ages after) : before.Ages after where
  opened := fun opened => first.opened (second.opened opened)
  sent := second.sent.trans first.sent
  packets := second.packets.trans first.packets
  answered := Nat.le_trans first.answered second.answered

theorem fetch (this : Session REQUEST REPLY) (k : Nat) : this.Ages (this.fetch k) :=
  ⟨id, rfl, List.Sublist.refl _, Nat.le_refl _⟩

theorem delete (this : Session REQUEST REPLY) : this.Ages this.delete :=
  ⟨nofun, rfl, List.Sublist.refl _, Nat.le_refl _⟩

theorem take {packet : Envelope REQUEST} (took : this.take = some (packet, after)) :
    this.Ages after := by
  rcases take_cases took with ⟨packets, -, first, rfl⟩
  refine ⟨id, rfl, ?_, Nat.le_refl _⟩
  rw [first]
  exact List.sublist_cons_self _ _

theorem answer (this : Session REQUEST REPLY) (reply : REPLY) : this.Ages (this.answer reply) := by
  rw [Session.answer]
  split
  · exact refl this
  · exact ⟨id, rfl, List.Sublist.refl _, Nat.le_refl _⟩

theorem step {event : Event} (ran : this.step event = .ok after) : this.Ages after := by
  cases event with
  | receive =>
      rcases receive_cases ran with ⟨-, rfl⟩ | ⟨envelope, reply, replies, -, opened, rfl⟩
      · exact refl after
      · exact ⟨fun _ => opened, rfl, List.Sublist.refl _, Nat.le_succ _⟩
  | close =>
      cases ran
      rw [Session.close]
      split
      · exact ⟨nofun, rfl, List.Sublist.refl _, Nat.le_refl _⟩
      · exact refl this
  | closeEnd =>
      cases ran
      rw [Session.closeEnd]
      split
      · exact ⟨nofun, rfl, List.Sublist.refl _, Nat.le_refl _⟩
      · exact refl this
  | unregister =>
      cases ran
      rw [Session.unregister]
      split
      · exact refl this
      · exact ⟨id, rfl, List.Sublist.refl _, Nat.le_refl _⟩
  | closePeer =>
      cases ran
      exact ⟨id, rfl, List.nil_sublist _, Nat.le_refl _⟩

end Ages

theorem current_answer (this : Session REQUEST REPLY) (reply : REPLY) :
    (this.answer reply).current = none := by
  rw [answer]
  split
  next idle => exact idle
  next => rfl

/-- The peer goes on by itself. -/
theorem current_step {event : Event} (ran : this.step event = .ok after) :
    after.current = this.current := by
  cases event with
  | receive =>
      rcases receive_cases ran with ⟨-, rfl⟩ | ⟨envelope, reply, replies, -, -, rfl⟩
      · rfl
      · rfl
  | close =>
      cases ran
      rw [close]
      split
      · rfl
      · rfl
  | closeEnd =>
      cases ran
      rw [closeEnd]
      split
      · rfl
      · rfl
  | unregister =>
      cases ran
      rw [unregister]
      split
      · rfl
      · rfl
  | closePeer =>
      cases ran
      rfl

end Session

end Stheno.Net
