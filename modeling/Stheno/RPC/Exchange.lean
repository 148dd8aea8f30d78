import Mathlib.Data.List.Perm.Subperm
import Stheno.FT.UpdateOrder
import Stheno.RPC.System

/-!
# Calls and their answers

At most one call is on its way over a connection, and it is the one that the client waits
for.  A call that was raised stays with its connection, which has no client any more, so
that its reply reaches nobody.
-/

namespace Stheno.RPC

open FT

def Packet.invocation? : Packet → Option (Nat × Invocation)
  | invocation call asked => some (call, asked)
  | oneWay _ => none

/-- The call with its reply, once the service has served it. -/
def Handling.answer? : Handling → Option (Nat × List UInt8)
  | idle => none
  | replicate call payload _ _ => some (call, payload)
  | replicating call payload _ => some (call, payload)
  | reply call payload => some (call, payload)

namespace Connection

/-- The calls that the service has not served yet. -/
def pending (this : Connection) : List (Nat × Invocation) :=
  this.packets.filterMap Packet.invocation?

/-- The calls with an answer from the service that no client has yet. -/
def answers (this : Connection) : List (Nat × List UInt8) :=
  this.handling.answer?.toList ++ this.replies

/-- The calls on their way. -/
def outstanding (this : Connection) : List Nat :=
  this.pending.map Prod.fst ++ this.answers.map Prod.fst

/-- A connection carries one call at most, which the service has served or not yet. -/
structure Sound (history : List (Seen Invocation (List UInt8)))
    (served : List (Served Invocation (List UInt8))) (this : Connection) : Prop where
  one : this.outstanding.length ≤ 1
  pending : ∀ asked ∈ this.pending, Seen.call asked.1 asked.2 ∈ history ∧
    (∃ operation, Asks asked.2 operation) ∧ asked.1 ∉ served.map Served.id
  answered : ∀ answer ∈ this.answers, ∃ op, ⟨answer.1, op, answer.2⟩ ∈ served

variable {history : List (Seen Invocation (List UInt8))}
  {served : List (Served Invocation (List UInt8))} {this after : Connection}

theorem new_sound (history : List (Seen Invocation (List UInt8)))
    (served : List (Served Invocation (List UInt8))) : Connection.new.Sound history served where
  one := Nat.zero_le 1
  pending := by
    intro asked impossible
    cases impossible
  answered := by
    intro answer impossible
    cases impossible

namespace Sound

/-- A connection from which calls have gone. -/
theorem less (sound : this.Sound history served) (pending : after.pending.Sublist this.pending)
    (answers : after.answers.Subperm this.answers) :
    after.Sound history served ∧ after.outstanding ⊆ this.outstanding := by
  constructor
  case left =>
    constructor
    case one =>
      have one := sound.one
      have fewer := pending.length_le
      have fewerAnswers := answers.length_le
      simp only [outstanding, List.length_append, List.length_map] at one ⊢
      omega
    case pending => exact fun asked isPending => sound.pending asked (pending.subset isPending)
    case answered => exact fun answer isAnswer => sound.answered answer (answers.subset isAnswer)
  case right =>
    exact List.append_subset.mpr
      ⟨fun id isPending => List.mem_append_left _ (List.map_subset _ pending.subset isPending),
        fun id isAnswer => List.mem_append_right _ (List.map_subset _ answers.subset isAnswer)⟩

/-- A call on its way is the only one. -/
theorem of_pending (sound : this.Sound history served) {asked : Nat × Invocation}
    {rest : List (Nat × Invocation)} (first : this.pending = asked :: rest) :
    rest = [] ∧ this.answers = [] := by
  have one := sound.one
  rw [outstanding, first, List.map_cons, List.cons_append, List.length_cons, List.length_append,
    List.length_map, List.length_map] at one
  constructor
  · exact List.length_eq_zero_iff.mp (by omega)
  · exact List.length_eq_zero_iff.mp (by omega)

/-- A reply on its way is the only one. -/
theorem of_replies (sound : this.Sound history served) {answer : Nat × List UInt8}
    {rest : List (Nat × List UInt8)} (first : this.replies = answer :: rest) :
    rest = [] ∧ this.pending = [] ∧ this.handling.answer? = none := by
  have one := sound.one
  rw [outstanding, answers, first, List.length_append, List.length_map, List.length_map,
    List.length_append, List.length_cons] at one
  refine ⟨List.length_eq_zero_iff.mp (by omega), List.length_eq_zero_iff.mp (by omega), ?_⟩
  rw [← Option.toList_eq_nil_iff]
  exact List.length_eq_zero_iff.mp (by omega)

/-- A connection that the call to be served next is not on. -/
theorem serve (sound : this.Sound history served) {id : Nat}
    (elsewhere : id ∉ this.outstanding) (op : Invocation) (ret : List UInt8) :
    this.Sound history (served ++ [⟨id, op, ret⟩]) where
  one := sound.one
  pending := by
    intro asked isPending
    rcases sound.pending asked isPending with ⟨made, asks, unserved⟩
    refine ⟨made, asks, ?_⟩
    rw [List.map_append, List.mem_append, not_or]
    refine ⟨unserved, ?_⟩
    intro new
    have same : asked.1 = id := List.mem_singleton.mp new
    rw [← same] at elsewhere
    exact elsewhere (List.mem_append_left _ (List.mem_map_of_mem isPending))
  answered := by
    intro answer isAnswer
    rcases sound.answered answer isAnswer with ⟨asked, member⟩
    exact ⟨asked, List.mem_append_left _ member⟩

theorem see (sound : this.Sound history served) (seen : Seen Invocation (List UInt8)) :
    this.Sound (history ++ [seen]) served where
  one := sound.one
  pending := by
    intro asked isPending
    rcases sound.pending asked isPending with ⟨made, rest⟩
    exact ⟨List.mem_append_left _ made, rest⟩
  answered := sound.answered

end Sound

/-! ## What the steps do to a connection -/

theorem send_oneWay (this : Connection) (asked : Invocation) :
    (this.send (.oneWay asked)).pending = this.pending ∧
      (this.send (.oneWay asked)).answers = this.answers := by
  rw [send]
  split
  · constructor
    · simp [pending, Packet.invocation?]
    · rfl
  · exact ⟨rfl, rfl⟩

theorem sendReply_less {this : Connection} {call : Nat} {payload : List UInt8}
    (handling : this.handling = .reply call payload) :
    (this.sendReply call payload).pending = this.pending ∧
      (this.sendReply call payload).answers.Subperm this.answers := by
  have before : this.answers = (call, payload) :: this.replies := by
    rw [answers, handling]
    rfl
  rw [before, sendReply]
  split
  · constructor
    · rfl
    · exact (List.perm_append_singleton (call, payload) this.replies).subperm
  · constructor
    · rfl
    · exact (List.sublist_cons_self _ _).subperm

theorem closeClient_less (this : Connection) :
    this.closeClient.pending = this.pending ∧
      this.closeClient.answers.Subperm this.answers := by
  constructor
  · rfl
  · rw [answers, closeClient, List.append_nil]
    exact (List.sublist_append_left _ _).subperm

end Connection

namespace System

/-- A client waits for the call on its connection, whose answer is that of the order in
which the service has served the calls. -/
structure Sound (this : System) (place : Nat → Nat) : Prop where
  linearizes : Linearizes counter 0 this.history this.served this.service.testObject.mSum
  made : ∀ id op, Seen.call id op ∈ this.history → id < this.calls
  connections : ∀ (i : Nat) (connection : Connection), this.connections[i]? = some connection →
    connection.Sound this.history this.served
  placed : ∀ (i : Nat) (connection : Connection), this.connections[i]? = some connection →
    ∀ id ∈ connection.outstanding, place id = i ∧ id < this.calls
  listens : ∀ i handler, (this.clients i).clientHandler = some handler →
    ∃ connection, this.connections[handler]? = some connection ∧
      ∀ id ∈ connection.outstanding, (this.clients i).waits = some id
  distinct : ∀ i j handler, (this.clients i).clientHandler = some handler →
    (this.clients j).clientHandler = some handler → i = j

theorem connections_modify_cases {connections : List Connection} {i j : Nat}
    {f : Connection → Connection} {connection : Connection}
    (found : (connections.modify i f)[j]? = some connection) :
    (j = i ∧ ∃ before, connections[i]? = some before ∧ connection = f before) ∨
      (j ≠ i ∧ connections[j]? = some connection) := by
  by_cases here : i = j
  · subst here
    rw [List.getElem?_modify_eq] at found
    rcases Option.map_eq_some_iff.mp found with ⟨before, isBefore, equal⟩
    exact Or.inl ⟨rfl, before, isBefore, equal.symm⟩
  · rw [List.getElem?_modify_ne _ _ here] at found
    exact Or.inr ⟨Ne.symm here, found⟩

namespace Sound

variable {this : System} {place : Nat → Nat} {i : Nat} {connection : Connection}

/-- One connection changes, on which no call comes on its way. -/
theorem modify (sound : this.Sound place) {f : Connection → Connection}
    (less : ∀ connection, this.connections[i]? = some connection →
      (f connection).pending.Sublist connection.pending ∧
        (f connection).answers.Subperm connection.answers) :
    (this.modify i f).Sound place where
  linearizes := sound.linearizes
  made := sound.made
  connections := by
    intro j other found
    rcases connections_modify_cases found with ⟨rfl, before, isBefore, rfl⟩ | ⟨-, same⟩
    · rcases less before isBefore with ⟨pending, answers⟩
      exact ((sound.connections j before isBefore).less pending answers).1
    · exact sound.connections j other same
  placed := by
    intro j other found id isOutstanding
    rcases connections_modify_cases found with ⟨rfl, before, isBefore, rfl⟩ | ⟨-, same⟩
    · rcases less before isBefore with ⟨pending, answers⟩
      have fewer := ((sound.connections j before isBefore).less pending answers).2
      exact sound.placed j before isBefore id (fewer isOutstanding)
    · exact sound.placed j other same id isOutstanding
  listens := by
    intro j handler isHandler
    rcases sound.listens j handler isHandler with ⟨other, found, waits⟩
    change ∃ other, (this.connections.modify i f)[handler]? = some other ∧ _
    by_cases same : i = handler
    · subst same
      rcases less other found with ⟨pending, answers⟩
      have fewer := ((sound.connections i other found).less pending answers).2
      rw [List.getElem?_modify_eq, found]
      exact ⟨f other, rfl, fun id isOutstanding => waits id (fewer isOutstanding)⟩
    · rw [List.getElem?_modify_ne _ _ same]
      exact ⟨other, found, waits⟩
  distinct := sound.distinct

/-- A client has no connection any more. -/
theorem release (sound : this.Sound place) (i : Nat) :
    (this.setClient i ⟨none, none⟩).Sound place where
  linearizes := sound.linearizes
  made := sound.made
  connections := sound.connections
  placed := sound.placed
  listens := by
    intro j handler isHandler
    change (Function.update this.clients i _ j).clientHandler = _ at isHandler
    change ∃ connection : Connection, this.connections[handler]? = some connection ∧
      ∀ id ∈ connection.outstanding, (Function.update this.clients i _ j).waits = some id
    by_cases same : j = i
    · subst same
      rw [Function.update_self] at isHandler
      cases isHandler
    · rw [Function.update_of_ne same] at isHandler ⊢
      exact sound.listens j handler isHandler
  distinct := by
    intro j k handler isHandler isOther
    change (Function.update this.clients i _ j).clientHandler = _ at isHandler
    change (Function.update this.clients i _ k).clientHandler = _ at isOther
    by_cases same : j = i
    · subst same
      rw [Function.update_self] at isHandler
      cases isHandler
    · by_cases sameOther : k = i
      · subst sameOther
        rw [Function.update_self] at isOther
        cases isOther
      · rw [Function.update_of_ne same] at isHandler
        rw [Function.update_of_ne sameOther] at isOther
        exact sound.distinct j k handler isHandler isOther

theorem handler_lt (sound : this.Sound place) {j handler : Nat}
    (isHandler : (this.clients j).clientHandler = some handler) :
    handler < this.connections.length := by
  rcases sound.listens j handler isHandler with ⟨connection, found, -⟩
  exact (List.getElem?_eq_some_iff.mp found).1

theorem bind (sound : this.Sound place) (i : Nat) : (this.bind i).Sound place := by
  rw [System.bind]
  split
  next free =>
    constructor
    case linearizes => exact sound.linearizes
    case made => exact sound.made
    case connections =>
      intro j connection found
      change (this.connections ++ [Connection.new])[j]? = some connection at found
      rcases List.mem_append.mp (List.mem_of_getElem? found) with old | new
      · rcases List.getElem?_of_mem old with ⟨k, isAt⟩
        exact sound.connections k connection isAt
      · rw [List.mem_singleton.mp new]
        exact Connection.new_sound _ _
    case placed =>
      intro j connection found id isOutstanding
      change (this.connections ++ [Connection.new])[j]? = some connection at found
      rcases Nat.lt_or_ge j this.connections.length with old | new
      · rw [List.getElem?_append_left old] at found
        exact sound.placed j connection found id isOutstanding
      · rw [List.getElem?_append_right new] at found
        rw [List.mem_singleton.mp (List.mem_of_getElem? found)] at isOutstanding
        cases isOutstanding
    case listens =>
      intro j handler isHandler
      change (Function.update this.clients i _ j).clientHandler = _ at isHandler
      change ∃ connection, (this.connections ++ [Connection.new])[handler]? = some connection ∧
        ∀ id ∈ connection.outstanding, (Function.update this.clients i _ j).waits = some id
      by_cases same : j = i
      · subst same
        rw [Function.update_self, Option.some_inj] at isHandler
        rw [← isHandler, List.getElem?_concat_length]
        refine ⟨Connection.new, rfl, ?_⟩
        intro id impossible
        cases impossible
      · rw [Function.update_of_ne same] at isHandler ⊢
        rcases sound.listens j handler isHandler with ⟨connection, found, waits⟩
        rw [List.getElem?_append_left (sound.handler_lt isHandler)]
        exact ⟨connection, found, waits⟩
    case distinct =>
      intro j k handler isHandler isOther
      change (Function.update this.clients i _ j).clientHandler = _ at isHandler
      change (Function.update this.clients i _ k).clientHandler = _ at isOther
      by_cases same : j = i
      · by_cases sameOther : k = i
        · rw [same, sameOther]
        · rw [same, Function.update_self, Option.some_inj] at isHandler
          rw [Function.update_of_ne sameOther, ← isHandler] at isOther
          exact absurd (sound.handler_lt isOther) (Nat.lt_irrefl _)
      · rw [Function.update_of_ne same] at isHandler
        by_cases sameOther : k = i
        · rw [sameOther, Function.update_self, Option.some_inj] at isOther
          rw [← isOther] at isHandler
          exact absurd (sound.handler_lt isHandler) (Nat.lt_irrefl _)
        · rw [Function.update_of_ne sameOther] at isOther
          exact sound.distinct j k handler isHandler isOther
  next => exact sound

/-- The client of a connection goes on with it. -/
theorem distinct_setClient (sound : this.Sound place) {handler : Nat} {waits : Option Nat}
    (mine : (this.clients i).clientHandler = some handler) (j k other : Nat)
    (isHandler : (Function.update this.clients i ⟨some handler, waits⟩ j).clientHandler = some other)
    (isOther : (Function.update this.clients i ⟨some handler, waits⟩ k).clientHandler = some other) :
    j = k := by
  have kept : ∀ l, (Function.update this.clients i ⟨some handler, waits⟩ l).clientHandler =
      (this.clients l).clientHandler := by
    intro l
    by_cases same : l = i
    · subst same
      rw [Function.update_self, mine]
    · rw [Function.update_of_ne same]
  rw [kept] at isHandler isOther
  exact sound.distinct j k other isHandler isOther

/-- A call is made over the connection of its client. -/
theorem twoWay (sound : this.Sound place) {asked : Invocation}
    (known : ∃ operation, Asks asked operation) :
    ∃ place, (this.twoWay i asked).Sound place := by
  rw [System.twoWay]
  split
  next handler client =>
    have mine : (this.clients i).clientHandler = some handler := by
      rw [client]
    rcases sound.listens i handler mine with ⟨connection, found, free⟩
    have nothing : connection.outstanding = [] := by
      rw [List.eq_nil_iff_forall_not_mem]
      intro id isOutstanding
      have waits := free id isOutstanding
      rw [client] at waits
      cases waits
    have nonePending : connection.pending = [] :=
      List.map_eq_nil_iff.mp (List.append_eq_nil_iff.mp nothing).1
    have noneAnswered : connection.answers = [] :=
      List.map_eq_nil_iff.mp (List.append_eq_nil_iff.mp nothing).2
    have fresh : ∀ op, Seen.call this.calls op ∉ this.history := by
      intro op isCall
      exact Nat.lt_irrefl _ (sound.made this.calls op isCall)
    have linearizes := sound.linearizes.call fresh asked
    have sent : (connection.send (.invocation this.calls asked)).pending.Sublist
        [(this.calls, asked)] ∧ (connection.send (.invocation this.calls asked)).answers = [] := by
      rw [Connection.send]
      split
      · constructor
        · have one : ({ connection with
              packets := connection.packets ++ [.invocation this.calls asked] } :
              Connection).pending = connection.pending ++ [(this.calls, asked)] := by
            rw [Connection.pending, List.filterMap_append]
            rfl
          rw [one, nonePending]
          exact List.Sublist.refl _
        · exact noneAnswered
      · rw [nonePending]
        exact ⟨List.nil_sublist _, noneAnswered⟩
    have only : ∀ id ∈ (connection.send (.invocation this.calls asked)).outstanding,
        id = this.calls := by
      intro id isOutstanding
      rw [Connection.outstanding, sent.2, List.map_nil, List.append_nil] at isOutstanding
      exact List.mem_singleton.mp ((sent.1.map Prod.fst).subset isOutstanding)
    refine ⟨Function.update place this.calls handler, ?_⟩
    constructor
    case linearizes => exact linearizes
    case made =>
      intro id op isCall
      rcases List.mem_append.mp isCall with old | new
      · exact Nat.lt_succ_of_lt (sound.made id op old)
      · cases List.mem_singleton.mp new
        exact Nat.lt_succ_self _
    case connections =>
      intro j other isOther
      rcases connections_modify_cases isOther with ⟨rfl, before, isBefore, rfl⟩ | ⟨-, same⟩
      · rw [found, Option.some_inj] at isBefore
        subst isBefore
        constructor
        case one =>
          have length := sent.1.length_le
          rw [Connection.outstanding, sent.2, List.map_nil, List.append_nil, List.length_map]
          exact length
        case pending =>
          intro pending isPending
          rw [List.mem_singleton.mp (sent.1.subset isPending)]
          refine ⟨List.mem_append_right _ List.mem_cons_self, known, ?_⟩
          intro isServed
          rcases List.mem_map.mp isServed with ⟨served, member, same⟩
          have isCall := sound.linearizes.called served member
          rw [same] at isCall
          exact fresh served.op isCall
        case answered =>
          intro answer isAnswer
          rw [sent.2] at isAnswer
          cases isAnswer
      · exact (sound.connections j other same).see _
    case placed =>
      intro j other isOther id isOutstanding
      change Function.update place this.calls handler id = j ∧ id < this.calls + 1
      rcases connections_modify_cases isOther with ⟨rfl, before, isBefore, rfl⟩ | ⟨-, same⟩
      · rw [found, Option.some_inj] at isBefore
        subst isBefore
        rw [only id isOutstanding, Function.update_self]
        exact ⟨rfl, Nat.lt_succ_self _⟩
      · rcases sound.placed j other same id isOutstanding with ⟨isPlace, old⟩
        rw [Function.update_of_ne (Nat.ne_of_lt old)]
        exact ⟨isPlace, Nat.lt_succ_of_lt old⟩
    case listens =>
      intro j other isHandler
      change (Function.update this.clients i _ j).clientHandler = _ at isHandler
      change ∃ connection, (this.connections.modify handler _)[other]? = some connection ∧
        ∀ id ∈ connection.outstanding, (Function.update this.clients i _ j).waits = some id
      by_cases same : j = i
      · subst same
        rw [Function.update_self, Option.some_inj] at isHandler
        subst isHandler
        rw [Function.update_self, List.getElem?_modify_eq, found]
        refine ⟨_, rfl, ?_⟩
        intro id isOutstanding
        rw [only id isOutstanding]
      · rw [Function.update_of_ne same] at isHandler ⊢
        have apart : handler ≠ other := by
          rintro rfl
          exact same (sound.distinct j i handler isHandler mine)
        rw [List.getElem?_modify_ne _ _ apart]
        exact sound.listens j other isHandler
    case distinct => exact sound.distinct_setClient mine
  next => exact ⟨place, sound⟩

/-- A call is served, and its thread goes on with the reply. -/
theorem serve (sound : this.Sound place) (here : this.connections[i]? = some connection)
    {call : Nat} {asked : Invocation} {operation : Operation} {rest : List (Nat × Invocation)}
    (first : connection.pending = (call, asked) :: rest) (asks : Asks asked operation)
    {f : Connection → Connection} (pending : (f connection).pending = rest)
    (answers : (f connection).answers =
      (call, operation.reply this.service.testObject.mSum) :: connection.answers) :
    ({ this.modify i f with
        service :=
          { this.service with testObject := ⟨operation.after this.service.testObject.mSum⟩ }
        served := this.served ++
          [⟨call, asked, operation.reply this.service.testObject.mSum⟩] } : System).Sound place := by
  have holds := sound.connections i connection here
  rcases holds.of_pending first with ⟨rfl, unanswered⟩
  have isPending : (call, asked) ∈ connection.pending := by
    rw [first]
    exact List.mem_cons_self
  rcases holds.pending (call, asked) isPending with ⟨made, -, unserved⟩
  have same : (f connection).outstanding = connection.outstanding := by
    rw [Connection.outstanding, Connection.outstanding, pending, answers, first, unanswered]
    rfl
  have mine : call ∈ connection.outstanding :=
    List.mem_append_left _ (List.mem_map_of_mem isPending)
  constructor
  case linearizes => exact sound.linearizes.serve made unserved ⟨operation, asks, rfl, rfl⟩
  case made => exact sound.made
  case connections =>
    intro j other found
    rcases connections_modify_cases found with ⟨rfl, before, isBefore, rfl⟩ | ⟨apart, old⟩
    · rw [here, Option.some_inj] at isBefore
      subst isBefore
      constructor
      case one =>
        rw [same]
        exact holds.one
      case pending =>
        intro other isOther
        rw [pending] at isOther
        cases isOther
      case answered =>
        intro answer isAnswer
        rw [answers, unanswered] at isAnswer
        rw [List.mem_singleton.mp isAnswer]
        exact ⟨asked, List.mem_append_right _ List.mem_cons_self⟩
    · apply (sound.connections j other old).serve
      intro isOutstanding
      have place := (sound.placed j other old call isOutstanding).1
      exact apart (place.symm.trans (sound.placed i connection here call mine).1)
  case placed =>
    intro j other found id isOutstanding
    rcases connections_modify_cases found with ⟨rfl, before, isBefore, rfl⟩ | ⟨-, old⟩
    · rw [here, Option.some_inj] at isBefore
      subst isBefore
      rw [same] at isOutstanding
      exact sound.placed j connection here id isOutstanding
    · exact sound.placed j other old id isOutstanding
  case listens =>
    intro j handler isHandler
    rcases sound.listens j handler isHandler with ⟨other, found, waits⟩
    change ∃ other, (this.connections.modify i f)[handler]? = some other ∧ _
    by_cases isHere : i = handler
    · subst isHere
      rw [here, Option.some_inj] at found
      subst found
      rw [List.getElem?_modify_eq, here]
      refine ⟨f connection, rfl, ?_⟩
      rw [same]
      exact waits
    · rw [List.getElem?_modify_ne _ _ isHere]
      exact ⟨other, found, waits⟩
  case distinct => exact sound.distinct

theorem handle (sound : this.Sound place) (left : Uninitialised) :
    ∃ after, this.handle i left = .ok after ∧ after.Sound place := by
  rw [System.handle]
  split
  next packet packets replies clientOpen serviceOpen here =>
    cases packet with
    | oneWay asked =>
        have ends : ∃ exited, RPCService.handleOneWayInvocation left asked.oid asked.arg =
            .ok exited := by
          rw [RPCService.handleOneWayInvocation]
          split
          · exact ⟨false, rfl⟩
          · split
            · rcases readField_ok 2 (fun bytes => UInt16.ofNat (Wire.ofLE bytes)) left.op
                ⟨asked.arg, true⟩ with ⟨⟨op, is⟩, read⟩
              rw [RPCRuntimeManagerObject.handleOneWayInvocation, Wire.readUShort, read]
              exact ⟨_, rfl⟩
            · exact ⟨false, rfl⟩
        rcases ends with ⟨exited, ends⟩
        rw [System.handlePacket, ends]
        have kept : (this.modify i fun connection => { connection with packets }).Sound place := by
          apply sound.modify
          intro connection found
          rw [here, Option.some_inj] at found
          subst found
          exact ⟨List.Sublist.refl _, (List.Perm.refl _).subperm⟩
        exact ⟨_, rfl, { kept with }⟩
    | invocation call asked =>
        have holds := sound.connections i _ here
        have first : Connection.pending
            ⟨.invocation call asked :: packets, .idle, replies, clientOpen, serviceOpen⟩ =
              (call, asked) :: packets.filterMap Packet.invocation? := rfl
        have isPending : (call, asked) ∈ (call, asked) :: packets.filterMap Packet.invocation? :=
          List.mem_cons_self
        rw [← first] at isPending
        rcases holds.pending (call, asked) isPending with ⟨-, ⟨operation, asks⟩, -⟩
        have invoked := this.service.handleTwoWayInvocation_of_asks left asks
        rw [System.handlePacket]
        change ∃ after, (this.service.handleTwoWayInvocation left asked.oid asked.arg >>= _) =
          .ok after ∧ _
        rw [invoked]
        refine ⟨_, rfl, ?_⟩
        rw [System.modify, System.modify]
        simp only [List.modify_modify_eq]
        apply sound.serve here first asks rfl
        cases (if this.service.isFT then operation.update this.service.testObject.mSum else none) with
        | none => rfl
        | some update => rfl
  next => exact ⟨this, rfl, sound⟩

theorem receive (sound : this.Sound place) : (this.receive i).Sound place := by
  rw [System.receive]
  split
  next handler call client =>
    have mine : (this.clients i).clientHandler = some handler := by
      rw [client]
    split
    next packets handling k payload replies clientOpen serviceOpen found =>
      have holds := sound.connections handler _ found
      rcases holds.of_replies rfl with ⟨rfl, nonePending, noneHandled⟩
      have isAnswer : (k, payload) ∈ Connection.answers
          ⟨packets, handling, [(k, payload)], clientOpen, serviceOpen⟩ :=
        List.mem_append_right _ List.mem_cons_self
      rcases sound.listens i handler mine with ⟨connection, same, waits⟩
      rw [found, Option.some_inj] at same
      subst same
      -- The reply that comes is the one that the client waits for.
      have awaited := waits k (List.mem_append_right _ (List.mem_map_of_mem isAnswer))
      rw [client] at awaited
      cases awaited
      rcases holds.answered (call, payload) isAnswer with ⟨asked, served⟩
      have empty : Connection.outstanding
          ⟨packets, handling, [], clientOpen, serviceOpen⟩ = [] := by
        rw [Connection.outstanding, Connection.answers, noneHandled]
        exact congrArg (List.map Prod.fst · ++ []) nonePending
      have none : ∀ id, id ∉ Connection.outstanding
          ⟨packets, handling, [], clientOpen, serviceOpen⟩ := by
        intro id isOutstanding
        rw [empty] at isOutstanding
        cases isOutstanding
      have kept : Connection.Sound this.history this.served
          ⟨packets, handling, [], clientOpen, serviceOpen⟩ := by
        refine And.left (holds.less ?_ ?_)
        · exact List.Sublist.refl _
        · exact (List.Sublist.append_left (List.nil_sublist _) _).subperm
      constructor
      case linearizes => exact sound.linearizes.answer served
      case made =>
        intro id op isCall
        rcases List.mem_append.mp isCall with old | new
        · exact sound.made id op old
        · cases List.mem_singleton.mp new
      case connections =>
        intro j other isOther
        rcases connections_modify_cases isOther with ⟨rfl, before, isBefore, rfl⟩ | ⟨-, same⟩
        · rw [found, Option.some_inj] at isBefore
          subst isBefore
          exact kept.see _
        · exact (sound.connections j other same).see _
      case placed =>
        intro j other isOther id isOutstanding
        rcases connections_modify_cases isOther with ⟨rfl, before, isBefore, rfl⟩ | ⟨-, same⟩
        · rw [found, Option.some_inj] at isBefore
          subst isBefore
          exact absurd isOutstanding (none id)
        · exact sound.placed j other same id isOutstanding
      case listens =>
        intro j other isHandler
        change (Function.update this.clients i _ j).clientHandler = _ at isHandler
        change ∃ connection : Connection, (this.connections.modify handler _)[other]? = _ ∧
          ∀ id ∈ connection.outstanding, (Function.update this.clients i _ j).waits = some id
        by_cases same : j = i
        · subst same
          rw [Function.update_self, Option.some_inj] at isHandler
          subst isHandler
          rw [List.getElem?_modify_eq, found]
          exact ⟨_, rfl, fun id isOutstanding => absurd isOutstanding (none id)⟩
        · rw [Function.update_of_ne same] at isHandler ⊢
          have apart : handler ≠ other := by
            rintro rfl
            exact same (sound.distinct j i handler isHandler mine)
          rw [List.getElem?_modify_ne _ _ apart]
          exact sound.listens j other isHandler
      case distinct => exact sound.distinct_setClient mine
    next => exact sound
  next => exact sound

theorem fail (sound : this.Sound place) : (this.fail i).Sound place := by
  rw [System.fail]
  split
  next handler mine =>
    apply Sound.release
    apply sound.modify
    intro connection found
    have closed := connection.closeClient_less
    exact ⟨closed.1 ▸ List.Sublist.refl _, closed.2⟩
  next => exact sound

variable (members : List UUID) (groups : UUID → P3ReplicationGroup)

theorem replicate (sound : this.Sound place) : (this.replicate members groups i).Sound place := by
  rw [System.replicate]
  split
  next packets call payload update upTo replies clientOpen serviceOpen here =>
    have kept : (this.modify i fun connection => { connection with
        handling := .replicating call payload this.replication.calls.length }).Sound place := by
      apply sound.modify
      intro connection found
      rw [here, Option.some_inj] at found
      subst found
      exact ⟨List.Sublist.refl _, (List.Perm.refl _).subperm⟩
    exact { kept with }
  next => exact sound

theorem stepReplication (sound : this.Sound place) (event : ReplicationEvent) :
    (this.stepReplication members groups event).Sound place := by
  have unlessExited : ∀ after : System, after.Sound place →
      (if this.exited then this else after).Sound place := by
    intro after holds
    split
    · exact sound
    · exact holds
  cases event with
  | replicate payload => exact sound
  | send call => exact unlessExited _ { sound with }
  | deliver peer => exact { sound with }
  | receive peer => exact unlessExited _ { sound with }
  | await call => exact unlessExited _ { sound with }

theorem replicated (sound : this.Sound place) : (this.replicated i).Sound place := by
  rw [System.replicated]
  split
  next packets call payload k replies clientOpen serviceOpen here =>
    split
    next thread found =>
      split
      · apply sound.modify
        intro connection found
        rw [here, Option.some_inj] at found
        subst found
        exact ⟨List.Sublist.refl _, (List.Perm.refl _).subperm⟩
      · exact sound
    next => exact sound
  next => exact sound

theorem reply (sound : this.Sound place) : (this.reply i).Sound place := by
  rw [System.reply]
  split
  next packets call payload replies clientOpen serviceOpen here =>
    apply sound.modify
    intro connection found
    rw [here, Option.some_inj] at found
    subst found
    have less := @Connection.sendReply_less
      ⟨packets, .reply call payload, replies, clientOpen, serviceOpen⟩ call payload rfl
    exact ⟨less.1 ▸ List.Sublist.refl _, less.2⟩
  next => exact sound

theorem oneWay (sound : this.Sound place) (asked : Invocation) :
    (this.oneWay i asked).Sound place := by
  rw [System.oneWay]
  split
  next handler client =>
    apply sound.modify
    intro connection found
    rcases connection.send_oneWay asked with ⟨pending, answers⟩
    rw [pending, answers]
    exact ⟨List.Sublist.refl _, (List.Perm.refl _).subperm⟩
  next => exact sound

/-- A step with a known invocation has no fault. -/
theorem step (sound : this.Sound place) (event : Event)
    (known : ∀ client asked, event = .twoWay client asked → ∃ operation, Asks asked operation) :
    ∃ after, this.step members groups event = .ok after ∧ ∃ place, after.Sound place := by
  cases event with
  | bind client =>
      refine ⟨_, rfl, place, ?_⟩
      split
      · exact sound
      · exact sound.bind client
  | twoWay client asked => exact ⟨_, rfl, sound.twoWay (known client asked rfl)⟩
  | oneWay client asked => exact ⟨_, rfl, place, sound.oneWay asked⟩
  | handle connection left =>
      rw [System.step]
      split
      · exact ⟨this, rfl, place, sound⟩
      · rcases sound.handle left with ⟨after, done, holds⟩
        exact ⟨after, done, place, holds⟩
  | replicate connection =>
      refine ⟨_, rfl, place, ?_⟩
      split
      · exact sound
      · exact sound.replicate members groups
  | replication event => exact ⟨_, rfl, place, sound.stepReplication members groups event⟩
  | replicated connection =>
      refine ⟨_, rfl, place, ?_⟩
      split
      · exact sound
      · exact sound.replicated
  | reply connection =>
      refine ⟨_, rfl, place, ?_⟩
      split
      · exact sound
      · exact sound.reply
  | receive client => exact ⟨_, rfl, place, sound.receive⟩
  | fail client => exact ⟨_, rfl, place, sound.fail⟩
  | drop connection =>
      refine ⟨_, rfl, place, ?_⟩
      apply sound.modify
      intro other found
      exact ⟨List.nil_sublist _, (List.Perm.refl _).subperm⟩

end Sound

theorem sound_opened (isFT : Bool) (sequenceID : UUID → UInt32) :
    (opened isFT sequenceID).Sound fun _ => 0 where
  linearizes := Linearizes.start_nil counter 0
  made := by
    intro id op impossible
    cases impossible
  connections := by
    intro i connection impossible
    cases impossible
  placed := by
    intro i connection impossible
    cases impossible
  listens := by
    intro i handler impossible
    cases impossible
  distinct := by
    intro i j handler impossible
    cases impossible

theorem Sound.run {this : System} {place : Nat → Nat} (sound : this.Sound place)
    (members : List UUID) (groups : UUID → P3ReplicationGroup) {events : List Event}
    (known : ∀ client asked, .twoWay client asked ∈ events → ∃ operation, Asks asked operation) :
    ∃ after, this.run members groups events = .ok after ∧ ∃ place, after.Sound place := by
  induction events generalizing this place with
  | nil => exact ⟨this, rfl, place, sound⟩
  | cons event events inductionHypothesis =>
      have here : ∀ client asked, event = .twoWay client asked →
          ∃ operation, Asks asked operation := by
        rintro client asked rfl
        exact known client asked List.mem_cons_self
      rcases sound.step members groups event here with ⟨next, done, later, holds⟩
      rw [System.run, List.foldlM_cons, done]
      exact inductionHypothesis holds fun client asked isEvent =>
        known client asked (List.mem_cons_of_mem _ isEvent)

/-- For any clients, any interleaving of the threads of the service and any failures of the
channels: as long as the invocations are of operations that the objects have, the service
goes on, each call is served once at most, and what the clients see is what a counter
would have answered to one call after another, in an order that respects which call was
answered before which was made. -/
theorem invocations_linearize (members : List UUID) (groups : UUID → P3ReplicationGroup)
    (isFT : Bool) (sequenceID : UUID → UInt32) (events : List Event)
    (known : ∀ client asked, .twoWay client asked ∈ events → ∃ operation, Asks asked operation) :
    ∃ after, (opened isFT sequenceID).run members groups events = .ok after ∧
      Linearizes counter 0 after.history after.served after.service.testObject.mSum := by
  rcases (sound_opened isFT sequenceID).run members groups known with ⟨after, done, place, sound⟩
  exact ⟨after, done, sound.linearizes⟩

/-! ## Two clients -/

section TwoClients

/-- `RPCTestObjectClient::sum`. -/
def sumOf (num : Int32) : Invocation :=
  ⟨RPCTestObject.oid, Wire.writeUShort RPCTestObject.SUM_OP ++ Wire.writeLong num.toInt⟩

theorem asks_sumOf (num : Int32) : Asks (sumOf num) (.sum num) := by
  have asks := Asks.sum num []
  rwa [List.append_nil] at asks

def nothingLeft : Uninitialised :=
  ⟨0, 0, 0, 0⟩

/-- The second call is served first, and the first client does not wait for its reply. -/
def twoClients : List Event :=
  [.bind 0, .bind 1, .twoWay 0 (sumOf 5), .twoWay 1 (sumOf 7), .handle 1 nothingLeft,
    .handle 0 nothingLeft, .fail 0, .reply 0, .reply 1, .receive 1]

theorem invocations_linearize_twoClients :
    ∃ after, (opened false fun _ => 0).run [] Replication.replicaGroups twoClients = .ok after ∧
      Linearizes counter 0 after.history after.served after.service.testObject.mSum := by
  have known : ∀ client asked, .twoWay client asked ∈ twoClients →
      ∃ operation, Asks asked operation := by
    intro client asked isEvent
    simp only [twoClients, List.mem_cons, Event.twoWay.injEq, reduceCtorEq, List.not_mem_nil,
      or_false, false_or] at isEvent
    rcases isEvent with ⟨-, rfl⟩ | ⟨-, rfl⟩
    · exact ⟨.sum 5, asks_sumOf 5⟩
    · exact ⟨.sum 7, asks_sumOf 7⟩
  exact invocations_linearize [] _ false (fun _ => 0) twoClients known

end TwoClients

end System

end Stheno.RPC
