import Mathlib.Data.List.Nodup
import Stheno.RPC.Exchange
import Stheno.Selection

/-!
# The sums of the replicas

A replica takes over the sum of each update that it replays, so that it has what the
service had when the last of these was made.  A sum is answered only after its update was
replayed everywhere.  What was answered is in every replica as long as the replicas replay
the updates in the order of the sums; the lock of the sum does not see to that.
-/

namespace Stheno.RPC

open FT Wire

/-- An update carries the sum of the first calls served. -/
def Update (served : List (Served Invocation (List UInt8))) (upTo : Nat) (payload : List UInt8) :
    Prop :=
  upTo ≤ served.length ∧ ∃ sum : Int32, payload = writeLong sum.toInt ∧
    Serves counter 0 (served.take upTo) sum

theorem Update.snoc {served : List (Served Invocation (List UInt8))} {upTo : Nat}
    {payload : List UInt8} (update : Update served upTo payload)
    (last : Served Invocation (List UInt8)) : Update (served ++ [last]) upTo payload := by
  rcases update with ⟨within, sum, equal, serves⟩
  refine ⟨?_, sum, equal, ?_⟩
  · rw [List.length_append]
    exact Nat.le_add_right_of_le within
  · rwa [List.take_append_of_le_length within]

/-! ## The calls of `replicate` -/

/-- Calls go on, and those that can return stay as they are. -/
def Advances (before after : List ReplicateCall) : Prop :=
  after.length = before.length ∧ ∀ (k : Nat) (thread : ReplicateCall), before[k]? = some thread →
    ∃ later, after[k]? = some later ∧ later.payload = thread.payload ∧
      (thread.returned = true → later = thread)

namespace Advances

theorem refl (calls : List ReplicateCall) : Advances calls calls :=
  ⟨rfl, fun _ thread found => ⟨thread, found, rfl, fun _ => rfl⟩⟩

theorem set {calls : List ReplicateCall} {k : Nat} {before after : ReplicateCall}
    (found : calls[k]? = some before) (payload : after.payload = before.payload)
    (busy : before.returned = false) : Advances calls (calls.set k after) := by
  refine ⟨List.length_set, ?_⟩
  intro j thread isThread
  by_cases here : k = j
  · subst here
    rw [found, Option.some_inj] at isThread
    subst isThread
    have within := (List.getElem?_eq_some_iff.mp found).1
    refine ⟨after, List.getElem?_set_self within, payload, ?_⟩
    intro returned
    rw [busy] at returned
    cases returned
  · rw [List.getElem?_set_ne here]
    exact ⟨thread, isThread, rfl, fun _ => rfl⟩

/-- What happens to a call that is there later. -/
theorem before {calls later : List ReplicateCall} (advances : Advances calls later) {k : Nat}
    {thread : ReplicateCall} (found : later[k]? = some thread) :
    ∃ earlier, calls[k]? = some earlier ∧ thread.payload = earlier.payload ∧
      (thread.returned = false → earlier.returned = false) := by
  have within := (List.getElem?_eq_some_iff.mp found).1
  rw [advances.1] at within
  have isEarlier := List.getElem?_eq_getElem within
  rcases advances.2 k _ isEarlier with ⟨other, isOther, payload, kept⟩
  rw [found, Option.some_inj] at isOther
  subst isOther
  refine ⟨_, isEarlier, payload, ?_⟩
  intro busy
  rw [← Bool.not_eq_true] at busy ⊢
  intro returned
  rw [kept returned] at busy
  exact busy returned

end Advances

theorem advances_step {members : List UUID} {groups : UUID → P3ReplicationGroup}
    (this : Replication) {event : ReplicationEvent}
    (other : ∀ payload, event ≠ .replicate payload) :
    Advances this.calls (this.step members groups event).calls := by
  cases event with
  | replicate payload => exact absurd rfl (other payload)
  | send call =>
      change Advances this.calls (this.send call).calls
      rw [Replication.send]
      split
      next payload peer rest lr found => exact Advances.set found rfl rfl
      next => exact Advances.refl _
  | deliver peer => exact Advances.refl _
  | receive peer => exact Advances.refl _
  | await call =>
      change Advances this.calls (this.await call).calls
      rcases this.await_cases call with same | ⟨payload, peer, k, lr, channel, found, -, after⟩
      · rw [same]
        exact Advances.refl _
      · rw [after]
        exact Advances.set found rfl rfl

namespace System

/-- The sum of the first calls served was replicated. -/
def Applied (this : System) (upTo : Nat) : Prop :=
  ∃ (k : Nat) (thread : ReplicateCall), this.updates[k]? = some upTo ∧
    this.replication.calls[k]? = some thread ∧ thread.returned = true

/-- If the call has made a sum, that was replicated. -/
def Backed (this : System) (call : Nat) : Prop :=
  ∀ (position : Nat) (served : Served Invocation (List UInt8)) num,
    this.served[position]? = some served → served.id = call → Asks served.op (.sum num) →
      this.Applied (position + 1)

/-- The call was the last of the first calls served. -/
def At (this : System) (call upTo : Nat) : Prop :=
  ∃ (position : Nat) (served : Served Invocation (List UInt8)), upTo = position + 1 ∧
    this.served[position]? = some served ∧ served.id = call

/-- A thread replies when the sum of its call was replicated. -/
def Handles (this : System) : Handling → Prop
  | .idle => True
  | .replicate call _ update upTo => Update this.served upTo update ∧ this.At call upTo
  | .replicating call _ k => ∃ upTo, this.updates[k]? = some upTo ∧ this.At call upTo
  | .reply call _ => this.Backed call

/-- The thread of the connection is in a call of `replicate`. -/
def Owns (this : System) (i k : Nat) : Prop :=
  ∃ (connection : Connection) (call : Nat) (payload : List UInt8),
    this.connections[i]? = some connection ∧ connection.handling = .replicating call payload k

/-- What the clients have answers for was replicated, and who has not returned from
`replicate` is the thread of a connection. -/
structure Replicates (members : List UUID) (sequenceID : UUID → UInt32) (sends : Sends)
    (this : System) : Prop where
  isFT : this.service.isFT = true
  tracks : this.replication.Tracks members sends
  waits : this.replication.Waits sequenceID sends
  counted : this.updates.length = this.replication.calls.length
  updated : ∀ (k : Nat) (thread : ReplicateCall), this.replication.calls[k]? = some thread →
    ∃ upTo, this.updates[k]? = some upTo ∧ Update this.served upTo thread.payload
  handles : ∀ (i : Nat) (connection : Connection), this.connections[i]? = some connection →
    this.Handles connection.handling
  replies : ∀ (i : Nat) (connection : Connection), this.connections[i]? = some connection →
    ∀ answer ∈ connection.replies, this.Backed answer.1
  answered : ∀ id ret, Seen.answer id ret ∈ this.history → this.Backed id
  owned : ∀ (k : Nat) (thread : ReplicateCall), this.replication.calls[k]? = some thread →
    thread.returned = false → ∃ i, this.Owns i k

namespace Replicates

variable {members : List UUID} {sequenceID : UUID → UInt32} {sends : Sends} {this : System}
  {i : Nat}

/-- A request that waits belongs to a call that has not returned. -/
theorem exists_owner (replicates : this.Replicates members sequenceID sends) {peer : UUID}
    {k index : Nat} {update : List UInt8} (sent : (sends.order peer)[k]? = some (index, update))
    (waiting : (this.replication.channels peer).answered ≤ k) : ∃ i, this.Owns i index := by
  have member := List.mem_of_getElem? sent
  rcases (replicates.tracks.sound.mem peer index update).mp member with ⟨rest, found, -⟩
  rw [replicates.tracks.follows.getElem?] at found
  rcases Option.map_eq_some_iff.mp found with ⟨thread, isThread, equal⟩
  have isUpdate : thread.payload = update := (Prod.mk.inj equal).1
  rw [← isUpdate] at member sent
  rcases replicates.waits.waits index thread isThread peer member with ⟨position, isAt, waits⟩
  -- Every call is sent once over a channel.
  have same : position = k := by
    have distinct := replicates.tracks.sound.nodup peer
    have first : ((sends.order peer).map Prod.fst)[position]? = some index := by
      rw [List.getElem?_map, isAt]
      rfl
    have second : ((sends.order peer).map Prod.fst)[k]? = some index := by
      rw [List.getElem?_map, sent]
      rfl
    have within := (List.getElem?_eq_some_iff.mp first).1
    exact (List.getElem?_inj within distinct).mp (first.trans second.symm)
  subst same
  have isWaiting : (peer, position) ∈ thread.lr := by
    rcases waits with isWaiting | had
    · exact isWaiting
    · exact absurd had (Nat.not_lt.mpr waiting)
  apply replicates.owned index thread isThread
  rw [ReplicateCall.returned, Bool.and_eq_false_iff]
  right
  rw [← Bool.not_eq_true, List.isEmpty_iff]
  exact List.ne_nil_of_mem isWaiting

/-- The threads of the service are as many as its connections, and each waits for one request
of a channel. -/
theorem fewWait (replicates : this.Replicates members sequenceID sends)
    (bounded : this.connections.length ≤ 2 ^ 32) : this.replication.FewWait := by
  intro peer
  have next := (replicates.waits.numbered peer).next
  rw [DataChannel.FewWait, next]
  have distinct : (((sends.order peer).map Prod.fst).drop
      (this.replication.channels peer).answered).Nodup :=
    (replicates.tracks.sound.nodup peer).sublist (List.drop_sublist _ _)
  have owned : ∀ index ∈ ((sends.order peer).map Prod.fst).drop
      (this.replication.channels peer).answered,
        ∃ j, j < this.connections.length ∧ this.Owns j index := by
    intro index isWaiting
    rcases List.getElem?_of_mem isWaiting with ⟨j, isAt⟩
    rw [List.getElem?_drop, List.getElem?_map] at isAt
    rcases Option.map_eq_some_iff.mp isAt with ⟨⟨index, update⟩, sent, rfl⟩
    rcases replicates.exists_owner sent (Nat.le_add_right _ _) with ⟨owner, owns⟩
    have within := owns
    rcases within with ⟨connection, call, payload, found, -⟩
    exact ⟨owner, (List.getElem?_eq_some_iff.mp found).1, owns⟩
  have one : ∀ j a b, this.Owns j a → this.Owns j b → a = b := by
    rintro j a b ⟨connection, call, payload, found, handling⟩ ⟨other, _, _, isOther, handlingOther⟩
    rw [found, Option.some_inj] at isOther
    rw [← isOther, handling] at handlingOther
    exact (Handling.replicating.inj handlingOther).2.2
  have waiting := length_le_of_owners distinct owned one
  rw [List.length_drop, List.length_map] at waiting
  omega

/-! ## What a step does -/

/-- One connection changes, whose thread does not leave a call of `replicate` early. -/
theorem modify (replicates : this.Replicates members sequenceID sends)
    {f : Connection → Connection}
    (handles : ∀ connection, this.connections[i]? = some connection →
      this.Handles (f connection).handling)
    (replies : ∀ connection, this.connections[i]? = some connection →
      ∀ answer ∈ (f connection).replies, this.Backed answer.1)
    (stays : ∀ connection call payload k, this.connections[i]? = some connection →
      connection.handling = .replicating call payload k →
        (f connection).handling = connection.handling ∨
          ∀ thread, this.replication.calls[k]? = some thread → thread.returned = true) :
    (this.modify i f).Replicates members sequenceID sends where
  isFT := replicates.isFT
  tracks := replicates.tracks
  waits := replicates.waits
  counted := replicates.counted
  updated := replicates.updated
  handles := by
    intro j connection found
    rcases connections_modify_cases found with ⟨rfl, before, isBefore, rfl⟩ | ⟨-, same⟩
    · exact handles before isBefore
    · exact replicates.handles j connection same
  replies := by
    intro j connection found
    rcases connections_modify_cases found with ⟨rfl, before, isBefore, rfl⟩ | ⟨-, same⟩
    · exact replies before isBefore
    · exact replicates.replies j connection same
  answered := replicates.answered
  owned := by
    intro k thread found busy
    rcases replicates.owned k thread found busy with ⟨j, connection, call, payload, isAt, handling⟩
    refine ⟨j, ?_⟩
    by_cases here : i = j
    · subst here
      rcases stays connection call payload k isAt handling with same | returned
      · refine ⟨f connection, call, payload, ?_, same.trans handling⟩
        change (this.connections.modify i f)[i]? = _
        rw [List.getElem?_modify_eq, isAt]
        rfl
      · rw [returned thread found] at busy
        cases busy
    · refine ⟨connection, call, payload, ?_, handling⟩
      change (this.connections.modify i f)[j]? = _
      rw [List.getElem?_modify_ne _ _ here]
      exact isAt

end Replicates

/-- The calls that are known to be backed stay so when another is served. -/
theorem Backed.serve {this after : System} {last : Served Invocation (List UInt8)} {call : Nat}
    (backed : this.Backed call) (other : call ≠ last.id)
    (served : after.served = this.served ++ [last]) (updates : after.updates = this.updates)
    (replication : after.replication = this.replication) : after.Backed call := by
  intro position entry num found isCall asks
  rw [served] at found
  have old : this.served[position]? = some entry := by
    rcases Nat.lt_or_ge position this.served.length with within | beyond
    · rwa [List.getElem?_append_left within] at found
    · rw [List.getElem?_append_right beyond] at found
      have isLast := List.mem_singleton.mp (List.mem_of_getElem? found)
      rw [isLast] at isCall
      exact absurd isCall.symm other
  have applied := backed position entry num old isCall asks
  rwa [Applied, updates, replication]

theorem At.serve {this after : System} {last : Served Invocation (List UInt8)} {call upTo : Nat}
    (isAt : this.At call upTo) (served : after.served = this.served ++ [last]) :
    after.At call upTo := by
  rcases isAt with ⟨position, entry, equal, found, isCall⟩
  refine ⟨position, entry, equal, ?_, isCall⟩
  rw [served, List.getElem?_append_left (List.getElem?_eq_some_iff.mp found).1]
  exact found

theorem Handles.serve {this after : System} {last : Served Invocation (List UInt8)}
    {handling : Handling} (handles : this.Handles handling)
    (other : ∀ answer ∈ handling.answer?, answer.1 ≠ last.id)
    (served : after.served = this.served ++ [last]) (updates : after.updates = this.updates)
    (replication : after.replication = this.replication) : after.Handles handling := by
  cases handling with
  | idle => trivial
  | replicate call payload update upTo =>
      refine ⟨?_, handles.2.serve served⟩
      rw [served]
      exact handles.1.snoc last
  | replicating call payload k =>
      rcases handles with ⟨upTo, isUpdate, isAt⟩
      refine ⟨upTo, ?_, isAt.serve served⟩
      rw [updates]
      exact isUpdate
  | reply call payload =>
      exact Backed.serve handles (other (call, payload) rfl) served updates replication

theorem Backed.mono {this after : System} {call : Nat} (backed : this.Backed call)
    (served : after.served = this.served)
    (keeps : ∀ upTo, this.Applied upTo → after.Applied upTo) : after.Backed call := by
  intro position entry num found isCall asks
  rw [served] at found
  exact keeps _ (backed position entry num found isCall asks)

theorem Handles.mono {this after : System} {handling : Handling} (handles : this.Handles handling)
    (served : after.served = this.served)
    (updates : ∀ (k upTo : Nat), this.updates[k]? = some upTo → after.updates[k]? = some upTo)
    (keeps : ∀ upTo, this.Applied upTo → after.Applied upTo) : after.Handles handling := by
  have same : ∀ {call upTo}, this.At call upTo → after.At call upTo := by
    intro call upTo isAt
    rwa [At, served]
  cases handling with
  | idle => trivial
  | replicate call payload update upTo =>
      refine ⟨?_, same handles.2⟩
      rw [served]
      exact handles.1
  | replicating call payload k =>
      rcases handles with ⟨upTo, isUpdate, isAt⟩
      exact ⟨upTo, updates k upTo isUpdate, same isAt⟩
  | reply call payload => exact Backed.mono handles served keeps

/-- Only a sum is replicated. -/
theorem handles_served {this next : System} {call : Nat} {asked : Invocation}
    {operation : Operation}
    (linearizes : Linearizes counter 0 this.history this.served this.service.testObject.mSum)
    (unserved : call ∉ this.served.map Served.id) (asks : Asks asked operation)
    (served : next.served = this.served ++
      [⟨call, asked, operation.reply this.service.testObject.mSum⟩]) :
    next.Handles (match operation.update this.service.testObject.mSum with
      | some update => .replicate call (operation.reply this.service.testObject.mSum) update
          (this.served ++ [(⟨call, asked, operation.reply this.service.testObject.mSum⟩ :
            Served Invocation (List UInt8))]).length
      | none => .reply call (operation.reply this.service.testObject.mSum)) := by
  cases operation with
  | sum num =>
      constructor
      · rw [served]
        refine ⟨Nat.le_refl _, this.service.testObject.mSum + num, rfl, ?_⟩
        rw [List.take_length]
        exact .snoc linearizes.serves ⟨.sum num, asks, rfl, rfl⟩
      · refine ⟨this.served.length,
          ⟨call, asked, (Operation.sum num).reply this.service.testObject.mSum⟩, ?_, ?_, rfl⟩
        · exact List.length_append
        · rw [served]
          exact List.getElem?_concat_length
  | temporaryFault =>
      intro position entry num found isCall sums
      rw [served] at found
      rcases List.mem_append.mp (List.mem_of_getElem? found) with old | last
      · rw [← isCall] at unserved
        exact absurd (List.mem_map_of_mem old) unserved
      · rw [List.mem_singleton.mp last] at sums
        have other : RPCRuntimeManagerObject.oid = RPCTestObject.oid := asks.oid.symm.trans sums.oid
        exact absurd other (by decide)

namespace Replicates

variable {members : List UUID} {sequenceID : UUID → UInt32} {sends : Sends} {this : System}
  {place : Nat → Nat} {i : Nat}

/-- A call is served by the thread of its connection. -/
theorem serve (replicates : this.Replicates members sequenceID sends) (sound : this.Sound place)
    {connection : Connection} (here : this.connections[i]? = some connection)
    (idle : connection.handling = .idle) {last : Served Invocation (List UInt8)}
    (isPending : (last.id, last.op) ∈ connection.pending) {f : Connection → Connection}
    (replies : (f connection).replies = connection.replies) {next : System}
    (isFT : next.service.isFT = this.service.isFT)
    (connections : next.connections = this.connections.modify i f)
    (replication : next.replication = this.replication) (updates : next.updates = this.updates)
    (history : next.history = this.history) (served : next.served = this.served ++ [last])
    (handles : next.Handles (f connection).handling) :
    next.Replicates members sequenceID sends := by
  have unserved := ((sound.connections i connection here).pending _ isPending).2.2
  have others : ∀ id, id ∈ this.served.map Served.id → id ≠ last.id := by
    rintro id isServed rfl
    exact unserved isServed
  have answered : ∀ (j : Nat) (other : Connection), this.connections[j]? = some other →
      ∀ answer ∈ other.answers, answer.1 ≠ last.id := by
    intro j other found answer isAnswer
    rcases (sound.connections j other found).answered answer isAnswer with ⟨op, member⟩
    exact others answer.1 (List.mem_map_of_mem member)
  have backed : ∀ (j : Nat) (other : Connection), this.connections[j]? = some other →
      ∀ answer ∈ other.replies, next.Backed answer.1 := by
    intro j other found answer isReply
    have apart := answered j other found answer (List.mem_append_right _ isReply)
    exact (replicates.replies j other found answer isReply).serve apart served updates replication
  constructor
  case isFT => exact isFT.trans replicates.isFT
  case tracks =>
    rw [replication]
    exact replicates.tracks
  case waits =>
    rw [replication]
    exact replicates.waits
  case counted =>
    rw [updates, replication]
    exact replicates.counted
  case updated =>
    intro k thread found
    rw [replication] at found
    rcases replicates.updated k thread found with ⟨upTo, isUpdate, update⟩
    rw [updates, served]
    exact ⟨upTo, isUpdate, update.snoc last⟩
  case handles =>
    intro j other found
    rw [connections] at found
    rcases connections_modify_cases found with ⟨rfl, before, isBefore, rfl⟩ | ⟨-, same⟩
    · rw [here, Option.some_inj] at isBefore
      subst isBefore
      exact handles
    · apply (replicates.handles j other same).serve _ served updates replication
      intro answer isAnswer
      apply answered j other same answer
      exact List.mem_append_left _ (Option.mem_toList.mpr isAnswer)
  case replies =>
    intro j other found
    rw [connections] at found
    rcases connections_modify_cases found with ⟨rfl, before, isBefore, rfl⟩ | ⟨-, same⟩
    · rw [here, Option.some_inj] at isBefore
      subst isBefore
      rw [replies]
      exact backed j connection here
    · exact backed j other same
  case answered =>
    intro id ret isAnswer
    rw [history] at isAnswer
    rcases sound.linearizes.answered id ret isAnswer with ⟨op, member⟩
    exact (replicates.answered id ret isAnswer).serve (others id (List.mem_map_of_mem member))
      served updates replication
  case owned =>
    intro k thread found busy
    rw [replication] at found
    rcases replicates.owned k thread found busy with ⟨j, other, call, payload, isAt, handling⟩
    have apart : i ≠ j := by
      rintro rfl
      rw [here, Option.some_inj] at isAt
      rw [← isAt, idle] at handling
      cases handling
    refine ⟨j, other, call, payload, ?_, handling⟩
    rw [connections, List.getElem?_modify_ne _ _ apart]
    exact isAt

theorem handle (replicates : this.Replicates members sequenceID sends) (sound : this.Sound place)
    (left : Uninitialised) {after : System} (done : this.handle i left = .ok after) :
    after.Replicates members sequenceID sends := by
  rw [System.handle] at done
  split at done
  next packet packets replies clientOpen serviceOpen here =>
    cases packet with
    | oneWay asked =>
        rcases Result.bind_eq_ok.mp done with ⟨exited, -, equal⟩
        cases equal
        have kept : (this.modify i fun connection =>
            { connection with packets }).Replicates members sequenceID sends := by
          apply replicates.modify
          · exact fun connection found => replicates.handles i connection found
          · exact fun connection found => replicates.replies i connection found
          · exact fun connection call payload k found handling => Or.inl rfl
        exact { kept with }
    | invocation call asked =>
        have first : Connection.pending
            ⟨.invocation call asked :: packets, .idle, replies, clientOpen, serviceOpen⟩ =
              (call, asked) :: packets.filterMap Packet.invocation? := rfl
        have isPending : (call, asked) ∈ (call, asked) :: packets.filterMap Packet.invocation? :=
          List.mem_cons_self
        rw [← first] at isPending
        have holds := sound.connections i _ here
        rcases holds.pending (call, asked) isPending with ⟨-, ⟨operation, asks⟩, unserved⟩
        have invoked := this.service.handleTwoWayInvocation_of_asks left asks
        rw [replicates.isFT, if_pos rfl] at invoked
        rcases Result.bind_eq_ok.mp done with ⟨result, isResult, equal⟩
        have isInvoked := invoked.symm.trans isResult
        cases isInvoked
        cases equal
        apply replicates.serve sound here rfl
        case connections => exact List.modify_modify_eq _ _ _ _
        case served => rfl
        case isPending => exact isPending
        case isFT => exact replicates.isFT.symm
        case handles => exact handles_served sound.linearizes unserved asks rfl
        all_goals rfl
  next =>
    cases done
    exact replicates

/-- What `replicate` and the replicas do, other than a new call. -/
theorem others {groups : UUID → P3ReplicationGroup}
    (replicates : this.Replicates members sequenceID sends)
    (distinct : members.Nodup) (replicas : ∀ peer ∈ members, (groups peer).isThisPeerPrimary = false)
    (bounded : this.connections.length ≤ 2 ^ 32) {event : ReplicationEvent}
    (other : ∀ payload, event ≠ .replicate payload) :
    ({ this with replication := this.replication.step members groups event } :
      System).Replicates members sequenceID (sends.step members event) := by
  have advances : Advances this.replication.calls
      (this.replication.step members groups event).calls := advances_step this.replication other
  have keeps : ∀ upTo, this.Applied upTo → Applied
      { this with replication := this.replication.step members groups event } upTo := by
    rintro upTo ⟨k, thread, update, found, returned⟩
    rcases advances.2 k thread found with ⟨later, isLater, -, kept⟩
    rw [kept returned] at isLater
    exact ⟨k, thread, update, isLater, returned⟩
  constructor
  case isFT => exact replicates.isFT
  case tracks =>
    exact replicates.tracks.step distinct replicas fun payload same => absurd same (other payload)
  case waits =>
    exact replicates.waits.step replicates.tracks.follows replicates.tracks.sound replicas
      replicates.tracks.fits (replicates.fewWait bounded) event
  case counted => exact replicates.counted.trans advances.1.symm
  case updated =>
    intro k thread found
    rcases advances.before found with ⟨earlier, isEarlier, payload, -⟩
    rw [payload]
    exact replicates.updated k earlier isEarlier
  case handles =>
    intro j connection found
    exact (replicates.handles j connection found).mono rfl (fun _ _ same => same) keeps
  case replies =>
    intro j connection found answer isReply
    exact (replicates.replies j connection found answer isReply).mono rfl keeps
  case answered =>
    intro id ret isAnswer
    exact (replicates.answered id ret isAnswer).mono rfl keeps
  case owned =>
    intro k thread found busy
    rcases advances.before found with ⟨earlier, isEarlier, -, busyBefore⟩
    exact replicates.owned k earlier isEarlier (busyBefore busy)

theorem stepReplication {groups : UUID → P3ReplicationGroup}
    (replicates : this.Replicates members sequenceID sends)
    (distinct : members.Nodup) (replicas : ∀ peer ∈ members, (groups peer).isThisPeerPrimary = false)
    (bounded : this.connections.length ≤ 2 ^ 32) (event : ReplicationEvent) :
    ∃ sends, (this.stepReplication members groups event).Replicates members sequenceID sends := by
  have unlessExited : ∀ event, (∀ payload, event ≠ .replicate payload) →
      ∃ sends, (if this.exited then this else
        { this with replication := this.replication.step members groups event }).Replicates
          members sequenceID sends := by
    intro event other
    split
    · exact ⟨sends, replicates⟩
    · exact ⟨_, replicates.others distinct replicas bounded other⟩
  cases event with
  | replicate payload => exact ⟨sends, replicates⟩
  | send call => exact unlessExited _ fun payload => ReplicationEvent.noConfusion
  | deliver peer =>
      exact ⟨_, replicates.others distinct replicas bounded fun payload =>
        ReplicationEvent.noConfusion⟩
  | receive peer => exact unlessExited _ fun payload => ReplicationEvent.noConfusion
  | await call => exact unlessExited _ fun payload => ReplicationEvent.noConfusion

/-- The thread of a connection calls `replicate`. -/
theorem replicate {groups : UUID → P3ReplicationGroup}
    (replicates : this.Replicates members sequenceID sends)
    (distinct : members.Nodup) (replicas : ∀ peer ∈ members, (groups peer).isThisPeerPrimary = false)
    (bounded : this.connections.length ≤ 2 ^ 32) :
    ∃ sends, (this.replicate members groups i).Replicates members sequenceID sends := by
  rw [System.replicate]
  split
  next packets call payload update upTo replies clientOpen serviceOpen here =>
    rcases replicates.handles i _ here with ⟨isUpdate, isAt⟩
    have size : update.length < 2 ^ 32 := by
      rcases isUpdate with ⟨-, sum, equal, -⟩
      rw [equal, writeLong, length_toSignedLE]
      decide
    have fits : ∀ other, ReplicationEvent.replicate update = .replicate other →
        other.length < 2 ^ 32 := by
      rintro other ⟨⟩
      exact size
    have old : ∀ (k earlier : Nat), this.updates[k]? = some earlier →
        (this.updates ++ [upTo])[k]? = some earlier := by
      intro k earlier isEarlier
      rwa [List.getElem?_append_left (List.getElem?_eq_some_iff.mp isEarlier).1]
    have new : (this.updates ++ [upTo])[this.replication.calls.length]? = some upTo := by
      rw [← replicates.counted]
      exact List.getElem?_concat_length
    have keeps : ∀ earlier, this.Applied earlier →
        Applied { this with
          replication := this.replication.step members groups (.replicate update)
          updates := this.updates ++ [upTo] } earlier := by
      rintro earlier ⟨k, thread, isEarlier, found, returned⟩
      refine ⟨k, thread, old k earlier isEarlier, ?_, returned⟩
      change (this.replication.calls ++ [_])[k]? = some thread
      rwa [List.getElem?_append_left (List.getElem?_eq_some_iff.mp found).1]
    refine ⟨sends.step members (.replicate update), ?_⟩
    constructor
    case isFT => exact replicates.isFT
    case tracks => exact replicates.tracks.step distinct replicas fits
    case waits =>
      exact replicates.waits.step replicates.tracks.follows replicates.tracks.sound replicas
        replicates.tracks.fits (replicates.fewWait bounded) (.replicate update)
    case counted =>
      change (this.updates ++ [upTo]).length = (this.replication.calls ++ [_]).length
      rw [List.length_append, List.length_append, replicates.counted]
      rfl
    case updated =>
      intro k thread found
      change (this.replication.calls ++ [_])[k]? = some thread at found
      change ∃ upTo', (this.updates ++ [upTo])[k]? = some upTo' ∧ _
      rcases Nat.lt_trichotomy k this.replication.calls.length with isOld | rfl | beyond
      · rw [List.getElem?_append_left isOld] at found
        rcases replicates.updated k thread found with ⟨earlier, isEarlier, carries⟩
        exact ⟨earlier, old k earlier isEarlier, carries⟩
      · rw [List.getElem?_concat_length, Option.some_inj] at found
        subst found
        exact ⟨upTo, new, isUpdate⟩
      · rw [List.getElem?_eq_none (by rw [List.length_append]; exact beyond)] at found
        cases found
    case handles =>
      intro j connection found
      rcases connections_modify_cases found with ⟨rfl, before, isBefore, rfl⟩ | ⟨-, same⟩
      · exact ⟨upTo, new, isAt⟩
      · exact (replicates.handles j connection same).mono rfl old keeps
    case replies =>
      intro j connection found answer isReply
      rcases connections_modify_cases found with ⟨rfl, before, isBefore, rfl⟩ | ⟨-, same⟩
      · exact (replicates.replies j before isBefore answer isReply).mono rfl keeps
      · exact (replicates.replies j connection same answer isReply).mono rfl keeps
    case answered =>
      intro id ret isAnswer
      exact (replicates.answered id ret isAnswer).mono rfl keeps
    case owned =>
      intro k thread found busy
      change (this.replication.calls ++ [_])[k]? = some thread at found
      rcases Nat.lt_trichotomy k this.replication.calls.length with isOld | rfl | beyond
      · rw [List.getElem?_append_left isOld] at found
        rcases replicates.owned k thread found busy with
          ⟨j, connection, other, otherPayload, isThere, handling⟩
        have apart : i ≠ j := by
          rintro rfl
          rw [here, Option.some_inj] at isThere
          subst isThere
          cases handling
        refine ⟨j, connection, other, otherPayload, ?_, handling⟩
        change (this.connections.modify i _)[j]? = some connection
        rwa [List.getElem?_modify_ne _ _ apart]
      · refine ⟨i, ⟨packets, .replicating call payload this.replication.calls.length, replies,
          clientOpen, serviceOpen⟩, call, payload, ?_, rfl⟩
        change (this.connections.modify i _)[i]? = _
        rw [List.getElem?_modify_eq, here]
        rfl
      · rw [List.getElem?_eq_none (by rw [List.length_append]; exact beyond)] at found
        cases found
  next => exact ⟨sends, replicates⟩

theorem replicated (replicates : this.Replicates members sequenceID sends) (sound : this.Sound place) :
    (this.replicated i).Replicates members sequenceID sends := by
  rw [System.replicated]
  split
  next packets call payload k replies clientOpen serviceOpen here =>
    split
    next thread found =>
      split
      next returned =>
        apply replicates.modify
        case handles =>
          intro connection isHere
          -- The call is that of the last sum that this thread has made.
          rcases replicates.handles i _ here with ⟨upTo, isUpdate, position, entry, rfl, isEntry, isCall⟩
          intro other served num isServed same sums
          have isThis : other = position := by
            have first : (this.served.map Served.id)[other]? = some call := by
              rw [List.getElem?_map, isServed, Option.map_some, same]
            have second : (this.served.map Served.id)[position]? = some call := by
              rw [List.getElem?_map, isEntry, Option.map_some, isCall]
            have within := (List.getElem?_eq_some_iff.mp first).1
            exact (List.getElem?_inj within sound.linearizes.once).mp (first.trans second.symm)
          rw [isThis]
          exact ⟨k, thread, isUpdate, found, returned⟩
        case replies => exact fun connection isHere => replicates.replies i connection isHere
        case stays =>
          intro connection other otherPayload j isHere handling
          rw [here, Option.some_inj] at isHere
          subst isHere
          cases handling
          right
          intro thread isThread
          rw [found, Option.some_inj] at isThread
          rwa [← isThread]
      next => exact replicates
    next => exact replicates
  next => exact replicates

theorem reply (replicates : this.Replicates members sequenceID sends) :
    (this.reply i).Replicates members sequenceID sends := by
  rw [System.reply]
  split
  next packets call payload replies clientOpen serviceOpen here =>
    apply replicates.modify
    case handles =>
      intro connection isHere
      rw [Connection.sendReply]
      split
      · trivial
      · trivial
    case replies =>
      intro connection isHere answer isReply
      rw [Connection.sendReply] at isReply
      have old := replicates.replies i connection isHere answer
      split at isReply
      · rcases List.mem_append.mp isReply with before | new
        · exact old before
        · rw [List.mem_singleton.mp new]
          exact replicates.handles i _ here
      · exact old isReply
    case stays =>
      intro connection other otherPayload j isHere handling
      rw [here, Option.some_inj] at isHere
      subst isHere
      cases handling
  next => exact replicates

theorem receive (replicates : this.Replicates members sequenceID sends) (sound : this.Sound place) :
    (this.receive i).Replicates members sequenceID sends := by
  rw [System.receive]
  split
  next handler call client =>
    have mine : (this.clients i).clientHandler = some handler := by
      rw [client]
    split
    next packets handling k payload replies clientOpen serviceOpen found =>
      have kept : (this.modify handler fun connection =>
          { connection with replies }).Replicates members sequenceID sends := by
        apply replicates.modify
        case handles => exact fun connection isHere => replicates.handles handler connection isHere
        case replies =>
          intro connection isHere answer isReply
          exact replicates.replies handler _ found answer (List.mem_cons_of_mem _ isReply)
        case stays => exact fun connection other payload j isHere handling => Or.inl rfl
      rcases sound.listens i handler mine with ⟨connection, same, waits⟩
      rw [found, Option.some_inj] at same
      subst same
      have isAnswer : (k, payload) ∈ Connection.answers
          ⟨packets, handling, (k, payload) :: replies, clientOpen, serviceOpen⟩ :=
        List.mem_append_right _ List.mem_cons_self
      have awaited := waits k (List.mem_append_right _ (List.mem_map_of_mem isAnswer))
      rw [client] at awaited
      cases awaited
      have backed := replicates.replies handler _ found (call, payload) List.mem_cons_self
      refine { kept with answered := ?_ }
      intro id ret seen
      rcases List.mem_append.mp seen with old | new
      · exact replicates.answered id ret old
      · cases List.mem_singleton.mp new
        exact backed
    next => exact replicates
  next => exact replicates

theorem fail (replicates : this.Replicates members sequenceID sends) :
    (this.fail i).Replicates members sequenceID sends := by
  rw [System.fail]
  split
  next handler mine =>
    have kept : (this.modify handler Connection.closeClient).Replicates members sequenceID sends := by
      apply replicates.modify
      case handles => exact fun connection isHere => replicates.handles handler connection isHere
      case replies =>
        intro connection isHere answer impossible
        cases impossible
      case stays => exact fun connection call payload k isHere handling => Or.inl rfl
    exact { kept with }
  next => exact replicates

/-- A packet is sent, which no thread has looked at. -/
theorem send (replicates : this.Replicates members sequenceID sends) (packet : Packet) :
    (this.modify i fun connection => connection.send packet).Replicates members sequenceID sends := by
  have kept : ∀ connection : Connection, (connection.send packet).handling = connection.handling ∧
      (connection.send packet).replies = connection.replies := by
    intro connection
    rw [Connection.send]
    split
    · exact ⟨rfl, rfl⟩
    · exact ⟨rfl, rfl⟩
  apply replicates.modify
  case handles =>
    intro connection isHere
    rw [(kept connection).1]
    exact replicates.handles i connection isHere
  case replies =>
    intro connection isHere
    rw [(kept connection).2]
    exact replicates.replies i connection isHere
  case stays => exact fun connection call payload k isHere handling => Or.inl (kept connection).1

theorem twoWay (replicates : this.Replicates members sequenceID sends) (asked : Invocation) :
    (this.twoWay i asked).Replicates members sequenceID sends := by
  rw [System.twoWay]
  split
  next handler client =>
    have kept : (this.modify handler fun connection =>
        connection.send (.invocation this.calls asked)).Replicates members sequenceID sends :=
      replicates.send _
    refine { kept with answered := ?_ }
    intro id ret seen
    rcases List.mem_append.mp seen with old | new
    · exact replicates.answered id ret old
    · cases List.mem_singleton.mp new
  next => exact replicates

theorem oneWay (replicates : this.Replicates members sequenceID sends) (asked : Invocation) :
    (this.oneWay i asked).Replicates members sequenceID sends := by
  rw [System.oneWay]
  split
  next handler client => exact replicates.send (.oneWay asked)
  next => exact replicates

theorem drop (replicates : this.Replicates members sequenceID sends) :
    (this.modify i Connection.closeService).Replicates members sequenceID sends := by
  apply replicates.modify
  case handles => exact fun connection isHere => replicates.handles i connection isHere
  case replies => exact fun connection isHere => replicates.replies i connection isHere
  case stays => exact fun connection call payload k isHere handling => Or.inl rfl

theorem bind (replicates : this.Replicates members sequenceID sends) :
    (this.bind i).Replicates members sequenceID sends := by
  rw [System.bind]
  split
  next free =>
    refine { replicates with handles := ?_, replies := ?_, owned := ?_ }
    · intro j connection found
      rcases List.mem_append.mp (List.mem_of_getElem? found) with old | new
      · rcases List.getElem?_of_mem old with ⟨k, isAt⟩
        exact replicates.handles k connection isAt
      · rw [List.mem_singleton.mp new]
        trivial
    · intro j connection found answer isReply
      rcases List.mem_append.mp (List.mem_of_getElem? found) with old | new
      · rcases List.getElem?_of_mem old with ⟨k, isAt⟩
        exact replicates.replies k connection isAt answer isReply
      · rw [List.mem_singleton.mp new] at isReply
        cases isReply
    · intro k thread found busy
      rcases replicates.owned k thread found busy with
        ⟨j, connection, call, payload, isThere, handling⟩
      refine ⟨j, connection, call, payload, ?_, handling⟩
      change (this.connections ++ [Connection.new])[j]? = some connection
      rwa [List.getElem?_append_left (List.getElem?_eq_some_iff.mp isThere).1]
  next => exact replicates

/-- Whatever happens keeps what is known of the replicas, as long as the connections can be
counted. -/
theorem step {groups : UUID → P3ReplicationGroup}
    (replicates : this.Replicates members sequenceID sends) (sound : this.Sound place)
    (distinct : members.Nodup) (replicas : ∀ peer ∈ members, (groups peer).isThisPeerPrimary = false)
    (bounded : this.connections.length ≤ 2 ^ 32) {event : Event} {after : System}
    (done : this.step members groups event = .ok after) :
    ∃ sends, after.Replicates members sequenceID sends := by
  cases event with
  | handle connection left =>
      rw [System.step] at done
      split at done
      · cases done
        exact ⟨sends, replicates⟩
      · exact ⟨sends, replicates.handle sound left done⟩
  | bind client =>
      cases done
      split
      · exact ⟨sends, replicates⟩
      · exact ⟨sends, replicates.bind⟩
  | twoWay client asked =>
      cases done
      exact ⟨sends, replicates.twoWay asked⟩
  | oneWay client asked =>
      cases done
      exact ⟨sends, replicates.oneWay asked⟩
  | replicate connection =>
      cases done
      split
      · exact ⟨sends, replicates⟩
      · exact replicates.replicate distinct replicas bounded
  | replication event =>
      cases done
      exact replicates.stepReplication distinct replicas bounded event
  | replicated connection =>
      cases done
      split
      · exact ⟨sends, replicates⟩
      · exact ⟨sends, replicates.replicated sound⟩
  | reply connection =>
      cases done
      split
      · exact ⟨sends, replicates⟩
      · exact ⟨sends, replicates.reply⟩
  | receive client =>
      cases done
      exact ⟨sends, replicates.receive sound⟩
  | fail client =>
      cases done
      exact ⟨sends, replicates.fail⟩
  | drop connection =>
      cases done
      exact ⟨sends, replicates.drop⟩

end Replicates

/-! ## Runs -/

theorem length_serve {this after : System} {i call : Nat} {asked : Invocation}
    {invoked : Invoked RPCService} (done : this.serve i call asked invoked = .ok after) :
    after.connections.length = this.connections.length := by
  rw [System.serve] at done
  split at done
  · cases done
  · cases done
    exact List.length_modify _ _ _

theorem length_handle {this after : System} {i : Nat} {left : Uninitialised}
    (done : this.handle i left = .ok after) :
    after.connections.length = this.connections.length := by
  rw [System.handle] at done
  split at done
  next packet packets replies clientOpen serviceOpen here =>
    cases packet with
    | oneWay asked =>
        rcases Result.bind_eq_ok.mp done with ⟨exited, -, equal⟩
        cases equal
        exact List.length_modify _ _ _
    | invocation call asked =>
        rcases Result.bind_eq_ok.mp done with ⟨invoked, -, served⟩
        rw [length_serve served]
        exact List.length_modify _ _ _
  next =>
    cases done
    rfl

theorem connections_stepReplication {members : List UUID} {groups : UUID → P3ReplicationGroup}
    (this : System) (event : ReplicationEvent) :
    (this.stepReplication members groups event).connections = this.connections := by
  have unlessExited : ∀ event, (if this.exited then this else
      { this with replication := this.replication.step members groups event }).connections =
        this.connections := by
    intro event
    split
    · rfl
    · rfl
  cases event with
  | replicate payload => rfl
  | send call => exact unlessExited _
  | deliver peer => rfl
  | receive peer => exact unlessExited _
  | await call => exact unlessExited _

/-- Only a client that binds makes a connection. -/
theorem length_step {members : List UUID} {groups : UUID → P3ReplicationGroup}
    {this after : System} {event : Event} (done : this.step members groups event = .ok after) :
    after.connections.length ≤ this.connections.length + if event.isBind then 1 else 0 := by
  have modified : ∀ (i : Nat) (f : Connection → Connection),
      (this.connections.modify i f).length ≤ this.connections.length := by
    intro i f
    rw [List.length_modify]
  cases event with
  | bind client =>
      cases done
      split
      · exact Nat.le_add_right _ _
      · rw [System.bind]
        split
        · exact Nat.le_of_eq List.length_append
        · exact Nat.le_add_right _ _
  | handle connection left =>
      rw [System.step] at done
      split at done
      · cases done
        exact Nat.le_refl _
      · exact Nat.le_of_eq (length_handle done)
  | twoWay client asked =>
      cases done
      rw [System.twoWay]
      split
      · exact modified _ _
      · exact Nat.le_refl _
  | oneWay client asked =>
      cases done
      rw [System.oneWay]
      split
      · exact modified _ _
      · exact Nat.le_refl _
  | replicate connection =>
      cases done
      rw [System.replicate]
      split
      · exact Nat.le_refl _
      · split
        · exact modified _ _
        · exact Nat.le_refl _
  | replication event =>
      cases done
      rw [connections_stepReplication]
      exact Nat.le_refl _
  | replicated connection =>
      cases done
      rw [System.replicated]
      split
      · exact Nat.le_refl _
      · split
        · split
          · split
            · exact modified _ _
            · exact Nat.le_refl _
          · exact Nat.le_refl _
        · exact Nat.le_refl _
  | reply connection =>
      cases done
      rw [System.reply]
      split
      · exact Nat.le_refl _
      · split
        · exact modified _ _
        · exact Nat.le_refl _
  | receive client =>
      cases done
      rw [System.receive]
      split
      · split
        · exact modified _ _
        · exact Nat.le_refl _
      · exact Nat.le_refl _
  | fail client =>
      cases done
      rw [System.fail]
      split
      · exact modified _ _
      · exact Nat.le_refl _
  | drop connection =>
      cases done
      exact modified _ _

/-- What a replica has after the updates that it has replayed. -/
def replica (this : System) (peer : UUID) : Result RPCTestObject :=
  (this.replication.channels peer).log.foldlM (fun object update => object.onReplication update.2) .new

/-- How many calls the service had served when each update that the replica has replayed was
made. -/
def replayed (this : System) (peer : UUID) : List Nat :=
  (this.replication.channels peer).log.map fun update => this.updates.getD update.1 0

/-- How many calls the service had served when the update was made that the replica has
replayed last, or none. -/
def lastReplayed (this : System) (peer : UUID) : Nat :=
  (this.replayed peer).getLastD 0

/-- The replica has replayed the updates in the order of the sums. -/
def InOrder (this : System) (peer : UUID) : Prop :=
  (this.replayed peer).Pairwise (· ≤ ·)

/-- The replica has the sum of the first `upTo` calls served. -/
structure Has (this : System) (peer : UUID) (upTo : Nat) : Prop where
  exists_sum : ∃ object, this.replica peer = .ok object ∧
    Serves counter 0 (this.served.take upTo) object.mSum
  covers : this.InOrder peer → ∀ entry ∈ this.served, ∀ num ret, Asks entry.op (.sum num) →
    Seen.answer entry.id ret ∈ this.history → entry ∈ this.served.take upTo

namespace Replicates

variable {members : List UUID} {sequenceID : UUID → UInt32} {sends : Sends} {this : System}

/-- What the updates of a channel carry. -/
theorem logged (replicates : this.Replicates members sequenceID sends) (peer : UUID) :
    ∀ update ∈ (this.replication.channels peer).log,
      Update this.served (this.updates.getD update.1 0) update.2 := by
  rintro ⟨k, payload⟩ isLogged
  rcases replicates.tracks.follows.carries peer with ⟨lost, pending, carries⟩
  have sent : (k, payload) ∈ sends.order peer := by
    rw [carries.order, List.append_assoc]
    exact List.mem_append_left _ isLogged
  rcases (replicates.tracks.sound.mem peer k payload).mp sent with ⟨rest, found, -⟩
  rw [replicates.tracks.follows.getElem?] at found
  rcases Option.map_eq_some_iff.mp found with ⟨thread, isThread, equal⟩
  have isPayload : thread.payload = payload := (Prod.mk.inj equal).1
  rcases replicates.updated k thread isThread with ⟨upTo, isUpdate, update⟩
  rw [isPayload] at update
  rwa [List.getD_eq_getElem?_getD, isUpdate]

/-- The updates are replayed one after another. -/
theorem exists_replica {log : List (Nat × List UInt8)}
    (sums : ∀ update ∈ log, ∃ sum : Int32, update.2 = writeLong sum.toInt) (object : RPCTestObject) :
    ∃ after, log.foldlM (fun object update => object.onReplication update.2) object =
      (.ok after : Result RPCTestObject) := by
  induction log generalizing object with
  | nil => exact ⟨object, rfl⟩
  | cons update log inductionHypothesis =>
      rcases sums update List.mem_cons_self with ⟨sum, equal⟩
      rw [List.foldlM_cons, equal, RPCTestObject.onReplication_sum]
      exact inductionHypothesis (fun later isLater => sums later (List.mem_cons_of_mem _ isLater)) ⟨sum⟩

/-- An answered sum was replayed by every replica. -/
theorem exists_logged (replicates : this.Replicates members sequenceID sends) {peer : UUID}
    (isMember : peer ∈ members) {position : Nat} {entry : Served Invocation (List UInt8)}
    (found : this.served[position]? = some entry) {num : Int32} (asks : Asks entry.op (.sum num))
    {ret : List UInt8} (answered : Seen.answer entry.id ret ∈ this.history) :
    ∃ update ∈ (this.replication.channels peer).log,
      this.updates.getD update.1 0 = position + 1 := by
  rcases replicates.answered entry.id ret answered position entry num found rfl asks with
    ⟨k, thread, isUpdate, isThread, returned⟩
  have applied := replicates.tracks.appliedOnReturn replicates.waits
  refine ⟨_, applied k thread isThread returned peer isMember, ?_⟩
  rw [List.getD_eq_getElem?_getD, isUpdate]
  rfl

theorem has (replicates : this.Replicates members sequenceID sends) {peer : UUID}
    (isMember : peer ∈ members) : this.Has peer (this.lastReplayed peer) := by
  have updates := replicates.logged peer
  have sums : ∀ update ∈ (this.replication.channels peer).log,
      ∃ sum : Int32, update.2 = writeLong sum.toInt := by
    intro update isLogged
    rcases updates update isLogged with ⟨-, sum, equal, -⟩
    exact ⟨sum, equal⟩
  rcases List.eq_nil_or_concat (this.replication.channels peer).log with empty | ⟨log, last, whole⟩
  · have none : this.lastReplayed peer = 0 := by
      rw [lastReplayed, replayed, empty]
      rfl
    rw [none]
    refine ⟨⟨.new, ?_, .nil⟩, ?_⟩
    · rw [replica, empty]
      rfl
    · intro inOrder entry isServed num ret asks answered
      rcases List.getElem?_of_mem isServed with ⟨position, found⟩
      rcases replicates.exists_logged isMember found asks answered with ⟨update, isLogged, -⟩
      rw [empty] at isLogged
      cases isLogged
  · rw [List.concat_eq_append] at whole
    have isLast : last ∈ (this.replication.channels peer).log := by
      rw [whole]
      exact List.mem_append_right _ List.mem_cons_self
    have earlier : ∀ update ∈ log, ∃ sum : Int32, update.2 = writeLong sum.toInt := by
      intro update isLogged
      apply sums
      rw [whole]
      exact List.mem_append_left _ isLogged
    rcases updates last isLast with ⟨-, sum, equal, serves⟩
    rcases exists_replica earlier .new with ⟨before, done⟩
    have newest : this.lastReplayed peer = this.updates.getD last.1 0 := by
      rw [lastReplayed, replayed, whole, List.map_append, List.map_singleton, List.getLastD_concat]
    rw [newest]
    refine ⟨⟨⟨sum⟩, ?_, serves⟩, ?_⟩
    · rw [replica, whole, List.foldlM_append, done]
      change (before.onReplication last.2 >>= pure) = .ok ⟨sum⟩
      rw [equal, RPCTestObject.onReplication_sum]
      rfl
    · intro inOrder entry isServed num ret asks answered
      rcases List.getElem?_of_mem isServed with ⟨position, found⟩
      rcases replicates.exists_logged isMember found asks answered with ⟨update, isLogged, isUpTo⟩
      rw [InOrder, replayed, whole, List.map_append, List.map_singleton, List.pairwise_append]
        at inOrder
      have later : position + 1 ≤ this.updates.getD last.1 0 := by
        rw [whole] at isLogged
        rcases List.mem_append.mp isLogged with old | new
        · rw [← isUpTo]
          exact inOrder.2.2 _ (List.mem_map_of_mem old) _ List.mem_cons_self
        · rw [← isUpTo, List.mem_singleton.mp new]
      rw [← List.getElem?_take_of_lt later] at found
      exact List.mem_of_getElem? found

end Replicates

theorem replicates_opened (members : List UUID) (sequenceID : UUID → UInt32) :
    (opened true sequenceID).Replicates members sequenceID Sends.start where
  isFT := rfl
  tracks := Replication.Tracks.opened members sequenceID
  waits := Replication.waits_opened sequenceID
  counted := rfl
  updated := by
    intro k thread impossible
    cases impossible
  handles := by
    intro i connection impossible
    cases impossible
  replies := by
    intro i connection impossible
    cases impossible
  answered := by
    intro id ret impossible
    cases impossible
  owned := by
    intro k thread impossible
    cases impossible

theorem Replicates.run {members : List UUID} {groups : UUID → P3ReplicationGroup}
    {sequenceID : UUID → UInt32} {sends : Sends} {this : System} {place : Nat → Nat}
    (replicates : this.Replicates members sequenceID sends) (sound : this.Sound place)
    (distinct : members.Nodup) (replicas : ∀ peer ∈ members, (groups peer).isThisPeerPrimary = false)
    {events : List Event} (bounded : this.connections.length + events.countP Event.isBind ≤ 2 ^ 32)
    (known : ∀ client asked, .twoWay client asked ∈ events → ∃ operation, Asks asked operation) :
    ∃ after, this.run members groups events = .ok after ∧
      ∃ sends, after.Replicates members sequenceID sends := by
  induction events generalizing this place sends with
  | nil => exact ⟨this, rfl, sends, replicates⟩
  | cons event events inductionHypothesis =>
      have here : ∀ client asked, event = .twoWay client asked →
          ∃ operation, Asks asked operation := by
        rintro client asked rfl
        exact known client asked List.mem_cons_self
      rcases sound.step members groups event here with ⟨next, done, later, holds⟩
      have grows := length_step done
      rw [List.countP_cons] at bounded
      rcases replicates.step sound distinct replicas (by omega) done with ⟨sendsAfter, keeps⟩
      rw [System.run, List.foldlM_cons, done]
      apply inductionHypothesis keeps holds
      · omega
      · exact fun client asked isEvent => known client asked (List.mem_cons_of_mem _ isEvent)

/-- For any clients and any interleaving of the threads of the service with the replicas:
each replica has the sum of the first calls that were served, up to the one whose update it
has replayed last, and these are all that the clients have an answer for, if the replica
has replayed the updates in the order of the sums. -/
theorem replicas_have (members : List UUID) (groups : UUID → P3ReplicationGroup)
    (sequenceID : UUID → UInt32) (events : List Event) (distinct : members.Nodup)
    (replicas : ∀ peer ∈ members, (groups peer).isThisPeerPrimary = false)
    (bounded : events.countP Event.isBind ≤ 2 ^ 32)
    (known : ∀ client asked, .twoWay client asked ∈ events → ∃ operation, Asks asked operation) :
    ∃ after, (opened true sequenceID).run members groups events = .ok after ∧
      ∀ peer ∈ members, after.Has peer (after.lastReplayed peer) := by
  have few : (opened true sequenceID).connections.length + events.countP Event.isBind ≤ 2 ^ 32 := by
    change 0 + _ ≤ _
    rwa [Nat.zero_add]
  rcases (replicates_opened members sequenceID).run (sound_opened true sequenceID) distinct replicas
    few known with ⟨after, done, sends, replicates⟩
  exact ⟨after, done, fun peer isMember => replicates.has isMember⟩

/-! ## One replica -/

section Overtaken

/-- The update of the first sum is sent after that of the second. -/
def overtaken : List Event :=
  [.bind 0, .bind 1, .twoWay 0 (sumOf 5), .twoWay 1 (sumOf 7), .handle 0 nothingLeft,
    .handle 1 nothingLeft, .replicate 1, .replicate 0, .replication (.send 0),
    .replication (.send 1), .replication (.deliver ⟨[2]⟩), .replication (.deliver ⟨[2]⟩),
    .replication (.receive ⟨[2]⟩), .replication (.receive ⟨[2]⟩), .replication (.await 0),
    .replication (.await 1), .replicated 0, .replicated 1, .reply 0, .reply 1, .receive 0,
    .receive 1]

theorem replicas_have_overtaken :
    ∃ after, (opened true fun _ => 0).run [⟨[2]⟩] Replication.replicaGroups overtaken = .ok after ∧
      ∀ peer ∈ [(⟨[2]⟩ : UUID)], after.Has peer (after.lastReplayed peer) := by
  have known : ∀ client asked, .twoWay client asked ∈ overtaken →
      ∃ operation, Asks asked operation := by
    intro client asked isEvent
    simp only [overtaken, List.mem_cons, Event.twoWay.injEq, reduceCtorEq, List.not_mem_nil,
      or_false, false_or] at isEvent
    rcases isEvent with ⟨-, rfl⟩ | ⟨-, rfl⟩
    · exact ⟨.sum 5, asks_sumOf 5⟩
    · exact ⟨.sum 7, asks_sumOf 7⟩
  exact replicas_have [⟨[2]⟩] _ (fun _ => 0) overtaken (by decide) (by decide) (by decide) known

/-- Both clients have their answers, and the replica has the sum of one call only. -/
example : ∃ after, (opened true fun _ => 0).run [⟨[2]⟩] Replication.replicaGroups overtaken =
    .ok after ∧ (after.service.testObject = ⟨12⟩ ∧ after.replica ⟨[2]⟩ = .ok ⟨5⟩ ∧
      after.history.length = 4) := by
  decide

end Overtaken

end System

end Stheno.RPC
