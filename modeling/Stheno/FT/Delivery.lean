import Stheno.FT.Sends
import Stheno.Net.InOrder

/-!
# A data channel

Whatever the threads and the replica do, a channel holds what was sent over it: first
what the replica has logged, then the packet that stopped it, then what is on its way.
A request becomes final when the replica has logged its packet.
-/

namespace Stheno.FT

open Stheno.Net Wire

/-- A replica can log every packet that has a payload. -/
theorem ReplicationPacket.handle_eq {this : ReplicationPacket} {group : P3ReplicationGroup}
    {payload : List UInt8} (replica : group.isThisPeerPrimary = false)
    (fits : payload.length < 2 ^ 32)
    (body : this.body = FTDataReplicationPacket.serializeBody payload) :
    this.handle group = if payload = [] then .error .nullDereference else .ok (some payload) := by
  have read := (FTDataReplicationPacket.reads_body fits).run
  rw [handle, body, read]
  change group.handleReplicationPacket _ = _
  by_cases empty : payload = []
  · rw [if_pos empty, if_pos empty]
    simp [P3ReplicationGroup.handleReplicationPacket, replica]
  · rw [if_neg empty, if_neg empty]
    simp [P3ReplicationGroup.handleReplicationPacket, replica]

namespace DataChannel

/-! ## What a channel carries -/

/-- The packets on their way, as the call and the body of each. -/
def inFlight (this : DataChannel) : List (Nat × List UInt8) :=
  this.packets.map fun packet => (packet.call, packet.body)

def encode (sent : Nat × List UInt8) : Nat × List UInt8 :=
  (sent.1, FTDataReplicationPacket.serializeBody sent.2)

/-- The packets of a channel in the order in which they were sent. -/
structure Carries (this : DataChannel) (order lost pending : List (Nat × List UInt8)) : Prop where
  order : order = this.log ++ lost ++ pending
  inFlight : this.inFlight = pending.map encode
  logged : ∀ entry ∈ this.log, entry.2 ≠ []
  alive : this.fault = none ↔ lost = []
  lost : ∀ entry ∈ lost, entry.2 = []

namespace Carries

variable {this : DataChannel} {order lost pending : List (Nat × List UInt8)}

theorem replicate (carries : this.Carries order lost pending) (call : Nat) (payload : List UInt8) :
    (this.replicate call payload).Carries (order ++ [(call, payload)]) lost
      (pending ++ [(call, payload)]) where
  order := by
    rw [carries.order, ← List.append_assoc]
    rfl
  inFlight := by
    rw [DataChannel.inFlight, DataChannel.replicate, List.map_append, ← DataChannel.inFlight,
      carries.inFlight, List.map_append]
    rfl
  logged := carries.logged
  alive := carries.alive
  lost := carries.lost

/-- Unless it has stopped or has nothing to do, a replica logs its next packet, or it is
stopped by it. -/
theorem deliver_cases (carries : this.Carries order lost pending) {group : P3ReplicationGroup}
    (replica : pending ≠ [] → group.isThisPeerPrimary = false)
    (fits : ∀ entry ∈ order, entry.2.length < 2 ^ 32) :
    this.deliver group = this ∨ ∃ packet packets payload rest, this.fault = none ∧
      this.packets = packet :: packets ∧ pending = (packet.call, payload) :: rest ∧
        this.deliver group = if payload = [] then
          { this with packets, fault := some .nullDereference }
        else
          { this with
            packets
            replies := this.replies ++ [packet.packetID]
            log := this.log ++ [(packet.call, payload)] } := by
  rw [DataChannel.deliver]
  split
  next packet packets alive onWay =>
    have inFlight := carries.inFlight
    rw [DataChannel.inFlight, onWay, List.map_cons] at inFlight
    cases pending with
    | nil => cases inFlight
    | cons sent pending =>
        rw [List.map_cons, List.cons.injEq] at inFlight
        rcases Prod.mk.inj inFlight.1 with ⟨isCall, body⟩
        have isSent : sent ∈ order := by
          rw [carries.order]
          exact List.mem_append_right _ List.mem_cons_self
        have handled := ReplicationPacket.handle_eq (replica (List.cons_ne_nil _ _))
          (fits sent isSent) body
        refine Or.inr ⟨packet, packets, sent.2, pending, alive, onWay, ?_, ?_⟩
        · rw [isCall]
        · rw [handled]
          by_cases empty : sent.2 = []
          · rw [if_pos empty, if_pos empty]
          · rw [if_neg empty, if_neg empty]
            rfl
  next => exact Or.inl rfl

theorem deliver (carries : this.Carries order lost pending) {group : P3ReplicationGroup}
    (replica : pending ≠ [] → group.isThisPeerPrimary = false)
    (fits : ∀ entry ∈ order, entry.2.length < 2 ^ 32) :
    ∃ lostAfter pendingAfter, (this.deliver group).Carries order lostAfter pendingAfter := by
  rcases carries.deliver_cases replica fits with
    same | ⟨packet, packets, payload, rest, alive, onWay, rfl, after⟩
  · rw [same]
    exact ⟨lost, pending, carries⟩
  · have inFlight := carries.inFlight
    rw [DataChannel.inFlight, onWay, List.map_cons, List.map_cons, List.cons.injEq] at inFlight
    have whole := carries.order
    rw [carries.alive.mp alive, List.append_nil] at whole
    rw [after]
    by_cases empty : payload = []
    · rw [if_pos empty]
      refine ⟨[(packet.call, payload)], rest, ?_, inFlight.2, carries.logged, ?_, ?_⟩
      · rw [whole, List.append_assoc]
        rfl
      · simp
      · intro entry isEntry
        rw [List.mem_singleton.mp isEntry]
        exact empty
    · rw [if_neg empty]
      refine ⟨[], rest, ?_, inFlight.2, ?_, ?_, ?_⟩
      · rw [whole]
        simp
      · intro entry isEntry
        rcases List.mem_append.mp isEntry with old | new
        · exact carries.logged entry old
        · rw [List.mem_singleton.mp new]
          exact empty
      · simp [alive]
      · intro entry isEntry
        cases isEntry

theorem receive (carries : this.Carries order lost pending) :
    this.receive.Carries order lost pending := by
  rw [DataChannel.receive]
  split
  · exact ⟨carries.order, carries.inFlight, carries.logged, carries.alive, carries.lost⟩
  · exact carries

theorem await (carries : this.Carries order lost pending) {k : Nat} {after : DataChannel}
    (done : this.await k = some after) : after.Carries order lost pending := by
  rw [DataChannel.await] at done
  split at done
  · split at done
    · rw [Option.some_inj] at done
      subst done
      exact ⟨carries.order, carries.inFlight, carries.logged, carries.alive, carries.lost⟩
    · cases done
  · cases done

theorem length_eq (carries : this.Carries order lost pending) :
    order.length = this.log.length + lost.length + this.packets.length := by
  have lengths := congrArg List.length carries.inFlight
  rw [DataChannel.inFlight, List.length_map, List.length_map] at lengths
  rw [carries.order, List.length_append, List.length_append, lengths]

end Carries

/-! ## Requests and their replies -/

/-- The number of requests that have had their reply. -/
def answered (this : DataChannel) : Nat :=
  this.log.length - this.replies.length

/-- The packets and the replies on their way are numbered as they were sent, the first
with the identifier after `first`. -/
structure Numbered (first : UInt32) (sent : Nat) (this : DataChannel) : Prop where
  next : this.requests.next = sent
  inOrder : this.requests.InOrder first this.answered
  packets : this.packets.map ReplicationPacket.packetID =
    (List.range' (sent - this.packets.length) this.packets.length).map
      (RequestChannel.packetID first)
  replies : this.replies =
    (List.range' this.answered this.replies.length).map (RequestChannel.packetID first)
  handled : this.replies.length ≤ this.log.length
  onWay : this.log.length + this.packets.length ≤ sent

/-- So many requests wait for a reply that no two have one identifier. -/
def FewWait (this : DataChannel) : Prop :=
  this.requests.next ≤ this.answered + 2 ^ 32

namespace Numbered

variable {first : UInt32} {sent : Nat} {this : DataChannel}

theorem replicate (numbered : this.Numbered first sent) (call : Nat) (payload : List UInt8) :
    (this.replicate call payload).Numbered first (sent + 1) := by
  have outstanding : this.answered ≤ this.requests.next := by
    rw [numbered.next]
    have onWay := numbered.onWay
    rw [answered]
    omega
  rcases numbered.inOrder.sendRequest outstanding with ⟨inOrder, next⟩
  have within : this.packets.length ≤ sent :=
    Nat.le_trans (Nat.le_add_left _ _) numbered.onWay
  constructor
  case next => exact next.trans (congrArg (· + 1) numbered.next)
  case inOrder => exact inOrder
  case packets =>
    change (this.packets ++ [_]).map _ = (List.range' (sent + 1 - (this.packets ++ [_]).length)
      (this.packets ++ [_]).length).map _
    rw [List.map_append, numbered.packets, List.map_singleton, List.length_append,
      List.length_singleton, Nat.add_sub_add_right, List.range'_concat, List.map_append,
      List.map_singleton, Nat.one_mul, Nat.sub_add_cancel within,
      numbered.inOrder.serializePacket, numbered.next]
  case replies => exact numbered.replies
  case handled => exact numbered.handled
  case onWay =>
    change this.log.length + (this.packets ++ [_]).length ≤ sent + 1
    rw [List.length_append, List.length_singleton, ← Nat.add_assoc]
    exact Nat.succ_le_succ numbered.onWay

theorem receive (numbered : this.Numbered first sent) (few : this.FewWait) :
    this.receive.Numbered first sent ∧ this.answered ≤ this.receive.answered := by
  rw [DataChannel.receive]
  split
  next id replies onWay =>
    have numbers := numbered.replies
    have handled := numbered.handled
    rw [onWay, List.length_cons, List.range'_succ, List.map_cons, List.cons.injEq] at numbers
    rw [onWay, List.length_cons] at handled
    rcases numbers with ⟨rfl, rest⟩
    rcases numbered.inOrder.setReply few true with ⟨inOrder, next⟩
    have answered_eq : this.log.length - replies.length = this.answered + 1 := by
      rw [answered, onWay, List.length_cons]
      omega
    refine ⟨⟨next.trans numbered.next, ?_, numbered.packets, ?_, ?_, numbered.onWay⟩, ?_⟩
    · change RequestChannel.InOrder first (this.log.length - replies.length) _
      rw [answered_eq]
      exact inOrder
    · change replies = (List.range' (this.log.length - replies.length) replies.length).map _
      rw [answered_eq]
      exact rest
    · exact Nat.le_of_succ_le handled
    · change this.answered ≤ this.log.length - replies.length
      rw [answered_eq]
      exact Nat.le_succ _
  next => exact ⟨numbered, Nat.le_refl _⟩

theorem deliver {order lost pending : List (Nat × List UInt8)}
    (numbered : this.Numbered first order.length) (carries : this.Carries order lost pending)
    {group : P3ReplicationGroup} (replica : pending ≠ [] → group.isThisPeerPrimary = false)
    (fits : ∀ entry ∈ order, entry.2.length < 2 ^ 32) :
    (this.deliver group).Numbered first order.length ∧
      (this.deliver group).answered = this.answered := by
  have lengths := carries.length_eq
  have handled := numbered.handled
  have numbers := numbered.packets
  rcases carries.deliver_cases replica fits with
    same | ⟨packet, packets, payload, rest, alive, onWay, rfl, after⟩
  · rw [same]
    exact ⟨numbered, rfl⟩
  · rw [carries.alive.mp alive, onWay, List.length_cons, List.length_nil, Nat.add_zero] at lengths
    rw [onWay, List.length_cons, List.range'_succ, List.map_cons, List.map_cons,
      List.cons.injEq] at numbers
    have position : order.length - (packets.length + 1) = this.log.length := by omega
    have restPosition : order.length - packets.length = this.log.length + 1 := by omega
    rw [position] at numbers
    rw [after]
    by_cases empty : payload = []
    · rw [if_pos empty]
      refine ⟨⟨numbered.next, numbered.inOrder, ?_, numbered.replies, handled, ?_⟩, rfl⟩
      · change packets.map _ = (List.range' (order.length - packets.length) packets.length).map _
        rw [restPosition]
        exact numbers.2
      · change this.log.length + packets.length ≤ order.length
        omega
    · rw [if_neg empty]
      have answered_eq : (this.log ++ [(packet.call, payload)]).length -
          (this.replies ++ [packet.packetID]).length = this.answered := by
        rw [List.length_append, List.length_append, List.length_singleton, List.length_singleton,
          Nat.add_sub_add_right, answered]
      have last : this.answered + this.replies.length = this.log.length :=
        Nat.sub_add_cancel handled
      refine ⟨⟨numbered.next, ?_, ?_, ?_, ?_, ?_⟩, answered_eq⟩
      · change RequestChannel.InOrder first (_ - _) _
        rw [answered_eq]
        exact numbered.inOrder
      · change packets.map _ = (List.range' (order.length - packets.length) packets.length).map _
        rw [restPosition]
        exact numbers.2
      · change this.replies ++ [packet.packetID] = (List.range' (_ - _) _).map _
        rw [answered_eq, List.length_append, List.length_singleton, List.range'_concat,
          List.map_append, ← numbered.replies, List.map_singleton, Nat.one_mul, last, numbers.1]
      · change (this.replies ++ [_]).length ≤ (this.log ++ [_]).length
        rw [List.length_append, List.length_append]
        exact Nat.succ_le_succ handled
      · change (this.log ++ [_]).length + packets.length ≤ order.length
        rw [List.length_append, List.length_singleton]
        omega

/-- A call goes on from a request when its packet has been logged. -/
theorem await (numbered : this.Numbered first sent) {k : Nat} {after : DataChannel}
    (done : this.await k = some after) :
    k < this.answered ∧ after.Numbered first sent ∧ after.answered = this.answered := by
  rw [DataChannel.await] at done
  split at done
  next request found =>
    split at done
    next final =>
      have had := (numbered.inOrder.request k request found).2 final
      rcases numbered.inOrder.release had with ⟨inOrder, next⟩
      rw [Option.some_inj] at done
      subst done
      exact ⟨had, ⟨next.trans numbered.next, inOrder, numbered.packets, numbered.replies,
        numbered.handled, numbered.onWay⟩, rfl⟩
    next => cases done
  next => cases done

end Numbered

end DataChannel

end Stheno.FT
