import Stheno.FT.Delivery
import Stheno.FT.Failover

/-!
# The order of the updates

The replicas log what the threads of the primary have sent, each in the order of its own
channel.  Nothing makes the threads use the channels in one order.
-/

namespace Stheno.FT

open Stheno.Net

namespace Replication

/-- Each replica was asked once to replay each payload, and all in one order. -/
structure Replicated (members : List UUID) (this : Replication) : Prop where
  once : ∀ peer ∈ members, (this.channels peer).log.Perm
    (this.calls.zipIdx.map fun call => (call.2, call.1.payload))
  order : ∀ peer ∈ members, ∀ other ∈ members,
    (this.channels peer).log.map Prod.snd = (this.channels other).log.map Prod.snd

/-- A call returns after every replica was asked to replay its payload. -/
def AppliedOnReturn (members : List UUID) (this : Replication) : Prop :=
  ∀ index call, this.calls[index]? = some call → call.returned = true →
    ∀ peer ∈ members, (index, call.payload) ∈ (this.channels peer).log

/-- Everything was sent and handled, except where a replica has stopped. -/
structure Settled (members : List UUID) (this : Replication) : Prop where
  sent : ∀ call ∈ this.calls, call.memberList = []
  handled : ∀ peer ∈ members,
    (this.channels peer).packets = [] ∨ (this.channels peer).fault ≠ none

def FewWait (this : Replication) : Prop :=
  ∀ peer, (this.channels peer).FewWait

end Replication

/-- No payload is empty, and the payloads go out in one order over all the channels. -/
structure Sends.Uniform (members : List UUID) (this : Sends) : Prop where
  nonempty : ∀ peer ∈ members, ∀ entry ∈ this.order peer, entry.2 ≠ []
  order : ∀ peer ∈ members, ∀ other ∈ members,
    (this.order peer).map Prod.snd = (this.order other).map Prod.snd

namespace Replication

/-! ## Runs -/

/-- The channels carry what the threads have sent. -/
structure Follows (this : Replication) (sends : Sends) : Prop where
  calls : this.calls.map (fun call => (call.payload, call.memberList)) = sends.calls
  carries : ∀ peer, ∃ lost pending, (this.channels peer).Carries (sends.order peer) lost pending

/-- The requests of the calls are numbered, and a call waits for those without a reply. -/
structure Waits (sequenceID : UUID → UInt32) (this : Replication) (sends : Sends) : Prop where
  numbered : ∀ peer,
    (this.channels peer).Numbered (sequenceID peer) (sends.order peer).length
  waits : ∀ index call, this.calls[index]? = some call →
    ∀ peer, (index, call.payload) ∈ sends.order peer →
      ∃ k, (sends.order peer)[k]? = some (index, call.payload) ∧
        ((peer, k) ∈ call.lr ∨ k < (this.channels peer).answered)

variable {members : List UUID} {groups : UUID → P3ReplicationGroup} {sequenceID : UUID → UInt32}
  {this : Replication} {sends : Sends}

theorem Follows.getElem? (follows : this.Follows sends) (call : Nat) :
    sends.calls[call]? =
      this.calls[call]?.map fun call => (call.payload, call.memberList) := by
  rw [← follows.calls, List.getElem?_map]

/-- What a send does, on both levels. -/
theorem Follows.send_cases (follows : this.Follows sends) (call : Nat) :
    (this.send call = this ∧ sends.send call = sends) ∨
      ∃ payload peer rest lr, this.calls[call]? = some ⟨payload, peer :: rest, lr⟩ ∧
        this.send call = this.put call
          ⟨payload, rest, lr ++ [(peer, (this.channels peer).requests.next)]⟩ peer
          ((this.channels peer).replicate call payload) ∧
        sends.send call =
          { calls := sends.calls.set call (payload, rest)
            order := Function.update sends.order peer (sends.order peer ++ [(call, payload)]) } := by
  have same := follows.getElem? call
  rw [Replication.send, Sends.send, same]
  cases found : this.calls[call]? with
  | none => exact Or.inl ⟨rfl, rfl⟩
  | some thread =>
      obtain ⟨payload, memberList, lr⟩ := thread
      cases memberList with
      | nil => exact Or.inl ⟨rfl, rfl⟩
      | cons peer rest => exact Or.inr ⟨payload, peer, rest, lr, rfl, rfl, rfl⟩

/-- What going on from a request does. -/
theorem await_cases (this : Replication) (call : Nat) :
    this.await call = this ∨ ∃ payload peer k lr channel,
      this.calls[call]? = some ⟨payload, [], (peer, k) :: lr⟩ ∧
        (this.channels peer).await k = some channel ∧
        this.await call = this.put call ⟨payload, [], lr⟩ peer channel := by
  rw [Replication.await]
  split
  next payload peer k lr found =>
    cases done : (this.channels peer).await k with
    | none => exact Or.inl rfl
    | some channel => exact Or.inr ⟨payload, peer, k, lr, channel, found, done, rfl⟩
  next => exact Or.inl rfl

/-- A replica with packets on their way is a member. -/
theorem isMember_of_pending {channel : DataChannel} {peer : UUID}
    {lost pending : List (Nat × List UInt8)} (sound : sends.Sound members)
    (carries : channel.Carries (sends.order peer) lost pending) (some : pending ≠ []) :
    peer ∈ members := by
  rcases List.exists_mem_of_ne_nil pending some with ⟨⟨call, payload⟩, onWay⟩
  have sent : (call, payload) ∈ sends.order peer := by
    rw [carries.order]
    exact List.mem_append_right _ onWay
  rcases (sound.mem peer call payload).mp sent with ⟨rest, -, isMember, -⟩
  exact isMember

theorem fits_order (sound : sends.Sound members)
    (fits : ∀ call ∈ sends.calls, call.1.length < 2 ^ 32) (peer : UUID) :
    ∀ entry ∈ sends.order peer, entry.2.length < 2 ^ 32 := by
  rintro ⟨call, payload⟩ sent
  rcases (sound.mem peer call payload).mp sent with ⟨rest, found, -⟩
  exact fits _ (List.mem_of_getElem? found)

/-- A change of a channel that carries the same. -/
theorem Follows.update (follows : this.Follows sends) {calls : List ReplicateCall} {peer : UUID}
    {channel : DataChannel}
    (same : calls.map (fun call => (call.payload, call.memberList)) = sends.calls)
    (carries : ∀ lost pending, (this.channels peer).Carries (sends.order peer) lost pending →
      ∃ lostAfter pendingAfter, channel.Carries (sends.order peer) lostAfter pendingAfter) :
    Follows ⟨calls, Function.update this.channels peer channel⟩ sends where
  calls := same
  carries := by
    intro other
    change ∃ lost pending, (Function.update this.channels peer channel other).Carries _ lost pending
    by_cases here : other = peer
    · subst here
      rcases follows.carries other with ⟨lost, pending, old⟩
      rw [Function.update_self]
      exact carries lost pending old
    · rw [Function.update_of_ne here]
      exact follows.carries other

theorem Follows.step (follows : this.Follows sends) (sound : sends.Sound members)
    (replicas : ∀ peer ∈ members, (groups peer).isThisPeerPrimary = false)
    (fits : ∀ call ∈ sends.calls, call.1.length < 2 ^ 32) (event : ReplicationEvent) :
    (this.step members groups event).Follows (sends.step members event) := by
  cases event with
  | replicate payload =>
      refine ⟨?_, follows.carries⟩
      change (this.calls ++ [_]).map _ = sends.calls ++ [(payload, members)]
      rw [List.map_append, follows.calls]
      rfl
  | send call =>
      change (this.send call).Follows (sends.send call)
      rcases follows.send_cases call with
        ⟨same, sameSends⟩ | ⟨payload, peer, rest, lr, found, after, afterSends⟩
      · rw [same, sameSends]
        exact follows
      · rw [after, afterSends]
        constructor
        · change (this.calls.set call _).map _ = sends.calls.set call (payload, rest)
          rw [List.map_set, follows.calls]
        · intro other
          change ∃ lost pending, (Function.update this.channels peer _ other).Carries
            (Function.update sends.order peer _ other) lost pending
          by_cases here : other = peer
          · subst here
            rcases follows.carries other with ⟨lost, pending, carries⟩
            rw [Function.update_self, Function.update_self]
            exact ⟨_, _, carries.replicate call payload⟩
          · rw [Function.update_of_ne here, Function.update_of_ne here]
            exact follows.carries other
  | deliver peer =>
      apply follows.update follows.calls
      intro lost pending carries
      exact carries.deliver (fun some => replicas peer (isMember_of_pending sound carries some))
        (fits_order sound fits peer)
  | receive peer =>
      apply follows.update follows.calls
      intro lost pending carries
      exact ⟨lost, pending, carries.receive⟩
  | await call =>
      change (this.await call).Follows sends
      rcases this.await_cases call with same | ⟨payload, peer, k, lr, channel, found, done, after⟩
      · rw [same]
        exact follows
      · rw [after]
        apply follows.update
        · rcases List.getElem?_eq_some_iff.mp found with ⟨within, equal⟩
          have length : call < (this.calls.map fun call => (call.payload, call.memberList)).length := by
            rwa [List.length_map]
          have kept : (payload, []) =
              (this.calls.map fun call => (call.payload, call.memberList))[call] := by
            rw [List.getElem_map, equal]
          rw [List.map_set, ← follows.calls]
          dsimp only
          rw [kept, List.set_getElem_self]
        · intro lost pending carries
          exact ⟨lost, pending, carries.await done⟩

/-- A change of a channel that takes no reply back. -/
theorem Waits.update (waits : this.Waits sequenceID sends) {peer : UUID} {channel : DataChannel}
    (numbered : channel.Numbered (sequenceID peer) (sends.order peer).length)
    (later : (this.channels peer).answered ≤ channel.answered) :
    Waits sequenceID ⟨this.calls, Function.update this.channels peer channel⟩ sends where
  numbered := by
    intro other
    change (Function.update this.channels peer channel other).Numbered _ _
    by_cases here : other = peer
    · subst here
      rw [Function.update_self]
      exact numbered
    · rw [Function.update_of_ne here]
      exact waits.numbered other
  waits := by
    intro index call isCall other sent
    rcases waits.waits index call isCall other sent with ⟨k, position, waiting⟩
    refine ⟨k, position, waiting.imp id ?_⟩
    intro had
    change k < (Function.update this.channels peer channel other).answered
    by_cases here : other = peer
    · subst here
      rw [Function.update_self]
      exact Nat.lt_of_lt_of_le had later
    · rw [Function.update_of_ne here]
      exact had

theorem Waits.replicate (waits : this.Waits sequenceID sends) (follows : this.Follows sends)
    (sound : sends.Sound members) (payload : List UInt8) :
    (this.step members groups (.replicate payload)).Waits sequenceID
      (sends.step members (.replicate payload)) where
  numbered := waits.numbered
  waits := by
    intro index call isCall peer sent
    change (this.calls ++ [_])[index]? = some call at isCall
    rcases (sound.mem peer index call.payload).mp sent with ⟨rest, found, -⟩
    have old : index < this.calls.length := by
      have within := (List.getElem?_eq_some_iff.mp found).1
      rwa [← follows.calls, List.length_map] at within
    rw [List.getElem?_append_left old] at isCall
    exact waits.waits index call isCall peer sent

theorem Waits.send (waits : this.Waits sequenceID sends) (follows : this.Follows sends)
    (call : Nat) : (this.send call).Waits sequenceID (sends.send call) := by
  rcases follows.send_cases call with
    ⟨same, sameSends⟩ | ⟨payload, peer, rest, lr, found, after, afterSends⟩
  · rw [same, sameSends]
    exact waits
  rw [after, afterSends]
  constructor
  case numbered =>
    intro other
    change (Function.update this.channels peer _ other).Numbered _
      (Function.update sends.order peer _ other).length
    by_cases here : other = peer
    · subst here
      rw [Function.update_self, Function.update_self, List.length_append, List.length_singleton]
      exact (waits.numbered other).replicate call payload
    · rw [Function.update_of_ne here, Function.update_of_ne here]
      exact waits.numbered other
  case waits =>
    have within : call < this.calls.length := (List.getElem?_eq_some_iff.mp found).1
    have position : (sends.order peer).length = (this.channels peer).requests.next :=
      (waits.numbered peer).next.symm
    intro index thread isCall other sent
    change (this.calls.set call _)[index]? = some thread at isCall
    change (index, thread.payload) ∈ Function.update sends.order peer _ other at sent
    change ∃ k, (Function.update sends.order peer _ other)[k]? = _ ∧ (_ ∨
      k < (Function.update this.channels peer _ other).answered)
    by_cases mine : index = call
    · subst mine
      rw [List.getElem?_set_self within, Option.some_inj] at isCall
      subst isCall
      by_cases here : other = peer
      · subst here
        rw [Function.update_self, Function.update_self]
        refine ⟨(this.channels other).requests.next, ?_, Or.inl ?_⟩
        · rw [← position, List.getElem?_concat_length]
        · exact List.mem_append_right _ List.mem_cons_self
      · rw [Function.update_of_ne here] at sent ⊢
        rw [Function.update_of_ne here]
        rcases waits.waits index _ found other sent with ⟨k, isAt, waiting⟩
        exact ⟨k, isAt, waiting.imp (List.mem_append_left _) id⟩
    · rw [List.getElem?_set_ne (Ne.symm mine)] at isCall
      by_cases here : other = peer
      · subst here
        rw [Function.update_self] at sent ⊢
        rw [Function.update_self]
        have old : (index, thread.payload) ∈ sends.order other := by
          rcases List.mem_append.mp sent with old | new
          · exact old
          · exact absurd (Prod.mk.inj (List.mem_singleton.mp new)).1 mine
        rcases waits.waits index thread isCall other old with ⟨k, isAt, waiting⟩
        have earlier := (List.getElem?_eq_some_iff.mp isAt).1
        refine ⟨k, ?_, waiting⟩
        rw [List.getElem?_append_left earlier]
        exact isAt
      · rw [Function.update_of_ne here] at sent ⊢
        rw [Function.update_of_ne here]
        exact waits.waits index thread isCall other sent

theorem Waits.await (waits : this.Waits sequenceID sends) (call : Nat) :
    (this.await call).Waits sequenceID sends := by
  rcases this.await_cases call with same | ⟨payload, peer, k, lr, channel, found, done, after⟩
  · rw [same]
    exact waits
  rw [after]
  rcases (waits.numbered peer).await done with ⟨had, numbered, answered⟩
  have updated := waits.update numbered (Nat.le_of_eq answered.symm)
  refine ⟨updated.numbered, ?_⟩
  have within : call < this.calls.length := (List.getElem?_eq_some_iff.mp found).1
  intro index thread isCall other sent
  change (this.calls.set call _)[index]? = some thread at isCall
  by_cases mine : index = call
  · subst mine
    rw [List.getElem?_set_self within, Option.some_inj] at isCall
    subst isCall
    rcases updated.waits index _ found other sent with ⟨j, isAt, waiting | past⟩
    · rcases List.mem_cons.mp waiting with now | later
      · cases now
        refine ⟨k, isAt, Or.inr ?_⟩
        change k < (Function.update this.channels peer channel peer).answered
        rw [Function.update_self, answered]
        exact had
      · exact ⟨j, isAt, Or.inl later⟩
    · exact ⟨j, isAt, Or.inr past⟩
  · rw [List.getElem?_set_ne (Ne.symm mine)] at isCall
    exact updated.waits index thread isCall other sent

theorem Waits.step (waits : this.Waits sequenceID sends) (follows : this.Follows sends)
    (sound : sends.Sound members)
    (replicas : ∀ peer ∈ members, (groups peer).isThisPeerPrimary = false)
    (fits : ∀ call ∈ sends.calls, call.1.length < 2 ^ 32) (few : this.FewWait)
    (event : ReplicationEvent) :
    (this.step members groups event).Waits sequenceID (sends.step members event) := by
  cases event with
  | replicate payload => exact waits.replicate follows sound payload
  | send call => exact waits.send follows call
  | deliver peer =>
      rcases follows.carries peer with ⟨lost, pending, carries⟩
      rcases (waits.numbered peer).deliver carries
        (fun some => replicas peer (isMember_of_pending sound carries some))
        (fits_order sound fits peer) with ⟨numbered, answered⟩
      exact waits.update numbered (Nat.le_of_eq answered.symm)
  | receive peer =>
      rcases (waits.numbered peer).receive (few peer) with ⟨numbered, later⟩
      exact waits.update numbered later
  | await call => exact waits.await call

/-- The two levels of a run, and payloads that a size field can count. -/
structure Tracks (members : List UUID) (this : Replication) (sends : Sends) : Prop where
  follows : this.Follows sends
  sound : sends.Sound members
  fits : ∀ call ∈ sends.calls, call.1.length < 2 ^ 32

namespace Tracks

theorem opened (members : List UUID) (sequenceID : UUID → UInt32) :
    (Replication.opened sequenceID).Tracks members Sends.start where
  follows := by
    refine ⟨rfl, fun peer => ⟨[], [], rfl, rfl, ?_, ?_, ?_⟩⟩
    · intro entry impossible
      cases impossible
    · exact ⟨fun _ => rfl, fun _ => rfl⟩
    · intro entry impossible
      cases impossible
  sound := Sends.Sound.start
  fits := by
    intro call impossible
    cases impossible

theorem fits_step (tracks : this.Tracks members sends) {event : ReplicationEvent}
    (fits : ∀ payload, event = .replicate payload → payload.length < 2 ^ 32) :
    ∀ call ∈ (sends.step members event).calls, call.1.length < 2 ^ 32 := by
  cases event with
  | replicate payload =>
      intro call isCall
      rcases List.mem_append.mp isCall with old | new
      · exact tracks.fits call old
      · rw [List.mem_singleton.mp new]
        exact fits payload rfl
  | send call =>
      intro other isCall
      rcases tracks.follows.send_cases call with
        ⟨-, same⟩ | ⟨payload, peer, rest, lr, found, -, after⟩
      · change other ∈ (sends.send call).calls at isCall
        rw [same] at isCall
        exact tracks.fits other isCall
      · change other ∈ (sends.send call).calls at isCall
        rw [after] at isCall
        rcases List.mem_or_eq_of_mem_set isCall with old | rfl
        · exact tracks.fits other old
        · have isBefore := tracks.follows.getElem? call
          rw [found] at isBefore
          exact tracks.fits (payload, peer :: rest) (List.mem_of_getElem? isBefore)
  | deliver peer => exact tracks.fits
  | receive peer => exact tracks.fits
  | await call => exact tracks.fits

theorem step (tracks : this.Tracks members sends) (distinct : members.Nodup)
    (replicas : ∀ peer ∈ members, (groups peer).isThisPeerPrimary = false)
    {event : ReplicationEvent}
    (fits : ∀ payload, event = .replicate payload → payload.length < 2 ^ 32) :
    (this.step members groups event).Tracks members (sends.step members event) where
  follows := tracks.follows.step tracks.sound replicas tracks.fits event
  sound := tracks.sound.step distinct event
  fits := tracks.fits_step fits

theorem run (tracks : this.Tracks members sends) (distinct : members.Nodup)
    (replicas : ∀ peer ∈ members, (groups peer).isThisPeerPrimary = false)
    {events : List ReplicationEvent}
    (fits : ∀ payload, .replicate payload ∈ events → payload.length < 2 ^ 32) :
    (this.run members groups events).Tracks members
      (events.foldl (Sends.step members) sends) := by
  induction events generalizing this sends with
  | nil => exact tracks
  | cons event events ih =>
      have first : ∀ payload, event = .replicate payload → payload.length < 2 ^ 32 := by
        rintro payload rfl
        exact fits payload List.mem_cons_self
      exact ih (tracks.step distinct replicas first)
        fun payload later => fits payload (List.mem_cons_of_mem _ later)

/-- As long as few requests wait, a call waits for what the replicas have not logged. -/
theorem waits (tracks : this.Tracks members sends) (waits : this.Waits sequenceID sends)
    (distinct : members.Nodup)
    (replicas : ∀ peer ∈ members, (groups peer).isThisPeerPrimary = false)
    {events : List ReplicationEvent}
    (fits : ∀ payload, .replicate payload ∈ events → payload.length < 2 ^ 32)
    (few : ∀ before, before <+: events → (this.run members groups before).FewWait) :
    (this.run members groups events).Waits sequenceID
      (events.foldl (Sends.step members) sends) := by
  induction events generalizing this sends with
  | nil => exact waits
  | cons event events ih =>
      have first : ∀ payload, event = .replicate payload → payload.length < 2 ^ 32 := by
        rintro payload rfl
        exact fits payload List.mem_cons_self
      have start : this.FewWait := few [] List.nil_prefix
      apply ih (tracks.step distinct replicas first)
      · exact waits.step tracks.follows tracks.sound replicas tracks.fits start event
      · exact fun payload later => fits payload (List.mem_cons_of_mem _ later)
      · intro before isPrefix
        exact few (event :: before) (List.cons_prefix_cons.mpr ⟨rfl, isPrefix⟩)

end Tracks

theorem waits_opened (sequenceID : UUID → UInt32) :
    (opened sequenceID).Waits sequenceID Sends.start where
  numbered := by
    intro peer
    exact ⟨rfl, RequestChannel.InOrder.new _, rfl, rfl, Nat.le_refl 0, Nat.le_refl 0⟩
  waits := by
    intro index call impossible
    cases impossible

/-! ## What the replicas see -/

theorem Tracks.payloads_eq (tracks : this.Tracks members sends) :
    (this.calls.zipIdx.map fun call => (call.2, call.1.payload)) = sends.payloads := by
  rw [Sends.payloads, ← tracks.follows.calls, List.zipIdx_map, List.map_map]
  rfl

theorem Tracks.complete (tracks : this.Tracks members sends) (settled : this.Settled members) :
    sends.Complete := by
  intro call isCall
  rw [← tracks.follows.calls] at isCall
  rcases List.mem_map.mp isCall with ⟨thread, isThread, rfl⟩
  exact settled.sent thread isThread

/-- A replica that was asked to replay every payload has logged what was sent to it. -/
theorem Tracks.log_of_once (tracks : this.Tracks members sends) (settled : this.Settled members)
    {peer : UUID} (isMember : peer ∈ members)
    (once : (this.channels peer).log.Perm
      (this.calls.zipIdx.map fun call => (call.2, call.1.payload))) :
    (this.channels peer).log = sends.order peer ∧ ∀ entry ∈ sends.order peer, entry.2 ≠ [] := by
  rcases tracks.follows.carries peer with ⟨lost, pending, carries⟩
  have whole := tracks.sound.perm_payloads (tracks.complete settled) isMember
  rw [tracks.payloads_eq] at once
  have order := carries.order
  have lengths := once.length_eq.trans whole.length_eq.symm
  rw [order, List.append_assoc, List.length_append] at lengths
  have nothing : lost ++ pending = [] := by
    rw [← List.length_eq_zero_iff]
    omega
  rw [List.append_assoc, nothing, List.append_nil] at order
  rw [order]
  exact ⟨rfl, carries.logged⟩

/-- A replica that no empty payload has stopped has logged what was sent to it. -/
theorem Tracks.log_of_nonempty (tracks : this.Tracks members sends)
    (settled : this.Settled members) {peer : UUID} (isMember : peer ∈ members)
    (nonempty : ∀ entry ∈ sends.order peer, entry.2 ≠ []) :
    (this.channels peer).log = sends.order peer := by
  rcases tracks.follows.carries peer with ⟨lost, pending, carries⟩
  have kept : lost = [] := by
    rw [List.eq_nil_iff_forall_not_mem]
    intro entry isLost
    apply nonempty entry _ (carries.lost entry isLost)
    rw [carries.order]
    exact List.mem_append_left _ (List.mem_append_right _ isLost)
  have arrived : pending = [] := by
    rcases settled.handled peer isMember with none | stopped
    · have inFlight := carries.inFlight
      rw [DataChannel.inFlight, none, List.map_nil] at inFlight
      exact List.map_eq_nil_iff.mp inFlight.symm
    · exact absurd (carries.alive.mpr kept) stopped
  rw [carries.order, kept, arrived, List.append_nil, List.append_nil]

theorem Tracks.replicated_iff (tracks : this.Tracks members sends)
    (settled : this.Settled members) : this.Replicated members ↔ sends.Uniform members := by
  constructor
  · intro replicated
    have logged : ∀ peer ∈ members, (this.channels peer).log = sends.order peer ∧
        ∀ entry ∈ sends.order peer, entry.2 ≠ [] := by
      intro peer isMember
      exact tracks.log_of_once settled isMember (replicated.once peer isMember)
    constructor
    · intro peer isMember
      exact (logged peer isMember).2
    · intro peer isMember other isOther
      rw [← (logged peer isMember).1, ← (logged other isOther).1]
      exact replicated.order peer isMember other isOther
  · intro uniform
    have logged : ∀ peer ∈ members, (this.channels peer).log = sends.order peer := by
      intro peer isMember
      exact tracks.log_of_nonempty settled isMember (uniform.nonempty peer isMember)
    constructor
    · intro peer isMember
      rw [logged peer isMember, tracks.payloads_eq]
      exact tracks.sound.perm_payloads (tracks.complete settled) isMember
    · intro peer isMember other isOther
      rw [logged peer isMember, logged other isOther]
      exact uniform.order peer isMember other isOther

theorem Tracks.appliedOnReturn (tracks : this.Tracks members sends)
    (waits : this.Waits sequenceID sends) : this.AppliedOnReturn members := by
  intro index call isCall returned peer isMember
  rw [ReplicateCall.returned, Bool.and_eq_true, List.isEmpty_iff, List.isEmpty_iff] at returned
  have sent : (index, call.payload) ∈ sends.order peer := by
    rw [tracks.sound.mem, tracks.follows.getElem?, isCall]
    refine ⟨[], ?_, isMember, List.not_mem_nil⟩
    rw [Option.map_some, returned.1]
  rcases waits.waits index call isCall peer sent with ⟨k, position, waiting | had⟩
  · rw [returned.2] at waiting
    cases waiting
  · rcases tracks.follows.carries peer with ⟨lost, pending, carries⟩
    have logged : k < (this.channels peer).log.length :=
      Nat.lt_of_lt_of_le had (Nat.sub_le _ _)
    rw [carries.order, List.append_assoc, List.getElem?_append_left logged] at position
    exact List.mem_of_getElem? position

/-- For any number of calls, any interleaving of their sends and any deliveries: when all
is sent and handled, the replicas have replayed every payload once and in one order
exactly if none is empty and the channels were used in one order.  A call that returns
has been applied everywhere. -/
theorem replicated_run (members : List UUID) (groups : UUID → P3ReplicationGroup)
    (sequenceID : UUID → UInt32) (events : List ReplicationEvent) (distinct : members.Nodup)
    (replicas : ∀ peer ∈ members, (groups peer).isThisPeerPrimary = false)
    (fits : ∀ payload, .replicate payload ∈ events → payload.length < 2 ^ 32) :
    let after := (opened sequenceID).run members groups events
    (after.Settled members →
      (after.Replicated members ↔ (Sends.run members events).Uniform members)) ∧
    ((∀ before, before <+: events → ((opened sequenceID).run members groups before).FewWait) →
      after.AppliedOnReturn members) := by
  intro after
  have tracks := (Tracks.opened members sequenceID).run distinct replicas fits
  constructor
  · exact tracks.replicated_iff
  · intro few
    have waits := (Tracks.opened members sequenceID).waits (waits_opened sequenceID) distinct
      replicas fits few
    exact tracks.appliedOnReturn waits

/-! ## Two calls and two replicas -/

section Crossing

def replicaPeers : List UUID :=
  [⟨[2]⟩, ⟨[3]⟩]

def replicaGroups (uuid : UUID) : P3ReplicationGroup :=
  P3ReplicationGroup.openReplica { peer 0 with uuid } ⟨[8]⟩ ⟨[9]⟩ ⟨[11]⟩ (peer 1) []

/-- The first call is overtaken between its two sends. -/
def crossing : List ReplicationEvent :=
  [.replicate [1], .replicate [2], .send 0, .send 1, .send 1, .send 0,
    .deliver ⟨[2]⟩, .deliver ⟨[2]⟩, .deliver ⟨[3]⟩, .deliver ⟨[3]⟩,
    .receive ⟨[2]⟩, .receive ⟨[2]⟩, .receive ⟨[3]⟩, .receive ⟨[3]⟩,
    .await 0, .await 0, .await 1, .await 1]

theorem replicated_crossing :
    let after := (opened fun _ => 0).run replicaPeers replicaGroups crossing
    (after.Settled replicaPeers →
      (after.Replicated replicaPeers ↔ (Sends.run replicaPeers crossing).Uniform replicaPeers)) ∧
    ((∀ before, before <+: crossing →
        ((opened fun _ => 0).run replicaPeers replicaGroups before).FewWait) →
      after.AppliedOnReturn replicaPeers) := by
  have fits : ∀ payload, .replicate payload ∈ crossing → payload.length < 2 ^ 32 := by
    intro payload isEvent
    simp only [crossing, List.mem_cons, ReplicationEvent.replicate.injEq, reduceCtorEq,
      List.not_mem_nil, or_false] at isEvent
    rcases isEvent with rfl | rfl
    · decide
    · decide
  exact replicated_run replicaPeers replicaGroups (fun _ => 0) crossing (by decide) (by decide) fits

/-- Both calls return, and the replicas have replayed the payloads in different orders. -/
theorem not_replicated_crossing :
    let after := (opened fun _ => 0).run replicaPeers replicaGroups crossing
    after.Settled replicaPeers ∧ (∀ call ∈ after.calls, call.returned = true) ∧
      ¬ after.Replicated replicaPeers := by
  refine ⟨⟨by decide, by decide⟩, by decide, ?_⟩
  intro replicated
  have same := replicated.order ⟨[2]⟩ (by decide) ⟨[3]⟩ (by decide)
  revert same
  decide

end Crossing

end Replication

end Stheno.FT
