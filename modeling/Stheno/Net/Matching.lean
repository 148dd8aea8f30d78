import Mathlib.Algebra.Group.Nat.Defs
import Stheno.Net.RequestEngine

/-!
# Replies reach the request they answer

As long as no request is sent under the identifier of one that still exists, an entry
of the engine and the request under that identifier belong together: a reply reaches
that request only, and a request that goes away takes no other entry with it.
-/

namespace Stheno.Net

theorem Request.id_setFuture {REPLY : Type} (r : Request REPLY) (reply : REPLY) :
    (r.setFuture reply).id = r.id := by
  rw [setFuture]
  split
  · rfl
  · rfl

theorem Request.id_waitFuture {REPLY : Type} (r : Request REPLY) (timedOut : Bool) :
    (r.waitFuture timedOut).id = r.id := by
  rw [waitFuture]
  split
  · rfl
  · split
    · rfl
    · rfl

theorem Request.result_waitFuture {REPLY : Type} (r : Request REPLY) (timedOut : Bool) :
    (r.waitFuture timedOut).result = r.result ∨ (r.waitFuture timedOut).result = none := by
  rw [waitFuture]
  split
  · exact Or.inr rfl
  · split
    · exact Or.inr rfl
    · exact Or.inl rfl

/-- A request has no reply that nobody has fetched yet. -/
def Request.Unanswered {REPLY : Type} (r : Request REPLY) : Prop :=
  ∀ replies, r.result = some replies → replies = []

/-- The first reply is stored unless the result was fetched before. -/
theorem Request.Unanswered.setFuture {REPLY : Type} {r : Request REPLY} (unanswered : r.Unanswered)
    (reply : REPLY) : (r.setFuture reply).result = none ∨
      r.result = some [] ∧ (r.setFuture reply).result = some [reply] := by
  rw [Request.setFuture]
  split
  next none => exact Or.inl none
  next replies some =>
    have empty := unanswered replies some
    subst empty
    exact Or.inr ⟨some, rfl⟩

/-- What a request is as long as it is bound: it has no reply, it is not final unless its result
was fetched, and its destructor clears its entry. -/
structure Request.Waiting {REPLY : Type} (r : Request REPLY) : Prop where
  unanswered : r.Unanswered
  pending : r.state = .idle ∨ r.result = none
  clears : r.disableClearMap = false

/-- A wait that returns has fetched the result. -/
theorem Request.Waiting.waitFuture {REPLY : Type} {r : Request REPLY} (waiting : r.Waiting)
    (timedOut : Bool) : (r.waitFuture timedOut).Waiting := by
  have fetched : ∀ {q : Request REPLY}, q.disableClearMap = false → q.detach.Waiting := by
    intro q clears
    exact ⟨fun replies impossible => (by cases impossible), Or.inr rfl, clears⟩
  rw [Request.waitFuture]
  split
  · exact fetched waiting.clears
  · split
    · exact fetched waiting.clears
    · exact waiting

namespace RequestChannel

variable {REPLY : Type}

/-- The entry of a request is in the map. -/
def Bound (this : RequestChannel REPLY) (k : Nat) : Prop :=
  ∃ r, this.requests k = some r ∧ this.map r.id = some k

/-- A live request: it is bound and in no final state, so it was not answered, did not time out
and was neither cancelled nor cleared. -/
def Live (this : RequestChannel REPLY) (id : UInt32) (k : Nat) : Prop :=
  this.map id = some k ∧ ∃ r, this.requests k = some r ∧ r.id = id ∧ r.state = .idle

/-- Requests have identifiers of their own, and an entry leads to the request under its
identifier, which waits for its reply. -/
structure Sound (this : RequestChannel REPLY) : Prop where
  bound : ∀ id k, this.map id = some k →
    ∃ r, this.requests k = some r ∧ r.id = id ∧ r.Waiting
  distinct : ∀ k r j q, this.requests k = some r → this.requests j = some q → r.id = q.id → k = j
  few : ∀ k r replies, this.requests k = some r → r.result = some replies → replies.length ≤ 1
  created : ∀ k r, this.requests k = some r → k < this.next

theorem sound_new : (new : RequestChannel REPLY).Sound where
  bound := by
    intro id k impossible
    cases impossible
  distinct := by
    intro k r j q impossible
    cases impossible
  few := by
    intro k r replies impossible
    cases impossible
  created := by
    intro k r impossible
    cases impossible

section Primitives

variable {this : RequestChannel REPLY}

@[simp]
theorem map_modify (k : Nat) (f : Request REPLY → Request REPLY) :
    (this.modify k f).map = this.map :=
  rfl

theorem requests_modify (k : Nat) (f : Request REPLY → Request REPLY) :
    (this.modify k f).requests = Function.update this.requests k ((this.requests k).map f) :=
  rfl

theorem requests_remove (k : Nat) :
    (this.remove k).requests = Function.update this.requests k none :=
  rfl

theorem map_unbind (id : UInt32) : (this.unbind id).map = Function.update this.map id none :=
  rfl

@[simp]
theorem requests_unbind (id : UInt32) : (this.unbind id).requests = this.requests :=
  rfl

theorem requests_modify_of_ne {k j : Nat} {f : Request REPLY → Request REPLY} (other : j ≠ k) :
    (this.modify k f).requests j = this.requests j :=
  Function.update_of_ne other _ _

theorem requests_modify_self {k : Nat} {f : Request REPLY → Request REPLY} {r : Request REPLY}
    (found : this.requests k = some r) : (this.modify k f).requests k = some (f r) := by
  rw [requests_modify, Function.update_self, found]
  rfl

/-- What a request is after its change, and that it was there before. -/
theorem requests_modify_eq_some {k j : Nat} {f : Request REPLY → Request REPLY}
    {q : Request REPLY} (found : (this.modify k f).requests j = some q) :
    ∃ r, this.requests j = some r ∧ q = if j = k then f r else r := by
  by_cases here : j = k
  · subst here
    rw [requests_modify, Function.update_self, Option.map_eq_some_iff] at found
    rcases found with ⟨r, isR, rfl⟩
    exact ⟨r, isR, (if_pos rfl).symm⟩
  · rw [requests_modify_of_ne here] at found
    exact ⟨q, found, (if_neg here).symm⟩

theorem requests_remove_eq_some {k j : Nat} {q : Request REPLY}
    (found : (this.remove k).requests j = some q) : j ≠ k ∧ this.requests j = some q := by
  by_cases here : j = k
  · rw [here, requests_remove, Function.update_self] at found
    cases found
  · rw [requests_remove, Function.update_of_ne here] at found
    exact ⟨here, found⟩

theorem map_unbind_eq_some {id other : UInt32} {k : Nat}
    (found : (this.unbind id).map other = some k) : other ≠ id ∧ this.map other = some k := by
  by_cases here : other = id
  · rw [here, map_unbind, Function.update_self] at found
    cases found
  · rw [map_unbind, Function.update_of_ne here] at found
    exact ⟨here, found⟩

theorem requests_collect_eq_some {k j : Nat} {q : Request REPLY}
    (found : (this.collect k).requests j = some q) : this.requests j = some q := by
  rw [collect] at found
  split at found
  · exact found
  · split at found
    · exact found
    · exact (requests_remove_eq_some found).2

theorem requests_collect_of_ne {k j : Nat} (other : j ≠ k) :
    (this.collect k).requests j = this.requests j := by
  rw [collect]
  split
  · rfl
  · split
    · rfl
    · exact Function.update_of_ne other _ _

@[simp]
theorem map_collect (k : Nat) : (this.collect k).map = this.map := by
  rw [collect]
  split
  · rfl
  · split
    · rfl
    · rfl

theorem requests_clear_eq_some {id : UInt32} {j : Nat} {q : Request REPLY}
    (found : (this.clear id).requests j = some q) : this.requests j = some q := by
  rw [clear] at found
  split at found
  · exact found
  · exact (requests_collect_eq_some found :)

theorem map_clear_eq_some {id other : UInt32} {k : Nat}
    (found : (this.clear id).map other = some k) : this.map other = some k := by
  rw [clear] at found
  split at found
  · exact found
  · rw [map_collect] at found
    exact (map_unbind_eq_some found).2

theorem map_cancel_eq_some {id : UInt32} {k j : Nat} (found : (this.cancel k).map id = some j) :
    this.map id = some j := by
  rw [cancel] at found
  split at found
  · exact found
  · rw [map_modify] at found
    split at found
    · exact found
    · exact map_clear_eq_some found

/-- A request after `clearAll` is one from before, with its identifier and its result. -/
theorem requests_clearAll_eq_some {k : Nat} {q : Request REPLY}
    (found : this.clearAll.requests k = some q) :
    ∃ r, this.requests k = some r ∧ q.id = r.id ∧ q.result = r.result := by
  rcases Option.bind_eq_some_iff.mp found with ⟨r, isR, equal⟩
  refine ⟨r, isR, ?_⟩
  split at equal
  · split at equal
    · cases equal
      exact ⟨rfl, rfl⟩
    · cases equal
  · cases equal
    exact ⟨rfl, rfl⟩

end Primitives

namespace Sound

variable {this : RequestChannel REPLY}

theorem unbind (sound : this.Sound) (id : UInt32) : (this.unbind id).Sound where
  bound := by
    intro other k found
    exact sound.bound other k (map_unbind_eq_some found).2
  distinct := sound.distinct
  few := sound.few
  created := sound.created

/-- A change that keeps the identifier, leaves at most one reply, and lets a bound request
wait on. -/
theorem modify (sound : this.Sound) {k : Nat} {f : Request REPLY → Request REPLY}
    (id : ∀ r, (f r).id = r.id)
    (few : ∀ r replies, this.requests k = some r → (f r).result = some replies →
      replies.length ≤ 1)
    (bound : ∀ r, this.requests k = some r → this.map r.id = some k → r.Waiting →
      (f r).Waiting) :
    (this.modify k f).Sound where
  bound := by
    intro other j found
    rw [map_modify] at found
    rcases sound.bound other j found with ⟨r, isR, rfl, waiting⟩
    by_cases here : j = k
    · subst here
      exact ⟨f r, requests_modify_self isR, id r, bound r isR found waiting⟩
    · rw [requests_modify_of_ne here]
      exact ⟨r, isR, rfl, waiting⟩
  distinct := by
    intro i r j q isR isQ same
    rcases requests_modify_eq_some isR with ⟨r', isR', rfl⟩
    rcases requests_modify_eq_some isQ with ⟨q', isQ', rfl⟩
    apply sound.distinct i r' j q' isR' isQ'
    have idR : (if i = k then f r' else r').id = r'.id := by
      split
      · exact id r'
      · rfl
    have idQ : (if j = k then f q' else q').id = q'.id := by
      split
      · exact id q'
      · rfl
    rw [← idR, ← idQ]
    exact same
  few := by
    intro j q replies isQ result
    rcases requests_modify_eq_some isQ with ⟨r, isR, rfl⟩
    by_cases here : j = k
    · subst here
      rw [if_pos rfl] at result
      exact few r replies isR result
    · rw [if_neg here] at result
      exact sound.few j r replies isR result
  created := by
    intro j q isQ
    rcases requests_modify_eq_some isQ with ⟨r, isR, -⟩
    exact sound.created j r isR

/-- A change that stores no reply. -/
theorem modify_of_result (sound : this.Sound) {k : Nat} {f : Request REPLY → Request REPLY}
    (id : ∀ r, (f r).id = r.id)
    (result : ∀ r, (f r).result = r.result ∨ (f r).result = none)
    (bound : ∀ r, this.requests k = some r → this.map r.id = some k → r.Waiting →
      (f r).Waiting) : (this.modify k f).Sound := by
  apply sound.modify id _ bound
  intro r replies isR equal
  rcases result r with same | detached
  · exact sound.few k r replies isR (same ▸ equal)
  · rw [detached] at equal
    cases equal

theorem remove (sound : this.Sound) {k : Nat} (unbound : ∀ id, this.map id ≠ some k) :
    (this.remove k).Sound where
  bound := by
    intro id j found
    rcases sound.bound id j found with ⟨r, isR, same, waiting⟩
    have other : j ≠ k := by
      rintro rfl
      exact unbound id found
    refine ⟨r, ?_, same, waiting⟩
    rw [requests_remove, Function.update_of_ne other]
    exact isR
  distinct := by
    intro i r j q isR isQ
    exact sound.distinct i r j q (requests_remove_eq_some isR).2 (requests_remove_eq_some isQ).2
  few := by
    intro j q replies isQ
    exact sound.few j q replies (requests_remove_eq_some isQ).2
  created := by
    intro j q isQ
    exact sound.created j q (requests_remove_eq_some isQ).2

theorem collect (sound : this.Sound) {k : Nat} (unbound : ∀ id, this.map id ≠ some k) :
    (this.collect k).Sound := by
  rw [RequestChannel.collect]
  split
  · exact sound
  · split
    · exact sound
    · exact sound.remove unbound

/-- A request has one entry only. -/
theorem unbound (sound : this.Sound) {id : UInt32} {k : Nat} (found : this.map id = some k) :
    ∀ other, (this.unbind id).map other ≠ some k := by
  intro other again
  rcases map_unbind_eq_some again with ⟨differs, mapped⟩
  rcases sound.bound id k found with ⟨r, isR, same, -⟩
  rcases sound.bound other k mapped with ⟨r', isR', same', -⟩
  rw [isR] at isR'
  cases isR'
  exact differs (same'.symm.trans same)

theorem clear (sound : this.Sound) (id : UInt32) : (this.clear id).Sound := by
  rw [RequestChannel.clear]
  split
  · exact sound
  next k found => exact (sound.unbind id).collect (sound.unbound found)

/-- A request that is cancelled has no entry any more. -/
theorem unbound_cleared (sound : this.Sound) {k : Nat} {r : Request REPLY}
    (isR : this.requests k = some r) (id : UInt32) :
    (if r.disableClearMap then this else this.clear r.id).map id ≠ some k := by
  intro found
  have before : this.map id = some k := by
    split at found
    · exact found
    · exact map_clear_eq_some found
  rcases sound.bound id k before with ⟨r', isR', named, waiting⟩
  rw [isR] at isR'
  cases isR'
  rw [waiting.clears, RequestChannel.clear, named, before] at found
  exact sound.unbound before id (by simpa using found)

theorem cancel (sound : this.Sound) (k : Nat) : (this.cancel k).Sound := by
  rw [RequestChannel.cancel]
  split
  · exact sound
  next r isR =>
    apply modify_of_result
    · split
      · exact sound
      · exact sound.clear _
    · intro r
      rfl
    · intro r
      exact Or.inl rfl
    · intro r' _ mapped _
      exact absurd mapped (sound.unbound_cleared isR r'.id)

/-- The reply takes the place of the entry. -/
theorem setReply (sound : this.Sound) (id : UInt32) (reply : REPLY) :
    (this.setReply id reply).1.Sound := by
  rw [RequestChannel.setReply]
  split
  · exact sound
  next k found =>
    have settled : ((this.unbind id).modify k fun r => r.setFuture reply).Sound := by
      apply (sound.unbind id).modify
      · intro r
        exact r.id_setFuture reply
      · intro r replies isR equal
        rcases sound.bound id k found with ⟨r', isR', -, waiting⟩
        rw [requests_unbind, isR'] at isR
        cases isR
        rcases waiting.unanswered.setFuture reply with same | stored
        · rw [same] at equal
          cases equal
        · rw [stored.2, Option.some_inj] at equal
          subst equal
          exact Nat.le_refl 1
      · intro r _ mapped _
        exact absurd mapped (sound.unbound found r.id)
    rw [RequestChannel.clear, map_modify, found]
    exact settled.collect (sound.unbound found)

/-- The sender forgets its request. -/
theorem unheld (sound : this.Sound) (k : Nat) :
    (this.modify k fun r => { r with held := false }).Sound := by
  apply sound.modify_of_result
  · intro r
    rfl
  · intro r
    exact Or.inl rfl
  · intro r _ _ waiting
    exact ⟨waiting.unanswered, waiting.pending, waiting.clears⟩

theorem release (sound : this.Sound) (k : Nat) : (this.release k).Sound := by
  rw [RequestChannel.release]
  split
  · exact sound
  next r isR =>
    have released := sound.unheld k
    dsimp only
    split
    · exact released
    next kept =>
      apply (released.cancel k).remove
      intro id mapped
      have before := map_cancel_eq_some mapped
      rw [map_modify] at before
      rcases sound.bound id k before with ⟨r', isR', same, -⟩
      rw [isR] at isR'
      cases isR'
      rw [same, before] at kept
      simp at kept

theorem clearAll (sound : this.Sound) : this.clearAll.Sound where
  bound := by
    intro id k impossible
    cases impossible
  distinct := by
    intro i r j q isR isQ same
    rcases requests_clearAll_eq_some isR with ⟨r', isR', idR, -⟩
    rcases requests_clearAll_eq_some isQ with ⟨q', isQ', idQ, -⟩
    exact sound.distinct i r' j q' isR' isQ' (idR.symm.trans (same.trans idQ))
  few := by
    intro k r replies isR result
    rcases requests_clearAll_eq_some isR with ⟨r', isR', -, same⟩
    exact sound.few k r' replies isR' (same ▸ result)
  created := by
    intro k r isR
    rcases requests_clearAll_eq_some isR with ⟨r', isR', -⟩
    exact sound.created k r' isR'

end Sound

/-! ## What a step may change -/

/-- A request is sent under an identifier that no existing request has. -/
def Fresh (this : RequestChannel REPLY) : Event REPLY → Prop
  | .send packetID _ => ∀ k r, this.requests k = some r → r.id ≠ (this.serializePacket packetID).1
  | .reply _ _ => True
  | .cancel _ => True
  | .wait _ _ => True
  | .release _ => True
  | .clearAll => True

def AllFresh (this : RequestChannel REPLY) : List (Event REPLY) → Prop
  | [] => True
  | event :: events => this.Fresh event ∧ (this.step event).AllFresh events

/-- What an event may do to the requests and their entries. -/
structure Matched (this : RequestChannel REPLY) (event : Event REPLY)
    (after : RequestChannel REPLY) : Prop where
  /-- A reply changes only the one request that was sent with its identifier. -/
  only : ∀ id reply, event = .reply id reply → ∀ k, after.requests k ≠ this.requests k →
    (∃ r, this.requests k = some r ∧ r.id = id) ∧
      ∀ j q, this.requests j = some q → q.id = id → j = k
  /-- A reply to no existing request changes nothing. -/
  stranger : ∀ id reply, event = .reply id reply → (∀ k r, this.requests k = some r → r.id ≠ id) →
    after = this
  /-- A reply to no live request leaves every request as it is; at most it destroys the one
  that nobody refers to any more. -/
  late : ∀ id reply, event = .reply id reply → (∀ k, ¬this.Live id k) →
    ∀ k r, this.requests k = some r → after.requests k = some r ∨
      r.held = false ∧ r.leaked = false ∧ after.requests k = none
  /-- A result gets its only element from a reply to the live request, and a fetched result stays
  empty. -/
  result : ∀ k r r', this.requests k = some r → after.requests k = some r' →
    r'.result = r.result ∨ r'.result = none ∨
      ∃ reply, event = .reply r.id reply ∧ this.Live r.id k ∧ r.result = some [] ∧
        r'.result = some [reply]
  once : ∀ k r replies, after.requests k = some r → r.result = some replies → replies.length ≤ 1
  /-- A request that is cancelled or loses its sender takes no other entry with it. -/
  keeps : ∀ k, event = .cancel k ∨ event = .release k → ∀ j, j ≠ k → this.Bound j → after.Bound j
  /-- A reply takes no entry but that of its identifier. -/
  others : ∀ id reply, event = .reply id reply → ∀ j, this.Bound j → this.map id ≠ some j →
    after.Bound j

namespace Sound

variable {this : RequestChannel REPLY}

theorem bind (sound : this.Sound) {k : Nat} {r : Request REPLY} (isR : this.requests k = some r)
    (free : this.map r.id = none) (waiting : r.Waiting) : (this.bind k).Sound := by
  have bound : this.bind k = { this with map := Function.update this.map r.id (some k) } := by
    rw [RequestChannel.bind, isR]
    dsimp only
    rw [free]
  rw [bound]
  constructor
  · intro id j found
    by_cases here : id = r.id
    · subst here
      change Function.update this.map r.id (some k) r.id = some j at found
      rw [Function.update_self] at found
      cases found
      exact ⟨r, isR, rfl, waiting⟩
    · change Function.update this.map r.id (some k) id = some j at found
      rw [Function.update_of_ne here] at found
      exact sound.bound id j found
  · exact sound.distinct
  · exact sound.few
  · exact sound.created

/-- The counter does not matter. -/
theorem serializePacket (sound : this.Sound) (packetID : UInt32) :
    (this.serializePacket packetID).2.Sound := by
  rw [RequestChannel.serializePacket]
  split
  · exact ⟨sound.bound, sound.distinct, sound.few, sound.created⟩
  · exact sound

/-- A new request under an identifier of its own. -/
theorem create (sound : this.Sound) {id : UInt32}
    (fresh : ∀ k r, this.requests k = some r → r.id ≠ id) :
    ({ this with
      requests := Function.update this.requests this.next (some (Request.new id))
      next := this.next + 1 } : RequestChannel REPLY).Sound := by
  have old : ∀ {k r}, this.requests k = some r →
      Function.update this.requests this.next (some (Request.new id)) k = some r := by
    intro k r isR
    rw [Function.update_of_ne (Nat.ne_of_lt (sound.created k r isR))]
    exact isR
  have cases_ : ∀ {k r}, Function.update this.requests this.next (some (Request.new id)) k =
      some r → (k = this.next ∧ r = Request.new id) ∨ this.requests k = some r := by
    intro k r isR
    by_cases here : k = this.next
    · rw [here, Function.update_self] at isR
      exact Or.inl ⟨here, (Option.some.inj isR).symm⟩
    · rw [Function.update_of_ne here] at isR
      exact Or.inr isR
  constructor
  · intro other k found
    rcases sound.bound other k found with ⟨r, isR, same, waiting⟩
    exact ⟨r, old isR, same, waiting⟩
  · intro i r j q isR isQ same
    rcases cases_ isR with ⟨rfl, rfl⟩ | isR
    · rcases cases_ isQ with ⟨rfl, rfl⟩ | isQ
      · rfl
      · exact absurd same.symm (fresh j q isQ)
    · rcases cases_ isQ with ⟨rfl, rfl⟩ | isQ
      · exact absurd same (fresh i r isR)
      · exact sound.distinct i r j q isR isQ same
  · intro k r replies isR result
    rcases cases_ isR with ⟨rfl, rfl⟩ | isR
    · cases result
      exact Nat.zero_le 1
    · exact sound.few k r replies isR result
  · intro k r isR
    rcases cases_ isR with ⟨rfl, rfl⟩ | isR
    · exact Nat.lt_succ_self _
    · exact Nat.lt_succ_of_lt (sound.created k r isR)

@[simp]
theorem requests_serializePacket (packetID : UInt32) :
    (this.serializePacket packetID).2.requests = this.requests := by
  rw [RequestChannel.serializePacket]
  split
  · rfl
  · rfl

theorem sendRequest (sound : this.Sound) {packetID : UInt32} (sent : Bool)
    (fresh : this.Fresh (.send packetID sent)) : (this.sendRequest packetID sent).Sound := by
  have serialized := sound.serializePacket packetID
  have freshAfter : ∀ k r, (this.serializePacket packetID).2.requests k = some r →
      r.id ≠ (this.serializePacket packetID).1 := by
    intro k r isR
    rw [requests_serializePacket] at isR
    exact fresh k r isR
  have free : (this.serializePacket packetID).2.map (this.serializePacket packetID).1 = none := by
    rw [Option.eq_none_iff_forall_ne_some]
    intro k found
    rcases serialized.bound _ k found with ⟨r, isR, same, -⟩
    exact freshAfter k r isR same
  have bound := (serialized.create freshAfter).bind (Function.update_self _ _ _) free
    ⟨fun replies equal => (Option.some.inj equal).symm, Or.inl rfl, rfl⟩
  rw [RequestChannel.sendRequest]
  dsimp only
  split
  · exact bound
  · exact bound.release _

theorem step (sound : this.Sound) {event : Event REPLY} (fresh : this.Fresh event) :
    (this.step event).Sound := by
  cases event with
  | send packetID sent => exact sound.sendRequest sent fresh
  | reply id reply => exact sound.setReply id reply
  | cancel k =>
      rw [RequestChannel.step]
      split
      · exact sound.cancel k
      · exact sound
  | wait k timedOut =>
      rw [RequestChannel.step]
      split
      · exact sound.modify_of_result (fun r => r.id_waitFuture timedOut)
          (fun r => r.result_waitFuture timedOut) fun r _ _ waiting => waiting.waitFuture timedOut
      · exact sound
  | release k =>
      rw [RequestChannel.step]
      split
      · exact sound.release k
      · exact sound
  | clearAll => exact sound.clearAll

/-! ## The entries of the others -/

theorem bound_clear (sound : this.Sound) {k j : Nat} {r : Request REPLY}
    (isR : this.requests k = some r) (other : j ≠ k) (bound : this.Bound j) :
    (this.clear r.id).Bound j := by
  rw [RequestChannel.clear]
  split
  · exact bound
  next k' found =>
    rcases sound.bound r.id k' found with ⟨r', isR', same, -⟩
    have isK : k' = k := sound.distinct k' r' k r isR' isR same
    rw [isK]
    rcases bound with ⟨q, isQ, mapped⟩
    refine ⟨q, ?_, ?_⟩
    · rw [requests_collect_of_ne other]
      exact isQ
    · have differs : q.id ≠ r.id := fun equal => other (sound.distinct j q k r isQ isR equal)
      rw [map_collect, map_unbind, Function.update_of_ne differs]
      exact mapped

theorem bound_modify {k j : Nat} {f : Request REPLY → Request REPLY} (other : j ≠ k)
    (bound : this.Bound j) : (this.modify k f).Bound j := by
  rcases bound with ⟨q, isQ, mapped⟩
  exact ⟨q, (requests_modify_of_ne other).trans isQ, mapped⟩

theorem bound_cancel (sound : this.Sound) {k j : Nat} (other : j ≠ k) (bound : this.Bound j) :
    (this.cancel k).Bound j := by
  rw [RequestChannel.cancel]
  split
  · exact bound
  next r isR =>
    apply bound_modify other
    split
    · exact bound
    · exact sound.bound_clear isR other bound

theorem bound_release (sound : this.Sound) {k j : Nat} (other : j ≠ k) (bound : this.Bound j) :
    (this.release k).Bound j := by
  rw [RequestChannel.release]
  split
  · exact bound
  · have released := sound.unheld k
    dsimp only
    split
    · exact bound_modify other bound
    · rcases released.bound_cancel other (bound_modify other bound) with ⟨q, isQ, mapped⟩
      refine ⟨q, ?_, mapped⟩
      rw [requests_remove, Function.update_of_ne other]
      exact isQ

/-! ## The results -/

theorem requests_setReply {id : UInt32} {reply : REPLY} {k : Nat}
    (found : this.map id = some k) {j : Nat} (other : j ≠ k) :
    (this.setReply id reply).1.requests j = this.requests j := by
  rw [RequestChannel.setReply, found]
  dsimp only
  rw [RequestChannel.clear, map_modify, found]
  dsimp only
  rw [requests_collect_of_ne other, requests_unbind, requests_modify_of_ne other]

theorem requests_cancel_eq_some {k j : Nat} {q : Request REPLY}
    (found : (this.cancel k).requests j = some q) :
    ∃ r, this.requests j = some r ∧ q.result = r.result := by
  rw [RequestChannel.cancel] at found
  split at found
  · exact ⟨q, found, rfl⟩
  · rcases requests_modify_eq_some found with ⟨r, isR, rfl⟩
    have before : this.requests j = some r := by
      split at isR
      · exact isR
      · exact requests_clear_eq_some isR
    refine ⟨r, before, ?_⟩
    split
    · rfl
    · rfl

theorem requests_release_eq_some {k j : Nat} {q : Request REPLY}
    (found : (this.release k).requests j = some q) :
    ∃ r, this.requests j = some r ∧ q.result = r.result := by
  have of_modify : ∀ {q' : Request REPLY},
      (this.modify k fun r => { r with held := false }).requests j = some q' →
        ∃ r, this.requests j = some r ∧ q'.result = r.result := by
    intro q' isQ'
    rcases requests_modify_eq_some isQ' with ⟨r, isR, rfl⟩
    refine ⟨r, isR, ?_⟩
    split
    · rfl
    · rfl
  rw [RequestChannel.release] at found
  split at found
  · exact ⟨q, found, rfl⟩
  · dsimp only at found
    split at found
    · exact of_modify found
    · rcases requests_cancel_eq_some (requests_remove_eq_some found).2 with ⟨q', isQ', same⟩
      rcases of_modify isQ' with ⟨r, isR, same'⟩
      exact ⟨r, isR, same.trans same'⟩

theorem requests_bind_eq_some {k j : Nat} {q : Request REPLY}
    (found : (this.bind k).requests j = some q) :
    ∃ r, this.requests j = some r ∧ q.result = r.result := by
  rw [RequestChannel.bind] at found
  split at found
  · exact ⟨q, found, rfl⟩
  · split at found
    · exact ⟨q, found, rfl⟩
    · rcases requests_modify_eq_some found with ⟨r, isR, rfl⟩
      refine ⟨r, isR, ?_⟩
      split
      · rfl
      · rfl

/-- Sending leaves the results of the requests before it. -/
theorem result_sendRequest (sound : this.Sound) {packetID : UInt32} {sent : Bool} {k : Nat}
    {r q : Request REPLY} (isR : this.requests k = some r)
    (found : (this.sendRequest packetID sent).requests k = some q) : q.result = r.result := by
  have serialized : (this.serializePacket packetID).2.requests k = some r := by
    rw [requests_serializePacket]
    exact isR
  have old := (sound.serializePacket packetID).created k r serialized
  have bound : ∃ q', (RequestChannel.bind { (this.serializePacket packetID).2 with
      requests := Function.update (this.serializePacket packetID).2.requests
        (this.serializePacket packetID).2.next (some (Request.new (this.serializePacket packetID).1))
      next := (this.serializePacket packetID).2.next + 1 }
        (this.serializePacket packetID).2.next).requests k = some q' ∧ q.result = q'.result := by
    rw [RequestChannel.sendRequest] at found
    dsimp only at found
    split at found
    · exact ⟨q, found, rfl⟩
    · exact requests_release_eq_some found
  rcases bound with ⟨q', isQ', same⟩
  rcases requests_bind_eq_some isQ' with ⟨r', isR', same'⟩
  dsimp only at isR'
  rw [Function.update_of_ne (Nat.ne_of_lt old), serialized, Option.some_inj] at isR'
  rw [same, same', isR']

/-- A reply adds to the result of the live request with its identifier. -/
theorem result_setReply (sound : this.Sound) {id : UInt32} {reply : REPLY} {k : Nat}
    {r q : Request REPLY} (isR : this.requests k = some r)
    (found : (this.setReply id reply).1.requests k = some q) :
    q.result = r.result ∨ q.result = none ∨
      (id = r.id ∧ this.Live r.id k ∧ r.result = some [] ∧ q.result = some [reply]) := by
  cases mapped : this.map id with
  | none =>
      rw [RequestChannel.setReply, mapped, isR, Option.some_inj] at found
      rw [found]
      exact Or.inl rfl
  | some k' =>
      by_cases here : k = k'
      · subst here
        rcases sound.bound id k mapped with ⟨r', isR', named, waiting⟩
        rw [isR, Option.some_inj] at isR'
        subst isR' named
        have stored : q = r.setFuture reply := by
          rw [RequestChannel.setReply, mapped] at found
          dsimp only at found
          have before := requests_clear_eq_some found
          rw [requests_modify_self isR, Option.some_inj] at before
          exact before.symm
        rw [stored]
        rcases waiting.unanswered.setFuture reply with fetched | ⟨empty, filled⟩
        · exact Or.inr (Or.inl fetched)
        · have idle : r.state = .idle := by
            rcases waiting.pending with idle | fetched
            · exact idle
            · rw [fetched] at empty
              cases empty
          exact Or.inr (Or.inr ⟨rfl, ⟨mapped, r, isR, rfl, idle⟩, empty, filled⟩)
      · rw [requests_setReply mapped here, isR, Option.some_inj] at found
        rw [found]
        exact Or.inl rfl

/-- A reply is the only event that adds to a result. -/
theorem result_step (sound : this.Sound) {event : Event REPLY} {k : Nat} {r q : Request REPLY}
    (isR : this.requests k = some r) (found : (this.step event).requests k = some q) :
    q.result = r.result ∨ q.result = none ∨
      ∃ reply, event = .reply r.id reply ∧ this.Live r.id k ∧ r.result = some [] ∧
        q.result = some [reply] := by
  have unchanged : ∀ {q' : Request REPLY},
      (∃ r', this.requests k = some r' ∧ q'.result = r'.result) → q'.result = r.result := by
    rintro q' ⟨r', isR', same⟩
    rw [isR, Option.some_inj] at isR'
    rw [same, isR']
  cases event with
  | send packetID sent => exact Or.inl (sound.result_sendRequest isR found)
  | reply id reply =>
      rcases sound.result_setReply isR found with same | fetched | ⟨rfl, live, empty, filled⟩
      · exact Or.inl same
      · exact Or.inr (Or.inl fetched)
      · exact Or.inr (Or.inr ⟨reply, rfl, live, empty, filled⟩)
  | cancel k' =>
      rw [RequestChannel.step] at found
      split at found
      · exact Or.inl (unchanged (requests_cancel_eq_some found))
      · exact Or.inl (unchanged ⟨q, found, rfl⟩)
  | wait k' timedOut =>
      rw [RequestChannel.step] at found
      split at found
      · rcases requests_modify_eq_some found with ⟨r', isR', rfl⟩
        rw [isR, Option.some_inj] at isR'
        subst isR'
        split
        · rcases r.result_waitFuture timedOut with same | fetched
          · exact Or.inl same
          · exact Or.inr (Or.inl fetched)
        · exact Or.inl rfl
      · exact Or.inl (unchanged ⟨q, found, rfl⟩)
  | release k' =>
      rw [RequestChannel.step] at found
      split at found
      · exact Or.inl (unchanged (requests_release_eq_some found))
      · exact Or.inl (unchanged ⟨q, found, rfl⟩)
  | clearAll =>
      rcases requests_clearAll_eq_some found with ⟨r', isR', -, same⟩
      exact Or.inl (unchanged ⟨r', isR', same⟩)

/-- A reply that comes too late for its request is not stored. -/
theorem requests_setReply_of_late (sound : this.Sound) {id : UInt32} (reply : REPLY)
    (late : ∀ k, ¬this.Live id k) {k : Nat} {r : Request REPLY} (isR : this.requests k = some r) :
    (this.setReply id reply).1.requests k = some r ∨
      r.held = false ∧ r.leaked = false ∧ (this.setReply id reply).1.requests k = none := by
  cases mapped : this.map id with
  | none =>
      rw [RequestChannel.setReply, mapped]
      exact Or.inl isR
  | some j =>
      by_cases here : k = j
      · subst here
        rcases sound.bound id k mapped with ⟨r', isR', named, waiting⟩
        rw [isR, Option.some_inj] at isR'
        subst isR'
        have fetched : r.result = none := by
          rcases waiting.pending with idle | fetched
          · exact absurd ⟨mapped, r, isR, named, idle⟩ (late k)
          · exact fetched
        have same : (this.modify k fun r => r.setFuture reply).requests k = some r := by
          rw [requests_modify_self isR, Request.setFuture, fetched]
        rw [RequestChannel.setReply, mapped]
        dsimp only
        rw [RequestChannel.clear, map_modify, mapped]
        dsimp only
        rw [RequestChannel.collect, requests_unbind, same]
        dsimp only
        split
        · rw [requests_unbind]
          exact Or.inl same
        next nobody =>
          rw [Bool.or_eq_true, not_or, Bool.not_eq_true, Bool.not_eq_true] at nobody
          refine Or.inr ⟨nobody.1, nobody.2, ?_⟩
          rw [requests_remove, Function.update_self]
      · rw [requests_setReply mapped here]
        exact Or.inl isR

/-- The other requests stay bound. -/
theorem bound_setReply {id : UInt32} (reply : REPLY) {j : Nat}
    (bound : this.Bound j) (other : this.map id ≠ some j) :
    (this.setReply id reply).1.Bound j := by
  cases mapped : this.map id with
  | none =>
      rw [RequestChannel.setReply, mapped]
      exact bound
  | some k =>
      have differs : j ≠ k := by
        rintro rfl
        exact other mapped
      rcases bound with ⟨q, isQ, entry⟩
      refine ⟨q, (requests_setReply mapped differs).trans isQ, ?_⟩
      have named : q.id ≠ id := by
        rintro rfl
        exact other entry
      rw [RequestChannel.setReply, mapped]
      dsimp only
      rw [RequestChannel.clear, map_modify, mapped]
      dsimp only
      rw [map_collect, map_unbind, Function.update_of_ne named]
      exact entry

/-- In a sound state an event under a fresh identifier does what it may do. -/
theorem matched (sound : this.Sound) {event : Event REPLY} (fresh : this.Fresh event) :
    this.Matched event (this.step event) := by
  constructor
  · rintro id reply rfl k changed
    cases mapped : this.map id with
    | none =>
        rw [RequestChannel.step, RequestChannel.setReply, mapped] at changed
        exact absurd rfl changed
    | some k' =>
        have here : k = k' := by
          by_contra other
          exact changed (requests_setReply mapped other)
        subst here
        rcases sound.bound id k mapped with ⟨r, isR, named, -⟩
        constructor
        · exact ⟨r, isR, named⟩
        · intro j q isQ same
          exact sound.distinct j q k r isQ isR (same.trans named.symm)
  · rintro id reply rfl none
    cases mapped : this.map id with
    | none => rw [RequestChannel.step, RequestChannel.setReply, mapped]
    | some k =>
        rcases sound.bound id k mapped with ⟨r, isR, named, -⟩
        exact absurd named (none k r isR)
  · rintro id reply rfl late k r isR
    exact sound.requests_setReply_of_late reply late isR
  · intro k r q isR found
    exact sound.result_step isR found
  · exact (sound.step fresh).few
  · rintro k (rfl | rfl) j other bound
    · rw [RequestChannel.step]
      split
      · exact sound.bound_cancel other bound
      · exact bound
    · rw [RequestChannel.step]
      split
      · exact sound.bound_release other bound
      · exact bound
  · rintro id reply rfl j bound other
    exact bound_setReply reply bound other

theorem run (sound : this.Sound) {events : List (Event REPLY)} (fresh : this.AllFresh events) :
    (this.run events).Sound := by
  induction events generalizing this with
  | nil => exact sound
  | cons event events ih => exact ih (sound.step fresh.1) fresh.2

end Sound

theorem AllFresh.split {this : RequestChannel REPLY} {before : List (Event REPLY)}
    {event : Event REPLY} {later : List (Event REPLY)}
    (fresh : this.AllFresh (before ++ event :: later)) :
    this.AllFresh before ∧ (this.run before).Fresh event := by
  induction before generalizing this with
  | nil => exact ⟨trivial, fresh.1⟩
  | cons first before ih =>
      rcases ih fresh.2 with ⟨all, last⟩
      exact ⟨⟨fresh.1, all⟩, last⟩

section Wraparound

/-- The request 0 is answered and fetched, and its sender keeps it.  All others are gone. -/
def kept (sequenceID : UInt32) (next : Nat) : RequestChannel Nat where
  sequenceID := sequenceID
  map := fun _ => none
  requests := Function.update (fun _ => none) 0
    (some { (Request.new 1).setFuture 0 with result := none })
  next := next

/-- A request that is sent, answered, fetched and destroyed. -/
def round (sequenceID : UInt32) (next : Nat) : List (Event Nat) :=
  [.send 0 true, .reply (sequenceID + 1) 0, .wait next false, .release next]

def rounds (sequenceID : UInt32) (next : Nat) : Nat → List (Event Nat)
  | 0 => []
  | count + 1 => round sequenceID next ++ rounds (sequenceID + 1) (next + 1) count

end Wraparound

end RequestChannel

end Stheno.Net
