import Mathlib.Data.List.Nodup
import Mathlib.Data.List.Perm.Basic
import Stheno.FT.Replication

/-!
# What the calls have sent

The order in which the calls use a channel is decided by the threads of the primary.
A replica logs its channel's packets in that order, up to a packet without a payload.
-/

namespace Stheno.FT

open Stheno.Net Wire

/-- What the threads have done so far, whatever the replicas do. -/
structure Sends where
  /-- The payload of each call, and the members that it still has to send to. -/
  calls : List (List UInt8 × List UUID)
  /-- The calls that sent to a member, in their order. -/
  order : UUID → List (Nat × List UInt8)

namespace Sends

def send (this : Sends) (call : Nat) : Sends :=
  match this.calls[call]? with
  | some (payload, peer :: rest) =>
      { calls := this.calls.set call (payload, rest)
        order := Function.update this.order peer (this.order peer ++ [(call, payload)]) }
  | _ => this

def step (members : List UUID) (this : Sends) : ReplicationEvent → Sends
  | .replicate payload => { this with calls := this.calls ++ [(payload, members)] }
  | .send call => this.send call
  | _ => this

def start : Sends where
  calls := []
  order := fun _ => []

/-- The sends of a schedule. -/
def run (members : List UUID) (events : List ReplicationEvent) : Sends :=
  events.foldl (step members) start

/-- The calls with their payloads. -/
def payloads (this : Sends) : List (Nat × List UInt8) :=
  this.calls.zipIdx.map fun call => (call.2, call.1.1)

theorem mem_payloads {this : Sends} {call : Nat} {payload : List UInt8} :
    (call, payload) ∈ this.payloads ↔ ∃ rest, this.calls[call]? = some (payload, rest) := by
  rw [payloads, List.mem_map]
  constructor
  · rintro ⟨⟨⟨before, rest⟩, index⟩, found, equal⟩
    cases equal
    exact ⟨rest, List.mem_zipIdx_iff_getElem?.mp found⟩
  · rintro ⟨rest, found⟩
    exact ⟨((payload, rest), call), List.mem_zipIdx_iff_getElem?.mpr found, rfl⟩

theorem nodup_payloads (this : Sends) : this.payloads.Nodup := by
  have indices : (this.payloads.map Prod.fst).Nodup := by
    rw [payloads, List.map_map]
    change (this.calls.zipIdx.map Prod.snd).Nodup
    rw [List.zipIdx_map_snd]
    exact List.nodup_range'
  exact indices.of_map

/-- Every call has sent to every member. -/
def Complete (this : Sends) : Prop :=
  ∀ call ∈ this.calls, call.2 = []

/-- A call sends once to each member, in the order of the list that it copied. -/
structure Sound (members : List UUID) (this : Sends) : Prop where
  nodup : ∀ peer, ((this.order peer).map Prod.fst).Nodup
  mem : ∀ peer (call : Nat) (payload : List UInt8), (call, payload) ∈ this.order peer ↔
    ∃ rest, this.calls[call]? = some (payload, rest) ∧ peer ∈ members ∧ peer ∉ rest
  rest : ∀ (call : Nat) payload rest, this.calls[call]? = some (payload, rest) → rest <:+ members

namespace Sound

variable {members : List UUID} {this : Sends}

theorem start : Sends.start.Sound members where
  nodup := fun _ => List.nodup_nil
  mem := by
    intro peer call payload
    simp [Sends.start]
  rest := by
    intro call payload rest impossible
    cases impossible

theorem replicate (sound : this.Sound members) (payload : List UInt8) :
    (this.step members (.replicate payload)).Sound members where
  nodup := sound.nodup
  mem := by
    intro peer call other
    change (call, other) ∈ this.order peer ↔
      ∃ rest, (this.calls ++ [(payload, members)])[call]? = some (other, rest) ∧ _
    rw [sound.mem]
    rcases Nat.lt_trichotomy call this.calls.length with old | rfl | beyond
    · rw [List.getElem?_append_left old]
    · simp
    · have outside : (this.calls ++ [(payload, members)]).length ≤ call := by
        rw [List.length_append]
        exact beyond
      rw [List.getElem?_eq_none (Nat.le_of_lt beyond), List.getElem?_eq_none outside]
  rest := by
    intro call other rest found
    change (this.calls ++ [(payload, members)])[call]? = some (other, rest) at found
    rcases Nat.lt_trichotomy call this.calls.length with old | rfl | beyond
    · rw [List.getElem?_append_left old] at found
      exact sound.rest call other rest found
    · rw [List.getElem?_concat_length] at found
      cases found
      exact List.suffix_refl _
    · have outside : (this.calls ++ [(payload, members)]).length ≤ call := by
        rw [List.length_append]
        exact beyond
      rw [List.getElem?_eq_none outside] at found
      cases found

section Send

variable {call : Nat} {payload : List UInt8} {peer : UUID} {rest : List UUID}

/-- A call whose next replica is known was not sent to it. -/
theorem unsent (sound : this.Sound members) (found : this.calls[call]? = some (payload, peer :: rest))
    (other : List UInt8) : (call, other) ∉ this.order peer := by
  intro sent
  rcases (sound.mem peer call other).mp sent with ⟨left, here, -, gone⟩
  rw [found, Option.some_inj] at here
  cases here
  exact gone List.mem_cons_self

theorem nodup_send (sound : this.Sound members)
    (found : this.calls[call]? = some (payload, peer :: rest)) (other : UUID) :
    ((Function.update this.order peer (this.order peer ++ [(call, payload)]) other).map
      Prod.fst).Nodup := by
  by_cases same : other = peer
  · subst same
    rw [Function.update_self, List.map_append, List.map_singleton, ← List.concat_eq_append]
    apply List.Nodup.concat _ (sound.nodup other)
    intro sent
    rcases List.mem_map.mp sent with ⟨⟨before, old⟩, listed, rfl⟩
    exact sound.unsent found old listed
  · rw [Function.update_of_ne same]
    exact sound.nodup other

/-- A call is in the order of a replica that it was sent to. -/
theorem mem_send (sound : this.Sound members)
    (found : this.calls[call]? = some (payload, peer :: rest)) (isMember : peer ∈ members)
    (once : peer ∉ rest) (other : UUID) (before : Nat) (old : List UInt8) :
    (before, old) ∈ Function.update this.order peer (this.order peer ++ [(call, payload)]) other ↔
      ∃ left, (this.calls.set call (payload, rest))[before]? = some (old, left) ∧
        other ∈ members ∧ other ∉ left := by
  have length : call < this.calls.length := (List.getElem?_eq_some_iff.mp found).1
  by_cases here : before = call
  · subst here
    rw [List.getElem?_set_self length]
    by_cases same : other = peer
    · subst same
      rw [Function.update_self, List.mem_append, List.mem_singleton]
      constructor
      · rintro (sent | new)
        · exact absurd sent (sound.unsent found old)
        · cases new
          exact ⟨rest, rfl, isMember, once⟩
      · rintro ⟨left, now, -, -⟩
        cases now
        exact Or.inr rfl
    · rw [Function.update_of_ne same, sound.mem, found]
      constructor
      · rintro ⟨left, was, listed, sent⟩
        cases was
        exact ⟨rest, rfl, listed, fun remains => sent (List.mem_cons_of_mem _ remains)⟩
      · rintro ⟨left, now, listed, sent⟩
        cases now
        refine ⟨peer :: rest, rfl, listed, ?_⟩
        exact fun remains => sent (List.mem_of_ne_of_mem same remains)
  · rw [List.getElem?_set_ne (Ne.symm here), ← sound.mem]
    by_cases same : other = peer
    · subst same
      rw [Function.update_self, List.mem_append, List.mem_singleton]
      simp [here]
    · rw [Function.update_of_ne same]

theorem rest_send (sound : this.Sound members)
    (found : this.calls[call]? = some (payload, peer :: rest)) {other : Nat} {before : List UInt8}
    {left : List UUID}
    (isCall : (this.calls.set call (payload, rest))[other]? = some (before, left)) :
    left <:+ members := by
  have length : call < this.calls.length := (List.getElem?_eq_some_iff.mp found).1
  by_cases here : other = call
  · subst here
    rw [List.getElem?_set_self length] at isCall
    cases isCall
    exact (List.suffix_cons peer rest).trans (sound.rest other payload _ found)
  · rw [List.getElem?_set_ne (Ne.symm here)] at isCall
    exact sound.rest other before left isCall

end Send

theorem send (sound : this.Sound members) (distinct : members.Nodup) (call : Nat) :
    (this.send call).Sound members := by
  rw [Sends.send]
  split
  next payload peer rest found =>
    have suffix := sound.rest call payload _ found
    have isMember : peer ∈ members := suffix.subset List.mem_cons_self
    have once : peer ∉ rest := (List.nodup_cons.mp (distinct.sublist suffix.sublist)).1
    exact
      { nodup := sound.nodup_send found
        mem := sound.mem_send found isMember once
        rest := fun _ _ _ isCall => sound.rest_send found isCall }
  next => exact sound

theorem step (sound : this.Sound members) (distinct : members.Nodup) (event : ReplicationEvent) :
    (this.step members event).Sound members := by
  cases event with
  | replicate payload => exact sound.replicate payload
  | send call => exact sound.send distinct call
  | deliver peer => exact sound
  | receive peer => exact sound
  | await call => exact sound

theorem run (distinct : members.Nodup) (events : List ReplicationEvent) :
    (Sends.run members events).Sound members := by
  have runs : ∀ {this : Sends}, this.Sound members →
      (events.foldl (Sends.step members) this).Sound members := by
    induction events with
    | nil => exact fun sound => sound
    | cons event events ih => exact fun sound => ih (sound.step distinct event)
  exact runs start

/-- When every call is done, a member had exactly one packet of each. -/
theorem perm_payloads (sound : this.Sound members) (complete : this.Complete) {peer : UUID}
    (isMember : peer ∈ members) : (this.order peer).Perm this.payloads := by
  apply (List.perm_ext_iff_of_nodup (sound.nodup peer).of_map this.nodup_payloads).mpr
  rintro ⟨call, payload⟩
  rw [sound.mem, mem_payloads]
  constructor
  · rintro ⟨rest, found, -⟩
    exact ⟨rest, found⟩
  · rintro ⟨rest, found⟩
    have done : rest = [] := complete _ (List.mem_of_getElem? found)
    refine ⟨rest, found, isMember, ?_⟩
    rw [done]
    exact List.not_mem_nil

end Sound

end Sends

end Stheno.FT
