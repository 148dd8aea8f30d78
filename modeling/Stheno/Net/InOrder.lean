import Stheno.Net.Matching

/-!
# Replies in the order of the requests

A channel that lets the packets number themselves gives consecutive identifiers to its
requests.  If the replies come back in that order and fewer than 2 ^ 32 of them are
outstanding, a reply finds the request that it answers or none, and a request becomes
final by its own reply only.
-/

namespace Stheno.Net

namespace RequestChannel

variable {REPLY : Type} {this : RequestChannel REPLY}

/-! ## Other requests -/

/-- Other requests than the one that is cancelled stay as they are or go away. -/
theorem requests_cancel_of_ne {k j : Nat} {q : Request REPLY} (other : j ≠ k)
    (found : (this.cancel k).requests j = some q) : this.requests j = some q := by
  rw [cancel] at found
  split at found
  · exact found
  · rw [requests_modify_of_ne other] at found
    split at found
    · exact found
    · exact requests_clear_eq_some found

theorem requests_release_of_ne {k j : Nat} {q : Request REPLY} (other : j ≠ k)
    (found : (this.release k).requests j = some q) : this.requests j = some q := by
  rw [release] at found
  split at found
  · exact found
  · dsimp only at found
    split at found
    · rw [requests_modify_of_ne other] at found
      exact found
    · have cancelled := requests_cancel_of_ne other (requests_remove_eq_some found).2
      rw [requests_modify_of_ne other] at cancelled
      exact cancelled

theorem map_release_eq_some {k j : Nat} {id : UInt32}
    (found : (this.release k).map id = some j) : this.map id = some j := by
  rw [release] at found
  split at found
  · exact found
  · dsimp only at found
    split at found
    · exact found
    · exact (map_cancel_eq_some found :)

theorem ne_of_map_clear {id other : UInt32} {k : Nat}
    (found : (this.clear id).map other = some k) : other ≠ id := by
  rintro rfl
  cases entry : this.map other with
  | none =>
      rw [clear, entry] at found
      rw [entry] at found
      cases found
  | some j =>
      rw [clear, entry] at found
      dsimp only at found
      rw [map_collect] at found
      exact (map_unbind_eq_some found).1 rfl

/-! ## The counters -/

/-- The number of requests that were created and the last identifier. -/
def counters (this : RequestChannel REPLY) : UInt32 × Nat :=
  (this.sequenceID, this.next)

@[simp]
theorem counters_modify (k : Nat) (f : Request REPLY → Request REPLY) :
    (this.modify k f).counters = this.counters :=
  rfl

@[simp]
theorem counters_clear (id : UInt32) : (this.clear id).counters = this.counters := by
  rw [clear]
  split
  · rfl
  · rw [collect]
    split
    · rfl
    · split
      · rfl
      · rfl

@[simp]
theorem counters_cancel (k : Nat) : (this.cancel k).counters = this.counters := by
  rw [cancel]
  split
  · rfl
  · dsimp only
    rw [counters_modify]
    split
    · rfl
    · exact counters_clear _

@[simp]
theorem counters_release (k : Nat) : (this.release k).counters = this.counters := by
  rw [release]
  split
  · rfl
  · dsimp only
    split
    · rfl
    · exact counters_cancel k

/-! ## Consecutive identifiers -/

/-- The identifier of a request, when the channel's counter started at `first`. -/
def packetID (first : UInt32) (k : Nat) : UInt32 :=
  first + UInt32.ofNat (k + 1)

theorem packetID_inj {first : UInt32} {j k : Nat} (later : j ≤ k) (near : k < j + 2 ^ 32)
    (same : packetID first j = packetID first k) : j = k := by
  have equal := (UInt32.add_right_inj first).mp same
  have residues := congrArg UInt32.toNat equal
  rw [UInt32.toNat_ofNat', UInt32.toNat_ofNat'] at residues
  omega

/-- The first requests of the channel have had their replies. -/
structure InOrder (first : UInt32) (answered : Nat) (this : RequestChannel REPLY) : Prop where
  sequence : this.sequenceID = first + UInt32.ofNat this.next
  entry : ∀ id k, this.map id = some k → answered ≤ k ∧ k < this.next ∧ id = packetID first k
  request : ∀ k r, this.requests k = some r →
    k < this.next ∧ (r.state.isStateFinal = true → k < answered)

namespace InOrder

variable {first : UInt32} {answered : Nat}

theorem new (first : UInt32) :
    ({ RequestChannel.new with sequenceID := first } : RequestChannel REPLY).InOrder first 0 where
  sequence := (UInt32.add_zero first).symm
  entry := by
    intro id k impossible
    cases impossible
  request := by
    intro k r impossible
    cases impossible

theorem serializePacket (inOrder : this.InOrder first answered) :
    (this.serializePacket 0).1 = packetID first this.next := by
  rw [RequestChannel.serializePacket, if_pos rfl, inOrder.sequence, packetID, UInt32.ofNat_add,
    UInt32.add_assoc]
  rfl

/-- The channel after a packet that numbers itself was sent. -/
theorem sendRequest_eq (this : RequestChannel REPLY) : ∃ map requests,
    this.sendRequest 0 true =
      { sequenceID := this.sequenceID + 1, map, requests, next := this.next + 1 } ∧
    (∀ id k, map id = some k → this.map id = some k ∨
      id = this.sequenceID + 1 ∧ k = this.next) ∧
    ∀ k r, requests k = some r → (k ≠ this.next ∧ this.requests k = some r) ∨
      (k = this.next ∧ r.state = .idle) := by
  have created : ∀ k r, Function.update this.requests this.next
      (some (Request.new (this.sequenceID + 1))) k = some r →
        (k ≠ this.next ∧ this.requests k = some r) ∨
          (k = this.next ∧ r = Request.new (this.sequenceID + 1)) := by
    intro k r found
    by_cases new : k = this.next
    · rw [new, Function.update_self] at found
      exact Or.inr ⟨new, (Option.some.inj found).symm⟩
    · rw [Function.update_of_ne new] at found
      exact Or.inl ⟨new, found⟩
  rw [RequestChannel.sendRequest, RequestChannel.serializePacket, if_pos rfl]
  dsimp only
  rw [if_pos rfl, RequestChannel.bind]
  dsimp only
  rw [Function.update_self]
  dsimp only
  cases taken : this.map (this.sequenceID + 1) with
  | none =>
      refine ⟨_, _, by rw [Request.new, taken], ?_, ?_⟩
      · intro id k found
        by_cases here : id = this.sequenceID + 1
        · subst here
          change Function.update this.map (this.sequenceID + 1) _ _ = some k at found
          rw [Function.update_self] at found
          exact Or.inr ⟨rfl, (Option.some.inj found).symm⟩
        · change Function.update this.map (this.sequenceID + 1) _ _ = some k at found
          rw [Function.update_of_ne here] at found
          exact Or.inl found
      · intro k r found
        rcases created k r found with old | ⟨new, rfl⟩
        · exact Or.inl old
        · exact Or.inr ⟨new, rfl⟩
  | some other =>
      refine ⟨_, _, by rw [Request.new, taken]; rfl, fun id k found => Or.inl found, ?_⟩
      intro k r found
      rcases requests_modify_eq_some found with ⟨r, isR, rfl⟩
      rcases created k r isR with ⟨old, kept⟩ | ⟨new, rfl⟩
      · rw [if_neg old]
        exact Or.inl ⟨old, kept⟩
      · rw [if_pos new]
        exact Or.inr ⟨new, rfl⟩

theorem sendRequest (inOrder : this.InOrder first answered) (outstanding : answered ≤ this.next) :
    (this.sendRequest 0 true).InOrder first answered ∧
      (this.sendRequest 0 true).next = this.next + 1 := by
  rcases sendRequest_eq this with ⟨map, requests, equal, entries, objects⟩
  have id : this.sequenceID + 1 = packetID first this.next := by
    rw [← inOrder.serializePacket]
    rfl
  rw [equal]
  refine ⟨⟨?_, ?_, ?_⟩, rfl⟩
  · exact id
  · intro other k found
    rcases entries other k found with old | ⟨new, rfl⟩
    · rcases inOrder.entry other k old with ⟨later, earlier, same⟩
      exact ⟨later, Nat.lt_succ_of_lt earlier, same⟩
    · exact ⟨outstanding, Nat.lt_succ_self _, new.trans id⟩
  · intro k r found
    rcases objects k r found with ⟨-, old⟩ | ⟨rfl, idle⟩
    · rcases inOrder.request k r old with ⟨earlier, final⟩
      exact ⟨Nat.lt_succ_of_lt earlier, final⟩
    · refine ⟨Nat.lt_succ_self _, ?_⟩
      intro final
      rw [idle] at final
      cases final

/-- The reply to the first request that has none. -/
theorem setReply (inOrder : this.InOrder first answered) (few : this.next ≤ answered + 2 ^ 32)
    (reply : REPLY) :
    (this.setReply (packetID first answered) reply).1.InOrder first (answered + 1) ∧
      (this.setReply (packetID first answered) reply).1.next = this.next := by
  rw [RequestChannel.setReply]
  cases found : this.map (packetID first answered) with
  | none =>
      refine ⟨⟨inOrder.sequence, ?_, ?_⟩, rfl⟩
      · intro id k isEntry
        rcases inOrder.entry id k isEntry with ⟨later, earlier, same⟩
        refine ⟨Nat.lt_of_le_of_ne later ?_, earlier, same⟩
        rintro rfl
        rw [same, found] at isEntry
        cases isEntry
      · intro k r isRequest
        rcases inOrder.request k r isRequest with ⟨earlier, final⟩
        exact ⟨earlier, fun isFinal => Nat.lt_succ_of_lt (final isFinal)⟩
  | some k =>
      rcases inOrder.entry _ k found with ⟨later, earlier, same⟩
      obtain rfl := packetID_inj later (Nat.lt_of_lt_of_le earlier few) same
      have counters : (((this.modify answered fun r => r.setFuture reply).clear
          (packetID first answered)).counters) = this.counters := by
        rw [counters_clear, counters_modify]
      rcases Prod.mk.inj counters with ⟨sequence, next⟩
      refine ⟨⟨?_, ?_, ?_⟩, next⟩
      · rw [sequence, next]
        exact inOrder.sequence
      · intro id j isEntry
        have other := ne_of_map_clear isEntry
        have old := map_clear_eq_some isEntry
        rw [map_modify] at old
        rw [next]
        rcases inOrder.entry id j old with ⟨later, earlier, same⟩
        refine ⟨Nat.lt_of_le_of_ne later ?_, earlier, same⟩
        rintro rfl
        exact other same
      · intro j q isRequest
        rcases requests_modify_eq_some (requests_clear_eq_some isRequest) with ⟨r, isR, rfl⟩
        rcases inOrder.request j r isR with ⟨earlier, final⟩
        rw [next]
        by_cases here : j = answered
        · exact ⟨earlier, fun _ => Nat.lt_succ_of_le (Nat.le_of_eq here)⟩
        · rw [if_neg here]
          exact ⟨earlier, fun isFinal => Nat.lt_succ_of_lt (final isFinal)⟩

/-- A request that had its reply can be given back. -/
theorem release (inOrder : this.InOrder first answered) {k : Nat} (had : k < answered) :
    ((this.modify k fun r => r.waitFuture false).release k).InOrder first answered ∧
      ((this.modify k fun r => r.waitFuture false).release k).next = this.next := by
  have counters : ((this.modify k fun r => r.waitFuture false).release k).counters =
      this.counters := by
    rw [counters_release, counters_modify]
  rcases Prod.mk.inj counters with ⟨sequence, next⟩
  refine ⟨⟨?_, ?_, ?_⟩, next⟩
  · rw [sequence, next]
    exact inOrder.sequence
  · intro id j isEntry
    rw [next]
    exact inOrder.entry id j (map_release_eq_some isEntry :)
  · intro j q isRequest
    rw [next]
    by_cases here : j = k
    · subst here
      rcases Sound.requests_release_eq_some isRequest with ⟨r, isR, -⟩
      rcases requests_modify_eq_some isR with ⟨old, isOld, -⟩
      exact ⟨(inOrder.request j old isOld).1, fun _ => had⟩
    · have kept := requests_release_of_ne here isRequest
      rw [requests_modify_of_ne here] at kept
      exact inOrder.request j q kept

end InOrder

end RequestChannel

end Stheno.Net
