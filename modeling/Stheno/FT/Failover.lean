import Mathlib.Data.List.Nodup
import Stheno.FT.ReplicationGroup

/-!
# Failover

Each survivor removes the closed members from its own view, in the order in which it
hears of them.  The first member of what is left is the primary, so the order of the
notices does not matter.
-/

namespace Stheno.FT

/-- A member is told that a peer has closed.  `changed` is the answer of its service, if
it is asked to take the primary's role. -/
structure Notice where
  uuid : UUID
  changed : Bool

/-- A view without the members in a list. -/
def without (view closed : List UUID) : List UUID :=
  view.filter fun uuid => uuid ∉ closed

theorem without_erase {view : List UUID} (distinct : view.Nodup) (uuid : UUID)
    (closed : List UUID) : without (view.erase uuid) closed = without view (uuid :: closed) := by
  rw [without, without, distinct.erase_eq_filter, List.filter_filter]
  apply List.filter_congr
  intro other _
  by_cases equal : other = uuid
  · simp [equal]
  · simp [equal]

/-- The first of a view stays the first as long as it is open. -/
theorem head?_without {head : UUID} {rest closed : List UUID} (stays : head ∉ closed) :
    (without (head :: rest) closed).head? = some head := by
  simp [without, stays]

/-- Of two promotions that a first notice and the later ones can bring, at most one
happens: the later ones do not concern a member that stands first already. -/
theorem heads_add {primary heir self uuid : UUID} {rest left closed : List UUID}
    (erased : (primary :: rest).erase uuid = heir :: left) (stays : self ∉ closed) :
    (if primary = uuid ∧ (heir :: left).head? = some self then 1 else 0) +
        (if heir ∈ closed ∧ (without (heir :: left) closed).head? = some self then 1 else 0) =
      if primary ∈ uuid :: closed ∧ (without (heir :: left) closed).head? = some self
        then 1 else 0 := by
  by_cases first : primary = uuid
  · by_cases here : heir = self
    · subst here
      simp [first, stays, head?_without stays]
    · by_cases heirCloses : heir ∈ closed
      · simp [first, here, heirCloses]
      · have head : (without (heir :: left) closed).head? = some heir := head?_without heirCloses
        simp [first, here, heirCloses, head]
  · have kept : heir = primary := by
      rw [List.erase_cons_tail (by simpa using first)] at erased
      exact (List.cons.inj erased).1.symm
    simp [first, kept]

namespace P3ReplicationGroup

def onPeerClosures (this : P3ReplicationGroup) (notices : List Notice) : P3ReplicationGroup :=
  notices.foldl (fun this notice => this.onPeerClosure notice.uuid notice.changed) this

/-- What any notices about other peers leave: the view without these peers, and one
promotion exactly if the primary closed and this member is the first that did not. -/
theorem onPeerClosures_spec {this : P3ReplicationGroup} {notices : List Notice}
    (distinct : this.view.Nodup) (known : this.runtimeUUID ∈ this.view)
    (elsewhere : this.runtimeUUID ∉ notices.map Notice.uuid) :
    (this.onPeerClosures notices).view = without this.view (notices.map Notice.uuid) ∧
      (this.onPeerClosures notices).promotions = this.promotions +
        if this.primaryPeer.uuid ∈ notices.map Notice.uuid ∧
          (without this.view (notices.map Notice.uuid)).head? = some this.runtimeUUID
        then 1 else 0 := by
  induction notices generalizing this with
  | nil =>
      constructor
      · simp [onPeerClosures, without]
      · simp [onPeerClosures]
  | cons notice notices ih =>
      rw [List.map_cons, List.mem_cons, not_or] at elsewhere
      rcases onPeerClosure_spec known elsewhere.1 notice.changed with ⟨self, left, promoted⟩
      have knownAfter : (this.onPeerClosure notice.uuid notice.changed).runtimeUUID ∈
          (this.onPeerClosure notice.uuid notice.changed).view := by
        rw [self, left]
        exact (List.mem_erase_of_ne elsewhere.1).mpr known
      have distinctAfter : (this.onPeerClosure notice.uuid notice.changed).view.Nodup := by
        rw [left]
        exact distinct.erase _
      rcases ih distinctAfter knownAfter (self ▸ elsewhere.2) with ⟨views, count⟩
      have heads := heads_add left.symm elsewhere.2
      rw [← view, left] at heads
      rw [promoted, self, left, Nat.add_assoc, heads, without_erase distinct] at count
      rw [left, without_erase distinct] at views
      exact ⟨views, count⟩

/-- Members with equal views that hear of the same closures, each in its own order and
with its own repetitions, end with equal views again.  The first survivor was asked
once to take the primary's role if the primary closed, and no other survivor was. -/
theorem closures_confluent (members : List P3ReplicationGroup) (primary : UUID)
    (replicas closed : List UUID) (notices : UUID → List Notice)
    (distinct : (primary :: replicas).Nodup)
    (equal : ∀ m ∈ members, m.view = primary :: replicas)
    (known : ∀ m ∈ members, m.runtimeUUID ∈ primary :: replicas)
    (heard : ∀ m ∈ members, m.runtimeUUID ∉ closed →
      ∀ uuid, uuid ∈ (notices m.runtimeUUID).map Notice.uuid ↔ uuid ∈ closed) :
    ∀ m ∈ members, m.runtimeUUID ∉ closed →
      (m.onPeerClosures (notices m.runtimeUUID)).view = without (primary :: replicas) closed ∧
        (m.onPeerClosures (notices m.runtimeUUID)).promotions = m.promotions +
          if primary ∈ closed ∧
            (without (primary :: replicas) closed).head? = some m.runtimeUUID
          then 1 else 0 := by
  intro m member survives
  have heardHere := heard m member survives
  have view := equal m member
  have same : without m.view ((notices m.runtimeUUID).map Notice.uuid) =
      without (primary :: replicas) closed := by
    rw [view]
    apply List.filter_congr
    intro uuid _
    simp only [heardHere]
  rcases onPeerClosures_spec (view ▸ distinct) (view ▸ known m member)
    (fun told => survives ((heardHere _).mp told)) with ⟨views, count⟩
  have here : m.primaryPeer.uuid = primary := (List.cons.inj view).1
  rw [same, here] at count
  simp only [heardHere] at count
  exact ⟨views.trans same, count⟩

end P3ReplicationGroup

/-! ## Three members -/

section Trio

def peer (n : UInt8) : OverlayPeerInfo where
  uuid := ⟨[n]⟩
  fid := ⟨[0]⟩
  meshSAP := none
  ftSAP := none
  ftDataSAP := none

def bound : Binding :=
  { control := true, ftDataSAP := none, data := true, update := true }

/-- The primary 1 and the replicas 2 and 3. -/
def trio : List P3ReplicationGroup :=
  let rgid : UUID := ⟨[8]⟩
  let sid : UUID := ⟨[9]⟩
  [(P3ReplicationGroup.asPrimary (peer 1) rgid sid ⟨[11]⟩).addReplicas
      [(peer 2, bound), (peer 3, bound)],
    ((P3ReplicationGroup.openReplica (peer 2) rgid sid ⟨[12]⟩ (peer 1) []).handleAddReplicaPacket
      (peer 3) bound).1,
    P3ReplicationGroup.openReplica (peer 3) rgid sid ⟨[13]⟩ (peer 1) [peer 2]]

/-- The third member hears of the second before the first, and of the second again. -/
def trioNotices : UUID → List Notice
  | ⟨[3]⟩ => [⟨⟨[2]⟩, true⟩, ⟨⟨[1]⟩, true⟩, ⟨⟨[2]⟩, true⟩]
  | _ => [⟨⟨[1]⟩, true⟩, ⟨⟨[2]⟩, true⟩]

/-- The third member is left and is the primary, once. -/
theorem closures_confluent_trio :
    ∃ m ∈ trio, m.runtimeUUID = ⟨[3]⟩ ∧
      (m.onPeerClosures (trioNotices m.runtimeUUID)).view = [⟨[3]⟩] ∧
      (m.onPeerClosures (trioNotices m.runtimeUUID)).promotions = 1 := by
  have third : ∀ m ∈ trio, m.runtimeUUID ∉ [(⟨[1]⟩ : UUID), ⟨[2]⟩] →
      m.promotions = 0 ∧ m.runtimeUUID = ⟨[3]⟩ := by decide
  have heard : ∀ m ∈ trio, m.runtimeUUID ∉ [(⟨[1]⟩ : UUID), ⟨[2]⟩] → ∀ uuid,
      uuid ∈ (trioNotices m.runtimeUUID).map Notice.uuid ↔ uuid ∈ [(⟨[1]⟩ : UUID), ⟨[2]⟩] := by
    intro m member survives uuid
    rw [(third m member survives).2]
    simp only [trioNotices, List.map_cons, List.map_nil, List.mem_cons, List.not_mem_nil, or_false]
    tauto
  have left : ∃ m ∈ trio, m.runtimeUUID ∉ [(⟨[1]⟩ : UUID), ⟨[2]⟩] := by decide
  rcases left with ⟨m, member, survives⟩
  rcases third m member survives with ⟨none, self⟩
  rcases P3ReplicationGroup.closures_confluent trio ⟨[1]⟩ [⟨[2]⟩, ⟨[3]⟩] [⟨[1]⟩, ⟨[2]⟩]
    trioNotices (by decide) (by decide) (by decide) heard m member survives with ⟨views, count⟩
  rw [none, self] at count
  exact ⟨m, member, self, views, self ▸ count⟩

end Trio

end Stheno.FT
