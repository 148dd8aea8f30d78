import Mathlib.Data.List.Infix
import Stheno.Net.ChannelManager

/-!
# The members of a channel manager

A run of a manager beside the channels that should be in its map.  They are the ones in it,
and a listener hears of each one that left exactly once, as long as no channel is added
twice, the identifiers that are removed name the same channel and peer, and the manager is
closed when it is empty.
-/

namespace Stheno.Net

open Peer

/-- What happens to a manager. -/
inductive ChannelEvent (CHANNEL : Type) where
  | add (channel : CHANNEL) (room : Bool)
  | remove (channel : CHANNEL)
  | removeUUID (uuid : UUID)
  | closeChannel (channel : CHANNEL) (dontCall : Bool)
  | close

/-- A manager, the channels that were added and not removed or closed since, and the ones
that were ever bound in its map. -/
structure Membership (CHANNEL : Type) where
  manager : ChannelManager CHANNEL
  live : List CHANNEL
  entered : List CHANNEL

namespace Membership

variable {CHANNEL : Type} [DecidableEq CHANNEL] (channels : Channels CHANNEL)

def perform (this : Membership CHANNEL) : ChannelEvent CHANNEL → Membership CHANNEL
  | .add channel room =>
      let (manager, ret) := this.manager.add channels channel room
      { manager
        live := if ret = -1 then this.live else this.live ++ [channel]
        entered :=
          if (this.manager.bind channels channel room).2 = 0 then
            this.entered ++ [channel]
          else
            this.entered }
  | .remove channel =>
      { this with
        manager := this.manager.removeChannel channels channel
        live := this.live.filter (· ≠ channel) }
  | .removeUUID uuid =>
      { this with
        manager := this.manager.removeUUID channels uuid
        live := this.live.filter (channels.pid · ≠ uuid) }
  | .closeChannel channel dontCall =>
      { this with
        manager := this.manager.closeFlags channels channel dontCall
        live := this.live.filter (· ≠ channel) }
  | .close => { this with manager := this.manager.close channels, live := [] }

/-- One event.  Nothing happens after a fault. -/
def step (this : Membership CHANNEL) (event : ChannelEvent CHANNEL) :
    Result (Membership CHANNEL) :=
  .ok (if this.manager.fault = none then this.perform channels event else this)

def run (this : Membership CHANNEL) (events : List (ChannelEvent CHANNEL)) :
    Result (Membership CHANNEL) :=
  events.foldlM (step channels) this

/-- The map holds the live channels, and the listener was told once of each channel that
left it. -/
structure Exact (this : Membership CHANNEL) : Prop where
  running : this.manager.fault = none
  members : ∀ id channel, this.manager.map.find id = some channel ↔
    channel ∈ this.live ∧ channels.channelID channel = id
  once : this.manager.fired.Nodup
  told : ∀ channel, channel ∈ this.manager.fired ↔
    channel ∈ this.entered ∧ this.manager.map.find (channels.channelID channel) = none
  closed : ∀ channel ∈ this.entered, channel ∉ this.live → this.manager.closed channel = true

/-- The channels of the map, by whose identifier they are removed, are the ones of the peer
with that identifier.  No channel is added a second time, without room or after `close`, and
the manager is closed, and its members are closed without a call, when there are none. -/
def Fits (this : Membership CHANNEL) : ChannelEvent CHANNEL → Prop
  | .add channel room =>
      channel ∉ this.entered ∧ this.manager.mapClosed = false ∧ room = true
  | .remove _ => True
  | .removeUUID uuid =>
      ∀ channel, this.manager.map.find (channels.channelID channel) = some channel →
        (channels.channelID channel = uuid ↔ channels.pid channel = uuid)
  | .closeChannel channel dontCall =>
      dontCall = true → this.manager.map.find (channels.channelID channel) = none
  | .close => this.manager.map.entries = []

def FitsAll (this : Membership CHANNEL) : List (ChannelEvent CHANNEL) → Prop
  | [] => True
  | event :: rest =>
      ∀ after, this.step channels event = .ok after → this.Fits channels event ∧ after.FitsAll rest

theorem runs : Runs (step channels) (run channels) (Fits channels) (FitsAll channels) where
  run_nil _ := rfl
  run_cons _ _ _ := rfl
  allFit_nil _ := trivial
  allFit_cons _ _ _ := Iff.rfl

/-! ## What every event keeps -/

/-- The manager listens to the channels of its map, which are filed under their own
identifiers. -/
structure Steady (this : Membership CHANNEL) : Prop where
  keyed : ∀ id channel, this.manager.map.find id = some channel → channels.channelID channel = id
  listens : ∀ id channel, this.manager.map.find id = some channel →
    this.manager.closeListener channel = some .manager
  known : ∀ id channel, this.manager.map.find id = some channel → channel ∈ this.entered
  marked : ∀ channel ∈ this.entered,
    (this.manager.closeListener channel).isSome = true ∨ this.manager.closed channel = true
  opened : ∀ channel ∈ this.live,
    this.manager.map.find (channels.channelID channel) = some channel →
      this.manager.closed channel = false

def Sound (this : Membership CHANNEL) : Prop :=
  this.manager.fault = none → this.Steady channels

omit [DecidableEq CHANNEL] in
theorem mem_of_append_ne {list : List CHANNEL} {channel other : CHANNEL}
    (member : other ∈ list ++ [channel]) (apart : other ≠ channel) : other ∈ list := by
  rcases List.mem_append.mp member with old | new
  · exact old
  · exact absurd (List.mem_singleton.mp new) apart

variable {channels} {manager : ChannelManager CHANNEL} {live kept entered : List CHANNEL}
  {channel : CHANNEL}

theorem find_left {this : ChannelManager CHANNEL} {id : UUID} :
    (this.left channels channel).map.find id =
      if id = channels.channelID channel then none else this.map.find id :=
  Table.find_unbind this.map _ id

/-- What is still found was there before, and is another channel. -/
theorem find_of_left {this : ChannelManager CHANNEL} {id : UUID} {other : CHANNEL}
    (found : (this.left channels channel).map.find id = some other) :
    id ≠ channels.channelID channel ∧ this.map.find id = some other := by
  rw [find_left] at found
  split at found
  · cases found
  · rename_i apart
    exact ⟨apart, found⟩

omit [DecidableEq CHANNEL] in
/-- What is found after a channel was bound. -/
theorem find_of_added {map : Table UUID CHANNEL} {id : UUID} {other : CHANNEL}
    (fresh : map.find (channels.channelID channel) = none)
    (found : (map.bind (channels.channelID channel) channel).find id = some other) :
    (id = channels.channelID channel ∧ other = channel) ∨ map.find id = some other := by
  rw [Table.find_bind_of_fresh fresh] at found
  split at found
  · rename_i own
    exact Or.inl ⟨own, (Option.some.inj found).symm⟩
  · exact Or.inr found

/-- A channel leaves the map. -/
theorem Steady.left (steady : (Membership.mk manager live entered).Steady channels)
    (fewer : ∀ other ∈ kept, other ∈ live) :
    (Membership.mk (manager.left channels channel) kept entered).Steady channels where
  keyed id other found := steady.keyed id other (find_of_left found).2
  listens id other found := steady.listens id other (find_of_left found).2
  known id other found := steady.known id other (find_of_left found).2
  marked other member := by
    rcases steady.marked other member with listener | wasClosed
    · exact Or.inl listener
    · exact Or.inr (ChannelManager.update_closed_of_closed wasClosed)
  opened other member found := by
    rcases find_of_left found with ⟨apart, before⟩
    have differs : other ≠ channel := by
      rintro rfl
      exact apart rfl
    exact (Function.update_of_ne differs true manager.closed).trans
      (steady.opened other (fewer other member) before)

/-- A channel closes that is not live. -/
theorem Steady.silence (steady : (Membership.mk manager live entered).Steady channels)
    (fewer : ∀ other ∈ kept, other ∈ live)
    (gone : channel ∈ kept → manager.map.find (channels.channelID channel) = none) :
    (Membership.mk { manager with closed := Function.update manager.closed channel true } kept
      entered).Steady channels where
  keyed := steady.keyed
  listens := steady.listens
  known := steady.known
  marked other member := by
    rcases steady.marked other member with listener | wasClosed
    · exact Or.inl listener
    · exact Or.inr (ChannelManager.update_closed_of_closed wasClosed)
  opened other member found := by
    have differs : other ≠ channel := by
      rintro rfl
      have absent := gone member
      rw [show manager.map.find (channels.channelID other) = some other from found] at absent
      cases absent
    exact (Function.update_of_ne differs true manager.closed).trans
      (steady.opened other (fewer other member) found)

omit [DecidableEq CHANNEL] in
theorem Steady.fewer (steady : (Membership.mk manager live entered).Steady channels)
    (fewer : ∀ other ∈ kept, other ∈ live) :
    (Membership.mk manager kept entered).Steady channels :=
  { steady with opened := fun other member => steady.opened other (fewer other member) }

omit [DecidableEq CHANNEL] in
theorem Steady.find_own (steady : (Membership.mk manager live entered).Steady channels)
    {other : CHANNEL} (found : manager.map.find (channels.channelID channel) = some other) :
    manager.map.find (channels.channelID channel) = some channel := by
  rw [found, channels.unique (steady.keyed _ other found)]

omit [DecidableEq CHANNEL] in
theorem Steady.ne_of_fresh (steady : (Membership.mk manager live entered).Steady channels)
    (fresh : manager.map.find (channels.channelID channel) = none) {id : UUID} {other : CHANNEL}
    (found : manager.map.find id = some other) : other ≠ channel := by
  rintro rfl
  rw [← steady.keyed id other found, fresh] at found
  cases found

/-- A channel that nobody listens to is taken up. -/
theorem Steady.added (steady : (Membership.mk manager live entered).Steady channels)
    (fresh : manager.map.find (channels.channelID channel) = none)
    (opened : manager.closed channel = false) :
    (Membership.mk
      { manager with
        map := manager.map.bind (channels.channelID channel) channel
        closeListener := Function.update manager.closeListener channel (some .manager) }
      (live ++ [channel]) (entered ++ [channel])).Steady channels where
  keyed id other found := by
    rcases find_of_added fresh found with ⟨rfl, rfl⟩ | before
    · rfl
    · exact steady.keyed id other before
  listens id other found := by
    rcases find_of_added fresh found with ⟨rfl, rfl⟩ | before
    · exact Function.update_self _ _ _
    · exact (Function.update_of_ne (steady.ne_of_fresh fresh before) _ _).trans
        (steady.listens id other before)
  known id other found := by
    rcases find_of_added fresh found with ⟨rfl, rfl⟩ | before
    · exact List.mem_append_right _ List.mem_cons_self
    · exact List.mem_append_left _ (steady.known id other before)
  marked other member := by
    by_cases same : other = channel
    · left
      dsimp only
      rw [same, Function.update_self]
      rfl
    · dsimp only
      rw [Function.update_of_ne same]
      exact steady.marked other (mem_of_append_ne member same)
  opened other member found := by
    rcases find_of_added fresh found with ⟨-, rfl⟩ | before
    · exact opened
    · have apart := steady.ne_of_fresh fresh before
      exact steady.opened other (mem_of_append_ne member apart) before

/-- A channel that nobody may listen to any more enters the map and leaves it. -/
theorem Steady.refused (steady : (Membership.mk manager live entered).Steady channels)
    (fresh : manager.map.find (channels.channelID channel) = none) :
    (Membership.mk
      { manager with
        closed := Function.update manager.closed channel true
        fired := manager.fired ++ [channel] } live (entered ++ [channel])).Steady channels where
  keyed := steady.keyed
  listens := steady.listens
  known id other found := List.mem_append_left _ (steady.known id other found)
  marked other member := by
    by_cases same : other = channel
    · right
      dsimp only
      rw [same, Function.update_self]
    · rcases steady.marked other (mem_of_append_ne member same) with listener | wasClosed
      · exact Or.inl listener
      · exact Or.inr (ChannelManager.update_closed_of_closed wasClosed)
  opened other member found :=
    (Function.update_of_ne (steady.ne_of_fresh fresh found) true manager.closed).trans
      (steady.opened other member found)

omit [DecidableEq CHANNEL] in
/-- Nothing is in the map. -/
theorem steady_of_empty {this : Membership CHANNEL} {after : ChannelManager CHANNEL}
    (steady : this.Steady channels) (closes : this.manager.Closes after)
    (empty : after.map = .empty) : (Membership.mk after [] this.entered).Steady channels := by
  have absent : ∀ id channel, after.map.find id = some channel → False := by
    intro id channel found
    rw [empty] at found
    cases found
  exact
    { keyed := fun id channel found => (absent id channel found).elim
      listens := fun id channel found => (absent id channel found).elim
      known := fun id channel found => (absent id channel found).elim
      marked := by
        intro channel member
        rw [closes.closeListener]
        rcases steady.marked channel member with listener | wasClosed
        · exact Or.inl listener
        · exact Or.inr (closes.closed channel wasClosed)
      opened := by
        intro channel impossible
        cases impossible }

theorem sound_add (this : Membership CHANNEL) (steady : this.Steady channels) (channel : CHANNEL)
    (room : Bool) : (this.perform channels (.add channel room)).Sound channels := by
  intro running
  by_cases binds : ChannelManager.Binds channels this.manager channel room
  · unfold perform
    dsimp only
    rw [if_pos (ChannelManager.bind_eq_zero_iff.mpr binds)]
    by_cases refused : (this.manager.closeListener channel).isSome = true ∨
        this.manager.closed channel = true
    · rw [ChannelManager.add_of_refused binds refused]
      exact Steady.refused steady binds.1
    · rw [not_or, Option.not_isSome_iff_eq_none, Bool.not_eq_true] at refused
      rw [ChannelManager.add_of_free binds refused.1 refused.2]
      exact Steady.added steady binds.1 refused.2
  · rw [← ChannelManager.bind_eq_zero_iff] at binds
    rw [show (this.perform channels (.add channel room)).manager.fault = _ from
      ChannelManager.fault_add binds] at running
    cases running

/-- What closing a channel does: it leaves the map where the manager is told of it. -/
theorem closeFlags_cases (this : Membership CHANNEL) (steady : this.Steady channels)
    (channel : CHANNEL) (dontCall : Bool) :
    ((dontCall = true ∨ this.manager.map.find (channels.channelID channel) = none) ∧
      this.manager.closeFlags channels channel dontCall =
        { this.manager with closed := Function.update this.manager.closed channel true }) ∨
    (dontCall = false ∧ this.manager.map.find (channels.channelID channel) = some channel ∧
      ((this.manager.closed channel = true ∧
          this.manager.closeFlags channels channel dontCall = this.manager) ∨
        this.manager.closeFlags channels channel dontCall =
          this.manager.left channels channel)) := by
  cases dontCall with
  | true => exact Or.inl ⟨Or.inl rfl, rfl⟩
  | false =>
      cases found : this.manager.map.find (channels.channelID channel) with
      | none => exact Or.inl ⟨Or.inr rfl, ChannelManager.closeChannel_of_absent found⟩
      | some other =>
          have member := Steady.find_own steady found
          refine Or.inr ⟨rfl, found.symm.trans member, ?_⟩
          cases wasClosed : this.manager.closed channel with
          | true => exact Or.inl ⟨rfl, ChannelManager.closeChannel_of_closed wasClosed⟩
          | false =>
              exact Or.inr (ChannelManager.closeChannel_of_member (Option.isSome_of_eq_some member)
                (steady.listens _ channel member) wasClosed)

theorem sound_perform (this : Membership CHANNEL) (steady : this.Steady channels)
    (event : ChannelEvent CHANNEL) : (this.perform channels event).Sound channels := by
  have smaller (kept : CHANNEL → Bool) : ∀ other ∈ this.live.filter kept, other ∈ this.live :=
    fun other member => List.mem_of_mem_filter member
  cases event with
  | add channel room => exact sound_add this steady channel room
  | remove channel =>
      intro _
      unfold perform
      dsimp only
      cases found : this.manager.map.find (channels.channelID channel) with
      | none =>
          rw [ChannelManager.removeChannel_of_absent found]
          exact Steady.fewer steady (smaller _)
      | some other =>
          rw [ChannelManager.removeChannel_of_member (Option.isSome_of_eq_some found)]
          exact Steady.left steady (smaller _)
  | removeUUID uuid =>
      intro _
      unfold perform
      dsimp only
      cases found : this.manager.map.find uuid with
      | none =>
          rw [ChannelManager.removeUUID_of_absent found]
          exact Steady.fewer steady (smaller _)
      | some channel =>
          have own := steady.keyed uuid channel found
          subst own
          rw [ChannelManager.removeUUID_of_member found]
          exact Steady.left steady (smaller _)
  | closeChannel channel dontCall =>
      intro _
      unfold perform
      dsimp only
      rcases closeFlags_cases this steady channel dontCall
        with ⟨-, silenced⟩ | ⟨-, -, ⟨-, same⟩ | gone⟩
      · rw [silenced]
        apply Steady.silence steady (smaller _)
        intro member
        exact absurd rfl (of_decide_eq_true (List.mem_filter.mp member).2)
      · rw [same]
        exact Steady.fewer steady (smaller _)
      · rw [gone]
        exact Steady.left steady (smaller _)
  | close =>
      intro running
      rcases @ChannelManager.closes_closeEntries CHANNEL _ channels this.manager
        this.manager.map.entries with ⟨closes, empties⟩
      have empty : (this.perform channels .close).manager.map = .empty := empties running
      exact steady_of_empty steady closes empty

theorem sound_step {this after : Membership CHANNEL} {event : ChannelEvent CHANNEL}
    (sound : this.Sound channels) (done : this.step channels event = .ok after) :
    after.Sound channels := by
  cases done
  split
  · rename_i running
    exact sound_perform this (sound running) event
  · exact sound

/-! ## What one event decides -/

omit [DecidableEq CHANNEL] in
theorem Exact.mem_live_iff (exact : (Membership.mk manager live entered).Exact channels)
    (channel : CHANNEL) :
    channel ∈ live ↔ manager.map.find (channels.channelID channel) = some channel := by
  rw [exact.members (channels.channelID channel) channel]
  exact (and_iff_left rfl).symm

omit [DecidableEq CHANNEL] in
/-- Nothing leaves the map. -/
theorem exact_quiet_iff (exact : (Membership.mk manager live entered).Exact channels)
    {after : ChannelManager CHANNEL} (closes : manager.Closes after)
    (map : after.map = manager.map) (fired : after.fired = manager.fired)
    (fault : after.fault = manager.fault) :
    (Membership.mk after kept entered).Exact channels ↔ ∀ other, other ∈ kept ↔ other ∈ live := by
  constructor
  · intro exactAfter other
    rw [exactAfter.mem_live_iff, exact.mem_live_iff, map]
  · intro same
    constructor
    · exact fault.trans exact.running
    · intro id other
      rw [map, same other]
      exact exact.members id other
    · rw [fired]
      exact exact.once
    · intro other
      rw [fired, map]
      exact exact.told other
    · intro other member gone
      rw [same other] at gone
      exact closes.closed other (exact.closed other member gone)

/-- A member leaves the map exactly when it stops being live. -/
theorem exact_left_iff (exact : (Membership.mk manager live entered).Exact channels)
    (known : channel ∈ entered)
    (member : manager.map.find (channels.channelID channel) = some channel) :
    (Membership.mk (manager.left channels channel) kept entered).Exact channels ↔
      ∀ other, other ∈ kept ↔ other ∈ live ∧ other ≠ channel := by
  have find_iff (id : UUID) (other : CHANNEL) :
      (manager.left channels channel).map.find id = some other ↔
        (other ∈ live ∧ other ≠ channel) ∧ channels.channelID other = id := by
    rw [find_left]
    split
    · rename_i own
      apply iff_of_false
      · rintro ⟨⟩
      · rintro ⟨⟨-, apart⟩, same⟩
        exact apart (channels.unique (same.trans own))
    · rename_i apart
      rw [exact.members id other, and_right_comm, iff_self_and]
      rintro ⟨-, rfl⟩ rfl
      exact apart rfl
  constructor
  · intro exactAfter other
    rw [exactAfter.mem_live_iff, find_iff]
    exact and_iff_left rfl
  · intro same
    constructor
    · exact exact.running
    · intro id other
      rw [same other]
      exact find_iff id other
    · refine List.nodup_append.mpr ⟨exact.once, List.nodup_singleton channel, ?_⟩
      intro other told last isLast equal
      rw [equal, List.mem_singleton.mp isLast, exact.told, member] at told
      cases told.2
    · intro other
      change other ∈ manager.fired ++ [channel] ↔
        other ∈ entered ∧ (manager.left channels channel).map.find _ = none
      rw [List.mem_append, List.mem_singleton, exact.told, find_left]
      split
      · rename_i own
        have equal := channels.unique own
        subst equal
        exact iff_of_true (Or.inr rfl) ⟨known, rfl⟩
      · rename_i apart
        apply or_iff_left
        rintro rfl
        exact apart rfl
    · intro other entry gone
      change Function.update manager.closed channel true other = true
      by_cases equal : other = channel
      · rw [equal, Function.update_self]
      · rw [Function.update_of_ne equal]
        apply exact.closed other entry
        intro lives
        exact gone ((same other).mpr ⟨lives, equal⟩)

theorem exact_added (exact : (Membership.mk manager live entered).Exact channels)
    (fresh : manager.map.find (channels.channelID channel) = none) (first : channel ∉ entered) :
    (Membership.mk
      { manager with
        map := manager.map.bind (channels.channelID channel) channel
        closeListener := Function.update manager.closeListener channel (some .manager) }
      (live ++ [channel]) (entered ++ [channel])).Exact channels where
  running := exact.running
  members id other := by
    rw [Table.find_bind_of_fresh fresh, List.mem_append, List.mem_singleton]
    split
    · rename_i own
      rw [Option.some.injEq]
      constructor
      · rintro rfl
        exact ⟨Or.inr rfl, own.symm⟩
      · rintro ⟨-, same⟩
        exact channels.unique (own.symm.trans same.symm)
    · rename_i apart
      rw [exact.members id other, or_and_right, iff_self_or]
      rintro ⟨rfl, same⟩
      exact absurd same.symm apart
  once := exact.once
  told other := by
    rw [exact.told other, Table.find_bind_of_fresh fresh, List.mem_append, List.mem_singleton]
    split
    · rename_i own
      have equal := channels.unique own
      subst equal
      apply iff_of_false
      · intro before
        exact first before.1
      · rintro ⟨-, ⟨⟩⟩
    · rename_i apart
      rw [or_and_right, iff_self_or]
      rintro ⟨rfl, -⟩
      exact absurd rfl apart
  closed other entry gone := by
    rw [List.mem_append, not_or] at gone
    apply exact.closed other (mem_of_append_ne entry ?_) gone.1
    rintro rfl
    exact gone.2 List.mem_cons_self

/-- A channel that is bound and removed at once is told of, which is the first time unless it
was in the map before. -/
theorem exact_refused_iff (exact : (Membership.mk manager live entered).Exact channels)
    (fresh : manager.map.find (channels.channelID channel) = none) :
    (Membership.mk
      { manager with
        closed := Function.update manager.closed channel true
        fired := manager.fired ++ [channel] }
      live (entered ++ [channel])).Exact channels ↔ channel ∉ entered := by
  constructor
  · intro exactAfter known
    have told : channel ∈ manager.fired := (exact.told channel).mpr ⟨known, fresh⟩
    exact (List.nodup_append.mp exactAfter.once).2.2 channel told channel List.mem_cons_self rfl
  · intro first
    constructor
    · exact exact.running
    · exact exact.members
    · refine List.nodup_append.mpr ⟨exact.once, List.nodup_singleton channel, ?_⟩
      rintro other told last isLast rfl
      rw [List.mem_singleton.mp isLast, exact.told] at told
      exact first told.1
    · intro other
      rw [List.mem_append, List.mem_append, List.mem_singleton, exact.told, or_and_right]
      apply or_congr_right
      apply (and_iff_left_of_imp ?_).symm
      rintro rfl
      exact fresh
    · intro other entry gone
      change Function.update manager.closed channel true other = true
      by_cases equal : other = channel
      · rw [equal, Function.update_self]
      · rw [Function.update_of_ne equal]
        exact exact.closed other (mem_of_append_ne entry equal) gone

theorem exact_add_iff (this : Membership CHANNEL) (steady : this.Steady channels)
    (exact : this.Exact channels) (channel : CHANNEL) (room : Bool) :
    (this.perform channels (.add channel room)).Exact channels ↔
      this.Fits channels (.add channel room) := by
  by_cases binds : ChannelManager.Binds channels this.manager channel room
  · have fits : this.Fits channels (.add channel room) ↔ channel ∉ this.entered :=
      and_iff_left binds.2
    unfold perform
    dsimp only
    rw [if_pos (ChannelManager.bind_eq_zero_iff.mpr binds), fits]
    by_cases refused : (this.manager.closeListener channel).isSome = true ∨
        this.manager.closed channel = true
    · rw [ChannelManager.add_of_refused binds refused]
      exact exact_refused_iff exact binds.1
    · have first : channel ∉ this.entered := fun known => refused (steady.marked channel known)
      rw [not_or, Option.not_isSome_iff_eq_none, Bool.not_eq_true] at refused
      rw [ChannelManager.add_of_free binds refused.1 refused.2]
      exact iff_of_true (exact_added exact binds.1 first) first
  · apply iff_of_false
    · intro exactAfter
      have fault : (this.perform channels (.add channel room)).manager.fault = _ :=
        ChannelManager.fault_add (ChannelManager.bind_eq_zero_iff.not.mpr binds)
      rw [exactAfter.running] at fault
      cases fault
    · rintro ⟨first, opened, spacious⟩
      apply binds
      refine ⟨?_, opened, spacious⟩
      cases found : this.manager.map.find (channels.channelID channel) with
      | none => rfl
      | some other =>
          have equal := channels.unique (steady.keyed _ other found)
          exact absurd (equal ▸ steady.known _ other found) first

theorem exact_remove (this : Membership CHANNEL) (steady : this.Steady channels)
    (exact : this.Exact channels) (channel : CHANNEL) :
    (this.perform channels (.remove channel)).Exact channels := by
  unfold perform
  dsimp only
  cases found : this.manager.map.find (channels.channelID channel) with
  | none =>
      rw [ChannelManager.removeChannel_of_absent found, exact_quiet_iff exact (.refl _) rfl rfl rfl]
      intro other
      rw [List.mem_filter, decide_eq_true_iff, Exact.mem_live_iff exact]
      apply and_iff_left_of_imp
      rintro member rfl
      rw [found] at member
      cases member
  | some other =>
      have member := Steady.find_own steady found
      rw [ChannelManager.removeChannel_of_member (Option.isSome_of_eq_some member),
        exact_left_iff exact (steady.known _ channel member) member]
      intro other
      rw [List.mem_filter, decide_eq_true_iff]

theorem exact_removeUUID_iff (this : Membership CHANNEL) (steady : this.Steady channels)
    (exact : this.Exact channels) (uuid : UUID) :
    (this.perform channels (.removeUUID uuid)).Exact channels ↔
      this.Fits channels (.removeUUID uuid) := by
  unfold perform Fits
  dsimp only
  cases found : this.manager.map.find uuid with
  | none =>
      rw [ChannelManager.removeUUID_of_absent found, exact_quiet_iff exact (.refl _) rfl rfl rfl]
      apply forall_congr'
      intro other
      rw [List.mem_filter, decide_eq_true_iff, Exact.mem_live_iff exact, and_iff_left_iff_imp]
      apply imp_congr_right
      intro member
      have apart : channels.channelID other ≠ uuid := by
        rintro rfl
        rw [found] at member
        cases member
      rw [iff_false_left apart]
  | some channel =>
      have own := steady.keyed uuid channel found
      subst own
      rw [ChannelManager.removeUUID_of_member found,
        exact_left_iff exact (steady.known _ channel found) found]
      apply forall_congr'
      intro other
      rw [List.mem_filter, decide_eq_true_iff, and_congr_right_iff, Exact.mem_live_iff exact]
      apply imp_congr_right
      intro _
      rw [not_iff_not, channels.unique.eq_iff]
      exact iff_comm

theorem exact_closeChannel_iff (this : Membership CHANNEL) (steady : this.Steady channels)
    (exact : this.Exact channels) (channel : CHANNEL) (dontCall : Bool) :
    (this.perform channels (.closeChannel channel dontCall)).Exact channels ↔
      this.Fits channels (.closeChannel channel dontCall) := by
  have kept (other : CHANNEL) : other ∈ this.live.filter (· ≠ channel) ↔
      other ∈ this.live ∧ other ≠ channel := by
    rw [List.mem_filter, decide_eq_true_iff]
  unfold perform Fits
  dsimp only
  rcases closeFlags_cases this steady channel dontCall
    with ⟨how, silenced⟩ | ⟨calls, member, ⟨wasClosed, -⟩ | gone⟩
  · have closes : this.manager.Closes
        { this.manager with closed := Function.update this.manager.closed channel true } :=
      ⟨rfl, fun _ wasClosed => ChannelManager.update_closed_of_closed wasClosed⟩
    rw [silenced, exact_quiet_iff exact closes rfl rfl rfl]
    constructor
    · intro same _
      cases found : this.manager.map.find (channels.channelID channel) with
      | none => rfl
      | some other =>
          have member := Steady.find_own steady found
          have lives := (Exact.mem_live_iff exact channel).mpr member
          exact absurd rfl ((kept channel).mp ((same channel).mpr lives)).2
    · intro fits other
      have absent : this.manager.map.find (channels.channelID channel) = none := by
        rcases how with dontCall | absent
        · exact fits dontCall
        · exact absent
      rw [kept, Exact.mem_live_iff exact]
      apply and_iff_left_of_imp
      rintro member rfl
      rw [absent] at member
      cases member
  · have opened := steady.opened channel ((Exact.mem_live_iff exact channel).mpr member) member
    rw [wasClosed] at opened
    cases opened
  · rw [gone, exact_left_iff exact (steady.known _ channel member) member, calls]
    apply iff_of_true kept
    rintro ⟨⟩

theorem exact_close_iff (this : Membership CHANNEL) (steady : this.Steady channels)
    (exact : this.Exact channels) :
    (this.perform channels .close).Exact channels ↔ this.Fits channels .close := by
  unfold perform Fits
  dsimp only
  cases entries : this.manager.map.entries with
  | nil =>
      have closes : this.manager.Closes { this.manager with map := .empty, mapClosed := true } :=
        ⟨rfl, fun _ wasClosed => wasClosed⟩
      have map : Table.empty = this.manager.map := Table.ext entries.symm
      rw [ChannelManager.close_of_empty entries, exact_quiet_iff exact closes map rfl rfl]
      apply iff_of_true _ rfl
      intro other
      rw [Exact.mem_live_iff exact, ← map]
      apply iff_of_false
      · rintro ⟨⟩
      · rintro ⟨⟩
  | cons entry rest =>
      have member : this.manager.map.find entry.1 = some entry.2 := by
        rw [Table.find_eq_some_iff, entries]
        exact List.mem_cons_self
      have keyed := steady.keyed entry.1 entry.2 member
      have lives : entry.2 ∈ this.live := ((exact.members entry.1 entry.2).mp member).1
      have opened := steady.opened entry.2 lives (by rw [keyed, member])
      have fault := ChannelManager.fault_close entries keyed (steady.listens _ _ member) opened
      apply iff_of_false
      · intro exactAfter
        have running := exactAfter.running
        dsimp only at running
        rw [fault] at running
        cases running
      · rintro ⟨⟩

theorem exact_step_iff {this after : Membership CHANNEL} {event : ChannelEvent CHANNEL}
    (sound : this.Sound channels) (exact : this.Exact channels)
    (done : this.step channels event = .ok after) :
    after.Exact channels ↔ this.Fits channels event := by
  have steady := sound exact.running
  rw [step, if_pos exact.running] at done
  cases done
  cases event with
  | add channel room => exact exact_add_iff this steady exact channel room
  | remove channel => exact iff_of_true (exact_remove this steady exact channel) trivial
  | removeUUID uuid => exact exact_removeUUID_iff this steady exact uuid
  | closeChannel channel dontCall => exact exact_closeChannel_iff this steady exact channel dontCall
  | close => exact exact_close_iff this steady exact

/-- A manager that was made for channels that it does not listen to yet. -/
def created (closeListener : CHANNEL → Option CloseListener) (closed : CHANNEL → Bool) :
    Membership CHANNEL where
  manager :=
    { map := .empty, mapClosed := false, closeListener, closed, fired := [], fault := none }
  live := []
  entered := []

omit [DecidableEq CHANNEL] in
theorem exact_created (closeListener : CHANNEL → Option CloseListener) (closed : CHANNEL → Bool) :
    (created closeListener closed).Exact channels where
  running := rfl
  members id channel := by
    apply iff_of_false
    · rintro ⟨⟩
    · rintro ⟨⟨⟩, -⟩
  once := List.nodup_nil
  told channel := by
    apply iff_of_false
    · rintro ⟨⟩
    · rintro ⟨⟨⟩, -⟩
  closed channel impossible := by cases impossible

omit [DecidableEq CHANNEL] in
theorem steady_created (closeListener : CHANNEL → Option CloseListener)
    (closed : CHANNEL → Bool) : (created closeListener closed).Steady channels where
  keyed id channel impossible := by cases impossible
  listens id channel impossible := by cases impossible
  known id channel impossible := by cases impossible
  marked channel impossible := by cases impossible
  opened channel impossible := by cases impossible

/-- In every state of a run the map holds the live channels and each channel that left it was
told of once, exactly when every event fits the map it finds. -/
theorem exact_through_run_iff (channels : Channels CHANNEL)
    (closeListener : CHANNEL → Option CloseListener) (closed : CHANNEL → Bool)
    (events : List (ChannelEvent CHANNEL)) :
    (∀ before, before <+: events → ∀ reached,
      (created closeListener closed).run channels before = .ok reached →
        reached.Exact channels) ↔
      (created closeListener closed).FitsAll channels events :=
  @Runs.always_iff (Membership CHANNEL) (ChannelEvent CHANNEL) (step channels) (run channels)
    (Fits channels) (FitsAll channels) (Sound channels) (Exact channels) (runs channels)
    (fun sound done => sound_step sound done)
    (fun sound exact done => exact_step_iff sound exact done)
    (created closeListener closed) events (fun _ => steady_created closeListener closed)
    (exact_created closeListener closed)

/-- A channel of its own for each peer. -/
def replicas : Channels Bool where
  channelID replica := ⟨[if replica then 1 else 0]⟩
  pid replica := ⟨[if replica then 3 else 2]⟩
  unique := by
    unfold Function.Injective
    decide

/-- A replica that is removed by its own identifier keeps its channel. -/
theorem exact_fails_after_removal :
    ∃ reached, (created (fun _ => none) (fun _ => false)).run replicas
      [.add true true, .removeUUID (replicas.pid true)] = .ok reached ∧
      reached.manager.map.find (replicas.channelID true) = some true ∧
      ¬reached.Exact replicas := by
  refine ⟨_, rfl, rfl, ?_⟩
  intro exact
  have lives := (exact.members (replicas.channelID true) true).mp rfl
  exact absurd lives.1 (by decide)

end Membership

end Stheno.Net
