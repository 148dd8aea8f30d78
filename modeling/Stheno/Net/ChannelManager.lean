import Mathlib.Logic.Function.Basic
import Stheno.Fault
import Stheno.Run
import Stheno.Table
import Stheno.Peer.Info

/-!
# A manager of stream channels

A manager keeps its channels by the identifier that each generates for itself, and listens
to their closing.  Removing a channel closes it, and closing a channel calls the listener,
which removes it.
-/

namespace Stheno.Net

open Peer

/-- The channels of a process.  Each generates an identifier of its own, and several may
lead to one peer. -/
structure Channels (CHANNEL : Type) where
  channelID : CHANNEL → UUID
  pid : CHANNEL → UUID
  unique : Function.Injective channelID

/-- Who is told that a channel closes. -/
inductive CloseListener where
  | manager
  | other
  deriving DecidableEq

structure ChannelManager (CHANNEL : Type) where
  map : Table UUID CHANNEL
  /-- `m_map.close()` was called. -/
  mapClosed : Bool
  /-- The `m_closeListener` of each channel. -/
  closeListener : CHANNEL → Option CloseListener
  /-- The `m_close` of each channel. -/
  closed : CHANNEL → Bool
  /-- The channels that `fireOnClose` was called for. -/
  fired : List CHANNEL
  fault : Option Fault

namespace ChannelManager

variable {CHANNEL : Type} [DecidableEq CHANNEL] (channels : Channels CHANNEL)

/-- `setCloseListener`, which answers -1 if there is a listener or the channel is closed. -/
def setCloseListener (this : ChannelManager CHANNEL) (channel : CHANNEL)
    (closeListener : Option CloseListener) : ChannelManager CHANNEL × Int :=
  if (this.closeListener channel).isSome || this.closed channel then
    (this, -1)
  else
    ({ this with closeListener := Function.update this.closeListener channel closeListener }, 0)

theorem setCloseListener_of_free {this : ChannelManager CHANNEL} {channel : CHANNEL}
    (free : this.closeListener channel = none) (opened : this.closed channel = false)
    (closeListener : Option CloseListener) :
    this.setCloseListener channel closeListener =
      ({ this with
          closeListener := Function.update this.closeListener channel closeListener }, 0) := by
  rw [setCloseListener, free, opened]
  rfl

theorem setCloseListener_of_refused {this : ChannelManager CHANNEL} {channel : CHANNEL}
    (refused : (this.closeListener channel).isSome = true ∨ this.closed channel = true)
    (closeListener : Option CloseListener) :
    this.setCloseListener channel closeListener = (this, -1) := by
  rw [setCloseListener, if_pos (Bool.or_eq_true _ _ |>.mpr refused)]

/-- A listener cannot be taken away. -/
@[simp]
theorem setCloseListener_none (this : ChannelManager CHANNEL) (channel : CHANNEL) :
    (this.setCloseListener channel none).1 = this := by
  by_cases refused : (this.closeListener channel).isSome = true ∨ this.closed channel = true
  · rw [setCloseListener_of_refused refused]
  · rw [not_or, Option.not_isSome_iff_eq_none, Bool.not_eq_true] at refused
    rw [setCloseListener_of_free refused.1 refused.2, ← refused.1, Function.update_eq_self]

def fireOnClose (this : ChannelManager CHANNEL) (channel : CHANNEL) : ChannelManager CHANNEL :=
  { this with fired := this.fired ++ [channel] }

mutual

/-- `close` of a channel, where the flags do not say `DONT_CALL`. -/
def closeChannel (this : ChannelManager CHANNEL) (channel : CHANNEL) : ChannelManager CHANNEL :=
  if this.closed channel then
    this
  else
    let this := { this with closed := Function.update this.closed channel true }
    match this.closeListener channel with
    | some .manager => removeChannel this channel
    | _ => this
  termination_by
    (this.map.find (channels.channelID channel)).isSome.toNat + (!this.closed channel).toNat
  decreasing_by simp_all

/-- `remove` of a channel, which is also `onClose`. -/
def removeChannel (this : ChannelManager CHANNEL) (channel : CHANNEL) : ChannelManager CHANNEL :=
  if (this.map.find (channels.channelID channel)).isSome then
    let this := { this with map := this.map.unbind (channels.channelID channel) }
    let this := (setCloseListener this channel none).1
    (closeChannel this channel).fireOnClose channel
  else
    this
  termination_by
    (this.map.find (channels.channelID channel)).isSome.toNat + (!this.closed channel).toNat
  decreasing_by simp_all [Table.find_unbind]

end

/-- `remove` of an identifier. -/
def removeUUID (this : ChannelManager CHANNEL) (uuid : UUID) : ChannelManager CHANNEL :=
  match this.map.find uuid with
  | some channelPtr =>
      let this := { this with map := this.map.unbind uuid }
      let this := (setCloseListener this channelPtr none).1
      (closeChannel channels this channelPtr).fireOnClose channelPtr
  | none => this

/-- `m_map.bind`, which needs room for an entry. -/
def bind (this : ChannelManager CHANNEL) (channel : CHANNEL) (room : Bool) :
    ChannelManager CHANNEL × Int :=
  if (this.map.find (channels.channelID channel)).isSome then
    (this, 1)
  else if this.mapClosed || !room then
    (this, -1)
  else
    ({ this with map := this.map.bind (channels.channelID channel) channel }, 0)

/-- The owner that `add` makes of a channel deletes it, unless it became the owner in the
map too. -/
def dropOwner (this : ChannelManager CHANNEL) (bound : Int) : ChannelManager CHANNEL :=
  if bound = 0 then this else { this with fault := some .useAfterFree }

def add (this : ChannelManager CHANNEL) (channel : CHANNEL) (room : Bool) :
    ChannelManager CHANNEL × Int :=
  let (this, ret) := bind channels this channel room
  if ret = -1 then
    ((closeChannel channels this channel).dropOwner ret, -1)
  else
    let (this, listening) := setCloseListener this channel (some .manager)
    if listening = -1 then
      ((removeChannel channels this channel).dropOwner ret, -1)
    else
      (this.dropOwner ret, ret)

/-- `close` of a channel, by either side. -/
def closeFlags (this : ChannelManager CHANNEL) (channel : CHANNEL) (dontCall : Bool) :
    ChannelManager CHANNEL :=
  if dontCall then
    { this with closed := Function.update this.closed channel true }
  else
    closeChannel channels this channel

/-- The loop of `close`.  The step to the next entry reads the entry of the channel that was
closed. -/
def closeEntries (this : ChannelManager CHANNEL) : List (UUID × CHANNEL) → ChannelManager CHANNEL
  | [] => { this with map := .empty, mapClosed := true }
  | entry :: rest =>
      let this := closeChannel channels this entry.2
      if (this.map.find entry.1).isSome then
        closeEntries this rest
      else
        { this with fault := some .useAfterFree }

def close (this : ChannelManager CHANNEL) : ChannelManager CHANNEL :=
  closeEntries channels this this.map.entries

/-! ## What the operations do -/

/-- The manager after one of its channels left it. -/
def left (this : ChannelManager CHANNEL) (channel : CHANNEL) : ChannelManager CHANNEL :=
  { this with
    map := this.map.unbind (channels.channelID channel)
    closed := Function.update this.closed channel true
    fired := this.fired ++ [channel] }

variable {channels} {this : ChannelManager CHANNEL} {channel : CHANNEL}

theorem update_closed (closed : this.closed channel = true) :
    { this with closed := Function.update this.closed channel true } = this := by
  rw [← closed, Function.update_eq_self]

theorem closeChannel_of_closed (closed : this.closed channel = true) :
    closeChannel channels this channel = this := by
  rw [closeChannel, if_pos closed]

theorem removeChannel_of_absent (absent : this.map.find (channels.channelID channel) = none) :
    removeChannel channels this channel = this := by
  rw [removeChannel, absent]
  exact if_neg Bool.false_ne_true

theorem closeChannel_of_absent (absent : this.map.find (channels.channelID channel) = none) :
    closeChannel channels this channel =
      { this with closed := Function.update this.closed channel true } := by
  by_cases closed : this.closed channel = true
  · rw [closeChannel_of_closed closed, update_closed closed]
  · rw [closeChannel, if_neg closed]
    dsimp only
    split
    · exact removeChannel_of_absent absent
    · rfl

/-- A channel that leaves the manager is closed, and its call back finds it gone. -/
theorem closeChannel_unbound (this : ChannelManager CHANNEL) (channel : CHANNEL) :
    (closeChannel channels { this with map := this.map.unbind (channels.channelID channel) }
      channel).fireOnClose channel = this.left channels channel := by
  rw [closeChannel_of_absent]
  · rfl
  · exact (Table.find_unbind this.map _ _).trans (if_pos rfl)

theorem removeChannel_of_member
    (member : (this.map.find (channels.channelID channel)).isSome = true) :
    removeChannel channels this channel = this.left channels channel := by
  rw [removeChannel, if_pos member]
  dsimp only
  rw [setCloseListener_none, closeChannel_unbound]

theorem closeChannel_of_member
    (member : (this.map.find (channels.channelID channel)).isSome = true)
    (listens : this.closeListener channel = some .manager) (opened : this.closed channel = false) :
    closeChannel channels this channel = this.left channels channel := by
  rw [closeChannel, if_neg (by rw [opened]; exact Bool.false_ne_true)]
  dsimp only
  rw [listens]
  dsimp only
  rw [removeChannel_of_member (by exact member)]
  unfold left
  rw [Function.update_idem]

theorem removeUUID_of_absent {uuid : UUID} (absent : this.map.find uuid = none) :
    removeUUID channels this uuid = this := by
  rw [removeUUID, absent]

theorem removeUUID_of_member
    (member : this.map.find (channels.channelID channel) = some channel) :
    removeUUID channels this (channels.channelID channel) = this.left channels channel := by
  rw [removeUUID, member]
  dsimp only
  rw [setCloseListener_none, closeChannel_unbound]

omit [DecidableEq CHANNEL] in
theorem fault_dropOwner {bound : Int} (unbound : bound ≠ 0) :
    (this.dropOwner bound).fault = some .useAfterFree := by
  rw [dropOwner, if_neg unbound]

/-- A channel that was not bound is deleted by two owners. -/
theorem fault_add {room : Bool} (unbound : (bind channels this channel room).2 ≠ 0) :
    (add channels this channel room).1.fault = some .useAfterFree := by
  unfold add
  dsimp only
  split
  · exact fault_dropOwner unbound
  · split
    · exact fault_dropOwner unbound
    · exact fault_dropOwner unbound

/-- There is room for one more entry under a free identifier. -/
def Binds (channels : Channels CHANNEL) (this : ChannelManager CHANNEL) (channel : CHANNEL)
    (room : Bool) : Prop :=
  this.map.find (channels.channelID channel) = none ∧ this.mapClosed = false ∧ room = true

omit [DecidableEq CHANNEL] in
theorem bind_of_binds {room : Bool} (binds : Binds channels this channel room) :
    bind channels this channel room =
      ({ this with map := this.map.bind (channels.channelID channel) channel }, 0) := by
  rcases binds with ⟨fresh, opened, rfl⟩
  rw [bind, fresh, opened]
  rfl

omit [DecidableEq CHANNEL] in
theorem bind_eq_zero_iff {room : Bool} :
    (bind channels this channel room).2 = 0 ↔ Binds channels this channel room := by
  constructor
  · intro bound
    unfold bind at bound
    split at bound
    · cases bound
    · rename_i fresh
      split at bound
      · cases bound
      · rename_i possible
        rw [Bool.or_eq_true, not_or, Bool.not_eq_true, Bool.not_eq_true', Bool.not_eq_false]
          at possible
        exact ⟨Option.not_isSome_iff_eq_none.mp fresh, possible⟩
  · intro binds
    rw [bind_of_binds binds]

/-- A channel that nobody listens to is taken up. -/
theorem add_of_free {room : Bool} (binds : Binds channels this channel room)
    (free : this.closeListener channel = none) (opened : this.closed channel = false) :
    add channels this channel room =
      ({ this with
          map := this.map.bind (channels.channelID channel) channel
          closeListener := Function.update this.closeListener channel (some .manager) }, 0) := by
  unfold add
  rw [bind_of_binds binds]
  dsimp only
  rw [setCloseListener_of_free (by exact free) (by exact opened)]
  rfl

/-- A channel that has a listener, or is closed, is removed again. -/
theorem add_of_refused {room : Bool} (binds : Binds channels this channel room)
    (refused : (this.closeListener channel).isSome = true ∨ this.closed channel = true) :
    add channels this channel room =
      ({ this with
          closed := Function.update this.closed channel true
          fired := this.fired ++ [channel] }, -1) := by
  unfold add
  rw [bind_of_binds binds]
  dsimp only
  rw [setCloseListener_of_refused (by exact refused)]
  dsimp only
  rw [removeChannel_of_member]
  · unfold left
    dsimp only
    rw [Table.unbind_bind_of_fresh binds.1]
    rfl
  · dsimp only
    rw [Table.find_bind_of_fresh binds.1, if_pos rfl]
    rfl

/-! ## Closing the manager -/

theorem close_of_empty (empty : this.map.entries = []) :
    close channels this = { this with map := .empty, mapClosed := true } := by
  rw [close, empty]
  rfl

/-- After the first channel that the loop closes, its entry is gone. -/
theorem fault_close {entry : UUID × CHANNEL} {rest : List (UUID × CHANNEL)}
    (entries : this.map.entries = entry :: rest)
    (keyed : channels.channelID entry.2 = entry.1)
    (listens : this.closeListener entry.2 = some .manager) (opened : this.closed entry.2 = false) :
    (close channels this).fault = some .useAfterFree := by
  have member : this.map.find (channels.channelID entry.2) = some entry.2 := by
    rw [Table.find_eq_some_iff, keyed, entries]
    exact List.mem_cons_self
  have gone : ((this.left channels entry.2).map.find entry.1).isSome = false := by
    rw [left, Table.find_unbind, keyed, if_pos rfl]
    rfl
  rw [close, entries, closeEntries,
    closeChannel_of_member (Option.isSome_iff_exists.mpr ⟨_, member⟩) listens opened, gone]
  rfl

/-- Channels close, and keep their listeners. -/
structure Closes (this after : ChannelManager CHANNEL) : Prop where
  closeListener : after.closeListener = this.closeListener
  closed : ∀ channel, this.closed channel = true → after.closed channel = true

omit [DecidableEq CHANNEL] in
theorem Closes.refl (this : ChannelManager CHANNEL) : this.Closes this :=
  ⟨rfl, fun _ wasClosed => wasClosed⟩

omit [DecidableEq CHANNEL] in
theorem Closes.trans {middle after : ChannelManager CHANNEL} (first : this.Closes middle)
    (second : middle.Closes after) : this.Closes after where
  closeListener := second.closeListener.trans first.closeListener
  closed other wasClosed := second.closed other (first.closed other wasClosed)

theorem update_closed_of_closed {other : CHANNEL} (wasClosed : this.closed other = true) :
    Function.update this.closed channel true other = true := by
  by_cases same : other = channel
  · rw [same, Function.update_self]
  · rw [Function.update_of_ne same, wasClosed]

theorem closes_removeChannel (this : ChannelManager CHANNEL) (channel : CHANNEL) :
    this.Closes (removeChannel channels this channel) := by
  cases found : this.map.find (channels.channelID channel) with
  | none =>
      rw [removeChannel_of_absent found]
      exact .refl this
  | some _ =>
      rw [removeChannel_of_member (by rw [found]; rfl)]
      exact ⟨rfl, fun _ wasClosed => update_closed_of_closed wasClosed⟩

theorem closes_closeChannel (this : ChannelManager CHANNEL) (channel : CHANNEL) :
    this.Closes (closeChannel channels this channel) := by
  by_cases closed : this.closed channel = true
  · rw [closeChannel_of_closed closed]
    exact .refl this
  · have silenced : this.Closes
        { this with closed := Function.update this.closed channel true } :=
      ⟨rfl, fun _ wasClosed => update_closed_of_closed wasClosed⟩
    rw [closeChannel, if_neg closed]
    dsimp only
    split
    · exact silenced.trans (closes_removeChannel _ channel)
    · exact silenced

/-- The loop of `close` ends with an empty map or with a fault. -/
theorem closes_closeEntries (this : ChannelManager CHANNEL) (entries : List (UUID × CHANNEL)) :
    this.Closes (closeEntries channels this entries) ∧
      ((closeEntries channels this entries).fault = none →
        (closeEntries channels this entries).map = .empty) := by
  induction entries generalizing this with
  | nil => exact ⟨⟨rfl, fun _ wasClosed => wasClosed⟩, fun _ => rfl⟩
  | cons entry rest inductionHypothesis =>
      have closes := @closes_closeChannel CHANNEL _ channels this entry.2
      rw [closeEntries]
      split
      · rcases inductionHypothesis (closeChannel channels this entry.2) with ⟨later, empties⟩
        exact ⟨closes.trans later, empties⟩
      · refine ⟨⟨closes.closeListener, closes.closed⟩, ?_⟩
        rintro ⟨⟩

end ChannelManager

end Stheno.Net
