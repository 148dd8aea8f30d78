import Mathlib.Data.List.Infix
import Stheno.Fault

/-!
# The blocking receive of a channel

`receive` calls `receiveSync` until all bytes are there.  The socket delivers its stream in
pieces, and then fails or has reached the end of the stream.
-/

namespace Stheno.Net

/-- A piece of a stream is not empty. -/
structure Piece where
  first : UInt8
  more : List UInt8

def Piece.bytes (this : Piece) : List UInt8 :=
  this.first :: this.more

/-- What is left of a piece, if anything is. -/
def Piece.ofBytes : List UInt8 → List Piece
  | [] => []
  | first :: more => [⟨first, more⟩]

/-- What follows the bytes of a stream: every further `recv` fails, or returns 0. -/
inductive Ending where
  | error
  | endOfStream

/-- What a socket still delivers. -/
structure StreamSocket where
  pieces : List Piece
  ending : Ending

namespace StreamSocket

def bytes (this : StreamSocket) : List UInt8 :=
  (this.pieces.map Piece.bytes).flatten

/-- At most `length` bytes of the first piece, none for an error. -/
def recv (this : StreamSocket) (length : Nat) : Option (List UInt8) × StreamSocket :=
  match this.pieces, this.ending with
  | [], .error => (none, this)
  | [], .endOfStream => (some [], this)
  | piece :: rest, ending =>
      (some (piece.bytes.take length), ⟨Piece.ofBytes (piece.bytes.drop length) ++ rest, ending⟩)

end StreamSocket

/-- The receiving side of `AbstractStreamChannel`, with the bytes of the message block. -/
structure Receiver where
  asyncRead : Bool
  closed : Bool
  peer : StreamSocket
  buffer : List UInt8

namespace Receiver

/-- A return value of 0 stands for a timeout. -/
def receiveSync (this : Receiver) (recv : Int) : Int × Receiver :=
  match this.peer.recv recv.toNat with
  | (none, peer) => (-1, { this with peer := peer, closed := true })
  | (some bytes, peer) =>
      (bytes.length, { this with peer := peer, buffer := this.buffer ++ bytes })

/-- The loop of `receive` without a timeout. -/
def receiveLoop : Nat → Receiver → Int → Result (Int × Receiver)
  | 0, _, _ => .error .outOfFuel
  | fuel + 1, this, recv =>
      if recv > 0 then
        match this.receiveSync recv with
        | (ret, after) => if ret = -1 then .ok (-1, after) else receiveLoop fuel after (recv - ret)
      else
        .ok (0, this)

def receive (fuel : Nat) (this : Receiver) (recv : Int) : Result (Int × Receiver) :=
  if this.asyncRead then .ok (-1, this) else receiveLoop fuel this recv

/-- The call returns: 0 with the next bytes of the stream, as many as requested, or -1 with
the channel closed if it has read to the end of the stream. -/
def Receives (this : Receiver) (recv : Int) : Prop :=
  ∃ fuel ret after, this.receive fuel recv = .ok (ret, after) ∧ (ret = 0 ∨ ret = -1) ∧
    (ret = 0 → ∃ bytes, bytes <+: this.peer.bytes ∧ (bytes.length : Int) = recv ∧
      after.buffer = this.buffer ++ bytes) ∧
    (ret = -1 → this.asyncRead = false → after.closed = true)

variable {this : Receiver} {recv : Int}

theorem bytes_ofBytes (bytes : List UInt8) (rest : List Piece) (ending : Ending) :
    StreamSocket.bytes ⟨Piece.ofBytes bytes ++ rest, ending⟩ =
      bytes ++ StreamSocket.bytes ⟨rest, ending⟩ := by
  cases bytes with
  | nil => rfl
  | cons first more => rfl

/-- One `recv` of a socket that has bytes takes some of them off its stream. -/
theorem recv_of_bytes {socket : StreamSocket} {length : Nat} (wanted : 0 < length)
    (left : socket.bytes ≠ []) :
    ∃ bytes rest, socket.recv length = (some bytes, rest) ∧ 0 < bytes.length ∧
      bytes.length ≤ length ∧ socket.bytes = bytes ++ rest.bytes ∧ rest.ending = socket.ending := by
  rcases socket with ⟨pieces, ending⟩
  cases pieces with
  | nil => exact absurd rfl left
  | cons piece pieces =>
      have taken : 0 < (piece.bytes.take length).length := by
        rw [List.length_take, Piece.bytes, List.length_cons]
        exact Nat.lt_min.mpr ⟨wanted, Nat.succ_pos _⟩
      refine ⟨_, _, rfl, taken, List.length_take_le _ _, ?_, rfl⟩
      rw [bytes_ofBytes, ← List.append_assoc, List.take_append_drop]
      rfl

/-- A socket without bytes fails, or returns 0 for ever. -/
theorem recv_of_empty {socket : StreamSocket} (empty : socket.bytes = []) (length : Nat) :
    socket.recv length =
      (match socket.ending with
        | .error => none
        | .endOfStream => some [], socket) := by
  rcases socket with ⟨pieces, ending⟩
  cases pieces with
  | nil => cases ending <;> rfl
  | cons piece pieces => cases empty

/-- A round that finds bytes takes some of those that are missing. -/
theorem receiveLoop_of_bytes (fuel : Nat) (wanted : recv > 0) (left : this.peer.bytes ≠ []) :
    ∃ (piece : List UInt8) (after : Receiver),
      receiveLoop (fuel + 1) this recv = receiveLoop fuel after (recv - piece.length) ∧
        0 < piece.length ∧ piece.length ≤ recv ∧ this.peer.bytes = piece ++ after.peer.bytes ∧
          after.peer.ending = this.peer.ending ∧ after.buffer = this.buffer ++ piece := by
  have positive : 0 < recv.toNat := by omega
  rcases recv_of_bytes positive left with ⟨piece, rest, read, taken, short, split, ending⟩
  refine ⟨piece, { this with peer := rest, buffer := this.buffer ++ piece }, ?_, taken, by omega,
    split, ending, rfl⟩
  have counted : (piece.length : Int) ≠ -1 := by omega
  rw [receiveLoop, if_pos wanted, receiveSync, read]
  exact if_neg counted

/-- With enough bytes, or an error behind them, the loop ends: each round leaves fewer bytes
missing, and the fuel counts them. -/
theorem receiveLoop_returns {fuel : Nat} (nonneg : 0 ≤ recv) (enough : recv < fuel)
    (delivered : recv ≤ this.peer.bytes.length ∨ this.peer.ending = .error) :
    (∃ bytes after, receiveLoop fuel this recv = .ok (0, after) ∧ bytes <+: this.peer.bytes ∧
        (bytes.length : Int) = recv ∧ after.buffer = this.buffer ++ bytes) ∨
      ∃ after, receiveLoop fuel this recv = .ok (-1, after) ∧ after.closed = true := by
  induction fuel generalizing this recv with
  | zero => omega
  | succ fuel inductionHypothesis =>
      by_cases wanted : recv > 0
      · by_cases empty : this.peer.bytes = []
        · right
          have fails : this.peer.ending = .error := by
            apply delivered.resolve_left
            rw [empty, List.length_nil]
            omega
          have read := recv_of_empty empty recv.toNat
          rw [fails] at read
          rw [receiveLoop, if_pos wanted, receiveSync, read]
          exact ⟨_, rfl, rfl⟩
        · rcases receiveLoop_of_bytes fuel wanted empty with
            ⟨piece, after, round, taken, short, split, ending, received⟩
          have remains : recv - piece.length ≤ after.peer.bytes.length ∨
              after.peer.ending = .error := by
            rw [split, List.length_append] at delivered
            rw [ending]
            exact delivered.imp_left fun within => by omega
          rw [round]
          rcases inductionHypothesis (by omega) (by omega) remains with
            ⟨bytes, final, returned, begins, exactly, appended⟩ | ⟨final, returned, closed⟩
          · left
            refine ⟨piece ++ bytes, final, returned, ?_, ?_, ?_⟩
            · rw [split]
              exact (List.prefix_append_right_inj piece).mpr begins
            · rw [List.length_append]
              omega
            · rw [appended, received, List.append_assoc]
          · right
            exact ⟨final, returned, closed⟩
      · left
        have nothing : recv = 0 := by omega
        rw [receiveLoop, if_neg wanted]
        exact ⟨[], this, rfl, List.nil_prefix, nothing.symm, (List.append_nil _).symm⟩

/-- At the end of the stream each round returns 0, and the loop never ends. -/
theorem receiveLoop_never (fuel : Nat) (missing : this.peer.bytes.length < recv)
    (ends : this.peer.ending = .endOfStream) :
    receiveLoop fuel this recv = .error .outOfFuel := by
  induction fuel generalizing this recv with
  | zero => rfl
  | succ fuel inductionHypothesis =>
      have wanted : recv > 0 := by omega
      by_cases empty : this.peer.bytes = []
      · have read := recv_of_empty empty recv.toNat
        have later : (this.peer.bytes.length : Int) < recv - (([] : List UInt8).length : Int) := by
          rw [List.length_nil]
          omega
        rw [ends] at read
        rw [receiveLoop, if_pos wanted, receiveSync, read]
        exact inductionHypothesis later ends
      · rcases receiveLoop_of_bytes fuel wanted empty with
          ⟨piece, after, round, taken, short, split, ending, -⟩
        rw [split, List.length_append] at missing
        rw [round]
        apply inductionHypothesis
        · omega
        · exact ending.trans ends

/-- A call with a negative length returns 0 for nothing, and one at the end of the stream
never returns. -/
theorem Receives.delivered (receives : this.Receives recv) (sync : ¬ this.asyncRead = true) :
    0 ≤ recv ∧ (recv ≤ this.peer.bytes.length ∨ this.peer.ending = .error) := by
  rcases receives with ⟨fuel, ret, after, returned, -, zero, -⟩
  rw [receive, if_neg sync] at returned
  have nonneg : 0 ≤ recv := by
    by_contra negative
    cases fuel with
    | zero => cases returned
    | succ fuel =>
        rw [receiveLoop, if_neg (by omega)] at returned
        cases returned
        rcases zero rfl with ⟨bytes, -, exactly, -⟩
        omega
  constructor
  · exact nonneg
  · by_contra undelivered
    rw [not_or] at undelivered
    have ends : this.peer.ending = .endOfStream := by
      cases ending : this.peer.ending with
      | error => exact absurd ending undelivered.2
      | endOfStream => rfl
    rw [receiveLoop_never fuel (by omega) ends] at returned
    cases returned

theorem receives_of_delivered (sync : ¬ this.asyncRead = true) (nonneg : 0 ≤ recv)
    (delivered : recv ≤ this.peer.bytes.length ∨ this.peer.ending = .error) :
    this.Receives recv := by
  have enough : recv < (recv.toNat + 1 : Nat) := by omega
  rcases receiveLoop_returns nonneg enough delivered with
    ⟨bytes, after, returned, begins, exactly, appended⟩ | ⟨after, returned, closed⟩
  · refine ⟨recv.toNat + 1, 0, after, ?_, .inl rfl, ?_, by omega⟩
    · rw [receive, if_neg sync]
      exact returned
    · intro _
      exact ⟨bytes, begins, exactly, appended⟩
  · refine ⟨recv.toNat + 1, -1, after, ?_, .inr rfl, by omega, ?_⟩
    · rw [receive, if_neg sync]
      exact returned
    · intro _ _
      exact closed

theorem receives_iff (this : Receiver) (recv : Int) : this.Receives recv ↔
    this.asyncRead = true ∨ 0 ≤ recv ∧
      (recv ≤ this.peer.bytes.length ∨ this.peer.ending = .error) := by
  by_cases async : this.asyncRead = true
  · apply iff_of_true _ (.inl async)
    refine ⟨0, -1, this, by rw [receive, if_pos async], .inr rfl, by omega, ?_⟩
    intro _ sync
    exact absurd async (ne_true_of_eq_false sync)
  · rw [or_iff_right async]
    constructor
    · intro receives
      exact receives.delivered async
    · rintro ⟨nonneg, delivered⟩
      exact receives_of_delivered async nonneg delivered

/-- The peer closes before it has sent the byte that is waited for. -/
theorem not_receives_closed : ¬ Receives ⟨false, false, ⟨[], .endOfStream⟩, []⟩ 1 := by
  rintro ⟨fuel, ret, after, returned, -⟩
  have never : receiveLoop fuel ⟨false, false, ⟨[], .endOfStream⟩, []⟩ 1 = .error .outOfFuel :=
    receiveLoop_never fuel (by decide) rfl
  change receiveLoop fuel _ 1 = _ at returned
  rw [never] at returned
  cases returned

end Receiver

end Stheno.Net
