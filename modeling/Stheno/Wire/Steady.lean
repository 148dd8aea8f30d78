import Stheno.Peer.Codec

/-!
# Readers that make no bytes

A steady reader never leaves more bytes than it found, never sets the good bit again, and
ends without a recursion budget.  The readers of the peer records are steady on every
stream, also on one that ends in the middle of a record.
-/

namespace Stheno.Wire

/-- The reader leaves at most the bytes and the good bit it found and is total by itself. -/
structure Steady {α : Type} (reader : Reader α) : Prop where
  shrinks : ∀ {stream : InputStream} {a : α} {after : InputStream},
    reader stream = .ok (a, after) → after.data.length ≤ stream.data.length
  good : ∀ {stream : InputStream} {a : α} {after : InputStream},
    reader stream = .ok (a, after) → after.goodBit = true → stream.goodBit = true
  total : ∀ stream, reader stream ≠ .error .outOfFuel

/-- A sequence of two reads fails where one of them does. -/
theorem Reader.bind_eq_error {α β : Type} {first : Reader α} {next : α → Reader β}
    {stream : InputStream} {fault : Fault} (failed : (first >>= next) stream = .error fault) :
    first stream = .error fault ∨
      ∃ a after, first stream = .ok (a, after) ∧ next a after = .error fault := by
  simp only [bind, StateT.bind, Except.bind] at failed
  cases read : first stream with
  | error other =>
      rw [read] at failed
      cases failed
      exact Or.inl rfl
  | ok out =>
      rw [read] at failed
      exact Or.inr ⟨out.1, out.2, rfl, failed⟩

namespace Steady

variable {α β : Type}

theorem pure (a : α) : Steady (Pure.pure a : Reader α) where
  shrinks := by
    rintro stream b after ⟨⟩
    exact Nat.le_refl _
  good := by
    rintro stream b after ⟨⟩ good
    exact good
  total := by
    rintro stream ⟨⟩

theorem throw {fault : Fault} (other : fault ≠ .outOfFuel) :
    Steady (MonadExcept.throw fault : Reader α) where
  shrinks := by
    rintro stream a after ⟨⟩
  good := by
    rintro stream a after ⟨⟩
  total := by
    rintro stream equal
    exact other (Except.error.inj equal)

theorem bind {first : Reader α} {next : α → Reader β} (steady : Steady first)
    (steadyNext : ∀ a, Steady (next a)) : Steady (first >>= next) where
  shrinks := by
    intro stream b after done
    rcases Reader.bind_eq_ok.mp done with ⟨a, middle, read, rest⟩
    exact Nat.le_trans ((steadyNext a).shrinks rest) (steady.shrinks read)
  good := by
    intro stream b after done bit
    rcases Reader.bind_eq_ok.mp done with ⟨a, middle, read, rest⟩
    exact steady.good read ((steadyNext a).good rest bit)
  total := by
    intro stream failed
    rcases Reader.bind_eq_error failed with here | ⟨a, middle, -, later⟩
    · exact steady.total stream here
    · exact (steadyNext a).total middle later

theorem times {reader : Reader α} (steady : Steady reader) (count : Nat) :
    Steady (readTimes reader count) := by
  induction count with
  | zero => exact pure []
  | succ count inductionHypothesis =>
      exact steady.bind fun head => inductionHypothesis.bind fun tail => pure (head :: tail)

theorem adjust (size : Nat) : Steady (Wire.adjust size) where
  shrinks := by
    intro stream bytes after done
    unfold Wire.adjust at done
    split at done
    · cases done
      rw [List.length_drop]
      exact Nat.sub_le _ _
    · cases done
      exact Nat.le_refl _
  good := by
    intro stream bytes after done bit
    unfold Wire.adjust at done
    split at done
    · cases done
      exact bit
    · cases done
      cases bit
  total := by
    intro stream failed
    unfold Wire.adjust at failed
    split at failed
    · cases failed
    · cases failed

theorem field (size : Nat) (decode : List UInt8 → α) (before : α) :
    Steady (readField size decode before) := by
  apply (adjust size).bind
  intro bytes
  cases bytes
  · exact pure _
  · exact pure _

theorem boolean : Steady readBoolean :=
  (field 1 _ _).bind fun _ => pure _

theorem octetArray (size : Nat) : Steady (readOctetArray size) := by
  apply (adjust size).bind
  intro bytes
  cases bytes
  · exact pure _
  · exact pure _

theorem charBuffer (len : Nat) : Steady (readCharBuffer len) := by
  apply (adjust len).bind
  intro bytes
  cases bytes with
  | none => exact pure _
  | some buffer =>
      dsimp only
      split
      · exact pure _
      · apply throw
        rintro ⟨⟩

theorem string : Steady readString := by
  apply (adjust 4).bind
  intro lenBytes
  cases lenBytes with
  | none => exact pure _
  | some bytes =>
      dsimp only
      split
      · exact pure _
      · exact charBuffer _

theorem optional {reader : Reader α} (steady : Steady reader) : Steady (readOptional reader) := by
  apply boolean.bind
  intro flag
  cases flag
  · exact pure _
  · exact steady.bind fun a => pure (some a)

theorem counted {reader : Reader α} (steady : Steady reader) : Steady (readCounted reader) :=
  (field 4 _ _).bind fun count => steady.times count.toNat

end Steady

end Stheno.Wire

namespace Stheno

open Wire

theorem UUID.steady : Steady UUID.deserialize :=
  (Steady.field 4 _ _).bind fun size => (Steady.octetArray size.toNat).bind fun _ => Steady.pure _

namespace Peer

theorem Endpoint.steady : Steady Endpoint.deserialize := by
  apply (Steady.field 1 _ _).bind
  intro type
  apply Steady.string.bind
  intro host
  apply (Steady.field 2 _ _).bind
  intro port
  apply Steady.bind _ fun _ => Steady.pure _
  exact (Steady.field 2 _ _).bind fun type => (Steady.field 2 _ _).bind fun _ => Steady.pure _

theorem SAPInfo.steady : Steady SAPInfo.deserialize :=
  (Steady.field 4 _ _).bind fun size => (Endpoint.steady.times size.toNat).bind fun _ =>
    Steady.pure _

theorem ServiceInstanceInfo.steady : Steady ServiceInstanceInfo.deserialize :=
  UUID.steady.bind fun _ => UUID.steady.bind fun _ => SAPInfo.steady.optional.bind fun _ =>
    Steady.pure _

theorem ServiceInfo.steady : Steady ServiceInfo.deserialize :=
  UUID.steady.bind fun _ => ServiceInstanceInfo.steady.counted.bind fun _ => Steady.pure _

theorem PeerInfo.steady : Steady PeerInfo.deserialize := by
  apply (Steady.field 4 _ _).bind
  intro type
  apply UUID.steady.bind
  intro pid
  apply UUID.steady.bind
  intro fid
  apply SAPInfo.steady.optional.bind
  intro meshSAP
  apply SAPInfo.steady.optional.bind
  intro discoverySAP
  apply SAPInfo.steady.optional.bind
  intro ftSAP
  exact ServiceInfo.steady.counted.bind fun _ => Steady.pure _

theorem P3PeerInfo.steady : Steady P3PeerInfo.deserialize :=
  PeerInfo.steady.bind fun _ => Endpoint.steady.optional.bind fun _ => Steady.pure _

end Peer

end Stheno
