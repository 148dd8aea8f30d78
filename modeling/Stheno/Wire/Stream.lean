import Mathlib.Data.List.TakeWhile
import Stheno.Fault
import Stheno.Wire.Bytes

/-!
# Byte streams

`ByteOutputStream` appends native little-endian fields without alignment
padding and `ByteInputStream` takes them off again.  A read that finds too few
bytes clears the good bit and leaves its variable as it was; no caller stops on
it.  Every reader below therefore takes the value its variable holds before the
read.
-/

namespace Stheno.Wire

/-- The unread bytes and the good bit of a `ByteInputStream`. -/
structure InputStream where
  data : List UInt8
  goodBit : Bool
  deriving DecidableEq

/-- A stateful read, which faults where the C++ code has no defined result. -/
abbrev Reader := StateT InputStream Result

/-- A character string without an embedded NUL, whose length with its NUL is a
32-bit number. -/
structure CString where
  chars : List UInt8
  noNul : (0 : UInt8) ∉ chars
  bounded : chars.length + 1 < 2 ^ 32
  deriving DecidableEq

namespace CString

/-- The C string at the start of a buffer.  A buffer read from a stream has a
32-bit length, so the cut at `2 ^ 32 - 2` characters never shortens it. -/
def ofBuffer (buffer : List UInt8) : CString where
  chars := (buffer.takeWhile (· ≠ 0)).take (2 ^ 32 - 2)
  noNul := by
    intro member
    have nonzero := List.mem_takeWhile_imp (List.mem_of_mem_take member)
    simp at nonzero
  bounded := by
    rw [List.length_take]
    omega

/-- The empty string. -/
def empty : CString :=
  ⟨[], by simp, by simp⟩

end CString

/-! ## Writing -/

def writeOctet (x : UInt8) : List UInt8 :=
  [x]

def writeBoolean (x : Bool) : List UInt8 :=
  writeOctet (if x then 1 else 0)

def writeUShort (x : UInt16) : List UInt8 :=
  toLE 2 x.toNat

def writeULong (x : UInt32) : List UInt8 :=
  toLE 4 x.toNat

def writeShort (x : Int) : List UInt8 :=
  toSignedLE 2 x

def writeLong (x : Int) : List UInt8 :=
  toSignedLE 4 x

/-- A string is written with its terminating NUL, which its length counts. -/
def writeString (x : CString) : List UInt8 :=
  let len := x.chars.length % 2 ^ 32
  if len ≠ 0 then
    writeULong (UInt32.ofNat (len + 1)) ++ (x.chars ++ [0]).take ((len + 1) % 2 ^ 32)
  else
    writeULong 1 ++ [0]

/-! ## Reading -/

/-- Take `size` bytes, or clear the good bit when the stream is too short. -/
def adjust (size : Nat) : Reader (Option (List UInt8)) := fun stream =>
  if size ≤ stream.data.length then
    .ok (some (stream.data.take size), { stream with data := stream.data.drop size })
  else
    .ok (none, { stream with goodBit := false })

/-- Read a field of `size` bytes into a variable that holds `before`. -/
def readField {α : Type} (size : Nat) (decode : List UInt8 → α) (before : α) : Reader α := do
  match ← adjust size with
  | some bytes => pure (decode bytes)
  | none => pure before

def readOctet (x : UInt8) : Reader UInt8 :=
  readField 1 (fun bytes => UInt8.ofNat (ofLE bytes)) x

/-- The octet is read into a zeroed temporary, so a failed read gives `false`. -/
def readBoolean : Reader Bool := do
  let tmp ← readOctet 0
  pure (tmp != 0)

def readUShort (x : UInt16) : Reader UInt16 :=
  readField 2 (fun bytes => UInt16.ofNat (ofLE bytes)) x

def readULong (x : UInt32) : Reader UInt32 :=
  readField 4 (fun bytes => UInt32.ofNat (ofLE bytes)) x

def readShort (x : Int) : Reader Int :=
  readField 2 ofSignedLE x

def readLong (x : Int) : Reader Int :=
  readField 4 ofSignedLE x

/-- The bytes read into a buffer of `size` octets; a buffer that is not filled
keeps arbitrary bytes, here zeros. -/
def readOctetArray (size : Nat) : Reader (List UInt8) := do
  match ← adjust size with
  | some bytes => pure bytes
  | none => pure (List.replicate size 0)

/-- A string is assigned from the buffer as a C string, so the buffer has to hold
a NUL. -/
def readCharBuffer (len : Nat) : Reader CString := do
  match ← adjust len with
  | some buffer => if 0 ∈ buffer then pure (.ofBuffer buffer) else throw .outOfBounds
  | none => pure .empty

def readString : Reader CString := do
  match ← adjust 4 with
  | some lenBytes =>
      if ofLE lenBytes = 0 then pure .empty else readCharBuffer (ofLE lenBytes)
  | none => pure .empty

/-- Run a reader a fixed number of times. -/
def readTimes {α : Type} (reader : Reader α) : Nat → Reader (List α)
  | 0 => pure []
  | count + 1 => do
      let head ← reader
      let tail ← readTimes reader count
      pure (head :: tail)

/-- A sequence of two reads succeeds where both do. -/
theorem Reader.bind_eq_ok {α β : Type} {first : Reader α} {next : α → Reader β}
    {stream : InputStream} {out : β × InputStream} :
    (first >>= next) stream = .ok out ↔
      ∃ a after, first stream = .ok (a, after) ∧ next a after = .ok out := by
  simp only [bind, StateT.bind, Except.bind]
  cases first stream with
  | error fault => simp
  | ok read =>
      constructor
      · intro done
        exact ⟨read.1, read.2, rfl, done⟩
      · rintro ⟨a, after, equal, done⟩
        cases equal
        exact done

/-! ## Reading back what was written -/

/-- From any stream that starts with `bytes`, the reader takes exactly `bytes`
and answers `a`. -/
def Reads {α : Type} (reader : Reader α) (bytes : List UInt8) (a : α) : Prop :=
  ∀ rest goodBit, reader ⟨bytes ++ rest, goodBit⟩ = .ok (a, ⟨rest, goodBit⟩)

namespace Reads

variable {α β : Type}

theorem pure (a : α) : Reads (Pure.pure a) [] a :=
  fun _ _ => rfl

/-- A stream of exactly the bytes is used up. -/
theorem run {reader : Reader α} {bytes : List UInt8} {a : α} (reads : Reads reader bytes a) :
    reader ⟨bytes, true⟩ = .ok (a, ⟨[], true⟩) := by
  have whole := reads [] true
  rwa [List.append_nil] at whole

/-- Readers in sequence take the concatenation of their bytes. -/
theorem bind {first : Reader α} {next : α → Reader β} {bytes bytes' : List UInt8} {a : α} {b : β}
    (reads : Reads first bytes a) (readsNext : Reads (next a) bytes' b) :
    Reads (first >>= next) (bytes ++ bytes') b := by
  intro rest goodBit
  have step : (first >>= next) ⟨bytes ++ bytes' ++ rest, goodBit⟩ =
      (first ⟨bytes ++ bytes' ++ rest, goodBit⟩).bind fun out => next out.1 out.2 := rfl
  rw [step, List.append_assoc, reads]
  exact readsNext rest goodBit

/-- A last step that only computes takes no bytes. -/
theorem bind_pure {first : Reader α} {bytes : List UInt8} {a : α} (f : α → β)
    (reads : Reads first bytes a) : Reads (first >>= fun x => Pure.pure (f x)) bytes (f a) := by
  have last : Reads (Pure.pure (f a)) [] (f a) := pure (f a)
  have whole : Reads (first >>= fun x => Pure.pure (f x)) (bytes ++ []) (f a) := reads.bind last
  rwa [List.append_nil] at whole

/-- A loop reads back a list written element by element. -/
theorem times {reader : Reader α} {write : α → List UInt8} {list : List α}
    (reads : ∀ a ∈ list, Reads reader (write a) a) :
    Reads (readTimes reader list.length) (list.flatMap write) list := by
  induction list with
  | nil => exact pure []
  | cons head tail ih =>
      have readsTail := ih fun a member => reads a (List.mem_cons_of_mem _ member)
      rw [List.length_cons, List.flatMap_cons]
      exact (reads head List.mem_cons_self).bind (readsTail.bind_pure fun rest => head :: rest)

end Reads

theorem reads_adjust (bytes : List UInt8) : Reads (adjust bytes.length) bytes (some bytes) := by
  intro rest goodBit
  simp [adjust]

/-- A field that decodes to `x` is read as `x`. -/
theorem reads_field {α : Type} {size : Nat} {decode : List UInt8 → α} {before x : α}
    {bytes : List UInt8} (length : bytes.length = size) (value : decode bytes = x) :
    Reads (readField size decode before) bytes x := by
  subst length
  subst value
  have whole : Reads (readField bytes.length decode before) (bytes ++ []) (decode bytes) :=
    Reads.bind (reads_adjust bytes) (Reads.pure (decode bytes))
  rwa [List.append_nil] at whole

theorem reads_octet (x before : UInt8) : Reads (readOctet before) (writeOctet x) x :=
  reads_field rfl (by simp [writeOctet, ofLE])

theorem reads_boolean (x : Bool) : Reads readBoolean (writeBoolean x) x := by
  have octet := (reads_octet (if x then 1 else 0) 0).bind_pure fun tmp => tmp != 0
  cases x
  · exact octet
  · exact octet

theorem reads_uShort (x before : UInt16) : Reads (readUShort before) (writeUShort x) x := by
  apply reads_field (length_toLE 2 _)
  rw [ofLE_toLE_of_lt x.toNat_lt, UInt16.ofNat_toNat]

theorem reads_uLong (x before : UInt32) : Reads (readULong before) (writeULong x) x := by
  apply reads_field (length_toLE 4 _)
  rw [ofLE_toLE_of_lt x.toNat_lt, UInt32.ofNat_toNat]

theorem reads_short {x : Int} (before : Int) (lower : -2 ^ 15 ≤ x) (upper : x < 2 ^ 15) :
    Reads (readShort before) (writeShort x) x := by
  apply reads_field (length_toSignedLE 2 _)
  apply ofSignedLE_toSignedLE
  · norm_num
    omega
  · norm_num
    omega

theorem reads_long {x : Int} (before : Int) (lower : -2 ^ 31 ≤ x) (upper : x < 2 ^ 31) :
    Reads (readLong before) (writeLong x) x := by
  apply reads_field (length_toSignedLE 4 _)
  apply ofSignedLE_toSignedLE
  · norm_num
    omega
  · norm_num
    omega

theorem reads_octetArray (bytes : List UInt8) :
    Reads (readOctetArray bytes.length) bytes bytes := by
  have whole : Reads (readOctetArray bytes.length) (bytes ++ []) bytes :=
    Reads.bind (reads_adjust bytes) (Reads.pure bytes)
  rwa [List.append_nil] at whole

theorem CString.ofBuffer_terminated (x : CString) : CString.ofBuffer (x.chars ++ [0]) = x := by
  cases x with
  | mk chars noNul bounded =>
      have plain : ∀ c ∈ chars, decide (c ≠ 0) = true := by
        intro c member
        rw [decide_eq_true_eq]
        rintro rfl
        exact noNul member
      simp only [ofBuffer, CString.mk.injEq]
      rw [List.takeWhile_append_of_pos plain]
      have stop : List.takeWhile (fun c : UInt8 => decide (c ≠ 0)) [0] = [] := rfl
      rw [stop, List.append_nil, List.take_of_length_le (by omega)]

theorem writeString_eq (x : CString) :
    writeString x = writeULong (UInt32.ofNat (x.chars.length + 1)) ++ (x.chars ++ [0]) := by
  have bounded := x.bounded
  have len : x.chars.length % 2 ^ 32 = x.chars.length := Nat.mod_eq_of_lt (by omega)
  rw [writeString, len]
  by_cases empty : x.chars.length = 0
  · rw [List.length_eq_zero_iff] at empty
    simp [empty]
  · simp only [ne_eq, empty, not_false_eq_true, if_true]
    rw [Nat.mod_eq_of_lt bounded, List.take_of_length_le (by simp)]

theorem reads_charBuffer (x : CString) :
    Reads (readCharBuffer (x.chars.length + 1)) (x.chars ++ [0]) x := by
  have terminated : Reads (if 0 ∈ x.chars ++ [0] then Pure.pure (CString.ofBuffer (x.chars ++ [0]))
      else throw Fault.outOfBounds) [] x := by
    rw [if_pos (by simp), CString.ofBuffer_terminated]
    exact Reads.pure x
  have buffer := reads_adjust (x.chars ++ [0])
  rw [List.length_append, List.length_singleton] at buffer
  have whole : Reads (readCharBuffer (x.chars.length + 1)) (x.chars ++ [0] ++ []) x :=
    buffer.bind terminated
  rwa [List.append_nil] at whole

theorem reads_string (x : CString) : Reads readString (writeString x) x := by
  have lenBytes : ofLE (writeULong (UInt32.ofNat (x.chars.length + 1))) = x.chars.length + 1 := by
    rw [writeULong, UInt32.toNat_ofNat_of_lt' x.bounded, ofLE_toLE_of_lt x.bounded]
  have len := reads_adjust (writeULong (UInt32.ofNat (x.chars.length + 1)))
  have chars := reads_charBuffer x
  rw [← lenBytes] at chars
  rw [writeString_eq x]
  apply len.bind
  change Reads (if ofLE (writeULong (UInt32.ofNat (x.chars.length + 1))) = 0 then Pure.pure .empty
    else readCharBuffer (ofLE (writeULong (UInt32.ofNat (x.chars.length + 1))))) _ _
  rw [if_neg (by omega)]
  exact chars

end Stheno.Wire
