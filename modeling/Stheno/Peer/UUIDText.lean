import Stheno.Peer.Info
import Stheno.Wire.Hexadecimal
import Stheno.Wire.Sizes

/-!
# Identifiers as text

`toString` writes the key of a UUID in upper-case digits, the constructor that takes a
string reads it back two characters at a time, and `compare` goes through the text.  The
sizes are kept in `int`s.
-/

namespace Stheno

open Hexadecimal Sizes

/-- A C string of any length. -/
structure CharString where
  chars : List UInt8
  noNul : (0 : UInt8) ∉ chars

namespace UUID

/-- What ends a function of `UUID` without a result. -/
inductive TextFailure where
  /-- The exception `INVALID_UUID`. -/
  | invalidUUID
  /-- A buffer of a negative size. -/
  | arraySize
  /-- A buffer is taken for a string before anything was written to it. -/
  | uninitialized
  deriving DecidableEq

theorem zero_not_mem_encode (bytes : List UInt8) : (0 : UInt8) ∉ encode bytes := by
  intro member
  rcases value_of_mem_encode member with ⟨n, known⟩
  have unknown : value 0 = none := by decide
  rw [known] at unknown
  cases unknown

/-- Every `sprintf` ends the text behind the pair that it writes; where the loop has no
round, nothing is written to the buffer but its last NUL. -/
def toString (this : UUID) : Except TextFailure CharString :=
  let stringSize := int (2 * this.key.length)
  let keySize := int this.key.length
  if stringSize < 0 then
    .error .arraySize
  else if keySize ≤ 0 ∧ 0 < stringSize then
    .error .uninitialized
  else
    .ok ⟨encode (this.key.take keySize.toNat), zero_not_mem_encode _⟩

def compare (this mb : UUID) : Except TextFailure Ordering := do
  let s1 ← this.toString
  let s2 ← mb.toString
  pure (strcmp s1.chars s2.chars)

/-- The loop of `parse`, with the rounds that are left, the rest of the string and the
rest of the key. -/
def parseLoop : Nat → List UInt8 → List UInt8 → Except TextFailure (List UInt8)
  | 0, _, data => .ok data
  | rounds + 1, str, data =>
      match scan str with
      | none => .error .invalidUUID
      | some num => do
          let rest ← parseLoop rounds (str.drop 2) data.tail
          pure (UInt8.ofNat num :: rest)

def parse (keyString data : List UInt8) : Except TextFailure (List UInt8) :=
  let keyStringLen := int keyString.length
  if keyStringLen = 0 ∨ keyStringLen.tmod 2 ≠ 0 then
    .error .invalidUUID
  else
    parseLoop (int data.length).toNat keyString data

/-- The constructor that takes a string; `memory` is what the allocated key holds. -/
def ofString (memory : Nat → UInt8) : Option CharString → Except TextFailure UUID
  | none => .error .invalidUUID
  | some keyString =>
      if keyString.chars.length = 0 then
        .error .invalidUUID
      else do
        let data ← parse keyString.chars ((List.range (keyString.chars.length / 2)).map memory)
        pure ⟨data⟩

/-! ## Writing -/

/-- A key that is written and read as a whole. -/
def Short (this : UUID) : Prop :=
  this.key.length < 2 ^ 30

theorem toString_of_short {this : UUID} (short : this.Short) :
    this.toString = .ok ⟨encode this.key, zero_not_mem_encode _⟩ := by
  have bound : this.key.length < 2 ^ 30 := short
  have double : int (2 * this.key.length) = 2 * this.key.length := by
    rw [int_of_lt (by omega), Nat.cast_mul, Nat.cast_ofNat]
  have single : int this.key.length = this.key.length := int_of_lt (by omega)
  simp only [toString, double, single]
  rw [if_neg (by omega), if_neg (by omega)]
  simp

/-- A long key is written in part, if it is written at all. -/
theorem length_of_toString {this : UUID} {text : CharString} (long : ¬ this.Short)
    (written : this.toString = .ok text) : text.chars.length < 2 * this.key.length := by
  have bound : ¬ this.key.length < 2 ^ 30 := long
  rw [toString] at written
  split at written
  · cases written
  · split at written
    · cases written
    · rename_i nonnegative covered
      cases written
      rw [length_encode, List.length_take]
      rw [int_eq] at nonnegative covered
      rw [int_eq] at covered ⊢
      split at nonnegative
      · split at covered <;> split <;> omega
      · omega

theorem compare_of_short {this mb : UUID} (short : this.Short) (mbShort : mb.Short) :
    this.compare mb = .ok (strcmp (encode this.key) (encode mb.key)) := by
  rw [compare, toString_of_short short, toString_of_short mbShort]
  rfl

/-! ## Reading -/

theorem isOk_parseLoop_iff (rounds : Nat) (str data : List UInt8) :
    (∃ key, parseLoop rounds str data = .ok key) ↔
      ∀ i < rounds, (scan (str.drop (2 * i))).isSome = true := by
  induction rounds generalizing str data with
  | zero => simp [parseLoop]
  | succ rounds inductionHypothesis =>
      rw [parseLoop]
      cases first : scan str with
      | none =>
          apply iff_of_false
          · rintro ⟨key, impossible⟩
            cases impossible
          · intro all
            have here := all 0 (Nat.succ_pos rounds)
            rw [Nat.mul_zero, List.drop_zero, first] at here
            cases here
      | some num =>
          have later : (∃ key, parseLoop rounds (str.drop 2) data.tail = .ok key) ↔ _ :=
            inductionHypothesis (str.drop 2) data.tail
          constructor
          · rintro ⟨key, done⟩ i within
            cases i with
            | zero => rw [Nat.mul_zero, List.drop_zero, first, Option.isSome_some]
            | succ i =>
                cases rest : parseLoop rounds (str.drop 2) data.tail with
                | error failure =>
                    rw [rest] at done
                    cases done
                | ok key =>
                    have read := later.mp ⟨key, rest⟩ i (Nat.lt_of_succ_lt_succ within)
                    rwa [List.drop_drop, show 2 + 2 * i = 2 * (i + 1) by omega] at read
          · intro all
            have rest := later.mpr fun i within => by
              rw [List.drop_drop, show 2 + 2 * i = 2 * (i + 1) by omega]
              exact all (i + 1) (Nat.succ_lt_succ within)
            rcases rest with ⟨key, done⟩
            simp only [done]
            exact ⟨_, rfl⟩

/-- The only way to fail is the exception. -/
theorem parseLoop_error {rounds : Nat} {str data : List UInt8} {failure : TextFailure}
    (failed : parseLoop rounds str data = .error failure) : failure = .invalidUUID := by
  induction rounds generalizing str data with
  | zero => cases failed
  | succ rounds inductionHypothesis =>
      rw [parseLoop] at failed
      cases first : scan str with
      | none =>
          rw [first] at failed
          cases failed
          rfl
      | some num =>
          rw [first] at failed
          cases rest : parseLoop rounds (str.drop 2) data.tail with
          | ok key =>
              rw [rest] at failed
              cases failed
          | error other =>
              rw [rest] at failed
              cases failed
              exact inductionHypothesis rest

/-- What was written is read back, whatever the memory held. -/
theorem parseLoop_encode (key data : List UInt8) (covers : data.length = key.length) :
    parseLoop key.length (encode key) data = .ok key := by
  induction key generalizing data with
  | nil =>
      rw [List.length_nil] at covers
      rw [List.eq_nil_of_length_eq_zero covers]
      rfl
  | cons byte key inductionHypothesis =>
      rw [List.length_cons, parseLoop, scan_encode_cons]
      have rest : parseLoop key.length ((encode (byte :: key)).drop 2) data.tail = .ok key := by
        apply inductionHypothesis
        rw [List.length_tail, covers, List.length_cons, Nat.add_sub_cancel]
      simp only [rest, UInt8.ofNat_toNat]
      rfl

/-- The rounds of the loop for a string of a length. -/
def rounds (length : Nat) : Nat :=
  if length / 2 % 2 ^ 32 < 2 ^ 31 then length / 2 % 2 ^ 32 else 0

theorem toNat_int (length : Nat) : (int (length / 2)).toNat = rounds length := by
  rw [int_eq, rounds]
  split
  · rfl
  · omega

/-- The test that `parse` makes before it reads. -/
theorem refused_iff (length : Nat) : (int length = 0 ∨ (int length).tmod 2 ≠ 0) ↔
    2 ^ 32 ∣ length ∨ length % 2 = 1 := by
  have parity : (int length).tmod 2 = 0 ↔ length % 2 = 0 := by
    rw [← Int.dvd_iff_tmod_eq_zero, int_eq]
    split <;> omega
  have zero : int length = 0 ↔ 2 ^ 32 ∣ length := by
    rw [int_eq]
    split <;> omega
  rw [zero, Ne, parity]
  omega

theorem isOk_ofString_iff (memory : Nat → UInt8) (keyString : CharString) :
    (∃ uuid, ofString memory (some keyString) = .ok uuid) ↔
      ¬ 2 ^ 32 ∣ keyString.chars.length ∧ keyString.chars.length % 2 = 0 ∧
        ∀ i < rounds keyString.chars.length, Readable (keyString.chars.drop (2 * i)) := by
  rw [ofString]
  by_cases empty : keyString.chars.length = 0
  · rw [if_pos empty]
    apply iff_of_false
    · rintro ⟨uuid, impossible⟩
      cases impossible
    · rintro ⟨nonzero, -, -⟩
      exact nonzero (empty ▸ Nat.dvd_zero _)
  · rw [if_neg empty, parse]
    simp only [refused_iff]
    by_cases refused : 2 ^ 32 ∣ keyString.chars.length ∨ keyString.chars.length % 2 = 1
    · rw [if_pos refused]
      apply iff_of_false
      · rintro ⟨uuid, impossible⟩
        cases impossible
      · rintro ⟨nonzero, even, -⟩
        rcases refused with multiple | odd
        · exact nonzero multiple
        · omega
    · rw [if_neg refused, List.length_map, List.length_range, toNat_int]
      simp only [← isSome_scan_iff]
      rw [← isOk_parseLoop_iff _ _ ((List.range (keyString.chars.length / 2)).map memory)]
      constructor
      · rintro ⟨uuid, done⟩
        refine ⟨fun multiple => refused (Or.inl multiple), by omega, ?_⟩
        cases loop : parseLoop (rounds keyString.chars.length) keyString.chars
            ((List.range (keyString.chars.length / 2)).map memory) with
        | ok key => exact ⟨key, rfl⟩
        | error failure =>
            rw [loop] at done
            cases done
      · rintro ⟨-, -, key, done⟩
        rw [done]
        exact ⟨_, rfl⟩

theorem ofString_error {memory : Nat → UInt8} {keyString : CharString} {failure : TextFailure}
    (failed : ofString memory (some keyString) = .error failure) : failure = .invalidUUID := by
  rw [ofString] at failed
  split at failed
  · cases failed
    rfl
  · rw [parse] at failed
    split at failed
    · cases failed
      rfl
    · cases loop : parseLoop (int ((List.range (keyString.chars.length / 2)).map memory).length).toNat
          keyString.chars ((List.range (keyString.chars.length / 2)).map memory) with
      | ok key =>
          rw [loop] at failed
          cases failed
      | error other =>
          rw [loop] at failed
          cases failed
          exact parseLoop_error loop

/-! ## The text form -/

/-- A non-empty string of an even number of hexadecimal digits. -/
structure HexText (chars : List UInt8) : Prop where
  nonempty : chars ≠ []
  even : chars.length % 2 = 0
  digits : ∀ c ∈ chars, (value c).isSome = true

/-- The text of an identifier is read back as that identifier. -/
def ComesBack (memory : Nat → UInt8) (this : UUID) : Prop :=
  ∃ text, this.toString = .ok text ∧ ofString memory (some text) = .ok this

/-- The comparison of two identifiers orders their keys as byte strings. -/
def Ordered (this mb : UUID) : Prop :=
  ∃ order, this.compare mb = .ok order ∧ (order = .lt ↔ this.key < mb.key) ∧
    (order = .eq ↔ this = mb) ∧ (order = .gt ↔ mb.key < this.key)

/-- What is owed for two identifiers and for a string. -/
structure TextForm (memory : Nat → UInt8) (this mb : UUID) (keyString : CharString) : Prop where
  comesBack : ComesBack memory this ∧ ComesBack memory mb
  injective : this.toString = mb.toString → this = mb
  ordered : this.Ordered mb
  accepts : HexText keyString.chars → ∃ uuid, ofString memory (some keyString) = .ok uuid
  refuses : ¬ HexText keyString.chars → ofString memory (some keyString) = .error .invalidUUID

/-- A string of digits has a length that does not vanish in an `int`; any other string is
odd, has a length that vanishes, or has no number at an even position. -/
structure ReadsRight (chars : List UInt8) : Prop where
  digits : HexText chars → ¬ 2 ^ 32 ∣ chars.length
  other : ¬ HexText chars → chars.length % 2 = 1 ∨ 2 ^ 32 ∣ chars.length ∨
    ∃ i < rounds chars.length, ¬ Readable (chars.drop (2 * i))

theorem length_parseLoop {rounds : Nat} {str data key : List UInt8} (covers : rounds ≤ data.length)
    (done : parseLoop rounds str data = .ok key) : key.length = data.length := by
  induction rounds generalizing str data key with
  | zero =>
      cases done
      rfl
  | succ rounds inductionHypothesis =>
      rw [parseLoop] at done
      cases first : scan str with
      | none =>
          rw [first] at done
          cases done
      | some num =>
          rw [first] at done
          cases rest : parseLoop rounds (str.drop 2) data.tail with
          | error failure =>
              rw [rest] at done
              cases done
          | ok later =>
              rw [rest] at done
              cases done
              have shorter : rounds ≤ data.tail.length := by
                rw [List.length_tail]
                omega
              have length := inductionHypothesis shorter rest
              rw [List.length_tail] at length
              rw [List.length_cons, length]
              omega

theorem rounds_le (length : Nat) : rounds length ≤ length / 2 := by
  rw [rounds]
  split <;> omega

/-- An identifier that is read has half as many bytes as the string has characters. -/
theorem length_ofString {memory : Nat → UInt8} {keyString : CharString} {uuid : UUID}
    (done : ofString memory (some keyString) = .ok uuid) :
    uuid.key.length = keyString.chars.length / 2 := by
  rw [ofString] at done
  split at done
  · cases done
  · rw [parse] at done
    split at done
    · cases done
    · cases loop : parseLoop (int ((List.range (keyString.chars.length / 2)).map memory).length).toNat
          keyString.chars ((List.range (keyString.chars.length / 2)).map memory) with
      | error failure =>
          rw [loop] at done
          cases done
      | ok key =>
          rw [loop] at done
          cases done
          rw [List.length_map, List.length_range, toNat_int] at loop
          have covers : rounds keyString.chars.length ≤
              ((List.range (keyString.chars.length / 2)).map memory).length := by
            rw [List.length_map, List.length_range]
            exact rounds_le keyString.chars.length
          rw [length_parseLoop covers loop, List.length_map, List.length_range]

theorem comesBack_of_short (memory : Nat → UInt8) {this : UUID} (nonempty : this.key ≠ [])
    (short : this.Short) : ComesBack memory this := by
  refine ⟨_, toString_of_short short, ?_⟩
  have bound : this.key.length < 2 ^ 30 := short
  have positive := List.length_pos_of_ne_nil nonempty
  have half : 2 * this.key.length / 2 = this.key.length := Nat.mul_div_cancel_left _ (by decide)
  have whole : rounds (2 * this.key.length) = this.key.length := by
    rw [rounds, half, if_pos (by omega)]
    omega
  have accepted : ¬ (int (2 * this.key.length) = 0 ∨ (int (2 * this.key.length)).tmod 2 ≠ 0) := by
    rw [refused_iff]
    omega
  rw [ofString]
  simp only [length_encode]
  rw [if_neg (by omega), parse, length_encode, if_neg accepted, List.length_map, List.length_range,
    toNat_int, whole, half, parseLoop_encode _ _ (by simp)]
  rfl

theorem comesBack_iff_short (memory : Nat → UInt8) {this : UUID} (nonempty : this.key ≠ []) :
    ComesBack memory this ↔ this.Short := by
  constructor
  · rintro ⟨text, written, read⟩
    by_contra long
    have shorter := length_of_toString long written
    have length := length_ofString read
    omega
  · exact comesBack_of_short memory nonempty

theorem ordered_of_short {this mb : UUID} (short : this.Short) (mbShort : mb.Short) :
    this.Ordered mb := by
  refine ⟨_, compare_of_short short mbShort, ?_⟩
  rcases strcmp_spec (encode this.key) (encode mb.key) with ⟨less, same, greater⟩
  rw [less, same, greater, encode_lt_encode_iff, encode_lt_encode_iff, encode_inj]
  refine ⟨Iff.rfl, ?_, Iff.rfl⟩
  constructor
  · intro keys
    exact congrArg UUID.mk keys
  · intro equal
    rw [equal]

theorem toString_injective {this mb : UUID} (short : this.Short) (mbShort : mb.Short)
    (same : this.toString = mb.toString) : this = mb := by
  rw [toString_of_short short, toString_of_short mbShort] at same
  have texts := congrArg CharString.chars (Except.ok.inj same)
  exact congrArg UUID.mk (encode_inj.mp texts)

/-- Every even position of a text of digits begins a number. -/
theorem readable_of_hexText {chars : List UInt8} (text : HexText chars) {i : Nat}
    (within : i < chars.length / 2) : Readable (chars.drop (2 * i)) := by
  rw [← isSome_scan_iff]
  match rest : chars.drop (2 * i) with
  | [] =>
      have length := congrArg List.length rest
      rw [List.length_drop, List.length_nil] at length
      omega
  | [c] =>
      have length := congrArg List.length rest
      rw [List.length_drop, List.length_singleton] at length
      have even := text.even
      omega
  | c :: d :: later =>
      have member : ∀ e ∈ c :: d :: later, e ∈ chars := by
        intro e held
        rw [← rest] at held
        exact List.mem_of_mem_drop held
      rcases Option.isSome_iff_exists.mp (text.digits c (member c (by simp))) with ⟨high, first⟩
      rcases Option.isSome_iff_exists.mp (text.digits d (member d (by simp))) with ⟨low, second⟩
      rw [scan_pair first second]
      rfl

/-- The constructor takes the digit strings and no others exactly where it reads right. -/
theorem ofString_right_iff (memory : Nat → UInt8) (keyString : CharString) :
    ((HexText keyString.chars → ∃ uuid, ofString memory (some keyString) = .ok uuid) ∧
      (¬ HexText keyString.chars → ofString memory (some keyString) = .error .invalidUUID)) ↔
        ReadsRight keyString.chars := by
  have refused : ofString memory (some keyString) = .error .invalidUUID ↔
      ¬ ∃ uuid, ofString memory (some keyString) = .ok uuid := by
    cases result : ofString memory (some keyString) with
    | ok uuid => simp
    | error failure => simp [ofString_error result]
  rw [refused, isOk_ofString_iff]
  constructor
  · rintro ⟨accepts, refuses⟩
    constructor
    · intro text
      exact (accepts text).1
    · intro other
      have wrong := refuses other
      by_contra right
      push Not at right
      exact wrong ⟨right.2.1, by omega, right.2.2⟩
  · rintro ⟨digits, other⟩
    constructor
    · intro text
      refine ⟨digits text, text.even, ?_⟩
      intro i within
      exact readable_of_hexText text (within.trans_le (rounds_le _))
    · rintro notText ⟨nonzero, even, readable⟩
      rcases other notText with odd | multiple | ⟨i, within, unreadable⟩
      · omega
      · exact nonzero multiple
      · exact unreadable (readable i within)

theorem textForm_iff (memory : Nat → UInt8) (this mb : UUID) (keyString : CharString)
    (nonempty : this.key ≠ []) (mbNonempty : mb.key ≠ []) :
    TextForm memory this mb keyString ↔
      this.key.length < 2 ^ 30 ∧ mb.key.length < 2 ^ 30 ∧ ReadsRight keyString.chars := by
  constructor
  · intro form
    refine ⟨?_, ?_, ?_⟩
    · exact (comesBack_iff_short memory nonempty).mp form.comesBack.1
    · exact (comesBack_iff_short memory mbNonempty).mp form.comesBack.2
    · exact (ofString_right_iff memory keyString).mp ⟨form.accepts, form.refuses⟩
  · rintro ⟨short, mbShort, reads⟩
    rcases (ofString_right_iff memory keyString).mpr reads with ⟨accepts, refuses⟩
    constructor
    · exact ⟨comesBack_of_short memory nonempty short, comesBack_of_short memory mbNonempty mbShort⟩
    · exact toString_injective short mbShort
    · exact ordered_of_short short mbShort
    · exact accepts
    · exact refuses

/-- Two keys of one byte and the string `AB`. -/
theorem textForm_AB : TextForm (fun _ => 0) ⟨[1]⟩ ⟨[2]⟩ ⟨[65, 66], by decide⟩ := by
  have digits : ∀ c ∈ [65, 66], (value c).isSome = true :=
    List.forall_mem_cons.mpr ⟨rfl, List.forall_mem_singleton.mpr rfl⟩
  have text : HexText [65, 66] := ⟨by decide, by decide, digits⟩
  have reads : ReadsRight [65, 66] := ⟨fun _ => by decide, fun other => absurd text other⟩
  exact (textForm_iff (fun _ => 0) ⟨[1]⟩ ⟨[2]⟩ ⟨[65, 66], by decide⟩ (by decide) (by decide)).mpr
    ⟨by decide, by decide, reads⟩

/-- The string `AG` is taken for the key `0A`. -/
theorem not_textForm_AG : ¬ TextForm (fun _ => 0) ⟨[1]⟩ ⟨[2]⟩ ⟨[65, 71], by decide⟩ := by
  intro form
  have notText : ¬ HexText [65, 71] := fun text => absurd (text.digits 71 (by simp)) (by decide)
  exact absurd (form.refuses notText) (by decide)

end UUID

end Stheno
