import Mathlib.Algebra.Group.Nat.Defs
import Mathlib.Data.List.Basic
import Mathlib.Data.Option.Basic

/-!
# Hexadecimal text

Bytes as pairs of upper-case digits, which keep their order, and what `sscanf` reads of a
text with the format `%02X`.
-/

namespace Stheno.Hexadecimal

/-! ## Digits -/

/-- The upper-case digit of a number below 16. -/
def digit (n : Nat) : UInt8 :=
  UInt8.ofNat (if n < 10 then 48 + n else 55 + n)

/-- The number that a digit of either case stands for. -/
def value (c : UInt8) : Option Nat :=
  if 48 ≤ c.toNat ∧ c.toNat ≤ 57 then
    some (c.toNat - 48)
  else if 65 ≤ c.toNat ∧ c.toNat ≤ 70 then
    some (c.toNat - 55)
  else if 97 ≤ c.toNat ∧ c.toNat ≤ 102 then
    some (c.toNat - 87)
  else
    none

/-- `isspace` in the C locale. -/
def isspace (c : UInt8) : Bool :=
  c.toNat = 32 ∨ 9 ≤ c.toNat ∧ c.toNat ≤ 13

def isSign (c : UInt8) : Bool :=
  c.toNat = 43 ∨ c.toNat = 45

theorem value_digit {n : Nat} (small : n < 16) : value (digit n) = some n := by
  have all : ∀ n < 16, value (digit n) = some n := by decide
  exact all n small

theorem digit_lt_digit_iff {m n : Nat} (smallM : m < 16) (smallN : n < 16) :
    digit m < digit n ↔ m < n := by
  have all : ∀ m < 16, ∀ n < 16, digit m < digit n ↔ m < n := by decide
  exact all m smallM n smallN

theorem digit_inj {m n : Nat} (smallM : m < 16) (smallN : n < 16) :
    digit m = digit n ↔ m = n := by
  constructor
  · intro same
    have values := congrArg value same
    rw [value_digit smallM, value_digit smallN] at values
    exact Option.some.inj values
  · intro same
    rw [same]

theorem isspace_of_value {c : UInt8} {n : Nat} (known : value c = some n) : isspace c = false := by
  have apart : ¬ (c.toNat = 32 ∨ 9 ≤ c.toNat ∧ c.toNat ≤ 13) := by
    intro blank
    have unknown : value c = none := by
      rw [value, if_neg (by omega), if_neg (by omega), if_neg (by omega)]
    rw [known] at unknown
    cases unknown
  exact decide_eq_false apart

/-! ## Bytes as pairs of digits -/

/-- What `sprintf` writes of a byte with the format `%02X`. -/
def pair (byte : UInt8) : List UInt8 :=
  [digit (byte.toNat / 16), digit (byte.toNat % 16)]

def encode (bytes : List UInt8) : List UInt8 :=
  bytes.flatMap pair

@[simp]
theorem encode_cons (byte : UInt8) (bytes : List UInt8) :
    encode (byte :: bytes) = digit (byte.toNat / 16) :: digit (byte.toNat % 16) :: encode bytes :=
  rfl

theorem length_encode (bytes : List UInt8) : (encode bytes).length = 2 * bytes.length := by
  induction bytes with
  | nil => rfl
  | cons byte bytes inductionHypothesis =>
      rw [encode_cons, List.length_cons, List.length_cons, inductionHypothesis, List.length_cons]
      omega

theorem high_lt (byte : UInt8) : byte.toNat / 16 < 16 := by
  have bound := byte.toNat_lt
  omega

theorem low_lt (byte : UInt8) : byte.toNat % 16 < 16 :=
  Nat.mod_lt _ (by decide)

/-- Texts of digits are ordered as the bytes that they stand for. -/
theorem encode_lt_encode_iff (first second : List UInt8) :
    encode first < encode second ↔ first < second := by
  induction first generalizing second with
  | nil =>
      cases second with
      | nil => simp [encode]
      | cons byte second => simp [encode, pair]
  | cons byte first inductionHypothesis =>
      cases second with
      | nil => simp [encode]
      | cons other second =>
          rw [encode_cons, encode_cons, List.cons_lt_cons_iff, List.cons_lt_cons_iff,
            List.cons_lt_cons_iff, inductionHypothesis, digit_lt_digit_iff (high_lt _) (high_lt _),
            digit_lt_digit_iff (low_lt _) (low_lt _), digit_inj (high_lt _) (high_lt _),
            digit_inj (low_lt _) (low_lt _), UInt8.lt_iff_toNat_lt, ← UInt8.toNat_inj]
          constructor
          · rintro (high | ⟨high, low | ⟨low, rest⟩⟩)
            · exact Or.inl (by omega)
            · exact Or.inl (by omega)
            · exact Or.inr ⟨by omega, rest⟩
          · rintro (less | ⟨same, rest⟩)
            · by_cases high : byte.toNat / 16 < other.toNat / 16
              · exact Or.inl high
              · exact Or.inr ⟨by omega, Or.inl (by omega)⟩
            · exact Or.inr ⟨by omega, Or.inr ⟨by omega, rest⟩⟩

theorem encode_inj {first second : List UInt8} : encode first = encode second ↔ first = second := by
  constructor
  · intro same
    have notLess : ¬ first < second := by
      rw [← encode_lt_encode_iff, same]
      exact List.lt_irrefl _
    have notGreater : ¬ second < first := by
      rw [← encode_lt_encode_iff, same]
      exact List.lt_irrefl _
    exact List.le_antisymm notGreater notLess
  · intro same
    rw [same]

theorem value_of_mem_encode {bytes : List UInt8} {c : UInt8} (member : c ∈ encode bytes) :
    ∃ n, value c = some n := by
  rcases List.mem_flatMap.mp member with ⟨byte, -, written⟩
  rcases List.mem_cons.mp written with rfl | last
  · exact ⟨_, value_digit (high_lt byte)⟩
  · rw [List.mem_singleton.mp last]
    exact ⟨_, value_digit (low_lt byte)⟩

/-! ## Reading two characters -/

/-- What `sscanf` reads with the format `%02X`: white space does not count for the width;
two characters hold one or two digits, or a sign and a digit; a prefix `0x`, which fills the
width, is read as its `0`. -/
def scan (text : List UInt8) : Option Nat :=
  match text.dropWhile isspace with
  | [] => none
  | [c] => value c
  | c :: d :: _ =>
      match value c, value d with
      | some high, some low => some (16 * high + low)
      | some high, none => some high
      | none, some low =>
          if c.toNat = 43 then
            some low
          else if c.toNat = 45 then
            some ((2 ^ 32 - low) % 2 ^ 32)
          else
            none
      | none, none => none

/-- Two characters from which a number can be read: a digit, or a sign with a digit behind it. -/
def Begins : List UInt8 → Prop
  | [] => False
  | [c] => (value c).isSome
  | c :: d :: _ => (value c).isSome ∨ isSign c ∧ (value d).isSome

/-- A number stands at the start of a text, behind white space. -/
def Readable (text : List UInt8) : Prop :=
  Begins (text.dropWhile isspace)

theorem isSome_scan_iff (text : List UInt8) : (scan text).isSome = true ↔ Readable text := by
  rw [scan, Readable]
  match text.dropWhile isspace with
  | [] => simp [Begins]
  | [c] => simp [Begins]
  | c :: d :: _ =>
      rw [Begins]
      cases first : value c with
      | some high =>
          cases second : value d with
          | some low => simp [first, second]
          | none => simp [first, second]
      | none =>
          cases second : value d with
          | none => simp [first, second]
          | some low =>
              by_cases plus : c.toNat = 43
              · simp [first, second, isSign, plus]
              · by_cases minus : c.toNat = 45
                · simp [first, second, isSign, minus]
                · simp [first, second, isSign, plus, minus]

/-- Two digits are read as they stand. -/
theorem scan_pair {c d : UInt8} {high low : Nat} (first : value c = some high)
    (second : value d = some low) (rest : List UInt8) :
    scan (c :: d :: rest) = some (16 * high + low) := by
  have kept : (c :: d :: rest).dropWhile isspace = c :: d :: rest := by
    rw [List.dropWhile_cons_of_neg]
    rw [isspace_of_value first]
    exact Bool.false_ne_true
  rw [scan, kept]
  simp only [first, second]

theorem scan_encode_cons (byte : UInt8) (bytes : List UInt8) :
    scan (encode (byte :: bytes)) = some byte.toNat := by
  rw [encode_cons, scan_pair (value_digit (high_lt byte)) (value_digit (low_lt byte))]
  congr 1
  omega

/-! ## Comparing texts -/

/-- The sign of what `strcmp` answers. -/
def strcmp : List UInt8 → List UInt8 → Ordering
  | [], [] => .eq
  | [], _ :: _ => .lt
  | _ :: _, [] => .gt
  | c :: first, d :: second =>
      if c < d then .lt else if d < c then .gt else strcmp first second

theorem strcmp_spec (first second : List UInt8) :
    (strcmp first second = .lt ↔ first < second) ∧ (strcmp first second = .eq ↔ first = second) ∧
      (strcmp first second = .gt ↔ second < first) := by
  induction first generalizing second with
  | nil =>
      cases second with
      | nil => simp [strcmp]
      | cons d second => simp [strcmp]
  | cons c first inductionHypothesis =>
      cases second with
      | nil => simp [strcmp]
      | cons d second =>
          rw [strcmp, List.cons_lt_cons_iff, List.cons_lt_cons_iff, List.cons.injEq]
          by_cases less : c < d
          · have differ : c ≠ d := UInt8.ne_of_lt less
            have notLess : ¬ d < c := UInt8.lt_asymm less
            simp [less, differ, differ.symm, notLess]
          · by_cases greater : d < c
            · have differ : c ≠ d := (UInt8.ne_of_lt greater).symm
              simp [less, greater, differ, differ.symm]
            · have same : c = d := UInt8.le_antisymm (UInt8.not_lt.mp greater) (UInt8.not_lt.mp less)
              subst same
              simpa [less] using inductionHypothesis second

end Stheno.Hexadecimal
