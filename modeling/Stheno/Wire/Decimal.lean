import Mathlib.Data.List.TakeWhile
import Mathlib.Data.Nat.Digits.Defs
import Stheno.Wire.Hexadecimal

/-!
# Decimal text

Numbers as strings of decimal digits, and what a stream reads of a text into an unsigned
integer of 32 bits.
-/

namespace Stheno.Decimal

def isDigit (c : UInt8) : Bool :=
  48 ≤ c.toNat ∧ c.toNat ≤ 57

/-- The number that digits stand for, the first of which is the highest. -/
def value (digits : List UInt8) : Nat :=
  Nat.ofDigits 10 (digits.reverse.map fun c => c.toNat - 48)

def write (n : Nat) : List UInt8 :=
  if n = 0 then [48] else (Nat.digits 10 n).reverse.map fun d => UInt8.ofNat (48 + d)

theorem toNat_digit {d : Nat} (small : d < 10) : (UInt8.ofNat (48 + d)).toNat = 48 + d :=
  UInt8.toNat_ofNat_of_lt' (by
    change 48 + d < 256
    omega)

theorem value_write (n : Nat) : value (write n) = n := by
  rw [write]
  split
  · rename_i zero
    rw [zero]
    rfl
  · have digits : (Nat.digits 10 n).map (fun d => (UInt8.ofNat (48 + d)).toNat - 48) =
        Nat.digits 10 n := by
      conv_rhs => rw [← List.map_id (Nat.digits 10 n)]
      apply List.map_congr_left
      intro d member
      rw [toNat_digit (Nat.digits_lt_base (by decide) member), Nat.add_sub_cancel_left, id]
    rw [value, List.map_reverse, List.map_reverse, List.map_reverse, List.reverse_reverse,
      List.map_map, Function.comp_def, digits, Nat.ofDigits_digits]

theorem write_ne_nil (n : Nat) : write n ≠ [] := by
  rw [write]
  split
  · exact List.cons_ne_nil _ _
  · rename_i nonzero
    simp [Nat.digits_ne_nil_iff_ne_zero.mpr nonzero]

theorem isDigit_of_mem_write {n : Nat} {c : UInt8} (member : c ∈ write n) : isDigit c = true := by
  rw [write] at member
  split at member
  · rw [List.mem_singleton.mp member]
    rfl
  · rcases List.mem_map.mp member with ⟨d, digit, rfl⟩
    have small := Nat.digits_lt_base (by decide) (List.mem_reverse.mp digit)
    rw [isDigit, toNat_digit small]
    exact decide_eq_true ⟨by omega, by omega⟩

/-- What `>>` leaves in an unsigned variable that is 0: white space is skipped, a sign
negates modulo `2 ^ 32`, and a number that is too large becomes the largest. -/
def readUInt (text : List UInt8) : UInt32 :=
  match text.dropWhile Hexadecimal.isspace with
  | [] => 0
  | c :: rest =>
      let digits := (if Hexadecimal.isSign c then rest else c :: rest).takeWhile isDigit
      if digits = [] then
        0
      else if 2 ^ 32 ≤ value digits then
        UInt32.ofNat (2 ^ 32 - 1)
      else if c.toNat = 45 then
        0 - UInt32.ofNat (value digits)
      else
        UInt32.ofNat (value digits)

theorem toNat_of_isDigit {c : UInt8} (digit : isDigit c = true) : 48 ≤ c.toNat ∧ c.toNat ≤ 57 :=
  of_decide_eq_true digit

theorem readUInt_digits {digits : List UInt8} (nonempty : digits ≠ [])
    (all : ∀ c ∈ digits, isDigit c = true) (small : value digits < 2 ^ 32) :
    readUInt digits = UInt32.ofNat (value digits) := by
  cases digits with
  | nil => exact absurd rfl nonempty
  | cons c rest =>
      have code := toNat_of_isDigit (all c List.mem_cons_self)
      have noSpace : Hexadecimal.isspace c = false := decide_eq_false (by omega)
      have noSign : Hexadecimal.isSign c = false := decide_eq_false (by omega)
      have kept : (c :: rest).dropWhile Hexadecimal.isspace = c :: rest := by
        rw [List.dropWhile_cons_of_neg]
        rw [noSpace]
        exact Bool.false_ne_true
      have whole : (c :: rest).takeWhile isDigit = c :: rest := List.takeWhile_eq_self_iff.mpr all
      rw [readUInt, kept]
      simp only [noSign, Bool.false_eq_true, if_false, whole]
      rw [if_neg (List.cons_ne_nil c rest), if_neg (by omega), if_neg (by omega)]

end Stheno.Decimal
