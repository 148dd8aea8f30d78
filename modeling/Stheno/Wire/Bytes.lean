import Mathlib.Data.Int.Basic
import Mathlib.Tactic.Ring

/-!
# Little-endian byte strings

Fixed-width little-endian encodings of natural numbers and, through the balanced
remainder, of signed integers.
-/

namespace Stheno.Wire

/-- The `width` low bytes of `n`, least significant first. -/
def toLE : Nat → Nat → List UInt8
  | 0, _ => []
  | width + 1, n => UInt8.ofNat n :: toLE width (n / 256)

/-- The number written by a little-endian byte string. -/
def ofLE : List UInt8 → Nat
  | [] => 0
  | byte :: bytes => byte.toNat + 256 * ofLE bytes

@[simp]
theorem length_toLE (width n : Nat) : (toLE width n).length = width := by
  induction width generalizing n with
  | zero => rfl
  | succ width ih => simp [toLE, ih]

/-- Reading back keeps the bits that fit the width. -/
theorem ofLE_toLE (width n : Nat) : ofLE (toLE width n) = n % 256 ^ width := by
  induction width generalizing n with
  | zero => simp [toLE, ofLE, Nat.mod_one]
  | succ width ih =>
      have lowByte : (UInt8.ofNat n).toNat = n % 256 := UInt8.toNat_ofNat'
      rw [toLE, ofLE, ih, lowByte, Nat.pow_succ, Nat.mul_comm (256 ^ width) 256, Nat.mod_mul]

theorem ofLE_toLE_of_lt {width n : Nat} (bound : n < 256 ^ width) :
    ofLE (toLE width n) = n := by
  rw [ofLE_toLE, Nat.mod_eq_of_lt bound]

/-- The two's complement pattern of `x` at a width in bytes. -/
def toSignedLE (width : Nat) (x : Int) : List UInt8 :=
  toLE width (x % (256 ^ width : Nat)).toNat

/-- The signed number with a given two's complement pattern. -/
def ofSignedLE (bytes : List UInt8) : Int :=
  Int.bmod (ofLE bytes) (256 ^ bytes.length)

@[simp]
theorem length_toSignedLE (width : Nat) (x : Int) : (toSignedLE width x).length = width :=
  length_toLE _ _

/-- A signed number that the width can hold is read back. -/
theorem ofSignedLE_toSignedLE {width : Nat} {x : Int}
    (lower : -(256 ^ width : Nat) ≤ 2 * x) (upper : 2 * x < (256 ^ width : Nat)) :
    ofSignedLE (toSignedLE width x) = x := by
  have positive : 0 < 256 ^ width := Nat.pow_pos (by decide)
  have nonneg : 0 ≤ x % (256 ^ width : Nat) := Int.emod_nonneg _ (by omega)
  have below : x % (256 ^ width : Nat) < (256 ^ width : Nat) := Int.emod_lt_of_pos _ (by omega)
  have pattern : ofLE (toSignedLE width x) = (x % (256 ^ width : Nat)).toNat :=
    ofLE_toLE_of_lt (by omega)
  rw [ofSignedLE, pattern, length_toSignedLE, Int.toNat_of_nonneg nonneg, Int.emod_bmod]
  apply Int.bmod_eq_of_le_mul_two
  · omega
  · omega

end Stheno.Wire
