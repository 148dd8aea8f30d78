import Mathlib.Algebra.Group.Int.Defs
import Mathlib.Algebra.Group.Nat.Defs

/-!
# Sizes and ints

The conversions between `size_t`, of 64 bits, and `int`, of 32.
-/

namespace Stheno.Sizes

/-- A size that is assigned to an `int`. -/
def int (size : Nat) : Int :=
  (Int32.ofNat size).toInt

/-- An `int` that is taken for a size. -/
def size (n : Int) : Nat :=
  (n % 2 ^ 64).toNat

theorem int_eq (size : Nat) : int size =
    if size % 2 ^ 32 < 2 ^ 31 then (size : Int) % 2 ^ 32 else (size : Int) % 2 ^ 32 - 2 ^ 32 := by
  rw [int, Int32.toInt_ofNat', Int.bmod_def]
  simp only [Int32.size]
  split
  · rw [if_pos (by omega)]
    omega
  · rw [if_neg (by omega)]
    omega

theorem int_of_lt {size : Nat} (small : size < 2 ^ 31) : int size = size := by
  rw [int_eq, if_pos (by omega)]
  omega

theorem size_natCast {n : Nat} (small : n < 2 ^ 64) : size n = n := by
  rw [size]
  omega

end Stheno.Sizes
