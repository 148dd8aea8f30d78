import Stheno.Superpeer.Packets

/-!
# Times on the wire

An integer of eight bytes is written and read through a 32-bit pointer, so of its octets
only the low four count.  A time is two of these.
-/

namespace Stheno.Wire

open Superpeer.Packets (bytes)

/-- The number that the low half of eight octets holds. -/
def ofLow8 (octets : List UInt8) : Nat :=
  ofLE (octets.take 4)

def readLongLong (x : Int) : Reader Int :=
  readField 8 (fun octets => (ofLow8 octets : Int)) x

def readULongLong (x : UInt64) : Reader UInt64 :=
  readField 8 (fun octets => UInt64.ofNat (ofLow8 octets)) x

theorem ofLow8_low8 (x : Nat) : ofLow8 (ByteOutputStream.low8 x) = x % 2 ^ 32 := by
  have width : 256 ^ 4 = 2 ^ 32 := by
    decide
  rw [ofLow8, ByteOutputStream.low8, List.take_left' (length_toLE 4 x), ofLE_toLE, width]

theorem length_low8 (x : Nat) : (ByteOutputStream.low8 x).length = 8 := by
  rw [ByteOutputStream.low8, List.length_append, length_toLE]
  rfl

theorem reads_longLong (x before : Int) :
    Reads (readLongLong before) (ByteOutputStream.low8 (x % 2 ^ 64).toNat) (x % 2 ^ 32) := by
  apply reads_field (length_low8 _)
  rw [ofLow8_low8]
  omega

theorem reads_uLongLong (x before : UInt64) :
    Reads (readULongLong before) (ByteOutputStream.low8 x.toNat)
      (UInt64.ofNat (x.toNat % 2 ^ 32)) := by
  apply reads_field (length_low8 _)
  rw [ofLow8_low8]

/-- An `ACE_Time_Value`. -/
structure TimeValue where
  sec : Int
  usec : Int
  deriving DecidableEq

namespace TimeValue

/-- `ACE_ONE_SECOND_IN_USECS`. -/
def oneSecondInUsecs : Int := 1000000

/-- Whole seconds go over from the microseconds. -/
def carry (this : TimeValue) : TimeValue :=
  if oneSecondInUsecs ≤ this.usec ∨ this.usec ≤ -oneSecondInUsecs then
    { sec := this.sec + this.usec.tdiv oneSecondInUsecs
      usec := this.usec.tmod oneSecondInUsecs }
  else
    this

/-- Seconds and microseconds of one sign. -/
def normalize (this : TimeValue) : TimeValue :=
  let carried := this.carry
  if 1 ≤ carried.sec ∧ carried.usec < 0 then
    { sec := carried.sec - 1, usec := carried.usec + oneSecondInUsecs }
  else if carried.sec < 0 ∧ 0 < carried.usec then
    { sec := carried.sec + 1, usec := carried.usec - oneSecondInUsecs }
  else
    carried

def set (sec usec : Int) : TimeValue :=
  (TimeValue.mk sec usec).normalize

/-- A number of microseconds as an unsigned one. -/
def unsigned (usec : Int) : UInt64 :=
  UInt64.ofNat (usec % 2 ^ 64).toNat

/-- An unsigned number as a number of microseconds. -/
def signed (usecs : UInt64) : Int :=
  Int.bmod usecs.toNat (2 ^ 64)

def fields (this : TimeValue) : List Field :=
  [.longLong this.sec, .uLongLong (unsigned this.usec)]

def deserialize : Reader TimeValue := do
  let secs ← readLongLong 0
  let usecs ← readULongLong 0
  pure (set secs (signed usecs))

/-- The time that is made of the low halves. -/
def copy (this : TimeValue) : TimeValue :=
  set (this.sec % 2 ^ 32) (this.usec % 2 ^ 32)

theorem toNat_unsigned (usec : Int) : (unsigned usec).toNat = (usec % 2 ^ 64).toNat := by
  apply UInt64.toNat_ofNat_of_lt'
  change (usec % 2 ^ 64).toNat < 2 ^ 64
  omega

/-- A number of 32 bits has no sign. -/
theorem signed_ofNat {n : Nat} (low : n < 2 ^ 32) : signed (UInt64.ofNat n) = n := by
  have bound : n < UInt64.size := Nat.lt_trans low (by decide)
  have value : (UInt64.ofNat n).toNat = n := UInt64.toNat_ofNat_of_lt' bound
  have small : Int.bmod n (2 ^ 64) = n := by
    apply Int.bmod_eq_of_le_mul_two
    · omega
    · omega
  exact (congrArg (fun k : Nat => Int.bmod k (2 ^ 64)) value).trans small

theorem signed_low (usec : Int) :
    signed (UInt64.ofNat ((unsigned usec).toNat % 2 ^ 32)) = usec % 2 ^ 32 := by
  rw [signed_ofNat (Nat.mod_lt _ (by decide)), toNat_unsigned]
  omega

theorem reads (this : TimeValue) : Reads deserialize (bytes this.fields) this.copy := by
  have encoded : bytes this.fields = ByteOutputStream.low8 (this.sec % 2 ^ 64).toNat ++
      ByteOutputStream.low8 (unsigned this.usec).toNat := by
    rw [fields, bytes, List.flatMap_cons, List.flatMap_singleton]
    rfl
  have last := (reads_uLongLong (unsigned this.usec) 0).bind_pure fun usecs =>
    set (this.sec % 2 ^ 32) (signed usecs)
  rw [signed_low] at last
  rw [encoded]
  exact (reads_longLong this.sec 0).bind last

/-- The low halves are not negative, so that only whole seconds go over. -/
theorem copy_eq (this : TimeValue) : this.copy =
    { sec := this.sec % 2 ^ 32 + this.usec % 2 ^ 32 / oneSecondInUsecs
      usec := this.usec % 2 ^ 32 % oneSecondInUsecs } := by
  have carried : (TimeValue.mk (this.sec % 2 ^ 32) (this.usec % 2 ^ 32)).carry =
      { sec := this.sec % 2 ^ 32 + this.usec % 2 ^ 32 / oneSecondInUsecs
        usec := this.usec % 2 ^ 32 % oneSecondInUsecs } := by
    have nonneg : 0 ≤ this.usec % 2 ^ 32 := by
      omega
    rw [carry]
    by_cases large : oneSecondInUsecs ≤ this.usec % 2 ^ 32
    · rw [if_pos (Or.inl large), Int.tdiv_eq_ediv_of_nonneg nonneg, Int.tmod_eq_emod_of_nonneg nonneg]
    · have below : this.usec % 2 ^ 32 < oneSecondInUsecs := Int.lt_of_not_ge large
      have small : ¬(oneSecondInUsecs ≤ this.usec % 2 ^ 32 ∨
          this.usec % 2 ^ 32 ≤ -oneSecondInUsecs) := by
        simp only [oneSecondInUsecs] at below ⊢
        omega
      rw [if_neg small, Int.ediv_eq_zero_of_lt nonneg below, Int.add_zero,
        Int.emod_eq_of_lt nonneg below]
  have positive : 0 < oneSecondInUsecs := by
    decide
  have usec : 0 ≤ this.usec % 2 ^ 32 % oneSecondInUsecs := Int.emod_nonneg _ positive.ne'
  have sec : 0 ≤ this.sec % 2 ^ 32 + this.usec % 2 ^ 32 / oneSecondInUsecs := by
    apply Int.add_nonneg
    · omega
    · exact Int.ediv_nonneg (by omega) positive.le
  simp only [copy, set, normalize, carried]
  rw [if_neg fun behind => absurd behind.2 (Int.not_lt.mpr usec),
    if_neg fun behind => absurd behind.1 (Int.not_lt.mpr sec)]

/-- A time arrives as it was sent exactly between 1970 and 2106. -/
theorem copy_eq_self_iff (this : TimeValue) : this.copy = this ↔
    0 ≤ this.sec ∧ this.sec < 2 ^ 32 ∧ 0 ≤ this.usec ∧ this.usec < oneSecondInUsecs := by
  rcases this with ⟨sec, usec⟩
  simp only [copy_eq, mk.injEq, oneSecondInUsecs]
  omega

end TimeValue

end Stheno.Wire
