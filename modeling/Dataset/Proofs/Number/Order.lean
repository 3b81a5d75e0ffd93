import Dataset.Proofs.Number.Integer
import Mathlib.Order.Compare

/-!
# The order of real numbers of 64 bits

Real numbers are compared by their values, whatever their representation, with the infinities at both
ends. Integers are compared with them exactly, as the numbers that they are. So all of them stand in one
order.

* `Dyadic.cmp_toRat`, `Double.cmpSigned_toRat`: the order of finite numbers is that of their values;
* **`Double.cmp_eq`**: so is that of all numbers on one side of the infinities; hence it is total and
  transitive;
* `Double.ofInteger`, `Double.cmp_ofInteger`: integers as such numbers stand in the order of the integers.
-/

namespace Dataset.Number

/-! ## 1. Finite numbers -/

/-- The order of binary numbers is that of their values. -/
theorem Dyadic.cmp_toRat (a b : Dyadic) : a.cmp b = compare a.toRat b.toRat := by
  have grid : (0 : ℚ) < 2 ^ min a.exp b.exp := by positivity
  have scaled : StrictMono fun m : Nat => (m : ℚ) * 2 ^ min a.exp b.exp :=
    fun m n less => mul_lt_mul_of_pos_right (Nat.cast_lt.2 less) grid
  rw [cmp, ← mantAt_mul (Int.min_le_left a.exp b.exp), ← mantAt_mul (Int.min_le_right a.exp b.exp),
    ← cmp_eq_compare, ← cmp_eq_compare]
  exact (scaled.cmp_map_eq _ _).symm

theorem Dyadic.toRat_eq_zero_iff (d : Dyadic) : d.toRat = 0 ↔ d.mant = 0 := by
  have grid : (2 : ℚ) ^ d.exp ≠ 0 := zpow_ne_zero _ two_ne_zero
  rw [toRat, mul_eq_zero, or_iff_left grid, Nat.cast_eq_zero]

namespace Double

/-- The order of signed numbers is that of their values. -/
theorem cmpSigned_toRat (s : Bool) (a : Dyadic) (t : Bool) (b : Dyadic) :
    cmpSigned s a t b = compare (signed s a.toRat) (signed t b.toRat) := by
  have a₀ := a.toRat_nonneg
  have b₀ := b.toRat_nonneg
  unfold cmpSigned
  split
  · rename_i zero
    have zeros : a.mant = 0 ∧ b.mant = 0 := by simpa using zero
    rw [a.toRat_eq_zero_iff.2 zeros.1, b.toRat_eq_zero_iff.2 zeros.2]
    cases s <;> cases t <;> simp [signed]
  · rename_i given
    -- a number above zero and one that is not above zero, or the other way about
    have apart : -b.toRat < a.toRat ∧ -a.toRat < b.toRat := by
      have zeros : ¬ (a.toRat = 0 ∧ b.toRat = 0) := by
        simpa [Dyadic.toRat_eq_zero_iff] using given
      rcases a₀.lt_or_eq with a₁ | a₁
      · constructor <;> linarith
      · have b₁ : 0 < b.toRat := lt_of_le_of_ne b₀ fun b₁ => zeros ⟨a₁.symm, b₁.symm⟩
        constructor <;> linarith
    cases s <;> cases t
    · exact Dyadic.cmp_toRat a b
    · exact (compare_gt_iff_gt.2 apart.1).symm
    · exact (compare_lt_iff_lt.2 apart.2).symm
    · have mirrored : StrictAnti fun q : ℚ => -q := fun _ _ less => neg_lt_neg less
      show b.cmp a = compare (-a.toRat) (-b.toRat)
      rw [Dyadic.cmp_toRat, ← cmp_eq_compare, ← cmp_eq_compare]
      exact (mirrored.cmp_map_eq _ _).symm

/-! ## 2. All numbers -/

/-- Where a number stands to the finite ones: below, among or above them. -/
def side : Double → Int
  | finite _ _ => 0
  | infinite s => if s then -1 else 1

/-- The value of a finite number. -/
def toRat : Double → ℚ
  | finite s d => signed s d.toRat
  | infinite _ => 0

/-- **Numbers stand in the order of their values, with the infinities at both ends.** -/
theorem cmp_eq (a b : Double) : a.cmp b = (compare a.side b.side).then (compare a.toRat b.toRat) := by
  cases a with
  | finite s a =>
    cases b with
    | finite t b => exact cmpSigned_toRat s a t b
    | infinite t => cases t <;> rfl
  | infinite s =>
    cases b with
    | finite t b => cases s <;> rfl
    | infinite t => cases s <;> cases t <;> rfl

/-- The order is total and transitive. -/
instance : Std.TransCmp cmp := by
  have lex : cmp = compareLex (compareOn side) (compareOn toRat) := funext₂ cmp_eq
  rw [lex]
  infer_instance

/-! ## 3. Integers among them -/

/-- An integer as a number, which is not rounded. -/
def ofInteger (k : Int) : Double := finite (k < 0) ⟨k.natAbs, 0⟩

theorem cmpInt_eq (k : Int) (r : Double) : cmpInt k r = (ofInteger k).cmp r := rfl

theorem toRat_ofInteger (k : Int) : (ofInteger k).toRat = k := by
  have value := Numeral.toRat_ofInt k
  rwa [Numeral.ofInt, Numeral.toRat_withSign, Numeral.magnitude_ofNat, ← toRat_integer] at value

/-- Integers stand in their own order. -/
theorem cmp_ofInteger (j k : Int) : (ofInteger j).cmp (ofInteger k) = compare j k := by
  have mono : StrictMono fun n : Int => (n : ℚ) := fun _ _ less => Int.cast_lt.2 less
  rw [cmp_eq, toRat_ofInteger, toRat_ofInteger, ← cmp_eq_compare (j : ℚ), ← cmp_eq_compare j]
  exact mono.cmp_map_eq j k

end Double

end Dataset.Number
