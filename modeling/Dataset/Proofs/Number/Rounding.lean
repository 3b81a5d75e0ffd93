import Dataset.Number.Dyadic
import Mathlib.Algebra.Order.Field.Power
import Mathlib.Data.Rat.Cast.Order
import Mathlib.Tactic.FieldSimp
import Mathlib.Tactic.Linarith
import Mathlib.Tactic.Positivity
import Mathlib.Tactic.Ring

/-!
# What rounding does to a number

Numbers are taken as rational numbers here.

* `Dyadic.toRat`: the value of a binary number; the order and the quotient of it are those of the
  value (`Dyadic.lt_iff`, `Dyadic.ratio_div`);
* `NearestOnGrid`: an integer is nearest to a number (`nearestOnGrid_nearestNat`);
* `binaryExponent_spec`: the power of two below a quotient;
* `IsNearest`: a binary number of limited precision is nearest to a number;
* **`nearest_spec`**: `nearest` gives such a number, or zero for a number that is too small;
* `IsNearest.abs_sub_le_of_large`: so it changes a number that is not too small by a fraction of it only.
-/

namespace Dataset.Number

/-! ## 1. Values -/

/-- The number as a rational number. -/
def Dyadic.toRat (d : Dyadic) : ℚ := d.mant * 2 ^ d.exp

theorem two_zpow_sub_one (e : Int) : (2 : ℚ) ^ (e - 1) = 2 ^ e / 2 := by
  rw [zpow_sub_one₀ (by norm_num), div_eq_mul_inv]

theorem two_zpow_sub_two (e : Int) : (2 : ℚ) ^ (e - 2) = 2 ^ e / 4 := by
  rw [zpow_sub₀ (by norm_num)]
  norm_num

theorem Dyadic.toRat_nonneg (d : Dyadic) : 0 ≤ d.toRat := by
  unfold toRat
  positivity

/-- A power with an integer as exponent is a quotient of powers, one of which is 1. -/
theorem pow_toNat_div_pow_toNat (b : ℚ) (e : Int) :
    b ^ e.toNat / b ^ (-e).toNat = b ^ e := by
  rcases Int.le_total 0 e with up | down
  · obtain ⟨n, rfl⟩ := Int.eq_ofNat_of_zero_le up
    simp
  · obtain ⟨n, hn⟩ := Int.eq_ofNat_of_zero_le (Int.neg_nonneg_of_nonpos down)
    obtain rfl : e = -n := by omega
    simp

theorem Dyadic.ratio_pos (d : Dyadic) : 0 < d.ratio.2 := Nat.pow_pos (by decide)

/-- The quotient of a binary number is its value. -/
theorem Dyadic.ratio_div (d : Dyadic) : (d.ratio.1 : ℚ) / d.ratio.2 = d.toRat := by
  simp only [ratio, Nat.pow_eq, Nat.cast_mul, Nat.cast_pow, Nat.cast_ofNat]
  rw [mul_div_assoc, pow_toNat_div_pow_toNat, toRat]

theorem Dyadic.mantAt_mul {d : Dyadic} {e : Int} (fine : e ≤ d.exp) :
    (d.mantAt e : ℚ) * 2 ^ e = d.toRat := by
  have steps : ((d.exp - e).toNat : Int) = d.exp - e := Int.toNat_of_nonneg (by omega)
  have scaled : (2 : ℚ) ^ (d.exp - e).toNat = 2 ^ (d.exp - e) := by
    rw [← zpow_natCast, steps]
  rw [mantAt, Nat.pow_eq, Nat.cast_mul, Nat.cast_pow, Nat.cast_ofNat, scaled, mul_assoc,
    ← zpow_add₀ (by norm_num), Int.sub_add_cancel, toRat]

/-- The order of binary numbers is that of their values. -/
theorem Dyadic.lt_iff (a b : Dyadic) : a.lt b = true ↔ a.toRat < b.toRat := by
  have grid : (0 : ℚ) < 2 ^ min a.exp b.exp := by positivity
  rw [lt, beq_iff_eq, cmp, compare_lt_iff_lt, ← mantAt_mul (Int.min_le_left a.exp b.exp),
    ← mantAt_mul (Int.min_le_right a.exp b.exp), mul_lt_mul_iff_left₀ grid, Nat.cast_lt]

/-! ## 2. The nearest integer -/

/-- The nearest integer in whole numbers: at most half a denominator away, and even if it is that far
    away. -/
theorem nearestNat_spec (num : Nat) {den : Nat} (pos : 0 < den) :
    2 * num ≤ (2 * nearestNat num den + 1) * den ∧
      2 * nearestNat num den * den ≤ 2 * num + den ∧
      (2 * num = (2 * nearestNat num den + 1) * den ∨
          2 * nearestNat num den * den = 2 * num + den →
        nearestNat num den % 2 = 0) := by
  have whole := Nat.div_add_mod num den
  have rest := Nat.mod_lt num pos
  unfold nearestNat
  generalize num / den = q at *
  generalize num % den = r at *
  simp only
  subst whole
  split_ifs with low high
  · have same : 2 * q * den = 2 * (den * q) := by ring
    have more : (2 * q + 1) * den = 2 * (den * q) + den := by ring
    rw [same, more]
    omega
  · have same : 2 * (q + 1) * den = 2 * (den * q) + 2 * den := by ring
    have more : (2 * (q + 1) + 1) * den = 2 * (den * q) + 3 * den := by ring
    rw [same, more]
    omega
  · -- the quotient lies in the middle, and of its neighbours the even one is taken
    have even : (q + q % 2) % 2 = 0 := by omega
    rcases Nat.mod_two_eq_zero_or_one q with two | two
    · have same : 2 * (q + 0) * den = 2 * (den * q) := by ring
      have more : (2 * (q + 0) + 1) * den = 2 * (den * q) + den := by ring
      rw [two] at even ⊢
      rw [same, more]
      omega
    · have same : 2 * (q + 1) * den = 2 * (den * q) + 2 * den := by ring
      have more : (2 * (q + 1) + 1) * den = 2 * (den * q) + 3 * den := by ring
      rw [two] at even ⊢
      rw [same, more]
      omega

/-- A number of the grid of the integers is nearest to a number: at most one half away, and even if it
    is that far away. -/
structure NearestOnGrid (x : ℚ) (m : Nat) : Prop where
  low : (m : ℚ) - 1 / 2 ≤ x
  high : x ≤ m + 1 / 2
  even : x = m - 1 / 2 ∨ x = m + 1 / 2 → m % 2 = 0

/-- **The nearest integer is nearest to the quotient.** -/
theorem nearestOnGrid_nearestNat (num : Nat) {den : Nat} (pos : 0 < den) :
    NearestOnGrid (num / den) (nearestNat num den) := by
  obtain ⟨high, low, even⟩ := nearestNat_spec num pos
  have den_pos : (0 : ℚ) < den := by exact_mod_cast pos
  generalize nearestNat num den = m at *
  have low' : (2 * m * den : ℚ) ≤ 2 * num + den := by exact_mod_cast low
  have high' : (2 * num : ℚ) ≤ (2 * m + 1) * den := by exact_mod_cast high
  refine ⟨?_, ?_, fun tie => even ?_⟩
  · rw [le_div_iff₀ den_pos]
    linarith
  · rw [div_le_iff₀ den_pos]
    linarith
  · refine tie.symm.imp (fun up => ?_) (fun down => ?_)
    · rw [div_eq_iff den_pos.ne'] at up
      have : (2 * num : ℚ) = (2 * m + 1) * den := by linarith
      exact_mod_cast this
    · rw [div_eq_iff den_pos.ne'] at down
      have : (2 * m * den : ℚ) = 2 * num + den := by linarith
      exact_mod_cast this

/-! ## 3. Powers of two -/

theorem lt_scaled_iff (num : Nat) {den : Nat} (pos : 0 < den) (k : Int) :
    num * Nat.pow 2 (-k).toNat < den * Nat.pow 2 k.toNat ↔ (num : ℚ) / den < 2 ^ k := by
  have den_pos : (0 : ℚ) < den := by exact_mod_cast pos
  have down : (0 : ℚ) < 2 ^ (-k).toNat := by positivity
  rw [div_lt_iff₀ den_pos, ← pow_toNat_div_pow_toNat 2 k, div_mul_eq_mul_div, lt_div_iff₀ down,
    mul_comm ((2 : ℚ) ^ k.toNat)]
  simp only [Nat.pow_eq]
  exact_mod_cast Iff.rfl

/-- **The binary exponent of a quotient is that of the power of two below it.** -/
theorem binaryExponent_spec {num den : Nat} (some_num : 0 < num) (pos : 0 < den) :
    (2 : ℚ) ^ binaryExponent num den ≤ num / den ∧
      (num : ℚ) / den < 2 ^ (binaryExponent num den + 1) := by
  have den_pos : (0 : ℚ) < den := by exact_mod_cast pos
  have numLow : (2 : ℚ) ^ num.log2 ≤ num := by exact_mod_cast Nat.log2_self_le some_num.ne'
  have numHigh : (num : ℚ) < 2 ^ (num.log2 + 1) := by exact_mod_cast Nat.lt_log2_self
  have denLow : (2 : ℚ) ^ den.log2 ≤ den := by exact_mod_cast Nat.log2_self_le pos.ne'
  have denHigh : (den : ℚ) < 2 ^ (den.log2 + 1) := by exact_mod_cast Nat.lt_log2_self
  have split (a b : Nat) : (2 : ℚ) ^ (Int.ofNat a - Int.ofNat b) = 2 ^ a / 2 ^ b := by
    rw [zpow_sub₀ (by norm_num)]
    simp
  have above : (num : ℚ) / den < 2 ^ (Int.ofNat num.log2 - Int.ofNat den.log2 + 1) := by
    rw [zpow_add_one₀ (by norm_num), split, div_mul_eq_mul_div, ← pow_succ,
      div_lt_div_iff₀ den_pos (by positivity)]
    exact mul_lt_mul numHigh denLow (by positivity) (by positivity)
  have below : (2 : ℚ) ^ (Int.ofNat num.log2 - Int.ofNat den.log2 - 1) ≤ num / den := by
    rw [zpow_sub_one₀ (by norm_num), split, ← div_eq_mul_inv, div_div, ← pow_succ,
      div_le_div_iff₀ (by positivity) den_pos]
    exact mul_le_mul numLow denHigh.le (by positivity) (by positivity)
  unfold binaryExponent
  simp only [lt_scaled_iff num pos]
  split_ifs with small
  · exact ⟨below, by rw [Int.sub_add_cancel]; exact small⟩
  · exact ⟨not_lt.1 small, above⟩

/-! ## 4. The nearest number of limited precision -/

/-- Half the step from a number down to the next one, which is half as wide at a power of two. -/
def Dyadic.below (bits : Nat) (least : Int) (d : Dyadic) : ℚ :=
  if d.mant = 2 ^ (bits - 1) ∧ least < d.exp then 2 ^ d.exp / 4 else 2 ^ d.exp / 2

/-- Half the step from a number up to the next one. -/
def Dyadic.above (d : Dyadic) : ℚ := 2 ^ d.exp / 2

/-- A binary number of at most `bits` bits, and no more than its exponent makes necessary, is nearest to
    a number; if it is not the only one, it is even. -/
structure IsNearest (bits : Nat) (least : Int) (x : ℚ) (d : Dyadic) : Prop where
  mant_pos : 0 < d.mant
  mant_lt : d.mant < 2 ^ bits
  least_le : least ≤ d.exp
  normal : least < d.exp → 2 ^ (bits - 1) ≤ d.mant
  low : d.toRat - d.below bits least ≤ x
  high : x ≤ d.toRat + d.above
  even : x = d.toRat - d.below bits least ∨ x = d.toRat + d.above → d.mant % 2 = 0

variable {bits : Nat} {least : Int} {x : ℚ} {d : Dyadic}

/-- An integer that is nearest on a grid of the right width, and has not too many bits. -/
theorem NearestOnGrid.isNearest {m : Nat} {e : Int} (h : NearestOnGrid (x / 2 ^ e) m)
    (some_mant : m ≠ 0) (fits : m < 2 ^ bits) (least_le : least ≤ e)
    (normal : least < e → (2 : ℚ) ^ (bits - 1) ≤ x / 2 ^ e) : IsNearest bits least x ⟨m, e⟩ := by
  have step : (0 : ℚ) < 2 ^ e := by positivity
  have back : x = x / 2 ^ e * 2 ^ e := by field_simp
  generalize x / 2 ^ e = y at *
  subst back
  have full (fine : least < e) : 2 ^ (bits - 1) ≤ m := by
    have := normal fine
    have := h.high
    have : (2 : ℚ) ^ (bits - 1) < m + 1 := by linarith
    exact Nat.lt_succ_iff.1 (by exact_mod_cast this)
  have up : (⟨m, e⟩ : Dyadic).toRat + (⟨m, e⟩ : Dyadic).above = (m + 1 / 2) * 2 ^ e := by
    simp only [Dyadic.toRat, Dyadic.above]
    ring
  refine ⟨Nat.pos_of_ne_zero some_mant, fits, least_le, full, ?_, ?_, ?_⟩
  · -- at a power of two the number itself is not below it
    unfold Dyadic.below
    split_ifs with power
    · have whole : (m : ℚ) = 2 ^ (bits - 1) := by exact_mod_cast power.1
      have := mul_le_mul_of_nonneg_right (whole.trans_le (normal power.2)) step.le
      simp only [Dyadic.toRat]
      linarith
    · have := mul_le_mul_of_nonneg_right h.low step.le
      simp only [Dyadic.toRat]
      linarith
  · rw [up]
    exact mul_le_mul_of_nonneg_right h.high step.le
  · rw [up]
    unfold Dyadic.below
    split_ifs with power
    · have whole : (m : ℚ) = 2 ^ (bits - 1) := by exact_mod_cast power.1
      have inside := mul_le_mul_of_nonneg_right (whole.trans_le (normal power.2)) step.le
      rintro (tie | tie)
      · simp only [Dyadic.toRat] at tie
        linarith
      · exact h.even (.inr (mul_right_cancel₀ step.ne' tie))
    · have down : (⟨m, e⟩ : Dyadic).toRat - 2 ^ e / 2 = (m - 1 / 2) * 2 ^ e := by
        simp only [Dyadic.toRat]
        ring
      rw [down]
      exact fun tie => h.even (tie.imp (mul_right_cancel₀ step.ne') (mul_right_cancel₀ step.ne'))

/-- An integer with one bit too many, nearest to a number below it, makes room for another exponent. -/
theorem NearestOnGrid.isNearest_succ {e : Int} (some_bits : 2 ≤ bits)
    (h : NearestOnGrid (x / 2 ^ e) (2 ^ bits)) (small : x / 2 ^ e < 2 ^ bits) (least_le : least ≤ e) :
    IsNearest bits least x ⟨2 ^ (bits - 1), e + 1⟩ := by
  have step : (0 : ℚ) < 2 ^ e := by positivity
  have back : x = x / 2 ^ e * 2 ^ e := by field_simp
  have double : (2 : ℚ) ^ (e + 1) = 2 * 2 ^ e := by
    rw [zpow_add_one₀ (by norm_num)]
    ring
  generalize x / 2 ^ e = y at *
  subst back
  obtain ⟨b, rfl⟩ : ∃ b, bits = b + 2 := ⟨bits - 2, by omega⟩
  have whole : (2 : ℚ) ^ (b + 2) = 2 * 2 ^ (b + 1) := by ring
  have even : 2 ^ (b + 1) % 2 = 0 := by
    rw [Nat.pow_succ]
    omega
  have low := mul_le_mul_of_nonneg_right h.low step.le
  have high := mul_lt_mul_of_pos_right small step
  push_cast at low
  rw [whole] at low high
  have value : (⟨2 ^ (b + 1), e + 1⟩ : Dyadic).toRat = 2 * 2 ^ (b + 1) * 2 ^ e := by
    simp only [Dyadic.toRat, double, Nat.cast_pow, Nat.cast_ofNat]
    ring
  have near : (⟨2 ^ (b + 1), e + 1⟩ : Dyadic).below (b + 2) least = 2 ^ e / 2 := by
    rw [Dyadic.below, if_pos ⟨rfl, by simp only; omega⟩, double]
    ring
  show IsNearest (b + 2) least _ ⟨2 ^ (b + 1), e + 1⟩
  refine ⟨by positivity, Nat.pow_lt_pow_right (by decide) (by omega), by simp only; omega,
    fun _ => le_rfl, ?_, ?_, fun _ => even⟩
  · rw [near, value]
    linarith
  · have : 0 ≤ (⟨2 ^ (b + 1), e + 1⟩ : Dyadic).above := by
      unfold Dyadic.above
      positivity
    rw [value]
    linarith

/-- **A number is rounded to one that is nearest to it, or to zero if it is at most half as large as the
    smallest one.** -/
theorem nearest_spec (some_bits : 2 ≤ bits) (least : Int) {num den : Nat} (some_num : 0 < num)
    (pos : 0 < den) :
    (nearest bits least num den = ⟨0, 0⟩ ∧ (num : ℚ) / den ≤ 2 ^ least / 2) ∨
      IsNearest bits least (num / den) (nearest bits least num den) := by
  obtain ⟨low, high⟩ := binaryExponent_spec some_num pos
  rw [nearest, if_neg some_num.ne']
  simp only
  generalize binaryExponent num den = k at *
  generalize he : max least (k - (Int.ofNat bits - 1)) = e
  have least_le : least ≤ e := he ▸ Int.le_max_left _ _
  have wide : k - (Int.ofNat bits - 1) ≤ e := he ▸ Int.le_max_right _ _
  have step : (0 : ℚ) < 2 ^ e := by positivity
  have grid := nearestOnGrid_nearestNat (num * Nat.pow 2 (-e).toNat)
    (Nat.mul_pos pos (Nat.pow_pos (by decide)) : 0 < den * Nat.pow 2 e.toNat)
  have scaled : ((num * Nat.pow 2 (-e).toNat : Nat) : ℚ) / (den * Nat.pow 2 e.toNat : Nat) =
      num / den / 2 ^ e := by
    rw [← pow_toNat_div_pow_toNat 2 e]
    simp only [Nat.pow_eq, Nat.cast_mul, Nat.cast_pow, Nat.cast_ofNat]
    field_simp
  rw [scaled] at grid
  generalize nearestNat (num * Nat.pow 2 (-e).toNat) (den * Nat.pow 2 e.toNat) = m at *
  generalize (num : ℚ) / den = x at *
  have small : x / 2 ^ e < 2 ^ bits := by
    rw [div_lt_iff₀ step, ← zpow_natCast, ← zpow_add₀ (by norm_num)]
    refine high.trans_le (zpow_le_zpow_right₀ (by norm_num) ?_)
    rw [Int.ofNat_eq_natCast] at wide
    omega
  have normal (fine : least < e) : (2 : ℚ) ^ (bits - 1) ≤ x / 2 ^ e := by
    rw [le_div_iff₀ step, ← zpow_natCast, ← zpow_add₀ (by norm_num)]
    refine le_trans (zpow_le_zpow_right₀ (by norm_num) ?_) low
    rw [Int.ofNat_eq_natCast] at he
    omega
  have bounded : m ≤ 2 ^ bits := by
    have := grid.low
    have : (m : ℚ) < 2 ^ bits + 1 := by linarith
    exact Nat.lt_succ_iff.1 (by exact_mod_cast this)
  split_ifs with none full
  · subst none
    have half := grid.high
    have coarse : e = least := by
      by_contra finer
      have := normal (lt_of_le_of_ne least_le (Ne.symm finer))
      have : (1 : ℚ) ≤ 2 ^ (bits - 1) := one_le_pow₀ (by norm_num)
      rw [Nat.cast_zero] at half
      linarith
    subst coarse
    refine .inl ⟨rfl, ?_⟩
    rw [div_le_iff₀ step, Nat.cast_zero] at half
    linarith
  · subst full
    exact .inr (grid.isNearest_succ some_bits small least_le)
  · exact .inr (grid.isNearest none (lt_of_le_of_ne bounded full) least_le normal)

/-! ## 5. How far rounding goes -/

namespace IsNearest

theorem mant_one_le (h : IsNearest bits least x d) : (1 : ℚ) ≤ d.mant := by
  exact_mod_cast h.mant_pos

theorem toRat_pos (h : IsNearest bits least x d) : 0 < d.toRat :=
  mul_pos (zero_lt_one.trans_le h.mant_one_le) (by positivity)

theorem step_le (h : IsNearest bits least x d) : (2 : ℚ) ^ d.exp ≤ d.toRat :=
  le_mul_of_one_le_left (by positivity) h.mant_one_le

theorem below_le (bits : Nat) (least : Int) (d : Dyadic) : d.below bits least ≤ 2 ^ d.exp / 2 := by
  have step : (0 : ℚ) < 2 ^ d.exp := by positivity
  unfold Dyadic.below
  split_ifs <;> linarith

theorem below_pos (bits : Nat) (least : Int) (d : Dyadic) : 0 < d.below bits least := by
  unfold Dyadic.below
  split_ifs <;> positivity

/-- A nearest number is at most half a step away. -/
theorem abs_sub_le_step (h : IsNearest bits least x d) : |d.toRat - x| ≤ 2 ^ d.exp / 2 := by
  have low := h.low
  have high := h.high
  have below := below_le bits least d
  rw [Dyadic.above] at high
  rw [abs_le]
  constructor <;> linarith

/-- No number is more than doubled. -/
theorem le_two_mul (h : IsNearest bits least x d) : d.toRat ≤ 2 * x := by
  have low := h.low
  have below := below_le bits least d
  have step := h.step_le
  linarith

/-- No number that does not become zero is more than halved. -/
theorem half_le (h : IsNearest bits least x d) : x / 2 ≤ d.toRat := by
  have high := h.high
  have step := h.step_le
  have pos := h.toRat_pos
  rw [Dyadic.above] at high
  linarith

/-- With more than the least exponent, a nearest number is away by a fraction of the number. -/
theorem abs_sub_le_of_fine (h : IsNearest bits least x d) (some_bits : 2 ≤ bits)
    (fine : least < d.exp) : |d.toRat - x| ≤ x / 2 ^ bits := by
  have step : (0 : ℚ) < 2 ^ d.exp := by positivity
  have two : (2 : ℚ) ^ bits = 2 * 2 ^ (bits - 1) := by
    rw [← pow_succ', Nat.sub_add_cancel (by omega)]
  have one : (1 : ℚ) ≤ 2 ^ (bits - 1) := one_le_pow₀ (by norm_num)
  have full := h.normal fine
  have near := h.abs_sub_le_step
  rw [le_div_iff₀ (by positivity), two]
  rcases le_or_gt ((2 : ℚ) ^ (bits - 1) * 2 ^ d.exp) x with inside | outside
  · have := mul_le_mul_of_nonneg_right near (by positivity : (0 : ℚ) ≤ 2 * 2 ^ (bits - 1))
    linarith
  · -- the number lies below a power of two, where steps are half as wide
    have power : d.mant = 2 ^ (bits - 1) := by
      refine le_antisymm (not_lt.1 fun more => ?_) full
      have more' : (2 : ℚ) ^ (bits - 1) + 1 ≤ d.mant := by exact_mod_cast more
      have wide := mul_le_mul_of_nonneg_right more' step.le
      have low := (abs_le.1 near).2
      rw [Dyadic.toRat] at low
      linarith
    have low := h.low
    rw [Dyadic.below, if_pos ⟨power, fine⟩, Dyadic.toRat, power, Nat.cast_pow, Nat.cast_ofNat] at low
    have quarter : |d.toRat - x| ≤ 2 ^ d.exp / 4 := by
      rw [Dyadic.toRat, power, Nat.cast_pow, Nat.cast_ofNat, abs_of_nonneg (by linarith)]
      linarith
    have := mul_le_mul_of_nonneg_right quarter (by positivity : (0 : ℚ) ≤ 2 * 2 ^ (bits - 1))
    have := mul_le_mul_of_nonneg_right one step.le
    linarith

/-- A nearest number is away by a fraction of a number that is not too small. -/
theorem abs_sub_le_of_large (h : IsNearest bits least x d) (some_bits : 2 ≤ bits)
    (large : (2 : ℚ) ^ (bits - 1) * 2 ^ least ≤ x) : |d.toRat - x| ≤ x / 2 ^ bits := by
  rcases lt_or_eq_of_le h.least_le with fine | coarse
  · exact h.abs_sub_le_of_fine some_bits fine
  · have near := h.abs_sub_le_step
    have two : (2 : ℚ) ^ bits = 2 * 2 ^ (bits - 1) := by
      rw [← pow_succ', Nat.sub_add_cancel (by omega)]
    rw [← coarse] at near
    refine near.trans ?_
    rw [div_le_div_iff₀ (by norm_num) (by positivity), two]
    linarith

/-- An integer that has not too many bits is nearest to itself only. -/
theorem eq_of_integer {n : Nat} (h : IsNearest bits least n d) (some_bits : 2 ≤ bits)
    (fits : n < 2 ^ bits) (least_le : least ≤ 0) : d.toRat = n := by
  have near := h.abs_sub_le_step
  rcases le_or_gt d.exp 0 with down | up
  · -- on the grid of the number the integer is an integer
    obtain ⟨k, hk⟩ := Int.eq_ofNat_of_zero_le (Int.neg_nonneg_of_nonpos down)
    have inverse : (2 : ℚ) ^ d.exp * 2 ^ k = 1 := by
      rw [← zpow_natCast, ← zpow_add₀ (by norm_num), ← hk, Int.add_right_neg, zpow_zero]
    have scaled : |(d.mant : ℚ) - n * 2 ^ k| ≤ 1 / 2 := by
      have pos : (0 : ℚ) < 2 ^ k := by positivity
      have grid : (d.mant : ℚ) - n * 2 ^ k = (d.toRat - n) * 2 ^ k := by
        rw [sub_mul, Dyadic.toRat, mul_assoc, inverse, mul_one]
      rw [grid, abs_mul, abs_of_pos pos]
      refine (mul_le_mul_of_nonneg_right near pos.le).trans_eq ?_
      rw [div_mul_eq_mul_div, inverse]
    have same : d.mant = n * 2 ^ k := by
      obtain ⟨low, high⟩ := abs_le.1 scaled
      have low' : ((2 * (n * 2 ^ k) : ℕ) : ℚ) ≤ (2 * d.mant + 1 : ℕ) := by
        push_cast
        linarith
      have high' : ((2 * d.mant : ℕ) : ℚ) ≤ (2 * (n * 2 ^ k) + 1 : ℕ) := by
        push_cast
        linarith
      have := Nat.cast_le.1 low'
      have := Nat.cast_le.1 high'
      omega
    rw [Dyadic.toRat, same, Nat.cast_mul, Nat.cast_pow, Nat.cast_ofNat, mul_assoc,
      mul_comm ((2 : ℚ) ^ k), inverse, mul_one]
  · -- with a larger exponent the number would be larger than all integers of so many bits
    exfalso
    have fine : least < d.exp := lt_of_le_of_lt least_le up
    have full : (2 : ℚ) ^ (bits - 1) ≤ d.mant := by exact_mod_cast h.normal fine
    have two : (2 : ℚ) ^ (bits - 1) * 2 = 2 ^ bits := by
      rw [← pow_succ, Nat.sub_add_cancel (by omega)]
    have step : (2 : ℚ) ≤ 2 ^ d.exp := by
      simpa using zpow_le_zpow_right₀ (by norm_num : (1 : ℚ) ≤ 2) up
    have large : (2 : ℚ) ^ bits ≤ d.toRat :=
      two ▸ mul_le_mul full step (by norm_num) (by positivity)
    have integer : (n : ℚ) + 1 ≤ 2 ^ bits := by exact_mod_cast fits
    have close := h.abs_sub_le_of_fine some_bits fine
    have small : (n : ℚ) / 2 ^ bits < 1 := by
      rw [div_lt_one (by positivity)]
      linarith
    have := (abs_le.1 close).2
    linarith

end IsNearest

end Dataset.Number
