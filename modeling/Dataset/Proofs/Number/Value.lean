import Dataset.Proofs.Number.Scaling

/-!
# The real number that a text writes

The digits that were kept of a number are scaled and rounded to 64 bits. What comes out is nearest to
a number that is all but the one that the digits write.

* `RoundsTo`: a real number of 64 bits is what a number is rounded to;
* `absorb_spec`, `release_spec`: moving factors of ten changes nothing;
* `AllBut`: a number is all but another, which goes on with a little loss (`AllBut.trans`);
* **`Scan.value_spec`**: the value of a scanned number;
* `gap_le`, **`isNearest_of_close`**: a decimal number of few digits keeps clear of the middles between
  two numbers of 64 bits;
* **`Scan.value_of_thousandths`**, `Scan.value_of_integer`: for numbers of a few digits it is nearest to
  the number itself.
-/

namespace Dataset.Number

/-! ## 1. Rounding to 64 bits -/

namespace Double

/-- The value of the largest finite number is short of a power of two by one unit in the last place. -/
theorem toRat_largest : largest.toRat = (2 ^ 53 - 1) * 2 ^ (971 : Int) := by
  simp only [largest, Dyadic.toRat]
  norm_num

/-- A real number of 64 bits, with its sign, is what the magnitude of a number is rounded to. -/
inductive RoundsTo (negative : Bool) (x : ℚ) : Double → Prop
  | zero (small : x ≤ 2 ^ leastExp / 2) : RoundsTo negative x (.finite negative ⟨0, 0⟩)
  | finite {d : Dyadic} (near : IsNearest bits leastExp x d) (bounded : d.toRat ≤ largest.toRat) :
      RoundsTo negative x (.finite negative d)
  | infinite (large : largest.toRat < x) : RoundsTo negative x (.infinite negative)

/-- A number that is nearest to one up to the largest finite number is not above that. -/
theorem largest_lt_of_near {x : ℚ} {d : Dyadic} (h : IsNearest bits leastExp x d)
    (above : largest.toRat < d.toRat) : largest.toRat < x := by
  have mant : (d.mant : ℚ) ≤ 2 ^ 53 - 1 := by
    have : ((d.mant + 1 : ℕ) : ℚ) ≤ (2 ^ 53 : ℕ) := by exact_mod_cast h.mant_lt
    push_cast at this
    linarith
  have step : (0 : ℚ) < 2 ^ d.exp := by positivity
  have high : (2 : ℚ) ^ (972 : Int) ≤ 2 ^ d.exp := by
    refine zpow_le_zpow_right₀ (by norm_num) (not_lt.1 fun low => absurd above (not_lt.2 ?_))
    rw [toRat_largest, Dyadic.toRat]
    exact mul_le_mul mant (zpow_le_zpow_right₀ (by norm_num) (by omega)) step.le (by norm_num)
  have fine : leastExp < d.exp := by
    have : (972 : Int) ≤ d.exp := (zpow_le_zpow_iff_right₀ (by norm_num)).1 high
    exact lt_of_lt_of_le (by decide) this
  have full : (2 : ℚ) ^ 52 ≤ d.mant := by exact_mod_cast h.normal fine
  have two : (2 : ℚ) ^ (972 : Int) = 2 ^ (971 : Int) * 2 := by
    rw [show (972 : Int) = 971 + 1 from rfl, zpow_add_one₀ (by norm_num)]
  have pos : (0 : ℚ) < 2 ^ (971 : Int) := zpow_pos (by norm_num) _
  refine lt_of_lt_of_le ?_ h.low
  rw [toRat_largest, Dyadic.toRat]
  unfold Dyadic.below
  split_ifs with power
  · have wide := mul_le_mul_of_nonneg_right full step.le
    generalize (2 : ℚ) ^ (972 : Int) = y at *
    generalize (2 : ℚ) ^ (971 : Int) = z at *
    linarith
  · have more : (2 : ℚ) ^ 52 + 1 ≤ d.mant := by
      have : d.mant ≠ 2 ^ 52 := fun same => power ⟨same, fine⟩
      have : 2 ^ 52 + 1 ≤ d.mant := lt_of_le_of_ne (h.normal fine) (Ne.symm this)
      exact_mod_cast this
    have wide := mul_le_mul_of_nonneg_right more step.le
    generalize (2 : ℚ) ^ (972 : Int) = y at *
    generalize (2 : ℚ) ^ (971 : Int) = z at *
    linarith

/-- **A quotient is rounded to the nearest number, or to an infinity above the largest.** -/
theorem roundsTo_ofRatio (negative : Bool) (num : Nat) {den : Nat} (pos : 0 < den) :
    RoundsTo negative (num / den) (ofRatio negative num den) := by
  have zero_le : (0 : ℚ) ≤ 2 ^ leastExp / 2 := by positivity
  have zero_small : largest.lt ⟨0, 0⟩ = false := by
    rw [Bool.eq_false_iff, ne_eq, Dyadic.lt_iff, not_lt, Dyadic.toRat, Nat.cast_zero, zero_mul]
    exact Dyadic.toRat_nonneg _
  rw [ofRatio, ofMagnitude]
  rcases Nat.eq_zero_or_pos num with rfl | some_num
  · rw [nearest, if_pos rfl, zero_small]
    exact .zero (by simpa using zero_le)
  · rcases nearest_spec (by decide : 2 ≤ bits) leastExp some_num pos with ⟨zero, small⟩ | near
    · rw [zero, zero_small]
      exact .zero small
    · split_ifs with large
      · exact .infinite (largest_lt_of_near near ((Dyadic.lt_iff _ _).1 large))
      · exact .finite near (not_lt.1 fun more => large ((Dyadic.lt_iff _ _).2 more))

end Double

/-- A number of the extended format is rounded to the nearest of 64 bits. -/
theorem roundsTo_fromExtended (negative : Bool) (d : Dyadic) :
    Double.RoundsTo negative d.toRat (fromExtended negative d) := by
  unfold fromExtended
  split_ifs with large
  · exact .infinite ((Dyadic.lt_iff _ _).1 large)
  · rw [← d.ratio_div]
    exact Double.roundsTo_ofRatio negative _ d.ratio_pos

/-! ## 2. Factors of ten -/

/-- What is moved into the number is what the exponent loses, and the number keeps to 64 bits. -/
theorem absorb_spec {kept : Nat} (fits : kept < 2 ^ 64) (e : Nat) :
    (absorb kept e).1 * 10 ^ (absorb kept e).2 = kept * 10 ^ e ∧ (absorb kept e).1 < 2 ^ 64 ∧
      kept ≤ (absorb kept e).1 ∧ ((absorb kept e).2 = 0 ∨ maxKept / 10 ≤ (absorb kept e).1) := by
  induction e generalizing kept with
  | zero => exact ⟨rfl, fits, le_rfl, .inl rfl⟩
  | succ e ih =>
    rw [absorb]
    split_ifs with room
    · have bound : maxKept / 10 = 1844674407370955161 := rfl
      obtain ⟨same, fits', more, last⟩ := ih (by omega : 10 * kept < 2 ^ 64)
      exact ⟨by rw [same, Nat.pow_succ]; ring, fits', by omega, last⟩
    · exact ⟨rfl, fits, le_rfl, .inr (not_lt.1 room)⟩

/-- What is moved out of the number is what the exponent gains. -/
theorem release_spec (kept e : Nat) :
    (release kept e).1 * 10 ^ e = kept * 10 ^ (release kept e).2 ∧ (release kept e).1 ≤ kept ∧
      ((release kept e).2 = 0 ∨ (release kept e).1 % 10 ≠ 0) := by
  induction e generalizing kept with
  | zero => exact ⟨rfl, le_rfl, .inl rfl⟩
  | succ e ih =>
    rw [release]
    split_ifs with ten
    · obtain ⟨same, less, last⟩ := ih (kept / 10)
      have whole : kept / 10 * 10 = kept := by omega
      refine ⟨?_, less.trans (Nat.div_le_self _ _), last⟩
      rw [Nat.pow_succ, ← mul_assoc, same, mul_right_comm, whole]
    · exact ⟨rfl, le_rfl, .inr ten⟩

/-! ## 3. The value of a scanned number -/

/-- The number that the kept digits write, without its sign. -/
def Scan.magnitude (n : Scan) : ℚ := n.kept * 10 ^ n.scale

/-- One number is all but another: they differ by a small fraction, or both are small beyond measure,
    or both are large beyond measure. -/
def AllBut (bits : Nat) (places : Int) (x y : ℚ) : Prop :=
  |y - x| ≤ x / 2 ^ bits ∨ (0 ≤ y ∧ x ≤ 10 ^ (-places) ∧ y ≤ 10 ^ (-places)) ∨
    (10 ^ places ≤ x ∧ 10 ^ places ≤ y)

theorem AllBut.refl {bits : Nat} {places : Int} {x : ℚ} (pos : 0 ≤ x) : AllBut bits places x x :=
  .inl (by simpa using by positivity)

/-- Numbers that differ by a small fraction are at most twice as large as each other. -/
theorem twice_of_near {bits : Nat} {x y : ℚ} (near : |y - x| ≤ x / 2 ^ (bits + 2)) :
    0 ≤ x ∧ y ≤ 2 * x ∧ x ≤ 2 * y ∧ |y - x| ≤ x / 2 ^ bits / 4 := by
  have two : (1 : ℚ) ≤ 2 ^ bits := one_le_pow₀ (by norm_num)
  have four : (2 : ℚ) ^ (bits + 2) = 2 ^ bits * 4 := by
    rw [pow_add]
    norm_num
  have nonneg : 0 ≤ x := by
    by_contra negative
    have := div_neg_of_neg_of_pos (not_le.1 negative) (by positivity : (0 : ℚ) < 2 ^ (bits + 2))
    have := abs_nonneg (y - x)
    linarith
  rw [four, ← div_div] at near
  have less : x / 2 ^ bits ≤ x := div_le_self nonneg two
  obtain ⟨low, high⟩ := abs_le.1 near
  exact ⟨nonneg, by linarith, by linarith, near⟩

/-- Being all but another goes on, with a little loss. -/
theorem AllBut.trans {bits : Nat} {places : Int} (some_places : 0 ≤ places) {x y z : ℚ}
    (h : AllBut (bits + 2) (places + 1) x y) (h' : AllBut (bits + 2) (places + 1) y z) :
    AllBut bits places x z := by
  have ten : (1 : ℚ) ≤ 10 ^ places := one_le_zpow₀ (by norm_num) some_places
  have one : (10 : ℚ) ^ (-places) ≤ 1 := zpow_le_one_of_nonpos₀ (by norm_num) (by omega)
  have pos : (0 : ℚ) < 10 ^ (-places) := by positivity
  have tens : (10 : ℚ) ^ (places + 1) = 10 ^ places * 10 := zpow_add_one₀ (by norm_num) _
  have tenth : (10 : ℚ) ^ (-(places + 1)) = 10 ^ (-places) / 10 := by
    rw [neg_add, zpow_add₀ (by norm_num), zpow_neg_one, div_eq_mul_inv]
  unfold AllBut at *
  rw [tens, tenth] at h h'
  generalize (10 : ℚ) ^ places = c at *
  generalize (10 : ℚ) ^ (-places) = i at *
  rcases h with h | ⟨nonneg, small, small'⟩ | ⟨large, large'⟩ <;>
    rcases h' with h' | ⟨nonneg', tiny, tiny'⟩ | ⟨huge, huge'⟩
  · obtain ⟨nonneg, up, -, close⟩ := twice_of_near h
    obtain ⟨-, -, -, close'⟩ := twice_of_near h'
    have apart := abs_sub_le z y x
    have whole : 0 ≤ x / 2 ^ bits := by positivity
    have part : y / 2 ^ bits ≤ 2 * (x / 2 ^ bits) := by
      rw [mul_div_assoc']
      exact div_le_div_of_nonneg_right up (by positivity)
    exact .inl (by linarith)
  · obtain ⟨-, -, down, -⟩ := twice_of_near h
    exact .inr (.inl ⟨nonneg', by linarith, by linarith⟩)
  · obtain ⟨-, up, -, -⟩ := twice_of_near h
    exact .inr (.inr ⟨by linarith, by linarith⟩)
  · obtain ⟨-, up, down, -⟩ := twice_of_near h'
    exact .inr (.inl ⟨by linarith, by linarith, by linarith⟩)
  · exact .inr (.inl ⟨nonneg', by linarith, by linarith⟩)
  · linarith
  · obtain ⟨-, up, down, -⟩ := twice_of_near h'
    exact .inr (.inr ⟨by linarith, by linarith⟩)
  · linarith
  · exact .inr (.inr ⟨by linarith, by linarith⟩)

theorem toRat_integer (n : Nat) : (⟨n, 0⟩ : Dyadic).toRat = n := by simp [Dyadic.toRat]

/-- Scaling by less than the 400th power of ten moves a number by a small fraction. -/
theorem abs_scaleBy_sub_le {s : Int} (direction : s = 1 ∨ s = -1) {e : Nat} (near : e < 400)
    {n : Nat} (some_n : 0 < n) :
    |(scaleBy s ⟨n, 0⟩ e).toRat - n * 10 ^ (s * e)| ≤ n * 10 ^ (s * e) / 2 ^ 58 := by
  have one_le : (1 : ℚ) ≤ (⟨n, 0⟩ : Dyadic).toRat := by
    rw [toRat_integer]
    exact_mod_cast some_n
  have rounded := rounded_scaleBy direction near one_le
  rw [toRat_integer] at rounded
  have few : 2 * multiplications e ≤ 42 := by
    unfold multiplications
    omega
  rw [div_eq_mul_one_div]
  refine rounded.abs_sub_le (by positivity) ?_ ?_
  · refine le_trans ?_ (pow_le_pow_of_le_one extendedUnit_lt.le (by norm_num [extendedUnit]) few)
    norm_num [extendedUnit]
  · refine (pow_le_pow_right₀ (by norm_num [extendedUnit]) few).trans ?_
    norm_num [extendedUnit]

/-- Scaling up ends near the product, or far above all numbers of 64 bits, as the product does. -/
theorem allBut_scaleUp {n : Nat} (some_n : 0 < n) (e : Nat) :
    AllBut 58 370 (n * 10 ^ e) (scaleUp ⟨n, 0⟩ e).toRat := by
  rcases lt_or_ge e 400 with near | far
  · have := abs_scaleBy_sub_le (.inl rfl) near some_n
    rw [one_mul, zpow_natCast, ← scaleUp_eq] at this
    exact .inl this
  · have one_le : (1 : ℚ) ≤ n := by exact_mod_cast some_n
    refine .inr (.inr ⟨?_, le_scaleUp far (by rwa [toRat_integer])⟩)
    refine le_trans ?_ (le_mul_of_one_le_left (by positivity) one_le)
    rw [← zpow_natCast]
    exact zpow_le_zpow_right₀ (by norm_num) (by omega)

/-- Scaling down ends near the quotient, or far below all numbers of 64 bits, as the quotient does. -/
theorem allBut_scaleDown {n : Nat} (some_n : 0 < n) (fits : n < 2 ^ 64) (e : Nat) :
    AllBut 58 370 (n * 10 ^ (-(e : Int))) (scaleDown ⟨n, 0⟩ e).toRat := by
  rcases lt_or_ge e 400 with near | far
  · have := abs_scaleBy_sub_le (.inr rfl) near some_n
    rw [neg_one_mul, ← scaleDown_eq] at this
    exact .inl this
  · have bounded : (n : ℚ) ≤ 2 ^ 64 := by exact_mod_cast fits.le
    refine .inr (.inl ⟨Dyadic.toRat_nonneg _, ?_, scaleDown_le far (by rwa [toRat_integer])⟩)
    have small : (10 : ℚ) ^ (-(e : Int)) ≤ 10 ^ (-370 - 30 : Int) :=
      zpow_le_zpow_right₀ (by norm_num) (by omega)
    refine (mul_le_mul bounded small (by positivity) (by positivity)).trans ?_
    rw [zpow_sub₀ (by norm_num)]
    have : (0 : ℚ) < 10 ^ (-370 : Int) := by positivity
    rw [mul_div_left_comm]
    exact mul_le_of_le_one_right this.le (by norm_num)

/-- **The value of a scanned number is what a number is rounded to that is all but the one that its kept
    digits write.** -/
theorem Scan.value_spec (n : Scan) (fits : n.kept < 2 ^ 64) :
    ∃ y, AllBut 58 370 n.magnitude y ∧ Double.RoundsTo n.negative y n.value := by
  have whole (kept : Nat) : Double.RoundsTo n.negative kept (Double.ofRatio n.negative kept 1) := by
    simpa using Double.roundsTo_ofRatio n.negative kept (by decide : 0 < 1)
  unfold Scan.value Scan.magnitude
  split_ifs with none
  · refine ⟨0, ?_, .zero (by positivity)⟩
    rw [none, Nat.cast_zero, zero_mul]
    exact .refl le_rfl
  · have some_kept := Nat.pos_of_ne_zero none
    split
    · rename_i e scale
      obtain ⟨same, fits', more, -⟩ := absorb_spec fits e
      have moved : (n.kept * 10 ^ n.scale : ℚ) = (absorb n.kept e).1 * 10 ^ (absorb n.kept e).2 := by
        rw [scale, Int.ofNat_eq_natCast, zpow_natCast]
        exact_mod_cast same.symm
      simp only [moved]
      split_ifs with done
      · refine ⟨_, ?_, whole _⟩
        rw [done, pow_zero, mul_one]
        exact .refl (by positivity)
      · exact ⟨_, allBut_scaleUp (by omega) _, roundsTo_fromExtended _ _⟩
    · rename_i e scale
      obtain ⟨same, less, -⟩ := release_spec n.kept (e + 1)
      have moved : (n.kept * 10 ^ n.scale : ℚ) =
          (release n.kept (e + 1)).1 * 10 ^ (-((release n.kept (e + 1)).2 : Int)) := by
        rw [scale, Int.negSucc_eq, zpow_neg, zpow_neg, ← div_eq_mul_inv, ← div_eq_mul_inv,
          div_eq_div_iff (by positivity) (by positivity)]
        exact_mod_cast same.symm
      have some_left : 0 < (release n.kept (e + 1)).1 := by
        refine Nat.pos_of_ne_zero fun empty => ?_
        rw [empty, Nat.zero_mul] at same
        exact (Nat.mul_pos some_kept (Nat.pow_pos (by decide))).ne same
      simp only [moved]
      split_ifs with done
      · refine ⟨_, ?_, whole _⟩
        rw [done, Nat.cast_zero, neg_zero, zpow_zero, mul_one]
        exact .refl (by positivity)
      · exact ⟨_, allBut_scaleDown some_left (by omega) _, roundsTo_fromExtended _ _⟩

/-! ## 4. Numbers of a few digits -/

/-- A decimal number of a few places keeps clear of the odd multiples of a small power of two. -/
theorem gap_le {k j : Nat} {a : Nat} (odd : a % 2 = 1) {e : Int} (small : e + j < 0) :
    (2 : ℚ) ^ e / 5 ^ j ≤ |(k : ℚ) / 10 ^ j - a * 2 ^ e| := by
  obtain ⟨t, ht⟩ := Int.eq_ofNat_of_zero_le (by omega : 0 ≤ -(e + j) - 1)
  have step : (0 : ℚ) < 2 ^ e := by positivity
  have ten : (10 : ℚ) ^ j = 2 ^ j * 5 ^ j := by
    rw [← mul_pow]
    norm_num
  have shift : (2 : ℚ) ^ e * (2 ^ (t + 1) * 2 ^ j) = 1 := by
    rw [← zpow_natCast, ← zpow_natCast, ← zpow_add₀ (by norm_num), ← zpow_add₀ (by norm_num)]
    rw [show e + (((t + 1 : Nat) : Int) + j) = 0 by omega, zpow_zero]
  have apart : (k : ℚ) / 10 ^ j - a * 2 ^ e =
      ((k * 2 ^ (t + 1) - a * 5 ^ j : Int) : ℚ) * (2 ^ e / 5 ^ j) := by
    have clear : (k : ℚ) / 10 ^ j = k * 2 ^ (t + 1) * (2 ^ e / 5 ^ j) := by
      rw [div_eq_iff (by positivity), ten]
      calc (k : ℚ) = k * (2 ^ e * (2 ^ (t + 1) * 2 ^ j)) := by rw [shift, mul_one]
        _ = k * 2 ^ (t + 1) * (2 ^ e / 5 ^ j) * (2 ^ j * 5 ^ j) := by field_simp
    rw [clear]
    push_cast
    field_simp
  have nonzero : (k * 2 ^ (t + 1) - a * 5 ^ j : Int) ≠ 0 := by
    have odd' : (a * 5 ^ j) % 2 = 1 := by rw [Nat.mul_mod, Nat.pow_mod, odd]; simp
    have even : (k * 2 ^ (t + 1)) % 2 = 0 := by
      rw [Nat.pow_succ, ← Nat.mul_assoc]
      exact Nat.mul_mod_left _ _
    have cast : (k * 2 ^ (t + 1) - a * 5 ^ j : Int) =
        ((k * 2 ^ (t + 1) : Nat) : Int) - ((a * 5 ^ j : Nat) : Int) := by push_cast; ring
    rw [cast]
    omega
  rw [apart, abs_mul, abs_of_pos (by positivity : (0 : ℚ) < 2 ^ e / 5 ^ j)]
  refine le_mul_of_one_le_left (by positivity) ?_
  exact_mod_cast Int.one_le_abs nonzero

/-- For up to three places the distance is a fixed part of the power. -/
theorem gap_le_of_places {k j : Nat} (places : j ≤ 3) {a : Nat} (odd : a % 2 = 1) {e : Int}
    (small : e + j < 0) : (2 : ℚ) ^ e / 125 ≤ |(k : ℚ) / 10 ^ j - a * 2 ^ e| := by
  have fives : (5 : ℚ) ^ j ≤ 5 ^ 3 := pow_le_pow_right₀ (by norm_num) places
  refine le_trans ?_ (gap_le odd small)
  refine div_le_div_of_nonneg_left (by positivity) (by positivity) (fives.trans_eq ?_)
  norm_num

section Middles

variable {k j : Nat} {d : Dyadic}

/-- So it keeps clear of the middle of the step up from a number whose steps are fine enough. -/
theorem gap_above (places : j ≤ 3) (small : d.exp + j < 0) :
    d.above / 125 ≤ |(k : ℚ) / 10 ^ j - (d.toRat + d.above)| := by
  have middle := gap_le_of_places (k := k) places (a := 2 * d.mant + 1) (by omega)
    (by omega : d.exp - 1 + j < 0)
  have same : ((2 * d.mant + 1 : Nat) : ℚ) * 2 ^ (d.exp - 1) = d.toRat + d.above := by
    rw [two_zpow_sub_one, Dyadic.toRat, Dyadic.above]
    push_cast
    ring
  rwa [same, two_zpow_sub_one, ← Dyadic.above] at middle

/-- And of the middle of the step down. -/
theorem gap_below (places : j ≤ 3) (small : d.exp + j < 0) (some_mant : 0 < d.mant) :
    d.below Double.bits Double.leastExp / 125 ≤
      |(k : ℚ) / 10 ^ j - (d.toRat - d.below Double.bits Double.leastExp)| := by
  unfold Dyadic.below
  split_ifs
  · have middle := gap_le_of_places (k := k) places (a := 4 * d.mant - 1) (by omega)
      (by omega : d.exp - 2 + j < 0)
    have same : ((4 * d.mant - 1 : Nat) : ℚ) * 2 ^ (d.exp - 2) = d.toRat - 2 ^ d.exp / 4 := by
      rw [two_zpow_sub_two, Nat.cast_sub (by omega), Dyadic.toRat]
      push_cast
      ring
    rwa [same, two_zpow_sub_two] at middle
  · have middle := gap_le_of_places (k := k) places (a := 2 * d.mant - 1) (by omega)
      (by omega : d.exp - 1 + j < 0)
    have same : ((2 * d.mant - 1 : Nat) : ℚ) * 2 ^ (d.exp - 1) = d.toRat - 2 ^ d.exp / 2 := by
      rw [two_zpow_sub_one, Nat.cast_sub (by omega), Dyadic.toRat]
      push_cast
      ring
    rwa [same, two_zpow_sub_one] at middle

variable {x y : ℚ} (h : IsNearest Double.bits Double.leastExp y d)
  (close : |y - x| ≤ x * (7 / 2 ^ 64))
include h close

/-- The steps are small beside a number that is close. -/
theorem IsNearest.steps_of_close (large : 1 / 10 ^ 3 ≤ x) :
    Double.leastExp < d.exp ∧ (2 : ℚ) ^ d.exp * 2 ^ 52 ≤ 3 * x := by
  have step : (0 : ℚ) < 2 ^ d.exp := by positivity
  have mant : (d.mant : ℚ) + 1 ≤ 2 ^ 53 := by exact_mod_cast h.mant_lt
  have wide := mul_le_mul_of_nonneg_right mant step.le
  have high := h.high
  have twice := h.le_two_mul
  have near := (abs_le.1 close).2
  have near' := (abs_le.1 close).1
  simp only [Dyadic.above, Dyadic.toRat] at high twice
  have fine : Double.leastExp < d.exp := by
    refine not_le.1 fun coarse => ?_
    have tiny : (2 : ℚ) ^ d.exp ≤ 2 ^ (-80 : Int) :=
      zpow_le_zpow_right₀ (by norm_num) (coarse.trans (by decide))
    norm_num at tiny
    linarith
  have full : (2 : ℚ) ^ 52 ≤ d.mant := by exact_mod_cast h.normal fine
  have full' := mul_le_mul_of_nonneg_right full step.le
  exact ⟨fine, by linarith⟩

/-- What keeps clear of the middle above is on the same side of it as what is close to it. -/
theorem IsNearest.lt_middle_above (gap : d.above / 125 ≤ |x - (d.toRat + d.above)|) :
    x < d.toRat + d.above := by
  have step : (0 : ℚ) < 2 ^ d.exp := by positivity
  have mant : (d.mant : ℚ) + 1 ≤ 2 ^ 53 := by exact_mod_cast h.mant_lt
  have wide := mul_le_mul_of_nonneg_right mant step.le
  have high := h.high
  obtain ⟨near, near'⟩ := abs_le.1 close
  by_contra beyond
  rw [abs_of_nonneg (by linarith)] at gap
  simp only [Dyadic.above, Dyadic.toRat] at high gap beyond
  linarith

/-- The same for the middle below. -/
theorem IsNearest.middle_below_lt
    (gap : d.below Double.bits Double.leastExp / 125 ≤
      |x - (d.toRat - d.below Double.bits Double.leastExp)|) :
    d.toRat - d.below Double.bits Double.leastExp < x := by
  have step : (0 : ℚ) < 2 ^ d.exp := by positivity
  have mant : (d.mant : ℚ) + 1 ≤ 2 ^ 53 := by exact_mod_cast h.mant_lt
  have wide := mul_le_mul_of_nonneg_right mant step.le
  have low := h.low
  obtain ⟨near, near'⟩ := abs_le.1 close
  by_contra beyond
  rw [abs_of_nonpos (by linarith)] at gap
  unfold Dyadic.below at low gap beyond
  rw [Dyadic.toRat] at low gap beyond
  -- the step down from a power of two is half as wide, and the number half as large
  split_ifs at low gap beyond with power
  · have whole : (d.mant : ℚ) = 2 ^ 52 := by exact_mod_cast power.1
    rw [whole] at low gap beyond
    linarith
  · linarith

end Middles

/-- **What is nearest to a number close to a decimal number of up to three places and few digits is
    nearest to that**: no middle between two numbers of 64 bits lies in between. -/
theorem isNearest_of_close {k j : Nat} (some_k : 0 < k) (few : k < 10 ^ 15) (places : j ≤ 3) {y : ℚ}
    (close : |y - k / 10 ^ j| ≤ k / 10 ^ j * (7 / 2 ^ 64)) {d : Dyadic}
    (h : IsNearest Double.bits Double.leastExp y d) :
    IsNearest Double.bits Double.leastExp (k / 10 ^ j) d := by
  have tens : (1 : ℚ) ≤ 10 ^ j ∧ (10 : ℚ) ^ j ≤ 10 ^ 3 :=
    ⟨one_le_pow₀ (by norm_num), pow_le_pow_right₀ (by norm_num) places⟩
  have some_k' : (1 : ℚ) ≤ k := by exact_mod_cast some_k
  have few' : (k : ℚ) ≤ 10 ^ 15 := by exact_mod_cast few.le
  have not_tiny : (1 : ℚ) / 10 ^ 3 ≤ k / 10 ^ j :=
    div_le_div₀ (by positivity) some_k' (by linarith) tens.2
  obtain ⟨fine, steps⟩ := h.steps_of_close close not_tiny
  have small : d.exp + j < 0 := by
    have step : (0 : ℚ) < 2 ^ d.exp := by positivity
    have two : (2 : ℚ) ^ j ≤ 10 ^ j := pow_le_pow_left₀ (by norm_num) (by norm_num) j
    have scaled : (k : ℚ) / 10 ^ j * 10 ^ j = k := by field_simp
    have product := mul_le_mul_of_nonneg_right steps (by linarith : (0 : ℚ) ≤ 10 ^ j)
    have : (2 : ℚ) ^ (d.exp + j) < 2 ^ (0 : Int) := by
      rw [zpow_add₀ (by norm_num), zpow_natCast, zpow_zero]
      refine (mul_le_mul_of_nonneg_left two step.le).trans_lt ?_
      linarith
    exact (zpow_lt_zpow_iff_right₀ (by norm_num)).1 this
  have below_high := h.lt_middle_above close (gap_above places small)
  have above_low := h.middle_below_lt close (gap_below places small h.mant_pos)
  refine ⟨h.mant_pos, h.mant_lt, h.least_le, h.normal, above_low.le, below_high.le, ?_⟩
  rintro (tie | tie)
  · exact absurd tie above_low.ne'
  · exact absurd tie below_high.ne

/-- What is rounded is nearest, if the number is neither very small nor very large. -/
theorem Double.RoundsTo.near {negative : Bool} {x : ℚ} {r : Double} (h : RoundsTo negative x r)
    (low : 10 ^ (-5 : Int) ≤ x) (high : x ≤ 10 ^ (20 : Int)) :
    ∃ d, r = .finite negative d ∧ IsNearest bits leastExp x d := by
  cases h with
  | zero small =>
    have tiny : (2 : ℚ) ^ leastExp ≤ 2 ^ (-20 : Int) :=
      zpow_le_zpow_right₀ (by norm_num) (by decide)
    norm_num at tiny low
    linarith
  | finite near _ => exact ⟨_, rfl, near⟩
  | infinite large =>
    have huge : (2 : ℚ) ^ (70 : Int) ≤ 2 ^ (971 : Int) :=
      zpow_le_zpow_right₀ (by norm_num) (by decide)
    rw [toRat_largest] at large
    generalize (2 : ℚ) ^ (971 : Int) = y at *
    norm_num at huge high
    linarith

/-- An integer of few digits has room for all factors of ten. -/
theorem absorb_all {kept e a k : Nat} (fits : kept < 2 ^ 64) (same : kept * 10 ^ e * 10 ^ a = k)
    (small : k < 10 ^ 18) : absorb kept e = (kept * 10 ^ e, 0) := by
  obtain ⟨moved, -, -, room⟩ := absorb_spec fits e
  have ten (i : Nat) : 1 ≤ 10 ^ i := Nat.one_le_pow _ _ (by decide)
  have done : (absorb kept e).2 = 0 := by
    refine room.resolve_right fun wide => ?_
    have bound : maxKept / 10 = 1844674407370955161 := rfl
    have more := Nat.mul_le_mul (Nat.mul_le_mul wide (ten (absorb kept e).2)) (ten a)
    rw [moved, same] at more
    omega
  rw [done, Nat.pow_zero, Nat.mul_one] at moved
  exact Prod.ext moved done

/-- A number that is an integer up to `a` factors of ten has no more places than these when the others
    are out: with more, the last digit that is left would be a zero. -/
theorem release_places {kept e a k : Nat}
    (same : (release kept e).1 * 10 ^ a = k * 10 ^ (release kept e).2) :
    (release kept e).2 ≤ a ∧ k = (release kept e).1 * 10 ^ (a - (release kept e).2) := by
  obtain ⟨-, -, last⟩ := release_spec kept e
  generalize release kept e = r at *
  have places : r.2 ≤ a := by
    refine not_lt.1 fun more => ?_
    obtain ⟨i, hi⟩ := Nat.exists_eq_add_of_lt more
    have digits : r.1 * 10 ^ a = k * 10 ^ i * 10 * 10 ^ a := by
      rw [same, hi]
      ring
    have := Nat.eq_of_mul_eq_mul_right (Nat.pow_pos (by decide : 0 < 10)) digits
    omega
  refine ⟨places, ?_⟩
  refine (Nat.eq_of_mul_eq_mul_right (Nat.pow_pos (by decide : 0 < 10) : 0 < 10 ^ r.2) ?_).symm
  rw [mul_assoc, ← Nat.pow_add, Nat.sub_add_cancel places, same]

/-- A number that is an integer up to a few factors of ten is not scaled by more than these. -/
theorem Scan.value_cases (n : Scan) (fits : n.kept < 2 ^ 64) {k a : Nat}
    (same : n.magnitude * 10 ^ a = k) (some_k : 0 < k) (small : k < 10 ^ 18) :
    ∃ m e : Nat, 0 < m ∧ m ≤ k ∧ e ≤ a ∧ n.magnitude = m / 10 ^ e ∧
      n.value = if e = 0 then Double.ofRatio n.negative m 1
        else fromExtended n.negative (scaleDown ⟨m, 0⟩ e) := by
  have some_kept : n.kept ≠ 0 := fun none => by
    rw [Scan.magnitude, none, Nat.cast_zero, zero_mul, zero_mul] at same
    exact some_k.ne (by exact_mod_cast same)
  have ten (i : Nat) : 0 < 10 ^ i := Nat.pow_pos (by decide)
  unfold Scan.value
  unfold Scan.magnitude at *
  rw [if_neg some_kept]
  cases scale : n.scale with
  | ofNat e =>
    rw [scale, Int.ofNat_eq_natCast, zpow_natCast] at same
    have same' : n.kept * 10 ^ e * 10 ^ a = k := by exact_mod_cast same
    simp only [absorb_all fits same' small]
    refine ⟨n.kept * 10 ^ e, 0, Nat.mul_pos (Nat.pos_of_ne_zero some_kept) (ten e),
      same' ▸ Nat.le_mul_of_pos_right _ (ten a), Nat.zero_le _, ?_, rfl⟩
    rw [Int.ofNat_eq_natCast, zpow_natCast, pow_zero, div_one]
    push_cast
    rfl
  | negSucc e =>
    have whole : (n.kept * 10 ^ Int.negSucc e : ℚ) =
        (release n.kept (e + 1)).1 / 10 ^ (release n.kept (e + 1)).2 := by
      rw [Int.negSucc_eq, zpow_neg, ← div_eq_mul_inv, div_eq_div_iff (by positivity) (by positivity)]
      exact_mod_cast (release_spec n.kept (e + 1)).1.symm
    rw [scale, whole, div_mul_eq_mul_div, div_eq_iff (by positivity)] at same
    obtain ⟨places, split⟩ := release_places (by exact_mod_cast same)
    simp only
    generalize release n.kept (e + 1) = r at *
    refine ⟨r.1, r.2, Nat.pos_of_ne_zero fun none => ?_, ?_, places, whole, rfl⟩
    · rw [none, Nat.zero_mul] at split
      omega
    · rw [split]
      exact Nat.le_mul_of_pos_right _ (ten _)

/-- **A number of up to three places and few digits has the nearest number of 64 bits for its value.** -/
theorem Scan.value_of_thousandths (n : Scan) (fits : n.kept < 2 ^ 64) {k : Nat}
    (same : n.magnitude * 10 ^ 3 = k) (some_k : 0 < k) (few : k < 10 ^ 15) :
    ∃ d, n.value = .finite n.negative d ∧
      IsNearest Double.bits Double.leastExp n.magnitude d := by
  obtain ⟨m, e, some_m, less, places, magnitude, value⟩ := n.value_cases fits same some_k (by omega)
  have some_k' : (1 : ℚ) ≤ k := by exact_mod_cast some_k
  have few' : (k : ℚ) ≤ 10 ^ 15 := by exact_mod_cast few.le
  split_ifs at value with none
  · subst none
    rw [value]
    have rounds := Double.roundsTo_ofRatio n.negative m (by decide : 0 < 1)
    rw [Nat.cast_one, div_one] at rounds
    rw [pow_zero, div_one] at magnitude
    rw [magnitude] at same ⊢
    refine rounds.near ?_ ?_ <;> norm_num <;> linarith
  · have rounded := rounded_scaleBy (.inr rfl : (-1 : Int) = 1 ∨ (-1 : Int) = -1) (e := e) (by omega)
      (d := ⟨m, 0⟩) (by rw [toRat_integer]; exact_mod_cast some_m)
    have down : (m : ℚ) * 10 ^ (-1 * (e : Int)) = m / 10 ^ e := by
      rw [neg_one_mul, zpow_neg, zpow_natCast, div_eq_mul_inv]
    rw [toRat_integer, down] at rounded
    have pos : (0 : ℚ) ≤ m / 10 ^ e := by positivity
    have few_roundings : 2 * multiplications e ≤ 6 := by
      unfold multiplications
      omega
    have close := rounded.abs_sub_le pos (c := 7 / 2 ^ 64)
      (le_trans (by norm_num [extendedUnit])
        (pow_le_pow_of_le_one extendedUnit_lt.le (by norm_num [extendedUnit]) few_roundings))
      ((pow_le_pow_right₀ (by norm_num [extendedUnit]) few_roundings).trans (by norm_num [extendedUnit]))
    have rounds := roundsTo_fromExtended n.negative (scaleDown ⟨m, 0⟩ e)
    rw [← magnitude] at close pos
    rw [← scaleDown_eq] at close
    obtain ⟨low, high⟩ := abs_le.1 close
    obtain ⟨d, finite, near⟩ := rounds.near (by norm_num; linarith) (by norm_num; linarith)
    rw [magnitude] at close ⊢
    exact ⟨d, value.trans finite, isNearest_of_close some_m (by omega) places close near⟩

/-- **A number that is an integer has itself for its value, up to 53 bits.** -/
theorem Scan.value_of_integer (n : Scan) (fits : n.kept < 2 ^ 64) {k : Nat} (same : n.magnitude = k)
    (some_k : 0 < k) (few : k < 2 ^ 53) :
    ∃ d, n.value = .finite n.negative d ∧ d.toRat = k := by
  obtain ⟨m, e, -, -, none, magnitude, value⟩ :=
    n.value_cases fits (a := 0) (by rw [pow_zero, mul_one, same]) some_k (by omega)
  obtain rfl := Nat.le_zero.1 none
  rw [pow_zero, div_one, same] at magnitude
  obtain rfl : k = m := by exact_mod_cast magnitude
  rw [if_pos rfl] at value
  have rounds := Double.roundsTo_ofRatio n.negative k (by decide : 0 < 1)
  rw [Nat.cast_one, div_one] at rounds
  have some_k' : (1 : ℚ) ≤ k := by exact_mod_cast some_k
  have few' : (k : ℚ) ≤ 2 ^ 53 := by exact_mod_cast few.le
  obtain ⟨d, finite, near⟩ := rounds.near (by norm_num; linarith) (by norm_num; linarith)
  exact ⟨d, value.trans finite, near.eq_of_integer (by decide) few (by decide)⟩

end Dataset.Number
