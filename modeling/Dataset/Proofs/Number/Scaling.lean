import Dataset.Number.Literal
import Dataset.Proofs.Number.Rounding
import Mathlib.Tactic.NormNum.Pow

/-!
# Scaling by powers of ten

A number is scaled by a few multiplications, each of them rounded, with powers of ten that are rounded
themselves. As long as the power of ten is not out of all proportion this moves the number by no more
than these roundings do.

* `Rounded`: what a number may have become by some roundings to the extended format;
* `rounded_mulRepeatedly`: repeated multiplication, by induction on the number of times;
* **`rounded_scaleBy`**: scaling by less than the 400th power of ten;
* `scaleDown_le`, `le_scaleUp`: scaling by more.
-/

namespace Dataset.Number

/-! ## 1. Roundings to the extended format -/

/-- The largest fraction of a number by which it is moved when it is rounded to the extended format. -/
def extendedUnit : ℚ := 1 / 2 ^ 64

/-- What a number may have become by `n` roundings to the extended format. -/
def Rounded (n : Nat) (x y : ℚ) : Prop :=
  x * (1 - extendedUnit) ^ n ≤ y ∧ y ≤ x * (1 + extendedUnit) ^ n

theorem extendedUnit_lt : 0 < 1 - extendedUnit := by norm_num [extendedUnit]

theorem extendedUnit_pos : 0 < 1 + extendedUnit := by norm_num [extendedUnit]

namespace Rounded

variable {m n : Nat} {x y z a b : ℚ}

theorem refl (x : ℚ) : Rounded 0 x x := by simp [Rounded]

theorem trans (h : Rounded m x y) (h' : Rounded n y z) : Rounded (m + n) x z := by
  have low := mul_le_mul_of_nonneg_right h.1 (pow_nonneg extendedUnit_lt.le n)
  have high := mul_le_mul_of_nonneg_right h.2 (pow_nonneg extendedUnit_pos.le n)
  rw [mul_assoc, ← pow_add] at low high
  exact ⟨low.trans h'.1, h'.2.trans high⟩

theorem nonneg (h : Rounded n x y) (pos : 0 ≤ x) : 0 ≤ y :=
  (mul_nonneg pos (pow_nonneg extendedUnit_lt.le n)).trans h.1

/-- The roundings of two factors count together. -/
theorem mul (h : Rounded m x y) (h' : Rounded n a b) (pos : 0 ≤ x) (pos' : 0 ≤ a) :
    Rounded (m + n) (x * a) (y * b) := by
  have down : 0 ≤ a * (1 - extendedUnit) ^ n := mul_nonneg pos' (pow_nonneg extendedUnit_lt.le n)
  constructor
  · calc x * a * (1 - extendedUnit) ^ (m + n)
        = x * (1 - extendedUnit) ^ m * (a * (1 - extendedUnit) ^ n) := by ring
      _ ≤ y * b := mul_le_mul h.1 h'.1 down (h.nonneg pos)
  · calc y * b ≤ x * (1 + extendedUnit) ^ m * (a * (1 + extendedUnit) ^ n) :=
        mul_le_mul h.2 h'.2 (h'.nonneg pos') (mul_nonneg pos (pow_nonneg extendedUnit_pos.le m))
      _ = x * a * (1 + extendedUnit) ^ (m + n) := by ring

/-- A hundred roundings do not halve a number. -/
theorem half_le (h : Rounded n x y) (few : n ≤ 100) (pos : 0 ≤ x) : x / 2 ≤ y := by
  have hundred : (1 : ℚ) / 2 ≤ (1 - extendedUnit) ^ 100 := by norm_num [extendedUnit]
  have fewer : (1 - extendedUnit) ^ 100 ≤ (1 - extendedUnit) ^ n :=
    pow_le_pow_of_le_one extendedUnit_lt.le (by norm_num [extendedUnit]) few
  have := mul_le_mul_of_nonneg_left (hundred.trans fewer) pos
  have := h.1
  linarith

/-- How far roundings go, as a fraction of the number. -/
theorem abs_sub_le (h : Rounded n x y) (pos : 0 ≤ x) {c : ℚ} (down : 1 - c ≤ (1 - extendedUnit) ^ n)
    (up : (1 + extendedUnit) ^ n ≤ 1 + c) : |y - x| ≤ x * c := by
  have low := (mul_le_mul_of_nonneg_left down pos).trans h.1
  have high := h.2.trans (mul_le_mul_of_nonneg_left up pos)
  rw [abs_le]
  constructor <;> linarith

end Rounded

/-- The extended format reaches far down. -/
theorem extendedLeast_le : (2 : ℚ) ^ (extendedBits - 1) * 2 ^ extendedLeast ≤ 10 ^ (-1000 : Int) := by
  have least : (2 : ℚ) ^ (extendedBits - 1) * 2 ^ extendedLeast ≤ 2 ^ ((4 : Int) * -1000) := by
    rw [← zpow_natCast, ← zpow_add₀ (by norm_num)]
    exact zpow_le_zpow_right₀ (by norm_num) (by decide)
  refine least.trans ?_
  rw [zpow_mul, zpow_neg, zpow_neg]
  exact inv_anti₀ (by positivity) (zpow_le_zpow_left₀ (by decide) (by norm_num) (by norm_num))

variable {num den : Nat}

theorem num_pos {c : ℚ} (pos : 0 < c) (large : c ≤ (num : ℚ) / den) : 0 < num := by
  rcases Nat.eq_zero_or_pos num with rfl | some_num
  · simp at large
    linarith
  · exact some_num

/-- A quotient that is not too small is nearest to a number of the extended format. -/
theorem toExtended_spec (pos : 0 < den) (large : (10 : ℚ) ^ (-1000 : Int) ≤ (num : ℚ) / den) :
    IsNearest extendedBits extendedLeast (num / den) (toExtended num den) := by
  have some_num := num_pos (by positivity) large
  refine (nearest_spec (by decide) extendedLeast some_num pos).resolve_left fun ⟨_, small⟩ => ?_
  have step : (0 : ℚ) < 2 ^ extendedLeast := by positivity
  have bound := extendedLeast_le
  have one : (1 : ℚ) ≤ 2 ^ (extendedBits - 1) := one_le_pow₀ (by norm_num)
  have := mul_le_mul_of_nonneg_right one step.le
  linarith

theorem rounded_toExtended (pos : 0 < den) (large : (10 : ℚ) ^ (-1000 : Int) ≤ (num : ℚ) / den) :
    Rounded 1 (num / den) (toExtended num den).toRat := by
  have near := (toExtended_spec pos large).abs_sub_le_of_large (by decide)
    (extendedLeast_le.trans large)
  obtain ⟨low, high⟩ := abs_le.1 near
  have unit : (num : ℚ) / den / 2 ^ extendedBits = num / den * extendedUnit := by
    rw [extendedUnit, extendedBits]
    ring
  rw [unit] at low high
  rw [Rounded, pow_one, pow_one]
  constructor <;> linarith

/-- Rounding to the extended format doubles no number. -/
theorem toExtended_le (num : Nat) (pos : 0 < den) :
    (toExtended num den).toRat ≤ 2 * ((num : ℚ) / den) := by
  have quotient : (0 : ℚ) ≤ num / den := by positivity
  rcases Nat.eq_zero_or_pos num with rfl | some_num
  · simp [toExtended, nearest, Dyadic.toRat]
  · rcases nearest_spec (by decide : 2 ≤ extendedBits) extendedLeast some_num pos with
      ⟨zero, -⟩ | near
    · rw [toExtended, zero, Dyadic.toRat, Nat.cast_zero, zero_mul]
      linarith
    · exact near.le_two_mul

/-! ## 2. Products -/

theorem mulExtended_eq (a b : Dyadic) :
    ∃ num den, 0 < den ∧ mulExtended a b = toExtended num den ∧
      (num : ℚ) / den = a.toRat * b.toRat := by
  let p : Dyadic := ⟨a.mant * b.mant, a.exp + b.exp⟩
  refine ⟨p.ratio.1, p.ratio.2, p.ratio_pos, rfl, ?_⟩
  rw [p.ratio_div]
  simp only [p, Dyadic.toRat, Nat.cast_mul, zpow_add₀ (by norm_num : (2 : ℚ) ≠ 0)]
  ring

theorem rounded_mulExtended {a b : Dyadic} (large : (10 : ℚ) ^ (-1000 : Int) ≤ a.toRat * b.toRat) :
    Rounded 1 (a.toRat * b.toRat) (mulExtended a b).toRat := by
  obtain ⟨num, den, pos, same, quotient⟩ := mulExtended_eq a b
  rw [same, ← quotient]
  exact rounded_toExtended pos (quotient ▸ large)

theorem mulExtended_le (a b : Dyadic) : (mulExtended a b).toRat ≤ 2 * (a.toRat * b.toRat) := by
  obtain ⟨num, den, pos, same, quotient⟩ := mulExtended_eq a b
  rw [same, ← quotient]
  exact toExtended_le num pos

theorem le_mulExtended {a b : Dyadic} (large : 1 ≤ a.toRat * b.toRat) :
    a.toRat * b.toRat / 2 ≤ (mulExtended a b).toRat := by
  obtain ⟨num, den, pos, same, quotient⟩ := mulExtended_eq a b
  rw [same, ← quotient]
  refine (toExtended_spec pos ?_).half_le
  rw [quotient]
  exact (zpow_le_one_of_nonpos₀ (by norm_num) (by decide)).trans large

theorem extendedTen_eq (k : Int) :
    ∃ num den, 0 < den ∧ extendedTen k = toExtended num den ∧ (num : ℚ) / den = 10 ^ k := by
  refine ⟨Nat.pow 10 k.toNat, Nat.pow 10 (-k).toNat, Nat.pow_pos (by decide), rfl, ?_⟩
  rw [← pow_toNat_div_pow_toNat 10 k]
  simp

theorem rounded_extendedTen {k : Int} (low : -1000 ≤ k) :
    Rounded 1 (10 ^ k) (extendedTen k).toRat := by
  obtain ⟨num, den, pos, same, quotient⟩ := extendedTen_eq k
  rw [same, ← quotient]
  exact rounded_toExtended pos (quotient ▸ zpow_le_zpow_right₀ (by norm_num) low)

theorem extendedTen_le (k : Int) : (extendedTen k).toRat ≤ 2 * 10 ^ k := by
  obtain ⟨num, den, pos, same, quotient⟩ := extendedTen_eq k
  rw [same, ← quotient]
  exact toExtended_le num pos

/-- **Repeated multiplication by a power of ten rounds twice each time**, once for the power and once for
    the product. -/
theorem rounded_mulRepeatedly {k : Int} (low : -1000 ≤ k) {n m : Nat} (few : m + 2 * n ≤ 100) {x : ℚ}
    {d : Dyadic} (h : Rounded m x d.toRat) (large : ∀ i ≤ n, (10 : ℚ) ^ (-900 : Int) ≤ x * (10 ^ k) ^ i) :
    Rounded (m + 2 * n) (x * (10 ^ k) ^ n) (mulRepeatedly (extendedTen k) n d).toRat := by
  induction n generalizing m x d with
  | zero => simpa [mulRepeatedly] using h
  | succ n ih =>
    have pos : 0 ≤ x := by simpa using (by positivity : (0 : ℚ) ≤ 10 ^ (-900 : Int)).trans (large 0 (by omega))
    have ten : (0 : ℚ) < 10 ^ k := by positivity
    have product := h.mul (rounded_extendedTen low) pos ten.le
    have inside : (10 : ℚ) ^ (-1000 : Int) ≤ d.toRat * (extendedTen k).toRat := by
      have half := product.half_le (by omega) (by positivity)
      have one := large 1 (by omega)
      rw [pow_one] at one
      have smaller : (10 : ℚ) ^ (-1000 : Int) ≤ 10 ^ (-900 - 1 : Int) :=
        zpow_le_zpow_right₀ (by norm_num) (by decide)
      have pos' : (0 : ℚ) < 10 ^ (-900 : Int) := by positivity
      rw [zpow_sub_one₀ (by norm_num)] at smaller
      linarith
    have next : ∀ i ≤ n, (10 : ℚ) ^ (-900 : Int) ≤ x * 10 ^ k * (10 ^ k) ^ i := by
      intro i hi
      have := large (i + 1) (by omega)
      rwa [pow_succ', ← mul_assoc] at this
    have rest := ih (by omega) (product.trans (rounded_mulExtended inside)) next
    rw [pow_succ', ← mul_assoc, mulRepeatedly]
    convert rest using 1
    omega

/-- Repeated multiplication by a small number makes a number small. -/
theorem mulRepeatedly_le {factor : Dyadic} {f : ℚ} (small : factor.toRat ≤ f) (n : Nat) (d : Dyadic) :
    (mulRepeatedly factor n d).toRat ≤ d.toRat * (2 * f) ^ n := by
  induction n generalizing d with
  | zero => simp [mulRepeatedly]
  | succ n ih =>
    have pos : 0 ≤ f := factor.toRat_nonneg.trans small
    have one := (mulExtended_le d factor).trans
      (mul_le_mul_of_nonneg_left (mul_le_mul_of_nonneg_left small d.toRat_nonneg) two_pos.le)
    refine (ih (mulExtended d factor)).trans ?_
    rw [pow_succ', ← mul_assoc]
    refine mul_le_mul_of_nonneg_right ?_ (by positivity)
    linarith

/-- Repeated multiplication by a large number makes a number large. -/
theorem le_mulRepeatedly {factor : Dyadic} {f : ℚ} (large : f ≤ factor.toRat) (two_le : 2 ≤ f) (n : Nat)
    {d : Dyadic} (one_le : 1 ≤ d.toRat) :
    d.toRat * (f / 2) ^ n ≤ (mulRepeatedly factor n d).toRat := by
  induction n generalizing d with
  | zero => simp [mulRepeatedly]
  | succ n ih =>
    have product : d.toRat * f ≤ d.toRat * factor.toRat :=
      mul_le_mul_of_nonneg_left large (by linarith)
    have wide : d.toRat * 2 ≤ d.toRat * f := mul_le_mul_of_nonneg_left two_le (by linarith)
    have one := le_mulExtended (a := d) (b := factor) (by linarith)
    refine le_trans ?_ (ih (d := mulExtended d factor) (by linarith))
    rw [pow_succ', ← mul_assoc]
    refine mul_le_mul_of_nonneg_right (by linarith) (by positivity)

/-! ## 3. Scaling -/

/-- Scaling upwards, or downwards if `s` is -1. -/
def scaleBy (s : Int) (d : Dyadic) (e : Nat) : Dyadic :=
  mulRepeatedly (extendedTen (s * 1)) (e % 10)
    (mulRepeatedly (extendedTen (s * 10)) (e % 100 / 10)
      (mulRepeatedly (extendedTen (s * 100)) (e / 100) d))

theorem scaleUp_eq (d : Dyadic) (e : Nat) : scaleUp d e = scaleBy 1 d e := rfl

theorem scaleDown_eq (d : Dyadic) (e : Nat) : scaleDown d e = scaleBy (-1) d e := rfl

/-- How many multiplications scaling takes. -/
def multiplications (e : Nat) : Nat := e / 100 + e % 100 / 10 + e % 10

/-- **Scaling by less than the 400th power of ten moves a number by as much as its roundings do.** -/
theorem rounded_scaleBy {s : Int} (direction : s = 1 ∨ s = -1) {e : Nat} (near : e < 400) {d : Dyadic}
    (one_le : 1 ≤ d.toRat) :
    Rounded (2 * multiplications e) (d.toRat * 10 ^ (s * e)) (scaleBy s d e).toRat := by
  have power (k : Int) (i : Nat) : ((10 : ℚ) ^ k) ^ i = 10 ^ (k * i) := by
    rw [← zpow_natCast, ← zpow_mul]
  have large {j : Int} (low : -900 ≤ j) : (10 : ℚ) ^ (-900 : Int) ≤ d.toRat * 10 ^ j :=
    (zpow_le_zpow_right₀ (by norm_num) low).trans (le_mul_of_one_le_left (by positivity) one_le)
  have join (j k : Int) (i : Nat) :
      d.toRat * 10 ^ j * ((10 : ℚ) ^ k) ^ i = d.toRat * 10 ^ (j + k * i) := by
    rw [power, mul_assoc, ← zpow_add₀ (by norm_num)]
  have start : Rounded 0 (d.toRat * 10 ^ (0 : Int)) d.toRat := by
    simpa using Rounded.refl d.toRat
  have hundreds := rounded_mulRepeatedly (k := s * 100) (n := e / 100) (by omega) (by omega) start
    fun i hi => by
      rw [join]
      exact large (by rcases direction with rfl | rfl <;> omega)
  rw [join] at hundreds
  have tens := rounded_mulRepeatedly (k := s * 10) (n := e % 100 / 10) (by omega) (by omega) hundreds
    fun i hi => by
      rw [join]
      exact large (by rcases direction with rfl | rfl <;> omega)
  rw [join] at tens
  have ones := rounded_mulRepeatedly (k := s * 1) (n := e % 10) (by omega) (by omega) tens
    fun i hi => by
      rw [join]
      exact large (by rcases direction with rfl | rfl <;> omega)
  rw [join] at ones
  rw [scaleBy]
  convert ones using 1
  · unfold multiplications
    omega
  · congr 2
    rcases direction with rfl | rfl <;> omega

/-- Scaling down by more makes every number of 64 bits smaller than any that is not rounded to zero. -/
theorem scaleDown_le {e : Nat} (far : 400 ≤ e) {d : Dyadic} (small : d.toRat ≤ 2 ^ 64) :
    (scaleDown d e).toRat ≤ 10 ^ (-370 : Int) := by
  have pos := d.toRat_nonneg
  have shrink {k : Int} (n : Nat) (d : Dyadic) (low : k ≤ -1) :
      (mulRepeatedly (extendedTen k) n d).toRat ≤ d.toRat := by
    have ten : (10 : ℚ) ^ k ≤ 10 ^ (-1 : Int) := zpow_le_zpow_right₀ (by norm_num) low
    refine (mulRepeatedly_le (extendedTen_le k) n d).trans (mul_le_of_le_one_right d.toRat_nonneg ?_)
    refine pow_le_one₀ (by positivity) ?_
    norm_num at ten ⊢
    linarith
  have hundreds := mulRepeatedly_le (extendedTen_le (-100)) (e / 100) d
  have four : (2 * (2 * (10 : ℚ) ^ (-100 : Int))) ^ (e / 100) ≤ (2 * (2 * 10 ^ (-100 : Int))) ^ 4 :=
    pow_le_pow_of_le_one (by positivity) (by norm_num) (by omega)
  have bound : (2 : ℚ) ^ 64 * (2 * (2 * 10 ^ (-100 : Int))) ^ 4 ≤ 10 ^ (-370 : Int) := by
    have ten : (10 : ℚ) ^ (-370 : Int) = (10 ^ (-100 : Int)) ^ 4 * 10 ^ 30 := by
      rw [← zpow_natCast, ← zpow_mul, ← zpow_natCast, ← zpow_add₀ (by norm_num)]
      rfl
    rw [ten]
    generalize (10 : ℚ) ^ (-100 : Int) = y
    have := mul_nonneg (sq_nonneg y) (sq_nonneg y)
    linarith
  refine (shrink _ _ (by decide)).trans ((shrink _ _ (by decide)).trans (hundreds.trans ?_))
  exact (mul_le_mul small four (by positivity) (by positivity)).trans bound

/-- Scaling up by more makes every number larger than the largest. -/
theorem le_scaleUp {e : Nat} (far : 400 ≤ e) {d : Dyadic} (one_le : 1 ≤ d.toRat) :
    10 ^ (370 : Int) ≤ (scaleUp d e).toRat := by
  have half {k : Int} (low : -1000 ≤ k) : (10 : ℚ) ^ k / 2 ≤ (extendedTen k).toRat :=
    (rounded_extendedTen low).half_le (by decide) (by positivity)
  have hundreds := le_mulRepeatedly (half (by decide : (-1000 : Int) ≤ 100)) (by norm_num) (e / 100) one_le
  have four : ((10 : ℚ) ^ (100 : Int) / 2 / 2) ^ 4 ≤ (10 ^ (100 : Int) / 2 / 2) ^ (e / 100) :=
    pow_le_pow_right₀ (by norm_num) (by omega)
  have bound : (10 : ℚ) ^ (370 : Int) ≤ (10 ^ (100 : Int) / 2 / 2) ^ 4 := by
    have ten : (10 : ℚ) ^ (370 : Int) * 10 ^ 30 = (10 ^ (100 : Int)) ^ 4 := by
      rw [← zpow_natCast, ← zpow_natCast, ← zpow_mul, ← zpow_add₀ (by norm_num)]
      rfl
    have pos : (0 : ℚ) < 10 ^ (370 : Int) := by positivity
    generalize (10 : ℚ) ^ (370 : Int) = z at *
    generalize (10 : ℚ) ^ (100 : Int) = y at *
    linarith
  have stage := (bound.trans four).trans ((le_mul_of_one_le_left (by positivity) one_le).trans hundreds)
  have one_le' : (1 : ℚ) ≤ 10 ^ (370 : Int) := one_le_zpow₀ (by norm_num) (by decide)
  have grow {k : Int} (one : 1 ≤ k) (n : Nat) {d : Dyadic} (large : 10 ^ (370 : Int) ≤ d.toRat) :
      10 ^ (370 : Int) ≤ (mulRepeatedly (extendedTen k) n d).toRat := by
    have ten : (10 : ℚ) ^ (1 : Int) ≤ 10 ^ k := zpow_le_zpow_right₀ (by norm_num) one
    rw [zpow_one] at ten
    refine large.trans (le_trans (le_mul_of_one_le_right d.toRat_nonneg ?_)
      (le_mulRepeatedly (half (by omega)) (by linarith) n (one_le'.trans large)))
    exact one_le_pow₀ (by linarith)
  exact grow (by decide) _ (grow (by decide) _ stage)

end Dataset.Number
