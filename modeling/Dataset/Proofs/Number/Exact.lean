import Dataset.Proofs.Number.Integer

/-!
# Arithmetic of real numbers of 64 bits

A result is rounded once from the result of exact numbers. Integers of few bits and small powers of ten are
exact, so a product or a quotient of such numbers is rounded once as a whole.

* `Double.IsRounded`: a real number that some number is rounded to, with its sign;
* **`ofNat_exact`**, `ofNat_ten`: integers and powers of ten that are rounded to themselves;
* **`roundsTo_mul`**, **`roundsTo_div`**: products and quotients are rounded once;
* `IsNearest.full`: what has all its bits.
-/

namespace Dataset.Number

/-! ## 1. What is rounded -/

namespace Double

/-- A real number of 64 bits with its sign, as some number is rounded to it. -/
def IsRounded (negative : Bool) (r : Double) : Prop := ∃ x, RoundsTo negative x r

variable {negative : Bool} {r s : Double}

theorem RoundsTo.neg {x : ℚ} (h : RoundsTo negative x r) : RoundsTo (!negative) x r.neg := by
  cases h with
  | zero small => exact .zero small
  | finite near bounded => exact .finite near bounded
  | infinite large => exact .infinite large

theorem IsRounded.neg (h : IsRounded negative r) : IsRounded (!negative) r.neg := by
  obtain ⟨x, rounds⟩ := h
  exact ⟨x, rounds.neg⟩

theorem isRounded_ofRatio (negative : Bool) (num : Nat) {den : Nat} (pos : 0 < den) :
    IsRounded negative (ofRatio negative num den) :=
  ⟨_, roundsTo_ofRatio negative num pos⟩

theorem isRounded_zero (negative : Bool) : IsRounded negative (.finite negative ⟨0, 0⟩) :=
  ⟨0, .zero (by positivity)⟩

theorem isRounded_infinite (negative : Bool) : IsRounded negative (.infinite negative) :=
  ⟨largest.toRat + 1, .infinite (by linarith)⟩

theorem roundsTo_ofNat (n : Nat) : RoundsTo false n (ofNat n) := by
  have rounds := roundsTo_ofRatio false n Nat.one_pos
  rwa [Nat.cast_one, div_one] at rounds

theorem isRounded_ofNat (n : Nat) : IsRounded false (ofNat n) := ⟨_, roundsTo_ofNat n⟩

/-- What is rounded with a sign carries this sign. -/
theorem IsRounded.sign_cases (h : IsRounded negative r) :
    (∃ d, r = .finite negative d) ∨ r = .infinite negative := by
  obtain ⟨x, rounds⟩ := h
  cases rounds with
  | zero => exact .inl ⟨_, rfl⟩
  | finite => exact .inl ⟨_, rfl⟩
  | infinite => exact .inr rfl

/-- What a number that is not below one is rounded to is not zero. -/
theorem RoundsTo.mant_pos {x : ℚ} {d : Dyadic} (h : RoundsTo negative x (.finite negative d))
    (large : 1 ≤ x) : 0 < d.mant := by
  cases h with
  | zero small =>
    have tiny := two_pow_leastExp_le
    linarith
  | finite near => exact near.mant_pos

theorem IsRounded.mul (h : IsRounded false r) (h' : IsRounded false s) :
    IsRounded false (r.mul s) := by
  rcases h.sign_cases with ⟨a, rfl⟩ | rfl <;> rcases h'.sign_cases with ⟨b, rfl⟩ | rfl
  · exact isRounded_ofRatio false _ (Dyadic.ratio_pos _)
  all_goals exact isRounded_infinite false

/-- The quotient by a power of ten is rounded. -/
theorem IsRounded.div_ten (h : IsRounded false r) (k : Nat) :
    IsRounded false (r.div (.ofNat (Nat.pow 10 k))) := by
  have rounds := roundsTo_ofNat (Nat.pow 10 k)
  have one : (1 : ℚ) ≤ (Nat.pow 10 k : Nat) := by exact_mod_cast Nat.one_le_pow k 10 (by decide)
  rcases (isRounded_ofNat (Nat.pow 10 k)).sign_cases with ⟨b, ten⟩ | ten <;>
    rcases h.sign_cases with ⟨a, rfl⟩ | rfl <;> rw [ten] at rounds ⊢
  · have pos := Nat.mul_pos (rounds.mant_pos one) (Nat.pow_pos (by decide) : 0 < 2 ^ b.exp.toNat)
    exact isRounded_ofRatio false _ (Nat.mul_pos a.ratio_pos pos)
  · exact isRounded_infinite false
  · exact isRounded_zero false
  · exact isRounded_infinite false

end Double

/-! ## 2. Numbers that are rounded to themselves -/

variable {bits : Nat} {least : Int} {d : Dyadic}

/-- Nearest numbers stay nearest when both are moved by a power of two. -/
theorem IsNearest.shift {y : ℚ} (j : Int) (h : IsNearest bits least (y * 2 ^ j) d) :
    IsNearest bits (least - j) y ⟨d.mant, d.exp - j⟩ := by
  have step : (0 : ℚ) < 2 ^ j := by positivity
  have moved : (2 : ℚ) ^ (d.exp - j) * 2 ^ j = 2 ^ d.exp := by
    rw [← zpow_add₀ (by norm_num), Int.sub_add_cancel]
  have value : (⟨d.mant, d.exp - j⟩ : Dyadic).toRat * 2 ^ j = d.toRat := by
    rw [Dyadic.toRat, Dyadic.toRat, mul_assoc, moved]
  have above : (⟨d.mant, d.exp - j⟩ : Dyadic).above * 2 ^ j = d.above := by
    rw [Dyadic.above, Dyadic.above, div_mul_eq_mul_div, moved]
  have below : (⟨d.mant, d.exp - j⟩ : Dyadic).below bits (least - j) * 2 ^ j = d.below bits least := by
    simp only [Dyadic.below, sub_lt_sub_iff_right]
    split_ifs <;> rw [div_mul_eq_mul_div, moved]
  refine ⟨h.mant_pos, h.mant_lt, sub_le_sub_right h.least_le j,
    fun fine => h.normal (by simpa using fine), ?_, ?_, fun tie => h.even ?_⟩
  · rw [← mul_le_mul_iff_left₀ step, sub_mul, value, below]
    exact h.low
  · rw [← mul_le_mul_iff_left₀ step, add_mul, value, above]
    exact h.high
  · rw [← value, ← above, ← below, ← sub_mul, ← add_mul]
    exact tie.imp (congrArg (· * 2 ^ j)) (congrArg (· * 2 ^ j))

theorem two_pow_le_largest : (2 : ℚ) ^ 200 ≤ Double.largest.toRat := by
  have order : (2 : ℚ) ^ (200 : Int) ≤ 2 ^ (971 : Int) :=
    zpow_le_zpow_right₀ (by norm_num) (by norm_num)
  have cast : (2 : ℚ) ^ (200 : Int) = 2 ^ 200 := by norm_cast
  have pos : (0 : ℚ) < 2 ^ (971 : Int) := by positivity
  rw [Double.toRat_largest, ← cast]
  generalize (2 : ℚ) ^ (200 : Int) = y at *
  generalize (2 : ℚ) ^ (971 : Int) = z at *
  linarith

/-- A natural number of at most 53 bits, times a power of two, is rounded to itself. -/
theorem ofNat_exact {m j : Nat} (fits : m < 2 ^ 53) (near : m * 2 ^ j < 2 ^ 200) :
    ∃ a, Double.ofNat (m * 2 ^ j) = .finite false a ∧ a.toRat = (m * 2 ^ j : Nat) := by
  have rounds := Double.roundsTo_ofNat (m * 2 ^ j)
  generalize Double.ofNat (m * 2 ^ j) = r at rounds
  have shifted : ((m * 2 ^ j : Nat) : ℚ) = m * 2 ^ (j : Int) := by push_cast; rw [zpow_natCast]
  cases rounds with
  | zero small =>
    have none : m * 2 ^ j = 0 := by
      refine Nat.eq_zero_of_not_pos fun pos => ?_
      have one : (1 : ℚ) ≤ (m * 2 ^ j : Nat) := by exact_mod_cast pos
      have tiny := two_pow_leastExp_le
      linarith
    exact ⟨_, rfl, by rw [none, Dyadic.toRat, Nat.cast_zero, zero_mul]⟩
  | @finite d near' =>
    refine ⟨d, rfl, ?_⟩
    rw [shifted] at near' ⊢
    have exact' := (near'.shift j).eq_of_integer (by decide) fits (by
      have : Double.leastExp ≤ 0 := by decide
      omega)
    rw [← exact', Dyadic.toRat, Dyadic.toRat, mul_assoc, ← zpow_add₀ (by norm_num),
      Int.sub_add_cancel]
  | infinite large =>
    have small : ((m * 2 ^ j : Nat) : ℚ) < 2 ^ 200 := by exact_mod_cast near
    exact absurd large (not_lt.2 (small.le.trans two_pow_le_largest))

/-- The powers of ten up to this one are rounded to themselves. -/
def mostTens : Nat := 22

theorem ofNat_ten {k : Nat} (few : k ≤ mostTens) :
    ∃ b, Double.ofNat (Nat.pow 10 k) = .finite false b ∧ b.toRat = 10 ^ k := by
  have split : Nat.pow 10 k = 5 ^ k * 2 ^ k := by rw [Nat.pow_eq, ← Nat.mul_pow]
  have five : 5 ^ k ≤ 5 ^ 22 := Nat.pow_le_pow_right (by decide) few
  have two : 2 ^ k ≤ 2 ^ 22 := Nat.pow_le_pow_right (by decide) few
  have fits : 5 ^ k < 2 ^ 53 := lt_of_le_of_lt five (by norm_num)
  have near : 5 ^ k * 2 ^ k < 2 ^ 200 := lt_of_le_of_lt (Nat.mul_le_mul five two) (by norm_num)
  obtain ⟨b, rounds, value⟩ := ofNat_exact fits near
  rw [split]
  exact ⟨b, rounds, by rw [value, ← split, Nat.pow_eq, Nat.cast_pow, Nat.cast_ofNat]⟩

/-! ## 3. Products and quotients -/

/-- The product of two finite numbers is rounded once. -/
theorem roundsTo_mul (a b : Dyadic) : Double.RoundsTo false (a.toRat * b.toRat)
    (Double.mul (.finite false a) (.finite false b)) := by
  have rounds := Double.roundsTo_ofRatio false (⟨a.mant * b.mant, a.exp + b.exp⟩ : Dyadic).ratio.1
    (Dyadic.ratio_pos ⟨a.mant * b.mant, a.exp + b.exp⟩)
  have value : (⟨a.mant * b.mant, a.exp + b.exp⟩ : Dyadic).toRat = a.toRat * b.toRat := by
    simp only [Dyadic.toRat, Nat.cast_mul]
    rw [zpow_add₀ (by norm_num)]
    ring
  rwa [Dyadic.ratio_div, value] at rounds

/-- The quotient of two finite numbers is rounded once. -/
theorem roundsTo_div (a : Dyadic) {b : Dyadic} (some_b : 0 < b.toRat) :
    Double.RoundsTo false (a.toRat / b.toRat) (Double.div (.finite false a) (.finite false b)) := by
  have pos : 0 < b.ratio.1 := by
    refine Nat.pos_of_ne_zero fun none => ?_
    rw [← b.ratio_div, none, Nat.cast_zero, zero_div] at some_b
    exact some_b.false
  have rounds := Double.roundsTo_ofRatio false (a.ratio.1 * b.ratio.2) (Nat.mul_pos a.ratio_pos pos)
  have value : ((a.ratio.1 * b.ratio.2 : Nat) : ℚ) / (a.ratio.2 * b.ratio.1 : Nat) =
      a.toRat / b.toRat := by
    rw [← a.ratio_div, ← b.ratio_div]
    push_cast
    rw [div_div_div_eq]
  rwa [value] at rounds

/-! ## 4. Numbers with all their bits -/

theorem two_pow_leastExp_lt : (2 : ℚ) ^ Double.leastExp * 2 ^ 54 < 1 / 10 ^ 22 := by
  have tiny : (2 : ℚ) ^ Double.leastExp ≤ 2 ^ (-200 : Int) :=
    zpow_le_zpow_right₀ (by norm_num) (by decide)
  exact lt_of_le_of_lt (mul_le_mul_of_nonneg_right tiny (by positivity)) (by norm_num)

/-- A number that is not too small has all its bits. -/
theorem IsNearest.full {x : ℚ} (h : IsNearest Double.bits Double.leastExp x d)
    (large : (1 / 10 ^ 22 : ℚ) ≤ x) : 2 ^ 52 ≤ d.mant := by
  refine h.normal (lt_of_le_of_ne h.least_le fun least => ?_)
  have tiny := two_pow_leastExp_lt
  have mant : (d.mant : ℚ) ≤ 2 ^ 53 := by exact_mod_cast h.mant_lt.le
  have step : (0 : ℚ) ≤ 2 ^ Double.leastExp := by positivity
  have value : d.toRat = d.mant * 2 ^ Double.leastExp := by rw [Dyadic.toRat, least]
  have wide := mul_le_mul_of_nonneg_right mant step
  have half := h.half_le
  linarith

end Dataset.Number
