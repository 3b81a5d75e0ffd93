import Dataset.Proofs.Number.Exact
import Dataset.Proofs.Number.Order
import Dataset.Proofs.Number.Value
import Dataset.Number.Literal

/-!
# One form for each number

A number of 64 bits that is not zero has one mantissa and one exponent, so numbers that are equal in their
order are the same.

* `Dyadic.Canonical.eq`: binary numbers in their form of 64 bits are equal if their values are;
* **`Double.IsRounded.eq_of_cmp`**: so are real numbers of 64 bits, except for the sign of a zero;
* `Double.IsRounded.eq_ofInt`: one that is an integer is what the integer is rounded to;
* `isRounded_of_number?`, `isInt64_of_number?`: texts are read as such numbers, or as integers of 64 bits;
* `eq_minInt64_of_ofReal`: the least integer is the only one that a real number is kept apart from.
-/

namespace Dataset.Number

/-! ## 1. Binary numbers -/

theorem Dyadic.Canonical.eq_of_exp_le {d e : Dyadic} (h : d.Canonical) (h' : e.Canonical)
    (same : d.toRat = e.toRat) (order : d.exp ≤ e.exp) : d = e := by
  obtain ⟨k, shift⟩ := Int.eq_ofNat_of_zero_le (Int.sub_nonneg_of_le order)
  have exp : e.exp = d.exp + k := by omega
  have mant : d.mant = e.mant * 2 ^ k := by
    have pos : (2 : ℚ) ^ d.exp ≠ 0 := by positivity
    rw [Dyadic.toRat, Dyadic.toRat, exp, zpow_add₀ (by norm_num), zpow_natCast, mul_comm ((2 : ℚ) ^ d.exp),
      ← mul_assoc] at same
    exact_mod_cast mul_right_cancel₀ pos same
  obtain rfl : k = 0 := by
    -- with a larger exponent the mantissa has all its bits, and one more makes it too long
    by_contra more
    have full := h'.normal (lt_of_le_of_lt h.least_le (by omega))
    have two : 2 ≤ 2 ^ k := le_self_pow₀ one_le_two more
    have long := Nat.mul_le_mul full two
    have short := h.mant_lt
    omega
  rw [pow_zero, mul_one] at mant
  cases d
  cases e
  simp_all

/-- **Binary numbers in their form of 64 bits are equal if their values are.** -/
theorem Dyadic.Canonical.eq {d e : Dyadic} (h : d.Canonical) (h' : e.Canonical)
    (same : d.toRat = e.toRat) : d = e := by
  rcases Int.le_total d.exp e.exp with order | order
  · exact h.eq_of_exp_le h' same order
  · exact (h'.eq_of_exp_le h same.symm order).symm

/-! ## 2. Real numbers -/

namespace Double

variable {s t : Bool} {a b r : Double}

/-- What is rounded is infinite, zero or in its form of 64 bits. -/
theorem IsRounded.cases (h : IsRounded s r) :
    r = .infinite s ∨ r = .finite s ⟨0, 0⟩ ∨
      ∃ d : Dyadic, r = .finite s d ∧ d.Canonical ∧ d.toRat ≤ largest.toRat := by
  obtain ⟨x, rounds⟩ := h
  cases rounds with
  | zero => exact .inr (.inl rfl)
  | finite near bounded => exact .inr (.inr ⟨_, rfl, near.canonical, bounded⟩)
  | infinite => exact .inl rfl

theorem cmp_eq_eq_iff : a.cmp b = .eq ↔ a.side = b.side ∧ a.toRat = b.toRat := by
  rw [cmp_eq, Ordering.then_eq_eq, Std.compare_eq_iff_eq, compare_eq_iff_eq]

theorem toRat_zero (s : Bool) : (finite s ⟨0, 0⟩).toRat = 0 := by
  cases s <;> simp [toRat, signed, Dyadic.toRat]

/-- The sign of a number in its form is the sign of its value. -/
theorem toRat_neg_iff {d : Dyadic} (h : d.Canonical) : (finite s d).toRat < 0 ↔ s = true := by
  have pos := h.toRat_pos
  cases s with
  | true => simpa [toRat, signed] using pos
  | false => simpa [toRat, signed] using pos.le

/-- **Real numbers of 64 bits that are equal in their order are the same**, except for zeros. -/
theorem IsRounded.eq_of_cmp (h : IsRounded s a) (h' : IsRounded t b) (same : a.cmp b = .eq)
    (nonzero : a.side ≠ 0 ∨ a.toRat ≠ 0) : a = b := by
  obtain ⟨sides, values⟩ := cmp_eq_eq_iff.1 same
  rcases h.cases with rfl | rfl | ⟨d, rfl, form, -⟩
  · rcases h'.cases with rfl | rfl | ⟨e, rfl, -⟩
    · cases s <;> cases t <;> first | rfl | cases sides
    all_goals cases s <;> cases sides
  · exact absurd (toRat_zero s) (nonzero.resolve_left fun out => out rfl)
  · have nonzero' : (finite s d).toRat ≠ 0 := nonzero.resolve_left fun out => out rfl
    rcases h'.cases with rfl | rfl | ⟨e, rfl, form', -⟩
    · cases t <;> cases sides
    · exact absurd (values.trans (toRat_zero t)) nonzero'
    · obtain rfl : s = t := by
        rw [Bool.eq_iff_iff, ← toRat_neg_iff form, ← toRat_neg_iff form', values]
      have magnitudes : d.toRat = e.toRat := by
        cases s <;> simpa [toRat, signed] using values
      rw [form.eq form' magnitudes]

/-- A magnitude in the form of 64 bits that is an integer is one of at most 53 bits, with some zeros behind
    them. -/
theorem exists_bits {d : Dyadic} (h : d.Canonical) {n : Nat} (whole : d.toRat = n) :
    ∃ m j : Nat, m < 2 ^ 53 ∧ n = m * 2 ^ j := by
  rcases Int.le_total 0 d.exp with up | down
  · obtain ⟨j, exp⟩ := Int.eq_ofNat_of_zero_le up
    refine ⟨d.mant, j, h.mant_lt, ?_⟩
    rw [Dyadic.toRat, exp, zpow_natCast] at whole
    exact_mod_cast whole.symm
  · obtain ⟨j, exp⟩ := Int.eq_ofNat_of_zero_le (Int.neg_nonneg_of_nonpos down)
    have bits : d.mant = n * 2 ^ j := by
      have inverse : (2 : ℚ) ^ d.exp * 2 ^ j = 1 := by
        rw [← zpow_natCast, ← zpow_add₀ (by norm_num), ← exp, Int.add_right_neg, zpow_zero]
      have scaled := congrArg (· * (2 : ℚ) ^ j) whole
      simp only [Dyadic.toRat] at scaled
      rw [mul_assoc, inverse, mul_one] at scaled
      exact_mod_cast scaled
    refine ⟨n, 0, lt_of_le_of_lt ?_ h.mant_lt, by rw [pow_zero, mul_one]⟩
    rw [bits]
    exact Nat.le_mul_of_pos_right _ (Nat.pow_pos (by decide))

theorem isRounded_ofInt (k : Int) : IsRounded (k < 0) (ofInt k) := isRounded_ofRatio _ _ Nat.one_pos

theorem ofInt_eq_neg {k : Int} (negative : k < 0) : ofInt k = (ofNat k.natAbs).neg := by
  rw [ofInt, ofNat, ofRatio, ofRatio, ofMagnitude, ofMagnitude]
  split_ifs <;> simp [neg, negative]

theorem ofInt_eq_ofNat {k : Int} (positive : ¬ k < 0) : ofInt k = ofNat k.natAbs := by
  rw [ofInt, ofNat, decide_eq_false positive]

/-- An integer that is a number of 64 bits, and not too large, is rounded to itself. -/
theorem ofInt_value {d : Dyadic} (h : d.Canonical) {k : Int} (whole : d.toRat = (k.natAbs : ℕ))
    (near : k.natAbs < 2 ^ 200) : (ofInt k).side = 0 ∧ (ofInt k).toRat = k := by
  obtain ⟨m, j, fits, split⟩ := exists_bits h whole
  obtain ⟨e, rounds, value⟩ := ofNat_exact fits (split ▸ near)
  rw [← split] at rounds value
  by_cases negative : k < 0
  · rw [ofInt_eq_neg negative, rounds]
    refine ⟨rfl, ?_⟩
    show -e.toRat = k
    rw [value, Nat.cast_natAbs, Int.cast_abs, abs_of_neg (by exact_mod_cast negative), neg_neg]
  · rw [ofInt_eq_ofNat negative, rounds]
    refine ⟨rfl, ?_⟩
    show e.toRat = k
    rw [value, Nat.cast_natAbs, Int.cast_abs, abs_of_nonneg (by exact_mod_cast not_lt.1 negative)]

/-- **A real number of 64 bits that is an integer, and not zero, is what the integer is rounded to.** -/
theorem IsRounded.eq_ofInt (h : IsRounded s r) {k : Int} (sides : r.side = 0) (value : r.toRat = k)
    (nonzero : k ≠ 0) (near : k.natAbs < 2 ^ 200) : ofInt k = r := by
  have nonzero' : r.toRat ≠ 0 := by rw [value]; exact_mod_cast nonzero
  rcases h.cases with rfl | rfl | ⟨d, rfl, form, -⟩
  · cases s <;> cases sides
  · exact absurd (toRat_zero s) nonzero'
  · have whole : d.toRat = (k.natAbs : ℕ) := by
      rw [Nat.cast_natAbs, Int.cast_abs, ← value, toRat, abs_signed, abs_of_nonneg d.toRat_nonneg]
    obtain ⟨sides', value'⟩ := ofInt_value form whole near
    refine (h.eq_of_cmp (isRounded_ofInt k) ?_ (.inr nonzero')).symm
    exact cmp_eq_eq_iff.2 ⟨sides'.symm, value.trans value'.symm⟩

/-- No other integer is rounded to zero. -/
theorem eq_zero_of_ofInt {k : Int} (sides : (ofInt k).side = 0) (value : (ofInt k).toRat = 0) : k = 0 := by
  have rounds : RoundsTo (k < 0) ((k.natAbs : ℕ) / (1 : ℕ)) (ofInt k) := roundsTo_ofRatio _ _ Nat.one_pos
  rcases (isRounded_ofInt k).cases with out | zero | ⟨d, finite, form, -⟩
  · rw [out] at sides
    cases h : decide (k < 0) <;> rw [h] at sides <;> cases sides
  · by_contra nonzero
    have one : (1 : ℚ) ≤ (k.natAbs : ℕ) / (1 : ℕ) := by
      rw [Nat.cast_one, div_one]
      exact_mod_cast Int.natAbs_pos.2 nonzero
    rw [zero] at rounds
    exact absurd (rounds.mant_pos one) (lt_irrefl 0)
  · have pos := form.toRat_pos
    rw [finite, toRat] at value
    have none : |signed (decide (k < 0)) d.toRat| = 0 := by rw [value, abs_zero]
    rw [abs_signed, abs_of_pos pos] at none
    exact absurd none pos.ne'

end Double

/-! ## 3. Real numbers that are no integers of 64 bits -/

variable {r : Double} {s : Bool}

/-- A text that is no integer is read as a number of 64 bits. -/
theorem isRounded_value (n : Scan) : n.value.IsRounded n.negative := by
  rw [Scan.value]
  split_ifs
  · exact Double.isRounded_zero _
  · split
    all_goals
      dsimp only
      split_ifs
      · exact Double.isRounded_ofRatio _ _ Nat.one_pos
      · exact ⟨_, roundsTo_fromExtended _ _⟩

theorem Numeric.eq_of_ofReal {r' : Double} (real : ofReal r = .real r') :
    r = r' ∧ ofReal r' = .real r' := by
  have same : r = r' := by
    rw [ofReal] at real
    split at real
    · cases real
    · exact Numeric.real.inj real
  exact ⟨same, same ▸ real⟩

/-- What is taken for an integer has its value. -/
theorem toRat_of_ofReal {n : Int} (integer : Numeric.ofReal r = .int n) : r.side = 0 ∧ r.toRat = n := by
  cases r with
  | infinite s => cases integer
  | finite s d =>
    rcases Numeric.ofReal_cases s d with ⟨k, taken, value⟩ | real
    · obtain rfl := Numeric.int.inj (taken.symm.trans integer)
      exact ⟨rfl, value.symm⟩
    · cases real.symm.trans integer

theorem isRounded_of_number? {text : List Char} (read : number? text = some (.real r)) :
    (∃ negative, r.IsRounded negative) ∧ Numeric.ofReal r = .real r := by
  obtain ⟨n, -, value⟩ := Option.map_eq_some_iff.1 read
  split_ifs at value
  obtain ⟨rfl, real⟩ := Numeric.eq_of_ofReal value
  exact ⟨⟨_, isRounded_value n⟩, real⟩

/-- What is kept as a real number is no integer between the two ends of the range. -/
theorem not_within_of_ofReal (real : Numeric.ofReal r = .real r) {k : Int} (sides : r.side = 0)
    (value : r.toRat = k) : ¬ (minInt64 < k ∧ k < maxInt64) := by
  rintro ⟨low, high⟩
  cases r with
  | infinite s => cases s <;> cases sides
  | finite s d =>
    rw [Numeric.ofReal_of_integer value.symm low high] at real
    cases real

theorem nonzero_of_ofReal (real : Numeric.ofReal r = .real r) : r.side ≠ 0 ∨ r.toRat ≠ 0 := by
  by_contra zero
  obtain ⟨sides, value⟩ := not_or.1 zero
  refine not_within_of_ofReal real (k := 0) (not_not.1 sides) ?_ (by decide)
  rw [Int.cast_zero]
  exact not_not.1 value

theorem isInt64_iff {n : Int} : isInt64 n = true ↔ minInt64 ≤ n ∧ n ≤ maxInt64 := by simp [isInt64]

theorem isInt64_of_ofReal {n : Int} (integer : Numeric.ofReal r = .int n) :
    isInt64 n = true := by
  unfold Numeric.ofReal at integer
  split at integer
  · rename_i m within
    obtain rfl := Numeric.int.inj integer
    have inside := (Option.filter_eq_some_iff.1 within).2
    obtain ⟨low, high⟩ : minInt64 < m ∧ m < maxInt64 := by simpa using inside
    exact isInt64_iff.2 ⟨Int.le_of_lt low, Int.le_of_lt high⟩
  · cases integer

/-- A text that is an integer is one of 64 bits. -/
theorem isInt64_of_number? {s : List Char} {n : Int} (h : number? s = some (.int n)) :
    isInt64 n = true := by
  obtain ⟨scanned, -, hn⟩ := Option.map_eq_some_iff.1 h
  split at hn
  case isTrue fits =>
    obtain rfl := Numeric.int.inj hn
    exact (Bool.and_eq_true_iff.1 fits).2
  case isFalse => exact isInt64_of_ofReal hn

/-- **Only the least integer of 64 bits is equal to a real number that is kept as one.** -/
theorem eq_minInt64_of_ofReal (h : r.IsRounded s) (real : Numeric.ofReal r = .real r) {k : Int}
    (fits : isInt64 k = true) (same : (Double.ofInteger k).cmp r = .eq) : k = minInt64 := by
  obtain ⟨sides, values⟩ := Double.cmp_eq_eq_iff.1 same
  rw [Double.toRat_ofInteger] at values
  have ends := not_within_of_ofReal real sides.symm values.symm
  obtain ⟨low, high⟩ := isInt64_iff.1 fits
  by_contra other
  obtain rfl : k = maxInt64 := by omega
  -- the largest integer has more bits than a real number
  rcases h.cases with rfl | rfl | ⟨d, rfl, form, -⟩
  · cases s <;> cases sides
  · rw [Double.toRat_zero] at values
    exact absurd values (by decide)
  · have whole : d.toRat = (maxInt64.natAbs : ℕ) := by
      rw [Nat.cast_natAbs, Int.cast_abs, values, Double.toRat, abs_signed,
        abs_of_nonneg d.toRat_nonneg]
    obtain ⟨m, j, short, split⟩ := Double.exists_bits form whole
    cases j with
    | zero =>
      rw [pow_zero, mul_one] at split
      rw [← split] at short
      exact absurd short (by decide)
    | succ j =>
      have even : maxInt64.natAbs % 2 = 0 := by rw [split, pow_succ, ← mul_assoc, Nat.mul_mod_left]
      exact absurd even (by decide)

end Dataset.Number
