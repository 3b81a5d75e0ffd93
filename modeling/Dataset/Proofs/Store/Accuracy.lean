import Dataset.Proofs.Number.Notation
import Dataset.Proofs.Number.Reading
import Dataset.Store.Cell

/-!
# How exactly a column keeps numbers

A column of numbers stores a text as it stands or as the number that it is taken for, and the number is
shown in JSON. The shown number is the written one if that has few digits, and else all but the written
one.

* `Double.toInt?_eq_some_iff`, `Numeric.ofReal_cases`: real numbers that are integers;
* `Numeral.Fits`: the store can hold the value of a numeral;
* `served`: what is shown of a text that is stored;
* `exists_denotes_ofReal`: what is shown of a real number, and how far it is from what was rounded to it;
* **`denotes_served_of_fits`**: a numeral that fits is shown with its value;
* **`served_numeral`**: any other is shown all but so, or as nothing.
-/

namespace Dataset

namespace Number

/-! ## 1. Signs -/

theorem abs_signed (negative : Bool) (x : ℚ) : |signed negative x| = |x| := by
  cases negative
  · rfl
  · exact abs_neg x

theorem signed_sub (negative : Bool) (x y : ℚ) :
    signed negative x - signed negative y = signed negative (x - y) := by
  cases negative
  · rfl
  · simp only [signed, if_true]
    ring

theorem Numeral.magnitude_nonneg (n : Numeral) : 0 ≤ n.magnitude := by
  unfold magnitude
  positivity

theorem Numeral.abs_toRat (n : Numeral) : |n.toRat| = n.magnitude := by
  rw [toRat, abs_signed, abs_of_nonneg n.magnitude_nonneg]

/-- The magnitude of a number of a fixed number of places. -/
theorem Numeral.magnitude_mul {n : Numeral} {k : Int} {a : Nat} (same : n.toRat * 10 ^ a = k) :
    n.magnitude * 10 ^ a = k.natAbs := by
  rw [← n.abs_toRat, ← abs_of_pos (by positivity : (0 : ℚ) < 10 ^ a), ← abs_mul, same,
    Nat.cast_natAbs, Int.cast_abs]

/-! ## 2. Real numbers that are integers -/

/-- A real number is an integer if its magnitude with its sign is. -/
theorem Double.toInt?_eq_some_iff (negative : Bool) (d : Dyadic) (k : Int) :
    (Double.finite negative d).toInt? = some k ↔ (k : ℚ) = signed negative d.toRat := by
  have den : (d.ratio.2 : ℚ) ≠ 0 := by exact_mod_cast d.ratio_pos.ne'
  have value := d.ratio_div
  have floor (whole : d.ratio.1 % d.ratio.2 = 0) : (d.floor : ℚ) = d.toRat := by
    rw [← value, eq_div_iff den]
    exact_mod_cast Nat.div_mul_cancel (Nat.dvd_of_mod_eq_zero whole)
  have signs (whole : d.ratio.1 % d.ratio.2 = 0) :
      ((if negative then -(Int.ofNat d.floor) else Int.ofNat d.floor : Int) : ℚ) =
        signed negative d.toRat := by
    rw [← floor whole]
    cases negative <;> simp [signed]
  unfold toInt?
  simp only
  constructor
  · intro found
    obtain ⟨whole, found⟩ := Option.ite_none_right_eq_some.1 found
    exact Option.some.inj found ▸ signs whole
  · intro same
    have integer : d.toRat = (k.natAbs : Nat) := by
      rw [Nat.cast_natAbs, Int.cast_abs, same, abs_signed, abs_of_nonneg d.toRat_nonneg]
    have whole : d.ratio.1 % d.ratio.2 = 0 := by
      rw [← value, div_eq_iff den] at integer
      have product : d.ratio.1 = k.natAbs * d.ratio.2 := by exact_mod_cast integer
      rw [product, Nat.mul_mod_left]
    rw [if_pos whole]
    congr 1
    have cast := (signs whole).trans same.symm
    exact_mod_cast cast

/-- A real number that is an integer within the range is taken for it. -/
theorem Numeric.ofReal_of_integer {negative : Bool} {d : Dyadic} {k : Int}
    (same : (k : ℚ) = signed negative d.toRat) (low : minInt64 < k) (high : k < maxInt64) :
    ofReal (.finite negative d) = .int k := by
  have found := (Double.toInt?_eq_some_iff negative d k).2 same
  rw [ofReal, integerWithin?, found, Option.filter_some, if_pos (by simp [low, high])]

/-- A finite real number is taken for the integer that it is, or is kept. -/
theorem Numeric.ofReal_cases (negative : Bool) (d : Dyadic) :
    (∃ k : Int, ofReal (.finite negative d) = .int k ∧ (k : ℚ) = signed negative d.toRat) ∨
      ofReal (.finite negative d) = .real (.finite negative d) := by
  rw [ofReal]
  cases within : integerWithin? (.finite negative d) with
  | none => exact .inr rfl
  | some k =>
    have found := (Option.filter_eq_some_iff.1 within).1
    exact .inl ⟨k, rfl, (Double.toInt?_eq_some_iff negative d k).1 found⟩

/-! ## 3. Values of few digits -/

/-- The store can hold the value of a numeral: digits alone write an integer of 64 bits, or the value is,
    in any notation, an integer below `2 ^ 53` or a multiple of a thousandth of up to 15 digits. -/
def Numeral.Fits (n : Numeral) : Prop :=
  (n.fraction = none ∧ n.exponent = none ∧ ∃ k : Int, isInt64 k = true ∧ n.toRat = k) ∨
    (∃ k : Int, k.natAbs < 2 ^ 53 ∧ n.toRat = k) ∨
    ∃ k : Int, k.natAbs < 10 ^ 15 ∧ n.toRat * 10 ^ 3 = k

/-- The bound of the steps of a number of 64 bits. -/
theorem IsNearest.step_le_or {x : ℚ} {d : Dyadic}
    (h : IsNearest Double.bits Double.leastExp x d) :
    (2 : ℚ) ^ d.exp = 2 ^ Double.leastExp ∨
      (2 ^ 52 ≤ d.mant ∧ (2 : ℚ) ^ d.exp * (2 ^ 52 - 1 / 2) ≤ x) := by
  rcases lt_or_eq_of_le h.least_le with fine | coarse
  · refine .inr ⟨h.normal fine, ?_⟩
    have step : (0 : ℚ) < 2 ^ d.exp := by positivity
    have full : (2 : ℚ) ^ 52 ≤ d.mant := by exact_mod_cast h.normal fine
    have wide := mul_le_mul_of_nonneg_right full step.le
    have value : d.toRat = d.mant * 2 ^ d.exp := rfl
    have near := (abs_le.1 h.abs_sub_le_step).2
    linarith
  · exact .inl (by rw [coarse])

theorem two_pow_leastExp_le : (2 : ℚ) ^ Double.leastExp ≤ 1 / 2 ^ 70 := by
  have order : (2 : ℚ) ^ Double.leastExp ≤ 2 ^ (-70 : Int) :=
    zpow_le_zpow_right₀ (by norm_num) (by decide)
  refine order.trans_eq ?_
  norm_num

/-- The value of a numeral that is zero is zero. -/
theorem Scan.value_of_zero {n : Scan} (zero : n.magnitude = 0) :
    n.value = .finite n.negative ⟨0, 0⟩ := by
  have none : n.kept = 0 := by
    have ten : (10 : ℚ) ^ n.scale ≠ 0 := by positivity
    exact_mod_cast (mul_eq_zero.1 zero).resolve_right ten
  rw [value, if_pos none]

/-- **A numeral whose value is an integer below `2 ^ 53` has that value in the store.** -/
theorem Numeral.value_of_integer {n : Numeral} (readable : n.Readable) {k : Int}
    (same : n.toRat = k) (few : k.natAbs < 2 ^ 53) :
    ∃ d, n.scan.value = .finite n.negative d ∧ signed n.negative d.toRat = n.toRat := by
  have magnitude : n.magnitude = k.natAbs := by
    simpa using n.magnitude_mul (a := 0) (by rw [pow_zero, mul_one, same])
  have scanned := scan_magnitude_eq readable (by decide : 0 ≤ 3)
    (by rw [pow_zero, mul_one, magnitude]) (by omega)
  rcases Nat.eq_zero_or_pos k.natAbs with zero | some_k
  · rw [zero, Nat.cast_zero] at magnitude
    refine ⟨⟨0, 0⟩, Scan.value_of_zero (scanned.trans magnitude), ?_⟩
    rw [toRat, magnitude, Dyadic.toRat, Nat.cast_zero, zero_mul]
  · obtain ⟨d, value, integer⟩ :=
      n.scan.value_of_integer n.scan_kept_lt (scanned.trans magnitude) some_k few
    exact ⟨d, value, by rw [toRat, magnitude, integer]⟩

end Number

namespace Store

open Number

/-! ## 4. What is shown -/

/-- What a column of numbers makes of a text, as it is shown. -/
def served (text : String) : String := (Affinity.numeric.store (.text text)).scalar.jsonText

theorem served_of_scan {text : String} {s : Scan} (read : scan text.toList = some s) :
    served text = (Cell.ofNumeric (if s.whole && isInt64 s.integer then .int s.integer
      else .ofReal s.value)).scalar.jsonText := by
  rw [served, Affinity.store, Affinity.storeNumeric, number?, read]
  rfl

theorem served_of_not_number {text : String} (none : ∀ n, ¬ Spells text.toList n) :
    served text = Json.stringText text := by
  have unread : scan text.toList = Option.none := by
    refine Option.eq_none_iff_forall_ne_some.2 fun s read => ?_
    obtain ⟨n, spells⟩ := exists_spells_of_scan read
    exact none n spells
  rw [served, Affinity.store, Affinity.storeNumeric, number?, unread]
  rfl

/-- **A real number that is an integer is shown as that, and any other as a decimal number that reads
    back**, so it is shown with a number that is at most a step away from what was rounded to it. -/
theorem exists_denotes_ofReal (negative : Bool) {x : ℚ} {d : Number.Dyadic}
    (h : IsNearest Double.bits Double.leastExp x d) :
    ∃ q, Json.Denotes (Cell.ofNumeric (.ofReal (.finite negative d))).scalar.jsonText
      (signed negative q) ∧ |q - x| ≤ 2 ^ d.exp := by
  have near := h.abs_sub_le_step
  rcases Numeric.ofReal_cases negative d with ⟨k, integer, value⟩ | real
  · refine ⟨d.toRat, ?_, ?_⟩
    · rw [integer, ← value]
      exact denotes_ofInt k
    · have step : (0 : ℚ) < 2 ^ d.exp := by positivity
      linarith
  · refine ⟨(shortest d).toRat, ?_, ?_⟩
    · rw [real]
      exact denotes_realText negative h.canonical
    · have back := (shortest_spec h.canonical).2.abs_sub_le
      have apart := abs_sub_le (shortest d).toRat d.toRat x
      linarith

/-- **A multiple of a thousandth of up to 15 digits is shown with its value.** -/
theorem denotes_of_thousandths (negative : Bool) {k : Nat} (some_k : 0 < k) (few : k < 10 ^ 15)
    {x : ℚ} (same : x * 10 ^ 3 = k) {d : Number.Dyadic} (h : IsNearest Double.bits Double.leastExp x d) :
    Json.Denotes (Cell.ofNumeric (.ofReal (.finite negative d))).scalar.jsonText (signed negative x) := by
  have some_k' : (1 : ℚ) ≤ k := by exact_mod_cast some_k
  have few' : (k : ℚ) + 1 ≤ 10 ^ 15 := by exact_mod_cast few
  have tiny := two_pow_leastExp_le
  have near := h.abs_sub_le_step
  -- the steps are finer than half a thousandth, and the least exponent is too small
  obtain ⟨full, step⟩ : 2 ^ 52 ≤ d.mant ∧ (2 : ℚ) ^ d.exp * (2 ^ 52 - 1 / 2) ≤ x := by
    refine h.step_le_or.resolve_left fun coarse => ?_
    have most : (d.mant : ℚ) ≤ 2 ^ 53 := by exact_mod_cast h.mant_lt.le
    have small := mul_le_mul_of_nonneg_right most (by positivity : (0 : ℚ) ≤ 2 ^ d.exp)
    have value : d.toRat = d.mant * 2 ^ d.exp := rfl
    have half := h.half_le
    rw [coarse] at small value
    linarith
  rcases Numeric.ofReal_cases negative d with ⟨i, integer, value⟩ | real
  · have whole : d.toRat = x := by
      have magnitude : d.toRat = (i.natAbs : Nat) := by
        rw [Nat.cast_natAbs, Int.cast_abs, value, abs_signed, abs_of_nonneg d.toRat_nonneg]
      obtain ⟨low, high⟩ := abs_le.1 near
      have less : i.natAbs * 1000 < k + 1 := by
        have : ((i.natAbs * 1000 : Nat) : ℚ) < (k + 1 : Nat) := by
          push_cast [← magnitude]
          linarith
        exact_mod_cast this
      have more : k < i.natAbs * 1000 + 1 := by
        have : (k : ℚ) < (i.natAbs * 1000 + 1 : Nat) := by
          push_cast [← magnitude]
          linarith
        exact_mod_cast this
      have equal : (i.natAbs : ℚ) * 1000 = k := by exact_mod_cast (by omega : i.natAbs * 1000 = k)
      linarith
    rw [integer, ← whole, ← value]
    exact denotes_ofInt i
  · have scaled : x = k * 10 ^ (-3 : Int) := by
      rw [← same, mul_assoc, ← zpow_natCast, ← zpow_add₀ (by norm_num)]
      simp
    have back := h.readsBack
    rw [scaled] at back
    have found := shortest_eq h.canonical full few back
    rw [real, scaled, ← found]
    exact denotes_realText negative h.canonical

/-! ## 5. What is shown of a numeral -/

variable {text : String} {n : Numeral}

/-- The integer that digits alone write is their value. -/
theorem integer_scan (whole : n.scan.whole = true) : (n.scan.integer : ℚ) = n.toRat := by
  obtain ⟨noPoint, noExponent⟩ : n.fraction = none ∧ n.exponent = none := by
    simpa [Numeral.scan] using whole
  have magnitude : n.magnitude = (Text.decimalValue n.integral : Nat) := by
    simp [Numeral.magnitude, Numeral.behind, Numeral.tens, noPoint, noExponent]
  have integer : n.scan.integer = if n.negative then -Int.ofNat (Text.decimalValue n.integral)
    else Int.ofNat (Text.decimalValue n.integral) := rfl
  rw [integer, Numeral.toRat, magnitude]
  cases n.negative <;> simp [signed]

theorem magnitude_lt_of_digits (digits : (n.scan.whole && isInt64 n.scan.integer) = true) :
    n.magnitude < 2 ^ 64 := by
  obtain ⟨whole, within⟩ := Bool.and_eq_true_iff.1 digits
  have range : minInt64 ≤ n.scan.integer ∧ n.scan.integer ≤ maxInt64 := by simpa [isInt64] using within
  have bounds : minInt64 = -2 ^ 63 ∧ maxInt64 = 2 ^ 63 - 1 := ⟨rfl, rfl⟩
  have few : ((n.scan.integer.natAbs : Nat) : ℚ) < 2 ^ 64 := by
    exact_mod_cast (by omega : n.scan.integer.natAbs < 2 ^ 64)
  rwa [Nat.cast_natAbs, Int.cast_abs, integer_scan whole, n.abs_toRat] at few

/-- Digits alone that write an integer of 64 bits are shown with their value. -/
theorem served_of_integer (spells : Spells text.toList n)
    (digits : (n.scan.whole && isInt64 n.scan.integer) = true) :
    Json.Denotes (served text) n.toRat := by
  rw [served_of_scan (scan_of_spells spells), if_pos digits,
    ← integer_scan (Bool.and_eq_true_iff.1 digits).1]
  exact denotes_ofInt _

/-- Any other numeral is shown as the real number that the store gives it. -/
theorem served_of_real (spells : Spells text.toList n)
    (other : ¬ (n.scan.whole && isInt64 n.scan.integer) = true) :
    served text = (Cell.ofNumeric (.ofReal n.scan.value)).scalar.jsonText := by
  rw [served_of_scan (scan_of_spells spells), if_neg other]

/-- A numeral whose value in the store is an integer below `2 ^ 53` is shown with it. -/
theorem denotes_of_value {d : Number.Dyadic} (value : n.scan.value = .finite n.negative d)
    (exact_value : signed n.negative d.toRat = n.toRat) {k : Int} (same : n.toRat = k)
    (few : k.natAbs < 2 ^ 53) :
    Json.Denotes (Cell.ofNumeric (.ofReal n.scan.value)).scalar.jsonText n.toRat := by
  have low : minInt64 < k := by
    have bound : minInt64 = -2 ^ 63 := rfl
    omega
  have high : k < maxInt64 := by
    have bound : maxInt64 = 2 ^ 63 - 1 := rfl
    omega
  rw [value, Numeric.ofReal_of_integer (same.symm.trans exact_value.symm) low high, same]
  exact denotes_ofInt k

/-- **A numeral that fits is shown with its value.** -/
theorem denotes_served_of_fits (spells : Spells text.toList n) (readable : n.Readable)
    (fits : n.Fits) : Json.Denotes (served text) n.toRat := by
  by_cases digits : (n.scan.whole && isInt64 n.scan.integer) = true
  · exact served_of_integer spells digits
  rw [served_of_real spells digits]
  rcases fits with ⟨noPoint, noExponent, k, within, same⟩ | ⟨k, few, same⟩ | ⟨k, few, same⟩
  · -- digits alone have been shown already
    have whole : n.scan.whole = true := by simp [Numeral.scan, noPoint, noExponent]
    have integer : n.scan.integer = k := by exact_mod_cast (integer_scan whole).trans same
    rw [whole, integer, within] at digits
    exact absurd rfl digits
  · obtain ⟨d, value, exact_value⟩ := n.value_of_integer readable same few
    exact denotes_of_value value exact_value same few
  · rcases Nat.eq_zero_or_pos k.natAbs with zero | some_k
    · have none : n.toRat = (0 : Int) := by
        rw [Int.natAbs_eq_zero.1 zero, Int.cast_zero] at same
        simpa using (mul_eq_zero.1 same).resolve_right (by norm_num)
      obtain ⟨d, value, exact_value⟩ := n.value_of_integer readable none (by decide)
      exact denotes_of_value value exact_value none (by decide)
    · have magnitude := n.magnitude_mul same
      have scanned := n.scan_magnitude_eq readable (by decide) magnitude (by omega)
      obtain ⟨d, value, nearest⟩ := n.scan.value_of_thousandths n.scan_kept_lt
        (scanned ▸ magnitude) some_k few
      rw [scanned] at nearest
      rw [value]
      exact denotes_of_thousandths n.negative some_k few magnitude nearest

/-- **Any other numeral is shown as a number that differs from the written one by a small fraction and
    the smallest number, or, if it is beyond the range of 64 bits, as nothing.** -/
theorem served_numeral (spells : Spells text.toList n) (readable : n.Readable) :
    (served text = "null" ∧ (1 - 1 / 2 ^ 52) * 2 ^ (1024 : Int) < |n.toRat|) ∨
      ∃ q, Json.Denotes (served text) q ∧
        |q - n.toRat| ≤ |n.toRat| / 2 ^ 51 + 2 ^ (-1074 : Int) ∧ |n.toRat| < 2 ^ (1024 : Int) := by
  have least : (0 : ℚ) < 2 ^ (-1074 : Int) := zpow_pos (by norm_num) _
  have nonneg := n.magnitude_nonneg
  have wide : (2 : ℚ) ^ 64 ≤ 2 ^ (1024 : Int) := by
    rw [← zpow_natCast]
    exact zpow_le_zpow_right₀ (by norm_num) (by decide)
  rw [n.abs_toRat]
  by_cases digits : (n.scan.whole && isInt64 n.scan.integer) = true
  · refine .inr ⟨n.toRat, served_of_integer spells digits, ?_, ?_⟩
    · rw [sub_self, abs_zero]
      positivity
    · exact (magnitude_lt_of_digits digits).trans_le wide
  rw [served_of_real spells digits]
  have read := n.value_spec readable
  generalize n.scan.value = r at *
  cases read with
  | beyond large => exact .inl ⟨rfl, large⟩
  | below small =>
    have zero : signed n.negative (⟨0, 0⟩ : Number.Dyadic).toRat = (0 : Int) := by
      cases n.negative <;> simp [signed, Number.Dyadic.toRat]
    refine .inr ⟨(0 : Int), ?_, ?_, ?_⟩
    · rw [Numeric.ofReal_of_integer zero.symm (by decide) (by decide)]
      exact denotes_ofInt 0
    · rw [Int.cast_zero, zero_sub, abs_neg, n.abs_toRat]
      have : 0 ≤ n.magnitude / 2 ^ 51 := by positivity
      rw [Double.leastExp] at small
      linarith
    · exact (small.trans two_pow_leastExp_le).trans_lt (lt_of_lt_of_le (by norm_num) wide)
  | @within d x nearest close range =>
    obtain ⟨q, denotes, near⟩ := exists_denotes_ofReal n.negative nearest
    refine .inr ⟨signed n.negative q, denotes, ?_, range⟩
    rw [Numeral.toRat, signed_sub, abs_signed]
    have apart := abs_sub_le q x n.magnitude
    have up := (abs_le.1 close).2
    rcases nearest.step_le_or with coarse | ⟨-, fine⟩
    · rw [coarse, Double.leastExp] at near
      linarith
    · linarith

end Store

end Dataset
