import Dataset.Proofs.Number.Notation

/-!
# Integers of JSON

A numeral of digits alone is read as the integer that it writes, as long as that has 64 bits.

* `extended`, `keepDigits_spec`, `keepDigits_eq`: the digits that are kept of a number;
* `Numeral.IsInteger`, **`Numeral.toNum_eq_int_iff`**: the numerals that are read as integers;
* `Numeral.IsPlain`, `Numeral.toNum_eq_natural_iff`: of these, the natural numbers.
-/

namespace Dataset.Json

/-! ## 1. Digits that are kept -/

/-- A number with further digits behind its own. -/
def extended (k : Nat) (ds : List Char) : Nat := ds.foldl (fun n c => 10 * n + Text.digitValue c) k

theorem le_extended (k : Nat) (ds : List Char) : k ≤ extended k ds := by
  induction ds generalizing k with
  | nil => exact Nat.le_refl k
  | cons d ds ih => exact Nat.le_trans (by omega) (ih (10 * k + Text.digitValue d))

/-- All digits are kept if the number that they make is in range, and otherwise not. -/
theorem keepDigits_spec {k : Nat} (ds : List Char) (fits : k ≤ maxSignificand) :
    (extended k ds ≤ maxSignificand → (keepDigits k ds).1 = extended k ds) ∧
      ((keepDigits k ds).2.2 = [] ↔ extended k ds ≤ maxSignificand) := by
  induction ds generalizing k with
  | nil => exact ⟨fun _ => rfl, fun _ => fits, fun _ => rfl⟩
  | cons d ds ih =>
    rw [keepDigits]
    split_ifs with next
    · exact ih next
    · have beyond : ¬ extended k (d :: ds) ≤ maxSignificand :=
        fun within => next (Nat.le_trans (le_extended (10 * k + Text.digitValue d) ds) within)
      exact ⟨fun within => absurd within beyond, nofun, fun within => absurd within beyond⟩

/-- All digits are taken if the number that they make is in range. -/
theorem keepDigits_eq {k : Nat} {ds : List Char} (within : extended k ds ≤ maxSignificand) :
    keepDigits k ds = (extended k ds, ds.length, []) := by
  induction ds generalizing k with
  | nil => rfl
  | cons d ds ih =>
    have next : 10 * k + Text.digitValue d ≤ maxSignificand := Nat.le_trans (le_extended _ ds) within
    rw [keepDigits, if_pos next, ih within]
    rfl

end Dataset.Json

namespace Dataset.Number

open Text (decimalValue)

variable {n : Numeral}

/-! ## 2. Integers -/

/-- An integer is read of kept digits that are its own, unless there is a minus sign before a zero or before
    too many. -/
theorem integerOf_eq_int_iff {negative : Bool} {significand : Nat} {k : Int} :
    Json.integerOf negative significand = .int k ↔
      k = (if negative then -(significand : Int) else significand) ∧
        (negative = true → significand ≠ 0 ∧ significand ≤ 2 ^ 63) := by
  cases negative with
  | false => simp [Json.integerOf, eq_comm]
  | true =>
    rw [Json.integerOf, if_pos rfl, if_pos rfl]
    split_ifs with real
    · simp only [Bool.or_eq_true, decide_eq_true_eq, Nat.pow_eq] at real
      refine ⟨nofun, ?_⟩
      rintro ⟨-, some_digit⟩
      have := some_digit rfl
      omega
    · simp only [Bool.or_eq_true, decide_eq_true_eq, Nat.pow_eq, not_or, not_lt] at real
      rw [Json.Num.int.injEq, Int.ofNat_eq_natCast]
      exact ⟨fun same => ⟨same.symm, fun _ => real⟩, fun same => same.1.symm⟩

/-- A numeral of digits alone, behind a minus sign or not. -/
def Numeral.IsInteger (n : Numeral) : Prop := n.fraction = none ∧ n.exponent = none

theorem Numeral.IsInteger.toRat_eq (h : n.IsInteger) :
    n.toRat = (if n.negative then -(decimalValue n.integral : Int) else decimalValue n.integral : Int) := by
  have magnitude : n.magnitude = decimalValue n.integral := by
    rw [n.magnitude_of_none h.2]
    simp [Numeral.behind, h.1]
  rw [Numeral.toRat, magnitude, signed]
  split_ifs <;> simp

theorem Numeral.IsInteger.chars_eq (h : n.IsInteger) : n.chars = n.sign ++ n.integral := by
  simp [Numeral.chars, h.1, h.2, fractionChars, exponentChars]

/-- Zero behind a minus sign. -/
theorem Numeral.IsInteger.chars_eq_iff (plain : n.IsInteger) (h : n.InJson) :
    n.chars = ['-', '0'] ↔ n.negative = true ∧ decimalValue n.integral = 0 := by
  constructor
  · intro same
    have written : ((ofNat 0).withSign true).chars = ['-', '0'] := by decide
    obtain rfl := Numeral.eq_of_chars (same.trans written.symm)
    decide
  · rintro ⟨negative, zero⟩
    have led : Led ['0'] := ⟨by simp, fun _ => rfl, by simp [Text.isDigit]⟩
    have sign : n.sign = ['-'] := by simpa [Numeral.negative] using negative
    rw [plain.chars_eq, sign, h.led.eq led zero]
    rfl

/-- Of a numeral of digits alone all digits are kept if their number is in range. -/
theorem Numeral.IsInteger.toNum_eq (h : n.IsInteger)
    (within : decimalValue n.integral ≤ Json.maxSignificand) :
    n.toNum = .ok (Json.integerOf n.negative (decimalValue n.integral)) := by
  obtain ⟨kept, all⟩ := Json.keepDigits_spec n.integral (Nat.zero_le Json.maxSignificand)
  have carried : Json.extended 0 n.integral = decimalValue n.integral := rfl
  rw [carried] at kept all
  simp only [Numeral.toNum, h.1, h.2, all.2 within, kept within]
  rfl

/-- **A numeral is read as an integer exactly if it is digits alone**, is not the negative zero, and its value
    has 64 bits, with a sign or without. -/
theorem Numeral.toNum_eq_int_iff (h : n.InJson) {k : Int} : n.toNum = .ok (.int k) ↔
    n.IsInteger ∧ n.chars ≠ ['-', '0'] ∧ n.toRat = k ∧ -2 ^ 63 ≤ k ∧ k < 2 ^ 64 := by
  have bound : Json.maxSignificand = 2 ^ 64 - 1 := rfl
  constructor
  · intro read
    have plain : n.IsInteger ∧ decimalValue n.integral ≤ Json.maxSignificand := by
      obtain ⟨-, all⟩ := Json.keepDigits_spec n.integral (Nat.zero_le Json.maxSignificand)
      have carried : Json.extended 0 n.integral = decimalValue n.integral := rfl
      rw [carried] at all
      have real (m : Except Json.Error Double) : m.map Json.Num.real ≠ .ok (.int k) := by
        intro same
        cases m <;> cases same
      unfold Numeral.toNum at read
      cases fraction : n.fraction with
      | some ds =>
        simp only [fraction] at read
        exact absurd read (real _)
      | none =>
        simp only [fraction] at read
        split_ifs at read with whole
        · simp only [Bool.and_eq_true, decide_eq_true_eq, List.length_eq_zero_iff,
            Option.isNone_iff_eq_none, all] at whole
          exact ⟨⟨fraction, whole.2⟩, whole.1⟩
        · exact absurd read (real _)
    obtain ⟨plain, within⟩ := plain
    rw [plain.toNum_eq within, Except.ok.injEq, integerOf_eq_int_iff] at read
    obtain ⟨value, small⟩ := read
    refine ⟨plain, fun zero => ?_, by rw [plain.toRat_eq, value], ?_⟩
    · obtain ⟨negative, none⟩ := (plain.chars_eq_iff h).1 zero
      exact (small negative).1 none
    · split_ifs at value with negative
      · have := small negative
        omega
      · omega
  · rintro ⟨plain, nonzero, value, low, high⟩
    rw [plain.toRat_eq, Int.cast_inj] at value
    rw [Ne, plain.chars_eq_iff h, not_and] at nonzero
    have within : decimalValue n.integral ≤ Json.maxSignificand := by
      split_ifs at value <;> omega
    rw [plain.toNum_eq within, Except.ok.injEq, integerOf_eq_int_iff]
    refine ⟨value.symm, fun negative => ⟨nonzero negative, ?_⟩⟩
    rw [if_pos negative] at value
    omega

/-! ## 3. Natural numbers -/

/-- A numeral of digits alone, without a sign. -/
def Numeral.IsPlain (n : Numeral) : Prop := n.sign = [] ∧ n.fraction = none ∧ n.exponent = none

/-- **A numeral is read as a natural number if it is digits alone** and in range. -/
theorem Numeral.toNum_eq_natural_iff (h : n.InJson) {k : Nat} :
    n.toNum = .ok (.int (.ofNat k)) ↔
      n.IsPlain ∧ decimalValue n.integral = k ∧ k ≤ Json.maxSignificand := by
  have bound : Json.maxSignificand = 2 ^ 64 - 1 := rfl
  have positive : n.negative = false ↔ n.sign = [] := by
    rcases h.sign_eq with sign | sign <;> simp [Numeral.negative, sign]
  rw [n.toNum_eq_int_iff h, Numeral.IsPlain, ← positive]
  constructor
  · rintro ⟨plain, nonzero, value, -, high⟩
    rw [plain.toRat_eq, Int.cast_inj, Int.ofNat_eq_natCast] at value
    rw [Ne, plain.chars_eq_iff h, not_and] at nonzero
    rw [Int.ofNat_eq_natCast] at high
    cases negative : n.negative with
    | false =>
      rw [negative, if_neg Bool.false_ne_true] at value
      exact ⟨⟨rfl, plain⟩, by omega, by omega⟩
    | true =>
      have some_digit := nonzero negative
      rw [negative, if_pos rfl] at value
      omega
  · rintro ⟨⟨negative, plain⟩, rfl, within⟩
    have plain : n.IsInteger := plain
    refine ⟨plain, ?_, ?_, ?_, ?_⟩
    · rw [Ne, plain.chars_eq_iff h, negative]
      simp
    · rw [plain.toRat_eq, negative]
      rfl
    · rw [Int.ofNat_eq_natCast]
      omega
    · rw [Int.ofNat_eq_natCast]
      omega

theorem Numeral.IsPlain.chars (h : n.IsPlain) : n.chars = n.integral := by
  obtain ⟨sign, fraction, exponent⟩ := h
  rw [Numeral.chars, sign, fraction, exponent]
  exact List.append_nil _

end Dataset.Number
