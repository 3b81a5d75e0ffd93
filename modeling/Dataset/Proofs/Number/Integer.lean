import Dataset.Proofs.Store.Accuracy

/-!
# Integers in texts

An integer of 64 bits that is written in digits is read as itself.

* `Numeral.ofInt`: the numeral that is written for an integer, whose value it is (`Numeral.toRat_ofInt`);
* **`number?_ofInt`**: the text of an integer of 64 bits is read as this integer.
-/

namespace Dataset.Number

/-- The digits of an integer behind its sign. -/
def Numeral.ofInt (k : Int) : Numeral := (ofNat k.natAbs).withSign (k < 0)

theorem Numeral.chars_ofInt (k : Int) : (Text.ofInt k).toList = (ofInt k).chars := by
  cases k with
  | ofNat m =>
    simp [Text.ofInt, Text.ofNat, ofInt, withSign, chars, ofNat, digitsOf, fractionChars, exponentChars]
  | negSucc m =>
    have digits : (Int.negSucc m).natAbs = m + 1 := rfl
    simp [Text.ofInt, Text.ofNat, ofInt, withSign, chars, ofNat, digitsOf, fractionChars, exponentChars,
      Int.negSucc_lt_zero, digits]

theorem Numeral.toRat_ofInt (k : Int) : (ofInt k).toRat = k := by
  rw [ofInt, toRat_withSign, magnitude_ofNat, Nat.cast_natAbs, Int.cast_abs]
  rcases Int.lt_or_le k 0 with negative | positive
  · have below : (k : ℚ) ≤ 0 := by exact_mod_cast negative.le
    simp [signed, negative, abs_of_nonpos below]
  · have above : (0 : ℚ) ≤ k := by exact_mod_cast positive
    simp [signed, not_lt.2 positive, abs_of_nonneg above]

/-- **The text of an integer of 64 bits is read as this integer.** -/
theorem number?_ofInt {k : Int} (fits : isInt64 k = true) :
    number? (Text.ofInt k).toList = some (.int k) := by
  have spells : Spells (Text.ofInt k).toList (.ofInt k) :=
    ⟨[], [], noSpaces, noSpaces, by rw [Numeral.chars_ofInt, List.nil_append, List.append_nil]⟩
  have whole : (Numeral.ofInt k).scan.whole = true := rfl
  have integer : (Numeral.ofInt k).scan.integer = k := by
    exact_mod_cast (Store.integer_scan whole).trans (Numeral.toRat_ofInt k)
  rw [number?, scan_of_spells spells, Option.map_some, integer, whole, fits]
  rfl

end Dataset.Number
