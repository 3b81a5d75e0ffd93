import Dataset.Proofs.Json.Grammar
import Dataset.Proofs.Json.Integers
import Dataset.Proofs.Number.Exact
import Dataset.Proofs.Number.Integer

/-!
# Numbers that keep their text

A number is read, and written again. Whether the same characters come out depends on how the numeral is
laid out and on what its digits are rounded to.

* `Numeral.toNum_cases`: a numeral is read as an integer or as a real number that is rounded;
* **`realText_eq_chars_iff`**: a real number is written as one numeral only, which is tidy;
* `Numeral.Kept`, **`Numeral.text_eq_chars_iff`**: the numerals that are written as they were read;
* `fromParts_few`: up to 15 digits, moved by at most 22 places, are rounded once;
* **`Numeral.Brief.kept_iff`**: of such numerals those keep their text that are laid out as they are written.
-/

namespace Dataset.Number

open Text (decimalValue)

/-! ## 1. What is read is rounded -/

open Double (IsRounded)

theorem isRounded_divideTens (steps : Nat) {f : Double} (rounded : IsRounded false f) (exp : Nat) :
    IsRounded false (Json.divideTens f exp steps) := by
  induction steps generalizing f exp with
  | zero => exact rounded
  | succ steps ih =>
    rw [Json.divideTens]
    split_ifs
    · exact rounded.div_ten exp
    · exact rounded
    · exact ih (rounded.div_ten _) _

theorem isRounded_fromParts {negative : Bool} {significand : Nat} {exp : Int} {r : Double}
    (h : Json.fromParts negative significand exp = .ok r) : IsRounded negative r := by
  have signed {f : Double} (rounded : IsRounded false f) :
      IsRounded negative (if negative then f.neg else f) := by
    cases negative with
    | false => exact rounded
    | true => exact rounded.neg
  have kept := Double.isRounded_ofNat significand
  cases exp with
  | ofNat e =>
    simp only [Json.fromParts] at h
    split at h
    · split at h
      · exact Except.ok.inj h ▸ signed (kept.mul (Double.isRounded_ofNat _))
      · cases h
    · split at h
      · exact Except.ok.inj h ▸ signed kept
      · cases h
  | negSucc e =>
    obtain rfl := Except.ok.inj h
    exact signed (isRounded_divideTens _ kept _)

theorem isRounded_movedBy {negative : Bool} {significand : Nat} {start : Int} {e : Option Exponent}
    {r : Double} (h : movedBy negative significand start e = .ok r) : IsRounded negative r := by
  cases e with
  | none => exact isRounded_fromParts h
  | some e =>
    simp only [movedBy] at h
    split_ifs at h
    · obtain rfl := Except.ok.inj h
      exact Double.isRounded_zero negative
    all_goals exact isRounded_fromParts h

variable {n : Numeral} {x : Json.Num}

/-- **A numeral is read as an integer or as a real number of its sign that is rounded.** -/
theorem Numeral.toNum_cases (read : n.toNum = .ok x) :
    (∃ k, x = .int k) ∨ ∃ r, x = .real r ∧ IsRounded n.negative r := by
  have real {m : Except Json.Error Double} (h : m.map Json.Num.real = .ok x)
      (rounded : ∀ r, m = .ok r → IsRounded n.negative r) :
      ∃ r, x = .real r ∧ IsRounded n.negative r := by
    obtain ⟨r, moved, rfl⟩ := ok_of_map h
    exact ⟨r, rfl, rounded r moved⟩
  unfold Numeral.toNum at read
  cases fraction : n.fraction with
  | some ds =>
    simp only [fraction] at read
    exact .inr (real read fun r => isRounded_movedBy)
  | none =>
    simp only [fraction] at read
    split_ifs at read
    · obtain rfl := Except.ok.inj read
      unfold Json.integerOf
      split_ifs with negative
      · rw [negative]
        exact .inr ⟨_, rfl, (Double.isRounded_ofNat _).neg⟩
      · exact .inl ⟨_, rfl⟩
      · exact .inl ⟨_, rfl⟩
    · exact .inr (real read fun r => isRounded_movedBy)

/-! ## 2. What is written -/

/-- The decimal number that `d` is printed as, without its sign: the `shortest` one. -/
def Dyadic.shown (d : Dyadic) : ℚ := if d.mant = 0 then 0 else (shortest d).toRat

/-- Zero as a real number is written. -/
def Numeral.zeroPoint : Numeral where
  sign := []
  integral := ['0']
  fraction := some ['0']
  exponent := none
  sign_of := isSign_nil
  given := by simp
  all_digits := by simp [Text.isDigit]

/-- **A finite real number is written as the tidy numeral of its sign and of the value that is shown.** -/
theorem exists_numeral_realText {negative : Bool} {d : Dyadic}
    (rounded : IsRounded negative (.finite negative d)) :
    ∃ m : Numeral, m.InJson ∧ m.Tidy ∧ m.negative = negative ∧ m.magnitude = d.shown ∧
      (Json.realText (.finite negative d)).toList = m.chars := by
  obtain ⟨x, rounds⟩ := rounded
  cases rounds with
  | zero =>
    have inJson : Numeral.zeroPoint.InJson := ⟨nofun, by simp [Numeral.zeroPoint], fun _ => rfl, by
      simp [Numeral.zeroPoint]⟩
    have tidy : Numeral.zeroPoint.Tidy :=
      .pointed rfl rfl (.inl rfl) (by decide) fun _ => .inl rfl
    refine ⟨_, inJson.withSign negative, tidy.withSign negative, Numeral.negative_withSign _ _, ?_,
      Numeral.toList_withSign rfl (by decide : "0.0".toList = Numeral.zeroPoint.chars) negative⟩
    show Numeral.zeroPoint.magnitude = _
    simp [Numeral.magnitude, Numeral.zeroPoint, Numeral.behind, decimalValue, Text.digitValue,
      Dyadic.shown]
  | finite near =>
    have canonical := near.canonical
    obtain ⟨m, writes, written⟩ := jsonDecimal_spec (shortest_spec canonical).1
    have text : Json.realText (.finite negative d) =
        (if negative then "-" else "") ++ jsonDecimal (shortest d) := by
      rw [Json.realText, jsonText?, if_neg canonical.mant_pos.ne', Option.getD_some]
    refine ⟨_, writes.inJson.withSign negative, (writes.tidy (trimmed_shortest canonical)).withSign _,
      Numeral.negative_withSign _ _, ?_, ?_⟩
    · show m.magnitude = _
      rw [writes.magnitude_eq, Dyadic.shown, if_neg canonical.mant_pos.ne']
    · rw [text]
      exact Numeral.toList_withSign writes.bare written negative

/-- **A real number is written as a numeral exactly if this is tidy and has the sign and the value that is
    shown.** -/
theorem realText_eq_chars_iff (inJson : n.InJson) {negative : Bool} {r : Double}
    (rounded : IsRounded negative r) : (Json.realText r).toList = n.chars ↔
      ∃ d, r = .finite negative d ∧ n.Tidy ∧ n.negative = negative ∧ n.magnitude = d.shown := by
  rcases rounded.sign_cases with ⟨d, rfl⟩ | rfl
  · obtain ⟨m, inJson', tidy, sign, value, written⟩ := exists_numeral_realText rounded
    rw [written]
    constructor
    · intro same
      obtain rfl := Numeral.eq_of_chars same
      exact ⟨d, rfl, tidy, sign, value⟩
    · rintro ⟨d', same, tidy', sign', value'⟩
      obtain rfl := (Double.finite.inj same).2
      rw [tidy'.eq_of_magnitude inJson tidy inJson' (sign'.trans sign.symm)
        (value'.trans value.symm)]
  · constructor
    · intro same
      obtain ⟨c, rest, chars, starts⟩ := Json.startsNumber_chars inJson
      have word : (Json.realText (.infinite negative)).toList = ['n', 'u', 'l', 'l'] := by
        show "null".toList = _
        decide
      obtain rfl : 'n' = c := (List.cons.inj (word.symm.trans (same.trans chars))).1
      exact absurd starts (by decide)
    · rintro ⟨d, same, -⟩
      cases same

/-! ## 3. Numerals that keep their text -/

/-- The text of an integer that a numeral is read as is that of the numeral. -/
theorem Numeral.toList_ofInt_eq_chars (h : n.InJson) {k : Int} (read : n.toNum = .ok (.int k)) :
    (Text.ofInt k).toList = n.chars := by
  obtain ⟨plain, nonzero, value, -, -⟩ := (Numeral.toNum_eq_int_iff h).1 read
  rw [plain.toRat_eq, Int.cast_inj] at value
  rw [Ne, plain.chars_eq_iff h, not_and] at nonzero
  have led := (Numeral.inJson_ofNat (decimalValue n.integral)).led
  have integral : digitsOf (decimalValue n.integral) = n.integral :=
    led.eq h.led (Text.decimalValue_toDigits _)
  have written (j : Int) : (Text.ofInt j).toList =
      (if j < 0 then ['-'] else []) ++ digitsOf j.natAbs := by
    have integer : (Numeral.ofInt j).IsInteger := ⟨rfl, rfl⟩
    rw [Numeral.chars_ofInt, integer.chars_eq, Numeral.ofInt, Numeral.withSign, Numeral.ofNat]
    simp only [decide_eq_true_eq]
  rw [written, plain.chars_eq, ← value]
  cases negative : n.negative with
  | false =>
    have bare : n.sign = [] := h.sign_eq.resolve_right fun minus => by
      rw [Numeral.negative, minus] at negative
      cases negative
    rw [if_neg (by simp), if_neg (by simp), Int.natAbs_natCast, integral, bare]
  | true =>
    have minus : n.sign = ['-'] := by simpa [Numeral.negative] using negative
    have below : -(decimalValue n.integral : Int) < 0 := by
      have := nonzero negative
      omega
    rw [if_pos rfl, if_pos below, Int.natAbs_neg, Int.natAbs_natCast, integral, minus]

/-- `n` is printed back as it was written: it has digits alone and stands for an integer from -2^63 to 2^64-1
    other than `-0`, or it is `Tidy` and its magnitude is what `Dyadic.shown` gives for the double that it is
    rounded to. -/
inductive Numeral.Kept (n : Numeral) : Prop where
  | integer (plain : n.IsInteger) (nonzero : n.chars ≠ ['-', '0']) (low : -2 ^ 63 ≤ n.toRat)
      (high : n.toRat < 2 ^ 64) : n.Kept
  | real {d : Dyadic} (read : n.toNum = .ok (.real (.finite n.negative d))) (tidy : n.Tidy)
      (value : n.magnitude = d.shown) : n.Kept

/-- Digits alone are not tidy: there is neither a point nor an exponent. -/
theorem Numeral.IsInteger.not_tidy (plain : n.IsInteger) : ¬ n.Tidy := by
  intro tidy
  cases tidy with
  | pointed _ fraction => exact absurd plain.1 (by simp [fraction])
  | scaled exponent => exact absurd plain.2 (by simp [exponent])

/-- Digits alone keep their text if they stand for an integer of 64 bits, with a sign or without, and not for
    the negative zero. -/
theorem Numeral.IsInteger.kept_iff (plain : n.IsInteger) :
    n.Kept ↔ n.chars ≠ ['-', '0'] ∧ -2 ^ 63 ≤ n.toRat ∧ n.toRat < 2 ^ 64 := by
  constructor
  · intro kept
    cases kept with
    | integer _ nonzero low high => exact ⟨nonzero, low, high⟩
    | real _ tidy => exact absurd tidy plain.not_tidy
  · rintro ⟨nonzero, low, high⟩
    exact .integer plain nonzero low high

/-- **What is read of a numeral is written as this numeral exactly if it keeps its text.** -/
theorem Numeral.text_eq_chars_iff (h : n.InJson) (read : n.toNum = .ok x) :
    x.text.toList = n.chars ↔ n.Kept := by
  rcases n.toNum_cases read with ⟨k, rfl⟩ | ⟨r, rfl, rounded⟩
  · obtain ⟨plain, nonzero, value, low, high⟩ := (Numeral.toNum_eq_int_iff h).1 read
    refine ⟨fun _ => .integer plain nonzero ?_ ?_, fun _ => n.toList_ofInt_eq_chars h read⟩
    · rw [value]
      exact_mod_cast low
    · rw [value]
      exact_mod_cast high
  · rw [Json.Num.text, realText_eq_chars_iff h rounded]
    constructor
    · rintro ⟨d, rfl, tidy, -, value⟩
      exact .real read tidy value
    · intro kept
      cases kept with
      | integer plain nonzero low high =>
        have integer := (n.toNum_eq_int_iff h (k := if n.negative then -(decimalValue n.integral : Int)
          else decimalValue n.integral)).2
        rw [plain.toRat_eq] at low high integer
        have again := integer ⟨plain, nonzero, rfl, by exact_mod_cast low, by exact_mod_cast high⟩
        rw [read] at again
        cases again
      | @real d read' tidy value =>
        obtain rfl := Json.Num.real.inj (Except.ok.inj (read.symm.trans read'))
        exact ⟨d, rfl, tidy, rfl, value⟩

/-! ## 4. Numerals of few digits -/

/-- **Up to 15 digits, moved by at most 22 places, are rounded once.** -/
theorem fromParts_few (negative : Bool) {k : Nat} (few : k < 10 ^ 15) {p : Int}
    (near : p.natAbs ≤ mostTens) :
    ∃ r, Json.fromParts negative k p = .ok r ∧ Double.RoundsTo negative (k * 10 ^ p) r := by
  have signed {x : ℚ} {f : Double} (rounds : Double.RoundsTo false x f) :
      Double.RoundsTo negative x (if negative then f.neg else f) := by
    cases negative with
    | false => exact rounds
    | true => exact rounds.neg
  have fits : k < 2 ^ 53 := lt_of_lt_of_le few (by norm_num)
  obtain ⟨a, kept, exact_k⟩ := ofNat_exact (j := 0) fits
    (by rw [pow_zero, mul_one]; exact lt_of_lt_of_le fits (by norm_num))
  rw [pow_zero, mul_one] at kept exact_k
  cases p with
  | ofNat e =>
    obtain ⟨b, ten, exact_ten⟩ := ofNat_ten (k := e) near
    have least : e ≤ Json.largestTen := le_trans near (by decide)
    have rounds := roundsTo_mul a b
    rw [exact_k, exact_ten] at rounds
    have small : (k : ℚ) * 10 ^ e ≤ Double.largest.toRat := by
      refine le_trans ?_ two_pow_le_largest
      have digits : (k : ℚ) ≤ 10 ^ 15 := by exact_mod_cast few.le
      have tens : (10 : ℚ) ^ e ≤ 10 ^ 22 := pow_le_pow_right₀ (by norm_num) near
      exact (mul_le_mul digits tens (by positivity) (by positivity)).trans (by norm_num)
    simp only [Json.fromParts, if_pos least, kept, ten]
    generalize Double.mul (.finite false a) (.finite false b) = r at rounds ⊢
    cases r with
    | finite s d => exact ⟨_, rfl, signed (by simpa using rounds)⟩
    | infinite s =>
      cases rounds with
      | infinite large => exact absurd large (not_lt.2 small)
  | negSucc e =>
    obtain ⟨b, ten, exact_ten⟩ := ofNat_ten (k := e + 1) near
    have least : e + 1 ≤ Json.largestTen := le_trans near (by decide)
    have rounds := roundsTo_div a (b := b) (by rw [exact_ten]; positivity)
    rw [exact_k, exact_ten] at rounds
    have divided : Json.divideTens (Double.ofNat k) (e + 1) Json.divideSteps =
        Double.div (.finite false a) (.finite false b) := by
      rw [Json.divideSteps, Json.divideTens, if_pos least, kept, ten]
    simp only [Json.fromParts, divided]
    refine ⟨_, rfl, signed ?_⟩
    rwa [zpow_negSucc, ← div_eq_mul_inv]

/-- A numeral of up to 15 digits, moved by at most 22 places. -/
structure Numeral.Brief (n : Numeral) : Prop where
  few : (n.integral ++ n.behind).length ≤ 15
  near : (n.tens - n.behind.length).natAbs ≤ mostTens

/-- An exponent that is not too large moves what was kept. -/
theorem movedBy_eq (negative : Bool) (significand : Nat) (start : Int) {e : Option Exponent}
    (small : ((e.map Exponent.value).getD 0).natAbs ≤ Json.maxExponent) :
    movedBy negative significand start e =
      Json.fromParts negative significand (start + (e.map Exponent.value).getD 0) := by
  cases e with
  | none =>
    rw [movedBy, Option.map_none, Option.getD_none, Int.add_zero]
  | some e =>
    rw [Option.map_some, Option.getD_some] at small ⊢
    rw [Exponent.value] at small ⊢
    have within : ¬ Json.maxExponent < decimalValue e.digits := by
      split_ifs at small <;> omega
    simp only [movedBy, if_neg within, beq_iff_eq]
    split_ifs <;> rfl

/-- **Of a numeral of few digits all digits are kept.** -/
theorem Numeral.Brief.toNum_eq (brief : n.Brief) (real : ¬ n.IsInteger) :
    n.toNum = (Json.fromParts n.negative (decimalValue (n.integral ++ n.behind))
      (n.tens - n.behind.length)).map Json.Num.real := by
  obtain ⟨few, near⟩ := brief
  have wide : (10 : Nat) ^ 15 ≤ Json.maxSignificand := by decide
  have small := Text.decimalValue_lt n.all_digits
  have digits : decimalValue (n.integral ++ n.behind) ≤ Json.maxSignificand :=
    (small.le.trans (Nat.pow_le_pow_right (by decide) few)).trans wide
  have tens : n.tens.natAbs ≤ Json.maxExponent := by
    have most : mostTens = 22 := rfl
    have bound : Json.maxExponent = 2 ^ 31 - 1 := rfl
    rw [List.length_append] at few
    omega
  have appended : Json.extended (Json.extended 0 n.integral) n.behind =
      decimalValue (n.integral ++ n.behind) := (List.foldl_append ..).symm
  have whole : Json.extended 0 n.integral ≤ Json.maxSignificand :=
    (Json.le_extended _ n.behind).trans (appended ▸ digits)
  unfold Numeral.toNum
  rw [Json.keepDigits_eq whole]
  cases fraction : n.fraction with
  | some ds =>
    have behind : n.behind = ds := by rw [Numeral.behind, fraction, Option.getD_some]
    rw [behind] at appended ⊢
    have within : Json.extended (Json.extended 0 n.integral) ds ≤ Json.maxSignificand :=
      appended ▸ behind ▸ digits
    simp only [Json.keepDigits_eq within, appended, List.length_nil]
    rw [movedBy_eq _ _ _ tens]
    congr 2
    simp only [Int.ofNat_eq_natCast, Numeral.tens]
    omega
  | none =>
    have behind : n.behind = [] := by rw [Numeral.behind, fraction, Option.getD_none]
    cases exponent : n.exponent with
    | none => exact absurd ⟨fraction, exponent⟩ real
    | some e =>
      rw [behind] at appended ⊢
      have moved := movedBy_eq n.negative (Json.extended 0 n.integral) 0 tens
      rw [exponent] at moved
      have value : n.tens = ((some e).map Exponent.value).getD 0 := by rw [Numeral.tens, exponent]
      have kept : Json.extended 0 n.integral = decimalValue (n.integral ++ []) := appended
      simp only [Option.isNone_some, Bool.and_false, Bool.false_eq_true, if_false, List.length_nil]
      rw [← kept, value, Nat.cast_zero, Int.sub_zero, ← Int.zero_add (Option.getD _ _), ← moved]
      rfl

/-- **A numeral of few digits is read as a real number that is shown with its value**, unless it is an
    integer. -/
theorem Numeral.Brief.read (brief : n.Brief) (real : ¬ n.IsInteger) :
    ∃ d, n.toNum = .ok (.real (.finite n.negative d)) ∧ n.magnitude = d.shown := by
  have few : decimalValue (n.integral ++ n.behind) < 10 ^ 15 :=
    (Text.decimalValue_lt n.all_digits).trans_le (Nat.pow_le_pow_right (by decide) brief.few)
  obtain ⟨r, parts, rounds⟩ := fromParts_few n.negative few brief.near
  rw [brief.toNum_eq real, parts]
  have magnitude : n.magnitude = decimalValue (n.integral ++ n.behind) *
    10 ^ (n.tens - n.behind.length) := rfl
  rw [← magnitude] at rounds
  have near := brief.near
  generalize decimalValue (n.integral ++ n.behind) = k at few magnitude
  generalize n.tens - n.behind.length = p at near magnitude
  have places : (10 : ℚ) ^ (-22 : Int) ≤ 10 ^ p ∧ (10 : ℚ) ^ p ≤ 10 ^ (22 : Int) := by
    have most : mostTens = 22 := rfl
    constructor <;> exact zpow_le_zpow_right₀ (by norm_num) (by omega)
  have most : n.magnitude ≤ Double.largest.toRat := by
    have digits : (k : ℚ) ≤ 10 ^ 15 := by exact_mod_cast few.le
    rw [magnitude]
    refine le_trans ?_ two_pow_le_largest
    exact (mul_le_mul digits places.2 (by positivity) (by positivity)).trans (by norm_num)
  rcases Nat.eq_zero_or_pos k with rfl | some_k
  · -- nothing but zero is rounded from zero
    rw [Nat.cast_zero, zero_mul] at magnitude
    cases rounds with
    | zero => exact ⟨_, rfl, magnitude⟩
    | finite near =>
      have low := near.half_le
      have pos := near.toRat_pos
      have high := near.le_two_mul
      linarith
    | infinite large => exact absurd large (not_lt.2 most)
  · have least : (1 / 10 ^ 22 : ℚ) ≤ n.magnitude := by
      have one : (1 : ℚ) ≤ k := by exact_mod_cast some_k
      rw [magnitude]
      refine le_trans ?_ (le_mul_of_one_le_left (by positivity) one)
      exact le_trans (by norm_num) places.1
    cases rounds with
    | zero small =>
      have tiny := two_pow_leastExp_lt
      have pos : (0 : ℚ) < 2 ^ Double.leastExp := by positivity
      linarith
    | infinite large => exact absurd large (not_lt.2 most)
    | @finite d near =>
      have back := near.readsBack
      rw [magnitude] at back
      refine ⟨d, rfl, ?_⟩
      rw [Dyadic.shown, if_neg near.mant_pos.ne', shortest_eq near.canonical (near.full least) few back,
        magnitude]

theorem Numeral.Brief.integral_lt (brief : n.Brief) : decimalValue n.integral < 10 ^ 15 := by
  have digits := brief.few
  rw [List.length_append] at digits
  exact (Text.decimalValue_lt fun c hc => n.all_digits c (List.mem_append_left _ hc)).trans_le
    (Nat.pow_le_pow_right (by decide) (by omega))

/-- A numeral of few digits is in range. -/
theorem Numeral.Brief.exists_toNum (brief : n.Brief) : ∃ x, n.toNum = .ok x := by
  by_cases plain : n.IsInteger
  · have wide : (10 : Nat) ^ 15 ≤ Json.maxSignificand := by decide
    exact ⟨_, plain.toNum_eq (brief.integral_lt.le.trans wide)⟩
  · obtain ⟨d, read, -⟩ := brief.read plain
    exact ⟨_, read⟩

/-- **A numeral of few digits keeps its text exactly if it is an integer other than the negative zero, or
    tidy.** -/
theorem Numeral.Brief.kept_iff (brief : n.Brief) :
    n.Kept ↔ n.IsInteger ∧ n.chars ≠ ['-', '0'] ∨ n.Tidy := by
  constructor
  · intro kept
    cases kept with
    | integer plain nonzero => exact .inl ⟨plain, nonzero⟩
    | real _ tidy => exact .inr tidy
  · rintro (⟨plain, nonzero⟩ | tidy)
    · have few := brief.integral_lt
      refine .integer plain nonzero ?_ ?_ <;> rw [plain.toRat_eq] <;> norm_cast <;> split_ifs <;> omega
    · obtain ⟨d, read, value⟩ := brief.read fun plain => plain.not_tidy tidy
      exact .real read tidy value

end Dataset.Number
