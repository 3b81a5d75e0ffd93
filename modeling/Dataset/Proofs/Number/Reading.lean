import Dataset.Proofs.Number.Numeral
import Dataset.Proofs.Number.Value
import Dataset.Proofs.Text.Digits

/-!
# What the store reads of a numeral

The store keeps the first 18 or 19 digits of a numeral that count, moves them to their place and rounds
the result. So its number is close to the one that is written, and is that number itself, rounded once
or not at all, if this has few digits.

* `keepWhole_spec`, `keepFraction_spec`, `keep_spec`: the digits that are not kept write less than one
  unit of the last one that is;
* `Numeral.scan_spec`: so the kept number is short of the written one by a small fraction
  (`Numeral.scan_magnitude_le`);
* `Numeral.Readable`: exponents of many digits are cut, which leaves a number of few digits beyond the
  range of 64 bits or below it (`Numeral.allBut_scan`);
* `Numeral.scan_magnitude_eq`: the kept number is the written one if that has few digits;
* **`Numeral.value_spec`**: the value that the store gives to a numeral is what the written number is
  read as.
-/

namespace Dataset.Number

open Text (decimalValue digitValue digitValue_le decimalValue_append decimalValue_cons decimalValue_lt)

/-! ## 1. Digits -/

/-- An exponent of fewer than six digits is read as it is written. -/
theorem exponentOf_eq (ds : List Char) (small : decimalValue ds < 100000) :
    exponentOf ds = decimalValue ds := by
  induction ds using List.reverseRecOn with
  | nil => rfl
  | append_singleton ds d ih =>
    have value : decimalValue (ds ++ [d]) = 10 * decimalValue ds + digitValue d := by
      simp [decimalValue]
    rw [value] at small ⊢
    have before := ih (by omega)
    have step : exponentOf (ds ++ [d]) =
        if exponentOf ds < 10000 then 10 * exponentOf ds + digitValue d else 10000 := by
      rw [exponentOf, List.foldl_append]
      rfl
    rw [step, before, if_pos (by omega)]

/-- An exponent of more digits is read as one of five. -/
theorem exponentOf_large {ds : List Char} (all : ∀ c ∈ ds, Text.isDigit c = true) :
    exponentOf ds < 100000 ∧ (100000 ≤ decimalValue ds → 10000 ≤ exponentOf ds) := by
  induction ds using List.reverseRecOn with
  | nil => exact ⟨by decide, fun large => absurd large (by decide)⟩
  | append_singleton ds d ih =>
    have last := digitValue_le (all d (by simp))
    obtain ⟨-, before⟩ := ih fun c hc => all c (List.mem_append_left _ hc)
    have value : decimalValue (ds ++ [d]) = 10 * decimalValue ds + digitValue d := by
      simp [decimalValue]
    have step : exponentOf (ds ++ [d]) =
        if exponentOf ds < 10000 then 10 * exponentOf ds + digitValue d else 10000 := by
      rw [exponentOf, List.foldl_append]
      rfl
    rw [value, step]
    split_ifs with small
    · have same := exponentOf_eq ds (by omega)
      omega
    · omega

/-! ## 2. The digits that are kept -/

/-- The bound for kept digits leaves room for one digit more. -/
theorem keptBound_eq : keptBound = 1844674407370955160 := rfl

/-- The digits before the point that are not kept write less than one unit of the last that is. -/
theorem keepWhole_spec {ds : List Char} (all : ∀ c ∈ ds, Text.isDigit c = true) {kept : Nat}
    (room : kept < keptBound) :
    ∃ t, kept * 10 ^ ds.length + decimalValue ds =
        (keepWhole ds kept).1 * 10 ^ (keepWhole ds kept).2 + t ∧
      t < 10 ^ (keepWhole ds kept).2 ∧ (keepWhole ds kept).1 < 2 ^ 64 ∧
      ((keepWhole ds kept).2 = 0 ∨ keptBound ≤ (keepWhole ds kept).1) := by
  have bound := keptBound_eq
  induction ds generalizing kept with
  | nil => exact ⟨0, by simp [keepWhole, decimalValue], by simp, by simp only [keepWhole]; omega, .inl rfl⟩
  | cons d ds ih =>
    have first := digitValue_le (all d List.mem_cons_self)
    have rest : ∀ c ∈ ds, Text.isDigit c = true := fun c hc => all c (List.mem_cons_of_mem d hc)
    have same : kept * 10 ^ (d :: ds).length + decimalValue (d :: ds) =
        (10 * kept + digitValue d) * 10 ^ ds.length + decimalValue ds := by
      rw [decimalValue_cons, List.length_cons, Nat.pow_succ]
      ring
    rw [keepWhole, same]
    split_ifs with full
    · exact ⟨decimalValue ds, rfl, decimalValue_lt rest, by omega, .inr full⟩
    · exact ih rest (by omega)

/-- The digits behind the point that are not kept write less than one unit of the last that is. -/
theorem keepFraction_spec {ds : List Char} (all : ∀ c ∈ ds, Text.isDigit c = true) {kept : Nat}
    (fits : kept < 2 ^ 64) :
    (keepFraction ds kept).2 ≤ ds.length ∧
      (∃ t, kept * 10 ^ ds.length + decimalValue ds =
          (keepFraction ds kept).1 * 10 ^ (ds.length - (keepFraction ds kept).2) + t ∧
        t < 10 ^ (ds.length - (keepFraction ds kept).2)) ∧
      (keepFraction ds kept).1 < 2 ^ 64 ∧
      ((keepFraction ds kept).2 = ds.length ∨ keptBound ≤ (keepFraction ds kept).1) ∧
      (keptBound ≤ kept → keepFraction ds kept = (kept, 0)) := by
  have bound := keptBound_eq
  induction ds generalizing kept with
  | nil => exact ⟨le_rfl, ⟨0, by simp [keepFraction, decimalValue], by simp⟩, fits, .inl rfl, fun _ => rfl⟩
  | cons d ds ih =>
    have first := digitValue_le (all d List.mem_cons_self)
    have rest : ∀ c ∈ ds, Text.isDigit c = true := fun c hc => all c (List.mem_cons_of_mem d hc)
    have same : kept * 10 ^ (d :: ds).length + decimalValue (d :: ds) =
        (10 * kept + digitValue d) * 10 ^ ds.length + decimalValue ds := by
      rw [decimalValue_cons, List.length_cons, Nat.pow_succ]
      ring
    rw [keepFraction]
    split_ifs with room
    · obtain ⟨few, ⟨t, value, small⟩, fits', last, -⟩ := ih rest
        (by omega : 10 * kept + digitValue d < 2 ^ 64)
      have places : (d :: ds).length - ((keepFraction ds (10 * kept + digitValue d)).2 + 1) =
          ds.length - (keepFraction ds (10 * kept + digitValue d)).2 := by
        rw [List.length_cons]
        omega
      simp only [places]
      refine ⟨by simpa using few, ⟨t, same.trans value, small⟩, fits', last.imp_left ?_, fun full => ?_⟩
      · intro all_kept
        rw [all_kept, List.length_cons]
      · omega
    · obtain ⟨-, -, -, -, full⟩ := ih rest fits
      rw [full (not_lt.1 room)]
      refine ⟨Nat.zero_le _, ⟨decimalValue (d :: ds), by simp, ?_⟩, fits, .inr (not_lt.1 room), fun _ => rfl⟩
      simpa using decimalValue_lt all

/-- So do all digits that are not kept: either all of those before the point are kept, or none of those
    behind it. -/
theorem keep_spec {ds es : List Char} (before : ∀ c ∈ ds, Text.isDigit c = true)
    (behind : ∀ c ∈ es, Text.isDigit c = true) :
    (keepFraction es (keepWhole ds 0).1).1 < 2 ^ 64 ∧
      ∃ j t : Nat, decimalValue (ds ++ es) = (keepFraction es (keepWhole ds 0).1).1 * 10 ^ j + t ∧
        t < 10 ^ j ∧ (t = 0 ∨ keptBound ≤ (keepFraction es (keepWhole ds 0).1).1) ∧
        ((keepWhole ds 0).2 : Int) - (keepFraction es (keepWhole ds 0).1).2 = j - es.length := by
  obtain ⟨t, whole, small, fits, last⟩ := keepWhole_spec before (by decide : 0 < keptBound)
  obtain ⟨few, ⟨u, fraction, tiny⟩, fits', last', full⟩ := keepFraction_spec behind fits
  have places := decimalValue_lt behind
  rw [decimalValue_append]
  rw [Nat.zero_mul, Nat.zero_add] at whole
  generalize keepWhole ds 0 = w at *
  generalize keepFraction es w.1 = r at *
  refine ⟨fits', ?_⟩
  rcases last with none | more
  · rw [none, pow_zero, Nat.lt_one_iff] at small
    rw [none, small, pow_zero, Nat.mul_one, Nat.add_zero] at whole
    refine ⟨es.length - r.2, u, by rw [whole, fraction], tiny, last'.imp_left fun all_kept => ?_, ?_⟩
    · rwa [all_kept, Nat.sub_self, pow_zero, Nat.lt_one_iff] at tiny
    · omega
  · obtain rfl : r = (w.1, 0) := full more
    have room := Nat.mul_le_mul_right (10 ^ es.length) small
    refine ⟨w.2 + es.length, t * 10 ^ es.length + decimalValue es, ?_, ?_, .inr more, ?_⟩
    · rw [whole, Nat.pow_add]
      ring
    · rw [Nat.succ_mul, ← Nat.pow_add] at room
      omega
    · simp only
      omega

/-! ## 3. The kept number and the written one -/

theorem Numeral.scannedTens_eq {n : Numeral} (moderate : |n.tens| < 100000) :
    scannedTens n.exponent = n.tens := by
  unfold Numeral.tens at *
  cases exponent : n.exponent with
  | none => rfl
  | some e =>
    rw [exponent] at moderate
    have small : decimalValue e.digits < 100000 := by
      have size : |e.value| = decimalValue e.digits := by
        unfold Exponent.value
        split_ifs <;> simp
      simp only [Option.map_some, Option.getD_some, size] at moderate
      omega
    simp [scannedTens, Exponent.value, exponentOf_eq _ small]

/-- **The kept digits of a numeral, moved to their place, are short of it by less than one unit of the
    last, and exact unless they are many.** -/
theorem Numeral.scan_spec {n : Numeral} (moderate : |n.tens| < 100000) :
    n.scan.kept < 2 ^ 64 ∧ ∃ f : ℚ, 0 ≤ f ∧ f < 1 ∧ (f = 0 ∨ keptBound ≤ n.scan.kept) ∧
      n.magnitude = (n.scan.kept + f) * 10 ^ n.scan.scale := by
  obtain ⟨fits, j, t, value, small, exact_or, places⟩ := keep_spec
    (fun c (hc : c ∈ n.integral) => n.all_digits c (List.mem_append_left _ hc))
    (fun c (hc : c ∈ n.behind) => n.all_digits c (List.mem_append_right _ hc))
  have scale : n.scan.scale = j + (n.tens - n.behind.length) := by
    rw [Numeral.scan, Numeral.scannedTens_eq moderate]
    simp only [Int.ofNat_eq_natCast]
    omega
  refine ⟨fits, t / 10 ^ j, by positivity, ?_, exact_or.imp_left fun none => ?_, ?_⟩
  · rw [div_lt_one (by positivity)]
    exact_mod_cast small
  · rw [none, Nat.cast_zero, zero_div]
  · have kept : (keepFraction n.behind (keepWhole n.integral 0).1).1 = n.scan.kept := rfl
    rw [Numeral.magnitude, value, kept, scale, zpow_add₀ (by norm_num), zpow_natCast]
    push_cast
    field_simp

/-- The kept number is short of the written one by a small fraction. -/
theorem Numeral.scan_magnitude_le {n : Numeral} (moderate : |n.tens| < 100000) :
    n.scan.magnitude ≤ n.magnitude ∧ n.magnitude ≤ n.scan.magnitude * (1 + 1 / 2 ^ 60) := by
  obtain ⟨-, f, nonneg, one, exact_or, magnitude⟩ := n.scan_spec moderate
  have scale : (0 : ℚ) < 10 ^ n.scan.scale := by positivity
  rw [magnitude, Scan.magnitude, add_mul, mul_right_comm]
  have missing : f * 10 ^ n.scan.scale ≤ n.scan.kept * (1 / 2 ^ 60) * 10 ^ n.scan.scale := by
    refine mul_le_mul_of_nonneg_right ?_ scale.le
    rcases exact_or with rfl | many
    · positivity
    · have many' : (2 : ℚ) ^ 60 ≤ n.scan.kept := by
        have bound := keptBound_eq
        exact_mod_cast (by omega : 2 ^ 60 ≤ n.scan.kept)
      linarith
  have := mul_nonneg nonneg scale.le
  constructor <;> linarith

/-- The kept number is the written one if that has few digits, and its exponent five at most. -/
theorem Numeral.scan_magnitude_of_moderate {n : Numeral} (moderate : |n.tens| < 100000) {k a : Nat}
    (same : n.magnitude * 10 ^ a = k) (small : k < 10 ^ 18) : n.scan.magnitude = n.magnitude := by
  obtain ⟨-, f, nonneg, one, exact_or, magnitude⟩ := n.scan_spec moderate
  rcases exact_or with rfl | many
  · rw [magnitude, add_zero, Scan.magnitude]
  · have bound := keptBound_eq
    have many' : (10 : ℚ) ^ 18 ≤ n.scan.kept := by
      exact_mod_cast (by omega : 10 ^ 18 ≤ n.scan.kept)
    have small' : (k : ℚ) < 10 ^ 18 := by exact_mod_cast small
    have joined : (n.scan.kept + f) * 10 ^ (n.scan.scale + a) = k := by
      rw [← same, magnitude, zpow_add₀ (by norm_num), zpow_natCast, mul_assoc]
    -- a number of so many digits is an integer below 10 ^ 18 only if it is moved down
    have down : n.scan.scale + a < 0 := by
      refine not_le.1 fun up => ?_
      have := one_le_zpow₀ (by norm_num : (1 : ℚ) ≤ 10) up
      have := mul_le_mul (by linarith : (10 : ℚ) ^ 18 ≤ n.scan.kept + f) this (by norm_num) (by linarith)
      linarith
    obtain ⟨i, hi⟩ := Int.eq_ofNat_of_zero_le (by omega : 0 ≤ -(n.scan.scale + a))
    have integer : (n.scan.kept : ℚ) + f = (k * 10 ^ i : Nat) := by
      rw [show n.scan.scale + a = -(i : Int) by omega, zpow_neg, ← div_eq_mul_inv,
        div_eq_iff (by positivity), zpow_natCast] at joined
      rw [joined]
      push_cast
      ring
    have low : n.scan.kept ≤ k * 10 ^ i := by
      have : (n.scan.kept : ℚ) ≤ (k * 10 ^ i : Nat) := by linarith
      exact_mod_cast this
    have high : k * 10 ^ i < n.scan.kept + 1 := by
      have : ((k * 10 ^ i : Nat) : ℚ) < n.scan.kept + 1 := by linarith
      exact_mod_cast this
    have whole : k * 10 ^ i = n.scan.kept := by omega
    have none : f = 0 := by
      rw [whole] at integer
      linarith
    rw [magnitude, none, add_zero, Scan.magnitude]

/-! ## 4. Exponents of many digits -/

/-- The exponent that the store reads. -/
def Exponent.asRead (e : Exponent) : Exponent :=
  { e with
    digits := Nat.toDigits 10 (exponentOf e.digits)
    given := Nat.toDigits_ne_nil
    all_digits := fun _ hc => Text.isDigit_of_mem_toDigits hc }

/-- The numeral with the exponent that the store reads. -/
def Numeral.asRead (n : Numeral) : Numeral := { n with exponent := n.exponent.map Exponent.asRead }

/-- A numeral that the store can read: its exponent has fewer than six digits, or it has few digits
    besides. -/
def Numeral.Readable (n : Numeral) : Prop :=
  |n.tens| < 100000 ∨ (n.integral ++ n.behind).length ≤ 9000

theorem decimalValue_asRead (e : Exponent) : decimalValue e.asRead.digits = exponentOf e.digits :=
  Text.decimalValue_toDigits _

theorem Numeral.scannedTens_asRead (n : Numeral) :
    scannedTens n.asRead.exponent = scannedTens n.exponent := by
  have once (e : Exponent) : exponentOf e.asRead.digits = exponentOf e.digits := by
    have small := (exponentOf_large e.all_digits).1
    rw [exponentOf_eq _ (by rw [decimalValue_asRead]; exact small), decimalValue_asRead]
  unfold asRead
  cases n.exponent with
  | none => rfl
  | some e =>
    simp only [Option.map_some, scannedTens, once]
    rfl

/-- To the store it is the same numeral. -/
theorem Numeral.scan_asRead (n : Numeral) : n.asRead.scan = n.scan := by
  have exponent : n.asRead.exponent.isSome = n.exponent.isSome := by simp [asRead]
  rw [scan, n.scannedTens_asRead, exponent]
  rfl

theorem Exponent.value_asRead (e : Exponent) : |e.asRead.value| < 100000 ∧
    (100000 ≤ e.value → 10000 ≤ e.asRead.value) ∧ (e.value ≤ -100000 → e.asRead.value ≤ -10000) := by
  obtain ⟨small, large⟩ := exponentOf_large e.all_digits
  have sign : e.asRead.sign = e.sign := rfl
  rw [Exponent.value, Exponent.value, decimalValue_asRead, sign]
  split_ifs
  · rw [abs_neg, Nat.abs_cast]
    omega
  · rw [Nat.abs_cast]
    omega

theorem Numeral.tens_asRead (n : Numeral) : |n.asRead.tens| < 100000 ∧
    (100000 ≤ n.tens → 10000 ≤ n.asRead.tens) ∧ (n.tens ≤ -100000 → n.asRead.tens ≤ -10000) := by
  unfold tens asRead
  cases n.exponent with
  | none => simp
  | some e => simpa using e.value_asRead

theorem Numeral.scan_kept_lt (n : Numeral) : n.scan.kept < 2 ^ 64 := by
  have moderate : |n.asRead.tens| < 100000 := n.tens_asRead.1
  rw [← n.scan_asRead]
  exact (n.asRead.scan_spec moderate).1

/-- What the store reads is the written number, or both are beyond the range of 64 bits, or below it. -/
theorem Numeral.magnitude_asRead {n : Numeral} (readable : n.Readable) :
    n.asRead.magnitude = n.magnitude ∨
      (10 ^ (380 : Int) ≤ n.magnitude ∧ 10 ^ (380 : Int) ≤ n.asRead.magnitude) ∨
      (0 < n.magnitude ∧ n.magnitude ≤ 10 ^ (-380 : Int) ∧ n.asRead.magnitude ≤ 10 ^ (-380 : Int)) := by
  obtain ⟨moderate, up, down⟩ := n.tens_asRead
  have magnitude : n.asRead.magnitude = (decimalValue (n.integral ++ n.behind) : ℚ) *
    10 ^ (n.asRead.tens - n.behind.length) := rfl
  rw [magnitude, Numeral.magnitude]
  rcases lt_or_ge |n.tens| 100000 with near | far
  · rw [← scannedTens_eq moderate, scannedTens_asRead, scannedTens_eq near]
    exact .inl rfl
  rcases Nat.eq_zero_or_pos (decimalValue (n.integral ++ n.behind)) with zero | some_digit
  · rw [zero, Nat.cast_zero, zero_mul, zero_mul]
    exact .inl rfl
  have few := readable.resolve_left (not_lt.2 far)
  have one : (1 : ℚ) ≤ decimalValue (n.integral ++ n.behind) := by exact_mod_cast some_digit
  have most : (decimalValue (n.integral ++ n.behind) : ℚ) ≤ 10 ^ (n.integral ++ n.behind).length := by
    exact_mod_cast (decimalValue_lt n.all_digits).le
  rw [List.length_append] at few most
  have large {e : Int} (high : 10000 ≤ e) : (10 : ℚ) ^ (380 : Int) ≤
      decimalValue (n.integral ++ n.behind) * 10 ^ (e - n.behind.length) :=
    (zpow_le_zpow_right₀ (by norm_num) (by omega)).trans (le_mul_of_one_le_left (by positivity) one)
  have small {e : Int} (low : e ≤ -10000) : decimalValue (n.integral ++ n.behind) *
      10 ^ (e - n.behind.length) ≤ (10 : ℚ) ^ (-380 : Int) := by
    refine (mul_le_mul_of_nonneg_right most (by positivity)).trans ?_
    rw [← zpow_natCast, ← zpow_add₀ (by norm_num)]
    exact zpow_le_zpow_right₀ (by norm_num) (by omega)
  rcases le_abs.1 far with positive | negative
  · exact .inr (.inl ⟨large (by omega), large (up positive)⟩)
  · exact .inr (.inr ⟨by positivity, small (by omega), small (down (by omega))⟩)

/-- The kept number is the written one if that is a decimal number of few digits. -/
theorem Numeral.scan_magnitude_eq {n : Numeral} (readable : n.Readable) {k a : Nat} (places : a ≤ 3)
    (same : n.magnitude * 10 ^ a = k) (small : k < 10 ^ 18) : n.scan.magnitude = n.magnitude := by
  have small' : (k : ℚ) < 10 ^ 18 := by exact_mod_cast small
  have tens : (1 : ℚ) ≤ 10 ^ a ∧ (10 : ℚ) ^ a ≤ 10 ^ 3 :=
    ⟨one_le_pow₀ (by norm_num), pow_le_pow_right₀ (by norm_num) places⟩
  rcases n.magnitude_asRead readable with equal | ⟨huge, -⟩ | ⟨pos, tiny, -⟩
  · rw [← n.scan_asRead, scan_magnitude_of_moderate n.tens_asRead.1 (by rw [equal, same]) small, equal]
  · exfalso
    have bound : (10 : ℚ) ^ 18 ≤ n.magnitude := by
      refine le_trans ?_ huge
      rw [← zpow_natCast]
      exact zpow_le_zpow_right₀ (by norm_num) (by decide)
    have := le_mul_of_one_le_right (by linarith only [bound] : 0 ≤ n.magnitude) tens.1
    linarith only [this, same, small', bound]
  · exfalso
    have bound : n.magnitude ≤ 10 ^ (-4 : Int) :=
      tiny.trans (zpow_le_zpow_right₀ (by norm_num) (by decide))
    have some_k : (1 : ℚ) ≤ k := by
      have : (0 : ℚ) < k := by
        rw [← same]
        positivity
      exact_mod_cast this
    have := mul_le_mul_of_nonneg_left tens.2 pos.le
    norm_num at bound
    linarith only [this, same, some_k, bound]

/-- The kept number is all but the written one. -/
theorem Numeral.allBut_scan {n : Numeral} (readable : n.Readable) :
    AllBut 58 370 n.magnitude n.scan.magnitude := by
  obtain ⟨low, high⟩ := n.asRead.scan_magnitude_le n.tens_asRead.1
  rw [n.scan_asRead] at low high
  have nonneg : 0 ≤ n.scan.magnitude := by
    unfold Scan.magnitude
    positivity
  have smaller : (10 : ℚ) ^ (-380 : Int) ≤ 10 ^ (-370 : Int) :=
    zpow_le_zpow_right₀ (by norm_num) (by decide)
  have larger : (10 : ℚ) ^ (370 : Int) * 10 ≤ 10 ^ (380 : Int) := by
    rw [← zpow_add_one₀ (by norm_num)]
    exact zpow_le_zpow_right₀ (by norm_num) (by decide)
  rcases n.magnitude_asRead readable with equal | ⟨large, large'⟩ | ⟨-, small, small'⟩
  · rw [equal] at low high
    refine .inl (abs_le.2 ?_)
    constructor <;> linarith
  · have big : (0 : ℚ) < 10 ^ (370 : Int) := by positivity
    refine .inr (.inr ?_)
    generalize (10 : ℚ) ^ (380 : Int) = c at *
    generalize (10 : ℚ) ^ (370 : Int) = c' at *
    constructor <;> linarith
  · exact .inr (.inl ⟨nonneg, small.trans smaller, low.trans (small'.trans smaller)⟩)

/-! ## 5. The value of a numeral -/

theorem ten_pow_lt : (10 : ℚ) ^ (-369 : Int) ≤ 2 ^ Double.leastExp / 8 ∧
    2 ^ (1024 : Int) * 2 ≤ (10 : ℚ) ^ (369 : Int) := by
  have tens : (2 : ℚ) ^ ((9 : Int) * 120) ≤ 10 ^ ((3 : Int) * 120) := by
    rw [zpow_mul, zpow_mul]
    exact zpow_le_zpow_left₀ (by decide) (by norm_num) (by norm_num)
  constructor
  · have eighth : (2 : ℚ) ^ Double.leastExp / 8 = 2 ^ (Double.leastExp - 3) := by
      rw [zpow_sub₀ (by norm_num)]
      norm_num
    rw [eighth]
    calc (10 : ℚ) ^ (-369 : Int) ≤ 10 ^ (-((3 : Int) * 120)) :=
          zpow_le_zpow_right₀ (by norm_num) (by decide)
      _ = (10 ^ ((3 : Int) * 120))⁻¹ := zpow_neg _ _
      _ ≤ (2 ^ ((9 : Int) * 120))⁻¹ := inv_anti₀ (by positivity) tens
      _ = 2 ^ (-((9 : Int) * 120)) := (zpow_neg _ _).symm
      _ ≤ 2 ^ (Double.leastExp - 3) := zpow_le_zpow_right₀ (by norm_num) (by decide)
  · rw [← zpow_add_one₀ (by norm_num)]
    calc (2 : ℚ) ^ (1024 + 1 : Int) ≤ 2 ^ ((9 : Int) * 120) :=
          zpow_le_zpow_right₀ (by norm_num) (by decide)
      _ ≤ 10 ^ ((3 : Int) * 120) := tens
      _ ≤ 10 ^ (369 : Int) := zpow_le_zpow_right₀ (by norm_num) (by decide)

theorem two_pow_eq : (2 : ℚ) ^ (1024 : Int) = 2 ^ 53 * 2 ^ (971 : Int) := by
  rw [← zpow_natCast, ← zpow_add₀ (by norm_num)]
  rfl

/-- What is nearest to a finite number of 64 bits keeps below the next power of two. -/
theorem IsNearest.le_of_bounded {x : ℚ} {d : Dyadic} (h : IsNearest Double.bits Double.leastExp x d)
    (bounded : d.toRat ≤ Double.largest.toRat) : x ≤ (2 ^ 53 - 1 / 2) * 2 ^ (971 : Int) := by
  have step : (0 : ℚ) < 2 ^ d.exp := by positivity
  have mant : (d.mant : ℚ) + 1 ≤ 2 ^ 53 := by exact_mod_cast h.mant_lt
  have high := h.high
  rw [Dyadic.above, Dyadic.toRat] at high
  rcases le_or_gt d.exp 971 with low | up
  · have steps : (2 : ℚ) ^ d.exp ≤ 2 ^ (971 : Int) := zpow_le_zpow_right₀ (by norm_num) low
    have := mul_le_mul (by linarith : (d.mant : ℚ) + 1 / 2 ≤ 2 ^ 53 - 1 / 2) steps step.le (by norm_num)
    linarith
  · exfalso
    have full : (2 : ℚ) ^ 52 ≤ d.mant := by
      exact_mod_cast h.normal (lt_trans (by decide : Double.leastExp < 971) up)
    have steps : (2 : ℚ) ^ (971 + 1 : Int) ≤ 2 ^ d.exp := zpow_le_zpow_right₀ (by norm_num) up
    rw [zpow_add_one₀ (by norm_num)] at steps
    have pos : (0 : ℚ) < 2 ^ (971 : Int) := zpow_pos (by norm_num) _
    rw [Double.toRat_largest, Dyadic.toRat] at bounded
    generalize (2 : ℚ) ^ (971 : Int) = p at *
    have := mul_le_mul full steps (by linarith) (by linarith)
    linarith

/-- A real number of 64 bits, with its sign, is what a magnitude is read as: infinite if it is beyond the
    range of 64 bits, zero if it is below, and else nearest to a number that differs from it by a small
    fraction. -/
inductive Double.ReadAs (negative : Bool) (q : ℚ) : Double → Prop
  | beyond (large : (1 - 1 / 2 ^ 52) * 2 ^ (1024 : Int) < q) : ReadAs negative q (.infinite negative)
  | below (small : q ≤ 2 ^ leastExp) : ReadAs negative q (.finite negative ⟨0, 0⟩)
  | within {d : Dyadic} {x : ℚ} (nearest : IsNearest bits leastExp x d) (close : |x - q| ≤ q / 2 ^ 56)
      (range : q < 2 ^ (1024 : Int)) : ReadAs negative q (.finite negative d)

/-- What a number is rounded to is what another is read as that is all but it. -/
theorem Double.RoundsTo.readAs {negative : Bool} {q x : ℚ} {r : Double} (rounds : RoundsTo negative x r)
    (h : AllBut 56 369 q x) : ReadAs negative q r := by
  obtain ⟨tiny, huge⟩ := ten_pow_lt
  have two := two_pow_eq
  have range : (2 : ℚ) ^ leastExp ≤ 2 ^ (971 : Int) := zpow_le_zpow_right₀ (by norm_num) (by decide)
  have least : (0 : ℚ) < 2 ^ leastExp := by positivity
  rw [two] at huge
  unfold AllBut at h
  cases rounds with
  | zero small =>
    clear two
    generalize (10 : ℚ) ^ (369 : Int) = c at *
    generalize (10 : ℚ) ^ (-369 : Int) = t at *
    generalize (2 : ℚ) ^ (971 : Int) = p at *
    refine .below ?_
    rcases h with near | ⟨-, below, -⟩ | ⟨-, above⟩
    · have := (abs_le.1 near).1
      linarith
    · linarith
    · linarith
  | finite nearest bounded =>
    have top := nearest.le_of_bounded bounded
    have twice := nearest.le_two_mul
    have step := nearest.step_le
    have large := zpow_le_zpow_right₀ (by norm_num : (1 : ℚ) ≤ 2) nearest.least_le
    have within (near : |x - q| ≤ q / 2 ^ 56) : q < 2 ^ (1024 : Int) := by
      have := (abs_le.1 near).1
      rw [two]
      clear two
      generalize (2 : ℚ) ^ (971 : Int) = p at *
      linarith
    generalize (10 : ℚ) ^ (369 : Int) = c at *
    generalize (10 : ℚ) ^ (-369 : Int) = t at *
    rcases h with near | ⟨-, -, below⟩ | ⟨-, above⟩
    · exact .within nearest near (within near)
    · linarith
    · clear two
      generalize (2 : ℚ) ^ (971 : Int) = p at *
      linarith
  | infinite large =>
    rw [toRat_largest] at large
    refine .beyond ?_
    rw [two]
    clear two
    generalize (10 : ℚ) ^ (369 : Int) = c at *
    generalize (10 : ℚ) ^ (-369 : Int) = t at *
    generalize (2 : ℚ) ^ (971 : Int) = p at *
    rcases h with near | ⟨-, -, below⟩ | ⟨above, -⟩
    · have := (abs_le.1 near).2
      linarith
    · linarith
    · linarith

/-- **The value that the store gives to a numeral is what the written number is read as.** -/
theorem Numeral.value_spec {n : Numeral} (readable : n.Readable) :
    Double.ReadAs n.negative n.magnitude n.scan.value := by
  obtain ⟨x, close, rounds⟩ := n.scan.value_spec n.scan_kept_lt
  have places : (370 : Int) = 369 + 1 := rfl
  have kept := n.allBut_scan readable
  rw [places] at kept close
  exact rounds.readAs (kept.trans (by decide) close)

end Dataset.Number
