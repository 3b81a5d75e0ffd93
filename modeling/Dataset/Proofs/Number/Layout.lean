import Dataset.Proofs.Json.Numbers
import Dataset.Proofs.Number.Shortest

/-!
# One way to write a number

Of the numerals of one value the tidy one has no idle zero, a digit on each side of its point, and an
exponent only where the value is too large or too small to do without.

* `Led`, `Apart`: digits without an idle zero in front of others, or that differ by more than zeros behind;
* `parts_eq`: such digits on both sides of a point are determined by their value;
* `Numeral.Tidy`: the tidy numerals; `Tidy.magnitude_cases`: how large they are;
* **`Tidy.eq_of_magnitude`**: two tidy numerals of one sign and one value are the same.
-/

namespace Dataset.Number

open Text (decimalValue isDigit)

/-! ## 1. Digits and their value -/

/-- Zeros in front of digits are worth nothing. -/
theorem decimalValue_leadingZeros (k : Nat) (ds : List Char) :
    decimalValue (List.replicate k '0' ++ ds) = decimalValue ds := by
  rw [Text.decimalValue_append, Text.decimalValue_replicate_zero, Nat.zero_mul, Nat.zero_add]

/-- Zeros behind digits move these by as many places. -/
theorem decimalValue_trailingZeros (ds : List Char) (k : Nat) :
    decimalValue (ds ++ List.replicate k '0') = decimalValue ds * 10 ^ k := by
  rw [Text.decimalValue_append, Text.decimalValue_replicate_zero, List.length_replicate, Nat.add_zero]

theorem isDigit_of_mem_zeros {k : Nat} {c : Char} (h : c ∈ List.replicate k '0') :
    isDigit c = true := by
  rw [List.eq_of_mem_replicate h]
  decide

/-- Digits are told apart by what they are worth. -/
theorem eq_of_digitValue {c d : Char} (digit : isDigit c = true) (digit' : isDigit d = true)
    (same : Text.digitValue c = Text.digitValue d) : c = d := by
  have low := (Text.toNat_of_isDigit digit).1
  have low' := (Text.toNat_of_isDigit digit').1
  have codes : c.toNat = d.toNat := by
    unfold Text.digitValue at same
    have zero : '0'.toNat = 48 := rfl
    omega
  exact Char.ext (UInt32.toNat_inj.1 codes)

variable {ds es : List Char}

/-- What stands before some places and what stands at them are told from their sum. -/
theorem eq_of_places {x y a b B : Nat} (small : a < B) (small' : b < B)
    (same : x * B + a = y * B + b) : x = y ∧ a = b := by
  have pos : 0 < B := Nat.zero_lt_of_lt small
  have front (z : Nat) {c : Nat} (less : c < B) : (z * B + c) / B = z := by
    rw [Nat.add_comm, Nat.add_mul_div_right _ _ pos, Nat.div_eq_of_lt less, Nat.zero_add]
  have first : x = y := by rw [← front x small, ← front y small', same]
  exact ⟨first, Nat.add_left_cancel (first ▸ same)⟩

/-- As many digits that are worth the same are the same. -/
theorem eq_of_decimalValue (all : ∀ c ∈ ds, isDigit c = true) (all' : ∀ c ∈ es, isDigit c = true)
    (length : ds.length = es.length) (same : decimalValue ds = decimalValue es) : ds = es := by
  induction ds generalizing es with
  | nil => exact (List.length_eq_zero_iff.1 length.symm).symm
  | cons d ds ih =>
    obtain ⟨e, es, rfl⟩ := List.exists_cons_of_length_eq_add_one length.symm
    obtain ⟨digit, rest⟩ := List.forall_mem_cons.1 all
    obtain ⟨digit', rest'⟩ := List.forall_mem_cons.1 all'
    have length : ds.length = es.length := Nat.succ.inj length
    have small := Text.decimalValue_lt rest
    have small' := Text.decimalValue_lt rest'
    rw [Text.decimalValue_cons, Text.decimalValue_cons, ← length] at same
    rw [← length] at small'
    obtain ⟨first, behind⟩ := eq_of_places small small' same
    rw [eq_of_digitValue digit digit' first, ih rest rest' length behind]

/-! ## 2. Digits without idle zeros -/

/-- There is a digit, and no zero in front of others. -/
structure Led (ds : List Char) : Prop where
  given : ds ≠ []
  leads : ds.head? = some '0' → ds = ['0']
  all_digits : ∀ c ∈ ds, isDigit c = true

/-- Digits that begin with no zero are worth their first place at least. -/
theorem le_decimalValue (given : ds ≠ []) (all : ∀ c ∈ ds, isDigit c = true)
    (leads : ds.head? ≠ some '0') : 10 ^ (ds.length - 1) ≤ decimalValue ds := by
  obtain ⟨d, ds, rfl⟩ := List.exists_cons_of_ne_nil given
  have first : 1 ≤ Text.digitValue d := by
    refine Nat.one_le_iff_ne_zero.2 fun zero => leads ?_
    rw [eq_of_digitValue (all d (.head _)) (by decide : isDigit '0' = true) zero]
    rfl
  rw [Text.decimalValue_cons, List.length_cons, Nat.add_sub_cancel]
  exact le_add_right (Nat.le_mul_of_pos_left _ first)

/-- **A number has one row of digits without idle zeros in front.** -/
theorem Led.eq (led : Led ds) (led' : Led es) (same : decimalValue ds = decimalValue es) : ds = es := by
  have zero {ds es : List Char} (led : Led ds) (zero : ds.head? = some '0')
      (same : decimalValue ds = decimalValue es) (led' : Led es) : es = ['0'] := by
    by_contra other
    have some_es : 10 ^ (es.length - 1) ≤ decimalValue es :=
      le_decimalValue led'.given led'.all_digits fun h => other (led'.leads h)
    rw [← same, led.leads zero] at some_es
    exact absurd some_es (not_le.2 (Nat.pow_pos (by decide)))
  by_cases h : ds.head? = some '0'
  · rw [led.leads h, zero led h same led']
  by_cases h' : es.head? = some '0'
  · rw [led'.leads h', zero led' h' same.symm led]
  have low := le_decimalValue led.given led.all_digits h
  have low' := le_decimalValue led'.given led'.all_digits h'
  have high := Text.decimalValue_lt led.all_digits
  have high' := Text.decimalValue_lt led'.all_digits
  rw [same] at low high
  have some_ds := List.length_pos_iff.2 led.given
  have some_es := List.length_pos_iff.2 led'.given
  have below := (Nat.pow_lt_pow_iff_right (by decide)).1 (lt_of_le_of_lt low high')
  have below' := (Nat.pow_lt_pow_iff_right (by decide)).1 (lt_of_le_of_lt low' high)
  exact eq_of_decimalValue led.all_digits led'.all_digits (by omega) same

/-- **The digits of a number are those without idle zeros in front** that are worth it. -/
theorem led_iff {n : Nat} : Led ds ∧ decimalValue ds = n ↔ ds = digitsOf n := by
  have led : Led (digitsOf n) := {
    given := Nat.toDigits_ne_nil
    leads := fun zero => by
      rcases Nat.eq_zero_or_pos n with rfl | some_n
      · rfl
      · exact absurd zero (head?_digitsOf some_n)
    all_digits := fun _ among => Text.isDigit_of_mem_toDigits among }
  constructor
  · rintro ⟨led', rfl⟩
    exact led'.eq led (Text.decimalValue_toDigits _).symm
  · rintro rfl
    exact ⟨led, Text.decimalValue_toDigits n⟩

/-- Of two rows of digits none is the other with further zeros at its end. -/
def Apart (ds es : List Char) : Prop := ∀ k, es ≠ ds ++ List.replicate (k + 1) '0'

theorem eq_of_filled {i j : Nat} (filled : ds ++ List.replicate i '0' = es ++ List.replicate j '0')
    (apart : Apart ds es) (apart' : Apart es ds) : ds = es := by
  have shorter {ds es : List Char} {i j : Nat} (apart : Apart ds es)
      (split : ∃ more, es = ds ++ more ∧ List.replicate i '0' = more ++ List.replicate j '0') :
      ds = es := by
    obtain ⟨more, rfl, zeros⟩ := split
    have all : ∀ c ∈ more, c = '0' := fun c hc =>
      List.eq_of_mem_replicate (zeros ▸ List.mem_append_left _ hc)
    rw [List.eq_replicate_of_mem all] at apart ⊢
    cases length : more.length with
    | zero => exact (List.append_nil _).symm
    | succ k => exact absurd (by rw [length]) (apart k)
  rcases List.append_eq_append_iff.1 filled with split | ⟨more, rfl, zeros⟩
  · exact shorter apart split
  · exact (shorter apart' ⟨more, rfl, zeros⟩).symm

variable {ps qs : List Char}

/-- **Digits before and behind a point are determined by their value**, if there are no idle zeros. -/
theorem parts_eq (led : Led ps) (led' : Led qs) (all : ∀ c ∈ ds, isDigit c = true)
    (all' : ∀ c ∈ es, isDigit c = true) (apart : Apart ds es) (apart' : Apart es ds)
    (same : (decimalValue (ps ++ ds) * 10 ^ (-(ds.length : Int)) : ℚ) =
      decimalValue (qs ++ es) * 10 ^ (-(es.length : Int))) : ps = qs ∧ ds = es := by
  -- both are filled up with zeros to one number of places
  have filled : decimalValue (ps ++ (ds ++ List.replicate es.length '0')) =
      decimalValue (qs ++ (es ++ List.replicate ds.length '0')) := by
    rw [← List.append_assoc, ← List.append_assoc, decimalValue_trailingZeros,
      decimalValue_trailingZeros]
    rw [zpow_neg, zpow_neg, zpow_natCast, zpow_natCast, ← div_eq_mul_inv, ← div_eq_mul_inv,
      div_eq_div_iff (by positivity) (by positivity)] at same
    exact_mod_cast same
  have length : (ds ++ List.replicate es.length '0').length =
      (es ++ List.replicate ds.length '0').length := by
    rw [List.length_append, List.length_append, List.length_replicate, List.length_replicate,
      Nat.add_comm]
  have digits {ds : List Char} (all : ∀ c ∈ ds, isDigit c = true) (k : Nat) :
      ∀ c ∈ ds ++ List.replicate k '0', isDigit c = true :=
    fun c hc => (List.mem_append.1 hc).elim (all c) isDigit_of_mem_zeros
  have small := Text.decimalValue_lt (digits all es.length)
  have small' := Text.decimalValue_lt (digits all' ds.length)
  rw [Text.decimalValue_append, Text.decimalValue_append qs, length] at filled
  obtain ⟨front, behind⟩ := eq_of_places (length ▸ small) small' filled
  exact ⟨led.eq led' front,
    eq_of_filled (eq_of_decimalValue (digits all _) (digits all' _) length behind) apart apart'⟩

/-! ## 3. Tidy numerals -/

/-- The most digits before the point of a numeral without an exponent. -/
def mostWhole : Nat := 16

/-- The zeros behind a point that call for an exponent. -/
def manyZeros : List Char := List.replicate 5 '0'

/-- A numeral without idle zeros: digits on both sides of a point, neither too many before it nor too many
    zeros behind it, or one digit before the point and an exponent that says for itself that it is needed. -/
inductive Numeral.Tidy (n : Numeral) : Prop where
  | pointed {ds : List Char} (exponent : n.exponent = none) (fraction : n.fraction = some ds)
      (closed : ds = ['0'] ∨ ds.getLast? ≠ some '0') (short : n.integral.length ≤ mostWhole)
      (near : n.integral = ['0'] → ds = ['0'] ∨ ¬ manyZeros <+: ds) : n.Tidy
  | scaled {e : Exponent} (exponent : n.exponent = some e) (letter : e.letter = 'e')
      (sign : e.sign ≠ []) (leads : e.digits.head? ≠ some '0') (far : e.value < -5 ∨ 15 < e.value)
      (single : n.integral.length = 1) (some_digit : n.integral ≠ ['0'])
      (closed : n.behind.getLast? ≠ some '0') : n.Tidy

variable {n m : Numeral}

theorem Numeral.InJson.led (h : n.InJson) : Led n.integral :=
  ⟨h.whole, h.leads, fun c hc => n.all_digits c (List.mem_append_left _ hc)⟩

theorem Numeral.isDigit_of_mem_behind {c : Char} (hc : c ∈ n.behind) : isDigit c = true :=
  n.all_digits c (List.mem_append_right _ hc)

/-- Without an exponent the digits count from the point on. -/
theorem Numeral.magnitude_of_none (exponent : n.exponent = none) :
    n.magnitude = decimalValue (n.integral ++ n.behind) * 10 ^ (-(n.behind.length : Int)) := by
  rw [magnitude, tens, exponent, Option.map_none, Option.getD_none, zero_sub]

/-- An exponent moves the point. -/
theorem Numeral.magnitude_of_some {e : Exponent} (exponent : n.exponent = some e) :
    n.magnitude = decimalValue (n.integral ++ n.behind) * 10 ^ (-(n.behind.length : Int)) *
      10 ^ e.value := by
  rw [magnitude, tens, exponent, Option.map_some, Option.getD_some, mul_assoc,
    ← zpow_add₀ (by norm_num), neg_add_eq_sub]

theorem magnitude_lt_of_none (exponent : n.exponent = none) : n.magnitude < 10 ^ n.integral.length := by
  have high : (decimalValue (n.integral ++ n.behind) : ℚ) < 10 ^ (n.integral ++ n.behind).length := by
    exact_mod_cast Text.decimalValue_lt n.all_digits
  rw [n.magnitude_of_none exponent, zpow_neg, zpow_natCast, ← div_eq_mul_inv,
    div_lt_iff₀ (by positivity), ← pow_add, ← List.length_append]
  exact high

/-- A numeral that begins with no zero is worth its first digit at least. -/
theorem le_digits_of_leads (inJson : n.InJson) (leads : n.integral ≠ ['0']) :
    (10 : ℚ) ^ (n.integral.length - 1) ≤
      decimalValue (n.integral ++ n.behind) * 10 ^ (-(n.behind.length : Int)) := by
  have first : (n.integral ++ n.behind).head? ≠ some '0' := by
    rw [List.head?_append_of_ne_nil _ inJson.whole]
    exact fun h => leads (inJson.leads h)
  have given : n.integral ++ n.behind ≠ [] := by simp [inJson.whole]
  have low : ((10 ^ ((n.integral ++ n.behind).length - 1) : ℕ) : ℚ) ≤
      decimalValue (n.integral ++ n.behind) := by
    exact_mod_cast le_decimalValue given n.all_digits first
  have some_digit := List.length_pos_iff.2 inJson.whole
  rw [zpow_neg, zpow_natCast, ← div_eq_mul_inv, le_div_iff₀ (by positivity), ← pow_add]
  refine le_trans (le_of_eq ?_) low
  rw [List.length_append, Nat.cast_pow, Nat.cast_ofNat]
  congr 1
  omega

/-- Digits behind a point are worth something in the first five places, unless there is only zero. -/
theorem le_fraction {ds : List Char} (all : ∀ c ∈ ds, isDigit c = true) (given : ds ≠ [])
    (closed : ds.getLast? ≠ some '0') (near : ¬ manyZeros <+: ds) :
    (10 : ℚ) ^ (-5 : Int) ≤ decimalValue ds * 10 ^ (-(ds.length : Int)) := by
  have split : List.replicate (ds.takeWhile (· == '0')).length '0' ++ ds.dropWhile (· == '0') = ds := by
    have zeros : ∀ c ∈ ds.takeWhile (· == '0'), c = '0' := fun c hc => by
      simpa using List.mem_takeWhile_imp hc
    rw [← List.eq_replicate_of_mem zeros, List.takeWhile_append_dropWhile]
  generalize (ds.takeWhile (· == '0')).length = i at split
  have leads : (ds.dropWhile (· == '0')).head? ≠ some '0' := by
    intro zero
    have other := List.head?_dropWhile_not (· == '0') ds
    rw [zero] at other
    simp at other
  generalize ds.dropWhile (· == '0') = more at split leads
  subst split
  have some_more : more ≠ [] := by
    rintro rfl
    cases i with
    | zero => exact given rfl
    | succ i => exact closed (by simp [List.replicate_succ'])
  have few : i < 5 := by
    refine not_le.1 fun many => near ⟨List.replicate (i - 5) '0' ++ more, ?_⟩
    rw [manyZeros, ← List.append_assoc, List.replicate_append_replicate, Nat.add_sub_cancel' many]
  have low : ((10 ^ (more.length - 1) : ℕ) : ℚ) ≤ decimalValue more := by
    exact_mod_cast le_decimalValue some_more (fun c hc => all c (List.mem_append_right _ hc)) leads
  have some_length := List.length_pos_iff.2 some_more
  rw [decimalValue_leadingZeros]
  refine le_trans ?_ (mul_le_mul_of_nonneg_right low (by positivity))
  rw [Nat.cast_pow, Nat.cast_ofNat, ← zpow_natCast, ← zpow_add₀ (by norm_num)]
  refine zpow_le_zpow_right₀ (by norm_num) ?_
  rw [List.length_append, List.length_replicate]
  omega

/-- **How large a tidy numeral is**: without an exponent it is zero or stands in the range that needs none,
    and with an exponent outside of it, in the decade that the exponent names. -/
theorem Numeral.Tidy.magnitude_cases (tidy : n.Tidy) (inJson : n.InJson) :
    (n.exponent = none ∧ (n.magnitude = 0 ∨ 10 ^ (-5 : Int) ≤ n.magnitude) ∧
      n.magnitude < 10 ^ mostWhole) ∨
    ∃ e, n.exponent = some e ∧ (e.value < -5 ∨ 15 < e.value) ∧ 10 ^ e.value ≤ n.magnitude ∧
      n.magnitude < 10 ^ (e.value + 1) := by
  cases tidy with
  | @pointed ds exponent fraction closed short near =>
    have behind : n.behind = ds := by rw [behind, fraction, Option.getD_some]
    have high := magnitude_lt_of_none exponent
    refine .inl ⟨exponent, ?_, high.trans_le (pow_le_pow_right₀ (by norm_num) short)⟩
    rw [n.magnitude_of_none exponent]
    by_cases zero : n.integral = ['0']
    · have value : decimalValue (n.integral ++ n.behind) = decimalValue ds := by
        rw [zero, behind]
        exact decimalValue_leadingZeros 1 ds
      rw [value, behind]
      by_cases none : ds = ['0']
      · subst none
        exact .inl (by simp [decimalValue, Text.digitValue])
      · refine .inr (le_fraction ?_ ?_ (closed.resolve_left none) ((near zero).resolve_left none))
        · exact behind ▸ fun c hc => n.isDigit_of_mem_behind hc
        · rintro rfl
          exact inJson.behind fraction
    · have low := le_digits_of_leads inJson zero
      refine .inr (le_trans ?_ low)
      exact le_trans (by norm_num) (one_le_pow₀ (by norm_num))
  | @scaled e exponent letter sign leads far single some_digit closed =>
    have low := le_digits_of_leads inJson some_digit
    have ten : (0 : ℚ) < 10 ^ e.value := by positivity
    rw [single] at low
    have high : (decimalValue (n.integral ++ n.behind) : ℚ) < 10 ^ (n.integral ++ n.behind).length := by
      exact_mod_cast Text.decimalValue_lt n.all_digits
    have high' : (decimalValue (n.integral ++ n.behind) : ℚ) * 10 ^ (-(n.behind.length : Int)) < 10 := by
      rw [zpow_neg, zpow_natCast, ← div_eq_mul_inv, div_lt_iff₀ (by positivity), ← pow_succ',
        Nat.add_comm]
      rw [List.length_append, single] at high
      exact high
    refine .inr ⟨e, exponent, far, ?_, ?_⟩
    · rw [n.magnitude_of_some exponent]
      exact le_mul_of_one_le_left ten.le (by simpa using low)
    · rw [n.magnitude_of_some exponent, zpow_add_one₀ (by norm_num), mul_comm (10 ^ e.value)]
      exact mul_lt_mul_of_pos_right high' ten

/-! ## 4. One numeral for a value -/

theorem Numeral.eq_of_parts (sign : n.sign = m.sign) (integral : n.integral = m.integral)
    (fraction : n.fraction = m.fraction) (exponent : n.exponent = m.exponent) : n = m := by
  cases n
  cases m
  cases sign
  cases integral
  cases fraction
  cases exponent
  rfl

theorem apart_of_last (closed : es.getLast? ≠ some '0') : Apart ds es := by
  rintro k rfl
  rw [List.replicate_succ', ← List.append_assoc, List.getLast?_concat] at closed
  exact closed rfl

theorem apart_of_closed (given : ds ≠ []) (closed : es = ['0'] ∨ es.getLast? ≠ some '0') :
    Apart ds es := by
  rcases closed with rfl | closed
  · intro k same
    have length := congrArg List.length same
    have some_ds := List.length_pos_iff.2 given
    rw [List.length_append, List.length_replicate, List.length_singleton] at length
    omega
  · exact apart_of_last closed

theorem Numeral.InJson.sign_eq_of_negative (h : n.InJson) (h' : m.InJson)
    (same : n.negative = m.negative) : n.sign = m.sign := by
  unfold Numeral.negative at same
  rcases h.sign_eq with sign | sign <;> rcases h'.sign_eq with sign' | sign' <;>
    rw [sign, sign'] at same ⊢ <;> cases same

theorem Numeral.InJson.fraction_eq (h : n.InJson) (h' : m.InJson) (same : n.behind = m.behind) :
    n.fraction = m.fraction := by
  have some_digit := h.behind
  have some_digit' := h'.behind
  unfold Numeral.behind at same
  cases fraction : n.fraction <;> cases fraction' : m.fraction <;> simp_all

/-- An exponent that is not zero, with a sign and no idle zeros, is determined by its value. -/
theorem exponent_eq {e f : Exponent} (letter : e.letter = 'e') (letter' : f.letter = 'e')
    (sign : e.sign ≠ []) (sign' : f.sign ≠ []) (leads : e.digits.head? ≠ some '0')
    (leads' : f.digits.head? ≠ some '0') (same : e.value = f.value) : e = f := by
  have some_digit {e : Exponent} (leads : e.digits.head? ≠ some '0') :
      0 < decimalValue e.digits :=
    (Nat.pow_pos (by decide)).trans_le (le_decimalValue e.given e.all_digits leads)
  have led {e : Exponent} (leads : e.digits.head? ≠ some '0') : Led e.digits :=
    ⟨e.given, fun h => absurd h leads, e.all_digits⟩
  have pos := some_digit leads
  have pos' := some_digit leads'
  have parts : e.sign = f.sign ∧ decimalValue e.digits = decimalValue f.digits := by
    unfold Exponent.value at same
    rcases e.sign_of.resolve_left sign with s | s <;> rcases f.sign_of.resolve_left sign' with t | t
    · rw [if_pos s, if_pos t] at same
      exact ⟨s.trans t.symm, by omega⟩
    · rw [if_pos s, if_neg (by simp [t])] at same
      omega
    · rw [if_neg (by simp [s]), if_pos t] at same
      omega
    · rw [if_neg (by simp [s]), if_neg (by simp [t])] at same
      exact ⟨s.trans t.symm, by omega⟩
  have digits := (led leads).eq (led leads') parts.2
  have sign := parts.1
  cases e
  cases f
  cases sign
  cases digits
  cases letter
  cases letter'
  rfl

theorem lt_of_zpow {k l : Int} (h : (10 : ℚ) ^ k < 10 ^ l) : k < l :=
  (zpow_lt_zpow_iff_right₀ (by norm_num)).1 h

/-- No value needs an exponent and needs none. -/
theorem Numeral.Tidy.exponent_eq_none (tidy : n.Tidy) (inJson : n.InJson) (tidy' : m.Tidy)
    (inJson' : m.InJson) (same : n.magnitude = m.magnitude) (bare : n.exponent = none) :
    m.exponent = none := by
  rcases tidy.magnitude_cases inJson with ⟨-, low, high⟩ | ⟨e, exponent, -⟩
  · rcases tidy'.magnitude_cases inJson' with ⟨exponent, -⟩ | ⟨f, -, far, low', high'⟩
    · exact exponent
    rw [same] at low high
    exfalso
    have pos : 0 < m.magnitude := lt_of_lt_of_le (by positivity) low'
    rcases far with small | large
    · have := lt_of_zpow (lt_of_le_of_lt (low.resolve_left pos.ne') high')
      omega
    · have : (10 : ℚ) ^ f.value < 10 ^ (16 : Int) := lt_of_le_of_lt low' high
      have := lt_of_zpow this
      omega
  · rw [bare] at exponent
    cases exponent

/-- Exponents that are needed for one value are the same. -/
theorem Numeral.Tidy.value_eq (tidy : n.Tidy) (inJson : n.InJson) (tidy' : m.Tidy) (inJson' : m.InJson)
    (same : n.magnitude = m.magnitude) {e f : Exponent} (exponent : n.exponent = some e)
    (exponent' : m.exponent = some f) : e.value = f.value := by
  have decade {n : Numeral} {e : Exponent} (tidy : n.Tidy) (inJson : n.InJson)
      (exponent : n.exponent = some e) :
      10 ^ e.value ≤ n.magnitude ∧ n.magnitude < 10 ^ (e.value + 1) := by
    rcases tidy.magnitude_cases inJson with ⟨bare, -⟩ | ⟨e', exponent', -, decade⟩
    · rw [exponent] at bare
      cases bare
    · rw [exponent] at exponent'
      obtain rfl := Option.some.inj exponent'
      exact decade
  obtain ⟨low, high⟩ := decade tidy inJson exponent
  obtain ⟨low', high'⟩ := decade tidy' inJson' exponent'
  rw [same] at low high
  have := lt_of_zpow (lt_of_le_of_lt low high')
  have := lt_of_zpow (lt_of_le_of_lt low' high)
  omega

/-- **Two tidy numerals of one sign and one value are the same.** -/
theorem Numeral.Tidy.eq_of_magnitude (tidy : n.Tidy) (inJson : n.InJson) (tidy' : m.Tidy)
    (inJson' : m.InJson) (sign : n.negative = m.negative) (same : n.magnitude = m.magnitude) :
    n = m := by
  have signs := inJson.sign_eq_of_negative inJson' sign
  cases exponent : n.exponent with
  | none =>
    have exponent' := tidy.exponent_eq_none inJson tidy' inJson' same exponent
    rw [n.magnitude_of_none exponent, m.magnitude_of_none exponent'] at same
    have pointed {n : Numeral} (tidy : n.Tidy) (inJson : n.InJson) (exponent : n.exponent = none) :
        n.behind ≠ [] ∧ (n.behind = ['0'] ∨ n.behind.getLast? ≠ some '0') := by
      cases tidy with
      | @pointed ds _ fraction closed =>
        have behind : n.behind = ds := by rw [behind, fraction, Option.getD_some]
        exact ⟨fun empty => inJson.behind (by rw [fraction, ← behind, empty]), behind ▸ closed⟩
      | scaled exponent' => exact absurd exponent (by simp [exponent'])
    obtain ⟨given, closed⟩ := pointed tidy inJson exponent
    obtain ⟨given', closed'⟩ := pointed tidy' inJson' exponent'
    obtain ⟨integral, behind⟩ := parts_eq inJson.led inJson'.led (fun _ => n.isDigit_of_mem_behind)
      (fun _ => m.isDigit_of_mem_behind) (apart_of_closed given closed')
      (apart_of_closed given' closed) same
    exact n.eq_of_parts signs integral (inJson.fraction_eq inJson' behind)
      (exponent.trans exponent'.symm)
  | some e =>
    cases exponent' : m.exponent with
    | none =>
      have bare := tidy'.exponent_eq_none inJson' tidy inJson same.symm exponent'
      exact absurd exponent (by simp [bare])
    | some f =>
      have value := tidy.value_eq inJson tidy' inJson' same exponent exponent'
      have ten : (10 : ℚ) ^ f.value ≠ 0 := by positivity
      rw [n.magnitude_of_some exponent, m.magnitude_of_some exponent', value,
        mul_left_inj' ten] at same
      cases tidy with
      | pointed bare => exact absurd exponent (by simp [bare])
      | @scaled e' at_e letter sign leads _ _ _ closed =>
        cases tidy' with
        | pointed bare => exact absurd exponent' (by simp [bare])
        | @scaled f' at_f letter' sign' leads' _ _ _ closed' =>
          obtain rfl := Option.some.inj (exponent.symm.trans at_e)
          obtain rfl := Option.some.inj (exponent'.symm.trans at_f)
          obtain ⟨integral, behind⟩ := parts_eq inJson.led inJson'.led
            (fun _ => n.isDigit_of_mem_behind) (fun _ => m.isDigit_of_mem_behind)
            (apart_of_last closed') (apart_of_last closed) same
          refine n.eq_of_parts signs integral (inJson.fraction_eq inJson' behind) ?_
          rw [exponent, exponent', exponent_eq letter letter' sign sign' leads leads' value]

end Dataset.Number
