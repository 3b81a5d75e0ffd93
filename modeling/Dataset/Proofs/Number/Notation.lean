import Dataset.Number.Notation
import Dataset.Proofs.Number.Layout

/-!
# Numbers in JSON

A number of JSON is a numeral of a narrower form, and denotes the value of the numeral. What is written
for an integer and for a finite real number is such a number.

* `Numeral.eq_of_chars`: a numeral is what is written;
* `Json.Denotes`: a text is a number of JSON and denotes a value, one at most (`Json.Denotes.unique`);
* `denotes_ofInt`: an integer is denoted by its digits;
* `jsonDecimal_spec`: a decimal number is written as a tidy numeral;
* **`denotes_realText`**: a finite real number is written as the shortest decimal number that reads back.
-/

namespace Dataset

open Number (Numeral Exponent Decimal)
open Text (decimalValue)

/-- A text is a number of JSON, and denotes `q`. -/
def Json.Denotes (text : String) (q : ℚ) : Prop :=
  Json.skipNumber text.toList = .ok [] ∧ ∃ n : Numeral, text.toList = n.chars ∧ n.toRat = q

namespace Number

/-! ## 1. One value for a text -/

/-- A sign and what stands behind it are told apart. -/
theorem eq_of_signs {s t a b : List Char} (sign : IsSign s) (sign' : IsSign t)
    (stop : ∀ c ∈ a.head?, c ≠ '-' ∧ c ≠ '+') (stop' : ∀ c ∈ b.head?, c ≠ '-' ∧ c ≠ '+')
    (same : s ++ a = t ++ b) : s = t ∧ a = b := by
  have parts := congrArg signOf same
  rw [signOf_append sign stop, signOf_append sign' stop', Prod.mk.injEq] at parts
  obtain ⟨-, rfl⟩ := parts
  exact ⟨List.append_cancel_right same, rfl⟩

/-- Exponents that are written alike are the same. -/
theorem exponent_eq_of_chars {e f : Option Exponent} (same : exponentChars e = exponentChars f) :
    e = f := by
  have digit (e : Exponent) : ∀ c ∈ e.digits.head?, c ≠ '-' ∧ c ≠ '+' := fun c hc =>
    (of_isDigit (e.all_digits c (List.mem_of_mem_head? hc))).2.2.2.2
  cases e with
  | none => cases f <;> cases same; rfl
  | some e =>
    cases f with
    | none => cases same
    | some f =>
      obtain ⟨letter, rest⟩ := List.cons.inj same
      obtain ⟨sign, digits⟩ := eq_of_signs e.sign_of f.sign_of (digit e) (digit f) rest
      cases e
      cases f
      cases letter
      cases sign
      cases digits
      rfl

theorem noSpaces : ∀ c ∈ ([] : List Char), isSpace c = true := by simp

/-- **Numerals that are written alike are the same.** -/
theorem Numeral.eq_of_chars {n m : Numeral} (same : n.chars = m.chars) : n = m := by
  have stop (n : Numeral) : ∀ c ∈ (n.integral ++
      (fractionChars n.fraction ++ exponentChars n.exponent)).head?, c ≠ '-' ∧ c ≠ '+' := by
    intro c hc
    rcases head_integral n _ c hc with digit | rfl
    · exact (of_isDigit digit).2.2.2.2
    · decide
  obtain ⟨sign, rest⟩ := eq_of_signs n.sign_of m.sign_of (stop n) (stop m) same
  have whole (n : Numeral) := span_integral n noSpaces
  have points (n : Numeral) := fractionOf_chars n noSpaces
  simp only [List.append_nil] at whole points
  have integral := congrArg (List.takeWhile Text.isDigit) rest
  rw [(whole n).1, (whole m).1] at integral
  have behind := congrArg (fractionOf ∘ List.dropWhile Text.isDigit) rest
  simp only [Function.comp_apply, (whole n).2, (whole m).2, points, Prod.mk.injEq] at behind
  obtain ⟨point, digits, exponents⟩ := behind
  refine eq_of_parts sign integral ?_ (exponent_eq_of_chars exponents)
  unfold Numeral.behind at digits
  cases fraction : n.fraction <;> cases fraction' : m.fraction <;> simp_all

end Number

/-- A text denotes one number at most. -/
theorem Json.Denotes.unique {text : String} {p q : ℚ} (h : Json.Denotes text p)
    (h' : Json.Denotes text q) : p = q := by
  obtain ⟨-, n, chars, rfl⟩ := h
  obtain ⟨-, m, chars', rfl⟩ := h'
  rw [Number.Numeral.eq_of_chars (chars.symm.trans chars')]

namespace Number

/-! ## 2. What is written -/

/-- The numeral with a minus sign or without a sign. -/
def Numeral.withSign (negative : Bool) (n : Numeral) : Numeral :=
  { n with
    sign := if negative then ['-'] else []
    sign_of := by cases negative <;> simp [IsSign] }

theorem Numeral.toRat_withSign (negative : Bool) (n : Numeral) :
    (n.withSign negative).toRat = signed negative n.magnitude := by
  cases negative <;> rfl

theorem Numeral.InJson.withSign {n : Numeral} (h : n.InJson) (negative : Bool) :
    (n.withSign negative).InJson :=
  ⟨by cases negative <;> simp [Numeral.withSign], h.whole, h.leads, h.behind⟩

theorem Numeral.Tidy.withSign {n : Numeral} (tidy : n.Tidy) (negative : Bool) :
    (n.withSign negative).Tidy := by
  cases tidy with
  | pointed exponent fraction closed short near => exact .pointed exponent fraction closed short near
  | scaled exponent letter sign leads far single some_digit closed =>
    exact .scaled exponent letter sign leads far single some_digit closed

theorem Numeral.negative_withSign (n : Numeral) (negative : Bool) :
    (n.withSign negative).negative = negative := by
  cases negative <;> rfl

/-- A numeral without a sign, behind a minus sign or not. -/
theorem Numeral.toList_withSign {text : String} {n : Numeral} (bare : n.sign = [])
    (written : text.toList = n.chars) (negative : Bool) :
    ((if negative then "-" else "") ++ text).toList = (n.withSign negative).chars := by
  rw [Numeral.chars, bare, List.nil_append] at written
  rw [String.toList_append, written]
  cases negative <;> rfl

/-- A text that is written for a magnitude is a number of JSON with a minus sign in front of it, too. -/
theorem denotes_withSign (negative : Bool) {text : String} {n : Numeral} (bare : n.sign = [])
    (h : n.InJson) (written : text.toList = n.chars) :
    Json.Denotes ((if negative then "-" else "") ++ text) (signed negative n.magnitude) := by
  have chars := Numeral.toList_withSign bare written negative
  have passed := skipNumber_append (h.withSign negative) (Ends.nil.stops _)
  rw [List.append_nil, ← chars] at passed
  exact ⟨passed, _, chars, n.toRat_withSign negative⟩

/-- The digits of a natural number. -/
def Numeral.ofNat (k : Nat) : Numeral where
  sign := []
  integral := digitsOf k
  fraction := none
  exponent := none
  sign_of := .inl rfl
  given := by simp [digitsOf, Nat.toDigits_ne_nil]
  all_digits c hc := Text.isDigit_of_mem_toDigits (by simpa [digitsOf] using hc)

theorem Numeral.magnitude_ofNat (k : Nat) : (ofNat k).magnitude = k := by
  simp [magnitude, ofNat, behind, tens, digitsOf, Text.decimalValue_toDigits]

theorem Numeral.inJson_ofNat (k : Nat) : (ofNat k).InJson where
  noPlus := by simp [ofNat]
  whole := Nat.toDigits_ne_nil
  leads zero := by
    rcases Nat.eq_zero_or_pos k with rfl | some_k
    · rfl
    · exact absurd zero (head?_digitsOf some_k)
  behind := by simp [ofNat]

/-- **An integer is denoted by its digits.** -/
theorem denotes_ofInt (k : Int) : Json.Denotes (Text.ofInt k) k := by
  have written (m : Nat) : (Text.ofNat m).toList = (Numeral.ofNat m).chars := by
    simp [Text.ofNat, Numeral.chars, Numeral.ofNat, digitsOf, fractionChars, exponentChars]
  have denotes (negative : Bool) (m : Nat) :=
    denotes_withSign negative rfl (Numeral.inJson_ofNat m) (written m)
  cases k with
  | ofNat m => simpa [Text.ofInt, signed, Numeral.magnitude_ofNat] using denotes false m
  | negSucc m =>
    have minus := denotes true (m + 1)
    rw [Numeral.magnitude_ofNat] at minus
    simpa [Text.ofInt, signed, Int.cast_negSucc] using minus

variable {d : Decimal}

/-- A decimal number has no zero at its end. -/
def Decimal.Trimmed (d : Decimal) : Prop := d.digits.getLast? ≠ some '0'

theorem trimmed_ofScaled (k : Nat) (e : Int) : (Decimal.ofScaled k e).Trimmed := by
  intro zero
  have other := List.head?_dropWhile_not (· == '0') (digitsOf k).reverse
  rw [Decimal.ofScaled, withoutTrailingZeros, List.getLast?_reverse] at zero
  rw [zero] at other
  simp at other

theorem trimmed_shortest {d : Dyadic} (h : d.Canonical) : (shortest d).Trimmed := by
  obtain ⟨q, k, -, same, -, -⟩ := shortest_found h (by decide) (isSome_neighbour?_mostDigits h)
  rw [same]
  exact trimmed_ofScaled _ _

/-- A numeral without a sign that JSON has and that has the value of a decimal number; it is tidy if the
    digits of this have no zero at their end. -/
structure Numeral.Writes (n : Numeral) (d : Decimal) : Prop where
  bare : n.sign = []
  inJson : n.InJson
  magnitude_eq : n.magnitude = d.toRat
  tidy : d.Trimmed → n.Tidy

/-- Digits on both sides of a point. -/
theorem exists_pointed {before behind : List Char} (whole : before ≠ [])
    (leads : before.head? = some '0' → before = ['0']) (given : behind ≠ [])
    (all : ∀ c ∈ before ++ behind, Text.isDigit c = true)
    (value : (decimalValue (before ++ behind) * 10 ^ (-(behind.length : Int)) : ℚ) = d.toRat)
    (short : before.length ≤ mostWhole)
    (closed : d.Trimmed → behind = ['0'] ∨ behind.getLast? ≠ some '0')
    (near : before = ['0'] → behind = ['0'] ∨ ¬ manyZeros <+: behind) :
    ∃ n : Numeral, n.Writes d ∧ before ++ '.' :: behind = n.chars := by
  refine ⟨⟨[], before, some behind, none, .inl rfl, by simp [given], all⟩,
    ⟨rfl, ⟨by simp, whole, leads, by simp [given]⟩, ?_, ?_⟩, ?_⟩
  · rw [Numeral.magnitude, ← value, ← zero_sub]
    rfl
  · exact fun trimmed => .pointed rfl rfl (closed trimmed) short near
  · simp [Numeral.chars, fractionChars, exponentChars]

theorem Decimal.Proper.head?_ne (h : d.Proper) {before behind : List Char}
    (split : d.digits = before ++ behind) (given : before ≠ []) : before.head? ≠ some '0' := by
  have leads := h.leads
  rwa [split, List.head?_append_of_ne_nil _ given] at leads

/-- The digits stand behind the point, with zeros between. -/
theorem positional_of_neg (h : d.Proper) (small : d.exp < 0) (near : jsonLeast ≤ d.exp) :
    ∃ n : Numeral, n.Writes d ∧ (positional d).toList = n.chars := by
  have split : '0' :: '.' :: List.replicate (-d.exp - 1).toNat '0' ++ d.digits =
      ['0'] ++ '.' :: (List.replicate (-d.exp - 1).toNat '0' ++ d.digits) := rfl
  rw [positional, if_pos small, String.toList_ofList, split]
  refine exists_pointed (by simp) (fun _ => rfl) (by simp [h.given]) ?_ ?_ (by decide) ?_ fun _ => .inr ?_
  · intro c hc
    rw [← List.append_assoc, List.mem_append] at hc
    rcases hc with hc | hc
    · exact isDigit_of_mem_zeros (k := (-d.exp - 1).toNat + 1) hc
    · exact h.all_digits c hc
  · have leading : ['0'] ++ List.replicate (-d.exp - 1).toNat '0' =
        List.replicate ((-d.exp - 1).toNat + 1) '0' := rfl
    rw [← List.append_assoc, leading, decimalValue_leadingZeros, Decimal.toRat]
    congr 2
    rw [List.length_append, List.length_replicate]
    omega
  · intro trimmed
    rw [List.getLast?_append_of_ne_nil _ h.given]
    exact .inr trimmed
  · rintro ⟨more, zeros⟩
    have few : (-d.exp - 1).toNat ≤ 4 := by
      rw [jsonLeast] at near
      omega
    have split : manyZeros = List.replicate (-d.exp - 1).toNat '0' ++
        '0' :: List.replicate (4 - (-d.exp - 1).toNat) '0' := by
      rw [← List.replicate_succ, List.replicate_append_replicate, manyZeros]
      congr 1
      omega
    rw [split, List.append_assoc, List.append_cancel_left_eq] at zeros
    exact h.leads (by rw [← zeros]; rfl)

/-- The point stands among the digits. -/
theorem positional_of_long (h : d.Proper) (large : 0 ≤ d.exp) (near : d.exp ≤ jsonMost)
    (long : d.exp.toNat + 1 < d.digits.length) :
    ∃ n : Numeral, n.Writes d ∧ (positional d).toList = n.chars := by
  have split := (List.take_append_drop (d.exp.toNat + 1) d.digits).symm
  have before : d.digits.take (d.exp.toNat + 1) ≠ [] := by simpa using h.given
  have behind : d.digits.drop (d.exp.toNat + 1) ≠ [] := by simpa using long
  have filled : d.exp.toNat + 1 - (d.digits.take (d.exp.toNat + 1)).length = 0 := by
    rw [List.length_take]
    omega
  rw [positional, if_neg (not_lt.2 large), String.toList_ofList, filled, List.replicate_zero,
    List.append_nil, if_neg (by simpa using behind)]
  have leads := h.head?_ne split before
  refine exists_pointed before (fun zero => absurd zero leads) behind ?_ ?_ ?_ ?_ fun zero => ?_
  · rw [← split]
    exact h.all_digits
  · rw [← split, Decimal.toRat]
    congr 2
    rw [List.length_drop]
    omega
  · rw [jsonMost] at near
    rw [List.length_take, mostWhole]
    omega
  · intro trimmed
    rw [Decimal.Trimmed, split, List.getLast?_append_of_ne_nil _ behind] at trimmed
    exact .inr trimmed
  · rw [zero] at leads
    exact absurd rfl leads

/-- The digits end before the point, and zeros fill the places up to it. -/
theorem positional_of_short (h : d.Proper) (large : 0 ≤ d.exp) (near : d.exp ≤ jsonMost)
    (short : d.digits.length ≤ d.exp.toNat + 1) :
    ∃ n : Numeral, n.Writes d ∧ (positional d).toList = n.chars := by
  let zeros := d.exp.toNat + 1 - d.digits.length
  rw [positional, if_neg (not_lt.2 large), String.toList_ofList, List.take_of_length_le short,
    List.drop_eq_nil_iff.2 short, List.isEmpty_nil, if_pos rfl]
  have whole : (d.digits ++ List.replicate zeros '0') ++ ['0'] =
      d.digits ++ List.replicate (zeros + 1) '0' := by
    rw [List.replicate_succ', ← List.append_assoc]
  refine exists_pointed (by simp [h.given]) (fun zero => ?_) (by simp) ?_ ?_ ?_
    (fun _ => .inl rfl) (fun _ => .inl rfl)
  · rw [List.head?_append_of_ne_nil _ h.given] at zero
    exact absurd zero h.leads
  · rw [whole]
    intro c hc
    exact (List.mem_append.1 hc).elim (h.all_digits c) isDigit_of_mem_zeros
  · rw [whole, decimalValue_trailingZeros, Nat.cast_mul, Nat.cast_pow, Nat.cast_ofNat, mul_assoc,
      ← zpow_natCast, ← zpow_add₀ (by norm_num), Decimal.toRat]
    congr 2
    rw [List.length_singleton]
    omega
  · rw [jsonMost] at near
    rw [List.length_append, List.length_replicate, mostWhole]
    omega

/-- An exponent with its sign and without idle zeros. -/
structure Exponent.Writes (x : Exponent) (e : Int) : Prop where
  value_eq : x.value = e
  letter_eq : x.letter = 'e'
  signed : x.sign ≠ []
  leads : e ≠ 0 → x.digits.head? ≠ some '0'

theorem exists_exponent (e : Int) :
    ∃ x : Exponent, x.Writes e ∧ exponentChars (some x) = 'e' :: (exponentText 1 e).toList := by
  have all : ∀ c ∈ (Text.padded 1 e.natAbs).toList, Text.isDigit c = true :=
    fun c hc => Text.isDigit_of_mem_padded hc
  let sign := if e < 0 then ['-'] else ['+']
  have isSign : IsSign sign := by
    simp only [sign, IsSign]
    split_ifs <;> simp
  refine ⟨⟨'e', sign, (Text.padded 1 e.natAbs).toList, .inl rfl, isSign, Text.padded_ne_nil _ _, all⟩,
    ⟨?_, rfl, ?_, fun some_e => ?_⟩, ?_⟩
  · simp only [Exponent.value, sign, Text.decimalValue_padded]
    rcases lt_or_ge e 0 with negative | positive
    · rw [if_pos negative, if_pos rfl]
      omega
    · rw [if_neg (not_lt.2 positive), if_neg (by decide)]
      omega
  · simp only [sign]
    split_ifs <;> simp
  · have some_digit : 0 < (digitsOf e.natAbs).length := List.length_pos_iff.2 Nat.toDigits_ne_nil
    have unfilled : (Text.padded 1 e.natAbs).toList = digitsOf e.natAbs := by
      rw [Text.padded, String.toList_ofList, ← digitsOf, Nat.sub_eq_zero_of_le some_digit]
      rfl
    simp only [unfilled]
    exact head?_digitsOf (Int.natAbs_pos.2 some_e)
  · rw [exponentText, String.toList_append]
    simp only [exponentChars, sign]
    split_ifs <;> rfl

/-- **A decimal number is written tidily and with its value**, positionally or with an exponent. -/
theorem jsonDecimal_spec (h : d.Proper) :
    ∃ n : Numeral, n.Writes d ∧ (jsonDecimal d).toList = n.chars := by
  unfold jsonDecimal
  split_ifs with range
  · obtain ⟨least, most⟩ : jsonLeast ≤ d.exp ∧ d.exp ≤ jsonMost := by simpa using range
    rcases lt_or_ge d.exp 0 with small | large
    · exact positional_of_neg h small least
    · rcases Nat.lt_or_ge (d.exp.toNat + 1) d.digits.length with long | short
      · exact positional_of_long h large most long
      · exact positional_of_short h large most short
  · obtain ⟨first, more, digits⟩ := List.exists_cons_of_ne_nil h.given
    obtain ⟨x, writes, chars⟩ := exists_exponent d.exp
    have leads : [first].head? ≠ some '0' :=
      h.head?_ne (digits : d.digits = [first] ++ more) (by simp)
    have fraction : ((if more = [] then none else some more).getD [] : List Char) = more := by
      split_ifs with none
      · exact none.symm
      · rfl
    refine ⟨⟨[], [first], if more = [] then none else some more, some x, .inl rfl, by simp, ?_⟩,
      ⟨rfl, ⟨by simp, by simp, fun zero => absurd zero leads, ?_⟩, ?_, fun trimmed => ?_⟩, ?_⟩
    · rw [fraction, List.singleton_append, ← digits]
      exact h.all_digits
    · split_ifs with none
      · simp
      · simpa using none
    · rw [Numeral.magnitude, Numeral.behind, Decimal.toRat]
      simp only [fraction, Numeral.tens, Option.map_some, Option.getD_some, writes.value_eq,
        List.singleton_append, ← digits]
      congr 2
      rw [digits, List.length_cons]
      omega
    · have far : d.exp < -5 ∨ 15 < d.exp := by
        have least : jsonLeast = -5 := rfl
        have most : jsonMost = 15 := rfl
        simp only [Bool.and_eq_true, decide_eq_true_eq, not_and, not_le] at range
        omega
      have closed : more.getLast? ≠ some '0' := by
        cases more with
        | nil => simp
        | cons c more =>
          rw [Decimal.Trimmed, digits, List.getLast?_cons_cons] at trimmed
          exact trimmed
      refine .scaled rfl writes.letter_eq writes.signed (writes.leads (by omega))
        (by rwa [writes.value_eq]) rfl ?_ ?_
      · exact fun zero => leads (congrArg List.head? zero)
      · rwa [Numeral.behind, fraction]
    · simp only [Numeral.chars, chars, String.toList_append, String.toList_ofList, digits,
        List.take_succ_cons, List.take_zero, List.drop_succ_cons, List.drop_zero]
      cases more <;> simp [fractionChars]

/-- **A finite real number is written as the shortest decimal number that reads back**, and zero as
    zero. -/
theorem denotes_realText (negative : Bool) {d : Dyadic} (canonical : d.Canonical) :
    Json.Denotes (Json.realText (.finite negative d)) (signed negative (shortest d).toRat) := by
  obtain ⟨n, writes, written⟩ := jsonDecimal_spec (shortest_spec canonical).1
  have denotes := denotes_withSign negative writes.bare writes.inJson written
  rw [writes.magnitude_eq] at denotes
  rw [Json.realText, jsonText?, if_neg canonical.mant_pos.ne', Option.getD_some]
  exact denotes

end Number

end Dataset
