import Dataset.Text.Blank
import Mathlib.Data.Nat.Digits.Defs
import Mathlib.Tactic.SplitIfs

/-!
# Decimal digits

A natural number is written in digits that read back to it. Filled up with zeros to one width, digits
stand in the order of their numbers.

* `decimalValue_append`: a row of digits is worth what its parts are worth at their places;
* **`decimalValue_toDigits`**, `decimalValue_padded`: a number is read from its digits;
* `padded_succ`: the last digit of a padded number, and those before it;
* **`padded_lt_padded_iff`**: padded numbers of one width are in order;
* `Count`, `Whole`: the texts of natural numbers and of integers, digits behind one sign or none;
* **`natural?_eq_some_iff`**, **`integer?_eq_some_iff`**: these are the texts that are read.
-/

namespace Dataset.Text

/-! ## 1. Digits of a number -/

/-- The codes of digits. -/
theorem toNat_of_isDigit {c : Char} (h : isDigit c = true) : 48 ≤ c.toNat ∧ c.toNat ≤ 57 := by
  simpa [isDigit, Char.le_def, UInt32.le_iff_toNat_le] using h

theorem isBlank_of_isDigit {c : Char} (h : isDigit c = true) : isBlank c = false := by
  obtain ⟨low, high⟩ := toNat_of_isDigit h
  simp only [isBlank, inRanges, blankRanges, List.any_cons, List.any_nil,
    Bool.or_false, Bool.or_eq_false_iff, Bool.and_eq_false_iff, decide_eq_false_iff_not]
  omega

theorem isDigit_of_mem_toDigits {n : Nat} {c : Char} (h : c ∈ Nat.toDigits 10 n) :
    isDigit c = true := by
  have digit : c.isDigit = true := Nat.isDigit_of_mem_toDigits (by omega) (by omega) h
  exact digit

theorem isDigit_of_mem_padded {width n : Nat} {c : Char} (h : c ∈ (padded width n).toList) :
    isDigit c = true := by
  rw [padded, String.toList_ofList, List.mem_append] at h
  rcases h with h | h
  · rw [List.eq_of_mem_replicate h]
    decide
  · exact isDigit_of_mem_toDigits h

theorem padded_ne_nil (width n : Nat) : (padded width n).toList ≠ [] := by
  simp [padded, Nat.toDigits_ne_nil]

theorem digitValue_digitChar : ∀ n < 10, digitValue (Nat.digitChar n) = n := by decide

theorem digitChar_lt_digitChar : ∀ m < 10, ∀ n < 10,
    (Nat.digitChar m < Nat.digitChar n ↔ m < n) ∧ (Nat.digitChar m = Nat.digitChar n ↔ m = n) := by
  decide

/-! ## 2. Values -/

/-- Digits in front of others count at the places before them. -/
theorem decimalValue_append (a b : List Char) :
    decimalValue (a ++ b) = decimalValue a * 10 ^ b.length + decimalValue b := by
  -- what has been read before is carried along, so both sides are stated for any start
  have carried (l : List Char) (k : Nat) :
      l.foldl (fun n c => 10 * n + digitValue c) k = k * 10 ^ l.length + decimalValue l := by
    induction l generalizing k with
    | nil => simp [decimalValue]
    | cons c l ih =>
      rw [decimalValue, List.foldl_cons, List.foldl_cons, ih, ih (10 * 0 + digitValue c),
        List.length_cons, Nat.pow_succ]
      ring
  rw [decimalValue, List.foldl_append, carried b, ← decimalValue]

theorem digitValue_le {c : Char} (h : isDigit c = true) : digitValue c ≤ 9 := by
  have high := (toNat_of_isDigit h).2
  unfold digitValue
  omega

theorem decimalValue_cons (d : Char) (ds : List Char) :
    decimalValue (d :: ds) = digitValue d * 10 ^ ds.length + decimalValue ds := by
  have one : decimalValue [d] = digitValue d := by simp [decimalValue]
  rw [← List.singleton_append, decimalValue_append, one]

/-- A number is less than the power of ten with as many zeros as it has digits. -/
theorem decimalValue_lt {ds : List Char} (all : ∀ c ∈ ds, isDigit c = true) :
    decimalValue ds < 10 ^ ds.length := by
  induction ds with
  | nil => decide
  | cons d ds ih =>
    have first := digitValue_le (all d List.mem_cons_self)
    have rest := ih fun c hc => all c (List.mem_cons_of_mem d hc)
    have := Nat.mul_le_mul_right (10 ^ ds.length) first
    rw [decimalValue_cons, List.length_cons, Nat.pow_succ]
    omega

theorem decimalValue_replicate_zero (k : Nat) : decimalValue (List.replicate k '0') = 0 := by
  induction k with
  | zero => rfl
  | succ k ih =>
    have zero : decimalValue ['0'] = 0 := by decide
    rw [List.replicate_succ', decimalValue_append, ih, zero, Nat.zero_mul]

/-- **A number is read from its digits.** -/
theorem decimalValue_toDigits (n : Nat) : decimalValue (Nat.toDigits 10 n) = n := by
  induction n using Nat.strong_induction_on with
  | _ n ih =>
    have one {d : Nat} (small : d < 10) : decimalValue [Nat.digitChar d] = d := by
      simpa [decimalValue] using digitValue_digitChar d small
    rw [Nat.toDigits_eq_if (by omega)]
    split_ifs with small
    · exact one small
    · rw [decimalValue_append, ih (n / 10) (by omega), one (by omega)]
      exact Nat.div_add_mod' n 10

theorem decimalValue_padded (width n : Nat) : decimalValue (padded width n).toList = n := by
  rw [padded, String.toList_ofList, decimalValue_append, decimalValue_replicate_zero,
    decimalValue_toDigits, Nat.zero_mul, Nat.zero_add]

/-! ## 3. Padded numbers -/

theorem length_padded {width n : Nat} (wide : 0 < width) (small : n < 10 ^ width) :
    (padded width n).toList.length = width := by
  have fits := (Nat.length_toDigits_le_iff (b := 10) (by omega) wide).2 small
  rw [padded, String.toList_ofList, List.length_append, List.length_replicate]
  omega

/-- The last digit of a padded number stands behind those of its tens. -/
theorem padded_succ {width n : Nat} (wide : 0 < width) :
    (padded (width + 1) n).toList = (padded width (n / 10)).toList ++ [Nat.digitChar (n % 10)] := by
  have zero : Nat.toDigits 10 0 = ['0'] := by decide
  rw [padded, padded, String.toList_ofList, String.toList_ofList, Nat.toDigits_eq_if (by omega)]
  split_ifs with small
  · obtain ⟨width, rfl⟩ := Nat.exists_eq_add_one_of_ne_zero (Nat.ne_of_gt wide)
    rw [Nat.div_eq_of_lt small, Nat.mod_eq_of_lt small, zero]
    simp [List.replicate_succ']
  · rw [List.length_append, List.length_singleton, Nat.add_sub_add_right, List.append_assoc]

/-- Rows of one length in front of others decide the order, or leave it to what follows. -/
theorem append_lt_append_iff {a b : List Char} (same : a.length = b.length) (c d : List Char) :
    a ++ c < b ++ d ↔ a < b ∨ a = b ∧ c < d := by
  induction a generalizing b with
  | nil =>
    obtain rfl := List.length_eq_zero_iff.1 same.symm
    simp
  | cons x a ih =>
    cases b with
    | nil => cases same
    | cons y b =>
      rw [List.cons_append, List.cons_append, List.cons_lt_cons_iff, List.cons_lt_cons_iff,
        ih (Nat.succ.inj same), List.cons.injEq]
      tauto

theorem padded_eq_padded_iff {width m n : Nat} :
    (padded width m).toList = (padded width n).toList ↔ m = n := by
  refine ⟨fun same => ?_, fun same => by rw [same]⟩
  have value := congrArg decimalValue same
  rwa [decimalValue_padded, decimalValue_padded] at value

/-- **Padded numbers of one width stand in the order of their numbers.** -/
theorem padded_lt_padded_iff {width m n : Nat} (wide : 0 < width) (hm : m < 10 ^ width)
    (hn : n < 10 ^ width) : (padded width m).toList < (padded width n).toList ↔ m < n := by
  induction width, wide using Nat.le_induction generalizing m n with
  | base =>
    have one {k : Nat} (small : k < 10 ^ 1) : (padded 1 k).toList = [Nat.digitChar k] := by
      rw [padded, Nat.toDigits_of_lt_base (by omega)]
      simp
    rw [one hm, one hn, List.cons_lt_cons_iff]
    simpa using (digitChar_lt_digitChar m (by omega) n (by omega)).1
  | succ width wide ih =>
    have tens {k : Nat} (small : k < 10 ^ (width + 1)) : k / 10 < 10 ^ width := by
      rw [Nat.pow_succ] at small
      omega
    have length {k : Nat} (small : k < 10 ^ (width + 1)) :
        (padded width (k / 10)).toList.length = width := length_padded wide (tens small)
    obtain ⟨less, same⟩ := digitChar_lt_digitChar (m % 10) (by omega) (n % 10) (by omega)
    rw [padded_succ wide, padded_succ wide, append_lt_append_iff ((length hm).trans (length hn).symm),
      ih (tens hm) (tens hn), padded_eq_padded_iff, List.cons_lt_cons_iff, less]
    simp only [List.not_lt_nil, and_false, or_false]
    omega

/-! ## 4. Numbers that are read -/

/-- Nothing but digits, of which there is at least one. -/
def Digits (s : List Char) : Prop := s ≠ [] ∧ ∀ c ∈ s, isDigit c = true

instance (s : List Char) : Decidable (Digits s) :=
  decidable_of_iff (s.isEmpty = false ∧ s.all isDigit = true) (by simp [Digits])

theorem digits?_eq_some_iff {s : List Char} {n : Nat} :
    digits? s = some n ↔ Digits s ∧ decimalValue s = n := by
  rw [digits?, Digits]
  split_ifs with nothing all
  · simp [List.isEmpty_iff.1 nothing]
  · have given : s ≠ [] := by simpa using nothing
    rw [List.all_eq_true] at all
    simp only [Option.some.injEq, ne_eq, given, not_false_eq_true, true_and, and_iff_right all]
  · rw [List.all_eq_true] at all
    simp [all]

/-- A text that counts: digits, before which a plus sign may stand. -/
inductive Count : List Char → Nat → Prop where
  | bare {ds : List Char} : Digits ds → Count ds (decimalValue ds)
  | plus {ds : List Char} : Digits ds → Count ('+' :: ds) (decimalValue ds)

/-- A text of an integer: one that counts, or digits behind a minus sign. -/
inductive Whole : List Char → Int → Prop where
  | count {s : List Char} {n : Nat} : Count s n → Whole s n
  | minus {ds : List Char} : Digits ds → Whole ('-' :: ds) (-decimalValue ds)

theorem isDigit_plus : isDigit '+' = false := by decide

theorem isDigit_minus : isDigit '-' = false := by decide

theorem count_plus_iff {ds : List Char} {n : Nat} :
    Count ('+' :: ds) n ↔ Digits ds ∧ decimalValue ds = n := by
  constructor
  · intro h
    cases h with
    | bare digits => simp [Digits, isDigit_plus] at digits
    | plus digits => exact ⟨digits, rfl⟩
  · rintro ⟨digits, rfl⟩
    exact .plus digits

theorem count_iff_of_ne {s : List Char} {n : Nat} (unsigned : ∀ ds, s ≠ '+' :: ds) :
    Count s n ↔ Digits s ∧ decimalValue s = n := by
  constructor
  · intro h
    cases h with
    | bare digits => exact ⟨digits, rfl⟩
    | plus digits => exact absurd rfl (unsigned _)
  · rintro ⟨digits, rfl⟩
    exact .bare digits

/-- What is read as a natural number are the texts that count to it, if it is not too large. -/
theorem natural?_eq_some_iff {max n : Nat} {s : List Char} :
    natural? max s = some n ↔ Count s n ∧ n ≤ max := by
  unfold natural?
  split
  · rw [Option.filter_eq_some_iff, digits?_eq_some_iff, count_plus_iff, decide_eq_true_iff]
  · rename_i unsigned
    rw [Option.filter_eq_some_iff, digits?_eq_some_iff, count_iff_of_ne unsigned, decide_eq_true_iff]

theorem whole_minus_iff {ds : List Char} {k : Int} :
    Whole ('-' :: ds) k ↔ ∃ n, (Digits ds ∧ decimalValue ds = n) ∧ -(n : Int) = k := by
  constructor
  · intro h
    cases h with
    | count h =>
      rw [count_iff_of_ne (by simp)] at h
      simp [Digits, isDigit_minus] at h
    | minus digits => exact ⟨_, ⟨digits, rfl⟩, rfl⟩
  · rintro ⟨_, ⟨digits, rfl⟩, rfl⟩
    exact .minus digits

theorem whole_iff_of_ne {s : List Char} {k : Int} (unsigned : ∀ ds, s ≠ '-' :: ds) :
    Whole s k ↔ ∃ n, Count s n ∧ (n : Int) = k := by
  constructor
  · intro h
    cases h with
    | count h => exact ⟨_, h, rfl⟩
    | minus digits => exact absurd rfl (unsigned _)
  · rintro ⟨n, h, rfl⟩
    exact .count h

/-- Without a minus sign an integer is read as a natural number. -/
theorem integer?_of_ne {max : Nat} {s : List Char} (unsigned : ∀ ds, s ≠ '-' :: ds) :
    integer? max s = (natural? max s).map Int.ofNat := by
  unfold integer? natural?
  split
  · rfl
  · exact absurd rfl (unsigned _)
  · rename_i noPlus noMinus
    split
    · exact absurd rfl (noPlus _)
    · rfl

/-- What is read as an integer are its texts, if it is neither too small nor too large. -/
theorem integer?_eq_some_iff {max : Nat} {s : List Char} {k : Int} :
    integer? max s = some k ↔ Whole s k ∧ -(max + 1 : Int) ≤ k ∧ k ≤ max := by
  by_cases signed : ∃ ds, s = '-' :: ds
  · obtain ⟨ds, rfl⟩ := signed
    have read : integer? max ('-' :: ds) =
        ((digits? ds).filter (· ≤ max + 1)).map fun n => -(Int.ofNat n) := rfl
    rw [read, Option.map_eq_some_iff, whole_minus_iff]
    simp only [Option.filter_eq_some_iff, digits?_eq_some_iff, decide_eq_true_iff, Int.ofNat_eq_natCast]
    constructor
    · rintro ⟨n, ⟨value, small⟩, rfl⟩
      exact ⟨⟨n, value, rfl⟩, by omega, by omega⟩
    · rintro ⟨⟨n, value, rfl⟩, low, -⟩
      exact ⟨n, ⟨value, by omega⟩, rfl⟩
  · have unsigned : ∀ ds, s ≠ '-' :: ds := fun ds hs => signed ⟨ds, hs⟩
    rw [integer?_of_ne unsigned, Option.map_eq_some_iff, whole_iff_of_ne unsigned]
    simp only [natural?_eq_some_iff, Int.ofNat_eq_natCast]
    constructor
    · rintro ⟨n, ⟨value, small⟩, rfl⟩
      exact ⟨⟨n, value, rfl⟩, by omega, by omega⟩
    · rintro ⟨⟨n, value, rfl⟩, -, high⟩
      exact ⟨n, ⟨value, by omega⟩, rfl⟩

/-- A text of an integer has one sign or none, and its magnitude stands in the digits behind it. -/
theorem Whole.exists_digits {s : List Char} {k : Int} (h : Whole s k) :
    ∃ sign ds, (sign = [] ∨ sign = ['-'] ∨ sign = ['+']) ∧ Digits ds ∧ s = sign ++ ds ∧
      k.natAbs = decimalValue ds := by
  cases h with
  | count h =>
    cases h with
    | bare digits => exact ⟨[], s, by simp, digits, rfl, by simp⟩
    | @plus ds digits => exact ⟨['+'], ds, by simp, digits, rfl, by simp⟩
  | @minus ds digits => exact ⟨['-'], ds, by simp, digits, rfl, by simp⟩

/-- In a text of an integer stand digits and signs. -/
theorem Whole.mem {s : List Char} {k : Int} (h : Whole s k) {c : Char} (hc : c ∈ s) :
    isDigit c = true ∨ c = '+' ∨ c = '-' := by
  obtain ⟨sign, ds, signs, digits, rfl, -⟩ := h.exists_digits
  rcases List.mem_append.1 hc with hc | hc
  · rcases signs with rfl | rfl | rfl <;> simp_all
  · exact .inl (digits.2 c hc)

/-- An integer is smaller than the power of ten with as many zeros as its text has characters. -/
theorem Whole.natAbs_lt {s : List Char} {k : Int} (h : Whole s k) : k.natAbs < 10 ^ s.length := by
  obtain ⟨sign, ds, -, digits, rfl, value⟩ := h.exists_digits
  have shorter : ds.length ≤ (sign ++ ds).length := by simp
  rw [value]
  exact (decimalValue_lt digits.2).trans_le (Nat.pow_le_pow_right (by decide) shorter)

/-- A text without signs that counts is made of digits. -/
theorem Count.digits {s : List Char} {n : Nat} (h : Count s n) (unsigned : '+' ∉ s) :
    Digits s ∧ n = decimalValue s := by
  cases h with
  | bare digits => exact ⟨digits, rfl⟩
  | plus digits => exact absurd List.mem_cons_self unsigned

theorem Whole.digits {s : List Char} {k : Int} (h : Whole s k) (noPlus : '+' ∉ s)
    (noMinus : '-' ∉ s) : Digits s ∧ k = decimalValue s := by
  cases h with
  | count h =>
    obtain ⟨digits, rfl⟩ := h.digits noPlus
    exact ⟨digits, rfl⟩
  | minus digits => exact absurd List.mem_cons_self noMinus

theorem Digits.notMem {s : List Char} (h : Digits s) {c : Char} (other : isDigit c = false) : c ∉ s := by
  intro hc
  rw [h.2 c hc] at other
  cases other

end Dataset.Text
