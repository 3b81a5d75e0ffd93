import Dataset.Proofs.Calendar
import Dataset.Proofs.Text.Encoding
import Dataset.Proofs.Text.Splitting
import Mathlib.Tactic.IntervalCases

/-!
# The forms in which dates are accepted

Besides ISO form a date is accepted as month, day and year between slashes: one or two digits, one or two
digits, and two or four. The numbers are read as loosely as other numbers are, so that more digits and some
signs are accepted too. Where the form is kept, the date is the one that it names, and what it is
turned into stays as it is.

* `Gregorian`: a day of the calendar, by a table of its months; `exists?_iff`: so are the dates that
  exist;
* `Tolerated`: numbers between slashes that are read as a date (**`slashed?_eq_some_iff`**);
* `Documented`, `Stray`: those of the documented form, and those that deviate from it
  (**`documented_iff`**);
* **`normalize_accepts`**: what is accepted is in a documented form or deviates from one, and never both;
* `signed_year_accepted`: a year with a sign is accepted, and lies outside its century;
* **`normalize_converts`**: digits between slashes are turned into the date that they name, padded, and
  what any text is turned into stays as it is.
-/

namespace Dataset.Date

open Text (Digits Count Whole decimalValue)

/-! ## 1. The calendar -/

/-- A year that has a day more: one in four, and of the hundreds one in four. -/
def LeapYear (year : Int) : Prop := 4 ∣ year ∧ (100 ∣ year → 400 ∣ year)

instance (year : Int) : Decidable (LeapYear year) := inferInstanceAs (Decidable (_ ∧ _))

/-- The lengths of the months from January on. -/
def monthLengths (year : Int) : List Nat :=
  [31, if LeapYear year then 29 else 28, 31, 30, 31, 30, 31, 31, 30, 31, 30, 31]

/-- A day of the proleptic Gregorian calendar. -/
def Gregorian (d : Date) : Prop :=
  1 ≤ d.month ∧ 1 ≤ d.day ∧ ∃ days ∈ (monthLengths d.year)[d.month - 1]?, d.day ≤ days

instance (d : Date) : Decidable d.Gregorian := inferInstanceAs (Decidable (_ ∧ _ ∧ _))

theorem isLeap_eq (year : Int) : isLeap year = decide (LeapYear year) := by
  rw [Bool.eq_iff_iff, decide_eq_true_iff, isLeap, LeapYear]
  simp only [Bool.and_eq_true, Bool.or_eq_true, beq_iff_eq, bne_iff_ne, ne_eq]
  omega

/-- A month has the days that the table says, if it has any. -/
theorem daysIn_eq (year : Int) {month : Nat} (first : 1 ≤ month) :
    daysIn year month = ((monthLengths year)[month - 1]?).getD 0 := by
  by_cases last : month ≤ 12
  · interval_cases month <;> simp [daysIn, monthLengths, isLeap_eq]
  · rw [daysIn_eq_zero year (by omega), List.getElem?_eq_none (by simp [monthLengths]; omega)]
    rfl

/-- **The dates that exist are the days of the calendar** in the years that dates reach. -/
theorem exists?_iff (d : Date) :
    d.exists? = true ↔ d.Gregorian ∧ minYear ≤ d.year ∧ d.year ≤ maxYear := by
  have day : 1 ≤ d.day ∧ d.day ≤ daysIn d.year d.month ↔ d.Gregorian := by
    rw [Gregorian]
    by_cases first : 1 ≤ d.month
    · rw [daysIn_eq d.year first]
      cases (monthLengths d.year)[d.month - 1]? with
      | none => simp; omega
      | some days => simp [first]
    · have none : daysIn d.year d.month = 0 := by
        rw [show d.month = 0 by omega]
        rfl
      omega
  rw [← day, exists?]
  simp only [Bool.and_eq_true, decide_eq_true_eq]
  tauto

/-! ## 2. Numbers between slashes -/

/-- A month, a day and a year with slashes between them. -/
def slashes (m d y : List Char) : List Char := m ++ '/' :: (d ++ '/' :: y)

/-- Two characters name a year from 2000 on, four characters the year itself. -/
inductive ReadsYear : List Char → Int → Prop where
  | short {y : List Char} {n : Int} : Whole y n → y.length = 2 → ReadsYear y (2000 + n)
  | long {y : List Char} {n : Int} : Whole y n → y.length = 4 → ReadsYear y n

/-- The texts `m`, `d` and `y` between slashes are read as `date`, a Gregorian day. -/
structure Tolerated (m d y : List Char) (date : Date) : Prop where
  month : Count m date.month
  day : Count d date.day
  year : ReadsYear y date.year
  real : date.Gregorian

/-- The characters of an integer are ASCII, and neither blank nor slashes. -/
theorem plain_of_mem {s : List Char} {k : Int} (h : Whole s k) {c : Char} (hc : c ∈ s) :
    c.utf8Size = 1 ∧ Text.isBlank c = false ∧ c ≠ '/' := by
  rcases h.mem hc with digit | rfl | rfl
  · have high : c ≤ '9' := (by simpa [Text.isDigit] using digit : '0' ≤ c ∧ c ≤ '9').2
    have ascii : ('9').val ≤ 127 := by decide
    refine ⟨Char.utf8Size_eq_one_iff.2 (UInt32.le_trans high ascii), Text.isBlank_of_isDigit digit, ?_⟩
    rintro rfl
    exact absurd digit (by decide)
  · decide
  · decide

/-- The text of an integer has as many bytes as characters. -/
theorem utf8ByteSize_of_whole {s : List Char} {k : Int} (h : Whole s k) :
    (String.ofList s).utf8ByteSize = s.length :=
  Text.utf8ByteSize_of_ascii fun _ hc => (plain_of_mem h hc).1

theorem slashedYear?_eq_some_iff {y : List Char} {k : Int} :
    slashedYear? y = some k ↔ ReadsYear y k := by
  constructor
  · intro h
    unfold slashedYear? at h
    split at h
    · rename_i size
      obtain ⟨n, read, rfl⟩ := Option.map_eq_some_iff.1 h
      have whole := (Text.integer?_eq_some_iff.1 read).1
      exact .short whole ((utf8ByteSize_of_whole whole).symm.trans size)
    · rename_i size
      have whole := (Text.integer?_eq_some_iff.1 h).1
      exact .long whole ((utf8ByteSize_of_whole whole).symm.trans size)
    · cases h
  · intro h
    have read {n : Int} (whole : Whole y n) (few : y.length ≤ 4) :
        Text.integer? maxYearField y = some n := by
      have small := whole.natAbs_lt.trans_le (Nat.pow_le_pow_right (by decide : 0 < 10) few)
      have room : (10000 : Int) ≤ maxYearField := by decide
      exact Text.integer?_eq_some_iff.2 ⟨whole, by omega, by omega⟩
    cases h with
    | short whole length =>
      rw [slashedYear?, utf8ByteSize_of_whole whole, length]
      exact Option.map_eq_some_iff.2 ⟨_, read whole (by omega), rfl⟩
    | long whole length =>
      rw [slashedYear?, utf8ByteSize_of_whole whole, length]
      exact read whole (by omega)

variable {m d y : List Char} {date : Date}

/-- Years that are read lie within the calendar. -/
theorem ReadsYear.bounds {k : Int} (h : ReadsYear y k) : -9999 ≤ k ∧ k ≤ 9999 := by
  cases h with
  | short whole length =>
    have small := whole.natAbs_lt
    rw [length] at small
    omega
  | long whole length =>
    have small := whole.natAbs_lt
    rw [length] at small
    omega

theorem Tolerated.exists? (h : Tolerated m d y date) : date.exists? = true := by
  obtain ⟨low, high⟩ := h.year.bounds
  exact (exists?_iff date).2 ⟨h.real, le_trans (by decide) low, le_trans high (by decide)⟩

/-- Three pieces are read as a date exactly if they are its tolerated numbers. -/
theorem slashed?_eq_some_of_pieces {s : List Char} (three : Text.pieces '/' s = [m, d, y]) :
    slashed? s = some date ↔ Tolerated m d y date := by
  rw [slashed?, three]
  constructor
  · intro h
    obtain ⟨month, hm, h⟩ := Option.bind_eq_some_iff.1 h
    obtain ⟨day, hd, h⟩ := Option.bind_eq_some_iff.1 h
    obtain ⟨year, hy, h⟩ := Option.bind_eq_some_iff.1 h
    simp only [Option.ite_none_right_eq_some, Option.some.injEq] at h
    obtain ⟨real, rfl⟩ := h
    exact ⟨(Text.natural?_eq_some_iff.1 hm).1, (Text.natural?_eq_some_iff.1 hd).1,
      slashedYear?_eq_some_iff.1 hy, ((exists?_iff _).1 real).1⟩
  · intro h
    obtain ⟨month, day⟩ := fits_of_exists? h.exists?
    have room : 100 ≤ maxField := by decide
    have hm : Text.natural? maxField m = some date.month :=
      Text.natural?_eq_some_iff.2 ⟨h.month, by omega⟩
    have hd : Text.natural? maxField d = some date.day :=
      Text.natural?_eq_some_iff.2 ⟨h.day, by omega⟩
    simp [hm, hd, slashedYear?_eq_some_iff.2 h.year, h.exists?]

/-- Three numbers, with signs or without. -/
structure Numbers (m d y : List Char) : Prop where
  month : ∃ k, Whole m k
  day : ∃ k, Whole d k
  year : ∃ k, Whole y k

theorem Tolerated.numbers (h : Tolerated m d y date) : Numbers m d y := by
  refine ⟨⟨_, .count h.month⟩, ⟨_, .count h.day⟩, ?_⟩
  have year := h.year
  generalize date.year = k at year
  cases year with
  | short whole => exact ⟨_, whole⟩
  | long whole => exact ⟨_, whole⟩

/-- The numbers are the pieces between the slashes, as none of them holds one. -/
theorem Numbers.pieces (h : Numbers m d y) : Text.pieces '/' (slashes m d y) = [m, d, y] := by
  have solid {s : List Char} (number : ∃ k, Whole s k) : '/' ∉ s := by
    obtain ⟨k, whole⟩ := number
    exact fun slash => (plain_of_mem whole slash).2.2 rfl
  exact Text.pieces_eq_three_iff.2 ⟨rfl, solid h.month, solid h.day, solid h.year⟩

/-- **What is read as a date between slashes are its tolerated numbers.** -/
theorem slashed?_eq_some_iff {s : List Char} :
    slashed? s = some date ↔ ∃ m d y, s = slashes m d y ∧ Tolerated m d y date := by
  constructor
  · intro h
    have three : ∃ m d y, Text.pieces '/' s = [m, d, y] := by
      unfold slashed? at h
      split at h
      · exact ⟨_, _, _, by assumption⟩
      · cases h
    obtain ⟨m, d, y, three⟩ := three
    exact ⟨m, d, y, (Text.pieces_eq_three_iff.1 three).1, (slashed?_eq_some_of_pieces three).1 h⟩
  · rintro ⟨m, d, y, rfl, h⟩
    exact (slashed?_eq_some_of_pieces h.numbers.pieces).2 h

/-! ## 3. The documented form -/

/-- `m`, `d` and `y` are digits, `y` two or four of them. -/
structure InDigits (m d y : List Char) : Prop where
  month : Digits m
  day : Digits d
  year : Digits y
  width : y.length = 2 ∨ y.length = 4

/-- The year that the digits `y` name: two of them are counted from 2000. -/
def yearOf (y : List Char) : Nat := if y.length = 2 then 2000 + decimalValue y else decimalValue y

/-- The date that digits name. -/
def ofDigits (m d y : List Char) : Date := ⟨yearOf y, decimalValue m, decimalValue d⟩

/-- `m`, `d` and `y` as they are documented: digits, at most two for month and day, that name a day of the
    Gregorian calendar. -/
structure Documented (m d y : List Char) : Prop extends InDigits m d y where
  month_short : m.length ≤ 2
  day_short : d.length ≤ 2
  real : (ofDigits m d y).Gregorian

/-- One of `m`, `d` and `y` has a sign, or `m` or `d` has more than two characters. -/
def Stray (m d y : List Char) : Prop :=
  '+' ∈ m ∨ '+' ∈ d ∨ '+' ∈ y ∨ '-' ∈ y ∨ 2 < m.length ∨ 2 < d.length

instance (m d y : List Char) : Decidable (Stray m d y) := inferInstanceAs (Decidable (_ ∨ _))

theorem readsYear_iff {k : Int} (digits : Digits y) (width : y.length = 2 ∨ y.length = 4) :
    ReadsYear y k ↔ k = yearOf y := by
  have value {n : Int} (whole : Whole y n) : n = decimalValue y :=
    (whole.digits (digits.notMem Text.isDigit_plus) (digits.notMem Text.isDigit_minus)).2
  have year : Whole y (decimalValue y) := .count (.bare digits)
  constructor
  · intro h
    cases h with
    | short whole two =>
      rw [value whole, yearOf, if_pos two]
      rfl
    | long whole four => rw [value whole, yearOf, if_neg (by omega)]
  · rintro rfl
    rcases width with two | four
    · rw [yearOf, if_pos two]
      exact .short year two
    · rw [yearOf, if_neg (by omega)]
      exact .long year four

/-- Digits are read as the date that they name, if there is one. -/
theorem InDigits.tolerated_iff (h : InDigits m d y) :
    Tolerated m d y date ↔ date = ofDigits m d y ∧ (ofDigits m d y).Gregorian := by
  constructor
  · rintro ⟨month, day, year, real⟩
    have same : date = ofDigits m d y := by
      rw [ofDigits, ← (month.digits (h.month.notMem Text.isDigit_plus)).2,
        ← (day.digits (h.day.notMem Text.isDigit_plus)).2, ← (readsYear_iff h.year h.width).1 year]
    exact ⟨same, same ▸ real⟩
  · rintro ⟨rfl, real⟩
    exact ⟨.bare h.month, .bare h.day, (readsYear_iff h.year h.width).2 rfl, real⟩

theorem Documented.tolerated (h : Documented m d y) : Tolerated m d y (ofDigits m d y) :=
  h.toInDigits.tolerated_iff.2 ⟨rfl, h.real⟩

/-- **The documented form is what is read and does not deviate.** -/
theorem documented_iff :
    Documented m d y ↔ ¬ Stray m d y ∧ ∃ date, Tolerated m d y date := by
  constructor
  · intro h
    refine ⟨fun stray => ?_, ofDigits m d y, h.tolerated⟩
    rcases stray with hm | hd | hy | hy | hm | hd
    · exact h.month.notMem Text.isDigit_plus hm
    · exact h.day.notMem Text.isDigit_plus hd
    · exact h.year.notMem Text.isDigit_plus hy
    · exact h.year.notMem Text.isDigit_minus hy
    · exact absurd h.month_short (by omega)
    · exact absurd h.day_short (by omega)
  · rintro ⟨kept, date, tolerated⟩
    simp only [Stray, not_or, not_lt] at kept
    obtain ⟨hm, hd, plus, minus, month, day⟩ := kept
    have digits : InDigits m d y := by
      refine ⟨(tolerated.month.digits hm).1, (tolerated.day.digits hd).1, ?_, ?_⟩
      · obtain ⟨k, whole⟩ := tolerated.numbers.year
        exact (whole.digits plus minus).1
      · have year := tolerated.year
        generalize date.year = k at year
        cases year with
        | short _ two => exact .inl two
        | long _ four => exact .inr four
    exact ⟨digits, month, day, (digits.tolerated_iff.1 tolerated).2⟩

/-! ## 4. What is accepted -/

theorem Numbers.trimmed (h : Numbers m d y) : Text.Trimmed (slashes m d y) := by
  have solid {s : List Char} (number : ∃ k, Whole s k) {c : Char} (hc : c ∈ s) :
      Text.isBlank c = false := by
    obtain ⟨k, whole⟩ := number
    exact (plain_of_mem whole hc).2.1
  refine Text.trimmed_of_solid fun c hc => ?_
  simp only [slashes, List.mem_append, List.mem_cons] at hc
  rcases hc with hc | rfl | hc | rfl | hc
  · exact solid h.month hc
  · decide
  · exact solid h.day hc
  · decide
  · exact solid h.year hc

/-- What stands behind the digits of a number, its sign passed over. -/
theorem behind_digits {sign ds : List Char} (signs : sign = [] ∨ sign = ['-'] ∨ sign = ['+'])
    (digits : Digits ds) (rest : List Char) (stop : ∀ c ∈ rest.head?, Text.isDigit c = false) :
    ((sign ++ (ds ++ rest)).dropWhile fun c => c == '+' || c == '-').dropWhile Text.isDigit = rest := by
  have passed : ((sign ++ (ds ++ rest)).dropWhile fun c => c == '+' || c == '-') = ds ++ rest := by
    obtain ⟨given, all⟩ := digits
    obtain ⟨c, ds, rfl⟩ := List.exists_cons_of_ne_nil given
    obtain ⟨-, -, -, -, minus, plus⟩ := Number.of_isDigit (all c List.mem_cons_self)
    rcases signs with rfl | rfl | rfl <;> simp [minus, plus]
  rw [passed]
  exact (Number.span_digits digits.2 stop).2

/-- Numbers between slashes are not in ISO form: behind the digits of the first stands no hyphen. -/
theorem Numbers.iso?_eq_none (h : Numbers m d y) : iso? (slashes m d y) = none := by
  by_contra read
  have some : (iso? (slashes m d y)).isSome = true := by simpa [Option.isSome_iff_ne_none] using read
  obtain ⟨sign, ds, rest, signs, given, all, split⟩ := hyphenated_of_iso? h.trimmed.start some
  obtain ⟨k, month⟩ := h.month
  obtain ⟨sign', ds', signs', digits', rfl, -⟩ := month.exists_digits
  have hyphen := behind_digits signs ⟨given, all⟩ ('-' :: rest) (by simp [Text.isDigit])
  have slash := behind_digits signs' digits' ('/' :: (d ++ '/' :: y)) (by simp [Text.isDigit])
  rw [← split, slashes, List.append_assoc, slash] at hyphen
  cases hyphen

/-- What is left of a text is looked at for either form, and an empty one is in neither. -/
theorem normalize_eq (input : String) :
    normalize input =
      if (iso? (Text.trimChars input.toList)).isSome then some (Text.trim input)
      else (slashed? (Text.trimChars input.toList)).map toText := by
  rw [normalize, Text.trim]
  by_cases nothing : Text.trimChars input.toList = []
  · rw [nothing]
    rfl
  · simp [nothing]

variable {input : String}

/-- Numbers between slashes are turned into the date that they are read as. -/
theorem Numbers.normalize_eq (h : Numbers m d y) (left : Text.trimChars input.toList = slashes m d y) :
    normalize input = (slashed? (slashes m d y)).map toText := by
  rw [Date.normalize_eq, left, h.iso?_eq_none]
  rfl

theorem Tolerated.normalize_eq (h : Tolerated m d y date)
    (left : Text.trimChars input.toList = slashes m d y) : normalize input = some date.toText := by
  rw [h.numbers.normalize_eq left, (slashed?_eq_some_of_pieces h.numbers.pieces).2 h]
  rfl

/-- `s` is in a form that `Date.normalize` documents: in ISO form, or three `Documented` numbers between
    slashes. -/
def Admitted (s : List Char) : Prop :=
  (iso? s).isSome = true ∨ ∃ m d y, s = slashes m d y ∧ Documented m d y

/-- `s` has three numbers between slashes that are read as a date although they `Stray`. -/
def Strayed (s : List Char) : Prop :=
  ∃ m d y, s = slashes m d y ∧ Stray m d y ∧ ∃ date, Tolerated m d y date

theorem normalize_isSome_iff : (normalize input).isSome = true ↔
    Admitted (Text.trimChars input.toList) ∨ Strayed (Text.trimChars input.toList) := by
  rw [normalize_eq, Admitted, Strayed]
  split_ifs with iso
  · simp [iso]
  · rw [Option.isSome_map, Option.isSome_iff_exists]
    simp only [slashed?_eq_some_iff, iso, false_or, Bool.false_eq_true]
    constructor
    · rintro ⟨date, m, d, y, left, tolerated⟩
      by_cases stray : Stray m d y
      · exact .inr ⟨m, d, y, left, stray, date, tolerated⟩
      · exact .inl ⟨m, d, y, left, documented_iff.2 ⟨stray, date, tolerated⟩⟩
    · rintro (⟨m, d, y, left, documented⟩ | ⟨m, d, y, left, -, date, tolerated⟩)
      · exact ⟨_, m, d, y, left, documented.tolerated⟩
      · exact ⟨date, m, d, y, left, tolerated⟩

/-- No text is both: its three numbers are its pieces. -/
theorem Strayed.not_admitted {s : List Char} (h : Strayed s) : ¬ Admitted s := by
  obtain ⟨m, d, y, rfl, stray, date, tolerated⟩ := h
  rintro (iso | ⟨m', d', y', same, documented⟩)
  · rw [tolerated.numbers.iso?_eq_none] at iso
    cases iso
  · have pieces := tolerated.numbers.pieces
    rw [same, documented.tolerated.numbers.pieces] at pieces
    obtain ⟨rfl, rfl, rfl⟩ : m' = m ∧ d' = d ∧ y' = y := by simpa using pieces
    exact (documented_iff.1 documented).1 stray

theorem InDigits.year_bounds (h : InDigits m d y) :
    (y.length = 2 → 2000 ≤ (ofDigits m d y).year ∧ (ofDigits m d y).year ≤ 2099) ∧
      (y.length = 4 → 0 ≤ (ofDigits m d y).year ∧ (ofDigits m d y).year ≤ 9999) := by
  have small := Text.decimalValue_lt h.year.2
  constructor
  · intro two
    rw [two] at small
    simp only [ofDigits, yearOf, if_pos two]
    omega
  · intro four
    rw [four] at small
    simp only [ofDigits, yearOf, if_neg (show y.length ≠ 2 by omega)]
    omega

/-- **`normalize` accepts exactly the texts that are `Admitted` or `Strayed`, once trimmed, and none is
    both.** For `slashes m d y` that are `Documented` the result is the text of `ofDigits m d y`, of a year
    from 2000 to 2099 if `y` has two digits and from 0 to 9999 if it has four; for any that are `Tolerated`
    as a date it is the text of this date. -/
theorem normalize_accepts (input : String) :
    ((normalize input).isSome = true ↔
        Admitted (Text.trimChars input.toList) ∨ Strayed (Text.trimChars input.toList)) ∧
      ¬ (Admitted (Text.trimChars input.toList) ∧ Strayed (Text.trimChars input.toList)) ∧
      (∀ m d y, Text.trimChars input.toList = slashes m d y → Documented m d y →
        normalize input = some (ofDigits m d y).toText ∧
          (y.length = 2 → 2000 ≤ (ofDigits m d y).year ∧ (ofDigits m d y).year ≤ 2099) ∧
          (y.length = 4 → 0 ≤ (ofDigits m d y).year ∧ (ofDigits m d y).year ≤ 9999)) ∧
      ∀ m d y date, Text.trimChars input.toList = slashes m d y → Tolerated m d y date →
        normalize input = some date.toText := by
  refine ⟨normalize_isSome_iff, fun both => both.2.not_admitted both.1, fun m d y left documented => ?_,
    fun m d y date left tolerated => tolerated.normalize_eq left⟩
  exact ⟨documented.tolerated.normalize_eq left, documented.toInDigits.year_bounds⟩

/-- A year of two characters with a minus sign lies before the century. -/
theorem tolerated_minus_one : Tolerated ['3'] ['7'] ['-', '1'] ⟨1999, 3, 7⟩ where
  month := .bare (by decide)
  day := .bare (by decide)
  year := .short (.minus (by decide)) rfl
  real := by decide

theorem normalize_accepts_minus_one :
    Strayed "3/7/-1".toList ∧ normalize "3/7/-1" = some "1999-03-07" := by
  have left : Text.trimChars "3/7/-1".toList = slashes ['3'] ['7'] ['-', '1'] := by decide
  obtain ⟨-, -, -, results⟩ := normalize_accepts "3/7/-1"
  exact ⟨⟨_, _, _, by decide, by decide, _, tolerated_minus_one⟩,
    results _ _ _ _ left tolerated_minus_one⟩

/-- Not only the documented forms are accepted. -/
theorem signed_year_accepted :
    ¬ ∀ input : String, (normalize input).isSome = true ↔ Admitted (Text.trimChars input.toList) := by
  intro claimed
  have left : Text.trimChars "3/7/-1".toList = slashes ['3'] ['7'] ['-', '1'] := by decide
  have strayed : Strayed (Text.trimChars "3/7/-1".toList) :=
    ⟨_, _, _, left, by decide, _, tolerated_minus_one⟩
  exact strayed.not_admitted ((claimed _).1 (normalize_isSome_iff.2 (.inr strayed)))

/-! ## 5. What it is turned into -/

/-- A number in so many digits. -/
structure Padded (width n : Nat) (s : List Char) : Prop where
  length : s.length = width
  digits : ∀ c ∈ s, Text.isDigit c = true
  value : decimalValue s = n

theorem padded_text {width n : Nat} (wide : 0 < width) (small : n < 10 ^ width) :
    Padded width n (Text.padded width n).toList where
  length := Text.length_padded wide small
  digits _ hc := Text.isDigit_of_mem_padded hc
  value := Text.decimalValue_padded width n

/-- The text of a date in one of the years of four digits is made of three padded numbers. -/
theorem exists_padded {date : Date} (real : date.exists? = true) (common : date.Common) :
    ∃ yy mm dd, Padded 4 date.year.natAbs yy ∧ Padded 2 date.month mm ∧ Padded 2 date.day dd ∧
      date.toText.toList = yy ++ '-' :: (mm ++ '-' :: dd) := by
  obtain ⟨month, day⟩ := fits_of_exists? real
  obtain ⟨text, year⟩ := yearText_of_common common
  exact ⟨_, _, _, padded_text (by decide) year, padded_text (by decide) month,
    padded_text (by decide) day, by rw [toList_toText, text]⟩

theorem InDigits.numbers (h : InDigits m d y) : Numbers m d y :=
  ⟨⟨_, .count (.bare h.month)⟩, ⟨_, .count (.bare h.day)⟩, ⟨_, .count (.bare h.year)⟩⟩

/-- Digits between slashes are turned into a text exactly if they name a date, and into its text. -/
theorem InDigits.normalize_eq_some_iff (h : InDigits m d y) {o : String} :
    normalize (String.ofList (slashes m d y)) = some o ↔
      (ofDigits m d y).Gregorian ∧ (ofDigits m d y).toText = o := by
  have left : Text.trimChars (String.ofList (slashes m d y)).toList = slashes m d y := by
    rw [String.toList_ofList, h.numbers.trimmed.trimChars_eq]
  rw [h.numbers.normalize_eq left, Option.map_eq_some_iff]
  simp only [slashed?_eq_some_of_pieces h.numbers.pieces, h.tolerated_iff]
  exact ⟨fun ⟨date, ⟨same, real⟩, text⟩ => ⟨real, same ▸ text⟩, fun ⟨real, text⟩ => ⟨_, ⟨rfl, real⟩, text⟩⟩

theorem trimmed_toText (date : Date) : Text.Trimmed date.toText.toList := by
  obtain ⟨sign, signs, year⟩ := yearText_eq date.year
  refine Text.trimmed_of_solid fun c hc => ?_
  simp only [toList_toText, year, List.mem_append, List.mem_cons] at hc
  rcases hc with (hc | hc) | rfl | hc | rfl | hc
  · have sign : c = '-' ∨ c = '+' := by rcases signs with rfl | rfl | rfl <;> simp_all
    rcases sign with rfl | rfl <;> decide
  · exact Text.isBlank_of_isDigit (Text.isDigit_of_mem_padded hc)
  · decide
  · exact Text.isBlank_of_isDigit (Text.isDigit_of_mem_padded hc)
  · decide
  · exact Text.isBlank_of_isDigit (Text.isDigit_of_mem_padded hc)

/-- A date has no blanks around it in the text that it is normalised to. -/
theorem trimmed_normalize {o : String} (h : normalize input = some o) : Text.Trimmed o.toList := by
  rw [normalize_eq] at h
  split_ifs at h
  · obtain rfl := Option.some.inj h
    rw [Text.toList_trim]
    exact Text.trimmed_trimChars input.toList
  · obtain ⟨date, -, rfl⟩ := Option.map_eq_some_iff.1 h
    exact trimmed_toText date

/-- **What a text is turned into stays as it is**: it is in ISO form, without blanks around it. -/
theorem normalize_normalize {o : String} (h : normalize input = some o) : normalize o = some o := by
  obtain ⟨date, read⟩ := exists_iso?_of_normalize h
  have trimmed := (trimmed_normalize h).trimChars_eq
  rw [normalize_eq, trimmed, read, Text.trim, trimmed, String.ofList_toList]
  rfl

/-- **Digits between slashes are normalised exactly if `ofDigits` is a `Gregorian` date**, to four digits
    for `yearOf y` and two each for month and day; and what `normalize` gives is normalised to itself. -/
theorem normalize_converts (h : InDigits m d y) :
    ((normalize (String.ofList (slashes m d y))).isSome = true ↔ (ofDigits m d y).Gregorian) ∧
      (∀ o, normalize (String.ofList (slashes m d y)) = some o →
        ∃ yy mm dd, Padded 4 (yearOf y) yy ∧ Padded 2 (decimalValue m) mm ∧
          Padded 2 (decimalValue d) dd ∧ o.toList = yy ++ '-' :: (mm ++ '-' :: dd)) ∧
      ∀ input o, normalize input = some o → normalize o = some o := by
  refine ⟨?_, fun o done => ?_, fun input o done => normalize_normalize done⟩
  · rw [Option.isSome_iff_exists]
    simp only [h.normalize_eq_some_iff, exists_and_left, exists_eq', and_true]
  · obtain ⟨real, rfl⟩ := h.normalize_eq_some_iff.1 done
    have known := (h.tolerated_iff.2 ⟨rfl, real⟩).exists?
    have common : (ofDigits m d y).Common := by
      obtain ⟨two, four⟩ := h.year_bounds
      rcases h.width with width | width
      · have century := two width
        exact ⟨by omega, by omega⟩
      · exact four width
    exact exists_padded known common

/-- A leap day, its month written in three digits. -/
theorem normalize_converts_leap_day :
    InDigits "002".toList "29".toList "24".toList ∧
      (normalize "002/29/24").isSome = true ∧ normalize "2024-02-29" = some "2024-02-29" := by
  have digits : InDigits "002".toList "29".toList "24".toList :=
    ⟨by decide, by decide, by decide, by decide⟩
  obtain ⟨accepted, -, again⟩ := normalize_converts digits
  exact ⟨digits, accepted.2 (by decide), again "002/29/24" _ (by decide +kernel)⟩

end Dataset.Date
