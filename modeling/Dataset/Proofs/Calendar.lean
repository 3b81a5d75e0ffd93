import Dataset.Proofs.Date
import Mathlib.Data.String.Basic

/-!
# The order of dates and of their texts

Dates are written so that they are read again, and those of the years 0 to 9999 in one form, whose
texts stand in the order of the calendar.

* `Date.Before`: one date is before another in the calendar;
* **`iso?_toText`**: a date of the calendar is read from its text;
* `exists_iso?_of_normalize`: what a text is normalised to is read as a date;
* **`toText_lt_toText_iff`**: texts of dates are in order as their dates are.
-/

namespace Dataset.Date

/-! ## 1. The order of the calendar -/

/-- `a` is before `b`: in an earlier year, in an earlier month of one year, or on an earlier day of one month.
    -/
def Before (a b : Date) : Prop :=
  a.year < b.year ∨ a.year = b.year ∧ (a.month < b.month ∨ a.month = b.month ∧ a.day < b.day)

instance (a b : Date) : Decidable (a.Before b) :=
  inferInstanceAs (Decidable (_ ∨ _))

/-- The year of `d` is written in four digits, without a sign. -/
def Common (d : Date) : Prop := 0 ≤ d.year ∧ d.year ≤ 9999

theorem daysIn_le (year : Int) (month : Nat) : daysIn year month ≤ 31 := by
  unfold daysIn
  split_ifs <;> simp

theorem daysIn_eq_zero (year : Int) {month : Nat} (h : 12 < month) : daysIn year month = 0 := by
  have named : month ≠ 2 ∧ month ≠ 4 ∧ month ≠ 6 ∧ month ≠ 9 ∧ month ≠ 11 := by omega
  simp [daysIn, named, Nat.not_le_of_lt h]

/-- A day of the calendar has two digits for its month and two for itself. -/
theorem fits_of_exists? {d : Date} (h : d.exists? = true) : d.month < 10 ^ 2 ∧ d.day < 10 ^ 2 := by
  simp only [exists?, Bool.and_eq_true, decide_eq_true_eq] at h
  obtain ⟨⟨-, first⟩, last⟩ := h
  have few := daysIn_le d.year d.month
  have month : ¬ 12 < d.month := fun late => by
    rw [daysIn_eq_zero d.year late] at last
    omega
  omega

/-! ## 2. Texts of dates are read -/

theorem toList_toText (d : Date) :
    d.toText.toList = (yearText d.year).toList ++ '-' :: ((Text.padded 2 d.month).toList ++
      '-' :: (Text.padded 2 d.day).toList) := by
  simp only [toText, String.toList_append, List.append_assoc]
  rfl

/-- Text that starts with digits has no blanks in front. -/
theorem trimStart_digits {ds : List Char} (given : ds ≠ []) (all : ∀ c ∈ ds, Text.isDigit c = true)
    (rest : List Char) : Text.trimStart (ds ++ rest) = ds ++ rest := by
  obtain ⟨d, ds, rfl⟩ := List.exists_cons_of_ne_nil given
  exact List.dropWhile_cons_of_neg (by simp [Text.isBlank_of_isDigit (all d List.mem_cons_self)])

theorem takeWhile_digits {ds rest : List Char} (all : ∀ c ∈ ds, Text.isDigit c = true) :
    (ds ++ '-' :: rest).takeWhile Text.isDigit = ds :=
  (Number.span_digits all (by simp [Text.isDigit])).1

/-- A padded number is read in a field of its width. -/
theorem field?_padded {width n : Nat} (wide : 0 < width) (small : n < 10 ^ width)
    (rest : List Char) :
    field? width ((Text.padded width n).toList ++ rest) = some (n, rest) := by
  have all : ∀ c ∈ (Text.padded width n).toList, Text.isDigit c = true :=
    fun c hc => Text.isDigit_of_mem_padded hc
  have given := Text.padded_ne_nil width n
  have length := Text.length_padded wide small
  have first : (((Text.padded width n).toList ++ rest).take width).takeWhile Text.isDigit =
      (Text.padded width n).toList := by
    rw [List.take_left' length, List.takeWhile_eq_self_iff]
    exact all
  unfold field?
  simp only [trimStart_digits given all, first, List.isEmpty_eq_false_iff.2 given,
    Text.decimalValue_padded, List.drop_left]
  rfl

/-- The year of a date is read from its text. -/
theorem year?_yearText (year : Int) (rest : List Char) :
    year? ((yearText year).toList ++ '-' :: rest) = some (year, '-' :: rest) := by
  have all : ∀ c ∈ (Text.padded 4 year.natAbs).toList, Text.isDigit c = true :=
    fun c hc => Text.isDigit_of_mem_padded hc
  have given := Text.padded_ne_nil 4 year.natAbs
  have minus (more : List Char) : Text.trimStart ('-' :: more) = '-' :: more := rfl
  have plus (more : List Char) : Text.trimStart ('+' :: more) = '+' :: more := rfl
  unfold yearText
  split_ifs with negative large
  · rw [String.toList_append]
    show year? ('-' :: ((Text.padded 4 year.natAbs).toList ++ '-' :: rest)) = _
    unfold year?
    simp only [minus, takeWhile_digits all, List.drop_left,
      List.isEmpty_eq_false_iff.2 given, Text.decimalValue_padded]
    simp only [Bool.false_eq_true, if_false, Option.some.injEq, Prod.mk.injEq, and_true,
      Int.ofNat_eq_natCast]
    omega
  · rw [String.toList_append]
    show year? ('+' :: ((Text.padded 4 year.natAbs).toList ++ '-' :: rest)) = _
    unfold year?
    simp only [plus, takeWhile_digits all, List.drop_left,
      List.isEmpty_eq_false_iff.2 given, Text.decimalValue_padded]
    simp only [Bool.false_eq_true, if_false, Option.some.injEq, Prod.mk.injEq, and_true,
      Int.ofNat_eq_natCast]
    omega
  · have read := field?_padded (by decide : 0 < 4) (by omega : year.natAbs < 10 ^ 4)
      ('-' :: rest)
    unfold year?
    rw [trimStart_digits given all]
    obtain ⟨d, ds, first⟩ := List.exists_cons_of_ne_nil given
    obtain ⟨-, -, -, -, noMinus, noPlus⟩ := Number.of_isDigit (all d (first ▸ List.mem_cons_self))
    rw [first, List.cons_append] at read ⊢
    split
    · rename_i h
      exact absurd (List.cons.inj h).1 noMinus
    · rename_i h
      exact absurd (List.cons.inj h).1 noPlus
    · rw [read, Option.map_some]
      simp only [Option.some.injEq, Prod.mk.injEq, and_true, Int.ofNat_eq_natCast]
      omega

/-- **A date of the calendar is read from its text.** -/
theorem iso?_toText {d : Date} (h : d.exists? = true) : iso? d.toText.toList = some d := by
  obtain ⟨month, day⟩ := fits_of_exists? h
  have last := field?_padded (by decide : 0 < 2) day []
  rw [List.append_nil] at last
  rw [toList_toText, iso?, year?_yearText]
  simp only [Option.bind_eq_bind, Option.bind_some, hyphen?,
    field?_padded (by decide : 0 < 2) month, last, h, List.isEmpty_nil, Bool.and_self, if_true]

theorem exists?_of_slashed? {s : List Char} {d : Date} (h : slashed? s = some d) :
    d.exists? = true := by
  unfold slashed? at h
  split at h
  · obtain ⟨month, -, h⟩ := Option.bind_eq_some_iff.1 h
    obtain ⟨day, -, h⟩ := Option.bind_eq_some_iff.1 h
    obtain ⟨year, -, h⟩ := Option.bind_eq_some_iff.1 h
    simp only [Option.ite_none_right_eq_some, Option.some.injEq] at h
    exact h.2 ▸ h.1
  · cases h

/-- What a text is normalised to is read as a date. -/
theorem exists_iso?_of_normalize {s d : String} (h : normalize s = some d) :
    ∃ date, iso? d.toList = some date := by
  unfold normalize at h
  simp only [Option.ite_none_left_eq_some] at h
  obtain ⟨-, h⟩ := h
  split_ifs at h with iso
  · obtain rfl := Option.some.inj h
    rw [String.toList_ofList]
    exact Option.isSome_iff_exists.1 iso
  · obtain ⟨date, read, rfl⟩ := Option.map_eq_some_iff.1 h
    exact ⟨date, iso?_toText (exists?_of_slashed? read)⟩

theorem exists?_of_iso? {s : List Char} {d : Date} (h : iso? s = some d) : d.exists? = true := by
  rw [iso?] at h
  obtain ⟨⟨year, s₁⟩, -, h⟩ := Option.bind_eq_some_iff.1 h
  obtain ⟨s₂, -, h⟩ := Option.bind_eq_some_iff.1 h
  obtain ⟨⟨month, s₃⟩, -, h⟩ := Option.bind_eq_some_iff.1 h
  obtain ⟨s₄, -, h⟩ := Option.bind_eq_some_iff.1 h
  obtain ⟨⟨day, s₅⟩, -, h⟩ := Option.bind_eq_some_iff.1 h
  simp only [Option.ite_none_right_eq_some, Option.some.injEq, Bool.and_eq_true] at h
  exact h.2 ▸ h.1.2

/-! ## 3. Texts of dates are in order -/

theorem yearText_of_common {d : Date} (h : d.Common) :
    yearText d.year = Text.padded 4 d.year.natAbs ∧ d.year.natAbs < 10 ^ 4 := by
  obtain ⟨low, high⟩ := h
  rw [yearText, if_neg (by omega), if_neg (by omega)]
  exact ⟨rfl, by omega⟩

/-- Texts of dates have one width. -/
theorem length_toText {d : Date} (h : d.exists? = true) (common : d.Common) :
    d.toText.toList.length = 10 := by
  obtain ⟨month, day⟩ := fits_of_exists? h
  obtain ⟨year, fits⟩ := yearText_of_common common
  rw [toList_toText, year, List.length_append, List.length_cons, List.length_append,
    List.length_cons, Text.length_padded (by decide) fits, Text.length_padded (by decide) month,
    Text.length_padded (by decide) day]

/-- **Texts of dates stand in the order of the calendar.** -/
theorem toText_lt_toText_iff {a b : Date} (ha : a.exists? = true) (hb : b.exists? = true)
    (ca : a.Common) (cb : b.Common) : a.toText < b.toText ↔ a.Before b := by
  obtain ⟨monthA, dayA⟩ := fits_of_exists? ha
  obtain ⟨monthB, dayB⟩ := fits_of_exists? hb
  obtain ⟨yearA, fitsA⟩ := yearText_of_common ca
  obtain ⟨yearB, fitsB⟩ := yearText_of_common cb
  have four {n : Nat} (small : n < 10 ^ 4) := Text.length_padded (by decide : 0 < 4) small
  have two {n : Nat} (small : n < 10 ^ 2) := Text.length_padded (by decide : 0 < 2) small
  rw [String.lt_iff_toList_lt, toList_toText, toList_toText, yearA, yearB,
    Text.append_lt_append_iff ((four fitsA).trans (four fitsB).symm), List.cons_lt_cons_iff,
    Text.append_lt_append_iff ((two monthA).trans (two monthB).symm), List.cons_lt_cons_iff,
    Text.padded_lt_padded_iff (by decide) fitsA fitsB,
    Text.padded_lt_padded_iff (by decide) monthA monthB,
    Text.padded_lt_padded_iff (by decide) dayA dayB, Text.padded_eq_padded_iff,
    Text.padded_eq_padded_iff, Before]
  have sameYear : a.year.natAbs = b.year.natAbs ↔ a.year = b.year := by
    have := ca.1
    have := cb.1
    omega
  have lessYear : a.year.natAbs < b.year.natAbs ↔ a.year < b.year := by
    have := ca.1
    have := cb.1
    omega
  simp [sameYear, lessYear]

end Dataset.Date
