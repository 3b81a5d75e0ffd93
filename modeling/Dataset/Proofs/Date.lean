import Dataset.Date
import Dataset.Proofs.Number.Numeral
import Dataset.Proofs.Text.Digits
import Dataset.Proofs.Text.Trimming

/-!
# Dates are no numbers

Every text that a date is normalised to has a hyphen behind the digits of its year, which no number
has.

* `Hyphenated`: a sign, or none, then digits, then a hyphen;
* `hyphenated_of_iso?`, `hyphenated_toText`: texts in ISO form, read and written, are like this;
* `number?_of_hyphenated`: no number is;
* **`number?_normalize`**: so the store leaves a normalised date as it stands.
-/

namespace Dataset.Date

/-- A sign, or none, then digits, then a hyphen and anything. -/
def Hyphenated (s : List Char) : Prop :=
  ∃ sign digits rest, (sign = [] ∨ sign = ['-'] ∨ sign = ['+']) ∧ digits ≠ [] ∧
    (∀ c ∈ digits, Text.isDigit c = true) ∧ s = sign ++ (digits ++ '-' :: rest)

/-! ## 1. Dates that are read -/

theorem hyphen?_eq_some {s rest : List Char} (h : hyphen? s = some rest) : s = '-' :: rest := by
  unfold hyphen? at h
  split at h
  · rw [Option.some.inj h]
  · cases h

/-- What follows the first digits of a text, and the digits themselves. -/
theorem digits_append_drop {s ds rest : List Char} (start : ds <+: s)
    (hyphen : s.drop ds.length = '-' :: rest) : s = ds ++ '-' :: rest := by
  obtain ⟨more, rfl⟩ := start
  rw [List.drop_left] at hyphen
  rw [hyphen]

theorem hyphenated_of_year? {s s' rest : List Char} {year : Int} (start : Text.trimStart s = s)
    (read : year? s = some (year, s')) (hyphen : s' = '-' :: rest) : Hyphenated s := by
  have behind {sign : Char} {more : List Char} (signed : sign = '-' ∨ sign = '+')
      (given : (more.takeWhile Text.isDigit).isEmpty = false)
      (left : more.drop (more.takeWhile Text.isDigit).length = s') : Hyphenated (sign :: more) := by
    have whole := digits_append_drop (List.takeWhile_prefix Text.isDigit) (left.trans hyphen)
    refine ⟨[sign], more.takeWhile Text.isDigit, rest, ?_, by simpa using given,
      fun c hc => List.mem_takeWhile_imp hc, by rw [List.singleton_append, ← whole]⟩
    rcases signed with rfl | rfl <;> simp
  unfold year? at read
  rw [start] at read
  split at read
  · simp only [Option.ite_none_left_eq_some, Option.some.injEq, Prod.mk.injEq] at read
    exact behind (.inl rfl) (by simpa using read.1) read.2.2
  · simp only [Option.ite_none_left_eq_some, Option.some.injEq, Prod.mk.injEq] at read
    exact behind (.inr rfl) (by simpa using read.1) read.2.2
  · obtain ⟨field, hfield, hs'⟩ := Option.map_eq_some_iff.1 read
    unfold field? at hfield
    simp only [start, Option.ite_none_left_eq_some, Option.some.injEq] at hfield
    obtain ⟨given, rfl⟩ := hfield
    have left := (Prod.mk.inj hs').2
    have first : (s.take 4).takeWhile Text.isDigit <+: s :=
      (List.takeWhile_prefix _).trans (List.take_prefix 4 s)
    have given' : (s.take 4).takeWhile Text.isDigit ≠ [] := fun empty => given (by rw [empty]; rfl)
    refine ⟨[], _, rest, .inl rfl, given', fun c hc => List.mem_takeWhile_imp hc, ?_⟩
    exact digits_append_drop first (left.trans hyphen)

/-- A text that is read as a date in ISO form has a hyphen behind its year. -/
theorem hyphenated_of_iso? {s : List Char} (start : Text.trimStart s = s)
    (read : (iso? s).isSome = true) : Hyphenated s := by
  obtain ⟨date, hdate⟩ := Option.isSome_iff_exists.1 read
  rw [iso?] at hdate
  obtain ⟨⟨year, s'⟩, hyear, hdate⟩ := Option.bind_eq_some_iff.1 hdate
  obtain ⟨rest, hrest, -⟩ := Option.bind_eq_some_iff.1 hdate
  exact hyphenated_of_year? start hyear (hyphen?_eq_some hrest)

/-! ## 2. Dates that are written -/

theorem yearText_eq (year : Int) :
    ∃ sign, (sign = [] ∨ sign = ['-'] ∨ sign = ['+']) ∧
      (yearText year).toList = sign ++ (Text.padded 4 year.natAbs).toList := by
  unfold yearText
  split_ifs
  · exact ⟨['-'], by simp, by simp⟩
  · exact ⟨['+'], by simp, by simp⟩
  · exact ⟨[], by simp, by simp⟩

/-- A date in ISO form has a hyphen behind its year. -/
theorem hyphenated_toText (date : Date) : Hyphenated date.toText.toList := by
  obtain ⟨sign, signs, year⟩ := yearText_eq date.year
  refine ⟨sign, (Text.padded 4 date.year.natAbs).toList,
    (Text.padded 2 date.month).toList ++ '-' :: (Text.padded 2 date.day).toList, signs,
    Text.padded_ne_nil _ _, fun c hc => Text.isDigit_of_mem_padded hc, ?_⟩
  simp only [toText, String.toList_append, year, List.append_assoc]
  rfl

/-! ## 3. Numbers -/

/-- No number has a hyphen behind its first digits. -/
theorem number?_of_hyphenated {s : List Char} (h : Hyphenated s) : Number.number? s = none := by
  obtain ⟨sign, digits, rest, signs, given, all, rfl⟩ := h
  -- up to the hyphen the text is a numeral, which the store reads off before it stops
  let n : Number.Numeral := ⟨sign, digits, none, none, signs, by simpa using given, by simpa using all⟩
  have chars : sign ++ (digits ++ '-' :: rest) = n.chars ++ '-' :: rest := by
    simp [n, Number.Numeral.chars, Number.fractionChars, Number.exponentChars]
  have signed : Number.signOf (n.chars ++ '-' :: rest) = (n.negative, digits ++ '-' :: rest) :=
    Number.signOf_chars n ('-' :: rest)
  obtain ⟨whole, behind⟩ : (digits ++ '-' :: rest).takeWhile Text.isDigit = digits ∧
      (digits ++ '-' :: rest).dropWhile Text.isDigit = '-' :: rest :=
    Number.span_digits all (by simp [Text.isDigit])
  have unread : Number.scan (sign ++ (digits ++ '-' :: rest)) = none := by
    rw [Number.scan, chars, Number.dropWhile_chars, signed]
    simp only [whole, behind]
    rfl
  rw [Number.number?, unread]
  rfl

/-- A date is normalised to a text with a hyphen behind its year. -/
theorem hyphenated_normalize {s d : String} (h : normalize s = some d) : Hyphenated d.toList := by
  unfold normalize at h
  simp only [Option.ite_none_left_eq_some] at h
  obtain ⟨-, h⟩ := h
  split_ifs at h with iso
  · obtain rfl := Option.some.inj h
    rw [String.toList_ofList]
    exact hyphenated_of_iso? (Text.trimmed_trimChars s.toList).start iso
  · obtain ⟨date, -, rfl⟩ := Option.map_eq_some_iff.1 h
    exact hyphenated_toText date

/-- **A date is normalised to a text that is no number.** -/
theorem number?_normalize {s d : String} (h : normalize s = some d) :
    Number.number? d.toList = none :=
  number?_of_hyphenated (hyphenated_normalize h)

/-- A text with a hyphen behind its year is not empty. -/
theorem Hyphenated.ne_nil {s : List Char} (h : Hyphenated s) : s ≠ [] := by
  obtain ⟨sign, digits, rest, -, -, -, rfl⟩ := h
  simp

/-- A text that is not blank is normalised to nothing exactly if it is a date in neither form. -/
theorem normalize_eq_none_iff {s : String} (given : Text.isBlankText s = false) :
    normalize s = none ↔
      iso? (Text.trimChars s.toList) = none ∧ slashed? (Text.trimChars s.toList) = none := by
  have left : (Text.trimChars s.toList).isEmpty = false := by
    rw [List.isEmpty_eq_false_iff, ne_eq, Text.trimChars_eq_nil_iff]
    simpa [Text.isBlankText] using given
  rw [normalize, left]
  cases iso? (Text.trimChars s.toList) <;> simp

end Dataset.Date
