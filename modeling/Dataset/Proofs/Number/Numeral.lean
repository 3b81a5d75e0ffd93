import Dataset.Number.Literal
import Mathlib.Data.List.TakeWhile
import Mathlib.Data.Rat.Defs
import Mathlib.Tactic.Cases
import Mathlib.Tactic.SplitIfs

/-!
# Decimal numbers in texts

A numeral is a decimal number as it is written: a sign or none, digits, a point among them or around
them or none, and an exponent or none. It has a value, whoever reads it.

* `Numeral`, `Numeral.chars`, `Numeral.toRat`: the parts, the text and the value of a numeral;
* `Spells`: a text is a numeral between white space;
* `Numeral.scan`: what the store keeps of a numeral;
* **`scan_of_spells`**, **`exists_spells_of_scan`**: the store takes exactly such texts for numbers.
-/

namespace Dataset.Number

/-! ## 1. Numerals -/

/-- A sign, or none. -/
def IsSign (s : List Char) : Prop := s = [] ∨ s = ['-'] ∨ s = ['+']

theorem isSign_nil : IsSign [] := .inl rfl

/-- An exponent: its letter, its sign and its digits, of which there is one at least. -/
structure Exponent where
  letter : Char
  sign : List Char
  digits : List Char
  letter_of : letter = 'e' ∨ letter = 'E'
  sign_of : IsSign sign
  given : digits ≠ []
  all_digits : ∀ c ∈ digits, Text.isDigit c = true

/-- A decimal number: a sign, the digits before the point, those behind it if there is a point, and an
    exponent if there is one. There is a digit on one side of the point at least. -/
structure Numeral where
  sign : List Char
  integral : List Char
  fraction : Option (List Char)
  exponent : Option Exponent
  sign_of : IsSign sign
  given : integral ++ fraction.getD [] ≠ []
  all_digits : ∀ c ∈ integral ++ fraction.getD [], Text.isDigit c = true

/-- A magnitude with its sign. -/
def signed (negative : Bool) (x : ℚ) : ℚ := if negative then -x else x

/-- The power of ten that an exponent stands for. -/
def Exponent.value (e : Exponent) : Int :=
  if e.sign = ['-'] then -(Text.decimalValue e.digits) else Text.decimalValue e.digits

/-- A point and the digits behind it. -/
def fractionChars : Option (List Char) → List Char
  | some ds => '.' :: ds
  | none => []

/-- An exponent as it is written. -/
def exponentChars : Option Exponent → List Char
  | some e => e.letter :: (e.sign ++ e.digits)
  | none => []

namespace Numeral

variable (n : Numeral)

/-- The digits behind the point. -/
def behind : List Char := n.fraction.getD []

/-- The number has a minus sign. -/
def negative : Bool := n.sign == ['-']

/-- The power of ten that the digits are multiplied by, apart from the point. -/
def tens : Int := (n.exponent.map Exponent.value).getD 0

/-- The value without the sign: the digits as one number, moved by the point and the exponent. -/
def magnitude : ℚ :=
  Text.decimalValue (n.integral ++ n.behind) * 10 ^ (n.tens - n.behind.length)

/-- The value. -/
def toRat : ℚ := signed n.negative n.magnitude

/-- The numeral as it is written. -/
def chars : List Char :=
  n.sign ++ (n.integral ++ (fractionChars n.fraction ++ exponentChars n.exponent))

end Numeral

/-- `text` is `n` with white space around it. -/
def Spells (text : List Char) (n : Numeral) : Prop :=
  ∃ front back, (∀ c ∈ front, isSpace c = true) ∧ (∀ c ∈ back, isSpace c = true) ∧
    text = front ++ (n.chars ++ back)

/-! ## 2. What the store keeps -/

/-- The power of ten that the store reads of an exponent. -/
def scannedTens : Option Exponent → Int
  | some e =>
    if e.sign = ['-'] then -(Int.ofNat (exponentOf e.digits)) else Int.ofNat (exponentOf e.digits)
  | none => 0

/-- The store keeps the first digits of a numeral and how far they have to be moved. -/
def Numeral.scan (n : Numeral) : Scan :=
  let whole := keepWhole n.integral 0
  let kept := keepFraction n.behind whole.1
  ⟨n.negative, kept.1, scannedTens n.exponent + Int.ofNat whole.2 - Int.ofNat kept.2,
    !n.fraction.isSome && !n.exponent.isSome, n.integral⟩

/-! ## 3. Characters -/

/-- White space is none of the characters of a numeral. -/
theorem of_isSpace {c : Char} (h : isSpace c = true) :
    Text.isDigit c = false ∧ c ≠ '.' ∧ c ≠ 'e' ∧ c ≠ 'E' ∧ c ≠ '-' ∧ c ≠ '+' := by
  have spaces : c = ' ' ∨ '\t' ≤ c ∧ c ≤ '\r' := by simpa [isSpace] using h
  rcases spaces with rfl | ⟨-, low⟩
  · decide
  · refine ⟨?_, ?_, ?_, ?_, ?_, ?_⟩
    · rw [Bool.eq_false_iff]
      intro digit
      have high : '0' ≤ c := (by simpa [Text.isDigit] using digit : '0' ≤ c ∧ c ≤ '9').1
      exact absurd (Char.le_trans high low) (by decide)
    all_goals
      rintro rfl
      exact absurd low (by decide)

/-- A digit is no other character of a numeral, and no white space. -/
theorem of_isDigit {c : Char} (h : Text.isDigit c = true) :
    isSpace c = false ∧ c ≠ '.' ∧ c ≠ 'e' ∧ c ≠ 'E' ∧ c ≠ '-' ∧ c ≠ '+' := by
  refine ⟨?_, ?_, ?_, ?_, ?_, ?_⟩
  · rw [Bool.eq_false_iff]
    intro space
    rw [(of_isSpace space).1] at h
    cases h
  all_goals
    rintro rfl
    exact absurd h (by decide)

variable {rest back : List Char}

/-- Digits end where something else begins. -/
theorem span_digits {ds : List Char} (all : ∀ c ∈ ds, Text.isDigit c = true)
    (stop : ∀ c ∈ rest.head?, Text.isDigit c = false) :
    (ds ++ rest).takeWhile Text.isDigit = ds ∧ (ds ++ rest).dropWhile Text.isDigit = rest := by
  rw [List.takeWhile_append_of_pos all, List.dropWhile_append_of_pos all]
  cases rest with
  | nil => exact ⟨List.append_nil ds, rfl⟩
  | cons c rest =>
    have other : ¬ Text.isDigit c = true := by simpa using stop c rfl
    rw [List.takeWhile_cons_of_neg other, List.dropWhile_cons_of_neg other]
    exact ⟨List.append_nil ds, rfl⟩

theorem signOf_append {sign : List Char} (h : IsSign sign)
    (stop : ∀ c ∈ rest.head?, c ≠ '-' ∧ c ≠ '+') :
    signOf (sign ++ rest) = (sign == ['-'], rest) := by
  rcases h with rfl | rfl | rfl
  · cases rest with
    | nil => rfl
    | cons c rest =>
      obtain ⟨minus, plus⟩ := stop c rfl
      rw [List.nil_append, signOf]
      · rfl
      · exact fun more h => minus (List.cons.inj h).1
      · exact fun more h => plus (List.cons.inj h).1
  · rfl
  · rfl

theorem fractionOf_append (f : Option (List Char)) (all : ∀ c ∈ f.getD [], Text.isDigit c = true)
    (stop : ∀ c ∈ rest.head?, Text.isDigit c = false ∧ c ≠ '.') :
    fractionOf (fractionChars f ++ rest) = (f.isSome, f.getD [], rest) := by
  cases f with
  | none =>
    cases rest with
    | nil => rfl
    | cons c rest =>
      rw [fractionChars, List.nil_append, fractionOf]
      · rfl
      · exact fun more h => (stop c rfl).2 (List.cons.inj h).1
  | some ds =>
    obtain ⟨front, behind⟩ := span_digits all fun c hc => (stop c hc).1
    rw [fractionChars, List.cons_append, fractionOf]
    exact Prod.ext rfl (Prod.ext front behind)

theorem exponentPart?_append (e : Option Exponent) (spaces : ∀ c ∈ back, isSpace c = true) :
    exponentPart? (exponentChars e ++ back) = some (e.isSome, scannedTens e, back) := by
  have solid : ∀ c ∈ back.head?, isSpace c = true := fun c hc => spaces c (List.mem_of_mem_head? hc)
  cases e with
  | none =>
    cases back with
    | nil => rfl
    | cons c rest =>
      obtain ⟨-, -, lower, upper, -⟩ := of_isSpace (solid c rfl)
      rw [exponentChars, List.nil_append, exponentPart?, if_neg (by simp [lower, upper])]
      rfl
  | some e =>
    obtain ⟨d, ds, first⟩ := List.exists_cons_of_ne_nil e.given
    have digit := e.all_digits d (first ▸ List.mem_cons_self)
    obtain ⟨front, behind⟩ := span_digits e.all_digits fun c hc => (of_isSpace (solid c hc)).1
    have signed : signOf (e.sign ++ (e.digits ++ back)) = (e.sign == ['-'], e.digits ++ back) := by
      refine signOf_append e.sign_of fun c hc => ?_
      rw [first] at hc
      obtain rfl := Option.some.inj hc
      exact (of_isDigit digit).2.2.2.2
    have letter : (decide (e.letter = 'e') || decide (e.letter = 'E')) = true := by
      simpa using e.letter_of
    rw [exponentChars, List.cons_append, List.append_assoc, exponentPart?, if_pos letter, signed]
    simp only [front, behind, List.isEmpty_eq_false_iff.2 e.given, scannedTens, Option.isSome_some]
    by_cases minus : e.sign = ['-'] <;> simp [minus]

/-! ## 4. What the store takes for a number -/

theorem head_exponentChars (e : Option Exponent) (spaces : ∀ c ∈ back, isSpace c = true) :
    ∀ c ∈ (exponentChars e ++ back).head?, Text.isDigit c = false ∧ c ≠ '.' := by
  intro c hc
  cases e with
  | none =>
    obtain ⟨digit, point, -⟩ := of_isSpace (spaces c (List.mem_of_mem_head? hc))
    exact ⟨digit, point⟩
  | some e =>
    obtain rfl := Option.some.inj hc
    rcases e.letter_of with h | h <;> rw [h] <;> decide

/-- What stands behind the digits before the point is no digit. -/
theorem head_fractionChars (f : Option (List Char)) (e : Option Exponent)
    (spaces : ∀ c ∈ back, isSpace c = true) :
    ∀ c ∈ (fractionChars f ++ (exponentChars e ++ back)).head?, Text.isDigit c = false := by
  intro c hc
  cases f with
  | none => exact (head_exponentChars e spaces c hc).1
  | some ds =>
    obtain rfl := Option.some.inj hc
    decide

/-- Behind the sign of a numeral stands a digit or the point. -/
theorem head_integral (n : Numeral) (rest : List Char) :
    ∀ c ∈ (n.integral ++ (fractionChars n.fraction ++ rest)).head?,
      Text.isDigit c = true ∨ c = '.' := by
  intro c hc
  cases integral : n.integral with
  | cons d ds =>
    rw [integral] at hc
    obtain rfl := Option.some.inj hc
    exact .inl (n.all_digits d (List.mem_append_left _ (integral ▸ List.mem_cons_self)))
  | nil =>
    cases fraction : n.fraction with
    | none =>
      have := n.given
      rw [integral, fraction] at this
      exact absurd rfl this
    | some ds =>
      rw [integral, fraction] at hc
      exact .inr (Option.some.inj hc).symm

/-- The sign of a numeral, and what stands behind it. -/
theorem signOf_chars (n : Numeral) (back : List Char) : signOf (n.chars ++ back) =
    (n.negative, n.integral ++ (fractionChars n.fraction ++ (exponentChars n.exponent ++ back))) := by
  have split : n.chars ++ back =
      n.sign ++ (n.integral ++ (fractionChars n.fraction ++ (exponentChars n.exponent ++ back))) := by
    simp [Numeral.chars]
  rw [split, signOf_append n.sign_of]
  · rfl
  · intro c hc
    rcases head_integral n _ c hc with digit | rfl
    · exact (of_isDigit digit).2.2.2.2
    · decide

/-- The digits before the point, and what stands behind them. -/
theorem span_integral (n : Numeral) (spaces : ∀ c ∈ back, isSpace c = true) :
    (n.integral ++ (fractionChars n.fraction ++ (exponentChars n.exponent ++ back))).takeWhile
        Text.isDigit = n.integral ∧
      (n.integral ++ (fractionChars n.fraction ++ (exponentChars n.exponent ++ back))).dropWhile
        Text.isDigit = fractionChars n.fraction ++ (exponentChars n.exponent ++ back) :=
  span_digits (fun c hc => n.all_digits c (List.mem_append_left _ hc))
    (head_fractionChars n.fraction n.exponent spaces)

/-- The digits behind the point, and what stands behind them. -/
theorem fractionOf_chars (n : Numeral) (spaces : ∀ c ∈ back, isSpace c = true) :
    fractionOf (fractionChars n.fraction ++ (exponentChars n.exponent ++ back)) =
      (n.fraction.isSome, n.behind, exponentChars n.exponent ++ back) :=
  fractionOf_append n.fraction (fun c hc => n.all_digits c (List.mem_append_right _ hc))
    (head_exponentChars n.exponent spaces)

/-- A numeral does not start with white space. -/
theorem dropWhile_chars (n : Numeral) (back : List Char) :
    (n.chars ++ back).dropWhile isSpace = n.chars ++ back := by
  have start := head_integral n (exponentChars n.exponent ++ back)
  have split : n.chars ++ back =
      n.sign ++ (n.integral ++ (fractionChars n.fraction ++ (exponentChars n.exponent ++ back))) := by
    simp [Numeral.chars]
  have first : ∀ c ∈ (n.chars ++ back).head?, isSpace c = false := by
    rw [split]
    intro c hc
    rcases n.sign_of with sign | sign | sign <;> rw [sign] at hc
    · rcases start c hc with digit | rfl
      · exact (of_isDigit digit).1
      · decide
    · obtain rfl := Option.some.inj hc
      decide
    · obtain rfl := Option.some.inj hc
      decide
  cases chars : n.chars ++ back with
  | nil => rfl
  | cons c more =>
    rw [chars] at first
    exact List.dropWhile_cons_of_neg (by simp [first c rfl])

/-- **The store takes a numeral between white space for a number.** -/
theorem scan_of_spells {text : List Char} {n : Numeral} (h : Spells text n) :
    scan text = some n.scan := by
  obtain ⟨front, back, before, behind, rfl⟩ := h
  obtain ⟨integral, point⟩ := span_integral n behind
  have empty : (back.dropWhile isSpace).isEmpty = true := by
    rw [List.isEmpty_iff, List.dropWhile_eq_nil_iff]
    exact behind
  have given : (n.integral.isEmpty && n.behind.isEmpty) = false := by
    have := n.given
    simpa [Numeral.behind, List.append_eq_nil_iff] using this
  rw [scan, List.dropWhile_append_of_pos before, dropWhile_chars, signOf_chars]
  simp only [integral, point, fractionOf_chars n behind, exponentPart?_append n.exponent behind, empty,
    given, Option.bind_eq_bind, Option.bind_some]
  simp [Numeral.scan]

theorem isDigit_of_mem_takeWhile (l : List Char) :
    ∀ c ∈ l.takeWhile Text.isDigit, Text.isDigit c = true :=
  fun _ hc => List.mem_takeWhile_imp hc

/-- What is read off as a sign, a fraction or an exponent stands there as one. -/
theorem exists_sign (l : List Char) : ∃ sign, IsSign sign ∧ l = sign ++ (signOf l).2 := by
  unfold signOf
  split
  · exact ⟨['-'], .inr (.inl rfl), rfl⟩
  · exact ⟨['+'], .inr (.inr rfl), rfl⟩
  · exact ⟨[], .inl rfl, rfl⟩

theorem exists_fraction (l : List Char) : ∃ f, (∀ c ∈ f.getD [], Text.isDigit c = true) ∧
    (fractionOf l).2.1 = f.getD [] ∧ l = fractionChars f ++ (fractionOf l).2.2 := by
  unfold fractionOf
  split
  · rename_i rest
    exact ⟨some (rest.takeWhile Text.isDigit), isDigit_of_mem_takeWhile rest, rfl,
      by simp [fractionChars, List.takeWhile_append_dropWhile]⟩
  · exact ⟨none, by simp, rfl, rfl⟩

theorem exists_exponentChars {l : List Char} {b : Bool} {e : Int}
    (read : exponentPart? l = some (b, e, rest)) : ∃ x, l = exponentChars x ++ rest := by
  unfold exponentPart? at read
  split at read
  · rename_i c more
    split_ifs at read with letter
    · simp only [Option.ite_none_left_eq_some, Option.some.injEq, Prod.mk.injEq] at read
      obtain ⟨given, -, -, rfl⟩ := read
      obtain ⟨s, hs, split⟩ := exists_sign more
      refine ⟨some ⟨c, s, _, by simpa using letter, hs, by simpa using given,
        isDigit_of_mem_takeWhile _⟩, ?_⟩
      simp only [exponentChars, List.cons_append, List.append_assoc, List.takeWhile_append_dropWhile]
      rw [← split]
    · simp only [Option.some.injEq, Prod.mk.injEq] at read
      exact ⟨none, by simp [exponentChars, read.2.2]⟩
  · simp only [Option.some.injEq, Prod.mk.injEq] at read
    exact ⟨none, by simp [exponentChars, read.2.2]⟩

/-- **Every text that the store takes for a number is a numeral between white space.** -/
theorem exists_spells_of_scan {text : List Char} {s : Scan} (h : scan text = some s) :
    ∃ n, Spells text n := by
  rw [scan] at h
  simp only [Option.bind_eq_bind] at h
  obtain ⟨⟨b, e, back⟩, read, h⟩ := Option.bind_eq_some_iff.1 h
  simp only [Option.ite_none_left_eq_some] at h
  obtain ⟨passes, -⟩ := h
  obtain ⟨signChars, isSign, signed⟩ := exists_sign (text.dropWhile isSpace)
  generalize (signOf (text.dropWhile isSpace)).2 = u at *
  obtain ⟨f, all, same, split⟩ := exists_fraction (u.dropWhile Text.isDigit)
  generalize fractionOf (u.dropWhile Text.isDigit) = r at *
  obtain ⟨x, exps⟩ := exists_exponentChars read
  simp only [Bool.or_eq_true, Bool.not_eq_true', Bool.and_eq_true, not_or] at passes
  refine ⟨⟨signChars, u.takeWhile Text.isDigit, f, x, isSign, ?_, ?_⟩, text.takeWhile isSpace, back,
    fun c hc => List.mem_takeWhile_imp hc, ?_, ?_⟩
  · rw [ne_eq, List.append_eq_nil_iff, ← same]
    simpa using passes.2
  · intro c hc
    exact (List.mem_append.1 hc).elim (isDigit_of_mem_takeWhile u c) (all c)
  · have solid : back.dropWhile isSpace = [] := by simpa using passes.1
    exact List.dropWhile_eq_nil_iff.1 solid
  · rw [Numeral.chars, List.append_assoc, List.append_assoc, List.append_assoc, ← exps, ← split,
      List.takeWhile_append_dropWhile, ← signed, List.takeWhile_append_dropWhile]

end Dataset.Number
