import Dataset.Json.Number
import Dataset.Proofs.Number.Numeral
import Dataset.Proofs.Outcome

/-!
# Where a number of JSON ends

The numbers of JSON are numerals of a narrower form. In a text such a numeral is passed over, or read,
up to where the text does not go on it, and the number that is read depends on the numeral alone.

* `Numeral.InJson`, `Numeral.Stops`: the numerals of JSON, and what does not go on a numeral;
* `Numeral.toNum`: the number that JSON reads of a numeral, if it is in range;
* **`skipNumber_ok_iff`**: exactly the numerals of JSON are passed over;
* **`readNumber_ok_iff`**: those in range are read, as their numbers.
-/

namespace Dataset.Number

open Json (Error)

/-! ## 1. The numerals of JSON -/

/-- A numeral has the form of JSON: no plus sign, digits before the point, among them no zero in front of
    others, and digits behind the point if there is one. -/
structure Numeral.InJson (n : Numeral) : Prop where
  noPlus : n.sign ≠ ['+']
  whole : n.integral ≠ []
  leads : n.integral.head? = some '0' → n.integral = ['0']
  behind : n.fraction ≠ some []

/-- What stands behind a numeral does not go on it. -/
structure Numeral.Stops (n : Numeral) (rest : List Char) : Prop where
  digit : ∀ c ∈ rest.head?, Text.isDigit c = false
  letter : n.exponent = none → ∀ c ∈ rest.head?, c ≠ 'e' ∧ c ≠ 'E'
  point : n.exponent = none → n.fraction = none → ∀ c ∈ rest.head?, c ≠ '.'

/-- What stands here goes on no numeral. -/
def Ends (rest : List Char) : Prop :=
  ∀ c ∈ rest.head?, Text.isDigit c = false ∧ c ≠ '.' ∧ c ≠ 'e' ∧ c ≠ 'E'

variable {n : Numeral} {rest : List Char}

theorem Ends.nil : Ends [] := by simp [Ends]

theorem Ends.stops (h : Ends rest) (n : Numeral) : n.Stops rest :=
  ⟨fun c hc => (h c hc).1, fun _ c hc => (h c hc).2.2, fun _ _ c hc => (h c hc).2.1⟩

/-! ## 2. Digits and what stands behind them -/

theorem spanDigits_append {ds : List Char} (all : ∀ c ∈ ds, Text.isDigit c = true)
    (stop : ∀ c ∈ rest.head?, Text.isDigit c = false) :
    Json.spanDigits (ds ++ rest) = (ds, rest) :=
  Prod.ext (span_digits all stop).1 (span_digits all stop).2

/-- Behind the digits of a numeral stands no digit. -/
theorem Numeral.Stops.exponent (h : n.Stops rest) :
    ∀ c ∈ (exponentChars n.exponent ++ rest).head?, Text.isDigit c = false := by
  intro c hc
  cases exponent : n.exponent with
  | none =>
    rw [exponent] at hc
    exact h.digit c hc
  | some e =>
    rw [exponent] at hc
    obtain rfl := Option.some.inj hc
    rcases e.letter_of with h | h <;> rw [h] <;> decide

theorem Numeral.Stops.fraction (h : n.Stops rest) :
    ∀ c ∈ (fractionChars n.fraction ++ (exponentChars n.exponent ++ rest)).head?,
      Text.isDigit c = false := by
  intro c hc
  cases fraction : n.fraction with
  | none =>
    rw [fraction] at hc
    exact h.exponent c hc
  | some ds =>
    rw [fraction] at hc
    obtain rfl := Option.some.inj hc
    decide

/-- Without a fraction no point stands behind the digits of a numeral. -/
theorem Numeral.Stops.noPoint (h : n.Stops rest) (fraction : n.fraction = none) (more : List Char) :
    exponentChars n.exponent ++ rest ≠ '.' :: more := by
  intro same
  cases exponent : n.exponent with
  | none =>
    rw [exponent] at same
    have start : rest = '.' :: more := same
    exact h.point exponent fraction '.' (by rw [start]; rfl) rfl
  | some e =>
    rw [exponent] at same
    have letter : e.letter = '.' := (List.cons.inj same).1
    rcases e.letter_of with h | h <;> rw [h] at letter <;> exact absurd letter (by decide)

theorem Numeral.span_fraction (h : n.Stops rest) {ds : List Char} (fraction : n.fraction = some ds) :
    Json.spanDigits (ds ++ (exponentChars n.exponent ++ rest)) =
      (ds, exponentChars n.exponent ++ rest) := by
  refine spanDigits_append (fun c hc => n.all_digits c (List.mem_append_right _ ?_)) h.exponent
  rw [fraction]
  exact hc

/-- The digits before the point, and what stands behind them. -/
theorem Numeral.span_whole (h : n.Stops rest) :
    Json.spanDigits (n.integral ++ (fractionChars n.fraction ++ (exponentChars n.exponent ++ rest))) =
      (n.integral, fractionChars n.fraction ++ (exponentChars n.exponent ++ rest)) :=
  spanDigits_append (fun c hc => n.all_digits c (List.mem_append_left _ hc)) h.fraction

theorem exponentSign_eq (s : List Char) : Json.exponentSign s = signOf s := by
  unfold Json.exponentSign signOf
  split
  · rfl
  · rfl
  · rename_i noPlus noMinus
    split
    · exact absurd rfl (noMinus _)
    · exact absurd rfl (noPlus _)
    · rfl

/-- The sign of an exponent, and what stands behind it. -/
theorem exponentSign_append (e : Exponent) (rest : List Char) :
    Json.exponentSign (e.sign ++ (e.digits ++ rest)) = (e.sign == ['-'], e.digits ++ rest) := by
  obtain ⟨d, ds, digits⟩ := List.exists_cons_of_ne_nil e.given
  rw [exponentSign_eq]
  refine signOf_append e.sign_of fun c hc => ?_
  rw [digits] at hc
  obtain rfl := Option.some.inj hc
  exact (of_isDigit (e.all_digits d (digits ▸ .head _))).2.2.2.2

theorem isLetter (e : Exponent) : (decide (e.letter = 'e') || decide (e.letter = 'E')) = true := by
  simpa using e.letter_of

/-- The sign of a numeral of JSON, and what stands behind it. -/
theorem Numeral.InJson.sign_eq (h : n.InJson) : n.sign = [] ∨ n.sign = ['-'] := by
  rcases n.sign_of with sign | sign | sign
  · exact .inl sign
  · exact .inr sign
  · exact absurd sign h.noPlus

theorem Numeral.chars_append (n : Numeral) (rest : List Char) : n.chars ++ rest =
    n.sign ++ (n.integral ++ (fractionChars n.fraction ++ (exponentChars n.exponent ++ rest))) := by
  simp [Numeral.chars]

/-- A numeral of JSON without a sign does not begin with one. -/
theorem Numeral.InJson.noMinus (h : n.InJson) (rest more : List Char) :
    n.integral ++ rest ≠ '-' :: more := by
  obtain ⟨d, ds, integral⟩ := List.exists_cons_of_ne_nil h.whole
  have digit := n.all_digits d (List.mem_append_left _ (integral ▸ .head _))
  rw [integral]
  exact fun same => (of_isDigit digit).2.2.2.2.1 (List.cons.inj same).1

/-! ## 3. Passing over -/

theorem skipDigits_append {ds : List Char} (given : ds ≠ [])
    (all : ∀ c ∈ ds, Text.isDigit c = true) (stop : ∀ c ∈ rest.head?, Text.isDigit c = false) :
    Json.skipDigits (ds ++ rest) = .ok rest := by
  obtain ⟨d, ds', rfl⟩ := List.exists_cons_of_ne_nil given
  rw [Json.skipDigits, spanDigits_append all stop]

theorem skipScale_append (h : n.Stops rest) :
    Json.skipScale (exponentChars n.exponent ++ rest) = .ok rest := by
  cases exponent : n.exponent with
  | none =>
    cases rest with
    | nil => rfl
    | cons c rest =>
      have other := h.letter exponent c rfl
      exact if_neg (by simp [other])
  | some e =>
    rw [exponentChars, List.cons_append, Json.skipScale, if_pos (isLetter e), List.append_assoc,
      exponentSign_append, skipDigits_append e.given e.all_digits h.digit]

/-- What follows the digits before the point, passed over by itself. -/
def skipTail (tail : List Char) : Except Error (List Char) :=
  match tail with
  | '.' :: rest => do Json.skipScale (← Json.skipDigits rest)
  | _ => Json.skipScale tail

theorem skipTail_of_noPoint {tail : List Char} (noPoint : ∀ rest, tail ≠ '.' :: rest) :
    skipTail tail = Json.skipScale tail := by
  unfold skipTail
  split
  · exact absurd rfl (noPoint _)
  · rfl

theorem skipUnsigned_of_span {s ds tail : List Char} (span : Json.spanDigits s = (ds, tail))
    (given : ds ≠ []) (leads : ds.head? = some '0' → ds = ['0']) :
    Json.skipUnsigned s = skipTail tail := by
  rw [Json.skipUnsigned, span]
  split
  · rename_i none
    exact absurd (congrArg Prod.fst none) given
  · rename_i c more rest long
    have two : ds = '0' :: c :: more := congrArg Prod.fst long
    have alone := leads (by rw [two]; rfl)
    rw [two] at alone
    cases alone
  · rename_i ds' rest _ _ point
    obtain rfl : tail = '.' :: rest := congrArg Prod.snd point
    rfl
  · rename_i ds' rest _ _ noPoint other
    obtain rfl : tail = rest := congrArg Prod.snd other
    exact (skipTail_of_noPoint fun _ point => noPoint _ point).symm

theorem skipTail_append (h : n.InJson) (stops : n.Stops rest) :
    skipTail (fractionChars n.fraction ++ (exponentChars n.exponent ++ rest)) = .ok rest := by
  cases fraction : n.fraction with
  | none =>
    rw [fractionChars, List.nil_append, skipTail_of_noPoint (stops.noPoint fraction)]
    exact skipScale_append stops
  | some ds =>
    have given : ds ≠ [] := fun empty => h.behind (by rw [fraction, empty])
    have all : ∀ c ∈ ds, Text.isDigit c = true := fun c hc =>
      n.all_digits c (List.mem_append_right _ (by rw [fraction]; exact hc))
    show (do Json.skipScale (← Json.skipDigits (ds ++ (exponentChars n.exponent ++ rest)))) = _
    rw [skipDigits_append given all stops.exponent, ok_bind, skipScale_append stops]

/-- **A numeral of JSON is passed over** up to where the text does not go on it. -/
theorem skipNumber_append (h : n.InJson) (stops : n.Stops rest) :
    Json.skipNumber (n.chars ++ rest) = .ok rest := by
  have unsigned := skipUnsigned_of_span (n.span_whole stops) h.whole h.leads
  rw [skipTail_append h stops] at unsigned
  rw [n.chars_append]
  rcases h.sign_eq with sign | sign
  · rw [sign, List.nil_append, Json.skipNumber, unsigned]
    exact h.noMinus _
  · rw [sign, List.singleton_append, Json.skipNumber, unsigned]

/-! ## 4. What is passed over -/

theorem of_spanDigits {s ds : List Char} (span : Json.spanDigits s = (ds, rest)) :
    s = ds ++ rest ∧ (∀ c ∈ ds, Text.isDigit c = true) ∧
      ∀ c ∈ rest.head?, Text.isDigit c = false := by
  obtain ⟨rfl, rfl⟩ := Prod.mk.inj span
  refine ⟨List.takeWhile_append_dropWhile.symm, isDigit_of_mem_takeWhile s, fun c hc => ?_⟩
  have other := List.head?_dropWhile_not Text.isDigit s
  rw [Option.mem_def.1 hc] at other
  simpa using other

theorem of_skipDigits {s : List Char} (h : Json.skipDigits s = .ok rest) :
    ∃ ds, Json.spanDigits s = (ds, rest) ∧ ds ≠ [] := by
  rw [Json.skipDigits] at h
  split at h
  · cases h
  · rename_i ds tail given span
    obtain rfl := Except.ok.inj h
    exact ⟨ds, span, given⟩

theorem of_skipScale {s : List Char} (stop : ∀ c ∈ s.head?, Text.isDigit c = false)
    (h : Json.skipScale s = .ok rest) :
    ∃ e : Option Exponent, s = exponentChars e ++ rest ∧
      (∀ c ∈ rest.head?, Text.isDigit c = false) ∧
      (e = none → ∀ c ∈ rest.head?, c ≠ 'e' ∧ c ≠ 'E') := by
  unfold Json.skipScale at h
  split at h
  · obtain rfl := Except.ok.inj h
    exact ⟨none, rfl, stop, by simp⟩
  · rename_i c tail
    split_ifs at h with letter
    · obtain ⟨ds, span, given⟩ := of_skipDigits h
      obtain ⟨behind, all, stop'⟩ := of_spanDigits span
      obtain ⟨sign, isSign, split⟩ := exists_sign tail
      rw [exponentSign_eq] at behind
      refine ⟨some ⟨c, sign, ds, by simpa using letter, isSign, given, all⟩, ?_, stop', nofun⟩
      rw [exponentChars, List.cons_append, List.append_assoc, ← behind, ← split]
    · obtain rfl := Except.ok.inj h
      refine ⟨none, rfl, stop, fun _ d hd => ?_⟩
      obtain rfl := Option.some.inj hd
      simpa using letter

theorem of_skipTail {tail : List Char} (stop : ∀ c ∈ tail.head?, Text.isDigit c = false)
    (h : skipTail tail = .ok rest) :
    ∃ (f : Option (List Char)) (e : Option Exponent),
      tail = fractionChars f ++ (exponentChars e ++ rest) ∧ f ≠ some [] ∧
      (∀ c ∈ f.getD [], Text.isDigit c = true) ∧ (∀ c ∈ rest.head?, Text.isDigit c = false) ∧
      (e = none → ∀ c ∈ rest.head?, c ≠ 'e' ∧ c ≠ 'E') ∧
      (e = none → f = none → ∀ c ∈ rest.head?, c ≠ '.') := by
  by_cases point : ∃ behind, tail = '.' :: behind
  · obtain ⟨behind, rfl⟩ := point
    have skips : (do Json.skipScale (← Json.skipDigits behind)) = .ok rest := h
    obtain ⟨more, skipped, scale⟩ := exists_ok_of_bind skips
    obtain ⟨ds, span, given⟩ := of_skipDigits skipped
    obtain ⟨split, all, stop'⟩ := of_spanDigits span
    obtain ⟨e, rest_eq, digit, letter⟩ := of_skipScale stop' scale
    refine ⟨some ds, e, ?_, by simpa using given, all, digit, letter, by simp⟩
    rw [fractionChars, List.cons_append, ← rest_eq, ← split]
  · have noPoint := not_exists.1 point
    rw [skipTail_of_noPoint noPoint] at h
    obtain ⟨e, rest_eq, digit, letter⟩ := of_skipScale stop h
    refine ⟨none, e, rest_eq, by simp, by simp, digit, letter, fun none _ c hc point => ?_⟩
    obtain ⟨more, rfl⟩ : ∃ more, rest = '.' :: more := by
      cases rest with
      | nil => cases hc
      | cons d more =>
        obtain rfl := Option.some.inj hc
        exact ⟨more, by rw [point]⟩
    rw [none] at rest_eq
    exact noPoint more rest_eq

theorem of_skipUnsigned {s : List Char} (h : Json.skipUnsigned s = .ok rest) :
    ∃ ds tail, Json.spanDigits s = (ds, tail) ∧ ds ≠ [] ∧ (ds.head? = some '0' → ds = ['0']) ∧
      skipTail tail = .ok rest := by
  cases span : Json.spanDigits s with
  | mk ds tail =>
    have given : ds ≠ [] := by
      rintro rfl
      rw [Json.skipUnsigned, span] at h
      cases h
    have leads : ds.head? = some '0' → ds = ['0'] := by
      intro zero
      obtain ⟨more, rfl⟩ := List.head?_eq_some_iff.1 zero
      cases more with
      | nil => rfl
      | cons c more =>
        rw [Json.skipUnsigned, span] at h
        cases h
    rw [skipUnsigned_of_span span given leads] at h
    exact ⟨ds, tail, rfl, given, leads, h⟩

/-- A numeral of JSON with its sign. -/
theorem exists_numeral_of_skipUnsigned {s sign : List Char} (isSign : sign = [] ∨ sign = ['-'])
    (h : Json.skipUnsigned s = .ok rest) :
    ∃ n : Numeral, n.InJson ∧ n.sign = sign ∧ sign ++ s = n.chars ++ rest ∧ n.Stops rest := by
  obtain ⟨ds, tail, span, given, leads, skipped⟩ := of_skipUnsigned h
  obtain ⟨split, all, stop⟩ := of_spanDigits span
  obtain ⟨f, e, rest_eq, behind, all', digit, letter, point⟩ := of_skipTail stop skipped
  have signed : IsSign sign := isSign.elim .inl fun minus => .inr (.inl minus)
  have noPlus : sign ≠ ['+'] := by rcases isSign with rfl | rfl <;> decide
  let n : Numeral := ⟨sign, ds, f, e, signed, by simp [given],
    fun c hc => (List.mem_append.1 hc).elim (all c) (all' c)⟩
  refine ⟨n, ⟨noPlus, given, leads, behind⟩, rfl, ?_, ⟨digit, letter, point⟩⟩
  rw [n.chars_append, split, rest_eq]

/-- **Exactly the numerals of JSON are passed over**, each up to where the text does not go on it. -/
theorem skipNumber_ok_iff {s : List Char} :
    Json.skipNumber s = .ok rest ↔
      ∃ n : Numeral, n.InJson ∧ s = n.chars ++ rest ∧ n.Stops rest := by
  constructor
  · intro h
    unfold Json.skipNumber at h
    split at h
    · obtain ⟨n, inJson, -, split, stops⟩ := exists_numeral_of_skipUnsigned (.inr rfl) h
      exact ⟨n, inJson, split, stops⟩
    · obtain ⟨n, inJson, -, split, stops⟩ := exists_numeral_of_skipUnsigned (.inl rfl) h
      exact ⟨n, inJson, split, stops⟩
  · rintro ⟨n, inJson, rfl, stops⟩
    exact skipNumber_append inJson stops

/-! ## 5. The number of a numeral -/

/-- The digits that are kept, moved by `start` places and by an exponent. -/
def movedBy (negative : Bool) (significand : Nat) (start : Int) :
    Option Exponent → Except Error Double
  | none => Json.fromParts negative significand start
  | some e =>
    let down := e.sign == ['-']
    let k := Text.decimalValue e.digits
    if Json.maxExponent < k then
      if significand ≠ 0 && !down then .error .numberOutOfRange else .ok (.finite negative ⟨0, 0⟩)
    else Json.fromParts negative significand (if down then start - k else start + k)

/-- The number that JSON reads of a numeral, if it is in range: digits behind those that are kept only
    move the point. -/
def Numeral.toNum (n : Numeral) : Except Error Json.Num :=
  let whole := Json.keepDigits 0 n.integral
  let left := whole.2.2.length
  match n.fraction with
  | some ds =>
    let kept := Json.keepDigits whole.1 ds
    (movedBy n.negative kept.1 (Int.ofNat left - Int.ofNat kept.2.1) n.exponent).map Json.Num.real
  | none =>
    if left = 0 && n.exponent.isNone then .ok (Json.integerOf n.negative whole.1)
    else (movedBy n.negative whole.1 (Int.ofNat left) n.exponent).map Json.Num.real

theorem asReal_map (x : Except Error Double) (rest : List Char) :
    Json.asReal (x.map (·, rest)) = (x.map Json.Num.real).map (·, rest) := by
  cases x <;> rfl

/-! ## 6. Reading -/

theorem readExponent_append (negative : Bool) (significand : Nat) (start : Int) (e : Exponent)
    (stop : ∀ c ∈ rest.head?, Text.isDigit c = false) :
    Json.readExponent negative significand start (e.sign ++ (e.digits ++ rest)) =
      (movedBy negative significand start (some e)).map (·, rest) := by
  obtain ⟨d, ds, digits⟩ := List.exists_cons_of_ne_nil e.given
  rw [Json.readExponent, exponentSign_append]
  simp only [spanDigits_append e.all_digits stop]
  split
  · rename_i none
    exact absurd (congrArg Prod.fst none) e.given
  · rename_i none
    exact absurd (congrArg Prod.fst none) e.given
  · rename_i ds' rest' _ _ span
    obtain ⟨rfl, rfl⟩ := Prod.mk.inj span
    rw [movedBy]
    split_ifs
    · rfl
    · rfl
    all_goals exact bind_ok_eq_map _ _

theorem readScale_append (stops : n.Stops rest) (negative : Bool) (significand : Nat) (start : Int) :
    Json.readScale negative significand start (exponentChars n.exponent ++ rest) =
      (movedBy negative significand start n.exponent).map (·, rest) := by
  have plain : (do let r ← Json.fromParts negative significand start; .ok (r, rest)) =
      (movedBy negative significand start none).map (·, rest) := bind_ok_eq_map _ _
  cases exponent : n.exponent with
  | none =>
    cases rest with
    | nil => exact plain
    | cons c rest =>
      have other := stops.letter exponent c rfl
      rw [← plain]
      exact if_neg (by simp [other])
  | some e =>
    rw [exponentChars, List.cons_append, List.append_assoc, Json.readScale]
    simp only [isLetter e, if_true]
    exact readExponent_append negative significand start e stops.digit

theorem readFraction_append (h : n.InJson) (stops : n.Stops rest) {ds : List Char}
    (fraction : n.fraction = some ds) (negative : Bool) (significand : Nat) (start : Int) :
    Json.readFraction negative significand start (ds ++ (exponentChars n.exponent ++ rest)) =
      (movedBy negative (Json.keepDigits significand ds).1
        (start - Int.ofNat (Json.keepDigits significand ds).2.1) n.exponent).map (·, rest) := by
  have given : ds ≠ [] := fun empty => h.behind (by rw [fraction, empty])
  rw [Json.readFraction, Numeral.span_fraction stops fraction]
  split
  · rename_i none
    exact absurd (congrArg Prod.fst none) given
  · rename_i none
    exact absurd (congrArg Prod.fst none) given
  · rename_i ds' rest' _ _ span
    obtain ⟨rfl, rfl⟩ := Prod.mk.inj span
    exact readScale_append stops negative _ _

/-- Behind digits that are all kept: a fraction, an exponent or neither. -/
def readTail (negative : Bool) (kept : Nat) (tail : List Char) : Except Error (Json.Num × List Char) :=
  match tail with
  | '.' :: rest => Json.asReal (Json.readFraction negative kept 0 rest)
  | c :: rest =>
    if c = 'e' || c = 'E' then Json.asReal (Json.readExponent negative kept 0 rest)
    else .ok (Json.integerOf negative kept, tail)
  | [] => .ok (Json.integerOf negative kept, [])

theorem readUnsigned_of_span {negative : Bool} {s ds tail : List Char}
    (span : Json.spanDigits s = (ds, tail)) (given : ds ≠ [])
    (leads : ds.head? = some '0' → ds = ['0']) :
    Json.readUnsigned negative s =
      let kept := Json.keepDigits 0 ds
      if kept.2.2 = [] then readTail negative kept.1 tail
      else Json.asReal (Json.readLong negative kept.1 kept.2.2.length tail) := by
  rw [Json.readUnsigned, span]
  split
  · rename_i none
    exact absurd (congrArg Prod.fst none) given
  · rename_i none
    exact absurd (congrArg Prod.fst none) given
  · rename_i c more rest long
    have two : ds = '0' :: c :: more := congrArg Prod.fst long
    have alone := leads (by rw [two]; rfl)
    rw [two] at alone
    cases alone
  · rename_i ds' rest _ _ _ other
    obtain ⟨rfl, rfl⟩ := Prod.mk.inj other
    split
    · rename_i kept taken all
      simp only [all, if_true]
      rfl
    · rename_i kept taken left some_left all
      have more : left ≠ [] := some_left
      simp only [all, if_neg more]

theorem readTail_append (h : n.InJson) (stops : n.Stops rest) (kept : Nat) :
    readTail n.negative kept
        (fractionChars n.fraction ++ (exponentChars n.exponent ++ rest)) =
      Except.map (·, rest) (match n.fraction, n.exponent with
        | some ds, e => (movedBy n.negative (Json.keepDigits kept ds).1
            (0 - Int.ofNat (Json.keepDigits kept ds).2.1) e).map Json.Num.real
        | none, some e => (movedBy n.negative kept 0 (some e)).map Json.Num.real
        | none, none => .ok (Json.integerOf n.negative kept)) := by
  cases fraction : n.fraction with
  | some ds =>
    show Json.asReal (Json.readFraction _ kept 0 (ds ++ (exponentChars n.exponent ++ rest))) = _
    rw [readFraction_append h stops fraction, asReal_map]
  | none =>
    cases exponent : n.exponent with
    | some e =>
      have moved := readExponent_append n.negative kept 0 e stops.digit
      rw [← List.append_assoc] at moved
      show readTail n.negative kept (e.letter :: ((e.sign ++ e.digits) ++ rest)) = _
      unfold readTail
      split
      · rename_i more point
        have letter := e.letter_of
        rw [(List.cons.inj point).1] at letter
        exact absurd letter (by decide)
      · rename_i c more _ same
        obtain ⟨rfl, rfl⟩ := List.cons.inj same
        rw [if_pos (isLetter e), moved, asReal_map]
      · rename_i none
        cases none
    | none =>
      cases rest with
      | nil => rfl
      | cons c rest =>
        have other := stops.letter exponent c rfl
        show readTail n.negative kept (c :: rest) = _
        unfold readTail
        split
        · rename_i more point
          exact absurd (List.cons.inj point).1 (stops.point exponent fraction c rfl)
        · rename_i c' more _ same
          obtain ⟨rfl, rfl⟩ := List.cons.inj same
          rw [if_neg (by simp [other])]
          rfl
        · rename_i none
          cases none

theorem readLong_append (h : n.InJson) (stops : n.Stops rest) (kept more : Nat) :
    Json.asReal (Json.readLong n.negative kept more
        (fractionChars n.fraction ++ (exponentChars n.exponent ++ rest))) =
      Except.map (·, rest) (match n.fraction with
        | some ds => (movedBy n.negative (Json.keepDigits kept ds).1
            (Int.ofNat more - Int.ofNat (Json.keepDigits kept ds).2.1) n.exponent).map Json.Num.real
        | none => (movedBy n.negative kept (Int.ofNat more) n.exponent).map Json.Num.real) := by
  cases fraction : n.fraction with
  | some ds =>
    show Json.asReal (Json.readFraction _ kept more (ds ++ (exponentChars n.exponent ++ rest))) = _
    rw [readFraction_append h stops fraction, asReal_map]
    rfl
  | none =>
    have scale : Json.readLong n.negative kept more (exponentChars n.exponent ++ rest) =
        Json.readScale n.negative kept (Int.ofNat more) (exponentChars n.exponent ++ rest) := by
      unfold Json.readLong
      split
      · rename_i point
        exact absurd point (stops.noPoint fraction _)
      · rfl
    rw [fractionChars, List.nil_append, scale, readScale_append stops, asReal_map]

theorem readUnsigned_append (h : n.InJson) (stops : n.Stops rest) :
    Json.readUnsigned n.negative (n.integral ++
        (fractionChars n.fraction ++ (exponentChars n.exponent ++ rest))) =
      n.toNum.map (·, rest) := by
  rw [readUnsigned_of_span (n.span_whole stops) h.whole h.leads, Numeral.toNum]
  by_cases all : (Json.keepDigits 0 n.integral).2.2 = []
  · simp only [all, if_true, readTail_append h stops]
    cases n.fraction <;> cases n.exponent <;> rfl
  · have more : (Json.keepDigits 0 n.integral).2.2.length ≠ 0 := by simpa using all
    simp only [if_neg all, readLong_append h stops, more]
    cases n.fraction <;> rfl

/-- **A numeral of JSON is read as its number** up to where the text does not go on it. -/
theorem readNumber_append (h : n.InJson) (stops : n.Stops rest) :
    Json.readNumber (n.chars ++ rest) = n.toNum.map (·, rest) := by
  have unsigned := readUnsigned_append h stops
  rw [n.chars_append]
  rcases h.sign_eq with sign | sign
  · rw [Numeral.negative, sign] at unsigned
    rw [sign, List.nil_append, Json.readNumber]
    · exact unsigned
    · exact h.noMinus _
  · rw [Numeral.negative, sign] at unsigned
    rw [sign, List.singleton_append, Json.readNumber]
    exact unsigned

/-! ## 7. What is read -/

variable {negative : Bool} {significand : Nat} {start : Int} {s : List Char}

theorem skipDigits_of_readExponent {x : Double}
    (h : Json.readExponent negative significand start s = .ok (x, rest)) :
    Json.skipDigits (Json.exponentSign s).2 = .ok rest := by
  rw [Json.readExponent] at h
  simp only at h
  split at h
  · cases h
  · cases h
  · rename_i ds tail _ given span
    obtain ⟨d, ds', rfl⟩ := List.exists_cons_of_ne_nil given
    have skipped : Json.skipDigits (Json.exponentSign s).2 = .ok tail := by
      rw [Json.skipDigits, span]
    rw [skipped]
    split_ifs at h
    · exact congrArg Except.ok (Prod.mk.inj (Except.ok.inj h)).2
    all_goals
      obtain ⟨r, -, read⟩ := exists_ok_of_bind h
      exact congrArg Except.ok (Prod.mk.inj (Except.ok.inj read)).2

theorem skipScale_of_readScale {x : Double}
    (h : Json.readScale negative significand start s = .ok (x, rest)) :
    Json.skipScale s = .ok rest := by
  have plain {tail : List Char} (read : (do
      let r ← Json.fromParts negative significand start
      Except.ok (r, tail)) = .ok (x, rest)) : tail = rest := by
    obtain ⟨r, -, same⟩ := exists_ok_of_bind read
    exact (Prod.mk.inj (Except.ok.inj same)).2
  cases s with
  | nil => exact congrArg Except.ok (plain h)
  | cons c tail =>
    rw [Json.readScale] at h
    rw [Json.skipScale]
    split_ifs at h ⊢ with letter
    · exact skipDigits_of_readExponent h
    · exact congrArg Except.ok (plain h)

theorem skipScale_of_readFraction {x : Double}
    (h : Json.readFraction negative significand start s = .ok (x, rest)) :
    (do Json.skipScale (← Json.skipDigits s)) = .ok rest := by
  rw [Json.readFraction] at h
  split at h
  · cases h
  · cases h
  · rename_i ds tail _ given span
    obtain ⟨d, ds', rfl⟩ := List.exists_cons_of_ne_nil given
    have skipped : Json.skipDigits s = .ok tail := by rw [Json.skipDigits, span]
    rw [skipped]
    exact skipScale_of_readScale h

theorem ok_of_asReal {r : Except Error (Double × List Char)} {x : Json.Num}
    (h : Json.asReal r = .ok (x, rest)) : ∃ y, r = .ok (y, rest) := by
  obtain ⟨⟨y, tail⟩, read, same⟩ := exists_ok_of_bind h
  obtain ⟨-, rfl⟩ := Prod.mk.inj (Except.ok.inj same)
  exact ⟨y, read⟩

theorem skipTail_of_readTail {kept : Nat} {x : Json.Num} (h : readTail negative kept s = .ok (x, rest)) :
    skipTail s = .ok rest := by
  unfold readTail at h
  split at h
  · obtain ⟨y, read⟩ := ok_of_asReal h
    exact skipScale_of_readFraction read
  · rename_i c tail noPoint
    rw [skipTail_of_noPoint fun _ point => noPoint (List.cons.inj point).1, Json.skipScale]
    split_ifs at h ⊢ with letter
    · obtain ⟨y, read⟩ := ok_of_asReal h
      exact skipDigits_of_readExponent read
    · exact congrArg Except.ok (Prod.mk.inj (Except.ok.inj h)).2
  · exact congrArg Except.ok (Prod.mk.inj (Except.ok.inj h)).2

theorem skipTail_of_readLong {more : Nat} {x : Double}
    (h : Json.readLong negative significand more s = .ok (x, rest)) : skipTail s = .ok rest := by
  unfold Json.readLong at h
  split at h
  · exact skipScale_of_readFraction h
  · rename_i noPoint
    rw [skipTail_of_noPoint fun _ point => noPoint _ point]
    exact skipScale_of_readScale h

theorem skipUnsigned_of_readUnsigned {x : Json.Num}
    (h : Json.readUnsigned negative s = .ok (x, rest)) : Json.skipUnsigned s = .ok rest := by
  cases span : Json.spanDigits s with
  | mk ds tail =>
    have given : ds ≠ [] := by
      rintro rfl
      rw [Json.readUnsigned, span] at h
      cases tail <;> cases h
    have leads : ds.head? = some '0' → ds = ['0'] := by
      intro zero
      obtain ⟨more, rfl⟩ := List.head?_eq_some_iff.1 zero
      cases more with
      | nil => rfl
      | cons c more =>
        rw [Json.readUnsigned, span] at h
        cases h
    rw [readUnsigned_of_span span given leads] at h
    rw [skipUnsigned_of_span span given leads]
    simp only at h
    split_ifs at h
    · exact skipTail_of_readTail h
    · obtain ⟨y, read⟩ := ok_of_asReal h
      exact skipTail_of_readLong read

/-- What is read as a number is passed over as one. -/
theorem skipNumber_of_readNumber {x : Json.Num} (h : Json.readNumber s = .ok (x, rest)) :
    Json.skipNumber s = .ok rest := by
  unfold Json.readNumber at h
  unfold Json.skipNumber
  split at h
  · exact skipUnsigned_of_readUnsigned h
  · exact skipUnsigned_of_readUnsigned h

/-- **The numerals of JSON whose numbers are in range are read**, as these numbers, each up to where the
    text does not go on it. -/
theorem readNumber_ok_iff {x : Json.Num} : Json.readNumber s = .ok (x, rest) ↔
    ∃ n : Numeral, n.InJson ∧ s = n.chars ++ rest ∧ n.Stops rest ∧ n.toNum = .ok x := by
  constructor
  · intro h
    obtain ⟨n, inJson, rfl, stops⟩ := skipNumber_ok_iff.1 (skipNumber_of_readNumber h)
    rw [readNumber_append inJson stops] at h
    obtain ⟨y, read, same⟩ := ok_of_map h
    obtain ⟨rfl, -⟩ := Prod.mk.inj same
    exact ⟨n, inJson, rfl, stops, read⟩
  · rintro ⟨n, inJson, rfl, stops, read⟩
    rw [readNumber_append inJson stops, read]
    rfl

end Dataset.Number
