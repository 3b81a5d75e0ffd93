import Dataset.Proofs.Json.Integers
import Dataset.Proofs.Json.Reading

/-!
# Natural numbers, and values that may be `null`

Two kinds of values that are asked for in fields: a natural number up to a bound, and a value of some other
kind or `null`.

* `NaturalText`: the texts of natural numbers, which are their digits and nothing else;
* **`reads_readNatural`**: exactly the natural numbers up to the bound are read;
* `Nullable`, **`reads_readOptional`**: exactly the texts of values and the word for no value are read;
* `Stated`: what the texts of a field state, of which there is one at most;
* `Reads.unique`, `Stated.unique`: a text that is read stands for one value, so a field states one thing.
-/

namespace Dataset.Json

open Number (Numeral Ends)

/-! ## 1. Natural numbers -/

/-- The text of a natural number up to a bound: its digits, among them no zero in front of others. -/
structure NaturalText (max n : Nat) (p : List Char) : Prop where
  inhabited : p ≠ []
  digits : ∀ c ∈ p, Text.isDigit c = true
  leads : p.head? = some '0' → p = ['0']
  value : Text.decimalValue p = n
  within : n ≤ max

variable {max n : Nat} {p : List Char}

/-- The text of a natural number is that of a numeral of digits alone. -/
theorem NaturalText.exists_numeral (text : NaturalText max n p) :
    ∃ m : Numeral, m.InJson ∧ m.IsPlain ∧ m.integral = p := by
  have digits : ∀ c ∈ p ++ (none : Option (List Char)).getD [], Text.isDigit c = true := by
    simpa using text.digits
  refine ⟨⟨[], p, none, none, .inl rfl, by simpa using text.inhabited, digits⟩, ?_, ?_, rfl⟩
  · exact ⟨nofun, text.inhabited, text.leads, nofun⟩
  · exact ⟨rfl, rfl, rfl⟩

theorem naturalText_of_plain {m : Numeral} (inJson : m.InJson) (within : Text.decimalValue m.integral ≤ max) :
    NaturalText max (Text.decimalValue m.integral) m.integral where
  inhabited := inJson.whole
  digits := fun c hc => m.all_digits c (List.mem_append_left _ hc)
  leads := inJson.leads
  value := rfl
  within := within

/-- **Exactly the natural numbers up to a bound are read where one is asked for.** -/
theorem reads_readNatural (small : max ≤ maxSignificand) (kind : String) :
    Reads (readNatural max kind) (NaturalText max) where
  sound {s rest k} h := by
    unfold readNatural at h
    split at h
    · rename_i c tail start
      split_ifs at h with starts
      · obtain ⟨⟨x, tail'⟩, read, done⟩ := exists_ok_of_bind h
        simp only at done
        split at done
        · split_ifs at done with within
          obtain ⟨rfl, rfl⟩ := Prod.mk.inj (Except.ok.inj done)
          obtain ⟨m, inJson, split, -, value⟩ := Number.readNumber_ok_iff.1 read
          obtain ⟨plain, rfl, -⟩ := (Numeral.toNum_eq_natural_iff inJson).1 value
          obtain ⟨w, blank, rfl⟩ := of_skipSpace start
          refine ⟨w, m.integral, blank, ?_, naturalText_of_plain inJson within⟩
          rw [split, plain.chars]
        · cases done
        · cases done
      · exact absurd h (wrongKind_ne_ok _ _ _)
    · cases h
  complete {w p rest k} blank text ends := by
    obtain ⟨m, inJson, plain, rfl⟩ := text.exists_numeral
    have value : m.toNum = .ok (.int (.ofNat k)) :=
      (Numeral.toNum_eq_natural_iff inJson).2 ⟨plain, text.value, Nat.le_trans text.within small⟩
    obtain ⟨c, tail, chars, starts⟩ := startsNumber_chars inJson
    have read : readNumber (c :: (tail ++ rest)) = .ok (.int (.ofNat k), rest) :=
      Number.readNumber_ok_iff.2 ⟨m, inJson, by rw [chars]; rfl, ends.stops m, value⟩
    rw [← plain.chars, chars, List.cons_append, readNatural,
      skipSpace_append blank (of_startsNumber starts).1]
    simp only [starts, if_true, read, ok_bind, text.within]

/-! ## 2. Values or `null` -/

variable {α : Type} {read : List Char → Except Error (α × List Char)} {G : α → List Char → Prop}

/-- The text of a value, or the word for no value. -/
inductive Nullable (G : α → List Char → Prop) : Option α → List Char → Prop where
  | null : Nullable G none ['n', 'u', 'l', 'l']
  | given {a : α} {p : List Char} : G a p → Nullable G (some a) p

/-- A text that begins with a character that is no white space and no closing bracket, and does not begin
    the word for no value. -/
def Definite (p : List Char) : Prop := ∃ c rest, p = c :: rest ∧ (isSpace c = false ∧ c ≠ ']') ∧ c ≠ 'n'

theorem Definite.solid (h : Definite p) : Solid p := by
  obtain ⟨c, rest, rfl, solid, -⟩ := h
  exact ⟨c, rest, rfl, solid⟩

theorem NaturalText.definite (text : NaturalText max n p) : Definite p := by
  obtain ⟨m, inJson, plain, rfl⟩ := text.exists_numeral
  obtain ⟨c, rest, chars, starts⟩ := startsNumber_chars inJson
  refine ⟨c, rest, plain.chars ▸ chars, of_startsNumber starts, ?_⟩
  rintro rfl
  exact absurd starts (by decide)

theorem StringText.definite {s : String} (text : StringText s p) : Definite p := by
  cases text
  exact ⟨_, _, rfl, by decide, by decide⟩

theorem Nullable.solid {v : Option α} (definite : ∀ a p, G a p → Definite p) (h : Nullable G v p) :
    Solid p := by
  cases h with
  | null => decide
  | given text => exact (definite _ _ text).solid

/-- **Exactly the texts of values and the word for no value are read where a value may be missing.** -/
theorem reads_readOptional (reads : Reads read G) (definite : ∀ a p, G a p → Definite p) :
    Reads (readOptional read) (Nullable G) where
  sound {s rest v} h := by
    unfold readOptional at h
    split at h
    · rename_i tail start
      obtain ⟨rest', word, done⟩ := exists_ok_of_bind h
      obtain ⟨rfl, rfl⟩ := Prod.mk.inj (Except.ok.inj done)
      obtain ⟨w, blank, rfl⟩ := of_skipSpace start
      rw [readWord_ok_iff.1 word]
      exact ⟨w, _, blank, rfl, .null⟩
    · obtain ⟨⟨a, rest'⟩, found, done⟩ := exists_ok_of_bind h
      obtain ⟨rfl, rfl⟩ := Prod.mk.inj (Except.ok.inj done)
      obtain ⟨w, p, blank, split, text⟩ := reads.sound found
      exact ⟨w, p, blank, split, .given text⟩
  complete {w p rest v} blank text ends := by
    cases text with
    | null =>
      rw [readOptional, List.cons_append, skipSpace_append blank (by decide)]
      rfl
    | @given a p text =>
      have found := reads.complete blank text ends
      obtain ⟨c, tail, rfl, ⟨solid, -⟩, noNull⟩ := definite a p text
      rw [readOptional]
      split
      · rename_i more start
        rw [List.cons_append, skipSpace_append blank solid] at start
        exact absurd (List.cons.inj start).1 noNull
      · rw [found, ok_bind]

/-! ## 3. What fields state -/

/-- A text stands for one of the values that are read. -/
theorem Reads.unique (reads : Reads read G) {a b : α} (text : G a p) (text' : G b p) : a = b := by
  have found := reads.complete Blank.nil text Ends.nil
  have found' := reads.complete Blank.nil text' Ends.nil
  exact (Prod.mk.inj (Except.ok.inj (found.symm.trans found'))).1

/-- The texts of a field state a value: there is one text, which is that of the value, or they state none,
    with the word for it or without any text. -/
inductive Stated (G : α → List Char → Prop) : Option α → List (List Char) → Prop where
  | missing : Stated G none []
  | once {v : Option α} {p : List Char} : Nullable G v p → Stated G v [p]

/-- A field has one text at most. -/
theorem stated_cons_iff {v : Option α} {ps : List (List Char)} :
    Stated G v (p :: ps) ↔ ps = [] ∧ Nullable G v p := by
  constructor
  · intro h
    cases h with
    | once text => exact ⟨rfl, text⟩
  · rintro ⟨rfl, text⟩
    exact .once text

/-- **A field states one thing.** -/
theorem Stated.unique (reads : Reads read G) (definite : ∀ a p, G a p → Definite p) {u v : Option α}
    {ps : List (List Char)} (stated : Stated G u ps) (stated' : Stated G v ps) : u = v := by
  cases stated with
  | missing =>
    cases stated'
    rfl
  | once text =>
    cases stated' with
    | once text' => exact (reads_readOptional reads definite).unique text text'

end Dataset.Json
