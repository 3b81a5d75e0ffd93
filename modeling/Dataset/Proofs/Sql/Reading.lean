import Dataset.Sql.Token
import Mathlib.Data.List.Forall2

/-!
# Reading statement text piece by piece

The reader of tokens goes through a text one character after another. Here its run over a piece of
text is a value of its own, so that a statement can be read fragment by fragment:

* `lexRun` gives the tokens that a piece completes and what the reader is inside of behind it;
* `Reads s ts`: from outside of everything, `s` is read as `ts` and leaves nothing open. Such pieces
  can be joined (`Reads.append`, `Reads.intercalate`), and a text that is one of them is read as a
  whole (`Reads.tokens?`);
* `Reads.identifier`, `Reads.word`: a quoted name of any characters is one identifier, a plain name
  one word, whatever character ends it.
-/

namespace Dataset.Sql

/-! ## 1. Runs -/

/-- The tokens that a piece of text completes, and what comes next. -/
def lexRun (l : Lexing) : List Char → List Token × Lexing
  | [] => ([], l)
  | c :: rest =>
    let r := lexRun (lexStep l c).2 rest
    ((lexStep l c).1 ++ r.1, r.2)

theorem lexRun_append (l : Lexing) (s t : List Char) :
    lexRun l (s ++ t) =
      ((lexRun l s).1 ++ (lexRun (lexRun l s).2 t).1, (lexRun (lexRun l s).2 t).2) := by
  induction s generalizing l with
  | nil => rfl
  | cons c s ih => simp [lexRun, ih]

/-- The reader of a whole text is a run up to its end. -/
theorem tokensFrom_eq (l : Lexing) (s : List Char) :
    tokensFrom l s = (lexEnd (lexRun l s).2).map ((lexRun l s).1 ++ ·) := by
  induction s generalizing l with
  | nil => simp [tokensFrom, lexRun]
  | cons c s ih =>
    rw [tokensFrom, ih, Option.map_map]
    simp [lexRun, Function.comp_def]

/-! ## 2. Pieces that leave nothing open -/

/-- Read from outside of every token, `s` gives the tokens `ts` and ends outside again. -/
def Reads (s : List Char) (ts : List Token) : Prop := lexRun .outside s = (ts, .outside)

instance (s : List Char) (ts : List Token) : Decidable (Reads s ts) :=
  inferInstanceAs (Decidable (lexRun .outside s = (ts, .outside)))

theorem Reads.nil : Reads [] [] := rfl

theorem Reads.append {s t : List Char} {ts us : List Token} (hs : Reads s ts) (ht : Reads t us) :
    Reads (s ++ t) (ts ++ us) := by
  unfold Reads at *
  rw [lexRun_append, hs, ht]

theorem Reads.tokens? {s : List Char} {ts : List Token} (h : Reads s ts) :
    tokens? s = some ts := by
  unfold Reads at h
  rw [Sql.tokens?, tokensFrom_eq, h]
  simp [lexEnd]

/-- Pieces with a separator between neighbours are read piece by piece. -/
theorem Reads.intercalate {sep : List Char} {us : List Token} (hsep : Reads sep us)
    {pieces : List (List Char)} {tokens : List (List Token)} (h : List.Forall₂ Reads pieces tokens) :
    Reads (sep.intercalate pieces) (us.intercalate tokens) := by
  induction h with
  | nil => exact Reads.nil
  | cons first rest ih =>
    cases rest with
    | nil => simpa using first
    | cons second rest => simpa using (first.append hsep).append ih

/-- What stands in a joined list besides its separators. -/
theorem filterMap_intercalate {α β : Type} {f : α → Option β} {sep : List α}
    (unseen : sep.filterMap f = []) (parts : List (List α)) :
    (sep.intercalate parts).filterMap f = parts.flatMap (List.filterMap f) := by
  induction parts with
  | nil => rfl
  | cons p rest ih =>
    cases rest with
    | nil => simp
    | cons q rest => simpa [unseen] using ih

/-! ## 3. Names -/

/-- Doubling keeps every backtick of a name from ending its quotation. -/
theorem lexRun_doubled (name content : List Char) :
    lexRun (.quoted backtick content) (doubled name) =
      ([], .quoted backtick (name.reverse ++ content)) := by
  induction name generalizing content with
  | nil => rfl
  | cons c name ih =>
    by_cases h : c = backtick
    · simp [doubled, h, lexRun, lexStep, ih]
    · simp [doubled, h, lexRun, lexStep, ih]

/-- A quoted name stands open at its last backtick: what follows decides whether it ends there. -/
theorem lexRun_quoteChars (name : List Char) :
    lexRun .outside (quoteChars name) = ([], .atMark backtick name.reverse) := by
  have start : lexStep .outside backtick = ([], .quoted backtick []) := by decide
  simp only [quoteChars, lexRun, start, lexRun_append, lexRun_doubled]
  simp [lexStep]

/-- How a text starts does not change by what is written behind it. -/
theorem starts_append {test : Char → Bool} {s : List Char} (t : List Char)
    (h : s.head?.any test = true) : (s ++ t).head?.any test = true := by
  cases s with
  | nil => cases h
  | cons c s => exact h

/-- **A quoted name is one identifier with exactly the characters of the name**, whatever they are,
    unless a backtick follows. -/
theorem Reads.identifier {s : List Char} {ts : List Token} (name : List Char)
    (ends : s.head?.any (· != backtick) = true) (h : Reads s ts) :
    Reads (quoteChars name ++ s) (.identifier name :: ts) := by
  have filled : s ≠ [] := fun empty => by
    rw [empty] at ends
    cases ends
  obtain ⟨c, s, rfl⟩ := List.exists_cons_of_ne_nil filled
  have other : c ≠ backtick := by simpa using ends
  have step : lexStep (.atMark backtick name.reverse) c =
      (.identifier name :: (lexStep .outside c).1, (lexStep .outside c).2) := by
    simp [lexStep, other, ofQuoted]
  unfold Reads at *
  simp only [lexRun, Prod.mk.injEq] at h
  rw [lexRun_append, lexRun_quoteChars]
  simp only [lexRun, step, List.nil_append, List.cons_append, h.1, h.2]

/-- Letters behind the first one of a word are taken into it. -/
theorem lexRun_plain (letters : List Char) {s : List Char} (h : s.all continuesPlain = true) :
    lexRun (.inWord letters) s = ([], .inWord (s.reverse ++ letters)) := by
  induction s generalizing letters with
  | nil => rfl
  | cons c s ih =>
    simp only [List.all_cons, Bool.and_eq_true] at h
    simp [lexRun, lexStep, h.1, ih (c :: letters) h.2]

theorem continuesPlain_of_startsPlain {c : Char} (h : startsPlain c = true) :
    continuesPlain c = true := by
  simp only [startsPlain, continuesPlain, Char.isAlphanum, Bool.or_eq_true] at *
  rcases h with h | h
  · exact .inl (.inl h)
  · exact .inr h

/-- A character that can begin a plain name opens a word. -/
theorem lexStep_startsPlain {c : Char} (h : startsPlain c = true) :
    lexStep .outside c = ([], .inWord [c]) := by
  have word := continuesPlain_of_startsPlain h
  have differs {d : Char} (other : startsPlain d = false) : c ≠ d := by
    intro same
    rw [same, other] at h
    cases h
  have notMark : c ≠ backtick := differs (by decide)
  have notQuote : c ≠ '\'' := differs (by decide)
  have notPlace : c ≠ '?' := differs (by decide)
  simp [lexStep, lexOutside, word, notMark, notQuote, notPlace]

/-- **A plain name is one word**, unless a character follows that goes on a name. -/
theorem Reads.word {s : List Char} {ts : List Token} {name : List Char}
    (plain : isPlainChars name = true) (ends : s.head?.any (!continuesPlain ·) = true)
    (h : Reads s ts) : Reads (name ++ s) (.word name :: ts) := by
  have filled : s ≠ [] := fun empty => by
    rw [empty] at ends
    cases ends
  obtain ⟨c, s, rfl⟩ := List.exists_cons_of_ne_nil filled
  have other : continuesPlain c = false := by simpa using ends
  cases name with
  | nil => cases plain
  | cons d name =>
    simp only [isPlainChars, Bool.and_eq_true] at plain
    have step : lexStep (.inWord (name.reverse ++ [d])) c =
        (.word (d :: name) :: (lexStep .outside c).1, (lexStep .outside c).2) := by
      simp [lexStep, other]
    unfold Reads at *
    simp only [lexRun, Prod.mk.injEq] at h
    simp only [List.cons_append, lexRun, lexStep_startsPlain plain.1, lexRun_append,
      lexRun_plain [d] plain.2, step, List.nil_append, h.1, h.2]

end Dataset.Sql
