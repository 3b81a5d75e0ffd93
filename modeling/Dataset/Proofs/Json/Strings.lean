import Dataset.Json.Reader
import Dataset.Proofs.Outcome
import Mathlib.Tactic.SplitIfs

/-!
# What strings of JSON spell

Between its quotation marks a string spells characters: as they stand, or by escapes, where a character
above U+FFFF takes two of them. A string that is passed over only has to have the form.

* `Escape`, `Spells`: what one escape stands for, and what a whole string spells;
* **`readString_ok_iff`**: a string is read as the characters that it spells, up to its closing mark;
* `StringForm`, **`skipString_ok_iff`**: the strings that are passed over.
-/

namespace Dataset.Json

/-! ## 1. What is spelled -/

/-- A number written with four hexadecimal digits. -/
inductive Hex4 : Nat → List Char → Prop where
  | digits {a b c d : Char} {x y z u : Nat} (first : hexValue? a = some x)
      (second : hexValue? b = some y) (third : hexValue? c = some z) (fourth : hexValue? d = some u) :
      Hex4 (((x * 16 + y) * 16 + z) * 16 + u) [a, b, c, d]

/-- The first half of a surrogate pair. -/
def IsHigh (n : Nat) : Prop := 0xD800 ≤ n ∧ n ≤ 0xDBFF

/-- The second half of a surrogate pair. -/
def IsLow (n : Nat) : Prop := 0xDC00 ≤ n ∧ n ≤ 0xDFFF

/-- The character of a surrogate pair. -/
def ofPair (high low : Nat) : Char := Char.ofNat ((high - 0xD800) * 0x400 + (low - 0xDC00) + 0x10000)

/-- The letters behind a backslash, and what they stand for. -/
def escapes : List (Char × Char) :=
  [('"', '"'), ('\\', '\\'), ('/', '/'), ('b', '\x08'), ('f', '\x0c'), ('n', '\n'), ('r', '\r'),
    ('t', '\t')]

/-- What stands for a character by its code: one number, or the two halves of a surrogate pair. -/
inductive Code : Char → List Char → Prop where
  | single {n : Nat} {ds : List Char} : Hex4 n ds → ¬ IsHigh n → ¬ IsLow n → Code (Char.ofNat n) ds
  | pair {high low : Nat} {ds ds' : List Char} : Hex4 high ds → IsHigh high → Hex4 low ds' →
      IsLow low → Code (ofPair high low) (ds ++ '\\' :: 'u' :: ds')

/-- What stands behind a backslash for a character. -/
inductive Escape : Char → List Char → Prop where
  | letter {l c : Char} : (l, c) ∈ escapes → Escape c [l]
  | code {c : Char} {e : List Char} : Code c e → Escape c ('u' :: e)

/-- The characters that a string spells between its marks. -/
inductive Spells : List Char → List Char → Prop where
  | nil : Spells [] []
  | plain {c : Char} {cs body : List Char} : c ≠ '"' → c ≠ '\\' → ¬ c < ' ' → Spells cs body →
      Spells (c :: cs) (c :: body)
  | escape {c : Char} {cs e body : List Char} : Escape c e → Spells cs body →
      Spells (c :: cs) ('\\' :: (e ++ body))

/-- What can stand behind a backslash, whatever it stands for. -/
inductive EscapeForm : List Char → Prop where
  | letter {l x : Char} : (l, x) ∈ escapes → EscapeForm [l]
  | code {n : Nat} {ds : List Char} : Hex4 n ds → EscapeForm ('u' :: ds)

/-- The form of a string between its marks: halves of surrogate pairs can stand alone. -/
inductive StringForm : List Char → Prop where
  | nil : StringForm []
  | plain {c : Char} {body : List Char} : c ≠ '"' → c ≠ '\\' → ¬ c < ' ' → StringForm body →
      StringForm (c :: body)
  | escape {e body : List Char} : EscapeForm e → StringForm body → StringForm ('\\' :: (e ++ body))

/-! ## 2. Escapes -/

variable {s rest : List Char} {n : Nat} {c x : Char}

theorem readHex4_ok_iff : readHex4 s = .ok (n, rest) ↔ ∃ ds, s = ds ++ rest ∧ Hex4 n ds := by
  constructor
  · intro h
    unfold readHex4 at h
    split at h
    · rename_i a b c d tail
      split at h
      · rename_i x y z u first second third fourth
        obtain ⟨rfl, rfl⟩ := Prod.mk.inj (Except.ok.inj h)
        exact ⟨[a, b, c, d], rfl, .digits first second third fourth⟩
      · cases h
    · cases h
  · rintro ⟨ds, rfl, ⟨first, second, third, fourth⟩⟩
    simp only [List.cons_append, List.nil_append, readHex4, first, second, third, fourth]

theorem simpleEscape?_eq_some_iff : simpleEscape? c = some x ↔ (c, x) ∈ escapes := by
  unfold simpleEscape?
  split_ifs with self b f n r t
  · simp only [Bool.or_eq_true, decide_eq_true_eq] at self
    rcases self with (rfl | rfl) | rfl <;> simp [escapes, eq_comm]
  · simp [escapes, b, eq_comm]
  · simp [escapes, f, eq_comm]
  · simp [escapes, n, eq_comm]
  · simp [escapes, r, eq_comm]
  · simp [escapes, t, eq_comm]
  · simp only [Bool.or_eq_true, decide_eq_true_eq, not_or] at self
    simp [escapes, self, b, f, n, r, t]

/-- No letter of the simple escapes is the one that begins a code. -/
theorem ne_u_of_mem_escapes (h : (c, x) ∈ escapes) : c ≠ 'u' := by
  rintro rfl
  simp [escapes] at h

theorem readSecondHalf_ok_iff {high : Nat} : readSecondHalf high s = .ok (x, rest) ↔
    ∃ low ds, s = '\\' :: 'u' :: (ds ++ rest) ∧ Hex4 low ds ∧ IsLow low ∧ ofPair high low = x := by
  constructor
  · intro h
    unfold readSecondHalf at h
    split at h
    · cases h
    · cases h
    · obtain ⟨⟨low, tail⟩, read, paired⟩ := exists_ok_of_bind h
      obtain ⟨ds, split, hex⟩ := readHex4_ok_iff.1 read
      simp only at paired
      split_ifs at paired with inside
      obtain ⟨same, rfl⟩ := Prod.mk.inj (Except.ok.inj paired)
      rw [Bool.and_eq_true, decide_eq_true_eq, decide_eq_true_eq] at inside
      exact ⟨low, ds, by rw [split], hex, inside, same⟩
    · cases h
  · rintro ⟨low, ds, rfl, hex, inside, rfl⟩
    rw [readSecondHalf, readHex4_ok_iff.2 ⟨ds, rfl, hex⟩, ok_bind]
    exact if_pos (by rwa [Bool.and_eq_true, decide_eq_true_eq, decide_eq_true_eq])

theorem readUnicode_ok_iff : readUnicode s = .ok (x, rest) ↔ ∃ e, s = e ++ rest ∧ Code x e := by
  constructor
  · intro h
    rw [readUnicode] at h
    obtain ⟨⟨n, tail⟩, read, found⟩ := exists_ok_of_bind h
    obtain ⟨ds, split, hex⟩ := readHex4_ok_iff.1 read
    simp only at found
    split_ifs at found with low high
    · obtain ⟨k, ds', split', hex', low', rfl⟩ := readSecondHalf_ok_iff.1 found
      rw [Bool.and_eq_true, decide_eq_true_eq, decide_eq_true_eq] at high
      refine ⟨ds ++ '\\' :: 'u' :: ds', ?_, .pair hex high hex' low'⟩
      rw [split, split', List.append_assoc]
      rfl
    · obtain ⟨same, rfl⟩ := Prod.mk.inj (Except.ok.inj found)
      rw [Bool.and_eq_true, decide_eq_true_eq, decide_eq_true_eq] at low high
      exact ⟨ds, split, same ▸ .single hex high low⟩
  · rintro ⟨e, rfl, code⟩
    have bounds (a b k : Nat) : (decide (a ≤ k) && decide (k ≤ b)) = true ↔ a ≤ k ∧ k ≤ b := by
      rw [Bool.and_eq_true, decide_eq_true_eq, decide_eq_true_eq]
    cases code with
    | single hex noHigh noLow =>
      rw [readUnicode, readHex4_ok_iff.2 ⟨_, rfl, hex⟩, ok_bind]
      simp only
      rw [if_neg (mt (bounds _ _ _).1 noLow), if_neg (mt (bounds _ _ _).1 noHigh)]
    | @pair high low ds ds' hex isHigh hex' isLow =>
      have noLow : ¬ IsLow high := fun h => Nat.not_le.2 (Nat.lt_of_le_of_lt isHigh.2 (by decide)) h.1
      have second : readSecondHalf high ('\\' :: 'u' :: (ds' ++ rest)) = .ok (ofPair high low, rest) :=
        readSecondHalf_ok_iff.2 ⟨low, ds', rfl, hex', isLow, rfl⟩
      rw [readUnicode, List.append_assoc, readHex4_ok_iff.2 ⟨ds, rfl, hex⟩, ok_bind]
      simp only
      rw [if_neg (mt (bounds _ _ _).1 noLow), if_pos ((bounds _ _ _).2 isHigh)]
      exact second

theorem readEscape_ok_iff : readEscape s = .ok (x, rest) ↔ ∃ e, s = e ++ rest ∧ Escape x e := by
  constructor
  · intro h
    unfold readEscape at h
    split at h
    · cases h
    · obtain ⟨e, rfl, code⟩ := readUnicode_ok_iff.1 h
      exact ⟨'u' :: e, rfl, .code code⟩
    · rename_i c tail _
      split at h
      · rename_i y letter
        obtain ⟨rfl, rfl⟩ := Prod.mk.inj (Except.ok.inj h)
        exact ⟨[c], rfl, .letter (simpleEscape?_eq_some_iff.1 letter)⟩
      · cases h
  · rintro ⟨e, rfl, escape⟩
    cases escape with
    | @letter l _ among =>
      rw [List.singleton_append, readEscape, simpleEscape?_eq_some_iff.2 among]
      exact ne_u_of_mem_escapes among
    | @code _ e code => exact readUnicode_ok_iff.2 ⟨e, rfl, code⟩

/-! ## 3. Strings -/

theorem exists_spells_of_readStringBody {cs : List Char} :
    ∀ {fuel : Nat} {s : List Char}, readStringBody fuel s = .ok (cs, rest) →
      ∃ body, s = body ++ '"' :: rest ∧ Spells cs body := by
  intro fuel
  induction fuel generalizing cs with
  | zero => nofun
  | succ fuel ih =>
    intro s h
    cases s with
    | nil => cases h
    | cons c tail =>
      rw [readStringBody] at h
      split_ifs at h with mark slash control
      · obtain ⟨rfl, rfl⟩ := Prod.mk.inj (Except.ok.inj h)
        exact ⟨[], by rw [mark]; rfl, .nil⟩
      · obtain ⟨⟨x, tail'⟩, escaped, behind⟩ := exists_ok_of_bind h
        obtain ⟨⟨xs, rest'⟩, read, done⟩ := exists_ok_of_bind behind
        obtain ⟨rfl, rfl⟩ := Prod.mk.inj (Except.ok.inj done)
        obtain ⟨e, split, escape⟩ := readEscape_ok_iff.1 escaped
        obtain ⟨body, split', spells⟩ := ih read
        refine ⟨'\\' :: (e ++ body), ?_, .escape escape spells⟩
        rw [slash, split, split', List.cons_append, List.append_assoc]
      · obtain ⟨⟨xs, rest'⟩, read, done⟩ := exists_ok_of_bind h
        obtain ⟨rfl, rfl⟩ := Prod.mk.inj (Except.ok.inj done)
        obtain ⟨body, rfl, spells⟩ := ih read
        exact ⟨c :: body, rfl, .plain mark slash control spells⟩

theorem readStringBody_of_spells {cs body : List Char} (h : Spells cs body) (rest : List Char) :
    ∀ {fuel : Nat}, body.length < fuel →
      readStringBody fuel (body ++ '"' :: rest) = .ok (cs, rest) := by
  -- what stands for a character is one character at least, and the closing mark takes one more unit
  induction h with
  | nil =>
    intro fuel enough
    obtain ⟨fuel, rfl⟩ := Nat.exists_eq_add_one_of_ne_zero (Nat.ne_of_gt enough)
    rfl
  | plain noMark noSlash noControl _ ih =>
    intro fuel enough
    obtain ⟨fuel, rfl⟩ := Nat.exists_eq_add_one_of_ne_zero (Nat.ne_of_gt (Nat.zero_lt_of_lt enough))
    rw [List.cons_append, readStringBody, if_neg noMark, if_neg noSlash, if_neg noControl,
      ih (Nat.lt_of_succ_lt_succ enough)]
    rfl
  | @escape c cs e body escape _ ih =>
    intro fuel enough
    obtain ⟨fuel, rfl⟩ := Nat.exists_eq_add_one_of_ne_zero (Nat.ne_of_gt (Nat.zero_lt_of_lt enough))
    rw [List.length_cons, List.length_append] at enough
    rw [List.cons_append, List.append_assoc, readStringBody, if_neg (by decide), if_pos rfl,
      readEscape_ok_iff.2 ⟨e, rfl, escape⟩, ok_bind]
    simp only
    rw [ih (by omega)]
    rfl

/-- **A string is read as the characters that it spells**, up to its closing mark. -/
theorem readString_ok_iff {cs : List Char} : readString s = .ok (cs, rest) ↔
    ∃ body, s = body ++ '"' :: rest ∧ Spells cs body := by
  constructor
  · exact exists_spells_of_readStringBody
  · rintro ⟨body, rfl, spells⟩
    refine readStringBody_of_spells spells rest ?_
    rw [List.length_append]
    omega

/-- What a string spells can be computed. -/
theorem spells_iff {cs body : List Char} :
    Spells cs body ↔ readString (body ++ ['"']) = .ok (cs, []) := by
  rw [readString_ok_iff]
  constructor
  · intro spells
    exact ⟨body, rfl, spells⟩
  · rintro ⟨other, same, spells⟩
    rwa [List.append_cancel_right same]

/-! ## 4. Strings that are passed over -/

theorem skipEscape_ok_iff : skipEscape s = .ok rest ↔ ∃ e, s = e ++ rest ∧ EscapeForm e := by
  constructor
  · intro h
    unfold skipEscape at h
    split at h
    · cases h
    · obtain ⟨⟨n, tail⟩, read, done⟩ := exists_ok_of_bind h
      obtain ⟨ds, rfl, hex⟩ := readHex4_ok_iff.1 read
      obtain rfl := Except.ok.inj done
      exact ⟨'u' :: ds, rfl, .code hex⟩
    · rename_i c tail _
      split_ifs at h with letter
      obtain rfl := Except.ok.inj h
      obtain ⟨x, letter⟩ := Option.isSome_iff_exists.1 letter
      exact ⟨[c], rfl, .letter (simpleEscape?_eq_some_iff.1 letter)⟩
  · rintro ⟨e, rfl, form⟩
    cases form with
    | @letter l x among =>
      rw [List.singleton_append, skipEscape, simpleEscape?_eq_some_iff.2 among]
      · rfl
      · exact ne_u_of_mem_escapes among
    | @code n ds hex =>
      rw [List.cons_append, skipEscape, readHex4_ok_iff.2 ⟨ds, rfl, hex⟩]
      rfl

theorem exists_form_of_skipStringBody :
    ∀ {fuel : Nat} {s : List Char}, skipStringBody fuel s = .ok rest →
      ∃ body, s = body ++ '"' :: rest ∧ StringForm body := by
  intro fuel
  induction fuel with
  | zero => nofun
  | succ fuel ih =>
    intro s h
    cases s with
    | nil => cases h
    | cons c tail =>
      rw [skipStringBody] at h
      split_ifs at h with mark slash control
      · obtain rfl := Except.ok.inj h
        exact ⟨[], by rw [mark]; rfl, .nil⟩
      · obtain ⟨tail', escaped, behind⟩ := exists_ok_of_bind h
        obtain ⟨e, split, escape⟩ := skipEscape_ok_iff.1 escaped
        obtain ⟨body, split', form⟩ := ih behind
        refine ⟨'\\' :: (e ++ body), ?_, .escape escape form⟩
        rw [slash, split, split', List.cons_append, List.append_assoc]
      · obtain ⟨body, rfl, form⟩ := ih h
        exact ⟨c :: body, rfl, .plain mark slash control form⟩

theorem skipStringBody_of_form {body : List Char} (h : StringForm body) (rest : List Char) :
    ∀ {fuel : Nat}, body.length < fuel → skipStringBody fuel (body ++ '"' :: rest) = .ok rest := by
  induction h with
  | nil =>
    intro fuel enough
    obtain ⟨fuel, rfl⟩ := Nat.exists_eq_add_one_of_ne_zero (Nat.ne_of_gt enough)
    rfl
  | plain noMark noSlash noControl _ ih =>
    intro fuel enough
    obtain ⟨fuel, rfl⟩ := Nat.exists_eq_add_one_of_ne_zero (Nat.ne_of_gt (Nat.zero_lt_of_lt enough))
    rw [List.cons_append, skipStringBody, if_neg noMark, if_neg noSlash, if_neg noControl,
      ih (Nat.lt_of_succ_lt_succ enough)]
  | @escape e body escape _ ih =>
    intro fuel enough
    obtain ⟨fuel, rfl⟩ := Nat.exists_eq_add_one_of_ne_zero (Nat.ne_of_gt (Nat.zero_lt_of_lt enough))
    rw [List.length_cons, List.length_append] at enough
    rw [List.cons_append, List.append_assoc, skipStringBody, if_neg (by decide), if_pos rfl,
      skipEscape_ok_iff.2 ⟨e, rfl, escape⟩, ok_bind, ih (by omega)]

/-- **Exactly the strings of the right form are passed over**, up to their closing marks. -/
theorem skipString_ok_iff : skipString s = .ok rest ↔
    ∃ body, s = body ++ '"' :: rest ∧ StringForm body := by
  constructor
  · exact exists_form_of_skipStringBody
  · rintro ⟨body, rfl, form⟩
    refine skipStringBody_of_form form rest ?_
    rw [List.length_append]
    omega

end Dataset.Json
