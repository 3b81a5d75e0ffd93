import Dataset.Proofs.Json.Grammar

/-!
# Strings that are written with escapes

A string that is written between quotation marks spells what it was, whatever it holds.

* `spells_escapeChar`: one character, escaped where it has to be;
* **`spells_escape`**, `stringText_stringChars`: all of them, and the marks around them;
* `membersText_escape`: a key of an object;
* `length_le_escape`, `length_escape_le`: how long a string becomes.
-/

namespace Dataset.Json

/-! ## 1. Characters -/

/-- The two digits of a control character stand for it. -/
theorem hexValue?_hex4 : ∀ n < 32, hexValue? (Nat.digitChar (n / 16)) = some (n / 16) ∧
    hexValue? (Nat.digitChar (n % 16)) = some (n % 16) := by decide

theorem hex4_hex4 {n : Nat} (small : n < 32) : Hex4 n (hex4 n) := by
  obtain ⟨high, low⟩ := hexValue?_hex4 n small
  have zero : hexValue? '0' = some 0 := by decide
  have digits : Hex4 (((0 * 16 + 0) * 16 + n / 16) * 16 + n % 16) (hex4 n) :=
    .digits zero zero high low
  have whole : ((0 * 16 + 0) * 16 + n / 16) * 16 + n % 16 = n := by omega
  rwa [whole] at digits

/-- A control character is spelled by its four digits. -/
theorem code_hex4 {c : Char} (control : c < ' ') : Code c (hex4 c.toNat) := by
  have small : c.toNat < 32 := UInt32.lt_iff_toNat_lt.1 control
  have noHigh : ¬ IsHigh c.toNat := by
    rw [IsHigh]
    omega
  have noLow : ¬ IsLow c.toNat := by
    rw [IsLow]
    omega
  have code := Code.single (hex4_hex4 small) noHigh noLow
  rwa [Char.ofNat_toNat] at code

/-- **What is written for a character spells it.** -/
theorem spells_escapeChar (c : Char) {cs body : List Char} (h : Spells cs body) :
    Spells (c :: cs) (escapeChar c ++ body) := by
  have letter {l : Char} (among : (l, c) ∈ escapes) : Spells (c :: cs) ('\\' :: ([l] ++ body)) :=
    .escape (.letter among) h
  unfold escapeChar
  split_ifs with mark slash backspace tab newline feed ret control
  · exact letter (by simp [escapes, mark])
  · exact letter (by simp [escapes, slash])
  · exact letter (by simp [escapes, backspace])
  · exact letter (by simp [escapes, tab])
  · exact letter (by simp [escapes, newline])
  · exact letter (by simp [escapes, feed])
  · exact letter (by simp [escapes, ret])
  · exact .escape (.code (code_hex4 control)) h
  · exact .plain mark slash control h

/-! ## 2. Strings -/

/-- **What is written for a string spells it.** -/
theorem spells_escape (s : List Char) : Spells s (escape s) := by
  induction s with
  | nil => exact .nil
  | cons c s ih => exact spells_escapeChar c ih

theorem stringText_stringChars (s : String) : StringText s (stringChars s.toList) :=
  .marks (spells_escape s.toList)

/-- A member of an object whose key is written in this way. -/
theorem membersText_escape (key : String) (p : List Char) {first : Bool} {w s : List Char}
    {ms : List (String × List Char)} (lead : Lead first w) (behind : MembersText KeyText false ms s) :
    MembersText KeyText first ((key, p) :: ms)
      (w ++ '"' :: (escape key.toList ++ '"' :: ':' :: (p ++ s))) := by
  have spelt : KeyText key (escape key.toList) := spells_escape key.toList
  exact .member lead spelt .nil .nil behind

theorem length_escapeChar_pos (c : Char) : 0 < (escapeChar c).length := by
  unfold escapeChar
  split_ifs <;> simp

/-- Nothing is written with fewer characters than it has. -/
theorem length_le_escape (s : List Char) : s.length ≤ (escape s).length := by
  induction s with
  | nil => exact Nat.le_refl 0
  | cons c s ih =>
    have first := length_escapeChar_pos c
    rw [escape, List.flatMap_cons, List.length_append, List.length_cons]
    rw [escape] at ih
    omega

theorem length_escapeChar_le (c : Char) : (escapeChar c).length ≤ 6 := by
  unfold escapeChar
  split_ifs <;> simp [hex4]

/-- Nothing is written with more than six characters for each of its own. -/
theorem length_escape_le (s : List Char) : (escape s).length ≤ 6 * s.length := by
  induction s with
  | nil => exact Nat.le_refl 0
  | cons c s ih =>
    have first := length_escapeChar_le c
    rw [escape, List.flatMap_cons, List.length_append, List.length_cons]
    rw [escape] at ih
    omega

end Dataset.Json
