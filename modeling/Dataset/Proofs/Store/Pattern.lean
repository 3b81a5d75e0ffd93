import Dataset.Store.Like
import Mathlib.Tactic.SplitIfs

/-!
# What a pattern matches

`matchRow` computes, from the last item of a pattern to the first, for all suffixes of a text at
once whether they match. Here the meaning of a pattern is said item by item, and the table is shown
to hold it.

* `Matches p s`: the items of `p` stand for pieces of `s`, in order and without rest;
* `tail_matchRow`: a row of the table is that of the text without its first code point, with one
  entry in front, so that an entry can be read off a shorter text;
* **`matchItems_iff`**: the first entry says whether the pattern matches;
* `Cell.Like`: the text of a cell matches a pattern. `Cell.like?` decides it
  (`Cell.like?_eq_some_true_iff`), unless the pattern is too long (`Cell.like?_eq_none_iff`).
-/

namespace Dataset.Store

/-! ## 1. Meaning of a pattern -/

/-- The items stand for pieces of the text, in order and without rest. -/
def Matches : List PatternItem → List Nat → Prop
  | [], s => s = []
  | .any :: p, s => ∃ u v, s = u ++ v ∧ Matches p v
  | .one :: p, s => ∃ c v, s = c :: v ∧ Matches p v
  | .code n :: p, s => ∃ c v, s = c :: v ∧ foldCase c = foldCase n ∧ Matches p v

/-- Any text is no text, or one more code point. -/
theorem matches_any_cons (p : List PatternItem) (c : Nat) (s : List Nat) :
    Matches (.any :: p) (c :: s) ↔ Matches p (c :: s) ∨ Matches (.any :: p) s := by
  constructor
  · intro h
    obtain ⟨u, v, split, hv⟩ := h
    cases u with
    | nil => exact .inl (by rwa [split])
    | cons d u =>
      obtain ⟨rfl, rfl⟩ := List.cons.inj split
      exact .inr ⟨u, v, rfl, hv⟩
  · intro h
    rcases h with h | ⟨u, v, rfl, hv⟩
    · exact ⟨[], c :: s, rfl, h⟩
    · exact ⟨c :: u, v, rfl, hv⟩

theorem matches_any_nil (p : List PatternItem) : Matches (.any :: p) [] ↔ Matches p [] := by
  constructor
  · intro h
    obtain ⟨u, v, split, hv⟩ := h
    obtain ⟨rfl, rfl⟩ := List.append_eq_nil_iff.1 split.symm
    exact hv
  · exact fun h => ⟨[], [], rfl, h⟩

theorem matches_one_cons (p : List PatternItem) (c : Nat) (s : List Nat) :
    Matches (.one :: p) (c :: s) ↔ Matches p s := by
  constructor
  · intro h
    obtain ⟨d, v, split, hv⟩ := h
    obtain ⟨-, rfl⟩ := List.cons.inj split
    exact hv
  · exact fun h => ⟨c, s, rfl, h⟩

theorem matches_code_cons (n : Nat) (p : List PatternItem) (c : Nat) (s : List Nat) :
    Matches (.code n :: p) (c :: s) ↔ sameCode n c = true ∧ Matches p s := by
  rw [sameCode, beq_iff_eq, eq_comm]
  constructor
  · intro h
    obtain ⟨d, v, split, same, hv⟩ := h
    obtain ⟨rfl, rfl⟩ := List.cons.inj split
    exact ⟨same, hv⟩
  · exact fun ⟨same, h⟩ => ⟨c, s, rfl, same, h⟩

/-! ## 2. Rows of the table -/

theorem someSuffix_cons (b : Bool) (row : List Bool) :
    someSuffix (b :: row) = (b || (someSuffix row).headD false) :: someSuffix row := rfl

theorem tail_afterOne (test : Nat → Bool) (c : Nat) (s : List Nat) (row : List Bool) :
    (afterOne test (c :: s) row).tail = afterOne test s row.tail := rfl

theorem headD_afterOne (test : Nat → Bool) (c : Nat) (s : List Nat) (row : List Bool) :
    (afterOne test (c :: s) row).headD false = (test c && row.tail.headD false) := rfl

theorem length_someSuffix (row : List Bool) : (someSuffix row).length = row.length := by
  induction row with
  | nil => rfl
  | cons b row ih => rw [someSuffix_cons, List.length_cons, ih, List.length_cons]

theorem length_afterOne (test : Nat → Bool) (s : List Nat) (row : List Bool) :
    (afterOne test s row).length = s.length + 1 := by
  induction s generalizing row with
  | nil => rfl
  | cons c s ih => rw [afterOne, List.length_cons, ih, List.length_cons]

/-- A row has an entry for each suffix, the empty one included. -/
theorem length_matchRow (p : List PatternItem) (s : List Nat) :
    (matchRow p s).length = s.length + 1 := by
  induction p with
  | nil => simp [matchRow]
  | cons x p ih =>
    cases x with
    | any => rw [matchRow, length_someSuffix, ih]
    | one => rw [matchRow, length_afterOne]
    | code n => rw [matchRow, length_afterOne]

theorem matchRow_ne_nil (p : List PatternItem) (s : List Nat) : matchRow p s ≠ [] := by
  rw [← List.length_pos_iff, length_matchRow]
  exact Nat.succ_pos _

/-- Behind its first entry a row is the row of the text without its first code point. -/
theorem tail_matchRow (p : List PatternItem) (c : Nat) (s : List Nat) :
    (matchRow p (c :: s)).tail = matchRow p s := by
  induction p with
  | nil => rfl
  | cons x p ih =>
    cases x with
    | any =>
      obtain ⟨b, row, h⟩ := List.exists_cons_of_ne_nil (matchRow_ne_nil p (c :: s))
      rw [h, List.tail_cons] at ih
      rw [matchRow, h, someSuffix_cons, List.tail_cons, ih, matchRow]
    | one => rw [matchRow, tail_afterOne, ih, matchRow]
    | code n => rw [matchRow, tail_afterOne, ih, matchRow]

theorem matchItems_any_cons (p : List PatternItem) (c : Nat) (s : List Nat) :
    matchItems (.any :: p) (c :: s) = (matchItems p (c :: s) || matchItems (.any :: p) s) := by
  obtain ⟨b, row, h⟩ := List.exists_cons_of_ne_nil (matchRow_ne_nil p (c :: s))
  have rest : row = matchRow p s := by rw [← tail_matchRow p c s, h, List.tail_cons]
  simp only [matchItems, matchRow, h, someSuffix_cons, List.headD_cons, rest]

theorem matchItems_any_nil (p : List PatternItem) : matchItems (.any :: p) [] = matchItems p [] := by
  obtain ⟨b, h⟩ := List.length_eq_one_iff.1 (length_matchRow p [])
  simp [matchItems, matchRow, h, someSuffix]

theorem matchItems_one_cons (p : List PatternItem) (c : Nat) (s : List Nat) :
    matchItems (.one :: p) (c :: s) = matchItems p s := by
  rw [matchItems, matchRow, headD_afterOne, tail_matchRow, Bool.true_and, matchItems]

theorem matchItems_code_cons (n : Nat) (p : List PatternItem) (c : Nat) (s : List Nat) :
    matchItems (.code n :: p) (c :: s) = (sameCode n c && matchItems p s) := by
  rw [matchItems, matchRow, headD_afterOne, tail_matchRow, matchItems]

/-- **The first entry of the row says whether the pattern matches the text.** -/
theorem matchItems_iff (p : List PatternItem) (s : List Nat) :
    matchItems p s = true ↔ Matches p s := by
  induction p generalizing s with
  | nil => cases s <;> simp [matchItems, matchRow, Matches]
  | cons x p ih =>
    cases x with
    | any =>
      induction s with
      | nil => rw [matchItems_any_nil, ih, matches_any_nil]
      | cons c s ihs => rw [matchItems_any_cons, matches_any_cons, Bool.or_eq_true, ih, ihs]
    | one =>
      cases s with
      | nil => simp [matchItems, matchRow, afterOne, Matches]
      | cons c s => rw [matchItems_one_cons, matches_one_cons, ih]
    | code n =>
      cases s with
      | nil => simp [matchItems, matchRow, afterOne, Matches]
      | cons c s => rw [matchItems_code_cons, matches_code_cons, Bool.and_eq_true, ih]

/-! ## 3. Cells -/

/-- The text of the cell matches the pattern; without a value there is no text. -/
def Cell.Like (c : Cell) (pattern : String) : Prop :=
  ∃ codes, c.codes? = some codes ∧
    Matches ((textCodes pattern).map PatternItem.ofCode) codes

theorem Cell.not_like_null (pattern : String) : ¬ Cell.null.Like pattern := by
  intro like
  obtain ⟨codes, h, -⟩ := like
  cases h

/-- There is no decision on a pattern exactly if it is too long. -/
theorem Cell.like?_eq_none_iff (c : Cell) (pattern : String) :
    c.like? pattern = none ↔ maxPatternBytes < pattern.utf8ByteSize := by
  rw [Cell.like?]
  split_ifs with long
  · simp [long]
  · cases c.codes? <;> simp [long]

/-- A pattern is found to match exactly if it is short enough, and does. -/
theorem Cell.like?_eq_some_true_iff (c : Cell) (pattern : String) :
    c.like? pattern = some true ↔ pattern.utf8ByteSize ≤ maxPatternBytes ∧ c.Like pattern := by
  rw [Cell.like?, Cell.Like]
  split_ifs with long
  · exact iff_of_false (by simp) fun h => Nat.not_le.2 long h.1
  · rw [and_iff_right (Nat.not_lt.1 long)]
    cases c.codes? with
    | none => simp
    | some codes => simp [matchCodes, matchItems_iff]

/-- Cells of one text match the same patterns. -/
theorem Cell.like?_congr {a b : Cell} (same : a.codes? = b.codes?) (pattern : String) :
    a.like? pattern = b.like? pattern := by
  rw [Cell.like?, Cell.like?, same]

end Dataset.Store
