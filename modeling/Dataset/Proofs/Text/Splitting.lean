import Dataset.Text.Blank
import Mathlib.Tactic.SplitIfs

/-!
# Taking texts apart where they were put together

A text is split at the first place of a character, or at all its places. Both undo putting texts together
with that character in between, as long as it does not occur in them, and there is no other way to come by
pieces (`pieces_eq_three_iff`).
-/

namespace Dataset.Text

variable {c : Char}

/-! ## 1. At the first place -/

theorem splitAtFirst_of_notMem : ∀ {s : List Char}, c ∉ s → splitAtFirst c s = (s, none)
  | [], _ => rfl
  | x :: s, absent => by
    rw [List.mem_cons, not_or] at absent
    rw [splitAtFirst, if_neg (Ne.symm absent.1), splitAtFirst_of_notMem absent.2]

/-- **Splitting at the first place of a character undoes putting it between two texts.** -/
theorem splitAtFirst_append (rest : List Char) :
    ∀ {s : List Char}, c ∉ s → splitAtFirst c (s ++ c :: rest) = (s, some rest)
  | [], _ => by rw [List.nil_append, splitAtFirst, if_pos rfl]
  | x :: s, absent => by
    rw [List.mem_cons, not_or] at absent
    rw [List.cons_append, splitAtFirst, if_neg (Ne.symm absent.1), splitAtFirst_append rest absent.2]

/-! ## 2. At all places -/

theorem pieces_of_notMem : ∀ {s : List Char}, c ∉ s → pieces c s = [s]
  | [], _ => rfl
  | x :: s, absent => by
    rw [List.mem_cons, not_or] at absent
    rw [pieces, if_neg (Ne.symm absent.1), pieces_of_notMem absent.2]

/-- The piece before the first place of a character is what stands before it. -/
theorem pieces_append (rest : List Char) :
    ∀ {s : List Char}, c ∉ s → pieces c (s ++ c :: rest) = s :: pieces c rest
  | [], _ => by rw [List.nil_append, pieces, if_pos rfl]
  | x :: s, absent => by
    rw [List.mem_cons, not_or] at absent
    rw [List.cons_append, pieces, if_neg (Ne.symm absent.1), pieces_append rest absent.2]

theorem pieces_ne_nil : ∀ s : List Char, pieces c s ≠ []
  | [] => by simp [pieces]
  | x :: s => by
    rw [pieces]
    split_ifs
    · simp
    · split <;> simp

/-- The pieces of two texts with the character between them are those of the one and then those of the
    other. -/
theorem pieces_append_cons (s rest : List Char) :
    pieces c (s ++ c :: rest) = pieces c s ++ pieces c rest := by
  induction s with
  | nil =>
    rw [List.nil_append, pieces.eq_2, if_pos rfl]
    rfl
  | cons x s ih =>
    obtain ⟨p, ps, first⟩ := List.exists_cons_of_ne_nil (pieces_ne_nil (c := c) s)
    rw [List.cons_append, pieces, pieces, ih, first]
    split_ifs <;> rfl

/-- The first piece ends with the text, or the others are the pieces of what stands behind it. -/
theorem pieces_eq_cons {p : List Char} {ps : List (List Char)} :
    ∀ {s : List Char}, pieces c s = p :: ps →
      c ∉ p ∧ (s = p ∧ ps = [] ∨ ∃ rest, s = p ++ c :: rest ∧ pieces c rest = ps)
  | [], h => by
    obtain ⟨rfl, rfl⟩ := List.cons.inj h
    simp
  | x :: s, h => by
    rw [pieces] at h
    split_ifs at h with here
    · obtain ⟨rfl, rfl⟩ := List.cons.inj h
      exact ⟨by simp, .inr ⟨s, by rw [here]; rfl, rfl⟩⟩
    · obtain ⟨q, qs, later⟩ := List.exists_cons_of_ne_nil (pieces_ne_nil (c := c) s)
      rw [later] at h
      obtain ⟨rfl, rfl⟩ := List.cons.inj h
      obtain ⟨absent, ends⟩ := pieces_eq_cons later
      refine ⟨by simp [absent, Ne.symm here], ?_⟩
      rcases ends with ⟨rfl, rfl⟩ | ⟨rest, rfl, rfl⟩
      · exact .inl ⟨rfl, rfl⟩
      · exact .inr ⟨rest, rfl, rfl⟩

theorem pieces_eq_one_iff {s p : List Char} : pieces c s = [p] ↔ s = p ∧ c ∉ p := by
  constructor
  · intro h
    obtain ⟨absent, ⟨rfl, -⟩ | ⟨rest, -, none⟩⟩ := pieces_eq_cons h
    · exact ⟨rfl, absent⟩
    · exact absurd none (pieces_ne_nil rest)
  · rintro ⟨rfl, absent⟩
    exact pieces_of_notMem absent

theorem pieces_eq_more_iff {s p q : List Char} {ps : List (List Char)} :
    pieces c s = p :: q :: ps ↔ ∃ rest, s = p ++ c :: rest ∧ c ∉ p ∧ pieces c rest = q :: ps := by
  constructor
  · intro h
    obtain ⟨absent, ⟨-, none⟩ | ⟨rest, rfl, later⟩⟩ := pieces_eq_cons h
    · cases none
    · exact ⟨rest, rfl, absent, later⟩
  · rintro ⟨rest, rfl, absent, later⟩
    rw [pieces_append rest absent, later]

/-- **A text has three pieces exactly if it is put together from them.** -/
theorem pieces_eq_three_iff {s p q r : List Char} :
    pieces c s = [p, q, r] ↔ s = p ++ c :: (q ++ c :: r) ∧ c ∉ p ∧ c ∉ q ∧ c ∉ r := by
  rw [pieces_eq_more_iff]
  constructor
  · rintro ⟨rest, rfl, hp, later⟩
    obtain ⟨rest, rfl, hq, last⟩ := pieces_eq_more_iff.1 later
    obtain ⟨rfl, hr⟩ := pieces_eq_one_iff.1 last
    exact ⟨rfl, hp, hq, hr⟩
  · rintro ⟨rfl, hp, hq, hr⟩
    exact ⟨_, rfl, hp, pieces_eq_more_iff.2 ⟨r, rfl, hq, pieces_of_notMem hr⟩⟩

end Dataset.Text
