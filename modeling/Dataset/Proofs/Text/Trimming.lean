import Dataset.Text.Blank
import Mathlib.Data.List.DropRight
import Mathlib.Data.List.TakeWhile

/-!
# Trimmed texts

* `Trimmed`: neither the first nor the last character is blank;
* `trim_trim`: trimming leaves a trimmed text, so a second time changes nothing;
* `exists_trimChars`: what is trimmed off is blank;
* `trimChars_eq_nil_iff`: nothing is left of a blank text only;
* `trimmed_of_solid`, `trim_replicate`: a text without blanks is trimmed, as a row of one character that is
  not blank.
-/

namespace Dataset.Text

/-- Trimming from either end changes nothing. -/
structure Trimmed (s : List Char) : Prop where
  start : trimStart s = s
  finish : trimEnd s = s

theorem Trimmed.trimChars_eq {s : List Char} (h : Trimmed s) : trimChars s = s := by
  rw [trimChars, h.start, h.finish]

/-- What is left of a text without a blank at its start has no blank at its start. -/
theorem trimStart_of_prefix {p s : List Char} (h : trimStart s = s) (start : p <+: s) :
    trimStart p = p := by
  obtain ⟨rest, rfl⟩ := start
  cases p with
  | nil => rfl
  | cons c p =>
    have first : isBlank c = false := by
      simpa using List.dropWhile_eq_self_iff.1 h (by simp)
    exact List.dropWhile_eq_self_iff.2 fun _ => by simp [first]

theorem trimmed_trimChars (s : List Char) : Trimmed (trimChars s) where
  start := by
    have kept : trimStart (trimStart s) = trimStart s := List.dropWhile_idempotent isBlank s
    exact trimStart_of_prefix kept (List.rdropWhile_prefix isBlank (trimStart s))
  finish := List.rdropWhile_idempotent isBlank (trimStart s)

/-- What is trimmed off is blank. -/
theorem exists_trimChars (s : List Char) :
    ∃ front back, s = front ++ trimChars s ++ back ∧ ∀ c ∈ front ++ back, isBlank c = true := by
  refine ⟨s.takeWhile isBlank, ((trimStart s).reverse.takeWhile isBlank).reverse, ?_, ?_⟩
  · have inner : trimChars s ++ ((trimStart s).reverse.takeWhile isBlank).reverse = trimStart s := by
      rw [trimChars, trimEnd, ← List.reverse_append, List.takeWhile_append_dropWhile, List.reverse_reverse]
    rw [List.append_assoc, inner, trimStart, List.takeWhile_append_dropWhile]
  · intro c hc
    rcases List.mem_append.1 hc with hc | hc
    · exact List.mem_takeWhile_imp hc
    · exact List.mem_takeWhile_imp (List.mem_reverse.1 hc)

/-- Trimming a second time changes nothing. -/
theorem trim_trim (s : String) : trim (trim s) = trim s := by
  rw [trim, toList_trim, (trimmed_trimChars s.toList).trimChars_eq, trim]

/-- Nothing is left of a text that is blank, and of no other. -/
theorem trimChars_eq_nil_iff {s : List Char} : trimChars s = [] ↔ ∀ c ∈ s, isBlank c = true := by
  rw [trimChars, trimEnd, List.reverse_eq_nil_iff, List.dropWhile_eq_nil_iff]
  simp only [List.mem_reverse, trimStart]
  constructor
  · intro h c hc
    have split := List.takeWhile_append_dropWhile (p := isBlank) (l := s)
    rw [← split] at hc
    rcases List.mem_append.1 hc with hc | hc
    · exact List.mem_takeWhile_imp hc
    · exact h c hc
  · exact fun h c hc => h c ((List.dropWhile_sublist _).subset hc)

/-- A text without blanks is trimmed. -/
theorem trimmed_of_solid {s : List Char} (solid : ∀ c ∈ s, isBlank c = false) : Trimmed s where
  start := List.dropWhile_eq_self_iff.2 fun hl => by simp [solid _ (List.getElem_mem hl)]
  finish := List.rdropWhile_eq_self_iff.2 fun hl => by simp [solid _ (List.getLast_mem hl)]

/-- A row of one character that is not blank has nothing to trim. -/
theorem trim_replicate {c : Char} (h : isBlank c = false) (n : Nat) :
    trim (String.ofList (List.replicate n c)) = String.ofList (List.replicate n c) := by
  have solid : ∀ x ∈ List.replicate n c, isBlank x = false :=
    fun x hx => List.eq_of_mem_replicate hx ▸ h
  rw [trim, String.toList_ofList, (trimmed_of_solid solid).trimChars_eq]

end Dataset.Text
