import Dataset.Proofs.Json.Numbers
import Dataset.Proofs.Json.Strings

/-!
# What texts of JSON stand for

The grammar of JSON, said of texts from end to end and without regard to how they are read.

* `ItemsText`, `MembersText`: what stands between the brackets of an array and of an object, as the texts
  of the items and of the values of the members;
* `Value`: a text stands for a value, with so many brackets open at once at most;
* `Form`: a text has the form of a value, however deep, also where it stands for none.

An object keeps its members sorted by name, and of several members of one name the last.
-/

namespace Dataset.Json

open Number (Numeral)

/-! ## 1. White space and separators -/

/-- White space, or nothing. -/
def Blank (w : List Char) : Prop := ∀ c ∈ w, isSpace c = true

/-- What stands before an item or a member: white space, and before every one but the first a comma. -/
inductive Lead : Bool → List Char → Prop where
  | first {w : List Char} : Blank w → Lead true w
  | further {before behind : List Char} : Blank before → Blank behind →
      Lead false (before ++ ',' :: behind)

/-- The text of an array behind its opening bracket, with the texts of its items; `first` says that no
    item stands before it. -/
inductive ItemsText : Bool → List (List Char) → List Char → Prop where
  | close {first : Bool} {w : List Char} : Blank w → ItemsText first [] (w ++ [']'])
  | item {first : Bool} {w p s : List Char} {ps : List (List Char)} : Lead first w →
      ItemsText false ps s → ItemsText first (p :: ps) (w ++ (p ++ s))

/-- The text of an object behind its opening bracket, with its keys and the texts of its values. -/
inductive MembersText {κ : Type} (Key : κ → List Char → Prop) :
    Bool → List (κ × List Char) → List Char → Prop where
  | close {first : Bool} {w : List Char} : Blank w → MembersText Key first [] (w ++ ['}'])
  | member {first : Bool} {w body before behind p s : List Char} {key : κ}
      {ms : List (κ × List Char)} : Lead first w → Key key body → Blank before → Blank behind →
      MembersText Key false ms s →
      MembersText Key first ((key, p) :: ms)
        (w ++ '"' :: (body ++ '"' :: (before ++ ':' :: (behind ++ (p ++ s)))))

/-! ## 2. Values -/

/-- The text of a string. -/
inductive StringText (s : String) : List Char → Prop where
  | marks {body : List Char} : Spells s.toList body → StringText s ('"' :: (body ++ ['"']))

/-- The text of a key between its marks. -/
def KeyText (key : String) (body : List Char) : Prop := Spells key.toList body

/-- The texts of values without brackets. -/
inductive Scalar : Json → List Char → Prop where
  | null : Scalar .null ['n', 'u', 'l', 'l']
  | true : Scalar (.bool true) ['t', 'r', 'u', 'e']
  | false : Scalar (.bool false) ['f', 'a', 'l', 's', 'e']
  | number {n : Numeral} {x : Num} : n.InJson → n.toNum = .ok x → Scalar (.number x) n.chars
  | string {s : String} {p : List Char} : StringText s p → Scalar (.string s) p

/-- Members move a state on, one after the other. -/
inductive Folds {σ : Type} (Step : String → σ → List Char → σ → Prop) :
    σ → List (String × List Char) → σ → Prop where
  | nil {a : σ} : Folds Step a [] a
  | cons {key : String} {p : List Char} {ms : List (String × List Char)} {a b c : σ} :
      Step key a p b → Folds Step b ms c → Folds Step a ((key, p) :: ms) c

/-- A member puts its value among those met before. -/
def Puts (G : Json → List Char → Prop) (key : String) (o : List (String × Json)) (p : List Char)
    (o' : List (String × Json)) : Prop :=
  ∃ v, G v p ∧ o' = insertSorted key v o

/-- The texts of arrays and objects whose inner values have texts of `G`. -/
inductive Composite (G : Json → List Char → Prop) : Json → List Char → Prop where
  | array {vs : List Json} {ps : List (List Char)} {s : List Char} : ItemsText true ps s →
      List.Forall₂ G vs ps → Composite G (.array vs) ('[' :: s)
  | object {o : List (String × Json)} {ms : List (String × List Char)} {s : List Char} :
      MembersText KeyText true ms s → Folds (Puts G) [] ms o → Composite G (.object o) ('{' :: s)

/-- The texts of values with at most so many brackets open at once. -/
def Value : Nat → Json → List Char → Prop
  | 0, v, p => Scalar v p
  | k + 1, v, p => Scalar v p ∨ Composite (Value k) v p

/-- The words of JSON. -/
def words : List (List Char) :=
  [['n', 'u', 'l', 'l'], ['t', 'r', 'u', 'e'], ['f', 'a', 'l', 's', 'e']]

/-- The texts that have the form of a value: numbers may be out of range, and halves of surrogate pairs
    may stand alone. -/
inductive Form : List Char → Prop where
  | word {p : List Char} : p ∈ words → Form p
  | number {n : Numeral} : n.InJson → Form n.chars
  | string {body : List Char} : StringForm body → Form ('"' :: (body ++ ['"']))
  | array {ps : List (List Char)} {s : List Char} : ItemsText true ps s → (∀ p ∈ ps, Form p) →
      Form ('[' :: s)
  | object {ms : List (Unit × List Char)} {s : List Char} :
      MembersText (fun _ => StringForm) true ms s → (∀ m ∈ ms, Form m.2) → Form ('{' :: s)

/-! ## 3. Beginnings and ends -/

/-- A text that begins with a character that is neither white space nor a closing bracket. -/
def Solid (p : List Char) : Prop := ∃ c rest, p = c :: rest ∧ isSpace c = false ∧ c ≠ ']'

instance : ∀ p, Decidable (Solid p)
  | [] => isFalse nofun
  | c :: rest => decidable_of_iff (isSpace c = false ∧ c ≠ ']')
      ⟨fun h => ⟨c, rest, rfl, h⟩, fun ⟨_, _, same, h⟩ => (List.cons.inj same).1 ▸ h⟩

instance (w : List Char) : Decidable (Blank w) := List.decidableBAll _ w

theorem Blank.nil : Blank [] := by simp [Blank]

theorem Blank.append {v w : List Char} (before : Blank v) (behind : Blank w) : Blank (v ++ w) :=
  fun c hc => (List.mem_append.1 hc).elim (before c) (behind c)

theorem Lead.append {first : Bool} {v w : List Char} (lead : Lead first v) (blank : Blank w) :
    Lead first (v ++ w) := by
  cases lead with
  | first before => exact .first (before.append blank)
  | further before behind =>
    rw [List.append_assoc]
    exact .further before (behind.append blank)

theorem StringText.solid {s : String} {p : List Char} (h : StringText s p) : Solid p := by
  cases h
  exact ⟨_, _, rfl, by decide, by decide⟩

/-- A number begins with a minus sign or a digit. -/
theorem startsNumber_chars {n : Numeral} (h : n.InJson) :
    ∃ c rest, n.chars = c :: rest ∧ startsNumber c = true := by
  rcases h.sign_eq with sign | sign
  · obtain ⟨d, ds, integral⟩ := List.exists_cons_of_ne_nil h.whole
    have digit := n.all_digits d (List.mem_append_left _ (integral ▸ .head _))
    refine ⟨d, _, by rw [Numeral.chars, sign, integral]; rfl, ?_⟩
    rw [startsNumber, digit, Bool.or_true]
  · exact ⟨'-', _, by rw [Numeral.chars, sign]; rfl, by decide⟩

/-- What begins a number is no white space and no bracket. -/
theorem of_startsNumber {c : Char} (h : startsNumber c = true) :
    isSpace c = false ∧ c ≠ ']' := by
  refine ⟨?_, ?_⟩
  · rw [Bool.eq_false_iff]
    intro space
    simp only [isSpace, Bool.or_eq_true, beq_iff_eq] at space
    rcases space with ((rfl | rfl) | rfl) | rfl <;> exact absurd h (by decide)
  · rintro rfl
    exact absurd h (by decide)

theorem solid_chars {n : Numeral} (h : n.InJson) : Solid n.chars := by
  obtain ⟨c, rest, chars, starts⟩ := startsNumber_chars h
  exact ⟨c, rest, chars, of_startsNumber starts⟩

theorem Scalar.solid {v : Json} {p : List Char} (h : Scalar v p) : Solid p := by
  cases h with
  | null => exact ⟨_, _, rfl, by decide, by decide⟩
  | true => exact ⟨_, _, rfl, by decide, by decide⟩
  | false => exact ⟨_, _, rfl, by decide, by decide⟩
  | number inJson _ => exact solid_chars inJson
  | string text => exact text.solid

theorem Value.solid {k : Nat} {v : Json} {p : List Char} (h : Value k v p) : Solid p := by
  cases k with
  | zero => exact Scalar.solid h
  | succ k =>
    rcases h with scalar | composite
    · exact scalar.solid
    · cases composite <;> exact ⟨_, _, rfl, by decide, by decide⟩

theorem Form.solid {p : List Char} (h : Form p) : Solid p := by
  cases h with
  | word among =>
    simp only [words, List.mem_cons, List.not_mem_nil, or_false] at among
    rcases among with rfl | rfl | rfl <;> exact ⟨_, _, rfl, by decide, by decide⟩
  | number inJson => exact solid_chars inJson
  | string => exact ⟨_, _, rfl, by decide, by decide⟩
  | array => exact ⟨_, _, rfl, by decide, by decide⟩
  | object => exact ⟨_, _, rfl, by decide, by decide⟩

theorem Solid.length_pos {p : List Char} (h : Solid p) : 0 < p.length := by
  obtain ⟨c, rest, rfl, -⟩ := h
  exact Nat.zero_lt_succ _

/-- Behind the opening bracket of an array its closing bracket stands at least. -/
theorem ItemsText.length_pos {first : Bool} {ps : List (List Char)} {s : List Char}
    (h : ItemsText first ps s) : 0 < s.length := by
  induction h with
  | close => simp
  | item _ _ ih =>
    simp only [List.length_append]
    omega

/-- White space, a comma and a closing bracket go on no number. -/
theorem ends_of_head {c : Char} (h : isSpace c = true ∨ c = ',' ∨ c = ']' ∨ c = '}')
    (rest : List Char) : Number.Ends (c :: rest) := by
  intro d hd
  obtain rfl := Option.some.inj hd
  simp only [isSpace, Bool.or_eq_true, beq_iff_eq] at h
  rcases h with (((rfl | rfl) | rfl) | rfl) | rfl | rfl | rfl <;> decide

theorem Blank.ends {w : List Char} (blank : Blank w) {c : Char}
    (h : c = ',' ∨ c = ']' ∨ c = '}') (rest : List Char) : Number.Ends (w ++ c :: rest) := by
  cases w with
  | nil => exact ends_of_head (.inr h) rest
  | cons d w => exact ends_of_head (.inl (blank d (.head _))) _

theorem Blank.ends_self {w : List Char} (blank : Blank w) : Number.Ends w := by
  cases w with
  | nil => exact .nil
  | cons d w => exact ends_of_head (.inl (blank d (.head _))) _

/-- What stands behind an item goes on no number. -/
theorem ItemsText.ends {ps : List (List Char)} {s : List Char} (h : ItemsText false ps s)
    (rest : List Char) : Number.Ends (s ++ rest) := by
  cases h with
  | close blank =>
    rw [List.append_assoc]
    exact blank.ends (.inr (.inl rfl)) _
  | item lead _ =>
    cases lead with
    | further before _ =>
      simp only [List.append_assoc, List.cons_append]
      exact before.ends (.inl rfl) _

theorem MembersText.ends {κ : Type} {Key : κ → List Char → Prop} {ms : List (κ × List Char)}
    {s : List Char} (h : MembersText Key false ms s) (rest : List Char) : Number.Ends (s ++ rest) := by
  cases h with
  | close blank =>
    rw [List.append_assoc]
    exact blank.ends (.inr (.inr rfl)) _
  | member lead _ _ _ _ =>
    cases lead with
    | further before _ =>
      simp only [List.append_assoc, List.cons_append]
      exact before.ends (.inl rfl) _

end Dataset.Json
