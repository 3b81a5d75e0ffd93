import Dataset.Proofs.Json.Escaping
import Dataset.Proofs.Json.Parts
import Dataset.Proofs.Number.Integer

/-!
# What texts of JSON tell

The grammar of JSON settles what a text holds, whoever reads it: numbers have their exact values, and the
members of an object stand in their order. An object in which two members have one name tells nothing that
all readers agree on, so it is left out.

* `Content`, `Document`: what can be told, and the texts that tell it;
* **`Document.unique`**: a text tells one thing at most;
* `Reader`: whatever reads every text as what it tells;
* `plain_stringText`, `plain_ofInt`, **`document_objectText`**: what is written tells what it was written
  from.
-/

namespace Dataset.Json

open Number (Numeral)

/-! ## 1. What can be told -/

/-- What a text of JSON holds; an object keeps its members in order. -/
inductive Content where
  | null
  | bool (b : Bool)
  | number (q : ℚ)
  | string (s : String)
  | array (items : List Content)
  | object (members : List (String × Content))

/-- The words of JSON, with what they tell. -/
def wordContents : List (Content × List Char) :=
  [(.null, ['n', 'u', 'l', 'l']), (.bool true, ['t', 'r', 'u', 'e']),
    (.bool false, ['f', 'a', 'l', 's', 'e'])]

/-- The texts without brackets. -/
inductive Plain : Content → List Char → Prop where
  | word {v : Content} {p : List Char} : (v, p) ∈ wordContents → Plain v p
  | number {n : Numeral} : n.InJson → Plain (.number n.toRat) n.chars
  | string {s : String} {p : List Char} : StringText s p → Plain (.string s) p

/-- The texts of arrays and objects whose inner texts are of `G`. The members of an object have different
    names. -/
inductive Compound (G : Content → List Char → Prop) : Content → List Char → Prop where
  | array {vs : List Content} {ps : List (List Char)} {s : List Char} : ItemsText true ps s →
      List.Forall₂ G vs ps → Compound G (.array vs) ('[' :: s)
  | object {os : List (String × Content)} {ms : List (String × List Char)} {s : List Char} :
      MembersText KeyText true ms s → (ms.map Prod.fst).Nodup →
      List.Forall₂ (fun o m => o.1 = m.1 ∧ G o.2 m.2) os ms → Compound G (.object os) ('{' :: s)

/-- The texts of a content with at most the given number of brackets open at once. -/
def Tells : Nat → Content → List Char → Prop
  | 0, v, p => Plain v p
  | k + 1, v, p => Plain v p ∨ Compound (Tells k) v p

/-- A whole text tells something, with white space around it. -/
def Document (v : Content) (text : List Char) : Prop :=
  ∃ k w p back, Blank w ∧ Tells k v p ∧ Blank back ∧ text = w ++ (p ++ back)

variable {k k' : Nat} {v v' : Content} {p p' : List Char}

/-! ## 2. One thing at most -/

theorem mem_words_of_mem (h : (v, p) ∈ wordContents) : p ∈ words := by
  simp only [wordContents, List.mem_cons, Prod.mk.injEq, List.not_mem_nil, or_false] at h
  rcases h with ⟨-, rfl⟩ | ⟨-, rfl⟩ | ⟨-, rfl⟩ <;> decide

theorem Plain.form (h : Plain v p) : Form p := by
  cases h with
  | word among => exact .word (mem_words_of_mem among)
  | number inJson => exact .number inJson
  | string text => exact text.form

/-- What goes with texts that have the form of a value makes them have it. -/
theorem forms_of_forall₂ {α β : Type} {R : α → β → Prop} (f : β → List Char)
    (form : ∀ a b, R a b → Form (f b)) {as : List α} {bs : List β} (h : List.Forall₂ R as bs) :
    ∀ b ∈ bs, Form (f b) := by
  intro b hb
  obtain ⟨a, -, related⟩ := exists_of_forall₂ h hb
  exact form a b related

/-- What tells something has the form of a value. -/
theorem Tells.form (h : Tells k v p) : Form p := by
  induction k generalizing v p with
  | zero => exact Plain.form h
  | succ k ih =>
    rcases h with plain | compound
    · exact plain.form
    · cases compound with
      | array items values => exact .array items (forms_of_forall₂ id (fun _ _ => ih) values)
      | object members _ values =>
        exact .of_members members (forms_of_forall₂ Prod.snd (fun _ _ h => ih h.2) values)

/-- A word begins nothing else. -/
theorem head_of_mem_words (h : p ∈ words) :
    ∃ c rest, p = c :: rest ∧ startsNumber c = false ∧ c ∉ ['"', '[', '{'] := by
  simp only [words, List.mem_cons, List.not_mem_nil, or_false] at h
  rcases h with rfl | rfl | rfl <;> exact ⟨_, _, rfl, by decide, by decide⟩

/-- A numeral tells its value and nothing else. -/
theorem Plain.of_number {n : Numeral} (inJson : n.InJson) (h : Plain v p) (same : p = n.chars) :
    v = .number n.toRat := by
  obtain ⟨c, rest, chars, starts⟩ := startsNumber_chars inJson
  rw [chars] at same
  cases h with
  | word among =>
    obtain ⟨d, rest', rfl, other, -⟩ := head_of_mem_words (mem_words_of_mem among)
    rw [(List.cons.inj same).1, starts] at other
    cases other
  | number _ => rw [Numeral.eq_of_chars (same.trans chars.symm)]
  | string text =>
    cases text
    rw [← (List.cons.inj same).1] at starts
    exact absurd starts (by decide)

/-- A string tells its characters and nothing else. -/
theorem Plain.of_string {s : String} (text : StringText s p) (h : Plain v p') (same : p' = p) :
    v = .string s := by
  cases h with
  | word among =>
    obtain ⟨d, rest', rfl, -, other⟩ := head_of_mem_words (mem_words_of_mem among)
    cases text
    rw [(List.cons.inj same).1] at other
    exact absurd (List.mem_cons_self) other
  | number inJson => exact (Plain.of_number inJson (.string text) same.symm).symm
  | string text' =>
    have read := reads_readText.complete .nil text .nil
    have read' := reads_readText.complete .nil text' .nil
    rw [same, read] at read'
    rw [(Prod.mk.inj (Except.ok.inj read')).1]

theorem eq_of_mem_wordContents : ∀ a ∈ wordContents, ∀ b ∈ wordContents, a.2 = b.2 → a.1 = b.1 := by
  simp [wordContents]

/-- A text without brackets tells one thing. -/
theorem Plain.unique (h : Plain v p) (h' : Plain v' p') (same : p = p') : v = v' := by
  cases h' with
  | number inJson => exact h.of_number inJson same
  | string text => exact h.of_string text same
  | word among' =>
    cases h with
    | number inJson => exact (Plain.of_number inJson (.word among') same.symm).symm
    | string text => exact (Plain.of_string text (.word among') same.symm).symm
    | word among => exact eq_of_mem_wordContents _ among _ among' same

/-- A text without brackets begins with none. -/
theorem Plain.head (h : Plain v p) : ∃ c rest, p = c :: rest ∧ c ∉ ['[', '{'] := by
  cases h with
  | word among =>
    obtain ⟨c, rest, begins, -, other⟩ := head_of_mem_words (mem_words_of_mem among)
    exact ⟨c, rest, begins, fun bracket => other (.tail _ bracket)⟩
  | number inJson =>
    obtain ⟨c, rest, chars, starts⟩ := startsNumber_chars inJson
    refine ⟨c, rest, chars, fun bracket => ?_⟩
    simp only [List.mem_cons, List.not_mem_nil, or_false] at bracket
    rcases bracket with rfl | rfl <;> exact absurd starts (by decide)
  | string text =>
    cases text
    exact ⟨_, _, rfl, by decide⟩

theorem Plain.not_compound {G : Content → List Char → Prop} (h : Plain v p) : ¬ Compound G v' p := by
  obtain ⟨c, rest, rfl, other⟩ := h.head
  rintro (_ | _)
  · exact other (.head _)
  · exact other (.tail _ (.head _))

/-- Lists of one length are the same if each part of the one goes with what each part of the other does. -/
theorem eq_of_forall₂ {α β : Type} {R S : α → β → Prop} (one : ∀ a a' b, R a b → S a' b → a = a')
    {as as' : List α} {bs : List β} (h : List.Forall₂ R as bs) (h' : List.Forall₂ S as' bs) :
    as = as' := by
  induction h generalizing as' with
  | nil => cases h'; rfl
  | cons first _ ih =>
    cases h' with
    | cons first' rest' => rw [one _ _ _ first first', ih rest']

/-- An array or an object tells one thing if its parts do. -/
theorem Compound.unique {G G' : Content → List Char → Prop} (form : ∀ v p, G v p → Form p)
    (form' : ∀ v p, G' v p → Form p) (one : ∀ v v' p, G v p → G' v' p → v = v')
    (h : Compound G v p) (h' : Compound G' v' p) : v = v' := by
  cases h with
  | @array _ _ s items values =>
    cases h' with
    | array items' values' =>
      have forms := forms_of_forall₂ id form values
      have forms' := forms_of_forall₂ id form' values'
      obtain rfl := items.unique items' forms forms' (rfl : s ++ [] = s ++ [])
      rw [eq_of_forall₂ one values values']
  | @object _ _ s members _ values =>
    cases h' with
    | object members' _ values' =>
      have forms := forms_of_forall₂ Prod.snd (fun o m h => form o.2 m.2 h.2) values
      have forms' := forms_of_forall₂ Prod.snd (fun o m h => form' o.2 m.2 h.2) values'
      obtain rfl := members.unique members' forms forms' (rfl : s ++ [] = s ++ [])
      have named (o o' : String × Content) (m : String × List Char) (h : o.1 = m.1 ∧ G o.2 m.2)
          (h' : o'.1 = m.1 ∧ G' o'.2 m.2) : o = o' :=
        Prod.ext (h.1.trans h'.1.symm) (one _ _ _ h.2 h'.2)
      rw [eq_of_forall₂ named values values']

theorem tells_iff : Tells k v p ↔ Plain v p ∨ ∃ j, k = j + 1 ∧ Compound (Tells j) v p := by
  cases k with
  | zero => simp [Tells]
  | succ k => simp [Tells]

/-- **What is told by a text is settled**, however many brackets may be open. -/
theorem Tells.unique (h : Tells k v p) (h' : Tells k' v' p) : v = v' := by
  induction k generalizing k' v v' p with
  | zero =>
    rcases tells_iff.1 h' with plain' | ⟨j, -, compound'⟩
    · exact Plain.unique h plain' rfl
    · exact absurd compound' (Plain.not_compound h)
  | succ k ih =>
    rcases h with plain | compound
    · rcases tells_iff.1 h' with plain' | ⟨j, -, compound'⟩
      · exact plain.unique plain' rfl
      · exact absurd compound' plain.not_compound
    · rcases tells_iff.1 h' with plain' | ⟨j, -, compound'⟩
      · exact absurd compound plain'.not_compound
      · exact compound.unique (fun _ _ => Tells.form) (fun _ _ => Tells.form) (fun _ _ _ => ih) compound'

/-- **A whole text tells one thing at most.** -/
theorem Document.unique {text : List Char} (h : Document v text) (h' : Document v' text) : v = v' := by
  obtain ⟨k, w, p, back, blank, tells, behind, rfl⟩ := h
  obtain ⟨k', w', p', back', blank', tells', behind', same⟩ := h'
  obtain ⟨rfl, -⟩ := tells.form.parts_eq tells'.form blank blank' behind.ends_self behind'.ends_self same
  exact tells.unique tells'

/-! ## 3. Readers -/

/-- A reader of JSON that keeps the order of members and the values of numbers: it reads every text that
    tells something as what it tells. Of other texts it may make anything. -/
structure Reader where
  read : List Char → Option Content
  reads : ∀ {v : Content} {text : List Char}, Document v text → read text = some v

/-- There are such readers, since no text tells two things. -/
theorem nonempty_reader : Nonempty Reader := by
  classical
  refine ⟨⟨fun text => if told : ∃ v, Document v text then some told.choose else none, ?_⟩⟩
  intro v text document
  have told : ∃ v, Document v text := ⟨v, document⟩
  rw [dif_pos told, told.choose_spec.unique document]

/-! ## 4. What is written -/

theorem plain_null : Plain .null "null".toList := .word (.head _)

/-- An integer tells its value. -/
theorem plain_ofInt (n : Int) : Plain (.number n) (Text.ofInt n).toList := by
  have inJson : (Numeral.ofInt n).InJson := (Numeral.inJson_ofNat n.natAbs).withSign _
  have plain := Plain.number inJson
  rwa [Numeral.toRat_ofInt, ← Numeral.chars_ofInt] at plain

/-- A string tells its characters. -/
theorem plain_stringText (s : String) : Plain (.string s) (stringText s).toList := by
  rw [stringText, String.toList_ofList]
  exact .string (stringText_stringChars s)

/-- A written member, and those behind it. -/
theorem membersText_memberText (m : String × String) {first : Bool} {w s : List Char}
    {ms : List (String × List Char)} (lead : Lead first w) (behind : MembersText KeyText false ms s) :
    MembersText KeyText first ((m.1, m.2.toList) :: ms) (w ++ ((memberText m).toList ++ s)) := by
  simpa [memberText, stringText, stringChars] using membersText_escape m.1 m.2.toList lead behind

/-- Written members follow each other with a comma between them. -/
theorem membersText_intercalate {members : List (String × String)} {w : List Char} {first : Bool}
    (lead : Lead first w) (inhabited : members ≠ []) :
    MembersText KeyText first (members.map fun m => (m.1, m.2.toList))
      (w ++ ([','].intercalate (members.map fun m => (memberText m).toList) ++ ['}'])) := by
  induction members generalizing w first with
  | nil => exact absurd rfl inhabited
  | cons m rest ih =>
    cases rest with
    | nil => simpa using membersText_memberText m lead (.close .nil)
    | cons m' rest =>
      have behind := ih (.further .nil .nil) (List.cons_ne_nil m' rest)
      simpa using membersText_memberText m lead behind

/-- **A written object tells its members in order**, if their names are different and their texts tell
    their values. -/
theorem document_objectText {members : List (String × Content)} {texts : List (String × String)}
    (nodup : (texts.map Prod.fst).Nodup)
    (plain : List.Forall₂ (fun m t => m.1 = t.1 ∧ Plain m.2 t.2.toList) members texts) :
    Document (.object members) (objectText texts).toList := by
  have written : (objectText texts).toList =
      '{' :: ([','].intercalate (texts.map fun m => (memberText m).toList) ++ ['}']) := by
    simp [objectText, openBrace, closeBrace, Text.joinWith, String.toList_intercalate,
      Function.comp_def]
  have membersText : MembersText KeyText true (texts.map fun m => (m.1, m.2.toList))
      ([','].intercalate (texts.map fun m => (memberText m).toList) ++ ['}']) := by
    by_cases inhabited : texts = []
    · rw [inhabited]
      exact .close .nil
    · exact membersText_intercalate (.first .nil) inhabited
  have names : ((texts.map fun m => (m.1, m.2.toList)).map Prod.fst).Nodup := by
    rwa [List.map_map]
  have values : List.Forall₂ (fun m t => m.1 = t.1 ∧ Tells 0 m.2 t.2) members
      (texts.map fun m => (m.1, m.2.toList)) := List.forall₂_map_right_iff.2 plain
  have tells : Tells 1 (.object members) (objectText texts).toList :=
    written ▸ .inr (.object membersText names values)
  exact ⟨1, [], _, [], .nil, tells, .nil, by rw [List.nil_append, List.append_nil]⟩

end Dataset.Json
