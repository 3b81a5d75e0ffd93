import Dataset.Filter.Payload
import Dataset.Proofs.Json.Skipping

/-!
# Lists of filters in JSON

Which texts are arrays of items, said without regard to how they are read, and that exactly these are read.

* `ObjectItem`, `ArrayItem`, `ItemText`: the texts of an item, as an object whose members stand in any
  order, and as an array;
* `Listed`: a text is an array of items between white space;
* `folds_fills_iff`: what the members of an object leave of an item depends on no order;
* **`document_readItems_ok_iff`**: a text is read as a list of items if and only if it is one of them.
-/

namespace Dataset.Filter

open Json (Blank ItemsText MembersText KeyText StringText Value Form Reads Folds Solid)

/-! ## 1. The texts of items -/

/-- The brackets that may be open at once inside the value of an item. -/
def valueDepth : Nat := 125

/-- The text of a value that may be absent, as `null` then. -/
def OptionalText (v : Option Json) (p : List Char) : Prop :=
  v ≠ some .null ∧ Value valueDepth (v.getD .null) p

/-- The names of the members that count. -/
def itemKeys : List String := ["field", "type", "value"]

/-- The texts of the members of a name. -/
def named (key : String) (ms : List (String × List Char)) : List (List Char) :=
  (ms.filter (·.1 == key)).map Prod.snd

/-- Members that make an item, in any order: a field and a kind once each, a value at most once, and
    others with whatever has the form of a value. -/
structure ObjectItem (i : Item) (ms : List (String × List Char)) : Prop where
  field : ∃ p, named "field" ms = [p] ∧ StringText i.field p
  kind : ∃ p, named "type" ms = [p] ∧ StringText i.kind p
  value : named "value" ms = [] ∧ i.value = none ∨
    ∃ p, named "value" ms = [p] ∧ OptionalText i.value p
  others : ∀ m ∈ ms, m.1 ∉ itemKeys → Form m.2

/-- Two or three texts that make an item by their places. -/
inductive ArrayItem : Item → List (List Char) → Prop where
  | two {field kind : String} {p q : List Char} : StringText field p → StringText kind q →
      ArrayItem ⟨field, kind, none⟩ [p, q]
  | three {field kind : String} {value : Option Json} {p q r : List Char} : StringText field p →
      StringText kind q → OptionalText value r → ArrayItem ⟨field, kind, value⟩ [p, q, r]

/-- The texts of an item. -/
inductive ItemText (i : Item) : List Char → Prop where
  | object {ms : List (String × List Char)} {s : List Char} : MembersText KeyText true ms s →
      ObjectItem i ms → ItemText i ('{' :: s)
  | array {ps : List (List Char)} {s : List Char} : ItemsText true ps s → ArrayItem i ps →
      ItemText i ('[' :: s)

/-- The texts of an array of items. -/
inductive ArrayText (items : List Item) : List Char → Prop where
  | brackets {ps : List (List Char)} {s : List Char} : ItemsText true ps s →
      List.Forall₂ ItemText items ps → ArrayText items ('[' :: s)

/-- `text` is an array of `items`, with white space around it. -/
def Listed (items : List Item) (text : List Char) : Prop :=
  ∃ front p back, Blank front ∧ Blank back ∧ text = front ++ (p ++ back) ∧ ArrayText items p

theorem ItemText.solid {i : Item} {p : List Char} (h : ItemText i p) : Solid p := by
  cases h <;> exact ⟨_, _, rfl, by decide, by decide⟩

/-! ## 2. Values -/

/-- Only the word for no value begins with its first letter. -/
theorem eq_null_of_value {k : Nat} {v : Json} {s : List Char} (h : Value k v ('n' :: s)) :
    v = .null := by
  have ofScalar {s : List Char} (scalar : Json.Scalar v ('n' :: s)) : v = .null := by
    generalize start : 'n' :: s = p at scalar
    cases scalar with
    | null => rfl
    | true => cases start
    | false => cases start
    | number inJson _ =>
      obtain ⟨c, tail, chars, starts⟩ := Json.startsNumber_chars inJson
      rw [chars] at start
      rw [← (List.cons.inj start).1] at starts
      exact absurd starts (by decide)
    | string text =>
      cases text
      cases start
  cases k with
  | zero => exact ofScalar h
  | succ k =>
    rcases h with scalar | composite
    · exact ofScalar scalar
    · generalize start : 'n' :: s = p at composite
      cases composite <;> cases start

theorem value_null {k : Nat} {p : List Char} (h : Value k .null p) : p = ['n', 'u', 'l', 'l'] := by
  cases k with
  | zero =>
    cases h
    rfl
  | succ k =>
    rcases h with scalar | composite
    · cases scalar
      rfl
    · cases composite

theorem reads_readItemValue : Reads readItemValue OptionalText where
  sound {s rest v} h := by
    rw [readItemValue, Json.readOptional] at h
    split at h
    · rename_i tail start
      obtain ⟨rest', word, done⟩ := exists_ok_of_bind h
      obtain ⟨rfl, rfl⟩ := Prod.mk.inj (Except.ok.inj done)
      obtain ⟨w, blank, rfl⟩ := Json.of_skipSpace start
      rw [Json.readWord_ok_iff.1 word]
      exact ⟨w, _, blank, rfl, by simp, .of_scalar .null⟩
    · rename_i noNull
      obtain ⟨⟨x, rest'⟩, read, done⟩ := exists_ok_of_bind h
      obtain ⟨rfl, rfl⟩ := Prod.mk.inj (Except.ok.inj done)
      obtain ⟨w, p, blank, rfl, text⟩ := (Json.reads_readValue valueDepth).sound read
      refine ⟨w, p, blank, rfl, fun null => ?_, text⟩
      obtain rfl := Option.some.inj null
      rw [value_null text, List.cons_append, Json.skipSpace_append blank (by decide)] at noNull
      exact noNull _ rfl
  complete {w p rest v} blank text ends := by
    obtain ⟨noNull, text⟩ := text
    rw [readItemValue, Json.readOptional]
    cases v with
    | none =>
      rw [value_null text, List.cons_append, Json.skipSpace_append blank (by decide)]
      rfl
    | some x =>
      have read := (Json.reads_readValue valueDepth).complete blank text ends
      split
      · rename_i tail start
        obtain ⟨c, more, rfl, solid, -⟩ := text.solid
        rw [List.cons_append, Json.skipSpace_append blank solid] at start
        rw [(List.cons.inj start).1] at text
        exact absurd (congrArg some (eq_null_of_value text)) noNull
      · exact congrArg (· >>= fun r => Except.ok (some r.1, r.2)) read

/-! ## 3. Members of an object -/

/-- What one member adds to those met before it. -/
inductive Fills : String → Members → List Char → Members → Prop where
  | field {m : Members} {v : String} {p : List Char} : m.field = none → StringText v p →
      Fills "field" m p { m with field := some v }
  | kind {m : Members} {v : String} {p : List Char} : m.kind = none → StringText v p →
      Fills "type" m p { m with kind := some v }
  | value {m : Members} {v : Option Json} {p : List Char} : m.value = none → OptionalText v p →
      Fills "value" m p { m with value := some v }
  | other {key : String} {m : Members} {p : List Char} : key ∉ itemKeys → Form p → Fills key m p m

theorem reads_readMember (key : String) (m : Members) :
    Reads (readMember key m) fun m' p => Fills key m p m' where
  sound {s rest m'} h := by
    rw [readMember] at h
    split_ifs at h with isField given isKind given isValue given
    · subst isField
      obtain ⟨w, p, blank, split, v, rfl, text⟩ :=
        (Json.reads_readText.map fun v => { m with field := some v }).sound h
      exact ⟨w, p, blank, split, .field (by simpa using given) text⟩
    · subst isKind
      obtain ⟨w, p, blank, split, v, rfl, text⟩ :=
        (Json.reads_readText.map fun v => { m with kind := some v }).sound h
      exact ⟨w, p, blank, split, .kind (by simpa using given) text⟩
    · subst isValue
      obtain ⟨w, p, blank, split, v, rfl, text⟩ :=
        (reads_readItemValue.map fun v => { m with value := some v }).sound h
      exact ⟨w, p, blank, split, .value (by simpa using given) text⟩
    · obtain ⟨w, p, blank, split, rfl, form⟩ := (Json.reads_skipValue m).sound h
      exact ⟨w, p, blank, split, .other (by simp [itemKeys, isField, isKind, isValue]) form⟩
  complete {w p rest m'} blank fills ends := by
    cases fills with
    | field new text =>
      rw [readMember, if_pos rfl, new, if_neg (by simp)]
      exact (Json.reads_readText.map fun v => { m with field := some v }).complete blank
        ⟨_, rfl, text⟩ ends
    | kind new text =>
      rw [readMember, if_neg (by decide), if_pos rfl, new, if_neg (by simp)]
      exact (Json.reads_readText.map fun v => { m with kind := some v }).complete blank
        ⟨_, rfl, text⟩ ends
    | value new text =>
      rw [readMember, if_neg (by decide), if_neg (by decide), if_pos rfl, new, if_neg (by simp)]
      exact (reads_readItemValue.map fun v => { m with value := some v }).complete blank
        ⟨_, rfl, text⟩ ends
    | other other form =>
      simp only [itemKeys, List.mem_cons, List.not_mem_nil, or_false, not_or] at other
      rw [readMember, if_neg other.1, if_neg other.2.1, if_neg other.2.2]
      exact (Json.reads_skipValue m).complete blank ⟨rfl, form⟩ ends

/-- What the texts of one name make of a part of an item: none leaves it, and one fills it if it was
    not filled before. -/
inductive Part {β : Type} (G : β → List Char → Prop) : Option β → List (List Char) → Option β → Prop where
  | left {old : Option β} : Part G old [] old
  | filled {v : β} {p : List Char} : G v p → Part G none [p] (some v)

section Parts

variable {β : Type} {G : β → List Char → Prop} {old new : Option β} {p : List Char}
  {ps : List (List Char)}

theorem part_nil_iff : Part G old [] new ↔ new = old := by
  constructor
  · intro h
    cases h
    rfl
  · rintro rfl
    exact .left

theorem part_cons_iff :
    Part G old (p :: ps) new ↔ old = none ∧ ∃ v, G v p ∧ Part G (some v) ps new := by
  constructor
  · intro h
    cases h with
    | filled text => exact ⟨rfl, _, text, .left⟩
  · rintro ⟨rfl, v, text, later⟩
    cases later
    exact .filled text

end Parts

theorem folds_cons_iff {σ : Type} {Step : String → σ → List Char → σ → Prop} {a c : σ} {key : String}
    {p : List Char} {ms : List (String × List Char)} :
    Folds Step a ((key, p) :: ms) c ↔ ∃ b, Step key a p b ∧ Folds Step b ms c := by
  constructor
  · intro h
    cases h with
    | cons step later => exact ⟨_, step, later⟩
  · rintro ⟨b, step, later⟩
    exact .cons step later

/-- What a run of members makes of the three parts of an item, part by part. -/
structure Parts (m : Members) (ms : List (String × List Char)) (m' : Members) : Prop where
  field : Part StringText m.field (named "field" ms) m'.field
  kind : Part StringText m.kind (named "type" ms) m'.kind
  value : Part OptionalText m.value (named "value" ms) m'.value
  others : ∀ x ∈ ms, x.1 ∉ itemKeys → Form x.2

theorem named_cons (key other : String) (p : List Char) (ms : List (String × List Char)) :
    named key ((other, p) :: ms) = if other = key then p :: named key ms else named key ms := by
  rw [named, List.filter_cons]
  simp only [beq_iff_eq]
  split_ifs <;> rfl

variable {m m' : Members} {ms : List (String × List Char)} {key : String} {p : List Char}

theorem Parts.cons {b : Members} (fills : Fills key m p b) (h : Parts b ms m') :
    Parts m ((key, p) :: ms) m' := by
  obtain ⟨field, kind, value, others⟩ := h
  cases fills with
  | @field _ v _ new text =>
    refine ⟨?_, by simpa [named_cons] using kind, by simpa [named_cons] using value,
      List.forall_mem_cons.2 ⟨fun h => absurd (.head _) h, others⟩⟩
    rw [named_cons, if_pos rfl, part_cons_iff]
    exact ⟨new, v, text, field⟩
  | @kind _ v _ new text =>
    refine ⟨by simpa [named_cons] using field, ?_, by simpa [named_cons] using value,
      List.forall_mem_cons.2 ⟨fun h => absurd (.tail _ (.head _)) h, others⟩⟩
    rw [named_cons, if_pos rfl, part_cons_iff]
    exact ⟨new, v, text, kind⟩
  | @value _ v _ new text =>
    refine ⟨by simpa [named_cons] using field, by simpa [named_cons] using kind, ?_,
      List.forall_mem_cons.2 ⟨fun h => absurd (.tail _ (.tail _ (.head _))) h, others⟩⟩
    rw [named_cons, if_pos rfl, part_cons_iff]
    exact ⟨new, v, text, value⟩
  | other other form =>
    simp only [itemKeys, List.mem_cons, List.not_mem_nil, or_false, not_or] at other
    exact ⟨by simpa [named_cons, other] using field, by simpa [named_cons, other] using kind,
      by simpa [named_cons, other] using value, List.forall_mem_cons.2 ⟨fun _ => form, others⟩⟩

theorem Parts.uncons (h : Parts m ((key, p) :: ms) m') :
    ∃ b, Fills key m p b ∧ Parts b ms m' := by
  obtain ⟨field, kind, value, others⟩ := h
  obtain ⟨form, behind⟩ := List.forall_mem_cons.1 others
  simp only [named_cons] at field kind value
  by_cases isField : key = "field"
  · subst isField
    rw [if_pos rfl, part_cons_iff] at field
    obtain ⟨new, v, text, field⟩ := field
    exact ⟨_, .field new text, field, by simpa using kind, by simpa using value, behind⟩
  by_cases isKind : key = "type"
  · subst isKind
    rw [if_pos rfl, part_cons_iff] at kind
    obtain ⟨new, v, text, kind⟩ := kind
    exact ⟨_, .kind new text, by simpa using field, kind, by simpa using value, behind⟩
  by_cases isValue : key = "value"
  · subst isValue
    rw [if_pos rfl, part_cons_iff] at value
    obtain ⟨new, v, text, value⟩ := value
    exact ⟨_, .value new text, by simpa using field, by simpa using kind, value, behind⟩
  · have other : key ∉ itemKeys := by simp [itemKeys, isField, isKind, isValue]
    rw [if_neg isField] at field
    rw [if_neg isKind] at kind
    rw [if_neg isValue] at value
    exact ⟨m, .other other (form other), field, kind, value, behind⟩

/-- **What the members of an object leave of an item depends on no order**: each part is filled by the
    texts of its own name. -/
theorem folds_fills_iff : Folds Fills m ms m' ↔ Parts m ms m' := by
  induction ms generalizing m with
  | nil =>
    constructor
    · intro h
      cases h
      exact ⟨.left, .left, .left, nofun⟩
    · rintro ⟨field, kind, value, -⟩
      have same : m' = m := by
        cases m
        cases m'
        congr 1
        · exact part_nil_iff.1 field
        · exact part_nil_iff.1 kind
        · exact part_nil_iff.1 value
      exact same ▸ .nil
  | cons x ms ih =>
    rw [folds_cons_iff]
    constructor
    · rintro ⟨b, fills, later⟩
      exact (ih.1 later).cons fills
    · intro parts
      obtain ⟨b, fills, later⟩ := parts.uncons
      exact ⟨b, fills, ih.2 later⟩

/-- Members make an item if and only if they leave one. -/
theorem objectItem_iff {i : Item} :
    ObjectItem i ms ↔ ∃ m, Folds Fills ⟨none, none, none⟩ ms m ∧ m.item = .ok i := by
  constructor
  · rintro ⟨⟨p, fieldAt, field⟩, ⟨q, kindAt, kind⟩, value, others⟩
    have fields : Part StringText none (named "field" ms) (some i.field) := fieldAt ▸ .filled field
    have kinds : Part StringText none (named "type" ms) (some i.kind) := kindAt ▸ .filled kind
    rcases value with ⟨valueAt, absent⟩ | ⟨r, valueAt, value⟩
    · refine ⟨⟨some i.field, some i.kind, none⟩,
        folds_fills_iff.2 ⟨fields, kinds, valueAt ▸ .left, others⟩, ?_⟩
      show Except.ok (Item.mk i.field i.kind none) = .ok i
      rw [← absent]
    · exact ⟨⟨some i.field, some i.kind, some i.value⟩,
        folds_fills_iff.2 ⟨fields, kinds, valueAt ▸ .filled value, others⟩, rfl⟩
  · rintro ⟨⟨f, k, v⟩, folds, made⟩
    obtain ⟨field, kind, value, others⟩ := folds_fills_iff.1 folds
    cases f with
    | none => cases made
    | some f =>
      cases k with
      | none => cases made
      | some k =>
        obtain rfl := Except.ok.inj made
        generalize fieldAt : named "field" ms = fs at field
        generalize kindAt : named "type" ms = ks at kind
        generalize valueAt : named "value" ms = vs at value
        cases field with
        | filled field =>
          cases kind with
          | filled kind =>
            refine ⟨⟨_, fieldAt, field⟩, ⟨_, kindAt, kind⟩, ?_, others⟩
            cases value with
            | left => exact .inl ⟨valueAt, rfl⟩
            | filled value => exact .inr ⟨_, valueAt, value⟩

/-! ## 4. Items -/

variable {i : Item} {s rest : List Char}

theorem endArray_ok_iff : Json.endArray s = .ok rest ↔ ∃ w, Blank w ∧ s = w ++ ']' :: rest := by
  constructor
  · intro h
    unfold Json.endArray at h
    split at h
    · cases h
    · rename_i c tail start
      obtain ⟨w, blank, rfl⟩ := Json.of_skipSpace start
      split_ifs at h with close
      · obtain rfl := Except.ok.inj h
        exact ⟨w, blank, by rw [close]⟩
      · split at h <;> cases h
  · rintro ⟨w, blank, rfl⟩
    rw [Json.endArray, Json.skipSpace_append blank (by decide)]
    rfl

theorem readObjectItem_sound (h : readObjectItem s = .ok (i, rest)) :
    ∃ p, s = p ++ rest ∧ ItemText i ('{' :: p) := by
  rw [readObjectItem] at h
  obtain ⟨⟨m, tail⟩, folded, made⟩ := exists_ok_of_bind h
  obtain ⟨j, item, done⟩ := exists_ok_of_bind made
  obtain ⟨rfl, rfl⟩ := Prod.mk.inj (Except.ok.inj done)
  obtain ⟨ms, p, rfl, members, folds⟩ := Json.foldMembers_sound reads_readMember folded
  exact ⟨p, rfl, .object members (objectItem_iff.2 ⟨m, folds, item⟩)⟩

theorem readObjectItem_complete {p : List Char} (members : MembersText KeyText true ms p)
    (made : ObjectItem i ms) (rest : List Char) : readObjectItem (p ++ rest) = .ok (i, rest) := by
  obtain ⟨m, folds, item⟩ := objectItem_iff.1 made
  have enough : p.length ≤ (p ++ rest).length + 1 := by
    rw [List.length_append]
    omega
  rw [readObjectItem, Json.foldMembers_complete reads_readMember members rest folds enough, ok_bind]
  simp only [item, ok_bind]

theorem readArrayItem_sound (h : readArrayItem s = .ok (i, rest)) :
    ∃ p, s = p ++ rest ∧ ItemText i ('[' :: p) := by
  rw [readArrayItem] at h
  obtain ⟨⟨more, s₁⟩, next, h₁⟩ := exists_ok_of_bind h
  rcases Json.nextItem_ok next with ⟨rfl, -⟩ | ⟨rfl, w₁, lead₁, rfl⟩
  · cases h₁
  obtain ⟨⟨field, s₂⟩, readField, h₂⟩ := exists_ok_of_bind h₁
  obtain ⟨v₁, p₁, blank₁, rfl, fieldText⟩ := Json.reads_readText.sound readField
  obtain ⟨⟨more', s₃⟩, next', h₃⟩ := exists_ok_of_bind h₂
  rcases Json.nextItem_ok next' with ⟨rfl, -⟩ | ⟨rfl, w₂, lead₂, rfl⟩
  · cases h₃
  obtain ⟨⟨kind, s₄⟩, readKind, h₄⟩ := exists_ok_of_bind h₃
  obtain ⟨v₂, p₂, blank₂, rfl, kindText⟩ := Json.reads_readText.sound readKind
  obtain ⟨⟨more'', s₅⟩, next'', h₅⟩ := exists_ok_of_bind h₄
  rcases Json.nextItem_ok next'' with ⟨rfl, w₃, blank₃, rfl⟩ | ⟨rfl, w₃, lead₃, rfl⟩
  · obtain ⟨rfl, rfl⟩ := Prod.mk.inj (Except.ok.inj h₅)
    refine ⟨_, ?_, .array (.item (lead₁.append blank₁) (.item (lead₂.append blank₂) (.close blank₃)))
      (.two fieldText kindText)⟩
    simp
  · obtain ⟨⟨value, s₆⟩, readValue, h₆⟩ := exists_ok_of_bind h₅
    obtain ⟨v₃, p₃, blank₃, rfl, valueText⟩ := reads_readItemValue.sound readValue
    obtain ⟨rest', closed, done⟩ := exists_ok_of_bind h₆
    obtain ⟨rfl, rfl⟩ := Prod.mk.inj (Except.ok.inj done)
    obtain ⟨w₄, blank₄, rfl⟩ := endArray_ok_iff.1 closed
    refine ⟨_, ?_, .array (.item (lead₁.append blank₁) (.item (lead₂.append blank₂)
      (.item (lead₃.append blank₃) (.close blank₄)))) (.three fieldText kindText valueText)⟩
    simp

theorem readArrayItem_complete {ps : List (List Char)} (items : ItemsText true ps s)
    (made : ArrayItem i ps) (rest : List Char) : readArrayItem (s ++ rest) = .ok (i, rest) := by
  cases made with
  | two fieldText kindText =>
    cases items with
    | item lead₁ behind₁ =>
      have ends₁ := behind₁.ends rest
      cases behind₁ with
      | item lead₂ behind₂ =>
        have ends₂ := behind₂.ends rest
        cases behind₂ with
        | close blank =>
          have field := Json.reads_readText.complete .nil fieldText ends₁
          have kind := Json.reads_readText.complete .nil kindText ends₂
          simp only [List.nil_append, List.append_assoc, List.singleton_append] at field kind
          simp only [List.append_assoc, List.singleton_append]
          rw [readArrayItem, Json.nextItem_lead lead₁ fieldText.solid, ok_bind]
          simp only [Bool.not_true, Bool.false_eq_true, if_false, field, ok_bind,
            Json.nextItem_lead lead₂ kindText.solid, kind, Json.nextItem_close false blank]
          rfl
  | three fieldText kindText valueText =>
    cases items with
    | item lead₁ behind₁ =>
      have ends₁ := behind₁.ends rest
      cases behind₁ with
      | item lead₂ behind₂ =>
        have ends₂ := behind₂.ends rest
        cases behind₂ with
        | item lead₃ behind₃ =>
          have ends₃ := behind₃.ends rest
          cases behind₃ with
          | close blank =>
            have field := Json.reads_readText.complete .nil fieldText ends₁
            have kind := Json.reads_readText.complete .nil kindText ends₂
            have value := reads_readItemValue.complete .nil valueText ends₃
            simp only [List.nil_append, List.append_assoc, List.singleton_append] at field kind value
            simp only [List.append_assoc, List.singleton_append]
            rw [readArrayItem, Json.nextItem_lead lead₁ fieldText.solid, ok_bind]
            simp only [Bool.not_true, Bool.false_eq_true, if_false, field, ok_bind,
              Json.nextItem_lead lead₂ kindText.solid, kind,
              Json.nextItem_lead lead₃ valueText.2.solid, value, endArray_ok_iff.2 ⟨_, blank, rfl⟩]

/-- **Exactly the texts of items are read**, as these items. -/
theorem reads_readItem : Reads readItem ItemText where
  sound {s rest i} h := by
    unfold readItem at h
    split at h
    · rename_i tail start
      obtain ⟨w, blank, rfl⟩ := Json.of_skipSpace start
      obtain ⟨p, rfl, text⟩ := readObjectItem_sound h
      exact ⟨w, '{' :: p, blank, rfl, text⟩
    · rename_i tail start
      obtain ⟨w, blank, rfl⟩ := Json.of_skipSpace start
      obtain ⟨p, rfl, text⟩ := readArrayItem_sound h
      exact ⟨w, '[' :: p, blank, rfl, text⟩
    · exact absurd h (Json.wrongKind_ne_ok _ _ _)
  complete {w p rest i} blank text _ := by
    cases text with
    | object members made =>
      rw [readItem, List.cons_append, Json.skipSpace_append blank (by decide)]
      exact readObjectItem_complete members made rest
    | array items made =>
      rw [readItem, List.cons_append, Json.skipSpace_append blank (by decide)]
      exact readArrayItem_complete items made rest

/-! ## 5. Lists -/

theorem reads_readItems : Reads readItems ArrayText where
  sound {s rest items} h := by
    unfold readItems at h
    split at h
    · rename_i tail start
      obtain ⟨w, blank, rfl⟩ := Json.of_skipSpace start
      obtain ⟨ps, p, rfl, texts, stand⟩ := Json.collectItems_sound reads_readItem h
      exact ⟨w, '[' :: p, blank, rfl, .brackets texts stand⟩
    · exact absurd h (Json.wrongKind_ne_ok _ _ _)
  complete {w p rest items} blank text _ := by
    cases text with
    | @brackets ps p texts stand =>
      have enough : p.length ≤ (p ++ rest).length + 1 := by
        rw [List.length_append]
        omega
      rw [readItems, List.cons_append, Json.skipSpace_append blank (by decide)]
      exact Json.collectItems_complete reads_readItem (fun _ _ h => h.solid) texts rest stand enough

/-- **A text is read as a list of items if and only if it is an array of these items.** -/
theorem document_readItems_ok_iff {text : List Char} {items : List Item} :
    Json.document readItems text = .ok items ↔ Listed items text :=
  reads_readItems.document_ok_iff

/-- A text is an array of one list of items at most. -/
theorem Listed.unique {text : List Char} {items items' : List Item} (h : Listed items text)
    (h' : Listed items' text) : items = items' := by
  rw [← document_readItems_ok_iff] at h h'
  exact Except.ok.inj (h.symm.trans h')

end Dataset.Filter
