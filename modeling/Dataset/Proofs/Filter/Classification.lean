import Dataset.Proofs.Filter.Items

/-!
# What a list of filters is refused for

Every text is a list of filters, or is refused for one reason, and which of them it is depends on no more
than what the text stands for.

* `Makes`, `Faulty`: an item is a filter, or what is wrong with it first;
* `descriptor_ok_iff`, `descriptor_error_iff`: the checks of an item decide between the two;
* `parse_ok_iff`, `parse_invalid_iff`, `parse_malformed_iff`: each outcome of a text by itself;
* **`parse_classifies`**: a text is accepted, refused for its first wrong item, or refused as a whole.

A text is refused as a whole for its size, its form or the number of its items, whatever is wrong with
single items.
-/

namespace Dataset.Filter

/-! ## 1. What an item is -/

/-- A name of an operator, in either spelling. -/
def Names (kind : String) (op : Operator) : Prop := kind = op.toText ∨ kind = op.camelCase

/-- The text that a value is compared by: of a string itself, of a number `n.text`; null is no text. -/
inductive Compares : Option Json → Option String → Prop where
  | absent : Compares none none
  | null : Compares (some .null) none
  | string (s : String) : Compares (some (.string s)) (some s)
  | number (n : Json.Num) : Compares (some (.number n)) (some n.text)

/-- A value that is neither text nor number nor absent. -/
inductive Unfit : Json → Prop where
  | bool (b : Bool) : Unfit (.bool b)
  | array (vs : List Json) : Unfit (.array vs)
  | object (o : List (String × Json)) : Unfit (.object o)

/-- The item `i` is read as the descriptor `d`. -/
structure Makes (i : Item) (d : Descriptor) : Prop where
  field : d.field = i.field
  operator : Names i.kind d.operator
  value : Compares i.value d.value

/-- The reason for which `i` is refused, in the order of the checks: its operator, the kind of its value, its
    field, the value that its operator needs. -/
inductive Faulty (i : Item) : Reason → Prop where
  | operator : (∀ op, ¬ Names i.kind op) → Faulty i (.unknownOperator i.kind)
  | value {op : Operator} {v : Json} : Names i.kind op → i.value = some v → Unfit v →
      Faulty i (.wrongValue v)
  | field {op : Operator} {v : Option String} : Names i.kind op → Compares i.value v →
      Text.isBlankText i.field = true → Faulty i .blankField
  | missing {op : Operator} {v : Option String} : Names i.kind op → Compares i.value v →
      Text.isBlankText i.field = false → op.takesValue = true → hasContent v = false →
      Faulty i (.valueRequired op)

/-- `p` is the text of an item that is read as `d`. -/
def Stands (d : Descriptor) (p : List Char) : Prop := ∃ i, ItemText i p ∧ Makes i d

/-- Where texts stand for filters there are the items that they are. -/
theorem exists_items_of_stands {ds : List Descriptor} {ps : List (List Char)}
    (h : List.Forall₂ Stands ds ps) :
    ∃ items, List.Forall₂ ItemText items ps ∧ List.Forall₂ Makes items ds := by
  induction h with
  | nil => exact ⟨[], .nil, .nil⟩
  | cons first _ ih =>
    obtain ⟨i, text, makes⟩ := first
    obtain ⟨items, texts, made⟩ := ih
    exact ⟨i :: items, .cons text texts, .cons makes made⟩

/-! ## 2. The checks of an item -/

theorem ofText?_of_names {kind : String} {op : Operator} (h : Names kind op) :
    Operator.ofText? kind = some op := by
  rcases h with rfl | rfl <;> cases op <;> decide

theorem ofText?_eq_some_iff {kind : String} {op : Operator} :
    Operator.ofText? kind = some op ↔ Names kind op := by
  constructor
  · intro h
    have named := List.find?_some h
    simpa [Names] using named
  · exact ofText?_of_names

theorem ofText?_eq_none_iff {kind : String} :
    Operator.ofText? kind = none ↔ ∀ op, ¬ Names kind op := by
  constructor
  · intro unknown op names
    rw [ofText?_of_names names] at unknown
    cases unknown
  · intro unknown
    cases h : Operator.ofText? kind with
    | none => rfl
    | some op => exact absurd (ofText?_eq_some_iff.1 h) (unknown op)

variable {i : Item} {d : Descriptor} {e : Error}

theorem text?_ok_iff {v : Option String} : i.text? = .ok v ↔ Compares i.value v := by
  rw [Item.text?]
  constructor
  · intro h
    split at h
    · rename_i absent
      obtain rfl := Except.ok.inj h
      exact absent ▸ .absent
    · rename_i null
      obtain rfl := Except.ok.inj h
      exact null ▸ .null
    · rename_i s string
      obtain rfl := Except.ok.inj h
      exact string ▸ .string s
    · rename_i n number
      obtain rfl := Except.ok.inj h
      exact number ▸ .number n
    · cases h
  · intro h
    generalize i.value = value at h
    cases h <;> rfl

theorem text?_error_iff :
    i.text? = .error e ↔ ∃ v, i.value = some v ∧ Unfit v ∧ e = .invalid i.field (.wrongValue v) := by
  rw [Item.text?]
  constructor
  · intro h
    cases value : i.value with
    | none =>
      rw [value] at h
      cases h
    | some v =>
      rw [value] at h
      cases v with
      | null | string | number => cases h
      | bool | array | object => exact ⟨_, rfl, by constructor, (Except.error.inj h).symm⟩
  · rintro ⟨v, value, unfit, rfl⟩
    rw [value]
    cases unfit <;> rfl

variable {field : String} {op : Operator} {value : Option String}

theorem make_ok_iff : Descriptor.make field op value = .ok d ↔
    d.field = field ∧ d.operator = op ∧ d.value = value := by
  rw [Descriptor.make]
  constructor
  · intro h
    split_ifs at h
    obtain rfl := Except.ok.inj h
    exact ⟨rfl, rfl, rfl⟩
  · rintro ⟨rfl, rfl, rfl⟩
    rw [dif_pos d.field_named, dif_pos d.value_given]

theorem make_error_iff : Descriptor.make field op value = .error e ↔
    Text.isBlankText field = true ∧ e = .invalid field .blankField ∨
      Text.isBlankText field = false ∧ (op.takesValue = true ∧ hasContent value = false) ∧
        e = .invalid field (.valueRequired op) := by
  rw [Descriptor.make]
  split_ifs with named given
  · constructor
    · nofun
    · rintro (⟨blank, -⟩ | ⟨-, ⟨takes, missing⟩, -⟩)
      · rw [named] at blank
        cases blank
      · rw [given takes] at missing
        cases missing
  · have lacks : op.takesValue = true ∧ hasContent value = false := by simpa using given
    constructor
    · intro h
      exact .inr ⟨named, lacks, (Except.error.inj h).symm⟩
    · rintro (⟨blank, -⟩ | ⟨-, -, rfl⟩)
      · rw [named] at blank
        cases blank
      · rfl
  · have blank : Text.isBlankText field = true := by simpa using named
    constructor
    · intro h
      exact .inl ⟨blank, (Except.error.inj h).symm⟩
    · rintro (⟨-, rfl⟩ | ⟨some, -⟩)
      · rfl
      · exact absurd some named

/-- **An item passes the checks if and only if it is a filter.** -/
theorem descriptor_ok_iff : i.descriptor = .ok d ↔ Makes i d := by
  rw [Item.descriptor]
  constructor
  · intro h
    split at h
    · cases h
    · rename_i op spelt
      obtain ⟨v, read, made⟩ := exists_ok_of_bind h
      obtain ⟨field, operator, value⟩ := make_ok_iff.1 made
      refine ⟨field, ?_, ?_⟩
      · rw [operator]
        exact ofText?_eq_some_iff.1 spelt
      · rw [value]
        exact text?_ok_iff.1 read
  · rintro ⟨field, names, value⟩
    simp only [ofText?_of_names names]
    rw [text?_ok_iff.2 value, ok_bind, make_ok_iff]
    exact ⟨field, rfl, rfl⟩

/-- **An item fails the checks if and only if it is faulty**, and for what is wrong with it first. -/
theorem descriptor_error_iff :
    i.descriptor = .error e ↔ ∃ reason, Faulty i reason ∧ e = .invalid i.field reason := by
  rw [Item.descriptor]
  constructor
  · intro h
    split at h
    · rename_i unknown
      exact ⟨_, .operator (ofText?_eq_none_iff.1 unknown), (Except.error.inj h).symm⟩
    · rename_i op spelt
      have names := ofText?_eq_some_iff.1 spelt
      rcases error_of_bind h with failed | ⟨v, read, failed⟩
      · obtain ⟨v, value, unfit, rfl⟩ := text?_error_iff.1 failed
        exact ⟨_, .value names value unfit, rfl⟩
      · have value := text?_ok_iff.1 read
        rcases make_error_iff.1 failed with ⟨blank, rfl⟩ | ⟨named, ⟨takes, missing⟩, rfl⟩
        · exact ⟨_, .field names value blank, rfl⟩
        · exact ⟨_, .missing names value named takes missing, rfl⟩
  · rintro ⟨reason, faulty, rfl⟩
    cases faulty with
    | operator unknown => simp only [ofText?_eq_none_iff.2 unknown]
    | value names value unfit =>
      simp only [ofText?_of_names names]
      rw [text?_error_iff.2 ⟨_, value, unfit, rfl⟩]
      rfl
    | field names value blank =>
      simp only [ofText?_of_names names]
      rw [text?_ok_iff.2 value, ok_bind, make_error_iff]
      exact .inl ⟨blank, rfl⟩
    | missing names value named takes missing =>
      simp only [ofText?_of_names names]
      rw [text?_ok_iff.2 value, ok_bind, make_error_iff]
      exact .inr ⟨named, ⟨takes, missing⟩, rfl⟩

/-- All items pass the checks if and only if each is its filter. -/
theorem mapM_descriptor_ok_iff {items : List Item} {ds : List Descriptor} :
    items.mapM Item.descriptor = .ok ds ↔ List.Forall₂ Makes items ds := by
  simp only [mapM_ok_iff, descriptor_ok_iff]

/-- Of several items the first faulty one is what they fail for. -/
theorem mapM_descriptor_error_iff {items : List Item} :
    items.mapM Item.descriptor = .error e ↔ ∃ before i after, items = before ++ i :: after ∧
      (∀ j ∈ before, ∃ d, Makes j d) ∧ ∃ reason, Faulty i reason ∧ e = .invalid i.field reason := by
  simp only [mapM_error_iff, descriptor_ok_iff, descriptor_error_iff]

/-! ## 3. Whole texts -/

/-- `text` is an array of `items`, of at most `maxBytes` bytes and `maxCount` items. -/
structure Within (text : String) (items : List Item) : Prop where
  nonblank : Text.isBlankText text = false
  short : text.utf8ByteSize ≤ maxBytes
  listed : Listed items text.toList
  few : items.length ≤ maxCount

variable {text : String} {ds : List Descriptor}

/-- A text with a bracket in it is not blank. -/
theorem not_blank_of_bracket {front rest : List Char} (chars : text.toList = front ++ '[' :: rest) :
    Text.isBlankText text = false := by
  have bracket : Text.isBlank '[' = false := by decide
  rw [Text.isBlankText, chars, List.all_append, List.all_cons, bracket, Bool.false_and, Bool.and_false]

theorem parse_of_blank (blank : Text.isBlankText text = true) : parse text = .ok [] := by
  rw [parse, if_pos blank]

/-- A text within the limits is what its items are. -/
theorem parse_of_within {items : List Item} (h : Within text items) :
    parse text = items.mapM Item.descriptor := by
  have short := h.short
  have few := h.few
  rw [parse, if_neg (by simp [h.nonblank]), if_neg (by omega), document_readItems_ok_iff.2 h.listed]
  exact if_neg (by omega)

/-- Any other text is refused as a whole. -/
theorem parse_of_not_within (some : Text.isBlankText text = false)
    (outside : ∀ items, ¬ Within text items) :
    ∃ cause, parse text = .error (.malformed cause) := by
  rw [parse, if_neg (by simp [some])]
  split_ifs with long
  · exact ⟨_, rfl⟩
  · split
    · exact ⟨_, rfl⟩
    · rename_i items read
      split_ifs with many
      · exact ⟨_, rfl⟩
      · exact absurd ⟨some, by omega, document_readItems_ok_iff.1 read, by omega⟩ (outside items)

theorem parse_cases (text : String) :
    Text.isBlankText text = true ∧ parse text = .ok [] ∨
    (∃ items, Within text items ∧ parse text = items.mapM Item.descriptor) ∨
    Text.isBlankText text = false ∧ (∀ items, ¬ Within text items) ∧
      ∃ cause, parse text = .error (.malformed cause) := by
  cases blank : Text.isBlankText text with
  | true => exact .inl ⟨rfl, parse_of_blank blank⟩
  | false =>
    by_cases within : ∃ items, Within text items
    · obtain ⟨items, within⟩ := within
      exact .inr (.inl ⟨items, within, parse_of_within within⟩)
    · have outside := not_exists.1 within
      exact .inr (.inr ⟨rfl, outside, parse_of_not_within blank outside⟩)

/-- A text is accepted as nothing, or as what each of its items is. -/
theorem parse_ok_iff : parse text = .ok ds ↔ Text.isBlankText text = true ∧ ds = [] ∨
    ∃ items, Within text items ∧ List.Forall₂ Makes items ds := by
  constructor
  · intro h
    rcases parse_cases text with ⟨blank, parsed⟩ | ⟨items, within, parsed⟩ | ⟨-, -, cause, parsed⟩
    · rw [parsed] at h
      exact .inl ⟨blank, (Except.ok.inj h).symm⟩
    · rw [parsed, mapM_descriptor_ok_iff] at h
      exact .inr ⟨items, within, h⟩
    · rw [parsed] at h
      cases h
  · rintro (⟨blank, rfl⟩ | ⟨items, within, made⟩)
    · exact parse_of_blank blank
    · rw [parse_of_within within]
      exact mapM_descriptor_ok_iff.2 made

/-- A text is refused for an item if this is the first faulty one, and nothing is wrong with the text
    as a whole. -/
theorem parse_invalid_iff {field : String} {reason : Reason} :
    parse text = .error (.invalid field reason) ↔
      ∃ before i after, Within text (before ++ i :: after) ∧ (∀ j ∈ before, ∃ d, Makes j d) ∧
        Faulty i reason ∧ field = i.field := by
  constructor
  · intro h
    rcases parse_cases text with ⟨-, parsed⟩ | ⟨items, within, parsed⟩ | ⟨-, -, cause, parsed⟩
    · rw [parsed] at h
      cases h
    · rw [parsed, mapM_descriptor_error_iff] at h
      obtain ⟨before, i, after, rfl, fine, r, faulty, same⟩ := h
      obtain ⟨rfl, rfl⟩ := Error.invalid.inj same
      exact ⟨before, i, after, within, fine, faulty, rfl⟩
    · rw [parsed] at h
      cases h
  · rintro ⟨before, i, after, within, fine, faulty, rfl⟩
    rw [parse_of_within within, mapM_descriptor_error_iff]
    exact ⟨before, i, after, rfl, fine, reason, faulty, rfl⟩

/-- A text is refused as a whole if it is too long, no array of items, or of too many. -/
theorem parse_malformed_iff : (∃ cause, parse text = .error (.malformed cause)) ↔
    Text.isBlankText text = false ∧
      (maxBytes < text.utf8ByteSize ∨ (∀ items, ¬ Listed items text.toList) ∨
        ∃ items, Listed items text.toList ∧ maxCount < items.length) := by
  constructor
  · rintro ⟨cause, h⟩
    rcases parse_cases text with ⟨-, parsed⟩ | ⟨items, -, parsed⟩ | ⟨some, outside, -⟩
    · rw [parsed] at h
      cases h
    · rw [parsed, mapM_descriptor_error_iff] at h
      obtain ⟨_, i, _, -, -, reason, -, same⟩ := h
      cases same
    · refine ⟨some, ?_⟩
      by_cases long : maxBytes < text.utf8ByteSize
      · exact .inl long
      by_cases listed : ∃ items, Listed items text.toList
      · obtain ⟨items, listed⟩ := listed
        refine .inr (.inr ⟨items, listed, ?_⟩)
        by_contra few
        exact outside items ⟨some, by omega, listed, by omega⟩
      · exact .inr (.inl (not_exists.1 listed))
  · rintro ⟨some, wrong⟩
    refine parse_of_not_within some fun items ⟨_, short, listed, few⟩ => ?_
    rcases wrong with long | none | ⟨others, same, many⟩
    · omega
    · exact none items listed
    · rw [listed.unique same] at few
      omega

/-- **`parse` accepts a text or refuses it for one reason.** It gives `ds` exactly for a blank text, with
    `ds = []`, and for a text `Within` both limits whose items `Makes` relates to `ds`. It is `invalid`
    exactly for the first item of such a text that is `Faulty`, with its field and reason; and `malformed`
    exactly for a text longer than `maxBytes`, one that is no list of items (`Listed`), and one of more than
    `maxCount` items. -/
theorem parse_classifies (text : String) :
    (∀ ds, parse text = .ok ds ↔ Text.isBlankText text = true ∧ ds = [] ∨
      ∃ items, Within text items ∧ List.Forall₂ Makes items ds ∧
        ∀ d ∈ ds, Text.isBlankText d.field = false ∧
          (d.operator ≠ .isEmpty → hasContent d.value = true)) ∧
    (∀ field reason, parse text = .error (.invalid field reason) ↔
      ∃ before i after, Within text (before ++ i :: after) ∧ (∀ j ∈ before, ∃ d, Makes j d) ∧
        Faulty i reason ∧ field = i.field) ∧
    ((∃ cause, parse text = .error (.malformed cause)) ↔
      Text.isBlankText text = false ∧
        (maxBytes < text.utf8ByteSize ∨ (∀ items, ¬ Listed items text.toList) ∨
          ∃ items, Listed items text.toList ∧ maxCount < items.length)) := by
  refine ⟨fun ds => ?_, fun field reason => parse_invalid_iff, parse_malformed_iff⟩
  have sound (d : Descriptor) : Text.isBlankText d.field = false ∧
      (d.operator ≠ .isEmpty → hasContent d.value = true) := by
    refine ⟨d.field_named, fun compares => d.value_given ?_⟩
    cases h : d.operator with
    | isEmpty => exact absurd h compares
    | _ => rfl
  rw [parse_ok_iff]
  constructor
  · rintro (nothing | ⟨items, within, made⟩)
    · exact .inl nothing
    · exact .inr ⟨items, within, made, fun d _ => sound d⟩
  · rintro (nothing | ⟨items, within, made, -⟩)
    · exact .inl nothing
    · exact .inr ⟨items, within, made⟩

end Dataset.Filter
