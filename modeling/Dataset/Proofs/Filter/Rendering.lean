import Dataset.Proofs.Filter.Classification

/-!
# The texts of a list of filters

A list of filters has many texts: the members of a filter stand in any order and among any others, an
operator is spelled in one of two ways, a value that is absent is left out or `null`, the characters of
strings stand as they are or as escapes, and white space stands wherever it may. All are read as the same
list.

* `Renders`, `Rendered`: the texts of a filter as an object, and of a list of them as an array;
* `Rendered.listed`: in each of them the items stand that are these filters;
* **`parse_of_rendered`**: each of them is read as this list.
-/

namespace Dataset.Filter

open Json (Blank ItemsText MembersText KeyText StringText Form)

/-! ## 1. The texts of filters -/

/-- The texts of the members for a value: none or `null` if it is absent. -/
inductive RendersValue : Option String → List (List Char) → Prop where
  | left : RendersValue none []
  | null : RendersValue none [['n', 'u', 'l', 'l']]
  | text {v : String} {p : List Char} : StringText v p → RendersValue (some v) [p]

/-- Members that stand for a filter, in any order and with any others among them. -/
structure RendersMembers (d : Descriptor) (ms : List (String × List Char)) : Prop where
  field : ∃ p, named "field" ms = [p] ∧ StringText d.field p
  operator : ∃ kind p, named "type" ms = [p] ∧ Names kind d.operator ∧ StringText kind p
  value : RendersValue d.value (named "value" ms)
  others : ∀ m ∈ ms, m.1 ∉ itemKeys → Form m.2

/-- The JSON texts of `d`, as objects. -/
inductive Renders (d : Descriptor) : List Char → Prop where
  | object {ms : List (String × List Char)} {s : List Char} : MembersText KeyText true ms s →
      RendersMembers d ms → Renders d ('{' :: s)

/-- The JSON texts of the list `ds`, with white space around them. -/
inductive Rendered (ds : List Descriptor) : List Char → Prop where
  | array {front s back : List Char} {ps : List (List Char)} : Blank front → ItemsText true ps s →
      List.Forall₂ Renders ds ps → Blank back → Rendered ds (front ++ ('[' :: s ++ back))

/-! ## 2. The items in these texts -/

variable {d : Descriptor} {ds : List Descriptor}

/-- A text for a value makes the value of an item. -/
theorem RendersValue.item {v : Option String} {qs : List (List Char)} (h : RendersValue v qs) :
    ∃ x, Compares x v ∧ (qs = [] ∧ x = none ∨ ∃ p, qs = [p] ∧ OptionalText x p) := by
  cases h with
  | left => exact ⟨none, .absent, .inl ⟨rfl, rfl⟩⟩
  | null => exact ⟨none, .absent, .inr ⟨_, rfl, nofun, .of_scalar .null⟩⟩
  | @text v p text => exact ⟨some (.string v), .string v, .inr ⟨p, rfl, nofun, .of_scalar (.string text)⟩⟩

/-- A text of a filter is one of an item that is this filter. -/
theorem Renders.stands {p : List Char} (h : Renders d p) : Stands d p := by
  obtain ⟨members, ⟨field, ⟨kind, q, kindAt, names, spelt⟩, value, others⟩⟩ := h
  obtain ⟨x, compares, valueAt⟩ := value.item
  exact ⟨⟨d.field, kind, x⟩, .object members ⟨field, ⟨q, kindAt, spelt⟩, valueAt, others⟩,
    ⟨rfl, names, compares⟩⟩

/-- **In a text of filters the items stand that are these filters**, in the same order. -/
theorem Rendered.listed {text : List Char} (h : Rendered ds text) :
    ∃ items, Listed items text ∧ List.Forall₂ Makes items ds := by
  obtain ⟨blank, texts, renders, blank'⟩ := h
  obtain ⟨items, stand, made⟩ := exists_items_of_stands (renders.imp fun _ _ => Renders.stands)
  exact ⟨items, ⟨_, _, _, blank, blank', rfl, .brackets texts stand⟩, made⟩

/-- The opening bracket is not blank. -/
theorem Rendered.not_blank {text : String} (h : Rendered ds text.toList) :
    Text.isBlankText text = false := by
  generalize chars : text.toList = s at h
  cases h with
  | array => exact not_blank_of_bracket chars

/-! ## 3. Reading -/

/-- Filters whose items are listed within the limits are read. -/
theorem Rendered.within {text : String} (few : ds.length ≤ maxCount)
    (short : text.utf8ByteSize ≤ maxBytes) (h : Rendered ds text.toList) :
    ∃ items, Within text items ∧ List.Forall₂ Makes items ds := by
  obtain ⟨items, listed, made⟩ := h.listed
  have length := made.length_eq
  exact ⟨items, ⟨h.not_blank, short, listed, by omega⟩, made⟩

/-- **`parse` reads every text that is `Rendered` from `ds` as `ds`**, if `ds` has at most `maxCount`
    filters and the text at most `maxBytes` bytes. -/
theorem parse_of_rendered {text : String} (few : ds.length ≤ maxCount)
    (short : text.utf8ByteSize ≤ maxBytes) (rendered : Rendered ds text.toList) :
    parse text = .ok ds :=
  parse_ok_iff.2 (.inr (rendered.within few short))

section Example

/-- A filter whose value is not all ASCII. -/
def startsWithCar : Descriptor := ⟨"name", .startsWith, some "🚗 x", by decide, by decide⟩

/-- A filter without a value, on a field with a quotation mark. -/
def isEmptyNote : Descriptor := ⟨"n\"te", .isEmpty, none, by decide, by decide⟩

/-- The members for the first: another one is among them, and the value is written in two halves. -/
def carMembers : List (String × List Char) :=
  [("type", "\"startsWith\"".toList), ("value", "\"\\ud83d\\ude97 x\"".toList),
    ("more", "[1e2,\x7b\"a\":[]\x7d]".toList), ("field", "\"name\"".toList)]

/-- The members for the second: its value is `null`. -/
def noteMembers : List (String × List Char) :=
  [("value", "null".toList), ("field", "\"n\\\"te\"".toList), ("type", "\"is empty\"".toList)]

/-- The two in one text, with white space, and a letter of a key as an escape. -/
def garageText : String :=
  " [\x7b\"type\" : \"startsWith\",\"v\\u0061lue\":\"\\ud83d\\ude97 x\",\"more\":[1e2,\x7b\"a\":[]\x7d]," ++
    "\"field\":\"name\"\x7d ,\n\x7b\"value\":null,\"field\":\"n\\\"te\",\"type\":\"is empty\"\x7d]\t"

/-- A string that is read as a whole is a text of what it is read as. -/
theorem stringText_of_readText {s : String} {p : List Char}
    (read : (Json.readText p).toOption = some (s, [])) (solid : Json.Solid p) : StringText s p :=
  Json.reads_readText.of_whole (eq_ok_of_toOption read) solid

theorem keyText_of_readString {key : String} {body : List Char}
    (read : (Json.readString (body ++ ['"'])).toOption = some (key.toList, [])) : KeyText key body :=
  Json.spells_iff.2 (eq_ok_of_toOption read)

theorem rendersMembers_car : RendersMembers startsWithCar carMembers where
  field := ⟨_, rfl, stringText_of_readText (by decide +kernel) (by decide +kernel)⟩
  operator := ⟨_, _, rfl, .inr rfl, stringText_of_readText (by decide +kernel) (by decide +kernel)⟩
  value := .text (stringText_of_readText (by decide +kernel) (by decide +kernel))
  others := by
    have nested : Form "[1e2,\x7b\"a\":[]\x7d]".toList :=
      Json.form_of_skipValue (eq_ok_of_toOption (by decide +kernel)) (by decide +kernel)
    simpa [carMembers, itemKeys] using nested

theorem rendersMembers_note : RendersMembers isEmptyNote noteMembers where
  field := ⟨_, rfl, stringText_of_readText (by decide +kernel) (by decide +kernel)⟩
  operator := ⟨_, _, rfl, .inl rfl, stringText_of_readText (by decide +kernel) (by decide +kernel)⟩
  value := .null
  others := by simp [noteMembers, itemKeys]

/-- The text is one of the two filters. -/
theorem rendered_garage : Rendered [startsWithCar, isEmptyNote] garageText.toList := by
  have field : KeyText "field" "field".toList := keyText_of_readString (by decide +kernel)
  have type : KeyText "type" "type".toList := keyText_of_readString (by decide +kernel)
  have value : KeyText "value" "value".toList := keyText_of_readString (by decide +kernel)
  have escaped : KeyText "value" "v\\u0061lue".toList := keyText_of_readString (by decide +kernel)
  have more : KeyText "more" "more".toList := keyText_of_readString (by decide +kernel)
  have space : Blank [' '] := by decide
  have car : MembersText KeyText true carMembers _ :=
    .member (.first .nil) type space space
      (.member (.further .nil .nil) escaped .nil .nil
        (.member (.further .nil .nil) more .nil .nil
          (.member (.further .nil .nil) field .nil .nil (.close .nil))))
  have note : MembersText KeyText true noteMembers _ :=
    .member (.first .nil) value .nil .nil
      (.member (.further .nil .nil) field .nil .nil
        (.member (.further .nil .nil) type .nil .nil (.close .nil)))
  have filters : List.Forall₂ Renders [startsWithCar, isEmptyNote] _ :=
    .cons (.object car rendersMembers_car) (.cons (.object note rendersMembers_note) .nil)
  have newline : Blank ['\n'] := by decide
  have tab : Blank ['\t'] := by decide
  have whole := Rendered.array space
    (.item (.first .nil) (.item (.further space newline) (.close .nil))) filters tab
  convert whole using 1
  decide +kernel

theorem parse_of_rendered_garage : parse garageText = .ok [startsWithCar, isEmptyNote] :=
  parse_of_rendered (by decide) (by decide +kernel) rendered_garage

end Example

end Dataset.Filter
