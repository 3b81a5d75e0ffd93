import Dataset.Proofs.Filter.Rendering
import Dataset.Proofs.Json.Escaping
import Dataset.Proofs.Text.Encoding

/-!
# A filter as a request writes it

A list of one filter is written as JSON, its field, operator and value as strings, and is read as this
filter, whatever characters they hold, as long as the list is not too long.

* `written`: the text of such a list;
* `length_lt_written`, `utf8ByteSize_written_le`: how long it is;
* `rendered_written`: it is a text of this filter;
* **`parse_written`**, `parse_written_oversized`: what it is read as, and `parse_one`: what any other text
  of one filter is.
-/

namespace Dataset.Filter

open Json (stringChars escape MembersText KeyText StringText)

/-! ## 1. Writing -/

/-- The members of a filter in JSON, with the human form of its operator. -/
def writtenMembers (field : String) (op : Operator) (value : Option String) : List (String × Json) :=
  ("field", .string field) :: ("type", .string op.toText) ::
    (value.map fun v => ("value", Json.string v)).toList

/-- The list of one filter as JSON. -/
def written (field : String) (op : Operator) (value : Option String) : String :=
  (Json.array [.object (writtenMembers field op value)]).text

/-- A member whose value is a string. -/
def memberChars (key v : String) : List Char :=
  '"' :: (escape key.toList ++ '"' :: ':' :: stringChars v.toList)

theorem toList_memberText (key v : String) :
    (Json.memberText (key, (Json.string v).text)).toList = memberChars key v := by
  simp [Json.memberText, Json.text, Json.stringText, memberChars, stringChars]

/-- The member that holds the value of a filter, if it has one. -/
def valueChars (value : Option String) : List Char :=
  match value with
  | some v => ',' :: memberChars "value" v
  | none => []

theorem toList_written (field : String) (op : Operator) (value : Option String) :
    (written field op value).toList = '[' :: '{' :: (memberChars "field" field ++
      ',' :: (memberChars "type" op.toText ++ (valueChars value ++ ['}', ']']))) := by
  have array (item : String) : (Json.arrayText [item]).toList = '[' :: (item.toList ++ [']']) := by
    simp [Json.arrayText, Text.joinWith]
  have two (a b : String) : (Text.joinWith "," [a, b]).toList = a.toList ++ ',' :: b.toList := by
    simp [Text.joinWith]
  have three (a b c : String) : (Text.joinWith "," [a, b, c]).toList =
      a.toList ++ ',' :: (b.toList ++ ',' :: c.toList) := by
    simp [Text.joinWith]
  have object (members : List (String × String)) : (Json.objectText members).toList =
      '{' :: ((Text.joinWith "," (members.map Json.memberText)).toList ++ ['}']) := by
    simp [Json.objectText, Json.openBrace, Json.closeBrace]
  rw [written, Json.text, Json.texts, Json.texts, array, Json.text, object]
  cases value with
  | none => simp [writtenMembers, Json.memberTexts, two, toList_memberText, valueChars]
  | some v => simp [writtenMembers, Json.memberTexts, three, toList_memberText, valueChars]

/-- A filter is longer than its field. -/
theorem length_lt_written (field : String) (op : Operator) (value : Option String) :
    field.toList.length < (written field op value).utf8ByteSize := by
  have whole := Text.length_le_utf8ByteSize (written field op value)
  have part := Json.length_le_escape field.toList
  rw [toList_written] at whole
  simp only [memberChars, stringChars, List.length_cons, List.length_append] at whole
  omega

/-- A filter of a short field and a short value is short. -/
theorem utf8ByteSize_written_le (field : String) (op : Operator) (v : String) :
    (written field op (some v)).utf8ByteSize ≤
      24 * (field.toList.length + v.toList.length) + 512 := by
  have whole := Text.utf8ByteSize_le (written field op (some v))
  have name := Json.length_escape_le field.toList
  have value := Json.length_escape_le v.toList
  have kind : (escape op.toText.toList).length ≤ 6 * 12 := by cases op <;> decide
  have keys : (escape "field".toList).length = 5 ∧ (escape "type".toList).length = 4 ∧
      (escape "value".toList).length = 5 := by decide
  rw [toList_written] at whole
  simp only [memberChars, valueChars, stringChars, List.length_cons, List.length_append,
    List.length_nil, keys] at whole
  omega

/-! ## 2. Reading -/

/-- The members that are written, with the texts of their values. -/
def writtenTexts (field : String) (op : Operator) (value : Option String) :
    List (String × List Char) :=
  ("field", stringChars field.toList) :: ("type", stringChars op.toText.toList) ::
    (value.map fun v => ("value", stringChars v.toList)).toList

/-- Written members follow each other with a comma between them. -/
theorem membersText_memberChars {key v : String} {first : Bool} {w s : List Char}
    {ms : List (String × List Char)} (lead : Json.Lead first w) (behind : MembersText KeyText false ms s) :
    MembersText KeyText first ((key, stringChars v.toList) :: ms) (w ++ (memberChars key v ++ s)) := by
  simpa [memberChars] using Json.membersText_escape key (stringChars v.toList) lead behind

theorem membersText_written (field : String) (op : Operator) (value : Option String) :
    MembersText KeyText true (writtenTexts field op value) (memberChars "field" field ++
      ',' :: (memberChars "type" op.toText ++ (valueChars value ++ ['}']))) := by
  have comma : Json.Lead false [','] := .further .nil .nil
  have close : MembersText KeyText false [] ['}'] := .close .nil
  refine membersText_memberChars (w := []) (.first .nil) (membersText_memberChars comma ?_)
  cases value with
  | none => exact close
  | some v => exact membersText_memberChars comma close

theorem rendersMembers_written (d : Descriptor) :
    RendersMembers d (writtenTexts d.field d.operator d.value) := by
  have value : RendersValue d.value (named "value" (writtenTexts d.field d.operator d.value)) := by
    cases d.value with
    | none => exact .left
    | some v => exact .text (Json.stringText_stringChars v)
  refine ⟨⟨_, ?_, Json.stringText_stringChars _⟩,
    ⟨_, _, ?_, .inl rfl, Json.stringText_stringChars _⟩, value, ?_⟩
  · cases d.value <;> rfl
  · cases d.value <;> rfl
  · cases d.value <;> simp [writtenTexts, itemKeys]

/-- **A written filter is a text of this filter.** -/
theorem rendered_written (d : Descriptor) :
    Rendered [d] (written d.field d.operator d.value).toList := by
  have filter : Renders d _ :=
    .object (membersText_written d.field d.operator d.value) (rendersMembers_written d)
  have text := Rendered.array .nil (.item (.first .nil) (.close .nil)) (.cons filter .nil) .nil
  rw [toList_written]
  simpa using text

/-! ## 3. Checks -/

/-- A text of one filter is read as this filter, as long as it is not too long. -/
theorem parse_one {d : Descriptor} {text : String} (short : text.utf8ByteSize ≤ maxBytes)
    (rendered : Rendered [d] text.toList) : parse text = .ok [d] := by
  have few : [d].length ≤ maxCount := by
    rw [List.length_singleton]
    decide
  exact parse_ok_iff.2 (.inr (rendered.within few short))

/-- **A written filter is read as itself**, as long as its text is not too long. -/
theorem parse_written (d : Descriptor)
    (short : (written d.field d.operator d.value).utf8ByteSize ≤ maxBytes) :
    parse (written d.field d.operator d.value) = .ok [d] :=
  parse_one short (rendered_written d)

/-- A filter whose text is too long is refused. -/
theorem parse_written_oversized {field : String} {op : Operator} {value : Option String}
    (long : maxBytes < (written field op value).utf8ByteSize) :
    parse (written field op value) = .error (.malformed .oversized) := by
  have some : Text.isBlankText (written field op value) = false := by
    rw [Text.isBlankText, toList_written]
    rfl
  rw [parse, some, if_neg (by simp), if_pos long]

end Dataset.Filter
