import Dataset.Filter.Basic
import Dataset.Json.Reader

/-!
# Filters as JSON

A list of filters arrives as the text of a JSON array. Each item is an object with the members
`field`, `type` and, if the operator needs it, `value`, or an array of these three in this order.
Other members are passed over, and none of the three may come twice. A value is a string or a
number; a number stands for its text.

* `Item` is one item as it stands in the text, `readItem` reads it;
* `Item.descriptor` checks it; `parse` does all this for a whole text.

Checks come in a fixed order: size, form of the whole text, number of items, and then, item by item
from the left, the operator, the kind of the value, the field, the presence of a value.
-/

namespace Dataset.Filter

/-! ## 1. Items -/

/-- One item of the array. -/
structure Item where
  field : String
  kind : String
  value : Option Json
  deriving Repr

/-- The members of an item met so far. -/
structure Members where
  field : Option String
  kind : Option String
  /-- The inner level is `none` for a value of `null`. -/
  value : Option (Option Json)

/-- How an item is called in messages. -/
def itemName : String := "struct RawFilter"

/-- The brackets that are still allowed inside an item: the array and the item itself are open. -/
def itemDepth : Nat := Json.depthLimit - 2

/-- The value of an item; `null` is none. -/
def readItemValue (s : List Char) : Except Json.Error (Option Json × List Char) :=
  Json.readOptional (Json.readValue itemDepth) s

/-- One member of an item. -/
def readMember (key : String) (m : Members) (s : List Char) :
    Except Json.Error (Members × List Char) :=
  if key = "field" then
    if m.field.isSome then .error (.duplicateField key)
    else do
      let (v, s) ← Json.readText s
      .ok ({ m with field := some v }, s)
  else if key = "type" then
    if m.kind.isSome then .error (.duplicateField key)
    else do
      let (v, s) ← Json.readText s
      .ok ({ m with kind := some v }, s)
  else if key = "value" then
    if m.value.isSome then .error (.duplicateField key)
    else do
      let (v, s) ← readItemValue s
      .ok ({ m with value := some v }, s)
  else do .ok (m, ← Json.skipValue s)

/-- An item with all members that it needs. -/
def Members.item (m : Members) : Except Json.Error Item :=
  match m.field, m.kind with
  | none, _ => .error (.missingField "field")
  | some _, none => .error (.missingField "type")
  | some field, some kind => .ok ⟨field, kind, m.value.join⟩

/-- An item as an object, behind its opening bracket. -/
def readObjectItem (s : List Char) : Except Json.Error (Item × List Char) := do
  let (m, s) ← Json.foldMembers readMember (s.length + 1) true ⟨none, none, none⟩ s
  .ok (← m.item, s)

/-- What an array item must hold, in words. -/
def itemShape : String := itemName ++ " with 3 elements"

/-- An item as an array, behind its opening bracket. -/
def readArrayItem (s : List Char) : Except Json.Error (Item × List Char) := do
  let (more, s) ← Json.nextItem true s
  if !more then .error (.wrongLength 0 itemShape)
  else
    let (field, s) ← Json.readText s
    let (more, s) ← Json.nextItem false s
    if !more then .error (.wrongLength 1 itemShape)
    else
      let (kind, s) ← Json.readText s
      let (more, s) ← Json.nextItem false s
      if !more then .ok (⟨field, kind, none⟩, s)
      else
        let (value, s) ← readItemValue s
        .ok (⟨field, kind, value⟩, ← Json.endArray s)

/-- One item. -/
def readItem (s : List Char) : Except Json.Error (Item × List Char) :=
  match Json.skipSpace s with
  | '{' :: rest => readObjectItem rest
  | '[' :: rest => readArrayItem rest
  | _ => Json.wrongKind itemName s

/-- The array of items. -/
def readItems (s : List Char) : Except Json.Error (List Item × List Char) :=
  match Json.skipSpace s with
  | '[' :: rest => Json.collectItems readItem (rest.length + 1) true rest
  | _ => Json.wrongKind "a sequence" s

/-! ## 2. Checks -/

/-- The text that an item compares with. -/
def Item.text? (i : Item) : Except Error (Option String) :=
  match i.value with
  | none | some .null => .ok none
  | some (.string s) => .ok (some s)
  | some (.number n) => .ok (some n.text)
  | some v => .error (.invalid i.field (.wrongValue v))

/-- An item as a filter. -/
def Item.descriptor (i : Item) : Except Error Descriptor :=
  match Operator.ofText? i.kind with
  | none => .error (.invalid i.field (.unknownOperator i.kind))
  | some op => do Descriptor.make i.field op (← i.text?)

/-- The filters that a text lists; none for a blank text. -/
def parse (text : String) : Except Error (List Descriptor) :=
  if Text.isBlankText text then .ok []
  else if maxBytes < text.utf8ByteSize then .error (.malformed .oversized)
  else
    match Json.document readItems text.toList with
    | .error cause => .error (.malformed (.unreadable cause))
    | .ok items =>
      if maxCount < items.length then .error (.malformed .tooMany)
      else items.mapM Item.descriptor

end Dataset.Filter
