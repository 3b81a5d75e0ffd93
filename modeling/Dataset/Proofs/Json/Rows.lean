import Dataset.Proofs.Json.Content
import Dataset.Proofs.Number.Order
import Dataset.Proofs.Row

/-!
# Rows in JSON

The text of a row is an object that every reader of JSON takes for the same: the columns in their order, with
their scalars. Real numbers are shown with as few digits as read back, which is not their exact value, so
they are left out here.

* `Scalar.content`, `Scalar.isExact`: what a scalar is in JSON, and which scalars are written exactly;
* **`Row.document_jsonText`**: what the text of a row tells;
* **`Row.jsonText_lossless`**: every reader has the row back, and different rows have different texts.
-/

namespace Dataset

/-! ## 1. Scalars -/

namespace Scalar

/-- What a scalar is in JSON; what is not a finite number is nothing. -/
def content : Scalar → Json.Content
  | null => .null
  | int n => .number n
  | real r => if r.isFinite then .number r.toRat else .null
  | notANumber => .null
  | text s => .string s

/-- The scalars that are written exactly: nothing, integers of 64 bits, and texts. -/
def isExact : Scalar → Bool
  | null => true
  | int n => Number.isInt64 n
  | real _ => false
  | notANumber => false
  | text _ => true

variable {v w : Scalar}

/-- The text of such a scalar tells what it is. -/
theorem plain_jsonText (exact : v.isExact = true) : Json.Plain v.content v.jsonText.toList := by
  cases v with
  | null => exact Json.plain_null
  | int n => exact Json.plain_ofInt n
  | real r => cases exact
  | notANumber => cases exact
  | text s => exact Json.plain_stringText s

/-- Different scalars of this kind are different in JSON. -/
theorem eq_of_content_eq (exact : v.isExact = true) (exact' : w.isExact = true)
    (same : v.content = w.content) : v = w := by
  cases v <;> cases w <;> simp_all [content, isExact]

end Scalar

/-! ## 2. Rows -/

namespace Row

/-- What a row is in JSON: its columns in order, with their scalars. -/
def content (r : Row) : Json.Content := .object (r.cells.map fun c => (c.1, c.2.content))

/-- All scalars of the row are written exactly. -/
def IsExact (r : Row) : Prop := ∀ c ∈ r.cells, c.2.isExact = true

instance (r : Row) : Decidable r.IsExact :=
  inferInstanceAs (Decidable (∀ c ∈ r.cells, c.2.isExact = true))

variable {r r' : Row}

/-- **The text of a row tells its columns in order**, with their scalars. -/
theorem document_jsonText (nodup : r.columns.Nodup) (exact : r.IsExact) :
    Json.Document r.content r.jsonText.toList := by
  refine Json.document_objectText ?_ ?_
  · rwa [List.map_map]
  · refine List.forall₂_map_left_iff.2 (List.forall₂_map_right_iff.2 (List.forall₂_same.2 ?_))
    exact fun c hc => ⟨rfl, Scalar.plain_jsonText (exact c hc)⟩

/-- Different rows are different in JSON. -/
theorem eq_of_content_eq (exact : r.IsExact) (exact' : r'.IsExact) (same : r.content = r'.content) :
    r = r' := by
  obtain ⟨cells⟩ := r
  obtain ⟨cells'⟩ := r'
  have pairs := Json.Content.object.inj same
  refine congrArg mk ?_
  clear same
  induction cells generalizing cells' with
  | nil => exact (List.map_eq_nil_iff.1 pairs.symm).symm
  | cons c rest ih =>
    cases cells' with
    | nil => cases pairs
    | cons c' rest' =>
      obtain ⟨first, behind⟩ := List.cons.inj pairs
      obtain ⟨name, told⟩ := Prod.mk.inj first
      have here := Scalar.eq_of_content_eq (exact c (.head _)) (exact' c' (.head _)) told
      have later := ih (fun _ hd => exact _ (.tail _ hd)) rest' (fun _ hd => exact' _ (.tail _ hd)) behind
      rw [Prod.ext name here, later]

/-- **`jsonText` is lossless and ordered.** Every `Reader` reads the text of a row that `IsExact` as the
    object `told` of its columns and values in order, no other content has this text, and no other exact row
    has it. -/
theorem jsonText_lossless {pushes : List (String × Scalar)} (exact : (ofList pushes).IsExact) :
    let r := ofList pushes
    let told := Json.Content.object (r.cells.map fun c => (c.1, c.2.content))
    (∀ reader : Json.Reader, reader.read r.jsonText.toList = some told) ∧
      (∀ v, Json.Document v r.jsonText.toList ↔ v = told) ∧
      ∀ pushes', (ofList pushes').IsExact → (ofList pushes').jsonText = r.jsonText →
        ofList pushes' = r := by
  intro r told
  have document : Json.Document told r.jsonText.toList :=
    document_jsonText (nodup_columns pushes) exact
  refine ⟨fun reader => reader.reads document, fun v => ⟨fun other => other.unique document, ?_⟩, ?_⟩
  · rintro rfl
    exact document
  · intro pushes' exact' same
    have document' := document_jsonText (nodup_columns pushes') exact'
    rw [same] at document'
    exact eq_of_content_eq exact' exact (document'.unique document)

/-- A quote, a reverse solidus, a control character and a character beyond the first plane come back, and a
    column pushed again stays in its place. -/
theorem jsonText_lossless_pushed_again :
    let pushes : List (String × Scalar) := [("a\"\\", .text "\x01\n😀"), ("n", .int 5), ("", .null),
      ("n", .int (-9223372036854775808))]
    let told : Json.Content := .object [("a\"\\", .string "\x01\n😀"),
      ("n", .number (-9223372036854775808)), ("", .null)]
    (ofList pushes).IsExact ∧
      (∀ reader : Json.Reader, reader.read (ofList pushes).jsonText.toList = some told) ∧
      (∀ v, Json.Document v (ofList pushes).jsonText.toList ↔ v = told) ∧
      ∀ pushes', (ofList pushes').IsExact → (ofList pushes').jsonText = (ofList pushes).jsonText →
        ofList pushes' = ofList pushes := by
  intro pushes told
  have exact : (ofList pushes).IsExact := by decide
  have content : (ofList pushes).content = told := by
    have cells : ofList pushes = ⟨[("a\"\\", .text "\x01\n😀"), ("n", .int (-9223372036854775808)),
      ("", .null)]⟩ := by decide
    rw [cells]
    simp [Row.content, Scalar.content, told]
  exact ⟨exact, content ▸ jsonText_lossless exact⟩

end Row

end Dataset
