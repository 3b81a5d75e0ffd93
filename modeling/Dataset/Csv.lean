import Dataset.Store.Error
import Dataset.Text.Utf8

/-!
# Comma separated values

Bytes are taken apart into records of fields.

* Fields end with a comma, records with a line feed or a carriage return; empty lines are no
  records.
* A field that begins with a quotation mark runs to the next one that is not doubled; a doubled one
  stands for one. What follows up to the end of the field is appended as it stands.
* A mark of byte order at the beginning is passed over.

`records` gives the fields as bytes; `fields?` reads a record as text. `table` takes the first
record as the header.
-/

namespace Dataset.Csv

/-! ## 1. Records of bytes -/

/-- The separator of fields. -/
def comma : UInt8 := 0x2C

/-- The quotation mark. -/
def mark : UInt8 := 0x22

/-- A byte that ends a record. -/
def endsLine (b : UInt8) : Bool := b == 0x0A || b == 0x0D

/-- Where the reader stands. -/
inductive Place where
  | startRecord
  | startField
  | bare
  | quoted
  /-- Behind a quotation mark in a quoted field. -/
  | atMark
  deriving DecidableEq, Repr

/-- The reader: where it stands, the bytes of the field, the fields of the record and the records
    so far, each in reverse. -/
structure Reader where
  place : Place
  field : List UInt8
  fields : List (List UInt8)
  records : List (List (List UInt8))
  deriving Repr

namespace Reader

/-- Nothing read yet. -/
def start : Reader := ⟨.startRecord, [], [], []⟩

/-- One more byte of the field. -/
def push (r : Reader) (b : UInt8) (place : Place) : Reader :=
  { r with place := place, field := b :: r.field }

/-- The end of a field. -/
def endField (r : Reader) : Reader :=
  { r with place := .startField, field := [], fields := r.field.reverse :: r.fields }

/-- The end of a record. -/
def endRecord (r : Reader) : Reader :=
  ⟨.startRecord, [], [], (r.field.reverse :: r.fields).reverse :: r.records⟩

/-- A byte outside quotation marks. -/
def outside (r : Reader) (b : UInt8) : Reader :=
  if b = comma then r.endField else if endsLine b then r.endRecord else r.push b .bare

/-- One byte. -/
def step (r : Reader) (b : UInt8) : Reader :=
  match r.place with
  | .startRecord =>
    if endsLine b then r else if b = mark then { r with place := .quoted } else r.outside b
  | .startField => if b = mark then { r with place := .quoted } else r.outside b
  | .bare => r.outside b
  | .quoted => if b = mark then { r with place := .atMark } else r.push b .quoted
  | .atMark => if b = mark then r.push b .quoted else r.outside b

/-- The records, with one that the end of the input ends. -/
def finish (r : Reader) : List (List (List UInt8)) :=
  match r.place with
  | .startRecord => r.records.reverse
  | _ => r.endRecord.records.reverse

end Reader

/-- The mark of byte order. -/
def byteOrderMark : List UInt8 := [0xEF, 0xBB, 0xBF]

/-- The bytes behind a mark of byte order. -/
def withoutMark (bytes : List UInt8) : List UInt8 :=
  if byteOrderMark.isPrefixOf bytes then bytes.drop byteOrderMark.length else bytes

/-- The records of an input. -/
def records (bytes : List UInt8) : List (List (List UInt8)) :=
  ((withoutMark bytes).foldl Reader.step .start).finish

/-! ## 2. Records of text -/

/-- The text of bytes, if they are UTF-8. -/
def text? (bytes : List UInt8) : Option String := (Text.Utf8.decode? bytes).map String.ofList

/-- The fields of a record, if all are UTF-8. -/
def fields? (record : List (List UInt8)) : Option (List String) := record.mapM text?

/-- The fields of the header; the first that is not UTF-8 is an error. -/
def headerFields (index : Nat) : List (List UInt8) → Except Error (List String)
  | [] => .ok []
  | f :: rest =>
    match text? f with
    | none => .error (.invalidHeader index (Text.Utf8.validLength f))
    | some s => do .ok (s :: (← headerFields (index + 1) rest))

/-- A header and the records below it; a record that is not UTF-8 cannot be read. -/
structure Table where
  header : List String
  rows : List (Option (List String))
  deriving DecidableEq, Repr

/-- An input with its header; an empty input has an empty one. -/
def table (bytes : List UInt8) : Except Error Table :=
  match records bytes with
  | [] => .ok ⟨[], []⟩
  | first :: rest => do .ok ⟨← headerFields 0 first, rest.map fields?⟩

/-! ## 3. Writing -/

/-- A field between quotation marks, its own marks doubled. -/
def writeField (s : String) : List UInt8 :=
  mark :: ((Text.Utf8.encode s.toList).flatMap fun b => if b = mark then [b, b] else [b]) ++ [mark]

/-- A record and the line feed that ends it. -/
def writeRecord (fields : List String) : List UInt8 :=
  (List.intersperse [comma] (fields.map writeField)).flatten ++ [0x0A]

/-- Records one below the other. -/
def write (rows : List (List String)) : List UInt8 := rows.flatMap writeRecord

end Dataset.Csv
