import Dataset.Csv
import Dataset.Date
import Dataset.Store.Basic

/-!
# Import

A table of comma separated values becomes rows of the dataset. Its header names the columns; a row
that cannot be read or stored is counted and passed over.

* `keptColumns` are the header's names with their places; blank names and repeated ones are left
  out;
* `normalizeCell` is what is stored for a field;
* `importBytes` does it all. Nothing but the header and the shape of the table can make it fail as a
  whole.
-/

namespace Dataset.Import

/-- The column of dates, which are stored in ISO form. -/
def dateColumn : String := "Date"

/-- The column in which a hyphen marks a missing value. -/
def chargeColumn : String := "FastCharge_KmH"

/-! ## 1. Columns and cells -/

/-- A column of the header: where it stands, and its name. -/
structure Kept where
  index : Nat
  name : String
  deriving DecidableEq, Repr

/-- The columns of a header, from the place `index` on: those that are kept, besides `kept`, and the
    raw text of those that are not. -/
def keptFrom (index : Nat) (kept : List Kept) : List String → List Kept × List (Nat × String)
  | [] => (kept, [])
  | raw :: rest =>
    let name := Text.trim raw
    if name.isEmpty || kept.any (·.name == name) then
      let r := keptFrom (index + 1) kept rest
      (r.1, (index, raw) :: r.2)
    else keptFrom (index + 1) (kept ++ [⟨index, name⟩]) rest

/-- The columns of a header that are kept. -/
def keptColumns (header : List String) : List Kept := (keptFrom 0 [] header).1

/-- The columns of a header that are passed over, with their places. -/
def skippedColumns (header : List String) : List (Nat × String) := (keptFrom 0 [] header).2

/-- What is stored for a field: nothing for a blank one. -/
def normalizeCell (column : String) (raw : Option String) : Option String :=
  match raw with
  | none => none
  | some v =>
    if Text.isBlankText v then none
    else if column = dateColumn then Date.normalize (Text.trim v)
    else if column = chargeColumn && Text.trim v == "-" then none
    else some v

/-- The values of a record under the kept columns. -/
def recordValues (kept : List Kept) (fields : List String) : List (Option String) :=
  kept.map fun k => normalizeCell k.name fields[k.index]?

/-! ## 2. Rows -/

/-- What an import did. -/
structure Summary where
  inserted : Nat
  failed : Nat
  deriving DecidableEq, Repr

/-- What an import did, and what it passed over: columns, and the lines of rows. -/
structure Report where
  summary : Summary
  skippedColumns : List (Nat × String)
  failedLines : List Nat
  deriving DecidableEq, Repr

/-- The line of the first record, if every record takes one. -/
def firstLine : Nat := 2

/-- A record as a row of the dataset. -/
def addRecord (s : Store) (table : String) (kept : List Kept) (record : Option (List String)) :
    Option Store :=
  match record with
  | none => none
  | some fields =>
    (s.insert table (kept.map Kept.name) (recordValues kept fields)).toOption

/-- The records as rows, one after another, from a line on; and the lines of those that failed. -/
def addRecords (table : String) (kept : List Kept) (line : Nat) (s : Store) :
    List (Option (List String)) → Store × List Nat
  | [] => (s, [])
  | r :: rest =>
    match addRecord s table kept r with
    | some s => addRecords table kept (line + 1) s rest
    | none =>
      let done := addRecords table kept (line + 1) s rest
      (done.1, line :: done.2)

/-- Imports an input that could be read. -/
def importTable (s : Store) (table : String) (csv : Csv.Table) :
    Except Store.Error Report × Store :=
  let kept := keptColumns csv.header
  if kept.isEmpty then (.error (.invalidData .noColumns), s)
  else
    match s.ensureTable table (kept.map Kept.name) with
    | (.error e, s) => (.error e, s)
    | (.ok (), s) =>
      let (s, failed) := addRecords table kept firstLine s csv.rows
      (.ok ⟨⟨csv.rows.length - failed.length, failed.length⟩, skippedColumns csv.header, failed⟩, s)

/-- Imports comma separated values into a table, which is created if it is missing. -/
def importBytes (s : Store) (table : String) (bytes : List UInt8) :
    Except Store.Error Report × Store :=
  match Csv.table bytes with
  | .error e => (.error (.csv e), s)
  | .ok csv => importTable s table csv

/-- The wording of a file that is not there. -/
def missingFile : String := "No such file or directory (os error 2)"

/-- Imports a file, of which the content is given if it is there. -/
def importFile (s : Store) (table : String) (content : Option (List UInt8)) :
    Except Store.Error Report × Store :=
  match content with
  | some bytes => importBytes s table bytes
  | none => (.error (.io missingFile), s)

end Dataset.Import
