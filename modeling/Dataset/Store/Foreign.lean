import Dataset.Store.Basic

/-!
# Tables made elsewhere

A table of the store need not be a dataset table: its columns may be of any declared type, or generated
from others, and its cells of any class. `createTyped` makes such a table, `insertValues` gives it a
record.
-/

namespace Dataset.Store

/-- The declaration of a column that holds the number of its record. -/
def keyDeclaration : String := "INTEGER PRIMARY KEY"

/-- The same for a table that is numbered automatically. -/
def automaticDeclaration : String := keyDeclaration ++ " AUTOINCREMENT"

/-- What stands between a declared type and the name that a column is generated from. -/
def generatedMark : List Char := " AS (`".toList

/-- A declared type, and the name in backticks behind it that a column is generated from. -/
def generation? (type : String) : Option (String × String) := go [] type.toList
where
  /-- `before` is what was read of the type, the last character first. -/
  go (before : List Char) : List Char → Option (String × String)
    | [] => none
    | c :: rest =>
      if generatedMark.isPrefixOf (c :: rest) then
        let name := (rest.drop (generatedMark.length - 1)).takeWhile (· != '`')
        if (rest.drop (generatedMark.length - 1 + name.length)) = ['`', ')'] then
          some (String.ofList before.reverse, String.ofList name)
        else none
      else go (c :: before) rest

/-- What a declared type makes of a column. -/
def ColumnKind.ofDeclared (type : String) : ColumnKind :=
  if Text.sameIgnoringCase type keyDeclaration || Text.sameIgnoringCase type automaticDeclaration
  then .key
  else
    match generation? type with
    | some (type, source) => .generated (.ofDeclared type) source
    | none => .data (.ofDeclared type)

/-- The name that a column is generated from, unless a column that takes values answers to it. -/
def Column.lost? (columns : List Column) (c : Column) : Option String :=
  match c.kind with
  | .generated _ source =>
    if columns.any fun d => !d.isGenerated && d.answersTo source then none else some source
  | _ => none

namespace Database

/-- A table of columns with declared types. -/
def createTyped (d : Database) (table : String) (columns : List (String × String)) :
    Except Fault Database := do
  checkNames [table]
  if isReserved table then .error (.reservedName table)
  else if (d.table? table).isSome then .error (.tableExists table)
  else if columns.isEmpty then .error (.unexpected ")")
  else
    checkNames (columns.map Prod.fst)
    let cs := columns.map fun c => (⟨c.1, .ofDeclared c.2⟩ : Column)
    if 1 < (cs.filter Column.isKey).length then .error (.manyKeys table)
    else
      let automatic := columns.any fun c => Text.sameIgnoringCase c.2 automaticDeclaration
      let t ← Table.make table cs automatic
      match (cs.filterMap (Column.lost? cs)).getLast? with
      | some source => .error (.noSuchColumn source)
      | none => .ok (d.add t)

/-- One more record, of a value in order for each column that takes one. -/
def insertValues (d : Database) (table : String) (values : List Cell) : Except Fault Database := do
  checkNames [table]
  if values.isEmpty then .error (.unexpected ")")
  else
    let t ← d.table table
    if t.columnNames.length ≠ values.length then
      .error (.valueCount table t.columnNames.length values.length)
    else .ok (d.replace table (← t.insert table t.columnNames values))

end Database

/-- Carries out a statement on an open store. -/
def execute (s : Store) (statement : Database → Except Fault Database) : Except Error Store := do
  let d ← s.connect
  let d ← ofStatement (statement d)
  .ok { s with database := d }

end Dataset.Store
