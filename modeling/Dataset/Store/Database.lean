import Dataset.Sql.Statement
import Dataset.Store.Table

/-!
# Databases

A database is a list of tables with different names. Statements are carried out on it: `create`,
`addColumn` and `insert` either give the new database or say why they are refused. `ensureTable`
is a row of statements, and those before the first refused one stay done.
-/

namespace Dataset.Store

/-- The tables of a file, or of memory. -/
structure Database where
  tables : List Table
  deriving DecidableEq, Repr

namespace Database

/-- No tables. -/
def empty : Database := ⟨[]⟩

/-- The table of a name. -/
def table? (d : Database) (name : String) : Option Table := d.tables.find? (·.answersTo name)

/-- The table of a name, which has to be there. -/
def table (d : Database) (name : String) : Except Fault Table :=
  match d.table? name with
  | some t => .ok t
  | none => .error (.noSuchTable name)

/-- One more table. -/
def add (d : Database) (t : Table) : Database := ⟨d.tables ++ [t]⟩

/-- Tables with the first of a name replaced. -/
def replaceFirst (name : String) (t : Table) : List Table → List Table
  | [] => []
  | x :: rest => if x.answersTo name then t :: rest else x :: replaceFirst name t rest

/-- The database with the table of a name replaced. -/
def replace (d : Database) (name : String) (t : Table) : Database :=
  ⟨replaceFirst name t d.tables⟩

/-- The columns of a table; none if there is no such table. -/
def columns (d : Database) (table : String) : List String :=
  ((d.table? table).map Table.columnNames).getD []

/-! ## 1. Statements -/

/-- Names that start so belong to the engine. -/
def reservedStart : String := "sqlite_"

/-- The name belongs to the engine. -/
def isReserved (name : String) : Bool :=
  (reservedStart.toList.map Char.toLower).isPrefixOf (name.toList.map Char.toLower)

/-- Refuses names that break a statement off. -/
def checkNames (names : List String) : Except Fault Unit :=
  match Sql.brokenName? names with
  | some name => .error (.unrecognizedToken (Sql.openPart name))
  | none => .ok ()

/-- The columns of a dataset table: its key, and data. -/
def datasetColumns (columns : List String) : List Column :=
  ⟨Sql.keyColumn, .key⟩ :: columns.map Column.numeric

/-- A dataset table, unless there is a table of its name. Names are looked at from the left, up to
    one that breaks the statement off. -/
def create (d : Database) (table : String) (columns : List String) : Except Fault Database := do
  checkNames [table]
  if isReserved table then .error (.reservedName table)
  else if (d.table? table).isSome then
    checkNames columns
    .ok d
  else
    let readable := columns.takeWhile fun c => !Sql.breaksOff c
    let t ← Table.make table (datasetColumns readable) true
    checkNames columns
    .ok (d.add t)

/-- A table with one more column. -/
def addColumn (d : Database) (table column : String) : Except Fault Database := do
  checkNames [table, column]
  let t ← d.table table
  .ok (d.replace table (← t.addColumn (.numeric column)))

/-- A table with one more record. -/
def insert (d : Database) (table : String) (columns : List String) (values : List Cell) :
    Except Fault Database := do
  checkNames (table :: columns)
  if columns.isEmpty then .error (.unexpected ")")
  else
    let t ← d.table table
    .ok (d.replace table (← t.insert table columns values))

/-! ## 2. The shape of the dataset -/

/-- Adds the columns that are not among those known from before; stops at the first refusal. -/
def addColumns (known : List String) (table : String) :
    List String → Database → Except Fault Unit × Database
  | [], d => (.ok (), d)
  | c :: rest, d =>
    if known.contains c then addColumns known table rest d
    else
      match d.addColumn table c with
      | .error fault => (.error fault, d)
      | .ok d => addColumns known table rest d

/-- The columns that hold data: those not called as the key. -/
def dataColumns (columns : List String) : List String :=
  columns.filter fun c => !Text.sameIgnoringCase c Sql.keyColumn

/-- Creates the dataset table if it is missing, and adds the columns that it lacks. -/
def ensureTable (d : Database) (table : String) (columns : List String) :
    Except Fault Unit × Database :=
  match d.create table (dataColumns columns) with
  | .error fault => (.error fault, d)
  | .ok made => addColumns (made.columns table) table (dataColumns columns) made

end Database

end Dataset.Store
