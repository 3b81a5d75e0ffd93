import Dataset.Sql.Identifier
import Dataset.Text.Blank

/-!
# Statements

The statements that give the dataset table its shape and its rows. Every name is embedded as a
quoted identifier and every value is a placeholder, so that a statement depends on no value.

* `Statement.text` is the text of a statement;
* `Statement.names` are the names it embeds, in order.
-/

namespace Dataset.Sql

/-- The column that carries the key of every row. -/
def keyColumn : String := "id"

/-- A statement that changes the shape of a table or adds a row. -/
inductive Statement where
  /-- A table with an automatic key and data columns, unless it is there. -/
  | create (table : String) (columns : List String)
  | addColumn (table column : String)
  | insert (table : String) (columns : List String)
  deriving DecidableEq, Repr

namespace Statement

/-- The definition of the key column. -/
def keyDefinition : String := quote keyColumn ++ " INTEGER PRIMARY KEY AUTOINCREMENT"

/-- The definition of a data column: numbers where the text is one, text elsewhere. -/
def dataDefinition (column : String) : String := quote column ++ " NUMERIC"

/-- The text of a statement. -/
def text : Statement → String
  | create table columns =>
    "CREATE TABLE IF NOT EXISTS " ++ quote table ++ " ("
      ++ Text.joinWith ", " (keyDefinition :: columns.map dataDefinition) ++ ")"
  | addColumn table column =>
    "ALTER TABLE " ++ quote table ++ " ADD COLUMN " ++ dataDefinition column
  | insert table columns =>
    "INSERT INTO " ++ quote table ++ " (" ++ Text.joinWith ", " (columns.map quote) ++ ") VALUES ("
      ++ Text.joinWith ", " (columns.map fun _ => "?") ++ ")"

/-- The names that a statement embeds, from the left. -/
def names : Statement → List String
  | create table columns => table :: keyColumn :: columns
  | addColumn table column => [table, column]
  | insert table columns => table :: columns

end Statement

/-! ## Names that break a statement off -/

/-- A statement is read up to its first NUL character; a name that holds one is never closed. -/
def breaksOff (name : String) : Bool := name.toList.contains '\x00'

/-- The name up to its first NUL character, as it stands in the text from its opening quote on. -/
def openPart (name : String) : String :=
  String.ofList (backtick :: doubled (name.toList.takeWhile (· != '\x00')))

/-- The first of the names that breaks the statement off. -/
def brokenName? (names : List String) : Option String := names.find? breaksOff

theorem brokenName?_eq_none {names : List String} :
    brokenName? names = none ↔ ∀ n ∈ names, breaksOff n = false := by
  simp [brokenName?]

theorem brokenName?_append {a b : List String} (ha : brokenName? a = none)
    (hb : brokenName? b = none) : brokenName? (a ++ b) = none := by
  rw [brokenName?_eq_none] at ha hb ⊢
  intro n h
  rcases List.mem_append.1 h with h | h
  · exact ha n h
  · exact hb n h

end Dataset.Sql
