import Dataset.Json.Basic

/-!
# Rows

A row maps column names to scalars, in the order in which the names were first pushed. Its text is a
JSON object with the columns in that order.
-/

namespace Dataset

/-- The value of a cell as it is shown. -/
inductive Scalar where
  | null
  | int (n : Int)
  | real (r : Number.Double)
  | notANumber
  | text (s : String)
  deriving DecidableEq, Repr

namespace Scalar

/-- The scalar in JSON; what is not a finite number is `null`. -/
def jsonText : Scalar → String
  | null => "null"
  | int n => Text.ofInt n
  | real r => Json.realText r
  | notANumber => "null"
  | text s => Json.stringText s

/-- No value. -/
def isNull : Scalar → Bool
  | null => true
  | _ => false

/-- The text, if the scalar is one. -/
def text? : Scalar → Option String
  | text s => some s
  | _ => none

end Scalar

/-- Columns and their scalars. -/
structure Row where
  cells : List (String × Scalar)
  deriving DecidableEq, Repr

namespace Row

/-- No columns. -/
def empty : Row := ⟨[]⟩

/-- Cells with one replaced where its name stands, or appended. -/
def put (column : String) (v : Scalar) : List (String × Scalar) → List (String × Scalar)
  | [] => [(column, v)]
  | c :: rest => if c.1 = column then (column, v) :: rest else c :: put column v rest

/-- Appends a column; a name that is there already takes the new value in its place. -/
def push (r : Row) (column : String) (v : Scalar) : Row := ⟨put column v r.cells⟩

/-- The scalar under a name. -/
def get? (r : Row) (column : String) : Option Scalar := r.cells.lookup column

/-- The names in order. -/
def columns (r : Row) : List String := r.cells.map Prod.fst

/-- The number of columns. -/
def size (r : Row) : Nat := r.cells.length

/-- No columns. -/
def isEmpty (r : Row) : Bool := r.cells.isEmpty

/-- A row of columns pushed in order. -/
def ofList (cells : List (String × Scalar)) : Row :=
  cells.foldl (fun r c => r.push c.1 c.2) empty

/-- The row as a JSON object. -/
def jsonText (r : Row) : String := Json.objectText (r.cells.map fun c => (c.1, c.2.jsonText))

end Row

end Dataset
