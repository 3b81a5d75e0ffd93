import Dataset.Number.Literal
import Dataset.Number.Notation
import Dataset.Row
import Dataset.Text.Utf8

/-!
# Cells and affinities

A cell holds one of five classes of values. A column has an affinity, which converts what is stored
in it and what it is compared with.

* `Affinity.ofDeclared` reads the affinity off a declared type;
* `Affinity.store` is the conversion of a value on its way into a column, `Affinity.bound` that of a
  text on its way to a comparison with the column;
* `Cell.cmp` is the order of the values: numbers before texts before blobs;
* `Cell.scalar` is the cell as it is shown in a row.
-/

namespace Dataset.Store

open Number (Double Numeric number?)

/-! ## 1. Cells -/

/-- A value as the store holds it. -/
inductive Cell where
  | null
  | int (n : Int)
  | real (r : Double)
  | text (s : String)
  | blob (bytes : List UInt8)
  deriving DecidableEq, Repr

namespace Cell

/-- A number as a cell. -/
def ofNumeric : Numeric → Cell
  | .int n => int n
  | .real r => real r

/-- A value that may be missing. -/
def ofText? : Option String → Cell
  | some s => text s
  | none => null

/-- No value. -/
def isNull : Cell → Bool
  | null => true
  | _ => false

/-- The classes in the order of their values. -/
def rank : Cell → Nat
  | null => 0
  | int _ => 1
  | real _ => 1
  | text _ => 2
  | blob _ => 3

/-- The order of the values; numbers compare exactly, texts and blobs by their bytes. -/
def cmp : Cell → Cell → Ordering
  | int a, int b => compare a b
  | int a, real b => Double.cmpInt a b
  | real a, int b => (Double.cmpInt b a).swap
  | real a, real b => Double.cmp a b
  | text a, text b => compare a b
  | blob a, blob b => compare a b
  | a, b => compare a.rank b.rank

/-- The cell as a row shows it. -/
def scalar : Cell → Scalar
  | null => .null
  | int n => .int n
  | real r => .real r
  | text s => .text s
  | blob bytes => .text (String.ofList (Text.Utf8.decodeLossy bytes))

end Cell

/-! ## 2. Affinities -/

/-- What a column makes of the values that are stored in it. -/
inductive Affinity where
  | integer
  | text
  | none
  | real
  | numeric
  deriving DecidableEq, Repr

namespace Affinity

/-- One of the words occurs in a declared type. -/
def mentions (declared : List Char) (words : List String) : Bool :=
  words.any fun w => Text.occursIn w.toList declared

/-- The affinity of a column of a declared type; upper and lower case are alike. -/
def ofDeclared (type : String) : Affinity :=
  let t := type.toList.map Char.toUpper
  if mentions t ["INT"] then integer
  else if mentions t ["CHAR", "CLOB", "TEXT"] then text
  else if mentions t ["BLOB"] || t.isEmpty then none
  else if mentions t ["REAL", "FLOA", "DOUB"] then real
  else numeric

/-- Integer and numeric affinity: an integer where the value is one. -/
def storeNumeric : Cell → Cell
  | .text s => ((number? s.toList).map Cell.ofNumeric).getD (.text s)
  | .real r => .ofNumeric (.ofReal r)
  | c => c

/-- A number as a real number; a zero has no sign. -/
def asReal : Numeric → Cell
  | .int n => .real (Double.ofInt n)
  | .real r => .real r

/-- Real affinity: every number is a real number. -/
def storeReal : Cell → Cell
  | .text s => ((number? s.toList).map asReal).getD (.text s)
  | .real r => asReal (.ofReal r)
  | .int n => asReal (.int n)
  | c => c

/-- Text affinity: every number is the text that shows it. -/
def storeText : Cell → Cell
  | .int n => .text (Text.ofInt n)
  | .real r => .text (Number.storeText r)
  | c => c

/-- A value on its way into a column. -/
def store : Affinity → Cell → Cell
  | integer, c => storeNumeric c
  | numeric, c => storeNumeric c
  | real, c => storeReal c
  | text, c => storeText c
  | none, c => c

/-- A text on its way to a comparison with a column: a number if the column holds numbers. -/
def bound : Affinity → String → Cell
  | text, s => .text s
  | none, s => .text s
  | _, s => storeNumeric (.text s)

end Affinity

end Dataset.Store
