/-!
# Filter operators

The closed set of seven conditions. Each has a human wire form, and those of two words a second
spelling in camel case. Reading is case sensitive.
-/

namespace Dataset.Filter

/-- What a filter asks of a cell. -/
inductive Operator where
  | contains
  | equals
  | startsWith
  | endsWith
  | isEmpty
  | greaterThan
  | lessThan
  deriving DecidableEq, Repr

namespace Operator

/-- All operators, in the order in which they are offered. -/
def all : List Operator :=
  [contains, equals, startsWith, endsWith, isEmpty, greaterThan, lessThan]

/-- The human wire form. -/
def toText : Operator → String
  | contains => "contains"
  | equals => "equals"
  | startsWith => "starts with"
  | endsWith => "ends with"
  | isEmpty => "is empty"
  | greaterThan => "greater than"
  | lessThan => "less than"

/-- The spelling in camel case. -/
def camelCase : Operator → String
  | contains => "contains"
  | equals => "equals"
  | startsWith => "startsWith"
  | endsWith => "endsWith"
  | isEmpty => "isEmpty"
  | greaterThan => "greaterThan"
  | lessThan => "lessThan"

/-- The operator that a text spells, in either form. -/
def ofText? (s : String) : Option Operator :=
  all.find? fun op => s == op.toText || s == op.camelCase

/-- Every operator but `isEmpty` compares with a value. -/
def takesValue : Operator → Bool
  | isEmpty => false
  | _ => true

end Operator

end Dataset.Filter
