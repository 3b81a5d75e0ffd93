import Dataset.Filter.Basic
import Dataset.Sql.Identifier

/-!
# Predicates

Filters and a search term become one boolean expression over the columns of a table, in which every
value is a placeholder bound in order.

* `Condition` is one conjunct; `Condition.sql` is its text and `Condition.params` what is bound in
  it;
* `Predicate` is the conjunction, `compile` builds it: the filters in order, then the search.
-/

namespace Dataset.Filter

/-! ## 1. Conditions -/

/-- A comparison with a bound value. -/
inductive Relation where
  | equal
  | greater
  | less
  deriving DecidableEq, Repr

/-- The sign of a comparison. -/
def Relation.sign : Relation → String
  | .equal => "="
  | .greater => ">"
  | .less => "<"

/-- One conjunct of a predicate. The columns of a search are written without quotes. -/
inductive Condition where
  | like (column pattern : String)
  | compare (column : String) (relation : Relation) (value : String)
  | blank (column : String)
  | search (columns : List String) (pattern : String)
  deriving DecidableEq, Repr

/-- A pattern test on the text of a column. -/
def likeText (column : String) : String := column ++ " LIKE ?"

/-- The text of a condition. -/
def Condition.sql : Condition → String
  | .like column _ => likeText (Sql.quote column)
  | .compare column relation _ => Sql.quote column ++ " " ++ relation.sign ++ " ?"
  | .blank column =>
    "(" ++ Sql.quote column ++ " IS NULL OR " ++ Sql.quote column ++ " = '')"
  | .search columns _ => "(" ++ Text.joinWith " OR " (columns.map likeText) ++ ")"

/-- What is bound in a condition, in the order of its placeholders. -/
def Condition.params : Condition → List String
  | .like _ pattern => [pattern]
  | .compare _ _ value => [value]
  | .blank _ => []
  | .search columns pattern => columns.map fun _ => pattern

/-- The columns that a condition asks about. -/
def Condition.columns : Condition → List String
  | .like column _ => [column]
  | .compare column _ _ => [column]
  | .blank column => [column]
  | .search columns _ => columns

/-- The condition that a filter states. -/
def Descriptor.condition (d : Descriptor) : Condition :=
  let v := d.value.getD ""
  match d.operator with
  | .contains => .like d.field ("%" ++ v ++ "%")
  | .startsWith => .like d.field (v ++ "%")
  | .endsWith => .like d.field ("%" ++ v)
  | .equals => .compare d.field .equal v
  | .greaterThan => .compare d.field .greater v
  | .lessThan => .compare d.field .less v
  | .isEmpty => .blank d.field

/-! ## 2. Predicates -/

/-- A conjunction of conditions; the empty one holds of every row. -/
structure Predicate where
  conditions : List Condition
  deriving DecidableEq, Repr

namespace Predicate

/-- The text of the expression. -/
def expression (p : Predicate) : String := Text.joinWith " AND " (p.conditions.map Condition.sql)

/-- The bound values, in the order of the placeholders. -/
def params (p : Predicate) : List String := p.conditions.flatMap Condition.params

/-- The columns that the expression names, from the left. -/
def columns (p : Predicate) : List String := p.conditions.flatMap Condition.columns

/-- No conditions at all. -/
def isEmpty (p : Predicate) : Bool := p.conditions.isEmpty

/-- The clause of a statement; nothing if every row is asked for. -/
def whereClause (p : Predicate) : String := if p.isEmpty then "" else " WHERE " ++ p.expression

/-- How many question marks the expression holds. -/
def placeholderCount (p : Predicate) : Nat := p.expression.toList.count '?'

end Predicate

/-- The condition that a search states; none for a blank term or without columns. -/
def searchConditions (search : Option String) (columns : List String) : List Condition :=
  let term := Text.trim (search.getD "")
  if term.isEmpty || columns.isEmpty then [] else [.search columns ("%" ++ term ++ "%")]

/-- The predicate of filters and an optional search term over some columns. -/
def compile (filters : List Descriptor) (search : Option String) (searchable : List String) :
    Predicate :=
  ⟨filters.map Descriptor.condition ++ searchConditions search searchable⟩

end Dataset.Filter
