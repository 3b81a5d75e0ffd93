import Dataset.Filter.Predicate
import Dataset.Store.Like
import Dataset.Store.Table

/-!
# Which records meet a predicate

The conditions of a predicate become tests, which are decided from the left and no further than needed.
A column that is set equal to a text is known from there: what it stores for the text stands for the
column in all other tests. Missing values meet nothing but the test that asks for them.

* `Test.decide?` decides a test on the values that stand under names; there is no decision on a pattern
  that is too long;
* `Table.tests` are the tests of a conjunction. The last equality of a column is decided on the column
  itself, and `Table.fixed?` is the value that it gives to the column elsewhere;
* `Table.visits` says which records are looked at, by comparisons with their numbers;
* `Table.select` lists the records of a table that meet a predicate, in the order of their numbers.
  Tests that need no record are decided once, before all others.
-/

namespace Dataset.Store

open Dataset.Filter (Condition Relation Predicate)

/-! ## 1. Comparisons and patterns -/

/-- The order that a relation asks for. -/
def asks : Relation → Ordering
  | .equal => .eq
  | .greater => .gt
  | .less => .lt

/-- A value stands in a relation to another; no value stands in none. -/
def Cell.relates (c : Cell) (relation : Relation) (v : Cell) : Bool :=
  !c.isNull && c.cmp v == asks relation

/-- One of the values matches the pattern. -/
def anyLike? (pattern : String) : List Cell → Option Bool
  | [] => some false
  | c :: rest =>
    match c.like? pattern with
    | none => none
    | some true => some true
    | some false => anyLike? pattern rest

/-- The part of a pattern before its first wildcard. -/
def patternStart (pattern : String) : List Char :=
  pattern.toList.takeWhile fun c => c != '%' && c != '_' && c != '\x00'

/-- A text with its last character replaced by the next. -/
def raised (s : List Char) : List Char :=
  s.dropLast ++ (s.getLast?.map fun c => Char.ofNat (c.toNat + 1)).toList

/-- What a pattern starts with comes before or after all numbers. -/
def startsApart (pattern : String) : Bool :=
  let start := patternStart pattern
  !start.isEmpty && start != ['-'] && (Number.number? start).isNone
    && (Number.number? (raised start)).isNone

/-! ## 2. Tests -/

/-- What a test looks at: what stands under a name, or a value that is known. -/
inductive Operand where
  | column (name : String)
  | known (c : Cell)
  deriving DecidableEq, Repr

namespace Operand

/-- The value, where those under names are given. -/
def value (look : String → Cell) : Operand → Cell
  | column name => look name
  | known c => c

/-- No record is needed for the value. -/
def isKnown : Operand → Bool
  | column _ => false
  | known _ => true

end Operand

/-- A condition with what it looks at. A test for a blank looks for a missing value first. -/
inductive Test where
  | like (o : Operand) (pattern : String)
  | compare (o : Operand) (relation : Relation) (v : Cell)
  | blank (missing compared : Operand)
  | search (os : List Operand) (pattern : String)
  deriving DecidableEq, Repr

namespace Test

/-- All that a test looks at. -/
def operands : Test → List Operand
  | like o _ => [o]
  | compare o _ _ => [o]
  | blank missing compared => [missing, compared]
  | search os _ => os

/-- No record is needed for the decision. -/
def isKnown (x : Test) : Bool := x.operands.all Operand.isKnown

/-- The test holds of the values under names. -/
def decide? (look : String → Cell) : Test → Option Bool
  | like o pattern => (o.value look).like? pattern
  | compare o relation v => some ((o.value look).relates relation v)
  | blank missing compared => some ((missing.value look).isNull || compared.value look == .text "")
  | search os pattern => anyLike? pattern (os.map (Operand.value look))

/-- All of the tests hold. -/
def decideAll? (look : String → Cell) : List Test → Option Bool
  | [] => some true
  | x :: rest =>
    match x.decide? look with
    | none => none
    | some false => some false
    | some true => decideAll? look rest

end Test

namespace Table

/-- The value of a record under a name. -/
def cell (t : Table) (r : Record) (name : String) : Cell :=
  ((t.resolve? name).map (read r)).getD .null

/-- A text on its way to a comparison with a column. -/
def bound (t : Table) (name v : String) : Cell :=
  (((t.resolve? name).map t.affinityOf).getD .none).bound v

/-! ## 3. Known values -/

/-- What a condition sets equal to a text. -/
def equates? (t : Table) : Condition → Option (Reference × String)
  | .compare column .equal v => (t.resolve? column).map (·, v)
  | _ => none

/-- All that conditions set equal to texts. -/
def equalities (t : Table) (conditions : List Condition) : List (Reference × String) :=
  conditions.filterMap t.equates?

/-- The value that conditions fix: what is stored for the text of the last equality. -/
def fixed? (t : Table) (conditions : List Condition) (place : Reference) : Option Cell :=
  ((t.equalities conditions).reverse.lookup place).map fun v => (t.affinityOf place).store (.text v)

/-- What a comparison looks at under a name. -/
def operand (t : Table) (fixed : Reference → Option Cell) (name : String) : Operand :=
  match (t.resolve? name).bind fixed with
  | some c => .known c
  | none => .column name

/-- What a pattern looks at, or a question for a missing value: the record itself, where a column takes
    every value as it is. -/
def shownOperand (t : Table) (fixed : Reference → Option Cell) (name : String) : Operand :=
  t.operand (fun place => if t.affinityOf place = .none then none else fixed place) name

/-- The test of a condition, where some values are fixed. -/
def test (t : Table) (fixed : Reference → Option Cell) : Condition → Test
  | .like column pattern => .like (t.shownOperand fixed column) pattern
  | .compare column relation v => .compare (t.operand fixed column) relation (t.bound column v)
  | .blank column => .blank (t.shownOperand fixed column) (t.operand fixed column)
  | .search columns pattern => .search (columns.map (t.shownOperand fixed)) pattern

/-- A condition is an equality, and none behind it sets the same equal to a text. -/
def fixesLast (t : Table) (c : Condition) (behind : List Condition) : Bool :=
  match t.equates? c with
  | some (place, _) => (t.equalities behind).all (·.1 != place)
  | none => false

/-- The tests of conditions, where some values are fixed. -/
def testsFrom (t : Table) (fixed : Reference → Option Cell) : List Condition → List Test
  | [] => []
  | c :: rest =>
    t.test (if t.fixesLast c rest then fun _ => none else fixed) c :: t.testsFrom fixed rest

/-- The tests of a conjunction. -/
def tests (t : Table) (conditions : List Condition) : List Test :=
  t.testsFrom (t.fixed? conditions) conditions

/-! ## 4. Records that are looked at -/

/-- The text of a comparison of a record's number. -/
def numberText? (t : Table) (relation : Relation) : Condition → Option String
  | .compare column ρ v =>
    if ρ = relation ∧ t.resolve? column = some .number then some v else none
  | _ => none

/-- The first comparison of this kind holds of a number, if there is one. -/
def within (t : Table) (conditions : List Condition) (n : Int) (relation : Relation) : Bool :=
  (conditions.findSome? (t.numberText? relation)).all fun v =>
    (Cell.int n).relates relation (Affinity.integer.bound v)

/-- A pattern that no number of a record can match by its start. -/
def shutsOut (t : Table) : Condition → Bool
  | .like column pattern => t.resolve? column == some .number && startsApart pattern
  | _ => false

/-- A record is looked at: it has the number that the first equality asks for, or is within the first
    bounds. -/
def visits (t : Table) (conditions : List Condition) (r : Record) : Bool :=
  match conditions.findSome? (t.numberText? .equal) with
  | some v => Affinity.integer.bound v == .int r.number
  | none => !conditions.any t.shutsOut && t.within conditions r.number .greater
      && t.within conditions r.number .less

/-- The records among these that pass all tests. -/
def selectFrom (t : Table) (tests : List Test) : List Record → Option (List Record)
  | [] => some []
  | r :: rest =>
    match Test.decideAll? (t.cell r) tests with
    | none => none
    | some true => (t.selectFrom tests rest).map (r :: ·)
    | some false => t.selectFrom tests rest

/-! ## 5. Selections -/

/-- The first of the names that refers to nothing. -/
def unknown? (t : Table) (names : List String) : Option String :=
  names.find? fun n => (t.resolve? n).isNone

/-- The records that meet conditions on what there is; nothing if a pattern is too long. -/
def meeting? (t : Table) (conditions : List Condition) : Option (List Record) :=
  let tests := t.tests conditions
  match Test.decideAll? (fun _ => .null) (tests.filter Test.isKnown) with
  | none => none
  | some false => some []
  | some true => t.selectFrom tests (t.records.filter (t.visits conditions))

/-- The records that meet a predicate. -/
def select (t : Table) (p : Predicate) : Except Fault (List Record) :=
  match t.unknown? p.columns with
  | some name => .error (.noSuchColumn name)
  | none =>
    match t.meeting? p.conditions with
    | some rs => .ok rs
    | none => .error .patternTooComplex

end Table

end Dataset.Store
