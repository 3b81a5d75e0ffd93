import Dataset.Sql.Statement
import Dataset.Store.Cell
import Dataset.Store.Error

/-!
# Tables

A table has columns whose names differ by more than the case of ASCII letters, and records in the order
of their numbers. A column holds the number of the record itself, as its key, or a cell of its own, or it
is generated: then it shows what another column holds. At least one column is not. No name breaks off the
statement that made the table.

* `Table.insert` adds a record, `Table.addColumn` a column, `Table.remove` takes records away;
* `Table.resolve?` finds what a name refers to, `Table.read` what stands there in a record;
* `Table.columnNames` are the columns that are listed, `Table.shownNames` those that rows show: the
  generated ones are among these only.

A table that is numbered automatically never gives a number twice: `highest` is the largest it ever
had.
-/

namespace Dataset.Store

/-! ## 1. Columns -/

/-- What a column holds. -/
inductive ColumnKind where
  | key
  | data (affinity : Affinity)
  /-- What the column `source` holds. -/
  | generated (affinity : Affinity) (source : String)
  deriving DecidableEq, Repr

/-- A column of a table. -/
structure Column where
  name : String
  kind : ColumnKind
  deriving DecidableEq, Repr

namespace Column

/-- A column that holds numbers where it can, as the data columns of the dataset do. -/
def numeric (name : String) : Column := ⟨name, .data .numeric⟩

/-- The name refers to this column: upper and lower case are alike. -/
def answersTo (c : Column) (name : String) : Bool := Text.sameIgnoringCase c.name name

/-- The column is the key. -/
def isKey (c : Column) : Bool := c.kind == .key

/-- The column is generated: it takes no values. -/
def isGenerated (c : Column) : Bool :=
  match c.kind with
  | .generated _ _ => true
  | _ => false

/-- The affinity of a column; a key holds integers. -/
def affinity (c : Column) : Affinity :=
  match c.kind with
  | .key => .integer
  | .data a => a
  | .generated a _ => a

end Column

/-- Names that differ by more than the case of letters. -/
def Distinct (columns : List Column) : Prop :=
  columns.Pairwise fun a b => a.answersTo b.name = false

/-! ## 2. Records -/

/-- A record: its number, and a cell for each column. The cell of the key column is empty. -/
structure Record where
  number : Int
  cells : List Cell
  deriving DecidableEq, Repr

/-- The record with one more cell, which is empty. -/
def Record.extend (r : Record) : Record := ⟨r.number, r.cells ++ [.null]⟩

/-- A record among others in the order of their numbers. -/
def place (r : Record) : List Record → List Record
  | [] => [r]
  | x :: rest => if r.number < x.number then r :: x :: rest else x :: place r rest

theorem mem_place {r x : Record} {rs : List Record} : x ∈ place r rs ↔ x = r ∨ x ∈ rs := by
  induction rs with
  | nil => simp [place]
  | cons y ys ih =>
    unfold place
    split
    · simp
    · simp only [List.mem_cons, ih]
      exact or_left_comm

theorem sorted_place {r : Record} {rs : List Record}
    (sorted : rs.Pairwise fun a b => a.number < b.number) (fresh : ∀ x ∈ rs, x.number ≠ r.number) :
    (place r rs).Pairwise fun a b => a.number < b.number := by
  induction rs with
  | nil => simp [place]
  | cons y ys ih =>
    obtain ⟨below, sorted⟩ := List.pairwise_cons.1 sorted
    have other := fresh y List.mem_cons_self
    unfold place
    split
    · rename_i less
      refine List.pairwise_cons.2 ⟨fun x hx => ?_, List.pairwise_cons.2 ⟨below, sorted⟩⟩
      rcases List.mem_cons.1 hx with rfl | hx
      · exact less
      · exact Int.lt_trans less (below x hx)
    · refine List.pairwise_cons.2 ⟨fun x hx => ?_, ih sorted fun x hx => fresh x (.tail _ hx)⟩
      rcases mem_place.1 hx with rfl | hx
      · omega
      · exact below x hx

/-! ## 3. Tables -/

/-- A table. -/
structure Table where
  name : String
  columns : List Column
  /-- Numbers of removed records are not given again. -/
  automatic : Bool
  highest : Int
  records : List Record
  inhabited : ∃ c ∈ columns, c.isGenerated = false
  readable : Sql.brokenName? (name :: columns.map Column.name) = none
  distinct : Distinct columns
  sorted : records.Pairwise fun a b => a.number < b.number
  complete : ∀ r ∈ records, r.cells.length = columns.length
  deriving DecidableEq, Repr

/-- Where the value of a name stands. -/
inductive Reference where
  | number
  | cell (index : Nat)
  deriving DecidableEq, Repr

/-- Names of a record's number that every table answers to unless a column has them. -/
def numberNames : List String := ["rowid", "_rowid_", "oid"]

/-- The most columns that a table may have. -/
def maxColumns : Nat := 2000

namespace Table

/-- The name refers to this table: upper and lower case are alike. -/
def answersTo (t : Table) (name : String) : Bool := Text.sameIgnoringCase t.name name

/-- The names of the columns that take values. -/
def columnNames (t : Table) : List String :=
  (t.columns.filter fun c => !c.isGenerated).map Column.name

/-- The names of all columns. -/
def shownNames (t : Table) : List String := t.columns.map Column.name

/-- The place of the column that answers to a name. -/
def indexOf? (t : Table) (name : String) : Option Nat := t.columns.findIdx? (·.answersTo name)

/-- What a name refers to. -/
def resolve? (t : Table) (name : String) : Option Reference :=
  match t.indexOf? name with
  | some i =>
    match t.columns[i]? with
    | some c => some (if c.isKey then .number else .cell i)
    | none => none
  | none => if numberNames.any (Text.sameIgnoringCase name) then some .number else none

/-- The affinity of what a name refers to. -/
def affinityOf (t : Table) : Reference → Affinity
  | .number => .integer
  | .cell i => (t.columns[i]?.map Column.affinity).getD .none

/-- The value of a record under a reference. -/
def read (r : Record) : Reference → Cell
  | .number => .int r.number
  | .cell i => r.cells[i]?.getD .null

/-- The values of a record under all columns. -/
def values (t : Table) (r : Record) : List Cell :=
  (t.columns.zip r.cells).map fun p => if p.1.isKey then .int r.number else p.2

/-- A record as a row. -/
def row (t : Table) (r : Record) : Row :=
  Row.ofList ((t.shownNames.zip (t.values r)).map fun p => (p.1, p.2.scalar))

/-! ## 4. Shape -/

/-- The first column whose name one of `earlier` or of the columns before it answers to. -/
def repeated? (earlier : List Column) : List Column → Option Column
  | [] => none
  | c :: rest =>
    if earlier.any (·.answersTo c.name) then some c else repeated? (earlier ++ [c]) rest

theorem distinct_of_repeated {earlier rest : List Column} (start : Distinct earlier)
    (none : repeated? earlier rest = none) : Distinct (earlier ++ rest) := by
  induction rest generalizing earlier with
  | nil => simpa using start
  | cons c rest ih =>
    unfold repeated? at none
    split at none
    · cases none
    · rename_i fresh
      have step : Distinct (earlier ++ [c]) := by
        refine List.pairwise_append.2 ⟨start, List.pairwise_singleton _ _, fun a ha b hb => ?_⟩
        obtain rfl := List.mem_singleton.1 hb
        simpa using fun h => fresh (List.any_eq_true.2 ⟨a, ha, h⟩)
      simpa using ih step none

/-- A table without records. -/
def make (name : String) (columns : List Column) (automatic : Bool) : Except Fault Table :=
  match readable : Sql.brokenName? (name :: columns.map Column.name) with
  | some n => .error (.unrecognizedToken (Sql.openPart n))
  | none =>
    if columns = [] then .error (.unexpected ")")
    else if maxColumns < columns.length then
      match repeated? [] (columns.take maxColumns) with
      | some c => .error (.duplicateColumn c.name)
      | none => .error (.tooManyColumns name)
    else
      match h : repeated? [] columns with
      | some c => .error (.duplicateColumn c.name)
      | none =>
        if inhabited : ∃ c ∈ columns, c.isGenerated = false then
          .ok ⟨name, columns, automatic, 0, [], inhabited, readable, by
            exact distinct_of_repeated List.Pairwise.nil h, .nil, by simp⟩
        else .error .onlyGenerated

/-- What a table is called while a column is added to it. -/
def alteredName (t : Table) : String := "sqlite_altertab_" ++ t.name

/-- The table with one more column, which is empty in all records. -/
def addColumn (t : Table) (column : Column) : Except Fault Table :=
  match readable : Sql.brokenName? [column.name] with
  | some n => .error (.unrecognizedToken (Sql.openPart n))
  | none =>
    if maxColumns < t.columns.length + 1 then .error (.tooManyColumns t.alteredName)
    else
      match h : repeated? t.columns [column] with
      | some c => .error (.duplicateColumn c.name)
      | none =>
        .ok { t with
          columns := t.columns ++ [column]
          records := t.records.map Record.extend
          inhabited := by
            obtain ⟨c, hc, taking⟩ := t.inhabited
            exact ⟨c, List.mem_append_left _ hc, taking⟩
          readable := by
            simpa using Sql.brokenName?_append t.readable readable
          distinct := distinct_of_repeated t.distinct h
          sorted := List.pairwise_map.2 t.sorted
          complete := by
            intro r hr
            obtain ⟨x, hx, rfl⟩ := List.mem_map.1 hr
            simp [Record.extend, t.complete x hx] }

/-! ## 5. Records -/

/-- The generated column that stands at a place, if there is one. -/
def generated? (t : Table) : Reference → Option Column
  | .number => none
  | .cell i => t.columns[i]?.filter Column.isGenerated

/-- What each of the named columns refers to; none of them may be generated. -/
def resolveAll (t : Table) (written : String) : List String → Except Fault (List Reference)
  | [] => .ok []
  | name :: rest =>
    match t.resolve? name with
    | none => .error (.noColumnNamed written name)
    | some r =>
      match t.generated? r with
      | some c => .error (.generatedColumn c.name)
      | none => do .ok (r :: (← t.resolveAll written rest))

/-- The value given for a record's number; of several the last. -/
def givenNumber (values : List (Reference × Cell)) : Cell :=
  ((values.filter (·.1 == .number)).getLast?.map Prod.snd).getD .null

/-- The value given for a cell, converted; of several the first. -/
def givenCell (values : List (Reference × Cell)) (i : Nat) (c : Column) : Cell :=
  if c.isKey then .null else c.affinity.store ((values.lookup (.cell i)).getD .null)

/-- What is given for the place of a name; for the number, the number of the record. -/
def givenUnder (t : Table) (number : Int) (values : List (Reference × Cell)) (name : String) : Cell :=
  match t.resolve? name with
  | some .number => .int number
  | some (.cell i) => (t.columns[i]?.map (givenCell values i)).getD .null
  | none => .null

/-- The cell of a new record in a column: what is given for it, or for what it is generated from. -/
def newCell (t : Table) (number : Int) (values : List (Reference × Cell)) (i : Nat) (c : Column) :
    Cell :=
  match c.kind with
  | .generated a source => a.store (t.givenUnder number values source)
  | _ => givenCell values i c

/-- The cells of a new record. -/
def newCells (t : Table) (number : Int) (values : List (Reference × Cell)) : List Cell :=
  t.columns.mapIdx (t.newCell number values)

/-- The number of the last record. -/
def lastNumber? (t : Table) : Option Int := t.records.getLast?.map Record.number

/-- The number that a record gets which brings none. -/
def nextNumber (t : Table) : Except Fault Int :=
  let last := t.lastNumber?.getD 0
  if t.automatic then
    if Number.maxInt64 ≤ max last t.highest then .error .full
    else .ok (max (t.lastNumber?.map (· + 1) |>.getD 1) (t.highest + 1))
  else if Number.maxInt64 ≤ last then .error .full
  else .ok (t.lastNumber?.map (· + 1) |>.getD 1)

/-- The number of a new record. -/
def chooseNumber (t : Table) (given : Cell) : Except Fault Int :=
  match Affinity.storeNumeric given with
  | .null => t.nextNumber
  | .int n => .ok n
  | _ => .error .mismatch

/-- The fault of a number that is taken. -/
def taken (t : Table) : Fault :=
  match t.columns.find? Column.isKey with
  | some c => .keyTaken t.name c.name
  | none => .rowTaken t.name

/-- The table with one more record. -/
def append (t : Table) (number : Int) (cells : List Cell)
    (wide : cells.length = t.columns.length) : Except Fault Table :=
  if fresh : ∀ x ∈ t.records, x.number ≠ number then
    .ok { t with
      highest := max t.highest number
      records := place ⟨number, cells⟩ t.records
      sorted := sorted_place t.sorted fresh
      complete := by
        intro r hr
        rcases mem_place.1 hr with rfl | hr
        · exact wide
        · exact t.complete r hr }
  else .error t.taken

/-- The table with a record of values under the named columns; `written` is what the table is called
    in the statement. -/
def insert (t : Table) (written : String) (columns : List String) (values : List Cell) :
    Except Fault Table := do
  let references ← t.resolveAll written columns
  let given := references.zip values
  let number ← t.chooseNumber (givenNumber given)
  t.append number (t.newCells number given) (by simp [newCells])

/-- The table without the records that pass the test. -/
def remove (t : Table) (test : Record → Bool) : Table :=
  { t with
    records := t.records.filter fun r => !test r
    sorted := t.sorted.filter _
    complete := fun r hr => t.complete r (List.mem_filter.1 hr).1 }

end Table

end Dataset.Store
