import Dataset.Proofs.Sql.Statements
import Dataset.Proofs.Store.Shape

/-!
# The statements behind the operations

Bringing a table to a shape, and adding a row to it, is carrying out statements. Here they are values, so
that what the engine is given can be spoken of.

* `Database.carryOut`, `Database.carryOutAll`: a database after a statement, and after several, up to the
  first that is refused;
* `Database.shaping`: the statements that bring a table to a shape;
* **`Database.ensureTable_eq_carryOutAll`**: nothing else is done to shape a table;
* **`Database.statements_say_names`**: no name changes a statement.
-/

namespace Dataset.Store.Database

open Sql (Statement Token)

/-! ## 1. Carrying out statements -/

/-- The effect of a statement on `d`, with `values` bound in its placeholders. -/
def carryOut (d : Database) (values : List Cell) : Statement → Except Fault Database
  | .create table columns => d.create table columns
  | .addColumn table column => d.addColumn table column
  | .insert table columns => d.insert table columns values

/-- The effect of statements without placeholders on `d`, up to the first that fails. -/
def carryOutAll (d : Database) : List Statement → Except Fault Unit × Database
  | [] => (.ok (), d)
  | st :: rest =>
    match d.carryOut [] st with
    | .error fault => (.error fault, d)
    | .ok d => d.carryOutAll rest

/-- The columns that a table lacks are added by a statement each. -/
theorem addColumns_eq_carryOutAll (known : List String) (table : String) (columns : List String)
    (d : Database) :
    addColumns known table columns d =
      d.carryOutAll ((lacking known columns).map (.addColumn table)) := by
  induction columns generalizing d with
  | nil => rfl
  | cons c columns ih =>
    rw [addColumns]
    by_cases old : c ∈ known
    · have rest : lacking known (c :: columns) = lacking known columns :=
        List.filter_cons_of_neg (by simpa using old)
      rw [if_pos (List.contains_iff_mem.2 old), rest, ih]
    · have first : lacking known (c :: columns) = c :: lacking known columns :=
        List.filter_cons_of_pos (by simpa using old)
      rw [if_neg fun h => old (List.contains_iff_mem.1 h), first, List.map_cons, carryOutAll, carryOut]
      cases d.addColumn table c with
      | error fault => rfl
      | ok d => exact ih d

/-! ## 2. The statements of a shape -/

/-- The data columns that `table` lacks once `d.create` has run; none if `d.create` fails. -/
def missing (d : Database) (table : String) (columns : List String) : List String :=
  match d.create table (dataColumns columns) with
  | .error _ => []
  | .ok made => lacking (made.columns table) (dataColumns columns)

/-- The statements by which `ensureTable` brings `table` to the shape of `columns`. -/
def shaping (d : Database) (table : String) (columns : List String) : List Statement :=
  .create table (dataColumns columns) :: (d.missing table columns).map (.addColumn table)

/-- **A table is brought to a shape by these statements and by nothing else.** -/
theorem ensureTable_eq_carryOutAll (d : Database) (table : String) (columns : List String) :
    d.ensureTable table columns = d.carryOutAll (d.shaping table columns) := by
  rw [ensureTable, shaping, missing, carryOutAll, carryOut]
  cases d.create table (dataColumns columns) with
  | error fault => rfl
  | ok made => exact addColumns_eq_carryOutAll ..

/-- **No name changes a statement.** `ensureTable` carries out the statements of `shaping`, and nothing
    else: one that creates the table with the key and the data columns, and one for each column that is
    added; `insert` carries out one. `Sql.tokens?` reads the text of each of them to its end, with nothing
    left open, as `tokens`: its identifiers are the names that it embeds, character by character and in
    order, and it has a placeholder for each value. A NUL character, where the engine would break the
    reading off, comes into a text only with a name. And no other statement has the same text. -/
theorem statements_say_names (d : Database) (table : String) (columns : List String) :
    d.ensureTable table columns = d.carryOutAll (d.shaping table columns) ∧
    (∀ values, d.insert table columns values = d.carryOut values (.insert table columns)) ∧
    (∃ added : List String, d.shaping table columns =
        .create table (dataColumns columns) :: added.map (.addColumn table) ∧
      added.Sublist (dataColumns columns)) ∧
    (Statement.create table (dataColumns columns)).names =
      table :: "id" :: columns.filter (fun c => !Text.sameIgnoringCase c "id") ∧
    ∀ st ∈ .insert table columns :: d.shaping table columns,
      Sql.tokens? st.text.toList = some st.tokens ∧
      st.tokens.filterMap Token.name? = st.names ∧
      st.tokens.count .placeholder = st.arity ∧
      ('\x00' ∉ st.text.toList ↔ ∀ n ∈ st.names, Sql.breaksOff n = false) ∧
      ∀ other : Statement, other.text = st.text → other = st := by
  have added : (d.missing table columns).Sublist (dataColumns columns) := by
    rw [missing]
    cases d.create table (dataColumns columns) with
    | error fault => exact List.nil_sublist _
    | ok made => exact List.filter_sublist
  refine ⟨ensureTable_eq_carryOutAll .., fun values => rfl, ⟨_, rfl, added⟩, rfl, fun st _ => ?_⟩
  refine ⟨st.tokens?_text, st.names_tokens, st.count_tokens, ?_, fun other same => ?_⟩
  · rw [Statement.nul_mem_text_iff]
    simp
  · exact Statement.text_injective same

end Dataset.Store.Database
