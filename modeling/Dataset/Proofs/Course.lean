import Dataset.Gateway
import Dataset.Proofs.Import.Header
import Dataset.Proofs.Store.Change
import Mathlib.Data.List.ReduceOption

/-!
# Courses of operations

Tables are shaped, rows are added and removed, whole inputs are imported, and a store that is kept in a
file is opened again. An import is a course of changes too: one of the shape, and one for each data
record that can be read.

* `Operation`, `run`: an operation, and what a course of them makes of a store;
* `Operation.changes`, `changesOf`: the changes that they consist of;
* **`run_eq_after`**: operations do what these changes do;
* **`sound_run`**: so a store that was reached from one without tables is sound.
-/

namespace Dataset

open Import (Kept keptColumns recordValues)

namespace Store

/-! ## 1. Operations -/

/-- One operation on the dataset. -/
inductive Operation where
  | change (c : Change)
  | load (table : String) (bytes : List UInt8)

/-- The store after one operation, whether it succeeds or fails. -/
def Operation.apply (s : Store) : Operation → Store
  | .change c => c.apply s
  | .load table bytes => (Import.importBytes s table bytes).2

/-- The store after `operations`, one after the other. -/
def run (s : Store) (operations : List Operation) : Store := operations.foldl Operation.apply s

/-! ## 2. The changes of an import -/

/-- The rows that the data records of an import bring, where these can be read. -/
def rowChanges (table : String) (kept : List Kept) (rows : List (Option (List String))) :
    List Change :=
  rows.reduceOption.map fun fields => .insert table (kept.map Kept.name) (recordValues kept fields)

/-- The changes of an import: it shapes the table and, if that succeeds, adds rows. -/
def tableChanges (s : Store) (table : String) (csv : Csv.Table) : List Change :=
  let kept := keptColumns csv.header
  let columns := kept.map Kept.name
  if kept.isEmpty then []
  else .shape table columns ::
    match (s.ensureTable table columns).1 with
    | .ok () => rowChanges table kept csv.rows
    | .error _ => []

/-- The changes that an operation consists of. -/
def Operation.changes (s : Store) : Operation → List Change
  | .change c => [c]
  | .load table bytes =>
    match Csv.table bytes with
    | .ok csv => s.tableChanges table csv
    | .error _ => []

/-- The changes that a course of operations consists of. -/
def changesOf (s : Store) : List Operation → List Change
  | [] => []
  | o :: rest => o.changes s ++ (o.apply s).changesOf rest

/-- Data records are put one after another into the store. -/
theorem addRecords_eq_after (table : String) (kept : List Kept) (line : Nat) (s : Store)
    (rows : List (Option (List String))) :
    (Import.addRecords table kept line s rows).1 = s.after (rowChanges table kept rows) := by
  induction rows generalizing s line with
  | nil => rfl
  | cons row rows ih =>
    rw [Import.addRecords]
    cases row with
    | none => exact ih (line + 1) s
    | some fields =>
      have step : s.after (rowChanges table kept (some fields :: rows)) =
          (Change.apply s (.insert table (kept.map Kept.name) (recordValues kept fields))).after
            (rowChanges table kept rows) := by
        rw [rowChanges, List.reduceOption_cons_of_some]
        rfl
      rw [step, Change.apply, Import.addRecord]
      cases s.insert table (kept.map Kept.name) (recordValues kept fields) with
      | error e => exact ih (line + 1) s
      | ok s' => exact ih (line + 1) s'

theorem importTable_eq_after (s : Store) (table : String) (csv : Csv.Table) :
    (Import.importTable s table csv).2 = s.after (s.tableChanges table csv) := by
  rw [Import.importTable, tableChanges]
  split_ifs with unnamed
  · rfl
  · let columns := (keptColumns csv.header).map Kept.name
    have shape : Change.apply s (.shape table columns) = (s.ensureTable table columns).2 := rfl
    rw [after, List.foldl_cons, shape]
    rcases s.ensureTable table columns with ⟨e | _, s'⟩
    · rfl
    · exact addRecords_eq_after table (keptColumns csv.header) Import.firstLine s' csv.rows

/-- An operation does what its changes do. -/
theorem Operation.apply_eq_after (s : Store) (o : Operation) : o.apply s = s.after (o.changes s) := by
  cases o with
  | change c => rfl
  | load table bytes =>
    rw [apply, changes, Import.importBytes]
    cases Csv.table bytes with
    | error e => rfl
    | ok csv => exact importTable_eq_after s table csv

/-- **A course of operations does what its changes do.** -/
theorem run_eq_after (s : Store) (operations : List Operation) :
    s.run operations = s.after (s.changesOf operations) := by
  induction operations generalizing s with
  | nil => rfl
  | cons o rest ih =>
    have step : s.run (o :: rest) = (o.apply s).run rest := rfl
    rw [step, ih, changesOf, after_append, ← o.apply_eq_after]

/-! ## 3. Stores that are reached -/

/-- Operations keep a store sound. -/
theorem Sound.run {s : Store} (k : s.Sound) (operations : List Operation) :
    (s.run operations).Sound := by
  rw [run_eq_after]
  exact sound_after k _

/-- **A store that was reached from one without tables is open, and its tables are sound.** -/
theorem sound_run (operations : List Operation) : (fresh.run operations).Sound :=
  sound_fresh.run operations

end Store

end Dataset
