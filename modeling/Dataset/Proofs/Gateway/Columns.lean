import Dataset.Proofs.Gateway.Agreement
import Dataset.Proofs.Store.Rows

/-!
# The columns of the rows

Filters are checked against the columns that the store gives for a table. Every row of the table has these
columns, and besides them only the generated ones, which are not given.

* `Shows`: a row shows the values of a record under all columns of its table, one for one, of which some
  are listed;
* `shows_of_list`, `shows_of_get`: so does every row that is given;
* `list_filter_error_iff`: readable filters are refused exactly for the first field that is not listed;
* **`columns_agree`**: both hold of the columns that the store gives;
* `generated_column_unlisted`: so a row can have more columns than are given.
-/

namespace Dataset.Gateway

open Dataset.Filter (Descriptor)
open Store (Cell Table Record)

variable {s : Store} {table : String} {t : Table}

/-- The columns of `row` are those of `t` in order, and its cells those of a record of `t`. Without the
    `generatedNames` its columns are `names`, which are all of them if no column is generated. -/
structure Shows (t : Table) (names : List String) (row : Row) : Prop where
  columns : row.columns = t.shownNames
  listed : row.columns.filter (· ∉ t.generatedNames) = names
  plain : t.generatedNames = [] → row.columns = names
  values : ∃ r ∈ t.records, row.cells.map Prod.snd = (t.values r).map Cell.scalar

/-- The columns that are listed are those that rows show, without the generated ones. -/
theorem filter_shownNames (t : Table) :
    t.shownNames.filter (· ∉ t.generatedNames) = t.columnNames := by
  rw [Table.shownNames, List.filter_map, Table.columnNames]
  refine congrArg _ (List.filter_congr fun c hc => ?_)
  cases generated : c.isGenerated with
  | true =>
    have among : c.name ∈ t.generatedNames := List.mem_map_of_mem (List.mem_filter.2 ⟨hc, generated⟩)
    simpa using among
  | false =>
    have live : c.name ∈ t.columnNames := Table.mem_columnNames_iff.2 ⟨c, hc, generated, rfl⟩
    have other : c.name ∉ t.generatedNames := by
      intro both
      have unlike := Store.Database.unlike_generated live both
      rw [Store.sameIgnoringCase_refl] at unlike
      cases unlike
    simpa using other

/-- The row of a record shows its values under the columns of the table. -/
theorem shows_row {r : Record} (among : r ∈ t.records) : Shows t t.columnNames (t.row r) where
  columns := Table.columns_row (t.complete r among)
  listed := by rw [Table.columns_row (t.complete r among), filter_shownNames]
  plain none_generated := by
    rw [Table.columns_row (t.complete r among), ← filter_shownNames, none_generated]
    simp
  values := ⟨r, among, Table.scalars_row (t.complete r among)⟩

theorem shows_of_list (isOpen : s.isOpen = true) (present : s.database.table? table = some t)
    {filters search : Option String} {rows : List Row}
    (listed : list s table filters search = .ok rows) : ∀ row ∈ rows, Shows t t.columnNames row := by
  intro row given
  obtain ⟨r, among, rfl⟩ := record_of_list isOpen present listed row given
  exact shows_row among

theorem shows_of_get (isOpen : s.isOpen = true) (present : s.database.table? table = some t)
    {id : String} {row : Row} (given : get s table id = .ok row) : Shows t t.columnNames row := by
  obtain ⟨r, among, rfl⟩ := record_of_get isOpen present given
  exact shows_row among

/-- Readable filters are refused exactly for the first field that is no listed column of the table. -/
theorem list_filter_error_iff (isOpen : s.isOpen = true) (present : s.database.table? table = some t)
    {filters : Option String} {ds : List Descriptor}
    (parsed : Filter.parse (filters.getD "") = .ok ds) (search : Option String) (e : Filter.Error) :
    list s table filters search = .error (.filter e) ↔
      ∃ field, (ds.map Descriptor.field).find? (· ∉ t.columnNames) = some field ∧
        e = .invalid field .unknownColumn := by
  cases first : (ds.map Descriptor.field).find? (· ∉ t.columnNames) with
  | some field =>
    rw [list_of_first_unknown isOpen present parsed first search]
    constructor
    · rintro ⟨⟩
      exact ⟨field, rfl, rfl⟩
    · rintro ⟨_, ⟨⟩, rfl⟩
      rfl
  | none =>
    refine ⟨fun refused => ?_, nofun⟩
    rcases list_cases isOpen present parsed (find?_unknown_eq_none.1 first) search with
      ⟨failed, -⟩ | ⟨listed, -⟩
    · cases failed.symm.trans refused
    · cases listed.symm.trans refused

/-- **`Store.columns` gives the columns that rows have, without the generated ones.** Every row that `list`
    or `get` gives `Shows` a record under all columns of the table, of which those that are not generated
    are the `names`, in this order. `list` answers `invalid` with `unknownColumn` exactly if some field of
    the filters is none of `names`, character for character, and then tells the first such field. -/
theorem columns_agree (isOpen : s.isOpen = true) (present : s.database.table? table = some t) :
    ∃ names, s.columns table = .ok names ∧
      (∀ filters search rows, list s table filters search = .ok rows →
        ∀ row ∈ rows, Shows t names row) ∧
      (∀ id row, get s table id = .ok row → Shows t names row) ∧
      ∀ (filters search : Option String) (ds : List Descriptor),
        Filter.parse (filters.getD "") = .ok ds → ∀ e : Filter.Error,
          (list s table filters search = .error (.filter e) ↔
            ∃ field, (ds.map Descriptor.field).find? (· ∉ names) = some field ∧
              e = .invalid field .unknownColumn) :=
  ⟨t.columnNames, Store.columns_of_table? isOpen present,
    fun _ _ _ listed => shows_of_list isOpen present listed,
    fun _ _ given => shows_of_get isOpen present given,
    fun _ search _ parsed => list_filter_error_iff isOpen present parsed search⟩

/-- A table made elsewhere: its key column holds values of any class, and a column between the others is
    generated. -/
def yard : Table :=
  ⟨"Yard", [⟨"Größe", .data .text⟩, ⟨"Maß", .generated .text "Größe"⟩, ⟨"id", .data .none⟩], false, 2,
    [⟨1, [.null, .null, .blob [0xff]]⟩, ⟨2, [.text "4", .text "4", .text "7"]⟩], by decide, by decide,
    by unfold Store.Distinct; decide, by decide, by decide⟩

/-- A field is named as it is written: a small letter in the place of a large one makes it unknown. Under the
    name of the table in other letters, the rows have its columns. -/
theorem columns_agree_yard :
    let s := Store.ofDatabase ⟨[yard]⟩
    let filters := "[[\"id\",\"equals\",\"7\"],[\"größe\",\"contains\",\"4\"],[\"x\",\"equals\",\"4\"]]"
    s.isOpen = true ∧ s.database.table? "YARD" = some yard ∧ s.columns "YARD" = .ok ["Größe", "id"] ∧
      (∃ row, get s "YARD" "7" = .ok row ∧
        row.cells = [("Größe", .text "4"), ("Maß", .text "4"), ("id", .text "7")] ∧
        Shows yard ["Größe", "id"] row) ∧
      list s "YARD" (some filters) none = .error (.filter (.invalid "größe" .unknownColumn)) := by
  intro s filters
  have isOpen : s.isOpen = true := rfl
  have present : s.database.table? "YARD" = some yard := by decide
  have columns : s.columns "YARD" = .ok ["Größe", "id"] := by decide
  let ds : List Descriptor := [⟨"id", .equals, some "7", by decide, by decide⟩,
    ⟨"größe", .contains, some "4", by decide, by decide⟩, ⟨"x", .equals, some "4", by decide, by decide⟩]
  have parsed : Filter.parse ((some filters).getD "") = .ok ds := eq_ok_of_toOption (by decide +kernel)
  have given : get s "YARD" "7" = .ok ⟨[("Größe", .text "4"), ("Maß", .text "4"), ("id", .text "7")]⟩ :=
    eq_ok_of_toOption (by decide +kernel)
  obtain ⟨names, found, -, shows, refused⟩ := columns_agree isOpen present
  obtain rfl : ["Größe", "id"] = names := Except.ok.inj (columns.symm.trans found)
  exact ⟨isOpen, present, columns, ⟨_, given, rfl, shows _ _ given⟩,
    (refused (some filters) none ds parsed _).2 ⟨"größe", by decide, rfl⟩⟩

/-- A generated column is in every row, and not among the columns that are given. -/
theorem generated_column_unlisted :
    ¬ ∀ (s : Store) (table : String) (t : Table) (names : List String) (rows : List Row),
      s.isOpen = true → s.database.table? table = some t → s.columns table = .ok names →
      list s table none none = .ok rows → ∀ row ∈ rows, row.columns = names := by
  intro claimed
  let s := Store.ofDatabase ⟨[yard]⟩
  have present : s.database.table? "Yard" = some yard := by decide
  have columns : s.columns "Yard" = .ok ["Größe", "id"] := by decide
  have among : yard.row ⟨1, [.null, .null, .blob [0xff]]⟩ ∈ yard.records.map yard.row :=
    List.mem_map_of_mem List.mem_cons_self
  have same := claimed s "Yard" yard _ _ rfl present columns (list_all rfl present) _ among
  rw [Table.columns_row rfl] at same
  exact absurd same (by decide)

end Dataset.Gateway
