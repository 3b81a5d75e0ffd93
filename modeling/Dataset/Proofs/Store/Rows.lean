import Dataset.Proofs.Row
import Dataset.Proofs.Store.Lookup

/-!
# Rows of records

A row that is made of columns pushed in order has these columns, as long as their names are
different, as those of a table are.

* `Table.nodup_shownNames`: the names of a table's columns are different;
* `Table.columns_row`, `Table.scalars_row`: so a row has all columns of the table and the values of the
  record, one for one;
* **`Table.row_eq_shown`**: the row of a record shows its cells under the columns of its table;
* `Table.get?_row`: so it has each of them under its name.
-/

namespace Dataset

namespace Store.Table

variable {t : Table} {r : Record}

/-- The names of a table's columns are different. -/
theorem nodup_shownNames (t : Table) : t.shownNames.Nodup := by
  rw [shownNames, List.Nodup, List.pairwise_map]
  refine t.distinct.imp fun {a b} unlike same => ?_
  rw [← same, Column.answersTo_self] at unlike
  cases unlike

theorem length_values (wide : r.cells.length = t.columns.length) :
    (t.values r).length = t.columns.length := by simp [values, wide]

/-- No cell of a record is lost in its row, and none is put in the place of another. -/
theorem cells_row (wide : r.cells.length = t.columns.length) :
    (t.row r).cells = (t.shownNames.zip (t.values r)).map fun p => (p.1, p.2.scalar) := by
  have length : t.shownNames.length ≤ (t.values r).length := by simp [shownNames, length_values wide]
  have names : ((t.shownNames.zip (t.values r)).map fun p => (p.1, p.2.scalar)).map Prod.fst =
      t.shownNames := by
    rw [List.map_map]
    exact List.map_fst_zip length
  have nodup := t.nodup_shownNames
  rw [← names] at nodup
  rw [row, Row.ofList_of_nodup nodup]

/-- The columns of a row are those of the table. -/
theorem columns_row (wide : r.cells.length = t.columns.length) : (t.row r).columns = t.shownNames := by
  have length : t.shownNames.length ≤ (t.values r).length := by simp [shownNames, length_values wide]
  rw [Row.columns, cells_row wide, List.map_map]
  exact List.map_fst_zip length

/-- The scalars of a row are the values of the record. -/
theorem scalars_row (wide : r.cells.length = t.columns.length) :
    (t.row r).cells.map Prod.snd = (t.values r).map Cell.scalar := by
  have length : (t.values r).length ≤ t.shownNames.length := by simp [shownNames, length_values wide]
  calc (t.row r).cells.map Prod.snd
      = ((t.shownNames.zip (t.values r)).map Prod.snd).map Cell.scalar := by
        rw [cells_row wide, List.map_map, List.map_map]
        rfl
    _ = (t.values r).map Cell.scalar := by rw [List.map_snd_zip length]

/-- **The row of a record shows its cells under the columns of its table.** -/
theorem row_eq_shown (wide : r.cells.length = t.columns.length) :
    t.row r = ⟨t.columns.map fun c => (c.name, (t.shown r c.name).scalar)⟩ := by
  have cells : ((t.shownNames.zip (t.values r)).map fun p => (p.1, p.2.scalar)) =
      t.columns.map fun c => (c.name, (t.shown r c.name).scalar) := by
    refine List.ext_getElem (by simp [shownNames, length_values wide]) fun i _ hi => ?_
    have li : i < t.columns.length := by simpa using hi
    rw [List.getElem_map, List.getElem_map, shown_of_getElem? wide (List.getElem?_eq_getElem li)]
    simp [shownNames, values, List.getElem?_eq_getElem (wide ▸ li)]
  rw [← cells, ← cells_row wide]

/-- Under the name of a column a row has what the record shows. -/
theorem get?_row (wide : r.cells.length = t.columns.length) {n : String} (live : n ∈ t.columnNames) :
    (t.row r).get? n = some (t.shown r n).scalar := by
  have pairs : (t.columns.map fun c => (c.name, (t.shown r c.name).scalar)) =
      t.shownNames.map fun n => (n, (t.shown r n).scalar) := by
    rw [shownNames, List.map_map]
    rfl
  rw [row_eq_shown wide, Row.get?, pairs, lookup_map_of_iff fun _ _ => Iff.rfl,
    if_pos (mem_shownNames_of_live live)]

end Store.Table

end Dataset
