import Dataset.Proofs.Import.Header
import Dataset.Proofs.Store.Unknown

/-!
# Records that name what a table does not know

An import shapes its table for the names of the header, and then adds the records under these names. A table
without a key column is not given one. So if the header names the key, every record is refused for it, and
the import reports that it has failed for all of them; in every other case no record is refused for its names.

* `addRecords_stands`: the columns stay what they are while records are added;
* `FailsUnknown`: at its turn a record is refused for an unknown column;
* `failsUnknown_iff`: so it is exactly if a name refers to nothing in the table as it was shaped;
* **`ensureTable_insertable`**: what can be inserted into a table that was brought to a shape.
-/

namespace Dataset.Import

open Store (Table Column Database namesKey)

variable {s s' : Store} {table : String} {kept : List Kept} {rows : List (Option (List String))}

/-! ## 1. Columns while records are added -/

/-- One record leaves the columns as they are. -/
theorem addRecord_stands {shape : List Column} (h : s.Stands table shape)
    {row : Option (List String)} (added : addRecord s table kept row = some s') :
    s'.Stands table shape := by
  cases row with
  | none => cases added
  | some fields =>
    rw [addRecord] at added
    cases done : s.insert table (kept.map Kept.name) (recordValues kept fields) with
    | error e => rw [done] at added; cases added
    | ok u =>
      rw [done] at added
      obtain rfl := Option.some.inj added
      exact h.insert done

/-- So do several. -/
theorem addRecords_stands {shape : List Column} (h : s.Stands table shape) (line : Nat) :
    (addRecords table kept line s rows).1.Stands table shape := by
  induction rows generalizing s line with
  | nil => exact h
  | cons row rows ih =>
    rw [addRecords]
    cases added : addRecord s table kept row with
    | none => exact ih h (line + 1)
    | some u => exact ih (addRecord_stands h added) (line + 1)

/-- The store that the record `i` of `rows` finds, after those before it. -/
def reached (table : String) (kept : List Kept) (s : Store) (rows : List (Option (List String)))
    (i : Nat) : Store :=
  (addRecords table kept firstLine s (rows.take i)).1

/-- The record `i` of `csv` can be read, and the insertion into the store that it has `reached` fails with
    `noColumnNamed`. -/
def FailsUnknown (s : Store) (table : String) (csv : Csv.Table) (i : Nat) : Prop :=
  ∃ fields n, csv.rows[i]? = some (some fields) ∧
    (reached table (keptColumns csv.header) s csv.rows i).insert table (names csv.header)
      (recordValues (keptColumns csv.header) fields) = .error (.refused (.noColumnNamed table n))

/-! ## 2. Shaped tables -/

variable {bytes : List UInt8} {csv : Csv.Table} {t : Table}

/-- While an import adds its records to a table, one that can be read is refused for an unknown column
    exactly if a name of the header refers to nothing in the table. -/
theorem failsUnknown_iff (isOpen : s.isOpen = true) (present : s.database.table? table = some t)
    (readable : ∀ n ∈ names csv.header, Sql.breaksOff n = false)
    (takes : (∃ n ∈ names csv.header, t.resolve? n = none) → t.Takes (names csv.header)) {i : Nat}
    {fields : List String} (record : csv.rows[i]? = some (some fields)) :
    FailsUnknown s table csv i ↔ ∃ n ∈ names csv.header, t.resolve? n = none := by
  obtain ⟨isOpen', u, present', same⟩ : (reached table (keptColumns csv.header) s csv.rows i).Stands
      table t.columns := addRecords_stands ⟨isOpen, t, present, rfl⟩ firstLine
  have fits : (recordValues (keptColumns csv.header) fields).length = (names csv.header).length := by
    simp [recordValues, names]
  have resolves (n : String) : u.resolve? n = t.resolve? n := by
    simp only [Table.resolve?, Table.indexOf?, same]
  have takes' : (∃ n ∈ names csv.header, u.resolve? n = none) → u.Takes (names csv.header) := by
    simpa only [Table.Takes, Table.generated?, resolves, same] using takes
  simp only [FailsUnknown, record, Option.some.injEq, exists_and_left, exists_eq_left', ← resolves]
  exact Store.insert_unknown_iff isOpen' present' readable fits takes'

/-- If a name refers to nothing, every record is refused. -/
theorem addRecord_of_unknown (isOpen : s.isOpen = true) (present : s.database.table? table = some t)
    (readable : ∀ n ∈ kept.map Kept.name, Sql.breaksOff n = false)
    (takes : t.Takes (kept.map Kept.name)) (unknown : ∃ n ∈ kept.map Kept.name, t.resolve? n = none)
    (row : Option (List String)) :
    addRecord s table kept row = none := by
  cases row with
  | none => rfl
  | some fields =>
    have fits : (recordValues kept fields).length = (kept.map Kept.name).length := by
      simp [recordValues]
    obtain ⟨n, refused⟩ :=
      (Store.insert_unknown_iff isOpen present readable fits fun _ => takes).2 unknown
    rw [addRecord, refused]
    rfl

/-- A store that has brought a table to a shape was open, and has nothing new but its database. -/
theorem ensureTable_done {columns : List String} (done : s.ensureTable table columns = (.ok (), s')) :
    s.isOpen = true ∧ ∃ d, s.database.ensureTable table columns = (.ok (), d) ∧
      s' = { s with database := d } := by
  have isOpen : s.isOpen = true := by
    by_contra closed
    rw [Store.ensureTable, Store.connect, if_neg closed] at done
    cases congrArg Prod.fst done
  rw [Store.ensureTable_of_isOpen isOpen, Prod.mk.injEq] at done
  obtain ⟨succeeded, rfl⟩ := done
  exact ⟨isOpen, _, Prod.ext (ok_of_mapError succeeded) rfl, rfl⟩

/-- **What can be inserted after `ensureTable` succeeded.** Every name that was asked for besides the key is
    a column. The table `Answers` to the key exactly if `KeepsKey`: it was missing, or had a column of this
    name; so it answers to all names that were asked for exactly if the database `Suits` them: `KeepsKey`,
    or the key is not among them. Where it does not, `insert` under these names is refused for an unknown
    column, whatever the values are, and an import with this header refuses every record for it
    (`FailsUnknown`), adds nothing and reports that all have failed. Where it does, no row and no record is
    ever refused for an unknown column. -/
theorem ensureTable_insertable {columns : List String}
    (done : s.ensureTable table columns = (.ok (), s')) :
    ∃ t, s'.database.table? table = some t ∧
      (∀ n ∈ columns, namesKey n = false → n ∈ t.columnNames) ∧
      (t.Answers Sql.keyColumn ↔ s.database.KeepsKey table) ∧
      ((∀ n ∈ columns, t.Answers n) ↔ s.database.Suits table columns) ∧
      (∀ values, values.length = columns.length →
        ((∃ n, s'.insert table columns values = .error (.refused (.noColumnNamed table n))) ↔
          ¬ s.database.Suits table columns)) ∧
      ∀ bytes csv, Csv.table bytes = .ok csv → names csv.header = columns → columns ≠ [] →
        ∃ report s'', importBytes s table bytes = (.ok report, s'') ∧
          (∀ i fields, csv.rows[i]? = some (some fields) →
            (FailsUnknown s' table csv i ↔ ¬ s.database.Suits table columns)) ∧
          (¬ s.database.Suits table columns → s'' = s' ∧ report.summary = ⟨0, csv.rows.length⟩) := by
  obtain ⟨isOpen, d, shaped, rfl⟩ := ensureTable_done done
  obtain ⟨t, prepares, present, -, -⟩ := Database.ensureTable_ok shaped
  have isOpen' : ({ s with database := d } : Store).isOpen = true := isOpen
  have unknown := prepares.exists_unknown_iff
  refine ⟨t, present, fun n hn data => (Table.knows_of_prepares prepares n hn).resolve_left (by simp [data]),
    prepares.answers_key_iff, prepares.answers_all_iff, fun values fits => ?_, ?_⟩
  · rw [← unknown]
    exact Store.insert_unknown_iff isOpen' present prepares.readable fits prepares.takes_of_unknown
  · rintro bytes csv read rfl named
    have imported : importBytes s table bytes = _ := importBytes_of_read isOpen read
    rw [if_neg named, shaped] at imported
    refine ⟨_, _, imported, fun i fields record => ?_, fun unsuited => ?_⟩
    · rw [← unknown]
      exact failsUnknown_iff isOpen' present prepares.readable prepares.takes_of_unknown record
    · have refused : ∀ row ∈ csv.rows,
          addRecord { s with database := d } table (keptColumns csv.header) row = none := fun row _ =>
        addRecord_of_unknown isOpen' present prepares.readable
          (prepares.takes_of_unknown (unknown.2 unsuited)) (unknown.2 unsuited) row
      rw [addRecords_of_none refused]
      simp

/-- A table made elsewhere without a key, with one car. -/
def keyless : Table :=
  ⟨"cars", [⟨"Brand", .data .text⟩], false, 0, [⟨1, [.text "x"]⟩], by decide, by decide,
    by unfold Store.Distinct; decide, by decide, by decide⟩

theorem ensureTable_keyless :
    (Store.ofDatabase ⟨[keyless]⟩).ensureTable "cars" ["id", "Brand"] =
      (.ok (), Store.ofDatabase ⟨[keyless]⟩) :=
  Prod.ext (eq_ok_of_toOption (by decide +kernel)) (by decide +kernel)

theorem table?_keyless : (Store.ofDatabase ⟨[keyless]⟩).database.table? "cars" = some keyless := by decide

theorem not_answers_keyless : ¬ keyless.Answers Sql.keyColumn := by
  unfold Table.Answers
  decide

/-- A table made elsewhere is not given a key, and a row that names it is refused. -/
theorem ensureTable_insertable_keyless :
    let s := Store.ofDatabase ⟨[keyless]⟩
    s.ensureTable "cars" ["id", "Brand"] = (.ok (), s) ∧
      ¬ s.database.Suits "cars" ["id", "Brand"] ∧
      ∃ n, s.insert "cars" ["id", "Brand"] [some "1", some "x"] =
        .error (.refused (.noColumnNamed "cars" n)) := by
  intro s
  have unsuited : ¬ s.database.Suits "cars" ["id", "Brand"] := by
    rintro (key | unnamed)
    · exact not_answers_keyless (key keyless table?_keyless)
    · exact absurd (unnamed "id" (by decide)) (by decide)
  obtain ⟨t, -, -, -, -, rows, -⟩ := ensureTable_insertable ensureTable_keyless
  exact ⟨ensureTable_keyless, unsuited, (rows [some "1", some "x"] rfl).2 unsuited⟩

/-- A table that was brought to a shape need not have all columns that were asked for. -/
theorem ensureTable_lacks_key :
    ¬ ∀ (s s' : Store) (table : String) (columns : List String),
      s.ensureTable table columns = (.ok (), s') →
      ∃ t, s'.database.table? table = some t ∧ t.Answers Sql.keyColumn ∧ ∀ n ∈ columns, t.Answers n := by
  intro claimed
  obtain ⟨t, present, key, -⟩ := claimed _ _ "cars" _ ensureTable_keyless
  obtain rfl := Option.some.inj (table?_keyless.symm.trans present)
  exact not_answers_keyless key

end Dataset.Import
