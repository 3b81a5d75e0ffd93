import Dataset.Proofs.Import.Header
import Dataset.Proofs.Store.Unknown
import Mathlib.Data.List.ReduceOption

/-!
# What a table holds after an import

Whatever names a header has, the data records below it become records of the table or are refused. A
record of the table holds under each name what is stored for the field under the name.

* `Ready`: a table is shaped for the names of a header (`ready_of_ensureTable`);
* `Holds`: a record of the table holds the fields of a data record;
* `broughtKey`: the text that a data record brings for its number;
* `addRecord_cases`, `Filled`, **`addRecords_filled`**: one data record, and a run of them;
* **`import_fills`**: so an import that succeeds fills the table with the data records that are not
  refused, and `import_filled`: if the store is without the table, the table holds nothing else.
-/

namespace Dataset.Import

open Store (Cell Affinity Table Record Database Column namesKey)
open Store.Table (Refuses Numbers keyName?)

/-! ## 1. One data record -/

variable {s : Store} {table : String} {t t' : Table} {header : List String}

/-- A row is added to the table of a name, if that takes it. -/
theorem insert_of_table? (isOpen : s.isOpen = true) (present : s.database.table? table = some t)
    {columns : List String} (named : columns ≠ [])
    (readable : ∀ c ∈ columns, Sql.breaksOff c = false) (value : String → Option String) :
    s.insert table columns (columns.map value) =
      match t.insert table columns (columns.map fun n => .ofText? (value n)) with
      | .ok t' => .ok { s with database := s.database.replace table t' }
      | .error fault => .error (.refused fault) := by
  rw [Store.insert_of_fits isOpen present named readable (List.length_map _), List.map_map]
  rfl

/-- `t` is a dataset table that has a column for every name of `header`, of which there is one at least. -/
structure Ready (header : List String) (t : Table) : Prop where
  dataset : t.IsDataset
  named : names header ≠ []
  known : t.Knows (names header)

theorem Ready.readable (h : Ready header t) : ∀ c ∈ names header, Sql.breaksOff c = false := by
  intro c hc
  rcases h.known c hc with key | live
  · have same := Sql.breaksOff_of_same (a := c) (b := Sql.keyColumn) key
    rw [same]
    decide
  · exact Table.breaksOff_column live

/-- A table that has been shaped for the names of a header is ready for its records. -/
theorem ready_of_ensureTable {d d' : Database}
    (made : ∀ t, d.table? table = some t → t.IsDataset) (named : names header ≠ [])
    (done : d.ensureTable table (names header) = (.ok (), d')) :
    ∃ p, d.Prepares table (names header) p ∧ d'.table? table = some p ∧ Ready header p ∧
      ∀ other, Text.sameIgnoringCase table other = false → d'.table? other = d.table? other := by
  obtain ⟨p, prepares, found, narrow, others⟩ := Database.ensureTable_ok done
  have dataset : p.IsDataset :=
    Table.isDataset_of_prepares made prepares (narrow fun t ht => (made t ht).narrow)
  exact ⟨p, prepares, found, ⟨dataset, named, Table.knows_of_prepares prepares⟩, others⟩

/-- The cells of `r` are the `valueUnder` each name of `header` that is not the key's, as the columns of `t`
    store it, and nothing elsewhere. -/
def Holds (t : Table) (header fields : List String) (r : Record) : Prop :=
  r.cells = t.entry (names header) fun n => .ofText? (valueUnder header fields n)

/-- A name of the header that is not the key's is the name of a column of numbers. -/
theorem Ready.column_mem (h : Ready header t) {n : String} (named : n ∈ names header)
    (data : namesKey n = false) : Column.numeric n ∈ t.columns := by
  have live : n ∈ t.columnNames := (h.known n named).resolve_left (by simp [data])
  obtain ⟨c, hc, -, rfl⟩ := Table.mem_columnNames_iff.1 live
  rcases h.dataset.column_cases hc with rfl | ⟨numeric, -⟩
  · exact absurd data (by decide)
  · exact numeric ▸ hc

theorem Ready.live (h : Ready header t) {n : String} (named : n ∈ names header)
    (data : namesKey n = false) : n ∈ t.columnNames :=
  Table.mem_columnNames_iff.2 ⟨.numeric n, h.column_mem named data, rfl, rfl⟩

theorem Ready.declaredAffinity_eq (h : Ready header t) {n : String} (named : n ∈ names header)
    (data : namesKey n = false) : t.declaredAffinity n = .numeric := by
  obtain ⟨i, hi⟩ := List.mem_iff_getElem?.1 (h.column_mem named data)
  rw [Table.declaredAffinity, show n = (Column.numeric n).name from rfl, Table.column?_of_getElem? hi]
  rfl

/-- Such a name does not stand for the number of a record. -/
theorem Ready.resolve?_ne_number (h : Ready header t) {n : String} (named : n ∈ names header)
    (data : namesKey n = false) : t.resolve? n ≠ some .number := by
  obtain ⟨i, hi⟩ := List.mem_iff_getElem?.1 (h.column_mem named data)
  have found : t.resolve? n = some (.cell i) := Table.resolve?_of_getElem? hi
  rw [found]
  nofun

/-- Under a name of the header that is not the key's, a record shows what a column of numbers makes of
    the value. -/
theorem Holds.shown {fields : List String} {r : Record} (h : Holds t header fields r)
    (ready : Ready header t) {n : String} (named : n ∈ names header) (data : namesKey n = false) :
    t.shown r n = Affinity.numeric.store (.ofText? (valueUnder header fields n)) :=
  (Table.shown_of_entry h (ready.column_mem named data)).trans (if_pos named)

theorem Ready.of_gains {r : Record} (h : Ready header t) (gains : t.Gains r t')
    (low : r.number ≤ Number.maxInt64) : Ready header t' where
  dataset := h.dataset.of_gains gains low
  named := h.named
  known n hn := by
    rw [Table.columnNames, gains.columns]
    exact h.known n hn

/-- The text that a data record brings for its number. -/
def broughtKey (header fields : List String) : Option String :=
  (keyName? (names header)).bind (valueUnder header fields)

/-- **One data record: it is refused for its number and changes nothing, or the table gains a record that
    holds its fields.** -/
theorem addRecord_cases (isOpen : s.isOpen = true) (present : s.database.table? table = some t)
    (h : Ready header t) (row : Option (List String)) :
    ((∀ fields ∈ row, Refuses t.highest t.records (broughtKey header fields)) ∧
        addRecord s table (keptColumns header) row = none) ∨
      ∃ fields r t', row = some fields ∧ ¬ Refuses t.highest t.records (broughtKey header fields) ∧
        t.Gains r t' ∧ Ready header t' ∧ Numbers t.highest r.number (broughtKey header fields) ∧
        Holds t header fields r ∧
        addRecord s table (keptColumns header) row =
          some { s with database := s.database.replace table t' } := by
  cases row with
  | none => exact .inl ⟨by simp, rfl⟩
  | some fields =>
    have added := insert_of_table? isOpen present h.named h.readable (valueUnder header fields)
    rw [addRecord, recordValues_eq, ← names, added]
    rcases h.dataset.insert_spec h.known table (valueUnder header fields) with
      ⟨refused, fault, failed⟩ | ⟨taken, r, t', done, gains, numbers, low, cells⟩
    · exact .inl ⟨by simpa [broughtKey] using refused, by rw [failed]; rfl⟩
    · exact .inr ⟨fields, r, t', rfl, taken, gains, h.of_gains gains low, numbers, cells, by
        rw [done]; rfl⟩

/-! ## 2. A run of data records -/

/-- The largest number ever given, once some records have been added. -/
def largest (highest : Int) (added : List Record) : Int :=
  added.foldl (fun m r => max m r.number) highest

/-- What has become of data records that were put one after another into a table: for each the record
    that was added for it, which holds its fields, or none if it was refused for its number. Those added
    before it count for each, and nothing else has been added. -/
structure Filled (header : List String) (t : Table) (rows : List (Option (List String)))
    (outcomes : List (Option Record)) (t' : Table) : Prop where
  columns : t'.columns = t.columns
  highest : t'.highest = largest t.highest outcomes.reduceOption
  records : t'.records.Perm (t.records ++ outcomes.reduceOption)
  length : outcomes.length = rows.length
  refused : ∀ i row, rows[i]? = some row →
    (outcomes[i]? = some none ↔ ∀ fields ∈ row,
      Refuses (largest t.highest (outcomes.take i).reduceOption)
        (t.records ++ (outcomes.take i).reduceOption) (broughtKey header fields))
  made : ∀ (i : Nat) (r : Record), outcomes[i]? = some (some r) →
    ∃ fields, rows[i]? = some (some fields) ∧ Holds t' header fields r ∧
      Numbers (largest t.highest (outcomes.take i).reduceOption) r.number (broughtKey header fields)

variable {rows : List (Option (List String))} {outcomes : List (Option Record)}

theorem holds_congr (same : t'.columns = t.columns) (fields : List String) (r : Record) :
    Holds t' header fields r ↔ Holds t header fields r := by
  rw [Holds, Holds, Table.entry, Table.entry, same]

theorem refuses_congr {highest : Int} {known known' : List Record} (same : ∀ x, x ∈ known ↔ x ∈ known')
    (key : Option String) : Refuses highest known key ↔ Refuses highest known' key := by
  cases key with
  | none => exact .rfl
  | some text => simp only [Refuses, same]

theorem Filled.nil (header : List String) (t : Table) : Filled header t [] [] t where
  columns := rfl
  highest := rfl
  records := by simp [List.reduceOption_nil]
  length := rfl
  refused := by simp
  made := by simp

/-- A data record that is refused changes nothing for those behind it. -/
theorem Filled.refuse {row : Option (List String)}
    (refused : ∀ fields ∈ row, Refuses t.highest t.records (broughtKey header fields))
    (h : Filled header t rows outcomes t') : Filled header t (row :: rows) (none :: outcomes) t' where
  columns := h.columns
  highest := by rw [List.reduceOption_cons_of_none, h.highest]
  records := by rw [List.reduceOption_cons_of_none]; exact h.records
  length := congrArg Nat.succ h.length
  refused
    | 0, x, hx => by
      obtain rfl : row = x := by simpa using hx
      simpa [List.reduceOption_nil, largest] using refused
    | i + 1, x, hx => by
      rw [List.getElem?_cons_succ, List.take_succ_cons, List.reduceOption_cons_of_none]
      exact h.refused i x (by simpa using hx)
  made
    | 0, r, hr => by simp at hr
    | i + 1, r, hr => by
      rw [List.getElem?_cons_succ, List.take_succ_cons, List.reduceOption_cons_of_none]
      exact h.made i r (by simpa using hr)

theorem perm_place (r : Record) (rs : List Record) : (Store.place r rs).Perm (r :: rs) := by
  induction rs with
  | nil => exact .refl _
  | cons x rest ih =>
    rw [Store.place]
    split_ifs
    · exact .refl _
    · exact (ih.cons x).trans (.swap r x rest)

/-- A record that is gained stands among the others. -/
theorem perm_of_gains {r : Record} {t₁ : Table} (gains : t.Gains r t₁) {more : List Record}
    (h : t'.records.Perm (t₁.records ++ more)) : t'.records.Perm (t.records ++ r :: more) := by
  have first : t₁.records.Perm (r :: t.records) := gains.records ▸ perm_place r t.records
  exact h.trans ((first.append_right _).trans List.perm_middle.symm)

/-- A data record for which a record is added is there when the turn of those behind it comes. -/
theorem Filled.accept {fields : List String} {r : Record} {t₁ : Table}
    (taken : ¬ Refuses t.highest t.records (broughtKey header fields)) (gains : t.Gains r t₁)
    (numbers : Numbers t.highest r.number (broughtKey header fields)) (holds : Holds t header fields r)
    (h : Filled header t₁ rows outcomes t') :
    Filled header t (some fields :: rows) (some r :: outcomes) t' where
  columns := h.columns.trans gains.columns
  highest := by rw [List.reduceOption_cons_of_some, h.highest, gains.highest]; rfl
  records := by
    rw [List.reduceOption_cons_of_some]
    exact perm_of_gains gains h.records
  length := congrArg Nat.succ h.length
  refused
    | 0, x, hx => by
      obtain rfl : some fields = x := by simpa using hx
      simpa [List.reduceOption_nil, largest] using taken
    | i + 1, x, hx => by
      rw [List.getElem?_cons_succ, List.take_succ_cons, List.reduceOption_cons_of_some,
        h.refused i x (by simpa using hx), gains.highest]
      refine forall₂_congr fun fields _ => refuses_congr (fun y => ?_) _
      rw [gains.records]
      simp only [List.mem_append, Store.mem_place, List.mem_cons]
      tauto
  made
    | 0, x, hx => by
      obtain rfl : r = x := by simpa using hx
      exact ⟨fields, rfl, (holds_congr (h.columns.trans gains.columns) fields r).2 holds, numbers⟩
    | i + 1, x, hx => by
      obtain ⟨fs, hfs, holds', later⟩ := h.made i x (by simpa using hx)
      rw [gains.highest] at later
      rw [List.getElem?_cons_succ, List.take_succ_cons, List.reduceOption_cons_of_some]
      exact ⟨fs, hfs, holds', later⟩

/-- **A run of data records fills the table with those that are not refused.** -/
theorem addRecords_filled (isOpen : s.isOpen = true) (present : s.database.table? table = some t)
    (h : Ready header t) (line : Nat) (rows : List (Option (List String))) :
    ∃ t' outcomes,
      (addRecords table (keptColumns header) line s rows).1 =
          { s with database := s.database.replace table t' } ∧
        (addRecords table (keptColumns header) line s rows).2.length = outcomes.count none ∧
        t'.answersTo table = true ∧ Ready header t' ∧ Filled header t rows outcomes t' := by
  -- as every record meets the table that those before it have left, that is generalized too
  induction rows generalizing s t line with
  | nil =>
    refine ⟨t, [], ?_, rfl, Database.answersTo_of_table? present, h, .nil header t⟩
    rw [addRecords, Database.replace_self present]
  | cons row rows ih =>
    rw [addRecords]
    rcases addRecord_cases isOpen present h row with
      ⟨refused, done⟩ | ⟨fields, r, t₁, rfl, taken, gains, ready, numbers, holds, done⟩
    · obtain ⟨t', outcomes, store, failed, answers, ready, filled⟩ := ih isOpen present h (line + 1)
      rw [done]
      exact ⟨t', none :: outcomes, store, by simp [failed], answers, ready, filled.refuse refused⟩
    · have answers₁ : t₁.answersTo table = true := by
        rw [Table.answersTo, gains.name]
        exact Database.answersTo_of_table? present
      obtain ⟨t', outcomes, store, failed, answers, ready', filled⟩ :=
        ih (s := { s with database := s.database.replace table t₁ }) isOpen
          (Database.table?_replace present answers₁) ready (line + 1)
      rw [done]
      refine ⟨t', some r :: outcomes, ?_, by simpa using failed, answers, ready',
        filled.accept taken gains numbers holds⟩
      rw [store, Database.replace_replace answers₁]

theorem count_none_add_length_reduceOption (outcomes : List (Option Record)) :
    outcomes.reduceOption.length + outcomes.count none = outcomes.length := by
  induction outcomes with
  | nil => rfl
  | cons o rest ih =>
    cases o with
    | none =>
      rw [List.reduceOption_cons_of_none, List.count_cons_self, List.length_cons]
      omega
    | some r =>
      rw [List.reduceOption_cons_of_some, List.count_cons_of_ne (by simp), List.length_cons,
        List.length_cons]
      omega

/-! ## 3. Imports that succeed -/

/-- **An import that succeeds shapes the table and fills it with the data records that are not refused,
    and counts them.** -/
theorem import_fills {s' : Store} {bytes : List UInt8} {csv : Csv.Table} {report : Report}
    (isOpen : s.isOpen = true) (made : ∀ t, s.database.table? table = some t → t.IsDataset)
    (read : Csv.table bytes = .ok csv) (done : importBytes s table bytes = (.ok report, s')) :
    ∃ p t outcomes, s.database.Prepares table (names csv.header) p ∧ s'.isOpen = true ∧
      s'.database.table? table = some t ∧ Ready csv.header t ∧
      Filled csv.header p csv.rows outcomes t ∧
      report.summary.inserted = outcomes.reduceOption.length := by
  obtain ⟨named, d, shaped, left, refused, entered⟩ := importBytes_ok isOpen read done
  obtain ⟨p, prepares, found, ready, -⟩ := ready_of_ensureTable made named shaped
  obtain ⟨t, outcomes, store, failed, answers, ready', filled⟩ :=
    addRecords_filled (s := { s with database := d }) isOpen found ready firstLine csv.rows
  have count := count_none_add_length_reduceOption outcomes
  have length := filled.length
  rw [failed] at refused
  rw [← left, store]
  exact ⟨p, t, outcomes, prepares, isOpen, Database.table?_replace found answers, ready', filled,
    by omega⟩

/-- The table of an import holds nothing but what data records were turned into: the record at a place
    of `outcomes` holds the fields of the data record at this place. -/
structure Imports (csv : Csv.Table) (outcomes : List (Option Record)) (t : Table) : Prop where
  ready : Ready csv.header t
  records : t.records.Perm outcomes.reduceOption
  length : outcomes.length = csv.rows.length
  made : ∀ (i : Nat) (r : Record), outcomes[i]? = some (some r) →
    ∃ fields, csv.rows[i]? = some (some fields) ∧ Holds t csv.header fields r

/-- **An import into a store without the table fills it with the data records that are not refused, and
    counts them.** -/
theorem import_filled {s' : Store} {bytes : List UInt8} {csv : Csv.Table} {report : Report}
    (isOpen : s.isOpen = true) (missing : s.database.table? table = none)
    (read : Csv.table bytes = .ok csv) (done : importBytes s table bytes = (.ok report, s')) :
    ∃ t outcomes, s'.isOpen = true ∧ s'.database.table? table = some t ∧ Imports csv outcomes t ∧
      report.summary.inserted = outcomes.reduceOption.length := by
  obtain ⟨p, t, outcomes, prepares, isOpen', present, ready, filled, inserted⟩ :=
    import_fills isOpen (by simp [missing]) read done
  rw [Database.Prepares, missing] at prepares
  obtain ⟨-, -, -, -, records⟩ := prepares
  have all := filled.records
  rw [records, List.nil_append] at all
  have made : ∀ (i : Nat) (r : Record), outcomes[i]? = some (some r) →
      ∃ fields, csv.rows[i]? = some (some fields) ∧ Holds t csv.header fields r := by
    intro i r outcome
    obtain ⟨fields, row, holds, -⟩ := filled.made i r outcome
    exact ⟨fields, row, holds⟩
  exact ⟨t, outcomes, isOpen', present, ⟨ready, all, filled.length, made⟩, inserted⟩

/-- The records of the table are those that data records were turned into. -/
theorem Imports.mem_records {csv : Csv.Table} (h : Imports csv outcomes t) {r : Record} :
    r ∈ t.records ↔ ∃ (i : Nat) (fields : List String), outcomes[i]? = some (some r) ∧
      csv.rows[i]? = some (some fields) ∧ Holds t csv.header fields r := by
  rw [h.records.mem_iff, List.reduceOption_mem_iff, List.mem_iff_getElem?]
  constructor
  · rintro ⟨i, hi⟩
    obtain ⟨fields, row, holds⟩ := h.made i r hi
    exact ⟨i, fields, hi, row, holds⟩
  · rintro ⟨i, -, hi, -⟩
    exact ⟨i, hi⟩

/-- If as many records have been inserted as there are data records, each of these has been turned into
    a record. -/
theorem Imports.exists_record {csv : Csv.Table} (h : Imports csv outcomes t)
    (all : outcomes.reduceOption.length = csv.rows.length) {i : Nat} (inside : i < csv.rows.length) :
    ∃ r, outcomes[i]? = some (some r) := by
  rw [← h.length] at all inside
  have made := List.reduceOption_length_eq_iff.1 all _ (List.getElem_mem inside)
  obtain ⟨r, hr⟩ := Option.isSome_iff_exists.1 made
  exact ⟨r, by rw [List.getElem?_eq_getElem inside, hr]⟩

end Dataset.Import
