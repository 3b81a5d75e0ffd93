import Dataset.Proofs.Import.Records

/-!
# When an import fails

An import fails as a whole for its header and the shape of its table only. Names are compared exactly
where the table is looked at, and up to the case of letters where a column is added to it: a name that
repeats another up to case is refused, and by then other columns may have been added.

* `dataNames`: the data columns that a header names;
* **`import_ok_iff`**: with a readable header that names a column an import fails exactly if its names
  are not clear, alike to a generated column, or too many;
* `AddsFirst`: the input can be read, and the first column that the table lacks can be added to it;
  `Halfway`: the table has got the columns before one that was refused;
* **`import_failure_unchanged_iff`**: an import that fails leaves the store as it was, or halfway, the
  latter exactly if it could add the first column.
-/

namespace Dataset.Import

open Store (Table Database Column maxColumns)
open Store.Database (Nameable Clear lacking dataColumns datasetColumns)

/-- The data columns that a header names. -/
def dataNames (header : List String) : List String := dataColumns (names header)

variable {s s' : Store} {table : String} {bytes : List UInt8} {csv : Csv.Table}

/-! ## 1. Imports that succeed -/

theorem mem_of_mem_trimChars {c : Char} {s : List Char} (h : c ∈ Text.trimChars s) : c ∈ s := by
  have inner : c ∈ (Text.trimStart s).reverse.dropWhile Text.isBlank := by
    simpa [Text.trimChars, Text.trimEnd] using h
  have outer : c ∈ Text.trimStart s := by
    simpa using (List.dropWhile_sublist _).subset inner
  exact (List.dropWhile_sublist _).subset outer

/-- Trimming leaves a name readable. -/
theorem readable_names (readable : ∀ h ∈ csv.header, Sql.breaksOff h = false) :
    ∀ n ∈ names csv.header, Sql.breaksOff n = false := by
  intro n hn
  obtain ⟨raw, hraw, rfl⟩ := List.mem_map.1 (mem_names.1 hn).1
  have whole : '\x00' ∉ raw.toList := by simpa [Sql.breaksOff] using readable raw hraw
  have part : '\x00' ∉ Text.trimChars raw.toList := fun h => whole (mem_of_mem_trimChars h)
  simpa [Sql.breaksOff] using part

/-- An import of an input that can be read and names a column fails if shaping the table does. -/
theorem importBytes_ok_iff (isOpen : s.isOpen = true) (read : Csv.table bytes = .ok csv)
    (named : names csv.header ≠ []) :
    (∃ report s', importBytes s table bytes = (.ok report, s')) ↔
      ∃ d, s.database.ensureTable table (names csv.header) = (.ok (), d) := by
  rw [importBytes_of_read isOpen read, if_neg named]
  rcases s.database.ensureTable table (names csv.header) with ⟨_ | _, d⟩
  · exact ⟨fun ⟨_, _, h⟩ => absurd (congrArg Prod.fst h) (by simp),
      fun ⟨_, h⟩ => absurd (congrArg Prod.fst h) (by simp)⟩
  · exact ⟨fun _ => ⟨d, rfl⟩, fun _ => ⟨_, _, rfl⟩⟩

/-- **An import with a readable header that names a column succeeds exactly if the names are `Clear` and the
    table has room for them.** Among the columns that are there (`startColumns`) and the `dataNames` of the
    header, names that are alike are equal, none of `dataNames` is alike to a generated column, and with
    those that the table is `lacking` it has at most `maxColumns`. -/
theorem import_ok_iff (isOpen : s.isOpen = true) (nameable : Nameable table)
    (narrow : ∀ t, s.database.table? table = some t → t.columns.length ≤ maxColumns)
    (read : Csv.table bytes = .ok csv) (named : ∃ h ∈ csv.header, Text.trim h ≠ "")
    (readable : ∀ h ∈ csv.header, Sql.breaksOff h = false) :
    (∃ report s', importBytes s table bytes = (.ok report, s')) ↔
      (Clear (s.database.startColumns table) (dataNames csv.header) ∧
        ∀ a ∈ dataNames csv.header, ∀ g ∈ s.database.generatedColumns table,
          Text.sameIgnoringCase a g = false) ∧
        (s.database.startColumns table).length + (s.database.generatedColumns table).length +
          (lacking (s.database.startColumns table) (dataNames csv.header)).length ≤ maxColumns := by
  have named' : names csv.header ≠ [] := by
    obtain ⟨h, hh, given⟩ := named
    exact fun unnamed => given (names_eq_nil_iff.1 unnamed h hh)
  have readable' : ∀ c ∈ dataColumns (names csv.header), Sql.breaksOff c = false :=
    fun c hc => readable_names readable c (List.mem_filter.1 hc).1
  rw [importBytes_ok_iff isOpen read named']
  exact Database.ensureTable_ok_iff nameable readable' (nodup_names csv.header) narrow

theorem garage_of_table? {t : Table}
    (found : (Store.ofDatabase ⟨[garage]⟩).database.table? "cars" = some t) : t = garage := by
  have present : (Store.ofDatabase ⟨[garage]⟩).database.table? "cars" = some garage := by decide
  exact Option.some.inj (found.symm.trans present)

/-- A header that repeats no column of the garage is imported. -/
theorem import_ok_garage :
    let s := Store.ofDatabase ⟨[garage]⟩
    let bytes := Text.Utf8.encode "Model, Brand,\nLeaf,Nissan\n".toList
    let csv : Csv.Table := ⟨["Model", " Brand", ""], [some ["Leaf", "Nissan"]]⟩
    s.isOpen = true ∧ Nameable "cars" ∧
      (∀ t, s.database.table? "cars" = some t → t.columns.length ≤ maxColumns) ∧
      Csv.table bytes = .ok csv ∧ (∃ h ∈ csv.header, Text.trim h ≠ "") ∧
      (∀ h ∈ csv.header, Sql.breaksOff h = false) ∧
      ∃ report s', importBytes s "cars" bytes = (.ok report, s') := by
  intro s bytes csv
  have nameable : Nameable "cars" := ⟨by decide, by decide⟩
  have narrow : ∀ t, s.database.table? "cars" = some t → t.columns.length ≤ maxColumns := by
    intro t found
    rw [garage_of_table? found]
    decide
  have read : Csv.table bytes = .ok csv := eq_ok_of_toOption (by decide +kernel)
  have named : ∃ h ∈ csv.header, Text.trim h ≠ "" := ⟨"Model", by decide, by decide +kernel⟩
  have readable : ∀ h ∈ csv.header, Sql.breaksOff h = false := by decide
  refine ⟨rfl, nameable, narrow, read, named, readable, ?_⟩
  refine (import_ok_iff rfl nameable narrow read named readable).2
    ⟨⟨?_, by decide +kernel⟩, by decide +kernel⟩
  unfold Clear
  decide +kernel

/-- A header that repeats a column up to the case of its letters makes an import fail. -/
theorem header_fails_import :
    ¬ ∀ (s : Store) (table : String) (bytes : List UInt8) (csv : Csv.Table),
      s.isOpen = true → Nameable table →
      (∀ t, s.database.table? table = some t → t.IsDataset) → Csv.table bytes = .ok csv →
      (∃ h ∈ csv.header, Text.trim h ≠ "") → (∀ h ∈ csv.header, Sql.breaksOff h = false) →
      (s.database.startColumns table).length +
        (lacking (s.database.startColumns table) (dataNames csv.header)).length ≤ maxColumns →
      ∃ report s', importBytes s table bytes = (.ok report, s') := by
  intro claimed
  have read : Csv.table (Text.Utf8.encode "brand\nx\n".toList) = .ok ⟨["brand"], [some ["x"]]⟩ :=
    eq_ok_of_toOption (by decide +kernel)
  have dataset : ∀ t, (Store.ofDatabase ⟨[garage]⟩).database.table? "cars" = some t →
      t.IsDataset := by
    intro t found
    rw [garage_of_table? found]
    exact isDataset_garage
  obtain ⟨report, s', done⟩ := claimed (Store.ofDatabase ⟨[garage]⟩) "cars" _ _ rfl
    ⟨by decide, by decide⟩ dataset read ⟨"brand", by decide, by decide +kernel⟩ (by decide)
    (by decide +kernel)
  have failed : (importBytes (Store.ofDatabase ⟨[garage]⟩) "cars"
      (Text.Utf8.encode "brand\nx\n".toList)).1.toOption = none := by decide +kernel
  rw [done] at failed
  cases failed

/-! ## 2. Imports that fail -/

/-- `bytes` is read as a CSV, and `Database.AddsFirst` holds of the names of its header. -/
def AddsFirst (s : Store) (table : String) (bytes : List UInt8) : Prop :=
  ∃ csv, Csv.table bytes = .ok csv ∧ s.database.AddsFirst table (names csv.header)

/-- `bytes` is read as a CSV, and the database of `s'` is `Database.Halfway` to the names of its header. -/
def Halfway (s : Store) (table : String) (bytes : List UInt8) (s' : Store) : Prop :=
  ∃ csv d, Csv.table bytes = .ok csv ∧ s.database.Halfway table (names csv.header) d ∧
    s' = { s with database := d }

theorem Halfway.ne (h : Halfway s table bytes s') : s' ≠ s := by
  obtain ⟨csv, d, -, halfway, rfl⟩ := h
  exact fun same => halfway.ne (congrArg Store.database same)

/-- What an import that fails leaves: all as it was, or the table with the columns before the refused
    one. -/
theorem import_failure (isOpen : s.isOpen = true) {e : Store.Error}
    (failed : importBytes s table bytes = (.error e, s')) :
    (s' = s ∧ ¬ AddsFirst s table bytes) ∨
      (Halfway s table bytes s' ∧ AddsFirst s table bytes) := by
  cases read : Csv.table bytes with
  | error cause =>
    rw [importBytes_of_unreadable read] at failed
    refine .inl ⟨(congrArg Prod.snd failed).symm, fun ⟨csv, read', _⟩ => ?_⟩
    rw [read] at read'
    cases read'
  | ok csv =>
    have adds : AddsFirst s table bytes ↔ s.database.AddsFirst table (names csv.header) := by
      refine ⟨fun ⟨csv', read', h⟩ => ?_, fun h => ⟨csv, read, h⟩⟩
      obtain rfl := Except.ok.inj (read.symm.trans read')
      exact h
    rw [importBytes_of_read isOpen read] at failed
    rw [adds]
    split at failed
    · rename_i unnamed
      refine .inl ⟨(congrArg Prod.snd failed).symm, fun ⟨t, first, rest, _, _, _, split, _⟩ => ?_⟩
      rw [unnamed] at split
      cases split
    · split at failed
      · rename_i fault d refused
        obtain rfl := congrArg Prod.snd failed
        rcases Database.ensureTable_error refused with ⟨rfl, first⟩ | ⟨halfway, first⟩
        · exact .inl ⟨rfl, first⟩
        · exact .inr ⟨⟨csv, d, read, halfway, rfl⟩, first⟩
      · cases congrArg Prod.fst failed

/-- The letters from `a` on. -/
def letter (k : Nat) : Char := Char.ofNat (97 + k)

/-- Three letters that write a number below 8000. -/
def letters (i : Nat) : String :=
  String.ofList [letter (i / 400), letter (i / 20 % 20), letter (i % 20)]

/-- As many names as leave room for one more column beside the key. -/
def crowd : List String := (List.range 1998).map letters

theorem letter_inj : ∀ a < 20, ∀ b < 20, (letter a).toLower = (letter b).toLower → a = b := by
  decide

theorem sameIgnoringCase_letters {i j : Nat} (hi : i < 1998) (hj : j < 1998) (differs : i ≠ j) :
    Text.sameIgnoringCase (letters i) (letters j) = false := by
  rw [Bool.eq_false_iff, ne_eq, Text.sameIgnoringCase_iff]
  intro same
  simp only [letters, String.toList_ofList, List.map_cons, List.map_nil, List.cons.injEq] at same
  have high := letter_inj _ (by omega) _ (by omega) same.1
  have middle := letter_inj _ (by omega) _ (by omega) same.2.1
  have low := letter_inj _ (by omega) _ (by omega) same.2.2.1
  omega

theorem dataColumns_crowd : dataColumns crowd = crowd := by
  refine List.filter_eq_self.2 fun n hn => ?_
  obtain ⟨i, -, rfl⟩ := List.mem_map.1 hn
  rw [Text.sameIgnoringCase_of_length_ne (by simp [letters, Sql.keyColumn])]
  rfl

theorem distinct_crowd : Store.Distinct (datasetColumns crowd) := by
  refine List.pairwise_cons.2 ⟨fun c hc => ?_, List.pairwise_map.2 (List.pairwise_map.2 ?_)⟩
  · obtain ⟨n, hn, rfl⟩ := List.mem_map.1 hc
    obtain ⟨i, -, rfl⟩ := List.mem_map.1 hn
    exact Text.sameIgnoringCase_of_length_ne (by simp [letters, Sql.keyColumn, Column.numeric])
  · refine List.pairwise_lt_range.imp_of_mem fun {i j} hi hj less => ?_
    exact sameIgnoringCase_letters (List.mem_range.1 hi) (List.mem_range.1 hj) (by omega)

theorem readable_crowd : ∀ c ∈ dataColumns crowd, Sql.breaksOff c = false := by
  have no_nul : ∀ k < 20, '\x00' ≠ letter k := by decide
  intro c hc
  rw [dataColumns_crowd] at hc
  obtain ⟨i, hi, rfl⟩ := List.mem_map.1 hc
  have few := List.mem_range.1 hi
  have high := no_nul (i / 400) (by omega)
  have middle := no_nul (i / 20 % 20) (by omega)
  have low := no_nul (i % 20) (by omega)
  simp [Sql.breaksOff, letters, high, middle, low]

/-- A table of 1999 columns, made for the crowd. -/
theorem ensureTable_crowd :
    ∃ t, (Store.fresh.ensureTable "cars" crowd).2 = .ofDatabase (Store.fresh.database.add t) ∧
      (Store.fresh.database.add t).table? "cars" = some t ∧ t.columns = datasetColumns crowd := by
  have missing : Store.fresh.database.table? "cars" = none := rfl
  rcases Database.ensureTable_of_missing missing ⟨by decide, by decide⟩ readable_crowd with
    ⟨-, t, made, name, columns, -⟩ | ⟨unfit, -⟩
  · have answers : t.answersTo "cars" = true := by
      rw [Table.answersTo, name, Store.sameIgnoringCase_refl]
    rw [dataColumns_crowd] at columns
    refine ⟨t, ?_, Database.table?_add missing answers, columns⟩
    rw [Store.ensureTable_of_isOpen rfl]
    simp only [made]
    rfl
  · rw [dataColumns_crowd] at unfit
    refine absurd ⟨distinct_crowd, ?_⟩ unfit
    simp [datasetColumns, crowd, maxColumns]

section

variable {t : Table} (columns : t.columns = datasetColumns crowd)

include columns

theorem length_crowd : t.columns.length = 1999 := by simp [columns, datasetColumns, crowd]

/-- No column of the crowd has a name of one letter. -/
theorem length_name_crowd : ∀ c ∈ t.columns, c.name.toList.length ≠ 1 := by
  intro c hc
  rw [columns] at hc
  rcases List.mem_cons.1 hc with rfl | hc
  · decide
  · obtain ⟨n, hn, rfl⟩ := List.mem_map.1 hc
    obtain ⟨i, -, rfl⟩ := List.mem_map.1 hn
    simp [letters, Column.numeric]

theorem lacking_crowd {data : List String} (short : ∀ n ∈ data, n.toList.length = 1) :
    lacking t.columnNames data = data := by
  refine List.filter_eq_self.2 fun n hn => decide_eq_true fun live => ?_
  obtain ⟨c, hc, -, rfl⟩ := Table.mem_columnNames_iff.1 live
  exact length_name_crowd columns c hc (short _ hn)

theorem admits_crowd {n : String} (short : n.toList.length = 1) : t.Admits n := by
  refine ⟨fun c hc => Text.sameIgnoringCase_of_length_ne ?_, ?_⟩
  · rw [short]
    exact length_name_crowd columns c hc
  · rw [length_crowd columns]
    decide

end

end Dataset.Import
