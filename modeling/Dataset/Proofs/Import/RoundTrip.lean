import Dataset.Proofs.Csv.Writing
import Dataset.Proofs.Date
import Dataset.Proofs.Gateway.Listing
import Dataset.Proofs.Import.Records

/-!
# From written records to listed rows

Records that are written as comma separated values and imported into a store without the table are
listed again: in order, numbered from one, with the cells that their fields stand for.

* `shownField`, `shownRow`: what a field, and a record, is listed as;
* `addRecords_unkeyed`: records that bring no numbers are put behind those that are there, and get
  the next numbers;
* `row_newRecord`: the row of such a record;
* **`import_round_trip`**: the whole way.
-/

namespace Dataset.Import

open Store (Cell Affinity Table Record Database Column namesKey maxColumns)
open Store.Database (Nameable datasetColumns dataColumns)

/-! ## 1. Cells -/

/-- What a field of a record is listed as, under a name. -/
def shownField (name : String) (field : Option String) : Scalar :=
  match field with
  | none => .null
  | some v =>
    if Text.isBlankText v then .null
    else if name = dateColumn then
      match Date.normalize (Text.trim v) with
      | some d => .text d
      | none => .null
    else if name = chargeColumn && Text.trim v == "-" then .null
    else
      match Number.number? v.toList with
      | some n => (Cell.ofNumeric n).scalar
      | none => .text v

/-- What a record is listed as, under its number. -/
def shownRow (header : List String) (number : Int) (fields : List String) : Row :=
  ⟨(Sql.keyColumn, .int number) :: header.mapIdx fun i h => (h, shownField h fields[i]?)⟩

theorem scalar_store_text (v : String) :
    (Affinity.numeric.store (.text v)).scalar =
      match Number.number? v.toList with
      | some n => (Cell.ofNumeric n).scalar
      | none => .text v := by
  rw [Affinity.store, Affinity.storeNumeric]
  cases Number.number? v.toList <;> rfl

/-- **A normalised field is stored as what it is listed as**: a date is no number. -/
theorem scalar_normalizeCell (name : String) (field : Option String) :
    (Affinity.numeric.store (.ofText? (normalizeCell name field))).scalar =
      shownField name field := by
  cases field with
  | none => rfl
  | some v =>
    rw [normalizeCell, shownField]
    split_ifs with blank date charge
    · rfl
    · cases h : Date.normalize (Text.trim v) with
      | none => rfl
      | some d => rw [Cell.ofText?, scalar_store_text, Date.number?_normalize h]
    · rfl
    · exact scalar_store_text v

/-! ## 2. A run of records without numbers -/

theorem place_of_last {r : Record} {rs : List Record} (last : ∀ x ∈ rs, x.number < r.number) :
    Store.place r rs = rs ++ [r] := by
  induction rs with
  | nil => rfl
  | cons x rest ih =>
    obtain ⟨here, there⟩ := List.forall_mem_cons.1 last
    rw [Store.place, if_neg (by omega), ih there, List.cons_append]

/-- A record of the table with a number of its own and the values of a data record. -/
def newRecord (t : Table) (header : List String) (number : Int) (fields : List String) : Record :=
  ⟨number, t.entry (names header) fun n => .ofText? (valueUnder header fields n)⟩

theorem newRecord_congr {t t' : Table} (same : t'.columns = t.columns) :
    newRecord t' = newRecord t := by
  funext header number fields
  rw [newRecord, newRecord, Table.entry, Table.entry, same]

theorem broughtKey_of_unkeyed {header : List String}
    (unkeyed : ∀ n ∈ names header, namesKey n = false) (fields : List String) :
    broughtKey header fields = none := by
  have no_key : (names header).filter namesKey = [] :=
    List.filter_eq_nil_iff.2 fun n hn => by simp [unkeyed n hn]
  rw [broughtKey, Table.keyName?, no_key]
  rfl

variable {s : Store} {table : String} {t : Table} {header : List String}

/-- One record that brings no number: it is put behind those that are there with the next number, or
    there is none. -/
theorem addRecord_unkeyed (isOpen : s.isOpen = true) (present : s.database.table? table = some t)
    (h : Ready header t) (unkeyed : ∀ n ∈ names header, namesKey n = false)
    (fields : List String) :
    (t.highest = Number.maxInt64 ∧
        addRecord s table (keptColumns header) (some fields) = none) ∨
      ∃ t', t.highest < Number.maxInt64 ∧ t'.highest = t.highest + 1 ∧
        t'.records = t.records ++ [newRecord t header (t.highest + 1) fields] ∧
        t'.columns = t.columns ∧ t'.answersTo table = true ∧ Ready header t' ∧
        addRecord s table (keptColumns header) (some fields) =
          some { s with database := s.database.replace table t' } := by
  rcases addRecord_cases isOpen present h (some fields) with
    ⟨refused, done⟩ | ⟨fields', r, t', same, taken, gains, ready, number, cells, done⟩
  · have full := refused fields rfl
    rw [broughtKey_of_unkeyed unkeyed] at full
    exact .inl ⟨full, done⟩
  · obtain rfl := Option.some.inj same
    have bounded := h.dataset.bounded
    rw [broughtKey_of_unkeyed unkeyed, Table.Refuses] at taken
    rw [broughtKey_of_unkeyed unkeyed, Table.Numbers] at number
    have highest : t'.highest = t.highest + 1 := by
      rw [gains.highest]
      omega
    have last : ∀ x ∈ t.records, x.number < r.number := by
      intro x hx
      have low := h.dataset.numbered x hx
      omega
    have records : t'.records = t.records ++ [newRecord t header (t.highest + 1) fields] := by
      rw [gains.records, place_of_last last, newRecord, ← cells, ← number]
    have answers : t'.answersTo table = true := by
      rw [Table.answersTo, gains.name]
      exact Database.answersTo_of_table? present
    exact .inr ⟨t', by omega, highest, records, gains.columns, answers, ready, done⟩

/-- **Records that bring no numbers are put behind those that are there, with the next numbers, as long
    as there are any.** -/
theorem addRecords_unkeyed (isOpen : s.isOpen = true) (present : s.database.table? table = some t)
    (h : Ready header t) (unkeyed : ∀ n ∈ names header, namesKey n = false) (line : Nat)
    (rows : List (List String)) :
    ∃ t', (addRecords table (keptColumns header) line s (rows.map some)).1 =
        { s with database := s.database.replace table t' } ∧
      (addRecords table (keptColumns header) line s (rows.map some)).2.length =
        rows.length - (Number.maxInt64 - t.highest).toNat ∧
      t'.answersTo table = true ∧ t'.columns = t.columns ∧
      t'.records = t.records ++
        (rows.take (Number.maxInt64 - t.highest).toNat).mapIdx fun i fields =>
          newRecord t header (t.highest + 1 + i) fields := by
  -- each record moves the table's largest number on, so the table is generalized with the store
  induction rows generalizing s t line with
  | nil =>
    refine ⟨t, ?_, (Nat.zero_sub _).symm, Database.answersTo_of_table? present, rfl, by simp⟩
    rw [List.map_nil, addRecords, Database.replace_self present]
  | cons fields rows ih =>
    rw [List.map_cons, addRecords]
    rcases addRecord_unkeyed isOpen present h unkeyed fields with
      ⟨full, done⟩ | ⟨t₁, low, highest, first, columns₁, answers₁, ready, done⟩
    · have none_left : (Number.maxInt64 - t.highest).toNat = 0 := by omega
      obtain ⟨t', store, failed, answers, columns, records⟩ := ih isOpen present h (line + 1)
      rw [none_left] at failed records
      rw [done, none_left]
      exact ⟨t', store, by simp [failed], answers, columns, by simpa using records⟩
    · have left : (Number.maxInt64 - t.highest).toNat = (Number.maxInt64 - t₁.highest).toNat + 1 := by
        omega
      obtain ⟨t', store, failed, answers, columns, records⟩ :=
        ih (s := { s with database := s.database.replace table t₁ }) isOpen
          (Database.table?_replace present answers₁) ready (line + 1)
      rw [done, left]
      refine ⟨t', ?_, by rw [failed]; simp, answers, columns.trans columns₁, ?_⟩
      · rw [store, Database.replace_replace answers₁]
      · rw [records, first, newRecord_congr columns₁, List.take_succ_cons, List.mapIdx_cons,
          List.append_assoc, List.singleton_append]
        refine congrArg (t.records ++ ·) (congrArg₂ List.cons (by simp) ?_)
        refine congrArg (List.mapIdx · _) (funext fun i => ?_)
        have next : t₁.highest + 1 + (i : Int) = t.highest + 1 + ((i + 1 : Nat) : Int) := by omega
        rw [next]

/-! ## 3. Rows -/

/-- The names of `header` can be the data columns of one table: there is one, they are trimmed and not empty,
    they differ by more than case, none is the key's, and there are at most 1999. -/
structure Proper (header : List String) : Prop where
  named : header ≠ []
  given : ∀ h ∈ header, h ≠ ""
  trim : ∀ h ∈ header, Text.trim h = h
  readable : ∀ h ∈ header, Sql.breaksOff h = false
  unlike : header.Pairwise fun a b => Text.sameIgnoringCase a b = false
  unkeyed : ∀ h ∈ header, namesKey h = false
  few : header.length ≤ 1999

namespace Proper

theorem trimmed_eq (h : Proper header) : trimmed header = header :=
  (List.map_congr_left h.trim).trans (List.map_id header)

theorem nodup (h : Proper header) : header.Nodup := by
  refine h.unlike.imp fun {a b} unlike same => ?_
  rw [same, Store.sameIgnoringCase_refl] at unlike
  cases unlike

theorem names_eq (h : Proper header) : names header = header := by
  have given : ∀ raw ∈ header, Text.trim raw ≠ "" := by
    intro raw hraw
    rw [h.trim raw hraw]
    exact h.given raw hraw
  have nodup : (trimmed header).Nodup := by
    rw [h.trimmed_eq]
    exact h.nodup
  rw [names_eq_trimmed given nodup, h.trimmed_eq]

theorem dataColumns_eq (h : Proper header) : dataColumns (names header) = header := by
  rw [h.names_eq]
  exact List.filter_eq_self.2 fun n hn => by simpa [namesKey] using h.unkeyed n hn

/-- A table can be made with the headers as its data columns. -/
theorem fits (h : Proper header) :
    Store.Distinct (datasetColumns header) ∧ (datasetColumns header).length ≤ maxColumns := by
  have few := h.few
  refine ⟨List.pairwise_cons.2 ⟨?_, List.pairwise_map.2 h.unlike⟩, ?_⟩
  · intro c hc
    obtain ⟨n, hn, rfl⟩ := List.mem_map.1 hc
    rw [Column.answersTo, Text.sameIgnoringCase_comm]
    exact h.unkeyed n hn
  · simp only [datasetColumns, List.length_cons, List.length_map, maxColumns]
    omega

/-- The table is made. -/
theorem ensureTable_ok (h : Proper header) {d : Database} (nameable : Nameable table)
    (missing : d.table? table = none) :
    ∃ d', d.ensureTable table (names header) = (.ok (), d') := by
  have readable : ∀ c ∈ dataColumns (names header), Sql.breaksOff c = false := by
    rw [h.dataColumns_eq]
    exact h.readable
  rcases Database.ensureTable_of_missing missing nameable readable with
    ⟨-, t, made, -⟩ | ⟨unfit, -⟩
  · exact ⟨_, made⟩
  · rw [h.dataColumns_eq] at unfit
    exact absurd h.fits unfit

/-- The field under a header is the one at its place. -/
theorem valueUnder_getElem (h : Proper header) (fields : List String) {i : Nat}
    (hi : i < header.length) :
    valueUnder header fields header[i] = normalizeCell header[i] fields[i]? := by
  rw [valueUnder, fieldUnder, h.trimmed_eq, h.nodup.idxOf_getElem]

end Proper

/-- **The row of a new record is what its fields are listed as.** -/
theorem row_newRecord (h : Proper header) (columns : t.columns = datasetColumns header)
    (number : Int) (fields : List String) :
    t.row (newRecord t header number fields) = shownRow header number fields := by
  let r := newRecord t header number fields
  have wide : r.cells.length = t.columns.length := List.length_map ..
  have cells : r.cells = t.entry (names header) fun n => .ofText? (valueUnder header fields n) := rfl
  have shown {c : Column} (hc : c ∈ t.columns) := Table.shown_of_entry cells hc
  have key : t.shown r Sql.keyColumn = .int number :=
    shown (c := ⟨Sql.keyColumn, .key⟩) (columns ▸ List.mem_cons_self)
  have data {i : Nat} (hi : i < header.length) :
      (t.shown r header[i]).scalar = shownField header[i] fields[i]? := by
    have live : Column.numeric header[i] ∈ t.columns := by
      rw [columns]
      exact .tail _ (List.mem_map_of_mem (List.getElem_mem hi))
    have named : header[i] ∈ names header := by
      rw [h.names_eq]
      exact List.getElem_mem hi
    have stored : t.shown r header[i] =
        Affinity.numeric.store (.ofText? (valueUnder header fields header[i])) :=
      (shown live).trans (if_pos named)
    rw [stored, h.valueUnder_getElem fields hi, scalar_normalizeCell]
  have shownCells : (header.map Column.numeric).map (fun c => (c.name, (t.shown r c.name).scalar)) =
      header.mapIdx fun i n => (n, shownField n fields[i]?) := by
    refine List.ext_getElem (by simp) fun i _ hi => ?_
    have hi' : i < header.length := by simpa using hi
    simpa [Column.numeric] using data hi'
  rw [Table.row_eq_shown wide, columns, datasetColumns, List.map_cons, shownCells, key, shownRow]
  rfl

/-! ## 4. The whole way -/

/-- **What `Csv.write` writes is imported and listed.** For a `Proper` header and any records with fields,
    the written text is imported into a store without the table, and `list` gives all records in order,
    numbered from one, as `shownRow`s. (`numbered`: there are numbers for `maxInt64` records.) -/
theorem import_round_trip (isOpen : s.isOpen = true) (nameable : Nameable table)
    (missing : s.database.table? table = none) (h : Proper header) {records : List (List String)}
    (fielded : ∀ r ∈ records, r ≠ []) :
    let numbered := records.take Number.maxInt64.toNat
    ∃ report s', importBytes s table (Csv.write (header :: records)) = (.ok report, s') ∧
      report.summary = ⟨numbered.length, records.length - numbered.length⟩ ∧
      Gateway.list s' table none none =
        .ok (numbered.mapIdx fun i fields => shownRow header (i + 1) fields) := by
  intro numbered
  have read := Csv.table_write h.named fielded
  have named : names header ≠ [] := by
    rw [h.names_eq]
    exact h.named
  have unkeyed : ∀ n ∈ names header, namesKey n = false := by
    rw [h.names_eq]
    exact h.unkeyed
  obtain ⟨d, done⟩ := h.ensureTable_ok nameable missing
  obtain ⟨p, prepares, found, ready, -⟩ :=
    ready_of_ensureTable (d := s.database) (by simp [missing]) named done
  rw [Database.Prepares, missing] at prepares
  obtain ⟨-, columns, -, highest, records₀⟩ := prepares
  rw [h.dataColumns_eq] at columns
  obtain ⟨t', store, failed, answers, columns', records'⟩ :=
    addRecords_unkeyed (s := { s with database := d }) isOpen found ready unkeyed firstLine records
  rw [highest, Int.sub_zero] at failed records'
  have present := Database.table?_replace found answers
  have rows : t'.records.map t'.row =
      numbered.mapIdx fun i fields => shownRow header (i + 1) fields := by
    rw [records', records₀, List.nil_append, ← newRecord_congr columns']
    refine List.ext_getElem (by simp [numbered]) fun i _ _ => ?_
    have number : 0 + 1 + (i : Int) = i + 1 := by omega
    rw [List.getElem_map, List.getElem_mapIdx, List.getElem_mapIdx,
      row_newRecord h (columns'.trans columns)]
    exact congrArg (shownRow header · _) number
  rw [importBytes_of_read isOpen read, if_neg named, done]
  refine ⟨_, _, rfl, ?_, ?_⟩
  · have length : numbered.length = min Number.maxInt64.toNat records.length := List.length_take
    have left : records.length - Number.maxInt64.toNat = records.length - numbered.length := by
      omega
    have inserted : records.length - (records.length - numbered.length) = numbered.length := by
      omega
    simp only [failed, List.length_map, left, inserted]
  · have listed := Gateway.list_all (s := { s with database := d.replace table t' }) isOpen present
    rw [store, listed, rows]

/-- Fields that hold commas, quotation marks and ends of lines are listed as they are; dates are in ISO
    form, numbers are numbers, and what is missing or blank is nothing. -/
theorem import_round_trip_fresh :
    let header := ["Brand", "Date", "FastCharge_KmH"]
    let records := [["a,\"b\"\n", " 8/24/16", "-"], ["1e2", "never"], [" ", "2017-1-5", "940", "more"]]
    Store.fresh.isOpen = true ∧ Nameable "cars" ∧ Store.fresh.database.table? "cars" = none ∧
      Proper header ∧ (∀ r ∈ records, r ≠ []) ∧
      ∃ report s', importBytes Store.fresh "cars" (Csv.write (header :: records)) = (.ok report, s') ∧
        report.summary = ⟨3, 0⟩ ∧
        Gateway.list s' "cars" none none = .ok
          [⟨[("id", .int 1), ("Brand", .text "a,\"b\"\n"), ("Date", .text "2016-08-24"),
              ("FastCharge_KmH", .null)]⟩,
            ⟨[("id", .int 2), ("Brand", .int 100), ("Date", .null), ("FastCharge_KmH", .null)]⟩,
            ⟨[("id", .int 3), ("Brand", .null), ("Date", .text "2017-1-5"),
              ("FastCharge_KmH", .int 940)]⟩] := by
  intro header records
  have nameable : Nameable "cars" := ⟨by decide, by decide⟩
  have missing : Store.fresh.database.table? "cars" = none := rfl
  have proper : Proper header := by
    refine ⟨by decide, by decide, by decide +kernel, by decide, ?_, by decide, by decide⟩
    decide
  have fielded : ∀ r ∈ records, r ≠ [] := by decide
  obtain ⟨report, s', done, summary, listed⟩ := import_round_trip rfl nameable missing proper fielded
  refine ⟨rfl, nameable, missing, proper, fielded, report, s', done, ?_, ?_⟩
  · rw [summary]
    decide +kernel
  · rw [listed]
    exact congrArg Except.ok (by decide +kernel)

end Dataset.Import
