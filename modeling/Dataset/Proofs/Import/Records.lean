import Dataset.Proofs.Import.Contents

/-!
# What an import makes of its records

The data records of an import are put one after another into the table that its header has shaped. Each
becomes one record of the table, or is refused for its number and changes nothing.

* `Refused`: a data record is refused, said of the numbers that are taken when its turn comes;
* `Enters`: the record that another data record becomes, said column by column;
* `Entered`, **`Filled.entered`**: a run of them;
* **`import_exact`**: so an import that succeeds accounts for every data record.
-/

namespace Dataset.Import

open Store (Cell Affinity Table Record Database Column namesKey)
open Store.Table (OneKey Refuses Numbers)

/-! ## 1. One data record -/

/-- The text that `fields` brings for the number of its record: the field under the name of the key, unless it
    is blank. -/
def keyText (header fields : List String) : Option String :=
  ((names header).find? namesKey).bind fun n =>
    (fieldUnder header fields n).filter fun v => !Text.isBlankText v

/-- A data record is refused: it is no text, or what it brings for its number is refused. `known` are
    the records that are there when its turn comes, `highest` is the largest number ever given. -/
def Refused (header : List String) (highest : Int) (known : List Record) :
    Option (List String) → Prop
  | none => True
  | some fields => Refuses highest known (keyText header fields)

/-- `fields` enters the table as `r`: numbered by `keyText`, or behind `highest`, with the normalized field
    under every other name of `header`, stored by the affinity of the column, and nothing elsewhere. -/
structure Enters (header : List String) (t : Table) (highest : Int) (fields : List String)
    (r : Record) : Prop where
  number : Numbers highest r.number (keyText header fields)
  given : ∀ n ∈ names header, namesKey n = false →
    t.shown r n = (t.declaredAffinity n).store
      (.ofText? (normalizeCell n (fieldUnder header fields n)))
  absent : ∀ c ∈ t.columns, c.isKey = false → c.name ∉ names header → t.shown r c.name = .null

/-- Under a name of the key a text is kept as it stands. -/
theorem keyText_eq (header fields : List String) :
    ((names header).find? namesKey).bind (valueUnder header fields) = keyText header fields := by
  rw [keyText]
  cases found : (names header).find? namesKey with
  | none => rfl
  | some n =>
    have key : namesKey n = true := by simpa using List.find?_some found
    have no_date : n ≠ dateColumn := by
      rintro rfl
      exact absurd key (by decide)
    have no_charge : n ≠ chargeColumn := by
      rintro rfl
      exact absurd key (by decide)
    rw [Option.bind_some, Option.bind_some, valueUnder]
    cases fieldUnder header fields n with
    | none => rfl
    | some v => cases blank : Text.isBlankText v <;> simp [normalizeCell, Option.filter, no_date,
        no_charge, blank]

variable {s : Store} {table : String} {t t' : Table} {header : List String}

/-- Where one name at most is the key's, it is the text under this name. -/
theorem broughtKey_eq (one : OneKey (names header)) (fields : List String) :
    broughtKey header fields = keyText header fields := by
  rw [broughtKey, Store.Table.keyName?_of_one (nodup_names header) one, keyText_eq]

/-- So a data record is refused for what it brings. -/
theorem refused_iff (one : OneKey (names header)) (highest : Int) (known : List Record)
    (row : Option (List String)) :
    Refused header highest known row ↔
      ∀ fields ∈ row, Refuses highest known (broughtKey header fields) := by
  cases row with
  | none => simp [Refused]
  | some fields => simp [Refused, broughtKey_eq one]

/-- A record that holds the fields of a data record shows them under its columns. -/
theorem Ready.enters (h : Ready header t) {highest : Int} {fields : List String} {r : Record}
    (holds : Holds t header fields r) (number : Numbers highest r.number (keyText header fields)) :
    Enters header t highest fields r := by
  refine ⟨number, fun n hn data => ?_, fun c hc data out => ?_⟩
  · rw [holds.shown h hn data, h.declaredAffinity_eq hn data]
    rfl
  · rw [Table.shown_of_entry holds hc, data, if_neg (by simp), if_neg out]

/-! ## 2. A run of data records -/

/-- `t'` is `t` once `rows` were put into it one after another: `outcomes` has for each row the record that
    was added, or `none` where it was `Refused` in view of the records added before it. -/
structure Entered (header : List String) (t : Table) (rows : List (Option (List String)))
    (outcomes : List (Option Record)) (t' : Table) : Prop where
  columns : t'.columns = t.columns
  highest : t'.highest = largest t.highest outcomes.reduceOption
  records : t'.records.Perm (t.records ++ outcomes.reduceOption)
  length : outcomes.length = rows.length
  refused : ∀ i row, rows[i]? = some row →
    (outcomes[i]? = some none ↔
      Refused header (largest t.highest (outcomes.take i).reduceOption)
        (t.records ++ (outcomes.take i).reduceOption) row)
  entered : ∀ i r, outcomes[i]? = some (some r) → ∃ fields, rows[i]? = some (some fields) ∧
    Enters header t (largest t.highest (outcomes.take i).reduceOption) fields r

variable {rows : List (Option (List String))} {outcomes : List (Option Record)}

/-- **Data records that fill a table are refused, or become one record of the table each.** -/
theorem Filled.entered (h : Filled header t rows outcomes t') (ready : Ready header t)
    (one : OneKey (names header)) : Entered header t rows outcomes t' where
  columns := h.columns
  highest := h.highest
  records := h.records
  length := h.length
  refused i row hrow := by rw [h.refused i row hrow, refused_iff one]
  entered i r hr := by
    obtain ⟨fields, row, holds, numbers⟩ := h.made i r hr
    rw [broughtKey_eq one] at numbers
    exact ⟨fields, row, ready.enters ((holds_congr h.columns fields r).1 holds) numbers⟩

/-! ## 3. An import that succeeds -/

/-- **An import that succeeds accounts for every data record.** The table is shaped for the names of the
    header (`Prepares`): made, or widened by the columns that it lacks. The data records are put into it one
    after another, each refused or made a record, as `Entered` says. All are counted, and no other table is
    touched. (A header with several names of the key is left out by `OneKey`.) -/
theorem import_exact {s' : Store} {bytes : List UInt8} {csv : Csv.Table} {report : Report}
    (isOpen : s.isOpen = true) (made : ∀ t, s.database.table? table = some t → t.IsDataset)
    (read : Csv.table bytes = .ok csv) (one : OneKey (names csv.header))
    (done : importBytes s table bytes = (.ok report, s')) :
    ∃ p t' outcomes, s.database.Prepares table (names csv.header) p ∧
      s'.database.table? table = some t' ∧ t'.IsDataset ∧
      Entered csv.header p csv.rows outcomes t' ∧
      report.summary.inserted = outcomes.reduceOption.length ∧
      report.summary.inserted + report.summary.failed = csv.rows.length ∧
      ∀ other, Text.sameIgnoringCase table other = false →
        s'.database.table? other = s.database.table? other := by
  rw [importBytes_of_read isOpen read] at done
  split at done
  · cases congrArg Prod.fst done
  · rename_i named
    split at done
    · cases congrArg Prod.fst done
    · rename_i d shaped
      obtain ⟨p, prepares, found, ready, others⟩ := ready_of_ensureTable made named shaped
      obtain ⟨t', outcomes, store, failed, answers, ready', filled⟩ :=
        addRecords_filled (s := { s with database := d }) isOpen found ready firstLine csv.rows
      have count := count_none_add_length_reduceOption outcomes
      have length := filled.length
      obtain ⟨reported, rfl⟩ := Prod.mk.inj done
      obtain rfl := Except.ok.inj reported
      simp only [store, failed]
      refine ⟨p, t', outcomes, prepares, Database.table?_replace found answers, ready'.dataset,
        filled.entered ready one, by omega, by omega, fun other differs => ?_⟩
      rw [Database.table?_replace_other answers differs, others other differs]

/-- A dataset table of one car. -/
def garage : Table :=
  ⟨"cars", [⟨Sql.keyColumn, .key⟩, .numeric "Brand"], true, 1, [⟨1, [.null, .text "x"]⟩],
    by decide, by decide, by unfold Store.Distinct; decide, by decide, by decide⟩

theorem isDataset_garage : garage.IsDataset :=
  ⟨⟨["Brand"], rfl⟩, by decide, rfl, by decide, by decide, by decide⟩

/-- Of five data records under a key and a new column two are entered; the others bring a number that
    is taken, one that is no integer, and no text at all. -/
theorem import_exact_garage :
    let s := Store.ofDatabase ⟨[garage]⟩
    let bytes := Text.Utf8.encode "id, Model\n7,a\n7,b\nx,c\n,d\n".toList ++ [0xFF]
    let csv : Csv.Table :=
      ⟨["id", " Model"],
        [some ["7", "a"], some ["7", "b"], some ["x", "c"], some ["", "d"], none]⟩
    let report : Report := ⟨⟨2, 3⟩, [], [3, 4, 6]⟩
    let s' := (importBytes s "cars" bytes).2
    s.isOpen = true ∧ (∀ t, s.database.table? "cars" = some t → t.IsDataset) ∧
      Csv.table bytes = .ok csv ∧ OneKey (names csv.header) ∧
      importBytes s "cars" bytes = (.ok report, s') ∧
      ∃ p t' outcomes, s.database.Prepares "cars" (names csv.header) p ∧
        s'.database.table? "cars" = some t' ∧ t'.IsDataset ∧
        Entered csv.header p csv.rows outcomes t' ∧
        report.summary.inserted = outcomes.reduceOption.length ∧
        report.summary.inserted + report.summary.failed = csv.rows.length ∧
        ∀ other, Text.sameIgnoringCase "cars" other = false →
          s'.database.table? other = s.database.table? other := by
  intro s bytes csv report s'
  have made : ∀ t, s.database.table? "cars" = some t → t.IsDataset := by
    intro t ht
    have present : s.database.table? "cars" = some garage := by decide
    obtain rfl := Option.some.inj (ht.symm.trans present)
    exact isDataset_garage
  have read : Csv.table bytes = .ok csv := eq_ok_of_toOption (by decide +kernel)
  have one : OneKey (names csv.header) := by unfold OneKey; decide +kernel
  have done : importBytes s "cars" bytes = (.ok report, s') :=
    Prod.ext (eq_ok_of_toOption (by decide +kernel)) rfl
  exact ⟨rfl, made, read, one, done, import_exact rfl made read one done⟩

end Dataset.Import
