import Dataset.Proofs.Gateway.Agreement
import Dataset.Proofs.Import.Dates

/-!
# Dates that are read back

A field under the name of dates is normalised before it is stored, and what it is normalised to is never a
number. So it is stored as a text, and whoever reads the row reads this text.

* `not_blank_of_normalize`: a blank field is no date;
* `shown_date`: the record of a data record shows the normalised field;
* **`dates_served`**: after an import into a store that operations lead to, every way to read the row of
  a data record gives the normalised field.
-/

namespace Dataset.Import

open Store (Cell Affinity Table Record Operation namesKey)

variable {t : Table} {header fields : List String} {r : Record}

/-- A blank field is no date. -/
theorem not_blank_of_normalize {v d : String} (h : Date.normalize (Text.trim v) = some d) :
    Text.isBlankText v = false := by
  cases blank : Text.isBlankText v with
  | false => rfl
  | true =>
    have nothing : Text.trim v = "" := by
      rw [Text.isBlankText, List.all_eq_true, ← Text.trimChars_eq_nil_iff] at blank
      rw [Text.trim, blank]
    have unread : Date.normalize "" = none := by decide +kernel
    rw [nothing, unread] at h
    cases h

/-- **The record of a data record shows the normalised field under the name of dates.** -/
theorem shown_date (holds : Holds t header fields r) (ready : Ready header t)
    (dated : dateColumn ∈ names header) {v d : String}
    (field : fieldUnder header fields dateColumn = some v)
    (normal : Date.normalize (Text.trim v) = some d) : t.shown r dateColumn = .text d := by
  have value : valueUnder header fields dateColumn = some d := by
    rw [valueUnder, field, normalizeCell, not_blank_of_normalize normal, if_neg (by simp), if_pos rfl,
      normal]
  rw [holds.shown ready dated namesKey_dateColumn, value, Cell.ofText?, store_normalized normal]

/-- **Dates are served as `normalize` gives them.** What `normalize` gives is the text of no number. After
    an import into a store that a run of operations reached from `Store.fresh`, of a header that names
    `dateColumn`, every record `r` that was made is in the table; and where its field under `dateColumn` is
    normalised to `d`, its row holds `d`: the row in the list of all rows, the row that `get` gives by its
    number, and every row with this number that `get` or `list` ever gives. -/
theorem dates_served (operations : List Operation) {table : String} {bytes : List UInt8}
    {csv : Csv.Table} {report : Report} {s' : Store} (read : Csv.table bytes = .ok csv)
    (done : importBytes (Store.fresh.run operations) table bytes = (.ok report, s'))
    (dated : dateColumn ∈ names csv.header) :
    (∀ v d : String, Date.normalize v = some d → Number.number? d.toList = none) ∧
      ∃ (t : Table) (outcomes : List (Option Record)), s'.database.table? table = some t ∧
        outcomes.length = csv.rows.length ∧
        report.summary.inserted = outcomes.reduceOption.length ∧
        ∀ (i : Nat) (r : Record), outcomes[i]? = some (some r) →
          ∃ fields, csv.rows[i]? = some (some fields) ∧
            ∀ v d, fieldUnder csv.header fields dateColumn = some v →
              Date.normalize (Text.trim v) = some d →
              (t.row r).get? dateColumn = some (.text d) ∧
                Gateway.get s' table (Text.ofInt r.number) = .ok (t.row r) ∧
                (∃ rows, Gateway.list s' table none none = .ok rows ∧ t.row r ∈ rows) ∧
                (∀ x row, Gateway.get s' table x = .ok row →
                  row.get? Sql.keyColumn = some (.int r.number) → row = t.row r) ∧
                ∀ filters search rows, Gateway.list s' table filters search = .ok rows →
                  ∀ row ∈ rows, row.get? Sql.keyColumn = some (.int r.number) → row = t.row r := by
  refine ⟨fun v d => Date.number?_normalize, ?_⟩
  let s := Store.fresh.run operations
  have k : s.Sound := Store.sound_run operations
  have k' : s'.Sound := by
    have reached : s.run [.load table bytes] = s' := congrArg Prod.snd done
    exact reached ▸ k.run _
  obtain ⟨p, t, outcomes, -, -, present, ready, filled, inserted⟩ :=
    import_fills k.isOpen (fun t found => (k.tables table t found).toIsDataset) read done
  have sound := k'.tables table t present
  refine ⟨t, outcomes, present, filled.length, inserted, fun i r outcome => ?_⟩
  obtain ⟨fields, row, holds, -⟩ := filled.made i r outcome
  have among : r ∈ t.records := by
    rw [filled.records.mem_iff, List.mem_append, List.reduceOption_mem_iff]
    exact .inr (List.mem_of_getElem? outcome)
  -- no other record has this number
  have only {other : Row} (read : ∃ x ∈ t.records, other = t.row x)
      (key : other.get? Sql.keyColumn = some (.int r.number)) : other = t.row r := by
    obtain ⟨x, hx, rfl⟩ := read
    rw [sound.get?_key hx] at key
    rw [Table.eq_of_number_eq hx among (Scalar.int.inj (Option.some.inj key))]
  refine ⟨fields, row, fun v d field normal => ⟨?_, ?_, ?_, fun x other given => ?_,
    fun filters search rows listed other hother => ?_⟩⟩
  · have live := ready.live dated namesKey_dateColumn
    rw [Table.get?_row (t.complete r among) live, shown_date holds ready dated field normal]
    rfl
  · rw [Gateway.get_of_record k' present, sound.recordOf?_ofInt among]
  · exact ⟨_, Gateway.list_all k'.isOpen present, List.mem_map_of_mem among⟩
  · exact only (Gateway.exists_record_of_get k' present given)
  · exact only (Gateway.exists_record_of_list k' present listed other hother)

/-- The last day of a year, in the form of the United States and between blanks, comes back as the text
    that it was normalised to. -/
theorem dates_served_winter :
    let operations : List Operation := [.change (.shape "cars" ["Brand"])]
    let bytes := Text.Utf8.encode "Date\n 12/31/23 \n".toList
    let csv : Csv.Table := ⟨["Date"], [some [" 12/31/23 "]]⟩
    let report : Report := ⟨⟨1, 0⟩, [], []⟩
    let s' := (importBytes (Store.fresh.run operations) "cars" bytes).2
    let row : Row := ⟨[("id", .int 1), ("Brand", .null), ("Date", .text "2023-12-31")]⟩
    Csv.table bytes = .ok csv ∧
      importBytes (Store.fresh.run operations) "cars" bytes = (.ok report, s') ∧
      dateColumn ∈ names csv.header ∧ Gateway.list s' "cars" none none = .ok [row] ∧
      row.get? dateColumn = some (.text "2023-12-31") ∧
      ∃ n, Gateway.get s' "cars" (Text.ofInt n) = .ok row := by
  intro operations bytes csv report s' row
  have read : Csv.table bytes = .ok csv := eq_ok_of_toOption (by decide +kernel)
  have done : importBytes (Store.fresh.run operations) "cars" bytes = (.ok report, s') :=
    Prod.ext (eq_ok_of_toOption (by decide +kernel)) rfl
  have dated : dateColumn ∈ names csv.header := by decide +kernel
  have all : Gateway.list s' "cars" none none = .ok [row] := eq_ok_of_toOption (by decide +kernel)
  obtain ⟨-, t, outcomes, -, length, inserted, served⟩ := dates_served operations read done dated
  -- the only data record was entered
  obtain ⟨outcome, rfl⟩ := List.length_eq_one_iff.1 length
  obtain ⟨r, rfl⟩ : ∃ r, outcome = some r := by
    cases outcome with
    | none => cases inserted
    | some r => exact ⟨r, rfl⟩
  obtain ⟨fields, line, shows⟩ := served 0 r rfl
  obtain rfl : [" 12/31/23 "] = fields := Option.some.inj (Option.some.inj line)
  obtain ⟨dateText, given, ⟨rows, listed, among⟩, -⟩ :=
    shows " 12/31/23 " "2023-12-31" (by decide +kernel) (by decide +kernel)
  obtain rfl := Except.ok.inj (all.symm.trans listed)
  rw [List.mem_singleton.1 among] at dateText given
  exact ⟨read, done, dated, all, dateText, _, given⟩

end Dataset.Import
