import Dataset.Proofs.Calendar
import Dataset.Proofs.Gateway.Listing
import Dataset.Proofs.Import.Contents

/-!
# Dates that were imported, in order

The store compares dates as texts. The text that an import stores under the name of dates is read as a
date, and what comes before it is found by that text, so dates are in order as far as their texts are.

* `normalize_of_shown`: a text under the name of dates is what the field is normalised to;
* **`lessThan_finds_earlier`**: a filter for what is less than a stored text finds the records whose
  texts are less, which is those of the earlier dates where months and days have two digits and years
  four;
* `unpadded_date_not_found`: a date that was written with fewer digits, and stored so, is not found.
-/

namespace Dataset.Import

open Store (Cell Affinity Table Record namesKey)
open Dataset.Filter (Descriptor written maxBytes)

variable {s s' : Store} {table : String} {bytes : List UInt8} {csv : Csv.Table} {report : Report}

/-- What a date is normalised to is stored as it stands. -/
theorem store_normalized {v d : String} (h : Date.normalize v = some d) :
    Affinity.numeric.store (.text d) = .text d := by
  rw [Affinity.store, Affinity.storeNumeric, Date.number?_normalize h]
  rfl

/-- What a date is normalised to is something to ask for. -/
theorem hasContent_normalized {v d : String} (h : Date.normalize v = some d) :
    Filter.hasContent (some d) = true := by
  obtain ⟨sign, digits, rest, -, -, -, hyphenated⟩ := Date.hyphenated_normalize h
  have blank : Text.isBlankText d = false := by
    rw [Text.isBlankText, List.all_eq_false]
    exact ⟨'-', by simp [hyphenated], by decide⟩
  rw [Filter.hasContent, blank, Bool.not_false]

/-- The name of dates is not that of the key. -/
theorem namesKey_dateColumn : namesKey dateColumn = false := by decide

/-- A text under the name of dates is what a field is normalised to. -/
theorem normalize_of_shown {t : Table} {outcomes : List (Option Record)} (h : Imports csv outcomes t)
    (dated : dateColumn ∈ names csv.header) {r : Record} (among : r ∈ t.records) {d : String}
    (shown : t.shown r dateColumn = .text d) : ∃ v, Date.normalize v = some d := by
  obtain ⟨i, fields, -, -, holds⟩ := h.mem_records.1 among
  rw [holds.shown h.ready dated namesKey_dateColumn] at shown
  obtain ⟨w, hw⟩ : ∃ w, valueUnder csv.header fields dateColumn = some w := by
    refine Option.ne_none_iff_exists'.1 fun none => ?_
    rw [none] at shown
    cases shown
  obtain ⟨v, normal⟩ : ∃ v, Date.normalize v = some w := by
    rw [valueUnder] at hw
    cases field : fieldUnder csv.header fields dateColumn with
    | none =>
      rw [field] at hw
      cases hw
    | some v =>
      rw [field, normalizeCell, if_pos rfl] at hw
      exact ⟨Text.trim v, (Option.ite_none_left_eq_some.1 hw).2⟩
  rw [hw, Cell.ofText?, store_normalized normal] at shown
  exact ⟨v, Cell.text.inj shown ▸ normal⟩

/-- The text of a date is short enough for a filter. -/
theorem written_toText_le {d : Date} (h : d.exists? = true) (common : d.Common) (op : Filter.Operator) :
    (written dateColumn op (some d.toText)).utf8ByteSize ≤ maxBytes := by
  refine (Filter.utf8ByteSize_written_le dateColumn op d.toText).trans ?_
  rw [Date.length_toText h common]
  decide

/-- **`less than` finds what is earlier as far as texts are in the order of dates.** After an import into a
    store without the table, of a header that names `dateColumn`, `Date.iso?` reads every text in this
    column as a date. `less than` the text `d₂` of one record lists another exactly if `d₁ < d₂` as texts;
    hence exactly if its date is `Before`, if both texts are `toText` of their dates and these are `Common`. -/
theorem lessThan_finds_earlier (isOpen : s.isOpen = true) (missing : s.database.table? table = none)
    (read : Csv.table bytes = .ok csv) (done : importBytes s table bytes = (.ok report, s'))
    (dated : dateColumn ∈ names csv.header) :
    ∃ t outcomes, s'.database.table? table = some t ∧ Imports csv outcomes t ∧
      report.summary.inserted = outcomes.reduceOption.length ∧
      ∀ r₁ ∈ t.records, ∀ r₂ ∈ t.records, ∀ d₁ d₂ : String,
        t.shown r₁ dateColumn = .text d₁ → t.shown r₂ dateColumn = .text d₂ →
        ∃ a b : Date, Date.iso? d₁.toList = some a ∧ Date.iso? d₂.toList = some b ∧
          ((written dateColumn .lessThan (some d₂)).utf8ByteSize ≤ maxBytes →
            ∃ rs : List Record,
              Gateway.list s' table (some (written dateColumn .lessThan (some d₂))) none =
                .ok (rs.map t.row) ∧ (r₁ ∈ rs ↔ d₁ < d₂)) ∧
          (d₁ = a.toText → d₂ = b.toText → a.Common → b.Common →
            ∃ rs : List Record,
              Gateway.list s' table (some (written dateColumn .lessThan (some d₂))) none =
                .ok (rs.map t.row) ∧ (r₁ ∈ rs ↔ a.Before b)) := by
  obtain ⟨t, outcomes, isOpen', present, imports, inserted⟩ := import_filled isOpen missing read done
  refine ⟨t, outcomes, present, imports, inserted, ?_⟩
  intro r₁ among₁ r₂ among₂ d₁ d₂ shown₁ shown₂
  obtain ⟨v₁, normal₁⟩ := normalize_of_shown imports dated among₁ shown₁
  obtain ⟨v₂, normal₂⟩ := normalize_of_shown imports dated among₂ shown₂
  obtain ⟨a, readA⟩ := Date.exists_iso?_of_normalize normal₁
  obtain ⟨b, readB⟩ := Date.exists_iso?_of_normalize normal₂
  have less (short : (written dateColumn .lessThan (some d₂)).utf8ByteSize ≤ maxBytes) :
      ∃ rs : List Record,
        Gateway.list s' table (some (written dateColumn .lessThan (some d₂))) none =
          .ok (rs.map t.row) ∧ (r₁ ∈ rs ↔ d₁ < d₂) := by
    let d : Descriptor := ⟨dateColumn, .lessThan, some d₂, by decide,
      fun _ => hasContent_normalized normal₂⟩
    obtain ⟨rs, listed, -, mem⟩ := Gateway.list_written (d := d) isOpen' present
      (imports.ready.live dated namesKey_dateColumn)
      (imports.ready.resolve?_ne_number dated namesKey_dateColumn) rfl short
    refine ⟨rs, listed, ?_⟩
    have bound : (t.declaredAffinity dateColumn).bound d₂ = .text d₂ := by
      rw [imports.ready.declaredAffinity_eq dated namesKey_dateColumn]
      exact store_normalized normal₂
    rw [mem, Table.Holds]
    simp only [d, Option.getD_some, shown₁, bound, among₁, true_and, Cell.cmp, compare_lt_iff_lt,
      ne_eq, reduceCtorEq, not_false_eq_true]
  refine ⟨a, b, readA, readB, less, fun padded₁ padded₂ common₁ common₂ => ?_⟩
  have existsA := Date.exists?_of_iso? readA
  have existsB := Date.exists?_of_iso? readB
  obtain ⟨rs, listed, found⟩ := less (padded₂ ▸ written_toText_le existsB common₂ .lessThan)
  refine ⟨rs, listed, found.trans ?_⟩
  rw [padded₁, padded₂, Date.toText_lt_toText_iff existsA existsB common₁ common₂]

/-- The last day of a year, in the form of the United States, is found to be before a day of the
    next. -/
theorem lessThan_finds_earlier_winter :
    let bytes := Text.Utf8.encode "Date\n12/31/23\n2024-01-05\n".toList
    let csv : Csv.Table := ⟨["Date"], [some ["12/31/23"], some ["2024-01-05"]]⟩
    let report : Report := ⟨⟨2, 0⟩, [], []⟩
    let s' := (importBytes Store.fresh "cars" bytes).2
    Store.fresh.isOpen = true ∧ Store.fresh.database.table? "cars" = none ∧
      Csv.table bytes = .ok csv ∧ importBytes Store.fresh "cars" bytes = (.ok report, s') ∧
      dateColumn ∈ names csv.header ∧
      ∃ (t : Table) (r₁ r₂ : Record) (rs : List Record), s'.database.table? "cars" = some t ∧
        r₁ ∈ t.records ∧ r₂ ∈ t.records ∧ t.shown r₁ dateColumn = .text "2023-12-31" ∧
        t.shown r₂ dateColumn = .text "2024-01-05" ∧
        Gateway.list s' "cars" (some (written dateColumn .lessThan (some "2024-01-05"))) none =
          .ok (rs.map t.row) ∧ r₁ ∈ rs := by
  intro bytes csv report s'
  have missing : Store.fresh.database.table? "cars" = none := rfl
  have read : Csv.table bytes = .ok csv := eq_ok_of_toOption (by decide +kernel)
  have done : importBytes Store.fresh "cars" bytes = (.ok report, s') :=
    Prod.ext (eq_ok_of_toOption (by decide +kernel)) rfl
  have dated : dateColumn ∈ names csv.header := by decide +kernel
  obtain ⟨t, outcomes, present, imports, inserted, finds⟩ :=
    lessThan_finds_earlier rfl missing read done dated
  have record {i : Nat} {fields : List String} {d : String}
      (row : csv.rows[i]? = some (some fields))
      (value : Affinity.numeric.store (.ofText? (valueUnder csv.header fields dateColumn)) =
        .text d) : ∃ r, r ∈ t.records ∧ t.shown r dateColumn = .text d := by
    obtain ⟨r, outcome⟩ :=
      imports.exists_record inserted.symm (List.getElem?_eq_some_iff.1 row).1
    obtain ⟨fields', row', holds⟩ := imports.made i r outcome
    obtain rfl : fields' = fields := by simpa [row] using row'.symm
    refine ⟨r, imports.mem_records.2 ⟨i, fields', outcome, row, holds⟩, ?_⟩
    rw [holds.shown imports.ready dated namesKey_dateColumn, value]
  obtain ⟨r₁, among₁, shown₁⟩ := record (i := 0) (d := "2023-12-31") rfl (by decide +kernel)
  obtain ⟨r₂, among₂, shown₂⟩ := record (i := 1) (d := "2024-01-05") rfl (by decide +kernel)
  obtain ⟨a, b, readA, readB, -, found⟩ := finds r₁ among₁ r₂ among₂ _ _ shown₁ shown₂
  have first : Date.iso? "2023-12-31".toList = some ⟨2023, 12, 31⟩ := by decide +kernel
  have second : Date.iso? "2024-01-05".toList = some ⟨2024, 1, 5⟩ := by decide +kernel
  obtain rfl := Option.some.inj (first.symm.trans readA)
  obtain rfl := Option.some.inj (second.symm.trans readB)
  obtain ⟨rs, listed, mem⟩ := found (by decide +kernel) (by decide +kernel)
    ⟨by decide, by decide⟩ ⟨by decide, by decide⟩
  exact ⟨rfl, missing, read, done, dated, t, r₁, r₂, rs, present, among₁, among₂, shown₁, shown₂,
    listed, mem.2 (by decide)⟩

/-- A date that was written with one digit for its month is stored as it stands, and the filter for
    what is before a later date does not find it. -/
theorem unpadded_date_not_found :
    let bytes := Text.Utf8.encode "Date\n2024-1-15\n2024-02-03\n".toList
    let report : Report := ⟨⟨2, 0⟩, [], []⟩
    let s' := (importBytes Store.fresh "cars" bytes).2
    importBytes Store.fresh "cars" bytes = (.ok report, s') ∧
      (∃ (t : Table) (r₁ r₂ : Record), s'.database.table? "cars" = some t ∧ t.records = [r₁, r₂] ∧
        t.shown r₁ dateColumn = .text "2024-1-15" ∧
        t.shown r₂ dateColumn = .text "2024-02-03") ∧
      Date.iso? "2024-1-15".toList = some ⟨2024, 1, 15⟩ ∧
      Date.iso? "2024-02-03".toList = some ⟨2024, 2, 3⟩ ∧
      Date.Before ⟨2024, 1, 15⟩ ⟨2024, 2, 3⟩ ∧
      Gateway.list s' "cars" (some (written dateColumn .lessThan (some "2024-02-03"))) none =
        .ok [] := by
  intro bytes report s'
  refine ⟨Prod.ext (eq_ok_of_toOption (by decide +kernel)) rfl, ?_, by decide +kernel,
    by decide +kernel, by decide, eq_ok_of_toOption (by decide +kernel)⟩
  let t : Table := ⟨"cars", [⟨Sql.keyColumn, .key⟩, .numeric "Date"], true, 2,
    [⟨1, [.null, .text "2024-1-15"]⟩, ⟨2, [.null, .text "2024-02-03"]⟩], by decide, by decide,
    by unfold Store.Distinct; decide, by decide, by decide⟩
  exact ⟨t, _, _, by decide +kernel, rfl, by decide, by decide⟩

end Dataset.Import
