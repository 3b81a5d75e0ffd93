import Dataset.Http.Router
import Dataset.Proofs.Gateway.Listing
import Dataset.Proofs.Import.Contents
import Dataset.Proofs.Store.Accuracy

/-!
# Values that were imported, as they are served

A field is stored as it stands unless it is a number from end to end, and then as the number that the
store can hold. What is served of it is the text or a number, which is the written one as long as that has
few digits.

* `Shows`: what is served of a field;
* `shows_served`: what a column of numbers makes of a text shows it;
* **`rows_show_fields`**: so the answer to a request for all rows shows the fields of every record;
* `long_integer_rounded`: an integer of 20 digits is served as another number.
-/

namespace Dataset.Import

open Number (Numeral Spells)
open Store (Table Record namesKey served)

/-- The JSON text `shown` is what an imported `field` is served as: `Json.stringText field` if it is no
    numeral, its value if it is one that `Fits`, else a number near the value, or `null` if that is beyond the
    range. -/
structure Shows (shown field : String) : Prop where
  text : (∀ m, ¬ Spells field.toList m) → shown = Json.stringText field
  fits : ∀ m, Spells field.toList m → m.Readable → m.Fits → Json.Denotes shown m.toRat
  near : ∀ m, Spells field.toList m → m.Readable →
    (shown = "null" ∧ (1 - 1 / 2 ^ 52) * 2 ^ (1024 : Int) < |m.toRat|) ∨
      ∃ q, Json.Denotes shown q ∧ |q - m.toRat| ≤ |m.toRat| / 2 ^ 51 + 2 ^ (-1074 : Int) ∧
        |m.toRat| < 2 ^ (1024 : Int)

theorem shows_served (field : String) : Shows (served field) field where
  text := Store.served_of_not_number
  fits _ spells readable fits := Store.denotes_served_of_fits spells readable fits
  near _ spells readable := Store.served_numeral spells readable

variable {s s' : Store} {table : String} {bytes : List UInt8} {csv : Csv.Table} {report : Report}

/-- A name without a treatment of its own has the field as it stands. -/
theorem valueUnder_of_plain {header fields : List String} {n v : String} (noDate : n ≠ dateColumn)
    (noCharge : n ≠ chargeColumn) (field : fieldUnder header fields n = some v)
    (given : Text.isBlankText v = false) : valueUnder header fields n = some v := by
  rw [valueUnder, field, normalizeCell, given, if_neg Bool.false_ne_true, if_neg noDate,
    if_neg (by simp [noCharge])]

/-- **Fields are served with their values.** After an import into a store without the table, the answer to a
    request for all rows is the text of the rows of all records. For a record that was made of `fields`, and
    a field `v` of it that is not blank, under a name other than those of the key, of dates and of charges,
    the JSON text of the row `Shows` `v`: as a string or as a number. -/
theorem rows_show_fields (isOpen : s.isOpen = true) (missing : s.database.table? table = none)
    (read : Csv.table bytes = .ok csv) (done : importBytes s table bytes = (.ok report, s')) :
    ∃ t outcomes, s'.database.table? table = some t ∧ Imports csv outcomes t ∧
      report.summary.inserted = outcomes.reduceOption.length ∧
      Http.Endpoint.rows.answer s' table none =
        ⟨200, some (Json.arrayText ((t.records.map t.row).map Row.jsonText))⟩ ∧
      ∀ (i : Nat) (r : Record) (fields : List String), outcomes[i]? = some (some r) →
        csv.rows[i]? = some (some fields) → r ∈ t.records ∧
        ∀ n ∈ names csv.header, namesKey n = false → n ≠ dateColumn → n ≠ chargeColumn →
        ∀ v, fieldUnder csv.header fields n = some v → Text.isBlankText v = false →
        ∃ c, (t.row r).get? n = some c ∧ Shows c.jsonText v := by
  obtain ⟨t, outcomes, isOpen', present, imports, inserted⟩ := import_filled isOpen missing read done
  refine ⟨t, outcomes, present, imports, inserted, ?_, ?_⟩
  · have listed := Gateway.list_all isOpen' present
    have nothing : Http.formPairs ((none : Option (List Char)).getD []) = [] := rfl
    simp only [Http.Endpoint.answer, Http.rowsAnswer, nothing, Http.repeated?, Http.parameter?,
      List.find?_nil, Option.map_none, listed]
  · intro i r fields outcome row
    obtain ⟨fields', row', holds⟩ := imports.made i r outcome
    obtain rfl : fields' = fields := by simpa [row] using row'.symm
    have among : r ∈ t.records := imports.mem_records.2 ⟨i, fields', outcome, row, holds⟩
    refine ⟨among, fun n named data noDate noCharge v field given => ?_⟩
    refine ⟨_, Table.get?_row (t.complete r among) (imports.ready.live named data), ?_⟩
    rw [holds.shown imports.ready named data, valueUnder_of_plain noDate noCharge field given]
    exact shows_served v

/-- A decimal number is served as such, and letters as a string. -/
theorem rows_show_fields_decimal :
    let bytes := Text.Utf8.encode "Price,Brand\n1.50,abc\n".toList
    let csv : Csv.Table := ⟨["Price", "Brand"], [some ["1.50", "abc"]]⟩
    let report : Report := ⟨⟨1, 0⟩, [], []⟩
    let s' := (importBytes Store.fresh "cars" bytes).2
    Store.fresh.isOpen = true ∧ Store.fresh.database.table? "cars" = none ∧
      Csv.table bytes = .ok csv ∧ importBytes Store.fresh "cars" bytes = (.ok report, s') ∧
      (∃ m, Spells "1.50".toList m ∧ m.Readable ∧ m.Fits) ∧
      ∃ (t : Table) (r : Record) (price brand : Scalar), s'.database.table? "cars" = some t ∧
        r ∈ t.records ∧ (t.row r).get? "Price" = some price ∧
        Json.Denotes price.jsonText (3 / 2) ∧ (t.row r).get? "Brand" = some brand ∧
        brand.jsonText = "\"abc\"" := by
  intro bytes csv report s'
  have missing : Store.fresh.database.table? "cars" = none := rfl
  have read : Csv.table bytes = .ok csv := eq_ok_of_toOption (by decide +kernel)
  have done : importBytes Store.fresh "cars" bytes = (.ok report, s') :=
    Prod.ext (eq_ok_of_toOption (by decide +kernel)) rfl
  let m : Numeral :=
    ⟨[], ['1'], some ['5', '0'], none, .inl rfl, by simp, List.all_eq_true.1 (by decide)⟩
  have spells : Spells "1.50".toList m := ⟨[], [], by simp, by simp, by decide⟩
  have readable : m.Readable := .inl (by decide)
  have value : m.toRat = 3 / 2 := by
    have digits : Text.decimalValue ['1', '5', '0'] = 150 := by decide
    simp [m, Numeral.toRat, Number.signed, Numeral.negative, Numeral.magnitude, Numeral.behind,
      Numeral.tens, digits]
    norm_num
  have fits : m.Fits := .inr (.inr ⟨1500, by decide, by rw [value]; norm_num⟩)
  have letters : ∀ m, ¬ Spells "abc".toList m := fun m spells => by
    have scanned := Number.scan_of_spells spells
    have unread : Number.scan "abc".toList = none := by decide
    rw [unread] at scanned
    cases scanned
  obtain ⟨t, outcomes, present, imports, inserted, -, shows⟩ := rows_show_fields rfl missing read done
  obtain ⟨r, outcome⟩ := imports.exists_record inserted.symm (by decide : 0 < csv.rows.length)
  obtain ⟨among, cells⟩ := shows 0 r _ outcome rfl
  obtain ⟨price, priced, shown⟩ := cells "Price" (by decide +kernel) (by decide) (by decide)
    (by decide) "1.50" (by decide +kernel) (by decide)
  obtain ⟨brand, branded, shown'⟩ := cells "Brand" (by decide +kernel) (by decide) (by decide)
    (by decide) "abc" (by decide +kernel) (by decide)
  refine ⟨rfl, missing, read, done, ⟨m, spells, readable, fits⟩, t, r, price, brand, present, among,
    priced, value ▸ shown.fits m spells readable fits, branded, (shown'.text letters).trans (by decide)⟩

/-- The digits of an integer that is beyond 64 bits. -/
def longInteger : Nat := 12345678901234567890

/-- An integer of 20 digits is served as another number. -/
theorem long_integer_rounded :
    let bytes := Text.Utf8.encode "A\n12345678901234567890\n".toList
    let report : Report := ⟨⟨1, 0⟩, [], []⟩
    let s' := (importBytes Store.fresh "cars" bytes).2
    importBytes Store.fresh "cars" bytes = (.ok report, s') ∧
      Http.Endpoint.rows.answer s' "cars" none =
        ⟨200, some "[\x7b\"id\":1,\"A\":1.2345678901234567e+19\x7d]"⟩ ∧
      Json.Denotes "1.2345678901234567e+19" 12345678901234567000 ∧
      Spells "12345678901234567890".toList (Numeral.ofNat longInteger) ∧
      (Numeral.ofNat longInteger).toRat = 12345678901234567890 ∧
      ¬ Json.Denotes "1.2345678901234567e+19" 12345678901234567890 := by
  intro bytes report s'
  have denotes : Json.Denotes "1.2345678901234567e+19" 12345678901234567000 := by
    refine ⟨eq_ok_of_toOption (by decide), ⟨[], ['1'], some "2345678901234567".toList,
      some ⟨'e', ['+'], ['1', '9'], .inl rfl, .inr (.inr rfl), by simp,
        List.all_eq_true.1 (by decide)⟩, .inl rfl, by simp, List.all_eq_true.1 (by decide)⟩,
      by decide, ?_⟩
    have digits : Text.decimalValue ('1' :: "2345678901234567".toList) = 12345678901234567 := by decide
    have places : Text.decimalValue ['1', '9'] = 19 := by decide
    have length : "2345678901234567".toList.length = 16 := by decide
    simp only [Numeral.toRat, Numeral.magnitude, Numeral.behind, Numeral.tens, Numeral.negative,
      Number.signed, Number.Exponent.value, Option.getD_some, Option.map_some, List.singleton_append,
      digits, places, length]
    rw [if_neg (by decide), if_neg (by decide)]
    norm_num
  refine ⟨Prod.ext (eq_ok_of_toOption (by decide +kernel)) rfl, by decide +kernel, denotes, ?_, ?_,
    fun other => ?_⟩
  · exact ⟨[], [], by simp, by simp, by decide +kernel⟩
  · rw [Numeral.toRat]
    exact Number.Numeral.magnitude_ofNat longInteger
  · have same := denotes.unique other
    norm_num at same

end Dataset.Import
