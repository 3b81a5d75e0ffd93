import Dataset.Proofs.Import.RoundTrip
import Dataset.Proofs.Store.Order

/-!
# Finding what was imported

The records of an import are found by what was written in the fields of their data records.

* `Missing`: nothing is stored for a field (`normalizeCell_eq_none_iff`);
* `Cell.cmp_storeNumeric`: a text is converted alike on its way into a column and on its way to a
  comparison with it;
* **`equals_finds_written`**: a filter that asks for the text of a field finds the record;
* **`isEmpty_finds_missing`**: a filter that asks for nothing finds the records of which the field is
  missing, and no others.
-/

namespace Dataset

namespace Store

/-- A text is as large as itself, whatever a column of numbers makes of it, and it is a value. -/
theorem Cell.cmp_storeNumeric (v : String) :
    Affinity.storeNumeric (.text v) ≠ .null ∧
      (Affinity.storeNumeric (.text v)).cmp (Affinity.storeNumeric (.text v)) = .eq :=
  ⟨Affinity.integer_store_text_ne_null v, Std.ReflCmp.compare_self⟩

end Store

namespace Import

open Store (Cell Affinity Table Record namesKey)
open Dataset.Filter (Descriptor written maxBytes)

/-! ## 1. Fields for which nothing is stored -/

/-- A field under `name` is stored as nothing: it is not there or blank, no date under `dateColumn`, or a
    hyphen under `chargeColumn`. -/
def Missing (name : String) : Option String → Prop
  | none => True
  | some v => Text.isBlankText v = true ∨
      (name = dateColumn ∧ Date.iso? (Text.trimChars v.toList) = none ∧
        Date.slashed? (Text.trimChars v.toList) = none) ∨
      (name = chargeColumn ∧ Text.trim v = "-")

theorem isBlankText_trim {v : String} (given : Text.isBlankText v = false) :
    Text.isBlankText (Text.trim v) = false := by
  rw [Bool.eq_false_iff, Text.isBlankText, ne_eq, List.all_eq_true, ← Text.trimChars_eq_nil_iff,
    Text.toList_trim, (Text.trimmed_trimChars v.toList).trimChars_eq, Text.trimChars_eq_nil_iff,
    ← List.all_eq_true, ← Text.isBlankText, given]
  simp

/-- The name of dates is not that of missing values. -/
theorem dateColumn_ne_chargeColumn : dateColumn ≠ chargeColumn := by decide

theorem normalizeCell_eq_none_iff (name : String) (field : Option String) :
    normalizeCell name field = none ↔ Missing name field := by
  cases field with
  | none => exact ⟨fun _ => trivial, fun _ => rfl⟩
  | some v =>
    rw [normalizeCell, Missing]
    split_ifs with blank date charge
    · simp [blank]
    · subst date
      rw [Date.normalize_eq_none_iff (isBlankText_trim (by simpa using blank)), Text.toList_trim,
        (Text.trimmed_trimChars v.toList).trimChars_eq]
      simp [blank, dateColumn_ne_chargeColumn]
    · simpa [date] using Or.inr charge
    · simp [blank, date] at charge ⊢
      exact charge

/-- No empty text is stored. -/
theorem normalizeCell_ne_empty (name : String) (field : Option String) :
    normalizeCell name field ≠ some "" := by
  cases field with
  | none => simp [normalizeCell]
  | some v =>
    rw [normalizeCell]
    split_ifs with blank date charge
    · simp
    · intro empty
      exact (Date.hyphenated_normalize empty).ne_nil rfl
    · simp
    · rintro empty
      obtain rfl := Option.some.inj empty
      exact blank rfl

/-- What is stored for a field under a name is neither nothing nor an empty text unless the field is
    missing. -/
theorem store_normalizeCell (name : String) (field : Option String) :
    (Missing name field → Affinity.numeric.store (.ofText? (normalizeCell name field)) = .null) ∧
      (¬ Missing name field →
        Affinity.numeric.store (.ofText? (normalizeCell name field)) ≠ .null ∧
          Affinity.numeric.store (.ofText? (normalizeCell name field)) ≠ .text "") := by
  rw [← normalizeCell_eq_none_iff]
  refine ⟨fun missing => by rw [missing]; rfl, fun given => ?_⟩
  obtain ⟨w, hw⟩ := Option.ne_none_iff_exists'.1 given
  have filled : w ≠ "" := fun empty => normalizeCell_ne_empty name field (hw.trans (empty ▸ rfl))
  rw [hw, Cell.ofText?, Affinity.store, Affinity.storeNumeric]
  rcases Number.number? w.toList with _ | n | r
  · exact ⟨by simp, by simpa using filled⟩
  · simp [Cell.ofNumeric]
  · simp [Cell.ofNumeric]

/-! ## 2. A record by its text -/

variable {s s' : Store} {table : String} {bytes : List UInt8} {csv : Csv.Table} {report : Report}

/-- **`equals` finds a record by the text of its field.** After an import into a store without the table,
    for the record `r` that was made of `fields`, and a field `v` of it that is not blank, under a data
    column other than `dateColumn`, the filter `equals v` lists `r`, whatever the column has made of `v`.
    The field `-` under `chargeColumn` is left out, which stands for a missing value. -/
theorem equals_finds_written (isOpen : s.isOpen = true) (missing : s.database.table? table = none)
    (read : Csv.table bytes = .ok csv) (done : importBytes s table bytes = (.ok report, s')) :
    ∃ t outcomes, s'.database.table? table = some t ∧ Imports csv outcomes t ∧
      report.summary.inserted = outcomes.reduceOption.length ∧
      ∀ (i : Nat) (r : Record) (fields : List String), outcomes[i]? = some (some r) →
        csv.rows[i]? = some (some fields) →
        ∀ n ∈ names csv.header, namesKey n = false → n ≠ dateColumn →
        ∀ v, fieldUnder csv.header fields n = some v → Text.isBlankText v = false →
        ¬ (n = chargeColumn ∧ Text.trim v = "-") →
        (written n .equals (some v)).utf8ByteSize ≤ maxBytes →
        ∃ rs : List Record, Gateway.list s' table (some (written n .equals (some v))) none =
          .ok (rs.map t.row) ∧ r ∈ rs := by
  obtain ⟨t, outcomes, isOpen', present, imports, inserted⟩ := import_filled isOpen missing read done
  refine ⟨t, outcomes, present, imports, inserted, ?_⟩
  intro i r fields outcome row n named data noDate v field given noHyphen short
  obtain ⟨fields', row', holds⟩ := imports.made i r outcome
  obtain rfl : fields' = fields := by simpa [row] using row'.symm
  have namedText : Text.isBlankText n = false := isBlankText_of_mem_names named
  let d : Descriptor := ⟨n, .equals, some v, namedText, fun _ => by simp [Filter.hasContent, given]⟩
  obtain ⟨rs, listed, -, mem⟩ :=
    Gateway.list_written (d := d) isOpen' present (imports.ready.live named data)
      (imports.ready.resolve?_ne_number named data) rfl short
  refine ⟨rs, listed, (mem r).2 ⟨imports.mem_records.2 ⟨i, fields', outcome, row, holds⟩, ?_⟩⟩
  have value : valueUnder csv.header fields' n = some v := by
    rw [valueUnder, field, normalizeCell]
    simp [given, noDate, noHyphen]
  have shown : t.shown r n = Affinity.storeNumeric (.text v) := by
    rw [holds.shown imports.ready named data, value]
    rfl
  have bound : (t.declaredAffinity n).bound v = Affinity.storeNumeric (.text v) := by
    rw [imports.ready.declaredAffinity_eq named data]
    rfl
  rw [Table.Holds]
  simp only [d, Option.getD_some, shown, bound]
  exact Cell.cmp_storeNumeric v

/-- A number that is too large for the column is found by its digits, blanks and exponent. -/
theorem equals_finds_written_huge :
    let bytes := Text.Utf8.encode "A\x60\"\n 1e400 \n".toList
    let csv : Csv.Table := ⟨["A\x60\""], [some [" 1e400 "]]⟩
    let report : Report := ⟨⟨1, 0⟩, [], []⟩
    let s' := (importBytes Store.fresh "cars" bytes).2
    Store.fresh.isOpen = true ∧ Store.fresh.database.table? "cars" = none ∧
      Csv.table bytes = .ok csv ∧ importBytes Store.fresh "cars" bytes = (.ok report, s') ∧
      "A\x60\"" ∈ names csv.header ∧ namesKey "A\x60\"" = false ∧ "A\x60\"" ≠ dateColumn ∧
      fieldUnder csv.header [" 1e400 "] "A\x60\"" = some " 1e400 " ∧
      Text.isBlankText " 1e400 " = false ∧
      ¬ ("A\x60\"" = chargeColumn ∧ Text.trim " 1e400 " = "-") ∧
      (written "A\x60\"" .equals (some " 1e400 ")).utf8ByteSize ≤ maxBytes ∧
      ∃ (t : Table) (r : Record) (rs : List Record), s'.database.table? "cars" = some t ∧
        Gateway.list s' "cars" (some (written "A\x60\"" .equals (some " 1e400 "))) none =
          .ok (rs.map t.row) ∧ r ∈ rs := by
  intro bytes csv report s'
  have missing : Store.fresh.database.table? "cars" = none := rfl
  have read : Csv.table bytes = .ok csv := eq_ok_of_toOption (by decide +kernel)
  have done : importBytes Store.fresh "cars" bytes = (.ok report, s') :=
    Prod.ext (eq_ok_of_toOption (by decide +kernel)) rfl
  have named : "A\x60\"" ∈ names csv.header := by decide +kernel
  have data : namesKey "A\x60\"" = false := by decide
  have noDate : "A\x60\"" ≠ dateColumn := by decide
  have field : fieldUnder csv.header [" 1e400 "] "A\x60\"" = some " 1e400 " := by decide +kernel
  have given : Text.isBlankText " 1e400 " = false := by decide
  have noHyphen : ¬ ("A\x60\"" = chargeColumn ∧ Text.trim " 1e400 " = "-") := by decide
  have short : (written "A\x60\"" .equals (some " 1e400 ")).utf8ByteSize ≤ maxBytes := by
    decide +kernel
  obtain ⟨t, outcomes, present, imports, inserted, finds⟩ :=
    equals_finds_written rfl missing read done
  obtain ⟨r, outcome⟩ := imports.exists_record inserted.symm (i := 0) (by decide)
  obtain ⟨rs, listed, mem⟩ :=
    finds 0 r _ outcome rfl _ named data noDate _ field given noHyphen short
  exact ⟨rfl, missing, read, done, named, data, noDate, field, given, noHyphen, short, t, r, rs,
    present, listed, mem⟩

/-! ## 3. Records of which a field is missing -/

/-- **`is empty` finds what is missing.** After an import into a store without the table, `is empty` on a
    data column lists exactly the records that were made of fields which are `Missing` under it, in the
    order of their numbers, and each shows `null` there. Only if the text of the filter exceeds `maxBytes`,
    it is refused. -/
theorem isEmpty_finds_missing (isOpen : s.isOpen = true) (missing : s.database.table? table = none)
    (read : Csv.table bytes = .ok csv) (done : importBytes s table bytes = (.ok report, s')) :
    ∃ t outcomes, s'.database.table? table = some t ∧ Imports csv outcomes t ∧
      report.summary.inserted = outcomes.reduceOption.length ∧
      ∀ n ∈ names csv.header, namesKey n = false →
        ((written n .isEmpty none).utf8ByteSize ≤ maxBytes →
          ∃ rs : List Record, Gateway.list s' table (some (written n .isEmpty none)) none =
              .ok (rs.map t.row) ∧
            (rs.Pairwise fun a b => a.number < b.number) ∧
            (∀ r ∈ rs, t.shown r n = .null) ∧
            ∀ r, r ∈ rs ↔ ∃ (i : Nat) (fields : List String), outcomes[i]? = some (some r) ∧
              csv.rows[i]? = some (some fields) ∧ Missing n (fieldUnder csv.header fields n)) ∧
        (maxBytes < (written n .isEmpty none).utf8ByteSize →
          Gateway.list s' table (some (written n .isEmpty none)) none =
            .error (.filter (.malformed .oversized))) := by
  obtain ⟨t, outcomes, isOpen', present, imports, inserted⟩ := import_filled isOpen missing read done
  refine ⟨t, outcomes, present, imports, inserted, fun n named data => ⟨fun short => ?_, ?_⟩⟩
  · have namedText : Text.isBlankText n = false := isBlankText_of_mem_names named
    let d : Descriptor := ⟨n, .isEmpty, none, namedText, fun h => Bool.noConfusion h⟩
    obtain ⟨rs, listed, sorted, mem⟩ :=
      Gateway.list_written (d := d) isOpen' present (imports.ready.live named data)
        (imports.ready.resolve?_ne_number named data) rfl short
    have holds_iff {fields : List String} {r : Record} (holds : Holds t csv.header fields r) :
        (t.shown r n = .null ∨ t.shown r n = .text "") ↔
          Missing n (fieldUnder csv.header fields n) := by
      have stored := store_normalizeCell n (fieldUnder csv.header fields n)
      rw [holds.shown imports.ready named data, valueUnder]
      constructor
      · intro blank
        by_contra given
        obtain ⟨value, filled⟩ := stored.2 given
        exact blank.elim value filled
      · exact fun gone => .inl (stored.1 gone)
    refine ⟨rs, listed, sorted, fun r hr => ?_, fun r => ?_⟩
    · obtain ⟨among, blank⟩ := (mem r).1 hr
      obtain ⟨i, fields, -, -, holds⟩ := imports.mem_records.1 among
      rw [holds.shown imports.ready named data]
      exact (store_normalizeCell n _).1 ((holds_iff holds).1 blank)
    · rw [mem, imports.mem_records]
      constructor
      · rintro ⟨⟨i, fields, outcome, row, holds⟩, blank⟩
        exact ⟨i, fields, outcome, row, (holds_iff holds).1 blank⟩
      · rintro ⟨i, fields, outcome, row, gone⟩
        obtain ⟨fields', row', holds⟩ := imports.made i r outcome
        obtain rfl : fields' = fields := by simpa [row] using row'.symm
        exact ⟨⟨i, fields', outcome, row, holds⟩, (holds_iff holds).2 gone⟩
  · exact Gateway.list_written_oversized

/-- One of two records has a hyphen for its charge, and is found. -/
theorem isEmpty_finds_missing_hyphen :
    let bytes := Text.Utf8.encode "FastCharge_KmH\n0\n - \n".toList
    let csv : Csv.Table := ⟨["FastCharge_KmH"], [some ["0"], some [" - "]]⟩
    let report : Report := ⟨⟨2, 0⟩, [], []⟩
    let s' := (importBytes Store.fresh "cars" bytes).2
    Store.fresh.isOpen = true ∧ Store.fresh.database.table? "cars" = none ∧
      Csv.table bytes = .ok csv ∧ importBytes Store.fresh "cars" bytes = (.ok report, s') ∧
      chargeColumn ∈ names csv.header ∧ namesKey chargeColumn = false ∧
      (written chargeColumn .isEmpty none).utf8ByteSize ≤ maxBytes ∧
      ∃ (t : Table) (outcomes : List (Option Record)) (rs : List Record),
        s'.database.table? "cars" = some t ∧ Imports csv outcomes t ∧
        Gateway.list s' "cars" (some (written chargeColumn .isEmpty none)) none =
          .ok (rs.map t.row) ∧
        ∀ r, r ∈ rs ↔ ∃ (i : Nat) (fields : List String), outcomes[i]? = some (some r) ∧
          csv.rows[i]? = some (some fields) ∧
          Missing chargeColumn (fieldUnder csv.header fields chargeColumn) := by
  intro bytes csv report s'
  have missing : Store.fresh.database.table? "cars" = none := rfl
  have read : Csv.table bytes = .ok csv := eq_ok_of_toOption (by decide +kernel)
  have done : importBytes Store.fresh "cars" bytes = (.ok report, s') :=
    Prod.ext (eq_ok_of_toOption (by decide +kernel)) rfl
  have named : chargeColumn ∈ names csv.header := by decide +kernel
  have data : namesKey chargeColumn = false := by decide
  have short : (written chargeColumn .isEmpty none).utf8ByteSize ≤ maxBytes := by decide +kernel
  obtain ⟨t, outcomes, present, imports, -, finds⟩ := isEmpty_finds_missing rfl missing read done
  obtain ⟨rs, listed, -, -, mem⟩ := (finds chargeColumn named data).1 short
  exact ⟨rfl, missing, read, done, named, data, short, t, outcomes, rs, present, imports, listed, mem⟩

/-! ## 4. A name that is too long to ask for -/

/-- A row of letters. -/
def longName (n : Nat) : String := String.ofList (List.replicate n 'a')

/-- A table of its own can have a column of a name of any length. -/
theorem proper_longName {n : Nat} (long : 2 < n) : Proper [longName n] where
  named := by simp
  given := by
    intro h hh empty
    obtain rfl := List.mem_singleton.1 hh
    have length := congrArg (List.length ∘ String.toList) empty
    simp only [Function.comp_apply, longName, String.toList_ofList, List.length_replicate] at length
    exact absurd long (by rw [length]; decide)
  trim := by
    intro h hh
    obtain rfl := List.mem_singleton.1 hh
    exact Text.trim_replicate (by decide) n
  readable := by
    intro h hh
    obtain rfl := List.mem_singleton.1 hh
    simp [Sql.breaksOff, longName, List.mem_replicate]
  unlike := List.pairwise_singleton _ _
  unkeyed := by
    intro h hh
    obtain rfl := List.mem_singleton.1 hh
    refine Text.sameIgnoringCase_of_length_ne ?_
    have key : Sql.keyColumn.toList.length = 2 := by decide
    rw [longName, String.toList_ofList, List.length_replicate, key]
    omega
  few := by simp

/-- A column whose name is longer than a list of filters may be is imported, but no filter can ask for
    what is missing in it. -/
theorem long_name_not_asked :
    ¬ ∀ (s s' : Store) (table : String) (bytes : List UInt8) (csv : Csv.Table) (report : Report),
      s.isOpen = true → s.database.table? table = none → Csv.table bytes = .ok csv →
      importBytes s table bytes = (.ok report, s') →
      ∀ n ∈ names csv.header, namesKey n = false →
        ∃ rows, Gateway.list s' table (some (written n .isEmpty none)) none = .ok rows := by
  intro claimed
  have proper : Proper [longName maxBytes] := proper_longName (by decide)
  have nameable : Store.Database.Nameable "cars" := ⟨by decide, by decide⟩
  have read : Csv.table (Csv.write [[longName maxBytes], ["x"]]) =
      .ok ⟨[longName maxBytes], [some ["x"]]⟩ := Csv.table_write proper.named (by simp)
  have names_eq : names [longName maxBytes] = [longName maxBytes] := proper.names_eq
  have done : ∃ report s', importBytes Store.fresh "cars" (Csv.write [[longName maxBytes], ["x"]]) =
      (.ok report, s') := by
    obtain ⟨d, shaped⟩ := proper.ensureTable_ok (d := Store.fresh.database) nameable rfl
    rw [importBytes_of_read rfl read, if_neg (by simp [names_eq])]
    simp only [shaped]
    exact ⟨_, _, rfl⟩
  obtain ⟨report, s', done⟩ := done
  have named : longName maxBytes ∈ names [longName maxBytes] := by simp [names_eq]
  have data : namesKey (longName maxBytes) = false := proper.unkeyed _ List.mem_cons_self
  obtain ⟨rows, listed⟩ := claimed Store.fresh s' "cars" _ _ report rfl rfl read done _ named data
  have long : maxBytes < (written (longName maxBytes) .isEmpty none).utf8ByteSize := by
    have longer := Filter.length_lt_written (longName maxBytes) .isEmpty none
    rwa [longName, String.toList_ofList, List.length_replicate, ← longName] at longer
  rw [Gateway.list_written_oversized long] at listed
  cases listed

end Import

end Dataset
