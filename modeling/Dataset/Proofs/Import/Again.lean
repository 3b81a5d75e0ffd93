import Dataset.Proofs.Import.Records

/-!
# Importing the same file again

A file whose records bring their own numbers can be imported a second time without any effect. The
table has all the columns that the header names, and every record is refused: one that was entered for
its number, which is taken now, and one that was refused for the reason that it had before.

* `Refuses.of_more`: what is refused for its number stays refused when there are more records;
* `refused_of_entered`: so each record of a run is refused behind the run;
* **`addRecords_of_refused`**: a run of records that are all refused changes nothing;
* **`import_again`**: hence a second import reports every record and leaves the store as it was.
-/

namespace Dataset

namespace Store

/-- A number that is refused stays refused when there are more records. -/
theorem Table.Refuses.of_more {highest highest' : Int} {known known' : List Record} {text : String}
    (h : Refuses highest known (some text)) (more : known ⊆ known') :
    Refuses highest' known' (some text) :=
  h.imp id fun ⟨r, hr, taken⟩ => ⟨r, more hr, taken⟩

end Store

namespace Import

open Store (Table Record Database)
open Store.Table (OneKey Refuses)

variable {s s' : Store} {table : String} {t t' : Table} {header : List String}
  {rows : List (Option (List String))} {outcomes : List (Option Record)}

/-! ## 1. Records that come again -/

/-- A record that brings a number, and what became of it in a run, is refused behind the run. -/
theorem refused_of_outcome (entered : Entered header t rows outcomes t') {i : Nat}
    {fields : List String} {text : String} (row : rows[i]? = some (some fields))
    (brought : keyText header fields = some text) :
    Refused header t'.highest t'.records (some fields) := by
  have inside : i < outcomes.length := by
    rw [entered.length]
    exact (List.getElem?_eq_some_iff.1 row).1
  have outcome := List.getElem?_eq_getElem inside
  show Refuses t'.highest t'.records (keyText header fields)
  rw [brought]
  cases became : outcomes[i] with
  | none =>
    rw [became] at outcome
    have before := (entered.refused i _ row).1 outcome
    rw [Refused, brought] at before
    refine before.of_more fun r hr => entered.records.mem_iff.2 ?_
    have earlier : (outcomes.take i).reduceOption ⊆ outcomes.reduceOption :=
      ((List.take_sublist i outcomes).filterMap id).subset
    exact List.mem_append.2 ((List.mem_append.1 hr).imp_right (@earlier r))
  | some r =>
    rw [became] at outcome
    obtain ⟨given, row', enters⟩ := entered.entered i r outcome
    obtain rfl : given = fields := Option.some.inj (Option.some.inj (row'.symm.trans row))
    have number := enters.number
    rw [brought] at number
    refine .inr ⟨r, entered.records.mem_iff.2 (List.mem_append_right _ ?_), number⟩
    exact List.reduceOption_mem_iff.2 (List.mem_of_getElem? outcome)

/-- **Behind a run of records that bring their numbers each of them is refused.** -/
theorem refused_of_entered (entered : Entered header t rows outcomes t')
    (keyed : ∀ fields, some fields ∈ rows → ∃ text, keyText header fields = some text) :
    ∀ row ∈ rows, Refused header t'.highest t'.records row := by
  intro row hrow
  cases row with
  | none => exact trivial
  | some fields =>
    obtain ⟨i, hi⟩ := List.mem_iff_getElem?.1 hrow
    obtain ⟨text, brought⟩ := keyed fields hrow
    exact refused_of_outcome entered hi brought

/-- **A run of records that are all refused changes nothing, and reports each.** -/
theorem addRecords_of_refused (isOpen : s.isOpen = true)
    (present : s.database.table? table = some t) (h : Ready header t) (one : OneKey (names header))
    (line : Nat)
    (refused : ∀ row ∈ rows, Refused header t.highest t.records row) :
    addRecords table (keptColumns header) line s rows = (s, List.range' line rows.length) := by
  refine addRecords_of_none (fun row hrow => ?_) line
  rcases addRecord_cases isOpen present h row with ⟨-, failed⟩ | ⟨fields, -, -, rfl, taken, -⟩
  · exact failed
  · exact absurd ((refused_iff one _ _ _).1 (refused _ hrow) fields rfl) taken

/-! ## 2. The file again -/

/-- A closed store imports nothing. -/
theorem isOpen_of_importBytes {bytes : List UInt8} {report : Report}
    (done : importBytes s table bytes = (.ok report, s')) : s.isOpen = true := by
  by_contra closed
  rw [importBytes] at done
  split at done
  · cases congrArg Prod.fst done
  · simp only [importTable, Store.ensureTable, Store.connect, if_neg closed] at done
    split at done <;> cases congrArg Prod.fst done

/-- **A file whose records bring their numbers has no effect when it is imported a second time.** At most
    one name of the header is the key's (`OneKey`), and every record that can be read has a field under it
    that is not blank (`keyText`). Then, whatever became of the records the first time, `importBytes`
    reports each of them as refused and leaves the store as it was. -/
theorem import_again {bytes : List UInt8} {csv : Csv.Table} {report : Report}
    (made : ∀ t, s.database.table? table = some t → t.IsDataset)
    (read : Csv.table bytes = .ok csv) (one : OneKey (names csv.header))
    (keyed : ∀ fields, some fields ∈ csv.rows → ∃ text, keyText csv.header fields = some text)
    (done : importBytes s table bytes = (.ok report, s')) :
    importBytes s' table bytes =
      (.ok ⟨⟨0, csv.rows.length⟩, skippedColumns csv.header,
        List.range' firstLine csv.rows.length⟩, s') := by
  have isOpen := isOpen_of_importBytes done
  obtain ⟨named, d, shaped, left, -⟩ := importBytes_ok isOpen read done
  obtain ⟨p, -, found, ready, -⟩ := ready_of_ensureTable made named shaped
  obtain ⟨t', outcomes, store, -, answers, ready', filled⟩ :=
    addRecords_filled (s := { s with database := d }) isOpen found ready firstLine csv.rows
  obtain rfl : { s with database := d.replace table t' } = s' := store.symm.trans left
  have present := Database.table?_replace found answers
  have shaped' : (d.replace table t').ensureTable table (names csv.header) =
      (.ok (), d.replace table t') := by
    refine Database.ensureTable_of_shaped shaped present fun c hc => ?_
    obtain ⟨hn, data⟩ := Store.mem_dataColumns.1 hc
    exact (ready'.known c hn).resolve_left (by simp [data])
  have again := addRecords_of_refused (s := { s with database := d.replace table t' }) isOpen present
    ready' one firstLine (refused_of_entered (filled.entered ready one) keyed)
  rw [importBytes_of_read (s := { s with database := d.replace table t' }) isOpen read, if_neg named]
  simp only [shaped', again, List.length_range', Nat.sub_self]

/-- Of five records one is entered, and the others bring a number that is taken, no number, and no text
    at all; all of them are refused the second time. -/
theorem import_again_garage :
    let s := Store.ofDatabase ⟨[garage]⟩
    let bytes := Text.Utf8.encode "ID, Model\n7,a\n7,b\n1,c\nx,d\n".toList ++ [0xFF]
    let csv : Csv.Table :=
      ⟨["ID", " Model"],
        [some ["7", "a"], some ["7", "b"], some ["1", "c"], some ["x", "d"], none]⟩
    let report : Report := ⟨⟨1, 4⟩, [], [3, 4, 5, 6]⟩
    let s' := (importBytes s "cars" bytes).2
    (∀ t, s.database.table? "cars" = some t → t.IsDataset) ∧ Csv.table bytes = .ok csv ∧
      OneKey (names csv.header) ∧
      (∀ fields, some fields ∈ csv.rows → ∃ text, keyText csv.header fields = some text) ∧
      importBytes s "cars" bytes = (.ok report, s') ∧ s' ≠ s ∧
      importBytes s' "cars" bytes = (.ok ⟨⟨0, 5⟩, [], [2, 3, 4, 5, 6]⟩, s') := by
  intro s bytes csv report s'
  have made : ∀ t, s.database.table? "cars" = some t → t.IsDataset := by
    intro t ht
    have present : s.database.table? "cars" = some garage := by decide
    obtain rfl := Option.some.inj (ht.symm.trans present)
    exact isDataset_garage
  have read : Csv.table bytes = .ok csv := eq_ok_of_toOption (by decide +kernel)
  have one : OneKey (names csv.header) := by unfold OneKey; decide +kernel
  have keyed : ∀ fields, some fields ∈ csv.rows →
      ∃ text, keyText csv.header fields = some text := by
    have all : ∀ row ∈ csv.rows, ∀ fields ∈ row, (keyText csv.header fields).isSome = true := by
      decide +kernel
    exact fun fields hf => Option.isSome_iff_exists.1 (all _ hf fields rfl)
  have done : importBytes s "cars" bytes = (.ok report, s') :=
    Prod.ext (eq_ok_of_toOption (by decide +kernel)) rfl
  exact ⟨made, read, one, keyed, done, by decide +kernel, import_again made read one keyed done⟩

end Import

end Dataset
