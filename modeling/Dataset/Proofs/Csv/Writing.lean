import Dataset.Csv
import Dataset.Proofs.Text.Encoding

/-!
# Reading what was written

Records that were written with every field between quotation marks are read as the same records,
whatever their fields hold: commas, quotation marks, ends of lines, blanks.

* `Reader.run_quoted`: inside quotation marks the doubled marks of a field are undone;
* `Reader.run_writeRecord`: a written record is read as one record;
* **`records_write`**: written records are read as the same records;
* **`table_write`**: a written header and the records below it are read as a table.

A record without fields is written as an empty line, which is read as no record.
-/

namespace Dataset.Csv

/-- The bytes of a text. -/
def bytesOf (s : String) : List UInt8 := Text.Utf8.encode s.toList

theorem text?_bytesOf (s : String) : text? (bytesOf s) = some s := by
  rw [text?, bytesOf, Text.Utf8.decode?_encode, Option.map_some, String.ofList_toList]

/-! ## 1. One record -/

namespace Reader

/-- The reader where a field may begin. -/
def AtField (p : Place) : Prop := p = .startRecord ∨ p = .startField

/-- **Inside quotation marks the doubled marks of a field are undone.** -/
theorem run_quoted (bytes field : List UInt8) (fields : List (List UInt8))
    (records : List (List (List UInt8))) :
    (bytes.flatMap fun b => if b = mark then [b, b] else [b]).foldl step
        ⟨.quoted, field, fields, records⟩ = ⟨.quoted, bytes.reverse ++ field, fields, records⟩ := by
  induction bytes generalizing field with
  | nil => rfl
  | cons b bytes ih =>
    have one : (if b = mark then [b, b] else [b]).foldl step ⟨.quoted, field, fields, records⟩ =
        ⟨.quoted, b :: field, fields, records⟩ := by
      by_cases h : b = mark
      · subst h
        rfl
      · simp [h, step, push]
    rw [List.flatMap_cons, List.foldl_append, one, ih, List.reverse_cons, List.append_assoc]
    rfl

/-- A written field is read up to the quotation mark that ends it. -/
theorem run_writeField {p : Place} (start : AtField p) (s : String) (fields : List (List UInt8))
    (records : List (List (List UInt8))) :
    (writeField s).foldl step ⟨p, [], fields, records⟩ =
      ⟨.atMark, (bytesOf s).reverse, fields, records⟩ := by
  have opened : step ⟨p, [], fields, records⟩ mark = ⟨.quoted, [], fields, records⟩ := by
    rcases start with rfl | rfl <;> rfl
  have closed : step ⟨.quoted, (bytesOf s).reverse, fields, records⟩ mark =
      ⟨.atMark, (bytesOf s).reverse, fields, records⟩ := rfl
  rw [writeField, List.cons_append, List.foldl_cons, opened, List.foldl_append, run_quoted,
    List.append_nil]
  exact closed

/-- **A written record is read as one record.** -/
theorem run_writeRecord {record : List String} (fielded : record ≠ []) {p : Place}
    (start : AtField p) (fields : List (List UInt8)) (records : List (List (List UInt8))) :
    (writeRecord record).foldl step ⟨p, [], fields, records⟩ =
      ⟨.startRecord, [], [], (fields.reverse ++ record.map bytesOf) :: records⟩ := by
  induction record generalizing p fields with
  | nil => exact absurd rfl fielded
  | cons s rest ih =>
    cases rest with
    | nil =>
      have ended : step ⟨.atMark, (bytesOf s).reverse, fields, records⟩ 0x0A =
          endRecord ⟨.atMark, (bytesOf s).reverse, fields, records⟩ := rfl
      have written : writeRecord [s] = writeField s ++ [0x0A] := by simp [writeRecord]
      rw [written, List.foldl_append, run_writeField start, List.foldl_cons, ended]
      simp [endRecord]
    | cons s' rest =>
      -- the comma behind the first field leaves the reader where a field begins
      have separated : step ⟨.atMark, (bytesOf s).reverse, fields, records⟩ comma =
          ⟨.startField, [], (bytesOf s).reverse.reverse :: fields, records⟩ := rfl
      have written : writeRecord (s :: s' :: rest) =
          writeField s ++ comma :: writeRecord (s' :: rest) := by simp [writeRecord]
      rw [written, List.foldl_append, run_writeField start, List.foldl_cons, separated,
        ih (by simp) (.inr rfl)]
      simp

end Reader

/-! ## 2. Records -/

variable {rows : List (List String)}

theorem run_write (fielded : ∀ r ∈ rows, r ≠ []) (before : List (List (List UInt8))) :
    (write rows).foldl Reader.step ⟨.startRecord, [], [], before⟩ =
      ⟨.startRecord, [], [], (rows.map (List.map bytesOf)).reverse ++ before⟩ := by
  induction rows generalizing before with
  | nil => rfl
  | cons r rows ih =>
    obtain ⟨here, there⟩ := List.forall_mem_cons.1 fielded
    rw [write, List.flatMap_cons, List.foldl_append, Reader.run_writeRecord here (.inl rfl)]
    refine (ih there _).trans ?_
    simp

/-- What was written begins with a quotation mark, not with a mark of byte order. -/
theorem withoutMark_write (fielded : ∀ r ∈ rows, r ≠ []) : withoutMark (write rows) = write rows := by
  have plain : byteOrderMark.isPrefixOf (write rows) = false := by
    cases rows with
    | nil => rfl
    | cons r rows =>
      cases r with
      | nil => exact absurd rfl (fielded [] List.mem_cons_self)
      | cons s rest =>
        have begins : ∃ more, write ((s :: rest) :: rows) = mark :: more := by
          cases rest <;> exact ⟨_, rfl⟩
        obtain ⟨more, begins⟩ := begins
        rw [begins]
        rfl
  rw [withoutMark, plain]
  rfl

/-- **Written records are read as the same records.** -/
theorem records_write (fielded : ∀ r ∈ rows, r ≠ []) :
    records (write rows) = rows.map (List.map bytesOf) := by
  rw [records, withoutMark_write fielded, Reader.start, run_write fielded, List.append_nil]
  exact List.reverse_reverse _

theorem fields?_bytesOf (record : List String) : fields? (record.map bytesOf) = some record := by
  rw [fields?]
  induction record with
  | nil => rfl
  | cons s rest ih => rw [List.map_cons, List.mapM_cons, text?_bytesOf, ih]; rfl

theorem headerFields_bytesOf (index : Nat) (header : List String) :
    headerFields index (header.map bytesOf) = .ok header := by
  induction header generalizing index with
  | nil => rfl
  | cons s rest ih =>
    rw [List.map_cons, headerFields, text?_bytesOf]
    simp only [ih]
    rfl

/-- **A written header and the records below it are read as a table.** -/
theorem table_write {header : List String} (named : header ≠ []) (fielded : ∀ r ∈ rows, r ≠ []) :
    table (write (header :: rows)) = .ok ⟨header, rows.map some⟩ := by
  have all : (rows.map (List.map bytesOf)).map fields? = rows.map some := by
    rw [List.map_map]
    exact List.map_congr_left fun r _ => fields?_bytesOf r
  rw [table, records_write (List.forall_mem_cons.2 ⟨named, fielded⟩), List.map_cons]
  simp only [headerFields_bytesOf, all]
  rfl

end Dataset.Csv
