import Dataset.Proofs.Store.Entry
import Dataset.Proofs.Store.Order
import Dataset.Proofs.Store.Selection

/-!
# Asking for a record by its key

A key is a text. The record is looked up whose number is the integer that the text is read as in a column
of integers; no two records of a dataset table have one number.

* `asksFor`: a text asks for a number, which is one at most (`eq_of_asksFor`): it is as large as the number;
* `spells`: a text is read as this integer, and so asks for it (`asksFor_of_spells`), as the text of the
  number does (`spells_ofInt`);
* `Table.recordOf?`: the record of a table whose number a text spells;
* `Table.hasKey`, **`select_keyIs`**: the records of any table that have a key, which a comparison with the
  key selects;
* **`IsDataset.select_keyIs`**: in a dataset table this is the record whose number the text spells, and no
  other;
* `IsDataset.get?_key`: under the key a row shows the number of its record;
* **`get_of_table?`**, **`delete_of_table?`**: so an open store gives its row, or removes it, or says
  that it is not found;
* `get_of_any_table`, `delete_of_any_table`: the same of any table, where several records may have a key;
* `get_delete_of_missing`: both fail alike where there is no table.
-/

namespace Dataset

namespace Store

open Dataset.Filter (Condition)

/-! ## 1. What a key asks for -/

/-- `x`, bound for a column of integers, compares as equal with `n`. -/
def asksFor (x : String) (n : Int) : Bool := (Cell.int n).cmp (Affinity.integer.bound x) == .eq

theorem asksFor_iff {x : String} {n : Int} :
    asksFor x n = true ↔ (Cell.int n).cmp (Affinity.integer.bound x) = .eq := beq_iff_eq

/-- **A text asks for one number at most.** -/
theorem eq_of_asksFor {x : String} {m n : Int} (hm : asksFor x m = true) (hn : asksFor x n = true) :
    m = n :=
  Cell.eq_of_cmp_int (asksFor_iff.1 hm) (asksFor_iff.1 hn)

/-- `x`, bound for a column of integers, is read as the integer `n`. -/
def spells (x : String) (n : Int) : Bool := Affinity.integer.bound x == .int n

theorem spells_iff {x : String} {n : Int} : spells x n = true ↔ Affinity.integer.bound x = .int n :=
  beq_iff_eq

/-- A text asks for the number that it spells. -/
theorem asksFor_of_spells {x : String} {n : Int} (h : spells x n = true) : asksFor x n = true := by
  rw [asksFor_iff, spells_iff.1 h]
  exact Std.compare_self

/-- **A text spells one number at most.** -/
theorem eq_of_spells {x : String} {m n : Int} (hm : spells x m = true) (hn : spells x n = true) : m = n :=
  eq_of_asksFor (asksFor_of_spells hm) (asksFor_of_spells hn)

/-- The text of an integer of 64 bits spells it. -/
theorem spells_ofInt {n : Int} (fits : Number.isInt64 n = true) : spells (Text.ofInt n) n = true := by
  have taken : Affinity.integer.bound (Text.ofInt n) = Affinity.integer.store (.text (Text.ofInt n)) := rfl
  rw [spells_iff, taken, Affinity.integer_store_text, Number.number?_ofInt fits]
  rfl

/-! ## 2. The record of a key -/

namespace Table

variable {t : Table} {r : Record} {x : String}

/-- The record whose number a text spells. -/
def recordOf? (t : Table) (x : String) : Option Record := t.records.find? fun r => spells x r.number

/-- Records of one number are equal. -/
theorem eq_of_number_eq {a b : Record} (ha : a ∈ t.records) (hb : b ∈ t.records)
    (same : a.number = b.number) : a = b := by
  have symmetric : Std.Symm fun i j : Record => i.number ≠ j.number := ⟨fun _ _ h => h.symm⟩
  have different : t.records.Pairwise fun i j => i.number ≠ j.number :=
    t.sorted.imp fun less => Int.ne_of_lt less
  by_contra differs
  exact different.forall ha hb differs same

theorem nodup_records (t : Table) : t.records.Nodup :=
  t.sorted.imp fun less same => absurd (congrArg Record.number same) (Int.ne_of_lt less)

/-- A text spells the number of at most one of the records. -/
theorem eq_of_spells {a b : Record} (ha : a ∈ t.records) (hb : b ∈ t.records)
    (spellsA : spells x a.number = true) (spellsB : spells x b.number = true) : a = b :=
  eq_of_number_eq ha hb (Store.eq_of_spells spellsA spellsB)

theorem recordOf?_eq_some_iff :
    t.recordOf? x = some r ↔ r ∈ t.records ∧ spells x r.number = true := by
  have right {a : Record} (found : t.recordOf? x = some a) :
      a ∈ t.records ∧ spells x a.number = true :=
    ⟨List.mem_of_find?_eq_some found, by simpa using List.find?_some found⟩
  refine ⟨right, fun ⟨among, spelled⟩ => ?_⟩
  cases found : t.recordOf? x with
  | none => exact absurd spelled (List.find?_eq_none.1 found r among)
  | some other =>
    obtain ⟨among', spelled'⟩ := right found
    rw [eq_of_spells among' among spelled' spelled]

theorem recordOf?_eq_none_iff :
    t.recordOf? x = none ↔ ∀ r ∈ t.records, spells x r.number = false := by
  simp [recordOf?]

/-- The text of a record's number spells it. -/
theorem recordOf?_ofInt (among : r ∈ t.records) (fits : Number.isInt64 r.number = true) :
    t.recordOf? (Text.ofInt r.number) = some r :=
  recordOf?_eq_some_iff.2 ⟨among, spells_ofInt fits⟩

/-- A record has a key: the key column is its number, which the text spells, or its value there is equal to
    what the text is taken for in this column. -/
def hasKey (t : Table) (x : String) (r : Record) : Bool :=
  match t.resolve? Sql.keyColumn with
  | none => false
  | some .number => spells x r.number
  | some (.cell i) => (read r (.cell i)).relates .equal ((t.affinityOf (.cell i)).bound x)

/-- A record is picked by a comparison with the key exactly if it has the key. -/
theorem picks_keyIs (known : (t.resolve? Sql.keyColumn).isSome = true) (x : String) (r : Record) :
    t.picks (keyIs x).conditions r = t.hasKey x r := by
  show t.picks [.compare Sql.keyColumn .equal x] r = _
  obtain ⟨place, found⟩ := Option.isSome_iff_exists.1 known
  rw [Bool.eq_iff_iff, picks_singleton_iff, hasKey, found]
  cases place with
  | number =>
    have visited : t.visits [.compare Sql.keyColumn .equal x] r = spells x r.number := by
      simp [visits, numberText?, found, spells]
    rw [visited, meets?_number found, Option.some_inj, and_iff_left_iff_imp]
    intro spelled
    rw [relates_iff, spells_iff.1 spelled]
    exact ⟨by simp, Std.compare_self⟩
  | cell i =>
    have visited : t.visits [.compare Sql.keyColumn .equal x] r = true := by
      simp [visits, numberText?, found, within, shutsOut]
    rw [visited, and_iff_right rfl, meets?, test, operand_none, Test.decide?, Operand.value, cell, bound,
      found, Option.some_inj]
    rfl

/-- **A comparison with the key selects the records that have it**, in a table of any kind, unless there is
    no key column. -/
theorem select_keyIs (t : Table) (x : String) :
    t.select (keyIs x) =
      if (t.resolve? Sql.keyColumn).isSome then .ok (t.records.filter (t.hasKey x))
      else .error (.noSuchColumn Sql.keyColumn) := by
  have names : (keyIs x).columns = [Sql.keyColumn] := rfl
  split_ifs with key
  · have known : t.unknown? (keyIs x).columns = none := by
      simp [unknown?, names, Option.isSome_iff_ne_none.1 key]
    have short : ∀ c ∈ (keyIs x).conditions, ∀ p ∈ c.patterns, p.utf8ByteSize ≤ maxPatternBytes := by
      simp [keyIs, Condition.patterns]
    rcases select_cases known with ⟨-, stalls⟩ | ⟨selected, -⟩
    · exact absurd stalls (not_stalls short)
    · rw [selected, List.filter_congr fun r _ => picks_keyIs key x r]
  · have unknown : t.unknown? (keyIs x).columns = some Sql.keyColumn := by
      simpa [unknown?, names] using key
    rw [select, unknown]

/-- A record of a dataset table has the keys that spell its number. -/
theorem IsDataset.hasKey_eq (h : t.IsDataset) (x : String) :
    t.hasKey x = fun r => spells x r.number := by
  funext r
  rw [hasKey, h.resolve?_key (by decide)]

/-- **A comparison with the key of a dataset table selects the record whose number the text spells, and no
    other.** -/
theorem IsDataset.select_keyIs (h : t.IsDataset) (x : String) :
    t.select (keyIs x) = .ok (t.recordOf? x).toList := by
  have one : t.records.filter (fun r => spells x r.number) = (t.recordOf? x).toList :=
    filter_eq_find? t.nodup_records fun a ha b hb => eq_of_spells ha hb
  have key : t.resolve? Sql.keyColumn = some .number := h.resolve?_key (by decide)
  rw [Table.select_keyIs, key, h.hasKey_eq, one]
  rfl

/-- The key of a dataset table is one of its columns. -/
theorem IsDataset.key_live (h : t.IsDataset) : Sql.keyColumn ∈ t.columnNames := by
  obtain ⟨names, shape⟩ := h.shape
  exact mem_columnNames_iff.2 ⟨⟨Sql.keyColumn, .key⟩, by rw [shape]; exact List.mem_cons_self, rfl, rfl⟩

/-- A row shows the number of its record under the key. -/
theorem IsDataset.get?_key (h : t.IsDataset) (among : r ∈ t.records) :
    (t.row r).get? Sql.keyColumn = some (.int r.number) := by
  obtain ⟨names, shape⟩ := h.shape
  have first : t.columns[0]? = some ⟨Sql.keyColumn, .key⟩ := by
    rw [shape]
    rfl
  have shown : t.shown r Sql.keyColumn = .int r.number :=
    shown_of_getElem? (t.complete r among) first
  rw [get?_row (t.complete r among) h.key_live, shown]
  rfl

/-! ## 3. A table without a record -/

theorem records_remove (t : Table) (test : Record → Bool) :
    (t.remove test).records = t.records.filter fun r => !test r := rfl

/-- Without the records that have a key the others are left. -/
theorem records_remove_hasKey (t : Table) (x : String) :
    (t.remove (t.records.filter (t.hasKey x)).contains).records =
      t.records.filter fun r => !t.hasKey x r := by
  refine List.filter_congr fun r among => congrArg (!·) ?_
  rw [Bool.eq_iff_iff, List.contains_iff_mem, List.mem_filter, and_iff_right among]

/-- Around a record that is removed nothing changes. -/
theorem remove_of_recordOf? (found : t.recordOf? x = some r) :
    ∃ before after, t.records = before ++ r :: after ∧
      (t.remove [r].contains).records = before ++ after := by
  obtain ⟨before, after, split⟩ := List.append_of_mem (recordOf?_eq_some_iff.1 found).1
  have nodup := t.nodup_records
  rw [split, List.nodup_middle, List.nodup_cons] at nodup
  refine ⟨before, after, split, ?_⟩
  have left : (before ++ after).filter (fun y => !([r].contains y)) = before ++ after := by
    refine List.filter_eq_self.2 fun y hy => ?_
    simpa using (ne_of_mem_of_not_mem hy nodup.1)
  rw [records_remove, split, List.filter_append, List.filter_cons_of_neg (by simp), ← List.filter_append, left]

end Table

/-! ## 4. Answers of a store -/

variable {s : Store} {table x : String} {t : Table}

theorem readable_keyIs (x : String) : ∀ n ∈ (keyIs x).columns, Sql.breaksOff n = false := by
  intro n hn
  obtain rfl : n = Sql.keyColumn := by
    simpa [keyIs, Filter.Predicate.columns, Filter.Condition.columns] using hn
  decide

/-- A table that is missing cannot be asked. -/
theorem asked_of_missing (isOpen : s.isOpen = true) (missing : s.database.table? table = none)
    (names : List String) : ∃ fault, s.asked table names = .error (.refused fault) := by
  have absent : s.database.table table = .error (.noSuchTable table) := by
    rw [Database.table, missing]
  rw [asked, connect_of_isOpen isOpen, ok_bind, absent]
  cases Database.checkNames (table :: names) with
  | ok => exact ⟨_, rfl⟩
  | error fault => exact ⟨fault, rfl⟩

/-- **The row of the record that a key asks for is given**, or it is said that there is none. -/
theorem get_of_table? (isOpen : s.isOpen = true) (present : s.database.table? table = some t)
    (h : t.IsDataset) (x : String) :
    s.get table x =
      match t.recordOf? x with
      | some r => .ok (t.row r)
      | none => .error .notFound := by
  have found := asked_of_table? isOpen present (readable_keyIs x)
  rw [get, list, found, ok_bind, h.select_keyIs]
  cases t.recordOf? x <;> rfl

/-- **The record that a key asks for is removed**, or it is said that there is none. -/
theorem delete_of_table? (isOpen : s.isOpen = true) (present : s.database.table? table = some t)
    (h : t.IsDataset) (x : String) :
    s.delete table x =
      match t.recordOf? x with
      | some r => .ok { s with database := s.database.replace table (t.remove [r].contains) }
      | none => .error .notFound := by
  have found := asked_of_table? isOpen present (readable_keyIs x)
  rw [delete, found, ok_bind, h.select_keyIs]
  cases t.recordOf? x <;> rfl

/-- The first of the records that have a key is given, in a table of any kind. -/
theorem get_of_any_table (isOpen : s.isOpen = true) (present : s.database.table? table = some t)
    (x : String) :
    s.get table x =
      if (t.resolve? Sql.keyColumn).isSome then
        match t.records.filter (t.hasKey x) with
        | r :: _ => .ok (t.row r)
        | [] => .error .notFound
      else .error (.refused (.noSuchColumn Sql.keyColumn)) := by
  have found := asked_of_table? isOpen present (readable_keyIs x)
  rw [get, list, found, ok_bind, Table.select_keyIs]
  split_ifs with known
  · cases t.records.filter (t.hasKey x) <;> rfl
  · rfl

/-- All records that have a key are removed, in a table of any kind, if there are some. -/
theorem delete_of_any_table (isOpen : s.isOpen = true) (present : s.database.table? table = some t)
    (x : String) :
    s.delete table x =
      if (t.resolve? Sql.keyColumn).isSome then
        let rs := t.records.filter (t.hasKey x)
        if rs.isEmpty then .error .notFound
        else .ok { s with database := s.database.replace table (t.remove rs.contains) }
      else .error (.refused (.noSuchColumn Sql.keyColumn)) := by
  have found := asked_of_table? isOpen present (readable_keyIs x)
  rw [delete, found, ok_bind, Table.select_keyIs]
  split_ifs with known <;> rfl

/-- Where there is no table, asking for a row and removing it fail alike. -/
theorem get_delete_of_missing (isOpen : s.isOpen = true)
    (missing : s.database.table? table = none) (x : String) :
    ∃ fault, s.get table x = .error (.refused fault) ∧ s.delete table x = .error (.refused fault) := by
  obtain ⟨fault, refused⟩ := asked_of_missing isOpen missing (keyIs x).columns
  refine ⟨fault, ?_, ?_⟩
  · rw [get, list, refused]
    rfl
  · rw [delete, refused]
    rfl

end Store

end Dataset
