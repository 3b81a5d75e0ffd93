import Dataset.Proofs.Number.Canonical
import Dataset.Proofs.Store.Rows
import Dataset.Proofs.Store.Shape
import Mathlib.Data.List.Nodup

/-!
# New records of a dataset table

A dataset table is what `ensureTable` makes: the key, then columns of numbers, numbered automatically.
A record that is put into it brings values for some of its columns. It is refused for its number only,
and otherwise changes nothing but its own place.

* `Table.IsDataset`: the shape, and that no number is larger than the largest ever given;
* `namesKey`: the name refers to the key of every dataset table;
* `Table.Refuses`, `Table.Numbers`: a text for the number of a new record is refused, gives a number;
* `Table.Gains`: a table with one more record;
* `Table.keyName?`: the name under which a new record brings its number;
* **`IsDataset.insert_spec`**: a record is added, with its values as the columns store them, exactly if its
  number is not refused.
-/

namespace Dataset

namespace Store

/-- The name refers to the key of every dataset table. -/
def namesKey (n : String) : Bool := Text.sameIgnoringCase n Sql.keyColumn

theorem mem_dataColumns {columns : List String} {n : String} :
    n ∈ Database.dataColumns columns ↔ n ∈ columns ∧ namesKey n = false := by
  simp [Database.dataColumns, namesKey]

namespace Affinity

@[simp] theorem store_null (a : Affinity) : a.store .null = .null := by cases a <;> rfl

/-- Integer affinity makes a number of a text that is one, and leaves any other text. -/
theorem integer_store_text (s : String) :
    integer.store (.text s) = ((Number.number? s.toList).map Cell.ofNumeric).getD (.text s) := rfl

theorem integer_store_text_ne_null (s : String) : integer.store (.text s) ≠ .null := by
  rw [integer_store_text]
  rcases Number.number? s.toList with _ | ⟨n⟩ | ⟨r⟩ <;> simp [Cell.ofNumeric]

/-- A text that is stored as an integer is one of 64 bits. -/
theorem isInt64_of_integer_store_text {s : String} {n : Int}
    (h : integer.store (.text s) = .int n) : Number.isInt64 n = true := by
  rw [integer_store_text] at h
  rcases number : Number.number? s.toList with _ | ⟨m⟩ | ⟨r⟩ <;> rw [number] at h
  · cases h
  · obtain rfl := Cell.int.inj h
    exact Number.isInt64_of_number? number
  · cases h

end Affinity

namespace Table

/-! ## 1. Dataset tables -/

/-- A table as `ensureTable` makes it, with any records. -/
structure IsDataset (t : Table) : Prop where
  shape : ∃ names, t.columns = Database.datasetColumns names
  narrow : t.columns.length ≤ maxColumns
  automatic : t.automatic = true
  start : 0 ≤ t.highest
  bounded : t.highest ≤ Number.maxInt64
  numbered : ∀ r ∈ t.records, r.number ≤ t.highest

variable {t t' : Table} {names : List String}

theorem IsDataset.of_widens (h : t.IsDataset) (widens : t.Widens names t')
    (narrow : t'.columns.length ≤ maxColumns) : t'.IsDataset where
  shape := by
    obtain ⟨old, shape⟩ := h.shape
    exact ⟨old ++ names, by simp [widens.columns, shape, Database.datasetColumns]⟩
  narrow := narrow
  automatic := widens.automatic.trans h.automatic
  start := widens.highest ▸ h.start
  bounded := widens.highest ▸ h.bounded
  numbered r hr := by
    rw [widens.records] at hr
    obtain ⟨x, hx, rfl⟩ := List.mem_map.1 hr
    exact widens.highest ▸ h.numbered x hx

/-- A table that is shaped for some columns is a dataset table if it was one, or was missing. -/
theorem isDataset_of_prepares {d : Database} {name : String} {columns : List String} {p : Table}
    (made : ∀ t, d.table? name = some t → t.IsDataset) (prepares : d.Prepares name columns p)
    (narrow : p.columns.length ≤ maxColumns) : p.IsDataset := by
  rw [Database.Prepares] at prepares
  cases found : d.table? name with
  | none =>
    rw [found] at prepares
    obtain ⟨-, shape, automatic, highest, records⟩ := prepares
    refine ⟨⟨_, shape⟩, narrow, automatic, by omega, ?_, by simp [records]⟩
    rw [highest]
    decide
  | some t =>
    rw [found] at prepares
    exact (made t found).of_widens prepares narrow

/-- Removing records leaves a dataset table. -/
theorem IsDataset.remove (h : t.IsDataset) (test : Record → Bool) : (t.remove test).IsDataset :=
  ⟨h.shape, h.narrow, h.automatic, h.start, h.bounded, fun r hr => h.numbered r (List.mem_filter.1 hr).1⟩

/-- A name of the key refers to the number of a record. -/
theorem IsDataset.resolve?_key (h : t.IsDataset) {n : String} (key : namesKey n = true) :
    t.resolve? n = some .number := by
  obtain ⟨old, shape⟩ := h.shape
  have answers : Column.answersTo ⟨Sql.keyColumn, .key⟩ n = true := by
    rwa [Column.answersTo, Text.sameIgnoringCase_comm]
  have first : t.indexOf? n = some 0 := by
    rw [indexOf?, shape, Database.datasetColumns, List.findIdx?_cons, answers]
    rfl
  rw [resolve?, first, shape]
  rfl

/-- Every column but the key stores numbers where it can. -/
theorem IsDataset.column_cases (h : t.IsDataset) {c : Column} (hc : c ∈ t.columns) :
    c = ⟨Sql.keyColumn, .key⟩ ∨ c = .numeric c.name ∧ namesKey c.name = false := by
  obtain ⟨old, shape⟩ := h.shape
  rw [shape, Database.datasetColumns] at hc
  rcases List.mem_cons.1 hc with rfl | hc
  · exact .inl rfl
  · obtain ⟨n, hn, rfl⟩ := List.mem_map.1 hc
    have distinct := t.distinct
    rw [shape, Database.datasetColumns] at distinct
    have unlike : Text.sameIgnoringCase Sql.keyColumn n = false :=
      (List.pairwise_cons.1 distinct).1 (.numeric n) (List.mem_map_of_mem hn)
    refine .inr ⟨rfl, ?_⟩
    rw [namesKey, Text.sameIgnoringCase_comm]
    exact unlike

theorem IsDataset.isKey_eq_namesKey (h : t.IsDataset) {c : Column} (hc : c ∈ t.columns) :
    c.isKey = namesKey c.name := by
  rcases h.column_cases hc with rfl | ⟨numeric, unlike⟩
  · decide
  · rw [unlike, numeric]
    rfl

/-- No column of a dataset table is generated. -/
theorem IsDataset.isGenerated_eq_false (h : t.IsDataset) {c : Column} (hc : c ∈ t.columns) :
    c.isGenerated = false := by
  rcases h.column_cases hc with rfl | ⟨numeric, -⟩
  · rfl
  · rw [numeric]
    rfl

theorem IsDataset.generated?_eq_none (h : t.IsDataset) (place : Reference) : t.generated? place = none := by
  cases place with
  | number => rfl
  | cell i =>
    refine Option.filter_eq_none_iff.2 fun c hi => ?_
    simp [h.isGenerated_eq_false (List.mem_of_getElem? hi)]

/-! ## 2. Numbers -/

/-- A text for the key, or `none`, is refused: the text is no integer or its number is taken, or `highest` is
    the largest number there is. -/
def Refuses (highest : Int) (known : List Record) : Option String → Prop
  | some text =>
    (∀ n, Affinity.integer.store (.text text) ≠ .int n) ∨
      ∃ r ∈ known, Affinity.integer.store (.text text) = .int r.number
  | none => highest = Number.maxInt64

/-- A text for the key, or `none`, gives the number `n` to a new record. -/
def Numbers (highest : Int) (n : Int) : Option String → Prop
  | some text => Affinity.integer.store (.text text) = .int n
  | none => n = highest + 1

/-- The second table is the first with one more record. -/
structure Gains (t : Table) (r : Record) (t' : Table) : Prop where
  name : t'.name = t.name
  columns : t'.columns = t.columns
  automatic : t'.automatic = t.automatic
  highest : t'.highest = max t.highest r.number
  records : t'.records = place r t.records

theorem append_spec (t : Table) (n : Int) (cells : List Cell)
    (wide : cells.length = t.columns.length) :
    ((∀ x ∈ t.records, x.number ≠ n) ∧
        ∃ t', t.append n cells wide = .ok t' ∧ t.Gains ⟨n, cells⟩ t') ∨
      ((∃ x ∈ t.records, x.number = n) ∧ ∃ fault, t.append n cells wide = .error fault) := by
  unfold append
  split
  case isTrue fresh => exact .inl ⟨fresh, _, rfl, rfl, rfl, rfl, rfl, rfl⟩
  case isFalse old => exact .inr ⟨by simpa using old, _, rfl⟩

/-- A dataset table gives the number behind the largest ever given. -/
theorem IsDataset.nextNumber_eq (h : t.IsDataset) :
    t.nextNumber =
      if Number.maxInt64 ≤ t.highest then .error .full else .ok (t.highest + 1) := by
  have last : ∀ n, t.lastNumber? = some n → n ≤ t.highest := by
    intro n hn
    obtain ⟨r, hr, rfl⟩ := Option.map_eq_some_iff.1 hn
    exact h.numbered r (List.mem_of_getLast? hr)
  have start := h.start
  rw [nextNumber, h.automatic]
  cases hn : t.lastNumber? with
  | none =>
    have one : (1 : Int) ≤ t.highest + 1 := by omega
    simp [Int.max_eq_right start, Int.max_eq_right one]
  | some n =>
    have low : n + 1 ≤ t.highest + 1 := Int.add_le_add_right (last n hn) 1
    simp [Int.max_eq_right (last n hn), Int.max_eq_right low]

/-- **A new record gets a number exactly if what it brings for it is not refused**, except that the
    number may be taken. -/
theorem IsDataset.chooseNumber_spec (h : t.IsDataset) (key : Option String) :
    (∃ n, t.chooseNumber (.ofText? key) = .ok n ∧ Numbers t.highest n key ∧ n ≤ Number.maxInt64 ∧
        (Refuses t.highest t.records key ↔ ∃ x ∈ t.records, x.number = n)) ∨
      (Refuses t.highest t.records key ∧ ∃ fault, t.chooseNumber (.ofText? key) = .error fault) := by
  have bounded := h.bounded
  cases key with
  | none =>
    have chosen : t.chooseNumber (.ofText? none) = t.nextNumber := rfl
    rw [chosen, h.nextNumber_eq]
    split_ifs with full
    · exact .inr ⟨Int.le_antisymm bounded full, _, rfl⟩
    · -- no record has a number above the largest ever given, so the next one is not taken
      refine .inl ⟨t.highest + 1, rfl, rfl, by omega, ?_⟩
      constructor
      · intro last
        exact absurd (Int.le_of_eq last.symm) full
      · rintro ⟨x, hx, same⟩
        have low := h.numbered x hx
        omega
  | some text =>
    have stored : Affinity.storeNumeric (.ofText? (some text)) = Affinity.integer.store (.text text) :=
      rfl
    rw [chooseNumber, stored]
    by_cases integer : ∃ n, Affinity.integer.store (.text text) = .int n
    · obtain ⟨n, hn⟩ := integer
      have fits := Number.isInt64_iff.1 (Affinity.isInt64_of_integer_store_text hn)
      refine .inl ⟨n, by rw [hn], hn, fits.2, ?_⟩
      rw [Refuses, hn]
      constructor
      · rintro (never | ⟨x, hx, same⟩)
        · exact absurd rfl (never n)
        · exact ⟨x, hx, (Cell.int.inj same).symm⟩
      · rintro ⟨x, hx, rfl⟩
        exact .inr ⟨x, hx, rfl⟩
    · have no_int : ∀ n, Affinity.integer.store (.text text) ≠ .int n :=
        fun n hn => integer ⟨n, hn⟩
      refine .inr ⟨.inl no_int, ?_⟩
      split
      · rename_i null
        exact absurd null (Affinity.integer_store_text_ne_null text)
      · rename_i n hn
        exact absurd hn (no_int n)
      · exact ⟨_, rfl⟩

/-! ## 3. Cells -/

/-- The cells of a new record of `t` that brings `values` under `names`: stored by the affinity of each
    column, and null in every other column. -/
def entry (t : Table) (names : List String) (values : String → Cell) : List Cell :=
  t.columns.map fun c =>
    if c.isKey then .null else if c.name ∈ names then c.affinity.store (values c.name) else .null

/-- The only element of a list that passes a test is the first that does. -/
theorem filter_eq_find? {α : Type} {p : α → Bool} {l : List α} (nodup : l.Nodup)
    (one : ∀ a ∈ l, ∀ b ∈ l, p a = true → p b = true → a = b) : l.filter p = (l.find? p).toList := by
  induction l with
  | nil => rfl
  | cons x rest ih =>
    obtain ⟨fresh, nodup⟩ := List.nodup_cons.1 nodup
    cases h : p x with
    | false =>
      rw [List.filter_cons_of_neg (by simp [h]), List.find?_cons, h]
      exact ih nodup fun a ha b hb => one a (.tail _ ha) b (.tail _ hb)
    | true =>
      have others : rest.filter p = [] := by
        rw [List.filter_eq_nil_iff]
        intro y hy passes
        exact fresh (one x List.mem_cons_self y (.tail _ hy) h passes ▸ hy)
      rw [List.filter_cons_of_pos h, List.find?_cons, h, others]
      rfl

variable {values : String → Cell}

theorem IsDataset.resolveAll_eq (h : t.IsDataset) (written : String) {g : String → Reference}
    (known : ∀ n ∈ names, t.resolve? n = some (g n)) :
    t.resolveAll written names = .ok (names.map g) := by
  induction names with
  | nil => rfl
  | cons n names ih =>
    obtain ⟨here, there⟩ := List.forall_mem_cons.1 known
    rw [resolveAll, here]
    simp only [h.generated?_eq_none, ih there, ok_bind, List.map_cons]

/-- What a name of the key or of a column refers to. -/
def target (t : Table) (n : String) : Reference := (t.resolve? n).getD .number

/-- Each of `names` is the key's or that of a column of `t`. -/
def Knows (t : Table) (names : List String) : Prop :=
  ∀ n ∈ names, namesKey n = true ∨ n ∈ t.columnNames

/-- A table that is shaped for some columns knows them. -/
theorem knows_of_prepares {d : Database} {name : String} {columns : List String} {p : Table}
    (prepares : d.Prepares name columns p) : p.Knows columns := by
  intro n hn
  cases key : namesKey n with
  | true => exact .inl rfl
  | false =>
    have data : n ∈ Database.dataColumns columns := mem_dataColumns.2 ⟨hn, key⟩
    refine .inr ?_
    rw [Database.Prepares] at prepares
    cases found : d.table? name with
    | none =>
      rw [found] at prepares
      rw [Database.columnNames_of_dataset prepares.2.1]
      exact .tail _ data
    | some t =>
      rw [found] at prepares
      rw [prepares.columnNames, List.mem_append, Database.mem_lacking]
      tauto

theorem IsDataset.resolve?_eq_target (h : t.IsDataset) (known : t.Knows names) :
    ∀ n ∈ names, t.resolve? n = some (t.target n) := by
  intro n hn
  rcases known n hn with key | live
  · rw [target, h.resolve?_key key]
    rfl
  · obtain ⟨i, c, hi, rfl⟩ := exists_getElem?_of_mem live
    rw [target, resolve?_of_getElem? hi]
    rfl

theorem IsDataset.target_eq_number (h : t.IsDataset) (known : t.Knows names) :
    ∀ n ∈ names, (t.target n == .number) = namesKey n := by
  intro n hn
  cases key : namesKey n with
  | true => rw [target, h.resolve?_key key]; rfl
  | false =>
    have live : n ∈ t.columnNames := (known n hn).resolve_left (by simp [key])
    obtain ⟨i, c, hi, rfl⟩ := exists_getElem?_of_mem live
    have data : c.isKey = false := by
      rw [h.isKey_eq_namesKey (List.mem_of_getElem? hi), key]
    rw [target, resolve?_of_getElem? hi, data]
    rfl

theorem IsDataset.target_eq_cell_iff (h : t.IsDataset) (known : t.Knows names) {i : Nat} {c : Column}
    (hi : t.columns[i]? = some c) (data : c.isKey = false) :
    ∀ n ∈ names, t.target n = .cell i ↔ n = c.name := by
  intro n hn
  constructor
  · intro leads
    have other : namesKey n = false := by
      rw [← h.target_eq_number known n hn, leads]
      rfl
    have live : n ∈ t.columnNames := (known n hn).resolve_left (by simp [other])
    obtain ⟨j, d, hj, rfl⟩ := exists_getElem?_of_mem live
    rw [target, resolve?_of_getElem? hj] at leads
    cases hd : d.isKey with
    | true =>
      rw [hd] at leads
      cases leads
    | false =>
      rw [hd] at leads
      obtain rfl : j = i := Reference.cell.inj leads
      rw [Option.some.inj (hj.symm.trans hi)]
  · rintro rfl
    rw [target, resolve?_of_getElem? hi, data]
    rfl

/-- The columns of a dataset table store what is given for them. -/
theorem IsDataset.newCell_eq (h : t.IsDataset) (number : Int) (given : List (Reference × Cell)) (i : Nat)
    {c : Column} (hc : c ∈ t.columns) : t.newCell number given i c = givenCell given i c := by
  rcases h.column_cases hc with rfl | ⟨numeric, -⟩
  · rfl
  · rw [numeric]
    rfl

theorem IsDataset.newCells_eq (h : t.IsDataset) (known : t.Knows names) (number : Int) :
    t.newCells number (names.map fun n => (t.target n, values n)) = t.entry names values := by
  refine List.ext_getElem (by simp [newCells, entry]) fun i hi _ => ?_
  have li : i < t.columns.length := by simpa [newCells] using hi
  have here : (t.newCells number (names.map fun n => (t.target n, values n)))[i] =
      t.newCell number (names.map fun n => (t.target n, values n)) i t.columns[i] := by
    simp [newCells]
  rw [here, h.newCell_eq number _ i (List.getElem_mem li), givenCell]
  simp only [entry, List.getElem_map]
  split_ifs with key live
  · rfl
  · have found := h.target_eq_cell_iff known (List.getElem?_eq_getElem li) (by simpa using key)
    rw [lookup_map_of_iff found, if_pos live]
    rfl
  · have found := h.target_eq_cell_iff known (List.getElem?_eq_getElem li) (by simpa using key)
    rw [lookup_map_of_iff found, if_neg live]
    exact Affinity.store_null _

/-- The name under which a new record brings its number: of several that are the key's the last. -/
def keyName? (names : List String) : Option String := (names.filter namesKey).getLast?

/-- At most one of `names` is the key's. -/
def OneKey (names : List String) : Prop :=
  ∀ a ∈ names, ∀ b ∈ names, namesKey a = true → namesKey b = true → a = b

theorem keyName?_of_one (nodup : names.Nodup) (one : OneKey names) :
    keyName? names = names.find? namesKey := by
  rw [keyName?, filter_eq_find? nodup one]
  cases names.find? namesKey <;> rfl

theorem IsDataset.givenNumber_eq (h : t.IsDataset) (known : t.Knows names) :
    givenNumber (names.map fun n => (t.target n, values n)) =
      ((keyName? names).map values).getD .null := by
  have keys : names.filter (fun n => t.target n == .number) = names.filter namesKey :=
    List.filter_congr fun n hn => h.target_eq_number known n hn
  rw [givenNumber, List.filter_map, keyName?]
  simp only [Function.comp_def, keys, List.getLast?_map]
  cases (names.filter namesKey).getLast? <;> rfl

/-! ## 4. Insertion -/

/-- **A dataset table takes a new record exactly if what it brings for its number is not refused.** The
    record holds its values as the columns store them, and nothing in the other columns. -/
theorem IsDataset.insert_spec (h : t.IsDataset) (known : t.Knows names) (written : String)
    (value : String → Option String) :
    let key := (keyName? names).bind value
    (Refuses t.highest t.records key ∧
        ∃ fault, t.insert written names (names.map fun n => .ofText? (value n)) = .error fault) ∨
      (¬ Refuses t.highest t.records key ∧
        ∃ r t', t.insert written names (names.map fun n => .ofText? (value n)) = .ok t' ∧
          t.Gains r t' ∧ Numbers t.highest r.number key ∧ r.number ≤ Number.maxInt64 ∧
          r.cells = t.entry names fun n => .ofText? (value n)) := by
  intro key
  let given := names.map fun n => (t.target n, Cell.ofText? (value n))
  have number : givenNumber given = .ofText? key := by
    rw [h.givenNumber_eq known]
    cases hk : keyName? names <;> simp [key, hk, Cell.ofText?]
  have pairs : (names.map t.target).zip (names.map fun n => Cell.ofText? (value n)) = given :=
    List.zip_map'
  have wide (n : Int) : (t.newCells n given).length = t.columns.length := by simp [newCells]
  have unfolded : t.insert written names (names.map fun n => .ofText? (value n)) =
      t.chooseNumber (.ofText? key) >>= fun n => t.append n (t.newCells n given) (wide n) := by
    rw [insert, h.resolveAll_eq written (h.resolve?_eq_target known), ok_bind]
    simp only [pairs, number]
  rw [unfolded]
  rcases h.chooseNumber_spec key with ⟨n, chosen, gives, low, refuses⟩ | ⟨refuses, fault, failed⟩
  · rw [chosen, ok_bind, refuses]
    rcases t.append_spec n (t.newCells n given) (wide n) with ⟨fresh, t', added, gains⟩ | ⟨old, failed⟩
    · refine .inr ⟨fun ⟨x, hx, same⟩ => fresh x hx same, _, t', added, gains, gives, low, ?_⟩
      exact h.newCells_eq known n
    · exact .inl ⟨old, failed⟩
  · rw [failed, error_bind]
    exact .inl ⟨refuses, fault, rfl⟩

variable {r : Record}

theorem IsDataset.of_gains (h : t.IsDataset) (gains : t.Gains r t')
    (low : r.number ≤ Number.maxInt64) : t'.IsDataset where
  shape := gains.columns ▸ h.shape
  narrow := gains.columns ▸ h.narrow
  automatic := gains.automatic.trans h.automatic
  start := gains.highest ▸ Int.le_trans h.start (Int.le_max_left _ _)
  bounded := gains.highest ▸ Int.max_le.2 ⟨h.bounded, low⟩
  numbered x hx := by
    rw [gains.records, mem_place] at hx
    rw [gains.highest]
    rcases hx with rfl | hx
    · exact Int.le_max_right _ _
    · exact Int.le_trans (h.numbered x hx) (Int.le_max_left _ _)

/-- What a new record shows under a column. -/
theorem shown_of_entry {values : String → Cell} (cells : r.cells = t.entry names values) {c : Column}
    (hc : c ∈ t.columns) :
    t.shown r c.name =
      if c.isKey then .int r.number
      else if c.name ∈ names then c.affinity.store (values c.name) else .null := by
  obtain ⟨i, li, rfl⟩ := List.getElem_of_mem hc
  have wide : r.cells.length = t.columns.length := by simp [cells, entry]
  rw [shown_of_getElem? wide (List.getElem?_eq_getElem li), cells, entry, List.getElem?_map,
    List.getElem?_eq_getElem li]
  cases hk : t.columns[i].isKey <;> simp [hk]

end Table

end Store

end Dataset
