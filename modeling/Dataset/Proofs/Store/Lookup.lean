import Dataset.Store.Query

/-!
# Names of columns and what stands under them

Statements refer to a column by a name that the table resolves up to the case of letters. A name that
a column has, character for character, is resolved to this column and no other.

* `Table.column?`, `Table.shown`: the column of exactly this name, and the cell that the row of a
  record shows under it, both said without resolving anything;
* `Table.resolve?_of_getElem?`: where a name of a column is resolved to;
* **`Table.cell_eq_shown`**, **`Table.bound_eq`**: so a condition on a column looks at the cell that
  is shown, and compares under the affinity with which the column was declared.
-/

namespace Dataset.Store

/-! ## 1. Names -/

theorem sameIgnoringCase_refl (a : String) : Text.sameIgnoringCase a a = true := by
  simp [Text.sameIgnoringCase]

theorem Column.answersTo_self (c : Column) : c.answersTo c.name = true := sameIgnoringCase_refl c.name

/-- In a list of pairs the first pair with a key is found. -/
theorem lookup_zip {α : Type} {k : String} : ∀ {ks : List String} {vs : List α} {i : Nat},
    ks[i]? = some k → (∀ j, j < i → ks[j]? ≠ some k) → (ks.zip vs).lookup k = vs[i]?
  | [], _, _, h, _ => by simp at h
  | _ :: _, [], _, _, _ => by simp
  | x :: ks, v :: vs, 0, h, _ => by
      obtain rfl : x = k := by simpa using h
      simp
  | x :: ks, v :: vs, i + 1, h, first => by
      have differs : x ≠ k := by simpa using first 0 (Nat.succ_pos i)
      have other : (k == x) = false := beq_eq_false_iff_ne.2 differs.symm
      have later : ∀ j, j < i → ks[j]? ≠ some k := fun j hj => by
        simpa using first (j + 1) (Nat.succ_lt_succ hj)
      have rest : (ks.zip vs).lookup k = vs[i]? := lookup_zip (by simpa using h) later
      simpa [List.lookup_cons, other] using rest

/-- Where only one name leads to a key, the value of this name is found under the key. -/
theorem lookup_map_of_iff {α β : Type} [BEq α] [LawfulBEq α] {names : List String} {g : String → α}
    {v : String → β} {k : α} {m : String} (h : ∀ n ∈ names, g n = k ↔ n = m) :
    (names.map fun n => (g n, v n)).lookup k = if m ∈ names then some (v m) else none := by
  induction names with
  | nil => rfl
  | cons n names ih =>
    obtain ⟨here, there⟩ := List.forall_mem_cons.1 h
    rw [List.map_cons, List.lookup_cons]
    by_cases same : n = m
    · rw [beq_iff_eq.2 (here.2 same).symm, ← same]
      simp
    · have other : (k == g n) = false := beq_eq_false_iff_ne.2 fun e => same (here.1 e.symm)
      have later : m ∈ n :: names ↔ m ∈ names := by simp [Ne.symm same]
      rw [other]
      simp only [ih there, later]

namespace Table

variable {t : Table} {r : Record} {name : String}

/-- The column of exactly this name. -/
def column? (t : Table) (name : String) : Option Column := t.columns.find? (·.name == name)

/-- The cell that `SELECT *` gives for `r` under the column `name`, null if there is none. -/
def shown (t : Table) (r : Record) (name : String) : Cell :=
  ((t.shownNames.zip (t.values r)).lookup name).getD .null

/-- The names of the generated columns. -/
def generatedNames (t : Table) : List String := (t.columns.filter Column.isGenerated).map Column.name

/-- Every column is listed or generated. -/
theorem length_columns (t : Table) : t.columns.length = t.columnNames.length + t.generatedNames.length := by
  rw [columnNames, generatedNames, List.length_map, List.length_map, Nat.add_comm,
    ← List.countP_eq_length_filter, ← List.countP_eq_length_filter,
    List.length_eq_countP_add_countP Column.isGenerated]
  simp

/-- Rows show all of them. -/
theorem mem_shownNames_iff : name ∈ t.shownNames ↔ name ∈ t.columnNames ∨ name ∈ t.generatedNames := by
  simp only [shownNames, columnNames, generatedNames, List.mem_map, List.mem_filter]
  constructor
  · rintro ⟨c, hc, rfl⟩
    cases h : c.isGenerated with
    | true => exact .inr ⟨c, ⟨hc, h⟩, rfl⟩
    | false => exact .inl ⟨c, ⟨hc, by simp [h]⟩, rfl⟩
  · rintro (⟨c, ⟨hc, -⟩, rfl⟩ | ⟨c, ⟨hc, -⟩, rfl⟩) <;> exact ⟨c, hc, rfl⟩

/-- The affinity of the column `name` of `t`. -/
def declaredAffinity (t : Table) (name : String) : Affinity :=
  ((t.column? name).map Column.affinity).getD .none

/-! ## 2. Resolving the name of a column -/

/-- No column before one of this name answers to it. -/
theorem not_answersTo_before {i j : Nat} {c d : Column} (hi : t.columns[i]? = some c)
    (hj : t.columns[j]? = some d) (before : j < i) : d.answersTo c.name = false := by
  obtain ⟨li, rfl⟩ := List.getElem?_eq_some_iff.1 hi
  obtain ⟨lj, rfl⟩ := List.getElem?_eq_some_iff.1 hj
  exact List.pairwise_iff_getElem.1 t.distinct j i lj li before

theorem indexOf?_of_getElem? {i : Nat} {c : Column} (hi : t.columns[i]? = some c) :
    t.indexOf? c.name = some i := by
  obtain ⟨li, hc⟩ := List.getElem?_eq_some_iff.1 hi
  rw [indexOf?, List.findIdx?_eq_some_iff_getElem]
  refine ⟨li, ?_, fun j hj => ?_⟩
  · rw [hc]
    exact c.answersTo_self
  · have other := not_answersTo_before hi (List.getElem?_eq_getElem (Nat.lt_trans hj li)) hj
    simp [other]

theorem resolve?_of_getElem? {i : Nat} {c : Column} (hi : t.columns[i]? = some c) :
    t.resolve? c.name = some (if c.isKey then .number else .cell i) := by
  simp only [resolve?, indexOf?_of_getElem? hi, hi]

/-- Names of columns that are equal belong to one column. -/
theorem column?_of_getElem? {i : Nat} {c : Column} (hi : t.columns[i]? = some c) :
    t.column? c.name = some c := by
  obtain ⟨li, hc⟩ := List.getElem?_eq_some_iff.1 hi
  rw [column?, List.find?_eq_some_iff_getElem]
  refine ⟨by simp, i, li, hc, fun j hj => ?_⟩
  have other := not_answersTo_before hi (List.getElem?_eq_getElem (Nat.lt_trans hj li)) hj
  have differs : t.columns[j].name ≠ c.name := by
    intro same
    rw [← same, Column.answersTo_self] at other
    cases other
  simpa using differs

theorem mem_columnNames_iff :
    name ∈ t.columnNames ↔ ∃ c ∈ t.columns, c.isGenerated = false ∧ c.name = name := by
  simp [columnNames, and_assoc]

/-- Rows show every column that is listed. -/
theorem mem_shownNames_of_live (live : name ∈ t.columnNames) : name ∈ t.shownNames :=
  mem_shownNames_iff.2 (.inl live)

theorem exists_getElem?_of_shown (shown : name ∈ t.shownNames) :
    ∃ (i : Nat) (c : Column), t.columns[i]? = some c ∧ c.name = name := by
  obtain ⟨c, hc, rfl⟩ := List.mem_map.1 shown
  obtain ⟨i, li, hi⟩ := List.getElem_of_mem hc
  exact ⟨i, c, List.getElem?_eq_some_iff.2 ⟨li, hi⟩, rfl⟩

theorem exists_getElem?_of_mem (live : name ∈ t.columnNames) :
    ∃ (i : Nat) (c : Column), t.columns[i]? = some c ∧ c.name = name :=
  exists_getElem?_of_shown (mem_shownNames_of_live live)

/-! ## 3. Cells and affinities -/

theorem shown_of_getElem? (wide : r.cells.length = t.columns.length) {i : Nat} {c : Column}
    (hi : t.columns[i]? = some c) :
    t.shown r c.name = if c.isKey then .int r.number else r.cells[i]?.getD .null := by
  have name : t.shownNames[i]? = some c.name := by simp [shownNames, hi]
  have first : ∀ j, j < i → t.shownNames[j]? ≠ some c.name := by
    intro j hj same
    obtain ⟨d, hd, hname⟩ := Option.map_eq_some_iff.1 ((List.getElem?_map ..).symm.trans same)
    have other := not_answersTo_before hi hd hj
    rw [← hname, Column.answersTo_self] at other
    cases other
  obtain ⟨li, -⟩ := List.getElem?_eq_some_iff.1 hi
  have cell : r.cells[i]? = some r.cells[i] := List.getElem?_eq_getElem (wide ▸ li)
  have pair : (t.columns.zip r.cells)[i]? = some (c, r.cells[i]) :=
    List.getElem?_zip_eq_some.2 ⟨hi, cell⟩
  have value : (t.values r)[i]? = some (if c.isKey then .int r.number else r.cells[i]) := by
    rw [values, List.getElem?_map, pair]
    rfl
  rw [shown, lookup_zip name first, value, cell]
  rfl

/-- **A condition on a column looks at the cell that is shown under it.** -/
theorem cell_eq_shown (wide : r.cells.length = t.columns.length) (live : name ∈ t.columnNames) :
    t.cell r name = t.shown r name := by
  obtain ⟨i, c, hi, rfl⟩ := exists_getElem?_of_mem live
  rw [cell, resolve?_of_getElem? hi, shown_of_getElem? wide hi]
  cases c.isKey <;> rfl

/-- What a name of a column refers to has the affinity of its declaration. -/
theorem affinityOf_eq (live : name ∈ t.columnNames) {place : Reference}
    (found : t.resolve? name = some place) : t.affinityOf place = t.declaredAffinity name := by
  obtain ⟨i, c, hi, rfl⟩ := exists_getElem?_of_mem live
  rw [resolve?_of_getElem? hi] at found
  obtain rfl := Option.some.inj found
  rw [declaredAffinity, column?_of_getElem? hi]
  cases h : c.isKey with
  | true =>
    have key : c.kind = .key := by simpa [Column.isKey] using h
    simp [affinityOf, Column.affinity, key]
  | false => simp [affinityOf, hi]

theorem exists_resolve? (live : name ∈ t.columnNames) : ∃ place, t.resolve? name = some place := by
  obtain ⟨i, c, hi, rfl⟩ := exists_getElem?_of_mem live
  exact ⟨_, resolve?_of_getElem? hi⟩

/-- **A text is compared with a column under the affinity of its declaration.** -/
theorem bound_eq (live : name ∈ t.columnNames) (v : String) :
    t.bound name v = (t.declaredAffinity name).bound v := by
  obtain ⟨place, found⟩ := exists_resolve? live
  rw [bound, found, ← affinityOf_eq live found]
  rfl

/-- What a name of a column refers to is what is shown under it. -/
theorem read_eq_shown (wide : r.cells.length = t.columns.length) (live : name ∈ t.columnNames)
    {place : Reference} (found : t.resolve? name = some place) : read r place = t.shown r name := by
  rw [← cell_eq_shown wide live, cell, found]
  rfl

/-- No two columns have their cells in one place. -/
theorem eq_of_resolve?_cell {other : String} (live : name ∈ t.columnNames) (live' : other ∈ t.columnNames)
    {i : Nat} (found : t.resolve? name = some (.cell i)) (found' : t.resolve? other = some (.cell i)) :
    other = name := by
  obtain ⟨j, c, hj, rfl⟩ := exists_getElem?_of_mem live
  obtain ⟨k, d, hk, rfl⟩ := exists_getElem?_of_mem live'
  have place {c : Column} {j : Nat}
      (found : some (if c.isKey then Reference.number else .cell j) = some (.cell i)) : j = i := by
    split at found
    · cases found
    · exact Reference.cell.inj (Option.some.inj found)
  obtain rfl := place ((resolve?_of_getElem? hj).symm.trans found)
  obtain rfl := place ((resolve?_of_getElem? hk).symm.trans found')
  rw [Option.some.inj (hj.symm.trans hk)]

/-- A column of this name is the key exactly if the name is resolved to the record's number. -/
theorem resolve?_eq_number_iff (live : name ∈ t.columnNames) :
    t.resolve? name = some .number ↔ (t.column? name).any Column.isKey = true := by
  obtain ⟨i, c, hi, rfl⟩ := exists_getElem?_of_mem live
  rw [resolve?_of_getElem? hi, column?_of_getElem? hi]
  cases h : c.isKey <;> simp [h]

/-- Names of columns are all known. -/
theorem unknown?_eq_none {names : List String} (live : ∀ n ∈ names, n ∈ t.columnNames) :
    t.unknown? names = none := by
  rw [unknown?, List.find?_eq_none]
  intro n hn
  obtain ⟨i, c, hi, rfl⟩ := exists_getElem?_of_mem (live n hn)
  simp [resolve?_of_getElem? hi]

end Table

end Dataset.Store
