import Dataset.Proofs.Outcome
import Dataset.Proofs.Store.Lookup
import Dataset.Store.Basic
import Mathlib.Data.List.TakeWhile
import Mathlib.Tactic.SplitIfs

/-!
# Questions to an open store

No name of a column, and no spelling of a table's own name, breaks a statement off. So an open store
answers every question about a table that it has, as long as the question names columns of the table.

* `breaksOff_of_same`: names that are alike up to case break a statement off together;
* `columns_of_table?`: the columns that an open store gives for a table that it has;
* `columns_ok_iff`, `columns_eq_nil_iff`: which stores give columns, and where they give none;
* `list_of_table?`: the rows that it gives under names of columns are those that the table selects.
-/

namespace Dataset

open Dataset.Filter (Predicate)

/-! ## 1. Readable names -/

namespace Sql

/-- No letter becomes a NUL character when it is made small. -/
theorem toLower_eq_nul_iff (c : Char) : c.toLower = '\x00' ↔ c = '\x00' := by
  unfold Char.toLower
  split
  case isTrue capital =>
    have low : 65 ≤ c.toNat := UInt32.le_iff_toNat_le.1 capital.1
    have high : c.toNat ≤ 90 := UInt32.le_iff_toNat_le.1 capital.2
    rw [Char.ext_iff, Char.ext_iff, ← UInt32.toNat_inj, ← UInt32.toNat_inj, UInt32.toNat_add]
    show (c.toNat + 32) % 2 ^ 32 = 0 ↔ c.toNat = 0
    omega
  case isFalse => rfl

theorem breaksOff_iff_toLower {name : String} :
    breaksOff name = true ↔ '\x00' ∈ name.toList.map Char.toLower := by
  simp [breaksOff, toLower_eq_nul_iff]

/-- Names that are alike up to case break a statement off together. -/
theorem breaksOff_of_same {a b : String} (h : Text.sameIgnoringCase a b = true) :
    breaksOff a = breaksOff b := by
  have same : a.toList.map Char.toLower = b.toList.map Char.toLower := by
    simpa [Text.sameIgnoringCase] using h
  rw [Bool.eq_iff_iff, breaksOff_iff_toLower, breaksOff_iff_toLower, same]

end Sql

namespace Store

theorem Table.breaksOff_name (t : Table) : Sql.breaksOff t.name = false :=
  Sql.brokenName?_eq_none.1 t.readable t.name List.mem_cons_self

theorem Table.breaksOff_column {t : Table} {name : String} (live : name ∈ t.columnNames) :
    Sql.breaksOff name = false :=
  Sql.brokenName?_eq_none.1 t.readable name (.tail _ (Table.mem_shownNames_of_live live))

theorem Table.columnNames_ne_nil (t : Table) : t.columnNames ≠ [] := by
  obtain ⟨c, hc, taking⟩ := t.inhabited
  exact List.ne_nil_of_mem (Table.mem_columnNames_iff.2 ⟨c, hc, taking, rfl⟩)

/-- A table is found only under a name that breaks no statement off. -/
theorem Database.breaksOff_of_table? {d : Database} {name : String} {t : Table}
    (present : d.table? name = some t) : Sql.breaksOff name = false := by
  rw [Database.table?] at present
  have answers : t.answersTo name = true := by simpa using List.find?_some present
  rw [← Sql.breaksOff_of_same answers]
  exact t.breaksOff_name

theorem untilNul_of_readable {name : String} (readable : Sql.breaksOff name = false) :
    untilNul name = name := by
  have noNul : '\x00' ∉ name.toList := by simpa [Sql.breaksOff] using readable
  have all : name.toList.takeWhile (· != '\x00') = name.toList := by
    refine List.takeWhile_eq_self_iff.2 fun c hc => ?_
    simpa using ne_of_mem_of_not_mem hc noNul
  rw [untilNul, all, String.ofList_toList]

/-! ## 2. Answers -/

variable {s : Store} {name : String} {t : Table}

theorem connect_of_isOpen (isOpen : s.isOpen = true) : s.connect = .ok s.database := by
  rw [connect, if_pos isOpen]

/-- An open store has its database brought to a shape. -/
theorem ensureTable_of_isOpen (isOpen : s.isOpen = true) {columns : List String} :
    s.ensureTable name columns = (ofStatement (s.database.ensureTable name columns).1,
      { s with database := (s.database.ensureTable name columns).2 }) := by
  rw [ensureTable, connect_of_isOpen isOpen]

/-- An open store gives the columns of a table that it has. -/
theorem columns_of_table? (isOpen : s.isOpen = true) (present : s.database.table? name = some t) :
    s.columns name = .ok t.columnNames := by
  have known : s.database.columns name = t.columnNames := by
    rw [Database.columns, present]
    rfl
  rw [columns, connect_of_isOpen isOpen, untilNul_of_readable (Database.breaksOff_of_table? present)]
  exact congrArg Except.ok known

/-- Only an open store gives the names of columns, and it gives those that the database has. -/
theorem columns_ok_iff {names : List String} :
    s.columns name = .ok names ↔
      s.isOpen = true ∧ s.database.columns (untilNul name) = names := by
  rw [columns, connect]
  split_ifs with isOpen
  · rw [ok_bind, Except.ok.injEq, and_iff_right isOpen]
  · constructor
    · intro closed
      cases closed
    · intro h
      exact absurd h.1 isOpen

theorem Database.columns_eq_nil_iff {d : Database} : d.columns name = [] ↔ d.table? name = none := by
  rw [Database.columns]
  cases found : d.table? name with
  | none => exact ⟨fun _ => rfl, fun _ => rfl⟩
  | some t =>
    have named : t.columnNames ≠ [] := t.columnNames_ne_nil
    exact ⟨fun nil => absurd nil named, fun missing => absurd missing (Option.some_ne_none t)⟩

/-- An open store gives no columns exactly if it has no table of the name, as far as the name is read. -/
theorem columns_eq_nil_iff :
    s.columns name = .ok [] ↔ s.isOpen = true ∧ s.database.table? (untilNul name) = none := by
  rw [columns_ok_iff, Database.columns_eq_nil_iff]

/-- Where an open store gives no columns, it has no table of the name. -/
theorem table?_eq_none_of_columns (nothing : s.columns name = .ok []) :
    s.database.table? name = none := by
  obtain ⟨-, missing⟩ := columns_eq_nil_iff.1 nothing
  cases present : s.database.table? name with
  | none => rfl
  | some t =>
    rw [untilNul_of_readable (Database.breaksOff_of_table? present), present] at missing
    cases missing

/-- A table that an open store has can be asked under names that break no statement off. -/
theorem asked_of_table? (isOpen : s.isOpen = true) (present : s.database.table? name = some t)
    {names : List String} (readable : ∀ n ∈ names, Sql.breaksOff n = false) :
    s.asked name names = .ok t := by
  have whole : Sql.brokenName? (name :: names) = none := by
    refine Sql.brokenName?_eq_none.2 (List.forall_mem_cons.2 ⟨?_, readable⟩)
    exact Database.breaksOff_of_table? present
  have checked : Database.checkNames (name :: names) = .ok () := by
    rw [Database.checkNames, whole]
  have found : s.database.table name = .ok t := by rw [Database.table, present]
  rw [asked, connect_of_isOpen isOpen, ok_bind, checked, ok_bind, found]
  rfl

/-- **An open store gives the rows that a table selects under names of its columns.** -/
theorem list_of_table? (isOpen : s.isOpen = true) (present : s.database.table? name = some t)
    {p : Predicate} (live : ∀ c ∈ p.columns, c ∈ t.columnNames) :
    s.list name p =
      match t.select p with
      | .ok rs => .ok (rs.map t.row)
      | .error fault => .error (.refused fault) := by
  have found := asked_of_table? isOpen present fun c hc => Table.breaksOff_column (live c hc)
  rw [list, found, ok_bind, ofStatement]
  cases t.select p with
  | ok rs => rfl
  | error fault => rfl

end Store

end Dataset
