import Dataset.Proofs.Course
import Dataset.Proofs.Store.Keeping

/-!
# Values that are kept over a course of operations

A new record holds what its columns have stored, a wider one nothing more, and no other change touches a
value. So tables that hold values which their columns keep go on to do so, wherever they were made.

* `Table.kept_iff`: what it is to keep values, column by column;
* `Table.Kept.of_widens`, `Table.Kept.remove`, `Table.Kept.of_insert`: each change of a table;
* `Keeps`: a store whose tables keep their values; **`Keeps.apply`**, **`Keeps.run`**: it stays one.
-/

namespace Dataset.Store

namespace Table

variable {t t' : Table} {r : Record}

/-! ## 1. One table -/

/-- What a record holds under the column at a place. -/
def held (r : Record) (i : Nat) (c : Column) : Cell :=
  if c.isKey then .int r.number else r.cells[i]?.getD .null

/-- A record holds values that the listed columns keep. -/
def KeepsIn (t : Table) (r : Record) : Prop :=
  ∀ (i : Nat) (c : Column), t.columns[i]? = some c → c.isGenerated = false → c.affinity.Keeps (held r i c)

/-- A table keeps its values exactly if the columns keep what the records hold. -/
theorem kept_iff : t.Kept ↔ ∀ r ∈ t.records, t.KeepsIn r := by
  refine forall₂_congr fun r hr => ?_
  have wide := t.complete r hr
  constructor
  · intro kept i c hi taking
    have keeps := kept c.name (mem_columnNames_iff.2 ⟨c, List.mem_of_getElem? hi, taking, rfl⟩)
    rwa [declaredAffinity, column?_of_getElem? hi, shown_of_getElem? wide hi] at keeps
  · intro kept n live
    obtain ⟨c, hc, taking, rfl⟩ := mem_columnNames_iff.1 live
    obtain ⟨i, hi⟩ := List.getElem?_of_mem hc
    rw [declaredAffinity, column?_of_getElem? hi, shown_of_getElem? wide hi]
    exact kept i c hi taking

/-- A column of whatever affinity keeps the missing value. -/
theorem keeps_null (a : Affinity) : a.Keeps .null := ⟨trivial, a.store_null⟩

theorem Kept.of_widens {names : List String} (kept : t.Kept) (widens : t.Widens names t') : t'.Kept := by
  refine kept_iff.2 fun r hr i c hi taking => ?_
  rw [widens.records] at hr
  obtain ⟨x, hx, rfl⟩ := List.mem_map.1 hr
  have wide := t.complete x hx
  rw [widens.columns] at hi
  rcases Nat.lt_or_ge i t.columns.length with old | new
  · -- the record holds what it held
    rw [List.getElem?_append_left old] at hi
    have same : held (x.widen names.length) i c = held x i c := by
      rw [held, held, Record.widen, List.getElem?_append_left (wide ▸ old)]
    exact same ▸ kept_iff.1 kept x hx i c hi taking
  · rw [List.getElem?_append_right new] at hi
    obtain ⟨n, -, rfl⟩ := List.mem_map.1 (List.mem_of_getElem? hi)
    have empty : held (x.widen names.length) i (.numeric n) = .null := by
      show (x.cells ++ List.replicate names.length .null)[i]?.getD .null = .null
      rw [List.getElem?_append_right (wide ▸ new), List.getElem?_replicate]
      split_ifs <;> rfl
    exact empty ▸ keeps_null _

theorem Kept.remove (kept : t.Kept) (test : Record → Bool) : (t.remove test).Kept :=
  fun r hr => kept r (List.mem_filter.1 hr).1

/-! ## 2. A new record -/

/-- Where the numbers of all records are of 64 bits, the next one is. -/
theorem isInt64_of_nextNumber {n : Int} (fits : ∀ x ∈ t.records, Number.isInt64 x.number = true)
    (next : t.nextNumber = .ok n) : Number.isInt64 n = true := by
  have least : Number.minInt64 ≤ 0 := by decide
  have largest : 1 ≤ Number.maxInt64 := by decide
  have last : ∀ m, t.lastNumber? = some m → Number.minInt64 ≤ m := by
    intro m hm
    obtain ⟨x, hx, rfl⟩ := Option.map_eq_some_iff.1 hm
    exact (Number.isInt64_iff.1 (fits x (List.mem_of_getLast? hx))).1
  rw [nextNumber] at next
  rw [Number.isInt64_iff]
  cases hm : t.lastNumber? with
  | none =>
    simp only [hm, Option.getD_none, Option.map_none] at next
    split_ifs at next with automatic full full
    · obtain rfl := Except.ok.inj next
      omega
    · obtain rfl := Except.ok.inj next
      omega
  | some m =>
    have low := last m hm
    simp only [hm, Option.getD_some, Option.map_some] at next
    split_ifs at next with automatic full full
    · obtain rfl := Except.ok.inj next
      omega
    · obtain rfl := Except.ok.inj next
      omega

theorem isInt64_of_chooseNumber {given : Cell} {n : Int} (regular : given.Regular)
    (fits : ∀ x ∈ t.records, Number.isInt64 x.number = true) (chosen : t.chooseNumber given = .ok n) :
    Number.isInt64 n = true := by
  have stored := (Affinity.keeps_storeNumeric regular).1
  rw [chooseNumber] at chosen
  split at chosen
  · exact isInt64_of_nextNumber fits chosen
  · rename_i integer
    obtain rfl := Except.ok.inj chosen
    rwa [integer] at stored
  · cases chosen

section

variable {given : List (Reference × Cell)} (regular : ∀ p ∈ given, p.2.Regular)

include regular

theorem regular_givenNumber : (givenNumber given).Regular := by
  rw [givenNumber]
  cases last : (given.filter (·.1 == .number)).getLast? with
  | none => trivial
  | some p => exact regular p (List.mem_filter.1 (List.mem_of_getLast? last)).1

theorem regular_lookup (i : Nat) : ((given.lookup (.cell i)).getD .null).Regular := by
  cases found : given.lookup (.cell i) with
  | none => trivial
  | some v =>
    obtain ⟨before, after, rfl, -⟩ := List.lookup_eq_some_iff.1 found
    exact regular (.cell i, v) (by simp)

/-- **A new record holds values that its columns have stored.** -/
theorem keepsIn_newCells {n : Int} (fits : t.columns.any Column.isKey → Number.isInt64 n = true) :
    t.KeepsIn ⟨n, t.newCells n given⟩ := by
  intro i c hi taking
  cases key : c.isKey with
  | true =>
    have integer : c.affinity = .integer := by
      have kind : c.kind = .key := by simpa [Column.isKey] using key
      rw [Column.affinity, kind]
    rw [held, key, integer]
    exact ⟨fits (List.any_eq_true.2 ⟨c, List.mem_of_getElem? hi, key⟩), rfl⟩
  | false =>
    have cell : t.newCell n given i c = c.affinity.store ((given.lookup (.cell i)).getD .null) := by
      rw [newCell, givenCell, key]
      cases kind : c.kind with
      | generated a source => simp [Column.isGenerated, kind] at taking
      | key | data => rfl
    have here : held ⟨n, t.newCells n given⟩ i c =
        c.affinity.store ((given.lookup (.cell i)).getD .null) := by
      rw [held, key, ← cell, newCells, List.getElem?_mapIdx, hi]
      rfl
    exact here ▸ Affinity.keeps_store _ (regular_lookup regular i)

end

theorem Kept.of_insert {written : String} {columns : List String} {values : List Cell} (kept : t.Kept)
    (regular : ∀ v ∈ values, v.Regular) (done : t.insert written columns values = .ok t') : t'.Kept := by
  obtain ⟨n, -, chosen, gains, -⟩ := exists_gains_of_insert done
  have given : ∀ p ∈ (columns.map t.target).zip values, p.2.Regular :=
    fun p hp => regular p.2 (List.of_mem_zip hp).2
  have old := kept_iff.1 kept
  have fits : t.columns.any Column.isKey → Number.isInt64 n = true := by
    intro keyed
    obtain ⟨c, hc, key⟩ := List.any_eq_true.1 keyed
    obtain ⟨i, hi⟩ := List.getElem?_of_mem hc
    have kind : c.kind = .key := by simpa [Column.isKey] using key
    refine isInt64_of_chooseNumber (regular_givenNumber given) (fun x hx => ?_) chosen
    have keeps := old x hx i c hi (by rw [Column.isGenerated, kind])
    rw [held, key] at keeps
    exact keeps.regular
  refine kept_iff.2 fun r hr => ?_
  have same (x : Record) : t'.KeepsIn x ↔ t.KeepsIn x := by rw [KeepsIn, gains.columns, KeepsIn]
  rw [same]
  rw [gains.records, mem_place] at hr
  rcases hr with rfl | hr
  · exact keepsIn_newCells given fits
  · exact old r hr

end Table

/-! ## 3. Courses of operations -/

/-- Every table of `s` is `Table.Kept`. -/
def Keeps (s : Store) : Prop := ∀ name t, s.database.table? name = some t → t.Kept

variable {s : Store}

theorem keeps_fresh : fresh.Keeps := fun _ _ found => by cases found

theorem database_of_connect {d : Database} (connected : s.connect = .ok d) : d = s.database := by
  rw [connect] at connected
  split_ifs at connected
  exact (Except.ok.inj connected).symm

theorem Keeps.of_puts {name : String} {p : Table} {d : Database} (k : s.Keeps) (kept : p.Kept)
    (puts : s.database.Puts name p d) : Keeps { s with database := d } := by
  intro other t found
  rcases puts.table?_cases other with ⟨-, here⟩ | ⟨-, there⟩
  · obtain rfl := Option.some.inj (here.symm.trans found)
    exact kept
  · exact k other t (there ▸ found)

theorem Keeps.shape (k : s.Keeps) (table : String) (columns : List String) :
    (s.ensureTable table columns).2.Keeps := by
  rw [ensureTable]
  cases connected : s.connect with
  | error e => exact k
  | ok d =>
    obtain rfl := database_of_connect connected
    show Keeps { s with database := (s.database.ensureTable table columns).2 }
    rcases s.database.ensureTable_cases table columns with
      same | ⟨missing, p, made, named, -, -, -, -, empty⟩ | ⟨t, p, added, present, done, widens, -⟩
    · rwa [same]
    · rw [made]
      exact k.of_puts (by simp [Table.Kept, empty]) (Database.puts_add missing named)
    · rw [done]
      exact k.of_puts ((k table t present).of_widens widens) (Database.puts_replace present widens.name)

theorem Keeps.insert (k : s.Keeps) {s' : Store} {table : String} {columns : List String}
    {values : List (Option String)} (done : s.insert table columns values = .ok s') : s'.Keeps := by
  rw [Store.insert] at done
  split at done
  · cases done
  · obtain ⟨d, connected, done⟩ := exists_ok_of_bind done
    obtain rfl := database_of_connect connected
    obtain ⟨d', inserted, done⟩ := exists_ok_of_bind done
    obtain rfl := Except.ok.inj done
    obtain ⟨t, t', present, added, rfl⟩ := Database.insert_ok (ok_of_mapError inserted)
    have regular : ∀ v ∈ values.map Cell.ofText?, v.Regular := by
      refine List.forall_mem_map.2 fun v _ => ?_
      cases v <;> trivial
    obtain ⟨n, -, -, gains, -⟩ := Table.exists_gains_of_insert added
    exact k.of_puts ((k table t present).of_insert regular added) (Database.puts_replace present gains.name)

theorem Keeps.delete (k : s.Keeps) {s' : Store} {table id : String} (done : s.delete table id = .ok s') :
    s'.Keeps := by
  rw [Store.delete] at done
  obtain ⟨t, asked, done⟩ := exists_ok_of_bind done
  obtain ⟨rs, -, done⟩ := exists_ok_of_bind done
  split at done
  · cases done
  · obtain rfl := Except.ok.inj done
    rw [Store.asked] at asked
    obtain ⟨d, connected, asked⟩ := exists_ok_of_bind asked
    obtain rfl := database_of_connect connected
    obtain ⟨-, -, there⟩ := exists_ok_of_bind (ok_of_mapError asked)
    have present := Database.table?_of_table there
    exact k.of_puts ((k table t present).remove _) (Database.puts_replace present rfl)

/-- One case for each change: what fails leaves the store as it was. -/
theorem Keeps.apply (k : s.Keeps) (c : Change) : (c.apply s).Keeps := by
  cases c with
  | shape table columns => exact k.shape table columns
  | insert table columns values =>
    rw [Change.apply]
    cases done : s.insert table columns values with
    | error e => exact k
    | ok s' => exact k.insert done
  | delete table id =>
    rw [Change.apply]
    cases done : s.delete table id with
    | error e => exact k
    | ok s' => exact k.delete done
  | reopen file =>
    rw [Change.apply, file.reopened_eq]
    exact k

/-- **Tables that keep their values keep them over every course of operations.** -/
theorem Keeps.run (k : s.Keeps) (operations : List Operation) : (s.run operations).Keeps := by
  rw [run_eq_after]
  generalize s.changesOf operations = course
  induction course generalizing s with
  | nil => exact k
  | cons c course ih => exact ih (k.apply c)

/-- A table that was reached from a store without tables keeps its values. -/
theorem kept_run (operations : List Operation) {name : String} {t : Table}
    (found : (fresh.run operations).database.table? name = some t) : t.Kept :=
  keeps_fresh.run operations name t found

end Dataset.Store
