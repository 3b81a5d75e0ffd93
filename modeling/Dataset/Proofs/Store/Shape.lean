import Dataset.Proofs.Store.Answer
import Dataset.Proofs.Store.Widening
import Mathlib.Data.List.Nodup
import Mathlib.Data.List.Pairwise

/-!
# The shape of the dataset

Making the dataset table, and giving it the columns that it lacks, is a row of statements. Those that
were carried out before the first refused one stay done.

* `Database.table?_replace`, `Database.table?_replace_other`: what is found after a table has changed;
* **`Database.addColumns_spec`**: columns are added up to the first that is not taken;
* **`Database.ensureTable_of_present`**, **`Database.ensureTable_of_missing`**: so a table that is
  there may be left halfway, one that is made is made whole or not at all;
* **`Database.ensureTable_ok`**, **`Database.ensureTable_error`**: what is there after a shaping that
  succeeds, and after one that fails;
* `Database.ensureTable_of_shaped`: shaping a table for names that it knows changes nothing;
* **`Database.ensureTable_ok_iff`**: when it succeeds.
-/

namespace Dataset

namespace Store

/-! ## 1. A database with one table changed -/

namespace Database

variable {d : Database} {name other : String} {t t' : Table}

theorem answersTo_of_table? (present : d.table? name = some t) : t.answersTo name = true := by
  simpa using List.find?_some present

theorem find?_replaceFirst (answers : t'.answersTo name = true) {ts : List Table}
    (present : (ts.find? (·.answersTo name)).isSome = true) :
    (replaceFirst name t' ts).find? (·.answersTo name) = some t' := by
  induction ts with
  | nil => cases present
  | cons x rest ih =>
    rw [replaceFirst]
    cases h : x.answersTo name with
    | true => simp [answers]
    | false =>
      rw [List.find?_cons, h] at present
      simp [h, ih present]

/-- A table that was put in the place of another is found under its name. -/
theorem table?_replace (present : d.table? name = some t) (answers : t'.answersTo name = true) :
    (d.replace name t').table? name = some t' :=
  find?_replaceFirst answers (by rw [← Database.table?, present, Option.isSome_some])

/-- Under other names the same tables are found as before. -/
theorem table?_replace_other (answers : t'.answersTo name = true)
    (differs : Text.sameIgnoringCase name other = false) :
    (d.replace name t').table? other = d.table? other := by
  have unlike {x : Table} (h : x.answersTo name = true) : x.answersTo other = false := by
    rw [Table.answersTo, Text.sameIgnoringCase_comm] at h
    cases alike : x.answersTo other with
    | false => rfl
    | true => rw [Text.sameIgnoringCase_trans h alike] at differs; cases differs
  rw [replace, table?, table?]
  induction d.tables with
  | nil => rfl
  | cons x rest ih =>
    rw [replaceFirst]
    cases h : x.answersTo name with
    | true => simp [unlike h, unlike answers]
    | false => simp [List.find?_cons, ih]

theorem replace_self (present : d.table? name = some t) : d.replace name t = d := by
  obtain ⟨ts⟩ := d
  have kept : replaceFirst name t ts = ts := by
    rw [table?] at present
    induction ts with
    | nil => rfl
    | cons x rest ih =>
      rw [replaceFirst]
      cases h : x.answersTo name with
      | true =>
        rw [List.find?_cons, h] at present
        rw [Option.some.inj present]
        rfl
      | false =>
        rw [List.find?_cons, h] at present
        simp [ih present]
  rw [replace, kept]

theorem replace_replace (answers : t.answersTo name = true) (d : Database) :
    (d.replace name t).replace name t' = d.replace name t' := by
  rw [replace, replace, replace, Database.mk.injEq]
  induction d.tables with
  | nil => rfl
  | cons x rest ih =>
    rw [replaceFirst, replaceFirst]
    cases h : x.answersTo name with
    | true => simp [replaceFirst, answers]
    | false => simp [replaceFirst, h, ih]

/-- A table that is put in the place of another of its name renames none. -/
theorem map_name_replaceFirst (same : t'.name = t.name) {ts : List Table}
    (present : ts.find? (·.answersTo name) = some t) :
    (replaceFirst name t' ts).map Table.name = ts.map Table.name := by
  induction ts with
  | nil => rfl
  | cons x rest ih =>
    rw [replaceFirst]
    cases answers : x.answersTo name with
    | true =>
      rw [List.find?_cons, answers] at present
      obtain rfl := Option.some.inj present
      rw [if_pos rfl, List.map_cons, List.map_cons, same]
    | false =>
      rw [List.find?_cons, answers] at present
      rw [if_neg (by simp), List.map_cons, List.map_cons, ih present]

theorem table?_add (missing : d.table? name = none) (answers : t.answersTo name = true) :
    (d.add t).table? name = some t := by
  rw [table?] at missing
  rw [add, table?, List.find?_append, missing]
  simp [answers]

theorem table?_add_other (answers : t.answersTo name = true)
    (differs : Text.sameIgnoringCase name other = false) : (d.add t).table? other = d.table? other := by
  have unlike : t.answersTo other = false := by
    rw [Table.answersTo, Text.sameIgnoringCase_comm] at answers
    cases alike : t.answersTo other with
    | false => rfl
    | true => rw [Text.sameIgnoringCase_trans answers alike] at differs; cases differs
  rw [add, table?, table?, List.find?_append]
  simp [unlike]

/-! ## 2. Statements on the dataset table -/

theorem checkNames_eq_ok_iff {names : List String} :
    checkNames names = .ok () ↔ ∀ n ∈ names, Sql.breaksOff n = false := by
  rw [← Sql.brokenName?_eq_none, checkNames]
  cases Sql.brokenName? names <;> simp

/-- `table` can be the name of a table: it does not break off a statement and is not reserved. -/
structure Nameable (table : String) : Prop where
  readable : Sql.breaksOff table = false
  free : isReserved table = false

theorem addColumn_of_table? (present : d.table? name = some t) {column : String}
    (readable : Sql.breaksOff column = false) :
    d.addColumn name column = (t.addColumn (.numeric column)).map (d.replace name) := by
  have checked : checkNames [name, column] = .ok () := by
    rw [checkNames_eq_ok_iff]
    simpa using ⟨breaksOff_of_table? present, readable⟩
  rw [addColumn, checked, ok_bind, table, present, ok_bind]
  cases t.addColumn (.numeric column) <;> rfl

/-- Those of `names` that are not among `known`. -/
def lacking (known names : List String) : List String := names.filter fun n => n ∉ known

theorem mem_lacking {known names : List String} {n : String} :
    n ∈ lacking known names ↔ n ∈ names ∧ n ∉ known := by simp [lacking]

/-- **Columns are added one after another, up to the first that the table does not admit.** -/
theorem addColumns_spec (known : List String) {columns : List String}
    (readable : ∀ c ∈ columns, Sql.breaksOff c = false) (present : d.table? name = some t) :
    ∃ done t', t.Widens done t' ∧
      (done ≠ [] → t'.columns.length ≤ maxColumns) ∧
      ((addColumns known name columns d = (.ok (), d.replace name t') ∧
          lacking known columns = done) ∨
        ∃ fault c rest, addColumns known name columns d = (.error fault, d.replace name t') ∧
          lacking known columns = done ++ c :: rest ∧ ¬ t'.Admits c) := by
  induction columns generalizing d t with
  | nil =>
    exact ⟨[], t, .refl t, absurd rfl, .inl ⟨by rw [replace_self present, addColumns], rfl⟩⟩
  | cons c columns ih =>
    obtain ⟨here, there⟩ := List.forall_mem_cons.1 readable
    rw [addColumns]
    by_cases old : c ∈ known
    · have rest : lacking known (c :: columns) = lacking known columns :=
        List.filter_cons_of_neg (by simpa using old)
      rw [if_pos (List.contains_iff_mem.2 old), rest]
      exact ih there present
    · -- what is known stays what it was before the first addition, as the columns are read once
      have first : lacking known (c :: columns) = c :: lacking known columns :=
        List.filter_cons_of_pos (by simpa using old)
      rw [if_neg (fun h => old (List.contains_iff_mem.1 h)), first,
        addColumn_of_table? present here]
      rcases t.addColumn_spec here with ⟨admits, t₁, added, wider⟩ | ⟨refused, fault, failed⟩
      · have answers : t₁.answersTo name = true := by
          rw [wider.answersTo, answersTo_of_table? present]
        obtain ⟨done, t', widens, narrow, outcome⟩ := ih there (table?_replace present answers)
        have narrow' : t'.columns.length ≤ maxColumns := by
          by_cases more : done = []
          · obtain rfl : t' = t₁ := (more ▸ widens).eq_self
            rw [wider.columns, List.length_append]
            exact admits.2
          · exact narrow more
        rw [replace_replace answers] at outcome
        refine ⟨c :: done, t', wider.trans widens, fun _ => narrow', ?_⟩
        rw [added]
        rcases outcome with ⟨all, rfl⟩ | ⟨fault, e, rest, stopped, split, refused⟩
        · exact .inl ⟨all, rfl⟩
        · exact .inr ⟨fault, e, rest, stopped, by rw [split, List.cons_append], refused⟩
      · refine ⟨[], t, .refl t, absurd rfl, .inr ⟨fault, c, _, ?_, rfl, refused⟩⟩
        rw [failed, replace_self present]
        rfl

theorem addColumns_of_known {known columns : List String} (old : ∀ c ∈ columns, c ∈ known)
    (d : Database) : addColumns known name columns d = (.ok (), d) := by
  induction columns with
  | nil => rfl
  | cons c columns ih =>
    obtain ⟨here, there⟩ := List.forall_mem_cons.1 old
    rw [addColumns, if_pos (List.contains_iff_mem.2 here), ih there]

variable {columns : List String}

theorem checkNames_of_unreadable (broken : ¬ ∀ n ∈ columns, Sql.breaksOff n = false) :
    ∃ fault, checkNames columns = .error fault := by
  cases h : checkNames columns with
  | ok => exact absurd (checkNames_eq_ok_iff.1 h) broken
  | error fault => exact ⟨fault, rfl⟩

theorem create_of_nameable (nameable : Nameable name) :
    d.create name columns =
      if (d.table? name).isSome then (checkNames columns).map fun _ => d
      else Table.make name (datasetColumns (columns.takeWhile fun c => !Sql.breaksOff c)) true >>=
        fun t => (checkNames columns).map fun _ => d.add t := by
  have checked : checkNames [name] = .ok () := by
    rw [checkNames_eq_ok_iff]
    simpa using nameable.readable
  rw [create, checked, ok_bind, if_neg (by simp [nameable.free])]
  rfl

/-- A name that the engine refuses leaves everything as it is. -/
theorem ensureTable_of_unusable
    (unusable : ¬ (Nameable name ∧ ∀ c ∈ dataColumns columns, Sql.breaksOff c = false)) :
    ∃ fault, d.ensureTable name columns = (.error fault, d) := by
  have refused : ∃ fault, d.create name (dataColumns columns) = .error fault := by
    by_cases nameable : Nameable name
    · obtain ⟨fault, broken⟩ := checkNames_of_unreadable fun h => unusable ⟨nameable, h⟩
      rw [create_of_nameable nameable, broken]
      split
      · exact ⟨fault, rfl⟩
      · cases Table.make name _ true with
        | error other => exact ⟨other, rfl⟩
        | ok t => exact ⟨fault, rfl⟩
    · rw [create]
      cases checked : checkNames [name] with
      | error fault => exact ⟨fault, rfl⟩
      | ok =>
        rw [checkNames_eq_ok_iff] at checked
        have readable : Sql.breaksOff name = false := checked name (List.mem_singleton_self name)
        have reserved : isReserved name = true := by
          cases h : isReserved name with
          | true => rfl
          | false => exact absurd ⟨readable, h⟩ nameable
        rw [ok_bind, if_pos reserved]
        exact ⟨_, rfl⟩
  obtain ⟨fault, failed⟩ := refused
  exact ⟨fault, by rw [ensureTable, failed]⟩

/-- **A table that is there gets the columns that it lacks, up to the first that it does not
    admit.** -/
theorem ensureTable_of_present (present : d.table? name = some t) (nameable : Nameable name)
    (readable : ∀ c ∈ dataColumns columns, Sql.breaksOff c = false) :
    ∃ done t', t.Widens done t' ∧
      (done ≠ [] → t'.columns.length ≤ maxColumns) ∧
      ((d.ensureTable name columns = (.ok (), d.replace name t') ∧
          lacking t.columnNames (dataColumns columns) = done) ∨
        ∃ fault c rest, d.ensureTable name columns = (.error fault, d.replace name t') ∧
          lacking t.columnNames (dataColumns columns) = done ++ c :: rest ∧ ¬ t'.Admits c) := by
  have kept : d.create name (dataColumns columns) = .ok d := by
    rw [create_of_nameable nameable, present, checkNames_eq_ok_iff.2 readable]
    rfl
  have known : d.columns name = t.columnNames := by
    rw [Database.columns, present]
    rfl
  rw [ensureTable, kept]
  simp only [known]
  exact addColumns_spec t.columnNames readable present

/-- All columns of a dataset table are listed. -/
theorem columnNames_of_dataset {data : List String} (shape : t.columns = datasetColumns data) :
    t.columnNames = Sql.keyColumn :: data := by
  have taking : (datasetColumns data).filter (fun c => !c.isGenerated) = datasetColumns data := by
    refine List.filter_eq_self.2 fun c hc => ?_
    rcases List.mem_cons.1 hc with rfl | hc
    · rfl
    · obtain ⟨n, -, rfl⟩ := List.mem_map.1 hc
      rfl
  rw [Table.columnNames, shape, taking]
  simp [datasetColumns, Function.comp_def, Column.numeric]

/-- **A table that is missing is made with all columns, or not at all.** -/
theorem ensureTable_of_missing (missing : d.table? name = none) (nameable : Nameable name)
    (readable : ∀ c ∈ dataColumns columns, Sql.breaksOff c = false) :
    let shape := datasetColumns (dataColumns columns)
    ((Distinct shape ∧ shape.length ≤ maxColumns) ∧
        ∃ t, d.ensureTable name columns = (.ok (), d.add t) ∧ t.name = name ∧ t.columns = shape ∧
          t.automatic = true ∧ t.highest = 0 ∧ t.records = []) ∨
      (¬ (Distinct shape ∧ shape.length ≤ maxColumns) ∧
        ∃ fault, d.ensureTable name columns = (.error fault, d)) := by
  intro shape
  have all : (dataColumns columns).takeWhile (fun c => !Sql.breaksOff c) = dataColumns columns :=
    List.takeWhile_eq_self_iff.2 fun c hc => by simp [readable c hc]
  have names : shape.map Column.name = Sql.keyColumn :: dataColumns columns := by
    simp [shape, datasetColumns, Function.comp_def, Column.numeric]
  have whole : Sql.brokenName? (name :: shape.map Column.name) = none := by
    rw [names, Sql.brokenName?_eq_none]
    simpa using ⟨nameable.readable, by decide, readable⟩
  have made : d.create name (dataColumns columns) = (Table.make name shape true).map d.add := by
    rw [create_of_nameable nameable, missing, checkNames_eq_ok_iff.2 readable, all]
    cases Table.make name shape true <;> rfl
  have keyed : ∃ c ∈ shape, c.isGenerated = false := ⟨_, List.mem_cons_self, rfl⟩
  rcases Table.make_spec keyed whole true with
    ⟨fits, t, ht, hname, hcolumns, rest⟩ | ⟨unfit, fault, failed⟩
  · refine .inl ⟨fits, t, ?_, hname, hcolumns, rest⟩
    have found : (d.add t).table? name = some t :=
      table?_add missing (by rw [Table.answersTo, hname, sameIgnoringCase_refl])
    have known : (d.add t).columns name = Sql.keyColumn :: dataColumns columns := by
      rw [Database.columns, found]
      exact columnNames_of_dataset hcolumns
    rw [ensureTable, made, ht]
    simp only [Except.map, known]
    exact addColumns_of_known (fun c hc => .tail _ hc) (d.add t)
  · exact .inr ⟨unfit, fault, by rw [ensureTable, made, failed]; rfl⟩

/-- `p` is the table `name` of `d` once it is shaped for `columns`: made with the `dataColumns` of them, or
    widened by those that it lacks. -/
def Prepares (d : Database) (name : String) (columns : List String) (p : Table) : Prop :=
  match d.table? name with
  | none => p.name = name ∧ p.columns = datasetColumns (dataColumns columns) ∧
      p.automatic = true ∧ p.highest = 0 ∧ p.records = []
  | some t => t.Widens (lacking t.columnNames (dataColumns columns)) p

/-- **A shaped table is found under its name, and nothing else has changed.** -/
theorem ensureTable_ok {d' : Database} (done : d.ensureTable name columns = (.ok (), d')) :
    ∃ p, d.Prepares name columns p ∧ d'.table? name = some p ∧
      ((∀ t, d.table? name = some t → t.columns.length ≤ maxColumns) →
        p.columns.length ≤ maxColumns) ∧
      ∀ other, Text.sameIgnoringCase name other = false → d'.table? other = d.table? other := by
  by_cases usable : Nameable name ∧ ∀ c ∈ dataColumns columns, Sql.breaksOff c = false
  · obtain ⟨nameable, readable⟩ := usable
    cases found : d.table? name with
    | none =>
      rcases ensureTable_of_missing found nameable readable with
        ⟨fits, p, made, hname, hcolumns, rest⟩ | ⟨-, fault, failed⟩
      · have answers : p.answersTo name = true := by
          rw [Table.answersTo, hname, sameIgnoringCase_refl]
        obtain rfl : d.add p = d' := congrArg Prod.snd (made.symm.trans done)
        refine ⟨p, by rw [Prepares, found]; exact ⟨hname, hcolumns, rest⟩,
          table?_add found answers, fun _ => hcolumns ▸ fits.2, fun other => table?_add_other answers⟩
      · rw [failed] at done
        cases congrArg Prod.fst done
    | some t =>
      obtain ⟨added, p, widens, narrow, ⟨all, rfl⟩ | ⟨fault, c, rest, stopped, -⟩⟩ :=
        ensureTable_of_present found nameable readable
      · have answers : p.answersTo name = true := by
          rw [widens.answersTo, answersTo_of_table? found]
        obtain rfl : d.replace name p = d' := congrArg Prod.snd (all.symm.trans done)
        refine ⟨p, by rw [Prepares, found]; exact widens, table?_replace found answers,
          fun old => ?_, fun other => table?_replace_other answers⟩
        by_cases whole : lacking t.columnNames (dataColumns columns) = []
        · obtain rfl : p = t := (whole ▸ widens).eq_self
          exact old p rfl
        · exact narrow whole
      · rw [stopped] at done
        cases congrArg Prod.fst done
  · obtain ⟨fault, failed⟩ := ensureTable_of_unusable usable
    rw [failed] at done
    cases congrArg Prod.fst done

/-- **A table that has the columns it was shaped for is left as it is when it is shaped again.** -/
theorem ensureTable_of_shaped {d' e : Database} (shaped : d.ensureTable name columns = (.ok (), d')) (present : e.table? name = some t)
    (known : ∀ c ∈ dataColumns columns, c ∈ t.columnNames) :
    e.ensureTable name columns = (.ok (), e) := by
  by_cases usable : Nameable name ∧ ∀ c ∈ dataColumns columns, Sql.breaksOff c = false
  · have nothing : lacking t.columnNames (dataColumns columns) = [] := by
      rw [List.eq_nil_iff_forall_not_mem]
      intro c hc
      obtain ⟨named, new⟩ := mem_lacking.1 hc
      exact new (known c named)
    obtain ⟨added, t', widens, -, ⟨all, rfl⟩ | ⟨fault, c, rest, -, split, -⟩⟩ :=
      ensureTable_of_present present usable.1 usable.2
    · rw [nothing] at widens
      obtain rfl := widens.eq_self
      rw [all, replace_self present]
    · rw [nothing] at split
      exact absurd split.symm (by simp)
  · obtain ⟨fault, failed⟩ := ensureTable_of_unusable (d := d) usable
    rw [failed] at shaped
    cases congrArg Prod.fst shaped

/-- `d` has a usable table `name`, which admits the first of `columns` that it lacks. -/
def AddsFirst (d : Database) (name : String) (columns : List String) : Prop :=
  ∃ t first rest, d.table? name = some t ∧ Nameable name ∧
    (∀ c ∈ dataColumns columns, Sql.breaksOff c = false) ∧
    lacking t.columnNames (dataColumns columns) = first :: rest ∧ t.Admits first

/-- In `d'` the table `name` has some of the `columns` that it lacks in `d`: those before one that it does not
    admit. -/
def Halfway (d : Database) (name : String) (columns : List String) (d' : Database) : Prop :=
  ∃ t t' added refused rest, d.table? name = some t ∧
    lacking t.columnNames (dataColumns columns) = added ++ refused :: rest ∧ added ≠ [] ∧
    t.Widens added t' ∧ ¬ t'.Admits refused ∧ d' = d.replace name t'

section Halfway

variable {d' : Database}

/-- What is left halfway is not what was there. -/
theorem Halfway.ne (h : d.Halfway name columns d') : d' ≠ d := by
  obtain ⟨t, t', added, refused, rest, found, -, more, widens, -, rfl⟩ := h
  intro same
  have answers : t'.answersTo name = true := by
    rw [widens.answersTo, answersTo_of_table? found]
  have found' := table?_replace found answers
  rw [same, found] at found'
  obtain rfl := Option.some.inj found'
  have length := congrArg List.length widens.columns
  rw [List.length_append, List.length_map] at length
  have nothing : added.length = 0 := by omega
  exact more (List.length_eq_zero_iff.1 nothing)

/-- No table is made or renamed. -/
theorem Halfway.map_name (h : d.Halfway name columns d') :
    d'.tables.map Table.name = d.tables.map Table.name := by
  obtain ⟨t, t', added, refused, rest, found, -, -, widens, -, rfl⟩ := h
  exact map_name_replaceFirst widens.name found

/-- No other table is touched. -/
theorem Halfway.table?_other (h : d.Halfway name columns d')
    (differs : Text.sameIgnoringCase name other = false) : d'.table? other = d.table? other := by
  obtain ⟨t, t', added, refused, rest, found, -, -, widens, -, rfl⟩ := h
  have answers : t'.answersTo name = true := by
    rw [widens.answersTo, answersTo_of_table? found]
  exact table?_replace_other answers differs

end Halfway

/-- **A shaping that fails leaves all as it was, or the table with the columns before the refused
    one.** -/
theorem ensureTable_error {d' : Database} {fault : Fault}
    (failed : d.ensureTable name columns = (.error fault, d')) :
    (d' = d ∧ ¬ d.AddsFirst name columns) ∨
      (d.Halfway name columns d' ∧ d.AddsFirst name columns) := by
  by_cases usable : Nameable name ∧ ∀ c ∈ dataColumns columns, Sql.breaksOff c = false
  · obtain ⟨nameable, readable⟩ := usable
    cases found : d.table? name with
    | none =>
      rcases ensureTable_of_missing found nameable readable with
        ⟨-, t, made, -⟩ | ⟨-, fault, refused⟩
      · rw [made] at failed
        cases congrArg Prod.fst failed
      · rw [refused] at failed
        refine .inl ⟨(congrArg Prod.snd failed).symm, fun ⟨t, _, _, found', _⟩ => ?_⟩
        rw [found] at found'
        cases found'
    | some t =>
      obtain ⟨added, t', widens, room, ⟨all, -⟩ | ⟨fault, c, rest, stopped, split, refused⟩⟩ :=
        ensureTable_of_present found nameable readable
      · rw [all] at failed
        cases congrArg Prod.fst failed
      · obtain rfl : d.replace name t' = d' := congrArg Prod.snd (stopped.symm.trans failed)
        cases added with
        | nil =>
          obtain rfl := widens.eq_self
          refine .inl ⟨replace_self found, fun ⟨t, first, others, found', _, _, split', admits⟩ => ?_⟩
          obtain rfl := Option.some.inj (found.symm.trans found')
          obtain ⟨rfl, -⟩ := List.cons.inj (split.symm.trans split')
          exact refused admits
        | cons first added =>
          exact .inr ⟨⟨t, t', first :: added, c, rest, found, split, by simp, widens, refused, rfl⟩,
            t, first, _, found, nameable, readable, split, widens.admits_first (room (by simp))⟩
  · obtain ⟨fault, refused⟩ := ensureTable_of_unusable usable
    rw [refused] at failed
    refine .inl ⟨(congrArg Prod.snd failed).symm, fun ⟨_, _, _, _, nameable, readable, _⟩ => ?_⟩
    exact usable ⟨nameable, readable⟩

/-! ## 3. Names that are clear -/

/-- Names of `data` that differ from others of `known ++ data` differ by more than case. -/
def Clear (known data : List String) : Prop :=
  ∀ a ∈ data, ∀ b ∈ known ++ data, Text.sameIgnoringCase a b = true → a = b

theorem distinct_iff_names {cs : List Column} :
    Distinct cs ↔
      (cs.map Column.name).Pairwise fun a b => Text.sameIgnoringCase a b = false := by
  rw [List.pairwise_map]
  exact .rfl

/-- Columns with the data that they lack differ by more than case exactly if the names are clear. -/
theorem distinct_append_lacking_iff {cs : List Column} (distinct : Distinct cs) {data : List String}
    (nodup : data.Nodup) :
    Distinct (cs ++ (lacking (cs.map Column.name) data).map Column.numeric) ↔
      Clear (cs.map Column.name) data := by
  let known := cs.map Column.name
  have named : (cs ++ (lacking known data).map Column.numeric).map Column.name =
      known ++ lacking known data := by
    simp [known, Function.comp_def, Column.numeric]
  rw [distinct_iff_names, named]
  constructor
  · intro pairwise a ha b hb alike
    have all {n : String} (hn : n ∈ known ++ data) : n ∈ known ++ lacking known data := by
      simp only [List.mem_append, mem_lacking] at hn ⊢
      tauto
    have symmetric : Std.Symm fun a b : String => Text.sameIgnoringCase a b = false :=
      ⟨fun a b h => by rwa [Text.sameIgnoringCase_comm]⟩
    by_contra differs
    have unlike := pairwise.forall (all (List.mem_append_right _ ha)) (all hb) differs
    rw [alike] at unlike
    cases unlike
  · intro clear
    refine List.pairwise_append.2 ⟨distinct_iff_names.1 distinct, ?_, fun a ha b hb => ?_⟩
    · refine (nodup.filter _).pairwise_of_forall_ne fun a ha b hb differs => ?_
      have inData := (List.mem_filter.1 hb).1
      rw [Bool.eq_false_iff]
      exact fun alike => differs (clear a (List.mem_filter.1 ha).1 b (by simp [inData]) alike)
    · obtain ⟨hb, new⟩ := mem_lacking.1 hb
      rw [Text.sameIgnoringCase_comm, Bool.eq_false_iff]
      intro alike
      have same := clear b hb a (List.mem_append_left _ ha) alike
      exact new (same ▸ ha)

/-- Names under which columns are listed are not alike to one of a generated column. -/
theorem unlike_generated {n g : String} (live : n ∈ t.columnNames) (generated : g ∈ t.generatedNames) :
    Text.sameIgnoringCase n g = false := by
  obtain ⟨c, hc, taking, rfl⟩ := Table.mem_columnNames_iff.1 live
  obtain ⟨e, he, rfl⟩ := List.mem_map.1 generated
  obtain ⟨he, shows⟩ := List.mem_filter.1 he
  have symmetric : Std.Symm fun a b : Column => a.answersTo b.name = false :=
    ⟨fun a b h => by rwa [Column.answersTo, Text.sameIgnoringCase_comm]⟩
  refine t.distinct.forall hc he fun same => ?_
  rw [same, shows] at taking
  cases taking

/-- The columns of a table with the data that it lacks differ by more than case exactly if the names are
    clear, and none is alike to that of a generated column. -/
theorem distinct_widened_iff (t : Table) {data : List String} (nodup : data.Nodup) :
    Distinct (t.columns ++ (lacking t.columnNames data).map Column.numeric) ↔
      Clear t.columnNames data ∧
        ∀ a ∈ data, ∀ g ∈ t.generatedNames, Text.sameIgnoringCase a g = false := by
  by_cases apart : ∀ a ∈ data, ∀ g ∈ t.generatedNames, Text.sameIgnoringCase a g = false
  · have same : lacking t.columnNames data = lacking (t.columns.map Column.name) data := by
      refine List.filter_congr fun a ha => decide_eq_decide.2 (not_congr ?_)
      rw [← Table.shownNames, Table.mem_shownNames_iff, or_iff_left fun generated => ?_]
      have unlike := apart a ha a generated
      rw [sameIgnoringCase_refl] at unlike
      cases unlike
    rw [same, distinct_append_lacking_iff t.distinct nodup, and_iff_left apart]
    refine forall₂_congr fun a ha => ⟨fun clear b hb => clear b ?_, fun clear b hb alike => ?_⟩
    · rw [List.mem_append] at hb ⊢
      exact hb.imp_left Table.mem_shownNames_of_live
    · rw [List.mem_append, ← Table.shownNames, Table.mem_shownNames_iff] at hb
      rcases hb with (listed | generated) | inData
      · exact clear b (List.mem_append_left _ listed) alike
      · rw [apart a ha b generated] at alike
        cases alike
      · exact clear b (List.mem_append_right _ inData) alike
  · refine iff_of_false (fun distinct => apart fun a ha g generated => ?_) fun h => apart h.2
    by_cases live : a ∈ t.columnNames
    · exact unlike_generated live generated
    · obtain ⟨e, he, rfl⟩ := List.mem_map.1 generated
      have lacked := List.mem_map_of_mem (mem_lacking.2 ⟨ha, live⟩) (f := Column.numeric)
      have unlike := (List.pairwise_append.1 distinct).2.2 e (List.mem_filter.1 he).1 _ lacked
      rwa [Text.sameIgnoringCase_comm]

/-- The `generatedNames` of the table `name`, none if it is missing. -/
def generatedColumns (d : Database) (name : String) : List String :=
  match d.table? name with
  | none => []
  | some t => t.generatedNames

/-- The `columnNames` of the table `name`; the key alone if the table is still to be made. -/
def startColumns (d : Database) (name : String) : List String :=
  match d.table? name with
  | none => [Sql.keyColumn]
  | some t => t.columnNames

theorem generatedColumns_of_present (present : d.table? name = some t) :
    d.generatedColumns name = t.generatedNames := by
  rw [generatedColumns, present]

theorem startColumns_of_present (present : d.table? name = some t) :
    d.startColumns name = t.columnNames := by
  rw [startColumns, present]

/-- The data columns of a table that is made are clear exactly if its columns differ by more than
    case. -/
theorem distinct_datasetColumns_iff {data : List String} (nodup : data.Nodup)
    (unkeyed : ∀ n ∈ data, Text.sameIgnoringCase n Sql.keyColumn = false) :
    lacking [Sql.keyColumn] data = data ∧
      (Distinct (datasetColumns data) ↔ Clear [Sql.keyColumn] data) := by
  have new : lacking [Sql.keyColumn] data = data := by
    refine List.filter_eq_self.2 fun n hn => ?_
    have differs : n ≠ Sql.keyColumn := by
      rintro rfl
      have unlike := unkeyed _ hn
      rw [sameIgnoringCase_refl] at unlike
      cases unlike
    simpa using differs
  have alone : Distinct [⟨Sql.keyColumn, .key⟩] := List.pairwise_singleton _ _
  have clear := distinct_append_lacking_iff alone nodup
  simp only [List.map_cons, List.map_nil, new, List.cons_append, List.nil_append] at clear
  exact ⟨new, clear⟩

theorem ensureTable_ok_iff_of_missing (missing : d.table? name = none) (nameable : Nameable name)
    (readable : ∀ c ∈ dataColumns columns, Sql.breaksOff c = false) (nodup : columns.Nodup) :
    (∃ d', d.ensureTable name columns = (.ok (), d')) ↔
      Clear [Sql.keyColumn] (dataColumns columns) ∧
        [Sql.keyColumn].length + (lacking [Sql.keyColumn] (dataColumns columns)).length ≤
          maxColumns := by
  have nodup' : (dataColumns columns).Nodup := nodup.filter _
  have unkeyed : ∀ n ∈ dataColumns columns, Text.sameIgnoringCase n Sql.keyColumn = false :=
    fun n hn => by simpa [dataColumns] using (List.mem_filter.1 hn).2
  obtain ⟨new, clear⟩ := distinct_datasetColumns_iff nodup' unkeyed
  have length : (datasetColumns (dataColumns columns)).length =
      [Sql.keyColumn].length + (dataColumns columns).length := by
    simp [datasetColumns, Nat.add_comm]
  rw [new, ← length]
  rcases ensureTable_of_missing missing nameable readable with
    ⟨fits, t, made, -⟩ | ⟨unfit, fault, failed⟩
  · exact ⟨fun _ => ⟨clear.1 fits.1, fits.2⟩, fun _ => ⟨_, made⟩⟩
  · refine ⟨fun ⟨d', done⟩ => ?_, fun ⟨fits, few⟩ => absurd ⟨clear.2 fits, few⟩ unfit⟩
    rw [failed] at done
    cases congrArg Prod.fst done

theorem ensureTable_ok_iff_of_present (present : d.table? name = some t) (nameable : Nameable name)
    (readable : ∀ c ∈ dataColumns columns, Sql.breaksOff c = false) (nodup : columns.Nodup)
    (narrow : t.columns.length ≤ maxColumns) :
    (∃ d', d.ensureTable name columns = (.ok (), d')) ↔
      (Clear t.columnNames (dataColumns columns) ∧
        ∀ a ∈ dataColumns columns, ∀ g ∈ t.generatedNames, Text.sameIgnoringCase a g = false) ∧
        t.columnNames.length + t.generatedNames.length +
          (lacking t.columnNames (dataColumns columns)).length ≤ maxColumns := by
  have nodup' : (dataColumns columns).Nodup := nodup.filter _
  rw [← distinct_widened_iff t nodup', ← t.length_columns]
  obtain ⟨done, t', widens, room, ⟨all, rfl⟩ | ⟨fault, c, rest, stopped, split, refused⟩⟩ :=
    ensureTable_of_present present nameable readable
  · refine ⟨fun _ => ⟨widens.columns ▸ t'.distinct, ?_⟩, fun _ => ⟨_, all⟩⟩
    by_cases whole : lacking t.columnNames (dataColumns columns) = []
    · rw [whole]
      exact narrow
    · simpa [widens.columns] using room whole
  · refine ⟨fun ⟨d', done⟩ => ?_, fun ⟨distinct, few⟩ => absurd ?_ refused⟩
    · rw [stopped] at done
      cases congrArg Prod.fst done
    · -- the columns with all that they lack differ, so the one that was refused is admitted
      rw [split, List.map_append, List.map_cons, ← List.append_assoc, ← widens.columns] at distinct
      refine ⟨fun x hx => ?_, ?_⟩
      · exact (List.pairwise_append.1 distinct).2.2 x hx _ List.mem_cons_self
      · rw [split] at few
        simp only [widens.columns, List.length_append, List.length_map, List.length_cons] at few ⊢
        omega

/-- **The table of a name is shaped for some columns exactly if the names of its columns and of the
    data are clear, none of the data is alike to a generated column, and they are not too many.** -/
theorem ensureTable_ok_iff (nameable : Nameable name)
    (readable : ∀ c ∈ dataColumns columns, Sql.breaksOff c = false) (nodup : columns.Nodup)
    (narrow : ∀ t, d.table? name = some t → t.columns.length ≤ maxColumns) :
    (∃ d', d.ensureTable name columns = (.ok (), d')) ↔
      (Clear (d.startColumns name) (dataColumns columns) ∧
        ∀ a ∈ dataColumns columns, ∀ g ∈ d.generatedColumns name, Text.sameIgnoringCase a g = false) ∧
        (d.startColumns name).length + (d.generatedColumns name).length +
          (lacking (d.startColumns name) (dataColumns columns)).length ≤ maxColumns := by
  cases found : d.table? name with
  | none =>
    have start : d.startColumns name = [Sql.keyColumn] := by rw [startColumns, found]
    have none_generated : d.generatedColumns name = [] := by rw [generatedColumns, found]
    rw [start, none_generated, ensureTable_ok_iff_of_missing found nameable readable nodup]
    simp
  | some t =>
    rw [startColumns_of_present found, generatedColumns_of_present found]
    exact ensureTable_ok_iff_of_present found nameable readable nodup (narrow t found)

end Database

end Store

end Dataset
