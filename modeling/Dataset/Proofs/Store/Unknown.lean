import Dataset.Proofs.Store.Change

/-!
# Names that a table does not know

A row is put into a table under names, each of which has to refer to something there. Shaping a table adds
every name that is lacking but those of the key: a table that was made without a key column is not given
one, and a row that names the key is refused from then on.

* `Table.Answers`, `Table.resolve?_isSome_iff`: a column has the name up to case, and when a name refers to
  something;
* `Table.Takes`: no name is that of a generated column, which takes no values;
* **`Table.insert_unknown_iff`**: a record is refused for an unknown column exactly if one of its names
  refers to nothing;
* **`Database.Prepares.answers_key_iff`**, **`Database.Prepares.answers_all_iff`**: which names a table
  knows that was brought to a shape;
* **`Store.insert_unknown_iff`**: which rows a store refuses for an unknown column.
-/

namespace Dataset

namespace Store

/-! ## 1. Names that refer to something -/

namespace Table

variable {t t' : Table} {name : String} {names : List String}

/-- A column of `t` answers to `name`. -/
def Answers (t : Table) (name : String) : Prop := ∃ c ∈ t.columns, c.answersTo name = true

theorem answers_of_mem (live : name ∈ t.columnNames) : t.Answers name := by
  obtain ⟨c, hc, -, rfl⟩ := mem_columnNames_iff.1 live
  exact ⟨c, hc, c.answersTo_self⟩

/-- Columns answer to all names that are alike, or to none. -/
theorem answers_congr {a b : String} (same : Text.sameIgnoringCase a b = true) :
    t.Answers a ↔ t.Answers b := by
  have each (c : Column) : c.answersTo a = c.answersTo b := by
    rw [Bool.eq_iff_iff, Column.answersTo, Column.answersTo, Text.sameIgnoringCase_iff,
      Text.sameIgnoringCase_iff, Text.sameIgnoringCase_iff.1 same]
  simp only [Answers, each]

/-- A name refers to what a column holds, or stands for the number of a record. -/
theorem resolve?_isSome_iff (t : Table) (name : String) :
    (t.resolve? name).isSome = true ↔
      t.Answers name ∨ numberNames.any (Text.sameIgnoringCase name) = true := by
  rw [resolve?]
  cases place : t.indexOf? name with
  | none =>
    have absent : ¬ t.Answers name := by
      rintro ⟨c, hc, answers⟩
      exact absurd answers (by simpa using List.findIdx?_eq_none_iff.1 place c hc)
    simp only [absent, false_or]
    split <;> simp_all
  | some i =>
    obtain ⟨here, answers, -⟩ := List.findIdx?_eq_some_iff_getElem.1 place
    have found : t.Answers name := ⟨_, List.getElem_mem here, answers⟩
    simp [List.getElem?_eq_getElem here, found]

/-- The key has no other name. -/
theorem resolve?_isSome_iff_of_key (key : namesKey name = true) :
    (t.resolve? name).isSome = true ↔ t.Answers Sql.keyColumn := by
  have noNumber : numberNames.any (Text.sameIgnoringCase name) = false := by
    have other : ∀ n ∈ numberNames, Text.sameIgnoringCase Sql.keyColumn n = false := by decide
    refine List.any_eq_false.2 fun n hn alike => ?_
    rw [namesKey, Text.sameIgnoringCase_comm] at key
    have same := Text.sameIgnoringCase_trans key alike
    rw [other n hn] at same
    cases same
  rw [resolve?_isSome_iff, noNumber, answers_congr key]
  simp

/-! ## 2. Records -/

/-- None of the names is that of a generated column. -/
def Takes (t : Table) (names : List String) : Prop :=
  ∀ n ∈ names, ∀ place, t.resolve? n = some place → t.generated? place = none

theorem generated?_of_live (live : name ∈ t.columnNames) {place : Reference}
    (found : t.resolve? name = some place) : t.generated? place = none := by
  obtain ⟨c, hc, taking, rfl⟩ := mem_columnNames_iff.1 live
  obtain ⟨i, li, rfl⟩ := List.getElem_of_mem hc
  rw [resolve?_of_getElem? (List.getElem?_eq_getElem li)] at found
  obtain rfl := Option.some.inj found
  split
  · rfl
  · simp [generated?, List.getElem?_eq_getElem li, taking]

/-- Names are resolved one after another, up to the first that is unknown or is that of a generated
    column. -/
theorem resolveAll_cases (t : Table) (written : String) (names : List String) :
    ((∀ n ∈ names, (t.resolve? n).isSome = true) ∧ ∃ refs, t.resolveAll written names = .ok refs) ∨
      (¬ t.Takes names ∧ ∃ n, t.resolveAll written names = .error (.generatedColumn n)) ∨
      ((∃ n ∈ names, t.resolve? n = none) ∧
        ∃ n, t.resolveAll written names = .error (.noColumnNamed written n)) := by
  induction names with
  | nil => exact .inl ⟨by simp, [], rfl⟩
  | cons n names ih =>
    rw [resolveAll]
    cases found : t.resolve? n with
    | none => exact .inr (.inr ⟨⟨n, List.mem_cons_self, found⟩, n, rfl⟩)
    | some place =>
      cases generated : t.generated? place with
      | some c =>
        refine .inr (.inl ⟨fun takes => ?_, c.name, by simp only [generated]⟩)
        rw [takes n List.mem_cons_self place found] at generated
        cases generated
      | none =>
        simp only [generated]
        rcases ih with ⟨known, refs, all⟩ | ⟨shown, m, failed⟩ | ⟨⟨m, hm, unknown⟩, k, failed⟩
        · refine .inl ⟨List.forall_mem_cons.2 ⟨by rw [found]; rfl, known⟩, place :: refs, ?_⟩
          rw [all, ok_bind]
        · exact .inr (.inl ⟨fun takes => shown fun l hl => takes l (.tail _ hl), m, by
            rw [failed, error_bind]⟩)
        · exact .inr (.inr ⟨⟨m, .tail _ hm, unknown⟩, k, by rw [failed, error_bind]⟩)

theorem nextNumber_fault {fault : Fault} (failed : t.nextNumber = .error fault) : fault = .full := by
  simp only [nextNumber] at failed
  split_ifs at failed <;> simp_all

/-- A number is refused for what it is, not for a name. -/
theorem chooseNumber_known {given : Cell} {fault : Fault} (failed : t.chooseNumber given = .error fault)
    (written n : String) : fault ≠ .noColumnNamed written n := by
  unfold chooseNumber at failed
  split at failed
  · simp [nextNumber_fault failed]
  · cases failed
  · cases failed
    simp

theorem append_known {number : Int} {cells : List Cell} {wide : cells.length = t.columns.length}
    {fault : Fault} (failed : t.append number cells wide = .error fault) (written n : String) :
    fault ≠ .noColumnNamed written n := by
  unfold append at failed
  split at failed
  · cases failed
  · cases failed
    intro unknown
    unfold taken at unknown
    split at unknown <;> cases unknown

/-- **A record is refused for an unknown column exactly if one of its names refers to nothing**, where this is
    not found out too late, behind the name of a generated column. -/
theorem insert_unknown_iff (written : String) (values : List Cell)
    (takes : (∃ n ∈ names, t.resolve? n = none) → t.Takes names) :
    (∃ n, t.insert written names values = .error (.noColumnNamed written n)) ↔
      ∃ n ∈ names, t.resolve? n = none := by
  rcases t.resolveAll_cases written names with ⟨known, refs, all⟩ | ⟨shown, k, failed⟩ | ⟨unknown, n, failed⟩
  · refine iff_of_false (fun ⟨n, refused⟩ => ?_) fun ⟨n, hn, missing⟩ => ?_
    · rw [insert, all, ok_bind] at refused
      rcases error_of_bind refused with number | ⟨k, -, appended⟩
      · exact chooseNumber_known number written n rfl
      · exact append_known appended written n rfl
    · have found := known n hn
      rw [missing] at found
      cases found
  · refine iff_of_false (fun ⟨n, refused⟩ => ?_) fun unknown => shown (takes unknown)
    rw [insert, failed, error_bind] at refused
    cases refused
  · exact iff_of_true ⟨n, by rw [insert, failed, error_bind]⟩ unknown

/-- A table that takes a record keeps its columns. -/
theorem columns_of_insert {written : String} {values : List Cell}
    (done : t.insert written names values = .ok t') : t'.name = t.name ∧ t'.columns = t.columns := by
  obtain ⟨refs, -, behind⟩ := exists_ok_of_bind done
  obtain ⟨n, -, appended⟩ := exists_ok_of_bind behind
  unfold append at appended
  split at appended
  · cases appended
    exact ⟨rfl, rfl⟩
  · cases appended

end Table

/-! ## 3. Tables that were brought to a shape -/

namespace Database

variable {d : Database} {name : String} {columns : List String} {p : Table}

/-- `d` has no table `name`, or one with a column that answers to `Sql.keyColumn`. -/
def KeepsKey (d : Database) (name : String) : Prop :=
  ∀ t, d.table? name = some t → t.Answers Sql.keyColumn

/-- **A table that was brought to a shape has a key exactly if it was missing, or had one.** -/
theorem Prepares.answers_key_iff (h : d.Prepares name columns p) :
    p.Answers Sql.keyColumn ↔ d.KeepsKey name := by
  have added : ∀ n ∈ dataColumns columns, (Column.numeric n).answersTo Sql.keyColumn = false := by
    intro n hn
    have other := (mem_dataColumns.1 hn).2
    exact other
  rw [Prepares] at h
  cases found : d.table? name with
  | none =>
    rw [found] at h
    have key : p.Answers Sql.keyColumn := by
      refine ⟨⟨Sql.keyColumn, .key⟩, ?_, by decide⟩
      rw [h.2.1]
      exact List.mem_cons_self
    exact iff_of_true key fun t present => by rw [found] at present; cases present
  | some t =>
    rw [found] at h
    have same : p.Answers Sql.keyColumn ↔ t.Answers Sql.keyColumn := by
      simp only [Table.Answers, h.columns, List.mem_append, List.mem_map]
      constructor
      · rintro ⟨c, hc | ⟨n, hn, rfl⟩, answers⟩
        · exact ⟨c, hc, answers⟩
        · rw [added n (mem_lacking.1 hn).1] at answers
          cases answers
      · rintro ⟨c, hc, answers⟩
        exact ⟨c, .inl hc, answers⟩
    rw [same]
    exact ⟨fun key t' present => by rwa [← Option.some.inj (found.symm.trans present)],
      fun keeps => keeps t found⟩

/-- After `ensureTable` the table `name` has a column for each of `columns`: it `KeepsKey`, or none of
    `columns` is the key's. -/
def Suits (d : Database) (name : String) (columns : List String) : Prop :=
  d.KeepsKey name ∨ ∀ n ∈ columns, namesKey n = false

/-- **It knows every name it was shaped for exactly if it has a key, or the key is not among them.** -/
theorem Prepares.answers_all_iff (h : d.Prepares name columns p) :
    (∀ n ∈ columns, p.Answers n) ↔ d.Suits name columns := by
  have knows := Table.knows_of_prepares h
  rw [Suits, ← h.answers_key_iff]
  constructor
  · intro all
    by_cases named : ∃ n ∈ columns, namesKey n = true
    · obtain ⟨n, hn, key⟩ := named
      exact .inl ((Table.answers_congr key).1 (all n hn))
    · refine .inr fun n hn => ?_
      rw [Bool.eq_false_iff]
      exact fun key => named ⟨n, hn, key⟩
  · rintro suits n hn
    rcases knows n hn with key | live
    · rcases suits with answers | unnamed
      · exact (Table.answers_congr key).2 answers
      · rw [unnamed n hn] at key
        cases key
    · exact Table.answers_of_mem live

/-- A name is resolved in a table that was shaped for it exactly if a column answers to it. -/
theorem Prepares.resolve?_isSome_iff (h : d.Prepares name columns p) {n : String} (hn : n ∈ columns) :
    (p.resolve? n).isSome = true ↔ p.Answers n := by
  rcases Table.knows_of_prepares h n hn with key | live
  · rw [Table.resolve?_isSome_iff_of_key key, Table.answers_congr key]
  · have answers := Table.answers_of_mem live
    rw [Table.resolve?_isSome_iff]
    exact iff_of_true (.inl answers) answers

theorem Prepares.exists_unknown_iff (h : d.Prepares name columns p) :
    (∃ n ∈ columns, p.resolve? n = none) ↔ ¬ d.Suits name columns := by
  rw [← h.answers_all_iff]
  push Not
  refine exists_congr fun n => and_congr_right fun hn => ?_
  rw [← h.resolve?_isSome_iff hn]
  simp

/-- If it knows one of the names not, this is the key, and none of the others is that of a generated
    column. -/
theorem Prepares.takes_of_unknown (h : d.Prepares name columns p)
    (unknown : ∃ n ∈ columns, p.resolve? n = none) : p.Takes columns := by
  have keyless : ¬ p.Answers Sql.keyColumn := by
    obtain ⟨n, hn, missing⟩ := unknown
    rcases Table.knows_of_prepares h n hn with key | live
    · rw [← Table.resolve?_isSome_iff_of_key key, missing]
      simp
    · obtain ⟨place, found⟩ := Table.exists_resolve? live
      cases missing.symm.trans found
  intro m hm place found
  rcases Table.knows_of_prepares h m hm with key | live
  · exact absurd ((Table.resolve?_isSome_iff_of_key key).1 (by rw [found]; rfl)) keyless
  · exact Table.generated?_of_live live found

/-- No name that a table was shaped for breaks a statement off. -/
theorem Prepares.readable (h : d.Prepares name columns p) :
    ∀ n ∈ columns, Sql.breaksOff n = false := by
  intro n hn
  rcases Table.knows_of_prepares h n hn with key | live
  · rw [Sql.breaksOff_of_same key]
    decide
  · exact Table.breaksOff_column live

end Database

/-! ## 4. Rows -/

variable {s s' : Store} {table : String} {t : Table} {columns : List String}

/-- A row is put into the table of a name, if that takes it. -/
theorem insert_of_fits (isOpen : s.isOpen = true) (present : s.database.table? table = some t)
    (named : columns ≠ []) (readable : ∀ c ∈ columns, Sql.breaksOff c = false)
    {values : List (Option String)} (fits : values.length = columns.length) :
    s.insert table columns values =
      match t.insert table columns (values.map Cell.ofText?) with
      | .ok t' => .ok { s with database := s.database.replace table t' }
      | .error fault => .error (.refused fault) := by
  have checked : Database.checkNames (table :: columns) = .ok () := by
    rw [Database.checkNames_eq_ok_iff]
    exact List.forall_mem_cons.2 ⟨Database.breaksOff_of_table? present, readable⟩
  have found : s.database.table table = .ok t := by rw [Database.table, present]
  rw [insert, if_neg (by simp [fits]), connect_of_isOpen isOpen, ok_bind, Database.insert, checked,
    ok_bind, if_neg (by simpa using named), found, ok_bind]
  cases t.insert table columns (values.map Cell.ofText?) <;> rfl

/-- **A row of readable names is refused for an unknown column exactly if one of its names refers to
    nothing**, where this is not found out too late. -/
theorem insert_unknown_iff (isOpen : s.isOpen = true) (present : s.database.table? table = some t)
    (readable : ∀ c ∈ columns, Sql.breaksOff c = false) {values : List (Option String)}
    (fits : values.length = columns.length)
    (takes : (∃ n ∈ columns, t.resolve? n = none) → t.Takes columns) :
    (∃ n, s.insert table columns values = .error (.refused (.noColumnNamed table n))) ↔
      ∃ n ∈ columns, t.resolve? n = none := by
  by_cases named : columns = []
  · have checked : Database.checkNames [table] = .ok () := by
      rw [Database.checkNames_eq_ok_iff]
      exact List.forall_mem_singleton.2 (Database.breaksOff_of_table? present)
    have refused : s.insert table [] values = .error (.refused (.unexpected ")")) := by
      rw [named] at fits
      rw [insert, if_neg (by simp [fits]), connect_of_isOpen isOpen, ok_bind, Database.insert, checked]
      rfl
    rw [named, refused]
    refine iff_of_false ?_ (by simp)
    rintro ⟨n, other⟩
    cases other
  · rw [← Table.insert_unknown_iff table (values.map Cell.ofText?) takes]
    refine exists_congr fun n => ?_
    rw [insert_of_fits isOpen present named readable fits]
    cases t.insert table columns (values.map Cell.ofText?) with
    | ok t' => simp
    | error fault => simp [Error.refused]

/-- `s` is open and has a table `table` with exactly these columns. -/
def Stands (s : Store) (table : String) (columns : List Column) : Prop :=
  s.isOpen = true ∧ ∃ t, s.database.table? table = some t ∧ t.columns = columns

/-- A row that is added leaves the columns as they are. -/
theorem Stands.insert {shape : List Column} (h : s.Stands table shape) {values : List (Option String)}
    (done : s.insert table columns values = .ok s') : s'.Stands table shape := by
  obtain ⟨isOpen, t, present, rfl⟩ := h
  rw [Store.insert] at done
  split at done
  · cases done
  · rw [connect_of_isOpen isOpen, ok_bind] at done
    obtain ⟨d, inserted, kept⟩ := exists_ok_of_bind done
    obtain rfl := Except.ok.inj kept
    obtain ⟨u, u', found, added, rfl⟩ := Database.insert_ok (ok_of_mapError inserted)
    obtain rfl := Option.some.inj (present.symm.trans found)
    obtain ⟨name, same⟩ := Table.columns_of_insert added
    exact ⟨isOpen, u', (Database.puts_replace present name).found, same⟩

end Store

end Dataset
