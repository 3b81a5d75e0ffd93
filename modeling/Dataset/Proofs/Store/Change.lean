import Dataset.Proofs.FileTree
import Dataset.Proofs.Store.Numbering

/-!
# One change of a store after another

The shape of a table is changed, a row is added or removed, or a store that is kept in a file is opened
again. What fails of this leaves the store as it was, except that a shaping may have added columns.

* `Change`, `Change.apply`, `after`: a change, what it makes of a store, and what a course of them does;
* `Sound`: the store is open and its tables are sound;
* **`effect_apply`**: all that a change can do to such a store, one case (`Effect`) for each way;
* `Effect.sound`, **`sound_after`**: so a store stays sound;
* `Change.Brings`: a change names a number for a new record; **`Effect.follows`**: every number in a
  table was there before, or was brought, or is larger than all that were ever there;
* **`exists_after`**: over a course of changes no table is lost, and no largest number falls;
* **`Sound.numbered_above`**, **`gone_after`**: so a record that brings no number gets one that its table
  never had, and a number that is gone stays gone until it is brought.
-/

namespace Dataset

namespace Store

/-! ## 1. Changes -/

/-- A file that a database is kept in: its path, seen from a directory, and the files around it. -/
structure DatabaseFile where
  files : FileTree
  directory : String
  path : String
  place : Location
  leads : FileTree.databasePlace? directory path = some place
  below : place ≠ []

/-- The store once its database has been written to the file and opened again. -/
def DatabaseFile.reopened (file : DatabaseFile) (s : Store) : Store :=
  let saved := file.files.saveDatabase file.directory file.path s.database
  match saved.openDatabase file.directory file.path with
  | .ok (d, _) => .ofDatabase d
  | .error _ => s.close

/-- One change of a store. -/
inductive Change where
  | shape (table : String) (columns : List String)
  | insert (table : String) (columns : List String) (values : List (Option String))
  | delete (table id : String)
  | reopen (file : DatabaseFile)

/-- The store after a change. A failed `insert` or `delete` leaves `s`; a failed `shape` leaves what it had
    done. -/
def Change.apply (s : Store) : Change → Store
  | .shape table columns => (s.ensureTable table columns).2
  | .insert table columns values => (s.insert table columns values).toOption.getD s
  | .delete table id => (s.delete table id).toOption.getD s
  | .reopen file => file.reopened s

/-- The store `s` after the changes of `course`. -/
def after (s : Store) (course : List Change) : Store := course.foldl Change.apply s

theorem after_append (s : Store) (a b : List Change) : s.after (a ++ b) = (s.after a).after b :=
  List.foldl_append

/-- **A database is read back from its file as it was written.** -/
theorem DatabaseFile.reopened_eq (file : DatabaseFile) (s : Store) :
    file.reopened s = .ofDatabase s.database := by
  have saved : file.files.saveDatabase file.directory file.path s.database =
      file.files.put file.place (.file (.database s.database)) := by
    rw [FileTree.saveDatabase, file.leads]
  have entry := FileTree.entry?_put file.files file.below (.file (.database s.database))
  rw [reopened, saved, FileTree.openDatabase, file.leads]
  simp only [entry]
  rfl

/-! ## 2. One table put in place -/

namespace Database

variable {d d' : Database} {name other : String} {t p : Table}

/-- Under names that are alike the same table is found. -/
theorem table?_congr (alike : Text.sameIgnoringCase name other = true) (d : Database) :
    d.table? name = d.table? other := by
  have answers (t : Table) : t.answersTo name = t.answersTo other := by
    rw [Bool.eq_iff_iff, Table.answersTo, Table.answersTo]
    refine ⟨fun h => Text.sameIgnoringCase_trans h alike, fun h => ?_⟩
    rw [Text.sameIgnoringCase_comm] at alike
    exact Text.sameIgnoringCase_trans h alike
  rw [table?, table?]
  exact congrArg (fun test => d.tables.find? test) (funext answers)

/-- `d'` has the table `p` under `name`, and under every other name the table of `d`. -/
structure Puts (d : Database) (name : String) (p : Table) (d' : Database) : Prop where
  found : d'.table? name = some p
  others : ∀ other, Text.sameIgnoringCase name other = false → d'.table? other = d.table? other

theorem puts_replace (present : d.table? name = some t) (same : p.name = t.name) :
    d.Puts name p (d.replace name p) := by
  have answers : p.answersTo name = true := by
    rw [Table.answersTo, same]
    exact answersTo_of_table? present
  exact ⟨table?_replace present answers, fun _ => table?_replace_other answers⟩

theorem puts_add (missing : d.table? name = none) (named : p.name = name) : d.Puts name p (d.add p) := by
  have answers : p.answersTo name = true := by
    rw [Table.answersTo, named]
    exact sameIgnoringCase_refl name
  exact ⟨table?_add missing answers, fun _ => table?_add_other answers⟩

/-- Under every name there is the new table, or what was there before. -/
theorem Puts.table?_cases (h : d.Puts name p d') (other : String) :
    (Text.sameIgnoringCase name other = true ∧ d'.table? other = some p) ∨
      (Text.sameIgnoringCase name other = false ∧ d'.table? other = d.table? other) := by
  cases alike : Text.sameIgnoringCase name other with
  | true => exact .inl ⟨rfl, (table?_congr alike d').symm.trans h.found⟩
  | false => exact .inr ⟨rfl, h.others other alike⟩

/-- If there was a table under both names, the new one is in its place, or it is still there. -/
theorem Puts.table?_of_present (h : d.Puts name p d') {u : Table} (replaced : d.table? name = some t)
    (present : d.table? other = some u) :
    (t = u ∧ d'.table? other = some p) ∨ d'.table? other = some u := by
  rcases h.table?_cases other with ⟨alike, here⟩ | ⟨-, there⟩
  · rw [table?_congr alike, present] at replaced
    exact .inl ⟨(Option.some.inj replaced).symm, here⟩
  · exact .inr (there.trans present)

/-- **Shaping a table leaves the database as it was, makes the table, or widens it.** -/
theorem ensureTable_cases (d : Database) (name : String) (columns : List String) :
    (d.ensureTable name columns).2 = d ∨
      (d.table? name = none ∧ ∃ p, (d.ensureTable name columns).2 = d.add p ∧ p.name = name ∧
        p.columns = datasetColumns (dataColumns columns) ∧ p.columns.length ≤ maxColumns ∧
        p.automatic = true ∧ p.highest = 0 ∧ p.records = []) ∨
      ∃ t p added, d.table? name = some t ∧ (d.ensureTable name columns).2 = d.replace name p ∧
        t.Widens added p ∧ (t.columns.length ≤ maxColumns → p.columns.length ≤ maxColumns) := by
  by_cases usable : Nameable name ∧ ∀ c ∈ dataColumns columns, Sql.breaksOff c = false
  · cases found : d.table? name with
    | none =>
      rcases ensureTable_of_missing found usable.1 usable.2 with
        ⟨fits, p, made, named, shape, automatic, highest, records⟩ | ⟨-, fault, failed⟩
      · exact .inr (.inl ⟨rfl, p, congrArg Prod.snd made, named, shape, shape ▸ fits.2, automatic,
          highest, records⟩)
      · exact .inl (congrArg Prod.snd failed)
    | some t =>
      obtain ⟨added, p, widens, room, outcome⟩ := ensureTable_of_present found usable.1 usable.2
      have done : (d.ensureTable name columns).2 = d.replace name p := by
        rcases outcome with ⟨all, -⟩ | ⟨fault, c, rest, stopped, -⟩
        · exact congrArg Prod.snd all
        · exact congrArg Prod.snd stopped
      refine .inr (.inr ⟨t, p, added, rfl, done, widens, fun narrow => ?_⟩)
      by_cases same : added = []
      · obtain rfl := (same ▸ widens).eq_self
        exact narrow
      · exact room same
  · obtain ⟨fault, failed⟩ := ensureTable_of_unusable usable
    exact .inl (congrArg Prod.snd failed)

theorem table?_of_table (there : d.table name = .ok t) : d.table? name = some t := by
  rw [table] at there
  split at there
  · next found =>
    obtain rfl := Except.ok.inj there
    exact found
  · cases there

/-- An insertion that succeeds puts the table with the record in the place of the table. -/
theorem insert_ok {columns : List String} {values : List Cell}
    (done : d.insert name columns values = .ok d') :
    ∃ t t', d.table? name = some t ∧ t.insert name columns values = .ok t' ∧
      d' = d.replace name t' := by
  rw [insert] at done
  obtain ⟨-, -, done⟩ := exists_ok_of_bind done
  split at done
  · cases done
  · obtain ⟨t, there, done⟩ := exists_ok_of_bind done
    obtain ⟨t', inserted, done⟩ := exists_ok_of_bind done
    exact ⟨t, t', table?_of_table there, inserted, (Except.ok.inj done).symm⟩

end Database

/-! ## 3. What a change can do -/

/-- The store is open, and its tables are sound. -/
structure Sound (s : Store) : Prop where
  isOpen : s.isOpen = true
  tables : ∀ name t, s.database.table? name = some t → t.Sound

theorem sound_fresh : fresh.Sound where
  isOpen := rfl
  tables name t found := by cases found

/-- What a change makes of a store. -/
inductive Effect (s : Store) : Change → Store → Prop
  | nothing (c : Change) : Effect s c s
  | makes {table : String} {columns : List String} {p : Table} {d : Database}
      (missing : s.database.table? table = none) (sound : p.Sound) (empty : p.records = [])
      (puts : s.database.Puts table p d) : Effect s (.shape table columns) { s with database := d }
  | widens {table : String} {columns added : List String} {t p : Table} {d : Database}
      (present : s.database.table? table = some t) (widens : t.Widens added p)
      (narrow : p.columns.length ≤ maxColumns) (puts : s.database.Puts table p d) :
      Effect s (.shape table columns) { s with database := d }
  | gains {table : String} {columns : List String} {values : List (Option String)} {t t' : Table}
      {r : Record} {d : Database} (present : s.database.table? table = some t) (gains : t.Gains r t')
      (numbers : Table.Numbers t.highest r.number (t.keyGiven columns values))
      (fits : Number.isInt64 r.number = true)
      (done : s.insert table columns values = .ok { s with database := d })
      (puts : s.database.Puts table t' d) :
      Effect s (.insert table columns values) { s with database := d }
  | removes {table id : String} {t : Table} {r : Record} {d : Database}
      (present : s.database.table? table = some t) (found : t.recordOf? id = some r)
      (puts : s.database.Puts table (t.remove [r].contains) d) :
      Effect s (.delete table id) { s with database := d }

variable {s s' : Store} {table : String} {columns : List String} {values : List (Option String)}

/-- **A row that is added becomes a record of its table.** -/
theorem Sound.insert_ok (k : s.Sound) (done : s.insert table columns values = .ok s') :
    ∃ t r t' d, s.database.table? table = some t ∧ t.Gains r t' ∧
      Table.Numbers t.highest r.number (t.keyGiven columns values) ∧
      Number.isInt64 r.number = true ∧ (∀ x ∈ t.records, x.number ≠ r.number) ∧
      s' = { s with database := d } ∧ s.database.Puts table t' d := by
  rw [insert] at done
  split at done
  · cases done
  · rw [connect_of_isOpen k.isOpen, ok_bind] at done
    obtain ⟨d, inserted, done⟩ := exists_ok_of_bind done
    obtain ⟨t, t', present, added, rfl⟩ := Database.insert_ok (ok_of_mapError inserted)
    obtain ⟨r, gains, numbers, fits, fresh⟩ := (k.tables table t present).insert_ok added
    exact ⟨t, r, t', _, present, gains, numbers, fits, fresh, (Except.ok.inj done).symm,
      Database.puts_replace present gains.name⟩

theorem effect_shape (k : s.Sound) (table : String) (columns : List String) :
    Effect s (.shape table columns) (Change.apply s (.shape table columns)) := by
  rw [Change.apply, ensureTable_of_isOpen k.isOpen]
  rcases s.database.ensureTable_cases table columns with
    same | ⟨missing, p, made, named, shape, few, automatic, highest, records⟩ |
      ⟨t, p, added, present, done, widens, few⟩
  · simp only [same]
    exact .nothing _
  · simp only [made]
    have sound : p.Sound :=
      { shape := ⟨_, shape⟩
        narrow := few
        automatic := automatic
        start := highest.ge
        bounded := by rw [highest]; decide
        numbered := by simp [records]
        low := by simp [records] }
    exact .makes missing sound records (Database.puts_add missing named)
  · simp only [done]
    exact .widens present widens (few (k.tables table t present).narrow)
      (Database.puts_replace present widens.name)

theorem effect_insert (k : s.Sound) (table : String) (columns : List String)
    (values : List (Option String)) :
    Effect s (.insert table columns values) (Change.apply s (.insert table columns values)) := by
  rw [Change.apply]
  cases done : s.insert table columns values with
  | error e => exact .nothing _
  | ok s' =>
    obtain ⟨t, r, t', d, present, gains, numbers, fits, -, rfl, puts⟩ := k.insert_ok done
    exact .gains present gains numbers fits done puts

theorem effect_delete (k : s.Sound) (table id : String) :
    Effect s (.delete table id) (Change.apply s (.delete table id)) := by
  rw [Change.apply]
  cases found : s.database.table? table with
  | none =>
    obtain ⟨fault, -, failed⟩ := get_delete_of_missing k.isOpen found id
    rw [failed]
    exact .nothing _
  | some t =>
    rw [delete_of_table? k.isOpen found (k.tables table t found).toIsDataset]
    cases asked : t.recordOf? id with
    | none => exact .nothing _
    | some r => exact .removes found asked (Database.puts_replace found rfl)

/-- **What a change can do to a sound store.** -/
theorem effect_apply (k : s.Sound) (c : Change) : Effect s c (c.apply s) := by
  cases c with
  | shape table columns => exact effect_shape k table columns
  | insert table columns values => exact effect_insert k table columns values
  | delete table id => exact effect_delete k table id
  | reopen file =>
    have same : Change.apply s (.reopen file) = s := by
      rw [Change.apply, file.reopened_eq, ofDatabase, ← k.isOpen]
    rw [same]
    exact .nothing _

/-! ## 4. What a change keeps -/

theorem Sound.of_puts (k : s.Sound) {p : Table} {d : Database} (sound : p.Sound)
    (puts : s.database.Puts table p d) : ({ s with database := d } : Store).Sound where
  isOpen := k.isOpen
  tables other t found := by
    rcases puts.table?_cases other with ⟨-, here⟩ | ⟨-, there⟩
    · obtain rfl := Option.some.inj (here.symm.trans found)
      exact sound
    · exact k.tables other t (there ▸ found)

theorem Effect.sound {c : Change} (e : Effect s c s') (k : s.Sound) : s'.Sound := by
  cases e with
  | nothing => exact k
  | makes missing sound empty puts => exact k.of_puts sound puts
  | widens present widens narrow puts =>
    exact k.of_puts ((k.tables _ _ present).of_widens widens narrow) puts
  | gains present gains numbers fits done puts =>
    exact k.of_puts ((k.tables _ _ present).of_gains gains fits) puts
  | removes present found puts => exact k.of_puts ((k.tables _ _ present).remove _) puts

/-- **A store stays sound.** -/
theorem sound_after (k : s.Sound) (course : List Change) : (s.after course).Sound := by
  induction course generalizing s with
  | nil => exact k
  | cons c course ih => exact ih ((effect_apply k c).sound k)

/-! ## 5. Numbers over a course of changes -/

/-- The change adds a record to the table of a name, and its values name this number for it. -/
def Change.Brings (s : Store) (name : String) (n : Int) : Change → Prop
  | .insert table columns values =>
    Text.sameIgnoringCase table name = true ∧ (∃ s', s.insert table columns values = .ok s') ∧
      ∃ t text, s.database.table? table = some t ∧ t.keyGiven columns values = some text ∧
        Affinity.integer.store (.text text) = .int n
  | _ => False

/-- **The table of a name stays there, and its largest number does not fall. Each of its numbers was
    there before, was brought by the change, or is larger than all that were ever there.** -/
theorem Effect.follows {c : Change} (e : Effect s c s') {name : String} {t : Table}
    (present : s.database.table? name = some t) :
    ∃ t', s'.database.table? name = some t' ∧ t.highest ≤ t'.highest ∧
      ∀ x ∈ t'.records, (∃ y ∈ t.records, y.number = x.number) ∨ c.Brings s name x.number ∨
        t.highest < x.number := by
  -- a change of another table leaves this one as it is
  have kept {d : Database} (there : d.table? name = some t) :
      ∃ t', d.table? name = some t' ∧ t.highest ≤ t'.highest ∧
        ∀ x ∈ t'.records, (∃ y ∈ t.records, y.number = x.number) ∨ c.Brings s name x.number ∨
          t.highest < x.number :=
    ⟨t, there, Int.le_refl _, fun x among => .inl ⟨x, among, rfl⟩⟩
  cases e with
  | nothing => exact kept present
  | makes missing sound empty puts =>
    rcases puts.table?_cases name with ⟨alike, -⟩ | ⟨-, there⟩
    · rw [Database.table?_congr alike, present] at missing
      cases missing
    · exact kept (there.trans present)
  | widens found widens narrow puts =>
    rcases puts.table?_of_present found present with ⟨rfl, here⟩ | there
    · refine ⟨_, here, widens.highest.ge, fun x among => .inl ?_⟩
      exact List.mem_map.1 (widens.map_number ▸ List.mem_map_of_mem among)
    · exact kept there
  | removes found asked puts =>
    rcases puts.table?_of_present found present with ⟨rfl, here⟩ | there
    · exact ⟨_, here, Int.le_refl _, fun x among => .inl ⟨x, (List.mem_filter.1 among).1, rfl⟩⟩
    · exact kept there
  | @gains table columns values before t' r d found gains numbers fits done puts =>
    rcases puts.table?_cases name with ⟨alike, here⟩ | ⟨-, there⟩
    · obtain rfl : before = t :=
        Option.some.inj ((found.symm.trans (Database.table?_congr alike _)).trans present)
      refine ⟨_, here, gains.highest ▸ Int.le_max_left _ _, fun x among => ?_⟩
      rw [gains.records, mem_place] at among
      rcases among with rfl | among
      · -- the new record: its number was brought, or is the next one
        cases key : before.keyGiven columns values with
        | none =>
          rw [key] at numbers
          have next : x.number = before.highest + 1 := numbers
          exact .inr (.inr (by omega))
        | some text =>
          rw [key] at numbers
          exact .inr (.inl ⟨alike, ⟨_, done⟩, before, text, found, key, numbers⟩)
      · exact .inl ⟨x, among, rfl⟩
    · exact kept (there.trans present)

/-- **A table that is there stays there, and its largest number does not fall.** -/
theorem exists_after (k : s.Sound) {name : String} {t : Table}
    (present : s.database.table? name = some t) (course : List Change) :
    ∃ t', (s.after course).database.table? name = some t' ∧ t.highest ≤ t'.highest := by
  induction course generalizing s t with
  | nil => exact ⟨t, present, Int.le_refl _⟩
  | cons c course ih =>
    have step := effect_apply k c
    obtain ⟨t₁, present₁, more, -⟩ := step.follows present
    obtain ⟨t', present', more'⟩ := ih (step.sound k) present₁
    exact ⟨t', present', Int.le_trans more more'⟩

/-- **A record that brings no number gets one that is larger than all that its table had at any point of
    the course.** -/
theorem Sound.numbered_above (k : s.Sound) {course : List Change}
    (done : (s.after course).insert table columns values = .ok s') :
    ∃ t r t', (s.after course).database.table? table = some t ∧
      s'.database.table? table = some t' ∧ t.Gains r t' ∧
      (t.keyGiven columns values = none → ∀ earlier, earlier <+: course →
        ∀ u, (s.after earlier).database.table? table = some u →
          ∀ x ∈ u.records, x.number < r.number) := by
  obtain ⟨t, r, t', d, present, gains, numbers, -, -, rfl, puts⟩ := (sound_after k course).insert_ok done
  refine ⟨t, r, t', present, puts.found, gains, fun keyless earlier front u early x among => ?_⟩
  obtain ⟨rest, rfl⟩ := front
  obtain ⟨t₁, present₁, grown⟩ := exists_after (sound_after k earlier) early rest
  rw [← after_append, present] at present₁
  obtain rfl := Option.some.inj present₁
  have once := ((sound_after k earlier).tables table u early).numbered x among
  rw [keyless] at numbers
  have next : r.number = t.highest + 1 := numbers
  omega

/-- A number that the table of a name once had, and has no more. -/
def Gone (s : Store) (name : String) (n : Int) : Prop :=
  ∃ t, s.database.table? name = some t ∧ n ≤ t.highest ∧ ∀ x ∈ t.records, x.number ≠ n

/-- No change of the course brings a number to the table of a name. -/
def NeverBrought (s : Store) (course : List Change) (name : String) (n : Int) : Prop :=
  ∀ before c rest, course = before ++ c :: rest → ¬ c.Brings (s.after before) name n

/-- The columns of a new row, if the change adds one, have no name for its number. -/
def Change.Unnumbered : Change → Prop
  | .insert _ columns _ =>
    (∀ n ∈ columns, namesKey n = false) ∧
      ∀ n ∈ columns, numberNames.any (Text.sameIgnoringCase n) = false
  | _ => True

/-- A change that has no name for a number brings none. -/
theorem Change.Unnumbered.not_brings {c : Change} (h : c.Unnumbered) (k : s.Sound) (name : String)
    (n : Int) : ¬ c.Brings s name n := by
  cases c with
  | insert table columns values =>
    rintro ⟨-, -, t, text, present, key, -⟩
    rw [(k.tables table t present).keyGiven_eq_none h.1 h.2] at key
    cases key
  | shape => exact id
  | delete => exact id
  | reopen => exact id

theorem neverBrought_of_unnumbered (k : s.Sound) {course : List Change}
    (plain : ∀ c ∈ course, c.Unnumbered) (name : String) (n : Int) : s.NeverBrought course name n := by
  rintro before c rest rfl
  exact (plain c (by simp)).not_brings (sound_after k before) name n

theorem Effect.gone {c : Change} (e : Effect s c s') {name : String} {n : Int}
    (gone : s.Gone name n) (unbrought : ¬ c.Brings s name n) : s'.Gone name n := by
  obtain ⟨t, present, once, absent⟩ := gone
  obtain ⟨t', present', more, origins⟩ := e.follows present
  refine ⟨t', present', Int.le_trans once more, fun x among same => ?_⟩
  rcases origins x among with ⟨y, before, number⟩ | brings | above
  · exact absent y before (number.trans same)
  · exact unbrought (same ▸ brings)
  · omega

/-- **A number that is gone stays gone until it is brought.** -/
theorem gone_after (k : s.Sound) {name : String} {n : Int} (gone : s.Gone name n)
    {course : List Change} (unbrought : s.NeverBrought course name n) :
    (s.after course).Gone name n := by
  induction course generalizing s with
  | nil => exact gone
  | cons c course ih =>
    have step := effect_apply k c
    refine ih (step.sound k) (step.gone gone (unbrought [] c course rfl)) ?_
    exact fun before e rest split => unbrought (c :: before) e rest (congrArg (c :: ·) split)

end Store

end Dataset
