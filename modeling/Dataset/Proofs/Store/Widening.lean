import Dataset.Proofs.Store.Lookup

/-!
# Making tables and adding columns

A table is made with its columns, or gets one more column of numbers, unless the names of its columns
would then be alike up to case, or there would be too many of them.

* `Table.Widens`: a table with more columns of numbers, which are empty in its records;
* `Table.Admits`, **`Table.addColumn_spec`**: when one more column is taken;
* **`Table.make_spec`**: when a table is made.
-/

namespace Dataset

/-! ## 1. Names that are alike -/

namespace Text

theorem sameIgnoringCase_iff {a b : String} :
    sameIgnoringCase a b = true ↔ a.toList.map Char.toLower = b.toList.map Char.toLower := by
  rw [sameIgnoringCase, beq_iff_eq]

theorem sameIgnoringCase_comm (a b : String) : sameIgnoringCase a b = sameIgnoringCase b a := by
  rw [Bool.eq_iff_iff, sameIgnoringCase_iff, sameIgnoringCase_iff]
  exact eq_comm

theorem sameIgnoringCase_trans {a b c : String} (h : sameIgnoringCase a b = true)
    (h' : sameIgnoringCase b c = true) : sameIgnoringCase a c = true := by
  rw [sameIgnoringCase_iff] at h h' ⊢
  exact h.trans h'

/-- Names of different lengths are not alike. -/
theorem sameIgnoringCase_of_length_ne {a b : String} (h : a.toList.length ≠ b.toList.length) :
    sameIgnoringCase a b = false := by
  rw [Bool.eq_false_iff, ne_eq, sameIgnoringCase_iff]
  intro same
  have length := congrArg List.length same
  rw [List.length_map, List.length_map] at length
  exact h length

end Text

namespace Store

/-! ## 2. Wider tables -/

/-- The record with some more cells, which are empty. -/
def Record.widen (k : Nat) (r : Record) : Record := ⟨r.number, r.cells ++ List.replicate k .null⟩

theorem Record.widen_zero : Record.widen 0 = id := funext fun r => by simp [Record.widen]

theorem Record.widen_widen (j k : Nat) (r : Record) : (r.widen j).widen k = r.widen (j + k) := by
  simp [Record.widen, List.replicate_append_replicate]

namespace Table

/-- `t'` is `t` with `names` as further columns of numbers, null in every record. -/
structure Widens (t : Table) (names : List String) (t' : Table) : Prop where
  name : t'.name = t.name
  columns : t'.columns = t.columns ++ names.map Column.numeric
  automatic : t'.automatic = t.automatic
  highest : t'.highest = t.highest
  records : t'.records = t.records.map (Record.widen names.length)

/-- A table is made up of its name, its columns, its numbering and its records. -/
theorem ext_data {t t' : Table} (name : t'.name = t.name) (columns : t'.columns = t.columns)
    (automatic : t'.automatic = t.automatic) (highest : t'.highest = t.highest)
    (records : t'.records = t.records) : t' = t := by
  obtain ⟨_, _, _, _, _, _, _, _, _, _⟩ := t
  obtain ⟨_, _, _, _, _, _, _, _, _, _⟩ := t'
  obtain ⟨⟩ := name
  obtain ⟨⟩ := columns
  obtain ⟨⟩ := automatic
  obtain ⟨⟩ := highest
  obtain ⟨⟩ := records
  rfl

variable {t t' t'' : Table} {names : List String}

theorem Widens.refl (t : Table) : t.Widens [] t where
  name := rfl
  columns := by simp
  automatic := rfl
  highest := rfl
  records := by simp [Record.widen_zero]

theorem Widens.eq_self (h : t.Widens [] t') : t' = t := by
  refine ext_data h.name ?_ h.automatic h.highest ?_
  · simpa using h.columns
  · simpa [Record.widen_zero] using h.records

theorem Widens.trans {more : List String} (h : t.Widens names t') (h' : t'.Widens more t'') :
    t.Widens (names ++ more) t'' where
  name := h'.name.trans h.name
  columns := by rw [h'.columns, h.columns, List.map_append, List.append_assoc]
  automatic := h'.automatic.trans h.automatic
  highest := h'.highest.trans h.highest
  records := by
    rw [h'.records, h.records, List.map_map, List.length_append]
    exact List.map_congr_left fun r _ => r.widen_widen _ _

theorem Widens.columnNames (h : t.Widens names t') : t'.columnNames = t.columnNames ++ names := by
  have same : names.map (Column.name ∘ Column.numeric) = names := List.map_id names
  have taking : (names.map Column.numeric).filter (fun c => !c.isGenerated) =
      names.map Column.numeric := by
    refine List.filter_eq_self.2 fun c hc => ?_
    obtain ⟨n, -, rfl⟩ := List.mem_map.1 hc
    rfl
  rw [Table.columnNames, h.columns, List.filter_append, taking, List.map_append, List.map_map, same,
    Table.columnNames]

theorem Widens.shownNames (h : t.Widens names t') : t'.shownNames = t.shownNames ++ names := by
  have same : names.map (Column.name ∘ Column.numeric) = names := List.map_id names
  rw [Table.shownNames, h.columns, List.map_append, List.map_map, same, Table.shownNames]

theorem Widens.answersTo (h : t.Widens names t') (name : String) :
    t'.answersTo name = t.answersTo name := by
  rw [Table.answersTo, h.name, Table.answersTo]

/-! ## 3. One more column -/

/-- `t` takes one more column `name`: no column answers to it, and there are fewer than `maxColumns`. -/
def Admits (t : Table) (name : String) : Prop :=
  (∀ c ∈ t.columns, c.answersTo name = false) ∧ t.columns.length < maxColumns

/-- No column is repeated exactly if names differ by more than case. -/
theorem repeated?_eq_none_iff {earlier rest : List Column} (start : Distinct earlier) :
    repeated? earlier rest = none ↔ Distinct (earlier ++ rest) := by
  refine ⟨distinct_of_repeated start, fun distinct => ?_⟩
  induction rest generalizing earlier with
  | nil => rfl
  | cons c rest ih =>
    rw [List.append_cons] at distinct
    have step : Distinct (earlier ++ [c]) := (List.pairwise_append.1 distinct).1
    have fresh : earlier.any (·.answersTo c.name) = false := by
      refine List.any_eq_false.2 fun a ha => ?_
      simp [(List.pairwise_append.1 step).2.2 a ha c (List.mem_singleton_self c)]
    rw [repeated?, fresh]
    exact ih step distinct

theorem distinct_append_singleton_iff (c : Column) :
    Distinct (t.columns ++ [c]) ↔ ∀ x ∈ t.columns, x.answersTo c.name = false := by
  rw [Distinct, List.pairwise_append]
  refine ⟨fun h x hx => h.2.2 x hx c (List.mem_singleton_self c), fun h => ?_⟩
  refine ⟨t.distinct, List.pairwise_singleton _ _, fun x hx y hy => ?_⟩
  rw [List.mem_singleton.1 hy]
  exact h x hx

/-- **A column is added exactly if the table admits its name.** -/
theorem addColumn_spec (t : Table) {name : String} (readable : Sql.breaksOff name = false) :
    (t.Admits name ∧ ∃ t', t.addColumn (.numeric name) = .ok t' ∧ t.Widens [name] t') ∨
      (¬ t.Admits name ∧ ∃ fault, t.addColumn (.numeric name) = .error fault) := by
  have whole : Sql.brokenName? [(Column.numeric name).name] = none :=
    Sql.brokenName?_eq_none.2 fun n hn => List.mem_singleton.1 hn ▸ readable
  have alone := distinct_append_singleton_iff (t := t) (Column.numeric name)
  have distinct : repeated? t.columns [.numeric name] = none ↔ Distinct (t.columns ++ [.numeric name]) :=
    repeated?_eq_none_iff t.distinct
  unfold addColumn
  split
  case h_1 broken => rw [whole] at broken; cases broken
  case h_2 =>
    split
    case isTrue full =>
      exact .inr ⟨fun admits => absurd admits.2 (by omega), _, rfl⟩
    case isFalse room =>
      split
      case h_1 c found =>
        refine .inr ⟨fun admits => ?_, _, rfl⟩
        rw [distinct.2 (alone.2 admits.1)] at found
        cases found
      case h_2 unfound =>
        refine .inl ⟨⟨alone.1 (distinct.1 unfound), by omega⟩, _, rfl, ?_⟩
        exact ⟨rfl, rfl, rfl, rfl, rfl⟩

/-- A table that has been widened admitted the first of its new columns. -/
theorem Widens.admits_first {first : String} {rest : List String} (h : t.Widens (first :: rest) t')
    (room : t'.columns.length ≤ maxColumns) : t.Admits first := by
  have distinct := t'.distinct
  rw [h.columns] at distinct room
  refine ⟨fun c hc => ?_, ?_⟩
  · exact (List.pairwise_append.1 distinct).2.2 c hc (.numeric first) (by simp)
  · simp only [List.map_cons, List.length_append, List.length_cons] at room
    omega

/-! ## 4. A table that is made -/

/-- **A table is made exactly if its columns differ by more than case and are not too many**, one of which
    at least is not generated. -/
theorem make_spec {name : String} {columns : List Column}
    (shaped : ∃ c ∈ columns, c.isGenerated = false)
    (readable : Sql.brokenName? (name :: columns.map Column.name) = none) (automatic : Bool) :
    ((Distinct columns ∧ columns.length ≤ maxColumns) ∧
        ∃ t, make name columns automatic = .ok t ∧ t.name = name ∧ t.columns = columns ∧
          t.automatic = automatic ∧ t.highest = 0 ∧ t.records = []) ∨
      (¬ (Distinct columns ∧ columns.length ≤ maxColumns) ∧
        ∃ fault, make name columns automatic = .error fault) := by
  have start : Distinct [] := List.Pairwise.nil
  have distinct : repeated? [] columns = none ↔ Distinct columns := repeated?_eq_none_iff start
  have given : columns ≠ [] := by
    obtain ⟨c, hc, -⟩ := shaped
    exact List.ne_nil_of_mem hc
  unfold make
  split
  case h_1 broken => rw [readable] at broken; cases broken
  case h_2 =>
    rw [if_neg given]
    split
    case isTrue many =>
      refine .inr ⟨fun fits => absurd fits.2 (by omega), ?_⟩
      split
      · exact ⟨_, rfl⟩
      · exact ⟨_, rfl⟩
    case isFalse few =>
      split
      case h_1 c found =>
        refine .inr ⟨fun fits => ?_, _, rfl⟩
        rw [distinct.2 fits.1] at found
        cases found
      case h_2 unfound =>
        exact .inl ⟨⟨distinct.1 unfound, by omega⟩, _, rfl, rfl, rfl, rfl, rfl, rfl⟩

end Table

end Store

end Dataset
