import Dataset.Proofs.Store.Key

/-!
# Numbers of records that come and go

The records of a dataset table have different integers of 64 bits as their numbers. A new record has the
one that its values name, if they name one, and else one that is larger than all before.

* `Table.Sound`: a dataset table whose numbers are integers of 64 bits; widening it, removing records
  and adding one keep it so;
* `Table.keyGiven`: what values under some names bring for the number of a new record, and
  `IsDataset.resolve?_eq_number_iff`: which names these are;
* **`IsDataset.insert_ok`**: an insertion that succeeds, under whatever names, adds one record, and
  numbers it by what it brings.
-/

namespace Dataset.Store.Table

/-! ## 1. Sound tables -/

/-- A dataset table whose numbers are integers of 64 bits. -/
structure Sound (t : Table) : Prop extends t.IsDataset where
  low : ∀ r ∈ t.records, Number.minInt64 ≤ r.number

variable {t t' : Table} {r : Record}

theorem Sound.isInt64 (h : t.Sound) (among : r ∈ t.records) : Number.isInt64 r.number = true :=
  Number.isInt64_iff.2 ⟨h.low r among, Int.le_trans (h.numbered r among) h.bounded⟩

/-- The text of a record's number asks for the record. -/
theorem Sound.recordOf?_ofInt (h : t.Sound) (among : r ∈ t.records) :
    t.recordOf? (Text.ofInt r.number) = some r :=
  Table.recordOf?_ofInt among (h.isInt64 among)

theorem number_widen (k : Nat) (r : Record) : (r.widen k).number = r.number := rfl

/-- A wider table has records of the same numbers. -/
theorem Widens.map_number {names : List String} (h : t.Widens names t') :
    t'.records.map Record.number = t.records.map Record.number := by
  rw [h.records, List.map_map]
  exact List.map_congr_left fun r _ => number_widen _ r

theorem Sound.of_widens {names : List String} (h : t.Sound) (widens : t.Widens names t')
    (narrow : t'.columns.length ≤ maxColumns) : t'.Sound where
  toIsDataset := h.toIsDataset.of_widens widens narrow
  low r among := by
    have number : r.number ∈ t.records.map Record.number :=
      widens.map_number ▸ List.mem_map_of_mem among
    obtain ⟨x, hx, same⟩ := List.mem_map.1 number
    exact same ▸ h.low x hx

theorem Sound.remove (h : t.Sound) (test : Record → Bool) : (t.remove test).Sound where
  toIsDataset := h.toIsDataset.remove test
  low r among := h.low r (List.mem_filter.1 among).1

theorem Sound.of_gains (h : t.Sound) (gains : t.Gains r t') (fits : Number.isInt64 r.number = true) :
    t'.Sound where
  toIsDataset := h.toIsDataset.of_gains gains (Number.isInt64_iff.1 fits).2
  low x among := by
    rw [gains.records, mem_place] at among
    rcases among with rfl | among
    · exact (Number.isInt64_iff.1 fits).1
    · exact h.low x among

/-! ## 2. What a new record brings for its number -/

/-- The value under the last of the names that refer to the number of a record. -/
def keyGiven (t : Table) (columns : List String) (values : List (Option String)) : Option String :=
  ((columns.zip values).filter fun p => t.resolve? p.1 == some .number).getLast?.bind Prod.snd

/-- A name of a column that is not the key refers to the cell of the column. -/
theorem IsDataset.resolve?_of_indexOf? (h : t.IsDataset) {n : String} (key : namesKey n = false) {i : Nat}
    (found : t.indexOf? n = some i) :
    t.resolve? n = some (.cell i) ∧ ∃ c ∈ t.columns, c.answersTo n = true := by
  obtain ⟨li, answers, -⟩ := List.findIdx?_eq_some_iff_getElem.1 found
  have among : t.columns[i] ∈ t.columns := List.getElem_mem li
  have data : t.columns[i].isKey = false := by
    rcases h.column_cases among with keyed | ⟨numeric, -⟩
    · rw [keyed, Column.answersTo, Text.sameIgnoringCase_comm] at answers
      rw [namesKey, answers] at key
      cases key
    · rw [numeric]
      rfl
  exact ⟨by simp [resolve?, found, List.getElem?_eq_getElem li, data], t.columns[i], among, answers⟩

/-- The names that refer to the number of a record are those of the key and, unless a column has them,
    those that every table answers to. -/
theorem IsDataset.resolve?_eq_number_iff (h : t.IsDataset) (n : String) :
    t.resolve? n = some .number ↔
      namesKey n = true ∨ (∀ c ∈ t.columns, c.answersTo n = false) ∧
        numberNames.any (Text.sameIgnoringCase n) = true := by
  cases key : namesKey n with
  | true => simp [h.resolve?_key key]
  | false =>
    cases found : t.indexOf? n with
    | none =>
      have unlike : ∀ c ∈ t.columns, c.answersTo n = false := by
        simpa using List.findIdx?_eq_none_iff.1 found
      have searched : t.resolve? n =
          if numberNames.any (Text.sameIgnoringCase n) then some .number else none := by
        rw [resolve?, found]
      rw [searched, and_iff_right unlike]
      cases numberNames.any (Text.sameIgnoringCase n) <;> simp
    | some i =>
      obtain ⟨here, c, among, answers⟩ := h.resolve?_of_indexOf? key found
      have taken : ¬ ∀ c ∈ t.columns, c.answersTo n = false := by
        intro unlike
        rw [unlike c among] at answers
        cases answers
      simp [here, taken]

/-- Values under other names bring nothing for the number. -/
theorem IsDataset.keyGiven_eq_none (h : t.IsDataset) {columns : List String}
    (unkeyed : ∀ n ∈ columns, namesKey n = false)
    (unnumbered : ∀ n ∈ columns, numberNames.any (Text.sameIgnoringCase n) = false)
    (values : List (Option String)) : t.keyGiven columns values = none := by
  have nothing : (columns.zip values).filter (fun p => t.resolve? p.1 == some .number) = [] := by
    refine List.filter_eq_nil_iff.2 fun p hp => ?_
    have among := (List.of_mem_zip hp).1
    rw [beq_iff_eq, h.resolve?_eq_number_iff, unkeyed p.1 among, unnumbered p.1 among]
    simp
  rw [keyGiven, nothing]
  rfl

/-- The number that a new record gets is an integer of 64 bits. -/
theorem Numbers.isInt64 {highest n : Int} {key : Option String} (h : Numbers highest n key)
    (start : 0 ≤ highest) (high : n ≤ Number.maxInt64) : Number.isInt64 n = true := by
  cases key with
  | some text => exact Affinity.isInt64_of_integer_store_text h
  | none =>
    obtain rfl : n = highest + 1 := h
    have negative : Number.minInt64 ≤ 0 := by decide
    exact Number.isInt64_iff.2 ⟨by omega, high⟩

/-- Columns that are all resolved are resolved to their targets. -/
theorem resolveAll_ok {written : String} {columns : List String} {references : List Reference}
    (done : t.resolveAll written columns = .ok references) :
    references = columns.map t.target ∧ ∀ n ∈ columns, t.resolve? n = some (t.target n) := by
  induction columns generalizing references with
  | nil =>
    obtain rfl := Except.ok.inj done
    simp
  | cons n columns ih =>
    rw [resolveAll] at done
    cases found : t.resolve? n with
    | none =>
      rw [found] at done
      cases done
    | some first =>
      rw [found] at done
      cases generated : t.generated? first with
      | some c =>
        simp only [generated] at done
        cases done
      | none =>
        simp only [generated] at done
        obtain ⟨rest, more, done⟩ := exists_ok_of_bind done
        obtain rfl := Except.ok.inj done
        obtain ⟨rfl, resolved⟩ := ih more
        have here : t.target n = first := by rw [target, found]; rfl
        exact ⟨by rw [List.map_cons, here], List.forall_mem_cons.2 ⟨here ▸ found, resolved⟩⟩

/-- The cell that is given for the number is what the values bring for it. -/
theorem givenNumber_eq_keyGiven {columns : List String}
    (resolved : ∀ n ∈ columns, t.resolve? n = some (t.target n)) (values : List (Option String)) :
    givenNumber ((columns.map t.target).zip (values.map Cell.ofText?)) =
      .ofText? (t.keyGiven columns values) := by
  have refers : ∀ p ∈ columns.zip values,
      (t.target p.1 == .number) = (t.resolve? p.1 == some .number) := by
    intro p hp
    rw [resolved p.1 (List.of_mem_zip hp).1]
    rfl
  rw [givenNumber, keyGiven, List.zip_map, List.filter_map]
  simp only [Function.comp_def, Prod.map_fst]
  rw [List.filter_congr refers]
  rw [List.getLast?_map]
  cases ((columns.zip values).filter fun p => t.resolve? p.1 == some .number).getLast? <;> rfl

/-! ## 3. Insertions that succeed -/

/-- An insertion resolves the columns, chooses a number and appends the record. -/
theorem insert_eq (t : Table) (written : String) (columns : List String) (values : List Cell) :
    t.insert written columns values =
      t.resolveAll written columns >>= fun references =>
        t.chooseNumber (givenNumber (references.zip values)) >>= fun n =>
          t.append n (t.newCells n (references.zip values)) (by simp [newCells]) := rfl

/-- An insertion that succeeds, into whatever table, adds one record with a number that is chosen by what is
    given for it. -/
theorem exists_gains_of_insert {written : String} {columns : List String} {values : List Cell}
    (done : t.insert written columns values = .ok t') :
    ∃ n, (∀ c ∈ columns, t.resolve? c = some (t.target c)) ∧
      t.chooseNumber (givenNumber ((columns.map t.target).zip values)) = .ok n ∧
      t.Gains ⟨n, t.newCells n ((columns.map t.target).zip values)⟩ t' ∧
      ∀ x ∈ t.records, x.number ≠ n := by
  rw [insert_eq] at done
  obtain ⟨references, all, done⟩ := exists_ok_of_bind done
  obtain ⟨n, chosen, added⟩ := exists_ok_of_bind done
  obtain ⟨rfl, resolved⟩ := resolveAll_ok all
  let cells := t.newCells n ((columns.map t.target).zip values)
  have wide : cells.length = t.columns.length := by simp [cells, newCells]
  rcases t.append_spec n cells wide with ⟨fresh, t₁, appended, gains⟩ | ⟨-, fault, failed⟩
  · obtain rfl : t₁ = t' := Except.ok.inj (appended.symm.trans added)
    exact ⟨n, resolved, chosen, gains, fresh⟩
  · cases failed.symm.trans added

/-- **An insertion that succeeds adds one record**: with the number that its values name, or the one
    behind the largest ever given if they name none. -/
theorem IsDataset.insert_ok (h : t.IsDataset) {written : String} {columns : List String}
    {values : List (Option String)}
    (done : t.insert written columns (values.map Cell.ofText?) = .ok t') :
    ∃ r, t.Gains r t' ∧ Numbers t.highest r.number (t.keyGiven columns values) ∧
      Number.isInt64 r.number = true ∧ ∀ x ∈ t.records, x.number ≠ r.number := by
  obtain ⟨n, resolved, chosen, gains, fresh⟩ := exists_gains_of_insert done
  rw [givenNumber_eq_keyGiven resolved] at chosen
  rcases h.chooseNumber_spec (t.keyGiven columns values) with
    ⟨m, choice, numbers, high, -⟩ | ⟨-, fault, failed⟩
  · obtain rfl : m = n := Except.ok.inj (choice.symm.trans chosen)
    exact ⟨_, gains, numbers, numbers.isInt64 h.start high, fresh⟩
  · cases failed.symm.trans chosen

end Dataset.Store.Table
