import Dataset.Proofs.Store.Visits
import Mathlib.Data.List.Sort

/-!
# Which records a compiled request selects

A request is filters and a search, compiled to the conditions of one predicate. What it means for a record
is said by the filters and the search themselves.

* `Table.Meets`: a request holds for a record; `Table.meets?_compile_iff`: so do its conditions;
* `Table.Selects`: exactly the records that meet a request, each once and in their order;
* **`Table.select_compile`**: a request on columns of the table selects the records that are picked, or
  fails if it stalls. It never does where all patterns are short (`Table.not_stalls`), and a search alone
  does on every record (`Table.stalls_search_iff`);
* **`Table.selects_of_faithful`**: where all equalities are faithful, the records picked are those that
  meet the request;
* `Table.select_one`: one filter, which needs nothing of its equality but that of a record's number.
-/

namespace Dataset.Store

open Dataset.Filter (Condition Descriptor compile searchConditions term termPattern)

namespace Table

variable {t : Table} {r : Record} {filters filters' : List Descriptor} {search : Option String}
  {columns : List String}

/-! ## 1. Requests -/

/-- All of `filters` hold of `r`, and `search` is found in it. -/
def Meets (t : Table) (r : Record) (filters : List Descriptor) (search : Option String)
    (columns : List String) : Prop :=
  (∀ d ∈ filters, t.Holds r d) ∧ t.Found r search columns

/-- `rs` is exactly the records of `t` that `Meets` accepts, each once and in the order of their numbers. -/
structure Selects (t : Table) (rs : List Record) (filters : List Descriptor)
    (search : Option String) (columns : List String) : Prop where
  sorted : rs.Pairwise fun a b => a.number < b.number
  mem_iff : ∀ r, r ∈ rs ↔ r ∈ t.records ∧ t.Meets r filters search columns

/-- A request selects no two different lists of records. -/
theorem Selects.unique {rs rs' : List Record} (h : t.Selects rs filters search columns)
    (h' : t.Selects rs' filters search columns) : rs = rs' := by
  have : Std.Irrefl fun a b : Record => a.number < b.number := ⟨fun a => Int.lt_irrefl a.number⟩
  have : Std.Antisymm fun a b : Record => a.number < b.number :=
    ⟨fun a b less more => absurd more (Int.lt_asymm less)⟩
  exact h.sorted.eq_of_mem_iff h'.sorted fun r => (h.mem_iff r).trans (h'.mem_iff r).symm

/-- What a request selects does not depend on the order of its filters. -/
theorem Selects.perm {rs : List Record} (same : filters'.Perm filters)
    (h : t.Selects rs filters search columns) : t.Selects rs filters' search columns where
  sorted := h.sorted
  mem_iff r := by
    rw [h.mem_iff, Meets, Meets]
    simp only [same.mem_iff]

/-! ## 2. Their conditions -/

theorem columns_condition (d : Descriptor) : ∀ c ∈ d.condition.columns, c = d.field := by
  cases h : d.operator <;> simp [Descriptor.condition, Condition.columns, h]

/-- A compiled request names the fields of its filters and the columns of its search only. -/
theorem mem_columns_compile {c : String} (h : c ∈ (compile filters search columns).columns) :
    (∃ d ∈ filters, c = d.field) ∨ c ∈ columns := by
  rw [Filter.Predicate.columns, compile, List.flatMap_append, List.mem_append] at h
  rcases h with h | h
  · obtain ⟨x, hx, hc⟩ := List.mem_flatMap.1 h
    obtain ⟨d, hd, rfl⟩ := List.mem_map.1 hx
    exact .inl ⟨d, hd, columns_condition d c hc⟩
  · obtain ⟨x, hx, hc⟩ := List.mem_flatMap.1 h
    rw [Filter.searchConditions_eq] at hx
    split_ifs at hx with nothing
    · cases hx
    · rw [List.mem_singleton.1 hx] at hc
      exact .inr hc

/-- The patterns of a predicate are short if those of each condition are. -/
theorem short_conditions {p : Filter.Predicate}
    (short : ∀ x ∈ p.patterns, x.utf8ByteSize ≤ maxPatternBytes) :
    ∀ c ∈ p.conditions, ∀ x ∈ c.patterns, x.utf8ByteSize ≤ maxPatternBytes :=
  fun c hc x hx => short x (List.mem_flatMap.2 ⟨c, hc, hx⟩)

/-- **The conditions of a request hold of a record exactly if it meets the request**, if all patterns are
    short. -/
theorem meets?_compile_iff (wide : r.cells.length = t.columns.length)
    (live : ∀ d ∈ filters, d.field ∈ t.columnNames) (known : ∀ c ∈ columns, c ∈ t.columnNames)
    (short : ∀ p ∈ (compile filters search columns).patterns, p.utf8ByteSize ≤ maxPatternBytes) :
    (∀ c ∈ (compile filters search columns).conditions, t.meets? r c = some true) ↔
      t.Meets r filters search columns := by
  have fits := short_conditions short
  rw [compile, List.forall_mem_append] at fits
  rw [compile, List.forall_mem_append, meets?_searchConditions_iff wide search known fits.2, Meets,
    List.forall_mem_map]
  refine and_congr_left fun _ => forall₂_congr fun d hd => ?_
  exact meets?_filter_iff wide (live d hd) (fits.1 _ (List.mem_map_of_mem hd))

theorem equates?_condition {d : Descriptor} {place : Reference} {v : String} :
    t.equates? d.condition = some (place, v) ↔
      d.operator = .equals ∧ t.resolve? d.field = some place ∧ d.value.getD "" = v := by
  cases h : d.operator <;> simp [Descriptor.condition, equates?, h]

/-- The equalities of a request are its filters that ask for one. -/
theorem exists_of_meetsEquality {place : Reference} {v : String}
    (meets : t.MeetsEquality (compile filters search columns).conditions r place v) :
    ∃ d ∈ filters, d.operator = .equals ∧ t.resolve? d.field = some place ∧ d.value.getD "" = v ∧
      t.meets? r d.condition = some true := by
  obtain ⟨e, he, equates, holds⟩ := meets
  rw [compile, List.mem_append, Filter.searchConditions_eq] at he
  rcases he with he | he
  · obtain ⟨d, hd, rfl⟩ := List.mem_map.1 he
    obtain ⟨op, found, value⟩ := equates?_condition.1 equates
    exact ⟨d, hd, op, found, value, holds⟩
  · split_ifs at he
    · cases he
    · rw [List.mem_singleton.1 he] at equates
      cases equates

/-! ## 3. Selections -/

/-- Without conditions all records are selected. -/
theorem select_nil (t : Table) : t.select ⟨[]⟩ = .ok t.records := by
  have all (rs : List Record) : t.selectFrom [] rs = some rs := by
    induction rs with
    | nil => rfl
    | cons r rest ih => rw [selectFrom, Test.decideAll?, ih]; rfl
  have visited : t.records.filter (t.visits []) = t.records :=
    List.filter_eq_self.2 fun r _ => rfl
  have meeting : t.meeting? [] = some t.records := by
    show t.selectFrom [] (t.records.filter (t.visits [])) = _
    rw [visited, all]
  have known : t.unknown? (Filter.Predicate.columns ⟨[]⟩) = none := rfl
  simp only [select, known, meeting]

/-- A predicate on known names selects the records that are picked, or fails since it stalls. -/
theorem select_cases {p : Filter.Predicate} (known : t.unknown? p.columns = none) :
    (t.select p = .error .patternTooComplex ∧ t.Stalls p.conditions) ∨
      t.select p = .ok (t.records.filter (t.picks p.conditions)) ∧ ¬ t.Stalls p.conditions := by
  simp only [select, known, ← meeting?_eq_none_iff]
  cases meeting : t.meeting? p.conditions with
  | none => simp
  | some rs => simp [meeting?_eq_some meeting]

/-- **A compiled request selects the records that are picked, in the order of their numbers, or fails
    since it stalls.** -/
theorem select_compile (live : ∀ d ∈ filters, d.field ∈ t.columnNames) (search : Option String)
    (known : ∀ c ∈ columns, c ∈ t.columnNames) :
    (t.select (compile filters search columns) = .error .patternTooComplex ∧
        t.Stalls (compile filters search columns).conditions) ∨
      t.select (compile filters search columns) =
          .ok (t.records.filter (t.picks (compile filters search columns).conditions)) ∧
        ¬ t.Stalls (compile filters search columns).conditions := by
  have names : t.unknown? (compile filters search columns).columns = none := by
    refine unknown?_eq_none fun c hc => ?_
    rcases mem_columns_compile hc with ⟨d, hd, rfl⟩ | hc
    · exact live d hd
    · exact known c hc
  exact select_cases names

/-- **A request whose patterns are short never stalls.** -/
theorem not_stalls {conditions : List Condition}
    (short : ∀ c ∈ conditions, ∀ p ∈ c.patterns, p.utf8ByteSize ≤ maxPatternBytes) :
    ¬ t.Stalls conditions := by
  have fits := not_long_of_short (t := t) short
  rintro (known | ⟨-, r, -, -, there⟩)
  · exact Test.not_reaches (fun x hx => fits x (List.mem_of_mem_filter hx)) known
  · exact Test.not_reaches fits there

/-- Where all equalities are faithful, the records that are picked are those that meet the request. -/
theorem selects_of_faithful (live : ∀ d ∈ filters, d.field ∈ t.columnNames)
    (known : ∀ c ∈ columns, c ∈ t.columnNames)
    (short : ∀ p ∈ (compile filters search columns).patterns, p.utf8ByteSize ≤ maxPatternBytes)
    (faithful : ∀ r ∈ t.records, t.Faithful (compile filters search columns).conditions r) :
    t.Selects (t.records.filter (t.picks (compile filters search columns).conditions)) filters search
      columns where
  sorted := t.sorted.filter _
  mem_iff r := by
    rw [List.mem_filter]
    refine and_congr_right fun hr => ?_
    rw [picks_iff (faithful r hr), meets?_compile_iff (t.complete r hr) live known short]

/-- A request whose patterns are short, and whose equalities are faithful, selects the records that meet
    it. -/
theorem select_of_faithful (live : ∀ d ∈ filters, d.field ∈ t.columnNames)
    (known : ∀ c ∈ columns, c ∈ t.columnNames)
    (short : ∀ p ∈ (compile filters search columns).patterns, p.utf8ByteSize ≤ maxPatternBytes)
    (faithful : ∀ r ∈ t.records, t.Faithful (compile filters search columns).conditions r) :
    ∃ rs, t.select (compile filters search columns) = .ok rs ∧
      t.Selects rs filters search columns := by
  rcases select_compile live search known with ⟨-, stalls⟩ | ⟨selected, -⟩
  · exact absurd stalls (not_stalls (short_conditions short))
  · exact ⟨_, selected, selects_of_faithful live known short faithful⟩

/-- A request without an equality has none that could be unfaithful. -/
theorem faithful_of_plain (plain : ∀ d ∈ filters, d.operator ≠ .equals) :
    t.Faithful (compile filters search columns).conditions r := by
  have never {place : Reference} {v : String} :
      ¬ t.MeetsEquality (compile filters search columns).conditions r place v := by
    intro meets
    obtain ⟨d, hd, equals, -⟩ := exists_of_meetsEquality meets
    exact plain d hd equals
  exact ⟨fun meets => absurd meets never, fun meets => absurd meets never,
    fun meets => absurd meets never⟩

/-! ## 4. Single conditions -/

theorem conditions_compile_one (d : Descriptor) (columns : List String) :
    (compile [d] none columns).conditions = [d.condition] := by
  have nothing : searchConditions none columns = [] := by
    rw [Filter.searchConditions_eq, if_pos (.inl rfl)]
  rw [compile, nothing]
  rfl

/-- A record is looked at for the equality of its number exactly if its number is what is asked for. -/
theorem visits_equals_iff {d : Descriptor} (equals : d.operator = .equals)
    (number : t.resolve? d.field = some .number) :
    t.visits [d.condition] r = true ↔
      Affinity.integer.bound (d.value.getD "") = .int r.number := by
  have condition : d.condition = .compare d.field .equal (d.value.getD "") := by
    simp only [Descriptor.condition, equals]
  have first : [d.condition].findSome? (t.numberText? .equal) = some (d.value.getD "") := by
    simp [condition, numberText?, number]
  rw [visits, first, beq_iff_eq]

/-- A filter that binds no pattern selects the records on which it holds; an equality with the key of a
    record has to name the integer. -/
theorem select_one {d : Descriptor} (live : d.field ∈ t.columnNames)
    (known : ∀ c ∈ columns, c ∈ t.columnNames) (plain : d.pattern? = none) :
    ∃ rs, t.select (compile [d] none columns) = .ok rs ∧
      (rs.Pairwise fun a b => a.number < b.number) ∧
      ∀ r, r ∈ rs ↔ r ∈ t.records ∧ t.Holds r d ∧
        (d.operator = .equals → t.resolve? d.field = some .number →
          Affinity.integer.bound (d.value.getD "") = .int r.number) := by
  have short : ∀ p ∈ d.condition.patterns, p.utf8ByteSize ≤ maxPatternBytes := by
    simp [Filter.patterns_condition, plain]
  have live' : ∀ e ∈ [d], e.field ∈ t.columnNames := fun e he => List.mem_singleton.1 he ▸ live
  have picked (r : Record) (hr : r ∈ t.records) :
      t.picks [d.condition] r = true ↔ t.Holds r d ∧
        (d.operator = .equals → t.resolve? d.field = some .number →
          Affinity.integer.bound (d.value.getD "") = .int r.number) := by
    rw [picks_singleton_iff, meets?_filter_iff (t.complete r hr) live short, and_comm]
    refine and_congr_right fun holds => ⟨fun visited equals number => ?_, fun numbered => ?_⟩
    · exact (visits_equals_iff equals number).1 visited
    · have meets := (meets?_filter_iff (t.complete r hr) live short).2 holds
      refine visits_of_meets (List.forall_mem_singleton.2 meets) fun v hv => ?_
      rw [← conditions_compile_one d columns] at hv
      obtain ⟨e, he, equals, number, rfl, -⟩ := exists_of_meetsEquality hv
      obtain rfl := List.mem_singleton.1 he
      exact numbered equals number
  rcases select_compile live' none known with ⟨-, stalls⟩ | ⟨selected, -⟩
  · rw [conditions_compile_one] at stalls
    exact absurd stalls (not_stalls (List.forall_mem_singleton.2 short))
  · rw [conditions_compile_one] at selected
    refine ⟨_, selected, t.sorted.filter _, fun r => ?_⟩
    rw [List.mem_filter]
    exact and_congr_right (picked r)

/-- A search in some places comes to its pattern, whatever there is. -/
theorem reaches_search_iff {os : List Operand} (named : os ≠ []) (pattern : String)
    (look : String → Cell) : Test.Reaches look [.search os pattern] ↔ maxPatternBytes < pattern.utf8ByteSize := by
  have few : ¬ Test.Reaches look [] := Test.not_reaches (by simp)
  rw [Test.reaches_cons, or_iff_left fun h => few h.2, Test.Long, Test.patterns]
  constructor
  · intro h
    obtain ⟨p, hp, long⟩ := h
    obtain ⟨o, -, rfl⟩ := List.mem_map.1 hp
    exact long
  · intro long
    obtain ⟨o, ho⟩ := List.exists_mem_of_ne_nil os named
    exact ⟨pattern, List.mem_map.2 ⟨o, ho, rfl⟩, long⟩

/-- A search alone stalls exactly if its pattern is too long, and there are a record and a column in which
    it is looked for. -/
theorem stalls_search_iff (search : Option String) (columns : List String) :
    t.Stalls (searchConditions search columns) ↔
      maxPatternBytes < (termPattern search).utf8ByteSize ∧ columns ≠ [] ∧ t.records ≠ [] := by
  rw [Filter.searchConditions_eq]
  split_ifs with nothing
  · refine iff_of_false (not_stalls (by simp)) fun h => ?_
    obtain ⟨long, named, -⟩ := h
    have blank : term search = "" := nothing.resolve_right named
    rw [termPattern, blank] at long
    exact absurd long (by decide)
  · obtain ⟨-, named⟩ := not_or.1 nothing
    let os := columns.map (t.shownOperand fun _ => none)
    have tests : t.tests [.search columns (termPattern search)] = [.search os (termPattern search)] :=
      tests_singleton _
    have unknown : t.knownTests [.search columns (termPattern search)] = [] := by
      obtain ⟨c, rest, rfl⟩ := List.exists_cons_of_ne_nil named
      rw [knownTests, tests]
      simp [os, Test.isKnown, Test.operands, shownOperand_none, Operand.isKnown]
    have reaches := reaches_search_iff (mt List.map_eq_nil_iff.1 named : os ≠ []) (termPattern search)
    have visited (r : Record) : t.visits [.search columns (termPattern search)] r = true := rfl
    have never : ¬ Test.Reaches (fun _ => .null) [] := Test.not_reaches (by simp)
    show t.Stalls [.search columns (termPattern search)] ↔ _
    rw [Stalls, unknown, tests]
    simp [never, visited, reaches, named, List.eq_nil_iff_forall_not_mem, and_comm]

end Table

end Dataset.Store
