import Dataset.Proofs.Filter.Patterns
import Dataset.Proofs.Store.Lookup
import Dataset.Proofs.Store.Pattern

/-!
# What tests and filters say of a record

Tests are decided from the left. There is no decision on a test whose pattern is too long, whatever it
looks at. A filter has a meaning for a record that mentions no test: what it asks of the cell that is
shown under its field.

* `Test.Long`, `Test.decide?_eq_none_iff`: which tests are not decided;
* `Test.Reaches`, `Test.decideAll?_eq_none_iff`: tests come to one that is not decided;
* `Table.Holds`, `Table.Found`: a filter holds for a record, a search finds its term in it;
* `Table.meets?`: the test of a condition on the record itself, where no value is fixed. Short patterns
  given, it says what the filter means (`Table.meets?_filter_iff`), or the search
  (`Table.meets?_search_iff`).
-/

namespace Dataset.Store

open Dataset.Filter (Condition Relation Descriptor searchConditions term termPattern)

/-! ## 1. Decisions -/

theorem anyLike?_eq_none_iff (pattern : String) (cells : List Cell) :
    anyLike? pattern cells = none ↔ cells ≠ [] ∧ maxPatternBytes < pattern.utf8ByteSize := by
  induction cells with
  | nil => simp [anyLike?]
  | cons c rest ih =>
    have here := c.like?_eq_none_iff pattern
    rw [anyLike?]
    cases first : c.like? pattern with
    | none => simpa [first] using here
    | some b =>
      have short : ¬ maxPatternBytes < pattern.utf8ByteSize := by simpa [first] using here
      cases b <;> simp [ih, short]

theorem anyLike?_eq_some_true_iff (pattern : String) (cells : List Cell) :
    anyLike? pattern cells = some true ↔
      pattern.utf8ByteSize ≤ maxPatternBytes ∧ ∃ c ∈ cells, c.Like pattern := by
  induction cells with
  | nil => simp [anyLike?]
  | cons c rest ih =>
    have here := c.like?_eq_some_true_iff pattern
    have long := c.like?_eq_none_iff pattern
    rw [anyLike?]
    cases first : c.like? pattern with
    | none =>
      rw [first] at long
      exact iff_of_false (by simp) fun h => Nat.not_le.2 (long.1 rfl) h.1
    | some b =>
      rw [first] at here
      cases b with
      | true => simp [here.1 rfl]
      | false =>
        have unlike : pattern.utf8ByteSize ≤ maxPatternBytes → ¬ c.Like pattern :=
          fun short like => by cases here.2 ⟨short, like⟩
        rw [ih, and_congr_right_iff]
        intro short
        simp [unlike short]

namespace Test

/-- The patterns that a test evaluates. -/
def patterns : Test → List String
  | like _ pattern => [pattern]
  | compare _ _ _ | blank _ _ => []
  | search os pattern => os.map fun _ => pattern

/-- A pattern of `x` has more than `maxPatternBytes` bytes. -/
def Long (x : Test) : Prop := ∃ p ∈ x.patterns, maxPatternBytes < p.utf8ByteSize

/-- **There is no decision on a test exactly if its pattern is too long**, whatever it looks at. -/
theorem decide?_eq_none_iff (look : String → Cell) (x : Test) : x.decide? look = none ↔ x.Long := by
  cases x with
  | like o pattern => simp [decide?, Long, patterns, Cell.like?_eq_none_iff]
  | compare o relation v => simp [decide?, Long, patterns]
  | blank missing compared => simp [decide?, Long, patterns]
  | search os pattern => cases os <;> simp [decide?, Long, patterns, anyLike?_eq_none_iff]

variable {look : String → Cell} {xs : List Test}

/-- Tests all hold exactly if each of them does. -/
theorem decideAll?_eq_some_true_iff :
    decideAll? look xs = some true ↔ ∀ x ∈ xs, x.decide? look = some true := by
  induction xs with
  | nil => simp [decideAll?]
  | cons x rest ih =>
    rw [decideAll?, List.forall_mem_cons, ← ih]
    cases x.decide? look with
    | none => simp
    | some b => cases b <;> simp

/-- The tests `xs` come to one that is `Long`: all before it hold. -/
def Reaches (look : String → Cell) (xs : List Test) : Prop :=
  ∃ before x after, xs = before ++ x :: after ∧ (∀ b ∈ before, b.decide? look = some true) ∧ x.Long

/-- The first test is not decided, or holds and others behind it come to one that is not. -/
theorem reaches_cons (x : Test) (rest : List Test) :
    Reaches look (x :: rest) ↔ x.Long ∨ x.decide? look = some true ∧ Reaches look rest := by
  constructor
  · rintro ⟨before, y, after, split, held, long⟩
    cases before with
    | nil =>
      obtain ⟨rfl, rfl⟩ := List.cons.inj split
      exact .inl long
    | cons b before =>
      obtain ⟨rfl, rfl⟩ := List.cons.inj split
      have ⟨here, there⟩ := List.forall_mem_cons.1 held
      exact .inr ⟨here, before, y, after, rfl, there, long⟩
  · rintro (long | ⟨here, before, y, after, rfl, there, long⟩)
    · exact ⟨[], x, rest, rfl, by simp, long⟩
    · exact ⟨x :: before, y, after, rfl, List.forall_mem_cons.2 ⟨here, there⟩, long⟩

/-- **There is no decision on tests exactly if they come to one whose pattern is too long.** -/
theorem decideAll?_eq_none_iff : decideAll? look xs = none ↔ Reaches look xs := by
  induction xs with
  | nil => exact ⟨nofun, fun ⟨before, x, after, split, _⟩ => by simp at split⟩
  | cons x rest ih =>
    have here := x.decide?_eq_none_iff look
    rw [decideAll?, reaches_cons, ← ih, ← here]
    cases x.decide? look with
    | none => simp
    | some b => cases b <;> simp

/-- Tests of short patterns come to no other. -/
theorem not_reaches (short : ∀ x ∈ xs, ¬ x.Long) : ¬ Reaches look xs := by
  rintro ⟨before, x, after, rfl, -, long⟩
  exact short x (by simp) long

end Test

/-! ## 2. Meaning -/

namespace Table

/-- The filter `d` holds on the cell that `r` shows under `d.field`. -/
def Holds (t : Table) (r : Record) (d : Descriptor) : Prop :=
  let c := t.shown r d.field
  let v := d.value.getD ""
  let other := (t.declaredAffinity d.field).bound v
  match d.operator with
  | .contains => c.Like ("%" ++ v ++ "%")
  | .startsWith => c.Like (v ++ "%")
  | .endsWith => c.Like ("%" ++ v)
  | .equals => c ≠ .null ∧ c.cmp other = .eq
  | .greaterThan => c ≠ .null ∧ c.cmp other = .gt
  | .lessThan => c ≠ .null ∧ c.cmp other = .lt
  | .isEmpty => c = .null ∨ c = .text ""

/-- The term of `search` is found in one of `columns` of `r`; without a term or columns nothing is asked. -/
def Found (t : Table) (r : Record) (search : Option String) (columns : List String) : Prop :=
  term search ≠ "" → columns ≠ [] → ∃ c ∈ columns, (t.shown r c).Like (termPattern search)

variable {t : Table} {r : Record}

/-- A missing value meets no filter but the one that asks for it. -/
theorem holds_of_null {d : Descriptor} (null : t.shown r d.field = .null) :
    t.Holds r d ↔ d.operator = .isEmpty := by
  have unlike (pattern : String) : ¬ Cell.null.Like pattern := Cell.not_like_null pattern
  cases h : d.operator <;> simp [Holds, h, null, unlike]

/-! ## 3. Tests of the record itself -/

theorem operand_none (t : Table) (name : String) : t.operand (fun _ => none) name = .column name := by
  rw [operand]
  cases t.resolve? name <;> rfl

theorem shownOperand_none (t : Table) (name : String) :
    t.shownOperand (fun _ => none) name = .column name := by
  rw [shownOperand, operand]
  cases t.resolve? name <;> simp

/-- The condition holds of the record itself. -/
def meets? (t : Table) (r : Record) (c : Condition) : Option Bool :=
  (t.test (fun _ => none) c).decide? (t.cell r)

theorem relates_iff (c v : Cell) (relation : Relation) :
    c.relates relation v = true ↔ c ≠ .null ∧ c.cmp v = asks relation := by
  cases c <;> simp [Cell.relates, Cell.isNull]

variable {name : String}

theorem meets?_like_iff (wide : r.cells.length = t.columns.length) (live : name ∈ t.columnNames)
    {pattern : String} (short : pattern.utf8ByteSize ≤ maxPatternBytes) :
    t.meets? r (.like name pattern) = some true ↔ (t.shown r name).Like pattern := by
  rw [meets?, test, shownOperand_none, Test.decide?, Operand.value, cell_eq_shown wide live,
    Cell.like?_eq_some_true_iff, and_iff_right short]

theorem meets?_compare_iff (wide : r.cells.length = t.columns.length) (live : name ∈ t.columnNames)
    (relation : Relation) (v : String) :
    t.meets? r (.compare name relation v) = some true ↔ t.shown r name ≠ .null ∧
      (t.shown r name).cmp ((t.declaredAffinity name).bound v) = asks relation := by
  rw [meets?, test, operand_none, Test.decide?, Operand.value, cell_eq_shown wide live, bound_eq live,
    Option.some_inj, relates_iff]

theorem meets?_blank_iff (wide : r.cells.length = t.columns.length) (live : name ∈ t.columnNames) :
    t.meets? r (.blank name) = some true ↔ t.shown r name = .null ∨ t.shown r name = .text "" := by
  rw [meets?, test, shownOperand_none, operand_none, Test.decide?, Operand.value,
    cell_eq_shown wide live]
  cases t.shown r name <;> simp [Cell.isNull]

/-- **The test of a filter says what the filter means**, if its pattern is short. -/
theorem meets?_filter_iff (wide : r.cells.length = t.columns.length) {d : Descriptor}
    (live : d.field ∈ t.columnNames)
    (short : ∀ p ∈ d.condition.patterns, p.utf8ByteSize ≤ maxPatternBytes) :
    t.meets? r d.condition = some true ↔ t.Holds r d := by
  rw [Filter.patterns_condition] at short
  cases h : d.operator <;>
    simp only [Descriptor.condition, Holds, h, Descriptor.pattern?, Option.mem_toList,
      Option.some.injEq, forall_eq'] at short ⊢
  case equals => exact meets?_compare_iff wide live .equal _
  case greaterThan => exact meets?_compare_iff wide live .greater _
  case lessThan => exact meets?_compare_iff wide live .less _
  case isEmpty => exact meets?_blank_iff wide live
  all_goals exact meets?_like_iff wide live short

/-- **The test of a search says what the search means**, if its pattern is short. -/
theorem meets?_search_iff (wide : r.cells.length = t.columns.length) {columns : List String}
    (live : ∀ c ∈ columns, c ∈ t.columnNames) {pattern : String}
    (short : pattern.utf8ByteSize ≤ maxPatternBytes) :
    t.meets? r (.search columns pattern) = some true ↔ ∃ c ∈ columns, (t.shown r c).Like pattern := by
  rw [meets?, test, Test.decide?, anyLike?_eq_some_true_iff, and_iff_right short]
  simp only [List.mem_map, exists_exists_and_eq_and, shownOperand_none, Operand.value]
  exact exists_congr fun c => and_congr_right fun hc => by rw [cell_eq_shown wide (live c hc)]

/-- The conditions of a search all hold exactly if it finds its term. -/
theorem meets?_searchConditions_iff (wide : r.cells.length = t.columns.length)
    (search : Option String) {columns : List String} (live : ∀ c ∈ columns, c ∈ t.columnNames)
    (short : ∀ c ∈ searchConditions search columns, ∀ p ∈ c.patterns,
      p.utf8ByteSize ≤ maxPatternBytes) :
    (∀ c ∈ searchConditions search columns, t.meets? r c = some true) ↔ t.Found r search columns := by
  rw [Filter.searchConditions_eq] at short ⊢
  split_ifs at short ⊢ with nothing
  · refine iff_of_true (by simp) fun given named => ?_
    exact absurd nothing (not_or.2 ⟨given, named⟩)
  · obtain ⟨given, named⟩ := not_or.1 nothing
    obtain ⟨c, hc⟩ := List.exists_mem_of_ne_nil columns named
    have fits : (termPattern search).utf8ByteSize ≤ maxPatternBytes :=
      short _ (List.mem_singleton_self _) _ (List.mem_map.2 ⟨c, hc, rfl⟩)
    rw [List.forall_mem_singleton]
    exact (meets?_search_iff wide live fits).trans
      ⟨fun found _ _ => found, fun found => found given named⟩

end Table

end Dataset.Store
