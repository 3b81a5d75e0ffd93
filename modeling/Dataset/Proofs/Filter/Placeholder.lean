import Dataset.Gateway
import Dataset.Proofs.Filter.Expression
import Mathlib.Algebra.GroupWithZero.Nat

/-!
# Question marks and placeholders

`Predicate.placeholderCount` counts question marks, and a field may hold some of its own. Quoting
keeps them out of the placeholders but not out of the text.

* `count_quote`: a quoted name holds as many question marks as the name;
* `count_condition`: a fragment holds one question mark for each of its parameters, and those of its
  field as often as it names the field;
* **`placeholderCount_compile`**: so the count is the number of parameters exactly if no field holds
  a question mark; otherwise it is larger, by a known amount.
-/

namespace Dataset.Filter

/-! ## 1. Counting characters of a text -/

theorem count_doubled {c : Char} (other : c ≠ Sql.backtick) (name : List Char) :
    (Sql.doubled name).count c = name.count c := by
  induction name with
  | nil => rfl
  | cons d name ih =>
    by_cases h : d = Sql.backtick
    · subst h
      simp [Sql.doubled, ih, other.symm]
    · simp [Sql.doubled, h, List.count_cons, ih]

theorem count_quote {c : Char} (other : c ≠ Sql.backtick) (name : String) :
    (Sql.quote name).toList.count c = name.toList.count c := by
  rw [Sql.toList_quote, Sql.quoteChars, List.count_cons_of_ne other.symm, List.count_append,
    count_doubled other, List.count_singleton]
  simp [other.symm]

/-- A separator without the character adds nothing to the count. -/
theorem count_joinWith {c : Char} {sep : String} (absent : sep.toList.count c = 0)
    (parts : List String) :
    (Text.joinWith sep parts).toList.count c = (parts.map fun p => p.toList.count c).sum := by
  rw [Text.joinWith, String.toList_intercalate]
  induction parts with
  | nil => rfl
  | cons p rest ih =>
    cases rest with
    | nil => simp
    | cons q rest =>
      rw [List.map_cons, List.map_cons, List.intercalate_cons_cons, List.count_append,
        List.count_append, absent, List.map_cons, List.sum_cons, ← ih, List.map_cons]
      omega

/-! ## 2. Question marks of an expression -/

/-- How often the fragment of a filter names its field. -/
def Descriptor.namings (d : Descriptor) : Nat :=
  match d.operator with
  | .isEmpty => 2
  | _ => 1

/-- The question marks that the fields bring into the text. -/
def strayMarks (filters : List Descriptor) : Nat :=
  (filters.map fun d => d.namings * d.field.toList.count '?').sum

/-- The number of question marks in the SQL of `conditions`. -/
def marks (conditions : List Condition) : Nat :=
  (conditions.map fun c => c.sql.toList.count '?').sum

theorem placeholderCount_eq_marks (p : Predicate) : p.placeholderCount = marks p.conditions := by
  rw [Predicate.placeholderCount, Predicate.expression, count_joinWith (by decide), List.map_map]
  rfl

theorem marks_append (a b : List Condition) : marks (a ++ b) = marks a + marks b := by
  rw [marks, List.map_append, List.sum_append, marks, marks]

theorem count_like (name : String) :
    (likeText name).toList.count '?' = name.toList.count '?' + 1 := by
  rw [likeText, String.toList_append, List.count_append]
  rfl

theorem count_compare (name : String) (relation : Relation) (value : String) :
    (Condition.compare name relation value).sql.toList.count '?' = name.toList.count '?' + 1 := by
  have sign : relation.sign.toList.count '?' = 0 := by cases relation <;> decide
  have before : " ".toList.count '?' = 0 := by decide
  have mark : " ?".toList.count '?' = 1 := by decide
  simp only [Condition.sql, String.toList_append, List.count_append, sign, before, mark,
    count_quote (by decide : '?' ≠ Sql.backtick)]

theorem count_blank (name : String) :
    (Condition.blank name).sql.toList.count '?' = 2 * name.toList.count '?' := by
  have opening : "(".toList.count '?' = 0 := by decide
  have test : " IS NULL OR ".toList.count '?' = 0 := by decide
  have rest : " = '')".toList.count '?' = 0 := by decide
  simp only [Condition.sql, String.toList_append, List.count_append, opening, test, rest,
    count_quote (by decide : '?' ≠ Sql.backtick)]
  omega

theorem count_search {columns : List String} (pattern : String)
    (unmarked : ∀ c ∈ columns, c.toList.count '?' = 0) :
    (Condition.search columns pattern).sql.toList.count '?' = columns.length := by
  have opening : "(".toList.count '?' = 0 := by decide
  have closing : ")".toList.count '?' = 0 := by decide
  have tests : (columns.map likeText).map (fun p => p.toList.count '?') = columns.map fun _ => 1 := by
    rw [List.map_map]
    exact List.map_congr_left fun c hc => (count_like c).trans (by rw [unmarked c hc])
  simp only [Condition.sql, String.toList_append, List.count_append, opening, closing,
    count_joinWith (by decide : " OR ".toList.count '?' = 0), tests]
  simp

/-- One question mark for each parameter, and those of the field wherever it is named. -/
theorem count_condition (d : Descriptor) :
    d.condition.sql.toList.count '?' =
      d.condition.params.length + d.namings * d.field.toList.count '?' := by
  cases h : d.operator <;> simp only [Descriptor.condition, Descriptor.namings, h]
  case isEmpty => rw [count_blank, Condition.params, List.length_nil, Nat.zero_add]
  case equals => rw [count_compare, Condition.params, List.length_singleton]; omega
  case greaterThan => rw [count_compare, Condition.params, List.length_singleton]; omega
  case lessThan => rw [count_compare, Condition.params, List.length_singleton]; omega
  all_goals
    rw [Condition.sql, count_like, count_quote (by decide), Condition.params,
      List.length_singleton]
    omega

theorem marks_searchConditions (search : Option String) {searchable : List String}
    (unmarked : ∀ c ∈ searchable, c.toList.count '?' = 0) :
    marks (searchConditions search searchable) =
      ((searchConditions search searchable).flatMap Condition.params).length := by
  rw [searchConditions_eq]
  by_cases h : Text.trim (search.getD "") = "" ∨ searchable = []
  · rw [if_pos h]
    rfl
  · rw [if_neg h, marks, List.map_singleton, List.sum_singleton, count_search _ unmarked,
      List.flatMap_singleton, Condition.params, List.length_map]

theorem marks_conditions (filters : List Descriptor) :
    marks (filters.map Descriptor.condition) =
      ((filters.map Descriptor.condition).flatMap Condition.params).length + strayMarks filters := by
  induction filters with
  | nil => rfl
  | cons d rest ih =>
    simp only [marks, strayMarks] at ih
    simp only [marks, strayMarks, List.map_cons, List.sum_cons, List.flatMap_cons,
      List.length_append, ih, count_condition]
    omega

theorem strayMarks_eq_zero {filters : List Descriptor} :
    strayMarks filters = 0 ↔ ∀ d ∈ filters, '?' ∉ d.field.toList := by
  have named (d : Descriptor) : d.namings ≠ 0 := by
    unfold Descriptor.namings
    split <;> decide
  simp [strayMarks, List.sum_eq_zero_iff_forall_eq_nat, named, List.count_eq_zero]

/-! ## 3. The count -/

/-- **`placeholderCount` is the number of parameters and the `strayMarks` of the fields together.** So it is
    the number of parameters exactly if no field holds a question mark. -/
theorem placeholderCount_compile (filters : List Descriptor) (search : Option String)
    (searchable : List String) (sub : searchable ⊆ Gateway.searchableColumns) :
    let p := compile filters search searchable
    p.placeholderCount = p.params.length + strayMarks filters ∧
    (p.placeholderCount = p.params.length ↔ ∀ d ∈ filters, '?' ∉ d.field.toList) := by
  intro p
  have unmarked : ∀ c ∈ searchable, c.toList.count '?' = 0 := by
    have all : ∀ c ∈ Gateway.searchableColumns, c.toList.count '?' = 0 := by decide
    exact fun c hc => all c (sub hc)
  have count : p.placeholderCount = p.params.length + strayMarks filters := by
    have params : p.params.length =
        ((filters.map Descriptor.condition).flatMap Condition.params).length +
          ((searchConditions search searchable).flatMap Condition.params).length := by
      rw [← List.length_append, ← List.flatMap_append]
      rfl
    rw [placeholderCount_eq_marks, params]
    show marks (filters.map Descriptor.condition ++ searchConditions search searchable) = _
    rw [marks_append, marks_conditions, marks_searchConditions search unmarked]
    omega
  refine ⟨count, ?_⟩
  rw [count, Nat.add_eq_left, strayMarks_eq_zero]

/-- A field that is named twice brings its question mark twice. -/
theorem placeholderCount_compile_marked :
    let marked : Descriptor := ⟨"A?", .isEmpty, none, by decide, by decide⟩
    let p := compile [marked] (some "q") ["Model"]
    ["Model"] ⊆ Gateway.searchableColumns ∧ p.placeholderCount = p.params.length + 2 := by
  intro marked p
  have sub : ["Model"] ⊆ Gateway.searchableColumns := by decide
  have stray : strayMarks [marked] = 2 := by decide
  have count := (placeholderCount_compile [marked] (some "q") ["Model"] sub).1
  exact ⟨sub, stray ▸ count⟩

/-- A field with a question mark is counted as a second placeholder. -/
theorem placeholderCount_ne_params_length :
    ¬ ∀ (filters : List Descriptor) (search : Option String) (searchable : List String),
      searchable ⊆ Gateway.searchableColumns →
        (compile filters search searchable).placeholderCount =
          (compile filters search searchable).params.length := by
  intro h
  have marked := h [⟨"A?", .equals, some "1", by decide, by decide⟩] none [] (List.nil_subset _)
  exact absurd marked (by decide)

end Dataset.Filter
