import Dataset.Proofs.Filter.Expression

/-!
# The patterns of a request

A filter that tests a text, and a search, bind patterns, of which the engine bounds the length.

* `Descriptor.pattern?`, `termPattern`: the pattern of a filter, and that of a search;
* `Predicate.patterns`: all patterns that a predicate binds, the same in whatever order the filters stand
  (`perm_patterns`).
-/

namespace Dataset.Filter

/-- The pattern that a filter looks for, if it is a test of this kind. -/
def Descriptor.pattern? (d : Descriptor) : Option String :=
  let v := d.value.getD ""
  match d.operator with
  | .contains => some ("%" ++ v ++ "%")
  | .startsWith => some (v ++ "%")
  | .endsWith => some ("%" ++ v)
  | _ => none

/-- The parameters of a condition that are bound behind `LIKE`. -/
def Condition.patterns : Condition → List String
  | .like _ pattern => [pattern]
  | .compare _ _ _ | .blank _ => []
  | .search columns pattern => columns.map fun _ => pattern

/-- The parameters of `p` that are bound behind `LIKE`, from the left. -/
def Predicate.patterns (p : Predicate) : List String := p.conditions.flatMap Condition.patterns

/-- The term of a search without blanks around it. -/
def term (search : Option String) : String := Text.trim (search.getD "")

/-- The pattern of a search: its term between two `%`. -/
def termPattern (search : Option String) : String := "%" ++ term search ++ "%"

theorem patterns_condition (d : Descriptor) : d.condition.patterns = d.pattern?.toList := by
  cases h : d.operator <;> simp only [Descriptor.condition, Descriptor.pattern?, h] <;> rfl

/-- Filters in another order bind the same patterns. -/
theorem perm_patterns {filters filters' : List Descriptor} (same : filters'.Perm filters)
    (search : Option String) (columns : List String) :
    (compile filters' search columns).patterns.Perm (compile filters search columns).patterns :=
  ((same.map Descriptor.condition).append_right _).flatMap_right _

end Dataset.Filter
