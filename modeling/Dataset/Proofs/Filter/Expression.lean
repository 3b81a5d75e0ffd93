import Dataset.Filter.Predicate
import Dataset.Proofs.Sql.Reading

/-!
# The tokens of a compiled expression

A list of filters and a search term have an intended expression, written here with no text at all: a
list of slots, each a fixed token or a placeholder together with what is to be bound in it.

* `Descriptor.slots` is the fragment of one filter, `searchSlots` that of the search, `slots` the
  whole expression;
* `reads_compile`: the text that `compile` makes is read as exactly these tokens, whatever
  characters the fields hold, and leaves no quotation open;
* `params_compile`: what `compile` binds are the texts of the slots, from the left;
* **`compile_tokens_params`** puts both together, and adds that a placeholder gets the text of its
  own slot and that no value has a part in the text.
-/

namespace Dataset.Filter

open Sql (Token Reads)

/-! ## 0. Joined lists -/

theorem map_intercalate {α β : Type} (f : α → β) (sep : List α) (parts : List (List α)) :
    (sep.intercalate parts).map f = (sep.map f).intercalate (parts.map (List.map f)) := by
  induction parts with
  | nil => rfl
  | cons p rest ih =>
    cases rest with
    | nil => simp
    | cons q rest => simpa using ih

/-! ## 1. Slots -/

/-- A place of an expression. -/
inductive Slot where
  /-- A field as a quoted identifier. -/
  | column (name : String)
  /-- A word of the language, or a plain name. -/
  | word (s : String)
  | sign (c : Char)
  /-- The empty text in quotes. -/
  | emptyText
  /-- A placeholder, and the text that is bound in it. -/
  | bound (value : String)
  deriving DecidableEq, Repr

namespace Slot

/-- The token that stands in the text. -/
def token : Slot → Token
  | column name => .identifier name.toList
  | word s => .word s.toList
  | sign c => .symbol c
  | emptyText => .string []
  | bound _ => .placeholder

/-- The text that is bound, if the slot is a placeholder. -/
def value? : Slot → Option String
  | bound v => some v
  | _ => none

theorem token_eq_placeholder (x : Slot) : (x.token == .placeholder) = x.value?.isSome := by
  cases x <;> rfl

end Slot

/-- There are as many placeholders as bound texts. -/
theorem count_placeholder (xs : List Slot) :
    (xs.map Slot.token).count .placeholder = (xs.filterMap Slot.value?).length := by
  induction xs with
  | nil => rfl
  | cons x xs ih =>
    rw [List.map_cons, List.count_cons, ih, x.token_eq_placeholder, List.filterMap_cons]
    cases x.value? <;> simp

/-- A placeholder with `k` placeholders before it gets the text numbered `k`, counted from 0. -/
theorem value_at {xs : List Slot} {j : Nat} {v : String} (h : xs[j]? = some (.bound v)) :
    (xs.filterMap Slot.value?)[((xs.map Slot.token).take j).count .placeholder]? = some v := by
  obtain ⟨hj, hv⟩ := List.getElem?_eq_some_iff.1 h
  have parts : xs = xs.take j ++ .bound v :: xs.drop (j + 1) := by
    rw [← hv, List.getElem_cons_drop, List.take_append_drop]
  have before : ((xs.map Slot.token).take j).count .placeholder =
      ((xs.take j).filterMap Slot.value?).length := by
    rw [← List.map_take, count_placeholder]
  have texts : xs.filterMap Slot.value? = (xs.take j).filterMap Slot.value? ++
      v :: (xs.drop (j + 1)).filterMap Slot.value? := by
    conv_lhs => rw [parts, List.filterMap_append]
    rfl
  rw [before, texts]
  simp

/-! ## 2. The intended expression -/

/-- The fragment of a filter. -/
def Descriptor.slots (d : Descriptor) : List Slot :=
  let v := d.value.getD ""
  match d.operator with
  | .contains => [.column d.field, .word "LIKE", .bound ("%" ++ v ++ "%")]
  | .startsWith => [.column d.field, .word "LIKE", .bound (v ++ "%")]
  | .endsWith => [.column d.field, .word "LIKE", .bound ("%" ++ v)]
  | .equals => [.column d.field, .sign '=', .bound v]
  | .greaterThan => [.column d.field, .sign '>', .bound v]
  | .lessThan => [.column d.field, .sign '<', .bound v]
  | .isEmpty =>
    [.sign '(', .column d.field, .word "IS", .word "NULL", .word "OR", .column d.field, .sign '=',
      .emptyText, .sign ')']

/-- The test of one searched column. -/
def searchedSlots (pattern column : String) : List Slot :=
  [.word column, .word "LIKE", .bound pattern]

/-- The fragment of a search: one of the columns passes the test. -/
def searchFragment (searchable : List String) (pattern : String) : List Slot :=
  .sign '(' :: ([Slot.word "OR"].intercalate (searchable.map (searchedSlots pattern)) ++ [.sign ')'])

/-- What a search adds: nothing for a blank term or without columns. -/
def searchSlots (search : Option String) (searchable : List String) : List (List Slot) :=
  let term := Text.trim (search.getD "")
  if term = "" ∨ searchable = [] then [] else [searchFragment searchable ("%" ++ term ++ "%")]

/-- The whole expression: the filters in order, then the search, joined by `AND`. -/
def slots (filters : List Descriptor) (search : Option String) (searchable : List String) :
    List Slot :=
  [Slot.word "AND"].intercalate (filters.map Descriptor.slots ++ searchSlots search searchable)

/-! ## 3. The text is read as intended -/

/-- The sign of a comparison. -/
def Slot.relation : Relation → Slot
  | .equal => .sign '='
  | .greater => .sign '>'
  | .less => .sign '<'

theorem reads_like (name : String) :
    Reads (likeText (Sql.quote name)).toList
      [.identifier name.toList, .word "LIKE".toList, .placeholder] := by
  rw [likeText, String.toList_append, Sql.toList_quote]
  exact Reads.identifier _ (by decide) (by decide)

theorem reads_searched {name : String} (plain : Sql.isPlain name = true) :
    Reads (likeText name).toList [.word name.toList, .word "LIKE".toList, .placeholder] := by
  rw [likeText, String.toList_append]
  exact Reads.word plain (by decide) (by decide)

theorem reads_compare (name : String) (relation : Relation) (value : String) :
    Reads (Condition.compare name relation value).sql.toList
      [.identifier name.toList, (Slot.relation relation).token, .placeholder] := by
  have sign : Reads (" " ++ relation.sign ++ " ?").toList
      [(Slot.relation relation).token, .placeholder] := by
    cases relation <;> decide
  have ends : (" " ++ relation.sign ++ " ?").toList.head?.any (· != Sql.backtick) = true := by
    cases relation <;> decide
  have text : (Condition.compare name relation value).sql.toList =
      Sql.quoteChars name.toList ++ (" " ++ relation.sign ++ " ?").toList := by
    simp only [Condition.sql, String.toList_append, Sql.toList_quote, List.append_assoc]
  rw [text]
  exact Reads.identifier _ ends sign

theorem reads_blank (name : String) :
    Reads (Condition.blank name).sql.toList
      [.symbol '(', .identifier name.toList, .word "IS".toList, .word "NULL".toList,
        .word "OR".toList, .identifier name.toList, .symbol '=', .string [], .symbol ')'] := by
  have opening : Reads "(".toList [.symbol '('] := by decide
  have test : Reads " IS NULL OR ".toList
      [.word "IS".toList, .word "NULL".toList, .word "OR".toList] := by decide
  have right : Reads (Sql.quoteChars name.toList ++ " = '')".toList)
      [.identifier name.toList, .symbol '=', .string [], .symbol ')'] :=
    Reads.identifier _ (by decide) (by decide)
  have left := Reads.identifier name.toList (Sql.starts_append _ (by decide)) (test.append right)
  simp only [Condition.sql, String.toList_append, Sql.toList_quote, List.append_assoc]
  exact opening.append left

/-- The text of a filter is read as its fragment. -/
theorem reads_condition (d : Descriptor) :
    Reads d.condition.sql.toList (d.slots.map Slot.token) := by
  cases h : d.operator <;> simp only [Descriptor.condition, Descriptor.slots, h]
  case isEmpty => exact reads_blank d.field
  case equals => exact reads_compare d.field .equal _
  case greaterThan => exact reads_compare d.field .greater _
  case lessThan => exact reads_compare d.field .less _
  all_goals exact reads_like d.field

/-- The text of a search is read as its fragment. -/
theorem reads_search {searchable : List String} (pattern : String)
    (plain : ∀ c ∈ searchable, Sql.isPlain c = true) :
    Reads (Condition.search searchable pattern).sql.toList
      ((searchFragment searchable pattern).map Slot.token) := by
  have opening : Reads "(".toList [.symbol '('] := by decide
  have closing : Reads ")".toList [.symbol ')'] := by decide
  have join : Reads " OR ".toList [.word "OR".toList] := by decide
  have tests : List.Forall₂ Reads (searchable.map fun c => (likeText c).toList)
      (searchable.map fun c => (searchedSlots pattern c).map Slot.token) := by
    rw [List.forall₂_map_left_iff, List.forall₂_map_right_iff, List.forall₂_same]
    exact fun c hc => reads_searched (plain c hc)
  have text : (Condition.search searchable pattern).sql.toList = "(".toList ++
      (" OR ".toList.intercalate (searchable.map fun c => (likeText c).toList) ++ ")".toList) := by
    simp only [Condition.sql, Text.joinWith, String.toList_append, String.toList_intercalate,
      List.map_map, List.append_assoc]
    rfl
  rw [text, searchFragment, List.map_cons, List.map_append, map_intercalate, List.map_map]
  exact opening.append ((Reads.intercalate join tests).append closing)

theorem searchConditions_eq (search : Option String) (searchable : List String) :
    searchConditions search searchable =
      if Text.trim (search.getD "") = "" ∨ searchable = [] then []
      else [.search searchable ("%" ++ Text.trim (search.getD "") ++ "%")] := by
  simp only [searchConditions, Bool.or_eq_true, String.isEmpty_iff, List.isEmpty_iff]

theorem reads_searchConditions (search : Option String) {searchable : List String}
    (plain : ∀ c ∈ searchable, Sql.isPlain c = true) :
    List.Forall₂ Reads ((searchConditions search searchable).map fun c => c.sql.toList)
      ((searchSlots search searchable).map (List.map Slot.token)) := by
  rw [searchConditions_eq, searchSlots]
  by_cases h : Text.trim (search.getD "") = "" ∨ searchable = []
  · rw [if_pos h, if_pos h]
    exact .nil
  · rw [if_neg h, if_neg h]
    exact .cons (reads_search _ plain) .nil

/-- The expression of filters and a search is read as intended, whatever the fields hold. -/
theorem reads_compile (filters : List Descriptor) (search : Option String)
    {searchable : List String} (plain : ∀ c ∈ searchable, Sql.isPlain c = true) :
    Reads (compile filters search searchable).expression.toList
      ((slots filters search searchable).map Slot.token) := by
  have join : Reads " AND ".toList [.word "AND".toList] := by decide
  have filtered : List.Forall₂ Reads (filters.map fun d => d.condition.sql.toList)
      (filters.map fun d => d.slots.map Slot.token) := by
    rw [List.forall₂_map_left_iff, List.forall₂_map_right_iff, List.forall₂_same]
    exact fun d _ => reads_condition d
  have pieces := List.rel_append filtered (reads_searchConditions search plain)
  have text : (compile filters search searchable).expression.toList =
      " AND ".toList.intercalate ((filters.map fun d => d.condition.sql.toList) ++
        (searchConditions search searchable).map fun c => c.sql.toList) := by
    simp only [compile, Predicate.expression, Text.joinWith, String.toList_intercalate,
      List.map_append, List.map_map]
    rfl
  rw [text, slots, map_intercalate, List.map_append, List.map_map]
  exact Reads.intercalate join pieces

/-! ## 4. What is bound -/

theorem values_intercalate (word : String) (parts : List (List Slot)) :
    ([Slot.word word].intercalate parts).filterMap Slot.value? =
      parts.flatMap (List.filterMap Slot.value?) :=
  Sql.filterMap_intercalate rfl parts

theorem params_condition (d : Descriptor) :
    d.condition.params = d.slots.filterMap Slot.value? := by
  cases h : d.operator <;> simp only [Descriptor.condition, Descriptor.slots, h] <;> rfl

theorem params_search (searchable : List String) (pattern : String) :
    (Condition.search searchable pattern).params =
      (searchFragment searchable pattern).filterMap Slot.value? := by
  have tests : (searchable.map (searchedSlots pattern)).flatMap (List.filterMap Slot.value?) =
      searchable.map fun _ => pattern := by
    rw [List.flatMap_map, List.map_eq_flatMap]
    rfl
  rw [searchFragment, List.filterMap_cons_none rfl, List.filterMap_append, values_intercalate,
    tests]
  simp [Condition.params, Slot.value?]

/-- What is bound are the texts of the slots, from the left. -/
theorem params_compile (filters : List Descriptor) (search : Option String)
    (searchable : List String) :
    (compile filters search searchable).params =
      (slots filters search searchable).filterMap Slot.value? := by
  have searched : (searchConditions search searchable).flatMap Condition.params =
      (searchSlots search searchable).flatMap (List.filterMap Slot.value?) := by
    rw [searchConditions_eq, searchSlots]
    by_cases h : Text.trim (search.getD "") = "" ∨ searchable = []
    · rw [if_pos h, if_pos h]
      rfl
    · rw [if_neg h, if_neg h, List.flatMap_singleton, List.flatMap_singleton, params_search]
  rw [slots, values_intercalate, List.flatMap_append, ← searched, List.flatMap_map]
  simp only [compile, Predicate.params, List.flatMap_append, List.flatMap_map, params_condition]

/-! ## 5. Values stay out of the text -/

/-- The text of a filter hangs on its field and its operator alone. -/
theorem sql_condition_congr {d e : Descriptor} (field : d.field = e.field)
    (operator : d.operator = e.operator) : d.condition.sql = e.condition.sql := by
  cases h : e.operator <;>
    simp only [Descriptor.condition, operator, h, field] <;> rfl

theorem sql_searchConditions_congr {search other : Option String} (searchable : List String)
    (blank : Text.trim (search.getD "") = "" ↔ Text.trim (other.getD "") = "") :
    (searchConditions search searchable).map Condition.sql =
      (searchConditions other searchable).map Condition.sql := by
  rw [searchConditions_eq, searchConditions_eq]
  by_cases h : Text.trim (other.getD "") = "" ∨ searchable = []
  · rw [if_pos h, if_pos (h.imp_left blank.2)]
  · rw [if_neg h, if_neg fun g => h (g.imp_left blank.1)]
    simp only [List.map_singleton, Condition.sql]

/-! ## 6. The expression and its parameters -/

/-- **`compile` says what is meant by `slots`.** `Sql.tokens?` reads its expression to the end, with nothing
    left open, as the tokens of `slots`, in which every field is one identifier of exactly its characters.
    The parameters are the values of `slots` in order, one for each placeholder, and the placeholder of a
    slot `bound v` is the one that gets `v`. Values, and what the term says, have no part in the expression:
    it depends on the fields, the operators and whether the term is blank. -/
theorem compile_tokens_params (filters : List Descriptor) (search : Option String)
    (searchable : List String) (plain : ∀ c ∈ searchable, Sql.isPlain c = true) :
    let p := compile filters search searchable
    let meant := slots filters search searchable
    let tokens := meant.map Slot.token
    Sql.tokens? p.expression.toList = some tokens ∧
    p.params = meant.filterMap Slot.value? ∧
    tokens.count .placeholder = p.params.length ∧
    (∀ j v, meant[j]? = some (.bound v) →
      p.params[(tokens.take j).count .placeholder]? = some v) ∧
    ∀ (others : List Descriptor) (other : Option String),
      others.map (fun d => (d.field, d.operator)) = filters.map (fun d => (d.field, d.operator)) →
      (Text.trim (other.getD "") = "" ↔ Text.trim (search.getD "") = "") →
      (compile others other searchable).expression = p.expression := by
  intro p meant tokens
  have bound : p.params = meant.filterMap Slot.value? := params_compile filters search searchable
  refine ⟨(reads_compile filters search plain).tokens?, bound, ?_, ?_, ?_⟩
  · rw [bound]
    exact count_placeholder meant
  · intro j v h
    rw [bound]
    exact value_at h
  · intro others other same blank
    have texts : others.map (Condition.sql ∘ Descriptor.condition) =
        filters.map (Condition.sql ∘ Descriptor.condition) := by
      rw [← List.forall₂_eq_eq_eq, List.forall₂_map_left_iff, List.forall₂_map_right_iff] at same ⊢
      exact same.imp fun d e h => sql_condition_congr (congrArg Prod.fst h) (congrArg Prod.snd h)
    have searched := sql_searchConditions_congr searchable blank
    simp only [p, compile, Predicate.expression, List.map_append, List.map_map, texts, searched]

/-- A field that tries to end its quotation and to bring a placeholder of its own. -/
theorem compile_tokens_params_hostile :
    let hostile : Descriptor := ⟨"a` = ? --'", .isEmpty, none, by decide, by decide⟩
    let plainField : Descriptor := ⟨"Brand", .contains, some "?`", by decide, by decide⟩
    (∀ c ∈ ["Brand", "Model"], Sql.isPlain c = true) ∧
      Sql.tokens? (compile [hostile, plainField] (some " x ") ["Brand", "Model"]).expression.toList =
        some ((slots [hostile, plainField] (some " x ") ["Brand", "Model"]).map Slot.token) ∧
      (compile [hostile, plainField] (some " x ") ["Brand", "Model"]).params =
        ["%?`%", "%x%", "%x%"] := by
  intro hostile plainField
  have plain : ∀ c ∈ ["Brand", "Model"], Sql.isPlain c = true := by decide
  have h := compile_tokens_params [hostile, plainField] (some " x ") ["Brand", "Model"] plain
  exact ⟨plain, h.1, h.2.1.trans (by decide)⟩

end Dataset.Filter
