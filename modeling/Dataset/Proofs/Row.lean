import Dataset.Row
import Mathlib.Data.Finset.Card
import Mathlib.Data.List.Nodup
import Mathlib.Tactic.SplitIfs

/-!
# Rows that are put together

A push puts a scalar where its column stands, or appends the column. So no two columns of a row have one
name, in whatever way the row was put together, columns with different names stay as they are, and a column
stays where it first was, with what was last put there.

* `columns_push`, `get?_push`: the columns after a push, and what stands under them;
* `Keeps`: a row holds what was pushed; **`Keeps.push`**, by one push more; `keeps_ofList`;
* **`nodup_columns`**: the columns of a row;
* **`insertion_order`**: a row is a map in the order of insertion;
* `ofList_of_nodup`: a row of columns with different names.
-/

namespace Dataset.Row

variable {column : String} {cells : List (String × Scalar)}

/-! ## 1. One push -/

theorem put_of_notMem (v : Scalar) (new : column ∉ cells.map Prod.fst) :
    put column v cells = cells ++ [(column, v)] := by
  induction cells with
  | nil => rfl
  | cons c rest ih =>
    rw [List.map_cons, List.mem_cons, not_or] at new
    rw [put, if_neg (Ne.symm new.1), ih new.2, List.cons_append]

theorem map_fst_put_of_mem (v : Scalar) (old : column ∈ cells.map Prod.fst) :
    (put column v cells).map Prod.fst = cells.map Prod.fst := by
  induction cells with
  | nil => cases old
  | cons c rest ih =>
    rw [put]
    split_ifs with same
    · rw [List.map_cons, List.map_cons, same]
    · have later : column ∈ rest.map Prod.fst := (List.mem_cons.1 old).resolve_left (Ne.symm same)
      rw [List.map_cons, List.map_cons, ih later]

/-- A push appends a column, unless there is one of its name. -/
theorem columns_push (r : Row) (column : String) (v : Scalar) :
    (r.push column v).columns =
      if column ∈ r.columns then r.columns else r.columns ++ [column] := by
  split_ifs with old
  · exact map_fst_put_of_mem v old
  · rw [push, columns, put_of_notMem v old, List.map_append]
    rfl

/-- What stands under a name, by the first column. -/
theorem lookup_cons (name other : String) (w : Scalar) (rest : List (String × Scalar)) :
    ((name, w) :: rest).lookup other = if other = name then some w else rest.lookup other := by
  rw [List.lookup_cons]
  by_cases here : other = name
  · rw [if_pos here, beq_iff_eq.2 here]
  · rw [if_neg here, beq_false_of_ne here]

theorem lookup_put (column other : String) (v : Scalar) (cells : List (String × Scalar)) :
    (put column v cells).lookup other = if other = column then some v else cells.lookup other := by
  induction cells with
  | nil => exact lookup_cons column other v []
  | cons c rest ih =>
    obtain ⟨name, w⟩ := c
    rw [put, lookup_cons name]
    by_cases here : name = column
    · rw [if_pos here, lookup_cons, here]
      split_ifs <;> rfl
    · rw [if_neg here, lookup_cons, ih]
      split_ifs with first asked
      · exact absurd (first.symm.trans asked) here
      · rfl
      · rfl
      · rfl

/-- A push says what stands under its name, and leaves what stands under others. -/
theorem get?_push (r : Row) (column other : String) (v : Scalar) :
    (r.push column v).get? other = if other = column then some v else r.get? other :=
  lookup_put column other v r.cells

/-- Nothing stands under a name exactly if it is no column. -/
theorem get?_eq_none_iff (r : Row) (column : String) : r.get? column = none ↔ column ∉ r.columns := by
  rw [get?, List.lookup_eq_none_iff, columns, List.mem_map, not_exists]
  refine forall_congr' fun c => ?_
  rw [not_and, bne_iff_ne]
  exact imp_congr_right fun _ => ne_comm

/-! ## 2. One push after the other -/

/-- `r` holds `pushes`: its columns are the names that were pushed, each once and in the order of the first
    time, with the value of the last. -/
structure Keeps (r : Row) (pushes : List (String × Scalar)) : Prop where
  distinct : r.columns.Nodup
  names (column : String) : column ∈ r.columns ↔ column ∈ pushes.map Prod.fst
  order (a b : String) : a ∈ r.columns → b ∈ r.columns →
    (r.columns.idxOf a < r.columns.idxOf b ↔
      (pushes.map Prod.fst).idxOf a < (pushes.map Prod.fst).idxOf b)
  last (column : String) (v : Scalar) : r.get? column = some v ↔
    ∃ before after, pushes = before ++ (column, v) :: after ∧ column ∉ after.map Prod.fst

/-- Before one more push another one came, or it is that push itself and came last. -/
theorem concat_eq_iff {pushes before after : List (String × Scalar)} {p q : String × Scalar} :
    pushes ++ [p] = before ++ q :: after ↔
      before = pushes ∧ q = p ∧ after = [] ∨
        ∃ between, after = between ++ [p] ∧ pushes = before ++ q :: between := by
  rcases List.eq_nil_or_concat' after with rfl | ⟨between, last, rfl⟩
  · constructor
    · intro same
      obtain ⟨front, back⟩ := List.append_inj' same rfl
      exact .inl ⟨front.symm, (List.cons.inj back).1.symm, rfl⟩
    · rintro (⟨rfl, rfl, -⟩ | ⟨between, none, -⟩)
      · rfl
      · simp at none
  · have behind : before ++ q :: (between ++ [last]) = (before ++ q :: between) ++ [last] := by
      rw [List.append_assoc, List.cons_append]
    rw [behind]
    constructor
    · intro same
      obtain ⟨front, back⟩ := List.append_inj' same rfl
      exact .inr ⟨between, by rw [(List.cons.inj back).1], front⟩
    · rintro (⟨-, -, none⟩ | ⟨between', same, rfl⟩)
      · simp at none
      · obtain ⟨rfl, back⟩ := List.append_inj' same rfl
        rw [(List.cons.inj back).1]

/-- The place of a name where a new one is put at the end. -/
theorem idxOf_concat {names : List String} {name : String} (new : column ∉ names)
    (among : name ∈ names ++ [column]) :
    (names ++ [column]).idxOf name = if name = column then names.length else names.idxOf name := by
  split_ifs with here
  · rw [here, List.idxOf_append_of_notMem new, List.idxOf_cons_self, Nat.add_zero]
  · rw [List.mem_append, List.mem_singleton] at among
    exact List.idxOf_append_of_mem (among.resolve_right here)

/-- Behind all others stands a new name that is put at the end; the others stand as they did. -/
theorem idxOf_lt_concat_iff {names : List String} {a b : String} (new : column ∉ names)
    (ha : a ∈ names ++ [column]) (hb : b ∈ names ++ [column]) :
    (names ++ [column]).idxOf a < (names ++ [column]).idxOf b ↔
      a ≠ column ∧ (b = column ∨ names.idxOf a < names.idxOf b) := by
  have within {name : String} (among : name ∈ names ++ [column]) (other : name ≠ column) :
      names.idxOf name < names.length := by
    rw [List.mem_append, List.mem_singleton] at among
    exact List.idxOf_lt_length_iff.2 (among.resolve_right other)
  rw [idxOf_concat new ha, idxOf_concat new hb]
  split_ifs with last last' last'
  · exact iff_of_false (lt_irrefl _) fun first => first.1 last
  · exact iff_of_false (lt_asymm (within hb last')) fun first => first.1 last
  · exact iff_of_true (within ha last) ⟨last, .inl last'⟩
  · rw [and_iff_right last, or_iff_right last']

/-- **A push is held as well**: its name stands at the end if it is new, and where it was otherwise. -/
theorem Keeps.push {r : Row} {pushes : List (String × Scalar)} (keeps : Keeps r pushes) (column : String)
    (v : Scalar) : Keeps (r.push column v) (pushes ++ [(column, v)]) where
  distinct := by
    rw [columns_push]
    split_ifs with old
    · exact keeps.distinct
    · exact keeps.distinct.append (List.nodup_singleton column) (List.disjoint_singleton.2 old)
  names name := by
    rw [columns_push, List.map_append, List.mem_append, ← keeps.names name]
    split_ifs with old
    · constructor
      · exact .inl
      · rintro (among | here)
        · exact among
        · rw [List.mem_singleton.1 here]
          exact old
    · exact List.mem_append
  order a b ha hb := by
    rw [columns_push] at ha hb ⊢
    rw [List.map_append]
    split_ifs at ha hb ⊢ with old
    · rw [List.idxOf_append_of_mem ((keeps.names a).1 ha), List.idxOf_append_of_mem ((keeps.names b).1 hb)]
      exact keeps.order a b ha hb
    · have pushed {name : String} (among : name ∈ r.columns ++ [column]) :
          name ∈ pushes.map Prod.fst ++ [column] := by
        rwa [List.mem_append, ← keeps.names name, ← List.mem_append]
      have earlier {name : String} (among : name ∈ r.columns ++ [column]) (other : name ≠ column) :
          name ∈ r.columns := by
        rw [List.mem_append, List.mem_singleton] at among
        exact among.resolve_right other
      rw [idxOf_lt_concat_iff old ha hb, List.map_singleton,
        idxOf_lt_concat_iff (mt (keeps.names column).2 old) (pushed ha) (pushed hb)]
      exact and_congr_right fun first => or_congr_right' fun second =>
        keeps.order a b (earlier ha first) (earlier hb second)
  last name w := by
    rw [get?_push]
    simp only [concat_eq_iff]
    by_cases here : name = column
    · subst here
      rw [if_pos rfl]
      constructor
      · intro same
        exact ⟨pushes, [], .inl ⟨rfl, by rw [Option.some.inj same], rfl⟩, List.not_mem_nil⟩
      · rintro ⟨before, after, ⟨-, same, -⟩ | ⟨between, rfl, -⟩, absent⟩
        · rw [(Prod.mk.inj same).2]
        · simp at absent
    · rw [if_neg here, keeps.last]
      constructor
      · rintro ⟨before, after, split, absent⟩
        exact ⟨before, after ++ [(column, v)], .inr ⟨after, rfl, split⟩, by simpa [here] using absent⟩
      · rintro ⟨before, after, ⟨-, same, -⟩ | ⟨between, rfl, split⟩, absent⟩
        · exact absurd (Prod.mk.inj same).1 here
        · exact ⟨before, between, split, fun among => absent (by simp [among])⟩

theorem keeps_empty : Keeps empty [] where
  distinct := List.nodup_nil
  names _ := Iff.rfl
  order _ _ ha _ := nomatch ha
  last column v := by
    constructor
    · intro found
      cases found
    · rintro ⟨before, after, none, -⟩
      simp at none

/-- **A row holds all that was pushed.** -/
theorem keeps_ofList (pushes : List (String × Scalar)) : Keeps (ofList pushes) pushes := by
  induction pushes using List.reverseRecOn with
  | nil => exact keeps_empty
  | append_singleton pushes p ih =>
    rw [ofList, List.foldl_append]
    exact ih.push p.1 p.2

/-- **The columns of a row have different names**, whatever was pushed. -/
theorem nodup_columns (pushes : List (String × Scalar)) : (ofList pushes).columns.Nodup :=
  (keeps_ofList pushes).distinct

/-- There are as many columns as different names were pushed. -/
theorem Keeps.size {r : Row} {pushes : List (String × Scalar)} (keeps : Keeps r pushes) :
    r.size = (pushes.map Prod.fst).toFinset.card := by
  have same : r.columns.toFinset = (pushes.map Prod.fst).toFinset := by
    ext name
    rw [List.mem_toFinset, List.mem_toFinset, keeps.names name]
  rw [← same, List.toFinset_card_of_nodup keeps.distinct, columns, List.length_map, Row.size]

/-- Columns stay where they are when one is pushed. -/
theorem columns_prefix_push (r : Row) (column : String) (v : Scalar) :
    r.columns <+: (r.push column v).columns := by
  rw [columns_push]
  split_ifs
  · exact List.prefix_rfl
  · exact List.prefix_append _ _

/-- **A row is a map in the order of insertion.** `ofList pushes` `Keeps` what was pushed: its columns are
    the names that were pushed, each once and in the order in which they first were, and `get?` gives what
    was last pushed under a name. It has as many columns as names were pushed, and nothing under a name that
    was not. One more `push` leaves what stands under all other names, and the columns where they are. -/
theorem insertion_order (pushes : List (String × Scalar)) :
    Keeps (ofList pushes) pushes ∧
      (ofList pushes).size = (pushes.map Prod.fst).toFinset.card ∧
      (∀ column, (ofList pushes).get? column = none ↔ column ∉ pushes.map Prod.fst) ∧
      ∀ column v,
        (∀ other, other ≠ column → ((ofList pushes).push column v).get? other = (ofList pushes).get? other) ∧
          (ofList pushes).columns <+: ((ofList pushes).push column v).columns := by
  have keeps := keeps_ofList pushes
  refine ⟨keeps, keeps.size, fun column => ?_, fun column v => ⟨fun other differs => ?_, ?_⟩⟩
  · rw [get?_eq_none_iff, keeps.names column]
  · rw [get?_push, if_neg differs]
  · exact columns_prefix_push _ column v

/-- What is pushed for a car whose brand is said twice. -/
def car : List (String × Scalar) :=
  [("id", .int 7), ("Brand", .text "Tesla"), ("Brand", .text "BMW"), ("FastCharge_KmH", .null)]

/-- The second brand counts, and another number does not change it. -/
theorem insertion_order_car :
    (ofList car).get? "Brand" = some (.text "BMW") ∧ (ofList car).size = 3 ∧
      ((ofList car).push "id" (.int 8)).get? "Brand" = some (.text "BMW") := by
  obtain ⟨keeps, size, -, push⟩ := insertion_order car
  have brand := (keeps.last "Brand" (.text "BMW")).2
    ⟨[("id", .int 7), ("Brand", .text "Tesla")], [("FastCharge_KmH", .null)], rfl, by decide⟩
  exact ⟨brand, size.trans (by decide), ((push "id" (.int 8)).1 "Brand" (by decide)).trans brand⟩

/-! ## 3. Columns with different names -/

theorem foldl_push {before cells : List (String × Scalar)}
    (nodup : ((before ++ cells).map Prod.fst).Nodup) :
    cells.foldl (fun (r : Row) c => r.push c.1 c.2) ⟨before⟩ = ⟨before ++ cells⟩ := by
  induction cells generalizing before with
  | nil => rw [List.append_nil]; rfl
  | cons c rest ih =>
    have new : c.1 ∉ before.map Prod.fst := by
      rw [List.map_append, List.map_cons] at nodup
      exact fun old => (List.nodup_append.1 nodup).2.2 _ old _ List.mem_cons_self rfl
    have pushed : push ⟨before⟩ c.1 c.2 = ⟨before ++ [c]⟩ := by rw [push, put_of_notMem c.2 new]
    rw [List.append_cons] at nodup ⊢
    rw [List.foldl_cons, pushed, ih nodup]

/-- A row of columns with different names has these columns in order. -/
theorem ofList_of_nodup (nodup : (cells.map Prod.fst).Nodup) : ofList cells = ⟨cells⟩ :=
  foldl_push nodup

end Dataset.Row
