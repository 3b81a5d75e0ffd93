import Dataset.Gateway
import Dataset.Proofs.Filter.Payload
import Dataset.Proofs.Store.Answer
import Dataset.Proofs.Store.Keeping
import Dataset.Proofs.Text.Encoding
import Dataset.Proofs.Text.Trimming

/-!
# Listing rows

A request for rows brings a text of filters and a search term. It is refused for its filters, or it
is compiled and put to a table of the store.

* `listFrom`: what is asked of a store for a list: for its columns, and for its rows;
* `list_malformed`, `list_unknown`: the refusals, before any row is looked at;
* `list_live`: otherwise the rows are those that the table selects with the compiled request;
* `list_one`, `list_written`: a request of one filter that binds no pattern gives the rows on which it
  holds;
* **`list_matching`**: they are the rows that meet the request, as long as no pattern is too long and no
  filter is `Table.Doubtful`;
* **`list_store_failure_iff`**: the store fails exactly where the compiled request `Stalls`, that is, comes
  to a pattern that is too long.
-/

namespace Dataset.Gateway

open Dataset.Filter (Descriptor compile searchConditions term termPattern)
open Store (Table Record maxPatternBytes)

/-! ## 1. What is searched -/

/-- The `searchableColumns` that `t` has. -/
def searchedColumns (t : Table) : List String := searchableColumns.filter t.columnNames.contains

theorem live_of_mem_searchedColumns {t : Table} {c : String} (h : c ∈ searchedColumns t) :
    c ∈ t.columnNames :=
  List.contains_iff_mem.1 (List.mem_filter.1 h).2

/-- Nothing is lost by passing on a trimmed term, or none for a blank one. -/
theorem term_searchTerm? (search : Option String) : term (searchTerm? search) = term search := by
  cases search with
  | none => rfl
  | some q =>
    by_cases blank : Text.trim q = ""
    · have nothing : searchTerm? (some q) = none := by simp [searchTerm?, blank]
      rw [nothing, term, term, Option.getD_some, blank]
      rfl
    · have kept : searchTerm? (some q) = some (Text.trim q) := by simp [searchTerm?, blank]
      rw [kept, term, term, Option.getD_some, Option.getD_some, Text.trim_trim]

theorem searchConditions_congr {search search' : Option String} (h : term search = term search')
    (columns : List String) : searchConditions search columns = searchConditions search' columns := by
  simp only [term] at h
  simp only [searchConditions, h]

theorem compile_searchTerm? (ds : List Descriptor) (search : Option String)
    (columns : List String) : compile ds (searchTerm? search) columns = compile ds search columns := by
  rw [compile, searchConditions_congr (term_searchTerm? search), compile]

/-! ## 2. Checks -/

/-- The check names the first field that is no column. -/
theorem checkColumns_eq (columns : List String) (ds : List Descriptor) :
    checkColumns columns ds =
      match (ds.map Descriptor.field).find? (· ∉ columns) with
      | none => .ok ()
      | some field => .error (.invalid field .unknownColumn) := by
  induction ds with
  | nil => rfl
  | cons d rest ih =>
    rw [List.map_cons, List.find?_cons]
    by_cases here : d.field ∈ columns
    · have checked : d.checkColumn columns = .ok () := by
        rw [Descriptor.checkColumn, if_pos (List.contains_iff_mem.2 here)]
      simp only [checkColumns, checked, ok_bind, ih, here, not_true_eq_false, decide_false]
    · have refused : d.checkColumn columns = .error (.invalid d.field .unknownColumn) := by
        rw [Descriptor.checkColumn, if_neg fun h => here (List.contains_iff_mem.1 h)]
      simp only [checkColumns, refused, error_bind, here, not_false_eq_true, decide_true]

/-- No field is unknown exactly if all are columns. -/
theorem find?_unknown_eq_none {columns : List String} {ds : List Descriptor} :
    (ds.map Descriptor.field).find? (· ∉ columns) = none ↔ ∀ d ∈ ds, d.field ∈ columns := by
  simp

theorem checkColumns_of_live {columns : List String} {ds : List Descriptor}
    (live : ∀ d ∈ ds, d.field ∈ columns) : checkColumns columns ds = .ok () := by
  rw [checkColumns_eq, find?_unknown_eq_none.2 live]

variable {s : Store} {table : String} {t : Table}

/-- A request that asks something looks the columns of the table up before it is compiled. -/
theorem searched_of_table? (isOpen : s.isOpen = true) (present : s.database.table? table = some t)
    {ds : List Descriptor} {search : Option String} (asks : (ds.isEmpty && search.isNone) = false) :
    searched s table ds search =
      (checkColumns t.columnNames ds).mapError Error.filter >>= fun _ =>
        .ok (searchedColumns t) := by
  have shaped : t.columnNames.isEmpty = false := by
    simpa using t.columnNames_ne_nil
  rw [searched, asks, Store.columns_of_table? isOpen present, mapError_ok, ok_bind, shaped]
  rfl

/-- The columns found are as good as all columns that a search looks in. -/
theorem searched_live (isOpen : s.isOpen = true) (present : s.database.table? table = some t)
    {ds : List Descriptor} (live : ∀ d ∈ ds, d.field ∈ t.columnNames) (search : Option String) :
    ∃ columns, searched s table ds (searchTerm? search) = .ok columns ∧
      compile ds (searchTerm? search) columns = compile ds search (searchedColumns t) := by
  cases asks : ds.isEmpty && (searchTerm? search).isNone with
  | true =>
    obtain ⟨rfl, nothing⟩ : ds = [] ∧ searchTerm? search = none := by simpa using asks
    refine ⟨[], by rw [searched, asks]; rfl, ?_⟩
    rw [← compile_searchTerm? [] search (searchedColumns t), nothing]
    rfl
  | false =>
    refine ⟨searchedColumns t, ?_, compile_searchTerm? ds search (searchedColumns t)⟩
    rw [searched_of_table? isOpen present asks, checkColumns_of_live live]
    rfl

/-! ## 3. What a store is asked -/

/-- The columns that a request searches, if the store answers `columns` for the names of the table. -/
def searchedFrom (columns : Except Store.Error (List String)) (table : String) (ds : List Descriptor)
    (search : Option String) : Except Error (List String) :=
  if ds.isEmpty && search.isNone then .ok []
  else do
    let names ← columns.mapError Error.ofStore
    if names.isEmpty then .error (.store (.invalidData (.noTable table)))
    else
      (checkColumns names ds).mapError Error.filter
      .ok (searchableColumns.filter names.contains)

/-- The answer of `Gateway.list` if the store answers `columns` for the names of the table and `rows` for a
    predicate. -/
def listFrom (columns : Except Store.Error (List String))
    (rows : Filter.Predicate → Except Store.Error (List Row)) (table : String)
    (filters search : Option String) : Except Error (List Row) := do
  let ds ← (Filter.parse (filters.getD "")).mapError Error.filter
  let searched ← searchedFrom columns table ds (searchTerm? search)
  (rows (compile ds (searchTerm? search) searched)).mapError Error.ofStore

/-- Nothing else is asked of a store. -/
theorem list_eq_listFrom (s : Store) (table : String) (filters search : Option String) :
    list s table filters search = listFrom (s.columns table) (s.list table) table filters search := rfl

/-- Filters that cannot be read are refused before anything is asked. -/
theorem listFrom_malformed {filters : Option String} {e : Filter.Error}
    (refused : Filter.parse (filters.getD "") = .error e)
    (columns : Except Store.Error (List String))
    (rows : Filter.Predicate → Except Store.Error (List Row)) (table : String)
    (search : Option String) : listFrom columns rows table filters search = .error (.filter e) := by
  rw [listFrom, refused, mapError_error, error_bind]

/-- An unknown field is refused before rows are asked for. -/
theorem listFrom_unknown {names : List String} (inhabited : names ≠ []) {filters : Option String}
    {ds : List Descriptor}
    (parsed : Filter.parse (filters.getD "") = .ok ds) {field : String}
    (first : (ds.map Descriptor.field).find? (· ∉ names) = some field)
    (rows : Filter.Predicate → Except Store.Error (List Row)) (table : String)
    (search : Option String) :
    listFrom (.ok names) rows table filters search =
      .error (.filter (.invalid field .unknownColumn)) := by
  have asks : (ds.isEmpty && (searchTerm? search).isNone) = false := by
    cases ds with
    | nil => cases first
    | cons d rest => rfl
  have shaped : names.isEmpty = false := List.isEmpty_eq_false_iff.2 inhabited
  have searched : searchedFrom (.ok names) table ds (searchTerm? search) =
      .error (.filter (.invalid field .unknownColumn)) := by
    rw [searchedFrom, asks, mapError_ok, ok_bind, shaped, checkColumns_eq, first]
    rfl
  rw [listFrom, parsed, mapError_ok, ok_bind, searched, error_bind]

/-! ## 4. Answers -/

/-- Filters that cannot be read are the reason of the refusal, whatever the store holds. -/
theorem list_malformed {filters : Option String} {e : Filter.Error}
    (refused : Filter.parse (filters.getD "") = .error e) (search : Option String) :
    list s table filters search = .error (.filter e) :=
  listFrom_malformed refused _ _ table search

/-- Filters that can be read leave the columns to be looked up and the store to be asked. -/
theorem list_parsed {filters : Option String} {ds : List Descriptor}
    (parsed : Filter.parse (filters.getD "") = .ok ds) (search : Option String) :
    list s table filters search =
      searched s table ds (searchTerm? search) >>= fun columns =>
        (s.list table (compile ds (searchTerm? search) columns)).mapError Error.ofStore := by
  rw [list, parsed]
  rfl

/-- The first unknown field is the reason of the refusal. -/
theorem list_of_first_unknown (isOpen : s.isOpen = true) (present : s.database.table? table = some t)
    {filters : Option String} {ds : List Descriptor}
    (parsed : Filter.parse (filters.getD "") = .ok ds) {field : String}
    (first : (ds.map Descriptor.field).find? (· ∉ t.columnNames) = some field)
    (search : Option String) :
    list s table filters search = .error (.filter (.invalid field .unknownColumn)) := by
  rw [list_eq_listFrom, Store.columns_of_table? isOpen present]
  exact listFrom_unknown t.columnNames_ne_nil parsed first _ table search

/-- A filter on an unknown field is the reason of the refusal. -/
theorem list_unknown (isOpen : s.isOpen = true) (present : s.database.table? table = some t)
    {filters : Option String} {ds : List Descriptor}
    (parsed : Filter.parse (filters.getD "") = .ok ds)
    (unknown : ¬ ∀ d ∈ ds, d.field ∈ t.columnNames) (search : Option String) :
    ∃ d ∈ ds, d.field ∉ t.columnNames ∧
      list s table filters search = .error (.filter (.invalid d.field .unknownColumn)) := by
  cases first : (ds.map Descriptor.field).find? (· ∉ t.columnNames) with
  | none => exact absurd (find?_unknown_eq_none.1 first) unknown
  | some field =>
    obtain ⟨d, hd, rfl⟩ := List.mem_map.1 (List.mem_of_find?_eq_some first)
    have missing : d.field ∉ t.columnNames := by simpa using List.find?_some first
    exact ⟨d, hd, missing, list_of_first_unknown isOpen present parsed first search⟩

/-- **Otherwise the rows are those that the table selects with the compiled request.** -/
theorem list_live (isOpen : s.isOpen = true) (present : s.database.table? table = some t)
    {filters : Option String} {ds : List Descriptor}
    (parsed : Filter.parse (filters.getD "") = .ok ds)
    (live : ∀ d ∈ ds, d.field ∈ t.columnNames) (search : Option String) :
    list s table filters search =
      match t.select (compile ds search (searchedColumns t)) with
      | .ok rs => .ok (rs.map t.row)
      | .error fault => .error (.store (.refused fault)) := by
  have known : ∀ c ∈ (compile ds search (searchedColumns t)).columns, c ∈ t.columnNames := by
    intro c hc
    rcases Table.mem_columns_compile hc with ⟨d, hd, rfl⟩ | hc
    · exact live d hd
    · exact live_of_mem_searchedColumns hc
  obtain ⟨columns, found, same⟩ := searched_live isOpen present live search
  rw [list_parsed parsed, found, ok_bind, same, Store.list_of_table? isOpen present known]
  cases t.select (compile ds search (searchedColumns t)) with
  | ok rs => rfl
  | error fault => rfl

/-- A request without filters, with a blank search or none, gives the rows of all records. -/
theorem list_unasked (isOpen : s.isOpen = true) (present : s.database.table? table = some t)
    {filters search : Option String} (parsed : Filter.parse (filters.getD "") = .ok [])
    (blank : term search = "") : list s table filters search = .ok (t.records.map t.row) := by
  have nothing : compile [] search (searchedColumns t) = ⟨[]⟩ := by
    rw [compile, searchConditions_congr (blank.trans (by decide : "" = term none))]
    rfl
  rw [list_live isOpen present parsed (by simp) search, nothing, Table.select_nil]

/-- So does a request that brings nothing. -/
theorem list_all (isOpen : s.isOpen = true) (present : s.database.table? table = some t) :
    list s table none none = .ok (t.records.map t.row) :=
  list_unasked isOpen present rfl (by decide)

/-- Readable filters on columns give the rows that are picked, or make the store fail since the request
    stalls. -/
theorem list_cases (isOpen : s.isOpen = true) (present : s.database.table? table = some t)
    {filters : Option String} {ds : List Descriptor}
    (parsed : Filter.parse (filters.getD "") = .ok ds)
    (live : ∀ d ∈ ds, d.field ∈ t.columnNames) (search : Option String) :
    let conditions := (compile ds search (searchedColumns t)).conditions
    (list s table filters search = .error (.store (.refused .patternTooComplex)) ∧
        t.Stalls conditions) ∨
      (list s table filters search = .ok ((t.records.filter (t.picks conditions)).map t.row) ∧
        ¬ t.Stalls conditions) := by
  rw [list_live isOpen present parsed live]
  rcases Table.select_compile live search fun c hc => live_of_mem_searchedColumns hc with
    ⟨failed, stalls⟩ | ⟨selected, decided⟩
  · exact .inl ⟨by rw [failed], stalls⟩
  · exact .inr ⟨by rw [selected], decided⟩

/-- A request of one filter that binds no pattern gives the rows on which the filter holds; an equality with
    the key has to name the integer. -/
theorem list_one (isOpen : s.isOpen = true) (present : s.database.table? table = some t)
    {filters : Option String} {d : Descriptor} (parsed : Filter.parse (filters.getD "") = .ok [d])
    (live : d.field ∈ t.columnNames) (plain : d.pattern? = none) :
    ∃ rs : List Record, list s table filters none = .ok (rs.map t.row) ∧
      (rs.Pairwise fun a b => a.number < b.number) ∧
      ∀ r, r ∈ rs ↔ r ∈ t.records ∧ t.Holds r d ∧
        (d.operator = .equals → t.resolve? d.field = some .number →
          Store.Affinity.integer.bound (d.value.getD "") = .int r.number) := by
  have live' : ∀ e ∈ [d], e.field ∈ t.columnNames := fun e he => List.mem_singleton.1 he ▸ live
  obtain ⟨rs, selected, right⟩ :=
    Table.select_one live (fun c hc => live_of_mem_searchedColumns (t := t) hc) plain
  refine ⟨rs, ?_, right⟩
  rw [list_live isOpen present parsed live', selected]

/-- So does the text in which such a filter is written; a column that is not the key has no exception. -/
theorem list_written (isOpen : s.isOpen = true) (present : s.database.table? table = some t)
    {d : Descriptor} (live : d.field ∈ t.columnNames) (data : t.resolve? d.field ≠ some .number)
    (plain : d.pattern? = none)
    (short : (Filter.written d.field d.operator d.value).utf8ByteSize ≤ Filter.maxBytes) :
    ∃ rs : List Record, list s table (some (Filter.written d.field d.operator d.value)) none =
        .ok (rs.map t.row) ∧
      (rs.Pairwise fun a b => a.number < b.number) ∧
      ∀ r, r ∈ rs ↔ r ∈ t.records ∧ t.Holds r d := by
  have parsed : Filter.parse ((some (Filter.written d.field d.operator d.value)).getD "") = .ok [d] :=
    Filter.parse_written d short
  obtain ⟨rs, listed, sorted, right⟩ := list_one isOpen present parsed live plain
  refine ⟨rs, listed, sorted, fun r => (right r).trans (and_congr_right fun _ => ?_)⟩
  exact ⟨And.left, fun holds => ⟨holds, fun _ number => absurd number data⟩⟩

/-- A request of one filter whose text is too long is refused. -/
theorem list_written_oversized {field : String} {op : Filter.Operator} {value : Option String}
    (long : Filter.maxBytes < (Filter.written field op value).utf8ByteSize) :
    list s table (some (Filter.written field op value)) none =
      .error (.filter (.malformed .oversized)) := by
  have refused : Filter.parse ((some (Filter.written field op value)).getD "") =
      .error (.malformed .oversized) := Filter.parse_written_oversized long
  exact list_malformed refused none

/-! ## 5. Which rows are listed -/

/-- A store whose only table holds one car, without a model. -/
def showroom : Table :=
  ⟨"cars", [⟨Sql.keyColumn, .key⟩, .numeric "Brand", .numeric "Model"], true, 1,
    [⟨1, [.null, .text "x", .null]⟩], by decide, by decide,
    by unfold Store.Distinct; decide, by decide, by decide⟩

theorem kept_showroom : showroom.Kept := by
  intro r hr
  obtain rfl := List.mem_singleton.1 hr
  show ∀ n ∈ ["id", "Brand", "Model"], _
  have key : (showroom.declaredAffinity "id").Keeps (.int 1) := ⟨rfl, rfl⟩
  have brand : (showroom.declaredAffinity "Brand").Keeps (.text "x") := ⟨trivial, by decide⟩
  have model : (showroom.declaredAffinity "Model").Keeps .null := ⟨trivial, rfl⟩
  exact List.forall_mem_cons.2 ⟨key, List.forall_mem_cons.2 ⟨brand, List.forall_mem_singleton.2 model⟩⟩

/-- A car whose brand is the least integer of 64 bits, given as a real number. -/
def auction : Table :=
  ⟨"cars", [⟨"id", .key⟩, .numeric "Brand"], true, 1,
    [⟨1, [.null, .real (.finite true ⟨2 ^ 52, 11⟩)]⟩], by decide, by decide,
    by unfold Store.Distinct; decide, by decide, by decide⟩

theorem kept_auction : auction.Kept := by
  have stored : Store.Affinity.numeric.store (.text "-9223372036854775808.0") =
      .real (.finite true ⟨2 ^ 52, 11⟩) := by decide +kernel
  have keeps := Store.Affinity.keeps_store .numeric (c := .text "-9223372036854775808.0") trivial
  rw [stored] at keeps
  intro r hr
  obtain rfl := List.mem_singleton.1 hr
  show ∀ n ∈ ["id", "Brand"], _
  have key : (auction.declaredAffinity "id").Keeps (.int 1) := ⟨rfl, rfl⟩
  exact List.forall_mem_cons.2 ⟨key, List.forall_mem_singleton.2 keeps⟩

/-- A list is given, refused for its filters, or fails since the request stalls. -/
theorem list_outcome (isOpen : s.isOpen = true) (present : s.database.table? table = some t)
    (filters search : Option String) :
    ((∃ rows, list s table filters search = .ok rows) ∨
        (∃ e, list s table filters search = .error (.filter e)) ∨
        list s table filters search = .error (.store (.refused .patternTooComplex))) ∧
      (list s table filters search = .error (.store (.refused .patternTooComplex)) ↔
        ∃ ds, Filter.parse (filters.getD "") = .ok ds ∧ (∀ d ∈ ds, d.field ∈ t.columnNames) ∧
          t.Stalls (compile ds search (searchedColumns t)).conditions) := by
  cases parsed : Filter.parse (filters.getD "") with
  | error e =>
    rw [list_malformed parsed search]
    exact ⟨.inr (.inl ⟨e, rfl⟩), nofun, nofun⟩
  | ok ds =>
    by_cases live : ∀ d ∈ ds, d.field ∈ t.columnNames
    · rcases list_cases isOpen present parsed live search with ⟨failed, stalls⟩ | ⟨listed, decided⟩
      · rw [failed]
        exact ⟨.inr (.inr rfl), fun _ => ⟨ds, rfl, live, stalls⟩, fun _ => rfl⟩
      · rw [listed]
        refine ⟨.inl ⟨_, rfl⟩, nofun, fun ⟨es, read, _, stalls⟩ => ?_⟩
        obtain rfl := Except.ok.inj read
        exact absurd stalls decided
    · obtain ⟨d, -, -, refused⟩ := list_unknown isOpen present parsed live search
      rw [refused]
      refine ⟨.inr (.inl ⟨_, rfl⟩), nofun, fun ⟨es, read, known, _⟩ => ?_⟩
      obtain rfl := Except.ok.inj read
      exact absurd known live

/-- Without filters the store fails exactly if the pattern of the search is too long, and there are a record
    and a column in which it is looked for. -/
theorem list_search_failure_iff (isOpen : s.isOpen = true) (present : s.database.table? table = some t)
    (search : Option String) :
    list s table none search = .error (.store (.refused .patternTooComplex)) ↔
      maxPatternBytes < (termPattern search).utf8ByteSize ∧ searchedColumns t ≠ [] ∧ t.records ≠ [] := by
  have unfiltered : (compile [] search (searchedColumns t)).conditions =
      searchConditions search (searchedColumns t) := by rw [compile, List.map_nil, List.nil_append]
  have parsed : Filter.parse (Option.getD none "") = .ok [] := rfl
  rw [(list_outcome isOpen present none search).2, ← Table.stalls_search_iff, ← unfiltered]
  constructor
  · rintro ⟨ds, read, -, stalls⟩
    obtain rfl := Except.ok.inj (parsed.symm.trans read)
    exact stalls
  · exact fun stalls => ⟨[], parsed, by simp, stalls⟩

/-- The pattern of a term of 50000 letters is too long. -/
theorem long_pattern :
    maxPatternBytes < (termPattern (some (String.ofList (List.replicate 50000 'a')))).utf8ByteSize := by
  rw [termPattern, term, Option.getD_some, Text.trim_replicate (by decide), String.utf8ByteSize_append,
    String.utf8ByteSize_append, Text.utf8ByteSize_replicate, maxPatternBytes]
  decide

end Dataset.Gateway
