import Dataset.Proofs.Course
import Dataset.Proofs.Gateway.Listing

/-!
# Three ways to read

A row can be read in the list of all rows, by its key, and in the list of those whose key equals a text.
In every store that operations lead to, the three agree.

* `get_of_record`, `delete_of_record`, `list_keyEquals`: each way says what the table has under the key;
* `record_of_get`, `record_of_list`: no row is read but those of records;
* **`reads_agree`**: so they agree, and the rows are listed in the order of their keys.
-/

namespace Dataset.Gateway

open Dataset.Filter (Descriptor hasContent written maxBytes)
open Store (Table Record Operation Change)

/-! ## 1. By the key -/

variable {s : Store} {table : String} {t : Table}

/-- By a key the row of the record is given that the text asks for, if there is one. -/
theorem get_of_record (k : s.Sound) (present : s.database.table? table = some t) (x : String) :
    get s table x =
      match t.recordOf? x with
      | some r => .ok (t.row r)
      | none => .error .notFound := by
  rw [get, Store.get_of_table? k.isOpen present (k.tables table t present).toIsDataset]
  cases t.recordOf? x <;> rfl

/-- By a key the record is removed that the text asks for, if there is one. -/
theorem delete_of_record (k : s.Sound) (present : s.database.table? table = some t) (x : String) :
    delete s table x =
      match t.recordOf? x with
      | some r => .ok { s with database := s.database.replace table (t.remove [r].contains) }
      | none => .error .notFound := by
  rw [delete, Store.delete_of_table? k.isOpen present (k.tables table t present).toIsDataset]
  cases t.recordOf? x <;> rfl

/-- The filter that the key equals a text. -/
def keyEquals (x : String) (given : hasContent (some x) = true) : Descriptor :=
  ⟨Sql.keyColumn, .equals, some x, by decide, fun _ => given⟩

/-- With the filter that the key equals a text, the row of the record is listed that the text asks
    for, if there is one. -/
theorem list_keyEquals (k : s.Sound) (present : s.database.table? table = some t) {x : String}
    {given : hasContent (some x) = true} {payload : String}
    (parsed : Filter.parse payload = .ok [keyEquals x given]) :
    list s table (some payload) none = .ok ((t.recordOf? x).toList.map t.row) := by
  have dataset := (k.tables table t present).toIsDataset
  have live : ∀ d ∈ [keyEquals x given], d.field ∈ t.columnNames := by
    intro d hd
    rw [List.mem_singleton.1 hd]
    exact dataset.key_live
  have compiled : Filter.compile [keyEquals x given] none (searchedColumns t) = Store.keyIs x := rfl
  have parsed' : Filter.parse ((some payload).getD "") = .ok [keyEquals x given] := parsed
  rw [list_live k.isOpen present parsed' live none, compiled, dataset.select_keyIs]

/-- Every row that is given by a key is that of a record, in a table of any kind. -/
theorem record_of_get (isOpen : s.isOpen = true) (present : s.database.table? table = some t)
    {x : String} {row : Row} (given : get s table x = .ok row) : ∃ r ∈ t.records, row = t.row r := by
  rw [get, Store.get_of_any_table isOpen present] at given
  split_ifs at given with known
  · cases having : t.records.filter (t.hasKey x) with
    | nil =>
      rw [having] at given
      cases given
    | cons r rest =>
      rw [having] at given
      have among : r ∈ t.records := List.mem_of_mem_filter (having ▸ List.mem_cons_self)
      exact ⟨r, among, (Except.ok.inj given).symm⟩
  · cases given

theorem exists_record_of_get (k : s.Sound) (present : s.database.table? table = some t) {x : String}
    {row : Row} (given : get s table x = .ok row) : ∃ r ∈ t.records, row = t.row r :=
  record_of_get k.isOpen present given

/-! ## 2. In a list -/

/-- Every row that is listed is that of a record, whatever is asked for. -/
theorem record_of_list (isOpen : s.isOpen = true) (present : s.database.table? table = some t)
    {filters search : Option String} {rows : List Row}
    (listed : list s table filters search = .ok rows) :
    ∀ row ∈ rows, ∃ r ∈ t.records, row = t.row r := by
  cases parsed : Filter.parse (filters.getD "") with
  | error e =>
    rw [list_malformed parsed] at listed
    cases listed
  | ok ds =>
    by_cases live : ∀ d ∈ ds, d.field ∈ t.columnNames
    · rcases list_cases isOpen present parsed live search with ⟨failed, -⟩ | ⟨answer, -⟩
      · rw [failed] at listed
        cases listed
      · obtain rfl := Except.ok.inj (answer.symm.trans listed)
        intro row among
        obtain ⟨r, selected, rfl⟩ := List.mem_map.1 among
        exact ⟨r, List.mem_of_mem_filter selected, rfl⟩
    · obtain ⟨d, -, -, refused⟩ := list_unknown isOpen present parsed live search
      rw [refused] at listed
      cases listed

theorem exists_record_of_list (k : s.Sound) (present : s.database.table? table = some t)
    {filters search : Option String} {rows : List Row}
    (listed : list s table filters search = .ok rows) :
    ∀ row ∈ rows, ∃ r ∈ t.records, row = t.row r :=
  record_of_list k.isOpen present listed

/-! ## 3. Agreement -/

/-- **`list`, `get` and the filter `keyEquals` agree** in every store that a run of operations reached from
    `Store.fresh`. `list` gives all rows in the order of their keys, which are different integers, and `get`
    gives each row by the text of its key. For every `x` that is not blank, `get` gives a row exactly if
    `keyEquals x` lists this row alone, and `notFound` exactly if it lists none. The filter can be written
    for every `x` for which its text does not exceed `maxBytes`. -/
theorem reads_agree (operations : List Operation) {table : String} {t : Table}
    (present : (Store.fresh.run operations).database.table? table = some t) :
    let s := Store.fresh.run operations
    ∃ (rows : List Row) (numbers : List Int), list s table none none = .ok rows ∧
      rows.map (·.get? Sql.keyColumn) = numbers.map (fun n => some (.int n)) ∧
      numbers.Pairwise (· < ·) ∧
      (∀ row ∈ rows, ∀ n, row.get? Sql.keyColumn = some (.int n) →
        get s table (Text.ofInt n) = .ok row) ∧
      ∀ x (given : hasContent (some x) = true),
        ((written Sql.keyColumn .equals (some x)).utf8ByteSize ≤ maxBytes →
          Filter.parse (written Sql.keyColumn .equals (some x)) = .ok [keyEquals x given]) ∧
        ∀ payload, Filter.parse payload = .ok [keyEquals x given] →
          (∀ row, get s table x = .ok row ↔ list s table (some payload) none = .ok [row]) ∧
          (get s table x = .error .notFound ↔ list s table (some payload) none = .ok []) := by
  intro s
  have k : s.Sound := Store.sound_run operations
  have sound := k.tables table t present
  have keys : (t.records.map t.row).map (·.get? Sql.keyColumn) =
      (t.records.map Record.number).map (fun n => some (.int n)) := by
    rw [List.map_map, List.map_map]
    exact List.map_congr_left fun r among => sound.get?_key among
  refine ⟨t.records.map t.row, t.records.map Record.number, list_all k.isOpen present, keys,
    List.pairwise_map.2 t.sorted, fun row listed n key => ?_, fun x given => ⟨fun short => ?_, ?_⟩⟩
  · obtain ⟨r, among, rfl⟩ := List.mem_map.1 listed
    obtain rfl : r.number = n := by simpa [sound.get?_key among] using key
    rw [get_of_record k present, sound.recordOf?_ofInt among]
  · exact Filter.parse_written (keyEquals x given) short
  · intro payload parsed
    rw [get_of_record k present, list_keyEquals k present parsed]
    cases t.recordOf? x <;> simp

/-- A table of two cars, the first of which has been removed: the other is given by its key in another
    spelling, and the removed one by none. -/
theorem reads_agree_showroom :
    let operations : List Operation :=
      [.change (.shape "cars" ["Brand"]), .load "cars" (Text.Utf8.encode "Brand\nx\ny\n".toList),
        .change (.delete "cars" "1")]
    let s := Store.fresh.run operations
    let row : Row := ⟨[("id", .int 2), ("Brand", .text "y")]⟩
    ∃ t, s.database.table? "cars" = some t ∧
      list s "cars" (some (written Sql.keyColumn .equals (some " 2.0"))) none = .ok [row] ∧
      get s "cars" " 2.0" = .ok row ∧ get s "cars" "1" = .error .notFound := by
  intro operations s row
  let t : Table := ⟨"cars", [⟨Sql.keyColumn, .key⟩, .numeric "Brand"], true, 2,
    [⟨2, [.null, .text "y"]⟩], by decide, by decide, by unfold Store.Distinct; decide, by decide,
    by decide⟩
  have present : s.database.table? "cars" = some t := by decide +kernel
  obtain ⟨rows, numbers, -, -, -, -, agree⟩ := reads_agree operations present
  have asked {x : String} (given : hasContent (some x) = true)
      (short : (written Sql.keyColumn .equals (some x)).utf8ByteSize ≤ maxBytes) :=
    (agree x given).2 _ ((agree x given).1 short)
  have listed : list s "cars" (some (written Sql.keyColumn .equals (some " 2.0"))) none =
      .ok [row] := eq_ok_of_toOption (by decide +kernel)
  have unlisted : list s "cars" (some (written Sql.keyColumn .equals (some "1"))) none = .ok [] :=
    eq_ok_of_toOption (by decide +kernel)
  exact ⟨t, present, listed, ((asked (by decide) (by decide +kernel)).1 row).2 listed,
    (asked (by decide) (by decide +kernel)).2.2 unlisted⟩

end Dataset.Gateway
