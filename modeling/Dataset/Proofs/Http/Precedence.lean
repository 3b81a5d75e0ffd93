import Dataset.Proofs.Gateway.Listing
import Dataset.Proofs.Http.Answers
import Dataset.Proofs.Store.Key

/-!
# Which failure comes first

A request for rows may be refused for its text, for the state of the store, for a table that is missing and
for a field that no column has. They are told in this order, and the rows are looked at after all of them.

* `list_closed`, `list_missing`: failures of the store, whether anything is asked for or not;
* **`failures_in_order`**: all of them in their order.
-/

namespace Dataset

namespace Gateway

open Dataset.Filter (Descriptor compile term)

variable {s : Store} {table : String} {filters search : Option String} {ds : List Descriptor}

/-! ## 1. Failures of the store -/

/-- A blank search asks for nothing, as none does. -/
theorem searchTerm?_eq_none_iff : searchTerm? search = none ↔ term search = "" := by
  cases search with
  | none => simp [searchTerm?, term, show Text.trim "" = "" by decide]
  | some q => simp [searchTerm?, term]

/-- A closed store fails, whether its columns are asked for or its rows. -/
theorem list_closed (closed : s.isOpen = false) (parsed : Filter.parse (filters.getD "") = .ok ds)
    (search : Option String) :
    list s table filters search = .error (.store (.engine .poolClosed)) := by
  have unconnected : s.connect = .error (.engine .poolClosed) := by rw [Store.connect, closed]; rfl
  have columns : s.columns table = .error (.engine .poolClosed) := by
    rw [Store.columns, unconnected, error_bind]
  rw [list_parsed parsed, searched]
  split_ifs with unasked
  · rw [ok_bind, Store.list, Store.asked, unconnected]
    rfl
  · rw [columns]
    rfl

/-- Where there are no columns the store fails: for want of a table if something is asked for, and otherwise
    when the rows are. -/
theorem list_missing (nothing : s.columns table = .ok [])
    (parsed : Filter.parse (filters.getD "") = .ok ds) (search : Option String) :
    (ds ≠ [] ∨ term search ≠ "" →
        list s table filters search = .error (.store (.invalidData (.noTable table)))) ∧
      (ds = [] → term search = "" →
        ∃ fault, list s table filters search = .error (.store (.refused fault))) := by
  rw [list_parsed parsed, searched]
  constructor
  · intro asks
    have asking : (ds.isEmpty && (searchTerm? search).isNone) = false := by
      rw [Bool.and_eq_false_iff, List.isEmpty_eq_false_iff, Option.isNone_eq_false_iff,
        Option.isSome_iff_ne_none, Ne, Ne, searchTerm?_eq_none_iff]
      exact asks
    rw [asking, nothing]
    rfl
  · rintro rfl blank
    obtain ⟨fault, refused⟩ := Store.asked_of_missing (Store.columns_ok_iff.1 nothing).1
      (Store.table?_eq_none_of_columns nothing) (compile [] none []).columns
    refine ⟨fault, ?_⟩
    rw [searchTerm?_eq_none_iff.2 blank]
    show (s.list table (compile [] none [])).mapError Error.ofStore = _
    rw [Store.list, refused]
    rfl

end Gateway

namespace Http

/-! ## 2. The order -/

open Dataset.Filter (Descriptor term)
open Gateway (list listFrom)

/-- **Failures of `list` come in one order.** A store is asked for `columns` and for `list`, and for nothing
    else (`listFrom`). Filters that `parse` refuses are refused with the same error by every store, whatever
    is searched for, and whatever a store would answer. An open store gives no columns exactly if it has no
    table of the name. Of stores whose filters are parsed, a closed one fails with `poolClosed`, and one
    without columns with an error of the store. In a table that is there the first unknown field is refused,
    whatever `rows` would be given, and all rows are given if nothing is asked for. No request for rows
    changes the store. -/
theorem failures_in_order (table : String) (filters : Option String) :
    (∀ s search, list s table filters search =
      listFrom (s.columns table) (s.list table) table filters search) ∧
    (∀ e, Filter.parse (filters.getD "") = .error e → ∀ search,
      (∀ s, list s table filters search = .error (.filter e)) ∧
        ∀ columns rows, listFrom columns rows table filters search = .error (.filter e)) ∧
    (∀ ds, Filter.parse (filters.getD "") = .ok ds → ∀ s search,
      (s.isOpen = false → list s table filters search = .error (.store (.engine .poolClosed))) ∧
      (s.columns table = .ok [] ↔
        s.isOpen = true ∧ s.database.table? (Store.untilNul table) = none) ∧
      (s.columns table = .ok [] → ∃ cause, list s table filters search = .error (.store cause)) ∧
      ∀ t, s.isOpen = true → s.database.table? table = some t →
        (∀ field, (ds.map Descriptor.field).find? (· ∉ t.columnNames) = some field →
          ∀ rows, listFrom (s.columns table) rows table filters search =
            .error (.filter (.invalid field .unknownColumn))) ∧
        (ds = [] → term search = "" → list s table filters search = .ok (t.records.map t.row))) ∧
    ∀ s search uri accept, AsksForRows filters search uri →
      (respond s table ⟨.get, Target.parse uri, accept⟩).2 = s := by
  refine ⟨fun s search => Gateway.list_eq_listFrom s table filters search, ?_, ?_, ?_⟩
  · intro e refused search
    exact ⟨fun s => Gateway.list_malformed refused search,
      fun columns rows => Gateway.listFrom_malformed refused columns rows table search⟩
  · intro ds parsed s search
    refine ⟨fun closed => Gateway.list_closed closed parsed search, Store.columns_eq_nil_iff,
      fun nothing => ?_, ?_⟩
    · obtain ⟨asked, unasked⟩ := Gateway.list_missing nothing parsed search
      by_cases asks : ds ≠ [] ∨ term search ≠ ""
      · exact ⟨_, asked asks⟩
      · rw [not_or, not_not, not_not] at asks
        obtain ⟨fault, failed⟩ := unasked asks.1 asks.2
        exact ⟨_, failed⟩
    · intro t isOpen present
      constructor
      · intro field first rows
        rw [Store.columns_of_table? isOpen present]
        exact Gateway.listFrom_unknown t.columnNames_ne_nil parsed first rows table search
      · rintro rfl blank
        exact Gateway.list_unasked isOpen present parsed blank
  · intro s search uri accept asks
    have endpoint : Endpoint.ofPath? (Target.parse uri).path = some .rows := by
      rw [(parse_of_asksForRows asks).1]
      decide
    rw [respond_get accept endpoint]

/-- A field that the car does not have is told only if the store is open and has the table. A text that is no
    list of filters is told even by a closed one. -/
theorem failures_in_order_showroom :
    let s := Store.ofDatabase ⟨[Gateway.showroom]⟩
    let filters := some "[[\"Colour\",\"contains\",\"x\"]]"
    let q := some " 4 "
    (Store.fresh.columns "cars" = .ok [] ∧
      ∃ cause, list Store.fresh "cars" filters q = .error (.store cause)) ∧
    (s.close.isOpen = false ∧
      list s.close "cars" filters q = .error (.store (.engine .poolClosed))) ∧
    (s.isOpen = true ∧ s.database.table? "cars" = some Gateway.showroom ∧
      list s "cars" filters q = .error (.filter (.invalid "Colour" .unknownColumn))) ∧
    list s "cars" (some "  ") (some "  ") = .ok (Gateway.showroom.records.map Gateway.showroom.row) ∧
    list s.close "cars" (some "[]]") q =
      .error (.filter (.malformed (.unreadable .trailingCharacters))) ∧
    (respond s "cars" ⟨.get, Target.parse "/api/data", none⟩).2 = s := by
  intro s filters q
  have isOpen : s.isOpen = true := rfl
  have present : s.database.table? "cars" = some Gateway.showroom := by decide
  have parsed : Filter.parse (filters.getD "") =
      .ok [⟨"Colour", .contains, some "x", by decide, by decide⟩] := eq_ok_of_toOption (by decide +kernel)
  have blank : Filter.parse ((some "  ").getD "") = .ok [] := eq_ok_of_toOption (by decide +kernel)
  have refused : Filter.parse ((some "[]]").getD "") =
      .error (.malformed (.unreadable .trailingCharacters)) := rfl
  obtain ⟨asked, -, readable, -⟩ := failures_in_order "cars" filters
  obtain ⟨-, columns, missing, -⟩ := readable _ parsed Store.fresh q
  have nothing : Store.fresh.columns "cars" = .ok [] := columns.2 ⟨rfl, by decide⟩
  obtain ⟨closed, -⟩ := readable _ parsed s.close q
  obtain ⟨-, -, -, there⟩ := readable _ parsed s q
  obtain ⟨unknown, -⟩ := there Gateway.showroom isOpen present
  obtain ⟨-, -, readable', -⟩ := failures_in_order "cars" (some "  ")
  obtain ⟨-, -, -, there'⟩ := readable' _ blank s (some "  ")
  obtain ⟨-, unreadable, -, -⟩ := failures_in_order "cars" (some "[]]")
  obtain ⟨-, -, -, kept⟩ := failures_in_order "cars" none
  exact ⟨⟨nothing, missing nothing⟩, ⟨rfl, closed rfl⟩,
    ⟨isOpen, present, (asked s q).trans (unknown "Colour" (by decide) _)⟩,
    (there' _ isOpen present).2 rfl (by decide), (unreadable _ refused q).1 s.close,
    kept s none "/api/data" none (.bare rfl rfl)⟩

end Http

end Dataset
