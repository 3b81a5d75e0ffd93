import Dataset.Proofs.Http.Targets
import Dataset.Proofs.Outcome

/-!
# Requests are answered with what the gateway gives

A question for rows, with any list of filters and any search, and a question for the row of any key of an
admissible length come to the gateway as the texts that they were written from, and what the gateway
gives is what is answered.

* `list_ne_notFound`, `mapError_ofStore_ne_filter`: which failures a request cannot have;
* `due`: what is to be answered to each result of the gateway;
* **`responses_of_gateway`**: that is what is answered, in every store.
-/

/-! ## 1. Failures of the store -/

namespace Dataset.Store

theorem connect_ne_notFound (s : Store) : s.connect ≠ .error .notFound := by
  unfold connect
  split <;> nofun

theorem ofStatement_ne_notFound {α : Type} (r : Except Fault α) :
    ofStatement r ≠ .error .notFound := by
  intro failed
  obtain ⟨fault, -, other⟩ := exists_error_of_mapError failed
  cases other

/-- A list of rows is not refused because a row is missing. -/
theorem list_ne_notFound (s : Store) (table : String) (p : Filter.Predicate) :
    s.list table p ≠ .error .notFound := by
  intro failed
  rw [list, asked] at failed
  rcases error_of_bind failed with unasked | ⟨t, -, unselected⟩
  · rcases error_of_bind unasked with closed | ⟨d, -, refused⟩
    · exact connect_ne_notFound s closed
    · exact ofStatement_ne_notFound _ refused
  · rcases error_of_bind unselected with refused | ⟨rs, -, shown⟩
    · exact ofStatement_ne_notFound _ refused
    · cases shown

end Dataset.Store

/-! ## 2. Failures of the gateway -/

namespace Dataset.Gateway

/-- Only a failure of the store that says so is told as a missing row. -/
theorem ofStore_eq_notFound {e : Store.Error} (h : Error.ofStore e = .notFound) :
    e = .notFound := by
  cases e <;> first | rfl | cases h

theorem searched_ne_notFound (s : Store) (table : String) (ds : List Filter.Descriptor)
    (term : Option String) : searched s table ds term ≠ .error .notFound := by
  intro failed
  unfold searched at failed
  split at failed
  · cases failed
  · rcases error_of_bind failed with unknown | ⟨columns, -, unchecked⟩
    · obtain ⟨cause, closed, missing⟩ := exists_error_of_mapError unknown
      rw [ofStore_eq_notFound missing, Store.columns] at closed
      rcases error_of_bind closed with closed | ⟨d, -, shown⟩
      · exact Store.connect_ne_notFound s closed
      · cases shown
    · split at unchecked
      · cases unchecked
      · rcases error_of_bind unchecked with refused | ⟨u, -, shown⟩
        · obtain ⟨cause, -, other⟩ := exists_error_of_mapError refused
          cases other
        · cases shown

/-- **The gateway never says of a list that a record is missing.** -/
theorem list_ne_notFound (s : Store) (table : String) (filters search : Option String) :
    list s table filters search ≠ .error .notFound := by
  intro failed
  rw [list] at failed
  rcases error_of_bind failed with unread | ⟨ds, -, behind⟩
  · obtain ⟨cause, -, other⟩ := exists_error_of_mapError unread
    cases other
  · rcases error_of_bind behind with unsearched | ⟨columns, -, unlisted⟩
    · exact searched_ne_notFound _ _ _ _ unsearched
    · obtain ⟨cause, refused, missing⟩ := exists_error_of_mapError unlisted
      exact Store.list_ne_notFound _ _ _ (ofStore_eq_notFound missing ▸ refused)

/-- What comes from the store alone is not told as a fault of filters. -/
theorem mapError_ofStore_ne_filter {α : Type} (x : Except Store.Error α) (cause : Filter.Error) :
    x.mapError Error.ofStore ≠ .error (.filter cause) := by
  intro failed
  obtain ⟨e, -, told⟩ := exists_error_of_mapError failed
  cases e <;> cases told

end Dataset.Gateway

namespace Dataset.Http

/-! ## 3. Responses -/

/-- What is to be answered to a result of the gateway: a success with its `text`, a failure with a status,
    a code and a message, which is `trouble` if the store failed. -/
def due {α : Type} (text : α → String) (trouble : String) : Except Gateway.Error α → Answer
  | .ok a => ⟨200, some (text a)⟩
  | .error (.filter (.malformed _)) =>
    Problem.answer ⟨400, "INVALID_FILTERS_JSON", "Invalid filters JSON"⟩
  | .error (.filter (.invalid field reason)) =>
    Problem.answer ⟨400, "INVALID_FILTER", (Filter.Error.invalid field reason).message⟩
  | .error .notFound => Problem.answer ⟨404, "NOT_FOUND", "Record not found"⟩
  | .error (.store _) => Problem.answer ⟨500, "INTERNAL", trouble⟩

/-- The store behind an attempt to change it. -/
def behind (s : Store) : Except Gateway.Error Store → Store
  | .ok s' => s'
  | .error _ => s

/-- The text of a list of rows. -/
def rowsText (rows : List Row) : String := Json.arrayText (rows.map Row.jsonText)

/-- What is said of a row that was removed. -/
def removedText : String := Json.objectText [("success", "true")]

theorem due_error {α : Type} (text : α → String) (trouble : String) (e : Gateway.Error) :
    due text trouble (.error e) = (Problem.ofGateway trouble e).answer := by
  cases e with
  | filter cause => cases cause <;> rfl
  | notFound => rfl
  | store cause => rfl

variable {s : Store} {table : String}

/-- A question for rows is answered with what is due to their list. -/
theorem rowsAnswer_of_asksForRows {filters search : Option String} {uri : String}
    (asks : AsksForRows filters search uri) :
    rowsAnswer s table (Target.parse uri).query =
      due rowsText "Database query failed" (Gateway.list s table filters search) := by
  obtain ⟨-, single, filters', search'⟩ := parse_of_asksForRows asks
  rw [rowsAnswer]
  simp only [single, filters', search']
  cases Gateway.list s table filters search with
  | ok rows => rfl
  | error e => exact (due_error _ _ e).symm

theorem rowAnswer_of_key {id : String} {segment : List Char} (read : keyOf segment = .ok id) :
    rowAnswer s table segment =
      due Row.jsonText "Failed to fetch data by ID" (Gateway.get s table id) := by
  rw [rowAnswer, read]
  cases found : Gateway.get s table id with
  | ok row => simp only [found]; rfl
  | error e => simp only [found]; exact (due_error _ _ e).symm

theorem deleteAnswer_of_key {id : String} {segment : List Char} (read : keyOf segment = .ok id) :
    deleteAnswer s table segment =
      (due (fun _ => removedText) "Failed to delete record" (Gateway.delete s table id),
        behind s (Gateway.delete s table id)) := by
  rw [deleteAnswer, read]
  cases removed : Gateway.delete s table id with
  | ok s' => simp only [removed]; rfl
  | error e =>
    simp only [removed, due_error]
    rfl

/-- A request to get what has an endpoint is met by the endpoint, and leaves the store. -/
theorem respond_get {target : Target} {e : Endpoint} (accept : Option String)
    (found : Endpoint.ofPath? target.path = some e) :
    respond s table ⟨.get, target, accept⟩ =
      ((e.answer s table target.query).response (accepted accept) true, s) := by
  rw [respond, found]
  rfl

/-- A request to delete a row is met by its removal. -/
theorem respond_delete {target : Target} {segment : List Char} (accept : Option String)
    (found : Endpoint.ofPath? target.path = some (.row segment)) :
    respond s table ⟨.delete, target, accept⟩ =
      ((deleteAnswer s table segment).1.response (accepted accept) true,
        (deleteAnswer s table segment).2) := by
  rw [respond, found]
  rfl

/-- **`respond` answers with what is `due` for the answer of the gateway.** In every store, open or closed,
    `GET` of a target that `AsksForRows` is answered with what is `due` for `list`, and `GET` and `DELETE`
    of `rowTarget id`, for an `id` of 1 to 256 bytes, with what is `due` for `get` and `delete`. Only a
    `delete` that succeeds changes the store (`behind`). -/
theorem responses_of_gateway (s : Store) (table : String) (accept : Option String) :
    let meet := fun method uri => respond s table ⟨method, Target.parse uri, accept⟩
    let say := fun a : Answer => a.response (accepted accept) true
    (∀ filters search uri, AsksForRows filters search uri →
      let listed := Gateway.list s table filters search
      listed ≠ .error .notFound ∧
        meet .get uri = (say (due rowsText "Database query failed" listed), s)) ∧
      ∀ id : String, 1 ≤ id.utf8ByteSize → id.utf8ByteSize ≤ 256 →
        let found := Gateway.get s table id
        let removed := Gateway.delete s table id
        (∀ cause, found ≠ .error (.filter cause) ∧ removed ≠ .error (.filter cause)) ∧
          meet .get (rowTarget id) =
            (say (due Row.jsonText "Failed to fetch data by ID" found), s) ∧
          meet .delete (rowTarget id) =
            (say (due (fun _ => removedText) "Failed to delete record" removed),
              behind s removed) := by
  intro meet say
  constructor
  · intro filters search uri asks listed
    have endpoint : Endpoint.ofPath? (Target.parse uri).path = some .rows := by
      rw [(parse_of_asksForRows asks).1]
      decide
    refine ⟨Gateway.list_ne_notFound s table filters search, ?_⟩
    show respond s table ⟨.get, Target.parse uri, accept⟩ = _
    rw [respond_get accept endpoint, Endpoint.answer, rowsAnswer_of_asksForRows asks]
  · intro id least most found removed
    have inhabited : id ≠ "" := by
      rintro rfl
      exact absurd least (by decide)
    have endpoint := parse_rowTarget inhabited
    have read := keyOf_percentEncode least most
    refine ⟨fun cause => ⟨Gateway.mapError_ofStore_ne_filter _ cause,
      Gateway.mapError_ofStore_ne_filter _ cause⟩, ?_, ?_⟩
    · show respond s table ⟨.get, Target.parse (rowTarget id), accept⟩ = _
      rw [respond_get accept endpoint, Endpoint.answer, rowAnswer_of_key read]
    · show respond s table ⟨.delete, Target.parse (rowTarget id), accept⟩ = _
      rw [respond_delete accept endpoint, deleteAnswer_of_key read]

/-- A car whose brand has a percent sign, a plus sign and a slash is asked for by its brand, with an
    empty search before the filter. Another spelling of its key, which begins with a space, removes it. -/
theorem responses_of_gateway_cars :
    let made := (Store.fresh.ensureTable "cars" ["Brand"]).2
    let s := (made.insert "cars" ["Brand"] [some "5% ä+/b"]).toOption.getD made
    let filters := "[[\"Brand\",\"equals\",\"5% ä+/b\"]]"
    let uri := "/api/data?q=&filters=%5B%5B%22Brand%22%2C%22equals%22%2C%225%25%20%C3%A4%2B%2Fb%22%5D%5D"
    let headers := [("access-control-allow-origin", "*"), ("content-type", "application/json")]
    let removed := respond s "cars" ⟨.delete, Target.parse "/api/data/%201.0", none⟩
    AsksForRows (some filters) (some "") uri ∧
      1 ≤ " 1.0".utf8ByteSize ∧ " 1.0".utf8ByteSize ≤ 256 ∧
      respond s "cars" ⟨.get, Target.parse uri, none⟩ =
        (⟨200, headers, some "[\x7b\"id\":1,\"Brand\":\"5% ä+/b\"\x7d]"⟩, s) ∧
      removed.1 = ⟨200, headers, some "\x7b\"success\":true\x7d"⟩ ∧
      Gateway.delete s "cars" " 1.0" = .ok removed.2 := by
  intro made s filters uri headers removed
  have asks : AsksForRows (some filters) (some "") uri := by
    have written : uri =
      "/api/data?" ++ String.ofList (writePairs [("q", ""), ("filters", filters)]) := by decide +kernel
    rw [written]
    exact .query _ (List.Perm.swap _ _ [])
  have least : 1 ≤ " 1.0".utf8ByteSize := by decide
  have most : " 1.0".utf8ByteSize ≤ 256 := by decide
  obtain ⟨rows, row⟩ := responses_of_gateway s "cars" none
  obtain ⟨-, -, deleted⟩ := row " 1.0" least most
  have target : rowTarget " 1.0" = "/api/data/%201.0" := by decide +kernel
  rw [target] at deleted
  obtain ⟨-, listed⟩ := rows (some filters) (some "") uri asks
  have answered : removed = (_, behind s (Gateway.delete s "cars" " 1.0")) := deleted
  refine ⟨asks, least, most, listed.trans (Prod.ext ?_ rfl), ?_, ?_⟩
  · decide +kernel
  · rw [answered]
    decide +kernel
  · rw [answered]
    exact eq_ok_of_toOption (by decide +kernel)

end Dataset.Http
