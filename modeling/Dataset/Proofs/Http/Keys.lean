import Dataset.Proofs.Http.Answers

/-!
# Which keys are met

The key of a row stands in a path as one segment behind that of all rows. It comes to the gateway if it has 1
to 256 bytes. A longer one is refused as a key, though it may have fewer characters, and behind an empty
segment there is no endpoint at all.

* `Spells`: a segment stands for a key, as every written key does (`spells_percentEncode`);
* `status_due`: what the gateway gives of a row is never told as a bad request;
* **`key_bounds`**: what is answered to each key, and when this is a refusal;
* `fewer_characters_refused`: a key of 129 characters that is refused, and an empty one that is not.
-/

namespace Dataset.Http

/-! ## 1. Keys in paths -/

/-- `path` is the path of all rows and one `segment`, whose bytes decode to `id`. -/
structure Spells (path segment : List Char) (id : String) : Prop where
  path : path = Endpoint.rowsPath ++ '/' :: segment
  single : '/' ∉ segment
  decoded : Text.Utf8.decode? (percentDecode segment) = some id.toList

variable {s : Store} {table : String} {path segment : List Char} {id : String}

/-- Every key is spelt by the segment that it is written as. -/
theorem spells_percentEncode (id : String) :
    Spells (Endpoint.rowsPath ++ '/' :: (percentEncode id).toList) (percentEncode id).toList id :=
  ⟨rfl, notMem_percentEncode id (by decide) (by decide),
    by rw [percentDecode_percentEncode, Text.Utf8.decode?_encode]⟩

namespace Spells

/-- The empty key is spelt by the empty segment only. -/
theorem segment_eq_nil_iff (h : Spells path segment id) : segment = [] ↔ id = "" := by
  rw [← percentDecode_eq_nil_iff, ← Text.Utf8.decode?_eq_some_nil_iff, h.decoded, Option.some_inj,
    String.toList_eq_nil_iff]

/-- Behind an empty segment there is no endpoint. -/
theorem ofPath?_of_empty (h : Spells path segment id) (empty : id = "") :
    Endpoint.ofPath? path = none := by
  rw [h.path, h.segment_eq_nil_iff.2 empty]
  decide

/-- Any other segment is that of a row. -/
theorem ofPath?_of_inhabited (h : Spells path segment id) (inhabited : id ≠ "") :
    Endpoint.ofPath? path = some (.row segment) :=
  h.path ▸ ofPath?_row (mt h.segment_eq_nil_iff.1 inhabited) h.single

theorem keyOf_of_short (h : Spells path segment id) (inhabited : id ≠ "")
    (most : id.utf8ByteSize ≤ 256) : keyOf segment = .ok id := by
  rw [keyOf_of_decoded h.decoded, if_pos (isKeyText_iff.2 ⟨inhabited, most⟩)]

theorem keyOf_of_long (h : Spells path segment id) (long : 256 < id.utf8ByteSize) :
    keyOf segment = .error Problem.invalidKey := by
  rw [keyOf_of_decoded h.decoded, if_neg fun key => absurd (isKeyText_iff.1 key).2 (Nat.not_le.2 long)]

end Spells

/-! ## 2. Answers -/

theorem rowAnswer_of_error {p : Problem} (refused : keyOf segment = .error p) :
    rowAnswer s table segment = p.answer := by
  rw [rowAnswer, refused]

theorem deleteAnswer_of_error {p : Problem} (refused : keyOf segment = .error p) :
    deleteAnswer s table segment = (p.answer, s) := by
  rw [deleteAnswer, refused]

/-- What the store gives is never told as a bad request. -/
theorem status_due {α : Type} (text : α → String) (trouble : String) (x : Except Store.Error α) :
    (due text trouble (x.mapError Gateway.Error.ofStore)).status ≠ 400 := by
  cases x with
  | ok a => exact (by decide : 200 ≠ 400)
  | error e =>
    cases e with
    | notFound => exact (by decide : 404 ≠ 400)
    | _ => exact (by decide : 500 ≠ 400)

/-- The refusal of a key. -/
def refusedKey : Answer :=
  Problem.answer ⟨400, "INVALID_ID", "Invalid id: must be 1-256 characters"⟩

theorem answer_invalidKey : Problem.invalidKey.answer = refusedKey := by decide

/-! ## 3. Requests for the row of a key -/

section
variable (s : Store) (table : String) (query : Option (List Char)) (accept : Option String)

/-- What is asked for under the empty key is missing. -/
theorem respond_of_empty (h : Spells path segment id) (empty : id = "") :
    respond s table ⟨.get, ⟨path, query⟩, accept⟩ = (missingResponse, s) ∧
      respond s table ⟨.delete, ⟨path, query⟩, accept⟩ = (missingResponse, s) := by
  have nowhere := h.ofPath?_of_empty empty
  constructor
  · simp only [respond, nowhere]
  · simp only [respond, nowhere]

/-- A key that is too long is refused. -/
theorem respond_of_long (h : Spells path segment id) (long : 256 < id.utf8ByteSize) :
    respond s table ⟨.get, ⟨path, query⟩, accept⟩ =
        (refusedKey.response (accepted accept) true, s) ∧
      respond s table ⟨.delete, ⟨path, query⟩, accept⟩ =
        (refusedKey.response (accepted accept) true, s) := by
  have inhabited : id ≠ "" := by
    rintro rfl
    exact absurd long (by decide)
  have endpoint := h.ofPath?_of_inhabited inhabited
  have refused := h.keyOf_of_long long
  constructor
  · rw [respond_get  accept endpoint, Endpoint.answer, rowAnswer_of_error refused,
      answer_invalidKey]
  · rw [respond_delete  accept endpoint, deleteAnswer_of_error refused,
      answer_invalidKey]

/-- Any other key comes to the gateway. -/
theorem respond_of_short (h : Spells path segment id) (inhabited : id ≠ "")
    (most : id.utf8ByteSize ≤ 256) :
    respond s table ⟨.get, ⟨path, query⟩, accept⟩ =
        ((due Row.jsonText "Failed to fetch data by ID" (Gateway.get s table id)).response
          (accepted accept) true, s) ∧
      respond s table ⟨.delete, ⟨path, query⟩, accept⟩ =
        ((due (fun _ => removedText) "Failed to delete record" (Gateway.delete s table id)).response
          (accepted accept) true, behind s (Gateway.delete s table id)) := by
  have endpoint := h.ofPath?_of_inhabited inhabited
  have read := h.keyOf_of_short inhabited most
  constructor
  · rw [respond_get  accept endpoint, Endpoint.answer, rowAnswer_of_key read]
  · rw [respond_delete  accept endpoint, deleteAnswer_of_key read]

/-- A key is refused exactly if it has more than 256 bytes. -/
theorem refused_iff (h : Spells path segment id) {method : Method} (asks : method ∈ [.get, .delete]) :
    (respond s table ⟨method, ⟨path, query⟩, accept⟩).1 = refusedKey.response (accepted accept) true ↔
      256 < id.utf8ByteSize := by
  constructor
  · intro refused
    have status : (respond s table ⟨method, ⟨path, query⟩, accept⟩).1.status = 400 :=
      congrArg Response.status refused
    by_contra short
    by_cases empty : id = ""
    · obtain ⟨got, removed⟩ := respond_of_empty s table query accept h empty
      rcases List.mem_pair.1 asks with rfl | rfl
      · rw [got] at status
        cases status
      · rw [removed] at status
        cases status
    · obtain ⟨got, removed⟩ := respond_of_short s table query accept h empty (Nat.not_lt.1 short)
      rcases List.mem_pair.1 asks with rfl | rfl
      · rw [got] at status
        exact status_due _ _ _ status
      · rw [removed] at status
        exact status_due _ _ _ status
  · intro long
    obtain ⟨got, removed⟩ := respond_of_long s table query accept h long
    rcases List.mem_pair.1 asks with rfl | rfl
    · rw [got]
    · rw [removed]

end

/-! ## 4. The bounds -/

/-- `id` has more than `n` bytes exactly if it is empty or has more than `n` characters, just where it is not
    empty and more than `n` bytes mean more than `n` characters. -/
theorem bytes_iff_characters (id : String) (n : Nat) :
    (n < id.utf8ByteSize ↔ id = "" ∨ n < id.toList.length) ↔
      id ≠ "" ∧ (n < id.utf8ByteSize → n < id.toList.length) := by
  have fewer := Text.length_le_utf8ByteSize id
  constructor
  · intro same
    have inhabited : id ≠ "" := by
      rintro rfl
      exact absurd (same.2 (.inl rfl)) (Nat.not_lt_zero n)
    exact ⟨inhabited, fun long => (same.1 long).resolve_left inhabited⟩
  · rintro ⟨inhabited, long⟩
    exact ⟨fun bytes => .inr (long bytes), fun either =>
      Nat.lt_of_lt_of_le (either.resolve_left inhabited) fewer⟩

/-- **Keys are bounded by their bytes.** `GET` and `DELETE` of a path that `Spells` the key `id` are
    answered with what is `due` for `get` and `delete` if `id` has 1 to 256 bytes, with `refusedKey` if it
    has more, and with `missingResponse` if it is empty; the last two leave the store as it was. So a key is
    refused exactly if it has more than 256 bytes. That it is refused exactly if it is empty or has more
    than 256 characters holds for exactly those keys that are not empty and have more than 256 characters if
    they have more than 256 bytes. -/
theorem key_bounds (s : Store) (table : String) (query : Option (List Char)) (accept : Option String)
    (spelt : Spells path segment id) :
    let ask := fun method => respond s table ⟨method, ⟨path, query⟩, accept⟩
    let say := fun a : Answer => a.response (accepted accept) true
    (id = "" → ask .get = (missingResponse, s) ∧ ask .delete = (missingResponse, s)) ∧
      (256 < id.utf8ByteSize →
        ask .get = (say refusedKey, s) ∧ ask .delete = (say refusedKey, s)) ∧
      (id ≠ "" → id.utf8ByteSize ≤ 256 →
        let found := Gateway.get s table id
        let removed := Gateway.delete s table id
        ask .get = (say (due Row.jsonText "Failed to fetch data by ID" found), s) ∧
          ask .delete =
            (say (due (fun _ => removedText) "Failed to delete record" removed), behind s removed)) ∧
      ∀ method ∈ [Method.get, Method.delete],
        ((ask method).1 = say refusedKey ↔ 256 < id.utf8ByteSize) ∧
          (((ask method).1 = say refusedKey ↔ id = "" ∨ 256 < id.toList.length) ↔
            id ≠ "" ∧ (256 < id.utf8ByteSize → 256 < id.toList.length)) := by
  intro ask say
  refine ⟨respond_of_empty s table query accept spelt, respond_of_long s table query accept spelt,
    respond_of_short s table query accept spelt, fun method asks => ?_⟩
  have refused : (ask method).1 = say refusedKey ↔ 256 < id.utf8ByteSize :=
    refused_iff s table query accept spelt asks
  exact ⟨refused, (iff_congr refused Iff.rfl).trans (bytes_iff_characters id 256)⟩

/-- The key of `n` letters `é`, of two bytes each. -/
def accents (n : Nat) : String := String.ofList (List.replicate n 'é')

theorem length_accents (n : Nat) : (accents n).toList.length = n := by
  rw [accents, String.toList_ofList, List.length_replicate]

theorem utf8ByteSize_accents (n : Nat) : (accents n).utf8ByteSize = n * 2 :=
  Text.utf8ByteSize_replicate n 'é'

/-- 128 of them are a key of 256 bytes, which comes to the gateway. With a slash in front, which is not read
    as one of the path, they are refused; the empty key is not. -/
theorem key_bounds_accents :
    let made := (Store.fresh.ensureTable "cars" ["Brand"]).2
    let segment := fun id => (percentEncode id).toList
    let path := fun id => Endpoint.rowsPath ++ '/' :: segment id
    let ask := fun method id => respond made "cars" ⟨method, ⟨path id, none⟩, none⟩
    let key := accents 128
    (Spells (path key) (segment key) key ∧ key ≠ "" ∧ key.utf8ByteSize ≤ 256 ∧
        (ask .get key).1 =
          (due Row.jsonText "Failed to fetch data by ID" (Gateway.get made "cars" key)).response
            .identity true) ∧
      (Spells (path ("/" ++ key)) (segment ("/" ++ key)) ("/" ++ key) ∧
        256 < ("/" ++ key).utf8ByteSize ∧
        ask .delete ("/" ++ key) = (refusedKey.response .identity true, made)) ∧
      Spells (path "") (segment "") "" ∧ ask .get "" = (missingResponse, made) := by
  intro made segment path ask key
  have size : key.utf8ByteSize = 256 := utf8ByteSize_accents 128
  have most : key.utf8ByteSize ≤ 256 := Nat.le_of_eq size
  have inhabited : key ≠ "" := fun empty => absurd (empty ▸ size) (by decide)
  have long : 256 < ("/" ++ key).utf8ByteSize := by
    rw [String.utf8ByteSize_append, size]
    decide
  obtain ⟨-, -, met, -⟩ := key_bounds made "cars" none none (spells_percentEncode key)
  obtain ⟨-, refused, -⟩ := key_bounds made "cars" none none (spells_percentEncode ("/" ++ key))
  obtain ⟨missing, -⟩ := key_bounds made "cars" none none (spells_percentEncode "")
  exact ⟨⟨spells_percentEncode key, inhabited, most, congrArg Prod.fst (met inhabited most).1⟩,
    ⟨spells_percentEncode _, long, (refused long).2⟩, spells_percentEncode "", (missing rfl).1⟩

/-- 129 of them are refused for their 258 bytes. An empty key is not refused: nothing is found there. -/
theorem fewer_characters_refused :
    let made := (Store.fresh.ensureTable "cars" ["Brand"]).2
    let ask := fun uri => (respond made "cars" ⟨.get, Target.parse uri, none⟩).1
    let key := accents 129
    key.toList.length = 129 ∧ ask (rowTarget key) = refusedKey.response .identity true ∧
      ¬ (ask (rowTarget key) = refusedKey.response .identity true ↔
        key = "" ∨ 256 < key.toList.length) ∧
      (ask (rowTarget "")).status = 404 := by
  intro made ask key
  have length : key.toList.length = 129 := length_accents 129
  have size : key.utf8ByteSize = 258 := utf8ByteSize_accents 129
  have inhabited : key ≠ "" := fun empty => absurd (empty ▸ size) (by decide)
  have refused : ask (rowTarget key) = refusedKey.response .identity true := by
    have long : 256 < key.utf8ByteSize := by
      rw [size]
      decide
    show (respond made "cars" ⟨.get, Target.parse (rowTarget key), none⟩).1 = _
    rw [parse_path_rowTarget, (respond_of_long made "cars" none none (spells_percentEncode key) long).1]
    rfl
  have missing : (ask (rowTarget "")).status = 404 := by
    show (respond made "cars" ⟨.get, Target.parse (rowTarget ""), none⟩).1.status = _
    rw [parse_path_rowTarget, (respond_of_empty made "cars" none none (spells_percentEncode "") rfl).1]
    rfl
  refine ⟨length, refused, fun claimed => ?_, missing⟩
  rcases claimed.1 refused with empty | long
  · exact inhabited empty
  · rw [length] at long
    exact absurd long (by decide)

end Dataset.Http
