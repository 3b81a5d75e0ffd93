import Dataset.Http.Router
import Dataset.Proofs.Http.Encoding

/-!
# Targets that ask for rows, and for one row

A question for rows, with any list of filters and any search, and a question for the row of a key are
read as the texts that they were written from.

* `AsksForRows`: the targets that ask for rows, with their parameters in either order;
* `formPairs_writePairs`, `parameter?_of_perm`: parameters are read as they were written, in any order;
* **`parse_of_asksForRows`**: a target that asks for rows is read as its question;
* `keyOf_of_decoded`: what a segment stands for;
* **`parse_rowTarget`**, **`keyOf_percentEncode`**: the target of a key is that of its row, and the key
  is read as it was.
-/

namespace Dataset.Http

/-! ## 1. Writing targets -/

/-- The query parameters of a request for rows, `filters` and `q`, each if it is there. -/
def parameters (filters search : Option String) : List (String × String) :=
  (filters.map ("filters", ·)).toList ++ (search.map ("q", ·)).toList

/-- A parameter as it is written; its name stands for itself. -/
def writePair (p : String × String) : List Char := p.1.toList ++ '=' :: (percentEncode p.2).toList

/-- Parameters with ampersands between them. -/
def writePairs : List (String × String) → List Char
  | [] => []
  | [p] => writePair p
  | p :: rest => writePair p ++ '&' :: writePairs rest

/-- Targets that ask for rows with the parameters `filters` and `search` in any order; without parameters the
    question mark may be left out. -/
inductive AsksForRows (filters search : Option String) : String → Prop where
  | bare : filters = none → search = none → AsksForRows filters search "/api/data"
  | query (pairs : List (String × String)) : pairs.Perm (parameters filters search) →
      AsksForRows filters search ("/api/data?" ++ String.ofList (writePairs pairs))

/-- The target of the row of a key. -/
def rowTarget (id : String) : String := "/api/data/" ++ percentEncode id

/-! ## 2. Reading parameters -/

/-- The names of the parameters. -/
def parameterNames : List String := ["filters", "q"]

/-- A name of a parameter is written as it is. -/
theorem percentEncode_name : ∀ name ∈ parameterNames, percentEncode name = name := by decide +kernel

theorem fst_mem_parameterNames {filters search : Option String} {p : String × String}
    (h : p ∈ parameters filters search) : p.1 ∈ parameterNames := by
  unfold parameters at h
  rcases List.mem_append.1 h with h | h
  · obtain ⟨text, -, rfl⟩ := Option.map_eq_some_iff.1 (Option.mem_toList.1 h)
    exact .head _
  · obtain ⟨text, -, rfl⟩ := Option.map_eq_some_iff.1 (Option.mem_toList.1 h)
    exact .tail _ (.head _)

theorem nodup_parameters (filters search : Option String) :
    ((parameters filters search).map Prod.fst).Nodup := by
  cases filters <;> cases search <;> simp [parameters]

/-- A character that takes a query apart, other than the equals sign, is in no written parameter. -/
theorem notMem_writePair {p : String × String} (named : p.1 ∈ parameterNames) {c : Char}
    (special : isUnreserved c = false) (other : c ≠ '%') (noEquals : c ≠ '=') : c ∉ writePair p := by
  have name := notMem_percentEncode p.1 special other
  rw [percentEncode_name p.1 named] at name
  rw [writePair, List.mem_append, List.mem_cons]
  rintro (h | h | h)
  · exact name h
  · exact noEquals h
  · exact notMem_percentEncode p.2 special other h

theorem notMem_writePairs {c : Char} (special : isUnreserved c = false) (other : c ≠ '%')
    (noEquals : c ≠ '=') (noAmpersand : c ≠ '&') :
    ∀ {pairs : List (String × String)}, (∀ p ∈ pairs, p.1 ∈ parameterNames) → c ∉ writePairs pairs
  | [], _ => List.not_mem_nil
  | [_], named => notMem_writePair (named _ (.head _)) special other noEquals
  | p :: q :: rest, named => by
    have behind := notMem_writePairs special other noEquals noAmpersand
      fun r hr => named r (List.mem_cons_of_mem p hr)
    rw [writePairs, List.mem_append, List.mem_cons]
    · rintro (h | h | h)
      · exact notMem_writePair (named p (.head _)) special other noEquals h
      · exact noAmpersand h
      · exact behind h
    · exact List.cons_ne_nil q rest

/-- A written parameter is read as it was. -/
theorem formPair_writePair {p : String × String} (named : p.1 ∈ parameterNames) :
    formPair (writePair p) = p := by
  have whole := percentEncode_name p.1 named
  have noEquals : '=' ∉ p.1.toList := by
    have absent := notMem_percentEncode p.1 (c := '=') (by decide) (by decide)
    rwa [whole] at absent
  have name : formText p.1.toList = p.1 := by
    have read := formText_percentEncode p.1
    rwa [whole] at read
  rw [formPair, writePair, Text.splitAtFirst_append _ noEquals]
  show (formText p.1.toList, formText (percentEncode p.2).toList) = p
  rw [name, formText_percentEncode]

theorem writePair_ne_nil (p : String × String) : writePair p ≠ [] :=
  List.append_ne_nil_of_right_ne_nil _ (List.cons_ne_nil _ _)

theorem pieces_writePairs : ∀ {pairs : List (String × String)}, pairs ≠ [] →
    (∀ p ∈ pairs, p.1 ∈ parameterNames) → Text.pieces '&' (writePairs pairs) = pairs.map writePair
  | [p], _, named =>
    Text.pieces_of_notMem (notMem_writePair (named p (.head _)) (by decide) (by decide) (by decide))
  | p :: q :: rest, _, named => by
    have front := notMem_writePair (named p (.head _)) (c := '&') (by decide) (by decide) (by decide)
    have behind := pieces_writePairs (List.cons_ne_nil q rest)
      fun r hr => named r (List.mem_cons_of_mem p hr)
    rw [writePairs, Text.pieces_append _ front, behind]
    · rfl
    · exact List.cons_ne_nil q rest

/-- **Written parameters are read as they were.** -/
theorem formPairs_writePairs {pairs : List (String × String)}
    (named : ∀ p ∈ pairs, p.1 ∈ parameterNames) : formPairs (writePairs pairs) = pairs := by
  by_cases inhabited : pairs = []
  · rw [inhabited]
    rfl
  · have kept : ((pairs.map writePair).filter fun w => !w.isEmpty) = pairs.map writePair := by
      refine List.filter_eq_self.2 fun w hw => ?_
      obtain ⟨p, -, rfl⟩ := List.mem_map.1 hw
      simpa using writePair_ne_nil p
    rw [formPairs, pieces_writePairs inhabited named, kept, List.map_map]
    refine (List.map_congr_left fun p hp => ?_).trans (List.map_id pairs)
    exact formPair_writePair (named p hp)

/-! ## 3. Finding parameters -/

variable {pairs : List (String × String)}

/-- Names that are all different are not repeated, and none is that was not seen before. -/
theorem repeated?_eq_none : ∀ {pairs : List (String × String)} {seen : List String},
    (pairs.map Prod.fst).Nodup → (∀ name ∈ pairs.map Prod.fst, name ∉ seen) →
    repeated? seen pairs = none
  | [], _, _, _ => rfl
  | (name, text) :: rest, seen, nodup, unseen => by
    rw [List.map_cons, List.nodup_cons] at nodup
    have new : ¬ seen.contains name = true := by simpa using unseen name (.head _)
    rw [repeated?, if_neg new]
    refine repeated?_eq_none nodup.2 fun other among => ?_
    have unseen' := unseen other (List.mem_cons_of_mem _ among)
    split
    · rw [List.mem_cons, not_or]
      exact ⟨ne_of_mem_of_not_mem among nodup.1, unseen'⟩
    · exact unseen'

theorem parameter?_of_mem {name text : String} : ∀ {pairs : List (String × String)},
    (pairs.map Prod.fst).Nodup → (name, text) ∈ pairs → parameter? pairs name = some text
  | p :: rest, nodup, among => by
    rw [List.map_cons, List.nodup_cons] at nodup
    unfold parameter?
    rcases List.mem_cons.1 among with same | among
    · rw [List.find?_cons_of_pos (by simp [← same]), ← same]
      rfl
    · have other : p.1 ≠ name := fun same => nodup.1 (same ▸ List.mem_map_of_mem among)
      rw [List.find?_cons_of_neg (by simpa using other)]
      exact parameter?_of_mem nodup.2 among

theorem parameter?_of_notMem {name : String} (absent : name ∉ pairs.map Prod.fst) :
    parameter? pairs name = none := by
  have unfound : pairs.find? (·.1 == name) = none := by
    rw [List.find?_eq_none]
    intro p among same
    exact absent (List.mem_map.2 ⟨p, among, by simpa using same⟩)
  rw [parameter?, unfound]
  rfl

/-- Each parameter is found with its text, in whatever order they stand. -/
theorem parameter?_of_perm {filters search : Option String}
    (perm : pairs.Perm (parameters filters search)) :
    repeated? [] pairs = none ∧ parameter? pairs "filters" = filters ∧
      parameter? pairs "q" = search := by
  have nodup : (pairs.map Prod.fst).Nodup :=
    (perm.map Prod.fst).nodup_iff.2 (nodup_parameters filters search)
  have known : ∀ name, name ∉ (parameters filters search).map Prod.fst →
      parameter? pairs name = none := fun name absent =>
    parameter?_of_notMem fun among => absent ((perm.map Prod.fst).mem_iff.1 among)
  have found : ∀ name text, (name, text) ∈ parameters filters search →
      parameter? pairs name = some text := fun name text among =>
    parameter?_of_mem nodup (perm.mem_iff.2 among)
  refine ⟨repeated?_eq_none nodup fun _ _ => List.not_mem_nil, ?_, ?_⟩
  · cases filters with
    | none => exact known _ (by cases search <;> simp [parameters])
    | some text => exact found _ text (by simp [parameters])
  · cases search with
    | none => exact known _ (by cases filters <;> simp [parameters])
    | some text => exact found _ text (by simp [parameters])

/-! ## 4. Reading targets -/

/-- A target that begins with a slash is taken apart at its question mark. -/
theorem parse_target {uri : String} {path query : List Char}
    (text : uri.toList = '/' :: path ++ '?' :: query) (noHash : '#' ∉ path) (noMark : '?' ∉ path)
    (noHash' : '#' ∉ query) : Target.parse uri = ⟨'/' :: path, some query⟩ := by
  have whole : '#' ∉ '/' :: path ++ '?' :: query := by simp [noHash, noHash']
  have front : '?' ∉ '/' :: path := by simp [noMark]
  have relative : afterScheme? ('/' :: path ++ '?' :: query) = none := by simp [afterScheme?]
  rw [Target.parse, text, Text.splitAtFirst_of_notMem whole]
  simp only [relative, Text.splitAtFirst_append query front]

/-- A target that begins with a slash and has no question mark is a path. -/
theorem parse_path {uri : String} {path : List Char} (text : uri.toList = '/' :: path)
    (noHash : '#' ∉ path) (noMark : '?' ∉ path) : Target.parse uri = ⟨'/' :: path, none⟩ := by
  have whole : '#' ∉ '/' :: path := by simp [noHash]
  have front : '?' ∉ '/' :: path := by simp [noMark]
  have relative : afterScheme? ('/' :: path) = none := by simp [afterScheme?]
  rw [Target.parse, text, Text.splitAtFirst_of_notMem whole]
  simp only [relative, Text.splitAtFirst_of_notMem front]

/-- **A target that asks for rows is read as the question that it was written from.** -/
theorem parse_of_asksForRows {filters search : Option String} {uri : String}
    (asks : AsksForRows filters search uri) :
    (Target.parse uri).path = Endpoint.rowsPath ∧
      let pairs := formPairs ((Target.parse uri).query.getD [])
      repeated? [] pairs = none ∧ parameter? pairs "filters" = filters ∧
        parameter? pairs "q" = search := by
  cases asks with
  | bare noFilters noSearch =>
    subst noFilters noSearch
    decide +kernel
  | query pairs perm =>
    have named : ∀ p ∈ pairs, p.1 ∈ parameterNames := fun p hp =>
      fst_mem_parameterNames (perm.mem_iff.1 hp)
    have noHash : '#' ∉ writePairs pairs :=
      notMem_writePairs (by decide) (by decide) (by decide) (by decide) named
    have text : ("/api/data?" ++ String.ofList (writePairs pairs)).toList =
        '/' :: "api/data".toList ++ '?' :: writePairs pairs := by
      rw [String.toList_append]
      exact congrArg ("/api/data?".toList ++ ·) String.toList_ofList
    rw [parse_target text (by decide) (by decide) noHash]
    refine ⟨rfl, ?_⟩
    show repeated? [] (formPairs (writePairs pairs)) = none ∧ _
    rw [Option.getD_some, formPairs_writePairs named]
    exact parameter?_of_perm perm

/-- A path behind that of all rows, with something in it and no further slash, is that of a row. -/
theorem ofPath?_row {segment : List Char} (inhabited : segment ≠ []) (noSlash : '/' ∉ segment) :
    Endpoint.ofPath? (Endpoint.rowsPath ++ '/' :: segment) = some (.row segment) := by
  have front : Endpoint.rowsPath ++ '/' :: segment = (Endpoint.rowsPath ++ ['/']) ++ segment := by
    rw [List.append_assoc, List.singleton_append]
  have behind : Endpoint.rowSegment? (Endpoint.rowsPath ++ '/' :: segment) = some segment := by
    rw [Endpoint.rowSegment?, front, if_pos (List.isPrefixOf_iff_prefix.2 (List.prefix_append _ _))]
    exact congrArg some (List.drop_left' rfl)
  have noHealth : Endpoint.rowsPath ++ '/' :: segment ≠ "/api/health".toList := by
    simp [Endpoint.rowsPath]
  have noDescription : Endpoint.rowsPath ++ '/' :: segment ≠ "/api/openapi.json".toList := by
    simp [Endpoint.rowsPath]
  have noRows : Endpoint.rowsPath ++ '/' :: segment ≠ Endpoint.rowsPath := by simp
  rw [Endpoint.ofPath?, if_neg noHealth, if_neg noDescription, if_neg noRows, behind]
  exact if_neg (by simp [inhabited, noSlash])

/-- No other path is that of a row. -/
theorem ofPath?_eq_row_iff {path segment : List Char} :
    Endpoint.ofPath? path = some (.row segment) ↔
      path = Endpoint.rowsPath ++ '/' :: segment ∧ segment ≠ [] ∧ '/' ∉ segment := by
  constructor
  · intro found
    rw [Endpoint.ofPath?] at found
    split_ifs at found
    · cases found
    · cases found
    · cases found
    · split at found
      · cases found
      · next rest behind =>
        split_ifs at found with bad
        obtain rfl : rest = segment := by simpa using found
        rw [Endpoint.rowSegment?] at behind
        split_ifs at behind with front
        obtain ⟨tail, rfl⟩ := List.isPrefixOf_iff_prefix.1 front
        have cut : (Endpoint.rowsPath ++ ['/'] ++ tail).drop (Endpoint.rowsPath.length + 1) = tail :=
          List.drop_left' rfl
        obtain rfl : tail = rest := cut.symm.trans (Option.some.inj behind)
        rw [Bool.or_eq_true, not_or, List.isEmpty_iff, List.contains_iff_mem] at bad
        exact ⟨by rw [List.append_assoc, List.singleton_append], bad⟩
  · rintro ⟨rfl, inhabited, noSlash⟩
    exact ofPath?_row inhabited noSlash

/-- The target of a key is a path, whose last segment is the key as it is written. -/
theorem parse_path_rowTarget (id : String) :
    Target.parse (rowTarget id) =
      ⟨Endpoint.rowsPath ++ '/' :: (percentEncode id).toList, none⟩ := by
  have special : ∀ c, isUnreserved c = false → c ≠ '%' → c ∉ (percentEncode id).toList :=
    fun c => notMem_percentEncode id
  have noHash : '#' ∉ "api/data/".toList ++ (percentEncode id).toList := by
    rw [List.mem_append, not_or]
    exact ⟨by decide, special '#' (by decide) (by decide)⟩
  have noMark : '?' ∉ "api/data/".toList ++ (percentEncode id).toList := by
    rw [List.mem_append, not_or]
    exact ⟨by decide, special '?' (by decide) (by decide)⟩
  have text : (rowTarget id).toList = '/' :: ("api/data/".toList ++ (percentEncode id).toList) := by
    rw [rowTarget, String.toList_append]
    rfl
  rw [parse_path text noHash noMark]
  rfl

/-- **The target of a key is that of its row**, however many slashes the key has. -/
theorem parse_rowTarget {id : String} (inhabited : id ≠ "") :
    Endpoint.ofPath? (Target.parse (rowTarget id)).path = some (.row (percentEncode id).toList) := by
  rw [parse_path_rowTarget]
  exact ofPath?_row (percentEncode_ne_nil inhabited) (notMem_percentEncode id (by decide) (by decide))

/-- A segment whose bytes are a text stands for this text, if it is a key. -/
theorem keyOf_of_decoded {segment : List Char} {id : String}
    (decoded : Text.Utf8.decode? (percentDecode segment) = some id.toList) :
    keyOf segment = if isKeyText id then .ok id else .error Problem.invalidKey := by
  rw [keyOf, decoded]
  simp only [String.ofList_toList]

/-- A key is a text of 1 to 256 bytes. -/
theorem isKeyText_iff {id : String} : isKeyText id = true ↔ id ≠ "" ∧ id.utf8ByteSize ≤ 256 := by
  rw [isKeyText, Bool.and_eq_true, decide_eq_true_eq, Bool.not_eq_true', String.isEmpty_eq_false_iff,
    Problem.maxKeySize]

/-- **A key of an admissible length is read as it was.** -/
theorem keyOf_percentEncode {id : String} (least : 1 ≤ id.utf8ByteSize)
    (most : id.utf8ByteSize ≤ 256) : keyOf (percentEncode id).toList = .ok id := by
  have inhabited : id ≠ "" := by
    rintro rfl
    exact absurd least (by decide)
  have decoded : Text.Utf8.decode? (percentDecode (percentEncode id).toList) = some id.toList := by
    rw [percentDecode_percentEncode, Text.Utf8.decode?_encode]
  rw [keyOf_of_decoded decoded, if_pos (isKeyText_iff.2 ⟨inhabited, most⟩)]

end Dataset.Http
