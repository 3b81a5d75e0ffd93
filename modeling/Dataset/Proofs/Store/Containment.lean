import Dataset.Proofs.Store.Selection

/-!
# Tests on a piece of a text

A value without wildcards stands in a pattern for itself. Between two percent signs it is looked for
anywhere in the text of a cell, before one at its beginning, behind one at its end.

* `Cell.text?`, `Cell.Whole`: the text that a cell is searched in;
* **`Cell.like_contains_iff`**, `Cell.like_startsWith_iff`, `Cell.like_endsWith_iff`: the three tests on a
  cell;
* **`Table.select_pieces`**: the records that such a filter, or a search, selects.
-/

namespace Dataset

namespace Filter

/-- How an operator looks for a value `v` in a text `s`: as infix, prefix or suffix. -/
def Operator.Finds : Operator → List Char → List Char → Prop
  | .contains, v, s => v <:+: s
  | .startsWith, v, s => v <+: s
  | .endsWith, v, s => v <:+ s
  | _, _, _ => False

/-- The operator of `d` looks for a piece of a text, and its value is `v`. -/
def Descriptor.LooksFor (d : Descriptor) (v : String) : Prop :=
  (d.operator = .contains ∨ d.operator = .startsWith ∨ d.operator = .endsWith) ∧ d.value = some v

end Filter

namespace Store

open Dataset.Filter (Descriptor Operator compile term termPattern)

/-! ## 1. The text of a cell -/

namespace Cell

/-- The text that `LIKE` sees of a cell: of a number the one that `CAST` gives. -/
def text? : Cell → Option String
  | .int n => some (Text.ofInt n)
  | .real r => some (Number.storeText r)
  | .text s => some s
  | .null => none
  | .blob _ => none

/-- `LIKE` sees the whole content of the cell: it is no blob and has no NUL. -/
def Whole : Cell → Prop
  | .text s => '\x00' ∉ s.toList
  | .blob _ => False
  | _ => True

instance : (c : Cell) → Decidable c.Whole
  | .text s => inferInstanceAs (Decidable ('\x00' ∉ s.toList))
  | .blob _ => inferInstanceAs (Decidable False)
  | .null | .int _ | .real _ => inferInstanceAs (Decidable True)

theorem nul_notMem_of_whole {c : Cell} {s : String} (whole : c.Whole) (shows : c.text? = some s) :
    '\x00' ∉ s.toList := by
  cases c with
  | int n => exact Option.some.inj shows ▸ nul_notMem_ofInt n
  | real r => exact Option.some.inj shows ▸ nul_notMem_storeText r
  | text s => exact Option.some.inj shows ▸ whole
  | null => cases shows
  | blob bytes => cases whole

theorem codes?_of_whole {c : Cell} (whole : c.Whole) : c.codes? = c.text?.map textCodes := by
  cases c with
  | blob bytes => cases whole
  | _ => rfl

/-- A pattern matches such a cell if there is a text, whose code points it matches. -/
theorem like_iff {c : Cell} (whole : c.Whole) (pattern : String) :
    c.Like pattern ↔ ∃ s, c.text? = some s ∧
      Matches ((textCodes pattern).map PatternItem.ofCode) (textCodes s) := by
  rw [Like, codes?_of_whole whole]
  simp [Option.map_eq_some_iff]

variable {c : Cell} {v : String}

/-- **A text between two percent signs is looked for anywhere in the text of a cell.** -/
theorem like_contains_iff (literal : Literal v) (whole : c.Whole) :
    c.Like ("%" ++ v ++ "%") ↔ ∃ s, c.text? = some s ∧ folded v <:+: folded s := by
  rw [like_iff whole]
  refine exists_congr fun s => and_congr_right fun shows => ?_
  rw [String.append_assoc, textCodes_append (by decide), textCodes_append literal.whole,
    List.map_append, List.map_append, items_percent, literal.items]
  rw [List.singleton_append, matches_any_codes_any, map_foldCase_textCodes literal.whole,
    map_foldCase_textCodes (nul_notMem_of_whole whole shows), infix_map_toNat_iff]

/-- Before one percent sign it is looked for at the beginning. -/
theorem like_startsWith_iff (literal : Literal v) (whole : c.Whole) :
    c.Like (v ++ "%") ↔ ∃ s, c.text? = some s ∧ folded v <+: folded s := by
  rw [like_iff whole]
  refine exists_congr fun s => and_congr_right fun shows => ?_
  rw [textCodes_append literal.whole, List.map_append, items_percent, literal.items, matches_codes_any,
    map_foldCase_textCodes literal.whole,
    map_foldCase_textCodes (nul_notMem_of_whole whole shows),
    List.prefix_map_iff_of_injective toNat_injective]

/-- Behind one at the end. -/
theorem like_endsWith_iff (literal : Literal v) (whole : c.Whole) :
    c.Like ("%" ++ v) ↔ ∃ s, c.text? = some s ∧ folded v <:+ folded s := by
  rw [like_iff whole]
  refine exists_congr fun s => and_congr_right fun shows => ?_
  rw [textCodes_append (by decide), List.map_append, items_percent, literal.items, List.singleton_append,
    matches_any_codes, map_foldCase_textCodes literal.whole,
    map_foldCase_textCodes (nul_notMem_of_whole whole shows),
    List.suffix_map_iff_of_injective toNat_injective]

end Cell

/-! ## 2. Selections -/

namespace Table

variable {t : Table} {r : Record} {d : Descriptor} {v : String}

/-- A filter that looks for a piece of a text holds exactly where the piece is. -/
theorem holds_iff_finds (looks : d.LooksFor v) (literal : Literal v)
    (whole : (t.shown r d.field).Whole) :
    t.Holds r d ↔ ∃ s, (t.shown r d.field).text? = some s ∧
      d.operator.Finds (folded v) (folded s) := by
  obtain ⟨operator, given⟩ := looks
  rcases operator with op | op | op <;> simp only [Holds, op, given, Option.getD_some, Filter.Operator.Finds]
  · exact Cell.like_contains_iff literal whole
  · exact Cell.like_startsWith_iff literal whole
  · exact Cell.like_endsWith_iff literal whole

/-- Such a filter binds no pattern that is too long. -/
theorem short_of_literal (looks : d.LooksFor v) (literal : Literal v) (columns : List String) :
    ∀ p ∈ (compile [d] none columns).patterns, p.utf8ByteSize ≤ maxPatternBytes := by
  have patterns : (compile [d] none columns).patterns = d.pattern?.toList := by
    rw [Filter.Predicate.patterns, conditions_compile_one]
    simp [Filter.patterns_condition]
  have percent : "%".utf8ByteSize = 1 := by decide
  have short := literal.short
  obtain ⟨operator, given⟩ := looks
  intro p hp
  rw [patterns] at hp
  rcases operator with op | op | op <;>
    · simp only [Descriptor.pattern?, op, given, Option.getD_some, Option.toList_some,
        List.mem_singleton] at hp
      simp only [hp, String.utf8ByteSize_append, percent]
      omega

/-- Nor does a search. -/
theorem short_of_term {search : Option String} (literal : Literal (term search)) (columns : List String) :
    ∀ p ∈ (compile [] search columns).patterns, p.utf8ByteSize ≤ maxPatternBytes := by
  have bytes : (termPattern search).utf8ByteSize = 1 + (term search).utf8ByteSize + 1 := by
    rw [termPattern, String.utf8ByteSize_append, String.utf8ByteSize_append]
    rfl
  have short := literal.short
  intro p hp
  obtain ⟨c, hc, hp⟩ := List.mem_flatMap.1 hp
  rw [compile, List.map_nil, List.nil_append, Filter.searchConditions_eq] at hc
  split_ifs at hc with nothing
  · cases hc
  · rw [List.mem_singleton.1 hc] at hp
    obtain ⟨_, -, rfl⟩ := List.mem_map.1 hp
    show (termPattern search).utf8ByteSize ≤ maxPatternBytes
    omega

/-- A search finds its term exactly where one of the cells has it as a piece, if there are any. -/
theorem found_iff {search : Option String} {columns : List String} (given : term search ≠ "")
    (literal : Literal (term search)) (whole : ∀ c ∈ columns, (t.shown r c).Whole) :
    t.Found r search columns ↔ columns = [] ∨ ∃ c ∈ columns, ∃ s, (t.shown r c).text? = some s ∧
      folded (term search) <:+: folded s := by
  have each : (∃ c ∈ columns, (t.shown r c).Like (termPattern search)) ↔ ∃ c ∈ columns, ∃ s,
      (t.shown r c).text? = some s ∧ folded (term search) <:+: folded s :=
    exists_congr fun c => and_congr_right fun hc => Cell.like_contains_iff literal (whole c hc)
  rw [← each, or_iff_not_imp_left]
  exact ⟨fun found => found given, fun found _ => found⟩

/-- **Tests on a piece of a text select the rows whose text has the piece.** A filter that `LooksFor` a
    value `v` which is `Literal` selects a record whose text is `Whole` exactly if its operator `Finds` `v`
    in the text: anywhere, at the beginning or at the end. A search for a `Literal` term selects a record
    exactly if one of the columns shows a text with the term in it, or no column is searched. Both are
    compared as `folded` texts; a text without U+FFFE and U+FFFF is folded to itself in small letters of
    ASCII. -/
theorem select_pieces (t : Table) (columns : List String) (known : ∀ c ∈ columns, c ∈ t.columnNames) :
    (∀ (d : Descriptor) (v : String), d.field ∈ t.columnNames → d.LooksFor v → Literal v →
      ∃ rs, t.select (compile [d] none columns) = .ok rs ∧
        ∀ r ∈ t.records, (t.shown r d.field).Whole →
          (r ∈ rs ↔ ∃ s, (t.shown r d.field).text? = some s ∧
            d.operator.Finds (folded v) (folded s))) ∧
    (∀ search, term search ≠ "" → Literal (term search) →
      ∃ rs, t.select (compile [] search columns) = .ok rs ∧
        ∀ r ∈ t.records, (∀ c ∈ columns, (t.shown r c).Whole) →
          (r ∈ rs ↔ columns = [] ∨ ∃ c ∈ columns, ∃ s, (t.shown r c).text? = some s ∧
            folded (term search) <:+: folded s)) ∧
    ∀ s : String, (∀ c ∈ s.toList, c ≠ Char.ofNat 0xFFFE ∧ c ≠ Char.ofNat 0xFFFF) →
      folded s = s.toList.map Char.toLower := by
  refine ⟨fun d v live looks literal => ?_, fun search given literal => ?_, fun s => folded_eq⟩
  · have fields : ∀ e ∈ [d], e.field ∈ t.columnNames := fun e he => by
      rwa [List.mem_singleton.1 he]
    have plain : ∀ e ∈ [d], e.operator ≠ .equals := by
      intro e he equals
      rw [List.mem_singleton.1 he] at equals
      rcases looks.1 with op | op | op <;> rw [op] at equals <;> cases equals
    obtain ⟨rs, selected, selects⟩ := select_of_faithful fields known
      (short_of_literal looks literal columns) fun r _ => faithful_of_plain plain
    refine ⟨rs, selected, fun r hr whole => ?_⟩
    have nothing : t.Found r none columns := fun asked => absurd rfl asked
    rw [selects.mem_iff, Meets, List.forall_mem_singleton, holds_iff_finds looks literal whole]
    simp [hr, nothing]
  · obtain ⟨rs, selected, selects⟩ := select_of_faithful (by simp) known (short_of_term literal columns)
      fun r _ => faithful_of_plain (by simp)
    refine ⟨rs, selected, fun r hr whole => ?_⟩
    rw [selects.mem_iff, Meets, found_iff given literal whole]
    simp [hr]

/-- Two cars with names in letters and in digits, one without a name, and one with a name that shows a
    character that could not be read. -/
def models : Table :=
  ⟨"cars", [⟨Sql.keyColumn, .key⟩, .numeric "Model"], true, 4,
    [⟨1, [.null, .text "Zoé"]⟩, ⟨2, [.null, .int 500]⟩, ⟨3, [.null, .null]⟩, ⟨4, [.null, .text "\uFFFD"]⟩],
    by decide, by decide, by unfold Distinct; decide, by decide, by decide⟩

/-- The end of a name in other letters, and a term among digits. -/
theorem select_pieces_models :
    let d : Descriptor := ⟨"Model", .endsWith, some "Oé", by decide, by decide⟩
    (∀ c ∈ ["Model"], c ∈ models.columnNames) ∧ d.field ∈ models.columnNames ∧ d.LooksFor "Oé" ∧
      Literal "Oé" ∧ term (some " 50 ") ≠ "" ∧ Literal (term (some " 50 ")) ∧
      (∀ r ∈ models.records, (models.shown r "Model").Whole) ∧
      (∃ rs, models.select (compile [d] none ["Model"]) = .ok rs ∧
        (⟨1, [.null, .text "Zoé"]⟩ : Record) ∈ rs) ∧
      ∃ rs, models.select (compile [] (some " 50 ") ["Model"]) = .ok rs ∧
        (⟨2, [.null, .int 500]⟩ : Record) ∈ rs := by
  intro d
  have known : ∀ c ∈ ["Model"], c ∈ models.columnNames := by decide
  have looks : d.LooksFor "Oé" := ⟨.inr (.inr rfl), rfl⟩
  have literal : Literal "Oé" := ⟨by decide, by decide, by decide, by decide⟩
  have given : term (some " 50 ") ≠ "" := by decide
  have literal' : Literal (term (some " 50 ")) := ⟨by decide, by decide, by decide, by decide⟩
  have whole : ∀ r ∈ models.records, (models.shown r "Model").Whole := by decide
  obtain ⟨ends, finds, -⟩ := select_pieces models ["Model"] known
  obtain ⟨rs, selected, zoe⟩ := ends d "Oé" (by decide) looks literal
  obtain ⟨rs', selected', fiat⟩ := finds (some " 50 ") given literal'
  have piece : folded "Oé" <:+ folded "Zoé" := by decide
  have piece' : folded (term (some " 50 ")) <:+: folded "500" := by decide
  refine ⟨known, by decide, looks, literal, given, literal', whole, ⟨rs, selected, ?_⟩, rs', selected', ?_⟩
  · exact (zoe _ (by decide) (by decide)).2 ⟨"Zoé", by decide, piece⟩
  · refine (fiat _ (by decide) fun c hc => ?_).2 (.inr ⟨"Model", by decide, "500", by decide, piece'⟩)
    rw [List.mem_singleton.1 hc]
    decide

/-- A filter for a code point that stands for no character finds another one, and a search of no cells finds
    what is in none. -/
theorem pieces_not_exact :
    (¬ ∀ (t : Table) (d : Descriptor) (v : String), d.field ∈ t.columnNames → d.LooksFor v → Literal v →
      ∃ rs, t.select (compile [d] none []) = .ok rs ∧
        ∀ r ∈ t.records, ∀ s, t.shown r d.field = .text s → '\x00' ∉ s.toList →
          (r ∈ rs ↔ d.operator.Finds (v.toList.map Char.toLower) (s.toList.map Char.toLower))) ∧
    ¬ ∀ (t : Table) (search : Option String) (columns : List String), (∀ c ∈ columns, c ∈ t.columnNames) →
      term search ≠ "" → Literal (term search) →
      ∃ rs, t.select (compile [] search columns) = .ok rs ∧
        ∀ r ∈ t.records, (∀ c ∈ columns, (t.shown r c).Whole) →
          (r ∈ rs ↔ ∃ c ∈ columns, ∃ s, (t.shown r c).text? = some s ∧
            folded (term search) <:+: folded s) := by
  constructor
  · intro claimed
    let d : Descriptor := ⟨"Model", .contains, some "\uFFFE", by decide, by decide⟩
    have literal : Literal "\uFFFE" := ⟨by decide, by decide, by decide, by decide⟩
    obtain ⟨rs, selected, right⟩ := claimed models d "\uFFFE" (by decide) ⟨.inl rfl, rfl⟩ literal
    have found : models.select (compile [d] none []) = .ok [⟨4, [.null, .text "\uFFFD"]⟩] := by
      decide +kernel
    obtain rfl := Except.ok.inj (found.symm.trans selected)
    have piece : "\uFFFE".toList.map Char.toLower <:+: "\uFFFD".toList.map Char.toLower :=
      (right _ (by decide) "\uFFFD" (by decide) (by decide)).1 (List.mem_singleton_self _)
    revert piece
    decide
  · intro claimed
    have literal : Literal (term (some "a")) := ⟨by decide, by decide, by decide, by decide⟩
    obtain ⟨rs, selected, right⟩ := claimed models (some "a") [] (by simp) (by decide) literal
    have found : models.select (compile [] (some "a") []) = .ok models.records := by decide +kernel
    obtain rfl := Except.ok.inj (found.symm.trans selected)
    obtain ⟨c, hc, -⟩ := (right ⟨3, [.null, .null]⟩ (by decide) (by simp)).1 (by decide)
    cases hc

end Table

end Store

end Dataset
