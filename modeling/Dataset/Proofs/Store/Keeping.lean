import Dataset.Proofs.Number.Canonical
import Dataset.Proofs.Store.Selection

/-!
# Values that columns keep

A column converts what is stored in it, and what it has converted it keeps. So where such a value equals a
text, it is what the column stores for the text, with one exception: the least integer of 64 bits, which
columns of numbers keep as an integer and as a real number.

* `Cell.Regular`, `Affinity.Keeps`: values of 64 bits, and those that a column has converted
  (`Affinity.keeps_store`);
* `Affinity.TakenForLeast`, **`Affinity.Keeps.eq_store`**: texts for the least integer; a value that equals
  any other text is what is stored for the text;
* `Table.Kept`: a table of such values;
* `Table.Doubtful`, **`Table.faithful_of_kept`**: where no filter asks for the least integer and another one
  for its digits, the equalities of a request are faithful.
-/

namespace Dataset.Store

open Number (Double Numeric minInt64)

/-! ## 1. Values -/

/-- A value that the store can hold: integers and real numbers are of 64 bits. -/
def Cell.Regular : Cell → Prop
  | .int n => Number.isInt64 n = true
  | .real r => ∃ negative, r.IsRounded negative
  | _ => True

namespace Affinity

variable {a : Affinity} {c : Cell} {v : String}

/-- `c` is a value that a column of affinity `a` stores as it is. -/
structure Keeps (a : Affinity) (c : Cell) : Prop where
  regular : c.Regular
  stored : a.store c = c

theorem regular_of_number? {x : Numeric} (number : Number.number? v.toList = some x) :
    (Cell.ofNumeric x).Regular := by
  cases x with
  | int k => exact Number.isInt64_of_number? number
  | real r => exact (Number.isRounded_of_number? number).1

theorem ofReal_of_number? {r : Double} (number : Number.number? v.toList = some (.real r)) :
    Numeric.ofReal r = .real r := (Number.isRounded_of_number? number).2

theorem keeps_storeNumeric (regular : c.Regular) :
    (storeNumeric c).Regular ∧ storeNumeric (storeNumeric c) = storeNumeric c := by
  cases c with
  | null | blob _ | int _ => exact ⟨regular, rfl⟩
  | real r =>
    rw [storeNumeric]
    cases value : Numeric.ofReal r with
    | int n => exact ⟨Number.isInt64_of_ofReal value, rfl⟩
    | real r' =>
      obtain ⟨rfl, kept⟩ := Number.Numeric.eq_of_ofReal value
      exact ⟨regular, by rw [Cell.ofNumeric, storeNumeric, kept]; rfl⟩
  | text v =>
    rw [storeNumeric]
    cases number : Number.number? v.toList with
    | none => exact ⟨trivial, by rw [Option.map_none, Option.getD_none, storeNumeric, number]; rfl⟩
    | some x =>
      refine ⟨regular_of_number? number, ?_⟩
      cases x with
      | int k => rfl
      | real r =>
        show storeNumeric (.real r) = .real r
        rw [storeNumeric, ofReal_of_number? number]
        rfl

theorem natAbs_lt_of_isInt64 {k : Int} (fits : Number.isInt64 k = true) : k.natAbs < 2 ^ 200 := by
  obtain ⟨low, high⟩ := Number.isInt64_iff.1 fits
  have least : minInt64 = -9223372036854775808 := by decide
  have largest : Number.maxInt64 = 9223372036854775807 := by decide
  omega

/-- An integer is stored as the number of 64 bits that it is rounded to, and this is kept. -/
theorem storeReal_ofInt (k : Int) : storeReal (.real (Double.ofInt k)) = .real (Double.ofInt k) := by
  have rounded := Double.isRounded_ofInt k
  rw [storeReal]
  cases value : Numeric.ofReal (Double.ofInt k) with
  | real r => rw [← (Number.Numeric.eq_of_ofReal value).1]; rfl
  | int m =>
    obtain ⟨sides, same⟩ := Number.toRat_of_ofReal value
    refine congrArg Cell.real ?_
    by_cases zero : m = 0
    · subst zero
      rw [Int.cast_zero] at same
      rw [Double.eq_zero_of_ofInt sides same]
    · exact rounded.eq_ofInt sides same zero (natAbs_lt_of_isInt64 (Number.isInt64_of_ofReal value))

theorem keeps_storeReal (regular : c.Regular) :
    (storeReal c).Regular ∧ storeReal (storeReal c) = storeReal c := by
  have integer (k : Int) : (asReal (.int k)).Regular ∧ storeReal (asReal (.int k)) = asReal (.int k) :=
    ⟨⟨_, Double.isRounded_ofInt k⟩, storeReal_ofInt k⟩
  cases c with
  | null | blob _ => exact ⟨regular, rfl⟩
  | int k => exact integer k
  | real r =>
    rw [storeReal]
    cases value : Numeric.ofReal r with
    | int n => exact integer n
    | real r' =>
      obtain ⟨rfl, kept⟩ := Number.Numeric.eq_of_ofReal value
      exact ⟨regular, by rw [asReal, storeReal, kept]; rfl⟩
  | text v =>
    rw [storeReal]
    cases number : Number.number? v.toList with
    | none => exact ⟨trivial, by rw [Option.map_none, Option.getD_none, storeReal, number]; rfl⟩
    | some x =>
      cases x with
      | int k => exact integer k
      | real r =>
        refine ⟨regular_of_number? number, ?_⟩
        show storeReal (.real r) = .real r
        rw [storeReal, ofReal_of_number? number]
        rfl

/-- **What a column has stored it keeps.** -/
theorem keeps_store (a : Affinity) (regular : c.Regular) : a.Keeps (a.store c) := by
  cases a with
  | integer | numeric => exact ⟨(keeps_storeNumeric regular).1, (keeps_storeNumeric regular).2⟩
  | real => exact ⟨(keeps_storeReal regular).1, (keeps_storeReal regular).2⟩
  | text => cases c <;> exact ⟨trivial, rfl⟩
  | none => exact ⟨regular, rfl⟩

/-- A column of numbers takes `v` for the integer -2^63. -/
def TakenForLeast (v : String) : Prop := (Cell.int minInt64).cmp (numeric.bound v) = .eq

/-! ## 2. Values that equal a text -/

/-- A column of numbers takes a text for the number that it is. -/
theorem numeric_bound (v : String) :
    numeric.bound v = ((Number.number? v.toList).map Cell.ofNumeric).getD (.text v) := rfl

theorem rank_ofNumeric (x : Numeric) : (Cell.ofNumeric x).rank = 1 := by cases x <;> rfl

theorem number_of_cmp_int {n : Int} (same : (Cell.int n).cmp c = .eq) :
    c = .int n ∨ ∃ r, c = .real r ∧ (Double.ofInteger n).cmp r = .eq := by
  cases c with
  | int m => exact .inl (congrArg Cell.int (Std.compare_eq_iff_eq.1 same).symm)
  | real r => exact .inr ⟨r, rfl, same⟩
  | _ => cases same

/-- An integer that equals a text is what a column of numbers stores for the text, or the least. -/
theorem numeric_of_int {n : Int} (fits : Number.isInt64 n = true)
    (same : (Cell.int n).cmp (numeric.bound v) = .eq) :
    numeric.bound v = .int n ∨ TakenForLeast v := by
  rcases number_of_cmp_int same with integer | ⟨r, real, equal⟩
  · exact .inl integer
  · have read : Number.number? v.toList = some (.real r) := by
      rw [numeric_bound] at real
      rcases number : Number.number? v.toList with _ | ⟨k⟩ | ⟨x⟩ <;> rw [number] at real <;> cases real
      rfl
    obtain ⟨⟨s, rounded⟩, kept⟩ := Number.isRounded_of_number? read
    obtain rfl := Number.eq_minInt64_of_ofReal rounded kept fits equal
    exact .inr same

theorem ofReal_of_stored {r : Double} (stored : storeNumeric (.real r) = .real r) :
    Numeric.ofReal r = .real r := by
  rw [storeNumeric] at stored
  cases value : Numeric.ofReal r with
  | int n => rw [value] at stored; cases stored
  | real r' => rw [value] at stored; rw [Cell.real.inj stored]

/-- A value kept by a column of numbers that equals a text is what the column stores for the text, or the
    least integer. -/
theorem numeric_of_kept (regular : c.Regular) (stored : storeNumeric c = c)
    (same : c.cmp (numeric.bound v) = .eq) : c = numeric.bound v ∨ TakenForLeast v := by
  cases c with
  | int n =>
    rcases numeric_of_int regular same with integer | least
    · exact .inl integer.symm
    · exact .inr least
  | real r =>
    obtain ⟨s, rounded⟩ := regular
    have kept := ofReal_of_stored stored
    rw [TakenForLeast]
    rw [numeric_bound] at same ⊢
    rcases number : Number.number? v.toList with _ | ⟨k⟩ | ⟨x⟩ <;> rw [number] at same
    · cases same
    · have equal : (Cell.int k).cmp (.real r) = .eq := Std.OrientedCmp.eq_symm same
      obtain rfl := Number.eq_minInt64_of_ofReal rounded kept (Number.isInt64_of_number? number) equal
      exact .inr (Cell.cmp_self _)
    · obtain ⟨⟨s', rounded'⟩, -⟩ := Number.isRounded_of_number? number
      exact .inl (congrArg Cell.real (rounded.eq_of_cmp rounded' same (Number.nonzero_of_ofReal kept)))
  | null | text s | blob b =>
    -- no value of another class equals a number, and a text only the text itself
    rw [numeric_bound] at same ⊢
    cases number : Number.number? v.toList with
    | none =>
      rw [number] at same
      exact .inl ((Cell.cmp_text_eq_iff v).1 same)
    | some x =>
      rw [number] at same
      cases (Cell.rank_eq_of_cmp same).trans (rank_ofNumeric x)

/-- A real number kept by a column of real numbers is what the column stores for an equal integer. -/
theorem eq_storeReal_int {k : Int} {r : Double} (regular : (Cell.real r).Regular)
    (stored : storeReal (.real r) = .real r) (fits : Number.isInt64 k = true)
    (equal : (Cell.int k).cmp (.real r) = .eq) : Cell.real r = storeReal (.int k) := by
  obtain ⟨s, rounded⟩ := regular
  rw [Cell.cmp, Double.cmpInt_eq] at equal
  obtain ⟨sides, value⟩ := Double.cmp_eq_eq_iff.1 equal
  rw [Double.toRat_ofInteger] at value
  by_cases zero : k = 0
  · subst zero
    cases r with
    | infinite s => cases s <;> cases sides
    | finite s d =>
      have integer := Number.Numeric.ofReal_of_integer value (by decide) (by decide)
      rw [storeReal, integer] at stored
      exact stored.symm
  · exact congrArg Cell.real (rounded.eq_ofInt sides.symm value.symm zero (natAbs_lt_of_isInt64 fits)).symm

/-- A value kept by a column of real numbers that equals a text is what the column stores for the text. -/
theorem real_of_kept (regular : c.Regular) (stored : storeReal c = c)
    (same : c.cmp (real.bound v) = .eq) : c = storeReal (.text v) := by
  have bound : real.bound v = numeric.bound v := rfl
  rw [bound, numeric_bound] at same
  rw [storeReal]
  cases number : Number.number? v.toList with
  | none =>
    rw [number] at same
    exact (Cell.cmp_text_eq_iff v).1 same
  | some y =>
    rw [number] at same
    have class_of_numbers := (Cell.rank_eq_of_cmp same).trans (rank_ofNumeric y)
    cases c with
    | null | text _ | blob _ => cases class_of_numbers
    | int n => cases stored
    | real r =>
      cases y with
      | int k =>
        have equal : (Cell.int k).cmp (.real r) = .eq := Std.OrientedCmp.eq_symm same
        exact eq_storeReal_int regular stored (Number.isInt64_of_number? number) equal
      | real x =>
        obtain ⟨s, rounded⟩ := regular
        obtain ⟨⟨s', rounded'⟩, kept⟩ := Number.isRounded_of_number? number
        have equal : (Cell.real x).cmp (.real r) = .eq := Std.OrientedCmp.eq_symm same
        exact congrArg Cell.real
          (rounded'.eq_of_cmp rounded equal (Number.nonzero_of_ofReal kept)).symm

/-- **A value that a column keeps, and that equals a text, is what the column stores for the text**, unless
    it is a column of numbers that takes the text for the least integer. -/
theorem Keeps.eq_store (keeps : a.Keeps c) (same : c.cmp (a.bound v) = .eq) :
    c = a.store (.text v) ∨ (a = .integer ∨ a = .numeric) ∧ TakenForLeast v := by
  obtain ⟨regular, stored⟩ := keeps
  cases a with
  | text => exact .inl ((Cell.cmp_text_eq_iff v).1 same)
  | none => exact .inl ((Cell.cmp_text_eq_iff v).1 same)
  | integer => exact (numeric_of_kept regular stored same).imp id fun least => ⟨.inl rfl, least⟩
  | numeric => exact (numeric_of_kept regular stored same).imp id fun least => ⟨.inr rfl, least⟩
  | real => exact .inl (real_of_kept regular stored same)

end Affinity

/-! ## 3. Requests -/

open Dataset.Filter (Condition Descriptor compile term)

namespace Table

variable {t : Table} {r : Record} {filters : List Descriptor} {search : Option String}
  {columns : List String}

/-- Every cell that `t` shows is one that the affinity of its column `Keeps`. -/
def Kept (t : Table) : Prop :=
  ∀ r ∈ t.records, ∀ n ∈ t.columnNames, (t.declaredAffinity n).Keeps (t.shown r n)

/-- One of `filters`, or `search`, looks for a pattern under `name`. -/
def LooksUnder (filters : List Descriptor) (search : Option String) (columns : List String)
    (name : String) : Prop :=
  (∃ e ∈ filters, e.pattern? ≠ none ∧ e.field = name) ∨ term search ≠ "" ∧ name ∈ columns

/-- The filter `d` asks by equality for the integer -2^63: of the key, with a text that is read as a real
    number, or of another column of numbers under whose name a pattern is looked for too. -/
def Doubtful (t : Table) (filters : List Descriptor) (search : Option String) (columns : List String)
    (d : Descriptor) : Prop :=
  d.operator = .equals ∧ Affinity.TakenForLeast (d.value.getD "") ∧
    if (t.column? d.field).any Column.isKey then
      Affinity.numeric.bound (d.value.getD "") ≠ .int minInt64
    else (t.declaredAffinity d.field = .integer ∨ t.declaredAffinity d.field = .numeric) ∧
      LooksUnder filters search columns d.field

/-- The order of the filters makes none of them doubtful. -/
theorem Doubtful.perm {filters' : List Descriptor} (same : filters'.Perm filters) {d : Descriptor}
    (h : t.Doubtful filters' search columns d) : t.Doubtful filters search columns d := by
  simpa only [Doubtful, LooksUnder, same.mem_iff] using h

theorem patternNames_condition {d : Descriptor} {name : String} (looks : name ∈ patternNames d.condition) :
    d.pattern? ≠ none ∧ d.field = name := by
  cases h : d.operator <;> simp_all [Descriptor.condition, patternNames, Descriptor.pattern?]

/-- Where the conditions of a request look for a pattern, one of its filters does, or the search. -/
theorem looksUnder_of_looksAt (live : ∀ d ∈ filters, d.field ∈ t.columnNames)
    (known : ∀ c ∈ columns, c ∈ t.columnNames) {name : String} (named : name ∈ t.columnNames) {i : Nat}
    (found : t.resolve? name = some (.cell i))
    (looks : t.LooksAt (compile filters search columns).conditions (.cell i)) :
    LooksUnder filters search columns name := by
  obtain ⟨c, hc, other, names, there⟩ := looks
  rw [compile, List.mem_append, Filter.searchConditions_eq] at hc
  rcases hc with hc | hc
  · obtain ⟨e, he, rfl⟩ := List.mem_map.1 hc
    obtain ⟨pattern, rfl⟩ := patternNames_condition names
    exact .inl ⟨e, he, pattern, eq_of_resolve?_cell named (live e he) found there⟩
  · split_ifs at hc with nothing
    · cases hc
    · rw [List.mem_singleton.1 hc] at names
      obtain rfl := eq_of_resolve?_cell named (known other names) found there
      exact .inr ⟨(not_or.1 nothing).1, names⟩

/-- An equality that a record meets is one of the filters, and its text equals what the record shows. -/
theorem exists_filter_of_meetsEquality (kept : t.Kept) (hr : r ∈ t.records)
    (live : ∀ d ∈ filters, d.field ∈ t.columnNames) {place : Reference} {v : String}
    (meets : t.MeetsEquality (compile filters search columns).conditions r place v) :
    ∃ d ∈ filters, d.operator = .equals ∧ t.resolve? d.field = some place ∧ d.value.getD "" = v ∧
      (t.affinityOf place).Keeps (read r place) ∧
      (read r place).cmp ((t.affinityOf place).bound v) = .eq := by
  have wide := t.complete r hr
  obtain ⟨d, hd, equals, found, rfl, holds⟩ := exists_of_meetsEquality meets
  have condition : d.condition = .compare d.field .equal (d.value.getD "") := by
    simp only [Descriptor.condition, equals]
  rw [condition, meets?_compare_iff wide (live d hd)] at holds
  rw [affinityOf_eq (live d hd) found, read_eq_shown wide (live d hd) found]
  exact ⟨d, hd, equals, found, rfl, kept r hr d.field (live d hd), holds.2⟩

/-- The text of an equality with the key that a record meets is read as its number. -/
theorem bound_of_meetsEquality (kept : t.Kept) (hr : r ∈ t.records)
    (live : ∀ d ∈ filters, d.field ∈ t.columnNames)
    (clear : ∀ d ∈ filters, ¬ t.Doubtful filters search columns d) {v : String}
    (meets : t.MeetsEquality (compile filters search columns).conditions r .number v) :
    Affinity.integer.bound v = .int r.number := by
  obtain ⟨d, hd, equals, found, rfl, keeps, same⟩ := exists_filter_of_meetsEquality kept hr live meets
  rcases Affinity.numeric_of_int keeps.regular same with integer | least
  · exact integer
  · have key := (resolve?_eq_number_iff (live d hd)).1 found
    have integer : Affinity.numeric.bound (d.value.getD "") = .int minInt64 := by
      by_contra real
      exact clear d hd ⟨equals, least, by rwa [if_pos key]⟩
    rw [Cell.eq_of_cmp_int same least]
    exact integer

/-- **Where no filter is doubtful, the equalities of a request are faithful** on every record of a table that
    keeps its values. -/
theorem faithful_of_kept (kept : t.Kept) (hr : r ∈ t.records)
    (live : ∀ d ∈ filters, d.field ∈ t.columnNames) (known : ∀ c ∈ columns, c ∈ t.columnNames)
    (clear : ∀ d ∈ filters, ¬ t.Doubtful filters search columns d) :
    t.Faithful (compile filters search columns).conditions r := by
  have numbered {v : String} := bound_of_meetsEquality kept hr live clear (v := v)
  refine ⟨numbered, fun {place v} meets => ?_, fun {place v} meets looks plain => ?_⟩
  · obtain ⟨d, hd, equals, found, rfl, keeps, same⟩ := exists_filter_of_meetsEquality kept hr live meets
    rcases keeps.eq_store same with stored | ⟨integer | numeric, -⟩
    · rw [← stored, Cell.cmp_self]
    · rwa [integer] at same ⊢
    · rwa [numeric] at same ⊢
  · cases place with
    | number => exact congrArg Cell.codes? (numbered meets)
    | cell i =>
      obtain ⟨d, hd, equals, found, rfl, keeps, same⟩ := exists_filter_of_meetsEquality kept hr live meets
      rcases keeps.eq_store same with stored | ⟨numbers, least⟩
      · rw [← stored]
      · have other : ¬ (t.column? d.field).any Column.isKey = true := by
          simp [← resolve?_eq_number_iff (live d hd), found]
        rw [affinityOf_eq (live d hd) found] at numbers
        have both := looksUnder_of_looksAt live known (live d hd) found looks
        exact absurd ⟨equals, least, by rw [if_neg other]; exact ⟨numbers, both⟩⟩ (clear d hd)

end Table

end Dataset.Store
