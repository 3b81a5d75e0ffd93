import Dataset.Proofs.Store.Decision
import Dataset.Proofs.Store.Order

/-!
# Values that equalities fix

The value that the last equality of a column fixes stands for the column in all other tests. Nothing is
changed by that for a record as long as comparisons and patterns cannot tell the value from what the
record shows.

* `Table.Agrees`, **`Table.decide?_test`**: fixed values that stand for what a record shows, and tests that
  decide with them what they decide on the record itself;
* `Table.exists_last`: a value is fixed by the last equality, whose test is one of the record itself;
* `Table.Faithful`, **`Table.all_tests_iff`**: where every equality that a record meets fixes what the
  record shows, the record passes all tests exactly if it meets all conditions.
-/

namespace Dataset.Store

open Dataset.Filter (Condition Relation)

/-! ## 1. Values that are alike -/

namespace Cell

variable {a b : Cell}

/-- Equal values are of one class. -/
theorem rank_eq_of_cmp (same : a.cmp b = .eq) : a.rank = b.rank := by
  by_contra apart
  rw [cmp_of_apart apart, Nat.compare_eq_eq] at same
  exact apart same

/-- Equal values are both missing, or neither is. -/
theorem isNull_congr (same : a.cmp b = .eq) : a.isNull = b.isNull := by
  have alike := rank_eq_of_cmp same
  cases a <;> cases b <;> simp_all [rank, isNull]

/-- Equal values stand in the same relations. -/
theorem relates_congr (same : a.cmp b = .eq) (relation : Relation) (v : Cell) :
    a.relates relation v = b.relates relation v := by
  rw [relates, relates, isNull_congr same, Std.TransCmp.congr_left same]

theorem cmp_text_eq_iff (s : String) : a.cmp (.text s) = .eq ↔ a = .text s := by
  cases a with
  | text x => simp [cmp]
  | _ => simp [cmp, rank]

/-- Equal values are the same text, or neither is it. -/
theorem beq_text_congr (same : a.cmp b = .eq) (s : String) : (a == .text s) = (b == .text s) := by
  rw [Bool.eq_iff_iff, beq_iff_eq, beq_iff_eq, ← cmp_text_eq_iff, ← cmp_text_eq_iff,
    Std.TransCmp.congr_left same]

theorem cmp_self (c : Cell) : c.cmp c = .eq := Std.ReflCmp.compare_self

end Cell

/-- Values of the same texts match a pattern alike. -/
theorem anyLike?_congr {pattern : String} : ∀ {as bs : List Cell},
    as.map Cell.codes? = bs.map Cell.codes? → anyLike? pattern as = anyLike? pattern bs
  | [], [], _ => rfl
  | a :: as, b :: bs, same => by
    obtain ⟨here, there⟩ := List.cons.inj same
    rw [anyLike?, anyLike?, Cell.like?_congr here, anyLike?_congr there]

/-- The names under which a condition looks for a pattern. -/
def patternNames : Condition → List String
  | .like column _ => [column]
  | .compare _ _ _ | .blank _ => []
  | .search columns _ => columns

namespace Table

variable {t : Table} {fixed : Reference → Option Cell} {conditions : List Condition} {r : Record}

/-! ## 2. Tests with fixed values -/

/-- One of the conditions looks for a pattern at a place. -/
def LooksAt (t : Table) (conditions : List Condition) (place : Reference) : Prop :=
  ∃ c ∈ conditions, ∃ name ∈ patternNames c, t.resolve? name = some place

/-- Fixed values stand for what a record shows: comparisons do not tell them apart, and neither do the
    patterns of the conditions. -/
structure Agrees (t : Table) (fixed : Reference → Option Cell) (conditions : List Condition)
    (r : Record) : Prop where
  compared {place : Reference} {c : Cell} : fixed place = some c → (read r place).cmp c = .eq
  shown {place : Reference} {c : Cell} : fixed place = some c → t.LooksAt conditions place →
    t.affinityOf place ≠ .none → c.codes? = (read r place).codes?

/-- What a test looks at is what the record shows, or a value that is fixed for it. -/
theorem operand_cases (t : Table) (fixed : Reference → Option Cell) (r : Record) (name : String) :
    (t.operand fixed name).value (t.cell r) = t.cell r name ∨
      ∃ place c, t.resolve? name = some place ∧ fixed place = some c ∧
        (t.operand fixed name).value (t.cell r) = c ∧ t.cell r name = read r place := by
  cases found : t.resolve? name with
  | none =>
    rw [operand, found]
    exact .inl rfl
  | some place =>
    rw [operand, found, Option.bind_some]
    cases stands : fixed place with
    | none => exact .inl rfl
    | some c => exact .inr ⟨place, c, rfl, stands, rfl, by rw [cell, found]; rfl⟩

theorem cmp_operand (compared : ∀ place c, fixed place = some c → (read r place).cmp c = .eq)
    (name : String) : ((t.operand fixed name).value (t.cell r)).cmp (t.cell r name) = .eq := by
  rcases t.operand_cases fixed r name with same | ⟨place, c, -, stands, value, shown⟩
  · rw [same, Cell.cmp_self]
  · rw [value, shown]
    exact Std.OrientedCmp.eq_symm (compared place c stands)

theorem cmp_shownOperand (agrees : t.Agrees fixed conditions r) (name : String) :
    ((t.shownOperand fixed name).value (t.cell r)).cmp (t.cell r name) = .eq := by
  refine cmp_operand (fun place c stands => ?_) name
  split_ifs at stands
  exact agrees.compared stands

theorem codes?_shownOperand (agrees : t.Agrees fixed conditions r) {e : Condition}
    (he : e ∈ conditions) {name : String} (looks : name ∈ patternNames e) :
    ((t.shownOperand fixed name).value (t.cell r)).codes? = (t.cell r name).codes? := by
  rw [shownOperand]
  rcases t.operand_cases (fun place => if t.affinityOf place = .none then none else fixed place) r name
    with same | ⟨place, c, found, stands, value, shown⟩
  · rw [same]
  · split_ifs at stands with plain
    rw [value, shown, agrees.shown stands ⟨e, he, name, looks, found⟩ plain]

/-- **With fixed values that stand for what a record shows, the test of a condition decides what it
    decides on the record itself.** -/
theorem decide?_test (agrees : t.Agrees fixed conditions r) {c : Condition} (hc : c ∈ conditions) :
    (t.test fixed c).decide? (t.cell r) = t.meets? r c := by
  rw [meets?]
  cases c with
  | like name pattern =>
    rw [test, test, Test.decide?, Test.decide?, shownOperand_none]
    exact Cell.like?_congr (codes?_shownOperand agrees hc (List.mem_singleton_self name)) pattern
  | compare name relation v =>
    rw [test, test, Test.decide?, Test.decide?, operand_none]
    exact congrArg some
      (Cell.relates_congr (cmp_operand (fun _ _ => agrees.compared) name) relation (t.bound name v))
  | blank name =>
    rw [test, test, Test.decide?, Test.decide?, shownOperand_none, operand_none,
      Cell.isNull_congr (cmp_shownOperand agrees name),
      Cell.beq_text_congr (cmp_operand (fun _ _ => agrees.compared) name)]
    rfl
  | search names pattern =>
    rw [test, test, Test.decide?, Test.decide?]
    refine anyLike?_congr ?_
    simp only [List.map_map]
    refine List.map_congr_left fun name looks => ?_
    simp only [Function.comp_apply, shownOperand_none]
    exact codes?_shownOperand agrees hc looks

/-! ## 3. What is fixed -/

theorem equalities_cons (c : Condition) (rest : List Condition) :
    t.equalities (c :: rest) = (t.equates? c).toList ++ t.equalities rest := by
  rw [equalities, List.filterMap_cons]
  cases t.equates? c <;> rfl

/-- At most one equality is looked through. -/
theorem eq_some_of_lookup {e : Option (Reference × String)} {place : Reference} {v : String}
    (found : e.toList.reverse.lookup place = some v) : e = some (place, v) := by
  cases e with
  | none => cases found
  | some p =>
    rw [Option.toList_some, List.reverse_singleton, List.lookup_cons] at found
    split at found
    · rename_i same
      rw [← Option.some.inj found, beq_iff_eq.1 same]
    · cases found

/-- **The value of a place is fixed by the last equality for it**, and this is tested on the record
    itself. -/
theorem exists_last {place : Reference} {v : String}
    (last : (t.equalities conditions).reverse.lookup place = some v)
    (fixed : Reference → Option Cell) :
    ∃ e ∈ conditions, t.equates? e = some (place, v) ∧
      t.test (fun _ => none) e ∈ t.testsFrom fixed conditions := by
  induction conditions with
  | nil => cases last
  | cons c rest ih =>
    rw [equalities_cons, List.reverse_append, List.lookup_append, Option.or_eq_some_iff] at last
    rcases last with later | ⟨nothing, here⟩
    · obtain ⟨e, he, equates, tested⟩ := ih later
      exact ⟨e, .tail _ he, equates, .tail _ tested⟩
    · have equates : t.equates? c = some (place, v) := eq_some_of_lookup here
      have none_behind : t.fixesLast c rest = true := by
        have other := List.lookup_eq_none_iff.1 nothing
        simp only [fixesLast, equates, List.all_eq_true]
        intro e he
        simpa [bne, Bool.beq_comm] using other e (List.mem_reverse.2 he)
      refine ⟨c, List.mem_cons_self, equates, ?_⟩
      rw [testsFrom, none_behind]
      exact List.mem_cons_self

/-- A fixed value is what is stored for the text of an equality that is tested on the record itself. -/
theorem exists_of_fixed? {place : Reference} {c : Cell} (stands : t.fixed? conditions place = some c) :
    ∃ e ∈ conditions, ∃ v, t.equates? e = some (place, v) ∧
      c = (t.affinityOf place).store (.text v) ∧ t.test (fun _ => none) e ∈ t.tests conditions := by
  obtain ⟨v, last, rfl⟩ := Option.map_eq_some_iff.1 stands
  obtain ⟨e, he, equates, tested⟩ := exists_last last (t.fixed? conditions)
  exact ⟨e, he, v, equates, rfl, tested⟩

/-- Tests are those of the conditions, with values that are fixed or without. -/
theorem mem_testsFrom {x : Test} (hx : x ∈ t.testsFrom fixed conditions) :
    ∃ c ∈ conditions, x = t.test fixed c ∨ x = t.test (fun _ => none) c := by
  induction conditions with
  | nil => cases hx
  | cons c rest ih =>
    rw [testsFrom] at hx
    rcases List.mem_cons.1 hx with rfl | hx
    · refine ⟨c, List.mem_cons_self, ?_⟩
      cases t.fixesLast c rest
      · exact .inl rfl
      · exact .inr rfl
    · obtain ⟨e, he, same⟩ := ih hx
      exact ⟨e, .tail _ he, same⟩

theorem forall_testsFrom_iff {p : Test → Prop} {q : Condition → Prop}
    (same : ∀ c ∈ conditions, (p (t.test fixed c) ↔ q c) ∧ (p (t.test (fun _ => none) c) ↔ q c)) :
    (∀ x ∈ t.testsFrom fixed conditions, p x) ↔ ∀ c ∈ conditions, q c := by
  induction conditions with
  | nil => simp [testsFrom]
  | cons c rest ih =>
    obtain ⟨here, there⟩ := List.forall_mem_cons.1 same
    rw [testsFrom, List.forall_mem_cons, List.forall_mem_cons, ih there]
    refine and_congr_left fun _ => ?_
    cases t.fixesLast c rest
    · exact here.1
    · exact here.2

/-- One condition is tested on the record itself. -/
theorem tests_singleton (c : Condition) : t.tests [c] = [t.test (fun _ => none) c] := by
  cases equates : t.equates? c with
  | some e =>
    have last : t.fixesLast c [] = true := by simp [fixesLast, equates, equalities]
    rw [tests, testsFrom, last]
    rfl
  | none =>
    have nothing : t.fixed? [c] = fun _ => none := by
      funext place
      simp [fixed?, equalities, equates]
    rw [tests, testsFrom, nothing, ite_self]
    rfl

theorem patterns_test (fixed : Reference → Option Cell) (c : Condition) :
    (t.test fixed c).patterns = c.patterns := by
  cases c <;> simp [test, Test.patterns, Condition.patterns, Function.comp_def]

/-- Tests are of short patterns if the conditions are. -/
theorem not_long_of_short
    (short : ∀ c ∈ conditions, ∀ p ∈ c.patterns, p.utf8ByteSize ≤ maxPatternBytes) :
    ∀ x ∈ t.tests conditions, ¬ x.Long := by
  rintro x hx ⟨p, hp, long⟩
  obtain ⟨c, hc, rfl | rfl⟩ := mem_testsFrom hx
  all_goals
    rw [patterns_test] at hp
    exact Nat.not_le.2 long (short c hc p hp)

/-! ## 4. Faithful equalities -/

/-- An equality that the record meets is among the conditions. -/
def MeetsEquality (t : Table) (conditions : List Condition) (r : Record) (place : Reference)
    (v : String) : Prop :=
  ∃ e ∈ conditions, t.equates? e = some (place, v) ∧ t.meets? r e = some true

/-- Every equality that a record meets fixes what the record shows, and one of its number asks for this
    integer. -/
structure Faithful (t : Table) (conditions : List Condition) (r : Record) : Prop where
  numbered {v : String} : t.MeetsEquality conditions r .number v →
    Affinity.integer.bound v = .int r.number
  compared {place : Reference} {v : String} : t.MeetsEquality conditions r place v →
    (read r place).cmp ((t.affinityOf place).store (.text v)) = .eq
  shown {place : Reference} {v : String} : t.MeetsEquality conditions r place v →
    t.LooksAt conditions place → t.affinityOf place ≠ .none →
    ((t.affinityOf place).store (.text v)).codes? = (read r place).codes?

/-- Where each fixed value belongs to an equality that the record meets, it stands for what the record
    shows. -/
theorem Faithful.agrees (faithful : t.Faithful conditions r)
    (met : ∀ e ∈ conditions, ∀ place v, t.equates? e = some (place, v) →
      t.test (fun _ => none) e ∈ t.tests conditions → t.meets? r e = some true) :
    t.Agrees (t.fixed? conditions) conditions r where
  compared stands := by
    obtain ⟨e, he, v, equates, rfl, tested⟩ := exists_of_fixed? stands
    exact faithful.compared ⟨e, he, equates, met e he _ v equates tested⟩
  shown stands := by
    obtain ⟨e, he, v, equates, rfl, tested⟩ := exists_of_fixed? stands
    exact faithful.shown ⟨e, he, equates, met e he _ v equates tested⟩

/-- **A record passes all tests exactly if it meets all conditions**, where the equalities are
    faithful. -/
theorem all_tests_iff (faithful : t.Faithful conditions r) :
    (∀ x ∈ t.tests conditions, x.decide? (t.cell r) = some true) ↔
      ∀ c ∈ conditions, t.meets? r c = some true := by
  have same (agrees : t.Agrees (t.fixed? conditions) conditions r) :
      (∀ x ∈ t.tests conditions, x.decide? (t.cell r) = some true) ↔
        ∀ c ∈ conditions, t.meets? r c = some true :=
    forall_testsFrom_iff fun c hc => ⟨by rw [decide?_test agrees hc], .rfl⟩
  constructor
  · intro passes
    exact (same (faithful.agrees fun e _ _ _ _ tested => passes _ tested)).1 passes
  · intro meets
    exact (same (faithful.agrees fun e he _ _ _ _ => meets e he)).2 meets

end Table

end Dataset.Store
