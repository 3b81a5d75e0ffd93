import Dataset.Proofs.Store.Fixed
import Dataset.Proofs.Store.PatternText

/-!
# What a conjunction selects

A conjunction is decided in three steps: its tests that need no record first, then the comparisons of the
number of a record, which say whether the record is looked at, then all tests on it.

* `Table.picks`, `Table.Stalls`: a record is looked at and passes all tests; the decision comes to a
  pattern that is too long;
* **`Table.meeting?_eq_none_iff`**, **`Table.meeting?_eq_some`**: the selection fails exactly if it
  stalls, and otherwise has the records that are picked;
* `Table.visits_of_meets`: a record that meets all conditions is looked at;
* **`Table.picks_iff`**: where the equalities are faithful, exactly the records are picked that meet all
  conditions. One condition needs no equalities (`Table.picks_singleton_iff`).
-/

namespace Dataset.Store

open Dataset.Filter (Condition Relation)

/-! ## 1. Tests that need no record -/

theorem Operand.value_of_isKnown {o : Operand} (known : o.isKnown = true) (look look' : String → Cell) :
    o.value look = o.value look' := by
  cases o with
  | column name => cases known
  | known c => rfl

/-- Such a test is decided alike on all records. -/
theorem Test.decide?_of_isKnown {x : Test} (known : x.isKnown = true) (look look' : String → Cell) :
    x.decide? look = x.decide? look' := by
  have same : ∀ o ∈ x.operands, o.value look = o.value look' := fun o ho =>
    Operand.value_of_isKnown (List.all_eq_true.1 known o ho) look look'
  cases x with
  | like o pattern => rw [Test.decide?, same o (by simp [Test.operands]), ← Test.decide?]
  | compare o relation v => rw [Test.decide?, same o (by simp [Test.operands]), ← Test.decide?]
  | blank missing compared =>
    rw [Test.decide?, same missing (by simp [Test.operands]), same compared (by simp [Test.operands]),
      ← Test.decide?]
  | search os pattern => exact congrArg (anyLike? pattern) (List.map_congr_left same)

namespace Table

variable {t : Table} {conditions : List Condition} {r : Record}

/-- The tests of `conditions` that compare constants alone and need no record. -/
def knownTests (t : Table) (conditions : List Condition) : List Test :=
  (t.tests conditions).filter Test.isKnown

/-- They hold of every record that passes all tests. -/
theorem knownTests_of_passed {look : String → Cell}
    (passed : ∀ x ∈ t.tests conditions, x.decide? look = some true) :
    Test.decideAll? (fun _ => .null) (t.knownTests conditions) = some true := by
  refine Test.decideAll?_eq_some_true_iff.2 fun x hx => ?_
  obtain ⟨hx, known⟩ := List.mem_filter.1 hx
  rw [Test.decide?_of_isKnown known _ look, passed x hx]

/-! ## 2. Selections -/

/-- The record is looked at and passes all tests. -/
def picks (t : Table) (conditions : List Condition) (r : Record) : Bool :=
  t.visits conditions r && Test.decideAll? (t.cell r) (t.tests conditions) == some true

/-- The evaluation of `conditions` on `t` comes to a pattern that is too long: among the `knownTests`, or, if
    these hold, on a record that it visits. -/
def Stalls (t : Table) (conditions : List Condition) : Prop :=
  Test.Reaches (fun _ => .null) (t.knownTests conditions) ∨
    (∀ x ∈ t.knownTests conditions, x.decide? (fun _ => .null) = some true) ∧
      ∃ r ∈ t.records, t.visits conditions r = true ∧ Test.Reaches (t.cell r) (t.tests conditions)


/-- The first record on which there is no decision ends the selection. -/
theorem selectFrom_eq_none_iff {tests : List Test} {rs : List Record} :
    t.selectFrom tests rs = none ↔ ∃ r ∈ rs, Test.decideAll? (t.cell r) tests = none := by
  induction rs with
  | nil => simp [selectFrom]
  | cons r rest ih =>
    simp only [List.mem_cons, exists_eq_or_imp, ← ih]
    rw [selectFrom]
    cases Test.decideAll? (t.cell r) tests with
    | none => simp
    | some b => cases b <;> simp

theorem selectFrom_eq_some {tests : List Test} {rs out : List Record}
    (h : t.selectFrom tests rs = some out) :
    out = rs.filter fun r => Test.decideAll? (t.cell r) tests == some true := by
  induction rs generalizing out with
  | nil =>
    cases h
    rfl
  | cons r rest ih =>
    rw [selectFrom] at h
    cases hm : Test.decideAll? (t.cell r) tests with
    | none =>
      rw [hm] at h
      cases h
    | some b =>
      rw [hm] at h
      cases b with
      | false => rw [List.filter_cons_of_neg (by simp [hm]), ih h]
      | true =>
        obtain ⟨later, hl, rfl⟩ := Option.map_eq_some_iff.1 h
        rw [List.filter_cons_of_pos (by simp [hm]), ih hl]

/-- The `knownTests` are decided first, and records are looked at only if these hold. -/
theorem meeting?_eq (t : Table) (conditions : List Condition) :
    t.meeting? conditions = (Test.decideAll? (fun _ => .null) (t.knownTests conditions)).bind fun holds =>
      if holds then t.selectFrom (t.tests conditions) (t.records.filter (t.visits conditions))
      else some [] := by
  rw [meeting?, knownTests]
  rcases Test.decideAll? (fun _ => Cell.null) ((t.tests conditions).filter Test.isKnown) with _ | _ | _ <;> rfl

/-- **A selection fails exactly if its decision comes to a pattern that is too long.** -/
theorem meeting?_eq_none_iff : t.meeting? conditions = none ↔ t.Stalls conditions := by
  have first : Test.decideAll? (fun _ => .null) (t.knownTests conditions) = none ↔
      Test.Reaches (fun _ => .null) (t.knownTests conditions) := Test.decideAll?_eq_none_iff
  have all : Test.decideAll? (fun _ => .null) (t.knownTests conditions) = some true ↔
      ∀ x ∈ t.knownTests conditions, x.decide? (fun _ => .null) = some true :=
    Test.decideAll?_eq_some_true_iff
  have then_records : t.selectFrom (t.tests conditions) (t.records.filter (t.visits conditions)) = none ↔
      ∃ r ∈ t.records, t.visits conditions r = true ∧ Test.Reaches (t.cell r) (t.tests conditions) := by
    simp only [selectFrom_eq_none_iff, List.mem_filter, and_assoc, Test.decideAll?_eq_none_iff]
  rw [Stalls, ← first, ← all, ← then_records, meeting?_eq]
  cases Test.decideAll? (fun _ => Cell.null) (t.knownTests conditions) with
  | none => simp
  | some b => cases b <;> simp

/-- **Any other selection has the records that are picked.** -/
theorem meeting?_eq_some {rs : List Record} (selected : t.meeting? conditions = some rs) :
    rs = t.records.filter (t.picks conditions) := by
  rw [meeting?_eq] at selected
  cases known : Test.decideAll? (fun _ => Cell.null) (t.knownTests conditions) with
  | none =>
    rw [known] at selected
    cases selected
  | some b =>
    rw [known] at selected
    cases b with
    | false =>
      obtain rfl := Option.some.inj selected
      refine (List.filter_eq_nil_iff.2 fun r _ picked => ?_).symm
      obtain ⟨-, passed⟩ := Bool.and_eq_true_iff.1 picked
      have holds := knownTests_of_passed (Test.decideAll?_eq_some_true_iff.1 (beq_iff_eq.1 passed))
      rw [known] at holds
      cases holds
    | true =>
      rw [selectFrom_eq_some selected, List.filter_filter]
      exact List.filter_congr fun r _ => Bool.and_comm ..

/-! ## 3. Records that are looked at -/

theorem numberText?_eq_some_iff {relation : Relation} {c : Condition} {v : String} :
    t.numberText? relation c = some v ↔
      ∃ name, c = .compare name relation v ∧ t.resolve? name = some .number := by
  cases c with
  | compare name ρ w =>
    rw [numberText?]
    split_ifs with h
    · simp only [Option.some.injEq, Condition.compare.injEq]
      constructor
      · rintro rfl
        exact ⟨name, ⟨rfl, h.1, rfl⟩, h.2⟩
      · rintro ⟨_, ⟨-, -, rfl⟩, -⟩
        rfl
    · refine ⟨nofun, ?_⟩
      rintro ⟨_, ⟨⟩, found⟩
      exact absurd ⟨rfl, found⟩ h
  | _ => simp [numberText?]

/-- A comparison of the number of a record says how the number stands to its text. -/
theorem meets?_number {name v : String} (found : t.resolve? name = some .number) (relation : Relation) :
    t.meets? r (.compare name relation v) =
      some ((Cell.int r.number).relates relation (Affinity.integer.bound v)) := by
  rw [meets?, test, operand_none, Test.decide?, Operand.value, cell, bound, found]
  rfl

/-- Bounds of a record's number are kept to by a record that meets all conditions. -/
theorem within_of_meets (meets : ∀ c ∈ conditions, t.meets? r c = some true) (relation : Relation) :
    t.within conditions r.number relation = true := by
  rw [within, Option.all_eq_true]
  intro v first
  obtain ⟨c, hc, text⟩ := List.exists_of_findSome?_eq_some first
  obtain ⟨name, rfl, found⟩ := numberText?_eq_some_iff.1 text
  simpa [meets?_number found] using meets _ hc

/-- No record that meets all conditions is shut out by one. -/
theorem not_shutsOut_of_meets {c : Condition} (meets : t.meets? r c = some true) :
    t.shutsOut c = false := by
  cases c with
  | like name pattern =>
    rw [Bool.eq_false_iff]
    intro out
    obtain ⟨found, apart⟩ := Bool.and_eq_true_iff.1 out
    rw [meets?, test, shownOperand_none, Test.decide?, Operand.value, cell, beq_iff_eq.1 found,
      Cell.like?_eq_some_true_iff] at meets
    exact Cell.not_like_of_startsApart apart r.number meets.2
  | _ => rfl

/-- **A record that meets all conditions is looked at**, if the equalities for its number ask for it. -/
theorem visits_of_meets (meets : ∀ c ∈ conditions, t.meets? r c = some true)
    (numbered : ∀ v, t.MeetsEquality conditions r .number v → Affinity.integer.bound v = .int r.number) :
    t.visits conditions r = true := by
  rw [visits]
  cases first : conditions.findSome? (t.numberText? .equal) with
  | some v =>
    obtain ⟨c, hc, text⟩ := List.exists_of_findSome?_eq_some first
    obtain ⟨name, rfl, found⟩ := numberText?_eq_some_iff.1 text
    have equates : t.equates? (.compare name .equal v) = some (.number, v) := by rw [equates?, found]; rfl
    exact beq_iff_eq.2 (numbered v ⟨_, hc, equates, meets _ hc⟩)
  | none =>
    have open_to_all : conditions.any t.shutsOut = false :=
      List.any_eq_false.2 fun c hc => by simp [not_shutsOut_of_meets (meets c hc)]
    rw [open_to_all, within_of_meets meets, within_of_meets meets]
    rfl

/-! ## 4. What is picked -/

theorem picks_iff_passed : t.picks conditions r = true ↔
    t.visits conditions r = true ∧ ∀ x ∈ t.tests conditions, x.decide? (t.cell r) = some true := by
  rw [picks, Bool.and_eq_true, beq_iff_eq, Test.decideAll?_eq_some_true_iff]

/-- **Where the equalities are faithful, the records are picked that meet all conditions.** -/
theorem picks_iff (faithful : t.Faithful conditions r) :
    t.picks conditions r = true ↔ ∀ c ∈ conditions, t.meets? r c = some true := by
  rw [picks_iff_passed, all_tests_iff faithful, and_iff_right_iff_imp]
  exact fun meets => visits_of_meets meets fun _ => faithful.numbered

/-- One condition picks the records that meet it, among those that are looked at. -/
theorem picks_singleton_iff (c : Condition) :
    t.picks [c] r = true ↔ t.visits [c] r = true ∧ t.meets? r c = some true := by
  rw [picks_iff_passed, tests_singleton, List.forall_mem_singleton, meets?]

end Table

end Dataset.Store
