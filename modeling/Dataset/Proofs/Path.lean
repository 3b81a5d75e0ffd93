import Dataset.Path
import Dataset.Proofs.Text.Splitting
import Mathlib.Data.List.TakeWhile

/-!
# The steps of a path

Of the names of a path some say nothing: the empty ones and the dots. The others are its steps, and a path
leads where its steps lead.

* `steps`: the names of a path that say something; `steps_join`: a relative path goes on where its base ends;
* `Within`: an absolute path has the steps of a directory as its first;
* `normalFrom_append`, `normalNames_eq`: where names lead is said step by step, and by the steps alone;
  `normalFrom_of_level`: names that never go up stand one behind the other;
* `weight_around`: letters at either end add to what the steps of a path say;
* `Tidy`: a path ends with a step, or has none;
* **`isParent_of_parent?`**: the parent of a path is a shorter, tidy path with all steps but the last
  (`IsParent`); `upper_of_steps_nil`: above a path without steps there is nothing.
-/

namespace Dataset.Path

/-! ## 1. Steps -/

/-- The name says something: it is neither empty nor the dot. -/
def isStep (name : String) : Bool := !(name = "" || name = ".")

/-- The names of a path that say something. -/
def steps (p : String) : List String := (names p).filter isStep

theorem names_append (a b : String) : names (a ++ "/" ++ b) = names a ++ names b := by
  have slash : "/".toList = ['/'] := rfl
  rw [names, String.toList_append, String.toList_append, slash, List.append_assoc, List.singleton_append,
    Text.pieces_append_cons, List.map_append, names, names]

theorem names_ne_nil (p : String) : names p ≠ [] := by
  simp [names, Text.pieces_ne_nil]

@[simp] theorem steps_empty : steps "" = [] := by decide

theorem steps_append (a b : String) : steps (a ++ "/" ++ b) = steps a ++ steps b := by
  rw [steps, names_append, List.filter_append, steps, steps]

theorem isAbsolute_iff {p : String} : isAbsolute p = true ↔ ∃ s, p.toList = '/' :: s := by
  rw [isAbsolute, beq_iff_eq, List.head?_eq_some_iff]

theorem ne_empty_of_isAbsolute {p : String} (absolute : isAbsolute p = true) : p ≠ "" := by
  rintro rfl
  cases absolute

/-- `path` is absolute and its first steps are those of `base`. -/
def Within (base path : String) : Prop := isAbsolute path = true ∧ steps base <+: steps path

instance (base path : String) : Decidable (Within base path) := inferInstanceAs (Decidable (_ ∧ _))

/-! ## 2. Joined paths -/

variable {base rest : String}

theorem join_of_isAbsolute (absolute : isAbsolute rest = true) : join base rest = rest := by
  rw [join, absolute, Bool.true_or, if_pos rfl]

theorem join_of_relative (named : base ≠ "") (relative : isAbsolute rest = false) :
    ∃ front, join base rest = front ++ "/" ++ rest ∧ steps front = steps base := by
  rw [join, relative, Bool.false_or, if_neg (by simpa using named)]
  split_ifs with last
  · obtain ⟨front, split⟩ := List.getLast?_eq_some_iff.1 last
    have whole : base = String.ofList front ++ "/" ++ "" := by
      rw [← String.toList_inj, split]
      simp
    refine ⟨String.ofList front, ?_, ?_⟩
    · rw [whole, String.append_empty]
    · rw [whole, steps_append, steps_empty, List.append_nil]
  · exact ⟨base, rfl, rfl⟩

/-- **A relative path goes on where its base ends.** -/
theorem steps_join (named : base ≠ "") (relative : isAbsolute rest = false) :
    steps (join base rest) = steps base ++ steps rest := by
  obtain ⟨front, joined, same⟩ := join_of_relative named relative
  rw [joined, steps_append, same]

theorem steps_join_ne_nil (named : base ≠ "") (some : steps rest ≠ []) : steps (join base rest) ≠ [] := by
  cases absolute : isAbsolute rest with
  | true => rwa [join_of_isAbsolute absolute]
  | false => simp [steps_join named absolute, some]

theorem isAbsolute_join (absolute : isAbsolute base = true) : isAbsolute (join base rest) = true := by
  obtain ⟨s, starts⟩ := isAbsolute_iff.1 absolute
  rw [join]
  split_ifs with from_root last
  · simpa [ne_empty_of_isAbsolute absolute] using from_root
  · exact isAbsolute_iff.2 ⟨s ++ rest.toList, by simp [starts]⟩
  · exact isAbsolute_iff.2 ⟨s ++ '/' :: rest.toList, by simp [starts]⟩

/-! ## 3. Where steps lead -/

theorem normalFrom_cons_of_idle {name : String} (idle : isStep name = false) (before : List String)
    (ns : List String) : normalFrom before (name :: ns) = normalFrom before ns := by
  rw [normalFrom, if_pos (by rwa [isStep, Bool.not_eq_false'] at idle)]

theorem normalFrom_cons_of_isStep {name : String} (step : isStep name = true) (before : List String)
    (ns : List String) : normalFrom before (name :: ns) =
      if name = ".." then normalFrom before.dropLast ns else normalFrom (before ++ [name]) ns := by
  rw [normalFrom, if_neg (by rwa [isStep, Bool.not_eq_true', ← Bool.not_eq_true] at step)]

theorem normalFrom_append (before ns more : List String) :
    normalFrom before (ns ++ more) = normalFrom (normalFrom before ns) more := by
  induction ns generalizing before with
  | nil => rfl
  | cons name ns ih =>
    rw [List.cons_append, normalFrom, normalFrom]
    split_ifs <;> exact ih _

/-- Names that say nothing lead nowhere else. -/
theorem normalFrom_filter (before ns : List String) :
    normalFrom before (ns.filter isStep) = normalFrom before ns := by
  induction ns generalizing before with
  | nil => rfl
  | cons name ns ih =>
    cases step : isStep name with
    | false => rw [List.filter_cons_of_neg (by simp [step]), normalFrom_cons_of_idle step, ih]
    | true =>
      rw [List.filter_cons_of_pos step, normalFrom_cons_of_isStep step, normalFrom_cons_of_isStep step]
      split_ifs <;> exact ih _

theorem normalNames_eq (p : String) : normalNames p = normalFrom [] (steps p) :=
  (normalFrom_filter [] (names p)).symm

/-- **Names that never go up stand one behind the other.** -/
theorem normalFrom_of_level {ns : List String} (level : ".." ∉ ns) (before : List String) :
    normalFrom before ns = before ++ ns.filter isStep := by
  induction ns generalizing before with
  | nil => rw [List.filter_nil, List.append_nil, normalFrom]
  | cons name ns ih =>
    rw [List.mem_cons, not_or] at level
    cases step : isStep name with
    | false =>
      rw [List.filter_cons_of_neg (by simp [step]), normalFrom_cons_of_idle step, ih level.2]
    | true =>
      rw [List.filter_cons_of_pos step, normalFrom_cons_of_isStep step, if_neg (Ne.symm level.1),
        ih level.2, List.append_assoc, List.singleton_append]

/-! ## 4. What the steps say -/

/-- The letters of the steps of a path. -/
def weight (p : String) : Nat := ((steps p).flatMap String.toList).length

theorem weight_append (a b : String) : weight (a ++ "/" ++ b) = weight a + weight b := by
  rw [weight, steps_append, List.flatMap_append, List.length_append, weight, weight]

theorem weight_of_notMem {s : List Char} (single : '/' ∉ s) :
    weight (String.ofList s) = if isStep (String.ofList s) then s.length else 0 := by
  rw [weight, steps, names, String.toList_ofList, Text.pieces_of_notMem single, List.map_singleton]
  cases step : isStep (String.ofList s) <;> simp [step]

/-- A name with a letter in it that is no dot is a step. -/
theorem isStep_of_mem {c : Char} {s : List Char} (letter : c ∈ s) (clear : c ≠ '.') :
    isStep (String.ofList s) = true := by
  rw [isStep, Bool.not_eq_true', Bool.or_eq_false_iff, decide_eq_false_iff_not, decide_eq_false_iff_not,
    ← String.toList_inj, ← String.toList_inj, String.toList_ofList]
  constructor
  · rintro rfl
    cases letter
  · rintro rfl
    exact clear (List.mem_singleton.1 letter)

theorem weight_around_name (front back : List Char) {s : List Char}
    (clear : ∀ c ∈ front ++ back, c ≠ '/' ∧ c ≠ '.') (single : '/' ∉ s) :
    (front ++ back).length + weight (String.ofList s) ≤ weight (String.ofList (front ++ s ++ back)) := by
  have whole : '/' ∉ front ++ s ++ back := by
    intro slash
    rcases List.mem_append.1 slash with slash | slash
    · rcases List.mem_append.1 slash with slash | slash
      · exact (clear '/' (List.mem_append_left _ slash)).1 rfl
      · exact single slash
    · exact (clear '/' (List.mem_append_right _ slash)).1 rfl
  cases more : front ++ back with
  | nil =>
    obtain ⟨rfl, rfl⟩ := List.append_eq_nil_iff.1 more
    simp
  | cons c rest =>
    have letter : c ∈ front ++ back := by simp [more]
    have inside : c ∈ front ++ s ++ back := by
      rcases List.mem_append.1 letter with first | last
      · exact List.mem_append_left _ (List.mem_append_left _ first)
      · exact List.mem_append_right _ last
    rw [weight_of_notMem whole, if_pos (isStep_of_mem inside (clear c letter).2), weight_of_notMem single,
      ← more]
    simp only [List.length_append]
    split_ifs <;> omega

/-- Letters that are neither slashes nor dots add to what the steps say, at either end of a path. -/
theorem weight_around (front back : List Char) (clear : ∀ c ∈ front ++ back, c ≠ '/' ∧ c ≠ '.')
    (s : List Char) :
    (front ++ back).length + weight (String.ofList s) ≤ weight (String.ofList (front ++ s ++ back)) := by
  by_cases more : '/' ∈ s
  · obtain ⟨x, r, rfl, single⟩ := List.eq_append_cons_of_mem more
    have slash (a b : List Char) :
        String.ofList (a ++ '/' :: b) = String.ofList a ++ "/" ++ String.ofList b := by
      rw [← String.toList_inj]
      simp
    -- The letters in front go to the first name, those behind to what follows the first slash.
    have first := weight_around_name front []
      (fun c hc => clear c (by simpa using .inl (by simpa using hc))) single
    have behind := weight_around [] back
      (fun c hc => clear c (List.mem_append_right _ hc)) r
    have whole : front ++ (x ++ '/' :: r) ++ back = (front ++ x) ++ '/' :: (r ++ back) := by simp
    rw [whole, slash, weight_append, slash, weight_append]
    simp only [List.append_nil, List.nil_append, List.length_append] at first behind ⊢
    omega
  · exact weight_around_name front back clear more
termination_by s.length

/-! ## 5. Parents -/

/-- The path ends with a step, or has none. -/
def Tidy (p : String) : Prop := steps p = [] ∨ ∃ ns n, names p = ns ++ [n] ∧ isStep n = true

theorem Tidy.split {p : String} (tidy : Tidy p) (some : steps p ≠ []) :
    ∃ ns n, names p = ns ++ [n] ∧ isStep n = true ∧ steps p = ns.filter isStep ++ [n] := by
  obtain ⟨ns, n, split, step⟩ := tidy.resolve_left some
  refine ⟨ns, n, split, step, ?_⟩
  rw [steps, split, List.filter_append, List.filter_cons_of_pos step, List.filter_nil]

/-- A path with a step at its end ends every path that it goes on. -/
theorem tidy_join (named : base ≠ "") (tidy : Tidy rest) (some : steps rest ≠ []) :
    Tidy (join base rest) := by
  cases absolute : isAbsolute rest with
  | true => rwa [join_of_isAbsolute absolute]
  | false =>
    obtain ⟨front, joined, -⟩ := join_of_relative named absolute
    obtain ⟨ns, n, split, step, -⟩ := tidy.split some
    exact .inr ⟨names front ++ ns, n, by rw [joined, names_append, split, List.append_assoc], step⟩

/-- The last name of a reversed path, reversed. -/
def lastName (reversed : List Char) : List Char := reversed.takeWhile (· != '/')

/-- A path is what is left without its last name, and then that name. -/
theorem names_reverse (reversed : List Char) :
    ∃ before, names (String.ofList reversed.reverse) =
        before ++ [String.ofList (lastName reversed).reverse] ∧
      before.filter isStep = steps (String.ofList (withoutName reversed).reverse) := by
  have split := List.takeWhile_append_dropWhile (p := (· != '/')) (l := reversed)
  have solid : '/' ∉ (lastName reversed).reverse := by
    intro slash
    have other := List.mem_takeWhile_imp (List.mem_reverse.1 slash)
    simp at other
  cases behind : reversed.dropWhile (· != '/') with
  | nil =>
    rw [behind, List.append_nil] at split
    refine ⟨[], ?_, ?_⟩
    · rw [lastName, split] at solid
      rw [lastName, split, names, String.toList_ofList, Text.pieces_of_notMem solid]
      rfl
    · rw [withoutName, behind]
      decide
  | cons slash front =>
    have first := List.head?_dropWhile_not (· != '/') reversed
    rw [behind, List.head?_cons] at first
    obtain rfl : slash = '/' := by simpa using first
    rw [behind] at split
    have whole : reversed.reverse = front.reverse ++ '/' :: (lastName reversed).reverse := by
      simpa [lastName] using (congrArg List.reverse split).symm
    refine ⟨names (String.ofList front.reverse), ?_, ?_⟩
    · rw [names, String.toList_ofList, whole, Text.pieces_append_cons, Text.pieces_of_notMem solid,
        List.map_append, names, String.toList_ofList]
      rfl
    · rw [withoutName, behind, List.drop_one, List.tail_cons, steps]

theorem steps_reverse (reversed : List Char) :
    steps (String.ofList reversed.reverse) = steps (String.ofList (withoutName reversed).reverse) ++
      [String.ofList (lastName reversed).reverse].filter isStep := by
  obtain ⟨before, split, same⟩ := names_reverse reversed
  rw [steps, split, List.filter_append, same]

theorem isStep_reverse (name : List Char) :
    isStep (String.ofList name.reverse) = !(name.isEmpty || name == ['.']) := by
  have empty : String.ofList name.reverse = "" ↔ name = [] := by
    rw [← String.toList_inj, String.toList_ofList]
    exact List.reverse_eq_nil_iff
  have dot : String.ofList name.reverse = "." ↔ name = ['.'] := by
    rw [← String.toList_inj, String.toList_ofList]
    exact List.reverse_eq_iff
  rw [isStep, Bool.not_inj_iff, Bool.eq_iff_iff]
  simp [empty, dot]

theorem withoutName_suffix (reversed : List Char) : withoutName reversed <:+ reversed :=
  (List.drop_suffix 1 _).trans (List.dropWhile_suffix _)

theorem length_withoutName_lt {reversed : List Char} (some : reversed ≠ []) :
    (withoutName reversed).length < reversed.length := by
  have shorter := (List.dropWhile_suffix (· != '/') (l := reversed)).length_le
  have positive := List.length_pos_iff.2 some
  rw [withoutName, List.length_drop]
  omega

/-- Taking off names at the end that say nothing keeps all steps and leaves one at the end. -/
theorem withoutEmptyNames_spec (fuel : Nat) (reversed : List Char) (enough : reversed.length ≤ fuel) :
    withoutEmptyNames fuel reversed <:+ reversed ∧
      steps (String.ofList (withoutEmptyNames fuel reversed).reverse) =
        steps (String.ofList reversed.reverse) ∧
      (withoutEmptyNames fuel reversed = [] ∨
        isStep (String.ofList (lastName (withoutEmptyNames fuel reversed)).reverse) = true) := by
  induction fuel generalizing reversed with
  | zero =>
    obtain rfl := List.length_eq_zero_iff.1 (Nat.le_zero.1 enough)
    exact ⟨List.suffix_refl _, rfl, .inl rfl⟩
  | succ fuel ih =>
    rw [withoutEmptyNames]
    have last := isStep_reverse (lastName reversed)
    split_ifs with idle
    · obtain ⟨more, idle⟩ := (Bool.and_eq_true _ _).mp idle
      have some : reversed ≠ [] := by simpa using more
      have shorter := length_withoutName_lt some
      obtain ⟨part, same, ends⟩ := ih (withoutName reversed) (by omega)
      have skipped : isStep (String.ofList (lastName reversed).reverse) = false := by
        rw [last, Bool.not_eq_false']
        exact idle
      refine ⟨part.trans (withoutName_suffix reversed), ?_, ends⟩
      rw [same, steps_reverse reversed, List.filter_cons_of_neg (by simp [skipped]), List.filter_nil,
        List.append_nil]
    · refine ⟨List.suffix_refl _, rfl, ?_⟩
      rw [last]
      cases reversed with
      | nil => exact .inl rfl
      | cons c rest => exact .inr (by simpa [lastName] using idle)

theorem tidy_of_reverse {kept : List Char}
    (ends : kept = [] ∨ isStep (String.ofList (lastName kept).reverse) = true) :
    Tidy (String.ofList kept.reverse) := by
  rcases ends with rfl | ends
  · exact .inl (by decide)
  · obtain ⟨before, split, -⟩ := names_reverse kept
    exact .inr ⟨before, _, split, ends⟩

/-- A name in front that says nothing changes neither the steps of a path nor how it ends. -/
theorem tidy_iff_of_idle {name p whole : String} (names_whole : names whole = name :: names p)
    (idle : isStep name = false) : steps whole = steps p ∧ (Tidy whole ↔ Tidy p) := by
  have same : steps whole = steps p := by
    rw [steps, names_whole, List.filter_cons_of_neg (by simp [idle]), steps]
  refine ⟨same, ?_⟩
  rw [Tidy, Tidy, same, names_whole]
  constructor
  · rintro (none | ⟨ns, n, split, step⟩)
    · exact .inl none
    · cases ns with
      | nil => exact absurd (List.cons.inj split).2 (names_ne_nil p)
      | cons _ ns => exact .inr ⟨ns, n, (List.cons.inj split).2, step⟩
  · rintro (none | ⟨ns, n, split, step⟩)
    · exact .inl none
    · exact .inr ⟨name :: ns, n, by rw [split, List.cons_append], step⟩

/-- What stands at the head of a path is no step. -/
theorem head_spec {cs s : List Char} (part : s <+: cs.drop (headLength cs)) :
    steps (String.ofList (cs.take (headLength cs) ++ s)) = steps (String.ofList s) ∧
      (Tidy (String.ofList (cs.take (headLength cs) ++ s)) ↔ Tidy (String.ofList s)) := by
  have slash (s : List Char) : names (String.ofList ('/' :: s)) = "" :: names (String.ofList s) := by
    simp [names, Text.pieces]
  have dot (s : List Char) :
      names (String.ofList ('.' :: '/' :: s)) = "." :: names (String.ofList s) := by
    simp [names, Text.pieces]
  fun_cases headLength cs with
  | case1 rest => exact tidy_iff_of_idle (slash s) (by decide)
  | case2 =>
    obtain rfl : s = [] := List.prefix_nil.1 part
    have none : steps (String.ofList ['.']) = [] := by decide
    exact ⟨none, iff_of_true (.inl none) (.inl (by decide))⟩
  | case3 rest =>
    have part : s <+: '/' :: rest := part
    cases s with
    | nil =>
      have none : steps (String.ofList ['.']) = [] := by decide
      exact ⟨none, iff_of_true (.inl none) (.inl (by decide))⟩
    | cons c s =>
      obtain rfl : c = '/' := (List.cons_prefix_cons.1 part).1
      have upper := tidy_iff_of_idle (dot s) (by decide)
      have lower := tidy_iff_of_idle (slash s) (by decide)
      exact ⟨upper.1.trans lower.1.symm, upper.2.trans lower.2.symm⟩
  | case4 => exact ⟨rfl, Iff.rfl⟩

/-- A path is a shorter, tidy one with all steps of another but the last. -/
structure IsParent (q p : String) : Prop where
  steps : steps q = (steps p).dropLast
  tidy : Tidy q
  absolute : isAbsolute q = isAbsolute p
  shorter : q.length < p.length

/-- A parent is the parent from everywhere. -/
theorem IsParent.steps_join {base p q : String} (upper : IsParent q p) (named : base ≠ "")
    (some : Path.steps p ≠ []) : Path.steps (join base q) = (Path.steps (join base p)).dropLast := by
  cases absolute : isAbsolute p with
  | true =>
    rw [join_of_isAbsolute absolute, join_of_isAbsolute (upper.absolute.trans absolute), upper.steps]
  | false =>
    rw [Path.steps_join named absolute, Path.steps_join named (upper.absolute.trans absolute), upper.steps,
      List.dropLast_append_of_ne_nil some]

/-- A start of a path that keeps its head is absolute exactly if the path is. -/
theorem isAbsolute_of_head {cs s : List Char} (part : s <+: cs.drop (headLength cs)) :
    isAbsolute (String.ofList (cs.take (headLength cs) ++ s)) = isAbsolute (String.ofList cs) := by
  simp only [isAbsolute, String.toList_ofList]
  revert part
  fun_cases headLength cs with
  | case1 rest => exact fun _ => rfl
  | case2 => exact fun _ => rfl
  | case3 rest => exact fun _ => rfl
  | case4 _ other =>
    intro part
    cases s with
    | nil =>
      cases cs with
      | nil => rfl
      | cons c cs =>
        have relative : c ≠ '/' := by
          rintro rfl
          exact other cs rfl
        simpa using relative
    | cons c s =>
      obtain ⟨more, split⟩ := part
      rw [List.drop_zero] at split
      rw [← split]
      rfl

/-- What is left of a path once the names at its end that say nothing are taken off. -/
def body (p : String) : List Char :=
  withoutEmptyNames p.toList.length (p.toList.drop (headLength p.toList)).reverse

theorem parent?_eq (p : String) : parent? p =
    if (body p).isEmpty then (if p.toList.take (headLength p.toList) = ['.'] then some "" else none)
    else some (String.ofList (p.toList.take (headLength p.toList) ++
      (withoutEmptyNames p.toList.length (withoutName (body p))).reverse)) := rfl

theorem body_spec (p : String) :
    body p <:+ (p.toList.drop (headLength p.toList)).reverse ∧
      steps (String.ofList (body p).reverse) = steps p ∧
      (body p = [] ∨ isStep (String.ofList (lastName (body p)).reverse) = true) := by
  obtain ⟨part, same, ends⟩ := withoutEmptyNames_spec p.toList.length
    (p.toList.drop (headLength p.toList)).reverse (by simp)
  have whole := (head_spec (List.prefix_refl (p.toList.drop (headLength p.toList)))).1
  rw [List.take_append_drop, String.ofList_toList] at whole
  rw [List.reverse_reverse, ← whole] at same
  exact ⟨part, same, ends⟩

/-- **The parent of a path is one.** -/
theorem isParent_of_parent? {p q : String} (found : parent? p = some q) : IsParent q p := by
  obtain ⟨part, same, ends⟩ := body_spec p
  rw [parent?_eq] at found
  split_ifs at found with none dot
  · rw [List.isEmpty_iff] at none
    obtain rfl := Option.some.inj found
    rw [none] at same
    have starts : p.toList.head? = some '.' := by
      rw [← List.take_append_drop (headLength p.toList) p.toList, dot]
      rfl
    refine ⟨by rw [← same]; decide, .inl steps_empty, ?_, ?_⟩
    · rw [isAbsolute, isAbsolute, starts]
      rfl
    · rw [← String.length_toList, ← String.length_toList]
      cases chars : p.toList with
      | nil => rw [chars] at starts; cases starts
      | cons c cs => simp
  · rw [List.isEmpty_iff] at none
    obtain rfl := Option.some.inj found
    have shorter := length_withoutName_lt none
    have bound : (body p).length ≤ p.toList.length := by
      simpa using part.length_le.trans (by simp)
    obtain ⟨part', same', ends'⟩ := withoutEmptyNames_spec p.toList.length (withoutName (body p))
      (by omega)
    have start : (withoutEmptyNames p.toList.length (withoutName (body p))).reverse <+:
        p.toList.drop (headLength p.toList) := by
      rw [← List.reverse_suffix, List.reverse_reverse]
      exact (part'.trans (withoutName_suffix _)).trans part
    obtain ⟨steps_whole, tidy_whole⟩ := head_spec start
    refine ⟨?_, tidy_whole.2 (tidy_of_reverse ends'), ?_, ?_⟩
    · rw [steps_whole, same', ← same, steps_reverse (body p),
        List.filter_cons_of_pos (ends.resolve_left none), List.filter_nil, List.dropLast_concat]
    · rw [isAbsolute_of_head start, String.ofList_toList]
    · have inside := part.length_le
      have kept := part'.length_le
      simp only [List.length_reverse, List.length_drop] at inside
      rw [← String.length_toList, ← String.length_toList, String.toList_ofList]
      simp only [List.length_append, List.length_take, List.length_reverse]
      omega

/-- A path without a parent has no steps. -/
theorem steps_of_parent?_none {p : String} (missing : parent? p = none) : steps p = [] := by
  obtain ⟨-, same, -⟩ := body_spec p
  rw [parent?_eq] at missing
  split_ifs at missing with none dot
  rw [List.isEmpty_iff.1 none] at same
  exact same.symm.trans (by decide)

/-- The parent of a path, or a path that says nothing. -/
def upper (p : String) : String := (parent? p).getD ""

/-- Above a path with steps there is a parent. -/
theorem parent?_of_moves {p : String} (moves : steps p ≠ []) : parent? p = some (upper p) := by
  obtain ⟨q, found⟩ : ∃ q, parent? p = some q :=
    Option.ne_none_iff_exists'.1 fun none => moves (steps_of_parent?_none none)
  rw [upper, found, Option.getD_some]

theorem isParent_upper {p : String} (moves : steps p ≠ []) : IsParent (upper p) p :=
  isParent_of_parent? (parent?_of_moves moves)

/-- Above a path without steps there is nothing. -/
theorem upper_of_steps_nil {p : String} (none : steps p = []) : upper p = "" := by
  obtain ⟨-, same, ends⟩ := body_spec p
  rw [upper, parent?_eq]
  split_ifs with empty dot
  · rfl
  · rfl
  · rw [List.isEmpty_iff] at empty
    have step := ends.resolve_left empty
    rw [none, steps_reverse (body p), List.filter_cons_of_pos step] at same
    simp at same

end Dataset.Path
