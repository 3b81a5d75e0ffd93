import Dataset.EnvironmentFile
import Dataset.Proofs.FileTree
import Dataset.Proofs.Text.Trimming

/-!
# What a text means as a path

A text is trimmed, its tilde is expanded, and what is still relative starts at the working directory.

* `expandPath_blank`, `expandPath_home`: a blank text means the working directory, a tilde and a slash at the
  start the home directory;
* **`expandPath_within_home_iff`**: a text with a tilde and a slash at its start stays within the home
  directory, unless a second slash makes what follows a path from the root;
* `Literal`: a text is the path that it means; `literal_of_weight`: what is trimmed or expanded is lost to the
  steps; **`literal_iff`**: the literal texts are those that lead over the same steps as the path that they
  mean, wherever the run is;
* `load_places`: a file of variables changes neither directory.
-/

namespace Dataset

namespace Environment

open Dataset.Path (isAbsolute join names normalNames steps Within)

variable {e : Environment} {text rest : String}

/-! ## 1. Blank texts and tildes -/

theorem expandPath_blank (blank : Text.trim text = "") : e.expandPath text = e.directory := by
  rw [expandPath]
  exact if_pos (by simp [blank])

theorem expandPath_of_trim (some : Text.trim text ≠ "") :
    e.expandPath text = join e.directory (e.expandTilde (Text.trim text)) := by
  rw [expandPath]
  exact if_neg (by simpa using some)

/-- **A text means an absolute path.** -/
theorem isAbsolute_expandPath (rooted : isAbsolute e.directory = true) (text : String) :
    isAbsolute (e.expandPath text) = true := by
  by_cases blank : Text.trim text = ""
  · rw [expandPath_blank blank, rooted]
  · rw [expandPath_of_trim blank]
    exact Path.isAbsolute_join rooted

theorem expandTilde_slash (e : Environment) (rest : String) :
    e.expandTilde ("~/" ++ rest) = join e.home rest := by
  rw [expandTilde, String.toList_append]
  exact congrArg (join e.home) String.ofList_toList

/-- A tilde and a slash at the start mean the home directory, wherever the run is. -/
theorem expandPath_home (rooted : isAbsolute e.home = true) (tilde : Text.trim text = "~/" ++ rest) :
    e.expandPath text = join e.home rest := by
  have some : Text.trim text ≠ "" := by
    rw [tilde, ne_eq, ← String.toList_inj, String.toList_append]
    exact nofun
  rw [expandPath_of_trim some, tilde, expandTilde_slash,
    Path.join_of_isAbsolute (Path.isAbsolute_join rooted)]

/-! ## 2. Texts that start at home -/

/-- **`expandPath` of a text `~/rest` without `..` stays `Within` the home directory, unless `rest` is an
    absolute path that does not.** An absolute `rest` is the result itself; of any other the `steps` come
    behind those of `e.home`. -/
theorem expandPath_within_home_iff (rooted : isAbsolute e.home = true)
    (tilde : Text.trim text = "~/" ++ rest) (level : ".." ∉ names (Text.trim text)) :
    isAbsolute (e.expandPath text) = true ∧
      (Within e.home (e.expandPath text) ↔ isAbsolute rest = false ∨ Within e.home rest) ∧
      (isAbsolute rest = true → e.expandPath text = rest) ∧
      (isAbsolute rest = false → steps (e.expandPath text) = steps e.home ++ steps rest ∧
        normalNames (e.expandPath text) = normalNames e.home ++ steps rest) := by
  have meaning := expandPath_home rooted tilde
  have absolute : isAbsolute (join e.home rest) = true := Path.isAbsolute_join rooted
  have never_up : ".." ∉ steps rest := by
    intro up
    have whole : names (Text.trim text) = names "~" ++ names rest := by
      rw [tilde]
      exact Path.names_append "~" rest
    exact level (whole ▸ List.mem_append_right _ (List.mem_of_mem_filter up))
  rw [meaning]
  refine ⟨absolute, ?_, Path.join_of_isAbsolute, fun relative => ?_⟩
  · cases onward : isAbsolute rest with
    | true => rw [Path.join_of_isAbsolute onward, or_iff_right nofun]
    | false =>
      rw [or_iff_left_of_imp fun _ => rfl, iff_true_right rfl, Within,
        Path.steps_join (Path.ne_empty_of_isAbsolute rooted) onward]
      exact ⟨absolute, List.prefix_append _ _⟩
  · have behind := Path.steps_join (Path.ne_empty_of_isAbsolute rooted) relative
    refine ⟨behind, ?_⟩
    rw [Path.normalNames_eq, behind, Path.normalFrom_append, ← Path.normalNames_eq,
      Path.normalFrom_of_level never_up, steps, List.filter_filter]
    simp only [Bool.and_self]

/-- A file below a home directory that is written with slashes and dots to spare. -/
theorem expandPath_within_home_untidy :
    Within "/home//ann/." (expandPath ⟨"/home//ann/.", "/w", []⟩ " ~/data/./cars.db ") := by
  have tilde : Text.trim " ~/data/./cars.db " = "~/" ++ "data/./cars.db" := by decide +kernel
  have within := (expandPath_within_home_iff (e := ⟨"/home//ann/.", "/w", []⟩) (by decide +kernel) tilde
    (by decide +kernel)).2.1
  exact within.2 (.inl (by decide +kernel))

/-- **With a second slash behind the tilde a text leaves the home directory.** -/
theorem expandPath_leaves_home :
    isAbsolute "/h" = true ∧ Text.trim "~//etc" = "~/" ++ "/etc" ∧ ".." ∉ names (Text.trim "~//etc") ∧
      expandPath ⟨"/h", "/w", []⟩ "~//etc" = "/etc" ∧
      ¬ Within "/h" (expandPath ⟨"/h", "/w", []⟩ "~//etc") := by
  decide +kernel

/-! ## 3. Texts that are paths -/

/-- The engine takes `p` for something else than a path: for the database in memory or for a URI. -/
def EngineName (p : String) : Prop := p = FileTree.memoryName ∨ "file:".toList <+: p.toList

/-- The text starts with a `~` that `expandPath` expands. -/
def startsAtHome : List Char → Bool
  | ['~'] => true
  | '~' :: c :: _ => c = '/' || c = '\\'
  | _ => false

/-- `p` is used as it stands: `Text.trim` and the expansion of `~` leave it, and it is no `EngineName`. -/
structure Literal (p : String) : Prop where
  nonempty : p ≠ ""
  trimmed : Text.trim p = p
  tilde : startsAtHome p.toList = false
  path : ¬ EngineName p

theorem expandTilde_of_not (e : Environment) {s : String} (tilde : startsAtHome s.toList = false) :
    e.expandTilde s = s := by
  rw [expandTilde]
  split
  · rename_i same
    rw [same] at tilde
    cases tilde
  · rename_i same
    rw [same] at tilde
    exact if_neg (by simpa [startsAtHome] using tilde)
  · rfl

theorem expandPath_of_literal {p : String} (literal : Literal p) (e : Environment) :
    e.expandPath p = join e.directory p := by
  have some : Text.trim p ≠ "" := literal.trimmed.symm ▸ literal.nonempty
  rw [expandPath_of_trim some, literal.trimmed, expandTilde_of_not e literal.tilde]

/-- A run with the root for all its directories. -/
def atRoot : Environment := ⟨"/", "/", []⟩

theorem steps_join_root (rest : String) : steps (join "/" rest) = steps rest := by
  cases absolute : Path.isAbsolute rest with
  | true => rw [Path.join_of_isAbsolute absolute]
  | false =>
    have none : steps "/" = [] := by decide
    rw [Path.steps_join (by decide) absolute, none, List.nil_append]

theorem weight_join_root (rest : String) : Path.weight (join "/" rest) = Path.weight rest := by
  rw [Path.weight, steps_join_root, Path.weight]

/-- From the root, an expanded tilde is lost. -/
theorem weight_expandTilde {s : String} (tilde : startsAtHome s.toList = true) :
    Path.weight (atRoot.expandTilde s) < Path.weight s := by
  rw [← String.ofList_toList (s := s)]
  revert tilde
  generalize s.toList = cs
  fun_cases startsAtHome cs with
  | case1 =>
    intro _
    decide +kernel
  | case2 c rest =>
    intro tilde
    have meaning : atRoot.expandTilde (String.ofList ('~' :: c :: rest)) =
        join "/" (String.ofList rest) := by
      rw [expandTilde, String.toList_ofList]
      exact if_pos tilde
    rw [meaning, weight_join_root]
    rcases (Bool.or_eq_true _ _).mp tilde with slash | backslash
    · obtain rfl := of_decide_eq_true slash
      have split : String.ofList ('~' :: '/' :: rest) = "~" ++ "/" ++ String.ofList rest := by
        rw [← String.toList_inj]
        simp
      have one : Path.weight "~" = 1 := by decide
      rw [split, Path.weight_append, one]
      omega
    · obtain rfl := of_decide_eq_true backslash
      have more := Path.weight_around ['~', '\\'] [] (by simp) rest
      simp only [List.append_nil, List.length_cons, List.length_nil, List.cons_append,
        List.nil_append] at more
      omega
  | case3 => exact nofun

/-- Blanks at the ends of a path add to what its steps say. -/
theorem trim_eq_of_weight {p : String} (kept : Path.weight p ≤ Path.weight (Text.trim p)) :
    Text.trim p = p := by
  obtain ⟨front, back, split, blank⟩ := Text.exists_trimChars p.toList
  have clear : ∀ c ∈ front ++ back, c ≠ '/' ∧ c ≠ '.' := by
    intro c letter
    have white := blank c letter
    constructor <;> rintro rfl <;> cases white
  have around := Path.weight_around front back clear (Text.trimChars p.toList)
  rw [← split, String.ofList_toList] at around
  have none : front ++ back = [] := by
    rw [← List.length_eq_zero_iff]
    rw [Text.trim] at kept
    omega
  obtain ⟨rfl, rfl⟩ := List.append_eq_nil_iff.1 none
  rw [← String.toList_inj, Text.toList_trim]
  simpa using split.symm

/-- A text that says as much as the path that it means from the root has nothing to trim and nothing to
    expand. -/
theorem literal_of_weight {p : String} (nonempty : p ≠ "") (path : ¬ EngineName p)
    (same : Path.weight (atRoot.expandPath p) = Path.weight p) : Literal p := by
  have said : Text.trim p ≠ "" := by
    intro empty
    have root : Path.weight "/" = 0 := by decide
    rw [expandPath_blank empty, show atRoot.directory = "/" from rfl, root] at same
    have kept := trim_eq_of_weight (p := p) (by omega)
    exact nonempty (kept.symm.trans empty)
  rw [expandPath_of_trim said, show atRoot.directory = "/" from rfl, weight_join_root] at same
  cases tilde : startsAtHome (Text.trim p).toList with
  | true =>
    have lost := weight_expandTilde tilde
    have trimmed := trim_eq_of_weight (p := p) (by omega)
    rw [trimmed] at lost same
    omega
  | false =>
    rw [expandTilde_of_not atRoot tilde] at same
    have trimmed := trim_eq_of_weight same.ge
    exact ⟨nonempty, trimmed, trimmed ▸ tilde, path⟩

/-- **The texts that are the paths that they mean** are those that lead, from every directory, over the steps
    of the path that they mean. -/
theorem literal_iff {p : String} (nonempty : p ≠ "") :
    Literal p ↔ ¬ EngineName p ∧ ∀ e : Environment, isAbsolute e.home = true →
      isAbsolute e.directory = true → steps (e.expandPath p) = steps (join e.directory p) := by
  constructor
  · intro literal
    exact ⟨literal.path, fun e _ _ => by rw [expandPath_of_literal literal]⟩
  · rintro ⟨path, same⟩
    have steps_root := same atRoot (by decide) (by decide)
    refine literal_of_weight nonempty path ?_
    rw [Path.weight, steps_root, ← Path.weight]
    exact weight_join_root p

end Environment

/-! ## 4. Files of variables -/

namespace EnvironmentFile

variable {e : Environment}

/-- Variables that are set change neither directory. -/
theorem applyLines_places (earlier : List (String × String)) (lines : List (Option (List Char))) :
    (applyLines earlier e lines).directory = e.directory ∧
      (applyLines earlier e lines).home = e.home := by
  fun_induction applyLines earlier e lines with
  | case1 => exact ⟨rfl, rfl⟩
  | case2 _ _ _ _ _ ih => exact ih
  | case3 _ e _ _ v _ ih =>
    have set : (e.setDefault v).directory = e.directory ∧ (e.setDefault v).home = e.home := by
      rw [Environment.setDefault]
      split <;> exact ⟨rfl, rfl⟩
    exact ⟨ih.1.trans set.1, ih.2.trans set.2⟩
  | case4 => exact ⟨rfl, rfl⟩

theorem load_places (e : Environment) (t : FileTree) :
    (load e t).directory = e.directory ∧ (load e t).home = e.home := by
  rw [load]
  split
  · exact applyLines_places _ _
  · exact ⟨rfl, rfl⟩

@[simp] theorem load_directory (e : Environment) (t : FileTree) : (load e t).directory = e.directory :=
  (load_places e t).1

end EnvironmentFile

end Dataset
