import Dataset.App
import Dataset.Proofs.Environment
import Mathlib.Data.List.Infix

/-!
# What pruning removes

Pruning cannot be undone, so what it touches is said for every file tree: the data directory with all that is
below it, if this is confirmed, and nothing else. Which directory that is depends on a variable, and may be
the one that the run is in.

* `DataAt`: a directory is at the path of the data directory; `Agreed`: its removal is confirmed;
* `prune_files`: the files afterwards; `run_of_prune`: a run that prunes does nothing else;
* **`prune_exact`**: what is at each place after a run that prunes;
* `gone_iff`: what is removed is what the data directory is above;
* **`prune_removes_directory_iff`**: when the working directory or one above it is removed.
-/

namespace Dataset.App

variable {e : Environment} {t : FileTree} {confirmed : Bool} {words : List String} {o : Overrides}
  {l : Location}

/-! ## 1. What pruning does -/

/-- `Storage.dataDirectory e` leads, from the working directory, to a directory at `l`. -/
def DataAt (e : Environment) (t : FileTree) (l : Location) : Prop :=
  t.locate e.directory (Storage.dataDirectory e) = .ok l ∧ t.isDirectory l = true

/-- The location that `path` names, seen from the working directory of `e`. -/
def placeNamed (e : Environment) (path : String) : Location :=
  Path.normalNames (Path.join e.directory path)

/-- The removal is confirmed: on the command line, or by a first line of the input that says no more than
    `y` or `yes`, in letters of either case. -/
def Agreed (confirmed : Bool) (input : String) : Prop :=
  confirmed = true ∨ Text.sameIgnoringCase (Text.trim (firstLine input)) "y" = true ∨
    Text.sameIgnoringCase (Text.trim (firstLine input)) "yes" = true

instance (confirmed : Bool) (input : String) : Decidable (Agreed confirmed input) :=
  inferInstanceAs (Decidable (_ ∨ _))

theorem confirms_iff (line : String) : confirms line = true ↔
    Text.sameIgnoringCase (Text.trim line) "y" = true ∨
      Text.sameIgnoringCase (Text.trim line) "yes" = true := by
  have lower (word : String) (small : word.toList.map Char.toLower = word.toList) :
      String.ofList ((Text.trimChars line.toList).map Char.toLower) = word ↔
        Text.sameIgnoringCase (Text.trim line) word = true := by
    rw [Text.sameIgnoringCase, beq_iff_eq, Text.toList_trim, small, ← String.toList_inj,
      String.toList_ofList]
  rw [confirms, ← lower "y" rfl, ← lower "yes" rfl]
  simp

theorem agreed_iff (input : String) :
    Agreed confirmed input ↔ (!confirmed && !confirms (firstLine input)) = false := by
  rw [Agreed, ← confirms_iff]
  cases confirmed <;> simp

@[simp] theorem placeNamed_load (e : Environment) (t : FileTree) (path : String) :
    placeNamed (EnvironmentFile.load e t) path = placeNamed e path := by
  rw [placeNamed, EnvironmentFile.load_directory, placeNamed]

theorem DataAt.unique {l' : Location} (here : DataAt e t l) (there : DataAt e t l') : l = l' :=
  Except.ok.inj (here.1.symm.trans there.1)

/-- A data directory is at the place that its path names. -/
theorem DataAt.place (there : DataAt e t l) :
    l = placeNamed e (Storage.dataDirectory e) :=
  FileTree.locate_ok there.1

/-- The files after pruning: without the data directory, or as they were. -/
theorem prune_files (e : Environment) (t : FileTree) (confirmed : Bool) (input : String) :
    (∀ l, DataAt e t l → Agreed confirmed input → (prune e t confirmed input).2 = t.removeTree l) ∧
      ((∀ l, ¬ DataAt e t l) ∨ ¬ Agreed confirmed input → (prune e t confirmed input).2 = t) := by
  rw [agreed_iff, prune]
  cases found : t.locate e.directory (Storage.dataDirectory e) with
  | error fault =>
    exact ⟨fun l there => absurd (found.symm.trans there.1) nofun, fun _ => rfl⟩
  | ok l' =>
    constructor
    · intro l there agreed
      obtain rfl : l = l' := Except.ok.inj (there.1.symm.trans found)
      dsimp only
      rw [if_neg (by simp [agreed]), if_neg (by simp [there.2])]
      split_ifs <;> rfl
    · intro kept
      dsimp only
      by_cases agreed : (!confirmed && !confirms (firstLine input)) = false
      · have file : t.isDirectory l' = false := by
          rw [← Bool.not_eq_true]
          intro there
          exact kept.elim (fun nowhere => nowhere l' ⟨found, there⟩) fun refused => refused agreed
        rw [if_neg (by simp [agreed]), if_pos (by simp [file])]
      · rw [if_pos (Bool.not_eq_false _ |>.mp agreed)]

/-- A run that is asked to prune does nothing else to the files. -/
theorem run_of_prune (asked : CommandLine.parse (EnvironmentFile.load e t).get? words =
    .ok ⟨some (.prune confirmed), o⟩) (input : String) :
    (run e t words input).2 = (prune (EnvironmentFile.load e t) t confirmed input).2 := by
  rw [run, asked]
  rfl

/-! ## 2. The frame -/

/-- **`system prune` removes the tree at the data directory, if there is one and the removal is `Agreed`,
    and nothing else.** The place `l` is the one that `Storage.dataDirectory` names; every entry at or below
    it is gone, the root `[]` excepted, and every other entry is what it was. If there is no `DataAt`, or
    the removal is not `Agreed`, `t` is left as it was. -/
theorem prune_exact (asked : CommandLine.parse (EnvironmentFile.load e t).get? words =
    .ok ⟨some (.prune confirmed), o⟩) (input : String) :
    (∀ l, DataAt (EnvironmentFile.load e t) t l → Agreed confirmed input →
        l = placeNamed e (Storage.dataDirectory (EnvironmentFile.load e t)) ∧
        ∀ place, FileTree.entry? (run e t words input).2 place =
          if l <+: place ∧ place ≠ [] then none else t.entry? place) ∧
      ((∀ l, ¬ DataAt (EnvironmentFile.load e t) t l) ∨ ¬ Agreed confirmed input →
        (run e t words input).2 = t) := by
  obtain ⟨removed, kept⟩ := prune_files (EnvironmentFile.load e t) t confirmed input
  rw [run_of_prune asked]
  refine ⟨fun l there agreed => ⟨?_, fun place => ?_⟩, kept⟩
  · rw [there.place, placeNamed_load]
  · rw [removed l there agreed, FileTree.entry?_removeTree]

/-- Files for a run in the directory `/w` by a person at home in `/h`, where the program keeps its data. -/
def household : FileTree :=
  ⟨[(["h"], .directory), (["h", "data"], .directory), (["h", "data", "sqlite"], .directory),
    (["h", "data", "sqlite", "rowgate.db"], .file (.text "")), (["h", "database"], .directory),
    (["w"], .directory), (["w", ".env"], .file (.text "ROWGATE_DATA_DIR=~/./data/\n"))]⟩

/-- With a `YES` between blanks what is below the directory is gone and its neighbour is left; with any other
    answer everything is left. -/
theorem prune_exact_household :
    FileTree.entry? (run ⟨"/h", "/w", []⟩ household ["system", "prune"] " YES \nno\n").2
        ["h", "data", "sqlite"] = none ∧
      FileTree.entry? (run ⟨"/h", "/w", []⟩ household ["system", "prune"] " YES \nno\n").2
        ["h", "database"] = some .directory ∧
      (run ⟨"/h", "/w", []⟩ household ["system", "prune"] "yes?\n").2 = household := by
  have asked : CommandLine.parse (EnvironmentFile.load ⟨"/h", "/w", []⟩ household).get?
      ["system", "prune"] = .ok ⟨some (.prune false), ⟨none, none, none, none, none⟩⟩ :=
    eq_ok_of_toOption (by decide +kernel)
  have there : DataAt (EnvironmentFile.load ⟨"/h", "/w", []⟩ household) household ["h", "data"] :=
    ⟨eq_ok_of_toOption (by decide +kernel), by decide +kernel⟩
  have removed := ((prune_exact asked " YES \nno\n").1 _ there (by decide +kernel)).2
  have kept := (prune_exact asked "yes?\n").2 (.inr (by decide +kernel))
  refine ⟨?_, ?_, kept⟩
  · rw [removed]
    decide
  · rw [removed]
    decide +kernel

/-! ## 3. The directory that the run is in -/

/-- The data directory is the one that its variable names, or the one that belongs to the program. -/
theorem dataDirectory_cases (e : Environment) :
    (∃ text, e.get? Storage.directoryVariable = some text ∧ Storage.dataDirectory e = e.expandPath text) ∨
      e.get? Storage.directoryVariable = none ∧
        Storage.dataDirectory e = Path.join (Storage.sharedDirectory e) programName := by
  rw [Storage.dataDirectory]
  cases e.get? Storage.directoryVariable with
  | none => exact .inr ⟨rfl, rfl⟩
  | some text => exact .inl ⟨text, rfl, rfl⟩

/-- **What a confirmed pruning removes is what the data directory is above.** -/
theorem gone_iff {input : String} (agreed : Agreed confirmed input) {place : Location}
    (found : t.entry? place ≠ none) :
    FileTree.entry? (prune e t confirmed input).2 place = none ↔
      place ≠ [] ∧ ∃ l, DataAt e t l ∧ l <+: place := by
  obtain ⟨removed, kept⟩ := prune_files e t confirmed input
  by_cases nowhere : ∀ l, ¬ DataAt e t l
  · rw [kept (.inl nowhere)]
    exact iff_of_false found fun ⟨_, l, data, _⟩ => nowhere l data
  · obtain ⟨l, data⟩ := not_forall_not.1 nowhere
    rw [removed l data agreed, FileTree.entry?_removeTree]
    constructor
    · intro gone
      split_ifs at gone with below
      · exact ⟨below.2, l, data, below.1⟩
      · exact absurd gone found
    · rintro ⟨inside, l', data', reaches⟩
      rw [if_pos ⟨data.unique data' ▸ reaches, inside⟩]

/-- Where there are directories all the way, one of them is the data directory if its path leads to its
    place. -/
theorem dataAt_over_iff {place : Location} (there : ∀ a, a <+: place → t.isDirectory a = true) :
    (∃ l, DataAt e t l ∧ l <+: place) ↔
      t.exists? e.directory (Storage.dataDirectory e) = true ∧
        placeNamed e (Storage.dataDirectory e) <+: place := by
  constructor
  · rintro ⟨l, data, reaches⟩
    refine ⟨?_, data.place ▸ reaches⟩
    rw [FileTree.exists?, data.1]
    rfl
  · rintro ⟨leads, reaches⟩
    rw [FileTree.exists?] at leads
    cases found : t.locate e.directory (Storage.dataDirectory e) with
    | error fault => simp [found, Except.isOk, Except.toBool] at leads
    | ok l =>
      obtain rfl : l = placeNamed e (Storage.dataDirectory e) := FileTree.locate_ok found
      exact ⟨_, ⟨found, there _ reaches⟩, reaches⟩

/-- **`system prune --yes` removes the working directory or a directory above it exactly if
    `ROWGATE_DATA_DIR` says so**: it is set, by the environment or by a `.env` file, to a text whose
    `expandPath` is there and leads to one of them. `elsewhere` says that the data directory that is used
    without the variable is none of them. -/
theorem prune_removes_directory_iff (asked : CommandLine.parse (EnvironmentFile.load e t).get? words =
      .ok ⟨some (.prune true), o⟩)
    (there : ∀ a, a <+: Path.normalNames e.directory → t.isDirectory a = true)
    (elsewhere : ¬ placeNamed e (Path.join (Storage.sharedDirectory (EnvironmentFile.load e t))
      programName) <+: Path.normalNames e.directory) (input : String) :
    (∃ a, a <+: Path.normalNames e.directory ∧ t.entry? a ≠ none ∧
        FileTree.entry? (run e t words input).2 a = none) ↔
      Path.normalNames e.directory ≠ [] ∧ ∃ text,
        (EnvironmentFile.load e t).get? Storage.directoryVariable = some text ∧
        t.exists? e.directory ((EnvironmentFile.load e t).expandPath text) = true ∧
        placeNamed e ((EnvironmentFile.load e t).expandPath text) <+: Path.normalNames e.directory := by
  have data_iff := dataAt_over_iff (e := EnvironmentFile.load e t) there
  rw [EnvironmentFile.load_directory, placeNamed_load] at data_iff
  rw [run_of_prune asked]
  constructor
  · rintro ⟨a, above, found, gone⟩
    obtain ⟨inside, l, data, reaches⟩ := (gone_iff (.inl rfl) found).1 gone
    obtain ⟨leads, reaches⟩ := data_iff.1 ⟨l, data, reaches.trans above⟩
    refine ⟨fun root => inside (List.prefix_nil.1 (root ▸ above)), ?_⟩
    rcases dataDirectory_cases (EnvironmentFile.load e t) with ⟨text, set, same⟩ | ⟨-, same⟩
    · exact ⟨text, set, same ▸ leads, same ▸ reaches⟩
    · exact absurd (same ▸ reaches) elsewhere
  · rintro ⟨inside, text, set, leads, reaches⟩
    have same : Storage.dataDirectory (EnvironmentFile.load e t) =
        (EnvironmentFile.load e t).expandPath text := by
      rw [Storage.dataDirectory, set]
    have here := there _ (List.prefix_refl _)
    rw [FileTree.isDirectory, beq_iff_eq] at here
    have found : t.entry? (Path.normalNames e.directory) ≠ none := by
      rw [here]
      exact Option.some_ne_none _
    exact ⟨_, List.prefix_refl _, found,
      (gone_iff (.inl rfl) found).2 ⟨inside, data_iff.2 ⟨same ▸ leads, same ▸ reaches⟩⟩⟩

/-- Files for a run in the directory `/w/notes` by a person at home in `/h`. -/
def workplace : FileTree :=
  ⟨[(["h"], .directory), (["w"], .directory), (["w", "notes"], .directory),
    (["w", "notes", "todo.txt"], .file (.text "much"))]⟩

/-- Such a run with a text for the data directory. -/
def atNotes (text : String) : Environment := ⟨"/h", "/w/notes", [("ROWGATE_DATA_DIR", text)]⟩

/-- A path that goes up and down again leads to the directory above. -/
theorem prune_removes_directory_workplace :
    ∃ a, a <+: ["w", "notes"] ∧ workplace.entry? a ≠ none ∧
      FileTree.entry? (run (atNotes "../../w/") workplace ["system", "prune", "-y"] "").2 a = none := by
  have asked : CommandLine.parse (EnvironmentFile.load (atNotes "../../w/") workplace).get?
      ["system", "prune", "-y"] = .ok ⟨some (.prune true), ⟨none, none, none, none, none⟩⟩ :=
    eq_ok_of_toOption (by decide +kernel)
  have inits : ∀ a ∈ (Path.normalNames "/w/notes").inits, workplace.isDirectory a = true := by
    decide +kernel
  have there (a) (above : a <+: Path.normalNames "/w/notes") : workplace.isDirectory a = true :=
    inits a ((List.mem_inits _ _).2 above)
  exact (prune_removes_directory_iff asked there (by decide +kernel) "").2
    ⟨by decide +kernel, "../../w/", by decide +kernel, by decide +kernel, by decide +kernel⟩

/-- **A blank text and a dot mean the directory that the run is in**, which is then removed. -/
theorem prune_removes_its_directory :
    ¬ placeNamed (atNotes " ") (Path.join (Storage.sharedDirectory (atNotes " ")) programName) <+:
        ["w", "notes"] ∧
      ¬ placeNamed (atNotes ".") (Path.join (Storage.sharedDirectory (atNotes ".")) programName) <+:
        ["w", "notes"] ∧
      workplace.entry? ["w", "notes"] = some .directory ∧
      FileTree.entry? (run (atNotes " ") workplace ["system", "prune", "--yes"] "").2 ["w", "notes"] = none ∧
      FileTree.entry? (run (atNotes ".") workplace ["system", "prune", "--yes"] "").2 ["w", "notes"] =
        none := by
  decide +kernel

end Dataset.App
