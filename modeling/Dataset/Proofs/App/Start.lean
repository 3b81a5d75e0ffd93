import Dataset.App
import Dataset.Proofs.Config.Layers
import Dataset.Proofs.Environment
import Dataset.Proofs.Rewording

/-!
# Which database is opened

The path of the database is given by the option `--database`, by the variable `ROWGATE_DATABASE` or by a
file. The first two are taken as they stand, the text in the file goes through `expandPath`. So one text
means one database as far as expanding it makes no difference.

* `launch`: what a start does once the configuration is loaded; `start_eq`;
* `SameStart`: two starts open the same database and leave the same files, or fail with the same error;
* `launch_of_reworded`: `launch` does not depend on texts in files; **`launch_of_steps`**: nor on how the
  path of the database is spelled, as long as its `steps` are the same;
* `Layers`: the two files of a start, each with its `Layer`; `SaidTwice`: one text, as an override in one
  run and in a file in another;
* **`database_of_said_twice`**: which database the two runs open, and when it is the same.
-/

namespace Dataset

namespace Config

/-- The two configuration files that a start of `e` with `o` reads, the profile's (`low`) and the one at
    `path` over it (`up`), each as the `Layer` that it states. -/
structure Layers (e : Environment) (t : FileTree) (o : Overrides) where
  low : Layer
  up : Layer
  path : Option String
  below : FileStates e t (profile? e t) low
  named : overlay e t o = .ok path
  above : FileStates e t path up

/-- The configuration that a start with these `layers` comes to, if `Config.check` accepts it. -/
def Layers.config {e : Environment} {t : FileTree} {o : Overrides} (layers : Layers e t o) : Config :=
  merged e o layers.up layers.low

theorem Layers.load {e : Environment} {t : FileTree} {o : Overrides} (layers : Layers e t o) :
    (Config.load e t o).1 = layers.config.check.map fun _ => layers.config :=
  load_eq layers.below layers.named layers.above

/-- The configuration `c` with `path := none`. -/
def withoutPath (c : Config) : Config := { c with path := none }

theorem check_withoutPath (c : Config) : c.withoutPath.check = c.check := rfl

end Config

namespace FileTree

/-- Of the path of a database only its place counts. -/
theorem openDatabase_of_place {t : FileTree} {directory p q : String}
    (same : databasePlace? directory p = databasePlace? directory q) :
    t.openDatabase directory p = t.openDatabase directory q := by
  rw [openDatabase, openDatabase, same]

theorem databasePlace?_of_steps {directory p q : String} (file : p ≠ memoryName) (file' : q ≠ memoryName)
    (same : Path.steps (Path.join directory p) = Path.steps (Path.join directory q)) :
    databasePlace? directory p = databasePlace? directory q := by
  rw [databasePlace?, databasePlace?, if_neg file, if_neg file', Path.normalNames_eq, same,
    ← Path.normalNames_eq]

end FileTree

namespace Environment

/-- Two environments that differ in the variable `name` at most. -/
structure AlikeBut (name : String) (e e' : Environment) : Prop where
  home : e'.home = e.home
  directory : e'.directory = e.directory
  get? : ∀ v, v ≠ name → e'.get? v = e.get? v

variable {name : String} {e e' : Environment}

theorem AlikeBut.expandPath (alike : AlikeBut name e e') (text : String) :
    e'.expandPath text = e.expandPath text := by
  simp only [Environment.expandPath, expandTilde, alike.home, alike.directory]

/-- A data directory that another variable names, or none, is the same. -/
theorem AlikeBut.dataDirectory (alike : AlikeBut name e e') (data : Storage.directoryVariable ≠ name)
    (shared : Storage.sharedVariable ≠ name) : Storage.dataDirectory e' = Storage.dataDirectory e := by
  simp only [Storage.dataDirectory, Storage.sharedDirectory, alike.get? _ data, alike.get? _ shared,
    alike.home, alike.expandPath]

theorem AlikeBut.prepare (alike : AlikeBut name e e') (data : Storage.directoryVariable ≠ name)
    (shared : Storage.sharedVariable ≠ name) (t : FileTree) :
    Storage.prepare e' t = Storage.prepare e t := by
  simp only [Storage.prepare, Storage.canonical, alike.directory, alike.dataDirectory data shared]

end Environment

namespace App

open FileTree (Reworded SameResult databasePlace? memoryName)
open Environment (Literal EngineName)
open Config (Layers)
open Dataset.Path (isAbsolute join steps)

variable {places : Location → Prop} {e e' : Environment} {t t' : FileTree} {o o' : Overrides} {c c' : Config}

/-! ## 1. Behind the configuration -/

/-- What a start does once its configuration `c` is loaded: `Storage.prepare`, `databasePath`, `openStore`. -/
def launch (e : Environment) (t : FileTree) (c : Config) : Except Error Started × FileTree :=
  match Storage.prepare e t with
  | (.error cause, t) => (.error (.storage cause), t)
  | (.ok directory, t) =>
    match databasePath e t c directory with
    | (.error cause, t) => (.error cause, t)
    | (.ok path, t) => openStore e t c path

theorem start_eq (e : Environment) (t : FileTree) (o : Overrides) :
    start e t o = match (Config.load e t o).1 with
      | .error cause => (.error (.config cause), t)
      | .ok c => launch e t c := rfl

/-- The variable that names the database does not count either. -/
theorem launch_of_alike (alike : e.AlikeBut CommandLine.Setting.database.variableName e') (t : FileTree)
    (c : Config) : launch e' t c = launch e t c := by
  have prepared := alike.prepare (by decide) (by decide) t
  simp only [launch, databasePath, openStore, prepared, alike.directory]

/-- An error with the path of the database left out of it. -/
def Error.withoutPath : Error → Error
  | .databaseDirectory _ => .databaseDirectory ""
  | .database _ => .database ""
  | x => x

/-- Two starts come to the same: both fail with errors that are equal up to `Error.withoutPath`, or both open
    a store, equal, at the same `databasePlace?`, with configurations equal up to `withoutPath`. The file
    trees that they leave are `Reworded` at `places`. -/
inductive SameStart (e : Environment) (places : Location → Prop) :
    Except Error Started × FileTree → Except Error Started × FileTree → Prop where
  | failed {x x' : Error} {u u' : FileTree} : Reworded places u u' → x.withoutPath = x'.withoutPath →
      SameStart e places (.error x, u) (.error x', u')
  | opened {s s' : Started} {u u' : FileTree} : Reworded places u u' →
      databasePlace? e.directory s.path = databasePlace? e.directory s'.path → s.store = s'.store →
      s.config.withoutPath = s'.config.withoutPath → SameStart e places (.ok s, u) (.ok s', u')

theorem SameStart.trans {r r' r'' : Except Error Started × FileTree} (first : SameStart e places r r')
    (second : SameStart e places r' r'') : SameStart e places r r'' := by
  cases first with
  | failed files reason =>
    cases second with
    | failed files' reason' => exact .failed (files.trans files') (reason.trans reason')
  | opened files place store rest =>
    cases second with
    | opened files' place' store' rest' =>
      exact .opened (files.trans files') (place.trans place') (store.trans store') (rest.trans rest')

theorem SameStart.files {r r' : Except Error Started × FileTree} (same : SameStart e places r r') :
    Reworded places r.2 r'.2 := by
  cases same with
  | failed files => exact files
  | opened files => exact files

/-- The directory above a database that is named is made, if there is one. -/
theorem databasePath_named {p : String} (named : c.path = some p) (dataDirectory : String) :
    databasePath e t c dataDirectory = match t.makeDirectories e.directory (Path.upper p) with
      | (.ok (), t) => (.ok p, t)
      | (.error _, t) => (.error (.databaseDirectory (Path.upper p)), t) := by
  have nothing : t.makeDirectories e.directory "" = (.ok (), t) := rfl
  rw [databasePath, named, Path.upper]
  dsimp only
  cases Path.parent? p with
  | none => rw [Option.getD_none, nothing]; rfl
  | some parent =>
    by_cases empty : parent = ""
    · subst empty
      rw [Option.getD_some, nothing]
      rfl
    · have kept : Option.filter (fun p => !p.isEmpty) (some parent) = some parent := by simp [empty]
      rw [kept]
      rfl

theorem databasePath_of_reworded (e : Environment) (same : Reworded places t t') (c : Config)
    (dataDirectory : String) :
    SameResult places (databasePath e t c dataDirectory) (databasePath e t' c dataDirectory) := by
  cases named : c.path with
  | none =>
    rw [databasePath, databasePath, named]
    exact ⟨rfl, same⟩
  | some p =>
    obtain ⟨answer, u, u', made, made', files⟩ := (same.makeDirectories e.directory (Path.upper p)).split
    rw [databasePath_named named, databasePath_named named, made, made']
    cases answer <;> exact ⟨rfl, files⟩

theorem openStore_of_reworded (same : Reworded places t t') (c : Config) (path : String) :
    SameStart e places (openStore e t c path) (openStore e t' c path) := by
  rw [openStore, openStore]
  rcases same.openDatabase e.directory path with
    ⟨fault, failed, failed'⟩ | ⟨d, u, u', opened, opened', files⟩
  · rw [failed, failed']
    exact .failed same rfl
  · rw [opened, opened']
    exact .opened files rfl rfl rfl

/-- **What texts say does not count once the configuration is loaded.** -/
theorem launch_of_reworded (same : Reworded places t t') (c : Config) :
    SameStart e places (launch e t c) (launch e t' c) := by
  rw [launch, launch]
  obtain ⟨answer, u, u', made, made', files⟩ := (Storage.prepare_of_reworded e same).split
  rw [made, made']
  cases answer with
  | error => exact .failed files rfl
  | ok directory =>
    obtain ⟨answer, v, v', made, made', files⟩ := (databasePath_of_reworded e files c directory).split
    dsimp only
    rw [made, made']
    cases answer with
    | error => exact .failed files rfl
    | ok path => exact openStore_of_reworded files c path

theorem openStore_ok_iff {path : String} {s : Started} {u : FileTree} :
    openStore e t c path = (.ok s, u) ↔
      ∃ d, t.openDatabase e.directory path = .ok (d, u) ∧ s = ⟨c, path, .ofDatabase d⟩ := by
  rw [openStore]
  cases t.openDatabase e.directory path with
  | error => exact iff_of_false nofun nofun
  | ok r =>
    constructor
    · intro opened
      obtain ⟨same, rfl⟩ := Prod.mk.inj opened
      exact ⟨r.1, rfl, (Except.ok.inj same).symm⟩
    · rintro ⟨d, opened, rfl⟩
      obtain rfl := Except.ok.inj opened
      rfl

/-- A start that gets to its end has made the data directory, knows its path and opens the database there. -/
theorem openStore_of_launch {s : Started} {u : FileTree} (launched : launch e t c = (.ok s, u)) :
    ∃ directory path v w, Storage.prepare e t = (.ok directory, v) ∧
      databasePath e v c directory = (.ok path, w) ∧ openStore e w c path = (.ok s, u) := by
  rw [launch] at launched
  generalize Storage.prepare e t = r at launched ⊢
  obtain ⟨answer, v⟩ := r
  cases answer with
  | error => cases (Prod.mk.inj launched).1
  | ok directory =>
    dsimp only at launched
    generalize made : databasePath e v c directory = r at launched
    obtain ⟨answer, w⟩ := r
    cases answer with
    | error => cases (Prod.mk.inj launched).1
    | ok path => exact ⟨directory, path, v, w, rfl, made, launched⟩

/-- The database that is opened is the one that the configuration names. -/
theorem path_of_launch {p : String} (named : c.path = some p) {s : Started} {u : FileTree}
    (launched : launch e t c = (.ok s, u)) : s.path = p := by
  obtain ⟨directory, path, v, w, -, made, opened⟩ := openStore_of_launch launched
  obtain ⟨d, -, rfl⟩ := openStore_ok_iff.1 opened
  rw [databasePath_named named] at made
  split at made
  · exact (Except.ok.inj (Prod.mk.inj made).1).symm
  · cases (Prod.mk.inj made).1

/-! ## 2. Two spellings of a path -/

/-- **Paths of databases that lead over the same steps come to the same.** -/
theorem launch_of_steps (rooted : isAbsolute e.directory = true)
    (there : t.leadsToDirectory e.directory e.directory = true) {p q : String} (named : c.path = some p)
    (named' : c'.path = some q) (rest : c.withoutPath = c'.withoutPath) (file : p ≠ memoryName)
    (file' : q ≠ memoryName) (same : steps (join e.directory p) = steps (join e.directory q)) :
    SameStart e places (launch e t c) (launch e t c') := by
  have nonempty := Path.ne_empty_of_isAbsolute rooted
  obtain ⟨place, entered⟩ := FileTree.enter_of_leadsToDirectory rooted there
  rw [launch, launch]
  have grows := Storage.grows_prepare e t
  generalize Storage.prepare e t = r at grows ⊢
  obtain ⟨answer, u⟩ := r
  cases answer with
  | error => exact .failed (.refl u) rfl
  | ok directory =>
    dsimp only
    -- The working directory is there still when the directory above the database is made.
    rw [databasePath_named named, databasePath_named named',
      FileTree.makeDirectories_upper_congr nonempty (grows.enter entered) same]
    generalize u.makeDirectories e.directory (Path.upper q) = r
    obtain ⟨answer, v⟩ := r
    cases answer with
    | error => exact .failed (.refl v) rfl
    | ok =>
      have place := FileTree.databasePlace?_of_steps file file' same
      dsimp only
      rw [openStore, openStore, FileTree.openDatabase_of_place place]
      cases v.openDatabase e.directory q with
      | error => exact .failed (.refl v) rfl
      | ok opened => exact .opened (.refl opened.2) place rfl rest

/-! ## 3. One text, said in two ways -/

/-- One text names the database in two runs: in the first it is the path of the `Overrides`, from the
    option or the variable `ROWGATE_DATABASE`; in the second a file states it. All else is equal: the environments
    are `AlikeBut` for that variable, the files `Reworded` in some texts, and the runs come to the same
    configuration but for the path of the database. -/
structure SaidTwice (e e' : Environment) (places : Location → Prop) (t t' : FileTree) (o o' : Overrides)
    (p : String) where
  rooted : isAbsolute e.directory = true
  there : t.leadsToDirectory e.directory e.directory = true
  alike : e.AlikeBut CommandLine.Setting.database.variableName e'
  files : Reworded places t t'
  word : Layers e t o
  file : Layers e' t' o'
  spoken : o.database = some p
  unspoken : o'.database = none
  written : file.up.path.or file.low.path = some p
  rest : word.config.withoutPath = file.config.withoutPath

namespace SaidTwice

variable {p : String}

theorem word_path (said : SaidTwice e e' places t t' o o' p) : said.word.config.path = some p := by
  rw [Layers.config, Config.merged_eq, Config.assembled, said.spoken, Option.some_or]

theorem file_path (said : SaidTwice e e' places t t' o o' p) :
    said.file.config.path = some (e.expandPath p) := by
  have stated : (said.file.up.layered said.file.low).path = some p := said.written
  rw [Layers.config, Config.merged_eq, Config.assembled, said.unspoken, Option.none_or, stated,
    Option.map_some, said.alike.expandPath]

/-- Both configurations pass `Config.check`, or neither does. -/
theorem start_cases (said : SaidTwice e e' places t t' o o' p) :
    start e t o = launch e t said.word.config ∧ start e' t' o' = launch e t' said.file.config ∨
      ∃ x, start e t o = (.error x, t) ∧ start e' t' o' = (.error x, t') := by
  have same : said.word.config.check = said.file.config.check := by
    rw [← Config.check_withoutPath, said.rest, Config.check_withoutPath]
  rw [start_eq, start_eq, said.word.load, said.file.load, ← same]
  cases said.word.config.check with
  | error x => exact .inr ⟨_, rfl, rfl⟩
  | ok => exact .inl ⟨rfl, launch_of_alike said.alike t' said.file.config⟩

end SaidTwice

/-- **The path of the `Overrides` is opened as it stands, the path of a file as its `expandPath`.** So where
    `p` and `e.expandPath p` have the same `steps`, seen from the working directory, the two starts of
    `SaidTwice` come to the same (`SameStart`): they open the same database and make the same directories.
    The texts for which that is so in every environment are the `Literal` ones. -/
theorem database_of_said_twice {p : String} (nonempty : p ≠ "") :
    (Literal p ↔ ¬ EngineName p ∧ ∀ e : Environment, isAbsolute e.home = true →
      isAbsolute e.directory = true → steps (e.expandPath p) = steps (join e.directory p)) ∧
    ∀ {e e' : Environment} {places : Location → Prop} {t t' : FileTree} {o o' : Overrides},
      SaidTwice e e' places t t' o o' p →
        (∀ s u, start e t o = (.ok s, u) → s.path = p) ∧
        (∀ s u, start e' t' o' = (.ok s, u) → s.path = e.expandPath p) ∧
        (¬ EngineName p → steps (e.expandPath p) = steps (join e.directory p) →
          SameStart e places (start e t o) (start e' t' o')) := by
  refine ⟨Environment.literal_iff nonempty, fun {e e' _ _ _ _ _} said => ?_⟩
  have absolute := Environment.isAbsolute_expandPath said.rooted p
  rcases said.start_cases with ⟨launched, launched'⟩ | ⟨x, failed, failed'⟩
  · rw [launched, launched']
    refine ⟨fun s u => path_of_launch said.word_path, fun s u => path_of_launch said.file_path,
      fun path same => ?_⟩
    have file : p ≠ memoryName := fun memory => path (.inl memory)
    have file' : e.expandPath p ≠ memoryName := by
      intro memory
      rw [memory] at absolute
      cases absolute
    have meaning : join e.directory (e.expandPath p) = e.expandPath p := Path.join_of_isAbsolute absolute
    rw [← meaning] at same
    exact (launch_of_steps said.rooted said.there said.word_path said.file_path said.rest file file'
      same.symm).trans (launch_of_reworded said.files said.file.config)
  · rw [failed, failed']
    exact ⟨nofun, nofun, fun _ _ => .failed said.files rfl⟩

/-- Files for a run in the directory `/w` by a person at home in `/h`, with a text in the configuration file. -/
def office (text : String) : FileTree :=
  FileTree.put ⟨[(["h"], .directory), (["w"], .directory)]⟩ ["w", "rowgate.json"] (.file (.text text))

/-- The environment of a run in the office, with the variables that are set. -/
abbrev atOffice (bindings : List (String × String)) : Environment := ⟨"/h", "/w", bindings⟩

/-- The variable that names a database. -/
def databaseVariable (p : String) : String × String := (CommandLine.Setting.database.variableName, p)

/-- No more is said than perhaps a database. -/
def naming (database : Option String) : Overrides := ⟨none, none, none, database, none⟩

/-- The layers of a run in the office: the configuration file says all there is. -/
def officeLayers {text : String} {l : Config.Layer} (states : Config.States text.toList l)
    (bindings : List (String × String)) (database : Option String) :
    Layers (atOffice bindings) (office text) (naming database) where
  low := .empty
  up := l
  path := some Config.fileName
  below := by
    have absent : (office text).exists? "/w"
      (Path.join (Path.join "/h" Config.profileDirectory) Config.fileName) = false := rfl
    simp only [Config.profile?, absent]
    exact .missing
  named := by
    have there : (office text).exists? "/w" Config.fileName = true := rfl
    simp only [Config.overlay, naming, there, if_true]
  above := .read (show (office text).readText? "/w" Config.fileName = some text from rfl) states

/-- A configuration file that does not name a database. -/
def plainText : String := "\x7b\"database\":\x7b\"table\":\"cars\"\x7d\x7d"

theorem states_plainText :
    Config.States plainText.toList ⟨none, none, none, some "cars", none, none, none⟩ :=
  Config.states_iff.2 ⟨⟨none, some ⟨none, some "cars", none, none, none⟩⟩, [],
    eq_ok_of_toOption (by decide +kernel), rfl⟩

theorem alikeBut_atOffice (p : String) :
    (atOffice [databaseVariable p]).AlikeBut CommandLine.Setting.database.variableName (atOffice []) where
  home := rfl
  directory := rfl
  get? v differs := by
    rw [← beq_eq_false_iff_ne] at differs
    simp [Environment.get?, databaseVariable, differs]

/-- In the office the variable may name the database, or the configuration file. -/
def saidInOffice {text p : String} (full : text ≠ "")
    (states : Config.States text.toList ⟨none, none, some p, some "cars", none, none, none⟩) :
    SaidTwice (atOffice [databaseVariable p]) (atOffice []) (· = ["w", "rowgate.json"]) (office plainText)
      (office text) (naming (some p)) (naming none) p where
  rooted := (by decide : isAbsolute "/w" = true)
  there := by
    change (office plainText).leadsToDirectory "/w" "/w" = true
    decide +kernel
  alike := alikeBut_atOffice p
  files := by
    rw [office, office]
    refine FileTree.reworded_put _ ?_ ?_ ?_ full
    · rfl
    · decide
    · decide
  word := officeLayers states_plainText _ (some p)
  file := officeLayers states _ none
  spoken := rfl
  unspoken := rfl
  written := rfl
  rest := by
    simp only [Layers.config, officeLayers]
    rfl

/-- A configuration file that names a database below the working directory. -/
def belowText : String :=
  "\x7b\"database\":\x7b\"table\":\"cars\",\"path\":\"db/./cars.db\"\x7d\x7d"

/-- A path below the working directory is the same one by a variable and by a file. -/
theorem database_of_said_twice_below :
    CommandLine.parse (atOffice [databaseVariable "db/./cars.db"]).get? ["start"] =
        .ok ⟨some .start, naming (some "db/./cars.db")⟩ ∧
      SameStart (atOffice [databaseVariable "db/./cars.db"]) (· = ["w", "rowgate.json"])
        (start (atOffice [databaseVariable "db/./cars.db"]) (office plainText)
          (naming (some "db/./cars.db")))
        (start (atOffice []) (office belowText) (naming none)) ∧
      FileTree.entry? (start (atOffice []) (office belowText) (naming none)).2 ["w", "db", "cars.db"] =
        some (.file (.database .empty)) := by
  have states : Config.States belowText.toList
      ⟨none, none, some "db/./cars.db", some "cars", none, none, none⟩ :=
    Config.states_iff.2 ⟨⟨none, some ⟨some "db/./cars.db", some "cars", none, none, none⟩⟩, [],
      eq_ok_of_toOption (by decide +kernel), rfl⟩
  have literal : Literal "db/./cars.db" :=
    ⟨by decide, by decide +kernel, by decide, fun name => name.elim (by decide) (by decide)⟩
  obtain ⟨same, runs⟩ := database_of_said_twice (p := "db/./cars.db") (by decide)
  obtain ⟨path, alike⟩ := same.1 literal
  exact ⟨eq_ok_of_toOption (by decide +kernel), (runs (saidInOffice (by decide) states)).2.2 path
    (alike (atOffice _) (by decide) (by decide)), by decide +kernel⟩

/-- A configuration file that names a database in the home directory. -/
def homeText : String :=
  "\x7b\"database\":\x7b\"table\":\"cars\",\"path\":\"~/cars.db\"\x7d\x7d"

/-- **A tilde is the home directory in a file, and the name of a directory in a variable.** -/
theorem database_apart_with_tilde :
    CommandLine.parse (atOffice [databaseVariable "~/cars.db"]).get? ["start"] =
        .ok ⟨some .start, naming (some "~/cars.db")⟩ ∧
      Nonempty (SaidTwice (atOffice [databaseVariable "~/cars.db"]) (atOffice []) (· = ["w", "rowgate.json"])
        (office plainText) (office homeText) (naming (some "~/cars.db")) (naming none) "~/cars.db") ∧
      FileTree.entry? (start (atOffice [databaseVariable "~/cars.db"]) (office plainText)
        (naming (some "~/cars.db"))).2 ["w", "~", "cars.db"] = some (.file (.database .empty)) ∧
      FileTree.entry? (start (atOffice []) (office homeText) (naming none)).2 ["h", "cars.db"] =
        some (.file (.database .empty)) ∧
      ¬ SameStart (atOffice [databaseVariable "~/cars.db"]) (· = ["w", "rowgate.json"])
        (start (atOffice [databaseVariable "~/cars.db"]) (office plainText) (naming (some "~/cars.db")))
        (start (atOffice []) (office homeText) (naming none)) := by
  have states : Config.States homeText.toList
      ⟨none, none, some "~/cars.db", some "cars", none, none, none⟩ :=
    Config.states_iff.2 ⟨⟨none, some ⟨some "~/cars.db", some "cars", none, none, none⟩⟩, [],
      eq_ok_of_toOption (by decide +kernel), rfl⟩
  refine ⟨eq_ok_of_toOption (by decide +kernel), ⟨saidInOffice (by decide) states⟩, by decide +kernel,
    by decide +kernel, fun same => ?_⟩
  rcases same.files ["h", "cars.db"] with equal | ⟨other, -⟩
  · revert equal
    decide +kernel
  · exact absurd other (by decide)

end App

end Dataset
