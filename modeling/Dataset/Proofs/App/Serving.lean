import Dataset.Proofs.App.Start
import Dataset.Proofs.Http.Address

/-!
# When a server comes up

A server listens on an address, but its host may be any text. The check of the configuration refuses a host
only if it is empty; whether it is an address is asked when the data directory and the database have been
made.

* `load_ok_iff`: the configurations that are loaded; `valid_iff_withHost`: what their host counts for;
* `servable_iff`: when what is loaded has an address as its host;
* `launch_withHost`: for what is made the host does not count; `entry_of_launch`: the database is made;
* `AsksServer`: the words ask for the server; `run_of_server`: what a run does then;
* **`serves_iff_address`**: it serves requests exactly if the host is an address;
* `name_refused_late`: how it fails for a name.
-/

namespace Dataset

namespace Config

open Http.Address (AddressText)

variable {e : Environment} {t : FileTree} {o : Overrides} {c : Config}

/-! ## 1. The host in a configuration -/

/-- A configuration is loaded only if the files state layers. -/
theorem exists_layers_of_load (loaded : (load e t o).1 = .ok c) : Nonempty (Layers e t o) := by
  rw [load] at loaded
  split at loaded
  · cases loaded
  · rename_i below low
    split at loaded
    · cases loaded
    · rename_i path named
      split at loaded
      · cases loaded
      · rename_i up
        obtain ⟨low, below⟩ := exists_states_of_addFile low
        obtain ⟨up, above⟩ := exists_states_of_addFile up
        exact ⟨low, up, path, below, named, above⟩

/-- **The configurations that are loaded**: the one of the layers, if the program can run with it. -/
theorem load_ok_iff :
    (load e t o).1 = .ok c ↔ ∃ layers : Layers e t o, layers.config = c ∧ c.Valid := by
  constructor
  · intro loaded
    obtain ⟨layers⟩ := exists_layers_of_load loaded
    obtain ⟨_, checked, rfl⟩ := ok_of_map (layers.load.symm.trans loaded)
    exact ⟨layers, rfl, (check_ok_iff _).1 checked⟩
  · rintro ⟨layers, rfl, valid⟩
    rw [layers.load, (check_ok_iff _).2 valid]
    rfl

/-- A configuration with another host. -/
def withHost (c : Config) (host : String) : Config := { c with host := host }

/-- **Of the host no more is asked than that there is one.** -/
theorem valid_iff_withHost : c.Valid ↔ c.host ≠ "" ∧ (c.withHost default.host).Valid := by
  constructor
  · intro valid
    have given : default.host ≠ "" := by decide
    exact ⟨valid.host, given, valid.port, valid.table, valid.maxConnections, valid.acquireTimeout⟩
  · rintro ⟨host, valid⟩
    exact ⟨host, valid.port, valid.table, valid.maxConnections, valid.acquireTimeout⟩

/-- What the layers come to can be served on if it is loaded, exactly if it has no host, has an address as its
    host, or is refused for something else. -/
theorem servable_iff (layers : Layers e t o) :
    (∀ c, (load e t o).1 = .ok c → AddressText c.host.toList) ↔
      layers.config.host = "" ∨ AddressText layers.config.host.toList ∨
        ¬ (layers.config.withHost default.host).Valid := by
  constructor
  · intro servable
    by_contra! refusable
    obtain ⟨host, other, rest⟩ := refusable
    exact other (servable _ (load_ok_iff.2 ⟨layers, rfl, valid_iff_withHost.2 ⟨host, rest⟩⟩))
  · intro reason c loaded
    obtain ⟨_, checked, rfl⟩ := ok_of_map (layers.load.symm.trans loaded)
    obtain ⟨host, rest⟩ := valid_iff_withHost.1 ((check_ok_iff _).1 checked)
    rcases reason with none | address | refused
    · exact absurd none host
    · exact address
    · exact absurd rest refused

end Config

namespace FileTree

/-- A database that is opened is in its file from then on. -/
theorem entry_of_openDatabase {t u : FileTree} {directory path : String} {d : Store.Database}
    {l : Location} (opened : t.openDatabase directory path = .ok (d, u))
    (place : databasePlace? directory path = some l) : u.entry? l = some (.file (.database d)) := by
  rw [openDatabase, place] at opened
  dsimp only at opened
  have below : t.entry? l ≠ some .directory := by
    intro there
    rw [there] at opened
    cases opened
  have nonempty : l ≠ [] := fun root => below (root ▸ entry?_nil)
  split at opened
  · exact absurd ‹_› below
  · split at opened
    · obtain ⟨rfl, rfl⟩ := Prod.mk.inj (Except.ok.inj opened)
      exact entry?_put t nonempty _
    · cases opened
  · split_ifs at opened
    obtain ⟨rfl, rfl⟩ := Prod.mk.inj (Except.ok.inj opened)
    exact entry?_put t nonempty _

end FileTree

namespace App

open FileTree (databasePlace?)
open Config (Layers)
open Http.Address (AddressText isAddress_iff)

variable {e e' : Environment} {t u : FileTree} {o : Overrides} {c : Config} {words : List String}
  {s : Started}

/-! ## 2. What is made before the host counts -/

/-- A run with another host. -/
def Started.withHost (s : Started) (host : String) : Started := { s with config := s.config.withHost host }

/-- **For what a start makes the host does not count.** -/
theorem launch_withHost (host : String) :
    launch e t (c.withHost host) = ((launch e t c).1.map (·.withHost host), (launch e t c).2) := by
  have path (u : FileTree) (directory : String) :
      databasePath e u (c.withHost host) directory = databasePath e u c directory := rfl
  rw [launch, launch]
  generalize Storage.prepare e t = r
  obtain ⟨answer, u⟩ := r
  cases answer with
  | error => rfl
  | ok directory =>
    dsimp only
    rw [path]
    generalize databasePath e u c directory = r
    obtain ⟨answer, v⟩ := r
    cases answer with
    | error => rfl
    | ok p =>
      dsimp only
      rw [openStore, openStore]
      cases v.openDatabase e.directory p <;> rfl

/-- After a start the database is in its file, if it is in one. -/
theorem entry_of_launch (launched : launch e t c = (.ok s, u)) {l : Location}
    (place : databasePlace? e.directory s.path = some l) :
    ∃ d, u.entry? l = some (.file (.database d)) := by
  obtain ⟨directory, path, v, w, -, -, opened⟩ := openStore_of_launch launched
  obtain ⟨d, made, rfl⟩ := openStore_ok_iff.1 opened
  exact ⟨d, FileTree.entry_of_openDatabase made place⟩

/-- What is started is started with the configuration. -/
theorem config_of_launch (launched : launch e t c = (.ok s, u)) : s.config = c := by
  obtain ⟨directory, path, v, w, -, -, opened⟩ := openStore_of_launch launched
  obtain ⟨d, -, rfl⟩ := openStore_ok_iff.1 opened
  rfl

/-! ## 3. Runs of the server -/

/-- `CommandLine.parse` accepts `words` without a command or with `start`, and reads the overrides `o`. -/
def AsksServer (e : Environment) (words : List String) (o : Overrides) : Prop :=
  CommandLine.parse e.get? words = .ok ⟨none, o⟩ ∨ CommandLine.parse e.get? words = .ok ⟨some .start, o⟩

/-- A run that is asked for the server starts, and then serves if it can. -/
theorem run_of_server (file : EnvironmentFile.load e t = e') (asked : AsksServer e' words o)
    (input : String) : run e t words input = match start e' t o with
      | (.error cause, u) => (.finished (failure "" cause), u)
      | (.ok s, u) => (serve s, u) := by
  rcases asked with asked | asked
  · rw [run, file, asked]
    rfl
  · rw [run, file, asked]
    rfl

theorem run_of_refused (file : EnvironmentFile.load e t = e') (asked : AsksServer e' words o)
    (input : String) {cause : Config.Error} (refused : (Config.load e' t o).1 = .error cause) :
    run e t words input = (.finished (failure "" (.config cause)), t) := by
  rw [run_of_server file asked, start_eq, refused]

theorem run_of_failed (file : EnvironmentFile.load e t = e') (asked : AsksServer e' words o)
    (input : String) (loaded : (Config.load e' t o).1 = .ok c) {cause : Error}
    (failed : launch e' t c = (.error cause, u)) :
    run e t words input = (.finished (failure "" cause), u) := by
  rw [run_of_server file asked, start_eq, loaded]
  dsimp only
  rw [failed]

theorem run_of_launched (file : EnvironmentFile.load e t = e') (asked : AsksServer e' words o)
    (input : String) (loaded : (Config.load e' t o).1 = .ok c)
    (launched : launch e' t c = (.ok s, u)) : run e t words input = (serve s, u) := by
  rw [run_of_server file asked, start_eq, loaded]
  dsimp only
  rw [launched]

/-- A server that is started serves requests if its host is an address. -/
theorem serve_of_address (address : AddressText s.config.host.toList) : serve s = .serving s := by
  rw [serve, if_pos ((isAddress_iff _).2 address)]

theorem serve_of_not_address (other : ¬ AddressText s.config.host.toList) :
    serve s = .finished (failure "" .address) := by
  rw [serve, if_neg (mt (isAddress_iff _).1 other)]

/-- **A run that is asked to serve comes up exactly if its host is an `AddressText`, and of all other hosts
    `Config.load` refuses only the empty one.** Every configuration that `Config.load` gives can be served
    on, exactly if `layers.config.host` is empty or an `AddressText`, or another value is not `Valid`. Where
    `Config.load` fails, `run` leaves `t` as it was. Where it does not, `launch` makes the same files for
    every host, the database among them, and `run` fails for the host only after it. -/
theorem serves_iff_address (file : EnvironmentFile.load e t = e') (asked : AsksServer e' words o)
    (input : String) :
    (∀ layers : Layers e' t o, (∀ c, (Config.load e' t o).1 = .ok c → AddressText c.host.toList) ↔
        layers.config.host = "" ∨ AddressText layers.config.host.toList ∨
          ¬ (layers.config.withHost Config.default.host).Valid) ∧
      (∀ c, (Config.load e' t o).1 = .ok c ↔ ∃ layers : Layers e' t o,
        layers.config = c ∧ c.host ≠ "" ∧ (c.withHost Config.default.host).Valid) ∧
      (∀ cause, (Config.load e' t o).1 = .error cause →
        run e t words input = (.finished (failure "" (.config cause)), t)) ∧
      ∀ c, (Config.load e' t o).1 = .ok c →
        (∀ cause u, launch e' t c = (.error cause, u) →
          run e t words input = (.finished (failure "" cause), u)) ∧
        (∀ s u, launch e' t c = (.ok s, u) →
          (AddressText c.host.toList → run e t words input = (.serving s, u)) ∧
          (¬ AddressText c.host.toList → run e t words input = (.finished (failure "" .address), u)) ∧
          ∀ l, databasePlace? e'.directory s.path = some l →
            ∃ d, u.entry? l = some (.file (.database d))) ∧
        ∀ host, launch e' t (c.withHost host) =
          ((launch e' t c).1.map (·.withHost host), (launch e' t c).2) := by
  refine ⟨Config.servable_iff, fun c => ?_, fun cause => run_of_refused file asked input, fun c loaded =>
    ⟨fun cause u => run_of_failed file asked input loaded, fun s u launched => ?_, launch_withHost⟩⟩
  · rw [Config.load_ok_iff, Config.valid_iff_withHost]
  · have served := run_of_launched file asked input loaded launched
    obtain rfl := config_of_launch launched
    refine ⟨fun address => ?_, fun other => ?_, fun l place => entry_of_launch launched place⟩
    · rw [served, serve_of_address address]
    · rw [served, serve_of_not_address other]

/-- A configuration file that names an address of groups, the last two of which are written as numbers. -/
def mappedText : String := "\x7b\"server\":\x7b\"host\":\"::ffff:10.0.0.1\"\x7d\x7d"

/-- A run of a person at home in `/h` who says no more than the host, if the database is new. -/
def startedAt (host : String) : Started :=
  ⟨Config.default.withHost host, "/h/.local/share/rowgate/sqlite/rowgate.db", .ofDatabase .empty⟩

/-- In the office a server comes up on the address in the configuration file. -/
theorem serves_iff_address_office :
    (run ⟨"/h", "/w", []⟩ (office mappedText) ["start"] "").1 = .serving (startedAt "::ffff:10.0.0.1") := by
  have file : EnvironmentFile.load ⟨"/h", "/w", []⟩ (office mappedText) = ⟨"/h", "/w", []⟩ := by
    decide +kernel
  have asked : AsksServer ⟨"/h", "/w", []⟩ ["start"] ⟨none, none, none, none, none⟩ :=
    .inr (eq_ok_of_toOption (by decide +kernel))
  have loaded : (Config.load ⟨"/h", "/w", []⟩ (office mappedText) ⟨none, none, none, none, none⟩).1 =
      .ok (Config.default.withHost "::ffff:10.0.0.1") := eq_ok_of_toOption (by decide +kernel)
  have launched : (launch ⟨"/h", "/w", []⟩ (office mappedText)
      (Config.default.withHost "::ffff:10.0.0.1")).1 = .ok (startedAt "::ffff:10.0.0.1") :=
    eq_ok_of_toOption (by decide +kernel)
  have low : Http.Address.FourText ['1', '0', '.', '0', '.', '0', '.', '1'] :=
    ⟨['1', '0'], ['0'], ['0'], ['1'], ⟨10, by decide, by decide⟩, ⟨0, by decide, by decide⟩,
      ⟨0, by decide, by decide⟩, ⟨1, by decide, by decide⟩, rfl⟩
  have high : Http.Address.GroupText ['f', 'f', 'f', 'f'] :=
    ⟨by decide, by decide, List.all_eq_true.1 (by decide)⟩
  have address : AddressText "::ffff:10.0.0.1".toList :=
    .inr (.short .done (.group high (.decimal low)) (by decide))
  obtain ⟨-, -, -, runs⟩ := serves_iff_address file asked ""
  obtain ⟨-, up, -⟩ := runs _ loaded
  obtain ⟨serving, -, -⟩ := up _ _ (Prod.fst_eq_iff.1 launched)
  rw [serving address]

/-- The directories of a run in `/w` by a person at home in `/h`, without any files. -/
def bareOffice : FileTree := ⟨[(["h"], .directory), (["w"], .directory)]⟩

/-- Where the database of a person at home in `/h` is, if nothing else is said. -/
def homeDatabase : Location := ["h", ".local", "share", "rowgate", "sqlite", "rowgate.db"]

/-- **A name is a host that is loaded.** It is refused when the data directory and the database are made. -/
theorem name_refused_late :
    (Config.load ⟨"/h", "/w", []⟩ bareOffice ⟨some "localhost", none, none, none, none⟩).1 =
        .ok (Config.default.withHost "localhost") ∧
      ¬ AddressText "localhost".toList ∧
      (run ⟨"/h", "/w", []⟩ bareOffice ["-H", "localhost"] "").1 = .finished (failure "" .address) ∧
      bareOffice.entry? homeDatabase = none ∧
      FileTree.entry? (run ⟨"/h", "/w", []⟩ bareOffice ["-H", "localhost"] "").2 homeDatabase =
        some (.file (.database .empty)) := by
  have file : EnvironmentFile.load ⟨"/h", "/w", []⟩ bareOffice = ⟨"/h", "/w", []⟩ := by decide +kernel
  have asked : AsksServer ⟨"/h", "/w", []⟩ ["-H", "localhost"] ⟨some "localhost", none, none, none, none⟩ :=
    .inl (eq_ok_of_toOption (by decide +kernel))
  have loaded : (Config.load ⟨"/h", "/w", []⟩ bareOffice ⟨some "localhost", none, none, none, none⟩).1 =
      .ok (Config.default.withHost "localhost") := eq_ok_of_toOption (by decide +kernel)
  have launched : (launch ⟨"/h", "/w", []⟩ bareOffice (Config.default.withHost "localhost")).1 =
      .ok (startedAt "localhost") := eq_ok_of_toOption (by decide +kernel)
  have other : ¬ AddressText "localhost".toList := fun address =>
    absurd (address.parts 'l' (by decide)) (by decide)
  have served := run_of_launched file asked "" loaded (Prod.fst_eq_iff.1 launched)
  refine ⟨loaded, other, ?_, by decide +kernel, ?_⟩
  · rw [served, serve_of_not_address other]
  · rw [served]
    decide +kernel

end App

end Dataset
