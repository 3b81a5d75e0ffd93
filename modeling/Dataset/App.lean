import Dataset.CommandLine.Parser
import Dataset.EnvironmentFile
import Dataset.Http.Address
import Dataset.Import
import Dataset.Storage

/-!
# The program

A run gets words, an environment, files and a line of input, and ends with an exit code and texts,
or goes on as a server. `run` is the whole program; files are changed only by making the data
directory and the database, by an import into the database, and by pruning.
-/

namespace Dataset.App

/-! ## 1. Endings -/

/-- Why a run fails. -/
inductive Error where
  | config (cause : Config.Error)
  | storage (cause : Storage.Error)
  | databaseDirectory (path : String)
  | database (path : String)
  | importFile (file : String)
  | address
  | prune (path : String)
  deriving DecidableEq, Repr

/-- The wording of a failure. -/
def Error.message : Error → String
  | config cause => cause.message
  | storage cause => cause.message
  | databaseDirectory path => "Failed to create database directory: " ++ path
  | database path => "Failed to open database: " ++ path
  | importFile file => "Failed to import CSV: " ++ file
  | address => "invalid IP address syntax"
  | prune path => "Failed to delete data directory: " ++ path

/-- How a run ends. -/
structure Outcome where
  exitCode : Nat
  output : String
  errors : String
  deriving DecidableEq, Repr

/-- A run that ends well. -/
def success (output : String) : Outcome := ⟨0, output, ""⟩

/-- A run that fails after some output. -/
def failure (output : String) (e : Error) : Outcome :=
  ⟨1, output, "\nError: " ++ e.message ++ "\n\n"⟩

/-- A run that ends with its command line. -/
def refusal (e : CommandLine.Error) : Outcome :=
  if e.isAnswer then ⟨e.exitCode, e.message ++ "\n", ""⟩ else ⟨e.exitCode, "", e.message ++ "\n"⟩

/-- A run that has a configuration and a store. -/
structure Started where
  config : Config
  /-- The path of the database file. -/
  path : String
  store : Store
  deriving DecidableEq, Repr

/-- A run that has ended, or one that serves requests. -/
inductive Ending where
  | finished (outcome : Outcome)
  | serving (started : Started)
  deriving DecidableEq, Repr

/-! ## 2. Starting -/

/-- The name of the database file in the data directory. -/
def databaseName : String := "rowgate.db"

/-- The path of the database file; the directory of one that is named is made. -/
def databasePath (e : Environment) (t : FileTree) (c : Config) (dataDirectory : String) :
    Except Error String × FileTree :=
  match c.path with
  | none => (.ok (Storage.databaseFile dataDirectory databaseName), t)
  | some path =>
    match (Path.parent? path).filter fun p => !p.isEmpty with
    | none => (.ok path, t)
    | some parent =>
      match t.makeDirectories e.directory parent with
      | (.ok (), t) => (.ok path, t)
      | (.error _, t) => (.error (.databaseDirectory parent), t)

/-- Opens the database of a path. -/
def openStore (e : Environment) (t : FileTree) (c : Config) (path : String) :
    Except Error Started × FileTree :=
  match t.openDatabase e.directory path with
  | .ok (d, t) => (.ok ⟨c, path, .ofDatabase d⟩, t)
  | .error _ => (.error (.database path), t)

/-- Loads the configuration, makes the data directory and opens the database. -/
def start (e : Environment) (t : FileTree) (o : Overrides) : Except Error Started × FileTree :=
  match (Config.load e t o).1 with
  | .error cause => (.error (.config cause), t)
  | .ok c =>
    match Storage.prepare e t with
    | (.error cause, t) => (.error (.storage cause), t)
    | (.ok directory, t) =>
      match databasePath e t c directory with
      | (.error cause, t) => (.error cause, t)
      | (.ok path, t) => openStore e t c path

/-! ## 3. Commands -/

/-- The bytes of the file at a path. -/
def fileBytes? (e : Environment) (t : FileTree) (path : String) : Option (List UInt8) :=
  (t.readText? e.directory path).map fun s => Text.Utf8.encode s.toList

/-- What is said after an import. -/
def importText (table : String) (s : Import.Summary) : String :=
  "Imported " ++ Text.ofNat s.inserted ++ " rows into '" ++ table ++ "' (" ++ Text.ofNat s.failed
    ++ " failed)\n"

/-- Imports a file into the dataset. -/
def importFile (e : Environment) (t : FileTree) (s : Started) (file : String) :
    Outcome × FileTree :=
  let (result, store) := Import.importFile s.store s.config.table (fileBytes? e t file)
  let t := t.saveDatabase e.directory s.path store.database
  match result with
  | .ok report => (success (importText s.config.table report.summary), t)
  | .error _ => (failure "" (.importFile file), t)

/-- Serves requests, if the host is an address. -/
def serve (s : Started) : Ending :=
  if Http.Address.isAddress s.config.host then .serving s
  else .finished (failure "" .address)

/-- An answer that confirms. -/
def confirms (line : String) : Bool :=
  ["y", "yes"].contains (String.ofList ((Text.trimChars line.toList).map Char.toLower))

/-- The first line of the input. -/
def firstLine (input : String) : String :=
  String.ofList (input.toList.takeWhile (· != '\n'))

/-- What is said before the data directory is removed. -/
def pruneNotice (path : String) : String :=
  "This will permanently delete the local data directory:\n  " ++ path
    ++ "\n\nMake sure the server is not running.\n"

/-- What is asked before the data directory is removed. -/
def pruneQuestion : String := "\nContinue? [y/N] "

/-- Removes the data directory, if it is there and this is confirmed. What is below the root can be
    removed, but not the root itself. -/
def prune (e : Environment) (t : FileTree) (confirmed : Bool) (input : String) :
    Outcome × FileTree :=
  let directory := Storage.dataDirectory e
  match t.locate e.directory directory with
  | .error _ =>
    (success ("Nothing to prune. Data directory does not exist: " ++ directory ++ "\n"), t)
  | .ok l =>
    let path := Path.ofNames l
    let said := pruneNotice path ++ (if confirmed then "" else pruneQuestion)
    if !confirmed && !confirms (firstLine input) then (success (said ++ "Aborted.\n"), t)
    else if !t.isDirectory l then (failure said (.prune path), t)
    else if l.isEmpty then (failure said (.prune path), t.removeTree l)
    else (success (said ++ "Pruned: " ++ path ++ "\n"), t.removeTree l)

/-! ## 4. The run -/

/-- Does what a command line asks for. -/
def perform (e : Environment) (t : FileTree) (i : CommandLine.Invocation) (input : String) :
    Ending × FileTree :=
  match i.command with
  | some (.prune confirmed) =>
    let r := prune e t confirmed input
    (.finished r.1, r.2)
  | command =>
    match start e t i.overrides with
    | (.error cause, t) => (.finished (failure "" cause), t)
    | (.ok started, t) =>
      match command with
      | some (.importFile file) =>
        let r := importFile e t started file
        (.finished r.1, r.2)
      | _ => (serve started, t)

/-- The whole program, given the words behind its name. -/
def run (e : Environment) (t : FileTree) (words : List String) (input : String) :
    Ending × FileTree :=
  let e := EnvironmentFile.load e t
  match CommandLine.parse e.get? words with
  | .error cause => (.finished (refusal cause), t)
  | .ok i => perform e t i input

/-- What is said before a line of input is needed, if one is. -/
def question? (e : Environment) (t : FileTree) (words : List String) : Option String :=
  let e := EnvironmentFile.load e t
  match CommandLine.parse e.get? words with
  | .ok ⟨some (.prune false), _⟩ =>
    match t.locate e.directory (Storage.dataDirectory e) with
    | .ok l => some (pruneNotice (Path.ofNames l) ++ pruneQuestion)
    | .error _ => none
  | _ => none

end Dataset.App
