import Dataset.Config.Settings
import Dataset.Environment
import Dataset.Sql.Identifier

/-!
# Configuration

A configuration says everything about how the program is to run. It is made of layers, of which the
upper ones count where they say something: what was said on the command line; the file named there,
or else the one in the working directory; the file in the home directory; what holds if nothing is
said.

* `load` reads the files, puts the layers together and checks the result;
* `Config.check` refuses what the program cannot run with; only the whole is checked, no layer.
-/

namespace Dataset

/-- What was said on the command line, or by variables instead. -/
structure Overrides where
  host : Option String
  port : Option Nat
  config : Option String
  database : Option String
  table : Option String
  deriving DecidableEq, Repr

/-- How the program is to run. -/
structure Config where
  host : String
  port : Nat
  /-- The database file; none means the one in the data directory. -/
  path : Option String
  table : String
  maxConnections : Nat
  acquireTimeout : Nat
  busyTimeout : Nat
  deriving DecidableEq, Repr

namespace Config

/-! ## 1. Refusals -/

/-- Why there is no configuration. -/
inductive Error where
  | unreadable (path : String)
  | unparsable (path : String)
  | missing (path : String)
  | emptyHost
  | zeroPort
  | tableName (name : String)
  | noConnections
  | noAcquireTime
  deriving DecidableEq, Repr

/-- The wording of a refusal. -/
def Error.message : Error → String
  | unreadable path => "Failed to read config file: " ++ path
  | unparsable path => "Failed to parse config file: " ++ path
  | missing path => "Config file not found: " ++ path
  | emptyHost => "Configuration error: server.host must not be empty"
  | zeroPort => "Configuration error: server.port must be greater than 0"
  | tableName name =>
    "Configuration error: database.table '" ++ name ++ "' must match [A-Za-z_][A-Za-z0-9_]*"
  | noConnections => "Configuration error: database.max_connections must be at least 1"
  | noAcquireTime => "Configuration error: database.acquire_timeout_secs must be at least 1"

/-! ## 2. Layers -/

/-- The name of a configuration file. -/
def fileName : String := "rowgate.json"

/-- The directory in the home directory that holds one. -/
def profileDirectory : String := ".rowgate"

/-- What holds if nothing is said. -/
def default : Config := ⟨"127.0.0.1", 4000, Option.none, "electric_cars", 10, 30, 30⟩

/-- The configuration of what was said on the command line and in files. The path of a database file
    is expanded if it comes from a file. -/
def ofLayers (e : Environment) (o : Overrides) (s : Settings) : Config :=
  let server := s.server.getD .none
  let database := s.database.getD .none
  ⟨(o.host.or server.host).getD default.host, (o.port.or server.port).getD default.port,
    o.database.or (database.path.map e.expandPath), (o.table.or database.table).getD default.table,
    database.maxConnections.getD default.maxConnections,
    database.acquireTimeout.getD default.acquireTimeout,
    database.busyTimeout.getD default.busyTimeout⟩

/-- Refuses a configuration that the program cannot run with. -/
def check (c : Config) : Except Error Unit :=
  if c.host.isEmpty then .error .emptyHost
  else if c.port = 0 then .error .zeroPort
  else if !Sql.isPlain c.table then .error (.tableName c.table)
  else if c.maxConnections = 0 then .error .noConnections
  else if c.acquireTimeout = 0 then .error .noAcquireTime
  else .ok ()

/-! ## 3. Files -/

/-- The settings of a file, and its members that mean nothing. -/
def readFile (e : Environment) (t : FileTree) (path : String) :
    Except Error (Settings × List String) :=
  match t.readText? e.directory path with
  | none => .error (.unreadable path)
  | some text =>
    match Settings.parse text with
    | .ok r => .ok r
    | .error _ => .error (.unparsable path)

/-- The file in the home directory, if it is there. -/
def profile? (e : Environment) (t : FileTree) : Option String :=
  let path := Path.join (Path.join e.home profileDirectory) fileName
  if t.exists? e.directory path then some path else none

/-- The file over it: the one that is named, which has to be there, or the one in the working
    directory, if it is there. -/
def overlay (e : Environment) (t : FileTree) (o : Overrides) : Except Error (Option String) :=
  match o.config with
  | some text =>
    let path := e.expandPath text
    if t.exists? e.directory path then .ok (some path) else .error (.missing path)
  | none => .ok (if t.exists? e.directory fileName then some fileName else none)

/-- The settings of a file that may be missing, laid over others; and the warnings with one more, if
    the file has members that mean nothing. -/
def addFile (e : Environment) (t : FileTree) (path : Option String)
    (below : Settings × List (List String)) : Except Error (Settings × List (List String)) :=
  match path with
  | none => .ok below
  | some path => do
    let (s, unknown) ← readFile e t path
    .ok (s.layered below.1, if unknown.isEmpty then below.2 else below.2 ++ [unknown])

/-- The configuration, or why there is none; and a warning for each file with members that mean
    nothing, in the order in which the files were read. -/
def load (e : Environment) (t : FileTree) (o : Overrides) :
    Except Error Config × List (List String) :=
  match addFile e t (profile? e t) (.none, []) with
  | .error error => (.error error, [])
  | .ok below =>
    match overlay e t o with
    | .error error => (.error error, below.2)
    | .ok path =>
      match addFile e t path below with
      | .error error => (.error error, below.2)
      | .ok (s, warnings) =>
        let c := ofLayers e o s
        (c.check.map fun _ => c, warnings)

end Config

end Dataset
