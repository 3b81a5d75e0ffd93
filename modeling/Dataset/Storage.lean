import Dataset.About
import Dataset.Environment

/-!
# The data directory

The program keeps what it stores in one directory: the one that the variable `ROWGATE_DATA_DIR`
names, or one of its own where programs of the user keep their data.

* `dataDirectory` is its path;
* `prepare` makes it and the directory below it for databases.
-/

namespace Dataset.Storage

/-- The variable that names the data directory. -/
def directoryVariable : String := "ROWGATE_DATA_DIR"

/-- The variable that names the directory for the data of all programs. -/
def sharedVariable : String := "XDG_DATA_HOME"

/-- The directory for the data of all programs: a relative path in its variable does not count. -/
def sharedDirectory (e : Environment) : String :=
  match (e.get? sharedVariable).filter Path.isAbsolute with
  | some path => path
  | none => Path.join e.home ".local/share"

/-- The path of the data directory. -/
def dataDirectory (e : Environment) : String :=
  match e.get? directoryVariable with
  | some text => e.expandPath text
  | none => Path.join (sharedDirectory e) programName

/-- The directory for databases below the data directory. -/
def databaseDirectory : String := "sqlite"

/-- Why there is no data directory. -/
inductive Error where
  | data (path : String)
  | databases (path : String)
  deriving DecidableEq, Repr

/-- The wording of a failure. -/
def Error.message : Error → String
  | data path => "Failed to create data directory: " ++ path
  | databases path => "Failed to create " ++ databaseDirectory ++ " directory: " ++ path

/-- The path of a place without detours. -/
def canonical (e : Environment) (t : FileTree) (path : String) : String :=
  match t.locate e.directory path with
  | .ok l => Path.ofNames l
  | .error _ => path

/-- Makes the data directory and what belongs below it; the answer is its path without detours.
    What is made stays made. -/
def prepare (e : Environment) (t : FileTree) : Except Error String × FileTree :=
  let path := dataDirectory e
  match t.makeDirectories e.directory path with
  | (.error _, t) => (.error (.data path), t)
  | (.ok (), t) =>
    let below := Path.join path databaseDirectory
    match t.makeDirectories e.directory below with
    | (.error _, t) => (.error (.databases below), t)
    | (.ok (), t) => (.ok (canonical e t path), t)

/-- The path of a database file below the data directory. -/
def databaseFile (directory name : String) : String :=
  Path.join (Path.join directory databaseDirectory) name

end Dataset.Storage
