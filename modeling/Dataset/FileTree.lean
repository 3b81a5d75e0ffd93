import Dataset.Path
import Dataset.Store.Database

/-!
# Files and directories

A file tree is a list of places, each a directory or a file; a place is given by its names from the
root. Files hold text or a database.

* `locate` follows a path to a place that is there;
* `makeDirectory` and `makeDirectories` make directories, `removeTree` removes a place with all that
  is below it;
* `openDatabase` opens a database file, which is made if it is missing.
-/

namespace Dataset

/-- What a file holds. -/
inductive FileContent where
  | text (s : String)
  | database (d : Store.Database)
  deriving DecidableEq, Repr

/-- What is at a place. -/
inductive FileEntry where
  | directory
  | file (content : FileContent)
  deriving DecidableEq, Repr

/-- The names from the root to a place. -/
abbrev Location := List String

/-- Places and what is there. The root is a directory that is always there. -/
structure FileTree where
  entries : List (Location × FileEntry)
  deriving DecidableEq, Repr

namespace FileTree

/-- Why a path leads nowhere, or nothing can be made there. -/
inductive Fault where
  | notFound
  | notDirectory
  | alreadyExists
  deriving DecidableEq, Repr

/-! ## 1. Looking -/

/-- What is at a place. -/
def entry? (t : FileTree) (l : Location) : Option FileEntry :=
  if l.isEmpty then some .directory else t.entries.lookup l

/-- A directory is at the place. -/
def isDirectory (t : FileTree) (l : Location) : Bool := t.entry? l == some .directory

/-- Follows names from a place. -/
def walk (t : FileTree) (l : Location) : List String → Except Fault Location
  | [] => .ok l
  | name :: rest =>
    if !t.isDirectory l then .error .notDirectory
    else if name = "" || name = "." then t.walk l rest
    else if name = ".." then t.walk l.dropLast rest
    else if (t.entry? (l ++ [name])).isSome then t.walk (l ++ [name]) rest
    else .error .notFound

/-- Follows a path, seen from a directory, to a place that is there. -/
def locate (t : FileTree) (directory path : String) : Except Fault Location :=
  if path.isEmpty then .error .notFound else t.walk [] (Path.names (Path.join directory path))

/-- A path leads to something. -/
def exists? (t : FileTree) (directory path : String) : Bool := (t.locate directory path).isOk

/-- The text of the file at a path. -/
def readText? (t : FileTree) (directory path : String) : Option String :=
  match (t.locate directory path).toOption.bind t.entry? with
  | some (.file (.text s)) => some s
  | _ => none

/-! ## 2. Changing -/

/-- Something new at a place, or something else instead of what was there. -/
def put (t : FileTree) (l : Location) (e : FileEntry) : FileTree :=
  ⟨(l, e) :: t.entries.filter fun x => x.1 != l⟩

/-- Nothing at a place any more, nor below it. -/
def removeTree (t : FileTree) (l : Location) : FileTree :=
  ⟨t.entries.filter fun x => !l.isPrefixOf x.1⟩

/-- Names without empty ones at the end. -/
def withoutEmptyEnd (names : List String) : List String :=
  (names.reverse.dropWhile (· == "")).reverse

/-- A directory at a path where nothing is. -/
def makeDirectory (t : FileTree) (directory path : String) : Except Fault FileTree :=
  match t.locate directory path with
  | .ok _ => .error .alreadyExists
  | .error fault =>
    let names := withoutEmptyEnd (Path.names (Path.join directory path))
    match names.getLast? with
    | none => .error fault
    | some name =>
      if path.isEmpty || name = "." || name = ".." then .error fault
      else do
        let l ← t.walk [] names.dropLast
        if !t.isDirectory l then .error .notDirectory
        else if (t.entry? (l ++ [name])).isSome then .error .alreadyExists
        else .ok (t.put (l ++ [name]) .directory)

/-- The path leads to a directory. -/
def leadsToDirectory (t : FileTree) (directory path : String) : Bool :=
  match t.locate directory path with
  | .ok l => t.isDirectory l
  | .error _ => false

/-- Makes a directory; what is made stays made. It is no fault if it is there. -/
def ensureDirectory (t : FileTree) (directory path : String) : Except Fault Unit × FileTree :=
  match t.makeDirectory directory path with
  | .ok t => (.ok (), t)
  | .error fault => (if t.leadsToDirectory directory path then .ok () else .error fault, t)

/-- Makes a directory and, where they are missing, those above it; at most `fuel` of them. -/
def makeDirectoriesWith (directory : String) :
    Nat → String → FileTree → Except Fault Unit × FileTree
  | 0, _, t => (.ok (), t)
  | fuel + 1, path, t =>
    if path.isEmpty then (.ok (), t)
    else
      match t.ensureDirectory directory path with
      | (.error .notFound, t) =>
        match Path.parent? path with
        | none => (.error .notFound, t)
        | some parent =>
          match makeDirectoriesWith directory fuel parent t with
          | (.error fault, t) => (.error fault, t)
          | (.ok (), t) => t.ensureDirectory directory path
      | r => r

/-- Makes a directory and, where they are missing, those above it. -/
def makeDirectories (t : FileTree) (directory path : String) : Except Fault Unit × FileTree :=
  makeDirectoriesWith directory (path.length + 1) path t

/-! ## 3. Databases -/

/-- The name of a database that is in no file. -/
def memoryName : String := ":memory:"

/-- The place of the database of a path; none if it is in no file. -/
def databasePlace? (directory path : String) : Option Location :=
  if path = memoryName then none else some (Path.normalNames (Path.join directory path))

/-- A file as a database, if it is one; an empty file is one without tables. -/
def FileContent.database? : FileContent → Option Store.Database
  | .text s => if s.isEmpty then some .empty else none
  | .database d => some d

/-- Opens the database of a path. There has to be a database file, or nothing in a directory. -/
def openDatabase (t : FileTree) (directory path : String) :
    Except Store.Fault (Store.Database × FileTree) :=
  match databasePlace? directory path with
  | none => .ok (.empty, t)
  | some l =>
    match t.entry? l with
    | some .directory => .error .cannotOpen
    | some (.file content) =>
      match FileContent.database? content with
      | some d => .ok (d, t.put l (.file (.database d)))
      | none => .error .notADatabase
    | none =>
      if t.isDirectory l.dropLast then .ok (.empty, t.put l (.file (.database .empty)))
      else .error .cannotOpen

/-- Writes a database back to where it was opened. -/
def saveDatabase (t : FileTree) (directory path : String) (d : Store.Database) : FileTree :=
  match databasePlace? directory path with
  | none => t
  | some l => t.put l (.file (.database d))

end FileTree

end Dataset
