import Dataset.App
import Dataset.Http.Router

/-!
# The command line program

The outer layer: it looks up the environment and the files that a run may read, hands them to
`App.run`, and carries out what comes back. Where the run goes on as a server, requests are read
from the standard input, one on a line: a method, a space and a target. The store lives as long as
the program does.
-/

namespace Dataset.Main

/-! ## 1. What is there -/

/-- The variables that a run may look at. -/
def variableNames : List String :=
  CommandLine.Setting.all.map CommandLine.Setting.variableName
    ++ [Storage.directoryVariable, Storage.sharedVariable]

/-- The environment of the process. -/
def currentEnvironment : IO Environment := do
  let home := (← IO.getEnv "HOME").getD "/"
  let directory := (← IO.currentDir).toString
  let values ← variableNames.mapM fun name => do
    return (← IO.getEnv name).map fun value => (name, value)
  return ⟨home, directory, values.filterMap id⟩

/-- The places from the root down to a place, without the place itself. -/
def placesAbove (l : Location) : List Location := (List.range l.length).map fun n => l.take n

/-- A tree with one more entry, and the directories above it. -/
def withEntry (t : FileTree) (l : Location) (e : FileEntry) : FileTree :=
  (((placesAbove l).filter fun x => !x.isEmpty).foldl (fun t x => t.put x .directory) t).put l e

/-- A tree with what is at a path, if anything is. -/
def readPlace (e : Environment) (t : FileTree) (path : String) : IO FileTree := do
  let place := Path.normalNames (Path.join e.directory path)
  let file := (← IO.currentDir) / Path.ofNames place
  if ← file.isDir then return withEntry t place .directory
  else if ← file.pathExists then return withEntry t place (.file (.text (← IO.FS.readFile file)))
  else return t

/-- A tree with what is at several paths. -/
def readPlaces (e : Environment) (t : FileTree) (paths : List String) : IO FileTree :=
  paths.foldlM (readPlace e) t

/-- The paths that a command line names. -/
def namedPaths (e : Environment) (i : CommandLine.Invocation) : List String :=
  let file := match i.command with
    | some (.importFile file) => [file]
    | _ => []
  (i.overrides.config.map e.expandPath).toList ++ i.overrides.database.toList ++ file

/-- What a run may read. -/
def currentTree (e : Environment) (words : List String) : IO FileTree := do
  let profile := Path.join (Path.join e.home Config.profileDirectory) Config.fileName
  let t ← readPlaces e ⟨[]⟩ [".", e.home, EnvironmentFile.fileName, Config.fileName, profile]
  let e := EnvironmentFile.load e t
  let named := match CommandLine.parse e.get? words with
    | .ok i => namedPaths e i
    | .error _ => []
  readPlaces e t (Storage.dataDirectory e :: named)

/-! ## 2. What is changed -/

/-- Makes the directories that are new in a tree, and removes those that are in it no more. -/
def carryOut (before after : FileTree) : IO Unit := do
  let root ← IO.currentDir
  for (l, e) in after.entries.reverse do
    if e == .directory && (before.entry? l).isNone then
      IO.FS.createDirAll (root / Path.ofNames l)
  for (l, e) in before.entries do
    if e == .directory && (after.entry? l).isNone then
      IO.FS.removeDirAll (root / Path.ofNames l)

/-! ## 3. The program -/

/-- The request on a line. -/
def requestOf (line : String) : Http.Request :=
  let (method, target) := Text.splitAtFirst ' ' (Text.trimChars line.toList)
  ⟨.ofName (String.ofList method), .parse (String.ofList (target.getD [])), none⟩

/-- Answers requests up to the end of the input. -/
partial def serve (store : Store) (table : String) : IO Unit := do
  let line ← (← IO.getStdin).getLine
  if line.isEmpty then return
  let (response, store) := Http.respond store table (requestOf line)
  IO.println (Text.ofNat response.status ++ " " ++ response.body.getD "")
  serve store table

/-- Asks a question, if there is one, and reads a line. -/
def ask (question : Option String) : IO String := do
  match question with
  | none => return ""
  | some text =>
    IO.print text
    (← IO.getStdout).flush
    (← IO.getStdin).getLine

/-- Runs the program on the words of a command line. -/
def run (words : List String) : IO UInt32 := do
  let e ← currentEnvironment
  let before ← currentTree e words
  let question := App.question? e before words
  let input ← ask question
  let (ending, after) := App.run e before words input
  carryOut before after
  match ending with
  | .finished outcome =>
    IO.print (outcome.output.drop (question.getD "").length)
    IO.eprint outcome.errors
    return outcome.exitCode.toUInt32
  | .serving started =>
    serve started.store started.config.table
    return 0

end Dataset.Main

/-- The entry of the program. -/
def main (words : List String) : IO UInt32 := Dataset.Main.run words
