import Dataset.FileTree

/-!
# The environment of a run

What a run finds around it besides files: a home directory, a working directory, and variables.
`expandPath` makes a path of a text that a person wrote.
-/

namespace Dataset

/-- What a run finds around it. Both directories are absolute paths. -/
structure Environment where
  home : String
  directory : String
  bindings : List (String × String)
  deriving DecidableEq, Repr

namespace Environment

/-- The value of a variable. -/
def get? (e : Environment) (name : String) : Option String := e.bindings.lookup name

/-- A variable with a value; one that is there keeps its own. -/
def setDefault (e : Environment) (v : String × String) : Environment :=
  if (e.get? v.1).isSome then e else { e with bindings := e.bindings ++ [v] }

/-- What a tilde and a slash at the start of a text stand for, and what follows. -/
def expandTilde (e : Environment) (s : String) : String :=
  match s.toList with
  | ['~'] => e.home
  | '~' :: c :: rest =>
    if c = '/' || c = '\\' then Path.join e.home (String.ofList rest) else s
  | _ => s

/-- The absolute path that a text means: blanks around it do not count, a tilde is the home
    directory, and a relative path starts at the working directory, which a blank text means. -/
def expandPath (e : Environment) (text : String) : String :=
  let s := Text.trim text
  if s.isEmpty then e.directory else Path.join e.directory (e.expandTilde s)

end Environment

end Dataset
