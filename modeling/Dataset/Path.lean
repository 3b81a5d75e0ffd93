import Dataset.Text.Blank

/-!
# Paths as text

A path is a text of names with slashes between them. Nothing here looks at any file: `join` puts a
path below another, `parent?` cuts off the last name, `names` takes a path apart.
-/

namespace Dataset.Path

/-- A path from the root on. -/
def isAbsolute (p : String) : Bool := p.toList.head? == some '/'

/-- A path seen from a directory; an absolute one is the same from everywhere. -/
def join (base rest : String) : String :=
  if isAbsolute rest || base.isEmpty then rest
  else if base.toList.getLast? = some '/' then base ++ rest
  else base ++ "/" ++ rest

/-- The names of a path, and an empty one before the first and after the last slash. -/
def names (p : String) : List String := (Text.pieces '/' p.toList).map String.ofList

/-! ## 1. The parent -/

/-- The start of a path that is no name: the root, or the dot of a path that starts with one. -/
def headLength (p : List Char) : Nat :=
  match p with
  | '/' :: _ => 1
  | ['.'] => 1
  | '.' :: '/' :: _ => 1
  | _ => 0

/-- A reversed path without its last name and the slash before it. -/
def withoutName (reversed : List Char) : List Char := (reversed.dropWhile (· != '/')).drop 1

/-- A reversed path without names at its end that say nothing: empty ones, and dots. -/
def withoutEmptyNames : Nat → List Char → List Char
  | 0, reversed => reversed
  | fuel + 1, reversed =>
    let name := reversed.takeWhile (· != '/')
    if !reversed.isEmpty && (name.isEmpty || name == ['.'])
    then withoutEmptyNames fuel (withoutName reversed) else reversed

/-- The path without its last name, if it has one. -/
def parent? (p : String) : Option String :=
  let cs := p.toList
  let head := cs.take (headLength cs)
  let body := withoutEmptyNames cs.length (cs.drop (headLength cs)).reverse
  if body.isEmpty then (if head = ['.'] then some "" else none)
  else some (String.ofList (head ++ (withoutEmptyNames cs.length (withoutName body)).reverse))

/-! ## 2. Names alone -/

/-- Names with those taken out that say nothing, and with those that are left again. -/
def normalFrom (before : List String) : List String → List String
  | [] => before
  | name :: rest =>
    if name = "" || name = "." then normalFrom before rest
    else if name = ".." then normalFrom before.dropLast rest
    else normalFrom (before ++ [name]) rest

/-- The names from the root to the end of an absolute path, whether there are files or not. -/
def normalNames (p : String) : List String := normalFrom [] (names p)

/-- The absolute path of names from the root. -/
def ofNames (ns : List String) : String :=
  if ns.isEmpty then "/" else String.join (ns.map ("/" ++ ·))

end Dataset.Path
