import Dataset.Environment

/-!
# Files of variables

A file of the name `.env` in the working directory, or in the nearest directory above that has one,
gives values to variables that have none.

* A line is `NAME=value`; `export` may stand before it. Blank lines and lines that start with `#`
  say nothing.
* A value may be quoted in part or as a whole. Between apostrophes every character stands for
  itself. Elsewhere a backslash takes its meaning from the character behind it, and a dollar sign
  with a name stands for the value of a variable.
* Outside quotes a blank ends the value, and only a comment may follow it.
* A quotation may run over several lines.

The first line that cannot be read ends the file; what stood above it counts.
-/

namespace Dataset.EnvironmentFile

/-! ## 1. Logical lines -/

/-- What the end of a physical line leaves open. -/
inductive LineState where
  | complete
  | escaped
  | strong
  | strongEscaped
  | weak
  | weakEscaped
  | blank
  deriving DecidableEq, Repr

/-- Outside quotes: the state behind a character. -/
def outsideState (c : Char) : LineState :=
  if c = '\\' then .escaped else if c = '"' then .weak else if c = '\'' then .strong else .complete

/-- The state behind a character; nothing where a comment begins. -/
def LineState.step? (s : LineState) (c : Char) : Option LineState :=
  match s with
  | .blank => if c = '#' then none else some (outsideState c)
  | .escaped => some .complete
  | .complete =>
    if Text.isBlank c && c != '\n' && c != '\r' then some .blank else some (outsideState c)
  | .weak => some (if c = '\\' then .weakEscaped else if c = '"' then .complete else .weak)
  | .weakEscaped => some .weak
  | .strong => some (if c = '\\' then .strongEscaped else if c = '\'' then .complete else .strong)
  | .strongEscaped => some .strong

/-- Follows a physical line: the text before a comment, if there is one, and the state at the
    end. -/
def scanLine (s : LineState) : List Char → Option (List Char) × LineState
  | [] => (none, s)
  | c :: rest =>
    match s.step? c with
    | none => (some [], .complete)
    | some s =>
      let r := scanLine s rest
      (r.1.map (c :: ·), r.2)

/-- A text cut behind each line feed. -/
def physicalLines : List Char → List (List Char)
  | [] => []
  | c :: rest =>
    if c = '\n' then [c] :: physicalLines rest
    else match physicalLines rest with
      | [] => [[c]]
      | l :: ls => (c :: l) :: ls

/-- A line without the line feed at its end and a carriage return before it. -/
def withoutLineEnd (line : List Char) : List Char :=
  match line.reverse with
  | '\n' :: '\r' :: rest => rest.reverse
  | '\n' :: rest => rest.reverse
  | _ => line

/-- The logical lines of physical lines, where `begun` is what there is of the first one; nothing
    stands for a line that never ends. -/
def logicalLines (begun : List Char) (s : LineState) : List (List Char) → List (Option (List Char))
  | [] => if s = .complete then [] else [none]
  | line :: rest =>
    let all := begun ++ line
    if (Text.trimStart all).head? = some '#' then some [] :: logicalLines [] .complete rest
    else
      match scanLine s line with
      | (some text, _) => some (begun ++ text) :: logicalLines [] .complete rest
      | (none, .complete) => some (withoutLineEnd all) :: logicalLines [] .complete rest
      | (none, s) => logicalLines all s rest

/-! ## 2. Values -/

/-- How a variable that is being named will end. -/
inductive Naming where
  | none
  | bare
  | braced
  deriving DecidableEq, Repr

/-- The reader of a value. -/
structure Reader where
  strong : Bool
  weak : Bool
  escaped : Bool
  ended : Bool
  naming : Naming
  /-- The name so far, in reverse. -/
  name : List Char
  /-- The value so far, in reverse. -/
  output : List Char
  deriving Repr

/-- Nothing read yet. -/
def Reader.start : Reader := ⟨false, false, false, false, .none, [], []⟩

/-- One more character of the value. -/
def Reader.push (r : Reader) (c : Char) : Reader := { r with output := c :: r.output }

/-- A character of a name behind a dollar sign: an ASCII letter or a digit. -/
def isNameChar (c : Char) : Bool := c.isAlphanum

/-- The value of the variable that has been named, behind the value so far. -/
def Reader.substitute (look : String → String) (r : Reader) : Reader :=
  { r with name := [], output := (look (String.ofList r.name.reverse)).toList.reverse ++ r.output }

/-- A character of the name of a variable, or the first one behind it. -/
def Reader.stepName (look : String → String) (r : Reader) (c : Char) : Reader :=
  if isNameChar c then { r with name := c :: r.name }
  else if r.naming = .braced then
    if c = '}' then { r.substitute look with naming := .none } else { r with name := c :: r.name }
  else if c = '{' && r.name.isEmpty then { r with naming := .braced }
  else if c = '$' then { r.substitute look with naming := .bare }
  else { (r.substitute look).push c with naming := .none }

/-- The character behind a backslash. -/
def Reader.stepEscape (r : Reader) (c : Char) : Option Reader :=
  if c = '\\' || c = '\'' || c = '"' || c = '$' || c = ' ' then
    some { r.push c with escaped := false }
  else if c = 'n' then some { r.push '\n' with escaped := false }
  else none

/-- A character outside apostrophes and names. -/
def Reader.stepPlain (r : Reader) (c : Char) : Reader :=
  if c = '$' then { r with naming := .bare }
  else if r.weak then
    if c = '"' then { r with weak := false }
    else if c = '\\' then { r with escaped := true }
    else r.push c
  else if c = '\'' then { r with strong := true }
  else if c = '"' then { r with weak := true }
  else if c = '\\' then { r with escaped := true }
  else if c = ' ' || c = '\t' then { r with ended := true }
  else r.push c

/-- The rest of a value. -/
def readValueFrom (look : String → String) (r : Reader) : List Char → Option Reader
  | [] => some r
  | c :: rest =>
    if r.ended then
      if c = ' ' || c = '\t' then readValueFrom look r rest
      else if c = '#' then some r
      else none
    else if r.escaped then
      match r.stepEscape c with
      | some r => readValueFrom look r rest
      | none => none
    else if r.strong then
      readValueFrom look (if c = '\'' then { r with strong := false } else r.push c) rest
    else if r.naming != .none then readValueFrom look (r.stepName look c) rest
    else readValueFrom look (r.stepPlain c) rest

/-- A value, where `look` gives the values of variables. -/
def readValue? (look : String → String) (s : List Char) : Option String := do
  let r ← readValueFrom look .start s
  if r.naming = .braced || r.strong || r.weak then none
  else some (String.ofList (r.substitute look).output.reverse)

/-! ## 3. Lines -/

/-- The first character of the name of a variable. -/
def startsName (c : Char) : Bool := c.isAlpha || c == '_'

/-- A further character of the name of a variable. -/
def continuesName (c : Char) : Bool := c.isAlphanum || c == '_' || c == '.'

/-- A name, and what follows it and blanks. -/
def readName? (s : List Char) : Option (String × List Char) :=
  match s with
  | [] => none
  | c :: _ =>
    if startsName c then
      some (String.ofList (s.takeWhile continuesName), Text.trimStart (s.dropWhile continuesName))
    else none

/-- What follows an equals sign. -/
def afterEquals? : List Char → Option (List Char)
  | '=' :: rest => some rest
  | _ => none

/-- The name that a line sets, and the text of its value. -/
def readAssignment? (s : List Char) : Option (String × List Char) := do
  let (name, rest) ← readName? s
  match afterEquals? rest with
  | some value => some (name, Text.trimStart value)
  | none =>
    if name = "export" then
      let (name, rest) ← readName? rest
      some (name, Text.trimStart (← afterEquals? rest))
    else none

/-- What a line sets: nothing at the outer level if it cannot be read, at the inner if it says
    nothing. -/
def readLine? (look : String → String) (line : List Char) : Option (Option (String × String)) :=
  let s := Text.trimChars line
  if s.isEmpty || s.head? = some '#' then some none
  else do
    let (name, value) ← readAssignment? s
    if value.isEmpty || value.head? = some '#' then some (some (name, ""))
    else some (some (name, ← readValue? look value))

/-- The value of a variable: that of the environment, else what an earlier line gave it. -/
def lookUp (e : Environment) (earlier : List (String × String)) (name : String) : String :=
  ((e.get? name).or (earlier.lookup name)).getD ""

/-- The environment with what lines set, up to the first that cannot be read. -/
def applyLines (earlier : List (String × String)) (e : Environment) :
    List (Option (List Char)) → Environment
  | some line :: rest =>
    match readLine? (lookUp e earlier) line with
    | none => e
    | some none => applyLines earlier e rest
    | some (some v) => applyLines (v :: earlier) (e.setDefault v) rest
  | _ => e

/-- The environment with what a file of variables sets. -/
def apply (e : Environment) (content : String) : Environment :=
  let s := match content.toList with
    | '\ufeff' :: rest => rest
    | s => s
  applyLines [] e (logicalLines [] .complete (physicalLines s))

/-! ## 4. The file -/

/-- The name of a file of variables. -/
def fileName : String := ".env"

/-- The nearest file of variables in a directory or above it, given the reversed names of the
    directory. -/
def find? (t : FileTree) : List String → Option FileContent
  | [] => here []
  | name :: above =>
    match here (name :: above).reverse with
    | some c => some c
    | none => find? t above
where
  /-- The file in a directory. -/
  here (l : Location) : Option FileContent :=
    match t.entry? (l ++ [fileName]) with
    | some (.file c) => some c
    | _ => none

/-- The environment with what the nearest file of variables sets. -/
def load (e : Environment) (t : FileTree) : Environment :=
  match find? t (Path.normalNames e.directory).reverse with
  | some (.text s) => apply e s
  | _ => e

end Dataset.EnvironmentFile
