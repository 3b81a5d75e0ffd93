import Dataset.About
import Dataset.Text.Blank

/-!
# The command line

* `Setting` is an option that every command takes and that can also be given by a variable;
* `Level` is a command or the program itself, `Level.commands` are the commands below it;
* `Error` names every way in which a command line ends without something to do, and words it.
-/

namespace Dataset.CommandLine

/-! ## 1. Options and commands -/

/-- An option with a value, which every command takes. -/
inductive Setting where
  | host
  | port
  | config
  | database
  | table
  deriving DecidableEq, Repr

namespace Setting

/-- All options, in the order in which their variables are looked at. -/
def all : List Setting := [host, port, config, database, table]

/-- The long name. -/
def name : Setting → String
  | host => "host"
  | port => "port"
  | config => "config"
  | database => "database"
  | table => "table"

/-- The short name. -/
def letter : Setting → Char
  | host => 'H'
  | port => 'p'
  | config => 'c'
  | database => 'd'
  | table => 't'

/-- The name in capital letters, as it stands for the value. -/
def capital (s : Setting) : String := String.ofList (s.name.toList.map Char.toUpper)

/-- The variable that gives the value if the command line does not. -/
def variableName (s : Setting) : String := "ROWGATE_" ++ s.capital

/-- The option as it is shown in messages. -/
def shown (s : Setting) : String := "--" ++ s.name ++ " <" ++ s.capital ++ ">"

/-- The option of a long name. -/
def ofName? (n : List Char) : Option Setting := all.find? fun s => s.name.toList == n

/-- The option of a short name. -/
def ofLetter? (c : Char) : Option Setting := all.find? fun s => s.letter == c

end Setting

/-- What there is to do. -/
inductive Command where
  | start
  | importFile (file : String)
  | prune (confirmed : Bool)
  deriving DecidableEq, Repr

/-- The program, or one of its commands. -/
inductive Level where
  | root
  | start
  | importFile
  | system
  | prune
  deriving DecidableEq, Repr

namespace Level

/-- The command that shows help about another. -/
def helpName : String := "help"

/-- The commands below a level; where there are any, there is also one for help. -/
def commands : Level → List (String × Level)
  | root => [("start", start), ("import", importFile), ("system", system)]
  | system => [("prune", prune)]
  | _ => []

/-- A word is the name of a command below the level. -/
def isCommand (l : Level) (word : String) : Bool :=
  !l.commands.isEmpty && (word == helpName || (l.commands.lookup word).isSome)

end Level

/-! ## 2. Errors -/

/-- How a command line ends without something to do. -/
inductive Error where
  | help
  | version
  | helpOnMissing
  | missingCommand
  | missingFile
  | unknownArgument (text : String)
  | unknownCommand (text : String)
  | valueMissing (shown : String)
  | invalidValue (value shown reason : String)
  | repeated (shown : String)
  | unexpectedValue (value shown : String)
  deriving DecidableEq, Repr

namespace Error

/-- The first line of what is said; help that was asked for has no line of its own here. -/
def message : Error → String
  | help => ""
  | version => programName ++ " " ++ Dataset.version
  | helpOnMissing => "System maintenance commands"
  | missingCommand =>
    "error: '" ++ programName ++ " system' requires a subcommand but one was not provided"
  | missingFile => "error: the following required arguments were not provided:"
  | unknownArgument text => "error: unexpected argument '" ++ text ++ "' found"
  | unknownCommand text => "error: unrecognized subcommand '" ++ text ++ "'"
  | valueMissing shown =>
    "error: a value is required for '" ++ shown ++ "' but none was supplied"
  | invalidValue value shown reason =>
    "error: invalid value '" ++ value ++ "' for '" ++ shown ++ "': " ++ reason
  | repeated shown => "error: the argument '" ++ shown ++ "' cannot be used multiple times"
  | unexpectedValue value shown =>
    "error: unexpected value '" ++ value ++ "' for '" ++ shown ++ "' found; no more were expected"

/-- The person got what was asked for. -/
def isAnswer : Error → Bool
  | help => true
  | version => true
  | _ => false

/-- The exit code of a program that ends so. -/
def exitCode (e : Error) : Nat := if e.isAnswer then 0 else 2

end Error

/-! ## 3. Values -/

/-- The file of the command that imports one, as it is shown in messages. -/
def fileShown : String := "<FILE>"

/-- The flag that confirms, as it is shown in messages. -/
def confirmShown : String := "--yes"

/-- The largest number of a port. -/
def maxPort : Nat := Nat.pow 2 16 - 1

/-- The largest number that is read at all. -/
def maxRead : Nat := Nat.pow 2 63 - 1

/-- Why a text is no integer. -/
def integerFault (s : List Char) : String :=
  if s.isEmpty then "cannot parse integer from empty string"
  else
    let (minus, digits) := match s with
      | '-' :: rest => (true, rest)
      | '+' :: rest => (false, rest)
      | _ => (false, s)
    if digits.isEmpty || !digits.all Text.isDigit then "invalid digit found in string"
    else if minus then "number too small to fit in target type"
    else "number too large to fit in target type"

/-- The number of a port, or why a text is none. -/
def readPort (s : String) : Except String Nat :=
  match Text.integer? maxRead s.toList with
  | none => .error (integerFault s.toList)
  | some n =>
    if 0 ≤ n && n ≤ maxPort then .ok n.toNat
    else .error (Text.ofInt n ++ " is not in 0..=" ++ Text.ofNat maxPort)

/-- Refuses a value that an option cannot have. -/
def checkValue (s : Setting) (value : String) : Except Error Unit :=
  match s with
  | .port =>
    match readPort value with
    | .ok _ => .ok ()
    | .error reason => .error (.invalidValue value s.shown reason)
  | .config | .database => if value.isEmpty then .error (.valueMissing s.shown) else .ok ()
  | .host | .table => .ok ()

end Dataset.CommandLine
