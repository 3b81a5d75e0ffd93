import Dataset.CommandLine.Basic
import Dataset.Config.Basic

/-!
# Reading a command line

Words are read from the left, level by level: the program's own words, then those of a command, then
those of a command below it. At each level:

* a word that starts with two hyphens is an option by its long name, one that starts with a single
  hyphen a row of options by their short names; a value may follow in the same word;
* a word that is the name of a command goes down a level, unless a value is due;
* two hyphens alone say that no options follow.

A value that stands in a word of its own is checked only when the next option is met or the level
ends; before that, a word that nobody knows is the error. Variables give values that a level's words
do not give, and are checked at the level's end, after the levels below.
-/

namespace Dataset.CommandLine

/-! ## 1. The state of a level -/

/-- Where a value came from; the later counts more. -/
inductive Source where
  | environment
  | words
  deriving DecidableEq, Repr

/-- A value that waits to be checked. -/
inductive Pending where
  | none
  | setting (s : Setting) (value : Option String)
  | file (value : String)
  deriving DecidableEq, Repr

/-- What the words of a level have given so far. -/
structure Given where
  settings : List (Setting × Source × String)
  file : Option String
  confirmed : Bool
  pending : Pending
  deriving DecidableEq, Repr

namespace Given

/-- Nothing given. -/
def nothing : Given := ⟨[], Option.none, false, .none⟩

/-- A value is due. -/
def awaits (g : Given) : Option Setting :=
  match g.pending with
  | .setting s Option.none => some s
  | _ => Option.none

/-- One more value of an option, which may be given once. -/
def add (g : Given) (source : Source) (s : Setting) (value : String) : Except Error Given := do
  if (g.settings.lookup s).isSome then .error (.repeated s.shown)
  else
    checkValue s value
    .ok { g with settings := g.settings ++ [(s, source, value)] }

/-- The pending value checked and kept. -/
def settle (g : Given) : Except Error Given :=
  let rest := { g with pending := .none }
  match g.pending with
  | .none => .ok g
  | .setting s Option.none => .error (.valueMissing s.shown)
  | .setting s (some value) => rest.add .words s value
  | .file value =>
    if value.isEmpty then .error (.valueMissing fileShown)
    else .ok { rest with file := some value }

/-- An option with a value in the same word. -/
def attach (g : Given) (s : Setting) (value : String) : Except Error Given := do
  (← g.settle).add .words s value

/-- An option whose value is due. -/
def expect (g : Given) (s : Setting) : Except Error Given := do
  let g ← g.settle
  .ok { g with pending := .setting s Option.none }

/-- The flag that confirms, which may be given once. -/
def confirm (g : Given) : Except Error Given := do
  let g ← g.settle
  if g.confirmed then .error (.repeated confirmShown) else .ok { g with confirmed := true }

end Given

/-! ## 2. Words -/

/-- The long name of the flag that confirms. -/
def confirmName : List Char := ['y', 'e', 's']

/-- An option by its long name. -/
def readLong (l : Level) (g : Given) (word : List Char) : Except Error Given :=
  let (name, value) := Text.splitAtFirst '=' word
  let flag := fun (shown : String) (act : Except Error Given) =>
    match value with
    | some v => .error (.unexpectedValue (String.ofList v) shown)
    | none => act
  match Setting.ofName? name with
  | some s =>
    match value with
    | some v => g.attach s (String.ofList v)
    | none => g.expect s
  | none =>
    if name = "help".toList then flag "--help" (do let _ ← g.settle; .error .help)
    else if name = "version".toList && l = .root then
      flag "--version" (do let _ ← g.settle; .error .version)
    else if name = confirmName && l = .prune then flag confirmShown g.confirm
    else .error (.unknownArgument (String.ofList ('-' :: '-' :: name)))

/-- The value behind a short name in the same word; an equals sign may stand before it. -/
def attachedValue? : List Char → Option (List Char)
  | [] => none
  | '=' :: rest => some rest
  | rest => some rest

/-- A row of options by their short names. -/
def readShort (l : Level) (g : Given) : List Char → Except Error Given
  | [] => .ok g
  | c :: rest =>
    match Setting.ofLetter? c with
    | some s =>
      match attachedValue? rest with
      | some v => g.attach s (String.ofList v)
      | none => g.expect s
    | none =>
      if c = 'h' then do let _ ← g.settle; .error .help
      else if c = 'V' && l = .root then do let _ ← g.settle; .error .version
      else if c = 'y' && l = .prune then do readShort l (← g.confirm) rest
      else .error (.unknownArgument (String.ofList ['-', c]))

/-- A word that is neither an option nor a command nor a value that is due. -/
def readOther (l : Level) (g : Given) (trailing : Bool) (word : String) : Except Error Given :=
  if l = .importFile && g.file.isNone && !(g.pending matches .file _) then do
    let g ← g.settle
    .ok { g with pending := .file word }
  else if l.commands.isEmpty || (trailing && l.isCommand word) then .error (.unknownArgument word)
  else .error (.unknownCommand word)

/-- Help about a command, given the words that lead to it. -/
def readHelp (l : Level) : List String → Error
  | [] => .help
  | word :: rest =>
    if !l.isCommand word then .unknownCommand word
    else
      match l.commands.lookup word with
      | some below => readHelp below rest
      | none => match rest with
        | [] => .help
        | next :: _ => .unknownCommand next

/-! ## 3. Levels -/

/-- Values of variables for the options that have none. -/
def addVariables (look : String → Option String) (g : Given) : List Setting → Except Error Given
  | [] => .ok g
  | s :: rest =>
    match look s.variableName with
    | some value =>
      if (g.settings.lookup s).isSome then addVariables look g rest
      else do addVariables look (← g.add .environment s value) rest
    | none => addVariables look g rest

/-- The end of a level; `below` says whether a command below it was named. -/
def finish (look : String → Option String) (l : Level) (g : Given) (below : Bool) :
    Except Error Given := do
  let g ← addVariables look (← g.settle) Setting.all
  if l = .system && !below then
    .error (if g.settings.isEmpty then .helpOnMissing else .missingCommand)
  else if l = .importFile && g.file.isNone then .error .missingFile
  else .ok g

/-- What the words give, from a level downwards. -/
def readWords (look : String → Option String) (l : Level) (trailing : Bool) (g : Given) :
    List String → Except Error (List (Level × Given))
  | [] => do .ok [(l, ← finish look l g false)]
  | word :: rest =>
    if trailing then do readWords look l true (← readOther l g true word) rest
    else if g.awaits.isNone && l.isCommand word then
      match l.commands.lookup word with
      | none => .error (readHelp l rest)
      | some next => do
        let below ← readWords look next false .nothing rest
        .ok ((l, ← finish look l g true) :: below)
    else
      match word.toList with
      | ['-', '-'] => readWords look l true g rest
      | '-' :: '-' :: name => do readWords look l false (← readLong l g name) rest
      | '-' :: c :: more => do readWords look l false (← readShort l g (c :: more)) rest
      | _ =>
        match g.awaits with
        | some s => readWords look l false { g with pending := .setting s (some word) } rest
        | none => do readWords look l false (← readOther l g false word) rest

/-! ## 4. The result -/

/-- What a command line asks for. -/
structure Invocation where
  command : Option Command
  overrides : Overrides
  deriving DecidableEq, Repr

/-- The value of an option: of several levels the lowest that gives one by words, or else the lowest
    that gives one. -/
def valueOf (levels : List (Level × Given)) (s : Setting) : Option String :=
  let found := levels.reverse.filterMap fun l => l.2.settings.lookup s
  ((found.find? (·.1 == .words)).or found.head?).map Prod.snd

/-- The command of the lowest level. -/
def commandOf (levels : List (Level × Given)) : Option Command :=
  match levels.getLast? with
  | some (.start, _) => some .start
  | some (.importFile, g) => some (.importFile (g.file.getD ""))
  | some (.prune, g) => some (.prune g.confirmed)
  | _ => none

/-- What the levels ask for. -/
def invocation (levels : List (Level × Given)) : Invocation :=
  ⟨commandOf levels,
    ⟨valueOf levels .host, (valueOf levels .port).bind fun v => (readPort v).toOption,
      valueOf levels .config, valueOf levels .database, valueOf levels .table⟩⟩

/-- Reads the words behind the name of the program. -/
def parse (look : String → Option String) (words : List String) : Except Error Invocation := do
  .ok (invocation (← readWords look .root false .nothing words))

end Dataset.CommandLine
