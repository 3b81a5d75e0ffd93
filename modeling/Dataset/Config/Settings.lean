import Dataset.Json.Reader

/-!
# Settings

Settings are what a person may say about how the program is to run; everything may be left unsaid.
They come as a JSON object with the sections `server` and `database`, each of which may be missing
or `null`. Other members of the object mean nothing, but their names are kept for a warning; other
members of a section are passed over. A section may be given as an array of all its values in order.

* `Settings.parse` reads a text;
* `Settings.layered` lays settings over others: what the upper ones say counts, value by value.
-/

namespace Dataset

/-- What may be said about the server. -/
structure ServerSettings where
  host : Option String
  port : Option Nat
  deriving DecidableEq, Repr

/-- What may be said about the database. -/
structure DatabaseSettings where
  path : Option String
  table : Option String
  maxConnections : Option Nat
  acquireTimeout : Option Nat
  busyTimeout : Option Nat
  deriving DecidableEq, Repr

/-- What a person may say about how the program is to run. -/
structure Settings where
  server : Option ServerSettings
  database : Option DatabaseSettings
  deriving DecidableEq, Repr

/-! ## 1. Layers -/

/-- Nothing said about the server. -/
def ServerSettings.none : ServerSettings := ⟨Option.none, Option.none⟩

/-- A section about the server laid over another. -/
def ServerSettings.layered (upper lower : ServerSettings) : ServerSettings :=
  ⟨upper.host.or lower.host, upper.port.or lower.port⟩

/-- Nothing said about the database. -/
def DatabaseSettings.none : DatabaseSettings :=
  ⟨Option.none, Option.none, Option.none, Option.none, Option.none⟩

/-- A section about the database laid over another. -/
def DatabaseSettings.layered (upper lower : DatabaseSettings) : DatabaseSettings :=
  ⟨upper.path.or lower.path, upper.table.or lower.table,
    upper.maxConnections.or lower.maxConnections, upper.acquireTimeout.or lower.acquireTimeout,
    upper.busyTimeout.or lower.busyTimeout⟩

namespace Settings

/-- Nothing said. -/
def none : Settings := ⟨Option.none, Option.none⟩

/-- A section that may be missing laid over another that may be, by `layer`; `nothing` is a section
    that says nothing. -/
def layeredSection {σ : Type} (layer : σ → σ → σ) (nothing : σ) (upper lower : Option σ) :
    Option σ :=
  match upper with
  | Option.none => lower
  | some s => some (layer s (lower.getD nothing))

/-- Settings laid over others. -/
def layered (upper lower : Settings) : Settings :=
  ⟨layeredSection ServerSettings.layered .none upper.server lower.server,
    layeredSection DatabaseSettings.layered .none upper.database lower.database⟩

/-! ## 2. Fields -/

open Json (readOptional readText readNatural)

/-- The number of a field, up to a bound; `kind` names its type. -/
def readNumber (max : Nat) (kind : String) (s : List Char) :
    Except Json.Error (Option Nat × List Char) := readOptional (readNatural max kind) s

/-- A number of 16 bits. -/
def readNumber16 := readNumber (Nat.pow 2 16 - 1) "u16"

/-- A number of 32 bits. -/
def readNumber32 := readNumber (Nat.pow 2 32 - 1) "u32"

/-- A number of 64 bits. -/
def readNumber64 := readNumber (Nat.pow 2 64 - 1) "u64"

/-- What a field makes of what is known so far when it is read. -/
def Field (σ : Type) := List Char → Except Json.Error ((σ → σ) × List Char)

/-- A field that is read by `read` and kept by `keep`. -/
def field {α σ : Type} (read : List Char → Except Json.Error (Option α × List Char))
    (keep : Option α → σ → σ) : Field σ := fun s => do
  let (v, s) ← read s
  .ok (keep v, s)

/-- What is known of an object being read, and the names of the fields met so far. -/
structure Reading (σ : Type) where
  value : σ
  met : List String

/-- A member of an object: one of the fields, which may come once, or another one, which is left to
    `other`. -/
def readMember {σ : Type} (fields : List (String × Field σ))
    (other : String → σ → List Char → Except Json.Error (σ × List Char)) (key : String)
    (r : Reading σ) (s : List Char) : Except Json.Error (Reading σ × List Char) :=
  match fields.lookup key with
  | Option.none => do
    let (v, s) ← other key r.value s
    .ok ({ r with value := v }, s)
  | some read =>
    if r.met.contains key then .error (.duplicateField key)
    else do
      let (change, s) ← read s
      .ok (⟨change r.value, key :: r.met⟩, s)

/-! ## 3. Sections -/

/-- The fields of the section about the server, in order. -/
def serverFields : List (String × Field ServerSettings) :=
  [("host", field (readOptional readText) fun v t => { t with host := v }),
   ("port", field readNumber16 fun v t => { t with port := v })]

/-- The fields of the section about the database, in order. -/
def databaseFields : List (String × Field DatabaseSettings) :=
  [("path", field (readOptional readText) fun v t => { t with path := v }),
   ("table", field (readOptional readText) fun v t => { t with table := v }),
   ("max_connections", field readNumber32 fun v t => { t with maxConnections := v }),
   ("acquire_timeout_secs", field readNumber64 fun v t => { t with acquireTimeout := v }),
   ("busy_timeout_secs", field readNumber64 fun v t => { t with busyTimeout := v })]

/-- A member of a section that means nothing is passed over. -/
def passOver {σ : Type} (_ : String) (t : σ) (s : List Char) : Except Json.Error (σ × List Char) := do
  .ok (t, ← Json.skipValue s)

/-- The values of a section given as an array, from the one at `index` on. -/
def readValues {σ : Type} (name : String) (count index : Nat) (t : σ) :
    List (String × Field σ) → List Char → Except Json.Error (σ × List Char)
  | [], s => do .ok (t, ← Json.endArray s)
  | f :: rest, s => do
    let (more, s) ← Json.nextItem (index == 0) s
    if more then
      let (change, s) ← f.2 s
      readValues name count (index + 1) (change t) rest s
    else .error (.wrongLength index
      ("struct " ++ name ++ " with " ++ Text.ofNat count ++ " elements"))

/-- A section; `nothing` is one that says nothing. -/
def readSection {σ : Type} (name : String) (fields : List (String × Field σ)) (nothing : σ)
    (s : List Char) : Except Json.Error (σ × List Char) :=
  match Json.skipSpace s with
  | '{' :: rest => do
    let (r, s) ←
      Json.foldMembers (readMember fields passOver) (rest.length + 1) true ⟨nothing, []⟩ rest
    .ok (r.value, s)
  | '[' :: rest => readValues name fields.length 0 nothing fields rest
  | _ => Json.wrongKind ("struct " ++ name) s

/-! ## 4. The whole text -/

/-- Settings being read, and the members that mean nothing. -/
structure Document where
  settings : Settings
  unknown : List (String × Json)

/-- The sections, each or `null`. -/
def documentFields : List (String × Field Document) :=
  [("server", field (readOptional (readSection "ServerFileConfig" serverFields .none)) fun v d =>
      { d with settings := { d.settings with server := v } }),
   ("database", field (readOptional (readSection "DatabaseFileConfig" databaseFields .none)) fun v d =>
      { d with settings := { d.settings with database := v } })]

/-- The brackets that are still allowed inside the object. -/
def memberDepth : Nat := Json.depthLimit - 1

/-- A member of the object that means nothing is kept. -/
def keepMember (key : String) (d : Document) (s : List Char) :
    Except Json.Error (Document × List Char) := do
  let (v, s) ← Json.readValue memberDepth s
  .ok ({ d with unknown := Json.insertSorted key v d.unknown }, s)

/-- The object. -/
def readDocument (s : List Char) : Except Json.Error (Document × List Char) :=
  match Json.skipSpace s with
  | '{' :: rest => do
    let (r, s) ← Json.foldMembers (readMember documentFields keepMember) (rest.length + 1) true
      ⟨⟨none, []⟩, []⟩ rest
    .ok (r.value, s)
  | _ => Json.wrongKind "struct FileConfig" s

/-- The settings of a text, and the names of its members that mean nothing, sorted. -/
def parse (text : String) : Except Json.Error (Settings × List String) := do
  let d ← Json.document readDocument text.toList
  .ok (d.settings, d.unknown.map Prod.fst)

end Settings

end Dataset
