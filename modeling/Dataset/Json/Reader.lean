import Dataset.Json.Number

/-!
# Reading JSON

Every reader takes the rest of a text and gives a value with what follows it, or the first cause
of failure from the left.

* `readString`, `readNumber`, `readValue` give values; at most 127 brackets may be open at once;
* `skipValue` passes over a value whose content does not matter, however deep it is;
* `nextItem` and `nextKey` step through the items of an array and the members of an object, and
  with them other readers take apart arrays and objects of a known shape;
* `document` asks that nothing but white space follow.
-/

namespace Dataset.Json

/-! ## 1. White space and words -/

/-- White space between the tokens of JSON. -/
def isSpace (c : Char) : Bool := c == ' ' || c == '\t' || c == '\n' || c == '\r'

/-- The text from its first token on. -/
def skipSpace (s : List Char) : List Char := s.dropWhile isSpace

/-- The rest of a word that has to follow. -/
def readWord : List Char → List Char → Except Error (List Char)
  | [], s => .ok s
  | _ :: _, [] => .error .endInValue
  | w :: ws, c :: s => if w = c then readWord ws s else .error .expectedWord

/-! ## 2. Strings -/

/-- The value of a hexadecimal digit. -/
def hexValue? (c : Char) : Option Nat :=
  if '0' ≤ c && c ≤ '9' then some (c.toNat - 48)
  else if 'a' ≤ c && c ≤ 'f' then some (c.toNat - 87)
  else if 'A' ≤ c && c ≤ 'F' then some (c.toNat - 55)
  else none

/-- The number that four hexadecimal digits write; if fewer than four bytes are left the string has
    no end. -/
def readHex4 (s : List Char) : Except Error (Nat × List Char) :=
  match s with
  | a :: b :: c :: d :: rest =>
    match hexValue? a, hexValue? b, hexValue? c, hexValue? d with
    | some a, some b, some c, some d => .ok (((a * 16 + b) * 16 + c) * 16 + d, rest)
    | _, _, _, _ => .error .invalidEscape
  | _ => .error (if (String.ofList s).utf8ByteSize < 4 then .endInString else .invalidEscape)

/-- The second half of a surrogate pair must be written as an escape right behind the first. -/
def readSecondHalf (first : Nat) (s : List Char) : Except Error (Char × List Char) :=
  match s with
  | [] => .error .endInString
  | '\\' :: [] => .error .endInString
  | '\\' :: 'u' :: rest => do
    let (second, rest) ← readHex4 rest
    if 0xDC00 ≤ second && second ≤ 0xDFFF then
      .ok (Char.ofNat ((first - 0xD800) * 0x400 + (second - 0xDC00) + 0x10000), rest)
    else .error .loneSurrogate
  | _ => .error .unfinishedSurrogate

/-- The character that an escape of hexadecimal digits stands for. -/
def readUnicode (s : List Char) : Except Error (Char × List Char) := do
  let (n, rest) ← readHex4 s
  if 0xDC00 ≤ n && n ≤ 0xDFFF then .error .loneSurrogate
  else if 0xD800 ≤ n && n ≤ 0xDBFF then readSecondHalf n rest
  else .ok (Char.ofNat n, rest)

/-- The character that an escape of one letter stands for. -/
def simpleEscape? (c : Char) : Option Char :=
  if c = '"' || c = '\\' || c = '/' then some c
  else if c = 'b' then some '\x08'
  else if c = 'f' then some '\x0c'
  else if c = 'n' then some '\n'
  else if c = 'r' then some '\r'
  else if c = 't' then some '\t'
  else none

/-- The character behind a backslash. -/
def readEscape (s : List Char) : Except Error (Char × List Char) :=
  match s with
  | [] => .error .endInString
  | 'u' :: rest => readUnicode rest
  | c :: rest =>
    match simpleEscape? c with
    | some x => .ok (x, rest)
    | none => .error .invalidEscape

/-- The characters up to the closing quotation mark. -/
def readStringBody : Nat → List Char → Except Error (List Char × List Char)
  | 0, _ => .error .endInString
  | _ + 1, [] => .error .endInString
  | fuel + 1, c :: rest =>
    if c = '"' then .ok ([], rest)
    else if c = '\\' then do
      let (x, rest) ← readEscape rest
      let (xs, rest) ← readStringBody fuel rest
      .ok (x :: xs, rest)
    else if c < ' ' then .error .controlCharacter
    else do
      let (xs, rest) ← readStringBody fuel rest
      .ok (c :: xs, rest)

/-- A string, behind its opening quotation mark. -/
def readString (s : List Char) : Except Error (List Char × List Char) :=
  readStringBody (s.length + 1) s

/-- An escape passed over: of hexadecimal digits only their number matters. -/
def skipEscape (s : List Char) : Except Error (List Char) :=
  match s with
  | [] => .error .endInString
  | 'u' :: rest => do .ok (← readHex4 rest).2
  | c :: rest => if (simpleEscape? c).isSome then .ok rest else .error .invalidEscape

/-- A string passed over. -/
def skipStringBody : Nat → List Char → Except Error (List Char)
  | 0, _ => .error .endInString
  | _ + 1, [] => .error .endInString
  | fuel + 1, c :: rest =>
    if c = '"' then .ok rest
    else if c = '\\' then do skipStringBody fuel (← skipEscape rest)
    else if c < ' ' then .error .controlCharacter
    else skipStringBody fuel rest

/-- A string passed over, behind its opening quotation mark. -/
def skipString (s : List Char) : Except Error (List Char) := skipStringBody (s.length + 1) s

/-! ## 3. Items and members -/

/-- In an array: the text of the next item, or, if the array ends, nothing and what follows it. -/
def nextItem (first : Bool) (s : List Char) : Except Error (Bool × List Char) :=
  match skipSpace s with
  | [] => .error .endInArray
  | c :: rest =>
    if c = ']' then .ok (false, rest)
    else if first then .ok (true, c :: rest)
    else if c = ',' then
      match skipSpace rest with
      | [] => .error .endInValue
      | d :: rest => if d = ']' then .error .trailingComma else .ok (true, d :: rest)
    else .error .expectedArrayEnd

/-- Behind the opening mark of a key: the key, and the text behind the colon. -/
def readKey (s : List Char) : Except Error (List Char × List Char) := do
  let (key, rest) ← readString s
  match skipSpace rest with
  | [] => .error .endInObject
  | c :: rest => if c = ':' then .ok (key, rest) else .error .expectedColon

/-- In an object: the text behind the opening mark of the next key, or, if the object ends,
    nothing and what follows it. -/
def nextKey (first : Bool) (s : List Char) : Except Error (Bool × List Char) :=
  match skipSpace s with
  | [] => .error .endInObject
  | c :: rest =>
    if c = '}' then .ok (false, rest)
    else if first then
      if c = '"' then .ok (true, rest) else .error .keyNotString
    else if c = ',' then
      match skipSpace rest with
      | [] => .error .endInValue
      | d :: rest =>
        if d = '"' then .ok (true, rest)
        else .error (if d = '}' then .trailingComma else .keyNotString)
    else .error .expectedObjectEnd

/-- The closing bracket of an array of which all items that count are read. -/
def endArray (s : List Char) : Except Error (List Char) :=
  match skipSpace s with
  | [] => .error .endInArray
  | c :: rest =>
    if c = ']' then .ok rest
    else if c = ',' then
      match skipSpace rest with
      | ']' :: _ => .error .trailingComma
      | _ => .error .trailingCharacters
    else .error .trailingCharacters

/-! ## 4. Values -/

/-- Brackets that may be open at once, and one more. -/
def depthLimit : Nat := 128

/-- One bracket deeper. -/
def enter (depth : Nat) : Except Error Nat :=
  if depth ≤ 1 then .error .tooDeep else .ok (depth - 1)

/-- A number can begin with this character. -/
def startsNumber (c : Char) : Bool := c == '-' || Text.isDigit c

mutual
/-- A value; `depth` brackets are still allowed. -/
def readValueWith : Nat → Nat → List Char → Except Error (Json × List Char)
  | 0, _, _ => .error .endInValue
  | fuel + 1, depth, s =>
    match skipSpace s with
    | [] => .error .endInValue
    | 'n' :: rest => do .ok (.null, ← readWord ['u', 'l', 'l'] rest)
    | 't' :: rest => do .ok (.bool true, ← readWord ['r', 'u', 'e'] rest)
    | 'f' :: rest => do .ok (.bool false, ← readWord ['a', 'l', 's', 'e'] rest)
    | '"' :: rest => do
      let (x, rest) ← readString rest
      .ok (.string (String.ofList x), rest)
    | '[' :: rest => do
      let (items, rest) ← readItems fuel (← enter depth) true rest
      .ok (.array items, rest)
    | '{' :: rest => do
      let (members, rest) ← readMembers fuel (← enter depth) true [] rest
      .ok (.object members, rest)
    | c :: rest =>
      if startsNumber c then do
        let (n, rest) ← readNumber (c :: rest)
        .ok (.number n, rest)
      else .error .expectedValue

/-- The items of an array up to its end. -/
def readItems : Nat → Nat → Bool → List Char → Except Error (List Json × List Char)
  | 0, _, _, _ => .error .endInArray
  | fuel + 1, depth, first, s => do
    let (more, s) ← nextItem first s
    if more then
      let (v, s) ← readValueWith fuel depth s
      let (vs, s) ← readItems fuel depth false s
      .ok (v :: vs, s)
    else .ok ([], s)

/-- The members of an object up to its end, sorted by name; the last of one name counts. -/
def readMembers : Nat → Nat → Bool → List (String × Json) → List Char →
    Except Error ((List (String × Json)) × List Char)
  | 0, _, _, _, _ => .error .endInObject
  | fuel + 1, depth, first, members, s => do
    let (more, s) ← nextKey first s
    if more then
      let (key, s) ← readKey s
      let (v, s) ← readValueWith fuel depth s
      readMembers fuel depth false (insertSorted (String.ofList key) v members) s
    else .ok (members, s)
end

/-- A value; `depth` brackets are still allowed. -/
def readValue (depth : Nat) (s : List Char) : Except Error (Json × List Char) :=
  readValueWith (2 * s.length + 2) depth s

mutual
/-- A value passed over. -/
def skipValueWith : Nat → List Char → Except Error (List Char)
  | 0, _ => .error .endInValue
  | fuel + 1, s =>
    match skipSpace s with
    | [] => .error .endInValue
    | 'n' :: rest => readWord ['u', 'l', 'l'] rest
    | 't' :: rest => readWord ['r', 'u', 'e'] rest
    | 'f' :: rest => readWord ['a', 'l', 's', 'e'] rest
    | '"' :: rest => skipString rest
    | '[' :: rest => skipItems fuel true rest
    | '{' :: rest => skipMembers fuel true rest
    | c :: rest => if startsNumber c then skipNumber (c :: rest) else .error .expectedValue

/-- The items of an array passed over. -/
def skipItems : Nat → Bool → List Char → Except Error (List Char)
  | 0, _, _ => .error .endInArray
  | fuel + 1, first, s =>
    match skipSpace s with
    | [] => .error .endInArray
    | c :: rest =>
      if c = ']' then .ok rest
      else if first then do skipItems fuel false (← skipValueWith fuel (c :: rest))
      else if c = ',' then do skipItems fuel false (← skipValueWith fuel rest)
      else .error .expectedArrayEnd

/-- The members of an object passed over. -/
def skipMembers : Nat → Bool → List Char → Except Error (List Char)
  | 0, _, _ => .error .endInObject
  | fuel + 1, first, s =>
    match skipSpace s with
    | [] => .error .endInObject
    | c :: rest =>
      if c = '}' then .ok rest
      else if first then skipMember fuel (c :: rest)
      else if c = ',' then skipMember fuel rest
      else .error .expectedObjectEnd

/-- One member passed over, and those behind it. -/
def skipMember : Nat → List Char → Except Error (List Char)
  | 0, _ => .error .endInObject
  | fuel + 1, s =>
    match skipSpace s with
    | [] => .error .endInObject
    | c :: rest =>
      if c = '"' then do
        match skipSpace (← skipString rest) with
        | [] => .error .endInObject
        | d :: rest =>
          if d = ':' then do skipMembers fuel false (← skipValueWith fuel rest)
          else .error .expectedColon
      else .error .keyNotString
end

/-- A value passed over. -/
def skipValue (s : List Char) : Except Error (List Char) := skipValueWith (3 * s.length + 3) s

/-! ## 5. Values of a known kind -/

/-- The failure of a text that begins a value of another kind than `expected`. -/
def wrongKind {α : Type} (expected : String) (s : List Char) : Except Error α :=
  let found := fun (f : Found) => (.error (.wrongKind f expected) : Except Error α)
  match skipSpace s with
  | [] => .error .endInValue
  | 'n' :: rest => do let _ ← readWord ['u', 'l', 'l'] rest; found .null
  | 't' :: rest => do let _ ← readWord ['r', 'u', 'e'] rest; found (.boolean true)
  | 'f' :: rest => do let _ ← readWord ['a', 'l', 's', 'e'] rest; found (.boolean false)
  | '"' :: rest => do
    let (x, _) ← readString rest
    found (.string (String.ofList x))
  | '[' :: _ => found .array
  | '{' :: _ => found .object
  | c :: rest =>
    if startsNumber c then do
      let (n, _) ← readNumber (c :: rest)
      found (.number n)
    else .error .expectedValue

/-- A string where one is asked for. -/
def readText (s : List Char) : Except Error (String × List Char) :=
  match skipSpace s with
  | '"' :: rest => do
    let (x, rest) ← readString rest
    .ok (String.ofList x, rest)
  | _ => wrongKind "a string" s

/-- A natural number up to `max` where one is asked for; `kind` names its type. -/
def readNatural (max : Nat) (kind : String) (s : List Char) : Except Error (Nat × List Char) :=
  match skipSpace s with
  | c :: rest =>
    if startsNumber c then do
      let (n, rest) ← readNumber (c :: rest)
      match n with
      | .int (.ofNat k) => if k ≤ max then .ok (k, rest) else .error (.outOfRange (.ofNat k))
      | .int k => .error (.outOfRange k)
      | .real r => .error (.wrongKind (.number (.real r)) kind)
    else wrongKind kind s
  | [] => .error .endInValue

/-- A value or `null`. -/
def readOptional {α : Type} (read : List Char → Except Error (α × List Char)) (s : List Char) :
    Except Error (Option α × List Char) :=
  match skipSpace s with
  | 'n' :: rest => do .ok (none, ← readWord ['u', 'l', 'l'] rest)
  | _ => do
    let (x, rest) ← read s
    .ok (some x, rest)

/-- The members of an object, each handed to `step` with its key and the text behind the colon. -/
def foldMembers {σ : Type} (step : String → σ → List Char → Except Error (σ × List Char)) :
    Nat → Bool → σ → List Char → Except Error (σ × List Char)
  | 0, _, _, _ => .error .endInObject
  | fuel + 1, first, state, s => do
    let (more, s) ← nextKey first s
    if more then
      let (key, s) ← readKey s
      let (state, s) ← step (String.ofList key) state s
      foldMembers step fuel false state s
    else .ok (state, s)

/-- The items of an array, read one by one. -/
def collectItems {α : Type} (read : List Char → Except Error (α × List Char)) :
    Nat → Bool → List Char → Except Error (List α × List Char)
  | 0, _, _ => .error .endInArray
  | fuel + 1, first, s => do
    let (more, s) ← nextItem first s
    if more then
      let (x, s) ← read s
      let (xs, s) ← collectItems read fuel false s
      .ok (x :: xs, s)
    else .ok ([], s)

/-- A whole text: one value, and nothing but white space behind it. -/
def document {α : Type} (read : List Char → Except Error (α × List Char)) (s : List Char) :
    Except Error α := do
  let (x, rest) ← read s
  if (skipSpace rest).isEmpty then .ok x else .error .trailingCharacters

end Dataset.Json
