import Dataset.Number.Notation

/-!
# JSON values and their text

* `escape` writes the characters of a string: quotation mark, backslash and control characters
  escaped, everything else as it stands;
* `Json` is a value whose objects keep their members in the order given;
* `Json.text` is the compact text of a value.
-/

namespace Dataset.Json

/-! ## 1. Strings -/

/-- Four hexadecimal digits in lower case, for a number below 256. -/
def hex4 (n : Nat) : List Char :=
  '0' :: '0' :: Nat.digitChar (n / 16) :: [Nat.digitChar (n % 16)]

/-- What is written for one character of a string. -/
def escapeChar (c : Char) : List Char :=
  if c = '"' then ['\\', '"']
  else if c = '\\' then ['\\', '\\']
  else if c = '\x08' then ['\\', 'b']
  else if c = '\t' then ['\\', 't']
  else if c = '\n' then ['\\', 'n']
  else if c = '\x0c' then ['\\', 'f']
  else if c = '\r' then ['\\', 'r']
  else if c < ' ' then '\\' :: 'u' :: hex4 c.toNat
  else [c]

/-- The characters of a string, escaped where they have to be. -/
def escape (s : List Char) : List Char := s.flatMap escapeChar

/-- A string between quotation marks. -/
def stringChars (s : List Char) : List Char := '"' :: (escape s ++ ['"'])

/-- A string between quotation marks. -/
def stringText (s : String) : String := String.ofList (stringChars s.toList)

/-! ## 2. Numbers -/

/-- A number: an integer as such, or a real number. -/
inductive Num where
  | int (n : Int)
  | real (r : Number.Double)
  deriving DecidableEq, Repr

/-- A real number as JSON has it; an infinity is `null`. -/
def realText (r : Number.Double) : String := (Number.jsonText? r).getD "null"

/-- A number in JSON. -/
def Num.text : Num → String
  | .int n => Text.ofInt n
  | .real r => realText r

/-! ## 3. Brackets and lists -/

/-- The bracket that opens an object. -/
def openBrace : String := "\x7b"

/-- The bracket that closes an object. -/
def closeBrace : String := "\x7d"

/-- An array of texts that are JSON already. -/
def arrayText (items : List String) : String := "[" ++ Text.joinWith "," items ++ "]"

/-- A member of an object, from its name and the text of its value. -/
def memberText (m : String × String) : String := stringText m.1 ++ ":" ++ m.2

/-- An object of members whose values are texts that are JSON already. -/
def objectText (members : List (String × String)) : String :=
  openBrace ++ Text.joinWith "," (members.map memberText) ++ closeBrace

end Dataset.Json

namespace Dataset

/-! ## 4. Values -/

/-- A JSON value; an object keeps the order of its members. -/
inductive Json where
  | null
  | bool (b : Bool)
  | number (n : Json.Num)
  | string (s : String)
  | array (items : List Json)
  | object (members : List (String × Json))
  deriving Repr

namespace Json

mutual
/-- The compact text of a value. -/
def text : Json → String
  | .null => "null"
  | .bool b => if b then "true" else "false"
  | .number n => n.text
  | .string s => stringText s
  | .array items => arrayText (texts items)
  | .object members => objectText (memberTexts members)

/-- The texts of a list of values. -/
def texts : List Json → List String
  | [] => []
  | v :: rest => v.text :: texts rest

/-- The texts of the values of members, each with its name. -/
def memberTexts : List (String × Json) → List (String × String)
  | [] => []
  | (name, v) :: rest => (name, v.text) :: memberTexts rest
end

/-- Members sorted by name, with one more: it takes the place of a member of that name. -/
def insertSorted (name : String) (v : Json) : List (String × Json) → List (String × Json)
  | [] => [(name, v)]
  | m :: rest =>
    if name = m.1 then (name, v) :: rest
    else if name < m.1 then (name, v) :: m :: rest
    else m :: insertSorted name v rest

end Json

end Dataset
