import Dataset.Json.Basic
import Dataset.Text.Printable

/-!
# What can be wrong with a JSON text

One constructor for each cause, and the wording in `Error.message`.
-/

namespace Dataset.Json

/-- The kind of a value that stands where another kind is expected. -/
inductive Found where
  | null
  | boolean (b : Bool)
  | number (n : Num)
  | string (s : String)
  | array
  | object
  deriving DecidableEq, Repr

/-- A kind of value in words, with the value itself where it is short. -/
def Found.text : Found → String
  | .null => "null"
  | .boolean b => "boolean \x60" ++ (if b then "true" else "false") ++ "\x60"
  | .number (.int n) => "integer \x60" ++ Text.ofInt n ++ "\x60"
  | .number (.real r) => "floating point \x60" ++ realText r ++ "\x60"
  | .string s => "string " ++ Text.quotedForDisplay s
  | .array => "sequence"
  | .object => "map"

/-- Why a text is not the JSON that is asked for. -/
inductive Error where
  | endInValue
  | endInArray
  | endInObject
  | endInString
  | expectedValue
  | expectedWord
  | expectedColon
  | expectedArrayEnd
  | expectedObjectEnd
  | keyNotString
  | trailingComma
  | trailingCharacters
  | invalidNumber
  | numberOutOfRange
  | invalidEscape
  | loneSurrogate
  | unfinishedSurrogate
  | controlCharacter
  | tooDeep
  | wrongKind (found : Found) (expected : String)
  | wrongLength (length : Nat) (expected : String)
  | duplicateField (name : String)
  | missingField (name : String)
  | outOfRange (n : Int)
  deriving DecidableEq, Repr

/-- A name between backticks. -/
def ticked (s : String) : String := "\x60" ++ s ++ "\x60"

/-- The wording of a cause. -/
def Error.message : Error → String
  | .endInValue => "EOF while parsing a value"
  | .endInArray => "EOF while parsing a list"
  | .endInObject => "EOF while parsing an object"
  | .endInString => "EOF while parsing a string"
  | .expectedValue => "expected value"
  | .expectedWord => "expected ident"
  | .expectedColon => "expected " ++ ticked ":"
  | .expectedArrayEnd => "expected " ++ ticked "," ++ " or " ++ ticked "]"
  | .expectedObjectEnd => "expected " ++ ticked "," ++ " or " ++ ticked closeBrace
  | .keyNotString => "key must be a string"
  | .trailingComma => "trailing comma"
  | .trailingCharacters => "trailing characters"
  | .invalidNumber => "invalid number"
  | .numberOutOfRange => "number out of range"
  | .invalidEscape => "invalid escape"
  | .loneSurrogate => "lone leading surrogate in hex escape"
  | .unfinishedSurrogate => "unexpected end of hex escape"
  | .controlCharacter => "control character (\\u0000-\\u001F) found while parsing a string"
  | .tooDeep => "recursion limit exceeded"
  | .wrongKind found expected => "invalid type: " ++ found.text ++ ", expected " ++ expected
  | .wrongLength n expected => "invalid length " ++ Text.ofNat n ++ ", expected " ++ expected
  | .duplicateField name => "duplicate field " ++ ticked name
  | .missingField name => "missing field " ++ ticked name
  | .outOfRange n => "invalid value: integer " ++ ticked (Text.ofInt n)

end Dataset.Json
