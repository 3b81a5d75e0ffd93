/-!
# Identifiers in statement text

A name is written between backticks, a backtick inside it twice. A plain identifier needs no
quotes: an ASCII letter or underscore, then letters, digits and underscores.
-/

namespace Dataset.Sql

/-! ## 1. Quoting -/

/-- The quote of identifiers, U+0060. -/
def backtick : Char := Char.ofNat 0x60

/-- The characters of a name with every backtick doubled. -/
def doubled : List Char → List Char
  | [] => []
  | c :: rest => if c = backtick then c :: c :: doubled rest else c :: doubled rest

/-- A name as an identifier: between backticks, its own backticks doubled. -/
def quoteChars (name : List Char) : List Char := backtick :: (doubled name ++ [backtick])

/-- A name as an identifier of a statement. -/
def quote (name : String) : String := String.ofList (quoteChars name.toList)

@[simp] theorem toList_quote (name : String) : (quote name).toList = quoteChars name.toList := by
  simp [quote]

/-! ## 2. Plain identifiers -/

/-- An ASCII letter or an underscore. -/
def startsPlain (c : Char) : Bool := c.isAlpha || c == '_'

/-- An ASCII letter, a digit or an underscore. -/
def continuesPlain (c : Char) : Bool := c.isAlphanum || c == '_'

/-- The form of a plain identifier, on characters. -/
def isPlainChars : List Char → Bool
  | [] => false
  | c :: rest => startsPlain c && rest.all continuesPlain

/-- A name that needs no quotes. -/
def isPlain (name : String) : Bool := isPlainChars name.toList

end Dataset.Sql
