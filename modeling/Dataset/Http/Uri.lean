import Dataset.Json.Reader
import Dataset.Text.Utf8

/-!
# Request targets

* `Target.parse` takes a request target apart: the path as it is written, and the query;
* `percentDecode` gives the bytes that a part of a target stands for, `percentEncode` writes bytes
  so that they can stand in any part;
* `formPairs` reads a query as pairs of names and values.
-/

namespace Dataset.Http

/-! ## 1. Percent-encoding -/

/-- The byte that two hexadecimal digits write. -/
def hexByte? (a b : Char) : Option UInt8 :=
  match Json.hexValue? a, Json.hexValue? b with
  | some a, some b => some (UInt8.ofNat (16 * a + b))
  | _, _ => none

/-- The bytes that a text stands for; a percent sign without two digits stands for itself. -/
def percentDecode : List Char → List UInt8
  | '%' :: a :: b :: rest =>
    match hexByte? a b with
    | some x => x :: percentDecode rest
    | none => Text.Utf8.encode ['%'] ++ percentDecode (a :: b :: rest)
  | c :: rest => Text.Utf8.encode [c] ++ percentDecode rest
  | [] => []

/-- A character that stands for itself in every part of a target. -/
def isUnreserved (c : Char) : Bool := c.isAlphanum || c == '-' || c == '_' || c == '.'

/-- A hexadecimal digit in upper case. -/
def hexDigit (n : Nat) : Char := (Nat.digitChar n).toUpper

/-- A byte in a target. -/
def encodeByte (b : UInt8) : List Char :=
  let c := Char.ofNat b.toNat
  if isUnreserved c then [c] else ['%', hexDigit (b.toNat / 16), hexDigit (b.toNat % 16)]

/-- A text in a target. -/
def percentEncode (s : String) : String :=
  String.ofList ((Text.Utf8.encode s.toList).flatMap encodeByte)

/-! ## 2. Targets -/

/-- A path and a query. -/
structure Target where
  path : List Char
  query : Option (List Char)
  deriving DecidableEq, Repr

/-- What follows the scheme of an absolute target. -/
def afterScheme? : List Char → Option (List Char)
  | ':' :: '/' :: '/' :: rest => some rest
  | c :: rest => if c = '/' || c = '?' then none else afterScheme? rest
  | [] => none

/-- The path of an absolute target, behind its scheme. -/
def afterAuthority (s : List Char) : List Char :=
  match s.dropWhile fun c => c != '/' && c != '?' with
  | '/' :: rest => '/' :: rest
  | rest => '/' :: rest

/-- A target taken apart; a fragment is no part of it. -/
def Target.parse (s : String) : Target :=
  let text := (Text.splitAtFirst '#' s.toList).1
  let own := match afterScheme? text with
    | some rest => afterAuthority rest
    | none => text
  let (path, query) := Text.splitAtFirst '?' own
  ⟨path, query⟩

/-! ## 3. Queries -/

/-- A name or a value of a query: a plus sign is a space, broken UTF-8 is replaced. -/
def formText (s : List Char) : String :=
  String.ofList (Text.Utf8.decodeLossy
    (percentDecode (s.map fun c => if c = '+' then ' ' else c)))

/-- A pair of a query; without an equals sign the value is empty. -/
def formPair (s : List Char) : String × String :=
  let (name, value) := Text.splitAtFirst '=' s
  (formText name, formText (value.getD []))

/-- The pairs of a query; empty ones do not count. -/
def formPairs (query : List Char) : List (String × String) :=
  ((Text.pieces '&' query).filter fun p => !p.isEmpty).map formPair

end Dataset.Http
