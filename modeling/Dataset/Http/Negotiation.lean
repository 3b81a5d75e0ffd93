import Dataset.Text.Blank

/-!
# Content codings

A client names the codings that it accepts, each with a weight between 0 and 1. `accepted` picks the
coding of the greatest weight, of equal weights the one that compresses.
-/

namespace Dataset.Http

/-- How a body is coded. -/
inductive Coding where
  | identity
  | gzip
  deriving DecidableEq, Repr

/-- The coding of a name, if the program knows it. -/
def Coding.ofName? (s : String) : Option Coding :=
  if Text.sameIgnoringCase s "gzip" || Text.sameIgnoringCase s "x-gzip" then some gzip
  else if Text.sameIgnoringCase s "identity" then some identity
  else none

/-- A full weight, in thousandths. -/
def fullWeight : Nat := 1000

/-- Up to three digits behind the point of a weight. -/
def fraction? (factor : Nat) : List Char → Option Nat
  | [] => some 0
  | c :: rest =>
    if Text.isDigit c && factor != 0 then
      (fraction? (factor / 10) rest).map (factor * Text.digitValue c + ·)
    else none

/-- The digits of a weight. -/
def weightDigits? : List Char → Option Nat
  | c :: rest =>
    let whole := if c = '0' then some 0 else if c = '1' then some fullWeight else none
    match rest with
    | [] => whole
    | '.' :: digits => do
      let w := (← whole) + (← fraction? 100 digits)
      if w ≤ fullWeight then some w else none
    | _ => none
  | [] => none

/-- A weight in thousandths. -/
def weight? : List Char → Option Nat
  | c :: '=' :: digits => if c = 'q' || c = 'Q' then weightDigits? digits else none
  | _ => none

/-- A coding with its weight; a coding or a weight that cannot be read does not count. -/
def codingWeight? (s : List Char) : Option (Coding × Nat) := do
  let (name, weight) := Text.splitAtFirst ';' s
  let coding ← Coding.ofName? (Text.trim (String.ofList name))
  match weight with
  | none => some (coding, fullWeight)
  | some w => some (coding, ← weight? (Text.trimChars w))

/-- The greatest weight that is given to a coding; none if it is not accepted. -/
def weightOf (coding : Coding) (weights : List (Coding × Nat)) : Nat :=
  ((weights.filter (·.1 == coding)).map Prod.snd).foldl max 0

/-- A header that can be read: visible ASCII characters, spaces and tabs. -/
def isReadable (header : String) : Bool :=
  header.toList.all fun c => c = '\t' || (' ' ≤ c && c ≤ '~')

/-- The coding that a client prefers; a header that cannot be read is as none. -/
def accepted (header : Option String) : Coding :=
  let readable := (header.filter isReadable).getD ""
  let weights := (Text.pieces ',' readable.toList).filterMap codingWeight?
  let w := weightOf .gzip weights
  if w ≠ 0 && weightOf .identity weights ≤ w then .gzip else .identity

end Dataset.Http
