import Dataset.Number.Double
import Dataset.Text.Blank

/-!
# Numbers in cell text

The store takes a text for a number if it is one from end to end: an optional sign, digits with an
optional point among them or around them, an optional exponent, and ASCII white space around it
all.

* `scan` reads that form, and keeps of the digits the first 18 or 19 that count;
* `Scan.value` scales the kept digits by powers of ten in the extended format;
* `number?` gives the integer that a text writes if it is one in 64 bits, else the real number.
-/

namespace Dataset.Number

/-! ## 1. Integers of 64 bits -/

/-- The smallest integer of 64 bits. -/
def minInt64 : Int := -Int.pow 2 63

/-- The largest integer of 64 bits. -/
def maxInt64 : Int := Int.pow 2 63 - 1

/-- An integer of 64 bits. -/
def isInt64 (n : Int) : Bool := minInt64 ≤ n && n ≤ maxInt64

/-! ## 2. The form of a number -/

/-- White space of ASCII: space, tab, line feed, vertical tab, form feed, carriage return. -/
def isSpace (c : Char) : Bool := c == ' ' || ('\t' ≤ c && c ≤ '\r')

/-- The largest number of 64 bits, the bound of the digits that are kept. -/
def maxKept : Nat := Nat.pow 2 64 - 1

/-- No digit is kept behind a number of this size. -/
def keptBound : Nat := (maxKept - 9) / 10

/-- Digits before the point: those kept as a number, and how many more there are. -/
def keepWhole (ds : List Char) (kept : Nat) : Nat × Nat :=
  match ds with
  | [] => (kept, 0)
  | d :: rest =>
    let next := 10 * kept + Text.digitValue d
    if keptBound ≤ next then (next, rest.length) else keepWhole rest next

/-- Digits behind the point: those kept, and how many of them there are. -/
def keepFraction (ds : List Char) (kept : Nat) : Nat × Nat :=
  match ds with
  | [] => (kept, 0)
  | d :: rest =>
    if kept < keptBound then
      let r := keepFraction rest (10 * kept + Text.digitValue d)
      (r.1, r.2 + 1)
    else keepFraction rest kept

/-- The exponent that digits write; past 9999 it stays near 10000. -/
def exponentOf (ds : List Char) : Nat :=
  ds.foldl (fun e d => if e < 10000 then 10 * e + Text.digitValue d else 10000) 0

/-- A number as it stands in a text. -/
structure Scan where
  negative : Bool
  kept : Nat
  scale : Int
  /-- Digits only: neither a point nor an exponent. -/
  whole : Bool
  /-- The digits before the point. -/
  integral : List Char
  deriving DecidableEq, Repr

/-- An optional sign: whether it is a minus, and what follows it. -/
def signOf : List Char → Bool × List Char
  | '-' :: rest => (true, rest)
  | '+' :: rest => (false, rest)
  | s => (false, s)

/-- A point and the digits behind it: whether there is a point, the digits, and the rest. -/
def fractionOf : List Char → Bool × List Char × List Char
  | '.' :: rest => (true, rest.takeWhile Text.isDigit, rest.dropWhile Text.isDigit)
  | s => (false, [], s)

/-- An exponent: whether there is one, its value, and the rest; none if it has no digits. -/
def exponentPart? : List Char → Option (Bool × Int × List Char)
  | c :: rest =>
    if c = 'e' || c = 'E' then
      let (negative, s) := signOf rest
      let ds := s.takeWhile Text.isDigit
      if ds.isEmpty then none
      else
        let e := Int.ofNat (exponentOf ds)
        some (true, if negative then -e else e, s.dropWhile Text.isDigit)
    else some (false, 0, c :: rest)
  | [] => some (false, 0, [])

/-- A text that is a number from end to end. -/
def scan (text : List Char) : Option Scan := do
  let (negative, s) := signOf (text.dropWhile isSpace)
  let integral := s.takeWhile Text.isDigit
  let (point, fraction, s) := fractionOf (s.dropWhile Text.isDigit)
  let (exponent, e, s) ← exponentPart? s
  if !(s.dropWhile isSpace).isEmpty || (integral.isEmpty && fraction.isEmpty) then none
  else
    let (a, more) := keepWhole integral 0
    let (b, places) := keepFraction fraction a
    some ⟨negative, b, e + Int.ofNat more - Int.ofNat places, !point && !exponent, integral⟩

/-! ## 3. Its value -/

/-- Moves factors of ten from the exponent into the number while it has room. -/
def absorb (kept : Nat) : Nat → Nat × Nat
  | 0 => (kept, 0)
  | e + 1 => if kept < maxKept / 10 then absorb (10 * kept) e else (kept, e + 1)

/-- Moves factors of ten from the number into a negative exponent while they divide it. -/
def release (kept : Nat) : Nat → Nat × Nat
  | 0 => (kept, 0)
  | e + 1 => if kept % 10 = 0 then release (kept / 10) e else (kept, e + 1)

/-- The number of hundreds, tens and ones of `e`, each as a multiplication by its power of ten. -/
def scaleUp (d : Dyadic) (e : Nat) : Dyadic :=
  let a := mulRepeatedly (extendedTen 100) (e / 100) d
  let b := mulRepeatedly (extendedTen 10) (e % 100 / 10) a
  mulRepeatedly (extendedTen 1) (e % 10) b

/-- The same downwards. -/
def scaleDown (d : Dyadic) (e : Nat) : Dyadic :=
  let a := mulRepeatedly (extendedTen (-100)) (e / 100) d
  let b := mulRepeatedly (extendedTen (-10)) (e % 100 / 10) a
  mulRepeatedly (extendedTen (-1)) (e % 10) b

/-- A number of the extended format as a real number of 64 bits. -/
def fromExtended (negative : Bool) (d : Dyadic) : Double :=
  if Double.largest.lt d then .infinite negative else Double.ofDyadic negative d

/-- The real number that a text writes. -/
def Scan.value (n : Scan) : Double :=
  if n.kept = 0 then .finite n.negative ⟨0, 0⟩
  else match n.scale with
    | .ofNat e =>
      let (kept, e) := absorb n.kept e
      if e = 0 then Double.ofRatio n.negative kept 1
      else fromExtended n.negative (scaleUp ⟨kept, 0⟩ e)
    | .negSucc e =>
      let (kept, e) := release n.kept (e + 1)
      if e = 0 then Double.ofRatio n.negative kept 1
      else fromExtended n.negative (scaleDown ⟨kept, 0⟩ e)

/-- The integer that a text of digits writes. -/
def Scan.integer (n : Scan) : Int :=
  let v := Int.ofNat (Text.decimalValue n.integral)
  if n.negative then -v else v

/-- An integer or a real number. -/
inductive Numeric where
  | int (n : Int)
  | real (r : Double)
  deriving DecidableEq, Repr

/-- The integer that a real number is, short of the two ends of the range. -/
def integerWithin? (r : Double) : Option Int :=
  r.toInt?.filter fun n => minInt64 < n && n < maxInt64

/-- A real number as an integer where it is one. -/
def Numeric.ofReal (r : Double) : Numeric :=
  match integerWithin? r with
  | some n => .int n
  | none => .real r

/-- The number that a text is: an integer where it is one of 64 bits. -/
def number? (text : List Char) : Option Numeric :=
  (scan text).map fun n =>
    if n.whole && isInt64 n.integer then .int n.integer else .ofReal n.value

end Dataset.Number
