import Dataset.Text.Blank

/-!
# Calendar dates

Dates are of the proleptic Gregorian calendar. A date is read in one of two forms:

* ISO form, year-month-day: an unsigned year has up to four digits, a signed one any number; month
  and day have one or two; blanks may stand before each number. `Date.iso?`
* the form month/day/year of the United States, where a year of two characters counts from 2000.
  `Date.slashed?`

`normalize` leaves the first form as it stands and turns the second into the first.
-/

namespace Dataset

/-- A year, a month and a day, which need not exist in the calendar. -/
structure Date where
  year : Int
  month : Nat
  day : Nat
  deriving DecidableEq, Repr

namespace Date

/-! ## 1. The calendar -/

/-- Every fourth year is a leap year, of the hundreds only every fourth. -/
def isLeap (year : Int) : Bool := year % 4 == 0 && (year % 100 != 0 || year % 400 == 0)

/-- The days of a month; none in a month that does not exist. -/
def daysIn (year : Int) (month : Nat) : Nat :=
  if month = 2 then (if isLeap year then 29 else 28)
  else if month = 4 || month = 6 || month = 9 || month = 11 then 30
  else if 1 ≤ month && month ≤ 12 then 31
  else 0

/-- The years that dates reach. -/
def minYear : Int := -262143

/-- The last year that dates reach. -/
def maxYear : Int := 262142

/-- A day of the calendar in one of the years that dates reach. -/
def exists? (d : Date) : Bool :=
  minYear ≤ d.year && d.year ≤ maxYear && 1 ≤ d.day && d.day ≤ daysIn d.year d.month

/-! ## 2. Writing -/

/-- A year has at least four digits, and a sign if it lies outside 0 to 9999. -/
def yearText (year : Int) : String :=
  if year < 0 then "-" ++ Text.padded 4 year.natAbs
  else if year > 9999 then "+" ++ Text.padded 4 year.natAbs
  else Text.padded 4 year.natAbs

/-- ISO form: year, month and day with two digits each. -/
def toText (d : Date) : String :=
  yearText d.year ++ "-" ++ Text.padded 2 d.month ++ "-" ++ Text.padded 2 d.day

/-! ## 3. Reading -/

/-- A number of one to `width` digits behind blanks, and what follows it. -/
def field? (width : Nat) (s : List Char) : Option (Nat × List Char) :=
  let s := Text.trimStart s
  let ds := (s.take width).takeWhile Text.isDigit
  if ds.isEmpty then none else some (Text.decimalValue ds, s.drop ds.length)

/-- A year behind blanks: up to four digits, or a sign and any number of digits. -/
def year? (s : List Char) : Option (Int × List Char) :=
  match Text.trimStart s with
  | '-' :: rest =>
    let ds := rest.takeWhile Text.isDigit
    if ds.isEmpty then none
    else some (-(Int.ofNat (Text.decimalValue ds)), rest.drop ds.length)
  | '+' :: rest =>
    let ds := rest.takeWhile Text.isDigit
    if ds.isEmpty then none
    else some (Int.ofNat (Text.decimalValue ds), rest.drop ds.length)
  | s => (field? 4 s).map fun r => (Int.ofNat r.1, r.2)

/-- What follows a hyphen. -/
def hyphen? : List Char → Option (List Char)
  | '-' :: rest => some rest
  | _ => none

/-- A date in ISO form. -/
def iso? (s : List Char) : Option Date := do
  let (year, s) ← year? s
  let (month, s) ← field? 2 (← hyphen? s)
  let (day, s) ← field? 2 (← hyphen? s)
  let d : Date := ⟨year, month, day⟩
  if s.isEmpty && d.exists? then some d else none

/-- The largest month or day number that is read at all. -/
def maxField : Nat := Nat.pow 2 32 - 1

/-- The largest year number that is read at all. -/
def maxYearField : Nat := Nat.pow 2 31 - 1

/-- The year of the slashed form: two bytes count from 2000, four stand for themselves. -/
def slashedYear? (s : List Char) : Option Int :=
  match (String.ofList s).utf8ByteSize with
  | 2 => (Text.integer? maxYearField s).map (2000 + ·)
  | 4 => Text.integer? maxYearField s
  | _ => none

/-- A date in the form month/day/year. -/
def slashed? (s : List Char) : Option Date :=
  match Text.pieces '/' s with
  | [m, d, y] => do
    let month ← Text.natural? maxField m
    let day ← Text.natural? maxField d
    let year ← slashedYear? y
    let date : Date := ⟨year, month, day⟩
    if date.exists? then some date else none
  | _ => none

/-- ISO form of a date in either form; the text itself, trimmed, if it is in ISO form already. -/
def normalize (input : String) : Option String :=
  let s := Text.trimChars input.toList
  if s.isEmpty then none
  else if (iso? s).isSome then some (String.ofList s)
  else (slashed? s).map toText

end Date

end Dataset
