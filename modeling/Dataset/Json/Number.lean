import Dataset.Json.Error

/-!
# Reading JSON numbers

Digits are kept as a natural number of 64 bits; digits behind that only move the exponent or are
dropped. A number with a fraction or an exponent, or too large for an integer, is the kept number,
rounded, times or divided by a power of ten, rounded again. `readNumber` reads a number and gives
its value; `skipNumber` only checks its form.
-/

namespace Dataset.Json

/-! ## 1. Value from parts -/

/-- The largest number that the digits are kept as. -/
def maxSignificand : Nat := Nat.pow 2 64 - 1

/-- The largest exponent that is read. -/
def maxExponent : Nat := Nat.pow 2 31 - 1

/-- The largest power of ten that is a finite number. -/
def largestTen : Nat := 308

/-- Divides by powers of ten down to `10 ^ -exp`; past the largest power in steps. -/
def divideTens (f : Number.Double) (exp : Nat) : Nat → Number.Double
  | 0 => f
  | steps + 1 =>
    if exp ≤ largestTen then f.div (.ofNat (Nat.pow 10 exp))
    else if f.cmp .zero == .eq then f
    else divideTens (f.div (.ofNat (Nat.pow 10 largestTen))) (exp - largestTen) steps

/-- After so many steps every number has become zero. -/
def divideSteps : Nat := 4

/-- A kept number times a power of ten, with a sign. -/
def fromParts (negative : Bool) (significand : Nat) (exp : Int) : Except Error Number.Double :=
  let f := Number.Double.ofNat significand
  let signed := fun (r : Number.Double) => if negative then r.neg else r
  match exp with
  | .ofNat e =>
    if e ≤ largestTen then
      let r := f.mul (.ofNat (Nat.pow 10 e))
      if r.isFinite then .ok (signed r) else .error .numberOutOfRange
    else if significand = 0 then .ok (signed f)
    else .error .numberOutOfRange
  | .negSucc e => .ok (signed (divideTens f (e + 1) divideSteps))

/-! ## 2. The parts -/

/-- Digits appended to a kept number while it stays in range: the number, how many were taken, and
    the digits that were not. -/
def keepDigits (kept : Nat) : List Char → Nat × Nat × List Char
  | [] => (kept, 0, [])
  | d :: rest =>
    let next := 10 * kept + Text.digitValue d
    if next ≤ maxSignificand then
      let r := keepDigits next rest
      (r.1, r.2.1 + 1, r.2.2)
    else (kept, 0, d :: rest)

/-- The digits at the front of a text, and the rest. -/
def spanDigits (s : List Char) : List Char × List Char :=
  (s.takeWhile Text.isDigit, s.dropWhile Text.isDigit)

/-- An exponent sign: whether it is negative, and what follows. -/
def exponentSign : List Char → Bool × List Char
  | '+' :: rest => (false, rest)
  | '-' :: rest => (true, rest)
  | s => (false, s)

/-- Behind the letter of an exponent: its digits, which move `start`. -/
def readExponent (negative : Bool) (significand : Nat) (start : Int) (s : List Char) :
    Except Error (Number.Double × List Char) :=
  let (down, s) := exponentSign s
  match spanDigits s with
  | ([], []) => .error .endInValue
  | ([], _) => .error .invalidNumber
  | (ds, rest) =>
    let e := Text.decimalValue ds
    if maxExponent < e then
      if significand ≠ 0 && !down then .error .numberOutOfRange
      else .ok (.finite negative ⟨0, 0⟩, rest)
    else do
      let r ← fromParts negative significand (if down then start - e else start + e)
      .ok (r, rest)

/-- An exponent if there is one, else the number as it stands. -/
def readScale (negative : Bool) (significand : Nat) (exp : Int) (s : List Char) :
    Except Error (Number.Double × List Char) :=
  let plain : Except Error (Number.Double × List Char) := do
    let r ← fromParts negative significand exp
    .ok (r, s)
  match s with
  | [] => plain
  | c :: rest =>
    if c = 'e' || c = 'E' then readExponent negative significand exp rest else plain

/-- Behind a point: digits, of which there must be at least one, and an exponent. -/
def readFraction (negative : Bool) (significand : Nat) (exp : Int) (s : List Char) :
    Except Error (Number.Double × List Char) :=
  match spanDigits s with
  | ([], []) => .error .endInValue
  | ([], _) => .error .invalidNumber
  | (ds, rest) =>
    let (kept, taken, _) := keepDigits significand ds
    readScale negative kept (exp - Int.ofNat taken) rest

/-- Behind digits too many to keep, `more` of them left out. -/
def readLong (negative : Bool) (significand more : Nat) (s : List Char) :
    Except Error (Number.Double × List Char) :=
  match s with
  | '.' :: rest => readFraction negative significand (Int.ofNat more) rest
  | _ => readScale negative significand (Int.ofNat more) s

/-- An integer, which is a real number if it is below the range or a negative zero. -/
def integerOf (negative : Bool) (significand : Nat) : Num :=
  if negative then
    if significand = 0 || Nat.pow 2 63 < significand then .real (Number.Double.ofNat significand).neg
    else .int (-(Int.ofNat significand))
  else .int (Int.ofNat significand)

/-- A real number as a number. -/
def asReal (r : Except Error (Number.Double × List Char)) : Except Error (Num × List Char) := do
  let (x, rest) ← r
  .ok (.real x, rest)

/-- Behind the sign: digits, of which a leading zero stands alone, then fraction and exponent. -/
def readUnsigned (negative : Bool) (s : List Char) : Except Error (Num × List Char) :=
  match spanDigits s with
  | ([], []) => .error .endInValue
  | ([], _) => .error .invalidNumber
  | ('0' :: _ :: _, _) => .error .invalidNumber
  | (ds, rest) =>
    match keepDigits 0 ds with
    | (kept, _, []) =>
      match rest with
      | '.' :: rest => asReal (readFraction negative kept 0 rest)
      | c :: rest' =>
        if c = 'e' || c = 'E' then asReal (readExponent negative kept 0 rest')
        else .ok (integerOf negative kept, rest)
      | [] => .ok (integerOf negative kept, [])
    | (kept, _, left) => asReal (readLong negative kept left.length rest)

/-- A number, from its sign or first digit on. -/
def readNumber (s : List Char) : Except Error (Num × List Char) :=
  match s with
  | '-' :: rest => readUnsigned true rest
  | _ => readUnsigned false s

/-! ## 3. Form only -/

/-- At least one digit. -/
def skipDigits (s : List Char) : Except Error (List Char) :=
  match spanDigits s with
  | ([], _) => .error .invalidNumber
  | (_, rest) => .ok rest

/-- An exponent if there is one. -/
def skipScale (s : List Char) : Except Error (List Char) :=
  match s with
  | [] => .ok []
  | c :: rest => if c = 'e' || c = 'E' then skipDigits (exponentSign rest).2 else .ok s

/-- The form of a number behind its sign. -/
def skipUnsigned (s : List Char) : Except Error (List Char) :=
  match spanDigits s with
  | ([], _) => .error .invalidNumber
  | ('0' :: _ :: _, _) => .error .invalidNumber
  | (_, '.' :: rest) => do skipScale (← skipDigits rest)
  | (_, rest) => skipScale rest

/-- The form of a number, from its sign or first digit on. -/
def skipNumber (s : List Char) : Except Error (List Char) :=
  match s with
  | '-' :: rest => skipUnsigned rest
  | _ => skipUnsigned s

end Dataset.Json
