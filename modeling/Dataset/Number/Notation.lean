import Dataset.Number.Shortest
import Dataset.Text.Blank

/-!
# How real numbers are written

* `jsonText`: the fewest digits that read back; positional with at least one digit on each side of
  the point while the first digit stands between `10 ^ -5` and `10 ^ 15`, else with an exponent
  that carries its sign. Infinities have no such text.
* `storeText`: the text that the store compares patterns with; up to 15 digits, always a point,
  positional between `10 ^ -4` and `10 ^ 14`, else with an exponent of at least two digits.
-/

namespace Dataset.Number

/-! ## 1. Digits and their places -/

/-- Positional notation with at least one digit on each side of the point. -/
def positional (d : Decimal) : String :=
  if d.exp < 0 then
    String.ofList ('0' :: '.' :: List.replicate (-d.exp - 1).toNat '0' ++ d.digits)
  else
    let before := d.exp.toNat + 1
    let whole := d.digits.take before
    let filled := whole ++ List.replicate (before - whole.length) '0'
    let fraction := d.digits.drop before
    String.ofList (filled ++ '.' :: (if fraction.isEmpty then ['0'] else fraction))

/-- A sign for an exponent, and its digits, at least `width` of them. -/
def exponentText (width : Nat) (e : Int) : String :=
  (if e < 0 then "-" else "+") ++ Text.padded width e.natAbs

/-! ## 2. JSON -/

/-- The first places that are written positionally in JSON. -/
def jsonLeast : Int := -5

/-- The last such place. -/
def jsonMost : Int := 15

/-- A positive decimal number in JSON. -/
def jsonDecimal (d : Decimal) : String :=
  if jsonLeast ≤ d.exp && d.exp ≤ jsonMost then positional d
  else
    let fraction := d.digits.drop 1
    String.ofList (d.digits.take 1 ++ (if fraction.isEmpty then [] else '.' :: fraction))
      ++ "e" ++ exponentText 1 d.exp

/-- A finite number in JSON. -/
def jsonText? : Double → Option String
  | .finite s d =>
    some ((if s then "-" else "") ++ (if d.mant = 0 then "0.0" else jsonDecimal (shortest d)))
  | .infinite _ => none

/-! ## 3. The store -/

/-- Multiplies by `factor` while `test` holds, at most `limit` times, and counts. -/
def scaleWhile (test : Dyadic → Bool) (factor : Dyadic) : Nat → Dyadic → Dyadic × Nat
  | 0, d => (d, 0)
  | limit + 1, d =>
    if test d then
      let r := scaleWhile test factor limit (mulExtended d factor)
      (r.1, r.2 + 1)
    else (d, 0)

/-- No scaling loop below runs more often. -/
def scaleLimit : Nat := 20

/-- Scales a positive number to 18 or 19 digits before the point, in the extended format, and says
    by which power of ten it has to be multiplied again. -/
def scaled (d : Dyadic) : Dyadic × Int :=
  if (extendedTen 19).le d then
    let (a, i) := scaleWhile (extendedTen 119).le (extendedTen (-100)) scaleLimit d
    let (b, j) := scaleWhile (extendedTen 29).le (extendedTen (-10)) scaleLimit a
    let (c, k) := scaleWhile (extendedTen 19).le (extendedTen (-1)) scaleLimit b
    (c, 100 * Int.ofNat i + 10 * Int.ofNat j + Int.ofNat k)
  else
    let (a, i) := scaleWhile (·.lt (extendedTen (-97))) (extendedTen 100) scaleLimit d
    let (b, j) := scaleWhile (·.lt (extendedTen 7)) (extendedTen 10) scaleLimit a
    let (c, k) := scaleWhile (·.lt (extendedTen 17)) (extendedTen 1) scaleLimit b
    (c, -(100 * Int.ofNat i + 10 * Int.ofNat j + Int.ofNat k))

/-- The digits that the store shows of a number. -/
def storeDigits : Nat := 15

/-- Digits cut to `storeDigits` places, a following digit of five or more rounding up. The number
    says whether rounding gained a place. -/
def cutDigits (ds : List Char) : List Char × Nat :=
  if ds.length ≤ storeDigits then (ds, 0)
  else
    let kept := Text.decimalValue (ds.take storeDigits)
    let up := match ds[storeDigits]? with
      | some c => if '5' ≤ c then kept + 1 else kept
      | none => kept
    let written := digitsOf up
    (written, written.length - storeDigits)

/-- The digits of a positive number that the store shows. -/
def storeDecimal (d : Dyadic) : Decimal :=
  let (v, k) := scaled d
  let ds := digitsOf v.floor
  let (cut, gained) := cutDigits ds
  ⟨withoutTrailingZeros cut, Int.ofNat ds.length + k - 1 + Int.ofNat gained⟩

/-- The text of a positive decimal number in the store. -/
def storeDecimalText (d : Decimal) : String :=
  if -4 ≤ d.exp && d.exp < Int.ofNat storeDigits then positional d
  else
    let fraction := d.digits.drop 1
    String.ofList (d.digits.take 1 ++ '.' :: (if fraction.isEmpty then ['0'] else fraction))
      ++ "e" ++ exponentText 2 d.exp

/-- The text of a real number in the store. -/
def storeText : Double → String
  | .finite s d =>
    if d.mant = 0 then "0.0" else (if s then "-" else "") ++ storeDecimalText (storeDecimal d)
  | .infinite s => if s then "-Inf" else "Inf"

end Dataset.Number
