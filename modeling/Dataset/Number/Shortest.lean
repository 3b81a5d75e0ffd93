import Dataset.Number.Double

/-!
# The fewest decimal digits that read back

Every positive finite number is the nearest one to an interval of reals, its ends included exactly
if its mantissa is even. `shortest` looks on the decimal grids of 1, 2, … 17 digits for the
value's two neighbours; the first grid with a neighbour inside the interval gives the digits, and
of two neighbours inside the nearer one, the even one in a tie.
-/

namespace Dataset.Number

/-- A decimal number: `digits` without trailing zeros, the first standing at `10 ^ exp`. -/
structure Decimal where
  digits : List Char
  exp : Int
  deriving DecidableEq, Repr

/-! ## 1. Decimal digits -/

/-- The decimal digits of a natural number. -/
def digitsOf (n : Nat) : List Char := Nat.toDigits 10 n

/-- The exponent of the first decimal digit of `num / den`, both positive. -/
def decimalExponent (num den : Nat) : Int :=
  if den ≤ num then Int.ofNat (digitsOf (num / den)).length - 1
  else -(Int.ofNat (digitsOf ((den + num - 1) / num - 1)).length)

/-- Digits without the zeros at their end. -/
def withoutTrailingZeros (s : List Char) : List Char :=
  (s.reverse.dropWhile (· == '0')).reverse

/-- The decimal number `n * 10 ^ k`. -/
def Decimal.ofScaled (n : Nat) (k : Int) : Decimal :=
  let ds := digitsOf n
  ⟨withoutTrailingZeros ds, k + Int.ofNat ds.length - 1⟩

/-! ## 2. The interval of a number -/

/-- The reals that round to `mant * 2 ^ exp`, on a grid fine enough for its ends. -/
structure Interval where
  low : Nat
  value : Nat
  high : Nat
  grid : Int
  closed : Bool

/-- Below a power of two the grid is twice as fine, unless it is the finest already. -/
def intervalOf (d : Dyadic) : Interval :=
  let below := if d.mant = Nat.pow 2 (Double.bits - 1) && Double.leastExp < d.exp then 1 else 2
  ⟨4 * d.mant - below, 4 * d.mant, 4 * d.mant + 2, d.exp - 2, d.mant % 2 = 0⟩

/-- The point `n * 10 ^ k` lies in the interval. -/
def Interval.holds (i : Interval) (n : Nat) (k : Int) : Bool :=
  let a := Nat.pow 10 (-k).toNat * Nat.pow 2 i.grid.toNat
  let p := n * Nat.pow 10 k.toNat * Nat.pow 2 (-i.grid).toNat
  if i.closed then i.low * a ≤ p && p ≤ i.high * a else i.low * a < p && p < i.high * a

/-! ## 3. The search -/

/-- Of the neighbours `n` and `n + 1` of the value on the grid `10 ^ k` the one to be written. -/
def neighbour? (i : Interval) (k : Int) : Option Nat :=
  let num := i.value * Nat.pow 2 i.grid.toNat * Nat.pow 10 (-k).toNat
  let den := Nat.pow 2 (-i.grid).toNat * Nat.pow 10 k.toNat
  let n := num / den
  match i.holds n k, i.holds (n + 1) k with
  | true, true => some (nearestNat num den)
  | true, false => some n
  | false, true => some (n + 1)
  | false, false => none

/-- Tries the grids of `places` digits and of up to `more` digits beyond. -/
def search (i : Interval) (top : Int) (places : Nat) : Nat → Decimal
  | 0 => ⟨[], top⟩
  | more + 1 =>
    let k := top - Int.ofNat places + 1
    match neighbour? i k with
    | some n => Decimal.ofScaled n k
    | none => search i top (places + 1) more

/-- The most digits that a number of 64 bits needs. -/
def mostDigits : Nat := 17

/-- The fewest digits that read back to a positive number. -/
def shortest (d : Dyadic) : Decimal :=
  search (intervalOf d) (decimalExponent d.ratio.1 d.ratio.2) 1 mostDigits

end Dataset.Number
