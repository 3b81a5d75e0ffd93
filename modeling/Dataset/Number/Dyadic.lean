/-!
# Binary numbers and rounding

A `Dyadic` is a natural number times a power of two. `nearest` rounds a quotient of natural numbers
to a given number of bits, a tie to the even neighbour; the precisions in use are those of the
binary interchange format of 64 bits (`doubleBits`) and of the extended format in which the store
scales by powers of ten (`extendedBits`).

Exponents of the extended format are not bounded here: every number whose scaling would leave its
range becomes zero or infinite when it is rounded to 53 bits, with or without the bound.
-/

namespace Dataset.Number

/-- The number `mant * 2 ^ exp`. -/
structure Dyadic where
  mant : Nat
  exp : Int
  deriving DecidableEq, Repr

namespace Dyadic

/-! ## 1. Order and products -/

/-- The mantissa of `d` on the grid of `2 ^ exp`, where `exp` is at most the exponent of `d`. -/
def mantAt (d : Dyadic) (exp : Int) : Nat := d.mant * Nat.pow 2 (d.exp - exp).toNat

/-- The order of the numbers, whatever their representation. -/
def cmp (a b : Dyadic) : Ordering :=
  let e := min a.exp b.exp
  compare (a.mantAt e) (b.mantAt e)

/-- At most. -/
def le (a b : Dyadic) : Bool := a.cmp b != .gt

/-- Less than. -/
def lt (a b : Dyadic) : Bool := a.cmp b == .lt

/-- The number as a quotient of natural numbers. -/
def ratio (d : Dyadic) : Nat × Nat :=
  (d.mant * Nat.pow 2 d.exp.toNat, Nat.pow 2 (-d.exp).toNat)

/-- The largest natural number that is not above the number. -/
def floor (d : Dyadic) : Nat := d.ratio.1 / d.ratio.2

end Dyadic

/-! ## 2. Rounding -/

/-- The integer nearest to `num / den`; of two the even one. -/
def nearestNat (num den : Nat) : Nat :=
  let q := num / den
  let r := num % den
  if 2 * r < den then q else if den < 2 * r then q + 1 else q + q % 2

/-- The exponent `k` for which `num / den` lies between `2 ^ k` and `2 ^ (k + 1)`. -/
def binaryExponent (num den : Nat) : Int :=
  let k : Int := Int.ofNat num.log2 - Int.ofNat den.log2
  if num * Nat.pow 2 (-k).toNat < den * Nat.pow 2 k.toNat then k - 1 else k

/-- The number nearest to `num / den` with at most `bits` bits and an exponent not below `least`. -/
def nearest (bits : Nat) (least : Int) (num den : Nat) : Dyadic :=
  if num = 0 then ⟨0, 0⟩
  else
    let e := max least (binaryExponent num den - (Int.ofNat bits - 1))
    let m := nearestNat (num * Nat.pow 2 (-e).toNat) (den * Nat.pow 2 e.toNat)
    if m = 0 then ⟨0, 0⟩
    else if m = Nat.pow 2 bits then ⟨Nat.pow 2 (bits - 1), e + 1⟩
    else ⟨m, e⟩

/-! ## 3. The extended format -/

/-- Bits of a mantissa in the extended format. -/
def extendedBits : Nat := 64

/-- The least exponent that the extended format is given here. -/
def extendedLeast : Int := -1000000

/-- Rounding to the extended format. -/
def toExtended (num den : Nat) : Dyadic := nearest extendedBits extendedLeast num den

/-- The product of two numbers of the extended format, rounded to it. -/
def mulExtended (a b : Dyadic) : Dyadic :=
  let p : Dyadic := ⟨a.mant * b.mant, a.exp + b.exp⟩
  toExtended p.ratio.1 p.ratio.2

/-- The power of ten with exponent `k`, rounded to the extended format. -/
def extendedTen (k : Int) : Dyadic := toExtended (Nat.pow 10 k.toNat) (Nat.pow 10 (-k).toNat)

/-- The product with the `n`th power of `factor`, rounded after each multiplication. -/
def mulRepeatedly (factor : Dyadic) : Nat → Dyadic → Dyadic
  | 0, d => d
  | n + 1, d => mulRepeatedly factor n (mulExtended d factor)

end Dataset.Number
