import Dataset.Number.Dyadic

/-!
# Real numbers of 64 bits

A `Double` is a finite number of the binary interchange format of 64 bits, with its sign, or an
infinity. There is no value for "not a number": no operation here gives one.

* `ofRatio` rounds a quotient, `ofInt` an integer, `mul` and `div` a product and a quotient, each to
  the nearest number, a tie to even, and to an infinity above the largest finite number;
* `cmp` is the order of the numbers, with both zeros equal; `cmpInt` compares with an integer
  exactly.
-/

namespace Dataset.Number

/-- A real number of 64 bits. -/
inductive Double where
  | finite (negative : Bool) (magnitude : Dyadic)
  | infinite (negative : Bool)
  deriving DecidableEq, Repr

namespace Double

/-! ## 1. Construction -/

/-- Bits of a mantissa. -/
def bits : Nat := 53

/-- The exponent of the smallest positive number. -/
def leastExp : Int := -1074

/-- The largest finite number. -/
def largest : Dyadic := ⟨Nat.pow 2 53 - 1, 971⟩

/-- The number with a sign and a rounded magnitude; infinite above the largest. -/
def ofMagnitude (negative : Bool) (d : Dyadic) : Double :=
  if largest.lt d then .infinite negative else .finite negative d

/-- The number nearest to a quotient. -/
def ofRatio (negative : Bool) (num den : Nat) : Double :=
  ofMagnitude negative (nearest bits leastExp num den)

/-- The number nearest to a binary number. -/
def ofDyadic (negative : Bool) (d : Dyadic) : Double :=
  ofRatio negative d.ratio.1 d.ratio.2

/-- The number nearest to a natural number. -/
def ofNat (n : Nat) : Double := ofRatio false n 1

/-- The number nearest to an integer. -/
def ofInt (n : Int) : Double := ofRatio (n < 0) n.natAbs 1

/-- Positive zero. -/
def zero : Double := .finite false ⟨0, 0⟩

/-! ## 2. Sign, order and arithmetic -/

/-- The number with the opposite sign. -/
def neg : Double → Double
  | .finite s d => .finite (!s) d
  | .infinite s => .infinite (!s)

/-- Whether the number carries a minus sign. -/
def isNegative : Double → Bool
  | .finite s _ => s
  | .infinite s => s

/-- Neither infinity. -/
def isFinite : Double → Bool
  | .finite _ _ => true
  | .infinite _ => false

/-- The order of two finite numbers given by sign and magnitude. -/
def cmpSigned (s : Bool) (a : Dyadic) (t : Bool) (b : Dyadic) : Ordering :=
  if a.mant = 0 && b.mant = 0 then .eq
  else match s, t with
    | false, false => a.cmp b
    | true, true => b.cmp a
    | false, true => .gt
    | true, false => .lt

/-- The order of the numbers; both zeros are equal. -/
def cmp : Double → Double → Ordering
  | .finite s a, .finite t b => cmpSigned s a t b
  | .finite _ _, .infinite t => if t then .gt else .lt
  | .infinite s, .finite _ _ => if s then .lt else .gt
  | .infinite s, .infinite t => if s == t then .eq else if s then .lt else .gt

/-- The order of an integer and a real number, both taken exactly. -/
def cmpInt (n : Int) (r : Double) : Ordering :=
  cmp (.finite (n < 0) ⟨n.natAbs, 0⟩) r

/-- The integer that a real number is, if it is one. -/
def toInt? : Double → Option Int
  | .finite s d =>
    if d.ratio.1 % d.ratio.2 = 0 then
      some (if s then -(Int.ofNat d.floor) else Int.ofNat d.floor)
    else none
  | .infinite _ => none

/-- The product of two finite numbers, rounded; an infinite factor makes it infinite. -/
def mul : Double → Double → Double
  | .finite s a, .finite t b => ofDyadic (s != t) ⟨a.mant * b.mant, a.exp + b.exp⟩
  | a, b => .infinite (a.isNegative != b.isNegative)

/-- The quotient of two finite numbers, the second not zero, rounded; infinite if the first is. -/
def div : Double → Double → Double
  | .finite s a, .finite t b =>
    ofRatio (s != t) (a.ratio.1 * b.ratio.2) (a.ratio.2 * b.ratio.1)
  | .finite s _, .infinite t => .finite (s != t) ⟨0, 0⟩
  | .infinite s, .finite t _ => .infinite (s != t)
  | .infinite s, .infinite t => .infinite (s != t)

end Double

end Dataset.Number
