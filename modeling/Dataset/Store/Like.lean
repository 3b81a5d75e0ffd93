import Dataset.Store.Cell

/-!
# Patterns

A pattern is matched against the text of a cell: a percent sign stands for any text, an underscore
for one character, everything else for itself, up to the case of ASCII letters.

* `matchCodes` matches code points; it computes for every suffix of the text whether the pattern
  matches it, from the last item of the pattern to the first;
* `Cell.codes?` is the text of a cell as code points. A text ends at a NUL character, and a blob is
  read as UTF-8 without checks.
-/

namespace Dataset.Store

/-! ## 1. Matching -/

/-- An item of a pattern. -/
inductive PatternItem where
  | any
  | one
  | code (n : Nat)
  deriving DecidableEq, Repr

/-- The item that a code point stands for. -/
def PatternItem.ofCode (n : Nat) : PatternItem :=
  if n = '%'.toNat then .any else if n = '_'.toNat then .one else .code n

/-- A code point with an ASCII capital letter made small. -/
def foldCase (n : Nat) : Nat := if 0x41 ≤ n && n ≤ 0x5A then n + 0x20 else n

/-- Equal up to the case of ASCII letters. -/
def sameCode (a b : Nat) : Bool := foldCase a == foldCase b

/-- For each suffix, longest first, whether one at least as short holds. -/
def someSuffix : List Bool → List Bool
  | [] => []
  | b :: rest =>
    let r := someSuffix rest
    (b || r.headD false) :: r

/-- For each suffix, longest first, whether it starts with a code point that passes the test and
    the suffix behind it holds. -/
def afterOne (test : Nat → Bool) : List Nat → List Bool → List Bool
  | [], _ => [false]
  | c :: s, row => (test c && row.tail.headD false) :: afterOne test s row.tail

/-- For each suffix of the text, longest first, whether the pattern matches it. -/
def matchRow : List PatternItem → List Nat → List Bool
  | [], s => s.map (fun _ => false) ++ [true]
  | .any :: p, s => someSuffix (matchRow p s)
  | .one :: p, s => afterOne (fun _ => true) s (matchRow p s)
  | .code n :: p, s => afterOne (sameCode n) s (matchRow p s)

/-- The pattern matches the whole text. -/
def matchItems (p : List PatternItem) (s : List Nat) : Bool := (matchRow p s).headD false

/-- A pattern given as code points matches a text given as code points. -/
def matchCodes (pattern text : List Nat) : Bool :=
  matchItems (pattern.map PatternItem.ofCode) text

/-! ## 2. Code points -/

/-- The code point that is put for what cannot be shown. -/
def replacement : Nat := 0xFFFD

/-- A code point that no character has is replaced. -/
def readCode (n : Nat) : Nat := if n = 0xFFFE || n = 0xFFFF then replacement else n

/-- The code points of a text up to its first NUL character. -/
def textCodes (s : String) : List Nat :=
  (s.toList.takeWhile (· != '\x00')).map fun c => readCode c.toNat

/-- What a first byte of several adds to the code point. -/
def leadBits (b : Nat) : Nat :=
  if b < 0xE0 then b % 0x20
  else if b < 0xF0 then b % 0x10
  else if b < 0xF8 then b % 0x08
  else if b < 0xFC then b % 0x04
  else if b = 0xFD then 1
  else 0

/-- A byte that goes on a sequence. -/
def continues (b : UInt8) : Bool := b.toNat / 0x40 == 2

/-- The code point of a first byte and the bytes that go it on, in 32 bits. -/
def sequenceCode (lead : Nat) (more : List UInt8) : Nat :=
  let n := more.foldl (fun n b => (n * 0x40 + b.toNat % 0x40) % Nat.pow 2 32) (leadBits lead)
  if n < 0x80 || n / 0x800 = 0xD800 / 0x800 then replacement else readCode n

/-- The code points of bytes: a byte from 0xC0 on takes all continuing bytes behind it, every other
    byte stands for itself. -/
def bytesCodesFrom (inside : Bool) : List UInt8 → List Nat
  | [] => []
  | b :: rest =>
    if inside && continues b then bytesCodesFrom true rest
    else if 0xC0 ≤ b.toNat then
      sequenceCode b.toNat (rest.takeWhile continues) :: bytesCodesFrom true rest
    else b.toNat :: bytesCodesFrom false rest

/-- The code points of bytes up to the first NUL. -/
def bytesCodes (bytes : List UInt8) : List Nat := bytesCodesFrom false (bytes.takeWhile (· != 0))

/-- The text of a cell, in which patterns are looked for. -/
def Cell.codes? : Cell → Option (List Nat)
  | .null => none
  | .int n => some (textCodes (Text.ofInt n))
  | .real r => some (textCodes (Number.storeText r))
  | .text s => some (textCodes s)
  | .blob bytes => some (bytesCodes bytes)

/-- The most bytes that a pattern may take. -/
def maxPatternBytes : Nat := 50000

/-- The cell matches the pattern; no value matches none. Nothing if the pattern is too long, whatever
    the cell. -/
def Cell.like? (c : Cell) (pattern : String) : Option Bool :=
  if maxPatternBytes < pattern.utf8ByteSize then none
  else
    match c.codes? with
    | none => some false
    | some codes => some (matchCodes (textCodes pattern) codes)

end Dataset.Store
