/-!
# Blank characters and trimming

* `isBlank` is Unicode's property White_Space: 25 characters;
* `trim` removes blank characters from both ends of a text, and nothing in between;
* `isBlankText` holds of a text that is empty after trimming;
* `sameIgnoringCase` compares two names up to the case of ASCII letters, all others exactly.
-/

namespace Dataset.Text

/-! ## 1. White space -/

/-- The ranges of Unicode's property White_Space. -/
def blankRanges : List (Nat × Nat) :=
  [(0x09, 0x0D), (0x20, 0x20), (0x85, 0x85), (0xA0, 0xA0), (0x1680, 0x1680), (0x2000, 0x200A),
   (0x2028, 0x2029), (0x202F, 0x202F), (0x205F, 0x205F), (0x3000, 0x3000)]

/-- A code point lies in one of the ranges. -/
def inRanges (ranges : List (Nat × Nat)) (n : Nat) : Bool :=
  ranges.any fun r => r.1 ≤ n && n ≤ r.2

/-- White space as Unicode defines it. -/
def isBlank (c : Char) : Bool := inRanges blankRanges c.toNat

/-! ## 2. Trimming -/

/-- The characters from the first one that is not blank on. -/
def trimStart (s : List Char) : List Char := s.dropWhile isBlank

/-- The characters up to the last one that is not blank. -/
def trimEnd (s : List Char) : List Char := (s.reverse.dropWhile isBlank).reverse

/-- The characters without the blank ones at both ends. -/
def trimChars (s : List Char) : List Char := trimEnd (trimStart s)

/-- The text without the blank characters at both ends. -/
def trim (s : String) : String := String.ofList (trimChars s.toList)

/-- Nothing but blank characters. -/
def isBlankText (s : String) : Bool := s.toList.all isBlank

@[simp] theorem toList_trim (s : String) : (trim s).toList = trimChars s.toList := by
  simp [trim]

/-! ## 3. Names up to case -/

/-- Equal up to the case of ASCII letters. -/
def sameIgnoringCase (a b : String) : Bool :=
  a.toList.map Char.toLower == b.toList.map Char.toLower

/-- The first text occurs in the second, its characters side by side. -/
def occursIn (needle : List Char) : List Char → Bool
  | [] => needle.isEmpty
  | c :: s => needle.isPrefixOf (c :: s) || occursIn needle s

/-- The text up to the first occurrence of `c`, and, if there is one, the text behind it. -/
def splitAtFirst (c : Char) (s : List Char) : List Char × Option (List Char) :=
  match s with
  | [] => ([], none)
  | x :: rest =>
    if x = c then ([], some rest)
    else let r := splitAtFirst c rest; (x :: r.1, r.2)

/-- The pieces of a text between the occurrences of `c`; one piece more than occurrences. -/
def pieces (c : Char) : List Char → List (List Char)
  | [] => [[]]
  | x :: rest =>
    if x = c then [] :: pieces c rest
    else match pieces c rest with
      | [] => [[x]]
      | p :: ps => (x :: p) :: ps

/-- Texts with a separator between neighbours. -/
def joinWith (sep : String) (parts : List String) : String := String.intercalate sep parts

/-! ## 4. Numbers written in ASCII digits -/

/-- One of the ten ASCII digits. -/
def isDigit (c : Char) : Bool := '0' ≤ c && c ≤ '9'

/-- The value of a digit. -/
def digitValue (c : Char) : Nat := c.toNat - 48

/-- The number that a row of digits writes in base ten. -/
def decimalValue (s : List Char) : Nat := s.foldl (fun n c => 10 * n + digitValue c) 0

/-- A natural number without a sign, from nothing but digits, of which there is at least one. -/
def digits? (s : List Char) : Option Nat :=
  if s.isEmpty then none else if s.all isDigit then some (decimalValue s) else none

/-- A natural number up to `max`; one plus sign may stand before its digits. -/
def natural? (max : Nat) (s : List Char) : Option Nat :=
  let n := match s with
    | '+' :: rest => digits? rest
    | _ => digits? s
  n.filter (· ≤ max)

/-- An integer between `-max - 1` and `max`; one sign may stand before its digits. -/
def integer? (max : Nat) (s : List Char) : Option Int :=
  match s with
  | '+' :: rest => ((digits? rest).filter (· ≤ max)).map Int.ofNat
  | '-' :: rest => ((digits? rest).filter (· ≤ max + 1)).map fun n => -(Int.ofNat n)
  | _ => ((digits? s).filter (· ≤ max)).map Int.ofNat

/-- A natural number in base ten. -/
def ofNat (n : Nat) : String := String.ofList (Nat.toDigits 10 n)

/-- An integer in base ten, with a minus sign if it is negative. -/
def ofInt : Int → String
  | .ofNat n => ofNat n
  | .negSucc n => "-" ++ ofNat (n + 1)

/-- A natural number in base ten, filled up with zeros on the left to `width` digits. -/
def padded (width n : Nat) : String :=
  let s := Nat.toDigits 10 n
  String.ofList (List.replicate (width - s.length) '0' ++ s)

end Dataset.Text
