import Dataset.Json.Reader

/-!
# Addresses to listen on

The host of a server is written as an address, not as a name: four decimal numbers with points
between them, or eight groups of hexadecimal digits with colons between them, where one row of zero
groups may be left out and the last two groups may be written as four decimal numbers.
-/

namespace Dataset.Http.Address

/-- A number up to 255 at the front of a text, without zeros before it, and the rest. -/
def readByte? (s : List Char) : Option (Nat × List Char) :=
  let ds := (s.take 3).takeWhile Text.isDigit
  let n := Text.decimalValue ds
  if ds.isEmpty || 255 < n || (ds.head? = some '0' && ds.length ≠ 1) then none
  else if (s.drop ds.length).head?.any Text.isDigit then none
  else some (n, s.drop ds.length)

/-- What follows a character. -/
def after? (c : Char) : List Char → Option (List Char)
  | x :: rest => if x = c then some rest else none
  | [] => none

/-- What follows four numbers with points between them. -/
def afterFour? (s : List Char) : Option (List Char) := do
  let (_, s) ← readByte? s
  let (_, s) ← readByte? (← after? '.' s)
  let (_, s) ← readByte? (← after? '.' s)
  let (_, s) ← readByte? (← after? '.' s)
  some s

/-- What follows a group of one to four hexadecimal digits. -/
def afterGroup? (s : List Char) : Option (List Char) :=
  let isHex := fun c => (Json.hexValue? c).isSome
  let ds := (s.take 4).takeWhile isHex
  if ds.isEmpty || (s.drop ds.length).head?.any isHex then none else some (s.drop ds.length)

/-- What follows the colon before every group but the first. -/
def afterColon? (index : Nat) (s : List Char) : Option (List Char) :=
  if index = 0 then some s else after? ':' s

/-- Reads up to `limit` more groups behind `index` others: how many there are then, whether the last
    two were written as decimal numbers, and the rest. -/
def readGroups (index : Nat) (s : List Char) : Nat → Nat × Bool × List Char
  | 0 => (index, false, s)
  | limit + 1 =>
    match (afterColon? index s).bind afterFour? with
    | some rest =>
      if limit = 0 then afterOne index s limit else (index + 2, true, rest)
    | none => afterOne index s limit
where
  /-- One group, and those behind it. -/
  afterOne (index : Nat) (s : List Char) (limit : Nat) : Nat × Bool × List Char :=
    match (afterColon? index s).bind afterGroup? with
    | some rest => readGroups (index + 1) rest limit
    | none => (index, false, s)

/-- How many groups an address has. -/
def groupCount : Nat := 8

/-- An address of groups, from end to end. -/
def isGroups (s : List Char) : Bool :=
  let (count, decimal, rest) := readGroups 0 s groupCount
  if count = groupCount then rest.isEmpty
  else if decimal then false
  else
    match rest with
    | ':' :: ':' :: rest => (readGroups 0 rest (groupCount - (count + 1))).2.2.isEmpty
    | _ => false

/-- An address of either form. -/
def isAddress (host : String) : Bool :=
  afterFour? host.toList == some [] || isGroups host.toList

end Dataset.Http.Address
