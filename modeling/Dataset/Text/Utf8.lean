/-!
# UTF-8

Bytes are read as UTF-8 one sequence at a time. Where no character can be read, the longest
beginning of one that is there counts as a single broken piece, as the Unicode standard recommends.

* `pieces` is the reading itself: characters and broken pieces in order;
* `decode?` reads bytes that hold characters only, `decodeLossy` puts U+FFFD for a broken piece;
* `validLength` counts the bytes before the first broken piece.
-/

namespace Dataset.Text.Utf8

/-- What one step of reading finds. -/
inductive Piece where
  | char (c : Char)
  | broken
  deriving DecidableEq, Repr

/-- How a first byte goes on: how many bytes follow it, where the first of them must lie, and
    what the first byte adds to the code point. -/
structure Lead where
  following : Nat
  low : Nat
  high : Nat
  bits : Nat

/-- The sequences that a byte can begin. Overlong forms, surrogates and code points above
    U+10FFFF are shut out by where the second byte may lie. -/
def lead? (b : Nat) : Option Lead :=
  if b < 0x80 then some ⟨0, 0, 0, b⟩
  else if b < 0xC2 then none
  else if b < 0xE0 then some ⟨1, 0x80, 0xBF, b - 0xC0⟩
  else if b = 0xE0 then some ⟨2, 0xA0, 0xBF, 0⟩
  else if b = 0xED then some ⟨2, 0x80, 0x9F, 0xD⟩
  else if b < 0xF0 then some ⟨2, 0x80, 0xBF, b - 0xE0⟩
  else if b = 0xF0 then some ⟨3, 0x90, 0xBF, 0⟩
  else if b < 0xF4 then some ⟨3, 0x80, 0xBF, b - 0xF0⟩
  else if b = 0xF4 then some ⟨3, 0x80, 0x8F, 4⟩
  else none

/-- Reads `following` further bytes into the code point `n`. The answer says how many were taken,
    and the character if all were there. -/
def follow (following low high n : Nat) (bytes : List UInt8) : Piece × Nat :=
  match following, bytes with
  | 0, _ => (.char (Char.ofNat n), 0)
  | _ + 1, [] => (.broken, 0)
  | k + 1, b :: rest =>
    if low ≤ b.toNat && b.toNat ≤ high then
      let r := follow k 0x80 0xBF (n * 64 + b.toNat % 64) rest
      (r.1, r.2 + 1)
    else (.broken, 0)

/-- The first piece, and how many bytes behind the first one belong to it. -/
def piece (b : UInt8) (rest : List UInt8) : Piece × Nat :=
  match lead? b.toNat with
  | none => (.broken, 0)
  | some l => follow l.following l.low l.high l.bits rest

/-- The pieces behind the first `skip` bytes, which belong to a piece already read. -/
def piecesFrom (skip : Nat) : List UInt8 → List Piece
  | [] => []
  | b :: rest =>
    match skip with
    | k + 1 => piecesFrom k rest
    | 0 =>
      let r := piece b rest
      r.1 :: piecesFrom r.2 rest

/-- Bytes as characters and broken pieces. -/
def pieces (bytes : List UInt8) : List Piece := piecesFrom 0 bytes

/-- The characters, if no piece is broken. -/
def decode? (bytes : List UInt8) : Option (List Char) :=
  (pieces bytes).mapM fun
    | .char c => some c
    | .broken => none

/-- The characters, with U+FFFD for each broken piece. -/
def decodeLossy (bytes : List UInt8) : List Char :=
  (pieces bytes).map fun
    | .char c => c
    | .broken => Char.ofNat 0xFFFD

/-- How many bytes stand before the first broken piece. -/
def validLength (bytes : List UInt8) : Nat :=
  ((pieces bytes).takeWhile (· != .broken)).foldl
    (fun n p => match p with
      | .char c => n + c.utf8Size
      | .broken => n) 0

/-- The bytes of a row of characters. -/
def encode (s : List Char) : List UInt8 := s.flatMap String.utf8EncodeChar

end Dataset.Text.Utf8
