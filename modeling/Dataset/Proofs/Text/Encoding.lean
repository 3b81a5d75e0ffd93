import Dataset.Text.Utf8
import Mathlib.Tactic.SplitIfs

/-!
# Reading what was encoded

The bytes of a text are read as the characters of the text, whatever stands behind them.

* `lead?_two`, `lead?_three`, `lead?_four`: the first byte of a character says how many follow, and
  leaves room for the second one;
* `piece_utf8EncodeChar`: the bytes of a character are one piece;
* **`decode?_encode`**: the bytes of a text are read as the text;
* `utf8ByteSize_of_ascii`, `length_le_utf8ByteSize`, `utf8ByteSize_le`: how many bytes a text has.
-/

namespace Dataset.Text

namespace Utf8

/-! ## 1. First bytes -/

theorem lead?_one {v : Nat} (short : v ≤ 127) : lead? v = some ⟨0, 0, 0, v⟩ := by
  rw [lead?, if_pos (by omega)]

theorem lead?_two {v : Nat} (long : 127 < v) (short : v ≤ 2047) :
    lead? (v / 64 % 32 + 192) = some ⟨1, 0x80, 0xBF, v / 64⟩ := by
  have bits : v / 64 % 32 + 192 - 192 = v / 64 := by omega
  rw [lead?, if_neg (by omega), if_neg (by omega), if_pos (by omega), bits]

/-- The second of three bytes lies where the first wants it: the character is neither shorter nor a
    surrogate. -/
theorem lead?_three {v : Nat} (long : 2047 < v) (short : v ≤ 65535)
    (valid : v < 0xD800 ∨ 0xDFFF < v) :
    ∃ low high, lead? (v / 4096 % 16 + 224) = some ⟨2, low, high, v / 4096⟩ ∧
      low ≤ v / 64 % 64 + 128 ∧ v / 64 % 64 + 128 ≤ high := by
  have bits : v / 4096 % 16 + 224 - 224 = v / 4096 := by omega
  unfold lead?
  rw [if_neg (by omega), if_neg (by omega), if_neg (by omega)]
  split_ifs with first surrogate
  · have zero : v / 4096 = 0 := by omega
    exact ⟨0xA0, 0xBF, by rw [zero], by omega, by omega⟩
  · have thirteen : v / 4096 = 0xD := by omega
    exact ⟨0x80, 0x9F, by rw [thirteen], by omega, by omega⟩
  · exact ⟨0x80, 0xBF, by rw [bits], by omega, by omega⟩
  all_goals omega

/-- The second of four bytes lies where the first wants it: the character is neither shorter nor
    above U+10FFFF. -/
theorem lead?_four {v : Nat} (long : 65535 < v) (valid : v ≤ 0x10FFFF) :
    ∃ low high, lead? (v / 262144 % 8 + 240) = some ⟨3, low, high, v / 262144⟩ ∧
      low ≤ v / 4096 % 64 + 128 ∧ v / 4096 % 64 + 128 ≤ high := by
  have bits : v / 262144 % 8 + 240 - 240 = v / 262144 := by omega
  unfold lead?
  rw [if_neg (by omega), if_neg (by omega), if_neg (by omega), if_neg (by omega),
    if_neg (by omega), if_neg (by omega)]
  split_ifs with first middle last
  · have zero : v / 262144 = 0 := by omega
    exact ⟨0x90, 0xBF, by rw [zero], by omega, by omega⟩
  · exact ⟨0x80, 0xBF, by rw [bits], by omega, by omega⟩
  · have four : v / 262144 = 4 := by omega
    exact ⟨0x80, 0x8F, by rw [four], by omega, by omega⟩
  · omega

/-! ## 2. Characters -/

/-- A further byte that lies where it should is taken. -/
theorem follow_succ {k low high n x : Nat} (inside : low ≤ x ∧ x ≤ high) (small : x < 256)
    (rest : List UInt8) :
    follow (k + 1) low high n (UInt8.ofNat x :: rest) =
      ((follow k 0x80 0xBF (n * 64 + x % 64) rest).1,
        (follow k 0x80 0xBF (n * 64 + x % 64) rest).2 + 1) := by
  have value : (UInt8.ofNat x).toNat = x := by
    rw [UInt8.toNat_ofNat']
    exact Nat.mod_eq_of_lt small
  rw [follow, value, if_pos (by simpa using inside)]

theorem follow_zero (low high : Nat) (c : Char) (bytes : List UInt8) :
    follow 0 low high c.toNat bytes = (.char c, 0) := by
  rw [follow, Char.ofNat_toNat]

theorem piece_of_lead? {x : Nat} (small : x < 256) {l : Lead} (lead : lead? x = some l)
    (rest : List UInt8) :
    piece (UInt8.ofNat x) rest = follow l.following l.low l.high l.bits rest := by
  have value : (UInt8.ofNat x).toNat = x := by
    rw [UInt8.toNat_ofNat']
    exact Nat.mod_eq_of_lt small
  rw [piece, value, lead]

/-- **The bytes of a character are one piece.** -/
theorem piece_utf8EncodeChar (c : Char) (rest : List UInt8) :
    ∃ b tail, String.utf8EncodeChar c = b :: tail ∧
      piece b (tail ++ rest) = (.char c, tail.length) := by
  have valid : c.toNat < 0xD800 ∨ 0xDFFF < c.toNat ∧ c.toNat < 0x110000 := c.valid
  have code : c.val.toNat = c.toNat := rfl
  unfold String.utf8EncodeChar
  simp only [code]
  split_ifs with one two three
  · refine ⟨_, _, rfl, ?_⟩
    rw [piece_of_lead? (by omega) (lead?_one one)]
    exact follow_zero 0 0 c rest
  · refine ⟨_, _, rfl, ?_⟩
    have inside : 0x80 ≤ c.toNat % 64 + 128 ∧ c.toNat % 64 + 128 ≤ 0xBF := by omega
    have whole : c.toNat / 64 * 64 + (c.toNat % 64 + 128) % 64 = c.toNat := by omega
    rw [piece_of_lead? (by omega) (lead?_two (by omega) two), List.cons_append,
      follow_succ inside (by omega), whole, follow_zero]
    rfl
  · -- the first of the further bytes has bounds of its own, the others have the common ones
    refine ⟨_, _, rfl, ?_⟩
    obtain ⟨low, high, lead, inside⟩ := lead?_three (v := c.toNat) (by omega) three (by omega)
    have whole : (c.toNat / 4096 * 64 + (c.toNat / 64 % 64 + 128) % 64) * 64 +
        (c.toNat % 64 + 128) % 64 = c.toNat := by omega
    rw [piece_of_lead? (by omega) lead, List.cons_append, follow_succ inside (by omega),
      List.cons_append, follow_succ (by omega) (by omega), whole, follow_zero]
    rfl
  · refine ⟨_, _, rfl, ?_⟩
    obtain ⟨low, high, lead, inside⟩ := lead?_four (v := c.toNat) (by omega) (by omega)
    have whole : ((c.toNat / 262144 * 64 + (c.toNat / 4096 % 64 + 128) % 64) * 64 +
        (c.toNat / 64 % 64 + 128) % 64) * 64 + (c.toNat % 64 + 128) % 64 = c.toNat := by omega
    rw [piece_of_lead? (by omega) lead, List.cons_append, follow_succ inside (by omega),
      List.cons_append, follow_succ (by omega) (by omega), List.cons_append,
      follow_succ (by omega) (by omega), whole, follow_zero]
    rfl

/-! ## 3. Texts -/

/-- The bytes that belong to a piece already read are passed over. -/
theorem piecesFrom_length (tail rest : List UInt8) :
    piecesFrom tail.length (tail ++ rest) = pieces rest := by
  induction tail with
  | nil => rfl
  | cons b tail ih => rw [List.length_cons, List.cons_append, piecesFrom, ih]

theorem pieces_encode (s : List Char) : pieces (encode s) = s.map Piece.char := by
  induction s with
  | nil => rfl
  | cons c s ih =>
    obtain ⟨b, tail, bytes, first⟩ := piece_utf8EncodeChar c (encode s)
    have split : encode (c :: s) = b :: (tail ++ encode s) := by
      rw [encode, List.flatMap_cons, bytes, List.cons_append, encode]
    rw [split, pieces, piecesFrom, first, List.map_cons, ← ih]
    exact congrArg (Piece.char c :: ·) (piecesFrom_length tail (encode s))

/-- **The bytes of a text are read as the text.** -/
theorem decode?_encode (s : List Char) : decode? (encode s) = some s := by
  rw [decode?, pieces_encode]
  induction s with
  | nil => rfl
  | cons c s ih => rw [List.map_cons, List.mapM_cons, ih]; rfl

/-- Only of no bytes nothing is read. -/
theorem decode?_eq_some_nil_iff {bytes : List UInt8} : decode? bytes = some [] ↔ bytes = [] := by
  constructor
  · intro nothing
    cases bytes with
    | nil => rfl
    | cons b rest =>
      rw [decode?, pieces, piecesFrom, List.mapM_cons] at nothing
      obtain ⟨c, -, shown⟩ := Option.bind_eq_some_iff.1 nothing
      obtain ⟨cs, -, other⟩ := Option.bind_eq_some_iff.1 shown
      cases other
  · rintro rfl
    rfl

/-- No character of a text is replaced when its bytes are read. -/
theorem decodeLossy_encode (s : List Char) : decodeLossy (encode s) = s := by
  rw [decodeLossy, pieces_encode, List.map_map]
  exact List.map_id s

end Utf8

/-! ## 4. Sizes -/

/-- A text of characters that take one byte each has as many bytes as characters. -/
theorem utf8ByteSize_of_ascii {s : List Char} (ascii : ∀ c ∈ s, c.utf8Size = 1) :
    (String.ofList s).utf8ByteSize = s.length := by
  induction s with
  | nil => rfl
  | cons c s ih =>
    have ⟨first, rest⟩ := List.forall_mem_cons.1 ascii
    rw [String.ofList_cons, String.utf8ByteSize_append, String.utf8ByteSize_singleton, first, ih rest,
      List.length_cons, Nat.add_comm]

/-- `c` repeated takes its bytes `n` times. -/
theorem utf8ByteSize_replicate (n : Nat) (c : Char) :
    (String.ofList (List.replicate n c)).utf8ByteSize = n * c.utf8Size := by
  induction n with
  | zero => rw [Nat.zero_mul]; rfl
  | succ n ih =>
    rw [List.replicate_succ, String.ofList_cons, String.utf8ByteSize_append, String.utf8ByteSize_singleton,
      ih, Nat.succ_mul, Nat.add_comm]

/-- No text has more characters than bytes. -/
theorem length_le_utf8ByteSize (s : String) : s.toList.length ≤ s.utf8ByteSize := by
  have chars (l : List Char) : l.length ≤ (String.ofList l).utf8ByteSize := by
    induction l with
    | nil => exact Nat.zero_le _
    | cons c l ih =>
      have one := c.utf8Size_pos
      rw [String.ofList_cons, String.utf8ByteSize_append, String.utf8ByteSize_singleton,
        List.length_cons]
      omega
  simpa using chars s.toList

/-- No character takes more than four bytes. -/
theorem utf8ByteSize_le (s : String) : s.utf8ByteSize ≤ 4 * s.toList.length := by
  have chars (l : List Char) : (String.ofList l).utf8ByteSize ≤ 4 * l.length := by
    induction l with
    | nil => exact Nat.le_refl 0
    | cons c l ih =>
      have one := c.utf8Size_le_four
      rw [String.ofList_cons, String.utf8ByteSize_append, String.utf8ByteSize_singleton,
        List.length_cons]
      omega
  simpa using chars s.toList

end Dataset.Text
