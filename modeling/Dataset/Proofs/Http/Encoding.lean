import Dataset.Http.Uri
import Dataset.Proofs.Text.Encoding
import Dataset.Proofs.Text.Splitting

/-!
# Texts in request targets

A text that is written with percent signs holds none of the characters that take a target apart, and it
is read back as it was, whatever characters it has.

* `isUnreserved_hexDigit`, `hexValue?_hexDigit`: the digits of a byte;
* `mem_percentEncode`: what a written text is made of;
* **`percentDecode_percentEncode`**: the bytes of a written text are those of the text;
* **`formText_percentEncode`**: as a part of a query it is read as the text.
-/

namespace Dataset.Http

open Text (Utf8.encode)

/-! ## 1. Bytes -/

theorem isUnreserved_hexDigit : ∀ n < 16, isUnreserved (hexDigit n) = true := by decide

theorem hexValue?_hexDigit : ∀ n < 16, Json.hexValue? (hexDigit n) = some n := by decide

/-- A byte is the number that its two digits write. -/
theorem hexByte?_hexDigit (b : UInt8) :
    hexByte? (hexDigit (b.toNat / 16)) (hexDigit (b.toNat % 16)) = some b := by
  have small : b.toNat < 256 := b.toNat_lt
  have whole : 16 * (b.toNat / 16) + b.toNat % 16 = b.toNat := by omega
  rw [hexByte?, hexValue?_hexDigit _ (by omega), hexValue?_hexDigit _ (by omega)]
  show some (UInt8.ofNat (16 * (b.toNat / 16) + b.toNat % 16)) = some b
  rw [whole, UInt8.ofNat_toNat]

/-- What stands for itself is a character of one byte. -/
theorem utf8EncodeChar_of_isUnreserved : ∀ n < 256, isUnreserved (Char.ofNat n) = true →
    String.utf8EncodeChar (Char.ofNat n) = [UInt8.ofNat n] := by decide +kernel

theorem ne_percent_of_isUnreserved {c : Char} (plain : isUnreserved c = true) : c ≠ '%' := by
  rintro rfl
  cases plain

/-- The character of a byte that stands for itself takes that byte. -/
theorem encode_singleton {b : UInt8} (plain : isUnreserved (Char.ofNat b.toNat) = true) :
    Utf8.encode [Char.ofNat b.toNat] = [b] := by
  have one := utf8EncodeChar_of_isUnreserved b.toNat b.toNat_lt plain
  rw [Utf8.encode, List.flatMap_singleton, one, UInt8.ofNat_toNat]

/-! ## 2. What is written -/

/-- A character of a written text stands for itself or is a percent sign. -/
theorem mem_encodeByte {b : UInt8} {c : Char} (h : c ∈ encodeByte b) :
    isUnreserved c = true ∨ c = '%' := by
  have small : b.toNat < 256 := b.toNat_lt
  unfold encodeByte at h
  simp only at h
  split at h
  case isTrue plain =>
    obtain rfl := List.mem_singleton.1 h
    exact .inl plain
  case isFalse =>
    simp only [List.mem_cons, List.not_mem_nil, or_false] at h
    rcases h with rfl | rfl | rfl
    · exact .inr rfl
    · exact .inl (isUnreserved_hexDigit _ (by omega))
    · exact .inl (isUnreserved_hexDigit _ (by omega))

theorem mem_percentEncode {s : String} {c : Char} (h : c ∈ (percentEncode s).toList) :
    isUnreserved c = true ∨ c = '%' := by
  rw [percentEncode, String.toList_ofList, List.mem_flatMap] at h
  obtain ⟨b, -, among⟩ := h
  exact mem_encodeByte among

/-- A character that takes targets apart is in no written text. -/
theorem notMem_percentEncode (s : String) {c : Char} (special : isUnreserved c = false)
    (other : c ≠ '%') : c ∉ (percentEncode s).toList := by
  intro h
  rcases mem_percentEncode h with plain | same
  · rw [special] at plain
    cases plain
  · exact other same

theorem encodeByte_ne_nil (b : UInt8) : encodeByte b ≠ [] := by
  unfold encodeByte
  simp only
  split <;> simp

theorem encode_ne_nil {s : List Char} (inhabited : s ≠ []) : Utf8.encode s ≠ [] := by
  obtain ⟨c, rest, rfl⟩ := List.exists_cons_of_ne_nil inhabited
  rw [Utf8.encode, List.flatMap_cons]
  exact List.append_ne_nil_of_left_ne_nil String.utf8EncodeChar_ne_nil _

/-- A text that is not empty is not written as nothing. -/
theorem percentEncode_ne_nil {s : String} (inhabited : s ≠ "") : (percentEncode s).toList ≠ [] := by
  obtain ⟨b, rest, bytes⟩ := List.exists_cons_of_ne_nil
    (encode_ne_nil (mt String.toList_eq_nil_iff.1 inhabited))
  rw [percentEncode, String.toList_ofList, bytes, List.flatMap_cons]
  exact List.append_ne_nil_of_left_ne_nil (encodeByte_ne_nil b) _

/-! ## 3. What is read -/

/-- A character other than a percent sign is read by itself. -/
theorem percentDecode_cons {c : Char} (other : c ≠ '%') (rest : List Char) :
    percentDecode (c :: rest) = Utf8.encode [c] ++ percentDecode rest := by
  rw [percentDecode]
  rintro a b tail rfl
  exact absurd rfl other

/-- Only nothing stands for no bytes. -/
theorem percentDecode_eq_nil_iff {s : List Char} : percentDecode s = [] ↔ s = [] := by
  have bytes (c : Char) : Utf8.encode [c] ≠ [] := encode_ne_nil (List.cons_ne_nil c [])
  constructor
  · intro nothing
    fun_induction percentDecode s with
    | case1 a b rest x read => cases nothing
    | case2 a b rest unread => exact absurd (List.append_eq_nil_iff.1 nothing).1 (bytes '%')
    | case3 c rest whole => exact absurd (List.append_eq_nil_iff.1 nothing).1 (bytes c)
    | case4 => rfl
  · rintro rfl
    rfl

theorem percentDecode_encodeByte (b : UInt8) (rest : List Char) :
    percentDecode (encodeByte b ++ rest) = b :: percentDecode rest := by
  unfold encodeByte
  simp only
  split
  case isTrue plain =>
    rw [List.singleton_append, percentDecode_cons (ne_percent_of_isUnreserved plain),
      encode_singleton plain, List.singleton_append]
  case isFalse =>
    rw [List.cons_append, List.cons_append, List.cons_append, List.nil_append, percentDecode,
      hexByte?_hexDigit]

theorem percentDecode_flatMap (bytes : List UInt8) : percentDecode (bytes.flatMap encodeByte) = bytes := by
  induction bytes with
  | nil => rfl
  | cons b bytes ih => rw [List.flatMap_cons, percentDecode_encodeByte, ih]

/-- **The bytes that a written text stands for are those of the text.** -/
theorem percentDecode_percentEncode (s : String) :
    percentDecode (percentEncode s).toList = Utf8.encode s.toList := by
  rw [percentEncode, String.toList_ofList, percentDecode_flatMap]

/-- **A written text is read as the text in a query.** -/
theorem formText_percentEncode (s : String) : formText (percentEncode s).toList = s := by
  have noPlus : '+' ∉ (percentEncode s).toList := notMem_percentEncode s (by decide) (by decide)
  have unchanged : ((percentEncode s).toList.map fun c => if c = '+' then ' ' else c) =
      (percentEncode s).toList := by
    refine Eq.trans (List.map_congr_left fun c h => if_neg ?_) (List.map_id _)
    rintro rfl
    exact noPlus h
  rw [formText, unchanged, percentDecode_percentEncode, Text.Utf8.decodeLossy_encode,
    String.ofList_toList]

end Dataset.Http
