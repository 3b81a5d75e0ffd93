import Dataset.Proofs.Number.Integer
import Dataset.Proofs.Store.Pattern
import Dataset.Store.Query

/-!
# Texts as patterns see them

Characters of a pattern that are no wildcards stand for themselves, up to the case of ASCII letters and
to two code points that stand for no character.

* `folded`: a text as patterns see it, with capital letters made small;
* `matches_codes_any`, `matches_any_codes`, `matches_any_codes_any`: what is asked by code points before
  a percent sign, behind one and between two;
* `Literal`: a text that a pattern can hold as it is;
* **`Cell.not_like_of_startsApart`**: no integer has the start of a pattern that is not the start of an
  integer.
-/

namespace Dataset

namespace Store

/-! ## 1. Code points in a pattern -/

/-- Code points stand for themselves, up to case, in front of what else a pattern asks. -/
theorem matches_codes_append (ns : List Nat) (p : List PatternItem) (s : List Nat) :
    Matches (ns.map .code ++ p) s ↔
      ∃ u w, s = u ++ w ∧ u.map foldCase = ns.map foldCase ∧ Matches p w := by
  induction ns generalizing s with
  | nil => simp
  | cons n ns ih =>
    constructor
    · intro h
      obtain ⟨c, v, rfl, same, hv⟩ := h
      obtain ⟨u, w, rfl, alike, hw⟩ := (ih v).1 hv
      exact ⟨c :: u, w, rfl, by rw [List.map_cons, List.map_cons, same, alike], hw⟩
    · intro h
      obtain ⟨u, w, rfl, alike, hw⟩ := h
      cases u with
      | nil => cases alike
      | cons c u =>
        obtain ⟨same, alike⟩ := List.cons.inj alike
        exact ⟨c, u ++ w, rfl, same, (ih _).2 ⟨u, w, rfl, alike, hw⟩⟩

theorem matches_any (s : List Nat) : Matches [.any] s := ⟨s, [], by simp, rfl⟩

/-- Before a percent sign they are looked for at the beginning. -/
theorem matches_codes_any (ns s : List Nat) :
    Matches (ns.map .code ++ [.any]) s ↔ ns.map foldCase <+: s.map foldCase := by
  rw [matches_codes_append, List.prefix_map_iff]
  constructor
  · intro h
    obtain ⟨u, w, rfl, alike, -⟩ := h
    exact ⟨u, List.prefix_append u w, alike.symm⟩
  · intro h
    obtain ⟨u, ⟨w, rfl⟩, alike⟩ := h
    exact ⟨u, w, rfl, alike.symm, matches_any w⟩

/-- Behind one at the end. -/
theorem matches_any_codes (ns s : List Nat) :
    Matches (.any :: ns.map .code) s ↔ ns.map foldCase <:+ s.map foldCase := by
  have codes (w : List Nat) : Matches (ns.map .code) w ↔ w.map foldCase = ns.map foldCase := by
    have h := matches_codes_append ns [] w
    simpa [Matches] using h
  rw [List.suffix_map_iff]
  constructor
  · intro h
    obtain ⟨u, w, rfl, hw⟩ := h
    exact ⟨w, List.suffix_append u w, ((codes w).1 hw).symm⟩
  · intro h
    obtain ⟨w, ⟨u, rfl⟩, alike⟩ := h
    exact ⟨u, w, rfl, (codes w).2 alike.symm⟩

/-- Between two anywhere. -/
theorem matches_any_codes_any (ns s : List Nat) :
    Matches (.any :: (ns.map .code ++ [.any])) s ↔ ns.map foldCase <:+: s.map foldCase := by
  rw [List.infix_map_iff]
  constructor
  · intro h
    obtain ⟨u, w, rfl, hw⟩ := h
    obtain ⟨m, v, rfl, alike, -⟩ := (matches_codes_append ..).1 hw
    exact ⟨m, ⟨u, v, by simp⟩, alike.symm⟩
  · intro h
    obtain ⟨m, ⟨u, v, rfl⟩, alike⟩ := h
    refine ⟨u, m ++ v, by simp, (matches_codes_append ..).2 ?_⟩
    exact ⟨m, v, rfl, alike.symm, matches_any v⟩

/-! ## 2. Texts as patterns see them -/

/-- The character that a pattern sees: two that stand for none are seen as the replacement. -/
def readChar (c : Char) : Char :=
  if c = Char.ofNat 0xFFFE ∨ c = Char.ofNat 0xFFFF then Char.ofNat 0xFFFD else c

/-- A text as patterns see it, with the capital letters of ASCII made small. -/
def folded (s : String) : List Char := s.toList.map fun c => (readChar c).toLower

/-- A text of characters proper is seen as it is. -/
theorem folded_eq {s : String} (proper : ∀ c ∈ s.toList, c ≠ Char.ofNat 0xFFFE ∧ c ≠ Char.ofNat 0xFFFF) :
    folded s = s.toList.map Char.toLower := by
  refine List.map_congr_left fun c hc => ?_
  rw [readChar, if_neg (by simp [proper c hc])]

theorem readCode_toNat (c : Char) : readCode c.toNat = (readChar c).toNat := by
  have first : c.toNat = 0xFFFE ↔ c = Char.ofNat 0xFFFE := Char.toNat_inj (d := Char.ofNat 0xFFFE)
  have second : c.toNat = 0xFFFF ↔ c = Char.ofNat 0xFFFF := Char.toNat_inj (d := Char.ofNat 0xFFFF)
  unfold readCode readChar
  simp only [Bool.or_eq_true, decide_eq_true_eq, first, second]
  split <;> rfl

theorem foldCase_toNat (c : Char) : foldCase c.toNat = c.toLower.toNat := by
  unfold foldCase Char.toLower
  split
  case isTrue capital =>
    obtain ⟨low, high⟩ : 65 ≤ c.toNat ∧ c.toNat ≤ 90 := by simpa using capital
    rw [dif_pos ⟨UInt32.le_iff_toNat_le.2 low, UInt32.le_iff_toNat_le.2 high⟩]
    have small : (c.val + 32).toNat = (c.toNat + 32) % 2 ^ 32 := UInt32.toNat_add ..
    exact (small.trans (Nat.mod_eq_of_lt (by omega))).symm
  case isFalse other =>
    have bounds : ¬ (65 ≤ c.toNat ∧ c.toNat ≤ 90) := by simpa using other
    have small : ¬ (c.val ≥ 'A'.val ∧ c.val ≤ 'Z'.val) := fun h =>
      bounds ⟨UInt32.le_iff_toNat_le.1 h.1, UInt32.le_iff_toNat_le.1 h.2⟩
    rw [dif_neg small]

/-- The code points of a text without NUL, with capital letters made small, are those that are seen. -/
theorem map_foldCase_textCodes {s : String} (whole : '\x00' ∉ s.toList) :
    (textCodes s).map foldCase = (folded s).map Char.toNat := by
  have all : s.toList.takeWhile (· != '\x00') = s.toList :=
    List.takeWhile_eq_self_iff.2 fun c hc => by simpa using ne_of_mem_of_not_mem hc whole
  rw [textCodes, all, folded, List.map_map, List.map_map]
  refine List.map_congr_left fun c _ => ?_
  rw [Function.comp_apply, Function.comp_apply, readCode_toNat, foldCase_toNat]

theorem toNat_injective : Function.Injective Char.toNat := fun _ _ => Char.toNat_inj.1

theorem infix_map_toNat_iff {v s : List Char} : v.map Char.toNat <:+: s.map Char.toNat ↔ v <:+: s := by
  rw [List.infix_map_iff]
  constructor
  · intro h
    obtain ⟨l, piece, same⟩ := h
    rwa [List.map_injective_iff.2 toNat_injective same]
  · exact fun h => ⟨v, h, rfl⟩

/-- `v` can be looked for by a pattern: it has no `%`, no `_` and no NUL, and with a `%` on either side it has
    at most `maxPatternBytes` bytes. -/
structure Literal (v : String) : Prop where
  noAny : '%' ∉ v.toList
  noOne : '_' ∉ v.toList
  whole : '\x00' ∉ v.toList
  short : v.utf8ByteSize + 2 ≤ maxPatternBytes

/-- A character that is not among others is not seen among them, unless it is the replacement. -/
theorem readChar_ne {cs : List Char} {c d : Char} (among : c ∈ cs) (other : d ∉ cs)
    (proper : d ≠ Char.ofNat 0xFFFD) : readChar c ≠ d := by
  unfold readChar
  split
  · exact proper.symm
  · exact ne_of_mem_of_not_mem among other

/-- Every code point of a text without wildcards stands for itself. -/
theorem map_ofCode {s : List Char} (noAny : '%' ∉ s) (noOne : '_' ∉ s) :
    (s.map fun c => readCode c.toNat).map PatternItem.ofCode =
      (s.map fun c => readCode c.toNat).map .code := by
  refine List.map_congr_left fun n hn => ?_
  obtain ⟨c, among, rfl⟩ := List.mem_map.1 hn
  have differs {d : Char} (other : readChar c ≠ d) : readCode c.toNat ≠ d.toNat := by
    rwa [readCode_toNat, ne_eq, Char.toNat_inj]
  rw [PatternItem.ofCode, if_neg (differs (readChar_ne among noAny (by decide))),
    if_neg (differs (readChar_ne among noOne (by decide)))]

theorem Literal.items {v : String} (literal : Literal v) :
    (textCodes v).map PatternItem.ofCode = (textCodes v).map .code :=
  map_ofCode (fun h => literal.noAny (List.takeWhile_subset _ h))
    fun h => literal.noOne (List.takeWhile_subset _ h)

theorem textCodes_append {v w : String} (whole : '\x00' ∉ v.toList) :
    textCodes (v ++ w) = textCodes v ++ textCodes w := by
  have all : ∀ c ∈ v.toList, (c != '\x00') = true :=
    fun c hc => by simpa using ne_of_mem_of_not_mem hc whole
  rw [textCodes, String.toList_append, List.takeWhile_append_of_pos all, List.map_append, textCodes,
    textCodes, List.takeWhile_eq_self_iff.2 all]

theorem items_percent : (textCodes "%").map PatternItem.ofCode = [.any] := by decide

/-! ## 3. The texts of numbers -/

theorem nul_notMem_toDigits (n : Nat) : '\x00' ∉ Nat.toDigits 10 n := by
  intro among
  have digit := Text.isDigit_of_mem_toDigits among
  revert digit
  decide

theorem nul_notMem_ofInt (n : Int) : '\x00' ∉ (Text.ofInt n).toList := by
  cases n with
  | ofNat n => simpa [Text.ofInt, Text.ofNat] using nul_notMem_toDigits n
  | negSucc n => simpa [Text.ofInt, Text.ofNat] using nul_notMem_toDigits (n + 1)

theorem nul_notMem_positional {d : Number.Decimal} (digits : '\x00' ∉ d.digits) :
    '\x00' ∉ (Number.positional d).toList := by
  have first (k : Nat) : '\x00' ∉ d.digits.take k := fun h => digits (List.mem_of_mem_take h)
  have rest (k : Nat) : '\x00' ∉ d.digits.drop k := fun h => digits (List.mem_of_mem_drop h)
  rw [Number.positional]
  split
  · simp [digits, List.mem_replicate]
  · simp only [String.toList_ofList, List.mem_append, List.mem_cons, List.mem_replicate]
    split <;> simp [first, rest]

theorem nul_notMem_storeDecimalText {d : Number.Decimal} (digits : '\x00' ∉ d.digits) :
    '\x00' ∉ (Number.storeDecimalText d).toList := by
  have first (k : Nat) : '\x00' ∉ d.digits.take k := fun h => digits (List.mem_of_mem_take h)
  have rest : '\x00' ∉ d.digits.tail := fun h => digits (List.mem_of_mem_tail h)
  have exponent : '\x00' ∉ (Number.exponentText 2 d.exp).toList := by
    rw [Number.exponentText, Text.padded]
    split <;> simp [List.mem_replicate, nul_notMem_toDigits]
  rw [Number.storeDecimalText]
  split
  · exact nul_notMem_positional digits
  · dsimp only
    split <;> simp [first, rest, exponent]

theorem nul_notMem_storeDecimal (d : Number.Dyadic) : '\x00' ∉ (Number.storeDecimal d).digits := by
  have cut (n : Nat) : '\x00' ∉ (Number.cutDigits (Number.digitsOf n)).1 := by
    rw [Number.cutDigits]
    split
    · exact nul_notMem_toDigits n
    · exact nul_notMem_toDigits _
  intro among
  obtain ⟨j, split⟩ := Number.withoutTrailingZeros_append
    (Number.cutDigits (Number.digitsOf (Number.scaled d).1.floor)).1
  exact cut _ (split ▸ List.mem_append_left _ among)

theorem nul_notMem_storeText (r : Number.Double) : '\x00' ∉ (Number.storeText r).toList := by
  have negative (s : Bool) : '\x00' ∉ (if s then "-" else "").toList := by cases s <;> decide
  cases r with
  | infinite s => cases s <;> decide
  | finite s d =>
    rw [Number.storeText]
    split
    · decide
    · have digits := nul_notMem_storeDecimalText (nul_notMem_storeDecimal d)
      rw [String.toList_append, List.mem_append, not_or]
      exact ⟨negative s, digits⟩

/-! ## 4. Patterns that start apart from integers -/

/-- Lists are equal if they have the same images, and nothing else has the images of one. -/
theorem eq_of_map_eq {α β : Type} {f : α → β} : ∀ {as bs : List α}, as.map f = bs.map f →
    (∀ a ∈ as, ∀ b, f b = f a → b = a) → bs = as
  | [], [], _, _ => rfl
  | a :: as, b :: bs, same, only => by
    obtain ⟨here, there⟩ := List.cons.inj same
    obtain ⟨first, others⟩ := List.forall_mem_cons.1 only
    rw [first b here.symm, eq_of_map_eq there others]

/-- The text of an integer is made of digits, behind a minus sign or not. -/
theorem ofInt_cases (n : Int) : ∃ ds : List Char, (∀ c ∈ ds, Text.isDigit c = true) ∧
    ((Text.ofInt n).toList = ds ∨ (Text.ofInt n).toList = '-' :: ds) := by
  have digits (k : Nat) : ∀ c ∈ (Text.ofNat k).toList, Text.isDigit c = true := by
    intro c hc
    rw [Text.ofNat, String.toList_ofList] at hc
    exact Text.isDigit_of_mem_toDigits hc
  cases n with
  | ofNat k => exact ⟨_, digits k, .inl rfl⟩
  | negSucc k => exact ⟨_, digits (k + 1), .inr (by simp [Text.ofInt])⟩

/-- Only a digit, or a minus sign, is seen as itself. -/
theorem eq_of_foldCase {c d : Char} (sign_or_digit : d = '-' ∨ Text.isDigit d = true)
    (same : foldCase (readCode c.toNat) = foldCase (readCode d.toNat)) : c = d := by
  have small : d.toNat ≤ 57 := by
    rcases sign_or_digit with rfl | digit
    · decide
    · exact (Text.toNat_of_isDigit digit).2
  rw [← Char.toNat_inj]
  simp only [foldCase, readCode, replacement, Bool.and_eq_true, Bool.or_eq_true, decide_eq_true_eq]
    at same
  split_ifs at same <;> omega

/-- A start of the text of an integer, with a digit in it, is a number. -/
theorem isSome_number?_of_prefix {s : List Char} {n : Int} (start : s <+: (Text.ofInt n).toList)
    (given : s ≠ []) (digit : s ≠ ['-']) : (Number.number? s).isSome = true := by
  have numeral (sign ds : List Char) (signed : Number.IsSign sign) (some_ds : ds ≠ [])
      (digits : ∀ c ∈ ds, Text.isDigit c = true) : (Number.number? (sign ++ ds)).isSome = true := by
    have spells : Number.Spells (sign ++ ds)
        ⟨sign, ds, none, none, signed, by simpa using some_ds, by simpa using digits⟩ :=
      ⟨[], [], by simp, by simp, by simp [Number.Numeral.chars, Number.fractionChars,
        Number.exponentChars]⟩
    rw [Number.number?, Number.scan_of_spells spells]
    rfl
  obtain ⟨ds, digits, text | text⟩ := ofInt_cases n
  · rw [text] at start
    exact numeral [] s (.inl rfl) given fun c hc => digits c (start.subset hc)
  · rw [text] at start
    rcases List.prefix_cons_iff.1 start with nothing | ⟨more, rfl, behind⟩
    · exact absurd nothing given
    · exact numeral ['-'] more (.inr (.inl rfl)) (fun nothing => digit (by rw [nothing]))
        fun c hc => digits c (behind.subset hc)

/-- Every character of the text of an integer is a minus sign or a digit. -/
theorem sign_or_digit_of_mem_ofInt {n : Int} {c : Char} (hc : c ∈ (Text.ofInt n).toList) :
    c = '-' ∨ Text.isDigit c = true := by
  obtain ⟨ds, digits, text | text⟩ := ofInt_cases n
  · exact .inr (digits c (text ▸ hc))
  · rcases List.mem_cons.1 (text ▸ hc) with sign | digit
    · exact .inl sign
    · exact .inr (digits c digit)

/-- A pattern begins with its `patternStart`. -/
theorem exists_patternStart_append (pattern : String) :
    ∃ behind, pattern.toList.takeWhile (· != '\x00') = patternStart pattern ++ behind := by
  let body := pattern.toList.takeWhile (· != '\x00')
  have start : patternStart pattern = body.takeWhile fun c => c != '%' && c != '_' := by
    simp only [body, patternStart, List.takeWhile_takeWhile]
    congr 1
    funext c
    rw [Bool.eq_iff_iff]
    simp [and_assoc]
  exact ⟨body.dropWhile fun c => c != '%' && c != '_', by rw [start, List.takeWhile_append_dropWhile]⟩

theorem notMem_patternStart (pattern : String) : '%' ∉ patternStart pattern ∧ '_' ∉ patternStart pattern :=
  ⟨fun h => by simpa using List.mem_takeWhile_imp h, fun h => by simpa using List.mem_takeWhile_imp h⟩

/-- If an integer matches a pattern, its text begins with the `patternStart`. -/
theorem patternStart_isPrefix {pattern : String} {n : Int} (like : (Cell.int n).Like pattern) :
    patternStart pattern <+: (Text.ofInt n).toList := by
  obtain ⟨codes, shows, fits⟩ := like
  obtain rfl := Option.some.inj shows
  obtain ⟨behind, first⟩ := exists_patternStart_append pattern
  obtain ⟨noAny, noOne⟩ := notMem_patternStart pattern
  rw [textCodes, first, List.map_append, List.map_append, map_ofCode noAny noOne,
    matches_codes_append] at fits
  obtain ⟨u, w, split, alike, -⟩ := fits
  have whole : (Text.ofInt n).toList.takeWhile (· != '\x00') = (Text.ofInt n).toList :=
    List.takeWhile_eq_self_iff.2 fun c hc => by simpa using ne_of_mem_of_not_mem hc (nul_notMem_ofInt n)
  rw [textCodes, whole, List.map_eq_append_iff] at split
  obtain ⟨a, b, text, rfl, -⟩ := split
  -- signs and digits are seen as themselves only
  have same : patternStart pattern = a := by
    rw [List.map_map, List.map_map] at alike
    refine eq_of_map_eq alike fun d hd c seen => eq_of_foldCase ?_ seen
    exact sign_or_digit_of_mem_ofInt (text ▸ List.mem_append_left _ hd)
  exact ⟨b, by rw [same, text]⟩

/-- **No integer matches a pattern that starts apart from the integers.** -/
theorem Cell.not_like_of_startsApart {pattern : String} (apart : startsApart pattern = true) (n : Int) :
    ¬ (Cell.int n).Like pattern := by
  intro like
  simp only [startsApart, Bool.and_eq_true, Bool.not_eq_true', bne_iff_ne, ne_eq,
    List.isEmpty_eq_false_iff, Option.isNone_iff_eq_none] at apart
  obtain ⟨⟨⟨given, digit⟩, none⟩, -⟩ := apart
  have number := isSome_number?_of_prefix (patternStart_isPrefix like) given digit
  rw [none] at number
  cases number

end Store

end Dataset
