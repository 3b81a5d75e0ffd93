import Dataset.Http.Address
import Dataset.Proofs.Number.Layout

/-!
# Which texts are addresses

An address is written as four decimal numbers with points between them, or as eight groups of hexadecimal
digits with colons between them; in place of one row of groups two colons may stand. The reader takes what it
can at each place and never goes back, and yet it misses no address.

* `FourText`: four numbers up to 255, each written in one way;
* `Groups`: groups, of which the last two may be written as four numbers; `GroupsText`: an address of groups;
* **`AddressText`**: the texts of addresses;
* `afterFour?_eq_some_iff`, `afterGroup?_eq_some_iff`: what is read of a number and of a group;
* `groups_of_readGroups`, **`readGroups_of_groups`**: what is read of groups, and that all of them are;
* **`isAddress_iff`**: exactly the texts of addresses are read as one; `AddressText.parts`: what they are made
  of.
-/

namespace Dataset.Http.Address

open Text (isDigit)

/-! ## 1. The texts -/

/-- A number up to 255, without zeros in front of it. -/
def ByteText (p : List Char) : Prop := ∃ n, n ≤ 255 ∧ p = Number.digitsOf n

/-- Four numbers with points between them. -/
def FourText (p : List Char) : Prop :=
  ∃ a b c d, ByteText a ∧ ByteText b ∧ ByteText c ∧ ByteText d ∧
    p = a ++ '.' :: (b ++ '.' :: (c ++ '.' :: d))

/-- A hexadecimal digit. -/
def isHex (c : Char) : Bool := (Json.hexValue? c).isSome

/-- A group: one to four hexadecimal digits. -/
def GroupText (p : List Char) : Prop := p ≠ [] ∧ p.length ≤ 4 ∧ ∀ c ∈ p, isHex c = true

/-- The colon before every group but the first. -/
def colon (index : Nat) : List Char := if index = 0 then [] else [':']

/-- The groups behind `index` others, up to `count` in all; the last two may be written as four decimal
    numbers, and are if `decimal`. -/
inductive Groups : Nat → Nat → Bool → List Char → Prop where
  | done {index : Nat} : Groups index index false []
  | decimal {index : Nat} {p : List Char} : FourText p → Groups index (index + 2) true (colon index ++ p)
  | group {index count : Nat} {decimal : Bool} {g p : List Char} : GroupText g →
      Groups (index + 1) count decimal p → Groups index count decimal (colon index ++ (g ++ p))

/-- Eight groups; or fewer, where two colons stand for those that are missing. -/
inductive GroupsText : List Char → Prop where
  | whole {decimal : Bool} {p : List Char} : Groups 0 8 decimal p → GroupsText p
  | short {m n : Nat} {decimal : Bool} {p q : List Char} : Groups 0 m false p → Groups 0 n decimal q →
      m + n < 8 → GroupsText (p ++ ':' :: ':' :: q)

/-- The text of an address. -/
def AddressText (s : List Char) : Prop := FourText s ∨ GroupsText s

/-! ## 2. Numbers and groups -/

/-- A text does not begin with such a character. -/
def Ends (P : Char → Bool) (s : List Char) : Prop := s.head?.any P = false

/-- What stands at the front of a text with a property, if it is not too long, is what is found there among so
    many characters. -/
theorem front_iff {P : Char → Bool} {k : Nat} {s p rest : List Char} :
    p = (s.take k).takeWhile P ∧ rest = s.drop p.length ∧ Ends P rest ↔
      s = p ++ rest ∧ p.length ≤ k ∧ (∀ c ∈ p, P c = true) ∧ Ends P rest := by
  constructor
  · rintro ⟨found, rfl, ends⟩
    have front : p <+: s.take k := found ▸ List.takeWhile_prefix P
    refine ⟨?_, ?_, fun c among => ?_, ends⟩
    · conv_lhs => rw [← List.take_append_drop p.length s]
      rw [← List.prefix_iff_eq_take.1 (front.trans (List.take_prefix k s))]
    · exact front.length_le.trans (List.length_take_le k s)
    · rw [found] at among
      exact List.mem_takeWhile_imp among
  · rintro ⟨rfl, short, all, ends⟩
    refine ⟨?_, (List.drop_left).symm, ends⟩
    rw [List.take_append, List.take_of_length_le short, List.takeWhile_append_of_pos all]
    have nothing : (rest.take (k - p.length)).takeWhile P = [] := by
      cases rest with
      | nil => rw [List.take_nil]; rfl
      | cons c rest =>
        cases k - p.length with
        | zero => rfl
        | succ => rw [List.take_succ_cons, List.takeWhile_cons_of_neg (by simpa [Ends] using ends)]
    rw [nothing, List.append_nil]

/-- A number is read exactly if it is written without zeros in front of it, up to its last digit. -/
theorem readByte?_eq_some_iff {s rest : List Char} {n : Nat} :
    readByte? s = some (n, rest) ↔ n ≤ 255 ∧ s = Number.digitsOf n ++ rest ∧ Ends isDigit rest := by
  rw [readByte?]
  constructor
  · intro read
    split_ifs at read with faulty goes
    obtain ⟨rfl, rfl⟩ := Prod.mk.inj (Option.some.inj read)
    simp only [Bool.or_eq_true, List.isEmpty_iff, decide_eq_true_eq, Bool.and_eq_true, not_or, not_and,
      not_not] at faulty
    obtain ⟨⟨given, small⟩, leads⟩ := faulty
    obtain ⟨split, -, all, ends⟩ := front_iff.1 ⟨rfl, rfl, by simpa [Ends] using goes⟩
    have led : Number.Led ((s.take 3).takeWhile isDigit) := {
      given := given
      leads := fun zero => by
        obtain ⟨c, one⟩ := List.length_eq_one_iff.1 (leads zero)
        rw [one] at zero ⊢
        rw [Option.some.inj zero]
      all_digits := all }
    refine ⟨not_lt.1 small, ?_, ends⟩
    rw [← Number.led_iff.1 ⟨led, rfl⟩]
    exact split
  · rintro ⟨small, rfl, ends⟩
    obtain ⟨led, value⟩ := Number.led_iff.2 (Eq.refl (Number.digitsOf n))
    have short : (Number.digitsOf n).length ≤ 3 :=
      (Nat.length_toDigits_le_iff (by decide) (by decide)).2 (by omega)
    obtain ⟨found, behind, -⟩ := front_iff.2 ⟨rfl, short, led.all_digits, ends⟩
    rw [← found, ← behind, value]
    have leads : ¬ ((Number.digitsOf n).head? = some '0' ∧ (Number.digitsOf n).length ≠ 1) :=
      fun both => both.2 (by rw [led.leads both.1]; rfl)
    rw [if_neg (by simpa [led.given, small] using leads), if_neg (by simpa [Ends] using ends)]

theorem after?_eq_some_iff {c : Char} {s rest : List Char} : after? c s = some rest ↔ s = c :: rest := by
  cases s with
  | nil => exact iff_of_false nofun nofun
  | cons x s =>
    rw [after?]
    split_ifs with here
    · rw [here, Option.some.injEq, List.cons.injEq, and_iff_right rfl]
    · exact iff_of_false nofun fun same => here (List.cons.inj same).1

/-- Four numbers are read exactly if they stand at the front, up to the last digit. -/
theorem afterFour?_eq_some_iff {s rest : List Char} :
    afterFour? s = some rest ↔ ∃ p, FourText p ∧ s = p ++ rest ∧ Ends isDigit rest := by
  simp only [afterFour?, Option.bind_eq_bind, Option.bind_eq_some_iff, Prod.exists, readByte?_eq_some_iff,
    after?_eq_some_iff, Option.some.injEq]
  constructor
  · rintro ⟨a, _, ⟨ha, rfl, -⟩, _, rfl, b, _, ⟨hb, rfl, -⟩, _, rfl, c, _, ⟨hc, rfl, -⟩, _, rfl,
      d, _, ⟨hd, rfl, ends⟩, rfl⟩
    exact ⟨_, ⟨_, _, _, _, ⟨a, ha, rfl⟩, ⟨b, hb, rfl⟩, ⟨c, hc, rfl⟩, ⟨d, hd, rfl⟩, rfl⟩, by simp, ends⟩
  · rintro ⟨_, ⟨_, _, _, _, ⟨a, ha, rfl⟩, ⟨b, hb, rfl⟩, ⟨c, hc, rfl⟩, ⟨d, hd, rfl⟩, rfl⟩, rfl, ends⟩
    have point (s : List Char) : Ends isDigit ('.' :: s) := rfl
    simp only [List.append_assoc, List.cons_append]
    exact ⟨a, _, ⟨ha, rfl, point _⟩, _, rfl, b, _, ⟨hb, rfl, point _⟩, _, rfl, c, _, ⟨hc, rfl, point _⟩, _,
      rfl, d, _, ⟨hd, rfl, ends⟩, rfl⟩

/-- A group is read exactly if it stands at the front, up to its last digit. -/
theorem afterGroup?_eq_some_iff {s rest : List Char} :
    afterGroup? s = some rest ↔ ∃ p, GroupText p ∧ s = p ++ rest ∧ Ends isHex rest := by
  have digits : (fun c => (Json.hexValue? c).isSome) = isHex := rfl
  rw [afterGroup?, digits]
  constructor
  · intro read
    split_ifs at read with faulty
    obtain rfl := Option.some.inj read
    simp only [Bool.or_eq_true, List.isEmpty_iff, not_or] at faulty
    obtain ⟨split, short, all, ends⟩ := front_iff.1 ⟨rfl, rfl, by simpa [Ends] using faulty.2⟩
    exact ⟨_, ⟨faulty.1, short, all⟩, split, ends⟩
  · rintro ⟨p, ⟨given, short, all⟩, rfl, ends⟩
    obtain ⟨found, behind, -⟩ := front_iff.2 ⟨rfl, short, all, ends⟩
    rw [← found, ← behind, if_neg (by simpa [given, Ends] using ends)]

/-! ## 3. Several groups -/

variable {index count limit : Nat} {decimal : Bool} {s p rest : List Char}

theorem afterColon?_eq_some_iff : afterColon? index s = some rest ↔ s = colon index ++ rest := by
  rw [afterColon?, colon]
  split_ifs
  · rw [Option.some.injEq, List.nil_append]
  · exact after?_eq_some_iff

/-- What stands at the front behind the colon that has to be there is read, and what is read stands there. -/
theorem behindColon_iff {f : List Char → Option (List Char)} {P : List Char → Prop} {Q : Char → Bool}
    (reads : ∀ {s rest}, f s = some rest ↔ ∃ p, P p ∧ s = p ++ rest ∧ Ends Q rest) :
    (afterColon? index s).bind f = some rest ↔ ∃ p, P p ∧ s = colon index ++ (p ++ rest) ∧ Ends Q rest := by
  simp only [Option.bind_eq_some_iff, afterColon?_eq_some_iff, reads]
  constructor
  · rintro ⟨_, rfl, p, text, rfl, ends⟩
    exact ⟨p, text, rfl, ends⟩
  · rintro ⟨p, text, rfl, ends⟩
    exact ⟨_, rfl, p, text, rfl, ends⟩

/-- **What is read of groups are groups.** -/
theorem groups_of_readGroups (read : readGroups index s limit = (count, decimal, rest)) :
    count ≤ index + limit ∧ ∃ p, Groups index count decimal p ∧ s = p ++ rest := by
  induction limit generalizing index s with
  | zero =>
    rw [readGroups] at read
    obtain ⟨rfl, rfl, rfl⟩ : index = count ∧ false = decimal ∧ s = rest := by simpa using read
    exact ⟨Nat.le_refl _, [], .done, rfl⟩
  | succ limit ih =>
    have one (single : readGroups.afterOne index s limit = (count, decimal, rest)) :
        count ≤ index + (limit + 1) ∧ ∃ p, Groups index count decimal p ∧ s = p ++ rest := by
      rw [readGroups.afterOne] at single
      split at single
      · rename_i more group
        obtain ⟨g, text, split, -⟩ := (behindColon_iff afterGroup?_eq_some_iff).1 group
        obtain ⟨bound, p, groups, rfl⟩ := ih single
        exact ⟨by omega, _, .group text groups, by simp only [split, List.append_assoc]⟩
      · obtain ⟨rfl, rfl, rfl⟩ : index = count ∧ false = decimal ∧ s = rest := by simpa using single
        exact ⟨by omega, [], .done, rfl⟩
    rw [readGroups] at read
    split at read
    · rename_i more four
      split_ifs at read with last
      · exact one read
      · obtain ⟨rfl, rfl, rfl⟩ : index + 2 = count ∧ true = decimal ∧ more = rest := by simpa using read
        obtain ⟨p, text, rfl, -⟩ := (behindColon_iff afterFour?_eq_some_iff).1 four
        exact ⟨by omega, _, .decimal text, by simp only [List.append_assoc]⟩
    · exact one read

/-- What may stand behind groups: nothing, or two colons. -/
def Closes (s : List Char) : Prop := s = [] ∨ ∃ more, s = ':' :: ':' :: more

/-- Behind a group stand a colon or nothing. -/
theorem Groups.head_colon (groups : Groups (index + 1) count decimal p) (closes : Closes rest) :
    p ++ rest = [] ∨ ∃ more, p ++ rest = ':' :: more := by
  have lead (q : List Char) : ∃ more, colon (index + 1) ++ q = ':' :: more := ⟨q, rfl⟩
  cases groups with
  | done => exact closes.imp_right fun ⟨more, same⟩ => ⟨_, same⟩
  | decimal =>
    rw [List.append_assoc]
    exact .inr (lead _)
  | group =>
    rw [List.append_assoc]
    exact .inr (lead _)

/-- Behind groups nothing more is read by what reads neither nothing nor a colon. -/
theorem behindColon_of_closes {f : List Char → Option (List Char)} (nothing : f [] = none)
    (other : ∀ more, f (':' :: more) = none) (closes : Closes s) :
    (afterColon? index s).bind f = none := by
  rw [afterColon?]
  rcases closes with rfl | ⟨more, rfl⟩
  · split_ifs
    · exact nothing
    · rfl
  · split_ifs
    · exact other _
    · exact other _

theorem afterFour?_colon (more : List Char) : afterFour? (':' :: more) = none := by
  simp [afterFour?, readByte?, isDigit]

theorem afterGroup?_colon (more : List Char) : afterGroup? (':' :: more) = none := by
  simp [afterGroup?, Json.hexValue?]

theorem isHex_of_isDigit {c : Char} (digit : isDigit c = true) : isHex c = true := by
  rw [isDigit] at digit
  rw [isHex, Json.hexValue?, if_pos digit]
  rfl

theorem isHex_of_mem_digitsOf {n : Nat} {c : Char} (among : c ∈ Number.digitsOf n) : isHex c = true :=
  isHex_of_isDigit (Text.isDigit_of_mem_toDigits among)

/-- A group is not the beginning of four numbers. -/
theorem four_ne_group {g q more : List Char} (group : GroupText g) (four : FourText q)
    (head : p = [] ∨ ∃ more, p = ':' :: more) : g ++ p ≠ q ++ more := by
  obtain ⟨_, b, c, d, ⟨n, -, rfl⟩, -, -, -, rfl⟩ := four
  intro same
  have digits : ∀ c ∈ Number.digitsOf n, isHex c = true := fun _ => isHex_of_mem_digitsOf
  -- Behind the digits at the front stands a point on the one side, and none on the other.
  have behind := congrArg (List.dropWhile isHex) same
  rw [List.dropWhile_append_of_pos group.2.2, List.append_assoc,
    List.dropWhile_append_of_pos digits] at behind
  rcases head with rfl | ⟨more, rfl⟩
  · cases behind
  · cases behind

theorem Groups.le (groups : Groups index count decimal p) : index ≤ count := by
  induction groups with
  | done => exact Nat.le_refl _
  | decimal => omega
  | group _ _ ih => omega

/-- **All groups are read**, and nothing behind them. -/
theorem readGroups_of_groups (groups : Groups index count decimal p) (closes : Closes rest)
    (bound : count ≤ index + limit) : readGroups index (p ++ rest) limit = (count, decimal, rest) := by
  induction groups generalizing limit with
  | @done index =>
    cases limit with
    | zero => rw [List.nil_append, readGroups]
    | succ limit =>
      rw [List.nil_append, readGroups, behindColon_of_closes rfl afterFour?_colon closes]
      dsimp only
      rw [readGroups.afterOne, behindColon_of_closes rfl afterGroup?_colon closes]
  | @decimal index p text =>
    obtain ⟨limit, rfl⟩ : ∃ n, limit = n + 2 := ⟨limit - 2, by omega⟩
    have ends : Ends isDigit rest := by
      rcases closes with rfl | ⟨more, rfl⟩ <;> rfl
    have four := (behindColon_iff afterFour?_eq_some_iff).2
      ⟨p, text, List.append_assoc (colon index) p rest, ends⟩
    rw [readGroups, four]
    exact if_neg (Nat.succ_ne_zero limit)
  | @group index count decimal g p text groups ih =>
    obtain ⟨limit, rfl⟩ : ∃ n, limit = n + 1 := ⟨limit - 1, by have := groups.le; omega⟩
    have head := groups.head_colon closes
    have ends : Ends isHex (p ++ rest) := by
      rcases head with none | ⟨more, same⟩
      · rw [none]; rfl
      · rw [same]; rfl
    have split : (colon index ++ (g ++ p)) ++ rest = colon index ++ (g ++ (p ++ rest)) := by
      simp only [List.append_assoc]
    have one := (behindColon_iff afterGroup?_eq_some_iff).2 ⟨g, text, split, ends⟩
    have noFour : (afterColon? index ((colon index ++ (g ++ p)) ++ rest)).bind afterFour? = none := by
      refine Option.eq_none_iff_forall_ne_some.2 fun more four => ?_
      obtain ⟨q, four, same, -⟩ := (behindColon_iff afterFour?_eq_some_iff).1 four
      exact four_ne_group text four head (List.append_cancel_left (split.symm.trans same))
    rw [readGroups, noFour]
    dsimp only
    rw [readGroups.afterOne, one]
    exact ih (by omega)

/-! ## 4. Addresses -/

theorem isGroups_iff : isGroups s = true ↔ GroupsText s := by
  rw [isGroups]
  constructor
  · intro found
    generalize read : readGroups 0 s groupCount = r at found
    obtain ⟨count, decimal, rest⟩ := r
    obtain ⟨bound, p, groups, rfl⟩ := groups_of_readGroups read
    dsimp only at found
    split_ifs at found with full last
    · rw [List.isEmpty_iff.1 found, List.append_nil]
      rw [full] at groups
      exact .whole groups
    · split at found
      · rename_i more
        generalize read' : readGroups 0 more (groupCount - (count + 1)) = r at found
        obtain ⟨count', decimal', rest'⟩ := r
        obtain ⟨bound', q, groups', rfl⟩ := groups_of_readGroups read'
        obtain rfl : rest' = [] := List.isEmpty_iff.1 found
        rw [Bool.not_eq_true] at last
        subst last
        rw [List.append_nil]
        have few : count + count' < groupCount := by omega
        exact .short groups groups' few
      · cases found
  · intro text
    cases text with
    | @whole decimal _ groups =>
      have read : readGroups 0 (s ++ []) groupCount = (8, decimal, []) :=
        readGroups_of_groups groups (.inl rfl) (by decide)
      rw [List.append_nil] at read
      rw [read]
      rfl
    | @short m n decimal p q first second few =>
      have eight : groupCount = 8 := rfl
      have read : readGroups 0 (p ++ ':' :: ':' :: q) groupCount = (m, false, ':' :: ':' :: q) :=
        readGroups_of_groups first (.inr ⟨q, rfl⟩) (by omega)
      have read' : readGroups 0 (q ++ []) (groupCount - (m + 1)) = (n, decimal, []) :=
        readGroups_of_groups second (.inl rfl) (by omega)
      rw [List.append_nil] at read'
      rw [read]
      dsimp only
      rw [if_neg (by omega), if_neg nofun]
      show (readGroups 0 q (groupCount - (m + 1))).2.2.isEmpty = true
      rw [read']
      rfl

/-- **Exactly the texts of addresses are read as one.** -/
theorem isAddress_iff (host : String) : isAddress host = true ↔ AddressText host.toList := by
  have four : (afterFour? host.toList == some []) = true ↔ FourText host.toList := by
    rw [beq_iff_eq, afterFour?_eq_some_iff]
    constructor
    · rintro ⟨p, text, split, -⟩
      rw [split, List.append_nil]
      exact text
    · intro text
      exact ⟨_, text, (List.append_nil _).symm, rfl⟩
  rw [isAddress, Bool.or_eq_true, four, isGroups_iff, AddressText]

/-- Two colons stand for one group or more, so seven groups with two colons are an address, and eight are
    not. -/
example : AddressText "1:2:3:4::6:7:8".toList ∧ ¬ AddressText "1:2:3:4::5:6:7:8".toList := by
  rw [← isAddress_iff, ← isAddress_iff, Bool.not_eq_true]
  exact ⟨by cbv, by cbv⟩

/-- What an address is made of: hexadecimal digits, colons and points. -/
def isPart (c : Char) : Bool := isHex c || c == ':' || c == '.'

theorem isPart_of_isHex {c : Char} (digit : isHex c = true) : isPart c = true := by
  rw [isPart, digit, Bool.true_or, Bool.true_or]

theorem FourText.parts (four : FourText p) : ∀ c ∈ p, isPart c = true := by
  obtain ⟨_, _, _, _, ⟨a, -, rfl⟩, ⟨b, -, rfl⟩, ⟨c, -, rfl⟩, ⟨d, -, rfl⟩, rfl⟩ := four
  have number (n : Nat) : ∀ c ∈ Number.digitsOf n, isPart c = true :=
    fun _ among => isPart_of_isHex (isHex_of_mem_digitsOf among)
  have point : isPart '.' = true := by decide
  simp only [List.forall_mem_append, List.forall_mem_cons]
  exact ⟨number a, point, number b, point, number c, point, number d⟩

theorem Groups.parts (groups : Groups index count decimal p) : ∀ c ∈ p, isPart c = true := by
  have before (index : Nat) : ∀ c ∈ colon index, isPart c = true := by
    rw [colon]
    split_ifs
    · exact List.forall_mem_nil _
    · exact List.forall_mem_singleton.2 (by decide)
  induction groups with
  | done => exact List.forall_mem_nil _
  | decimal four => exact List.forall_mem_append.2 ⟨before _, four.parts⟩
  | group text _ ih =>
    exact List.forall_mem_append.2 ⟨before _, List.forall_mem_append.2
      ⟨fun c among => isPart_of_isHex (text.2.2 c among), ih⟩⟩

/-- **An address is made of hexadecimal digits, colons and points**, so most names are none. -/
theorem AddressText.parts (address : AddressText s) : ∀ c ∈ s, isPart c = true := by
  rcases address with four | groups
  · exact four.parts
  · cases groups with
    | whole groups => exact groups.parts
    | short first second =>
      have colon : isPart ':' = true := by decide
      exact List.forall_mem_append.2 ⟨first.parts, List.forall_mem_cons.2
        ⟨colon, List.forall_mem_cons.2 ⟨colon, second.parts⟩⟩⟩

end Dataset.Http.Address
