import Dataset.Filter.Predicate
import Dataset.Proofs.Filter.Payload
import Dataset.Proofs.Json.Kept
import Dataset.Proofs.Json.Parts

/-!
# Numbers as the values of filters

A value may stand in a list of filters as a number. What is compared with is then the text of the number
that is read, which is not always the text that was sent.

* `ItemWith`, `Among`: the texts of an item whose value is written in a given way, and of a list in which
  it stands among other filters;
* `Among.listed`, `Among.not_listed`: such a list is read if its numeral is, and otherwise not;
* `params_compile_iff`: filters that differ in a value bind different parameters;
* **`parse_numeral`**: what becomes of every numeral of JSON.
-/

namespace Dataset.Filter

open Json (Blank ItemsText MembersText KeyText StringText Form Value)
open Number (Numeral)

/-! ## 1. A value as it is written -/

/-- Members that make an item with a value that is written in a given way, in any order. -/
structure MembersWith (field kind : String) (value : List Char) (ms : List (String × List Char)) :
    Prop where
  field : ∃ p, named "field" ms = [p] ∧ StringText field p
  kind : ∃ q, named "type" ms = [q] ∧ StringText kind q
  value : named "value" ms = [value]
  others : ∀ m ∈ ms, m.1 ∉ itemKeys → Form m.2

/-- The texts of an item of `field`, `kind` and the text `value`, as an object or as an array. -/
inductive ItemWith (field kind : String) (value : List Char) : List Char → Prop where
  | object {ms : List (String × List Char)} {s : List Char} (members : MembersText KeyText true ms s)
      (made : MembersWith field kind value ms) : ItemWith field kind value ('{' :: s)
  | array {s p q : List Char} : ItemsText true [p, q, value] s → StringText field p →
      StringText kind q → ItemWith field kind value ('[' :: s)

/-- Texts of lists in which an item of `field`, `kind` and the text `value` stands between the descriptors
    `bs` and `cs`. -/
inductive Among (bs cs : List Descriptor) (field kind : String) (value : List Char) :
    List Char → Prop where
  | array {front back s p : List Char} {ps qs : List (List Char)} (blank : Blank front)
      (before : List.Forall₂ Stands bs ps) (item : ItemWith field kind value p)
      (after : List.Forall₂ Stands cs qs) (items : ItemsText true (ps ++ p :: qs) s)
      (blank' : Blank back) : Among bs cs field kind value (front ++ ('[' :: s ++ back))

variable {field kind : String} {value p : List Char} {bs cs : List Descriptor}

/-- An item with a value that is written as one is an item with this value. -/
theorem ItemWith.text (h : ItemWith field kind value p) {v : Option Json} (written : OptionalText v value) :
    ItemText ⟨field, kind, v⟩ p := by
  cases h with
  | object members made =>
    exact .object members ⟨made.field, made.kind, .inr ⟨_, made.value, written⟩, made.others⟩
  | array items field kind => exact .array items (.three field kind written)

/-- **A list with a value that is written as one lists an item with this value** among the others. -/
theorem Among.listed {text : List Char} (h : Among bs cs field kind value text) {v : Option Json}
    (written : OptionalText v value) :
    ∃ before after, Listed (before ++ ⟨field, kind, v⟩ :: after) text ∧
      List.Forall₂ Makes before bs ∧ List.Forall₂ Makes after cs := by
  obtain ⟨blank, earlier, item, later, items, blank'⟩ := h
  obtain ⟨before, texts, made⟩ := exists_items_of_stands earlier
  obtain ⟨after, texts', made'⟩ := exists_items_of_stands later
  exact ⟨before, after, ⟨_, _, _, blank, blank', rfl,
    .brackets items (List.rel_append texts (.cons (item.text written) texts'))⟩, made, made'⟩

/-- The opening bracket is not blank. -/
theorem Among.not_blank {text : String} (h : Among bs cs field kind value text.toList) :
    Text.isBlankText text = false := by
  generalize chars : text.toList = s at h
  cases h with
  | array => exact not_blank_of_bracket chars

/-! ## 2. A numeral out of range -/

variable {i : Item} {ms : List (String × List Char)}

/-- Members have the form of values if those that count have it, and the others. -/
theorem forms_of_named {vs : List (List Char)} (fieldAt : ∃ p, named "field" ms = [p] ∧ StringText field p)
    (kindAt : ∃ q, named "type" ms = [q] ∧ StringText kind q) (valueAt : named "value" ms = vs)
    (value : ∀ v ∈ vs, Form v) (others : ∀ m ∈ ms, m.1 ∉ itemKeys → Form m.2) :
    ∀ m ∈ ms, Form m.2 := by
  obtain ⟨p, fieldAt, fieldText⟩ := fieldAt
  obtain ⟨q, kindAt, kindText⟩ := kindAt
  have counted : ∀ key ∈ itemKeys, ∀ p ∈ named key ms, Form p := by
    simp only [itemKeys, List.forall_mem_cons, List.not_mem_nil, false_implies, implies_true, and_true,
      fieldAt, kindAt, valueAt]
    exact ⟨by simpa using fieldText.form, by simpa using kindText.form, value⟩
  intro m hm
  by_cases among : m.1 ∈ itemKeys
  · have here : m ∈ ms.filter (·.1 == m.1) := List.mem_filter.2 ⟨hm, beq_self_eq_true m.1⟩
    exact counted m.1 among m.2 (List.mem_map.2 ⟨m, here, rfl⟩)
  · exact others m hm among

theorem ObjectItem.forms (made : ObjectItem i ms) : ∀ m ∈ ms, Form m.2 := by
  rcases made.value with ⟨valueAt, -⟩ | ⟨r, valueAt, text⟩
  · exact forms_of_named made.field made.kind valueAt (by simp) made.others
  · exact forms_of_named made.field made.kind valueAt (by simpa using text.2.form) made.others

theorem MembersWith.forms (made : MembersWith field kind value ms) (form : Form value) :
    ∀ m ∈ ms, Form m.2 :=
  forms_of_named made.field made.kind made.value (by simpa using form) made.others

theorem ArrayItem.forms {ps : List (List Char)} (made : ArrayItem i ps) : ∀ p ∈ ps, Form p := by
  cases made with
  | two field kind => simpa using ⟨field.form, kind.form⟩
  | three field kind value => simpa using ⟨field.form, kind.form, value.2.form⟩

theorem ItemText.form (h : ItemText i p) : Form p := by
  cases h with
  | object members made => exact .of_members members made.forms
  | array items made => exact .array items made.forms

theorem ItemWith.form (h : ItemWith field kind value p) (form : Form value) : Form p := by
  cases h with
  | object members made => exact .of_members members (made.forms form)
  | array items field kind => exact .array items (by simpa using ⟨field.form, kind.form, form⟩)

/-- What is read of an item whose value is written as a numeral is read of the numeral, too. -/
theorem ItemWith.exists_num {n : Numeral} (inJson : n.InJson) (h : ItemWith field kind n.chars p)
    (text : ItemText i p) : ∃ x, n.toNum = .ok x := by
  have form : Form n.chars := .number inJson
  have read {v : Option Json} (written : OptionalText v n.chars) : ∃ x, n.toNum = .ok x := by
    obtain ⟨x, found, -⟩ := Value.of_number inJson written.2
    exact ⟨x, found⟩
  cases h with
  | object members made =>
    cases text with
    | object members' made' =>
      obtain rfl := members.unique members' (made.forms form) made'.forms
        (show _ ++ [] = _ ++ [] from rfl)
      rcases made'.value with ⟨none, -⟩ | ⟨q, valueAt, written⟩
      · rw [made.value] at none
        cases none
      · rw [made.value] at valueAt
        obtain rfl := (List.cons.inj valueAt).1
        exact read written
  | array items field kind =>
    cases text with
    | @array ps s items' made' =>
      obtain rfl := items.unique items'
        (by simpa using ⟨field.form, kind.form, form⟩) made'.forms (show _ ++ [] = _ ++ [] from rfl)
      cases made' with
      | three _ _ written => exact read written

/-- **A list with a numeral that is out of range lists no items.** -/
theorem Among.not_listed {n : Numeral} (inJson : n.InJson) (out : ∀ x, n.toNum ≠ .ok x)
    {text : List Char} (h : Among bs cs field kind n.chars text) (items : List Item) :
    ¬ Listed items text := by
  rintro ⟨front', p', back', blank', -, same, text'⟩
  obtain ⟨blank, earlier, item, later, texts, -⟩ := h
  obtain ⟨texts', stand⟩ := text'
  have start := congrArg Json.skipSpace same
  rw [List.cons_append, List.cons_append, Json.skipSpace_append blank (by decide),
    Json.skipSpace_append blank' (by decide)] at start
  have forms {ds : List Descriptor} {ps : List (List Char)} (stand : List.Forall₂ Stands ds ps) :
      ∀ p ∈ ps, Form p := by
    intro p hp
    obtain ⟨d, -, i, text, -⟩ := Json.exists_of_forall₂ stand hp
    exact text.form
  have all := texts.unique texts' (List.forall_mem_append.2 ⟨forms earlier,
    List.forall_mem_cons.2 ⟨item.form (.number inJson), forms later⟩⟩)
    (fun p hp => by
      obtain ⟨i, -, text⟩ := Json.exists_of_forall₂ stand hp
      exact text.form) (List.cons.inj start).2
  subst all
  obtain ⟨i, -, text⟩ := Json.exists_of_forall₂ stand (List.mem_append_right _ (.head _))
  obtain ⟨x, read⟩ := item.exists_num inJson text
  exact out x read

/-! ## 3. What is compared with -/

/-- A text that begins like a number is not blank. -/
theorem not_blank_of_chars {n : Numeral} (inJson : n.InJson) {text : String}
    (written : text.toList = n.chars) : Text.isBlankText text = false := by
  obtain ⟨c, rest, chars, starts⟩ := Json.startsNumber_chars inJson
  have first : Text.isBlank c = false := by
    simp only [Json.startsNumber, Bool.or_eq_true, beq_iff_eq] at starts
    rcases starts with rfl | digit
    · decide
    · exact Text.isBlank_of_isDigit digit
  rw [Text.isBlankText, written, chars, List.all_cons, first, Bool.false_and]

/-- What is read of a numeral has a text that is not blank. -/
theorem not_blank_text {n : Numeral} (inJson : n.InJson) {x : Json.Num} (read : n.toNum = .ok x) :
    Text.isBlankText x.text = false := by
  rcases n.toNum_cases read with ⟨k, rfl⟩ | ⟨r, rfl, rounded⟩
  · exact not_blank_of_chars inJson (n.toList_ofInt_eq_chars inJson read)
  · rcases rounded.sign_cases with ⟨d, rfl⟩ | rfl
    · obtain ⟨m, inJson', -, -, -, written⟩ := Number.exists_numeral_realText rounded
      exact not_blank_of_chars inJson' written
    · show Text.isBlankText "null" = false
      decide

variable {op : Operator} {text : String}

/-- **A list with a value that compares with a text is read** as the filter with this text among the
    others. -/
theorem Among.parse_eq {v : Option Json} {t : String} (names : Names kind op)
    (named : Text.isBlankText field = false) (compares : Compares v (some t))
    (given : Text.isBlankText t = false) (written : OptionalText v value)
    (few : (bs ++ cs).length < maxCount) (short : text.utf8ByteSize ≤ maxBytes)
    (h : Among bs cs field kind value text.toList) :
    ∃ d : Descriptor, d.field = field ∧ d.operator = op ∧ d.value = some t ∧
      parse text = .ok (bs ++ d :: cs) := by
  obtain ⟨before, after, listed, made, made'⟩ := h.listed written
  have length := made.length_eq
  have length' := made'.length_eq
  have within : Within text (before ++ ⟨field, kind, v⟩ :: after) := by
    refine ⟨h.not_blank, short, listed, ?_⟩
    simp only [List.length_append, List.length_cons] at few ⊢
    omega
  refine ⟨⟨field, op, some t, named, fun _ => by simp [hasContent, given]⟩, rfl, rfl, rfl, ?_⟩
  exact parse_ok_iff.2 (.inr ⟨_, within, List.rel_append made (.cons ⟨rfl, names, compares⟩ made')⟩)

/-- What a filter binds tells its value, if it has one. -/
theorem params_condition_iff {d e : Descriptor} (same : d.operator = e.operator)
    (takes : e.operator.takesValue = true) :
    d.condition.params = e.condition.params ↔ d.value.getD "" = e.value.getD "" := by
  cases operator : e.operator with
  | isEmpty =>
    rw [operator] at takes
    cases takes
  | _ => simp [Descriptor.condition, same, operator, Condition.params, ← String.toList_inj]

/-- **Filters that differ in one value bind different parameters.** -/
theorem params_compile_iff {d e : Descriptor} (same : d.operator = e.operator)
    (takes : e.operator.takesValue = true) (search : Option String) (columns : List String) :
    (compile (bs ++ d :: cs) search columns).params = (compile (bs ++ e :: cs) search columns).params ↔
      d.value.getD "" = e.value.getD "" := by
  rw [← params_condition_iff same takes]
  simp only [compile, Predicate.params, List.flatMap_append, List.map_append, List.map_cons,
    List.flatMap_cons, List.append_assoc, List.append_cancel_left_eq, List.append_cancel_right_eq]

/-! ## 4. Every numeral -/

/-- **What becomes of a numeral `n` of JSON as the value of a filter.** Written as a string it is the value
    as it stands. Written as a number it makes the whole text malformed if `toNum` refuses it, and otherwise
    the value is the text of the number `x` that `toNum` gives. This is the text of `n` exactly if `n.Kept`,
    and only then the compiled parameters are the same. An integer is `Kept` exactly if it lies in `[-2^63,
    2^64)` and is not `-0`; a numeral that is `Brief` is never refused, and is `Kept` exactly if it is an
    integer other than `-0`, or `Tidy`. -/
theorem parse_numeral {n : Numeral} (inJson : n.InJson) (names : Names kind op)
    (takes : op.takesValue = true) (named : Text.isBlankText field = false)
    (few : (bs ++ cs).length < maxCount) {number string : String} {quoted : List Char}
    (shortNumber : number.utf8ByteSize ≤ maxBytes) (shortString : string.utf8ByteSize ≤ maxBytes)
    (spelt : StringText (String.ofList n.chars) quoted)
    (asNumber : Among bs cs field kind n.chars number.toList)
    (asString : Among bs cs field kind quoted string.toList) :
    ∃ e : Descriptor, e.field = field ∧ e.operator = op ∧ e.value = some (String.ofList n.chars) ∧
      parse string = .ok (bs ++ e :: cs) ∧
      ((∀ x, n.toNum ≠ .ok x) → ∃ cause, parse number = .error (.malformed cause)) ∧
      (∀ x, n.toNum = .ok x → ∃ d : Descriptor, d.field = field ∧ d.operator = op ∧
        d.value = some x.text ∧ parse number = .ok (bs ++ d :: cs) ∧
        (d.value = some (String.ofList n.chars) ↔ n.Kept) ∧
        ∀ search columns, (compile (bs ++ d :: cs) search columns).params =
          (compile (bs ++ e :: cs) search columns).params ↔ n.Kept) ∧
      (n.IsInteger →
        (n.Kept ↔ n.chars ≠ ['-', '0'] ∧ -2 ^ 63 ≤ n.toRat ∧ n.toRat < 2 ^ 64)) ∧
      (n.Brief → (∃ x, n.toNum = .ok x) ∧
        (n.Kept ↔ n.IsInteger ∧ n.chars ≠ ['-', '0'] ∨ n.Tidy)) := by
  have given : Text.isBlankText (String.ofList n.chars) = false :=
    not_blank_of_chars inJson String.toList_ofList
  obtain ⟨e, field', operator', value', parsed'⟩ :=
    asString.parse_eq names named (.string _) given ⟨nofun, .of_scalar (.string spelt)⟩ few shortString
  refine ⟨e, field', operator', value', parsed', fun out => ?_, fun x read => ?_,
    fun plain => plain.kept_iff, fun brief => ⟨brief.exists_toNum, brief.kept_iff⟩⟩
  · exact parse_of_not_within asNumber.not_blank fun items within =>
      asNumber.not_listed inJson out items within.listed
  · obtain ⟨d, field, operator, value, parsed⟩ :=
      asNumber.parse_eq names named (.number x) (not_blank_text inJson read)
        ⟨nofun, .of_scalar (.number inJson read)⟩ few shortNumber
    have kept : x.text = String.ofList n.chars ↔ n.Kept := by
      rw [← n.text_eq_chars_iff inJson read, ← String.toList_inj, String.toList_ofList]
    refine ⟨d, field, operator, value, parsed, by rw [value, Option.some.injEq, kept], ?_⟩
    intro search columns
    rw [params_compile_iff (operator.trans operator'.symm) (by rw [operator', takes]), value, value',
      Option.getD_some, Option.getD_some, kept]

section Alone

/-- The list of one filter whose value is written in a given way. -/
def alone (field kind : String) (value : List Char) : List Char :=
  '[' :: '{' :: (memberChars "field" field ++ ',' :: (memberChars "type" kind ++
    ',' :: '"' :: ("value".toList ++ '"' :: ':' :: (value ++ ['}', ']']))))

theorem among_alone (field kind : String) (value : List Char) :
    Among [] [] field kind value (alone field kind value) := by
  have comma : Json.Lead false [','] := .further .nil .nil
  have key : KeyText "value" "value".toList := by
    have spelt : KeyText "value" (Json.escape "value".toList) := Json.spells_escape _
    rwa [show Json.escape "value".toList = "value".toList by decide] at spelt
  have members := @membersText_memberChars "field" field _ [] _ _ (.first .nil)
    (@membersText_memberChars "type" kind _ _ _ _ comma
      (.member (p := value) comma key .nil .nil (.close .nil)))
  have item : ItemWith field kind value _ :=
    .object members ⟨⟨_, rfl, Json.stringText_stringChars _⟩, ⟨_, rfl, Json.stringText_stringChars _⟩,
      rfl, by simp [itemKeys]⟩
  have list : Among [] [] field kind value _ := .array .nil .nil item .nil
    (.item (.first .nil) (.close .nil)) .nil
  simpa [alone] using list

/-- An integer of more than 64 bits. -/
def longNumber : Numeral := .ofNat 20240115093000123456

/-- A negative number with a fraction. -/
def minusTwelve : Numeral where
  sign := ['-']
  integral := ['1', '2']
  fraction := some ['5']
  exponent := none
  sign_of := .inr (.inl rfl)
  given := by simp
  all_digits := by simp [Text.isDigit]

theorem inJson_minusTwelve : minusTwelve.InJson :=
  ⟨by decide, by decide, by decide, by simp [minusTwelve]⟩

theorem tidy_minusTwelve : minusTwelve.Tidy :=
  .pointed rfl rfl (.inr (by decide)) (by decide) (by decide)

/-- A negative number with a fraction, compared with as it stands. -/
theorem parse_numeral_minusTwelve :
    let number := "[\x7b\"field\":\"A\",\"type\":\"lessThan\",\"value\":-12.5\x7d]"
    let string := "[\x7b\"field\":\"A\",\"type\":\"lessThan\",\"value\":\"-12.5\"\x7d]"
    minusTwelve.InJson ∧ Names "lessThan" .lessThan ∧ Operator.lessThan.takesValue = true ∧
      Text.isBlankText "A" = false ∧ number.utf8ByteSize ≤ maxBytes ∧ string.utf8ByteSize ≤ maxBytes ∧
      StringText (String.ofList minusTwelve.chars) (Json.stringChars minusTwelve.chars) ∧
      Among [] [] "A" "lessThan" minusTwelve.chars number.toList ∧
      Among [] [] "A" "lessThan" (Json.stringChars minusTwelve.chars) string.toList ∧
      minusTwelve.Brief ∧
      ∃ d : Descriptor, parse number = .ok [d] ∧ parse string = .ok [d] ∧ d.value = some "-12.5" := by
  intro number string
  have short : number.utf8ByteSize ≤ maxBytes := by decide +kernel
  have short' : string.utf8ByteSize ≤ maxBytes := by decide +kernel
  have spelt : StringText (String.ofList minusTwelve.chars) (Json.stringChars minusTwelve.chars) := by
    simpa using Json.stringText_stringChars (String.ofList minusTwelve.chars)
  have asNumber : Among [] [] "A" "lessThan" minusTwelve.chars number.toList := by
    have list := among_alone "A" "lessThan" minusTwelve.chars
    rwa [show alone "A" "lessThan" minusTwelve.chars = number.toList by decide +kernel] at list
  have asString : Among [] [] "A" "lessThan" (Json.stringChars minusTwelve.chars) string.toList := by
    have list := among_alone "A" "lessThan" (Json.stringChars minusTwelve.chars)
    rwa [show alone "A" "lessThan" (Json.stringChars minusTwelve.chars) = string.toList by
      decide +kernel] at list
  have brief : minusTwelve.Brief := ⟨by decide, by decide⟩
  have names : Names "lessThan" .lessThan := .inr rfl
  obtain ⟨e, field', operator', value', parsed', -, within, -, few⟩ := parse_numeral inJson_minusTwelve names
    rfl (by decide : Text.isBlankText "A" = false) (by decide) short short' spelt asNumber asString
  obtain ⟨⟨x, read⟩, kept⟩ := few brief
  obtain ⟨d, field, operator, -, parsed, value, -⟩ := within x read
  have same : d.value = some (String.ofList minusTwelve.chars) :=
    value.2 (kept.2 (.inr tidy_minusTwelve))
  have text : String.ofList minusTwelve.chars = "-12.5" := by decide
  have equal : e = d := by
    cases e
    cases d
    simp_all
  exact ⟨inJson_minusTwelve, names, rfl, by decide, short, short', spelt, asNumber, asString, brief,
    d, parsed, by rw [← equal]; exact parsed', by rw [same, text]⟩

/-- A number does not always keep its text: a long one is compared with as it is rounded. -/
theorem long_number_rounded : ¬ ∀ (n : Numeral) (field kind number : String) (op : Operator)
    (bs cs : List Descriptor), n.InJson → Names kind op → op.takesValue = true →
      Text.isBlankText field = false → (bs ++ cs).length < maxCount → number.utf8ByteSize ≤ maxBytes →
      Among bs cs field kind n.chars number.toList →
      ∃ d : Descriptor, parse number = .ok (bs ++ d :: cs) ∧ d.value = some (String.ofList n.chars) := by
  intro claim
  have inJson : longNumber.InJson := Numeral.inJson_ofNat _
  have lost : ¬ longNumber.Kept := by
    have plain : longNumber.IsInteger := ⟨rfl, rfl⟩
    have value : longNumber.toRat = 20240115093000123456 := Numeral.magnitude_ofNat _
    rw [plain.kept_iff, value]
    norm_num
  have list := among_alone "A" "equals" longNumber.chars
  rw [← String.toList_ofList (l := alone "A" "equals" longNumber.chars)] at list
  have short : (String.ofList (alone "A" "equals" longNumber.chars)).utf8ByteSize ≤ maxBytes := by
    decide +kernel
  have names : Names "equals" .equals := .inl rfl
  obtain ⟨e, parsed, value⟩ := claim longNumber "A" "equals" _ .equals [] [] inJson names rfl (by decide)
    (by decide) short list
  by_cases range : ∃ x, longNumber.toNum = .ok x
  · obtain ⟨x, read⟩ := range
    obtain ⟨d, -, -, value', parsed'⟩ := list.parse_eq names (by decide) (.number x)
      (not_blank_text inJson read) ⟨nofun, .of_scalar (.number inJson read)⟩ (by decide) short
    obtain rfl : d = e := (List.cons.inj (Except.ok.inj (parsed'.symm.trans parsed))).1
    rw [value', Option.some.injEq, ← String.toList_inj, String.toList_ofList,
      longNumber.text_eq_chars_iff inJson read] at value
    exact lost value
  · obtain ⟨cause, refused⟩ := parse_of_not_within list.not_blank fun items within =>
      list.not_listed inJson (not_exists.1 range) items within.listed
    rw [refused] at parsed
    cases parsed

end Alone

end Dataset.Filter
