import Dataset.Proofs.Json.Skipping
import Dataset.Proofs.Number.Notation

/-!
# The parts of a text

A text that has the form of an array or of an object has it in one way, whatever its parts stand for, and
what stands for a value has the form of one.

* `Form.parts_eq`: where a part begins and ends;
* **`ItemsText.unique`**, **`MembersText.unique`**: the items of an array, and the members of an object;
* **`Value.form`**: what stands for a value has the form of a value;
* `Value.of_number`: a numeral stands for the number that is read of it, and for nothing else.
-/

namespace Dataset.Json

open Number (Numeral Ends)

variable {w w' p p' r r' s s' : List Char} {first : Bool}

/-! ## 1. One way to be taken apart -/

/-- Behind white space, a part ends where it ends. -/
theorem Form.parts_eq (form : Form p) (form' : Form p') (blank : Blank w) (blank' : Blank w')
    (ends : Ends r) (ends' : Ends r') (same : w ++ (p ++ r) = w' ++ (p' ++ r')) :
    p = p' ∧ r = r' := by
  have read := (reads_skipValue ()).complete blank ⟨rfl, form⟩ ends
  have read' := (reads_skipValue ()).complete blank' ⟨rfl, form'⟩ ends'
  rw [same] at read
  obtain rfl := (Prod.mk.inj (Except.ok.inj (read.symm.trans read'))).2
  rw [← List.append_assoc, ← List.append_assoc, List.append_cancel_right_eq] at same
  obtain ⟨c, tail, rfl, solid, -⟩ := form.solid
  obtain ⟨c', tail', rfl, solid', -⟩ := form'.solid
  have start := congrArg skipSpace same
  rw [skipSpace_append blank solid, skipSpace_append blank' solid'] at start
  exact ⟨start, rfl⟩

/-- **The items of an array are told from its text.** -/
theorem ItemsText.unique {ps ps' : List (List Char)} (h : ItemsText first ps s)
    (h' : ItemsText first ps' s') (forms : ∀ p ∈ ps, Form p) (forms' : ∀ p ∈ ps', Form p)
    (same : s ++ r = s' ++ r') : ps = ps' := by
  induction h generalizing ps' s' with
  | @close first w blank =>
    have next := nextItem_close first blank r
    cases h' with
    | close => rfl
    | @item _ w' p' s' ps' lead behind =>
      have next' := nextItem_lead lead (forms' p' (.head _)).solid (s' ++ r')
      simp only [List.append_assoc, List.singleton_append] at same next'
      rw [same, next'] at next
      cases next
  | @item first w p s ps lead behind ih =>
    have next := nextItem_lead lead (forms p (.head _)).solid (s ++ r)
    cases h' with
    | @close _ w' blank =>
      have next' := nextItem_close first blank r'
      simp only [List.append_assoc, List.singleton_append] at same next
      rw [same, next'] at next
      cases next
    | @item _ w' p' s' ps' lead' behind' =>
      have next' := nextItem_lead lead' (forms' p' (.head _)).solid (s' ++ r')
      simp only [List.append_assoc] at same
      rw [same, next'] at next
      have start := (Prod.mk.inj (Except.ok.inj next)).2
      obtain ⟨rfl, rest⟩ := (forms p (.head _)).parts_eq (forms' p' (.head _)) .nil .nil
        (behind.ends r) (behind'.ends r') start.symm
      rw [ih behind' (fun q hq => forms q (.tail _ hq)) (fun q hq => forms' q (.tail _ hq)) rest]

/-- Up to the colon behind it, a key is what it spells. -/
theorem keyText_parts_eq {key key' : String} {body body' before before' t t' : List Char}
    (spelt : KeyText key body) (spelt' : KeyText key' body') (blank : Blank before)
    (blank' : Blank before')
    (same : body ++ '"' :: (before ++ ':' :: t) = body' ++ '"' :: (before' ++ ':' :: t')) :
    key = key' ∧ t = t' := by
  have read : readKey (body ++ '"' :: (before ++ ':' :: t)) = .ok (key.toList, t) :=
    readKey_ok_iff.2 ⟨body, before, spelt, blank, rfl⟩
  have read' : readKey (body' ++ '"' :: (before' ++ ':' :: t')) = .ok (key'.toList, t') :=
    readKey_ok_iff.2 ⟨body', before', spelt', blank', rfl⟩
  rw [same, read'] at read
  obtain ⟨keys, rest⟩ := Prod.mk.inj (Except.ok.inj read)
  exact ⟨(String.toList_inj.1 keys).symm, rest.symm⟩

/-- **The members of an object are told from its text.** -/
theorem MembersText.unique {ms ms' : List (String × List Char)} (h : MembersText KeyText first ms s)
    (h' : MembersText KeyText first ms' s') (forms : ∀ m ∈ ms, Form m.2) (forms' : ∀ m ∈ ms', Form m.2)
    (same : s ++ r = s' ++ r') : ms = ms' := by
  induction h generalizing ms' s' with
  | @close first w blank =>
    have next := nextKey_close first blank r
    cases h' with
    | close => rfl
    | member lead =>
      have next' := nextKey_lead lead
      simp only [List.append_assoc, List.nil_append, List.cons_append] at same
      rw [same, next'] at next
      cases next
  | @member first w body before behind p s key ms lead spelt blank blank₂ later ih =>
    cases h' with
    | @close _ w' blank =>
      have next' := nextKey_close first blank r'
      simp only [List.append_assoc, List.nil_append, List.cons_append] at same
      rw [← same, nextKey_lead lead] at next'
      cases next'
    | @member _ w' body' before' behind' p' s' key' ms' lead' spelt' blank' blank₂' later' =>
      simp only [List.append_assoc, List.cons_append] at same
      have next := nextKey_lead lead (body ++ '"' :: (before ++ ':' :: (behind ++ (p ++ (s ++ r)))))
      rw [same, nextKey_lead lead'] at next
      obtain ⟨rfl, start⟩ := keyText_parts_eq spelt' spelt blank' blank
        (Prod.mk.inj (Except.ok.inj next)).2
      obtain ⟨rfl, rest⟩ := (forms (key', p) (.head _)).parts_eq (forms' (key', p') (.head _)) blank₂
        blank₂' (later.ends r) (later'.ends r') start.symm
      rw [ih later' (fun m hm => forms m (.tail _ hm)) (fun m hm => forms' m (.tail _ hm)) rest]

/-! ## 2. What stands for a value has its form -/

/-- A string that is spelled has the form of one: the halves of a pair are escapes by themselves. -/
theorem Spells.form {cs body : List Char} (h : Spells cs body) : StringForm body := by
  induction h with
  | nil => exact .nil
  | plain noMark noEscape noControl _ ih => exact .plain noMark noEscape noControl ih
  | escape escape _ ih =>
    cases escape with
    | letter among => exact .escape (.letter among) ih
    | code code =>
      cases code with
      | single hex => exact .escape (.code hex) ih
      | @pair high low ds ds' hex _ hex' _ =>
        have second := StringForm.escape (.code hex') ih
        have both := StringForm.escape (.code hex) second
        simpa using both

theorem StringText.form {s : String} (text : StringText s p) : Form p := by
  cases text with
  | marks spells => exact .string spells.form

theorem Scalar.form {v : Json} (h : Scalar v p) : Form p := by
  cases h with
  | null => exact .word (by decide)
  | true => exact .word (by decide)
  | false => exact .word (by decide)
  | number inJson _ => exact .number inJson
  | string text => exact text.form

/-- Members whose keys are spelled have the form of members. -/
theorem MembersText.form {ms : List (String × List Char)} (h : MembersText KeyText first ms s) :
    MembersText (fun _ => StringForm) first (ms.map fun m => ((), m.2)) s := by
  induction h with
  | close blank => exact .close blank
  | member lead spelt blank blank' _ ih => exact .member lead (Spells.form spelt) blank blank' ih

/-- Members that have the form of values make an object that has it. -/
theorem Form.of_members {ms : List (String × List Char)} (members : MembersText KeyText true ms s)
    (forms : ∀ m ∈ ms, Form m.2) : Form ('{' :: s) := by
  refine .object members.form fun m hm => ?_
  obtain ⟨m', hm', rfl⟩ := List.mem_map.1 hm
  exact forms m' hm'

/-- Members that move a state on by the values of their texts have such texts. -/
theorem Folds.forms {G : Json → List Char → Prop} (form : ∀ {v p}, G v p → Form p)
    {a b : List (String × Json)} {ms : List (String × List Char)} (h : Folds (Puts G) a ms b) :
    ∀ m ∈ ms, Form m.2 := by
  induction h with
  | nil => simp
  | cons puts _ ih =>
    obtain ⟨v, text, -⟩ := puts
    exact List.forall_mem_cons.2 ⟨form text, ih⟩

/-- Each part of the second list goes with one of the first. -/
theorem exists_of_forall₂ {α β : Type} {R : α → β → Prop} {as : List α} {bs : List β}
    (h : List.Forall₂ R as bs) {b : β} (hb : b ∈ bs) : ∃ a ∈ as, R a b := by
  induction h with
  | nil => cases hb
  | cons first _ ih =>
    cases hb with
    | head => exact ⟨_, .head _, first⟩
    | tail _ hb =>
      obtain ⟨a, ha, related⟩ := ih hb
      exact ⟨a, .tail _ ha, related⟩

/-- **What stands for a value has the form of a value.** -/
theorem Value.form {k : Nat} {v : Json} (h : Value k v p) : Form p := by
  induction k generalizing v p with
  | zero => exact Scalar.form h
  | succ k ih =>
    rcases h with scalar | composite
    · exact scalar.form
    · cases composite with
      | @array vs ps s items values =>
        refine .array items fun q hq => ?_
        obtain ⟨v, -, text⟩ := exists_of_forall₂ values hq
        exact ih text
      | object members folds => exact .of_members members (folds.forms ih)

/-- **A numeral stands for the number that is read of it**, and for nothing else. -/
theorem Value.of_number {k : Nat} {v : Json} {n : Numeral} (inJson : n.InJson)
    (h : Value k v n.chars) : ∃ x, n.toNum = .ok x ∧ v = .number x := by
  obtain ⟨c, rest, chars, starts⟩ := startsNumber_chars inJson
  have ofScalar (scalar : Scalar v n.chars) : ∃ x, n.toNum = .ok x ∧ v = .number x := by
    generalize text : n.chars = p at scalar
    cases scalar with
    | @number m x _ read =>
      obtain rfl := Numeral.eq_of_chars text
      exact ⟨x, read, rfl⟩
    | null | true | false =>
      rw [chars] at text
      rw [(List.cons.inj text).1] at starts
      exact absurd starts (by decide)
    | string text' =>
      cases text'
      rw [chars] at text
      rw [(List.cons.inj text).1] at starts
      exact absurd starts (by decide)
  cases k with
  | zero => exact ofScalar h
  | succ k =>
    rcases h with scalar | composite
    · exact ofScalar scalar
    · generalize text : n.chars = p at composite
      rw [chars] at text
      cases composite <;>
        (rw [(List.cons.inj text).1] at starts; exact absurd starts (by decide))

end Dataset.Json
