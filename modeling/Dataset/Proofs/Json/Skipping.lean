import Dataset.Proofs.Json.Reading

/-!
# Passing over what has the form of a value

What is passed over is exactly what has the form of a value, however deep it is and whether it stands for
a value or not.

* `skipItems_complete`, `skipMembers_complete`: arrays and objects are passed over whole;
* **`reads_skipValue`**: every text that has the form of a value is passed over, and nothing else.
-/

namespace Dataset.Json

open Number (Ends)

variable {s w rest : List Char} {fuel : Nat}

/-! ## 1. What is passed over -/

/-- The members of an object of which only the form matters. -/
abbrev MembersForm : Bool → List (Unit × List Char) → List Char → Prop :=
  MembersText fun _ => StringForm

/-- With some fuel only what has the form of values is passed over, and of items and members; before a
    member stands what separates it from others. -/
structure SkipsWith (fuel : Nat) : Prop where
  value : ∀ {s rest : List Char}, skipValueWith fuel s = .ok rest →
    ∃ w p, Blank w ∧ s = w ++ (p ++ rest) ∧ Form p
  items : ∀ {first : Bool} {s rest : List Char}, skipItems fuel first s = .ok rest →
    ∃ ps p, s = p ++ rest ∧ ItemsText first ps p ∧ ∀ q ∈ ps, Form q
  members : ∀ {first : Bool} {s rest : List Char}, skipMembers fuel first s = .ok rest →
    ∃ ms p, s = p ++ rest ∧ MembersForm first ms p ∧ ∀ m ∈ ms, Form m.2
  member : ∀ {first : Bool} {w s rest : List Char}, Lead first w → skipMember fuel s = .ok rest →
    ∃ ms p, w ++ s = p ++ rest ∧ MembersForm first ms p ∧ ∀ m ∈ ms, Form m.2

theorem SkipsWith.value_succ (skips : SkipsWith fuel) (h : skipValueWith (fuel + 1) s = .ok rest) :
    ∃ w p, Blank w ∧ s = w ++ (p ++ rest) ∧ Form p := by
  rw [skipValueWith] at h
  split at h
  · cases h
  · rename_i tail start
    obtain ⟨w, blank, rfl⟩ := of_skipSpace start
    rw [readWord_ok_iff.1 h]
    exact ⟨w, _, blank, rfl, .word (.head _)⟩
  · rename_i tail start
    obtain ⟨w, blank, rfl⟩ := of_skipSpace start
    rw [readWord_ok_iff.1 h]
    exact ⟨w, _, blank, rfl, .word (.tail _ (.head _))⟩
  · rename_i tail start
    obtain ⟨w, blank, rfl⟩ := of_skipSpace start
    rw [readWord_ok_iff.1 h]
    exact ⟨w, _, blank, rfl, .word (.tail _ (.tail _ (.head _)))⟩
  · rename_i tail start
    obtain ⟨w, blank, rfl⟩ := of_skipSpace start
    obtain ⟨body, rfl, form⟩ := skipString_ok_iff.1 h
    exact ⟨w, '"' :: (body ++ ['"']), blank, by simp, .string form⟩
  · rename_i tail start
    obtain ⟨w, blank, rfl⟩ := of_skipSpace start
    obtain ⟨ps, p, rfl, items, forms⟩ := skips.items h
    exact ⟨w, '[' :: p, blank, rfl, .array items forms⟩
  · rename_i tail start
    obtain ⟨w, blank, rfl⟩ := of_skipSpace start
    obtain ⟨ms, p, rfl, members, forms⟩ := skips.members h
    exact ⟨w, '{' :: p, blank, rfl, .object members forms⟩
  · rename_i c tail _ _ _ _ _ _ start
    obtain ⟨w, blank, rfl⟩ := of_skipSpace start
    split_ifs at h with starts
    obtain ⟨n, inJson, split, -⟩ := Number.skipNumber_ok_iff.1 h
    exact ⟨w, n.chars, blank, by rw [split], .number inJson⟩

theorem SkipsWith.items_succ (skips : SkipsWith fuel) {first : Bool}
    (h : skipItems (fuel + 1) first s = .ok rest) :
    ∃ ps p, s = p ++ rest ∧ ItemsText first ps p ∧ ∀ q ∈ ps, Form q := by
  -- an item behind what separates it from others, and the items behind it
  have further {v tail : List Char} (lead : Lead first v)
      (passed : (do skipItems fuel false (← skipValueWith fuel tail)) = .ok rest) :
      ∃ ps p, v ++ tail = p ++ rest ∧ ItemsText first ps p ∧ ∀ q ∈ ps, Form q := by
    obtain ⟨tail', item, others⟩ := exists_ok_of_bind passed
    obtain ⟨w, p, blank, rfl, form⟩ := skips.value item
    obtain ⟨ps, q, rfl, items, forms⟩ := skips.items others
    exact ⟨p :: ps, (v ++ w) ++ (p ++ q), by simp, .item (lead.append blank) items,
      List.forall_mem_cons.2 ⟨form, forms⟩⟩
  rw [skipItems] at h
  split at h
  · cases h
  · rename_i c tail start
    obtain ⟨w, blank, rfl⟩ := of_skipSpace start
    split_ifs at h with close isFirst comma
    · obtain rfl := Except.ok.inj h
      exact ⟨[], w ++ [']'], by simp [close], .close blank, nofun⟩
    · exact further (isFirst ▸ .first blank) h
    · obtain rfl : first = false := by simpa using isFirst
      obtain ⟨ps, p, split, items⟩ := further (.further blank .nil) h
      exact ⟨ps, p, by rw [← split, comma, List.append_assoc, List.singleton_append], items⟩

theorem SkipsWith.members_succ (skips : SkipsWith fuel) {first : Bool}
    (h : skipMembers (fuel + 1) first s = .ok rest) :
    ∃ ms p, s = p ++ rest ∧ MembersForm first ms p ∧ ∀ m ∈ ms, Form m.2 := by
  rw [skipMembers] at h
  split at h
  · cases h
  · rename_i c tail start
    obtain ⟨w, blank, rfl⟩ := of_skipSpace start
    split_ifs at h with close isFirst comma
    · obtain rfl := Except.ok.inj h
      exact ⟨[], w ++ ['}'], by simp [close], .close blank, nofun⟩
    · exact skips.member (isFirst ▸ .first blank) h
    · obtain rfl : first = false := by simpa using isFirst
      obtain ⟨ms, p, split, members⟩ := skips.member (.further blank .nil) h
      exact ⟨ms, p, by rw [← split, comma, List.append_assoc, List.singleton_append], members⟩

theorem SkipsWith.member_succ (skips : SkipsWith fuel) {first : Bool} (lead : Lead first w)
    (h : skipMember (fuel + 1) s = .ok rest) :
    ∃ ms p, w ++ s = p ++ rest ∧ MembersForm first ms p ∧ ∀ m ∈ ms, Form m.2 := by
  rw [skipMember] at h
  split at h
  · cases h
  · rename_i c tail start
    obtain ⟨v, blank, rfl⟩ := of_skipSpace start
    split_ifs at h with mark
    obtain ⟨tail', key, named⟩ := exists_ok_of_bind h
    obtain ⟨body, rfl, keyForm⟩ := skipString_ok_iff.1 key
    split at named
    · cases named
    · rename_i d tail'' next
      obtain ⟨before, blank', rfl⟩ := of_skipSpace next
      split_ifs at named with colon
      obtain ⟨rest', value, others⟩ := exists_ok_of_bind named
      obtain ⟨behind, p, blank'', rfl, form⟩ := skips.value value
      obtain ⟨ms, q, rfl, members, forms⟩ := skips.members others
      refine ⟨((), p) :: ms, _, ?_, .member (lead.append blank) keyForm blank' blank'' members,
        List.forall_mem_cons.2 ⟨form, forms⟩⟩
      simp [mark, colon]

theorem skipsWith : ∀ fuel, SkipsWith fuel
  | 0 => ⟨nofun, nofun, nofun, nofun⟩
  | fuel + 1 =>
    have skips := skipsWith fuel
    ⟨skips.value_succ, skips.items_succ, skips.members_succ, skips.member_succ⟩

/-! ## 2. What has the form of a value -/

/-- With twice as much fuel as it is long, a text is passed over. -/
def Passed (p : List Char) : Prop := ∀ {w rest : List Char} {fuel : Nat}, Blank w → Ends rest →
  2 * p.length ≤ fuel → skipValueWith fuel (w ++ (p ++ rest)) = .ok rest

theorem skipItems_complete {first : Bool} {ps : List (List Char)} {p : List Char}
    (items : ItemsText first ps p) (rest : List Char) :
    ∀ {fuel : Nat}, (∀ q ∈ ps, Form q ∧ Passed q) → 2 * p.length ≤ fuel →
      skipItems fuel first (p ++ rest) = .ok rest := by
  induction items with
  | @close first w blank =>
    intro fuel _ enough
    rw [List.length_append, List.length_singleton] at enough
    obtain ⟨fuel, rfl⟩ : ∃ j, fuel = j + 1 := ⟨fuel - 1, by omega⟩
    rw [List.append_assoc, List.singleton_append, skipItems, skipSpace_append blank (by decide)]
    rfl
  | @item first w p s ps lead others ih =>
    intro fuel forms enough
    obtain ⟨⟨form, passed⟩, forms⟩ := List.forall_mem_cons.1 forms
    have some_text := form.solid.length_pos
    have closing := others.length_pos
    simp only [List.length_append] at enough
    obtain ⟨fuel, rfl⟩ : ∃ j, fuel = j + 1 := ⟨fuel - 1, by omega⟩
    have later : skipItems fuel false (s ++ rest) = .ok rest := ih forms (by omega)
    have value {v : List Char} (blank : Blank v) :
        skipValueWith fuel (v ++ (p ++ (s ++ rest))) = .ok (s ++ rest) :=
      passed blank (others.ends rest) (by omega)
    rw [List.append_assoc, List.append_assoc, skipItems]
    cases lead with
    | first blank =>
      obtain ⟨c, tail, rfl, noSpace, noClose⟩ := form.solid
      rw [List.cons_append, skipSpace_append blank noSpace]
      simp only
      rw [if_neg noClose, if_pos trivial]
      have here := value .nil
      rw [List.nil_append, List.cons_append] at here
      rw [here, ok_bind, later]
    | further before behind =>
      rw [List.append_assoc, List.cons_append, skipSpace_append before (by decide)]
      simp only
      rw [if_neg (by decide), if_neg (by decide), if_pos trivial, value behind, ok_bind, later]

/-- A member behind what separates it from others is passed over, and those behind it. -/
theorem skipMember_complete {w body before behind p s : List Char} (blank : Blank w)
    (keyForm : StringForm body) (blank' : Blank before) (blank'' : Blank behind) (passed : Passed p)
    (ends : Ends (s ++ rest)) (enough : 2 * p.length ≤ fuel)
    (others : skipMembers fuel false (s ++ rest) = .ok rest) :
    skipMember (fuel + 1)
        (w ++ '"' :: (body ++ '"' :: (before ++ ':' :: (behind ++ (p ++ (s ++ rest)))))) =
      .ok rest := by
  rw [skipMember, skipSpace_append blank (by decide)]
  simp only
  rw [if_pos trivial, skipString_ok_iff.2 ⟨body, rfl, keyForm⟩, ok_bind,
    skipSpace_append blank' (by decide)]
  simp only
  rw [if_pos trivial, passed blank'' ends enough, ok_bind, others]

theorem skipMembers_complete {first : Bool} {ms : List (Unit × List Char)} {p : List Char}
    (members : MembersForm first ms p) (rest : List Char) :
    ∀ {fuel : Nat}, (∀ m ∈ ms, Form m.2 ∧ Passed m.2) → 2 * p.length ≤ fuel →
      skipMembers fuel first (p ++ rest) = .ok rest := by
  induction members with
  | @close first w blank =>
    intro fuel _ enough
    rw [List.length_append, List.length_singleton] at enough
    obtain ⟨fuel, rfl⟩ : ∃ j, fuel = j + 1 := ⟨fuel - 1, by omega⟩
    rw [List.append_assoc, List.singleton_append, skipMembers, skipSpace_append blank (by decide)]
    rfl
  | @member first w body before behind p s key ms lead keyForm blank' blank'' others ih =>
    intro fuel forms enough
    obtain ⟨⟨form, passed⟩, forms⟩ := List.forall_mem_cons.1 forms
    simp only [List.length_append, List.length_cons] at enough
    obtain ⟨fuel, rfl⟩ : ∃ j, fuel = j + 2 := ⟨fuel - 2, by omega⟩
    have later : skipMembers fuel false (s ++ rest) = .ok rest := ih forms (by omega)
    have short : 2 * p.length ≤ fuel := by omega
    have member {v : List Char} (blank : Blank v) := skipMember_complete blank keyForm blank' blank''
      passed (others.ends rest) short later
    simp only [List.append_assoc, List.cons_append]
    rw [skipMembers]
    cases lead with
    | first blank =>
      rw [skipSpace_append blank (by decide)]
      simp only
      rw [if_neg (by decide), if_pos trivial]
      exact member .nil
    | further front back =>
      rw [List.append_assoc, List.cons_append, skipSpace_append front (by decide)]
      simp only
      rw [if_neg (by decide), if_neg (by decide), if_pos trivial]
      exact member back

theorem Form.passed {p : List Char} (h : Form p) : Passed p := by
  have positive := h.solid.length_pos
  induction h with
  | word among =>
    intro w rest fuel blank ends enough
    obtain ⟨fuel, rfl⟩ : ∃ j, fuel = j + 1 := ⟨fuel - 1, by omega⟩
    simp only [words, List.mem_cons, List.not_mem_nil, or_false] at among
    rcases among with rfl | rfl | rfl
    all_goals
      rw [skipValueWith, List.cons_append, skipSpace_append blank (by decide)]
      rfl
  | @number n inJson =>
    intro w rest fuel blank ends enough
    obtain ⟨fuel, rfl⟩ : ∃ j, fuel = j + 1 := ⟨fuel - 1, by omega⟩
    obtain ⟨c, tail, chars, starts⟩ := startsNumber_chars inJson
    have passed : skipNumber (c :: (tail ++ rest)) = .ok rest :=
      Number.skipNumber_ok_iff.2 ⟨n, inJson, by rw [chars]; rfl, ends.stops n⟩
    rw [chars, List.cons_append, skipValueWith, skipSpace_append blank (of_startsNumber starts).1]
    split
    · rename_i none
      cases none
    iterate 6
      · rename_i same
        rw [(List.cons.inj same).1] at starts
        exact absurd starts (by decide)
    · rename_i d tail' _ _ _ _ _ _ same
      obtain ⟨rfl, rfl⟩ := List.cons.inj same
      rw [if_pos starts, passed]
  | @string body form =>
    intro w rest fuel blank ends enough
    obtain ⟨fuel, rfl⟩ : ∃ j, fuel = j + 1 := ⟨fuel - 1, by omega⟩
    rw [skipValueWith, List.cons_append, skipSpace_append blank (by decide), List.append_assoc]
    exact skipString_ok_iff.2 ⟨body, rfl, form⟩
  | array items forms ih =>
    intro w rest fuel blank ends enough
    obtain ⟨fuel, rfl⟩ : ∃ j, fuel = j + 1 := ⟨fuel - 1, by omega⟩
    rw [List.length_cons] at enough
    rw [skipValueWith, List.cons_append, skipSpace_append blank (by decide)]
    exact skipItems_complete items rest
      (fun q hq => ⟨forms q hq, ih q hq (forms q hq).solid.length_pos⟩) (by omega)
  | object members forms ih =>
    intro w rest fuel blank ends enough
    obtain ⟨fuel, rfl⟩ : ∃ j, fuel = j + 1 := ⟨fuel - 1, by omega⟩
    rw [List.length_cons] at enough
    rw [skipValueWith, List.cons_append, skipSpace_append blank (by decide)]
    exact skipMembers_complete members rest
      (fun m hm => ⟨forms m hm, ih m hm (forms m hm).solid.length_pos⟩) (by omega)

/-- **Exactly what has the form of a value is passed over.** -/
theorem reads_skipValue {α : Type} (a : α) :
    Reads (fun s => do .ok (a, ← skipValue s)) fun b p => b = a ∧ Form p where
  sound h := by
    obtain ⟨rest', passed, done⟩ := exists_ok_of_bind h
    obtain ⟨rfl, rfl⟩ := Prod.mk.inj (Except.ok.inj done)
    obtain ⟨w, p, blank, split, form⟩ := (skipsWith _).value passed
    exact ⟨w, p, blank, split, rfl, form⟩
  complete {w p rest b} blank form ends := by
    obtain ⟨rfl, form⟩ := form
    have passed : skipValue (w ++ (p ++ rest)) = .ok rest := by
      refine form.passed blank ends ?_
      simp only [List.length_append]
      omega
    rw [passed]
    rfl

/-- A text that is passed over as a whole has the form of a value. -/
theorem form_of_skipValue (passed : skipValue s = .ok []) (solid : Solid s) : Form s := by
  have read : (skipValue s >>= fun rest => .ok ((), rest)) = .ok ((), []) := by
    rw [passed]
    rfl
  exact ((reads_skipValue ()).of_whole read solid).2

end Dataset.Json
