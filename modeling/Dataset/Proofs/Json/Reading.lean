import Dataset.Proofs.Json.Grammar

/-!
# Reading what stands for a value

Readers of JSON take exactly the texts of the grammar off the front of a text, up to where it does not go
on them.

* `Reads`: a reader takes the texts of a kind for the values that they stand for, and nothing else;
* `nextItem_ok`, `nextKey_ok`, `readKey_ok_iff`: the steps through an array and an object;
* `collectItems_sound`, `collectItems_complete`, `foldMembers_sound`, `foldMembers_complete`: arrays and
  objects whose items and members are taken by a reader;
* **`reads_readValue`**: values, with as many brackets open at once as are allowed.
-/

namespace Dataset.Json

open Number (Ends)

variable {α σ : Type} {s w rest : List Char}

/-! ## 1. White space -/

theorem skipSpace_blank (blank : Blank w) (s : List Char) : skipSpace (w ++ s) = skipSpace s :=
  List.dropWhile_append_of_pos blank

theorem skipSpace_cons {c : Char} (solid : isSpace c = false) (s : List Char) :
    skipSpace (c :: s) = c :: s :=
  List.dropWhile_cons_of_neg (by simp [solid])

/-- White space is skipped up to the first other character. -/
theorem skipSpace_append (blank : Blank w) {c : Char} (solid : isSpace c = false) (s : List Char) :
    skipSpace (w ++ c :: s) = c :: s := by
  rw [skipSpace_blank blank, skipSpace_cons solid]

theorem exists_blank (s : List Char) : ∃ w, Blank w ∧ s = w ++ skipSpace s :=
  ⟨s.takeWhile isSpace, fun _ hc => List.mem_takeWhile_imp hc, List.takeWhile_append_dropWhile.symm⟩

/-- A text with a character other than white space is white space and what begins there. -/
theorem of_skipSpace {c : Char} (h : skipSpace s = c :: rest) :
    ∃ w, Blank w ∧ s = w ++ c :: rest := by
  obtain ⟨w, blank, split⟩ := exists_blank s
  exact ⟨w, blank, h ▸ split⟩

/-! ## 2. Steps through arrays and objects -/

theorem nextItem_ok {first more : Bool} (h : nextItem first s = .ok (more, rest)) :
    more = false ∧ (∃ w, Blank w ∧ s = w ++ ']' :: rest) ∨
      more = true ∧ ∃ w, Lead first w ∧ s = w ++ rest := by
  unfold nextItem at h
  split at h
  · cases h
  · rename_i c tail start
    obtain ⟨w, blank, rfl⟩ := of_skipSpace start
    split_ifs at h with close isFirst comma
    · obtain ⟨rfl, rfl⟩ := Prod.mk.inj (Except.ok.inj h)
      exact .inl ⟨rfl, w, blank, by rw [close]⟩
    · obtain ⟨rfl, rfl⟩ := Prod.mk.inj (Except.ok.inj h)
      exact .inr ⟨rfl, w, isFirst ▸ .first blank, rfl⟩
    · split at h
      · cases h
      · rename_i d tail' next
        split_ifs at h
        obtain ⟨rfl, rfl⟩ := Prod.mk.inj (Except.ok.inj h)
        obtain ⟨w', blank', rfl⟩ := of_skipSpace next
        have further : first = false := by simpa using isFirst
        refine .inr ⟨rfl, w ++ ',' :: w', further ▸ .further blank blank', ?_⟩
        rw [comma, List.append_assoc, List.cons_append]

theorem nextItem_close (first : Bool) (blank : Blank w) (rest : List Char) :
    nextItem first (w ++ ']' :: rest) = .ok (false, rest) := by
  rw [nextItem, skipSpace_append blank (by decide)]
  rfl

theorem nextItem_lead {first : Bool} (lead : Lead first w) {p : List Char} (solid : Solid p)
    (rest : List Char) : nextItem first (w ++ (p ++ rest)) = .ok (true, p ++ rest) := by
  obtain ⟨c, tail, rfl, noSpace, noClose⟩ := solid
  cases lead with
  | first blank =>
    rw [nextItem, List.cons_append, skipSpace_append blank noSpace]
    simp only
    rw [if_neg noClose, if_pos trivial]
  | further before behind =>
    rw [nextItem, List.append_assoc, List.cons_append, skipSpace_append before (by decide)]
    simp only
    rw [if_neg (by decide), if_neg (by decide), if_pos trivial, List.cons_append,
      skipSpace_append behind noSpace]
    simp only
    rw [if_neg noClose]

theorem nextKey_ok {first more : Bool} (h : nextKey first s = .ok (more, rest)) :
    more = false ∧ (∃ w, Blank w ∧ s = w ++ '}' :: rest) ∨
      more = true ∧ ∃ w, Lead first w ∧ s = w ++ '"' :: rest := by
  unfold nextKey at h
  split at h
  · cases h
  · rename_i c tail start
    obtain ⟨w, blank, rfl⟩ := of_skipSpace start
    split_ifs at h with close isFirst mark comma
    · obtain ⟨rfl, rfl⟩ := Prod.mk.inj (Except.ok.inj h)
      exact .inl ⟨rfl, w, blank, by rw [close]⟩
    · obtain ⟨rfl, rfl⟩ := Prod.mk.inj (Except.ok.inj h)
      exact .inr ⟨rfl, w, isFirst ▸ .first blank, by rw [mark]⟩
    · split at h
      · cases h
      · rename_i d tail' next
        split_ifs at h with mark
        obtain ⟨rfl, rfl⟩ := Prod.mk.inj (Except.ok.inj h)
        obtain ⟨w', blank', rfl⟩ := of_skipSpace next
        have further : first = false := by simpa using isFirst
        refine .inr ⟨rfl, w ++ ',' :: w', further ▸ .further blank blank', ?_⟩
        rw [comma, mark, List.append_assoc, List.cons_append]

theorem nextKey_close (first : Bool) (blank : Blank w) (rest : List Char) :
    nextKey first (w ++ '}' :: rest) = .ok (false, rest) := by
  rw [nextKey, skipSpace_append blank (by decide)]
  rfl

theorem nextKey_lead {first : Bool} (lead : Lead first w) (rest : List Char) :
    nextKey first (w ++ '"' :: rest) = .ok (true, rest) := by
  cases lead with
  | first blank =>
    rw [nextKey, skipSpace_append blank (by decide)]
    rfl
  | further before behind =>
    rw [nextKey, List.append_assoc, List.cons_append, skipSpace_append before (by decide)]
    simp only
    rw [if_neg (by decide), if_neg (by decide), if_pos trivial, skipSpace_append behind (by decide)]
    rfl

/-- A key is read up to the colon behind it. -/
theorem readKey_ok_iff {key : List Char} : readKey s = .ok (key, rest) ↔
    ∃ body before, Spells key body ∧ Blank before ∧ s = body ++ '"' :: (before ++ ':' :: rest) := by
  constructor
  · intro h
    rw [readKey] at h
    obtain ⟨⟨cs, tail⟩, read, colon⟩ := exists_ok_of_bind h
    obtain ⟨body, rfl, spells⟩ := readString_ok_iff.1 read
    simp only at colon
    split at colon
    · cases colon
    · rename_i c tail' start
      split_ifs at colon with mark
      obtain ⟨rfl, rfl⟩ := Prod.mk.inj (Except.ok.inj colon)
      obtain ⟨before, blank, rfl⟩ := of_skipSpace start
      exact ⟨body, before, spells, blank, by rw [mark]⟩
  · rintro ⟨body, before, spells, blank, rfl⟩
    rw [readKey, readString_ok_iff.2 ⟨body, rfl, spells⟩, ok_bind]
    simp only
    rw [skipSpace_append blank (by decide)]
    rfl

/-! ## 3. Readers -/

/-- A reader takes the texts of `G` for what they stand for, with white space before them and up to where
    no number goes on, and it takes nothing else. -/
structure Reads (read : List Char → Except Error (α × List Char)) (G : α → List Char → Prop) : Prop where
  sound : ∀ {s rest : List Char} {a : α}, read s = .ok (a, rest) →
    ∃ w p, Blank w ∧ s = w ++ (p ++ rest) ∧ G a p
  complete : ∀ {w p rest : List Char} {a : α}, Blank w → G a p → Ends rest →
    read (w ++ (p ++ rest)) = .ok (a, rest)

/-- A reader that only makes something of what another reads. -/
theorem Reads.map {β : Type} {read : List Char → Except Error (α × List Char)}
    {G : α → List Char → Prop} (reads : Reads read G) (f : α → β) :
    Reads (fun s => do let (a, s) ← read s; .ok (f a, s)) fun b p => ∃ a, b = f a ∧ G a p where
  sound h := by
    obtain ⟨⟨a, rest'⟩, found, done⟩ := exists_ok_of_bind h
    obtain ⟨rfl, rfl⟩ := Prod.mk.inj (Except.ok.inj done)
    obtain ⟨w, p, blank, split, text⟩ := reads.sound found
    exact ⟨w, p, blank, split, a, rfl, text⟩
  complete blank text ends := by
    obtain ⟨a, rfl, text⟩ := text
    rw [reads.complete blank text ends, ok_bind]

/-- A text that is read from its first character to its end stands for what it is read as. -/
theorem Reads.of_whole {read : List Char → Except Error (α × List Char)} {G : α → List Char → Prop}
    (reads : Reads read G) {a : α} (h : read s = .ok (a, [])) (solid : Solid s) : G a s := by
  obtain ⟨w, p, blank, rfl, text⟩ := reads.sound h
  cases w with
  | nil => rwa [List.append_nil]
  | cons c w =>
    obtain ⟨d, rest, start, noSpace, -⟩ := solid
    rw [← (List.cons.inj start).1, blank c (.head _)] at noSpace
    cases noSpace

/-- A whole text is read as what it stands for. -/
theorem Reads.document_ok_iff {read : List Char → Except Error (α × List Char)}
    {G : α → List Char → Prop} (reads : Reads read G) {a : α} :
    document read s = .ok a ↔
      ∃ w p back, Blank w ∧ Blank back ∧ s = w ++ (p ++ back) ∧ G a p := by
  constructor
  · intro h
    rw [document] at h
    obtain ⟨⟨b, rest⟩, found, done⟩ := exists_ok_of_bind h
    simp only at done
    split_ifs at done with nothing
    obtain rfl := Except.ok.inj done
    obtain ⟨w, p, blank, split, text⟩ := reads.sound found
    refine ⟨w, p, rest, blank, ?_, split, text⟩
    exact List.dropWhile_eq_nil_iff.1 (List.isEmpty_iff.1 nothing)
  · rintro ⟨w, p, back, blank, behind, rfl, text⟩
    have nothing : skipSpace back = [] := List.dropWhile_eq_nil_iff.2 behind
    rw [document, reads.complete blank text behind.ends_self, ok_bind]
    simp only
    rw [nothing]
    rfl

/-- A value of another kind than the expected one is refused. -/
theorem wrongKind_ne_ok (expected : String) (s : List Char) (a : α) : wrongKind expected s ≠ .ok a := by
  intro h
  unfold wrongKind at h
  simp only at h
  split at h
  case h_1 | h_6 | h_7 => cases h
  case h_2 | h_3 | h_4 | h_5 =>
    obtain ⟨_, -, refused⟩ := exists_ok_of_bind h
    cases refused
  case h_8 =>
    split_ifs at h
    obtain ⟨_, -, refused⟩ := exists_ok_of_bind h
    cases refused

/-- A text is read where one is asked for. -/
theorem reads_readText : Reads readText StringText where
  sound {s rest a} h := by
    unfold readText at h
    split at h
    · rename_i tail start
      obtain ⟨⟨cs, tail'⟩, read, done⟩ := exists_ok_of_bind h
      obtain ⟨rfl, rfl⟩ := Prod.mk.inj (Except.ok.inj done)
      obtain ⟨body, rfl, spells⟩ := readString_ok_iff.1 read
      obtain ⟨w, blank, rfl⟩ := of_skipSpace start
      refine ⟨w, '"' :: (body ++ ['"']), blank, by simp, .marks ?_⟩
      rwa [String.toList_ofList]
    · exact absurd h (wrongKind_ne_ok _ _ _)
  complete {w p rest a} blank text _ := by
    cases text with
    | @marks body spells =>
      have start : skipSpace (w ++ ('"' :: (body ++ ['"']) ++ rest)) = '"' :: (body ++ '"' :: rest) := by
        rw [List.cons_append, skipSpace_append blank (by decide), List.append_assoc]
        rfl
      rw [readText, start]
      simp only
      rw [readString_ok_iff.2 ⟨body, rfl, spells⟩, ok_bind]
      simp only [String.ofList_toList]

/-! ## 4. Arrays -/

variable {read : List Char → Except Error (α × List Char)} {G : α → List Char → Prop}

/-- What is collected from an array stands there item by item. -/
theorem collectItems_sound (reads : Reads read G) {xs : List α} :
    ∀ {fuel : Nat} {first : Bool} {s : List Char}, collectItems read fuel first s = .ok (xs, rest) →
      ∃ ps p, s = p ++ rest ∧ ItemsText first ps p ∧ List.Forall₂ G xs ps := by
  intro fuel
  induction fuel generalizing xs with
  | zero => nofun
  | succ fuel ih =>
    intro first s h
    rw [collectItems] at h
    obtain ⟨⟨more, tail⟩, next, behind⟩ := exists_ok_of_bind h
    rcases nextItem_ok next with ⟨rfl, w, blank, rfl⟩ | ⟨rfl, w, lead, rfl⟩
    · obtain ⟨rfl, rfl⟩ := Prod.mk.inj (Except.ok.inj behind)
      exact ⟨[], w ++ [']'], by simp, .close blank, .nil⟩
    · obtain ⟨⟨x, tail'⟩, found, behind'⟩ := exists_ok_of_bind behind
      obtain ⟨⟨ys, rest'⟩, others, done⟩ := exists_ok_of_bind behind'
      obtain ⟨rfl, rfl⟩ := Prod.mk.inj (Except.ok.inj done)
      obtain ⟨w', p, blank, rfl, text⟩ := reads.sound found
      obtain ⟨ps, q, rfl, items, texts⟩ := ih others
      exact ⟨p :: ps, (w ++ w') ++ (p ++ q), by simp, .item (lead.append blank) items, .cons text texts⟩

/-- An array is collected item by item. -/
theorem collectItems_complete (reads : Reads read G) (solid : ∀ a p, G a p → Solid p) {first : Bool}
    {ps : List (List Char)} {p : List Char} (items : ItemsText first ps p) (rest : List Char) :
    ∀ {xs : List α} {fuel : Nat}, List.Forall₂ G xs ps → p.length ≤ fuel →
      collectItems read fuel first (p ++ rest) = .ok (xs, rest) := by
  -- an item takes one unit of fuel, and so does the closing bracket
  induction items with
  | @close first w blank =>
    intro xs fuel texts enough
    cases texts
    rw [List.length_append, List.length_singleton] at enough
    obtain ⟨fuel, rfl⟩ : ∃ k, fuel = k + 1 := ⟨fuel - 1, by omega⟩
    rw [List.append_assoc, List.singleton_append, collectItems, nextItem_close first blank, ok_bind]
    rfl
  | @item first w p s ps lead behind ih =>
    intro xs fuel texts enough
    cases texts with
    | @cons x _ xs _ text texts =>
      have some_text := (solid x p text).length_pos
      simp only [List.length_append] at enough
      obtain ⟨fuel, rfl⟩ : ∃ k, fuel = k + 1 := ⟨fuel - 1, by omega⟩
      have found : read (p ++ (s ++ rest)) = .ok (x, s ++ rest) :=
        reads.complete .nil text (behind.ends rest)
      rw [List.append_assoc, List.append_assoc, collectItems, nextItem_lead lead (solid x p text),
        ok_bind]
      have others : collectItems read fuel false (s ++ rest) = .ok (xs, rest) := ih texts (by omega)
      simp only [if_true, found, ok_bind, others]

/-! ## 5. Objects -/

variable {step : String → σ → List Char → Except Error (σ × List Char)}
  {Step : String → σ → List Char → σ → Prop}

/-- What the members of an object move the state to is what they stand for, one after the other. -/
theorem foldMembers_sound (reads : ∀ key a, Reads (step key a) fun b p => Step key a p b) {b : σ} :
    ∀ {fuel : Nat} {first : Bool} {a : σ} {s : List Char},
      foldMembers step fuel first a s = .ok (b, rest) →
      ∃ ms p, s = p ++ rest ∧ MembersText KeyText first ms p ∧ Folds Step a ms b := by
  intro fuel
  induction fuel with
  | zero => nofun
  | succ fuel ih =>
    intro first a s h
    rw [foldMembers] at h
    obtain ⟨⟨more, tail⟩, next, behind⟩ := exists_ok_of_bind h
    rcases nextKey_ok next with ⟨rfl, w, blank, rfl⟩ | ⟨rfl, w, lead, rfl⟩
    · obtain ⟨rfl, rfl⟩ := Prod.mk.inj (Except.ok.inj behind)
      exact ⟨[], w ++ ['}'], by simp, .close blank, .nil⟩
    · obtain ⟨⟨key, value⟩, name, behind'⟩ := exists_ok_of_bind behind
      obtain ⟨⟨c, tail'⟩, moved, others⟩ := exists_ok_of_bind behind'
      obtain ⟨body, before, spells, blank, rfl⟩ := readKey_ok_iff.1 name
      obtain ⟨w', p, blank', rfl, text⟩ := (reads _ _).sound moved
      obtain ⟨ms, q, rfl, members, folds⟩ := ih others
      have keyText : KeyText (String.ofList key) body := by rwa [KeyText, String.toList_ofList]
      exact ⟨_, _, by simp, .member lead keyText blank blank' members, .cons text folds⟩

/-- The members of an object move the state on, one after the other. -/
theorem foldMembers_complete (reads : ∀ key a, Reads (step key a) fun b p => Step key a p b)
    {first : Bool} {ms : List (String × List Char)} {p : List Char}
    (members : MembersText KeyText first ms p) (rest : List Char) :
    ∀ {a b : σ} {fuel : Nat}, Folds Step a ms b → p.length ≤ fuel →
      foldMembers step fuel first a (p ++ rest) = .ok (b, rest) := by
  induction members with
  | @close first w blank =>
    intro a b fuel folds enough
    cases folds
    rw [List.length_append, List.length_singleton] at enough
    obtain ⟨fuel, rfl⟩ : ∃ k, fuel = k + 1 := ⟨fuel - 1, by omega⟩
    rw [List.append_assoc, List.singleton_append, foldMembers, nextKey_close first blank, ok_bind]
    rfl
  | @member first w body before behind p s key ms lead keyText blank blank' others ih =>
    intro a b fuel folds enough
    cases folds with
    | @cons _ _ _ _ c _ text folds =>
      simp only [List.length_append, List.length_cons] at enough
      obtain ⟨fuel, rfl⟩ : ∃ k, fuel = k + 1 := ⟨fuel - 1, by omega⟩
      have name : readKey (body ++ '"' :: (before ++ ':' :: (behind ++ (p ++ (s ++ rest))))) =
          .ok (key.toList, behind ++ (p ++ (s ++ rest))) :=
        readKey_ok_iff.2 ⟨body, before, keyText, blank, rfl⟩
      have moved : step key a (behind ++ (p ++ (s ++ rest))) = .ok (c, s ++ rest) :=
        (reads key a).complete blank' text (others.ends rest)
      simp only [List.append_assoc, List.cons_append]
      rw [foldMembers, nextKey_lead lead, ok_bind]
      have further : foldMembers step fuel false c (s ++ rest) = .ok (b, rest) := ih folds (by omega)
      simp only [if_true, name, ok_bind, String.ofList_toList, moved, further]

/-! ## 6. Values -/

theorem readWord_ok_iff {word : List Char} : readWord word s = .ok rest ↔ s = word ++ rest := by
  induction word generalizing s with
  | nil => exact ⟨Except.ok.inj, congrArg Except.ok⟩
  | cons c word ih =>
    cases s with
    | nil => simp [readWord]
    | cons d s =>
      rw [readWord]
      split_ifs with same
      · rw [ih, same, List.cons_append, List.cons.injEq, and_iff_right rfl]
      · simp [Ne.symm same]

theorem enter_ok {k d : Nat} (h : enter (k + 1) = .ok d) : ∃ j, k = j + 1 ∧ d = j + 1 := by
  rw [enter] at h
  split_ifs at h with low
  obtain rfl := Except.ok.inj h
  exact ⟨k - 1, by omega, by omega⟩

theorem enter_succ (k : Nat) : enter (k + 1 + 1) = .ok (k + 1) := by
  rw [enter, if_neg (by omega)]
  rfl

theorem Value.of_scalar {k : Nat} {v : Json} {p : List Char} (h : Scalar v p) : Value k v p := by
  cases k with
  | zero => exact h
  | succ k => exact .inl h

/-- With some fuel only texts of values are read, and of items and members. -/
structure SoundWith (fuel : Nat) : Prop where
  value : ∀ {k : Nat} {s rest : List Char} {v : Json},
    readValueWith fuel (k + 1) s = .ok (v, rest) →
    ∃ w p, Blank w ∧ s = w ++ (p ++ rest) ∧ Value k v p
  items : ∀ {k : Nat} {first : Bool} {s rest : List Char} {vs : List Json},
    readItems fuel (k + 1) first s = .ok (vs, rest) →
    ∃ ps p, s = p ++ rest ∧ ItemsText first ps p ∧ List.Forall₂ (Value k) vs ps
  members : ∀ {k : Nat} {first : Bool} {o o' : List (String × Json)} {s rest : List Char},
    readMembers fuel (k + 1) first o s = .ok (o', rest) →
    ∃ ms p, s = p ++ rest ∧ MembersText KeyText first ms p ∧ Folds (Puts (Value k)) o ms o'

variable {fuel k : Nat}

/-- A word is the text of its value. -/
theorem sound_word {c : Char} {word tail : List Char} {u v : Json} (scalar : Scalar u (c :: word))
    (start : skipSpace s = c :: tail) (h : (do .ok (u, ← readWord word tail)) = .ok (v, rest)) :
    ∃ w p, Blank w ∧ s = w ++ (p ++ rest) ∧ Value k v p := by
  obtain ⟨w, blank, rfl⟩ := of_skipSpace start
  obtain ⟨rest', read, done⟩ := exists_ok_of_bind h
  obtain ⟨rfl, rfl⟩ := Prod.mk.inj (Except.ok.inj done)
  rw [readWord_ok_iff.1 read]
  exact ⟨w, _, blank, rfl, .of_scalar scalar⟩

theorem SoundWith.value_succ (sound : SoundWith fuel) {v : Json}
    (h : readValueWith (fuel + 1) (k + 1) s = .ok (v, rest)) :
    ∃ w p, Blank w ∧ s = w ++ (p ++ rest) ∧ Value k v p := by
  rw [readValueWith] at h
  split at h
  · cases h
  · rename_i tail start
    exact sound_word .null start h
  · rename_i tail start
    exact sound_word .true start h
  · rename_i tail start
    exact sound_word .false start h
  · rename_i tail start
    obtain ⟨w, blank, rfl⟩ := of_skipSpace start
    obtain ⟨⟨cs, tail'⟩, read, done⟩ := exists_ok_of_bind h
    obtain ⟨rfl, rfl⟩ := Prod.mk.inj (Except.ok.inj done)
    obtain ⟨body, rfl, spells⟩ := readString_ok_iff.1 read
    have text : StringText (String.ofList cs) ('"' :: (body ++ ['"'])) :=
      .marks (by rwa [String.toList_ofList])
    exact ⟨w, _, blank, by simp, .of_scalar (.string text)⟩
  · rename_i tail start
    obtain ⟨w, blank, rfl⟩ := of_skipSpace start
    obtain ⟨d, entered, behind⟩ := exists_ok_of_bind h
    obtain ⟨j, rfl, rfl⟩ := enter_ok entered
    obtain ⟨⟨vs, tail'⟩, read, done⟩ := exists_ok_of_bind behind
    obtain ⟨rfl, rfl⟩ := Prod.mk.inj (Except.ok.inj done)
    obtain ⟨ps, p, rfl, items, texts⟩ := sound.items read
    exact ⟨w, '[' :: p, blank, rfl, .inr (.array items texts)⟩
  · rename_i tail start
    obtain ⟨w, blank, rfl⟩ := of_skipSpace start
    obtain ⟨d, entered, behind⟩ := exists_ok_of_bind h
    obtain ⟨j, rfl, rfl⟩ := enter_ok entered
    obtain ⟨⟨o, tail'⟩, read, done⟩ := exists_ok_of_bind behind
    obtain ⟨rfl, rfl⟩ := Prod.mk.inj (Except.ok.inj done)
    obtain ⟨ms, p, rfl, members, folds⟩ := sound.members read
    exact ⟨w, '{' :: p, blank, rfl, .inr (.object members folds)⟩
  · rename_i c tail _ _ _ _ _ _ start
    obtain ⟨w, blank, rfl⟩ := of_skipSpace start
    split_ifs at h with starts
    obtain ⟨⟨x, tail'⟩, read, done⟩ := exists_ok_of_bind h
    obtain ⟨rfl, rfl⟩ := Prod.mk.inj (Except.ok.inj done)
    obtain ⟨n, inJson, split, -, value⟩ := Number.readNumber_ok_iff.1 read
    exact ⟨w, n.chars, blank, by rw [split], .of_scalar (.number inJson value)⟩

theorem SoundWith.items_succ (sound : SoundWith fuel) {first : Bool} {vs : List Json}
    (h : readItems (fuel + 1) (k + 1) first s = .ok (vs, rest)) :
    ∃ ps p, s = p ++ rest ∧ ItemsText first ps p ∧ List.Forall₂ (Value k) vs ps := by
  rw [readItems] at h
  obtain ⟨⟨more, tail⟩, next, behind⟩ := exists_ok_of_bind h
  rcases nextItem_ok next with ⟨rfl, w, blank, rfl⟩ | ⟨rfl, w, lead, rfl⟩
  · obtain ⟨rfl, rfl⟩ := Prod.mk.inj (Except.ok.inj behind)
    exact ⟨[], w ++ [']'], by simp, .close blank, .nil⟩
  · obtain ⟨⟨v, tail'⟩, found, behind'⟩ := exists_ok_of_bind behind
    obtain ⟨⟨us, rest'⟩, others, done⟩ := exists_ok_of_bind behind'
    obtain ⟨rfl, rfl⟩ := Prod.mk.inj (Except.ok.inj done)
    obtain ⟨w', p, blank, rfl, text⟩ := sound.value found
    obtain ⟨ps, q, rfl, items, texts⟩ := sound.items others
    exact ⟨p :: ps, (w ++ w') ++ (p ++ q), by simp, .item (lead.append blank) items, .cons text texts⟩

theorem SoundWith.members_succ (sound : SoundWith fuel) {first : Bool} {o o' : List (String × Json)}
    (h : readMembers (fuel + 1) (k + 1) first o s = .ok (o', rest)) :
    ∃ ms p, s = p ++ rest ∧ MembersText KeyText first ms p ∧ Folds (Puts (Value k)) o ms o' := by
  rw [readMembers] at h
  obtain ⟨⟨more, tail⟩, next, behind⟩ := exists_ok_of_bind h
  rcases nextKey_ok next with ⟨rfl, w, blank, rfl⟩ | ⟨rfl, w, lead, rfl⟩
  · obtain ⟨rfl, rfl⟩ := Prod.mk.inj (Except.ok.inj behind)
    exact ⟨[], w ++ ['}'], by simp, .close blank, .nil⟩
  · obtain ⟨⟨key, value⟩, name, behind'⟩ := exists_ok_of_bind behind
    obtain ⟨⟨v, tail'⟩, found, others⟩ := exists_ok_of_bind behind'
    obtain ⟨body, before, spells, blank, rfl⟩ := readKey_ok_iff.1 name
    obtain ⟨w', p, blank', rfl, text⟩ := sound.value found
    obtain ⟨ms, q, rfl, members, folds⟩ := sound.members others
    have keyText : KeyText (String.ofList key) body := by rwa [KeyText, String.toList_ofList]
    exact ⟨_, _, by simp, .member lead keyText blank blank' members, .cons ⟨v, text, rfl⟩ folds⟩

theorem soundWith : ∀ fuel, SoundWith fuel
  | 0 => ⟨nofun, nofun, nofun⟩
  | fuel + 1 =>
    have sound := soundWith fuel
    ⟨sound.value_succ, sound.items_succ, sound.members_succ⟩

/-- A value without brackets is read with any fuel. -/
theorem readValueWith_scalar {v : Json} {p : List Char} (h : Scalar v p) (blank : Blank w)
    (ends : Ends rest) (depth : Nat) :
    readValueWith (fuel + 1) depth (w ++ (p ++ rest)) = .ok (v, rest) := by
  cases h with
  | null =>
    rw [readValueWith, List.cons_append, skipSpace_append blank (by decide)]
    rfl
  | true =>
    rw [readValueWith, List.cons_append, skipSpace_append blank (by decide)]
    rfl
  | false =>
    rw [readValueWith, List.cons_append, skipSpace_append blank (by decide)]
    rfl
  | string text =>
    cases text with
    | @marks body spells =>
      rw [readValueWith, List.cons_append, skipSpace_append blank (by decide), List.append_assoc]
      simp only [List.singleton_append, readString_ok_iff.2 ⟨body, rfl, spells⟩, ok_bind,
        String.ofList_toList]
  | @number n x inJson value =>
    obtain ⟨c, tail, chars, starts⟩ := startsNumber_chars inJson
    have read : readNumber (c :: (tail ++ rest)) = .ok (x, rest) :=
      Number.readNumber_ok_iff.2 ⟨n, inJson, by rw [chars]; rfl, ends.stops n, value⟩
    rw [chars, List.cons_append, readValueWith,
      skipSpace_append blank (of_startsNumber starts).1]
    split
    · rename_i none
      cases none
    -- none of the other beginnings is that of a number
    iterate 6
      · rename_i same
        rw [(List.cons.inj same).1] at starts
        exact absurd starts (by decide)
    · rename_i d tail' _ _ _ _ _ _ same
      obtain ⟨rfl, rfl⟩ := List.cons.inj same
      rw [if_pos starts, read]
      rfl

section Complete

/-- With twice as much fuel as its text is long, every value is read. -/
def CompleteAt (k : Nat) : Prop := ∀ {v : Json} {w p rest : List Char} {fuel : Nat}, Value k v p →
  Blank w → Ends rest → 2 * p.length ≤ fuel →
  readValueWith fuel (k + 1) (w ++ (p ++ rest)) = .ok (v, rest)

theorem readItems_complete (complete : CompleteAt k) {first : Bool} {ps : List (List Char)}
    {p : List Char} (items : ItemsText first ps p) (rest : List Char) :
    ∀ {vs : List Json} {fuel : Nat}, List.Forall₂ (Value k) vs ps → 2 * p.length ≤ fuel →
      readItems fuel (k + 1) first (p ++ rest) = .ok (vs, rest) := by
  induction items with
  | @close first w blank =>
    intro vs fuel texts enough
    cases texts
    rw [List.length_append, List.length_singleton] at enough
    obtain ⟨fuel, rfl⟩ : ∃ j, fuel = j + 1 := ⟨fuel - 1, by omega⟩
    rw [List.append_assoc, List.singleton_append, readItems, nextItem_close first blank, ok_bind]
    rfl
  | @item first w p s ps lead behind ih =>
    intro vs fuel texts enough
    cases texts with
    | @cons v _ vs _ text texts =>
      have some_text := text.solid.length_pos
      have closing := behind.length_pos
      simp only [List.length_append] at enough
      obtain ⟨fuel, rfl⟩ : ∃ j, fuel = j + 1 := ⟨fuel - 1, by omega⟩
      have found : readValueWith fuel (k + 1) (p ++ (s ++ rest)) = .ok (v, s ++ rest) :=
        complete text .nil (behind.ends rest) (by omega)
      have others : readItems fuel (k + 1) false (s ++ rest) = .ok (vs, rest) := ih texts (by omega)
      rw [List.append_assoc, List.append_assoc, readItems, nextItem_lead lead text.solid, ok_bind]
      simp only [if_true, found, ok_bind, others]

theorem readMembers_complete (complete : CompleteAt k) {first : Bool}
    {ms : List (String × List Char)} {p : List Char} (members : MembersText KeyText first ms p)
    (rest : List Char) :
    ∀ {o o' : List (String × Json)} {fuel : Nat}, Folds (Puts (Value k)) o ms o' →
      2 * p.length ≤ fuel → readMembers fuel (k + 1) first o (p ++ rest) = .ok (o', rest) := by
  induction members with
  | @close first w blank =>
    intro o o' fuel folds enough
    cases folds
    rw [List.length_append, List.length_singleton] at enough
    obtain ⟨fuel, rfl⟩ : ∃ j, fuel = j + 1 := ⟨fuel - 1, by omega⟩
    rw [List.append_assoc, List.singleton_append, readMembers, nextKey_close first blank, ok_bind]
    rfl
  | @member first w body before behind p s key ms lead keyText blank blank' others ih =>
    intro o o' fuel folds enough
    cases folds with
    | cons puts folds =>
      obtain ⟨v, text, rfl⟩ := puts
      simp only [List.length_append, List.length_cons] at enough
      obtain ⟨fuel, rfl⟩ : ∃ j, fuel = j + 1 := ⟨fuel - 1, by omega⟩
      have name : readKey (body ++ '"' :: (before ++ ':' :: (behind ++ (p ++ (s ++ rest))))) =
          .ok (key.toList, behind ++ (p ++ (s ++ rest))) :=
        readKey_ok_iff.2 ⟨body, before, keyText, blank, rfl⟩
      have found : readValueWith fuel (k + 1) (behind ++ (p ++ (s ++ rest))) = .ok (v, s ++ rest) :=
        complete text blank' (others.ends rest) (by omega)
      have further : readMembers fuel (k + 1) false (insertSorted key v o) (s ++ rest) = .ok (o', rest) :=
        ih folds (by omega)
      simp only [List.append_assoc, List.cons_append]
      rw [readMembers, nextKey_lead lead, ok_bind]
      simp only [if_true, name, ok_bind, String.ofList_toList, found, further]

theorem completeAt : ∀ k, CompleteAt k := by
  intro k
  induction k with
  | zero =>
    intro v w p rest fuel text blank ends enough
    have some_text := (Value.of_scalar (k := 0) text).solid.length_pos
    obtain ⟨fuel, rfl⟩ : ∃ j, fuel = j + 1 := ⟨fuel - 1, by omega⟩
    exact readValueWith_scalar text blank ends 1
  | succ k ih =>
    intro v w p rest fuel text blank ends enough
    have some_text := text.solid.length_pos
    obtain ⟨fuel, rfl⟩ : ∃ j, fuel = j + 1 := ⟨fuel - 1, by omega⟩
    rcases text with scalar | composite
    · exact readValueWith_scalar scalar blank ends _
    · -- a bracket takes two units of fuel, and one of them goes to the value itself
      cases composite with
      | @array vs ps s items texts =>
        rw [List.length_cons] at enough
        have read : readItems fuel (k + 1) true (s ++ rest) = .ok (vs, rest) :=
          readItems_complete ih items rest texts (by omega)
        rw [readValueWith, List.cons_append, skipSpace_append blank (by decide)]
        simp only [enter_succ, ok_bind, read]
      | @object o ms s members folds =>
        rw [List.length_cons] at enough
        have read : readMembers fuel (k + 1) true [] (s ++ rest) = .ok (o, rest) :=
          readMembers_complete ih members rest folds (by omega)
        rw [readValueWith, List.cons_append, skipSpace_append blank (by decide)]
        simp only [enter_succ, ok_bind, read]

end Complete

/-- **Exactly the texts of values are read**, with as many brackets open at once as are allowed. -/
theorem reads_readValue (k : Nat) : Reads (readValue (k + 1)) (Value k) where
  sound h := (soundWith _).value h
  complete {w p rest v} blank text ends := by
    refine completeAt k text blank ends ?_
    simp only [List.length_append]
    omega

end Dataset.Json
