import Dataset.Config.Settings
import Dataset.Proofs.Filter.Items
import Dataset.Proofs.Json.Fields
import Mathlib.Data.List.Nodup

/-!
# Objects of named values

Which texts are objects of values that may each be missing, said value by value and without regard to the
order in which they stand, and that exactly these are read.

* `Slot`: a named value of a record, with its texts and the part of the record that it is; `Apart`: no slot
  of a list touches another; `MakeUp`: the record is nothing but what its slots hold;
* `Moves`: what a member makes of what is known before it, which is what is read (`reads_readMember`);
* **`states_of_folds`**: after all members a slot holds what the texts of its name state, and nothing if
  there are none; `exists_folds`: members that state something can be read;
* `SectionText`: the texts of a section, as an object or as an array; **`reads_readSection`**: exactly these
  are read.
-/

namespace Dataset.Config

open Settings (Reading readMember)
open Json (Reads Stated Definite Folds Form MembersText ItemsText KeyText Blank readOptional)
open Dataset.Filter (named named_cons folds_cons_iff endArray_ok_iff)

/-! ## 1. Slots -/

/-- A named value of a record, which may be missing: how it is read, the texts that it is read of, and
    which part of the record it is. -/
structure Slot (σ : Type) where
  name : String
  Carrier : Type
  read : List Char → Except Json.Error (Carrier × List Char)
  Text : Carrier → List Char → Prop
  get : σ → Option Carrier
  keep : Option Carrier → σ → σ
  reads : Reads read Text
  definite : ∀ a p, Text a p → Definite p
  get_keep : ∀ v t, get (keep v t) = v

variable {σ : Type}

/-- The field that is read into a slot. -/
def Slot.field (f : Slot σ) : String × Settings.Field σ := (f.name, Settings.field (readOptional f.read) f.keep)

/-- The texts of a value of a slot, or the word for no value. -/
def Slot.Nullable (f : Slot σ) : Option f.Carrier → List Char → Prop := Json.Nullable f.Text

/-- A field is read as what it keeps of such a text. -/
theorem Slot.reads_field (f : Slot σ) :
    Reads f.field.2 fun change p => ∃ v, change = f.keep v ∧ f.Nullable v p :=
  (Json.reads_readOptional f.reads f.definite).map f.keep

/-- The slots of a record have different names, and keeping a value in one leaves the others. -/
structure Apart (slots : List (Slot σ)) : Prop where
  nodup : (slots.map Slot.name).Nodup
  kept : ∀ f ∈ slots, ∀ g ∈ slots, f.name ≠ g.name → ∀ v t, f.get (g.keep v t) = f.get t

/-- The slots make up the record: it is nothing but what they hold. -/
structure MakeUp (slots : List (Slot σ)) (nothing : σ) : Prop extends Apart slots where
  empty : ∀ f ∈ slots, f.get nothing = none
  whole : ∀ t u, (∀ f ∈ slots, f.get t = f.get u) → t = u

variable {slots : List (Slot σ)} {f : Slot σ}

/-- A slot is found by its name. -/
theorem lookup_field (nodup : (slots.map Slot.name).Nodup) (among : f ∈ slots) :
    (slots.map Slot.field).lookup f.name = some f.field.2 := by
  induction slots with
  | nil => cases among
  | cons g rest ih =>
    obtain ⟨other, nodup⟩ := List.nodup_cons.1 nodup
    rw [List.map_cons]
    rcases List.mem_cons.1 among with rfl | among
    · exact List.lookup_cons_self
    · have differs : f.name ≠ g.name := fun same => other (same ▸ List.mem_map_of_mem among)
      have skipped : (f.name == g.name) = false := beq_eq_false_iff_ne.2 differs
      rw [Slot.field, List.lookup_cons, skipped]
      exact ih nodup among

/-- What is found by a name is a slot of this name. -/
theorem exists_slot_of_lookup {key : String} {read : Settings.Field σ}
    (found : (slots.map Slot.field).lookup key = some read) :
    ∃ f ∈ slots, f.name = key ∧ f.field.2 = read := by
  obtain ⟨before, after, split, -⟩ := List.lookup_eq_some_iff.1 found
  have among : (key, read) ∈ slots.map Slot.field := by
    rw [split]
    simp
  obtain ⟨f, hf, same⟩ := List.mem_map.1 among
  obtain ⟨rfl, rfl⟩ := Prod.mk.inj same
  exact ⟨f, hf, rfl, rfl⟩

/-- Nothing is found by other names. -/
theorem lookup_eq_none_iff {key : String} :
    (slots.map Slot.field).lookup key = none ↔ key ∉ slots.map Slot.name := by
  rw [List.lookup_eq_none_iff]
  constructor
  · intro none among
    obtain ⟨f, hf, rfl⟩ := List.mem_map.1 among
    exact absurd (none _ (List.mem_map_of_mem hf)) (by simp [Slot.field])
  · intro unknown x hx
    obtain ⟨f, hf, rfl⟩ := List.mem_map.1 hx
    have differs : key ≠ f.name := fun same => unknown (same ▸ List.mem_map_of_mem hf)
    simpa [Slot.field] using differs

/-! ## 2. Members -/

/-- What a member makes of what is known before it: its value is kept in the slot of its name, which may
    not have been met; other members are left to `Other`. -/
inductive Moves (slots : List (Slot σ)) (Other : String → σ → List Char → σ → Prop) :
    String → Reading σ → List Char → Reading σ → Prop where
  | slot {f : Slot σ} {v : Option f.Carrier} {p : List Char} {r : Reading σ} : f ∈ slots →
      f.name ∉ r.met → f.Nullable v p → Moves slots Other f.name r p ⟨f.keep v r.value, f.name :: r.met⟩
  | other {key : String} {r : Reading σ} {p : List Char} {b : σ} : key ∉ slots.map Slot.name →
      Other key r.value p b → Moves slots Other key r p { r with value := b }

variable {Other : String → σ → List Char → σ → Prop}
  {other : String → σ → List Char → Except Json.Error (σ × List Char)}

/-- **A member is read as what it makes of what is known.** -/
theorem reads_readMember (nodup : (slots.map Slot.name).Nodup)
    (others : ∀ key a, Reads (other key a) fun b p => Other key a p b) (key : String) (r : Reading σ) :
    Reads (readMember (slots.map Slot.field) other key r) fun r' p => Moves slots Other key r p r' where
  sound {s rest r'} h := by
    rw [readMember] at h
    split at h
    · rename_i unknown
      obtain ⟨⟨b, rest'⟩, read, done⟩ := exists_ok_of_bind h
      obtain ⟨rfl, rfl⟩ := Prod.mk.inj (Except.ok.inj done)
      obtain ⟨w, p, blank, split, moved⟩ := (others key r.value).sound read
      exact ⟨w, p, blank, split, .other (lookup_eq_none_iff.1 unknown) moved⟩
    · rename_i read found
      obtain ⟨f, among, rfl, rfl⟩ := exists_slot_of_lookup found
      split_ifs at h with met
      obtain ⟨⟨change, rest'⟩, changed, done⟩ := exists_ok_of_bind h
      obtain ⟨rfl, rfl⟩ := Prod.mk.inj (Except.ok.inj done)
      obtain ⟨w, p, blank, split, v, rfl, text⟩ := f.reads_field.sound changed
      exact ⟨w, p, blank, split, .slot among (by simpa using met) text⟩
  complete {w p rest r'} blank moves ends := by
    cases moves with
    | @slot f v p r among unmet text =>
      have changed := f.reads_field.complete blank ⟨v, rfl, text⟩ ends
      rw [readMember, lookup_field nodup among]
      simp only [List.contains_iff_mem, unmet, if_false, changed, ok_bind]
    | @other _ _ p b unknown moved =>
      rw [readMember, lookup_eq_none_iff.2 unknown]
      simp only [(others key r.value).complete blank moved ends, ok_bind]

/-- A member that is left to others changes no slot. -/
def Leaves (slots : List (Slot σ)) (Other : String → σ → List Char → σ → Prop) : Prop :=
  ∀ f ∈ slots, ∀ key a p b, Other key a p b → f.get b = f.get a

variable {a b : Reading σ} {ms : List (String × List Char)}

/-- What members make of a slot: one that was met before is not named again; any other holds what it held,
    if it is not named, and otherwise what its one text states. -/
def Leads (f : Slot σ) (a : Reading σ) (ms : List (String × List Char)) (b : Reading σ) : Prop :=
  (named f.name ms = [] ∧ f.get b.value = f.get a.value) ∨
    f.name ∉ a.met ∧ ∃ p, named f.name ms = [p] ∧ f.Nullable (f.get b.value) p

theorem leads_of_folds (apart : Apart slots) (leaves : Leaves slots Other)
    (folds : Folds (Moves slots Other) a ms b) (among : f ∈ slots) : Leads f a ms b := by
  induction folds with
  | nil => exact .inl ⟨rfl, rfl⟩
  | @cons key p ms a c b moves folds ih =>
    cases moves with
    | @slot g v _ _ here unmet text =>
      by_cases same : f.name = g.name
      · obtain rfl : f = g := List.inj_on_of_nodup_map apart.nodup among here same
        rcases ih with ⟨none, held⟩ | ⟨unmet', -⟩
        · refine .inr ⟨unmet, p, ?_, ?_⟩
          · rw [named_cons, if_pos rfl, none]
          · rw [held, f.get_keep]
            exact text
        · exact absurd (List.mem_cons_self) unmet'
      · have apart' : f.get (g.keep v a.value) = f.get a.value := apart.kept f among g here same v a.value
        rw [Leads, named_cons, if_neg fun h => same h.symm, ← apart']
        exact ih.imp_right fun ⟨unmet', rest⟩ => ⟨fun met => unmet' (.tail _ met), rest⟩
    | @other _ _ _ d unknown moved =>
      have differs : key ≠ f.name := fun same => unknown (same ▸ List.mem_map_of_mem among)
      have left : f.get d = f.get a.value := leaves f among key _ _ _ moved
      rw [Leads, named_cons, if_neg differs, ← left]
      exact ih

/-- **After all members a slot holds what the texts of its name state**, if it held nothing before. -/
theorem states_of_folds (apart : Apart slots) (leaves : Leaves slots Other) {t : σ}
    (folds : Folds (Moves slots Other) ⟨t, []⟩ ms b) (among : f ∈ slots) (empty : f.get t = none) :
    Stated f.Text (f.get b.value) (named f.name ms) := by
  rcases leads_of_folds apart leaves folds among with ⟨unnamed, held⟩ | ⟨-, p, once, text⟩
  · rw [unnamed, held, empty]
    exact .missing
  · rw [once]
    exact .once text

/-- Members that are left to others are made something of. -/
theorem exists_other_of_folds (folds : Folds (Moves slots Other) a ms b) :
    ∀ m ∈ ms, m.1 ∉ slots.map Slot.name → ∃ t u, Other m.1 t m.2 u := by
  induction folds with
  | nil => nofun
  | cons moves folds ih =>
    refine List.forall_mem_cons.2 ⟨fun unknown => ?_, ih⟩
    cases moves with
    | slot here _ _ => exact absurd (List.mem_map_of_mem here) unknown
    | other _ moved => exact ⟨_, _, moved⟩

/-- **Members that state something for each slot can be read**, in whatever order they stand. -/
theorem exists_folds (Other : String → σ → List Char → σ → Prop) {a : Reading σ}
    (stated : ∀ f ∈ slots, (f.name ∈ a.met → named f.name ms = []) ∧
      ∃ v, Stated f.Text v (named f.name ms))
    (others : ∀ m ∈ ms, m.1 ∉ slots.map Slot.name → ∀ t, ∃ u, Other m.1 t m.2 u) :
    ∃ b, Folds (Moves slots Other) a ms b := by
  induction ms generalizing a with
  | nil => exact ⟨a, .nil⟩
  | cons m ms ih =>
    obtain ⟨key, p⟩ := m
    obtain ⟨here, behind⟩ := List.forall_mem_cons.1 others
    by_cases known : key ∈ slots.map Slot.name
    · obtain ⟨f, among, rfl⟩ := List.mem_map.1 known
      obtain ⟨unmet, v, text⟩ := stated f among
      rw [named_cons, if_pos rfl] at unmet text
      obtain ⟨last, text⟩ := Json.stated_cons_iff.1 text
      have stated : ∀ g ∈ slots, (g.name ∈ f.name :: a.met → named g.name ms = []) ∧
          ∃ v, Stated g.Text v (named g.name ms) := by
        intro g among'
        by_cases same : f.name = g.name
        · rw [← same, last]
          exact ⟨fun _ => rfl, none, .missing⟩
        · have before := stated g among'
          rw [named_cons, if_neg same] at before
          exact ⟨fun met => before.1 ((List.mem_cons.1 met).resolve_left (Ne.symm same)), before.2⟩
      obtain ⟨b, folds⟩ := ih (a := ⟨f.keep v a.value, f.name :: a.met⟩) stated behind
      exact ⟨b, .cons (.slot among (fun met => nomatch unmet met) text) folds⟩
    · obtain ⟨u, moved⟩ := here known a.value
      have stated : ∀ f ∈ slots, (f.name ∈ a.met → named f.name ms = []) ∧
          ∃ v, Stated f.Text v (named f.name ms) := by
        intro f among
        have differs : key ≠ f.name := fun same => known (same ▸ List.mem_map_of_mem among)
        simpa only [named_cons, if_neg differs] using stated f among
      obtain ⟨b, folds⟩ := ih (a := { a with value := u }) stated behind
      exact ⟨b, .cons (.other known moved) folds⟩

/-! ## 3. Arrays -/

/-- The name of a slot stands for one text in an array of values for all slots. -/
theorem readValues_sound (Other : String → σ → List Char → σ → Prop) (name : String) (count : Nat)
    {rest : List (Slot σ)} (some_of : ∀ f ∈ rest, f ∈ slots) :
    ∀ {index : Nat} {a : Reading σ} {t : σ} {s behind : List Char}, (rest.map Slot.name).Nodup →
      (∀ f ∈ rest, f.name ∉ a.met) →
      Settings.readValues name count index a.value (rest.map Slot.field) s = .ok (t, behind) →
      ∃ ps p met, s = p ++ behind ∧ ItemsText (index == 0) ps p ∧ ps.length = rest.length ∧
        Folds (Moves slots Other) a ((rest.map Slot.name).zip ps) ⟨t, met⟩ := by
  induction rest with
  | nil =>
    intro index a t s behind _ _ h
    obtain ⟨s', closed, done⟩ := exists_ok_of_bind h
    obtain ⟨rfl, rfl⟩ := Prod.mk.inj (Except.ok.inj done)
    obtain ⟨w, blank, rfl⟩ := endArray_ok_iff.1 closed
    exact ⟨[], w ++ [']'], a.met, by simp, .close blank, rfl, .nil⟩
  | cons f rest ih =>
    intro index a t s behind nodup unmet h
    obtain ⟨among, some_of⟩ := List.forall_mem_cons.1 some_of
    obtain ⟨here, unmet⟩ := List.forall_mem_cons.1 unmet
    obtain ⟨other, nodup⟩ := List.nodup_cons.1 nodup
    obtain ⟨⟨more, tail⟩, next, goes⟩ := exists_ok_of_bind h
    rcases Json.nextItem_ok next with ⟨rfl, -⟩ | ⟨rfl, w, lead, rfl⟩
    · cases goes
    · obtain ⟨⟨change, tail'⟩, changed, later⟩ := exists_ok_of_bind goes
      obtain ⟨w', p, blank, rfl, v, rfl, text⟩ := f.reads_field.sound changed
      have unmet' : ∀ g ∈ rest, g.name ∉ f.name :: a.met := by
        intro g hg met
        rcases List.mem_cons.1 met with same | met
        · exact other (same ▸ List.mem_map_of_mem hg)
        · exact unmet g hg met
      obtain ⟨ps, q, met, rfl, items, wide, folds⟩ :=
        ih some_of (a := ⟨f.keep v a.value, f.name :: a.met⟩) nodup unmet' later
      exact ⟨p :: ps, (w ++ w') ++ (p ++ q), met, by simp, .item (lead.append blank) items,
        congrArg (· + 1) wide, .cons (.slot among here text) folds⟩

theorem readValues_complete (name : String) (count : Nat) (apart : Apart slots)
    {rest : List (Slot σ)} (some_of : ∀ f ∈ rest, f ∈ slots) (behind : List Char) :
    ∀ (index : Nat) {a b : Reading σ} {ps : List (List Char)} {p : List Char},
      ItemsText (index == 0) ps p → ps.length = rest.length →
      Folds (Moves slots Other) a ((rest.map Slot.name).zip ps) b →
      Settings.readValues name count index a.value (rest.map Slot.field) (p ++ behind) =
        .ok (b.value, behind) := by
  induction rest with
  | nil =>
    intro index a b ps p items wide folds
    obtain rfl := List.length_eq_zero_iff.1 wide
    cases folds
    cases items with
    | close blank =>
      rw [List.append_assoc, List.singleton_append, List.map_nil, Settings.readValues,
        endArray_ok_iff.2 ⟨_, blank, rfl⟩, ok_bind]
  | cons f rest ih =>
    intro index a b ps p items wide folds
    obtain ⟨among, some_of⟩ := List.forall_mem_cons.1 some_of
    cases items with
    | close => cases wide
    | @item _ w q s ps lead items =>
      obtain ⟨c, moves, folds⟩ := folds_cons_iff.1 folds
      generalize key : f.name = name' at moves
      cases moves with
      | other unknown _ => exact absurd (key ▸ List.mem_map_of_mem among) unknown
      | @slot g v _ _ here unmet text =>
        obtain rfl : f = g := List.inj_on_of_nodup_map apart.nodup among here key
        have solid := text.solid f.definite
        have changed : f.field.2 (q ++ (s ++ behind)) = .ok (f.keep v, s ++ behind) :=
          f.reads_field.complete Blank.nil ⟨v, rfl, text⟩ (items.ends behind)
        have later : Settings.readValues name count (index + 1) (f.keep v a.value)
            (rest.map Slot.field) (s ++ behind) = .ok (b.value, behind) :=
          ih some_of (index + 1) items (Nat.succ.inj wide) folds
        rw [List.append_assoc, List.append_assoc, List.map_cons, Settings.readValues,
          Json.nextItem_lead lead solid, ok_bind]
        simp only [if_true, changed, ok_bind, later]

/-! ## 4. Sections -/

/-- The texts of a section, with the texts of its members under their names: an object, in which members of
    other names may have any value, or an array of one value for each name in order. -/
inductive SectionMembers (names : List String) : List Char → List (String × List Char) → Prop where
  | object {ms : List (String × List Char)} {s : List Char} : MembersText KeyText true ms s →
      (∀ m ∈ ms, m.1 ∉ names → Form m.2) → SectionMembers names ('{' :: s) ms
  | array {ps : List (List Char)} {s : List Char} : ItemsText true ps s → ps.length = names.length →
      SectionMembers names ('[' :: s) (names.zip ps)

/-- The texts of a section: each slot holds what its member states. -/
def SectionText (slots : List (Slot σ)) (t : σ) (p : List Char) : Prop :=
  ∃ ms, SectionMembers (slots.map Slot.name) p ms ∧
    ∀ f ∈ slots, Stated f.Text (f.get t) (named f.name ms)

theorem SectionText.definite {t : σ} {p : List Char} (text : SectionText slots t p) : Definite p := by
  obtain ⟨ms, members, -⟩ := text
  cases members <;> exact ⟨_, _, rfl, by decide, by decide⟩

/-- A member that is passed over changes nothing. -/
def Passed (_ : String) (t : σ) (p : List Char) (u : σ) : Prop := u = t ∧ Form p

theorem leaves_passed : Leaves slots Passed := fun f _ _ _ _ _ h => congrArg f.get h.1

theorem reads_passOver (key : String) (t : σ) : Reads (Settings.passOver key t) fun u p => Passed key t p u :=
  Json.reads_skipValue t

/-- Members that state what the slots of a record hold make the record. -/
theorem exists_folds_of_stated {nothing t : σ} (record : MakeUp slots nothing)
    (stated : ∀ f ∈ slots, Stated f.Text (f.get t) (named f.name ms))
    (others : ∀ m ∈ ms, m.1 ∉ slots.map Slot.name → Form m.2) :
    ∃ met, Folds (Moves slots Passed) ⟨nothing, []⟩ ms ⟨t, met⟩ := by
  have each : ∀ f ∈ slots, (f.name ∈ ([] : List String) → named f.name ms = []) ∧
      ∃ v, Stated f.Text v (named f.name ms) := fun f among => ⟨nofun, _, stated f among⟩
  obtain ⟨⟨u, met⟩, folds⟩ := exists_folds Passed (a := ⟨nothing, []⟩) each
    fun m hm unknown v => ⟨v, rfl, others m hm unknown⟩
  have same : u = t := record.whole u t fun f among =>
    (states_of_folds record.toApart leaves_passed folds among (record.empty f among)).unique f.reads
      f.definite (stated f among)
  exact ⟨met, same ▸ folds⟩

/-- **Exactly the texts of a section are read as one.** -/
theorem reads_readSection (name : String) {nothing : σ} (record : MakeUp slots nothing) :
    Reads (Settings.readSection name (slots.map Slot.field) nothing) (SectionText slots) where
  sound {s rest t} h := by
    unfold Settings.readSection at h
    split at h
    · rename_i tail start
      obtain ⟨w, blank, rfl⟩ := Json.of_skipSpace start
      obtain ⟨⟨r, rest'⟩, folded, done⟩ := exists_ok_of_bind h
      obtain ⟨rfl, rfl⟩ := Prod.mk.inj (Except.ok.inj done)
      obtain ⟨ms, p, rfl, members, folds⟩ :=
        Json.foldMembers_sound (reads_readMember record.nodup reads_passOver) folded
      have others : ∀ m ∈ ms, m.1 ∉ slots.map Slot.name → Form m.2 := fun m hm unknown =>
        have ⟨_, _, passed⟩ := exists_other_of_folds folds m hm unknown
        passed.2
      exact ⟨w, '{' :: p, blank, rfl, ms, .object members others, fun f among =>
        states_of_folds record.toApart leaves_passed folds among (record.empty f among)⟩
    · rename_i tail start
      obtain ⟨w, blank, rfl⟩ := Json.of_skipSpace start
      rw [List.length_map] at h
      obtain ⟨ps, p, met, rfl, items, wide, folds⟩ :=
        readValues_sound Passed name slots.length (fun _ => id) (a := ⟨nothing, []⟩) record.nodup nofun h
      refine ⟨w, '[' :: p, blank, rfl, _, .array items (by rw [wide, List.length_map]), fun f among => ?_⟩
      exact states_of_folds record.toApart leaves_passed folds among (record.empty f among)
    · exact absurd h (Json.wrongKind_ne_ok _ _ _)
  complete {w p rest t} blank text ends := by
    obtain ⟨ms, members, stated⟩ := text
    cases members with
    | @object ms s members others =>
      obtain ⟨met, folds⟩ := exists_folds_of_stated record stated others
      have enough : s.length ≤ (s ++ rest).length + 1 := by
        rw [List.length_append]
        omega
      have folded := Json.foldMembers_complete (reads_readMember record.nodup reads_passOver) members rest
        folds enough
      rw [Settings.readSection, List.cons_append, Json.skipSpace_append blank (by decide)]
      simp only [folded, ok_bind]
    | @array ps s items wide =>
      have known : ∀ m ∈ (slots.map Slot.name).zip ps, m.1 ∉ slots.map Slot.name → Form m.2 :=
        fun m hm unknown => absurd (List.of_mem_zip hm).1 unknown
      obtain ⟨met, folds⟩ := exists_folds_of_stated record stated known
      rw [List.length_map] at wide
      rw [Settings.readSection, List.cons_append, Json.skipSpace_append blank (by decide)]
      exact readValues_complete name _ record.toApart (fun _ => id) rest 0 items wide folds

end Dataset.Config
