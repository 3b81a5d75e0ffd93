import Dataset.Proofs.Gateway.Listing
import Dataset.Proofs.Store.Numbering

/-!
# Comparing with one text

The three comparisons of a column with one text take its values apart: a value stands in exactly one of
the three relations to what the column makes of the text, whatever classes of values the column holds,
and those found by one comparison come before or after those found by another.

* `comparing`: the filter that asks for a relation; `holds_comparing`: what it asks;
* `Missed`: an equality with the key misses a record whose number equals the text, which is that of the
  least integer only (`number_of_missed`);
* `Splits`: lists of records, one for each relation, that take the values of a column apart;
* **`comparisons_split`**: the three requests give such lists, in any of their texts;
* `comparisons_leave_out`: but there is no filter on a column whose name is blank, and a record that is missed
  is in none of the lists.
-/

namespace Dataset.Gateway

open Dataset.Filter (Relation Operator Descriptor Rendered maxBytes written)
open Store (Table Record Cell asks asksFor spells)

/-! ## 1. The comparisons -/

/-- The operator that asks for a relation. -/
def operatorOf : Relation → Operator
  | .equal => .equals
  | .greater => .greaterThan
  | .less => .lessThan

/-- The filter that the column `c` is in the relation `ρ` to `v`. -/
def comparing (c : String) (ρ : Relation) (v : String) (named : Text.isBlankText c = false)
    (given : Text.isBlankText v = false) : Descriptor where
  field := c
  operator := operatorOf ρ
  value := some v
  field_named := named
  value_given _ := by simp [Filter.hasContent, given]

theorem holds_comparing (t : Table) (r : Record) {c v : String} (ρ : Relation)
    (named : Text.isBlankText c = false) (given : Text.isBlankText v = false) :
    t.Holds r (comparing c ρ v named given) ↔
      t.shown r c ≠ .null ∧ (t.shown r c).cmp ((t.declaredAffinity c).bound v) = asks ρ := by
  cases ρ <;> rfl

/-- Every order is the one that exactly one relation asks for. -/
theorem existsUnique_asks (o : Ordering) : ∃! ρ, o = asks ρ := by
  cases o
  · exact ⟨.less, rfl, fun ρ h => by cases ρ <;> first | rfl | cases h⟩
  · exact ⟨.equal, rfl, fun ρ h => by cases ρ <;> first | rfl | cases h⟩
  · exact ⟨.greater, rfl, fun ρ h => by cases ρ <;> first | rfl | cases h⟩

/-! ## 2. Taking a column apart -/

/-- An equality of the key with `v` misses `r`: `v` asks for its number but does not spell it. -/
def Missed (t : Table) (c v : String) (r : Record) : Prop :=
  t.resolve? c = some .number ∧ asksFor v r.number = true ∧ spells v r.number = false

/-- Only the record with the least number is missed. -/
theorem number_of_missed {t : Table} {c v : String} {r : Record} (fits : Number.isInt64 r.number = true)
    (missed : Missed t c v r) : r.number = Number.minInt64 := by
  obtain ⟨-, asked, unspelled⟩ := missed
  have same := Store.asksFor_iff.1 asked
  rcases Store.Affinity.numeric_of_int fits same with integer | least
  · rw [Store.spells_iff.2 integer] at unspelled
    cases unspelled
  · exact Cell.eq_of_cmp_int same least

/-- `found` takes the records of `t` apart by their cells under `c`: a record with a value is in the list of
    exactly one relation unless it is `Missed`, one without a value or a `Missed` one in none. Cells in the
    list of `.equal` compare as equal, those in `.less` come before and those in `.greater` after. -/
structure Splits (t : Table) (c v : String) (found : Relation → List Record) : Prop where
  inside (ρ : Relation) : found ρ ⊆ t.records
  sorted (ρ : Relation) : (found ρ).Pairwise fun a b => a.number < b.number
  once : ∀ r ∈ t.records, ¬ Missed t c v r → t.shown r c ≠ .null → ∃! ρ, r ∈ found ρ
  missing : ∀ r ∈ t.records, t.shown r c = .null → ∀ ρ, r ∉ found ρ
  missed : ∀ r ∈ t.records, Missed t c v r → ∀ ρ, r ∉ found ρ
  alike : ∀ a ∈ found .equal, ∀ b ∈ found .equal, (t.shown a c).cmp (t.shown b c) = .eq
  below : ∀ a ∈ found .less, ∀ b ∈ found .equal, (t.shown a c).cmp (t.shown b c) = .lt
  above : ∀ a ∈ found .equal, ∀ b ∈ found .greater, (t.shown a c).cmp (t.shown b c) = .lt
  apart : ∀ a ∈ found .less, ∀ b ∈ found .greater, (t.shown a c).cmp (t.shown b c) = .lt

/-- The records whose values stand in the three relations to one value take a column apart. -/
theorem splits_of_mem_iff {t : Table} {c v : String} {x : Cell} {found : Relation → List Record}
    (sorted : ∀ ρ, (found ρ).Pairwise fun a b => a.number < b.number)
    (mem : ∀ ρ r, r ∈ found ρ ↔
      r ∈ t.records ∧ ¬ Missed t c v r ∧ t.shown r c ≠ .null ∧ (t.shown r c).cmp x = asks ρ) :
    Splits t c v found := by
  have stands {ρ : Relation} {r : Record} (hr : r ∈ found ρ) : (t.shown r c).cmp x = asks ρ :=
    ((mem ρ r).1 hr).2.2.2
  have behind {ρ : Relation} {r : Record} (hr : r ∈ found ρ) :
      x.cmp (t.shown r c) = (asks ρ).swap := by
    rw [← stands hr, ← Std.OrientedCmp.eq_swap]
  -- two values are compared by way of the one that both are compared with
  exact
    { inside := fun ρ r hr => ((mem ρ r).1 hr).1
      sorted := sorted
      once := fun r hr looked given => by
        obtain ⟨ρ, here, unique⟩ := existsUnique_asks ((t.shown r c).cmp x)
        exact ⟨ρ, (mem ρ r).2 ⟨hr, looked, given, here⟩, fun σ hσ => unique σ (stands hσ)⟩
      missing := fun r _ null ρ hr => ((mem ρ r).1 hr).2.2.1 null
      missed := fun r _ missed ρ hr => ((mem ρ r).1 hr).2.1 missed
      alike := fun a ha b hb => Std.TransCmp.eq_trans (stands ha) (behind hb)
      below := fun a ha b hb => Std.TransCmp.lt_of_lt_of_eq (stands ha) (behind hb)
      above := fun a ha b hb => Std.TransCmp.lt_of_eq_of_lt (stands ha) (behind hb)
      apart := fun a ha b hb => Std.TransCmp.lt_trans (stands ha) (behind hb) }

variable {s : Store} {table : String} {t : Table}

/-- What is shown under the key equals a text exactly if the text asks for the number of the record. -/
theorem cmp_number_eq_iff {c v : String} {r : Record} (wide : r.cells.length = t.columns.length)
    (live : c ∈ t.columnNames) (number : t.resolve? c = some .number) :
    (t.shown r c).cmp ((t.declaredAffinity c).bound v) = .eq ↔ asksFor v r.number = true := by
  rw [← Table.read_eq_shown wide live number, ← Table.affinityOf_eq live number, Store.asksFor_iff]
  rfl

/-- A comparison gives the records that it holds of, but for those that an equality with the key misses. -/
theorem looked_up_iff {c v : String} {ρ : Relation} {r : Record} (wide : r.cells.length = t.columns.length)
    (live : c ∈ t.columnNames) (stands : (t.shown r c).cmp ((t.declaredAffinity c).bound v) = asks ρ) :
    (operatorOf ρ = .equals → t.resolve? c = some .number →
        Store.Affinity.integer.bound v = .int r.number) ↔ ¬ Missed t c v r := by
  constructor
  · rintro looked ⟨number, asked, unspelled⟩
    rw [(cmp_number_eq_iff wide live number).2 asked] at stands
    have equal : operatorOf ρ = .equals := by cases ρ <;> first | rfl | cases stands
    rw [Store.spells_iff.2 (looked equal number)] at unspelled
    cases unspelled
  · intro seen equal number
    have equals : asks ρ = .eq := by cases ρ <;> first | rfl | cases equal
    have asked := (cmp_number_eq_iff wide live number).1 (stands.trans equals)
    by_contra other
    exact seen ⟨number, asked, beq_eq_false_iff_ne.2 other⟩

/-- **The lists of `equals`, `greater than` and `less than` for one column and one text split the records**
    (`Splits`), in whatever texts the three filters are `Rendered`. A record that is `Missed` is in none of
    the lists; its number is `minInt64`. -/
theorem comparisons_split (isOpen : s.isOpen = true) (present : s.database.table? table = some t)
    {c v : String} (live : c ∈ t.columnNames) (named : Text.isBlankText c = false)
    (given : Text.isBlankText v = false) {payload : Relation → String}
    (asked : ∀ ρ, Rendered [comparing c ρ v named given] (payload ρ).toList)
    (short : ∀ ρ, (payload ρ).utf8ByteSize ≤ maxBytes) :
    (∃ found : Relation → List Record,
      (∀ ρ, list s table (some (payload ρ)) none = .ok ((found ρ).map t.row)) ∧
        Splits t c v found) ∧
      ∀ r, Number.isInt64 r.number = true → Missed t c v r → r.number = Number.minInt64 := by
  have one (ρ : Relation) : ∃ rs : List Record,
      list s table (some (payload ρ)) none = .ok (rs.map t.row) ∧
        (rs.Pairwise fun a b => a.number < b.number) ∧
        ∀ r, r ∈ rs ↔ r ∈ t.records ∧ t.Holds r (comparing c ρ v named given) ∧
          (operatorOf ρ = .equals → t.resolve? c = some .number →
            Store.Affinity.integer.bound v = .int r.number) := by
    have parsed : Filter.parse ((some (payload ρ)).getD "") = .ok [comparing c ρ v named given] :=
      Filter.parse_one (short ρ) (asked ρ)
    have plain : (comparing c ρ v named given).pattern? = none := by cases ρ <;> rfl
    exact list_one isOpen present parsed live plain
  choose found listed sorted mem using one
  have stands (ρ : Relation) (r : Record) : r ∈ found ρ ↔ r ∈ t.records ∧ ¬ Missed t c v r ∧
      t.shown r c ≠ .null ∧ (t.shown r c).cmp ((t.declaredAffinity c).bound v) = asks ρ := by
    rw [mem, holds_comparing]
    constructor
    · rintro ⟨hr, ⟨shows, here⟩, looked⟩
      exact ⟨hr, (looked_up_iff (t.complete r hr) live here).1 looked, shows, here⟩
    · rintro ⟨hr, seen, shows, here⟩
      exact ⟨hr, ⟨shows, here⟩, (looked_up_iff (t.complete r hr) live here).2 seen⟩
  exact ⟨⟨found, listed, splits_of_mem_iff sorted stands⟩, fun r => number_of_missed⟩

/-- A table with values of all classes in one column. -/
def market : Table :=
  ⟨"cars", [⟨Sql.keyColumn, .key⟩, .numeric "Price"], true, 7,
    [⟨1, [.null, .null]⟩, ⟨2, [.null, .int 2]⟩, ⟨3, [.null, .int 3]⟩,
      ⟨4, [.null, .real (.finite false ⟨3, 0⟩)]⟩, ⟨5, [.null, .real (.finite false ⟨7, -1⟩)]⟩,
      ⟨6, [.null, .text "3 or less"]⟩, ⟨7, [.null, .blob [51]]⟩],
    by decide, by decide, by unfold Store.Distinct; decide, by decide, by decide⟩

theorem comparisons_split_market :
    let s := Store.ofDatabase ⟨[market]⟩
    let payload := fun ρ => written "Price" (operatorOf ρ) (some "3")
    s.isOpen = true ∧ s.database.table? "cars" = some market ∧ "Price" ∈ market.columnNames ∧
      (∀ ρ, (payload ρ).utf8ByteSize ≤ maxBytes) ∧
      ∃ found : Relation → List Record,
        (∀ ρ, list s "cars" (some (payload ρ)) none = .ok ((found ρ).map market.row)) ∧
          Splits market "Price" "3" found := by
  intro s payload
  have isOpen : s.isOpen = true := rfl
  have present : s.database.table? "cars" = some market := by decide
  have live : "Price" ∈ market.columnNames := by decide
  have short : ∀ ρ, (payload ρ).utf8ByteSize ≤ maxBytes := by
    intro ρ
    cases ρ <;> decide +kernel
  have asked : ∀ ρ, Rendered [comparing "Price" ρ "3" (by decide) (by decide)] (payload ρ).toList :=
    fun ρ => Filter.rendered_written (comparing "Price" ρ "3" _ _)
  exact ⟨isOpen, present, live, short, (comparisons_split isOpen present live _ _ asked short).1⟩

/-! ## 3. What is left out -/

/-- A table with a column that is called by a blank. -/
def unnamed : Table :=
  ⟨"cars", [⟨Sql.keyColumn, .key⟩, .numeric " "], true, 1, [⟨1, [.null, .text "a"]⟩],
    by decide, by decide, by unfold Store.Distinct; decide, by decide, by decide⟩

/-- The filters of a column whose name is blank are refused. -/
theorem list_blank_name (s : Store) (table : String) :
    ∃ e, list s table (some (written " " .equals (some "a"))) none = .error (.filter e) := by
  have refused : (Filter.parse ((some (written " " .equals (some "a"))).getD "")).toOption = none := by
    decide +kernel
  cases parsed : Filter.parse ((some (written " " .equals (some "a"))).getD "") with
  | ok ds =>
    rw [parsed] at refused
    cases refused
  | error e => exact ⟨e, list_malformed parsed none⟩

/-- A table with a record of the least number, and one of another. -/
def cellar : Table :=
  ⟨"cars", [⟨Sql.keyColumn, .key⟩, ⟨"Brand", .data .numeric⟩], true, 5,
    [⟨-9223372036854775808, [.null, .text "a"]⟩, ⟨5, [.null, .text "b"]⟩],
    by decide, by decide, by unfold Store.Distinct; decide, by decide, by decide⟩

theorem sound_cellar : cellar.Sound where
  shape := ⟨["Brand"], rfl⟩
  narrow := by decide
  automatic := rfl
  start := by decide
  bounded := by decide
  numbered := by decide
  low := by decide

/-- The record of the least number stands in no relation to a text that is read as a real number. -/
theorem list_cellar (ρ : Relation) :
    ∃ rows, list (.ofDatabase ⟨[cellar]⟩) "cars"
        (some (written "id" (operatorOf ρ) (some "-9223372036854775809"))) none = .ok rows ∧
      cellar.row ⟨-9223372036854775808, [.null, .text "a"]⟩ ∉ rows := by
  have listed : (list (.ofDatabase ⟨[cellar]⟩) "cars"
      (some (written "id" (operatorOf ρ) (some "-9223372036854775809"))) none).toOption =
        some (match ρ with | .greater => [cellar.row ⟨5, [.null, .text "b"]⟩] | _ => []) := by
    cases ρ <;> decide +kernel
  refine ⟨_, eq_ok_of_toOption listed, ?_⟩
  cases ρ <;> decide

/-- **The three comparisons leave values out**: all of a column whose name is blank, since its filters are
    refused, and the least number of a record, where the text is a real number that equals it. -/
theorem comparisons_leave_out :
    (¬ ∀ (s : Store) (table : String) (t : Table) (c v : String), s.isOpen = true →
      s.database.table? table = some t → c ∈ t.columnNames → Text.isBlankText v = false →
      (∀ ρ, (written c (operatorOf ρ) (some v)).utf8ByteSize ≤ maxBytes) →
      ∃ found : Relation → List Record,
        (∀ ρ, list s table (some (written c (operatorOf ρ) (some v))) none =
          .ok ((found ρ).map t.row)) ∧
        ∀ r ∈ t.records, t.shown r c ≠ .null → ∃! ρ, r ∈ found ρ) ∧
    ¬ ∀ (s : Store) (table : String) (t : Table) (c v : String), s.isOpen = true →
      s.database.table? table = some t → c ∈ t.columnNames → Text.isBlankText v = false →
      (∀ ρ, (written c (operatorOf ρ) (some v)).utf8ByteSize ≤ maxBytes) →
      Text.isBlankText c = false → t.Sound →
      ∃ found : Relation → List Record,
        (∀ ρ, list s table (some (written c (operatorOf ρ) (some v))) none =
          .ok ((found ρ).map t.row)) ∧
        ∀ r ∈ t.records, t.shown r c ≠ .null → ∃! ρ, r ∈ found ρ := by
  constructor
  · intro claimed
    have short : ∀ ρ, (written " " (operatorOf ρ) (some "a")).utf8ByteSize ≤ maxBytes := by
      intro ρ
      cases ρ <;> decide +kernel
    obtain ⟨found, listed, -⟩ := claimed (Store.ofDatabase ⟨[unnamed]⟩) "cars" unnamed " " "a" rfl
      (by decide) (by decide) (by decide) short
    obtain ⟨e, refused⟩ := list_blank_name (Store.ofDatabase ⟨[unnamed]⟩) "cars"
    cases refused.symm.trans (listed .equal)
  · intro claimed
    have short : ∀ ρ, (written "id" (operatorOf ρ) (some "-9223372036854775809")).utf8ByteSize ≤
        maxBytes := by
      intro ρ
      cases ρ <;> decide +kernel
    obtain ⟨found, listed, once⟩ := claimed (Store.ofDatabase ⟨[cellar]⟩) "cars" cellar "id"
      "-9223372036854775809" rfl (by decide) (by decide) (by decide) short (by decide) sound_cellar
    obtain ⟨ρ, here, -⟩ := once _ List.mem_cons_self (by decide)
    obtain ⟨rows, given, out⟩ := list_cellar ρ
    obtain rfl := Except.ok.inj (given.symm.trans (listed ρ))
    exact out (List.mem_map_of_mem here)

end Dataset.Gateway
