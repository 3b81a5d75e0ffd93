import Dataset.Import
import Dataset.Proofs.Store.Answer
import Dataset.Proofs.Text.Trimming
import Mathlib.Data.List.Nodup

/-!
# The columns that a header names

A header names the columns of an import by its trimmed texts. Of texts that are equal the first
counts, and blank ones do not.

* `names`: the names of a header, each once and in the order of their first places;
* `fieldUnder`: the field of a record under a name, which is the one at the name's first place;
* **`keptColumns_eq`**: these are the columns that an import keeps;
* **`recordValues_eq`**: so it stores what `normalizeCell` makes of the field under each name.
-/

namespace Dataset.Import

/-- The texts of a header without blanks around them. -/
def trimmed (header : List String) : List String := header.map Text.trim

/-- The field of the record `fields` under `name`, in the place that `header` first has it. -/
def fieldUnder (header fields : List String) (name : String) : Option String :=
  fields[(trimmed header).idxOf name]?

/-- The `fieldUnder` a name as `normalizeCell` leaves it. -/
def valueUnder (header fields : List String) (name : String) : Option String :=
  normalizeCell name (fieldUnder header fields name)

/-- The names of a header. -/
def names (header : List String) : List String := (keptColumns header).map Kept.name

/-! ## 1. Which columns are kept -/

/-- What a header keeps when it has been read up to a place: the names before it that are not blank,
    each once and with its first place. -/
structure KeptUpTo (header : List String) (index : Nat) (kept : List Kept) : Prop where
  nodup : (kept.map Kept.name).Nodup
  mem_iff : ∀ n, n ∈ kept.map Kept.name ↔ n ∈ (trimmed header).take index ∧ n ≠ ""
  first : ∀ k ∈ kept, k.index = (trimmed header).idxOf k.name

theorem keptUpTo_zero (header : List String) : KeptUpTo header 0 [] where
  nodup := List.nodup_nil
  mem_iff := by simp
  first := by simp

theorem any_name_iff {kept : List Kept} {name : String} :
    kept.any (·.name == name) = true ↔ name ∈ kept.map Kept.name := by
  simp [List.any_eq_true, List.mem_map]

theorem not_kept_iff {kept : List Kept} {name : String} :
    (name.isEmpty || kept.any (·.name == name)) = true ↔ name = "" ∨ name ∈ kept.map Kept.name := by
  rw [Bool.or_eq_true_iff, any_name_iff, String.isEmpty_iff]

section Step

variable {before rest : List String} {raw : String} {kept : List Kept}

theorem take_trimmed (before rest : List String) :
    (trimmed (before ++ rest)).take before.length = trimmed before := by
  simp [trimmed]

theorem take_succ_trimmed (before rest : List String) (raw : String) :
    (trimmed (before ++ raw :: rest)).take (before.length + 1) = trimmed before ++ [Text.trim raw] := by
  simp [trimmed, List.take_append, List.take_of_length_le]

/-- A text that is blank or repeats a name is passed over. -/
theorem KeptUpTo.skip (h : KeptUpTo (before ++ raw :: rest) before.length kept)
    (skipped : Text.trim raw = "" ∨ Text.trim raw ∈ kept.map Kept.name) :
    KeptUpTo (before ++ raw :: rest) (before.length + 1) kept := by
  have old := h.mem_iff
  rw [take_trimmed] at old
  refine ⟨h.nodup, fun n => ?_, h.first⟩
  rw [take_succ_trimmed, old, List.mem_append, List.mem_singleton]
  constructor
  · exact fun ⟨hn, given⟩ => ⟨.inl hn, given⟩
  · rintro ⟨hn | rfl, given⟩
    · exact ⟨hn, given⟩
    · exact (old _).1 (skipped.resolve_left given)

/-- A text that is neither is kept with its place, which is the first of its name. -/
theorem KeptUpTo.keep (h : KeptUpTo (before ++ raw :: rest) before.length kept)
    (given : Text.trim raw ≠ "") (fresh : Text.trim raw ∉ kept.map Kept.name) :
    KeptUpTo (before ++ raw :: rest) (before.length + 1)
      (kept ++ [⟨before.length, Text.trim raw⟩]) := by
  have old := h.mem_iff
  rw [take_trimmed] at old
  have new : Text.trim raw ∉ trimmed before := fun hn => fresh ((old _).2 ⟨hn, given⟩)
  refine ⟨?_, fun n => ?_, fun k hk => ?_⟩
  · rw [List.map_append]
    refine List.nodup_append.2 ⟨h.nodup, List.nodup_singleton _, fun a ha b hb => ?_⟩
    rw [List.mem_singleton.1 hb]
    exact ne_of_mem_of_not_mem ha fresh
  · rw [take_succ_trimmed, List.map_append, List.mem_append, old, List.mem_append]
    constructor
    · rintro (⟨hn, hgiven⟩ | hn)
      · exact ⟨.inl hn, hgiven⟩
      · rw [List.mem_singleton.1 hn]
        exact ⟨.inr (List.mem_singleton_self _), given⟩
    · rintro ⟨hn | hn, hgiven⟩
      · exact .inl ⟨hn, hgiven⟩
      · exact .inr hn
  · rcases List.mem_append.1 hk with hk | hk
    · exact h.first k hk
    · have texts : trimmed (before ++ raw :: rest) =
          trimmed before ++ Text.trim raw :: trimmed rest := by simp [trimmed]
      rw [List.mem_singleton.1 hk, texts, List.idxOf_append_of_notMem new,
        List.idxOf_cons_self, trimmed, List.length_map, Nat.add_zero]

end Step

theorem keptUpTo_keptFrom {before rest : List String} {kept : List Kept}
    (h : KeptUpTo (before ++ rest) before.length kept) :
    KeptUpTo (before ++ rest) (before ++ rest).length (keptFrom before.length kept rest).1 := by
  -- the text that is read moves from `rest` to the end of `before`
  induction rest generalizing before kept with
  | nil => simpa [keptFrom] using h
  | cons raw rest ih =>
    have length : before.length + 1 = (before ++ [raw]).length := by simp
    rw [keptFrom]
    split_ifs with skipped
    · have step := h.skip (not_kept_iff.1 skipped)
      rw [List.append_cons, length] at step ⊢
      exact ih step
    · obtain ⟨given, fresh⟩ := not_or.1 fun h => skipped (not_kept_iff.2 h)
      have step := h.keep given fresh
      rw [List.append_cons, length] at step ⊢
      exact ih step

theorem keptUpTo_keptColumns (header : List String) :
    KeptUpTo header header.length (keptColumns header) := by
  have start : KeptUpTo ([] ++ header) ([] : List String).length [] := keptUpTo_zero header
  exact keptUpTo_keptFrom start

/-! ## 2. Names -/

theorem nodup_names (header : List String) : (names header).Nodup :=
  (keptUpTo_keptColumns header).nodup

/-- The names of a header are its trimmed texts that are not blank. -/
theorem mem_names {header : List String} {n : String} :
    n ∈ names header ↔ n ∈ trimmed header ∧ n ≠ "" := by
  have all : (trimmed header).take header.length = trimmed header :=
    List.take_of_length_le (by simp [trimmed])
  rw [names, (keptUpTo_keptColumns header).mem_iff, all]

/-- No name of a header is blank. -/
theorem isBlankText_of_mem_names {header : List String} {n : String} (h : n ∈ names header) :
    Text.isBlankText n = false := by
  obtain ⟨trimmed, given⟩ := mem_names.1 h
  obtain ⟨raw, -, rfl⟩ := List.mem_map.1 trimmed
  rw [Bool.eq_false_iff, Text.isBlankText, ne_eq, List.all_eq_true, ← Text.trimChars_eq_nil_iff,
    Text.toList_trim, (Text.trimmed_trimChars raw.toList).trimChars_eq]
  exact fun empty => given (by rw [Text.trim, empty])

/-- **The columns that are kept are the names of the header with their first places.** -/
theorem keptColumns_eq (header : List String) :
    keptColumns header = (names header).map fun n => ⟨(trimmed header).idxOf n, n⟩ := by
  rw [names, List.map_map]
  refine (List.map_id _).symm.trans (List.map_congr_left fun k hk => ?_)
  show k = ⟨(trimmed header).idxOf k.name, k.name⟩
  rw [← (keptUpTo_keptColumns header).first k hk]

theorem names_eq_nil_iff {header : List String} :
    names header = [] ↔ ∀ h ∈ header, Text.trim h = "" := by
  rw [List.eq_nil_iff_forall_not_mem]
  simp only [mem_names, trimmed, List.mem_map, not_and, not_not]
  constructor
  · exact fun h raw hraw => h _ ⟨raw, hraw, rfl⟩
  · rintro h _ ⟨raw, hraw, rfl⟩
    exact h raw hraw

/-- From texts that are neither blank nor repeated nothing is left out. -/
theorem map_name_keptFrom {index : Nat} {kept : List Kept} {rest : List String}
    (given : ∀ raw ∈ rest, Text.trim raw ≠ "")
    (nodup : (kept.map Kept.name ++ trimmed rest).Nodup) :
    (keptFrom index kept rest).1.map Kept.name = kept.map Kept.name ++ trimmed rest := by
  induction rest generalizing index kept with
  | nil => exact (List.append_nil _).symm
  | cons raw rest ih =>
    obtain ⟨here, there⟩ := List.forall_mem_cons.1 given
    have kept' : ¬ ((Text.trim raw).isEmpty || kept.any (·.name == Text.trim raw)) = true := by
      rw [not_kept_iff]
      rintro (blank | again)
      · exact here blank
      · exact (List.nodup_append.1 nodup).2.2 _ again _ List.mem_cons_self rfl
    have more : (kept ++ [(⟨index, Text.trim raw⟩ : Kept)]).map Kept.name ++ trimmed rest =
        kept.map Kept.name ++ trimmed (raw :: rest) := by simp [trimmed]
    rw [keptFrom, if_neg kept', ih there (more ▸ nodup), more]

/-- The names of a header with different names are its trimmed texts. -/
theorem names_eq_trimmed {header : List String} (given : ∀ raw ∈ header, Text.trim raw ≠ "")
    (nodup : (trimmed header).Nodup) : names header = trimmed header :=
  map_name_keptFrom given nodup

/-- **A record gives each name what `normalizeCell` makes of its field under the name.** -/
theorem recordValues_eq (header fields : List String) :
    recordValues (keptColumns header) fields = (names header).map (valueUnder header fields) := by
  rw [recordValues, keptColumns_eq, List.map_map]
  rfl

/-! ## 3. The course of an import -/

theorem map_name_keptColumns (header : List String) :
    (keptColumns header).map Kept.name = names header := rfl

variable {s : Store} {table : String} {bytes : List UInt8} {csv : Csv.Table}

/-- An input that cannot be read changes nothing. -/
theorem importBytes_of_unreadable {e : Csv.Error} (unread : Csv.table bytes = .error e) :
    importBytes s table bytes = (.error (.csv e), s) := by
  rw [importBytes, unread]

/-- **An import shapes the table for the names of its header, and then adds its records.** -/
theorem importBytes_of_read (isOpen : s.isOpen = true) (read : Csv.table bytes = .ok csv) :
    importBytes s table bytes =
      if names csv.header = [] then (.error (.invalidData .noColumns), s)
      else
        match s.database.ensureTable table (names csv.header) with
        | (.error fault, d) => (.error (.refused fault), { s with database := d })
        | (.ok (), d) =>
          let done := addRecords table (keptColumns csv.header) firstLine { s with database := d } csv.rows
          (.ok ⟨⟨csv.rows.length - done.2.length, done.2.length⟩, skippedColumns csv.header, done.2⟩,
            done.1) := by
  have empty : (keptColumns csv.header).isEmpty = true ↔ names csv.header = [] := by simp [names]
  rw [importBytes, read]
  simp only [importTable, empty, map_name_keptColumns, Store.ensureTable, Store.connect_of_isOpen isOpen]
  split_ifs
  · rfl
  · rcases s.database.ensureTable table (names csv.header) with ⟨_ | _, d⟩ <;> rfl

/-- Records that are refused change nothing, and are all reported. -/
theorem addRecords_of_none {kept : List Kept} {rows : List (Option (List String))}
    (refused : ∀ row ∈ rows, addRecord s table kept row = none) (line : Nat) :
    addRecords table kept line s rows = (s, List.range' line rows.length) := by
  induction rows generalizing line with
  | nil => rfl
  | cons row rows ih =>
    obtain ⟨here, there⟩ := List.forall_mem_cons.1 refused
    rw [addRecords, here]
    simp only [ih there (line + 1)]
    rfl

/-- An import that succeeds has shaped the table and added the records, and counts them. -/
theorem importBytes_ok {s' : Store} {report : Report} (isOpen : s.isOpen = true)
    (read : Csv.table bytes = .ok csv) (done : importBytes s table bytes = (.ok report, s')) :
    names csv.header ≠ [] ∧ ∃ d, s.database.ensureTable table (names csv.header) = (.ok (), d) ∧
      (addRecords table (keptColumns csv.header) firstLine { s with database := d } csv.rows).1 = s' ∧
      report.summary.failed = (addRecords table (keptColumns csv.header) firstLine
        { s with database := d } csv.rows).2.length ∧
      report.summary.inserted = csv.rows.length - report.summary.failed := by
  rw [importBytes_of_read isOpen read] at done
  split at done
  · cases congrArg Prod.fst done
  · rename_i named
    split at done
    · cases congrArg Prod.fst done
    · rename_i d shaped
      obtain ⟨reported, left⟩ := Prod.mk.inj done
      obtain rfl := Except.ok.inj reported
      exact ⟨named, d, shaped, left, rfl, rfl⟩

end Dataset.Import
