import Dataset.Proofs.Gateway.Agreement

/-!
# Removing the row that would be given

A row is removed by the key by which it is given, and nothing else is. It is not found again before its
number is brought back.

* `delete_error_iff`, `delete_ok_iff`: rows are removed and given by the same keys;
* `Takes`: the second store is the first without one row of a table (`takes_of_delete`);
* `not_found_of_gone`: a number that is gone is not found by any text that asks for it;
* **`delete_exact`**: all this in every store that operations lead to.
-/

namespace Dataset.Gateway

open Store (Table Record Operation Change asksFor)

variable {s s' : Store} {table : String} {t : Table}

/-! ## 1. Removed and given by the same keys -/

/-- What keeps a row from being removed keeps it from being given, and the other way round. -/
theorem delete_error_iff (k : s.Sound) (table x : String) (e : Error) :
    delete s table x = .error e ↔ get s table x = .error e := by
  cases found : s.database.table? table with
  | none =>
    obtain ⟨fault, unread, undone⟩ := Store.get_delete_of_missing k.isOpen found x
    rw [delete, get, unread, undone, mapError_error, mapError_error, Except.error.injEq,
      Except.error.injEq]
  | some t =>
    rw [delete_of_record k found, get_of_record k found]
    cases t.recordOf? x <;> simp

theorem delete_ok_iff (k : s.Sound) (table x : String) :
    (∃ s', delete s table x = .ok s') ↔ ∃ row, get s table x = .ok row := by
  have errors := delete_error_iff k table x
  cases done : delete s table x with
  | error e => simp [(errors e).1 done]
  | ok s' =>
    cases given : get s table x with
    | error e =>
      rw [(errors e).2 given] at done
      cases done
    | ok row => simp

/-- A removal that succeeds gives the store behind it. -/
theorem apply_delete_of_ok {x : String} (done : delete s table x = .ok s') :
    Change.apply s (.delete table x) = s' := by
  have removed : s.delete table x = .ok s' := ok_of_mapError done
  rw [Change.apply, removed]
  rfl

/-- A removal that fails leaves the store as it was. -/
theorem apply_delete_of_error {x : String} {e : Error} (failed : delete s table x = .error e) :
    Change.apply s (.delete table x) = s := by
  rw [delete] at failed
  rw [Change.apply]
  cases outcome : s.delete table x with
  | error cause => rfl
  | ok other =>
    rw [outcome] at failed
    cases failed

/-! ## 2. What a removal leaves -/

/-- The second store is the first without the row of one record: the records before it and behind it
    stay in the table, with its columns and its largest number, and other tables are not touched. -/
structure Takes (s : Store) (table : String) (t : Table) (r : Record) (s' : Store) : Prop where
  present : s.database.table? table = some t
  among : r ∈ t.records
  isOpen : s'.isOpen = s.isOpen
  left : ∃ t', s'.database.table? table = some t' ∧ t'.name = t.name ∧ t'.columns = t.columns ∧
    t'.automatic = t.automatic ∧ t'.highest = t.highest ∧
    ∃ before after, t.records = before ++ r :: after ∧ t'.records = before ++ after
  others : ∀ other, Text.sameIgnoringCase table other = false →
    s'.database.table? other = s.database.table? other

/-- **A removal that succeeds takes the row that is given by the same key.** -/
theorem takes_of_delete (k : s.Sound) {x : String} (done : delete s table x = .ok s') :
    ∃ t r, Takes s table t r s' ∧ asksFor x r.number = true ∧ get s table x = .ok (t.row r) := by
  cases found : s.database.table? table with
  | none =>
    obtain ⟨fault, -, undone⟩ := Store.get_delete_of_missing k.isOpen found x
    rw [delete, undone] at done
    cases done
  | some t =>
    rw [delete_of_record k found] at done
    cases asked : t.recordOf? x with
    | none =>
      rw [asked] at done
      cases done
    | some r =>
      rw [asked] at done
      obtain rfl := Except.ok.inj done
      obtain ⟨among, spelled⟩ := Table.recordOf?_eq_some_iff.1 asked
      have same : (t.remove [r].contains).name = t.name := rfl
      have puts := Store.Database.puts_replace found same
      refine ⟨t, r, ⟨found, among, rfl, ?_, puts.others⟩, Store.asksFor_of_spells spelled,
        by rw [get_of_record k found, asked]⟩
      exact ⟨_, puts.found, rfl, rfl, rfl, rfl, Table.remove_of_recordOf? asked⟩

/-- The rows that are listed are those from before, without the one that was taken. -/
theorem Takes.list_all {r : Record} (k : s.Sound) (h : Takes s table t r s') :
    ∃ before after, list s table none none = .ok (before ++ t.row r :: after) ∧
      list s' table none none = .ok (before ++ after) := by
  obtain ⟨t', present', -, columns, -, -, before, after, split, left⟩ := h.left
  have same : t'.row = t.row :=
    funext fun x => by simp only [Table.row, Table.shownNames, Table.values, columns]
  refine ⟨before.map t.row, after.map t.row, ?_, ?_⟩
  · rw [Gateway.list_all k.isOpen h.present, split, List.map_append, List.map_cons]
  · rw [Gateway.list_all (h.isOpen.trans k.isOpen) present', left, List.map_append, same]

/-- The number of the row that was taken is gone. -/
theorem Takes.gone {r : Record} (k : s.Sound) (h : Takes s table t r s') : s'.Gone table r.number := by
  obtain ⟨t', present', -, -, -, highest, before, after, split, left⟩ := h.left
  refine ⟨t', present', ?_, fun x among same => ?_⟩
  · rw [highest]
    exact (k.tables table t h.present).numbered r h.among
  · have nodup := t.nodup_records
    rw [split, List.nodup_middle, List.nodup_cons] at nodup
    rw [left] at among
    have among' : x ∈ t.records := by
      rw [split]
      simp only [List.mem_append, List.mem_cons] at among ⊢
      tauto
    exact nodup.1 (Table.eq_of_number_eq among' h.among same ▸ among)

/-- A number that is gone is not found by any text that asks for it. -/
theorem not_found_of_gone (k : s.Sound) {n : Int} (gone : s.Gone table n) {y : String}
    (asks : asksFor y n = true) :
    get s table y = .error .notFound ∧ delete s table y = .error .notFound := by
  obtain ⟨t, present, -, absent⟩ := gone
  have unfound : t.recordOf? y = none := by
    rw [Table.recordOf?_eq_none_iff]
    intro r among
    rw [Bool.eq_false_iff]
    exact fun other => absent r among (Store.eq_of_asksFor (Store.asksFor_of_spells other) asks)
  have unread : get s table y = .error .notFound := by rw [get_of_record k present, unfound]
  exact ⟨unread, (delete_error_iff k table y .notFound).2 unread⟩

/-- **A number that was removed is not found until it is brought.** -/
theorem not_found_after_delete (k : s.Sound) {r : Record} (takes : Takes s table t r s')
    (k' : s'.Sound) {course : List Change} (unbrought : s'.NeverBrought course table r.number)
    {y : String} (asks : asksFor y r.number = true) :
    get (s'.after course) table y = .error .notFound ∧
      delete (s'.after course) table y = .error .notFound :=
  not_found_of_gone (Store.sound_after k' course) (Store.gone_after k' (takes.gone k) unbrought) asks

/-! ## 3. In every store that operations lead to -/

/-- **`delete` takes exactly the row that `get` would give**, in every store that a run of operations
    reached from `Store.fresh`. It succeeds exactly if `get` does, and fails as `get` does, leaving the
    store as it was. Where it succeeds, the record of that row is gone and nothing else has changed;
    afterwards `get` answers `notFound` to every text that asks for its number, whatever operations follow,
    until one of them brings a record with this number. -/
theorem delete_exact (operations : List Operation) (table x : String) :
    let s := Store.fresh.run operations
    ((∃ s', delete s table x = .ok s') ↔ ∃ row, get s table x = .ok row) ∧
      (∀ e, delete s table x = .error e ↔ get s table x = .error e) ∧
      (∀ e, delete s table x = .error e →
        s.run [.change (.delete table x)] = s) ∧
      ∀ s', delete s table x = .ok s' →
        s.run [.change (.delete table x)] = s' ∧
          ∃ t r, Takes s table t r s' ∧ asksFor x r.number = true ∧
            get s table x = .ok (t.row r) ∧
            (∃ before after, list s table none none = .ok (before ++ t.row r :: after) ∧
              list s' table none none = .ok (before ++ after)) ∧
            ∀ further, s'.NeverBrought (s'.changesOf further) table r.number →
              ∀ y, asksFor y r.number = true →
                get (s'.run further) table y = .error .notFound ∧
                  delete (s'.run further) table y = .error .notFound := by
  intro s
  have k : s.Sound := Store.sound_run operations
  refine ⟨delete_ok_iff k table x, delete_error_iff k table x, fun e => apply_delete_of_error,
    fun s' done => ?_⟩
  have reached : Change.apply s (.delete table x) = s' := apply_delete_of_ok done
  have k' : s'.Sound := reached ▸ (Store.effect_apply k _).sound k
  obtain ⟨t, r, takes, asks, given⟩ := takes_of_delete k done
  refine ⟨reached, t, r, takes, asks, given, takes.list_all k, fun further unbrought y asksY => ?_⟩
  rw [Store.run_eq_after]
  exact not_found_after_delete k takes k' unbrought asksY

/-- Of two cars the first is removed by another spelling of its key. Then a third one comes in without a
    key, and the first is still not found by a further spelling. -/
theorem delete_exact_showroom :
    let operations : List Operation :=
      [.change (.shape "cars" ["Brand"]), .load "cars" (Text.Utf8.encode "Brand\nx\ny\n".toList)]
    let s := Store.fresh.run operations
    let s' := s.run [.change (.delete "cars" "01")]
    let further : List Operation := [.change (.insert "cars" ["Brand"] [some "z"])]
    delete s "cars" "01" = .ok s' ∧ s' ≠ s ∧
      get (s'.run further) "cars" "1.0" = .error .notFound ∧
      delete (s'.run further) "cars" "1.0" = .error .notFound := by
  intro operations s s' further
  have done : delete s "cars" "01" = .ok s' := eq_ok_of_toOption (by decide +kernel)
  obtain ⟨-, -, -, succeeds⟩ := delete_exact operations "cars" "01"
  obtain ⟨-, t, r, takes, asks, -, -, gone⟩ := succeeds s' done
  have first : r.number = 1 := Store.eq_of_asksFor asks (by decide +kernel)
  have plain : ∀ c ∈ s'.changesOf further, c.Unnumbered := by
    intro c hc
    obtain rfl := List.mem_singleton.1 hc
    exact ⟨by decide, by decide⟩
  have k' : s'.Sound := (Store.sound_run operations).run _
  have unbrought := Store.neverBrought_of_unnumbered k' plain "cars" r.number
  exact ⟨done, by decide +kernel, gone further unbrought "1.0" (first ▸ by decide +kernel)⟩

end Dataset.Gateway
