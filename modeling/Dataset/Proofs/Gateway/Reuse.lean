import Dataset.Proofs.Gateway.Removal

/-!
# Keys that are not given again

A record that brings no number is numbered behind all records that its table ever had, and a number that
was removed is not found again unless a record brings it. A record can bring its number under the name of
the key, and under the names that every table answers to.

* **`numbers_not_reused`**: both, over every course of operations;
* `keyless_insert_reuses_number`: a record without a value under the name of the key may have the number
  of one that was removed, as it may bring it under another name.
-/

namespace Dataset.Gateway

open Store (Table Record Operation Change DatabaseFile asksFor namesKey)

/-- **No number is given again.** A run of operations, imports and openings of the file included, does what
    its `changesOf` do. After any course of changes, a record for whose number nothing is given (`keyGiven`
    is `none`), under whatever names, gets a number above those of all records that its table had at any
    earlier point of the course. And once `delete` has removed a number, `get` answers `notFound` to every
    text that asks for it, whatever course follows, as long as the number is `NeverBrought`. -/
theorem numbers_not_reused :
    let start := Store.fresh
    (∀ operations : List Operation,
        start.run operations = start.after (start.changesOf operations)) ∧
      (∀ (course : List Change) table columns values s',
        (start.after course).insert table columns values = .ok s' →
        ∃ t r t', (start.after course).database.table? table = some t ∧
          s'.database.table? table = some t' ∧ t.Gains r t' ∧
          (t.keyGiven columns values = none → ∀ earlier, earlier <+: course →
            ∀ u, (start.after earlier).database.table? table = some u →
              ∀ x ∈ u.records, x.number < r.number)) ∧
      ∀ (course : List Change) table id s', delete (start.after course) table id = .ok s' →
        start.after (course ++ [.delete table id]) = s' ∧
          ∃ n, asksFor id n = true ∧
            ∀ further, s'.NeverBrought further table n → ∀ y, asksFor y n = true →
              get (s'.after further) table y = .error .notFound := by
  intro start
  have k : start.Sound := Store.sound_fresh
  refine ⟨Store.run_eq_after start, fun course table columns values s' done => k.numbered_above done,
    fun course table id s' done => ?_⟩
  have k₁ := Store.sound_after k course
  have reached : Change.apply (start.after course) (.delete table id) = s' := apply_delete_of_ok done
  have k' : s'.Sound := reached ▸ (Store.effect_apply k₁ _).sound k₁
  obtain ⟨t, r, takes, asks, -⟩ := takes_of_delete k₁ done
  refine ⟨?_, r.number, asks, fun further unbrought y asksY => ?_⟩
  · rw [Store.after_append]
    exact reached
  · exact (not_found_after_delete k₁ takes k' unbrought asksY).1

/-- A file for the cars in the root directory. -/
def carsFile : DatabaseFile := ⟨⟨[]⟩, "/", "cars.db", ["cars.db"], by decide +kernel, by decide⟩

/-- A car with the number 7 comes and goes, and the file is opened again. The next car gets a larger
    number, also if it has a key without a value. -/
theorem numbers_not_reused_cars :
    let course : List Change :=
      [.shape "cars" ["Brand"], .insert "cars" ["id", "Brand"] [some "7", some "x"],
        .delete "cars" "7", .reopen carsFile]
    ∃ s' t t' r, (Store.fresh.after course).insert "cars" ["Brand", "ID"] [some "y", none] = .ok s' ∧
      (Store.fresh.after course).database.table? "cars" = some t ∧ t.records = [] ∧
      s'.database.table? "cars" = some t' ∧ t'.records = [r] ∧ 7 < r.number := by
  intro course
  let s' := (Store.fresh.after course).after [.insert "cars" ["Brand", "ID"] [some "y", none]]
  let full : Table := ⟨"cars", [⟨Sql.keyColumn, .key⟩, .numeric "Brand"], true, 7,
    [⟨7, [.null, .text "x"]⟩], by decide, by decide, by unfold Store.Distinct; decide, by decide,
    by decide⟩
  have done : (Store.fresh.after course).insert "cars" ["Brand", "ID"] [some "y", none] = .ok s' :=
    eq_ok_of_toOption (by decide +kernel)
  have once : (Store.fresh.after (course.take 2)).database.table? "cars" = some full := by
    decide +kernel
  have emptied : (Store.fresh.after course).database.table? "cars" =
      some (full.remove fun _ => true) := by decide +kernel
  obtain ⟨-, numbered, -⟩ := numbers_not_reused
  obtain ⟨t, r, t', present, present', gains, above⟩ := numbered course "cars" _ _ s' done
  obtain rfl := Option.some.inj (emptied.symm.trans present)
  have keyless : (full.remove fun _ => true).keyGiven ["Brand", "ID"] [some "y", none] = none := by
    decide
  refine ⟨s', _, t', r, done, emptied, rfl, present', gains.records, ?_⟩
  exact above keyless _ (course.take_prefix 2) full once ⟨7, _⟩ List.mem_cons_self

/-- Without a value under the name of the key, a record may still have the number of one that was
    removed, below others: it can bring it under a name that every table answers to. -/
theorem keyless_insert_reuses_number :
    ¬ ∀ (course : List Change) table columns values s',
      (Store.fresh.after course).insert table columns values = .ok s' →
      (∀ p ∈ columns.zip values, namesKey p.1 = true → p.2 = none) →
      ∃ t r t', (Store.fresh.after course).database.table? table = some t ∧
        s'.database.table? table = some t' ∧ t.Gains r t' ∧
        ∀ earlier, earlier <+: course →
          ∀ u, (Store.fresh.after earlier).database.table? table = some u →
            ∀ x ∈ u.records, x.number < r.number := by
  intro claimed
  let course : List Change :=
    [.shape "cars" ["Brand"], .insert "cars" ["Brand"] [some "x"],
      .insert "cars" ["Brand"] [some "y"], .delete "cars" "1"]
  let s' := (Store.fresh.after course).after [.insert "cars" ["rowid"] [some "1"]]
  have done : (Store.fresh.after course).insert "cars" ["rowid"] [some "1"] = .ok s' :=
    eq_ok_of_toOption (by decide +kernel)
  obtain ⟨t, r, t', present, present', gains, above⟩ :=
    claimed course "cars" ["rowid"] [some "1"] s' done (by decide)
  have numbers : t.records.map Record.number = [2] := by
    have found : ((Store.fresh.after course).database.table? "cars").map
        (fun t => t.records.map Record.number) = some [2] := by decide +kernel
    rw [present] at found
    exact Option.some.inj found
  have numbers' : t'.records.map Record.number = [1, 2] := by
    have found : (s'.database.table? "cars").map (fun t => t.records.map Record.number) =
        some [1, 2] := by decide +kernel
    rw [present'] at found
    exact Option.some.inj found
  obtain ⟨second, among, two⟩ := List.mem_map.1 (numbers ▸ List.mem_cons_self : (2 : Int) ∈ _)
  have new : r.number ∈ t'.records.map Record.number :=
    List.mem_map_of_mem (gains.records ▸ Store.mem_place.2 (.inl rfl))
  have larger := above course List.prefix_rfl t present second among
  rw [numbers'] at new
  simp only [List.mem_cons, List.not_mem_nil, or_false] at new
  omega

end Dataset.Gateway
