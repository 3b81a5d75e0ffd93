import Dataset.FileTree
import Dataset.Proofs.Outcome
import Dataset.Proofs.Path

/-!
# What is at a place

A file tree is known by what is at each place. What a path leads to depends on its steps alone, as long as it
has to end at a directory, and so does what making a directory does.

* `entry?_put`, **`entry?_removeTree`**: what is at a place after a change;
* **`locate_ok`**: a path leads to the place of its names, or nowhere;
* `enter`: following names to a directory; **`enter_filter`**: names that say nothing do not count then;
* **`ensureDirectory_eq`**: all that making a directory does, at a tidy path;
* `Grows`: what was there is there still; **`grows_makeDirectories`**: making directories takes nothing away;
* **`makeDirectories_congr`**, `makeDirectories_upper_congr`: seen from a directory that is there, paths that
  lead over the same steps have the same directories made, and the same above them.
-/

namespace Dataset.FileTree

open Dataset.Path (isStep steps)

variable {t t' : FileTree} {l : Location} {directory path : String}

/-! ## 1. Places after a change -/

theorem entry?_of_ne_nil (below : l ≠ []) : t.entry? l = t.entries.lookup l := by
  rw [ entry?, if_neg (by simpa using below)]

@[simp] theorem entry?_nil : t.entry? [] = some .directory := rfl

theorem entry?_put (t : FileTree) (below : l ≠ []) (e : FileEntry) : entry? (t.put l e) l = some e := by
  rw [entry?_of_ne_nil below, put, List.lookup_cons_self]

/-- Looking up among the entries whose place is kept. -/
theorem lookup_filter (keep : Location → Bool) (entries : List (Location × FileEntry)) (l : Location) :
    (entries.filter fun x => keep x.1).lookup l = if keep l then entries.lookup l else none := by
  induction entries with
  | nil => split <;> rfl
  | cons x entries ih =>
    obtain ⟨place, e⟩ := x
    rw [List.filter_cons]
    by_cases here : l = place
    · subst here
      split_ifs with kept
      · rw [List.lookup_cons_self, List.lookup_cons_self]
      · rw [ih, if_neg kept]
    · have other : (l == place) = false := beq_false_of_ne here
      have behind : ((place, e) :: entries).lookup l = entries.lookup l := by
        rw [List.lookup_cons, other]
      rw [behind, ← ih]
      split_ifs
      · rw [List.lookup_cons, other]
      · rfl

theorem entry?_put_of_ne (t : FileTree) {place : Location} (other : place ≠ l) (e : FileEntry) :
    entry? (t.put l e) place = t.entry? place := by
  by_cases below : place = []
  · rw [below, entry?_nil, entry?_nil]
  · have differs : (place == l) = false := beq_false_of_ne other
    rw [entry?_of_ne_nil below, entry?_of_ne_nil below, put, List.lookup_cons, differs,
      lookup_filter (fun p => p != l), if_pos (by simpa using other)]

/-- **What is removed is what is at the place and below it**, and nothing else. -/
theorem entry?_removeTree (t : FileTree) (l place : Location) :
    entry? (t.removeTree l) place = if l <+: place ∧ place ≠ [] then none else t.entry? place := by
  by_cases below : place = []
  · rw [if_neg (by simp [below]), below, entry?_nil, entry?_nil]
  · rw [entry?_of_ne_nil below, removeTree, lookup_filter (fun p => !l.isPrefixOf p)]
    by_cases under : l <+: place
    · rw [if_neg (by simpa using under), if_pos ⟨under, below⟩]
    · have outside : l.isPrefixOf place = false := by
        rwa [← Bool.not_eq_true, List.isPrefixOf_iff_prefix]
      rw [if_pos (by simp [outside]), if_neg fun both => under both.1, entry?_of_ne_nil below]

/-! ## 2. Following a path -/

theorem walk_cons (t : FileTree) (l : Location) (name : String) (ns : List String) :
    t.walk l (name :: ns) =
      if t.isDirectory l = false then .error .notDirectory
      else if isStep name = false then t.walk l ns
      else if name = ".." then t.walk l.dropLast ns
      else if (t.entry? (l ++ [name])).isSome then t.walk (l ++ [name]) ns
      else .error .notFound := by
  rw [walk]
  simp only [Bool.not_eq_true', isStep, Bool.not_eq_false']

/-- **Names lead to the place that they name, or nowhere.** -/
theorem walk_ok {ns : List String} {place : Location} (leads : t.walk l ns = .ok place) :
    place = Path.normalFrom l ns := by
  induction ns generalizing l with
  | nil => exact (Except.ok.inj leads).symm
  | cons name ns ih =>
    rw [walk_cons] at leads
    split_ifs at leads with there idle up found
    · rw [Path.normalFrom_cons_of_idle idle, ih leads]
    · rw [Path.normalFrom_cons_of_isStep (by simpa using idle), if_pos up, ih leads]
    · rw [Path.normalFrom_cons_of_isStep (by simpa using idle), if_neg up, ih leads]

theorem locate_ok {place : Location} (leads : t.locate directory path = .ok place) :
    place = Path.normalNames (Path.join directory path) := by
  rw [locate] at leads
  split_ifs at leads
  exact walk_ok leads

theorem walk_append (t : FileTree) (l : Location) (ns more : List String) :
    t.walk l (ns ++ more) = (t.walk l ns >>= fun l => t.walk l more) := by
  induction ns generalizing l with
  | nil => rfl
  | cons name ns ih =>
    rw [List.cons_append, walk_cons, walk_cons]
    split_ifs
    · rfl
    · exact ih l
    · exact ih l.dropLast
    · exact ih (l ++ [name])
    · rfl

/-! ## 3. Following a path to a directory -/

/-- Follows names from a place to a directory. -/
def enter (t : FileTree) (l : Location) (ns : List String) : Except Fault Location := do
  let place ← t.walk l ns
  if t.isDirectory place then .ok place else .error .notDirectory

theorem enter_ok_iff {ns : List String} {place : Location} :
    t.enter l ns = .ok place ↔ t.walk l ns = .ok place ∧ t.isDirectory place = true := by
  rw [enter]
  cases t.walk l ns with
  | error fault => exact ⟨nofun, fun both => nomatch both.1⟩
  | ok there =>
    rw [ok_bind]
    constructor
    · intro entered
      split_ifs at entered with directory
      obtain rfl := Except.ok.inj entered
      exact ⟨rfl, directory⟩
    · rintro ⟨same, directory⟩
      obtain rfl := Except.ok.inj same
      rw [if_pos directory]

theorem enter_append (t : FileTree) (l : Location) (ns more : List String) :
    t.enter l (ns ++ more) = (t.walk l ns >>= fun l => t.enter l more) := by
  rw [enter, walk_append, bind_assoc]
  rfl

/-- From a place that is no directory no name leads on. -/
theorem enter_of_file (file : t.isDirectory l = false) (ns : List String) :
    t.enter l ns = .error .notDirectory := by
  cases ns with
  | nil => rw [enter, walk, ok_bind, if_neg (by simp [file])]
  | cons name ns => rw [enter, walk_cons, if_pos file, error_bind]

theorem enter_cons (t : FileTree) (l : Location) (name : String) (ns : List String) :
    t.enter l (name :: ns) =
      if t.isDirectory l = false then .error .notDirectory
      else if isStep name = false then t.enter l ns
      else if name = ".." then t.enter l.dropLast ns
      else if (t.entry? (l ++ [name])).isSome then t.enter (l ++ [name]) ns
      else .error .notFound := by
  rw [enter, walk_cons]
  split_ifs <;> rfl

/-- **On the way to a directory, names that say nothing do not count.** -/
theorem enter_filter (t : FileTree) (l : Location) (ns : List String) :
    t.enter l (ns.filter isStep) = t.enter l ns := by
  induction ns generalizing l with
  | nil => rfl
  | cons name ns ih =>
    cases step : isStep name with
    | false =>
      rw [List.filter_cons_of_neg (by simp [step]), ih, enter_cons, if_pos step]
      cases there : t.isDirectory l with
      | false => rw [enter_of_file there, if_pos rfl]
      | true => rw [if_neg nofun]
    | true =>
      rw [List.filter_cons_of_pos step, enter_cons, enter_cons]
      split_ifs
      · rfl
      · exact ih l
      · exact ih l.dropLast
      · exact ih (l ++ [name])
      · rfl

/-- Whoever goes on from a directory only has entered it. -/
theorem enter_bind {α : Type} (t : FileTree) (l : Location) (ns : List String)
    (f : Location → Except Fault α) :
    (t.walk l ns >>= fun place => if !t.isDirectory place then .error .notDirectory else f place) =
      (t.enter l ns >>= f) := by
  rw [enter, bind_assoc]
  congr 1
  funext place
  cases t.isDirectory place <;> rfl

/-- The last step of a path is taken from a directory. -/
theorem walk_concat {n : String} (step : isStep n = true) (l : Location) (ns : List String) :
    t.walk l (ns ++ [n]) = (t.enter l ns >>= fun place =>
      if n = ".." then .ok place.dropLast
      else if (t.entry? (place ++ [n])).isSome then .ok (place ++ [n]) else .error .notFound) := by
  rw [walk_append, enter, bind_assoc]
  congr 1
  funext place
  rw [walk_cons, if_neg (show ¬ isStep n = false by simp [step])]
  cases t.isDirectory place with
  | false => rfl
  | true =>
    rw [if_neg nofun, if_pos rfl, ok_bind]
    rfl

/-- What leads to a directory is there. -/
theorem locate_of_enter (nonempty : path ≠ "") {place : Location}
    (leads : t.enter [] (steps (Path.join directory path)) = .ok place) :
    t.locate directory path = .ok place ∧ t.isDirectory place = true := by
  rw [steps, enter_filter, enter_ok_iff] at leads
  rw [locate, if_neg (by simpa using nonempty)]
  exact leads

/-- On the way to a directory there are directories. -/
theorem enter_dropLast {ns : List String} {place : Location} (leads : t.enter l ns = .ok place) :
    ∃ place', t.enter l ns.dropLast = .ok place' := by
  rcases List.eq_nil_or_concat' ns with rfl | ⟨front, n, rfl⟩
  · exact ⟨place, leads⟩
  · rw [List.dropLast_concat]
    rw [enter_append] at leads
    obtain ⟨place', walked, last⟩ := exists_ok_of_bind leads
    refine ⟨place', enter_ok_iff.2 ⟨walked, ?_⟩⟩
    by_contra file
    rw [enter_of_file (by simpa using file)] at last
    cases last

/-- An absolute path that leads to a directory can be entered. -/
theorem enter_of_leadsToDirectory (absolute : Path.isAbsolute path = true)
    (leads : t.leadsToDirectory directory path = true) : ∃ place, t.enter [] (steps path) = .ok place := by
  have named := Path.ne_empty_of_isAbsolute absolute
  rw [leadsToDirectory, locate, if_neg (by simpa using named), Path.join_of_isAbsolute absolute] at leads
  rw [steps, enter_filter]
  cases found : t.walk [] (Path.names path) with
  | error fault => simp [found] at leads
  | ok place =>
    rw [found] at leads
    exact ⟨place, enter_ok_iff.2 ⟨found, leads⟩⟩

/-! ## 4. Making a directory -/

/-- A directory at a place in a directory; it is no fault if it is there. -/
def withDirectory (t : FileTree) (l : Location) : Except Fault Unit × FileTree :=
  match t.entry? l with
  | none => (.ok (), t.put l .directory)
  | some .directory => (.ok (), t)
  | some (.file _) => (.error .alreadyExists, t)

/-- A directory is made only where nothing was. -/
theorem makeDirectory_ok (made : t.makeDirectory directory path = .ok t') :
    ∃ l, t.entry? l = none ∧ t' = t.put l .directory := by
  rw [makeDirectory] at made
  split at made
  · cases made
  · dsimp only at made
    split at made
    · cases made
    · split_ifs at made
      obtain ⟨l, -, made⟩ := exists_ok_of_bind made
      split_ifs at made with _ there
      exact ⟨_, by simpa using there, (Except.ok.inj made).symm⟩

theorem withoutEmptyEnd_concat {n : String} (step : isStep n = true) (ns : List String) :
    withoutEmptyEnd (ns ++ [n]) = ns ++ [n] := by
  have solid : ¬ (n == "") = true := by
    intro empty
    obtain rfl := eq_of_beq empty
    cases step
  rw [withoutEmptyEnd, List.reverse_append, List.reverse_singleton, List.singleton_append,
    List.dropWhile_cons, if_neg solid, List.reverse_cons, List.reverse_reverse]

theorem makeDirectory_eq {ns : List String} {n : String} (nonempty : path ≠ "")
    (ends : Path.names (Path.join directory path) = ns ++ [n]) (step : isStep n = true) :
    t.makeDirectory directory path = (t.enter [] ns >>= fun l =>
      if n = ".." || (t.entry? (l ++ [n])).isSome then .error .alreadyExists
      else .ok (t.put (l ++ [n]) .directory)) := by
  have leads : t.locate directory path = t.walk [] (ns ++ [n]) := by
    rw [locate, if_neg (by simpa using nonempty), ends]
  have dot : n ≠ "." := by
    rintro rfl
    cases step
  have last (fault : Fault) : (if path.isEmpty || n = "." || n = ".." then Except.error fault
      else do
        let l ← t.walk [] ns
        if !t.isDirectory l then .error .notDirectory
        else if (t.entry? (l ++ [n])).isSome then .error .alreadyExists
        else .ok (t.put (l ++ [n]) .directory)) =
      if n = ".." then .error fault else (t.enter [] ns >>= fun l =>
        if (t.entry? (l ++ [n])).isSome then .error .alreadyExists
        else .ok (t.put (l ++ [n]) .directory)) := by
    rw [enter_bind]
    simp [nonempty, dot]
  rw [makeDirectory, leads, walk_concat step, ends, withoutEmptyEnd_concat step]
  simp only [List.getLast?_concat, List.dropLast_concat, last]
  cases t.enter [] ns with
  | error fault =>
    rw [error_bind]
    dsimp only
    split_ifs <;> rfl
  | ok l =>
    rw [ok_bind, ok_bind, ok_bind]
    by_cases up : n = ".."
    · simp [up]
    · by_cases found : (t.entry? (l ++ [n])).isSome <;> simp [up, found]

/-- **All that making a directory does** at a path with a step at its end. -/
theorem ensureDirectory_eq {ns : List String} {n : String} (nonempty : path ≠ "")
    (ends : Path.names (Path.join directory path) = ns ++ [n]) (step : isStep n = true) :
    t.ensureDirectory directory path = match t.enter [] (ns.filter isStep) with
      | .error fault => (.error fault, t)
      | .ok l =>
        if n = ".." then (if t.isDirectory l.dropLast then .ok () else .error .alreadyExists, t)
        else t.withDirectory (l ++ [n]) := by
  have leads : t.locate directory path = t.walk [] (ns ++ [n]) := by
    rw [locate, if_neg (by simpa using nonempty), ends]
  rw [walk_concat step] at leads
  rw [enter_filter, ensureDirectory, makeDirectory_eq nonempty ends step, leadsToDirectory, leads]
  cases t.enter [] ns with
  | error fault => rfl
  | ok l =>
    simp only [ok_bind]
    by_cases up : n = ".."
    · simp [up]
    · rcases Option.eq_none_or_eq_some (t.entry? (l ++ [n])) with found | ⟨e, found⟩
      · simp [up, withDirectory, found]
      · cases e <;> simp [up, withDirectory, found, isDirectory]

/-- Tidy paths with the same steps have the same directory made. -/
theorem ensureDirectory_congr {other : String} (t : FileTree) (nonempty : path ≠ "")
    (nonempty' : other ≠ "") (tidy : Path.Tidy (Path.join directory path))
    (tidy' : Path.Tidy (Path.join directory other))
    (step : steps (Path.join directory path) ≠ [])
    (same : steps (Path.join directory path) = steps (Path.join directory other)) :
    t.ensureDirectory directory path = t.ensureDirectory directory other := by
  obtain ⟨ns, n, split, last, whole⟩ := tidy.split step
  obtain ⟨ns', n', split', last', whole'⟩ := tidy'.split (same ▸ step)
  rw [whole, whole'] at same
  obtain ⟨front, back⟩ := List.append_inj' same rfl
  obtain rfl := (List.cons.inj back).1
  rw [ensureDirectory_eq nonempty split last, ensureDirectory_eq nonempty' split' last', front]

/-- Nothing is made where the path leads to a directory. -/
theorem ensureDirectory_of_enter (nonempty : path ≠ "") {place : Location}
    (leads : t.enter [] (steps (Path.join directory path)) = .ok place) :
    t.ensureDirectory directory path = (.ok (), t) := by
  obtain ⟨found, there⟩ := locate_of_enter nonempty leads
  rw [ensureDirectory, makeDirectory, leadsToDirectory, found]
  exact congrArg (·, t) (if_pos there)

/-- In a directory that is there nothing is missing to make another one. -/
theorem ensureDirectory_ne_notFound (nonempty : path ≠ "")
    (tidy : Path.Tidy (Path.join directory path)) (step : steps (Path.join directory path) ≠ [])
    {place : Location} (leads : t.enter [] (steps (Path.join directory path)).dropLast = .ok place) :
    (t.ensureDirectory directory path).1 ≠ .error .notFound := by
  obtain ⟨ns, n, split, last, whole⟩ := tidy.split step
  rw [whole, List.dropLast_concat] at leads
  rw [ensureDirectory_eq nonempty split last, leads]
  dsimp only
  split_ifs
  · nofun
  · nofun
  · rw [withDirectory]
    split <;> nofun

/-! ## 5. Making directories -/

/-- What was there is there still. -/
def Grows (t t' : FileTree) : Prop := ∀ l e, t.entry? l = some e → t'.entry? l = some e

theorem Grows.refl (t : FileTree) : t.Grows t := fun _ _ there => there

theorem Grows.trans {t'' : FileTree} (first : t.Grows t') (second : t'.Grows t'') : t.Grows t'' :=
  fun l e there => second l e (first l e there)

theorem grows_put (nothing : t.entry? l = none) (e : FileEntry) : t.Grows (t.put l e) := by
  intro place e' there
  have other : place ≠ l := by
    rintro rfl
    rw [nothing] at there
    cases there
  rw [entry?_put_of_ne t other, there]

theorem grows_ensureDirectory (t : FileTree) (directory path : String) :
    t.Grows (t.ensureDirectory directory path).2 := by
  rw [ensureDirectory]
  cases made : t.makeDirectory directory path with
  | ok t' =>
    obtain ⟨l, nothing, rfl⟩ := makeDirectory_ok made
    exact grows_put nothing .directory
  | error fault => exact .refl t

theorem ensureDirectory_of_error {fault : Fault}
    (failed : t.ensureDirectory directory path = (.error fault, t')) : t' = t := by
  rw [ensureDirectory] at failed
  split at failed
  · cases (Prod.mk.inj failed).1
  · exact (Prod.mk.inj failed).2.symm

theorem makeDirectoriesWith_succ (nonempty : path ≠ "") (fuel : Nat) (t : FileTree) :
    makeDirectoriesWith directory (fuel + 1) path t =
      match t.ensureDirectory directory path with
      | (.error .notFound, t) =>
        match Path.parent? path with
        | none => (.error .notFound, t)
        | some parent =>
          match makeDirectoriesWith directory fuel parent t with
          | (.error fault, t) => (.error fault, t)
          | (.ok (), t) => t.ensureDirectory directory path
      | r => r := by
  rw [makeDirectoriesWith]
  exact if_neg (by simpa using nonempty)

theorem grows_makeDirectoriesWith (directory : String) (fuel : Nat) (path : String) (t : FileTree) :
    t.Grows (makeDirectoriesWith directory fuel path t).2 := by
  induction fuel generalizing path t with
  | zero => exact .refl t
  | succ fuel ih =>
    by_cases empty : path = ""
    · rw [makeDirectoriesWith, if_pos (by simpa using empty)]
      exact .refl t
    · rw [makeDirectoriesWith_succ empty]
      have first := grows_ensureDirectory t directory path
      split
      · rename_i t' same
        rw [same] at first
        split
        · exact first
        · rename_i parent _
          have above := first.trans (ih parent t')
          split
          · rename_i t'' same'
            rw [same'] at above
            exact above
          · rename_i t'' same'
            rw [same'] at above
            exact above.trans (grows_ensureDirectory t'' directory path)
      · exact first

theorem grows_makeDirectories (t : FileTree) (directory path : String) :
    t.Grows (t.makeDirectories directory path).2 :=
  grows_makeDirectoriesWith directory _ path t

/-- What could be entered can be entered still. -/
theorem Grows.enter (grows : t.Grows t') {ns : List String} {place : Location}
    (leads : t.enter l ns = .ok place) : t'.enter l ns = .ok place := by
  have directory {l : Location} (there : t.isDirectory l = true) : t'.isDirectory l = true := by
    rw [isDirectory, beq_iff_eq] at there ⊢
    exact grows l _ there
  induction ns generalizing l with
  | nil =>
    obtain ⟨ends, there⟩ := enter_ok_iff.1 leads
    exact enter_ok_iff.2 ⟨ends, directory there⟩
  | cons name ns ih =>
    rw [enter_cons] at leads ⊢
    split_ifs at leads with nowhere idle up found
    · rw [if_neg (by simp [directory (by simpa using nowhere)]), if_pos idle, ih leads]
    · rw [if_neg (by simp [directory (by simpa using nowhere)]), if_neg idle, if_pos up, ih leads]
    · obtain ⟨e, there⟩ := Option.isSome_iff_exists.1 found
      rw [if_neg (by simp [directory (by simpa using nowhere)]), if_neg idle, if_neg up,
        if_pos (by rw [grows _ e there]; rfl), ih leads]

/-- Nothing is made, nor above it, where the path leads to a directory. -/
theorem makeDirectories_of_enter {place : Location}
    (leads : t.enter [] (steps (Path.join directory path)) = .ok place) :
    t.makeDirectories directory path = (.ok (), t) := by
  by_cases empty : path = ""
  · rw [makeDirectories, makeDirectoriesWith, if_pos (by simpa using empty)]
  · rw [makeDirectories, makeDirectoriesWith_succ empty, ensureDirectory_of_enter empty leads]

/-! ## 6. Paths that lead over the same steps -/

section SameSteps

variable {place : Location} (named : directory ≠ "") (there : t.enter [] (steps directory) = .ok place)
  {p q : String} (same : steps (Path.join directory p) = steps (Path.join directory q))

include named there

/-- What no step is left of is there: the root, or the directory that paths are seen from. -/
theorem enter_of_steps_nil (none : steps p = []) :
    ∃ place, t.enter [] (steps (Path.join directory p)) = .ok place := by
  cases absolute : Path.isAbsolute p with
  | true =>
    rw [Path.join_of_isAbsolute absolute, none]
    exact ⟨[], rfl⟩
  | false =>
    rw [Path.steps_join named absolute, none, List.append_nil]
    exact ⟨place, there⟩

include same in
theorem enter_of_still (still : steps p = [] ∨ steps q = []) :
    ∃ place, t.enter [] (steps (Path.join directory p)) = .ok place ∧
      t.enter [] (steps (Path.join directory q)) = .ok place := by
  rw [← same, exists_congr fun _ => and_self_iff]
  rcases still with none | none
  · exact enter_of_steps_nil named there none
  · rw [same]
    exact enter_of_steps_nil named there none

/-- What is missing to make a directory is one that has a name. -/
theorem upper_ne_empty (nonempty : p ≠ "") (tidy : Path.Tidy p) (moves : steps p ≠ [])
    (missing : (t.ensureDirectory directory p).1 = .error .notFound) : Path.upper p ≠ "" := by
  intro none
  have entered : t.enter [] (steps (Path.join directory p)).dropLast = .ok place := by
    rw [← (Path.isParent_upper moves).steps_join named moves, none, Path.steps_join named rfl,
      Path.steps_empty, List.append_nil, there]
  exact ensureDirectory_ne_notFound nonempty (Path.tidy_join named tidy moves)
    (Path.steps_join_ne_nil named moves) entered missing

include same

/-- The parents of two paths that lead over the same steps do so again; so both go up side by side until there
    is something to make. -/
theorem makeDirectoriesWith_congr (fuel fuel' : Nat) (enough : p.length < fuel) (enough' : q.length < fuel')
    (tidy : Path.Tidy p) (tidy' : Path.Tidy q) (nonempty : p ≠ "") (nonempty' : q ≠ "") :
    makeDirectoriesWith directory fuel p t = makeDirectoriesWith directory fuel' q t := by
  induction fuel generalizing fuel' p q with
  | zero => omega
  | succ fuel ih =>
    obtain ⟨fuel', rfl⟩ : ∃ n, fuel' = n + 1 := ⟨fuel' - 1, by omega⟩
    rw [makeDirectoriesWith_succ nonempty, makeDirectoriesWith_succ nonempty']
    by_cases still : steps p = [] ∨ steps q = []
    · obtain ⟨_, leads, leads'⟩ := enter_of_still named there same still
      rw [ensureDirectory_of_enter nonempty leads, ensureDirectory_of_enter nonempty' leads']
    · obtain ⟨moves, moves'⟩ := not_or.1 still
      have alike (t : FileTree) : t.ensureDirectory directory p = t.ensureDirectory directory q :=
        ensureDirectory_congr t nonempty nonempty' (Path.tidy_join named tidy moves)
          (Path.tidy_join named tidy' moves') (Path.steps_join_ne_nil named moves) same
      rw [alike]
      split
      · rename_i t' missing
        obtain rfl := ensureDirectory_of_error missing
        have upper := Path.isParent_upper moves
        have upper' := Path.isParent_upper moves'
        have goes := upper_ne_empty named there nonempty tidy moves (by rw [alike, missing])
        have goes' := upper_ne_empty named there nonempty' tidy' moves' (by rw [missing])
        have again := ih
          (by rw [upper.steps_join named moves, upper'.steps_join named moves', same]) fuel'
          (by have := upper.shorter; omega) (by have := upper'.shorter; omega) upper.tidy upper'.tidy goes
          goes'
        rw [Path.parent?_of_moves moves, Path.parent?_of_moves moves']
        dsimp only
        rw [again]
        split
        · rfl
        · exact alike _
      · rfl

/-- **Seen from a directory that is there, paths that lead over the same steps have the same directories
    made.** -/
theorem makeDirectories_congr (tidy : Path.Tidy p) (tidy' : Path.Tidy q) :
    t.makeDirectories directory p = t.makeDirectories directory q := by
  by_cases empty : p = "" ∨ q = ""
  · have still : steps p = [] ∨ steps q = [] := by
      rcases empty with none | none
      · exact .inl (by rw [none, Path.steps_empty])
      · exact .inr (by rw [none, Path.steps_empty])
    obtain ⟨_, leads, leads'⟩ := enter_of_still named there same still
    rw [makeDirectories_of_enter leads, makeDirectories_of_enter leads']
  · obtain ⟨nonempty, nonempty'⟩ := not_or.1 empty
    exact makeDirectoriesWith_congr named there same _ _ (Nat.lt_succ_self _) (Nat.lt_succ_self _) tidy tidy'
      nonempty nonempty'

/-- **The same directories are made above two paths that lead over the same steps.** -/
theorem makeDirectories_upper_congr :
    t.makeDirectories directory (Path.upper p) = t.makeDirectories directory (Path.upper q) := by
  by_cases still : steps p = [] ∨ steps q = []
  · obtain ⟨place', leads, leads'⟩ := enter_of_still named there same still
    have idle {r : String} (leads : t.enter [] (steps (Path.join directory r)) = .ok place') :
        t.makeDirectories directory (Path.upper r) = (.ok (), t) := by
      by_cases moves : steps r = []
      · obtain ⟨_, leads⟩ := enter_of_steps_nil named there Path.steps_empty
        rw [Path.upper_of_steps_nil moves, makeDirectories_of_enter leads]
      · obtain ⟨_, above⟩ := enter_dropLast leads
        rw [← (Path.isParent_upper moves).steps_join named moves] at above
        exact makeDirectories_of_enter above
    rw [idle leads, idle leads']
  · obtain ⟨moves, moves'⟩ := not_or.1 still
    have upper := Path.isParent_upper moves
    have upper' := Path.isParent_upper moves'
    exact makeDirectories_congr named there
      (by rw [upper.steps_join named moves, upper'.steps_join named moves', same]) upper.tidy upper'.tidy

end SameSteps

end Dataset.FileTree
