import Dataset.Proofs.FileTree
import Dataset.Storage

/-!
# Trees that differ in what texts say

Of a file with a text in it, making directories and opening databases asks only whether it is empty. So two
trees that are the same but for what some texts say are dealt with in the same way, and are then again the
same but for these texts.

* `Reworded`: the trees are the same, but for texts at some places; `SameResult`: so are the trees that two
  functions leave, whose answers are the same;
* `Reworded.walk`, `Reworded.put`: paths lead to the same places, and what is new is new in both;
* `Reworded.makeDirectories`, `Reworded.openDatabase`, **`prepare_of_reworded`**: what is made and opened is the
  same.
-/

namespace Dataset

namespace FileTree

variable {places : Location → Prop} {t t' t'' : FileTree} {l : Location} {directory path : String}

/-! ## 1. What texts say -/

/-- `t` and `t'` have the same entry at every location, except that at `places` they may have files with
    different texts, neither of them empty. -/
def Reworded (places : Location → Prop) (t t' : FileTree) : Prop :=
  ∀ l, t.entry? l = t'.entry? l ∨ places l ∧ ∃ s s', s ≠ "" ∧ s' ≠ "" ∧
    t.entry? l = some (.file (.text s)) ∧ t'.entry? l = some (.file (.text s'))

/-- Two functions answer the same and leave trees that are the same but for what texts say. -/
def SameResult {α : Type} (places : Location → Prop) (r r' : α × FileTree) : Prop :=
  r.1 = r'.1 ∧ Reworded places r.2 r'.2

theorem SameResult.split {α : Type} {r r' : α × FileTree} (same : SameResult places r r') :
    ∃ a u u', r = (a, u) ∧ r' = (a, u') ∧ Reworded places u u' :=
  ⟨r.1, r.2, r'.2, rfl, Prod.ext same.1.symm rfl, same.2⟩

theorem Reworded.refl (t : FileTree) : Reworded places t t := fun _ => .inl rfl

theorem Reworded.trans (first : Reworded places t t') (second : Reworded places t' t'') :
    Reworded places t t'' := by
  intro l
  rcases first l with same | ⟨among, s, s', full, full', here, here'⟩
  · rcases second l with same' | ⟨among, s, s', full, full', here, here'⟩
    · exact .inl (same.trans same')
    · exact .inr ⟨among, s, s', full, full', same.trans here, here'⟩
  · rcases second l with same' | ⟨-, -, s'', -, full'', -, here''⟩
    · exact .inr ⟨among, s, s', full, full', here, same'.symm.trans here'⟩
    · exact .inr ⟨among, s, s'', full, full'', here, here''⟩

/-! ## 2. Looking -/

theorem Reworded.isSome (same : Reworded places t t') (l : Location) :
    (t'.entry? l).isSome = (t.entry? l).isSome := by
  rcases same l with same | ⟨-, s, s', -, -, here, here'⟩
  · rw [same]
  · rw [here, here']
    rfl

theorem Reworded.isDirectory (same : Reworded places t t') (l : Location) :
    t'.isDirectory l = t.isDirectory l := by
  rw [FileTree.isDirectory, FileTree.isDirectory]
  rcases same l with same | ⟨-, s, s', -, -, here, here'⟩
  · rw [same]
  · rw [here, here']
    rfl

theorem Reworded.walk (same : Reworded places t t') (l : Location) (ns : List String) :
    t'.walk l ns = t.walk l ns := by
  induction ns generalizing l with
  | nil => rfl
  | cons name ns ih =>
    rw [walk_cons, walk_cons, same.isDirectory, same.isSome]
    split_ifs
    · rfl
    · exact ih l
    · exact ih l.dropLast
    · exact ih (l ++ [name])
    · rfl

theorem Reworded.locate (same : Reworded places t t') (directory path : String) :
    t'.locate directory path = t.locate directory path := by
  rw [FileTree.locate, FileTree.locate, same.walk]

theorem Reworded.leadsToDirectory (same : Reworded places t t') (directory path : String) :
    t'.leadsToDirectory directory path = t.leadsToDirectory directory path := by
  simp only [FileTree.leadsToDirectory, same.locate, same.isDirectory]

/-! ## 3. Making directories -/

theorem Reworded.put (same : Reworded places t t') (l : Location) (e : FileEntry) :
    Reworded places (t.put l e) (t'.put l e) := by
  intro place
  by_cases here : place = l
  · subst here
    by_cases below : place = []
    · subst below
      exact .inl rfl
    · exact .inl (by rw [entry?_put t below, entry?_put t' below])
  · rw [entry?_put_of_ne t here, entry?_put_of_ne t' here]
    exact same place

/-- A place may be given one text or another. -/
theorem reworded_put (t : FileTree) (among : places l) (below : l ≠ []) {s s' : String} (full : s ≠ "")
    (full' : s' ≠ "") : Reworded places (t.put l (.file (.text s))) (t.put l (.file (.text s'))) := by
  intro place
  by_cases here : place = l
  · subst here
    exact .inr ⟨among, s, s', full, full', entry?_put t below _, entry?_put t below _⟩
  · exact .inl (by rw [entry?_put_of_ne t here, entry?_put_of_ne t here])

theorem Reworded.makeDirectory (same : Reworded places t t') (directory path : String) :
    (∃ fault, t.makeDirectory directory path = .error fault ∧
        t'.makeDirectory directory path = .error fault) ∨
      ∃ l, t.makeDirectory directory path = .ok (t.put l .directory) ∧
        t'.makeDirectory directory path = .ok (t'.put l .directory) := by
  rw [FileTree.makeDirectory, FileTree.makeDirectory, same.locate]
  cases t.locate directory path with
  | ok => exact .inl ⟨_, rfl, rfl⟩
  | error fault =>
    dsimp only
    cases (withoutEmptyEnd (Path.names (Path.join directory path))).getLast? with
    | none => exact .inl ⟨_, rfl, rfl⟩
    | some name =>
      dsimp only
      rw [same.walk]
      split_ifs
      · exact .inl ⟨_, rfl, rfl⟩
      · cases t.walk [] (withoutEmptyEnd (Path.names (Path.join directory path))).dropLast with
        | error => exact .inl ⟨_, rfl, rfl⟩
        | ok l =>
          simp only [ok_bind, same.isDirectory, same.isSome]
          split_ifs
          · exact .inl ⟨_, rfl, rfl⟩
          · exact .inl ⟨_, rfl, rfl⟩
          · exact .inr ⟨_, rfl, rfl⟩

theorem Reworded.ensureDirectory (same : Reworded places t t') (directory path : String) :
    SameResult places (t.ensureDirectory directory path) (t'.ensureDirectory directory path) := by
  rw [FileTree.ensureDirectory, FileTree.ensureDirectory, same.leadsToDirectory]
  rcases same.makeDirectory directory path with ⟨fault, failed, failed'⟩ | ⟨l, made, made'⟩
  · rw [failed, failed']
    exact ⟨rfl, same⟩
  · rw [made, made']
    exact ⟨rfl, same.put l .directory⟩

theorem Reworded.makeDirectoriesWith (directory : String) (fuel : Nat) (same : Reworded places t t')
    (path : String) : SameResult places (makeDirectoriesWith directory fuel path t)
      (makeDirectoriesWith directory fuel path t') := by
  induction fuel generalizing path t t' with
  | zero => exact ⟨rfl, same⟩
  | succ fuel ih =>
    by_cases empty : path = ""
    · have done (t : FileTree) : FileTree.makeDirectoriesWith directory (fuel + 1) path t = (.ok (), t) := by
        rw [FileTree.makeDirectoriesWith, if_pos (by simpa using empty)]
      rw [done, done]
      exact ⟨rfl, same⟩
    · rw [makeDirectoriesWith_succ empty, makeDirectoriesWith_succ empty]
      obtain ⟨answer, u, u', first, first', files⟩ := (same.ensureDirectory directory path).split
      rw [first, first']
      cases answer with
      | ok => exact ⟨rfl, files⟩
      | error fault =>
        cases fault with
        | notDirectory => exact ⟨rfl, files⟩
        | alreadyExists => exact ⟨rfl, files⟩
        | notFound =>
          cases Path.parent? path with
          | none => exact ⟨rfl, files⟩
          | some parent =>
            obtain ⟨answer, v, v', above, above', files⟩ := (ih files parent).split
            dsimp only
            rw [above, above']
            cases answer with
            | error => exact ⟨rfl, files⟩
            | ok => exact files.ensureDirectory directory path

theorem Reworded.makeDirectories (same : Reworded places t t') (directory path : String) :
    SameResult places (t.makeDirectories directory path) (t'.makeDirectories directory path) :=
  same.makeDirectoriesWith directory _ path

/-! ## 4. Opening a database -/

theorem Reworded.openDatabase (same : Reworded places t t') (directory path : String) :
    (∃ fault, t.openDatabase directory path = .error fault ∧
        t'.openDatabase directory path = .error fault) ∨
      ∃ d u u', t.openDatabase directory path = .ok (d, u) ∧
        t'.openDatabase directory path = .ok (d, u') ∧ Reworded places u u' := by
  rw [FileTree.openDatabase, FileTree.openDatabase]
  cases databasePlace? directory path with
  | none => exact .inr ⟨_, _, _, rfl, rfl, same⟩
  | some l =>
    dsimp only
    rcases same l with equal | ⟨-, s, s', full, full', here, here'⟩
    · rw [← equal, same.isDirectory]
      rcases t.entry? l with _ | _ | content
      · dsimp only
        split_ifs
        · exact .inr ⟨_, _, _, rfl, rfl, same.put l _⟩
        · exact .inl ⟨_, rfl, rfl⟩
      · exact .inl ⟨_, rfl, rfl⟩
      · dsimp only
        cases FileContent.database? content with
        | none => exact .inl ⟨_, rfl, rfl⟩
        | some d => exact .inr ⟨_, _, _, rfl, rfl, same.put l _⟩
    · have none {s : String} (full : s ≠ "") : FileContent.database? (.text s) = none :=
        if_neg (by simpa using full)
      rw [here, here']
      dsimp only
      rw [none full, none full']
      exact .inl ⟨_, rfl, rfl⟩

end FileTree

/-! ## 5. The data directory -/

namespace Storage

open FileTree (Reworded SameResult)

variable {places : Location → Prop} {t t' : FileTree}

/-- **The data directory is made in the same way, whatever texts say.** -/
theorem prepare_of_reworded (e : Environment) (same : Reworded places t t') :
    SameResult places (prepare e t) (prepare e t') := by
  rw [prepare, prepare]
  obtain ⟨answer, u, u', made, made', files⟩ :=
    (same.makeDirectories e.directory (dataDirectory e)).split
  rw [made, made']
  cases answer with
  | error => exact ⟨rfl, files⟩
  | ok =>
    dsimp only
    obtain ⟨answer, v, v', made, made', files⟩ :=
      (files.makeDirectories e.directory (Path.join (dataDirectory e) databaseDirectory)).split
    rw [made, made']
    cases answer with
    | error => exact ⟨rfl, files⟩
    | ok =>
      refine ⟨?_, files⟩
      simp only [canonical, files.locate]

/-- Making the data directory takes nothing away. -/
theorem grows_prepare (e : Environment) (t : FileTree) : t.Grows (prepare e t).2 := by
  rw [prepare]
  have first := t.grows_makeDirectories e.directory (dataDirectory e)
  generalize t.makeDirectories e.directory (dataDirectory e) = r at first ⊢
  obtain ⟨answer, u⟩ := r
  cases answer with
  | error => exact first
  | ok =>
    have second := u.grows_makeDirectories e.directory (Path.join (dataDirectory e) databaseDirectory)
    dsimp only
    generalize u.makeDirectories e.directory (Path.join (dataDirectory e) databaseDirectory) = r at second ⊢
    obtain ⟨answer, v⟩ := r
    cases answer with
    | error => exact first.trans second
    | ok => exact first.trans second

end Storage

end Dataset
