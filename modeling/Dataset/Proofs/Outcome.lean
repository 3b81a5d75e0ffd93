import Mathlib.Data.List.Forall2

/-!
# Outcomes

How an operation made of several goes on: after a success with its value, after a failure not at all.
-/

namespace Dataset

variable {ε ε' α β : Type}

@[simp] theorem ok_bind (a : α) (f : α → Except ε β) : (Except.ok a >>= f) = f a := rfl

@[simp] theorem error_bind (e : ε) (f : α → Except ε β) : (Except.error e >>= f) = .error e := rfl

@[simp] theorem mapError_ok (f : ε → ε') (a : α) : (Except.ok a : Except ε α).mapError f = .ok a := rfl

@[simp] theorem mapError_error (f : ε → ε') (e : ε) :
    (Except.error e : Except ε α).mapError f = .error (f e) := rfl

/-- An operation that only takes the value of another further. -/
theorem bind_ok_eq_map (x : Except ε α) (f : α → β) : (x >>= fun a => .ok (f a)) = x.map f := by
  cases x <;> rfl

theorem ok_of_map {f : α → β} {x : Except ε α} {b : β} (h : x.map f = .ok b) :
    ∃ a, x = .ok a ∧ f a = b := by
  cases x with
  | error e => cases h
  | ok a => exact ⟨a, rfl, Except.ok.inj h⟩

/-- An operation that goes on after another succeeds only if that one did, and then its rest does. -/
theorem exists_ok_of_bind {x : Except ε α} {f : α → Except ε β} {b : β} (h : x >>= f = .ok b) :
    ∃ a, x = .ok a ∧ f a = .ok b := by
  cases x with
  | error e => cases h
  | ok a => exact ⟨a, rfl, h⟩

/-- A success under another account of failures is one. -/
theorem ok_of_mapError {f : ε → ε'} {x : Except ε α} {a : α} (h : x.mapError f = .ok a) :
    x = .ok a := by
  cases x with
  | error e => cases h
  | ok b =>
    obtain rfl : b = a := Except.ok.inj h
    rfl

/-- An operation that goes on after another fails with that one, or in its rest. -/
theorem error_of_bind {x : Except ε α} {f : α → Except ε β} {e : ε} (h : x >>= f = .error e) :
    x = .error e ∨ ∃ a, x = .ok a ∧ f a = .error e := by
  cases x with
  | error cause =>
    obtain rfl : cause = e := Except.error.inj h
    exact .inl rfl
  | ok a => exact .inr ⟨a, rfl, h⟩

/-- A failure under another account of failures comes from one. -/
theorem exists_error_of_mapError {f : ε → ε'} {x : Except ε α} {e : ε'}
    (h : x.mapError f = .error e) : ∃ cause, x = .error cause ∧ f cause = e := by
  cases x with
  | error cause => exact ⟨cause, rfl, Except.error.inj h⟩
  | ok a => cases h

/-- A success shows in its value alone, also where failures cannot be compared. -/
theorem eq_ok_of_toOption {x : Except ε α} {a : α} (h : x.toOption = some a) : x = .ok a := by
  cases x with
  | error e => cases h
  | ok b =>
    obtain rfl : b = a := Option.some.inj h
    rfl

/-- The failure, if there is one. -/
def error? : Except ε α → Option ε
  | .error e => some e
  | .ok _ => none

/-- A failure shows in itself alone, also where values cannot be compared. -/
theorem eq_error_of_error? {x : Except ε α} {e : ε} (h : error? x = some e) : x = .error e := by
  cases x with
  | error f =>
    obtain rfl : f = e := Option.some.inj h
    rfl
  | ok a => cases h

/-! ## Several operations -/

/-- Several operations succeed if each does, with their values in the same order. -/
theorem mapM_ok_iff {f : α → Except ε β} {as : List α} {bs : List β} :
    as.mapM f = .ok bs ↔ List.Forall₂ (fun a b => f a = .ok b) as bs := by
  induction as generalizing bs with
  | nil =>
    rw [List.forall₂_nil_left_iff]
    exact ⟨fun h => (Except.ok.inj h).symm, fun h => congrArg Except.ok h.symm⟩
  | cons a as ih =>
    rw [List.mapM_cons, List.forall₂_cons_left_iff]
    constructor
    · intro h
      obtain ⟨b, first, behind⟩ := exists_ok_of_bind h
      obtain ⟨cs, others, done⟩ := exists_ok_of_bind behind
      exact ⟨b, cs, first, ih.1 others, (Except.ok.inj done).symm⟩
    · rintro ⟨b, cs, first, others, rfl⟩
      rw [first, ok_bind, ih.2 others]
      rfl

/-- Of several operations one fails if those before it succeed and it does. -/
theorem mapM_error_iff {f : α → Except ε β} {as : List α} {e : ε} :
    as.mapM f = .error e ↔ ∃ before a after, as = before ++ a :: after ∧
      (∀ x ∈ before, ∃ b, f x = .ok b) ∧ f a = .error e := by
  induction as with
  | nil =>
    constructor
    · nofun
    · rintro ⟨before, a, after, split, -⟩
      cases before <;> cases split
  | cons x as ih =>
    rw [List.mapM_cons]
    constructor
    · intro h
      rcases error_of_bind h with failed | ⟨b, done, behind⟩
      · exact ⟨[], x, as, rfl, nofun, failed⟩
      · rcases error_of_bind behind with failed | ⟨bs, -, shown⟩
        · obtain ⟨before, a, after, rfl, fine, failed⟩ := ih.1 failed
          exact ⟨x :: before, a, after, rfl, List.forall_mem_cons.2 ⟨⟨b, done⟩, fine⟩, failed⟩
        · cases shown
    · rintro ⟨before, a, after, split, fine, failed⟩
      cases before with
      | nil =>
        obtain ⟨rfl, rfl⟩ := List.cons.inj split
        rw [failed]
        rfl
      | cons y before =>
        obtain ⟨rfl, rfl⟩ := List.cons.inj split
        obtain ⟨⟨b, done⟩, fine⟩ := List.forall_mem_cons.1 fine
        rw [done, ok_bind, ih.2 ⟨before, a, after, rfl, fine, failed⟩]
        rfl

end Dataset
