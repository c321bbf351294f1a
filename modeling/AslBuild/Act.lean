set_option autoImplicit false

/-!
# Steps that may fail and keep their state

An operation on the file system can fail half way: a directory is made and the next one is refused.
A step therefore returns the state it reached whether it succeeds or fails, and a sequence of steps
ends at the first failure.

## Main definitions

* `AslBuild.Act` — a step over a state `σ` that gives a value of type `α` or fails with an `ε`.
* `AslBuild.Act.fail`, `AslBuild.Act.attempt` — failing, and looking at a failure without failing.
* `AslBuild.Act.update`, `AslBuild.Act.read` — changing and reading the state.
* `AslBuild.Act.within` — a step over a part of the state, with its failures renamed.

## Main results

* `AslBuild.Act.bind_ok`, `AslBuild.Act.bind_error` — what a sequence does after its first step.
* `AslBuild.bind_eq_ok_iff`, `AslBuild.bind_eq_error_iff` — how a sequence of results ends.
-/

namespace AslBuild

/-! ## Results -/

section

variable {ε α β : Type} {x : Except ε α} {f : α → Except ε β}

/-- A sequence of two results is a value exactly if the first one is, and the second one is with
this value. -/
theorem bind_eq_ok_iff {b : β} : (x >>= f) = .ok b ↔ ∃ a, x = .ok a ∧ f a = .ok b := by
  cases x <;> simp [bind, Except.bind]

/-- A sequence of two results is a failure exactly if the first one is, or the second one is with
the value of the first. -/
theorem bind_eq_error_iff {e : ε} :
    (x >>= f) = .error e ↔ x = .error e ∨ ∃ a, x = .ok a ∧ f a = .error e := by
  cases x <;> simp [bind, Except.bind]

/-- A result with its value changed is a value exactly if the result is. -/
theorem map_eq_ok_iff {g : α → β} {b : β} : x.map g = .ok b ↔ ∃ a, x = .ok a ∧ g a = b := by
  cases x <;> simp [Except.map]

/-- A value stays when failures are renamed. -/
theorem mapError_eq_ok_iff {δ : Type} {wrap : ε → δ} {a : α} :
    x.mapError wrap = .ok a ↔ x = .ok a := by
  cases x with
  | ok b =>
    show (Except.ok b : Except δ α) = .ok a ↔ _
    simp
  | error e =>
    show (Except.error (wrap e) : Except δ α) = .ok a ↔ _
    simp

end

/-! ## Steps -/

/-- A step over a state, which may fail. The state it reached is kept in either case. -/
def Act (ε σ α : Type) : Type := σ → Except ε α × σ

namespace Act

section

variable {ε σ α β : Type}

/-- Do a step from a given state. -/
def run (x : Act ε σ α) (s : σ) : Except ε α × σ := x s

instance : Monad (Act ε σ) where
  pure a := fun s => (.ok a, s)
  bind x f := fun s =>
    match x s with
    | (.ok a, t) => f a t
    | (.error e, t) => (.error e, t)

/-- Fail, and leave the state as it is. -/
def fail (e : ε) : Act ε σ α := fun s => (.error e, s)

/-- The state. -/
def read : Act ε σ σ := fun s => (.ok s, s)

/-- Change the state. -/
def update (f : σ → σ) : Act ε σ Unit := fun s => (.ok (), f s)

/-- Succeed or fail as a value says. -/
def ofExcept (r : Except ε α) : Act ε σ α := fun s => (r, s)

/-- Do a step and give its outcome as a value, so that a failure does not end the sequence. -/
def attempt (x : Act ε σ α) : Act ε σ (Except ε α) := fun s => (.ok (x s).1, (x s).2)

/-- Do a step over a part of a larger state. The part is taken out and put back by `get` and `set`;
a failure `e` becomes `wrap e`. -/
def within {δ τ : Type} (get : σ → τ) (set : τ → σ → σ) (wrap : δ → ε) (x : Act δ τ α) :
    Act ε σ α :=
  fun s => ((x (get s)).1.mapError wrap, set (x (get s)).2 s)

@[simp] theorem run_pure (a : α) (s : σ) : (pure a : Act ε σ α).run s = (.ok a, s) := rfl

@[simp] theorem run_fail (e : ε) (s : σ) : (fail e : Act ε σ α).run s = (.error e, s) := rfl

@[simp] theorem run_read (s : σ) : (read : Act ε σ σ).run s = (.ok s, s) := rfl

@[simp] theorem run_update (f : σ → σ) (s : σ) :
    (update f : Act ε σ Unit).run s = (.ok (), f s) := rfl

@[simp] theorem run_ofExcept (r : Except ε α) (s : σ) : (ofExcept r : Act ε σ α).run s = (r, s) :=
  rfl

@[simp] theorem run_attempt (x : Act ε σ α) (s : σ) :
    x.attempt.run s = (.ok (x.run s).1, (x.run s).2) := rfl

/-- After a step that succeeds, the sequence goes on from its value and its state. -/
theorem bind_ok {x : Act ε σ α} {f : α → Act ε σ β} {s t : σ} {a : α} (h : x.run s = (.ok a, t)) :
    (x >>= f).run s = (f a).run t := by
  show (match x s with | (.ok a, t) => f a t | (.error e, t) => (.error e, t)) = _
  rw [show x s = (.ok a, t) from h]
  rfl

/-- After a step that fails, the sequence ends with the same failure and the same state. -/
theorem bind_error {x : Act ε σ α} {f : α → Act ε σ β} {s t : σ} {e : ε}
    (h : x.run s = (.error e, t)) : (x >>= f).run s = (.error e, t) := by
  show (match x s with | (.ok a, t) => f a t | (.error e, t) => (.error e, t)) = _
  rw [show x s = (.error e, t) from h]

/-- A sequence, by the outcome of its first step. -/
theorem run_bind (x : Act ε σ α) (f : α → Act ε σ β) (s : σ) :
    (x >>= f).run s =
      match x.run s with
      | (.ok a, t) => (f a).run t
      | (.error e, t) => (.error e, t) := rfl

/-- Three steps are done one after the other, however they are put together. -/
theorem bind_assoc {γ : Type} (x : Act ε σ α) (f : α → Act ε σ β) (g : β → Act ε σ γ) :
    x >>= f >>= g = x >>= fun a => f a >>= g := by
  funext s
  show ((x >>= f) >>= g).run s = (x >>= fun a => f a >>= g).run s
  rw [run_bind, run_bind, run_bind]
  rcases x.run s with ⟨e | a, t⟩ <;> rfl

/-- A sequence that succeeds got past its first step. -/
theorem exists_of_bind_eq_ok {x : Act ε σ α} {f : α → Act ε σ β} {s u : σ} {b : β}
    (h : (x >>= f).run s = (.ok b, u)) :
    ∃ a t, x.run s = (.ok a, t) ∧ (f a).run t = (.ok b, u) := by
  rcases hrun : x.run s with ⟨e | a, t⟩
  · rw [bind_error hrun] at h
    cases congrArg Prod.fst h
  · exact ⟨a, t, rfl, by rw [← bind_ok hrun]; exact h⟩

/-- If the first steps of two sequences end in the same way, both sequences stop there, or both go
on from the same value. -/
theorem bind_of_same {τ : Type} {x : Act ε σ α} {x' : Act ε τ α} {s : σ} {t : τ}
    (f : α → Act ε σ β) (f' : α → Act ε τ β) (h : (x.run s).1 = (x'.run t).1) :
    (∃ e, (x >>= f).run s = (.error e, (x.run s).2) ∧
        (x' >>= f').run t = (.error e, (x'.run t).2)) ∨
      ∃ a, (x >>= f).run s = (f a).run (x.run s).2 ∧
        (x' >>= f').run t = (f' a).run (x'.run t).2 := by
  rw [run_bind, run_bind]
  rcases hx : x.run s with ⟨e | a, u⟩
  · rw [hx] at h
    have hx' : x'.run t = (.error e, (x'.run t).2) := Prod.ext h.symm rfl
    rw [hx']
    exact Or.inl ⟨e, rfl, rfl⟩
  · rw [hx] at h
    have hx' : x'.run t = (.ok a, (x'.run t).2) := Prod.ext h.symm rfl
    rw [hx']
    exact Or.inr ⟨a, rfl, rfl⟩

/-- A step whose value is changed after it. -/
theorem run_bind_pure (x : Act ε σ α) (f : α → β) (s : σ) :
    (x >>= fun a => pure (f a)).run s = ((x.run s).1.map f, (x.run s).2) := by
  rw [run_bind]
  rcases x.run s with ⟨e | a, t⟩ <;> rfl

end

end Act

end AslBuild
