import Mathlib.Tactic.Basic

/-!
# Outcomes of a fallible computation

A step of a program ends in a value, in an error that it returns, or in a panic that no caller
catches. `Outcome` keeps the two failures apart; its bind is the propagation of the first failure.

The proofs over long straight-line programs peel one step at a time with `bind_eq_ok` and its
companions, so no proof unfolds a program as a whole.
-/

/-- How a computation fails: it returns an error, or it aborts. -/
inductive Fault (ε : Type) where
  | error (e : ε)
  | panic
deriving DecidableEq

/-- The result of a computation that can return an error and can panic. -/
abbrev Outcome (ε α : Type) := Except (Fault ε) α

namespace Outcome

variable {ε α β : Type}

/-- Return the error `e`. -/
def fail (e : ε) : Outcome ε α := .error (.error e)

/-- Abort. -/
def panic : Outcome ε α := .error .panic

/-- Continue only where `p` holds; otherwise return the error `e`. -/
def require (p : Prop) [Decidable p] (e : ε) : Outcome ε Unit :=
  if p then .ok () else fail e

/-- The value of an option, or the error `e` where there is none. -/
def okOr (o : Option α) (e : ε) : Outcome ε α :=
  match o with
  | some a => .ok a
  | none => fail e

/-- The value of an option; a missing one aborts. -/
def unwrap (o : Option α) : Outcome ε α :=
  match o with
  | some a => .ok a
  | none => panic

/-- Lift a computation that only returns errors. -/
def lift (r : Except ε α) : Outcome ε α :=
  match r with
  | .ok a => .ok a
  | .error e => fail e

@[simp] theorem bind_eq_ok {x : Outcome ε α} {f : α → Outcome ε β} {b : β} :
    (x >>= f) = .ok b ↔ ∃ a, x = .ok a ∧ f a = .ok b := by
  cases x <;> simp [bind, Except.bind]

/-- A sequence succeeds where its first step does and the rest succeeds from there. -/
theorem exists_bind_eq_ok {x : Outcome ε α} {f : α → Outcome ε β} :
    (∃ b, (x >>= f) = .ok b) ↔ ∃ a, x = .ok a ∧ ∃ b, f a = .ok b := by
  simp only [bind_eq_ok]
  constructor
  · rintro ⟨b, a, hx, hf⟩
    exact ⟨a, hx, b, hf⟩
  · rintro ⟨a, hx, b, hf⟩
    exact ⟨b, a, hx, hf⟩

@[simp] theorem ok_bind {a : α} {f : α → Outcome ε β} :
    ((.ok a : Outcome ε α) >>= f) = f a := rfl

@[simp] theorem error_bind {e : Fault ε} {f : α → Outcome ε β} :
    ((.error e : Outcome ε α) >>= f) = .error e := rfl

@[simp] theorem pure_eq_ok {a b : α} : (pure a : Outcome ε α) = .ok b ↔ a = b :=
  Except.ok.injEq a b ▸ Iff.rfl

@[simp] theorem fail_ne_ok {e : ε} {a : α} : (fail e : Outcome ε α) ≠ .ok a := by
  intro h
  cases h

@[simp] theorem panic_ne_ok {a : α} : (panic : Outcome ε α) ≠ .ok a := by
  intro h
  cases h

@[simp] theorem fail_ne_panic {e : ε} : (fail e : Outcome ε α) ≠ panic := by
  intro h
  cases h

@[simp] theorem require_eq_ok {p : Prop} [Decidable p] {e : ε} {u : Unit} :
    require p e = .ok u ↔ p := by
  unfold require
  split <;> simp_all

/-- A sequence that starts with a test succeeds where the test and the rest do. -/
theorem require_bind_eq_ok {p : Prop} [Decidable p] {e : ε} {f : Unit → Outcome ε β} {b : β} :
    (require p e >>= f) = .ok b ↔ p ∧ f () = .ok b := by
  rw [bind_eq_ok]
  constructor
  · rintro ⟨⟨⟩, hp, hf⟩
    exact ⟨require_eq_ok.mp hp, hf⟩
  · rintro ⟨hp, hf⟩
    exact ⟨(), require_eq_ok.mpr hp, hf⟩

theorem require_pos {p : Prop} [Decidable p] {e : ε} (h : p) : require p e = .ok () :=
  if_pos h

theorem require_neg {p : Prop} [Decidable p] {e : ε} (h : ¬p) : require p e = fail e :=
  if_neg h

@[simp] theorem okOr_eq_ok {o : Option α} {e : ε} {a : α} : okOr o e = .ok a ↔ o = some a := by
  cases o <;> simp [okOr]

@[simp] theorem unwrap_eq_ok {o : Option α} {a : α} :
    (unwrap o : Outcome ε α) = .ok a ↔ o = some a := by
  cases o <;> simp [unwrap]

@[simp] theorem lift_eq_ok {r : Except ε α} {a : α} : lift r = .ok a ↔ r = .ok a := by
  cases r <;> simp [lift]

/-- A conditional that succeeds took one of its branches. -/
theorem ite_eq_ok {p : Prop} [Decidable p] {x y : Outcome ε α} {a : α} :
    (if p then x else y) = .ok a ↔ (p ∧ x = .ok a) ∨ (¬p ∧ y = .ok a) := by
  split <;> simp_all

/-- A run that is known to succeed has a result. -/
theorem exists_of_isOk {x : Outcome ε α} (h : x.isOk = true) : ∃ a, x = .ok a := by
  cases x with
  | error e => cases h
  | ok a => exact ⟨a, rfl⟩

end Outcome

/-! ## Errors that are not returned -/

/-- The computation does not return the error `e`. -/
def Outcome.Avoids {ε α : Type} (e : ε) (x : Outcome ε α) : Prop := x ≠ Outcome.fail e

namespace Outcome.Avoids

variable {ε α β : Type} {e e' : ε}

theorem of_ok (a : α) : Avoids e (.ok a : Outcome ε α) := by
  intro h
  cases h

theorem of_panic : Avoids e (Outcome.panic : Outcome ε α) := by
  intro h
  cases h

/-- A sequence avoids what its steps avoid. -/
theorem bind {x : Outcome ε α} {f : α → Outcome ε β} (hx : Avoids e x)
    (hf : ∀ a, x = .ok a → Avoids e (f a)) : Avoids e (x >>= f) := by
  cases x with
  | ok a => exact hf a rfl
  | error fault =>
    intro h
    cases h
    exact hx rfl

theorem unwrap (o : Option α) : Avoids e (Outcome.unwrap o : Outcome ε α) := by
  cases o with
  | none => exact of_panic
  | some a => exact of_ok a

theorem require {p : Prop} [Decidable p] (h : p ∨ e' ≠ e) :
    Avoids e (Outcome.require p e' : Outcome ε Unit) := by
  intro hfail
  unfold Outcome.require at hfail
  split at hfail
  next => cases hfail
  next hp =>
    cases hfail
    exact (h.resolve_left hp) rfl

theorem lift {r : Except ε α} (h : r ≠ .error e) : Avoids e (Outcome.lift r) := by
  cases r with
  | ok a => exact of_ok a
  | error e' =>
    intro hfail
    cases hfail
    exact h rfl

/-- A computation that returns no error returns a value or aborts. -/
theorem ok_or_panic {x : Outcome ε α} (h : ∀ e, Avoids e x) : (∃ a, x = .ok a) ∨ x = panic := by
  cases x with
  | ok a => exact .inl ⟨a, rfl⟩
  | error fault =>
    cases fault with
    | error e => exact absurd rfl (h e)
    | panic => exact .inr rfl

end Outcome.Avoids

/-! ## Clean endings -/

/-- The computation returns a value or an error in `E`, and does not abort. -/
def Outcome.EndsIn {ε α : Type} (E : ε → Prop) (x : Outcome ε α) : Prop :=
  (∃ a, x = .ok a) ∨ ∃ e, E e ∧ x = Outcome.fail e

namespace Outcome.EndsIn

variable {ε α β : Type} {E : ε → Prop} {e : ε}

theorem of_ok (a : α) : EndsIn E (.ok a : Outcome ε α) := .inl ⟨a, rfl⟩

theorem fail (h : E e) : EndsIn E (Outcome.fail e : Outcome ε α) := .inr ⟨e, h, rfl⟩

theorem not_panic : ¬EndsIn E (Outcome.panic : Outcome ε α) := by
  rintro (⟨a, h⟩ | ⟨e, -, h⟩) <;> cases h

/-- A sequence ends cleanly where its steps do. -/
theorem bind {x : Outcome ε α} {f : α → Outcome ε β} (hx : EndsIn E x)
    (hf : ∀ a, x = .ok a → EndsIn E (f a)) : EndsIn E (x >>= f) := by
  rcases hx with ⟨a, rfl⟩ | ⟨e, he, rfl⟩
  · exact hf a rfl
  · exact fail he

/-- A sequence whose first step aborts does not. -/
theorem not_bind {x : Outcome ε α} {f : α → Outcome ε β} (hx : x = Outcome.panic) :
    ¬EndsIn E (x >>= f) := by
  rw [hx]
  exact not_panic

theorem require {p : Prop} [Decidable p] (h : E e) : EndsIn E (Outcome.require p e) := by
  unfold Outcome.require
  split
  · exact of_ok ()
  · exact fail h

end Outcome.EndsIn
