import Mathlib.Data.Option.Basic

/-!
# Lenses

A field of a record as a pair of a reader and a writer. The laws say that a write is read back, that
writing what is there changes nothing, and that the last write counts. What is left of a record
after a write is what the writer itself keeps, so a write that leaves the record as it was is one of
the value that was there (`set_eq_self_iff`).
-/

/-- A field of type `α` in a record of type `σ`. -/
structure Lens (σ α : Type) where
  get : σ → α
  set : σ → α → σ
  get_set : ∀ s v, get (set s v) = v := by intros; rfl
  set_get : ∀ s, set s (get s) = s := by intros; rfl
  set_set : ∀ s u v, set (set s u) v = set s v := by intros; rfl

namespace Lens

variable {σ α β : Type} {l : Lens σ α} {m : Lens σ β} {s : σ}

/-- Write the value where there is one. -/
def put (l : Lens σ α) (s : σ) (o : Option α) : σ := o.elim s (l.set s)

@[simp] theorem put_none (l : Lens σ α) (s : σ) : l.put s none = s := rfl

@[simp] theorem put_some (l : Lens σ α) (s : σ) (v : α) : l.put s (some v) = l.set s v := rfl

/-- A write changes nothing exactly where the value is stored already. -/
theorem set_eq_self_iff {v : α} : l.set s v = s ↔ l.get s = v := by
  constructor
  · intro h
    rw [← h, l.get_set]
  · intro h
    rw [← h, l.set_get]

theorem put_eq_self_iff {o : Option α} : l.put s o = s ↔ ∀ v ∈ o, l.get s = v := by
  cases o with
  | none => simp
  | some v => simp [set_eq_self_iff]

/-- A write to one field is a write to another exactly where neither changes anything. -/
theorem set_eq_set_iff {u : α} {v : β} (hkeep : m.get (l.set s u) = m.get s) :
    l.set s u = m.set s v ↔ l.get s = u ∧ m.get s = v := by
  constructor
  · intro h
    have hm : m.get s = v := by rw [← hkeep, h, m.get_set]
    have hself : m.set s v = s := set_eq_self_iff.mpr hm
    exact ⟨set_eq_self_iff.mp (h.trans hself), hm⟩
  · rintro ⟨hl, hm⟩
    rw [set_eq_self_iff.mpr hl, set_eq_self_iff.mpr hm]

end Lens
