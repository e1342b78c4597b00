import Mathlib.Algebra.GroupWithZero.Nat
import Mathlib.Data.List.Forall2

/-!
# Runs

Finite runs of a labelled step relation, with the rules by which a fact about one step becomes a
fact about every run.
-/

namespace Runs

variable {σ ℓ : Type} {step step' : σ → ℓ → σ → Prop} {s s' s'' : σ} {ls : List ℓ} {l : ℓ}

/-- The runs of `step`, with the labels in order. -/
inductive Run (step : σ → ℓ → σ → Prop) : σ → List ℓ → σ → Prop where
  | nil (s : σ) : Run step s [] s
  | snoc {s s' s'' : σ} {ls : List ℓ} {l : ℓ} : Run step s ls s' → step s' l s'' →
      Run step s (ls ++ [l]) s''

namespace Run

theorem single (h : step s l s') : Run step s [l] s' :=
  .snoc (.nil s) h

theorem nil_iff : Run step s [] s' ↔ s' = s := by
  constructor
  · intro h
    generalize hlabels : ([] : List ℓ) = labels at h
    cases h with
    | nil => rfl
    | snoc => exact absurd hlabels.symm (List.append_ne_nil_of_right_ne_nil _ (List.cons_ne_nil _ _))
  · rintro rfl
    exact .nil _

theorem snoc_iff : Run step s (ls ++ [l]) s'' ↔ ∃ s', Run step s ls s' ∧ step s' l s'' := by
  constructor
  · intro h
    generalize hlabels : ls ++ [l] = labels at h
    cases h with
    | nil => exact absurd hlabels (List.append_ne_nil_of_right_ne_nil _ (List.cons_ne_nil _ _))
    | snoc hrun hlast =>
      obtain ⟨rfl, hlabel⟩ := List.append_inj' hlabels rfl
      cases hlabel
      exact ⟨_, hrun, hlast⟩
  · rintro ⟨s', hrun, hlast⟩
    exact .snoc hrun hlast

theorem trans {ls' : List ℓ} (h : Run step s ls s') (h' : Run step s' ls' s'') :
    Run step s (ls ++ ls') s'' := by
  induction h' with
  | nil => rwa [List.append_nil]
  | snoc _ hlast ih =>
    rw [← List.append_assoc]
    exact .snoc ih hlast

theorem mono (hstep : ∀ s l s', step s l s' → step' s l s') (h : Run step s ls s') :
    Run step' s ls s' := by
  induction h with
  | nil => exact .nil _
  | snoc _ hlast ih => exact .snoc ih (hstep _ _ _ hlast)

/-- A run whose labels satisfy `P` is a run of the steps with such labels. -/
theorem restrict {P : ℓ → Prop} (h : Run step s ls s') (hP : ∀ l ∈ ls, P l) :
    Run (fun s l s' => step s l s' ∧ P l) s ls s' := by
  induction h with
  | nil => exact .nil _
  | snoc _ hlast ih =>
    refine .snoc (ih fun l hl => hP l (List.mem_append_left _ hl)) ⟨hlast, hP _ ?_⟩
    exact List.mem_append_right _ (List.mem_singleton_self _)

/-- What every step preserves, a run preserves. -/
theorem inv {I : σ → Prop} (hstep : ∀ s l s', step s l s' → I s → I s') (h : Run step s ls s')
    (hs : I s) : I s' := by
  induction h with
  | nil => exact hs
  | snoc _ hlast ih => exact hstep _ _ _ hlast ih

/-- What a step takes from `I n` to `I (n + 1)` holds after a run at its length. -/
theorem inv_length {I : Nat → σ → Prop}
    (hstep : ∀ n s l s', step s l s' → I n s → I (n + 1) s') (h : Run step s ls s')
    (hs : I 0 s) : I ls.length s' := by
  induction h with
  | nil => exact hs
  | snoc _ hlast ih =>
    rw [List.length_append, List.length_singleton]
    exact hstep _ _ _ _ hlast ih

/-- A run whose states satisfy `I` is a run of another step relation where that relation holds of
    the steps from such states. -/
theorem mono_inv {I : σ → Prop} (hstep : ∀ s l s', step s l s' → I s → step' s l s' ∧ I s')
    (h : Run step s ls s') (hs : I s) : Run step' s ls s' ∧ I s' := by
  induction h with
  | nil => exact ⟨.nil _, hs⟩
  | snoc _ hlast ih =>
    obtain ⟨hrun, hs'⟩ := ih
    obtain ⟨hlast', hs''⟩ := hstep _ _ _ hlast hs'
    exact ⟨.snoc hrun hlast', hs''⟩

/-- Where every step is matched by a step of `step'`, a run is matched by a run of `step'` whose
    labels are read off by `f`. -/
theorem simulate {τ ℓ' : Type} {f : ℓ → ℓ'} {stepA : τ → ℓ' → τ → Prop} {R : σ → τ → Prop}
    (hsim : ∀ s l s' t, step s l s' → R s t → ∃ t', stepA t (f l) t' ∧ R s' t')
    {t : τ} (h : Run step s ls s') (ht : R s t) : ∃ t', Run stepA t (ls.map f) t' ∧ R s' t' := by
  induction h with
  | nil => exact ⟨t, .nil t, ht⟩
  | snoc _ hlast ih =>
    obtain ⟨t₁, hrun, ht₁⟩ := ih
    obtain ⟨t₂, hstep, ht₂⟩ := hsim _ _ _ _ hlast ht₁
    rw [List.map_append]
    exact ⟨t₂, .snoc hrun hstep, ht₂⟩

/-- Where every step adds an entry to the amount that a state holds, a run adds one entry for each
    of its labels. -/
theorem ledger {I : σ → Nat → Prop} {E : ℓ → Nat → Prop} {n : Nat}
    (hstep : ∀ s l s' n, step s l s' → I s n → ∃ m, E l m ∧ I s' (n + m))
    (h : Run step s ls s') (hs : I s n) :
    ∃ ms, List.Forall₂ E ls ms ∧ I s' (n + ms.sum) := by
  induction h with
  | nil => exact ⟨[], .nil, hs⟩
  | snoc _ hlast ih =>
    obtain ⟨ms, hentries, hs'⟩ := ih
    obtain ⟨m, hentry, hs''⟩ := hstep _ _ _ _ hlast hs'
    refine ⟨ms ++ [m], List.rel_append hentries (.cons hentry .nil), ?_⟩
    rw [List.sum_append, List.sum_singleton, ← Nat.add_assoc]
    exact hs''

/-- Where every step appends to a log items that it answers for, every new item of the log of a run
    has a step of the run that answers for it. -/
theorem log {ι : Type} (log : σ → List ι) {Q : σ → ℓ → ι → Prop}
    (hstep : ∀ s l s', step s l s' → ∃ new, log s' = log s ++ new ∧ ∀ e ∈ new, Q s l e)
    (h : Run step s ls s') :
    ∃ new, log s' = log s ++ new ∧ ∀ e ∈ new, ∃ before l after s₁, ls = before ++ l :: after ∧
      Run step s before s₁ ∧ Q s₁ l e := by
  induction h with
  | nil => exact ⟨[], (List.append_nil _).symm, by simp⟩
  | @snoc s₁ s₂ ls l hrun hlast ih =>
    obtain ⟨new, hnew, hall⟩ := ih
    obtain ⟨last, hlog, hlastAll⟩ := hstep _ _ _ hlast
    refine ⟨new ++ last, by rw [hlog, hnew, List.append_assoc], fun e he => ?_⟩
    rcases List.mem_append.mp he with he | he
    · obtain ⟨before, l', after, s₀, rfl, hbefore, hq⟩ := hall e he
      exact ⟨before, l', after ++ [l], s₀, by rw [List.append_assoc, List.cons_append], hbefore, hq⟩
    · exact ⟨ls, l, [], s₁, rfl, hrun, hlastAll e he⟩

end Run

end Runs
