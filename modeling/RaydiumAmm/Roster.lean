import Mathlib.Data.List.Induction
import Mathlib.Data.List.Nodup
import RaydiumAmm.Runs

/-!
# Rosters

Duplicate-free lists of bounded length, under updates that add and remove one item.

1. `Roster`, its two updates, and what each refuses.
2. Attempts: an update that is refused leaves the roster as it was.
3. The members after a run of attempts from the empty roster are the items whose last update that
   was carried out added them.
4. The items that there is room for.
-/

/-- A duplicate-free list of at most `cap` items. -/
structure Roster (α : Type) (cap : ℕ) where
  members : List α
  nodup : members.Nodup
  length_le : members.length ≤ cap

namespace Roster

variable {α : Type} {cap : ℕ}

/-! ## 1. Updates -/

/-- Why an update is refused. -/
inductive Refusal where
  | present
  | full
  | absent
deriving DecidableEq

inductive Update (α : Type) where
  | add (a : α)
  | remove (a : α)
deriving DecidableEq

/-- The item of an update. -/
def Update.item : Update α → α
  | .add a => a
  | .remove a => a

/-- The roster without members. -/
def empty : Roster α cap where
  members := []
  nodup := List.nodup_nil
  length_le := Nat.zero_le cap

@[ext] theorem ext {r r' : Roster α cap} (h : r.members = r'.members) : r = r' := by
  cases r
  cases r'
  cases h
  rfl

variable [DecidableEq α]

/-- Append an item: one that is present is refused, and so is any where the roster is full. -/
def add (r : Roster α cap) (a : α) : Except Refusal (Roster α cap) :=
  if hmem : a ∈ r.members then .error .present
  else if hlen : r.members.length < cap then
    .ok {
      members := r.members ++ [a]
      nodup := by simpa using r.nodup.concat hmem
      length_le := by rw [List.length_append]; exact hlen
    }
  else .error .full

/-- Erase an item, keeping the order of the others: one that is absent is refused. -/
def remove (r : Roster α cap) (a : α) : Except Refusal (Roster α cap) :=
  if a ∈ r.members then
    .ok {
      members := r.members.erase a
      nodup := r.nodup.erase a
      length_le := Nat.le_trans List.length_erase_le r.length_le
    }
  else .error .absent

def update (r : Roster α cap) : Update α → Except Refusal (Roster α cap)
  | .add a => r.add a
  | .remove a => r.remove a

/-- What an addition did. -/
theorem add_eq_ok {r r' : Roster α cap} {a : α} :
    r.add a = .ok r' ↔
      a ∉ r.members ∧ r.members.length < cap ∧ r'.members = r.members ++ [a] := by
  unfold add
  split
  next hmem => simp [hmem]
  next hmem =>
    split
    next hlen => simp [hmem, hlen, Roster.ext_iff, eq_comm]
    next hlen => simp [hlen]

/-- What a removal did. -/
theorem remove_eq_ok {r r' : Roster α cap} {a : α} :
    r.remove a = .ok r' ↔ a ∈ r.members ∧ r'.members = r.members.erase a := by
  unfold remove
  split
  next hmem => simp [hmem, Roster.ext_iff, eq_comm]
  next hmem => simp [hmem]

/-- An update decides on its own item and leaves the membership of the others. -/
theorem mem_of_update {r r' : Roster α cap} {u : Update α} (h : r.update u = .ok r') (a : α) :
    a ∈ r'.members ↔ if u.item = a then u = .add a else a ∈ r.members := by
  cases u with
  | add b =>
    obtain ⟨-, -, hmembers⟩ := add_eq_ok.mp h
    by_cases hba : b = a
    · simp [hmembers, Update.item, hba]
    · simp [hmembers, Update.item, hba, Ne.symm hba]
  | remove b =>
    obtain ⟨-, hmembers⟩ := remove_eq_ok.mp h
    by_cases hba : b = a
    · simp [hmembers, Update.item, hba, r.nodup.not_mem_erase]
    · simp [hmembers, Update.item, hba, List.mem_erase_of_ne (Ne.symm hba)]

/-! ## 2. Attempts -/

/-- An update that is carried out, or none. -/
inductive Attempt : Roster α cap → Option (Update α) → Roster α cap → Prop where
  | done {r r' : Roster α cap} {u : Update α} : r.update u = .ok r' → Attempt r (some u) r'
  | refused (r : Roster α cap) : Attempt r none r

/-! ## 3. The last update -/

/-- The last update of an item in a history. -/
def lastUpdate (a : α) (us : List (Option (Update α))) : Option (Update α) :=
  (us.filterMap id).reverse.find? fun u => u.item = a

theorem lastUpdate_concat_none (a : α) (us : List (Option (Update α))) :
    lastUpdate a (us ++ [none]) = lastUpdate a us := by
  simp [lastUpdate, List.filterMap_append]

theorem lastUpdate_concat_some (a : α) (us : List (Option (Update α))) (u : Update α) :
    lastUpdate a (us ++ [some u]) = if u.item = a then some u else lastUpdate a us := by
  have hitems : ((us ++ [some u]).filterMap id).reverse = u :: (us.filterMap id).reverse := by
    simp [List.filterMap_append]
  rw [lastUpdate, hitems, List.find?_cons]
  by_cases h : u.item = a <;> simp [h, lastUpdate]

/-- The members are the items that were added last. -/
theorem mem_iff_lastUpdate {us : List (Option (Update α))} {r : Roster α cap}
    (h : Runs.Run Attempt empty us r) (a : α) :
    a ∈ r.members ↔ lastUpdate a us = some (.add a) := by
  induction h with
  | nil => simp [empty, lastUpdate]
  | snoc _ hlast ih =>
    cases hlast with
    | refused => rw [lastUpdate_concat_none, ih]
    | done hupdate =>
      rw [mem_of_update hupdate, lastUpdate_concat_some]
      split <;> simp [ih]

/-! ## 4. Room -/

/-- The items that are added one after the other are new and different, and stand at the end. -/
theorem run_add_iff {as : List α} {r r' : Roster α cap} :
    Runs.Run Attempt r (as.map fun a => some (.add a)) r' ↔
      as.Nodup ∧ (∀ a ∈ as, a ∉ r.members) ∧ r'.members = r.members ++ as := by
  induction as using List.reverseRecOn generalizing r' with
  | nil =>
    rw [List.map_nil, List.append_nil, Runs.Run.nil_iff, Roster.ext_iff]
    simp
  | append_singleton as a ih =>
    rw [List.map_append, List.map_singleton, Runs.Run.snoc_iff]
    constructor
    · rintro ⟨r₁, hrun, hlast⟩
      obtain ⟨hnodup, hnew, hmembers⟩ := ih.mp hrun
      cases hlast with
      | done hupdate =>
        obtain ⟨hmem, -, hadded⟩ := add_eq_ok.mp hupdate
        rw [hmembers, List.mem_append, not_or] at hmem
        refine ⟨by simpa using hnodup.concat hmem.2, ?_, ?_⟩
        · intro b hb
          rcases List.mem_append.mp hb with hb | hb
          · exact hnew b hb
          · rw [List.mem_singleton.mp hb]
            exact hmem.1
        · rw [hadded, hmembers, List.append_assoc]
    · rintro ⟨hnodup, hnew, hmembers⟩
      rw [← List.append_assoc] at hmembers
      have hall : (r.members ++ as ++ [a]).Nodup := hmembers ▸ r'.nodup
      have hlen : (r.members ++ as).length < cap := by
        have hle := r'.length_le
        rw [hmembers, List.length_append, List.length_singleton] at hle
        exact hle
      obtain ⟨r₁, hr₁⟩ : ∃ r₁ : Roster α cap, r₁.members = r.members ++ as :=
        ⟨⟨_, hall.of_append_left, Nat.le_of_lt hlen⟩, rfl⟩
      refine ⟨r₁, ih.mpr ⟨hnodup.of_append_left, fun b hb => hnew b (List.mem_append_left _ hb),
        hr₁⟩, .done (add_eq_ok.mpr ⟨?_, hr₁ ▸ hlen, by rw [hr₁, hmembers]⟩)⟩
      rw [hr₁]
      exact fun hmem => (List.disjoint_of_nodup_append hall) hmem (List.mem_singleton_self a)

/-- So many items fit as there is room for. -/
theorem exists_run_add_iff {as : List α} {r : Roster α cap} :
    (∃ r', Runs.Run Attempt r (as.map fun a => some (.add a)) r') ↔
      as.Nodup ∧ (∀ a ∈ as, a ∉ r.members) ∧ as.length ≤ cap - r.members.length := by
  simp only [run_add_iff]
  constructor
  · rintro ⟨r', hnodup, hnew, hmembers⟩
    have hle := r'.length_le
    rw [hmembers, List.length_append] at hle
    exact ⟨hnodup, hnew, Nat.le_sub_of_add_le' hle⟩
  · rintro ⟨hnodup, hnew, hle⟩
    have hroom := Nat.add_le_of_le_sub' r.length_le hle
    refine ⟨⟨r.members ++ as, ?_, by rwa [List.length_append]⟩, hnodup, hnew, rfl⟩
    exact r.nodup.append hnodup fun a hmem has => hnew a has hmem

end Roster
