import RaydiumAmm.WhitelistLife

/-!
# Queries of the whitelist

What the queries say of a whitelist after a run of updates, and what can still be added to it.

1. The queries of the record of a roster.
2. Every attempt on the roster is made by a call.
3. `whitelist_queries_agree`.
-/

namespace RaydiumAmm

/-! ## 1. The record of a roster -/

namespace HookWhitelist

variable {authority : Pubkey} {r : Hooks}

/-- `get_active_hooks` is the roster, in its order. -/
theorem getActiveHooks_ofRoster : (ofRoster authority r).getActiveHooks = r.members := by
  have hlen : (ofRoster authority r).getActiveHooks.length = r.members.length := by
    rw [getActiveHooks, count_ofRoster, List.length_take, Vector.length_toList]
    exact Nat.min_eq_left r.length_le
  refine List.ext_getElem hlen fun i hi hi' => ?_
  have hslot : (ofRoster authority r).hooks.toList.getD i Pubkey.default =
      r.members.getD i Pubkey.default := getD_ofRoster i
  rw [List.getD_eq_getElem _ _ hi', List.getD_eq_getElem _ _
    (by rw [Vector.length_toList]; exact lt_of_lt_of_le hi' r.length_le)] at hslot
  rw [← hslot]
  exact List.getElem_take

theorem availableSlots_ofRoster :
    (ofRoster authority r).availableSlots = MAX_HOOKS - r.members.length := by
  rw [availableSlots, count_ofRoster]

/-- A record is full where it has no slot left. -/
theorem isFull_iff (s : HookWhitelist) : s.isFull = true ↔ s.availableSlots = 0 := by
  rw [isFull, decide_eq_true_iff, availableSlots, Nat.sub_eq_zero_iff_le]

end HookWhitelist

/-! ## 2. Calls -/

/-- The instruction that asks for an update of the roster. -/
def UpdateHookWhitelistInstruction.ofUpdate :
    Roster.Update Pubkey → UpdateHookWhitelistInstruction
  | .add h => ⟨h, .add⟩
  | .remove h => ⟨h, .remove⟩

section Calls

variable {env : Env} {programId authority : Pubkey} {w w' : World} {r r' : HookWhitelist.Hooks}

theorem UpdateHookWhitelistInstruction.toUpdate_ofUpdate (u : Roster.Update Pubkey) :
    (ofUpdate u).toUpdate = u := by
  cases u <;> rfl

/-- What the authority asks for in a call of its own is done. -/
theorem UpdateStep.of_update (hauthority : authority ≠ Pubkey.default) {u : Roster.Update Pubkey}
    (h : Stores env programId (HookWhitelist.ofRoster authority r) w)
    (hupdate : r.update u = .ok r') :
    UpdateStep env programId w (some (.ofUpdate u))
      (w.storeWhitelist env programId (HookWhitelist.ofRoster authority r')) := by
  have hsigned : SignedBy env programId authority
      [⟨whitelistAddress env programId, false, true⟩, ⟨authority, true, false⟩] :=
    ⟨_, _, [], rfl, rfl, rfl, rfl⟩
  refine .done ((h.update_signed hauthority hsigned (.ofUpdate u)).trans ?_)
  rw [HookWhitelist.applyUpdate_ofRoster, UpdateHookWhitelistInstruction.toUpdate_ofUpdate, hupdate]
  rfl

/-- Every attempt on the roster is made by a call on its bytes. -/
theorem UpdateStep.of_attempt (hauthority : authority ≠ Pubkey.default)
    {l : Option (Roster.Update Pubkey)} (hstep : Roster.Attempt r l r')
    (h : Stores env programId (HookWhitelist.ofRoster authority r) w) :
    ∃ w', UpdateStep env programId w (l.map UpdateHookWhitelistInstruction.ofUpdate) w' ∧
      Stores env programId (HookWhitelist.ofRoster authority r') w' := by
  cases hstep with
  | done hupdate => exact ⟨_, .of_update hauthority h hupdate, h.store _⟩
  | refused =>
    -- a call without accounts
    have hempty : processUpdateHookWhitelist env programId [] ⟨authority, .add⟩ w =
        Outcome.fail .notEnoughAccountKeys := rfl
    exact ⟨w, .failed hempty, h⟩

/-- The additions that go through in a row. -/
theorem UpdateStep.run_add_iff (hauthority : authority ≠ Pubkey.default) {added : List Pubkey}
    (h : Stores env programId (HookWhitelist.ofRoster authority r) w) :
    (∃ w', Runs.Run (UpdateStep env programId) w (added.map fun a => some ⟨a, .add⟩) w') ↔
      added.Nodup ∧ (∀ a ∈ added, a ∉ r.members) ∧ added.length ≤ MAX_HOOKS - r.members.length := by
  rw [← Roster.exists_run_add_iff]
  constructor
  · rintro ⟨w', hrun⟩
    obtain ⟨r', hroster, -⟩ := hrun.simulate
      (R := fun w r => Stores env programId (HookWhitelist.ofRoster authority r) w)
      (fun _ _ _ _ hstep h => hstep.simulates h) h
    rw [List.map_map] at hroster
    exact ⟨r', hroster⟩
  · rintro ⟨r', hroster⟩
    obtain ⟨w', hrun, -⟩ := hroster.simulate
      (R := fun r w => Stores env programId (HookWhitelist.ofRoster authority r) w)
      (fun _ _ _ _ hstep h => UpdateStep.of_attempt hauthority hstep h) h
    rw [List.map_map] at hrun
    exact ⟨w', hrun⟩

/-- After such additions the hooks stand behind the others. -/
theorem UpdateStep.stores_run_add {added : List Pubkey}
    (h : Stores env programId (HookWhitelist.ofRoster authority r) w)
    (hrun : Runs.Run (UpdateStep env programId) w (added.map fun a => some ⟨a, .add⟩) w') :
    ∃ r' : HookWhitelist.Hooks, r'.members = r.members ++ added ∧
      Stores env programId (HookWhitelist.ofRoster authority r') w' := by
  obtain ⟨r', hroster, h'⟩ := hrun.simulate
    (R := fun w r => Stores env programId (HookWhitelist.ofRoster authority r) w)
    (fun _ _ _ _ hstep h => hstep.simulates h) h
  rw [List.map_map] at hroster
  exact ⟨r', (Roster.run_add_iff.mp hroster).2.2, h'⟩

theorem Stores.getWhitelistedHooks (hauthority : authority ≠ Pubkey.default)
    (h : Stores env programId (HookWhitelist.ofRoster authority r) w) {info : AccountInfo}
    (hkey : info.key = whitelistAddress env programId) :
    RaydiumAmm.getWhitelistedHooks env w programId info = .ok r.members := by
  have hdata : (w.accounts info.key).data.isEmpty = false := by
    rw [hkey, h.data]
    exact HookWhitelist.isEmpty_pack
  have hseeds : info.key = (findWhitelistPda env programId).1 := hkey
  simp only [RaydiumAmm.getWhitelistedHooks, Outcome.require_pos hseeds, Outcome.ok_bind, hdata,
    h.load hkey, HookWhitelist.unpack_pack (s := .ofRoster authority r) hauthority,
    HookWhitelist.getActiveHooks_ofRoster]
  rfl

end Calls

/-! ## 3. Runs -/

/-- After every run of calls on a fresh whitelist the queries agree: the list has no duplicates and
    holds the hooks that were added last, the test for one hook is membership in the list, and the
    whitelist is full where no slot is left. Exactly the lists of new and different hooks that fit
    in the slots left can be added in a row, and they then stand at the end. -/
theorem whitelist_queries_agree {env : Env} {programId authority : Pubkey}
    (hauthority : authority ≠ Pubkey.default) {w₀ w : World}
    {calls : List (Option UpdateHookWhitelistInstruction)}
    (hstart : Stores env programId (HookWhitelist.empty authority) w₀)
    (hrun : Runs.Run (UpdateStep env programId) w₀ calls w) {info : AccountInfo}
    (hkey : info.key = whitelistAddress env programId) :
    ∃ hooks s, getWhitelistedHooks env w programId info = .ok hooks ∧
      loadWhitelist w info = .ok s ∧ hooks.Nodup ∧
      (∀ h, h ∈ hooks ↔ Roster.lastUpdate h
        (calls.map (Option.map UpdateHookWhitelistInstruction.toUpdate)) = some (.add h)) ∧
      (∀ h, isHookWhitelisted env w programId info h = .ok (decide (h ∈ hooks))) ∧
      (s.isFull = true ↔ s.availableSlots = 0) ∧
      ∀ added : List Pubkey,
        ((∃ w', Runs.Run (UpdateStep env programId) w (added.map fun a => some ⟨a, .add⟩) w') ↔
          added.Nodup ∧ (∀ a ∈ added, a ∉ hooks) ∧ added.length ≤ s.availableSlots) ∧
        ∀ w', Runs.Run (UpdateStep env programId) w (added.map fun a => some ⟨a, .add⟩) w' →
          getWhitelistedHooks env w' programId info = .ok (hooks ++ added) := by
  obtain ⟨r, hroster, h⟩ := UpdateStep.run_simulates hstart hrun
  refine ⟨r.members, HookWhitelist.ofRoster authority r, h.getWhitelistedHooks hauthority hkey, ?_,
    r.nodup, Roster.mem_iff_lastUpdate hroster, ?_, HookWhitelist.isFull_iff _, fun added => ⟨?_, ?_⟩⟩
  · rw [h.load hkey, HookWhitelist.unpack_pack hauthority]
  · intro hook
    rw [h.isHookWhitelisted hkey, HookWhitelist.unpack_pack hauthority, Outcome.ok_bind,
      HookWhitelist.containsHook_ofRoster]
    rfl
  · rw [HookWhitelist.availableSlots_ofRoster]
    exact UpdateStep.run_add_iff hauthority h
  · intro w' hadded
    obtain ⟨r', hmembers, h'⟩ := UpdateStep.stores_run_add h hadded
    rw [h'.getWhitelistedHooks hauthority hkey, hmembers]

open Reference in
/-- After one addition the list holds the hook. -/
theorem whitelist_queries_agree_add :
    ∃ w hooks, UpdateStep env program (whitelistWorld (.empty (key 7))) (some ⟨key 9, .add⟩) w ∧
      getWhitelistedHooks env w program ⟨whitelistAddress env program, false, false⟩ = .ok hooks ∧
      key 9 ∈ hooks ∧ key 8 ∉ hooks := by
  have hauthority : key 7 ≠ Pubkey.default := by decide
  have hkey : (⟨whitelistAddress env program, false, false⟩ : AccountInfo).key =
    whitelistAddress env program := rfl
  obtain ⟨w, hstep⟩ := updateStep_add _ hauthority (key 9)
  obtain ⟨hooks, s, hquery, -, -, hmem, -⟩ := whitelist_queries_agree hauthority
    (stores_whitelistWorld _) (.single hstep) hkey
  refine ⟨w, hooks, hstep, hquery, (hmem _).mpr rfl, fun h => ?_⟩
  exact absurd ((hmem _).mp h) (by decide)

end RaydiumAmm
