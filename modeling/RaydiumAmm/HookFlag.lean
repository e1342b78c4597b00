import RaydiumAmm.HookedTrades

/-!
# The flag of a transfer under way

`execute_transfer_hook` marks the source account as transferring before it calls the hook and is to
clear the mark on every path out.

1. `unsetAndReturn_clears`, `callHook_clears`: the exits that clean up;
2. `transfer_flag_cleared_iff`: all exits of `execute_transfer_hook`, the one that does not included.
-/

namespace RaydiumAmm

/-! ## 1. Exits that clean up -/

/-- The token account at `k` has the extension for hooks, with this flag. -/
def Flagged (w : World) (k : Pubkey) (flag : Bool) : Prop :=
  ∃ token, (w.accounts k).data = .token token ∧ token.transferring = some flag

section Exits

variable {env : Env} {w w' : World} {info source : AccountInfo} {flag : Bool}

/-- A write of the flag succeeds on an account that is not borrowed. -/
theorem exists_writeTransferring (hfree : info.key ∉ w.borrowed) (flag : Bool) :
    ∃ w', writeTransferring w info flag = .ok w' ∧ w'.borrowed = w.borrowed := by
  rw [writeTransferring, if_neg hfree]
  split
  · split
    · exact ⟨_, rfl, rfl⟩
    · exact ⟨w, rfl, rfl⟩
  · exact ⟨w, rfl, rfl⟩

/-- After a write every flag of the account is the one written. -/
theorem eq_of_writeTransferring {flag' : Bool} (h : writeTransferring w info flag = .ok w')
    (hflag : Flagged w' info.key flag') : flag' = flag := by
  obtain ⟨token, hdata, htransferring⟩ := hflag
  unfold writeTransferring at h
  split at h
  · cases h
  · split at h
    next old hold =>
      split at h
      next =>
        cases h
        simp only [Accounts.setData, if_true] at hdata
        cases hdata
        exact (Option.some.inj htransferring).symm
      next hnone =>
        cases h
        cases hold.symm.trans hdata
        cases hnone.symm.trans htransferring
    next hother =>
      cases h
      exact absurd hdata (hother token)

/-- Where there is a flag to write it is written. -/
theorem flagged_of_writeTransferring {flag' : Bool} (h : writeTransferring w info flag = .ok w')
    (hflag : Flagged w info.key flag') : Flagged w' info.key flag := by
  obtain ⟨token, hdata, htransferring⟩ := hflag
  unfold writeTransferring at h
  split at h
  · cases h
  · simp only [hdata, htransferring] at h
    cases h
    exact ⟨{ token with transferring := some flag }, by simp [Accounts.setData], rfl⟩

theorem unsetAndReturn_clears (hfree : source.key ∉ w.borrowed) (r : Result Unit) :
    ¬Flagged (unsetAndReturn w source r).1 source.key true := by
  obtain ⟨w', hwrite, -⟩ := exists_writeTransferring hfree false
  rw [unsetAndReturn, hwrite]
  intro hflag
  cases eq_of_writeTransferring hwrite hflag

/-- Whatever the hook does and returns, the flag is cleared after it. -/
theorem callHook_clears (hfree : source.key ∉ w.borrowed) (hook : Pubkey) (metas : List AccountMeta)
    (infos : List AccountInfo) (amount : U64) :
    ¬Flagged (callHook env w source hook metas infos amount).1 source.key true := by
  unfold callHook
  split
  next w₁ hinvoke =>
    obtain ⟨-, hborrowed, -⟩ := World.frame_of_invoke hinvoke
    exact unsetAndReturn_clears (by rw [hborrowed]; exact hfree) _
  next => exact unsetAndReturn_clears hfree _

end Exits

/-! ## 2. `execute_transfer_hook` -/

/-- `execute_transfer_hook` sets the flag of the source account. -/
structure HookTransfer.SetsFlag (t : HookTransfer) (env : Env) (programId : Pubkey) (w : World)
    (hook : Pubkey) (metaListInfo : AccountInfo) : Prop where
  admitted : t.Admitted env programId w hook metaListInfo
  free : t.source.key ∉ w.borrowed
  flagged : ∃ flag, Flagged w t.source.key flag

/-- Once the flag is set, every return leaves it cleared, whatever the hook does, if and only if the
    account of the meta list is not both the right one and borrowed. -/
theorem transfer_flag_cleared_iff {t : HookTransfer} {env : Env} {programId hook : Pubkey}
    {w : World} {metaListInfo : AccountInfo} (h : t.SetsFlag env programId w hook metaListInfo) :
    ((t.run env programId w).2 ≠ Outcome.panic →
        ¬Flagged (t.run env programId w).1 t.source.key true) ↔
      ¬(metaListInfo.key = metaListAddress env t.mint.key hook ∧ metaListInfo.key ∈ w.borrowed) := by
  obtain ⟨flag, hflag⟩ := h.flagged
  obtain ⟨w₁, hset, hborrowed⟩ := exists_writeTransferring h.free true
  have hfree : t.source.key ∉ w₁.borrowed := by rw [hborrowed]; exact h.free
  rw [← hborrowed]
  rcases h.admitted.exits hset with
    ⟨hopen, e, hexit⟩ | ⟨hblocked, hexit⟩ | ⟨hlist, hexit⟩ | ⟨metaList, metas, infos, hreaches⟩
  · have hrun : t.run env programId w = unsetAndReturn w₁ t.source (.error e) := hexit env.invoke
    refine iff_of_true (fun _ => ?_) hopen
    rw [hrun]
    exact unsetAndReturn_clears hfree _
  · -- the error is passed on as it is
    have hrun : t.run env programId w = (w₁, Outcome.fail .accountBorrowFailed) := hexit env.invoke
    refine iff_of_false (fun hclear => ?_) (not_not_intro hblocked)
    rw [hrun] at hclear
    exact hclear Outcome.fail_ne_panic (flagged_of_writeTransferring hset hflag)
  · -- a panic is no return
    have hrun : t.run env programId w = (w₁, Outcome.panic) := hexit env.invoke
    refine iff_of_true (fun hreturns => ?_) fun hboth => hlist hboth.2
    rw [hrun] at hreturns
    exact absurd rfl hreturns
  · have hrun : t.run env programId w = callHook env w₁ t.source hook metas infos t.amount :=
      hreaches.run_eq env.invoke
    refine iff_of_true (fun _ => ?_) fun hboth => (isMetaListValid_true hreaches.valid).1 hboth.2
    rw [hrun]
    exact callHook_clears hfree _ _ _ _

namespace Reference

/-- The world of the hooked pool where the payer's account has the extension for hooks, under the
    given borrows. -/
def flaggedWorld (borrowed : List Pubkey) : World where
  accounts := hookedWorld.accounts.setData (key 31)
    (.token { mint := key 40, owner := key 30, amount := 1000000, transferring := some false })
  clock := hookedWorld.clock
  borrowed := borrowed
  inner := []

/-- The payment of a swap sets the flag. -/
theorem hookedPayment_setsFlag {borrowed : List Pubkey} (hsource : key 31 ∉ borrowed)
    (hmint : key 40 ∉ borrowed) (hlist : key 71 ∉ borrowed) :
    hookedPayment.SetsFlag hookEnv program (flaggedWorld borrowed) hook (readonly 72) where
  admitted := {
    hooked := if_neg hmint
    listed := ⟨readonly 71, [], rfl, hook_whitelisted_of rfl hlist⟩ }
  free := hsource
  flagged := ⟨false, _, rfl, rfl⟩

end Reference

open Reference in
/-- The payment of a swap with nothing borrowed. -/
theorem transfer_flag_cleared_payment :
    (hookedPayment.run hookEnv program (flaggedWorld [])).2 = .ok () ∧
      ¬Flagged (hookedPayment.run hookEnv program (flaggedWorld [])).1 (key 31) true := by
  have hsets : hookedPayment.SetsFlag hookEnv program (flaggedWorld []) hook (readonly 72) :=
    hookedPayment_setsFlag (by decide) (by decide) (by decide)
  have hrun : (hookedPayment.run hookEnv program (flaggedWorld [])).2 = .ok () := by
    rw [hsets.admitted.run_eq]
    rfl
  have hcleared := (transfer_flag_cleared_iff hsets).mpr fun hboth => absurd hboth.2 (by decide)
  exact ⟨hrun, hcleared (hrun ▸ Outcome.panic_ne_ok.symm)⟩

open Reference in
/-- With the meta list borrowed the payment returns an error and the flag stays set. -/
theorem transfer_flag_left_set :
    hookedPayment.SetsFlag hookEnv program (flaggedWorld [key 72]) hook (readonly 72) ∧
      (hookedPayment.run hookEnv program (flaggedWorld [key 72])).2 =
        .error (.error .accountBorrowFailed) ∧
      Flagged (hookedPayment.run hookEnv program (flaggedWorld [key 72])).1 (key 31) true := by
  have hsets : hookedPayment.SetsFlag hookEnv program (flaggedWorld [key 72]) hook (readonly 72) :=
    hookedPayment_setsFlag (by decide) (by decide) (by decide)
  rw [hsets.admitted.run_eq]
  exact ⟨hsets, rfl, _, rfl, rfl⟩

end RaydiumAmm
