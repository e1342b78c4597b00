import RaydiumAmm.Admin
import RaydiumAmm.SwapEffect

/-!
# The effect of the administration handlers

What a successful cancel-all, migration or SRM withdrawal did.
-/

namespace RaydiumAmm

/-! ## 1. Cancel all orders, migrate -/

/-- The settle instruction of the two handlers: the market's vaults are the wallets too. -/
def ordersSettleIx (a : OrdersAccounts) : SettleFunds :=
  settleIx a.marketProgramInfo a.marketInfo a.ammOpenOrdersInfo a.ammAuthorityInfo
    a.marketCoinVaultInfo a.marketPcVaultInfo a.marketCoinVaultInfo a.marketPcVaultInfo
    a.marketVaultSigner a.tokenProgramInfo none

theorem cancelAndSettleOrders_eq_ok {env : Env} {a : OrdersAccounts} {amm : AmmInfo}
    {w w' : World} (h : cancelAndSettleOrders env a amm w = .ok w') :
    a.ammOpenOrdersInfo.key = amm.openOrders ∧
      Calls env (DexCall (ordersSettleIx a)) w w' := by
  simp only [cancelAndSettleOrders, Outcome.bind_eq_ok, check_eq_ok] at h
  obtain ⟨-, -, -, hopen, ⟨marketState, openOrders⟩, -, ⟨bids, asks⟩, -, w₁, hbids, w₂, hasks,
    hsettle⟩ := h
  have hcancel : Calls env (CancelCall a.marketProgramInfo.key) w w₂ :=
    (cancelSide_calls hbids).trans (cancelSide_calls hasks)
  exact ⟨hopen, (hcancel.mono fun c hc => .inl hc).tail ⟨_, .inr rfl, hsettle⟩⟩

/-- A cancel-all or a migration that went through; the record that it leaves differs from the
    stored one in the market program at most. -/
structure OrdersDone (env : Env) (programId : Pubkey) (a : OrdersAccounts) (amm : AmmInfo)
    (w w' : World) : Prop where
  owner : (w.accounts a.ammInfo.key).owner = programId
  stored : (w.accounts a.ammInfo.key).data = .amm amm
  openOrders : a.ammOpenOrdersInfo.key = amm.openOrders
  run : ∃ w₁ marketProgram,
    Calls env (DexCall (ordersSettleIx a)) { w with borrowed := a.ammInfo.key :: w.borrowed } w₁ ∧
    w' = w₁.dropRefMut a.ammInfo.key (.amm { amm with marketProgram := marketProgram })

theorem adminCancelOrdersBody_eq_ok {env : Env} {programId : Pubkey} {a : OrdersAccounts}
    {w w' : World} (h : adminCancelOrdersBody env programId a w = .ok w') :
    ∃ amm, OrdersDone env programId a amm w w' := by
  simp only [adminCancelOrdersBody, Outcome.bind_eq_ok, check_eq_ok, Outcome.pure_eq_ok] at h
  obtain ⟨-, -, ⟨amm, w₀⟩, hload, authority, -, -, -, -, -, -, -, w₁, hcancel, rfl⟩ := h
  obtain ⟨howner, hdata, -, rfl⟩ := AmmInfo.loadMutChecked_eq_ok hload
  obtain ⟨hopen, hcalls⟩ := cancelAndSettleOrders_eq_ok hcancel
  exact ⟨amm, howner, hdata, hopen, w₁, amm.marketProgram, hcalls, rfl⟩

theorem migrateToOpenbookBody_eq_ok {env : Env} {programId : Pubkey} {a : OrdersAccounts}
    {w w' : World} (h : migrateToOpenbookBody env programId a w = .ok w') :
    ∃ amm, OrdersDone env programId a amm w w' := by
  simp only [migrateToOpenbookBody, Outcome.bind_eq_ok, check_eq_ok, Outcome.pure_eq_ok] at h
  obtain ⟨-, -, ⟨amm, w₀⟩, hload, authority, -, -, -, -, -, -, -, w₁, hcancel, rfl⟩ := h
  obtain ⟨howner, hdata, -, rfl⟩ := AmmInfo.loadMutChecked_eq_ok hload
  obtain ⟨hopen, hcalls⟩ := cancelAndSettleOrders_eq_ok hcancel
  exact ⟨amm, howner, hdata, hopen, w₁, _, hcalls, rfl⟩

/-! ## 2. SRM -/

/-- An SRM withdrawal that went through. -/
structure WithdrawSrmDone (env : Env) (programId : Pubkey) (a : WithdrawSrmAccounts)
    (amount : U64) (amm : AmmInfo) (w w' : World) : Prop where
  owner : (w.accounts a.ammInfo.key).owner = programId
  stored : (w.accounts a.ammInfo.key).data = .amm amm
  sourceToken : ∃ v, (w.accounts a.ammSrmVaultInfo.key).data = .token v
  destToken : ∃ v, (w.accounts a.userDestSrmInfo.key).data = .token v
  amount_pos : 0 < amount.toNat
  run : ∃ w₁, World.invoke env { w with borrowed := a.ammInfo.key :: w.borrowed }
      (transferCpi a.tokenProgramInfo a.ammSrmVaultInfo a.userDestSrmInfo a.ammAuthorityInfo
        [[AUTHORITY_AMM, [amm.nonceU8]]] amount) = .ok w₁ ∧
    w' = w₁.dropRefMut a.ammInfo.key (.amm amm)

theorem withdrawSrmBody_eq_ok {env : Env} {programId : Pubkey} {a : WithdrawSrmAccounts}
    {withdrawsrm : WithdrawSrmInstruction} {w w' : World}
    (h : withdrawSrmBody env programId a withdrawsrm w = .ok w') :
    ∃ amm, WithdrawSrmDone env programId a withdrawsrm.amount amm w w' := by
  simp only [withdrawSrmBody, Outcome.bind_eq_ok, check_eq_ok, Outcome.pure_eq_ok] at h
  obtain ⟨-, -, ⟨amm, w₀⟩, hload, authority, -, -, -, -, hspl, source, hsource, dest, hdest, -, -,
    -, -, -, -, -, hpos, w₁, htransfer, rfl⟩ := h
  obtain ⟨howner, hdata, -, rfl⟩ := AmmInfo.loadMutChecked_eq_ok hload
  obtain ⟨-, -, hsourceData⟩ := unpackTokenAccount_eq_ok hsource
  obtain ⟨-, -, hdestData⟩ := unpackTokenAccount_eq_ok hdest
  exact ⟨amm, {
    owner := howner
    stored := hdata
    sourceToken := ⟨_, hsourceData⟩
    destToken := ⟨_, hdestData⟩
    amount_pos := toNat_pos_of_ne_zero hpos
    run := ⟨w₁, tokenTransferWithAuthority_spl hspl htransfer, rfl⟩
  }⟩

end RaydiumAmm
