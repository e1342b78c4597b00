import RaydiumAmm.LiquidityEffect
import RaydiumAmm.Profit

/-!
# The effect of a monitor step and of a profit withdrawal

What a successful monitor step or profit withdrawal did: the checks that it passed, its calls in
order, and the records that it left.
-/

namespace RaydiumAmm

/-! ## 1. Monitor step -/

/-- The settle instruction of a monitor step. -/
def monitorSettleIx (a : MonitorAccounts) : SettleFunds :=
  settleIx a.marketProgramInfo a.marketInfo a.ammOpenOrdersInfo a.ammAuthorityInfo
    a.marketCoinVaultInfo a.marketPcVaultInfo a.ammCoinVaultInfo a.ammPcVaultInfo
    a.marketVaultSigner a.tokenProgramInfo none

/-- What a monitor step has checked when it books the profit. The vaults, the market's vaults and
    the market program are not among it. -/
structure MonitorChecked (programId : Pubkey) (a : MonitorAccounts) (w : World)
    (c : MonitorContext) : Prop where
  owner : (w.accounts a.ammInfo.key).owner = programId
  stored : (w.accounts a.ammInfo.key).data = .amm c.amm
  storedTarget : (w.accounts a.ammTargetOrdersInfo.key).data = .targetOrders c.targetOrders
  market : a.marketInfo.key = c.amm.market
  openOrders : a.ammOpenOrdersInfo.key = c.amm.openOrders
  targetOrders : a.ammTargetOrdersInfo.key = c.amm.targetOrders
  tokenProgram : a.tokenProgramInfo.key = splTokenId

theorem monitorPrologue_eq_ok {env : Env} {programId : Pubkey} {a : MonitorAccounts}
    {w w' : World} {c : MonitorContext}
    (h : monitorPrologue env programId a w = .ok (c, w')) :
    MonitorChecked programId a w c ∧
      w' = { w with
        borrowed := a.ammTargetOrdersInfo.key :: a.ammInfo.key :: w.borrowed } := by
  simp only [monitorPrologue, Outcome.bind_eq_ok, check_eq_ok] at h
  obtain ⟨-, -, ⟨amm, w₁⟩, hload, authority, -, -, -, -, hspl, -, hmarket, -, hopen, -, htargetKey,
    ⟨marketState, openOrders⟩, -, ⟨bids, asks⟩, -, ⟨t, w₂⟩, htarget, coinVault, -, pcVault, -,
    ⟨totalPc, totalCoin⟩, -, hret⟩ := h
  obtain ⟨howner, hdata, -, rfl⟩ := AmmInfo.loadMutChecked_eq_ok hload
  obtain ⟨-, htargetData, -, -, rfl⟩ := TargetOrders.loadMutChecked_eq_ok htarget
  cases hret
  exact ⟨⟨howner, hdata, htargetData, hmarket, hopen, htargetKey, hspl⟩, rfl⟩

/-- The baseline that a monitor step leaves is the one that it read. -/
def monitorTarget (c : MonitorContext) : TargetOrders :=
  let p := calcTakePnl c.targetOrders c.amm c.totalPcWithoutTakePnl c.totalCoinWithoutTakePnl
  updateTargetOrdersPnl c.targetOrders (Calculator.toU128 p.totalPcWithoutTakePnl)
    (Calculator.toU128 p.totalCoinWithoutTakePnl) p.deltaX p.deltaY

/-- A monitor step that went through. -/
structure MonitorDone (env : Env) (programId : Pubkey) (a : MonitorAccounts) (c : MonitorContext)
    (w w' : World) : Prop where
  checked : MonitorChecked programId a w c
  run : ∃ w₁, Calls env (DexCall (monitorSettleIx a)) { w with
      borrowed := a.ammTargetOrdersInfo.key :: a.ammInfo.key :: w.borrowed } w₁ ∧
    w' = (w₁.dropRefMut a.ammTargetOrdersInfo.key (.targetOrders (monitorTarget c))).dropRefMut
      a.ammInfo.key (.amm (calcTakePnl c.targetOrders c.amm c.totalPcWithoutTakePnl
        c.totalCoinWithoutTakePnl).amm)

theorem monitorCancel_calls {env : Env} {a : MonitorAccounts} {c : MonitorContext} {w w' : World}
    (h : monitorCancel env a c w = .ok w') : Calls env (DexCall (monitorSettleIx a)) w w' := by
  unfold monitorCancel at h
  rcases Outcome.ite_eq_ok.mp h with ⟨-, h⟩ | ⟨-, h⟩
  · exact cancelAmmOrdersAndSettle_calls h
  · cases h
    exact .refl

theorem monitorBody_eq_ok {env : Env} {programId : Pubkey} {a : MonitorAccounts} {w w' : World}
    (h : monitorBody env programId a w = .ok w') : ∃ c, MonitorDone env programId a c w w' := by
  simp only [monitorBody, Outcome.bind_eq_ok, Outcome.pure_eq_ok] at h
  obtain ⟨⟨c, w₀⟩, hpro, w₁, hcancel, rfl⟩ := h
  obtain ⟨hchecked, rfl⟩ := monitorPrologue_eq_ok hpro
  exact ⟨c, hchecked, w₁, monitorCancel_calls hcancel, rfl⟩

/-! ## 2. Withdrawal of the profit -/

/-- What a profit withdrawal has checked when it pays. -/
structure WithdrawPnlChecked (programId : Pubkey) (a : WithdrawPnlAccounts) (w : World)
    (amm : AmmInfo) : Prop where
  owner : (w.accounts a.ammInfo.key).owner = programId
  stored : (w.accounts a.ammInfo.key).data = .amm amm
  tokenProgram : a.tokenProgramInfo.key = splTokenId
  coinVault : a.ammCoinVaultInfo.key = amm.coinVault
  pcVault : a.ammPcVaultInfo.key = amm.pcVault
  coinToken : ∃ v, (w.accounts amm.coinVault).data = .token v
  pcToken : ∃ v, (w.accounts amm.pcVault).data = .token v

theorem withdrawPnlPrologue_eq_ok {env : Env} {programId : Pubkey} {a : WithdrawPnlAccounts}
    {w w' : World} {amm : AmmInfo}
    (h : withdrawPnlPrologue env programId a w = .ok (amm, w')) :
    WithdrawPnlChecked programId a w amm ∧
      w' = { w with borrowed := a.ammInfo.key :: w.borrowed } := by
  simp only [withdrawPnlPrologue, Outcome.bind_eq_ok, check_eq_ok] at h
  obtain ⟨-, -, ⟨amm', w₁⟩, hload, authority, -, -, -, -, hspl, -, hcoinKey, -, hpcKey, coinVault,
    hcoin, pcVault, hpc, destCoin, -, destPc, -, -, -, -, -, -, -, -, -, hret⟩ := h
  obtain ⟨howner, hdata, -, rfl⟩ := AmmInfo.loadMutChecked_eq_ok hload
  obtain ⟨-, -, hcoinData⟩ := unpackTokenAccount_eq_ok hcoin
  obtain ⟨-, -, hpcData⟩ := unpackTokenAccount_eq_ok hpc
  simp only at hcoinData hpcData
  rw [hcoinKey] at hcoinData
  rw [hpcKey] at hpcData
  cases hret
  exact ⟨⟨howner, hdata, hspl, hcoinKey, hpcKey, ⟨_, hcoinData⟩, ⟨_, hpcData⟩⟩, rfl⟩

/-- One payment: the plain call, or none where there is nothing to pay. -/
theorem payPnl_eq_ok {env : Env} {programId : Pubkey} {a : WithdrawPnlAccounts} {amm : AmmInfo}
    {vaultInfo destInfo : AccountInfo} {pnl : U64} {w w' : World}
    (hspl : a.tokenProgramInfo.key = splTokenId)
    (h : payPnl env programId a amm vaultInfo destInfo pnl w = .ok w') :
    w.invoke env (transferCpi a.tokenProgramInfo vaultInfo destInfo a.ammAuthorityInfo
        [[AUTHORITY_AMM, [amm.nonceU8]]] pnl) = .ok w' ∨ (pnl = 0 ∧ w' = w) := by
  unfold payPnl at h
  rcases Outcome.ite_eq_ok.mp h with ⟨-, h⟩ | ⟨hzero, h⟩
  · exact .inl (tokenTransferWithAuthority_spl hspl h)
  · cases h
    refine .inr ⟨?_, rfl⟩
    by_contra hne
    exact hzero (BitVec.lt_def.mpr (toNat_pos_of_ne_zero hne))

/-- A payment of the profit moves exactly the profit. -/
theorem payPnl_moves {env : Env} {programId : Pubkey} {a : WithdrawPnlAccounts} {amm : AmmInfo}
    {vaultInfo destInfo : AccountInfo} {pnl : U64} {w w' : World} (hexact : ExactTokens env)
    (hspl : a.tokenProgramInfo.key = splTokenId)
    (h : payPnl env programId a amm vaultInfo destInfo pnl w = .ok w') :
    Moves vaultInfo.key destInfo.key pnl.toNat w.accounts w'.accounts := by
  rcases payPnl_eq_ok hspl h with h | ⟨rfl, rfl⟩
  · exact hexact.moves h
  · exact ⟨Nat.zero_le _, fun _ _ _ => rfl, fun k => by simp⟩

/-- The record that a profit withdrawal leaves. -/
def withdrawPnlRecord (amm : AmmInfo) : AmmInfo :=
  { amm with stateData := { amm.stateData with totalPnlCoin := 0, totalPnlPc := 0 } }

/-- A profit withdrawal that went through. -/
structure WithdrawPnlDone (env : Env) (programId : Pubkey) (a : WithdrawPnlAccounts)
    (amm : AmmInfo) (w w' : World) : Prop where
  checked : WithdrawPnlChecked programId a w amm
  some_pnl : ¬(amm.stateData.totalPnlCoin = 0 ∧ amm.stateData.totalPnlPc = 0)
  run : ∃ w₁ w₂,
    payPnl env programId a amm a.ammCoinVaultInfo a.userDestCoinInfo amm.stateData.totalPnlCoin
      { w with borrowed := a.ammInfo.key :: w.borrowed } = .ok w₁ ∧
    payPnl env programId a amm a.ammPcVaultInfo a.userDestPcInfo amm.stateData.totalPnlPc w₁ =
      .ok w₂ ∧
    w' = w₂.dropRefMut a.ammInfo.key (.amm (withdrawPnlRecord amm))

theorem withdrawPnlBody_eq_ok {env : Env} {programId : Pubkey} {a : WithdrawPnlAccounts}
    {w w' : World} (h : withdrawPnlBody env programId a w = .ok w') :
    ∃ amm, WithdrawPnlDone env programId a amm w w' := by
  simp only [withdrawPnlBody, Outcome.bind_eq_ok, check_eq_ok, Outcome.pure_eq_ok] at h
  obtain ⟨⟨amm, w₀⟩, hpro, -, hsome, w₁, hcoin, w₂, hpc, rfl⟩ := h
  obtain ⟨hchecked, rfl⟩ := withdrawPnlPrologue_eq_ok hpro
  exact ⟨amm, hchecked, hsome, w₁, w₂, hcoin, hpc, rfl⟩

end RaydiumAmm
