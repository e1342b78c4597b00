import RaydiumAmm.Deposit
import RaydiumAmm.SwapEffect
import RaydiumAmm.Withdraw

/-!
# The effect of a deposit and of a withdraw

What a successful deposit or withdraw did: the checks that it passed, its calls in order, and the
two records that it left. Every result about them starts from `depositBody_eq_ok` or
`withdrawBody_eq_ok`.
-/

namespace RaydiumAmm

/-! ## 1. Loading -/

theorem TargetOrders.loadMutChecked_eq_ok {w w' : World} {info : AccountInfo}
    {programId owner : Pubkey} {t : TargetOrders}
    (h : TargetOrders.loadMutChecked w info programId owner = .ok (t, w')) :
    (w.accounts info.key).owner = programId ∧ (w.accounts info.key).data = .targetOrders t ∧
      info.key ∉ w.borrowed ∧ t.owner = owner ∧
      w' = { w with borrowed := info.key :: w.borrowed } := by
  simp only [TargetOrders.loadMutChecked, Outcome.bind_eq_ok, check_eq_ok] at h
  obtain ⟨-, howner, h⟩ := h
  cases hd : (w.accounts info.key).data <;> rw [hd] at h <;>
    simp only [Outcome.fail_ne_ok, World.tryBorrowMutData, Outcome.bind_eq_ok,
      Outcome.require_eq_ok, check_eq_ok, Outcome.pure_eq_ok, Prod.mk.injEq] at h
  obtain ⟨w₁, ⟨-, hborrow, rfl⟩, -, hto, rfl, rfl⟩ := h
  exact ⟨howner, rfl, hborrow, hto, rfl⟩

/-- The accounts after the two records of a pool are written back. -/
theorem World.dropRefMut_records {w w' : World} {targetKey ammKey : Pubkey} {t : TargetOrders}
    {amm : AmmInfo} (hne : targetKey ≠ ammKey)
    (hw' : w' = (w.dropRefMut targetKey (.targetOrders t)).dropRefMut ammKey (.amm amm)) :
    (w'.accounts ammKey).data = .amm amm ∧ (w'.accounts targetKey).data = .targetOrders t ∧
      ∀ k, k ≠ targetKey → k ≠ ammKey → w'.balance k = w.balance k := by
  subst hw'
  refine ⟨?_, ?_, ?_⟩
  · simp [Accounts.setData]
  · simp [Accounts.setData, hne]
  · intro k ht ha
    simp only [World.balance, World.dropRefMut_accounts, Accounts.balance_setData_of_ne ht,
      Accounts.balance_setData_of_ne ha]

/-- Accounts of different kinds are different accounts. -/
theorem ne_of_target_of_amm {w : World} {key key' : Pubkey} {t : TargetOrders} {amm : AmmInfo}
    (h : (w.accounts key).data = .targetOrders t) (h' : (w.accounts key').data = .amm amm) :
    key ≠ key' := by
  rintro rfl
  rw [h] at h'
  cases h'

theorem ne_of_token_of_target {w : World} {key key' : Pubkey} {v : TokenAccount}
    {t : TargetOrders} (h : (w.accounts key).data = .token v)
    (h' : (w.accounts key').data = .targetOrders t) : key ≠ key' := by
  rintro rfl
  rw [h] at h'
  cases h'

/-! ## 2. Deposit -/

/-- What a deposit has checked when it prices the request. -/
structure DepositChecked (env : Env) (programId : Pubkey) (a : DepositAccounts) (w : World)
    (c : DepositContext) : Prop where
  owner : (w.accounts a.ammInfo.key).owner = programId
  stored : (w.accounts a.ammInfo.key).data = .amm c.amm
  storedTarget : (w.accounts a.ammTargetOrdersInfo.key).data = .targetOrders c.targetOrders
  coinVault : a.ammCoinVaultInfo.key = c.amm.coinVault
  pcVault : a.ammPcVaultInfo.key = c.amm.pcVault
  lpMint : a.ammLpMintInfo.key = c.amm.lpMint
  targetOrders : a.ammTargetOrdersInfo.key = c.amm.targetOrders
  source_ne_coin : a.userSourceCoinInfo.key ≠ c.amm.coinVault
  source_ne_pc : a.userSourcePcInfo.key ≠ c.amm.pcVault
  coinToken : ∃ v, (w.accounts c.amm.coinVault).data = .token v
  pcToken : ∃ v, (w.accounts c.amm.pcVault).data = .token v
  totals : c.amm.orderbookOn = false →
    w.balance c.amm.pcVault =
        c.amm.stateData.needTakePnlPc.toNat + c.totalPcWithoutTakePnl.toNat ∧
      w.balance c.amm.coinVault =
        c.amm.stateData.needTakePnlCoin.toNat + c.totalCoinWithoutTakePnl.toNat

theorem depositPrologue_eq_ok {env : Env} {programId : Pubkey} {a : DepositAccounts}
    {deposit : DepositInstruction} {w w' : World} {c : DepositContext}
    (h : depositPrologue env programId a deposit w = .ok (c, w')) :
    DepositChecked env programId a w c ∧
      w' = { w with
        borrowed := a.ammTargetOrdersInfo.key :: a.ammInfo.key :: w.borrowed } := by
  simp only [depositPrologue, ↓check_bind_eq_ok, Outcome.bind_eq_ok] at h
  obtain ⟨⟨amm, w₁⟩, hload, -, -, status, hstatus, -, authority, -, -, hcoinKey, hpcKey, hlp,
    htargetKey, coinVault, hcoin, pcVault, hpc, sourceCoin, -, sourcePc, -, ⟨t, w₂⟩, htarget,
    ⟨totalPc, totalCoin⟩, htotals, hret⟩ := h
  obtain ⟨howner, hdata, -, rfl⟩ := AmmInfo.loadMutChecked_eq_ok hload
  obtain ⟨-, htargetData, -, -, rfl⟩ := TargetOrders.loadMutChecked_eq_ok htarget
  obtain ⟨-, -, hcoinData⟩ := unpackTokenAccount_eq_ok hcoin
  obtain ⟨-, -, hpcData⟩ := unpackTokenAccount_eq_ok hpc
  simp only [not_or, Classical.not_not] at hcoinKey hpcKey
  simp only at hcoinData hpcData hstatus htargetData htotals hlp
  rw [hcoinKey.1] at hcoinData
  rw [hpcKey.1] at hpcData
  cases hret
  refine ⟨{
    owner := howner
    stored := hdata
    storedTarget := htargetData
    coinVault := hcoinKey.1
    pcVault := hpcKey.1
    lpMint := hlp
    targetOrders := htargetKey
    source_ne_coin := hcoinKey.2
    source_ne_pc := hpcKey.2
    coinToken := ⟨coinVault, hcoinData⟩
    pcToken := ⟨pcVault, hpcData⟩
    totals := ?_
  }, rfl⟩
  intro hoff
  have hperm : status.orderbookPermission = amm.orderbookOn := by
    simp only [AmmInfo.orderbookOn, hstatus]
  simp only at hoff
  rw [hperm, hoff] at htotals
  simp only [depositTotals, Bool.false_eq_true, if_false] at htotals
  rw [balance_of_token hcoinData, balance_of_token hpcData]
  exact calcTotalNoOrderbook_eq_ok htotals

/-- The plain SPL mint call of a deposit. -/
def mintCpi (tokenProgram mint destination authority : AccountInfo) (seed : List U8) (nonce : U8)
    (amount : U64) : Cpi where
  ix := .mintTo tokenProgram.key mint.key destination.key authority.key amount
  infos := [mint, destination, authority, tokenProgram]
  seeds := [[seed, [nonce]]]

theorem tokenMintTo_eq_ok {env : Env} {tokenProgram mint destination authority : AccountInfo}
    {seed : List U8} {nonce : U8} {amount : U64} {w w' : World}
    (h : tokenMintTo env tokenProgram mint destination authority seed nonce amount w = .ok w') :
    tokenProgram.key = splTokenId ∧
      w.invoke env (mintCpi tokenProgram mint destination authority seed nonce amount) =
        .ok w' := by
  simp only [tokenMintTo, Outcome.bind_eq_ok, Outcome.require_eq_ok] at h
  obtain ⟨-, hp, h⟩ := h
  exact ⟨hp, h⟩

/-- The plain SPL burn call of a withdraw. -/
def burnCpi (tokenProgram account mint owner : AccountInfo) (amount : U64) : Cpi where
  ix := .burn tokenProgram.key account.key mint.key owner.key amount
  infos := [account, mint, owner, tokenProgram]
  seeds := []

theorem tokenBurn_eq_ok {env : Env} {tokenProgram account mint owner : AccountInfo}
    {amount : U64} {w w' : World}
    (h : tokenBurn env tokenProgram account mint owner amount w = .ok w') :
    w.invoke env (burnCpi tokenProgram account mint owner amount) = .ok w' := by
  simp only [tokenBurn, Outcome.bind_eq_ok, Outcome.require_eq_ok] at h
  obtain ⟨-, -, h⟩ := h
  exact h

/-- The calls of a deposit. -/
structure DepositCalls (env : Env) (a : DepositAccounts) (nonce : U8) (d : DepositAmounts)
    (w w₁ w₂ w₃ : World) : Prop where
  payCoin : w.invoke env (transferCpi a.tokenProgramInfo a.userSourceCoinInfo a.ammCoinVaultInfo
    a.sourceOwnerInfo [] d.deductCoinAmount) = .ok w₁
  payPc : w₁.invoke env (transferCpi a.tokenProgramInfo a.userSourcePcInfo a.ammPcVaultInfo
    a.sourceOwnerInfo [] d.deductPcAmount) = .ok w₂
  mint : w₂.invoke env (mintCpi a.tokenProgramInfo a.ammLpMintInfo a.userDestLpInfo
    a.ammAuthorityInfo AUTHORITY_AMM nonce d.mintLpAmount) = .ok w₃

theorem DepositCalls.calls {env : Env} {a : DepositAccounts} {nonce : U8} {d : DepositAmounts}
    {w w₁ w₂ w₃ : World} (h : DepositCalls env a nonce d w w₁ w₂ w₃) : Calls env AnyCall w w₃ :=
  ((Calls.single trivial h.payCoin).tail ⟨_, trivial, h.payPc⟩).tail ⟨_, trivial, h.mint⟩

/-- The pool record that a deposit leaves. -/
def depositRecord (c : DepositContext) (lpAmount epoch : U64) : AmmInfo :=
  { (calcTakePnl c.targetOrders c.amm c.totalPcWithoutTakePnl c.totalCoinWithoutTakePnl).amm with
    lpAmount := lpAmount
    recentEpoch := epoch }

/-- A deposit that went through: its price and its effect. The profit is booked before the request
    is priced. -/
structure DepositDone (env : Env) (programId : Pubkey) (a : DepositAccounts)
    (deposit : DepositInstruction) (c : DepositContext) (d : DepositAmounts) (w w' : World) :
    Prop where
  checked : DepositChecked env programId a w c
  tokenProgram : a.tokenProgramInfo.key = splTokenId
  priced : DepositPriced deposit c.amm.lpAmount
    (Checked.satSub c.totalPcWithoutTakePnl (c.targetOrders.calcPnlX.setWidth 64))
    (Checked.satSub c.totalCoinWithoutTakePnl (c.targetOrders.calcPnlY.setWidth 64)) d
  coin_pos : 0 < d.deductCoinAmount.toNat
  pc_pos : 0 < d.deductPcAmount.toNat
  mint_pos : 0 < d.mintLpAmount.toNat
  run : ∃ w₁ w₂ w₃ x1 y1 calcPnlX calcPnlY lpAmount,
    DepositCalls env a c.amm.nonceU8 d
      { w with borrowed := a.ammTargetOrdersInfo.key :: a.ammInfo.key :: w.borrowed } w₁ w₂ w₃ ∧
    Calculator.normalizeDecimalV2 c.totalPcWithoutTakePnl c.amm.pcDecimals
      c.amm.sysDecimalValue = .ok x1 ∧
    Calculator.normalizeDecimalV2 c.totalCoinWithoutTakePnl c.amm.coinDecimals
      c.amm.sysDecimalValue = .ok y1 ∧
    depositBaseline x1 d.deductPcAmount c.amm.pcDecimals c.amm.sysDecimalValue
      c.targetOrders.calcPnlX = .ok calcPnlX ∧
    depositBaseline y1 d.deductCoinAmount c.amm.coinDecimals c.amm.sysDecimalValue
      c.targetOrders.calcPnlY = .ok calcPnlY ∧
    lpAmount.toNat = c.amm.lpAmount.toNat + d.mintLpAmount.toNat ∧
    w' = (w₃.dropRefMut a.ammTargetOrdersInfo.key
        (.targetOrders { c.targetOrders with calcPnlX := calcPnlX, calcPnlY := calcPnlY })).dropRefMut
      a.ammInfo.key (.amm (depositRecord c lpAmount w₃.clock.epoch))

/-- The amounts of a deposit that went through also passed its slippage tests. -/
theorem depositBody_bounded {env : Env} {programId : Pubkey} {a : DepositAccounts}
    {deposit : DepositInstruction} {w w' : World}
    (h : depositBody env programId a deposit w = .ok w') :
    ∃ c d, DepositDone env programId a deposit c d w w' ∧
      ∃ lp pc coin, depositAmounts deposit lp pc coin = .ok d := by
  simp only [depositBody, ↓check_bind_eq_ok, Outcome.bind_eq_ok, Outcome.unwrap_eq_ok,
    Checked.add_eq_some, Outcome.pure_eq_ok] at h
  obtain ⟨⟨c, w₀⟩, hpro, x1, hx1, y1, hy1, hlp, d, hd, -, hpos, w₁, hcoin, w₂, hpc, w₃, hmint,
    lpAmount, hlpAmount, calcPnlX, hX, calcPnlY, hY, rfl⟩ := h
  obtain ⟨hchecked, rfl⟩ := depositPrologue_eq_ok hpro
  obtain ⟨hspl, hmint⟩ := tokenMintTo_eq_ok hmint
  simp only [not_or] at hpos
  refine ⟨c, d, {
    checked := hchecked
    tokenProgram := hspl
    priced := depositAmounts_eq_ok hd
    coin_pos := toNat_pos_of_ne_zero hpos.2.1
    pc_pos := toNat_pos_of_ne_zero hpos.2.2
    mint_pos := toNat_pos_of_ne_zero hpos.1
    run := ⟨w₁, w₂, w₃, x1, y1, calcPnlX, calcPnlY, lpAmount,
      ⟨tokenTransfer_spl hspl hcoin, tokenTransfer_spl hspl hpc, hmint⟩, hx1, hy1, hX, hY,
      hlpAmount, rfl⟩
  }, _, _, _, hd⟩

theorem depositBody_eq_ok {env : Env} {programId : Pubkey} {a : DepositAccounts}
    {deposit : DepositInstruction} {w w' : World}
    (h : depositBody env programId a deposit w = .ok w') :
    ∃ c d, DepositDone env programId a deposit c d w w' := by
  obtain ⟨c, d, hdone, -⟩ := depositBody_bounded h
  exact ⟨c, d, hdone⟩

/-! ## 3. Withdraw -/

/-- The settle instruction of a withdraw. -/
def withdrawSettleIx (a : WithdrawAccounts) : SettleFunds :=
  settleIx a.marketProgramInfo a.marketInfo a.ammOpenOrdersInfo a.ammAuthorityInfo
    a.marketCoinVaultInfo a.marketPcVaultInfo a.ammCoinVaultInfo a.ammPcVaultInfo
    a.marketVaultSigner a.tokenProgramInfo (some a.referrer)

/-- What a withdraw has checked when it computes the payouts. -/
structure WithdrawChecked (env : Env) (programId : Pubkey) (a : WithdrawAccounts)
    (withdraw : WithdrawInstruction) (w : World) (c : WithdrawContext) : Prop where
  owner : (w.accounts a.ammInfo.key).owner = programId
  stored : (w.accounts a.ammInfo.key).data = .amm c.amm
  storedTarget : (w.accounts a.ammTargetOrdersInfo.key).data = .targetOrders c.targetOrders
  tokenProgram : a.tokenProgramInfo.key = splTokenId
  coinVault : a.ammCoinVaultInfo.key = c.amm.coinVault
  pcVault : a.ammPcVaultInfo.key = c.amm.pcVault
  lpMint : a.ammLpMintInfo.key = c.amm.lpMint
  targetOrders : a.ammTargetOrdersInfo.key = c.amm.targetOrders
  dest_ne_coin : a.userDestCoinInfo.key ≠ c.amm.coinVault
  dest_ne_pc : a.userDestPcInfo.key ≠ c.amm.pcVault
  coinToken : (w.accounts c.amm.coinVault).data = .token c.ammCoinVault
  pcToken : (w.accounts c.amm.pcVault).data = .token c.ammPcVault
  sourceLp : ∃ t, (w.accounts a.userSourceLpInfo.key).data = .token t ∧ t.mint = c.amm.lpMint
  amount_lt : withdraw.amount.toNat < c.amm.lpAmount.toNat
  marketKeys : c.amm.orderbookOn = true →
    a.marketProgramInfo.key = c.amm.marketProgram ∧ a.ammOpenOrdersInfo.key = c.amm.openOrders
  totals : c.amm.orderbookOn = false →
    w.balance c.amm.pcVault =
        c.amm.stateData.needTakePnlPc.toNat + c.totalPcWithoutTakePnl.toNat ∧
      w.balance c.amm.coinVault =
        c.amm.stateData.needTakePnlCoin.toNat + c.totalCoinWithoutTakePnl.toNat

/-- The totals of a withdraw: the exchange calls of an order book pool come first. -/
theorem withdrawTotals_eq_ok {env : Env} {a : WithdrawAccounts} {amm : AmmInfo}
    {enableOrderbook : Bool} {coinVault pcVault destCoin destPc : TokenAccount} {w w' : World}
    {totals : U64 × U64}
    (h : withdrawTotals env a amm enableOrderbook coinVault pcVault destCoin destPc w =
      .ok (totals, w')) :
    Calls env (DexCall (withdrawSettleIx a)) w w' ∧
      (enableOrderbook = true →
        a.marketProgramInfo.key = amm.marketProgram ∧ a.ammOpenOrdersInfo.key = amm.openOrders) ∧
      (enableOrderbook = false → w' = w ∧
        Calculator.calcTotalWithoutTakePnlNoOrderbook pcVault.amount coinVault.amount amm =
          .ok totals) := by
  unfold withdrawTotals at h
  rcases Outcome.ite_eq_ok.mp h with ⟨hon, h⟩ | ⟨hoff, h⟩
  · simp only [↓check_bind_eq_ok, Outcome.bind_eq_ok] at h
    obtain ⟨-, hprogram, hopen, ⟨marketState, openOrders⟩, -, ⟨bids, asks⟩, -, w₁, hcancel, -, -,
      totals', -, hret⟩ := h
    cases hret
    exact ⟨cancelAmmOrdersAndSettle_calls hcancel, fun _ => ⟨hprogram, hopen⟩,
      fun hoff => absurd hon (by simp [hoff])⟩
  · simp only [Outcome.bind_eq_ok] at h
    obtain ⟨totals', htotals, hret⟩ := h
    cases hret
    exact ⟨.refl, fun hon => absurd hon hoff, fun _ => ⟨rfl, htotals⟩⟩

/-- The checks of a withdraw, and the totals that are computed behind them. -/
theorem withdrawPrologue_totals {env : Env} {programId : Pubkey} {a : WithdrawAccounts}
    {withdraw : WithdrawInstruction} {w w' : World} {c : WithdrawContext}
    (h : withdrawPrologue env programId a withdraw w = .ok (c, w')) :
    WithdrawChecked env programId a withdraw w c ∧
      ∃ destCoin destPc, withdrawTotals env a c.amm c.amm.orderbookOn c.ammCoinVault c.ammPcVault
          destCoin destPc { w with
            borrowed := a.ammTargetOrdersInfo.key :: a.ammInfo.key :: w.borrowed } =
        .ok ((c.totalPcWithoutTakePnl, c.totalCoinWithoutTakePnl), w') := by
  simp only [withdrawPrologue, ↓check_bind_eq_ok, Outcome.bind_eq_ok] at h
  obtain ⟨-, -, -, ⟨amm, w₁⟩, hload, ⟨t, w₂⟩, htarget, status, hstatus, -, authority, -, -, hspl,
    hcoinKey, hpcKey, htargetKey, hlp, coinVault, hcoin, pcVault, hpc, destCoin, -, destPc, -,
    mint, -, sourceLp, hsource, hmint, -, hamount, ⟨totals, w₃⟩, htotals, hret⟩ := h
  obtain ⟨howner, hdata, -, rfl⟩ := AmmInfo.loadMutChecked_eq_ok hload
  obtain ⟨-, htargetData, -, -, rfl⟩ := TargetOrders.loadMutChecked_eq_ok htarget
  obtain ⟨-, -, hcoinData⟩ := unpackTokenAccount_eq_ok hcoin
  obtain ⟨-, -, hpcData⟩ := unpackTokenAccount_eq_ok hpc
  obtain ⟨-, -, hsourceData⟩ := unpackTokenAccount_eq_ok hsource
  simp only [not_or, Classical.not_not] at hcoinKey hpcKey hamount
  simp only at hcoinData hpcData hsourceData hstatus htargetData htotals hlp hmint
  rw [hcoinKey.1] at hcoinData
  rw [hpcKey.1] at hpcData
  have hperm : status.orderbookPermission = amm.orderbookOn := by
    simp only [AmmInfo.orderbookOn, hstatus]
  rw [hperm] at htotals
  obtain ⟨-, hkeys, hnone⟩ := withdrawTotals_eq_ok htotals
  cases hret
  refine ⟨{
    owner := howner
    stored := hdata
    storedTarget := htargetData
    tokenProgram := hspl
    coinVault := hcoinKey.1
    pcVault := hpcKey.1
    lpMint := hlp
    targetOrders := htargetKey
    dest_ne_coin := hcoinKey.2
    dest_ne_pc := hpcKey.2
    coinToken := hcoinData
    pcToken := hpcData
    sourceLp := ⟨sourceLp, hsourceData, hmint.trans hlp⟩
    amount_lt := BitVec.lt_def.mp (BitVec.not_le.mp hamount.2)
    marketKeys := hkeys
    totals := ?_
  }, destCoin, destPc, htotals⟩
  intro hoff
  rw [balance_of_token hcoinData, balance_of_token hpcData]
  exact calcTotalNoOrderbook_eq_ok (hnone hoff).2

theorem withdrawPrologue_eq_ok {env : Env} {programId : Pubkey} {a : WithdrawAccounts}
    {withdraw : WithdrawInstruction} {w w' : World} {c : WithdrawContext}
    (h : withdrawPrologue env programId a withdraw w = .ok (c, w')) :
    WithdrawChecked env programId a withdraw w c ∧
      Calls env (DexCall (withdrawSettleIx a)) { w with
        borrowed := a.ammTargetOrdersInfo.key :: a.ammInfo.key :: w.borrowed } w' ∧
      (c.amm.orderbookOn = false → w' = { w with
        borrowed := a.ammTargetOrdersInfo.key :: a.ammInfo.key :: w.borrowed }) := by
  obtain ⟨hchecked, destCoin, destPc, htotals⟩ := withdrawPrologue_totals h
  obtain ⟨hcalls, -, hnone⟩ := withdrawTotals_eq_ok htotals
  exact ⟨hchecked, hcalls, fun hoff => (hnone hoff).1⟩

/-- The profit booking of a withdraw changes the statistics of the record alone, and not the
    pending profit. -/
theorem withdrawTakePnl_amm (c : WithdrawContext) :
    ∃ s, (withdrawTakePnl c).amm = { c.amm with stateData := s } ∧
      s.needTakePnlCoin = c.amm.stateData.needTakePnlCoin ∧
      s.needTakePnlPc = c.amm.stateData.needTakePnlPc := by
  unfold withdrawTakePnl
  split
  · exact ⟨_, rfl, rfl, rfl⟩
  · exact ⟨c.amm.stateData, rfl, rfl, rfl⟩

/-- The calls of a withdraw after its totals are known. -/
structure WithdrawCalls (env : Env) (a : WithdrawAccounts) (nonce : U8)
    (amount coinAmount pcAmount : U64) (w w₁ w₂ w₃ : World) : Prop where
  payCoin : w.invoke env (transferCpi a.tokenProgramInfo a.ammCoinVaultInfo a.userDestCoinInfo
    a.ammAuthorityInfo [[AUTHORITY_AMM, [nonce]]] coinAmount) = .ok w₁
  payPc : w₁.invoke env (transferCpi a.tokenProgramInfo a.ammPcVaultInfo a.userDestPcInfo
    a.ammAuthorityInfo [[AUTHORITY_AMM, [nonce]]] pcAmount) = .ok w₂
  burn : w₂.invoke env (burnCpi a.tokenProgramInfo a.userSourceLpInfo a.ammLpMintInfo
    a.sourceLpOwnerInfo amount) = .ok w₃

theorem WithdrawCalls.calls {env : Env} {a : WithdrawAccounts} {nonce : U8}
    {amount coinAmount pcAmount : U64} {w w₁ w₂ w₃ : World}
    (h : WithdrawCalls env a nonce amount coinAmount pcAmount w w₁ w₂ w₃) :
    Calls env AnyCall w w₃ :=
  ((Calls.single trivial h.payCoin).tail ⟨_, trivial, h.payPc⟩).tail ⟨_, trivial, h.burn⟩

/-- The pool record that a withdraw leaves. -/
def withdrawRecord (c : WithdrawContext) (lpAmount epoch : U64) : AmmInfo :=
  { (withdrawTakePnl c).amm with lpAmount := lpAmount, recentEpoch := epoch }

/-- A withdraw that went through: its payouts and its effect. -/
structure WithdrawDone (env : Env) (programId : Pubkey) (a : WithdrawAccounts)
    (withdraw : WithdrawInstruction) (c : WithdrawContext) (coinAmount pcAmount : U64)
    (w w' : World) : Prop where
  checked : WithdrawChecked env programId a withdraw w c
  coin : coinAmount.toNat = (withdrawTakePnl c).totalCoinWithoutTakePnl.toNat *
    withdraw.amount.toNat / c.amm.lpAmount.toNat
  pc : pcAmount.toNat = (withdrawTakePnl c).totalPcWithoutTakePnl.toNat *
    withdraw.amount.toNat / c.amm.lpAmount.toNat
  amount_pos : 0 < withdraw.amount.toNat
  coin_pos : 0 < coinAmount.toNat
  pc_pos : 0 < pcAmount.toNat
  coin_lt : coinAmount.toNat < c.ammCoinVault.amount.toNat
  pc_lt : pcAmount.toNat < c.ammPcVault.amount.toNat
  run : ∃ w₀ w₁ w₂ w₃ x1 y1 calcPnlX calcPnlY lpAmount,
    Calls env (DexCall (withdrawSettleIx a)) { w with
      borrowed := a.ammTargetOrdersInfo.key :: a.ammInfo.key :: w.borrowed } w₀ ∧
    (c.amm.orderbookOn = false → w₀ = { w with
      borrowed := a.ammTargetOrdersInfo.key :: a.ammInfo.key :: w.borrowed }) ∧
    WithdrawCalls env a c.amm.nonceU8 withdraw.amount coinAmount pcAmount w₀ w₁ w₂ w₃ ∧
    Calculator.normalizeDecimalV2 c.totalPcWithoutTakePnl c.amm.pcDecimals
      c.amm.sysDecimalValue = .ok x1 ∧
    Calculator.normalizeDecimalV2 c.totalCoinWithoutTakePnl c.amm.coinDecimals
      c.amm.sysDecimalValue = .ok y1 ∧
    withdrawBaseline x1 pcAmount c.amm.pcDecimals c.amm.sysDecimalValue
      (withdrawTakePnl c).deltaX = .ok calcPnlX ∧
    withdrawBaseline y1 coinAmount c.amm.coinDecimals c.amm.sysDecimalValue
      (withdrawTakePnl c).deltaY = .ok calcPnlY ∧
    c.amm.lpAmount.toNat = withdraw.amount.toNat + lpAmount.toNat ∧
    w' = (w₃.dropRefMut a.ammTargetOrdersInfo.key
        (.targetOrders { c.targetOrders with calcPnlX := calcPnlX, calcPnlY := calcPnlY })).dropRefMut
      a.ammInfo.key (.amm (withdrawRecord c lpAmount w₃.clock.epoch))

/-- The payouts of a withdraw that went through also passed its slippage test. -/
theorem withdrawBody_bounded {env : Env} {programId : Pubkey} {a : WithdrawAccounts}
    {withdraw : WithdrawInstruction} {w w' : World}
    (h : withdrawBody env programId a withdraw w = .ok w') :
    ∃ c coinAmount pcAmount, WithdrawDone env programId a withdraw c coinAmount pcAmount w w' ∧
      withdrawSlippage withdraw coinAmount pcAmount = .ok () := by
  simp only [withdrawBody, ↓check_bind_eq_ok, Outcome.bind_eq_ok, Outcome.unwrap_eq_ok,
    Checked.sub_eq_some, Outcome.pure_eq_ok] at h
  obtain ⟨⟨c, w₀⟩, hpro, x1, hx1, y1, hy1, ⟨coinAmount, pcAmount⟩, hamounts, hpos, hlt, ⟨⟩,
    hbounded, w₁, hcoin, w₂, hpc, w₃, hburn, lpAmount, hlpAmount, calcPnlX, hX, calcPnlY, hY,
    rfl⟩ := h
  obtain ⟨hchecked, hcalls, hnone⟩ := withdrawPrologue_eq_ok hpro
  obtain ⟨s, hs, -, -⟩ := withdrawTakePnl_amm c
  obtain ⟨-, hcoinAmount, hpcAmount⟩ := withdrawAmounts_eq_ok hamounts
  simp only [not_or] at hpos
  have hlp : (withdrawTakePnl c).amm.lpAmount = c.amm.lpAmount := by rw [hs]
  have hnonce : (withdrawTakePnl c).amm.nonceU8 = c.amm.nonceU8 := by
    rw [hs]
    rfl
  rw [hnonce] at hcoin hpc
  rw [hlp] at hcoinAmount hpcAmount hlpAmount
  refine ⟨c, coinAmount, pcAmount, {
    checked := hchecked
    coin := hcoinAmount
    pc := hpcAmount
    amount_pos := toNat_pos_of_ne_zero hpos.1
    coin_pos := toNat_pos_of_ne_zero hpos.2.1
    pc_pos := toNat_pos_of_ne_zero hpos.2.2
    coin_lt := BitVec.lt_def.mp hlt.1
    pc_lt := BitVec.lt_def.mp hlt.2
    run := ⟨w₀, w₁, w₂, w₃, x1, y1, calcPnlX, calcPnlY, lpAmount, hcalls, hnone,
      ⟨tokenTransferWithAuthority_spl hchecked.tokenProgram hcoin,
        tokenTransferWithAuthority_spl hchecked.tokenProgram hpc, tokenBurn_eq_ok hburn⟩,
      hx1, hy1, ?_, ?_, hlpAmount, rfl⟩
  }, hbounded⟩
  · rw [hs] at hX
    exact hX
  · rw [hs] at hY
    exact hY

theorem withdrawBody_eq_ok {env : Env} {programId : Pubkey} {a : WithdrawAccounts}
    {withdraw : WithdrawInstruction} {w w' : World}
    (h : withdrawBody env programId a withdraw w = .ok w') :
    ∃ c coinAmount pcAmount, WithdrawDone env programId a withdraw c coinAmount pcAmount w w' := by
  obtain ⟨c, coinAmount, pcAmount, hdone, -⟩ := withdrawBody_bounded h
  exact ⟨c, coinAmount, pcAmount, hdone⟩

end RaydiumAmm
