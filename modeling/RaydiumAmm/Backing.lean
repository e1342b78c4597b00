import RaydiumAmm.LiquidityEffect
import RaydiumAmm.Reference
import RaydiumAmm.Runs

/-!
# The backing of the LP shares

Over every run of deposits and withdraws on a pool without the order book, from the records that
`process_initialize2` builds, the reserve behind each LP share does not fall on either side. Each
successful operation is a `ShareValue.Step` of the reserves, as long as the profit baseline is
zero; and from a zero baseline both operations leave a zero baseline, because the normalized totals
are zero where `sys_decimal_value` is.
-/

namespace RaydiumAmm

open Rounding ShareValue

/-! ## 1. Prices -/

/-- Both sides of a deposit pay for the shares that it mints. -/
theorem DepositPriced.pays_for_mint {deposit : DepositInstruction} {lp pc coin : U64}
    {d : DepositAmounts} (h : DepositPriced deposit lp pc coin d)
    (hcoin : 0 < d.deductCoinAmount.toNat) (hpc : 0 < d.deductPcAmount.toNat) :
    d.mintLpAmount.toNat * coin.toNat ≤ lp.toNat * d.deductCoinAmount.toNat ∧
      d.mintLpAmount.toNat * pc.toNat ≤ lp.toNat * d.deductPcAmount.toNat := by
  by_cases hside : deposit.baseSide = 0
  · obtain ⟨hbase, hother, hmint⟩ := h.base_coin hside
    have hpos := h.coin_pos hside
    have hpaid : d.mintLpAmount.toNat * coin.toNat ≤ lp.toNat * d.deductCoinAmount.toNat := by
      rw [hmint]
      exact Nat.div_mul_le_self _ _
    refine ⟨hpaid, mint_other_side hpos hpaid ?_⟩
    rw [hbase, hother]
    exact le_softCeil_mul hpos (by rw [← hother]; omega)
  · obtain ⟨hbase, hother, hmint⟩ := h.base_pc hside
    have hpos := h.pc_pos hside
    have hpaid : d.mintLpAmount.toNat * pc.toNat ≤ lp.toNat * d.deductPcAmount.toNat := by
      rw [hmint]
      exact Nat.div_mul_le_self _ _
    refine ⟨mint_other_side hpos hpaid ?_, hpaid⟩
    rw [hbase, hother]
    exact le_softCeil_mul hpos (by rw [← hother]; omega)

/-! ## 2. The zero baseline -/

theorem normalizeDecimalV2_zero {val nativeDecimal : U64} {x : U128}
    (h : Calculator.normalizeDecimalV2 val nativeDecimal 0 = .ok x) : x = 0 := by
  obtain ⟨-, hx⟩ := normalizeDecimalV2_eq_ok.mp h
  apply BitVec.eq_of_toNat_eq
  rw [hx, show (0 : U64).toNat = 0 from rfl, Nat.mul_zero, Nat.zero_div]
  rfl

theorem depositBaseline_zero {amount decimals : U64} {x : U128}
    (h : depositBaseline 0 amount decimals 0 0 = .ok x) : x = 0 := by
  simp only [depositBaseline, Outcome.bind_eq_ok, Outcome.unwrap_eq_ok, Checked.add_eq_some,
    Checked.sub_eq_some] at h
  obtain ⟨normalized, hn, sum, hsum, hx⟩ := h
  obtain rfl := normalizeDecimalV2_zero hn
  have hzero : (0 : U128).toNat = 0 := rfl
  apply BitVec.eq_of_toNat_eq
  omega

theorem withdrawBaseline_zero {amount decimals : U64} {x : U128}
    (h : withdrawBaseline 0 amount decimals 0 0 = .ok x) : x = 0 := by
  simp only [withdrawBaseline, Outcome.bind_eq_ok, Outcome.unwrap_eq_ok, Checked.sub_eq_some] at h
  obtain ⟨normalized, hn, difference, hdiff, hx⟩ := h
  obtain rfl := normalizeDecimalV2_zero hn
  have hzero : (0 : U128).toNat = 0 := rfl
  apply BitVec.eq_of_toNat_eq
  omega

/-- A zero delta takes nothing from a total. -/
theorem satSub_zero_delta (a : U64) : Checked.satSub a ((0 : U128).setWidth 64) = a := by
  apply BitVec.eq_of_toNat_eq
  simp [Checked.toNat_satSub]

/-- A zero baseline books no profit on a withdraw. -/
theorem withdrawTakePnl_zero {c : WithdrawContext} (hx : c.targetOrders.calcPnlX = 0)
    (hy : c.targetOrders.calcPnlY = 0) :
    (withdrawTakePnl c).totalCoinWithoutTakePnl = c.totalCoinWithoutTakePnl ∧
      (withdrawTakePnl c).totalPcWithoutTakePnl = c.totalPcWithoutTakePnl ∧
      (withdrawTakePnl c).deltaX = 0 ∧ (withdrawTakePnl c).deltaY = 0 := by
  unfold withdrawTakePnl
  split
  · simp only [calcTakePnl, hx, hy, satSub_zero_delta, and_self]
  · exact ⟨rfl, rfl, rfl, rfl⟩

/-! ## 3. The invariant -/

/-- The records of a pool without the order book, with a zero baseline and no pending profit. -/
structure ZeroBaseline (ammKey coinVault pcVault targetOrders : Pubkey) (w : World)
    (amm : AmmInfo) : Prop where
  stored : (w.accounts ammKey).data = .amm amm
  target : ∃ t, (w.accounts targetOrders).data = .targetOrders t ∧ t.calcPnlX = 0 ∧ t.calcPnlY = 0
  coinVault : amm.coinVault = coinVault
  pcVault : amm.pcVault = pcVault
  targetOrders : amm.targetOrders = targetOrders
  orderbookOff : amm.orderbookOn = false
  sysDecimalValue : amm.sysDecimalValue = 0
  needTakePnlCoin : amm.stateData.needTakePnlCoin = 0
  needTakePnlPc : amm.stateData.needTakePnlPc = 0

/-- The records and the totals are read off the accounts alone. -/
theorem ZeroBaseline.of_accounts {ammKey coinVault pcVault targetOrders : Pubkey} {w w' : World}
    {amm : AmmInfo} (h : ZeroBaseline ammKey coinVault pcVault targetOrders w amm)
    (haccounts : w'.accounts = w.accounts) :
    ZeroBaseline ammKey coinVault pcVault targetOrders w' amm :=
  { h with
    stored := haccounts ▸ h.stored
    target := haccounts ▸ h.target }

/-- The reserves of a pool and its LP amount. -/
def sharePool (coinVault pcVault : Pubkey) (w : World) (amm : AmmInfo) : ShareValue.Pool :=
  ⟨w.balance coinVault, w.balance pcVault, amm.lpAmount.toNat⟩

section Steps

variable {env : Env} {programId coinVault pcVault targetOrders : Pubkey} {w w' : World}
  {amm : AmmInfo}

/-- The payments of a deposit reach the vaults, and its mint takes nothing from them. -/
theorem DepositCalls.vaults {a : DepositAccounts} {nonce : U8} {d : DepositAmounts}
    {w₁ w₂ w₃ : World} (hexact : ExactTokens env)
    (h : DepositCalls env a nonce d w w₁ w₂ w₃)
    (hcc : a.userSourceCoinInfo.key ≠ a.ammCoinVaultInfo.key)
    (hpc : a.userSourcePcInfo.key ≠ a.ammCoinVaultInfo.key)
    (hcp : a.userSourceCoinInfo.key ≠ a.ammPcVaultInfo.key)
    (hpp : a.userSourcePcInfo.key ≠ a.ammPcVaultInfo.key) :
    w.balance a.ammCoinVaultInfo.key + d.deductCoinAmount.toNat ≤
        w₃.balance a.ammCoinVaultInfo.key ∧
      w.balance a.ammPcVaultInfo.key + d.deductPcAmount.toNat ≤
        w₃.balance a.ammPcVaultInfo.key := by
  have h₁ := (hexact.moves h.payCoin).balance
  have h₂ := (hexact.moves h.payPc).balance
  have h₃ := hexact.mintTo (World.effect_of_invoke h.mint)
  have hc₁ := h₁ a.ammCoinVaultInfo.key
  have hc₂ := h₂ a.ammCoinVaultInfo.key
  have hc₃ := h₃ a.ammCoinVaultInfo.key
  have hp₁ := h₁ a.ammPcVaultInfo.key
  have hp₂ := h₂ a.ammPcVaultInfo.key
  have hp₃ := h₃ a.ammPcVaultInfo.key
  rw [if_pos rfl, if_neg hcc.symm] at hc₁
  rw [if_neg hpc.symm] at hc₂
  rw [if_neg hcp.symm] at hp₁
  rw [if_pos rfl, if_neg hpp.symm] at hp₂
  simp only [World.balance]
  constructor
  · split at hc₂ <;> split at hc₃ <;> omega
  · split at hp₁ <;> split at hp₃ <;> omega

/-- A deposit is a join of the reserves. -/
theorem DepositDone.step {a : DepositAccounts} {deposit : DepositInstruction}
    {c : DepositContext} {d : DepositAmounts} (hexact : ExactTokens env)
    (hz : ZeroBaseline a.ammInfo.key coinVault pcVault targetOrders w amm)
    (hsourceCoin : a.userSourceCoinInfo.key ≠ pcVault)
    (hsourcePc : a.userSourcePcInfo.key ≠ coinVault)
    (h : DepositDone env programId a deposit c d w w') :
    ∃ amm', ZeroBaseline a.ammInfo.key coinVault pcVault targetOrders w' amm' ∧
      ShareValue.Step (sharePool coinVault pcVault w amm) (sharePool coinVault pcVault w' amm') := by
  have hc := h.checked
  obtain rfl : amm = c.amm := AccountData.amm_unique hz.stored hc.stored
  obtain rfl := hz.coinVault
  obtain rfl := hz.pcVault
  obtain rfl := hz.targetOrders
  obtain ⟨t, ht, hx, hy⟩ := hz.target
  rw [← hc.targetOrders] at ht
  obtain rfl : t = c.targetOrders := AccountData.targetOrders_unique ht hc.storedTarget
  obtain ⟨w₁, w₂, w₃, x1, y1, calcPnlX, calcPnlY, lpAmount, hcalls, hx1, hy1, hX, hY, hlp, hw'⟩ :=
    h.run
  obtain ⟨hstored, htarget, hbalance⟩ :=
    World.dropRefMut_records (ne_of_target_of_amm ht hc.stored) hw'
  -- the baselines stay zero
  rw [hz.sysDecimalValue] at hx1 hy1 hX hY
  rw [normalizeDecimalV2_zero hx1, hx] at hX
  rw [normalizeDecimalV2_zero hy1, hy] at hY
  rw [hc.targetOrders] at htarget
  refine ⟨_, {
    stored := hstored
    target := ⟨_, htarget, depositBaseline_zero hX, depositBaseline_zero hY⟩
    coinVault := rfl
    pcVault := rfl
    targetOrders := rfl
    orderbookOff := hz.orderbookOff
    sysDecimalValue := hz.sysDecimalValue
    needTakePnlCoin := hz.needTakePnlCoin
    needTakePnlPc := hz.needTakePnlPc
  }, ?_⟩
  -- the totals are the balances, and the payments and the mint only add to them
  obtain ⟨htotalPc, htotalCoin⟩ := hc.totals hz.orderbookOff
  have hpaid := h.priced.pays_for_mint h.coin_pos h.pc_pos
  rw [hx, hy, satSub_zero_delta, satSub_zero_delta] at hpaid
  rw [hz.needTakePnlPc] at htotalPc
  rw [hz.needTakePnlCoin] at htotalCoin
  obtain ⟨vc, hcoinToken⟩ := hc.coinToken
  obtain ⟨vp, hpcToken⟩ := hc.pcToken
  have hcoin' := hbalance _ (ne_of_token_of_target hcoinToken ht)
    (ne_of_token_of_amm hcoinToken hc.stored)
  have hpc' := hbalance _ (ne_of_token_of_target hpcToken ht)
    (ne_of_token_of_amm hpcToken hc.stored)
  have hzero : (0 : U64).toNat = 0 := rfl
  have hadd := hcalls.vaults hexact (hc.coinVault ▸ hc.source_ne_coin)
    (hc.coinVault ▸ hsourcePc) (hc.pcVault ▸ hsourceCoin) (hc.pcVault ▸ hc.source_ne_pc)
  rw [hc.coinVault, hc.pcVault] at hadd
  rw [← show w.balance c.amm.coinVault = c.totalCoinWithoutTakePnl.toNat by omega,
    ← show w.balance c.amm.pcVault = c.totalPcWithoutTakePnl.toNat by omega] at hpaid
  simp only [sharePool, depositRecord, hlp]
  exact .join hpaid.1 hpaid.2 (hcoin' ▸ hadd.1) (hpc' ▸ hadd.2)

/-- The payouts of a withdraw leave the vaults, and the rest takes nothing from them. -/
theorem WithdrawCalls.vaults {a : WithdrawAccounts} {nonce : U8} {amount coin pc : U64}
    {w₁ w₂ w₃ : World} (hexact : ExactTokens env)
    (h : WithdrawCalls env a nonce amount coin pc w w₁ w₂ w₃)
    (hvaults : a.ammCoinVaultInfo.key ≠ a.ammPcVaultInfo.key)
    (hlpc : a.userSourceLpInfo.key ≠ a.ammCoinVaultInfo.key)
    (hlpp : a.userSourceLpInfo.key ≠ a.ammPcVaultInfo.key) :
    w.balance a.ammCoinVaultInfo.key ≤ w₃.balance a.ammCoinVaultInfo.key + coin.toNat ∧
      w.balance a.ammPcVaultInfo.key ≤ w₃.balance a.ammPcVaultInfo.key + pc.toNat := by
  have h₁ := (hexact.moves h.payCoin).balance
  have h₂ := (hexact.moves h.payPc).balance
  have h₃ := hexact.burn (World.effect_of_invoke h.burn)
  have hc₁ := h₁ a.ammCoinVaultInfo.key
  have hc₂ := h₂ a.ammCoinVaultInfo.key
  have hc₃ := h₃ a.ammCoinVaultInfo.key
  have hp₁ := h₁ a.ammPcVaultInfo.key
  have hp₂ := h₂ a.ammPcVaultInfo.key
  have hp₃ := h₃ a.ammPcVaultInfo.key
  rw [if_pos rfl] at hc₁
  rw [if_neg hvaults] at hc₂
  rw [if_neg hlpc.symm] at hc₃
  rw [if_neg hvaults.symm] at hp₁
  rw [if_pos rfl] at hp₂
  rw [if_neg hlpp.symm] at hp₃
  simp only [World.balance]
  constructor
  · split at hc₁ <;> split at hc₂ <;> omega
  · split at hp₁ <;> split at hp₂ <;> omega

/-- Without a baseline and without the order book a payout is at most the share of its vault. -/
theorem WithdrawDone.pays_shares {a : WithdrawAccounts} {withdraw : WithdrawInstruction}
    {c : WithdrawContext} {coinAmount pcAmount : U64}
    (hz : ZeroBaseline a.ammInfo.key coinVault pcVault targetOrders w c.amm)
    (hx : c.targetOrders.calcPnlX = 0) (hy : c.targetOrders.calcPnlY = 0)
    (h : WithdrawDone env programId a withdraw c coinAmount pcAmount w w') :
    (coinAmount.toNat ≤ w.balance c.amm.coinVault ∧ coinAmount.toNat * c.amm.lpAmount.toNat ≤
        w.balance c.amm.coinVault * withdraw.amount.toNat) ∧
      (pcAmount.toNat ≤ w.balance c.amm.pcVault ∧ pcAmount.toNat * c.amm.lpAmount.toNat ≤
        w.balance c.amm.pcVault * withdraw.amount.toNat) := by
  obtain ⟨hpnlCoin, hpnlPc, -, -⟩ := withdrawTakePnl_zero hx hy
  -- the totals are the balances
  obtain ⟨htotalPc, htotalCoin⟩ := h.checked.totals hz.orderbookOff
  rw [hz.needTakePnlPc] at htotalPc
  rw [hz.needTakePnlCoin] at htotalCoin
  have hzero : (0 : U64).toNat = 0 := rfl
  have hcoinTotal : c.totalCoinWithoutTakePnl.toNat = w.balance c.amm.coinVault := by omega
  have hpcTotal : c.totalPcWithoutTakePnl.toNat = w.balance c.amm.pcVault := by omega
  have hcoinAmount := h.coin
  have hpcAmount := h.pc
  rw [hpnlCoin, hcoinTotal] at hcoinAmount
  rw [hpnlPc, hpcTotal] at hpcAmount
  refine ⟨⟨?_, ?_⟩, ?_, ?_⟩
  · rw [balance_of_token h.checked.coinToken]
    exact Nat.le_of_lt h.coin_lt
  · rw [hcoinAmount]
    exact Nat.div_mul_le_self _ _
  · rw [balance_of_token h.checked.pcToken]
    exact Nat.le_of_lt h.pc_lt
  · rw [hpcAmount]
    exact Nat.div_mul_le_self _ _

/-- A withdraw is a leave of the reserves. -/
theorem WithdrawDone.step {a : WithdrawAccounts} {withdraw : WithdrawInstruction}
    {c : WithdrawContext} {coinAmount pcAmount : U64} (hexact : ExactTokens env)
    (hvaults : coinVault ≠ pcVault)
    (hz : ZeroBaseline a.ammInfo.key coinVault pcVault targetOrders w amm)
    (hlpCoin : a.userSourceLpInfo.key ≠ coinVault) (hlpPc : a.userSourceLpInfo.key ≠ pcVault)
    (h : WithdrawDone env programId a withdraw c coinAmount pcAmount w w') :
    ∃ amm', ZeroBaseline a.ammInfo.key coinVault pcVault targetOrders w' amm' ∧
      ShareValue.Step (sharePool coinVault pcVault w amm) (sharePool coinVault pcVault w' amm') := by
  have hc := h.checked
  obtain rfl : amm = c.amm := AccountData.amm_unique hz.stored hc.stored
  obtain rfl := hz.coinVault
  obtain rfl := hz.pcVault
  obtain rfl := hz.targetOrders
  obtain ⟨t, ht, hx, hy⟩ := hz.target
  rw [← hc.targetOrders] at ht
  obtain rfl : t = c.targetOrders := AccountData.targetOrders_unique ht hc.storedTarget
  obtain ⟨w₀, w₁, w₂, w₃, x1, y1, calcPnlX, calcPnlY, lpAmount, -, hnone, hcalls, hx1, hy1, hX, hY,
    hlp, hw'⟩ := h.run
  obtain ⟨hstored, htarget, hbalance⟩ :=
    World.dropRefMut_records (ne_of_target_of_amm ht hc.stored) hw'
  obtain ⟨-, -, hdeltaX, hdeltaY⟩ := withdrawTakePnl_zero hx hy
  obtain ⟨s, hs, hneedCoin, hneedPc⟩ := withdrawTakePnl_amm c
  -- the baselines stay zero
  rw [hz.sysDecimalValue] at hx1 hy1 hX hY
  rw [normalizeDecimalV2_zero hx1, hdeltaX] at hX
  rw [normalizeDecimalV2_zero hy1, hdeltaY] at hY
  rw [hc.targetOrders] at htarget
  refine ⟨_, {
    stored := hstored
    target := ⟨_, htarget, withdrawBaseline_zero hX, withdrawBaseline_zero hY⟩
    coinVault := by rw [withdrawRecord, hs]
    pcVault := by rw [withdrawRecord, hs]
    targetOrders := by rw [withdrawRecord, hs]
    orderbookOff := by
      rw [withdrawRecord, hs]
      exact hz.orderbookOff
    sysDecimalValue := by
      rw [withdrawRecord, hs]
      exact hz.sysDecimalValue
    needTakePnlCoin := by
      rw [withdrawRecord, hs]
      exact hneedCoin.trans hz.needTakePnlCoin
    needTakePnlPc := by
      rw [withdrawRecord, hs]
      exact hneedPc.trans hz.needTakePnlPc
  }, ?_⟩
  obtain ⟨⟨hcoinLe, hcoinShare⟩, hpcLe, hpcShare⟩ := h.pays_shares hz hx hy
  have hcoin' := hbalance _ (ne_of_token_of_target hc.coinToken ht)
    (ne_of_token_of_amm hc.coinToken hc.stored)
  have hpc' := hbalance _ (ne_of_token_of_target hc.pcToken ht)
    (ne_of_token_of_amm hc.pcToken hc.stored)
  have htake := hcalls.vaults hexact (by rw [hc.coinVault, hc.pcVault]; exact hvaults)
    (hc.coinVault ▸ hlpCoin) (hc.pcVault ▸ hlpPc)
  rw [hc.coinVault, hc.pcVault, hnone hz.orderbookOff] at htake
  have hlp' : lpAmount.toNat = c.amm.lpAmount.toNat - withdraw.amount.toNat := by omega
  simp only [sharePool, withdrawRecord, hlp', hcoin', hpc']
  refine .leave hc.amount_lt hcoinLe hpcLe hcoinShare hpcShare ?_ ?_
  · exact Nat.sub_le_of_le_add htake.1
  · exact Nat.sub_le_of_le_add htake.2

end Steps

/-! ## 4. Runs -/

/-- An operation of a liquidity provider, with its accounts bound. -/
inductive PoolOp where
  | deposit (a : DepositAccounts) (request : DepositInstruction)
  | withdraw (a : WithdrawAccounts) (request : WithdrawInstruction)

/-- The pool of an operation. -/
def PoolOp.ammKey : PoolOp → Pubkey
  | .deposit a _ => a.ammInfo.key
  | .withdraw a _ => a.ammInfo.key

/-- The accounts that an operation of a user takes tokens from, the vaults apart. -/
def PoolOp.userSources : PoolOp → List Pubkey
  | .deposit a _ => [a.userSourceCoinInfo.key, a.userSourcePcInfo.key]
  | .withdraw a _ => [a.userSourceLpInfo.key]

/-- The body of the handler. -/
def PoolOp.body (env : Env) (programId : Pubkey) : PoolOp → World → Result World
  | .deposit a request => depositBody env programId a request
  | .withdraw a request => withdrawBody env programId a request

/-- One operation on the pool `ammKey`, at a time of its own, by a user whose accounts are not the
    pool's vaults. One that fails or aborts leaves the world alone. -/
def PoolStep (env : Env) (programId ammKey coinVault pcVault : Pubkey) (w : World) (op : PoolOp)
    (w' : World) : Prop :=
  op.ammKey = ammKey ∧ (∀ k ∈ op.userSources, k ≠ coinVault ∧ k ≠ pcVault) ∧
    ∃ clock, op.body env programId { w with clock := clock, borrowed := [] } = .ok w' ∨
      (op.body env programId { w with clock := clock, borrowed := [] }).isOk = false ∧ w' = w

/-- What `calc_total_without_take_pnl_no_orderbook` computes for the pool. -/
def noOrderbookTotals (w : World) (amm : AmmInfo) : Result (U64 × U64) :=
  Calculator.calcTotalWithoutTakePnlNoOrderbook (BitVec.ofNat 64 (w.balance amm.pcVault))
    (BitVec.ofNat 64 (w.balance amm.coinVault)) amm

theorem balance_lt (w : World) (k : Pubkey) : w.balance k < 2 ^ 64 := by
  unfold World.balance Accounts.balance
  split
  · exact BitVec.isLt _
  · decide

/-- Without pending profit the totals are the balances. -/
theorem ZeroBaseline.totals {ammKey coinVault pcVault targetOrders : Pubkey} {w : World}
    {amm : AmmInfo} (h : ZeroBaseline ammKey coinVault pcVault targetOrders w amm) :
    ∃ pc coin, noOrderbookTotals w amm = .ok (pc, coin) ∧ coin.toNat = w.balance coinVault ∧
      pc.toNat = w.balance pcVault := by
  have hsub : ∀ a : U64, Checked.sub a 0 = some a := fun a =>
    Checked.sub_eq_some.mpr (Nat.zero_add _).symm
  refine ⟨BitVec.ofNat 64 (w.balance amm.pcVault), BitVec.ofNat 64 (w.balance amm.coinVault), ?_,
    ?_, ?_⟩
  · simp only [noOrderbookTotals, Calculator.calcTotalWithoutTakePnlNoOrderbook, h.needTakePnlPc,
      h.needTakePnlCoin, hsub]
    rfl
  · rw [BitVec.toNat_ofNat, h.coinVault, Nat.mod_eq_of_lt (balance_lt w _)]
  · rw [BitVec.toNat_ofNat, h.pcVault, Nat.mod_eq_of_lt (balance_lt w _)]

section Runs

variable {env : Env} {programId ammKey coinVault pcVault targetOrders : Pubkey} {w w' : World}

theorem PoolStep.backed {amm : AmmInfo} {op : PoolOp} {p : ShareValue.Pool}
    (hexact : ExactTokens env) (hvaults : coinVault ≠ pcVault)
    (hstep : PoolStep env programId ammKey coinVault pcVault w op w')
    (hz : ZeroBaseline ammKey coinVault pcVault targetOrders w amm)
    (hb : ShareValue.Backed p (sharePool coinVault pcVault w amm)) :
    ∃ amm', ZeroBaseline ammKey coinVault pcVault targetOrders w' amm' ∧
      ShareValue.Backed p (sharePool coinVault pcVault w' amm') := by
  obtain ⟨rfl, hapart, clock, hok | ⟨-, rfl⟩⟩ := hstep
  · have hz₀ : ZeroBaseline _ coinVault pcVault targetOrders
        { w with clock := clock, borrowed := [] } amm := hz.of_accounts rfl
    cases op with
    | deposit a deposit =>
      obtain ⟨c, d, hdone⟩ := depositBody_eq_ok hok
      simp only [PoolOp.userSources, List.mem_cons, List.not_mem_nil, or_false] at hapart
      obtain ⟨amm', hz', hstep⟩ := hdone.step hexact hz₀ (hapart _ (.inl rfl)).2
        (hapart _ (.inr rfl)).1
      exact ⟨amm', hz', hb.step hstep⟩
    | withdraw a withdraw =>
      obtain ⟨c, coinAmount, pcAmount, hdone⟩ := withdrawBody_eq_ok hok
      simp only [PoolOp.userSources, List.mem_singleton, forall_eq] at hapart
      obtain ⟨amm', hz', hstep⟩ := hdone.step hexact hvaults hz₀ hapart.1 hapart.2
      exact ⟨amm', hz', hb.step hstep⟩
  · exact ⟨amm, hz, hb⟩

/-- From the records that `process_initialize2` writes, in any status without the order book, and
    with LP in circulation: over every run of deposits and withdraws, on either side and failing
    ones included, the reserve behind each LP share does not fall on either side, and LP stays in
    circulation. -/
theorem lp_backing_never_falls (hexact : ExactTokens env) {cr : InitializeAccounts}
    {init : InitializeInstruction2} {lpAmount : U64} {status : AmmStatus} {t : TargetOrders}
    {amm : AmmInfo} {ops : List PoolOp}
    (hrecord : amm = { initialAmmInfo cr init lpAmount with status := status.intoU64 })
    (hstatus : status.orderbookPermission = false)
    (hamm : (w.accounts cr.ammInfo.key).data = .amm amm)
    (hcheck : blankTargetOrders.checkInit 0 0 cr.ammInfo.key = .ok t)
    (htarget : (w.accounts cr.ammTargetOrdersInfo.key).data = .targetOrders t)
    (hvaults : cr.ammCoinVaultInfo.key ≠ cr.ammPcVaultInfo.key) (hlp : 0 < lpAmount.toNat)
    (hrun : Runs.Run (PoolStep env programId cr.ammInfo.key cr.ammCoinVaultInfo.key
      cr.ammPcVaultInfo.key) w ops w') :
    ∃ amm' pc coin pc' coin', (w'.accounts cr.ammInfo.key).data = .amm amm' ∧
      noOrderbookTotals w amm = .ok (pc, coin) ∧ noOrderbookTotals w' amm' = .ok (pc', coin') ∧
      coin.toNat * amm'.lpAmount.toNat ≤ coin'.toNat * lpAmount.toNat ∧
      pc.toNat * amm'.lpAmount.toNat ≤ pc'.toNat * lpAmount.toNat ∧
      0 < amm'.lpAmount.toNat := by
  have hz : ZeroBaseline cr.ammInfo.key cr.ammCoinVaultInfo.key cr.ammPcVaultInfo.key
      cr.ammTargetOrdersInfo.key w amm := by
    simp only [TargetOrders.checkInit, Outcome.bind_eq_ok, check_eq_ok, Outcome.pure_eq_ok]
      at hcheck
    obtain ⟨-, -, rfl⟩ := hcheck
    subst hrecord
    exact {
      stored := hamm
      target := ⟨_, htarget, rfl, rfl⟩
      coinVault := rfl
      pcVault := rfl
      targetOrders := rfl
      orderbookOff := by simp only [AmmInfo.orderbookOn, AmmStatus.fromU64_intoU64, hstatus]
      sysDecimalValue := rfl
      needTakePnlCoin := rfl
      needTakePnlPc := rfl
    }
  have hlpAmount : amm.lpAmount = lpAmount := by
    subst hrecord
    rfl
  obtain ⟨amm', hz', hb⟩ := hrun.inv
    (I := fun w' => ∃ amm', ZeroBaseline cr.ammInfo.key cr.ammCoinVaultInfo.key
      cr.ammPcVaultInfo.key cr.ammTargetOrdersInfo.key w' amm' ∧
      ShareValue.Backed (sharePool cr.ammCoinVaultInfo.key cr.ammPcVaultInfo.key w amm)
        (sharePool cr.ammCoinVaultInfo.key cr.ammPcVaultInfo.key w' amm'))
    (by
      rintro _ _ _ hstep ⟨_, hz, hb⟩
      exact hstep.backed hexact hvaults hz hb)
    ⟨amm, hz, .refl (by rw [sharePool, hlpAmount]; exact hlp)⟩
  obtain ⟨pc, coin, htotals, hcoin, hpc⟩ := hz.totals
  obtain ⟨pc', coin', htotals', hcoin', hpc'⟩ := hz'.totals
  have hbx := hb.x
  have hby := hb.y
  simp only [ShareValue.NotDiluted, sharePool, hlpAmount, ← hcoin, ← hpc, ← hcoin', ← hpc']
    at hbx hby
  exact ⟨amm', pc, coin, pc', coin', hz'.stored, htotals, htotals', hbx, hby, hb.pos⟩

end Runs

open Reference in
/-- A deposit of 1000 coin and its pc, and a withdraw of 100 LP in the next epoch. -/
theorem lp_backing_never_falls_two_ops :
    ∃ (w' : World) (amm' : AmmInfo) (pc coin pc' coin' : U64),
      (w'.accounts (key 10)).data = .amm amm' ∧
      noOrderbookTotals swapWorld (pool .swapOnly 1000) = .ok (pc, coin) ∧
      noOrderbookTotals w' amm' = .ok (pc', coin') ∧
      coin.toNat * amm'.lpAmount.toNat ≤ coin'.toNat * 1000 ∧
      pc.toNat * amm'.lpAmount.toNat ≤ pc'.toNat * 1000 ∧ 0 < amm'.lpAmount.toNat := by
  have hrun₁ := eq_ok_result (r := depositBody env program depositAccounts ⟨1000, 10000, 0, none⟩
    swapWorld) (by decide)
  obtain ⟨w', hrun₂⟩ : ∃ w', withdrawBody env program withdrawAccounts ⟨100, none, none⟩
      { result (depositBody env program depositAccounts ⟨1000, 10000, 0, none⟩ swapWorld) with
        clock := ⟨60, 1⟩, borrowed := [] } = .ok w' := Outcome.exists_of_isOk (by decide)
  have hrun : Runs.Run (PoolStep env program (key 10) (key 13) (key 14)) swapWorld
      ([.deposit depositAccounts ⟨1000, 10000, 0, none⟩] ++
        [.withdraw withdrawAccounts ⟨100, none, none⟩]) w' :=
    .snoc (.single ⟨rfl, by decide, ⟨0, 0⟩, .inl hrun₁⟩) ⟨rfl, by decide, ⟨60, 1⟩, .inl hrun₂⟩
  have hamm : (swapWorld.accounts creation.ammInfo.key).data = .amm (pool .swapOnly 1000) := rfl
  have htarget : (swapWorld.accounts creation.ammTargetOrdersInfo.key).data =
      .targetOrders { blankTargetOrders with owner := key 10 } := rfl
  have hinitial : pool .swapOnly 1000 = { initialAmmInfo creation ⟨0, 0, 0, 0⟩ 1000 with
      status := AmmStatus.swapOnly.intoU64 } := rfl
  obtain ⟨amm', pc, coin, pc', coin', h⟩ := lp_backing_never_falls exactTokens hinitial rfl hamm rfl
    htarget (by decide) (by decide) hrun
  exact ⟨w', amm', pc, coin, pc', coin', h⟩

end RaydiumAmm
