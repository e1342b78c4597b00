import RaydiumAmm.PoolMachine
import RaydiumAmm.Backing
import RaydiumAmm.Product
import RaydiumAmm.Reference

/-!
# The handlers compute the machine

On a pool without the order book and with a zero baseline, the bodies of the four handlers of users
compute `PoolRequest.next`.

1. One lemma for each handler: what goes through is accepted by the machine, which then has the new
   numbers.
2. `pool_runs_as_machine`: over a run the numbers are those of the machine.
3. `share_worth_never_falls`: what the machine keeps, the pool keeps.
-/

namespace RaydiumAmm

open ConstantProduct Rounding ShareValue

/-! ## 1. The handlers -/

/-- The three numbers of a pool that starts from the records of its creation. -/
def Represents (ammKey coinVault pcVault targetOrders : Pubkey) (fees : Fees) (w : World)
    (p : ShareValue.Pool) : Prop :=
  ∃ amm, ZeroBaseline ammKey coinVault pcVault targetOrders w amm ∧ amm.fees = fees ∧
    p = sharePool coinVault pcVault w amm

section Deposit

variable {env : Env} {programId coinVault pcVault targetOrders : Pubkey} {w w' : World}

theorem depositAmounts_accepts {deposit : DepositInstruction} {lp pc coin : U64}
    {d : DepositAmounts} (h : depositAmounts deposit lp pc coin = .ok d) :
    deposit.Accepts d.deductCoinAmount.toNat d.deductPcAmount.toNat := by
  have hmin : ∀ amount : U64, checkOtherAmountMin amount deposit.otherAmountMin = .ok () →
      ∀ m ∈ deposit.otherAmountMin, m.toNat ≤ amount.toNat := by
    intro amount hcheck m hm
    rw [Option.mem_def] at hm
    rw [hm, checkOtherAmountMin, check_eq_ok, BitVec.not_lt] at hcheck
    exact BitVec.le_def.mp hcheck
  unfold depositAmounts at h
  rcases Outcome.ite_eq_ok.mp h with ⟨hside, h⟩ | ⟨hside, h⟩
  · simp only [Outcome.bind_eq_ok, check_eq_ok, Outcome.pure_eq_ok] at h
    obtain ⟨-, -, deductPc, -, ⟨⟩, hmax, ⟨⟩, hother, -, -, mint, -, rfl⟩ := h
    refine ⟨le_refl _, BitVec.le_def.mp (BitVec.not_lt.mp hmax), ?_⟩
    rw [if_pos hside]
    exact hmin _ hother
  · simp only [Outcome.bind_eq_ok, check_eq_ok, Outcome.pure_eq_ok] at h
    obtain ⟨-, -, deductCoin, -, ⟨⟩, hmax, ⟨⟩, hother, -, -, mint, -, rfl⟩ := h
    refine ⟨BitVec.le_def.mp (BitVec.not_lt.mp hmax), le_refl _, ?_⟩
    rw [if_neg hside]
    exact hmin _ hother

/-- The price of a deposit in natural numbers. -/
theorem DepositPriced.price_eq {deposit : DepositInstruction} {lp pc coin : U64}
    {d : DepositAmounts} (h : DepositPriced deposit lp pc coin d) :
    deposit.price ⟨coin.toNat, pc.toNat, lp.toNat⟩ =
      (d.deductCoinAmount.toNat, d.deductPcAmount.toNat, d.mintLpAmount.toNat) := by
  unfold DepositInstruction.price
  by_cases hside : deposit.baseSide = 0
  · obtain ⟨hbase, hother, hmint⟩ := h.base_coin hside
    rw [if_pos hside, hmint, hother, hbase]
  · obtain ⟨hbase, hother, hmint⟩ := h.base_pc hside
    rw [if_neg hside, hmint, hother, hbase]

/-- The payments of a deposit are all that changes the vaults, where no account of the user is one
    of them. -/
theorem DepositCalls.vaults_exact {a : DepositAccounts} {nonce : U8} {d : DepositAmounts}
    {w₁ w₂ w₃ : World} (hexact : ExactTokens env) (h : DepositCalls env a nonce d w w₁ w₂ w₃)
    (hvaults : a.ammCoinVaultInfo.key ≠ a.ammPcVaultInfo.key)
    (hapart : ∀ k ∈ [a.userSourceCoinInfo.key, a.userSourcePcInfo.key, a.userDestLpInfo.key],
      k ≠ a.ammCoinVaultInfo.key ∧ k ≠ a.ammPcVaultInfo.key) :
    w₃.balance a.ammCoinVaultInfo.key =
        w.balance a.ammCoinVaultInfo.key + d.deductCoinAmount.toNat ∧
      w₃.balance a.ammPcVaultInfo.key =
        w.balance a.ammPcVaultInfo.key + d.deductPcAmount.toNat := by
  have h₁ := (hexact.moves h.payCoin).balance
  have h₂ := (hexact.moves h.payPc).balance
  have h₃ := hexact.mintTo (World.effect_of_invoke h.mint)
  obtain ⟨hsc, hsp⟩ := hapart a.userSourceCoinInfo.key (by simp)
  obtain ⟨hpc, hpp⟩ := hapart a.userSourcePcInfo.key (by simp)
  obtain ⟨hlc, hlp⟩ := hapart a.userDestLpInfo.key (by simp)
  have hc₁ := h₁ a.ammCoinVaultInfo.key
  have hc₂ := h₂ a.ammCoinVaultInfo.key
  have hc₃ := h₃ a.ammCoinVaultInfo.key
  have hp₁ := h₁ a.ammPcVaultInfo.key
  have hp₂ := h₂ a.ammPcVaultInfo.key
  have hp₃ := h₃ a.ammPcVaultInfo.key
  rw [if_pos rfl, if_neg hsc.symm] at hc₁
  rw [if_neg hvaults, if_neg hpc.symm] at hc₂
  rw [if_neg hlc.symm] at hc₃
  rw [if_neg hvaults.symm, if_neg hsp.symm] at hp₁
  rw [if_pos rfl, if_neg hpp.symm] at hp₂
  rw [if_neg hlp.symm] at hp₃
  simp only [World.balance]
  exact ⟨by omega, by omega⟩

/-- The record and the vaults that a deposit leaves. -/
theorem DepositDone.numbers {a : DepositAccounts} {deposit : DepositInstruction}
    {c : DepositContext} {d : DepositAmounts} (hexact : ExactTokens env)
    (hvaults : c.amm.coinVault ≠ c.amm.pcVault)
    (hapart : ∀ k ∈ [a.userSourceCoinInfo.key, a.userSourcePcInfo.key, a.userDestLpInfo.key],
      k ≠ c.amm.coinVault ∧ k ≠ c.amm.pcVault)
    (h : DepositDone env programId a deposit c d w w') :
    ∃ lpAmount epoch, (w'.accounts a.ammInfo.key).data = .amm (depositRecord c lpAmount epoch) ∧
      lpAmount.toNat = c.amm.lpAmount.toNat + d.mintLpAmount.toNat ∧
      w'.balance c.amm.coinVault = w.balance c.amm.coinVault + d.deductCoinAmount.toNat ∧
      w'.balance c.amm.pcVault = w.balance c.amm.pcVault + d.deductPcAmount.toNat := by
  have hc := h.checked
  obtain ⟨w₁, w₂, w₃, x1, y1, calcPnlX, calcPnlY, lpAmount, hcalls, -, -, -, -, hlp, hw'⟩ := h.run
  obtain ⟨hstored, -, hbalance⟩ :=
    World.dropRefMut_records (ne_of_target_of_amm hc.storedTarget hc.stored) hw'
  obtain ⟨vc, hcoinToken⟩ := hc.coinToken
  obtain ⟨vp, hpcToken⟩ := hc.pcToken
  have hexactly := hcalls.vaults_exact hexact (by rw [hc.coinVault, hc.pcVault]; exact hvaults)
    (by rw [hc.coinVault, hc.pcVault]; exact hapart)
  rw [hc.coinVault, hc.pcVault] at hexactly
  refine ⟨lpAmount, w₃.clock.epoch, hstored, hlp, ?_, ?_⟩
  · rw [hbalance _ (ne_of_token_of_target hcoinToken hc.storedTarget)
      (ne_of_token_of_amm hcoinToken hc.stored)]
    exact hexactly.1
  · rw [hbalance _ (ne_of_token_of_target hpcToken hc.storedTarget)
      (ne_of_token_of_amm hpcToken hc.stored)]
    exact hexactly.2

/-- A deposit is accepted by the machine, which then has the new numbers. -/
theorem DepositDone.refines {a : DepositAccounts} {deposit : DepositInstruction}
    {c : DepositContext} {d : DepositAmounts} {fees : Fees} {p : ShareValue.Pool}
    (hexact : ExactTokens env) (hvaults : coinVault ≠ pcVault)
    (hrep : Represents a.ammInfo.key coinVault pcVault targetOrders fees w p)
    (hapart : ∀ k ∈ [a.userSourceCoinInfo.key, a.userSourcePcInfo.key, a.userDestLpInfo.key],
      k ≠ coinVault ∧ k ≠ pcVault)
    (h : DepositDone env programId a deposit c d w w')
    (haccepts : deposit.Accepts d.deductCoinAmount.toNat d.deductPcAmount.toNat) :
    ∃ p', (PoolRequest.deposit deposit).next fees p = some p' ∧
      Represents a.ammInfo.key coinVault pcVault targetOrders fees w' p' := by
  obtain ⟨amm, hz, rfl, rfl⟩ := hrep
  obtain ⟨amm', hz', -⟩ := h.step hexact hz (hapart _ (by simp)).2 (hapart _ (by simp)).1
  have hc := h.checked
  obtain rfl : amm = c.amm := AccountData.amm_unique hz.stored hc.stored
  obtain rfl := hz.coinVault
  obtain rfl := hz.pcVault
  obtain rfl := hz.targetOrders
  obtain ⟨lpAmount, epoch, hstored, hlp, hcoin, hpc⟩ := h.numbers hexact hvaults hapart
  obtain rfl : amm' = depositRecord c lpAmount epoch := AccountData.amm_unique hz'.stored hstored
  refine ⟨_, ?_, _, hz', rfl, rfl⟩
  -- with a zero baseline the totals that are priced are the balances
  obtain ⟨t, ht, hx, hy⟩ := hz.target
  rw [← hc.targetOrders] at ht
  obtain rfl : t = c.targetOrders := AccountData.targetOrders_unique ht hc.storedTarget
  obtain ⟨htotalPc, htotalCoin⟩ := hc.totals hz.orderbookOff
  have hprice := h.priced.price_eq
  rw [hx, hy, satSub_zero_delta, satSub_zero_delta] at hprice
  have hzero : (0 : U64).toNat = 0 := rfl
  rw [hz.needTakePnlPc, hzero, Nat.zero_add] at htotalPc
  rw [hz.needTakePnlCoin, hzero, Nat.zero_add] at htotalCoin
  rw [← htotalPc, ← htotalCoin] at hprice
  simp only [PoolRequest.next, sharePool, hprice]
  rw [if_pos ⟨haccepts, h.coin_pos, h.pc_pos, h.mint_pos⟩, hcoin, hpc, depositRecord, hlp]

end Deposit

section Withdraw

variable {env : Env} {programId coinVault pcVault targetOrders : Pubkey} {w w' : World}

/-- The payouts of a withdraw are all that changes the vaults, where no account of the user is one
    of them. -/
theorem WithdrawCalls.vaults_exact {a : WithdrawAccounts} {nonce : U8} {amount coin pc : U64}
    {w₁ w₂ w₃ : World} (hexact : ExactTokens env)
    (h : WithdrawCalls env a nonce amount coin pc w w₁ w₂ w₃)
    (hvaults : a.ammCoinVaultInfo.key ≠ a.ammPcVaultInfo.key)
    (hapart : ∀ k ∈ [a.userSourceLpInfo.key, a.userDestCoinInfo.key, a.userDestPcInfo.key],
      k ≠ a.ammCoinVaultInfo.key ∧ k ≠ a.ammPcVaultInfo.key) :
    w₃.balance a.ammCoinVaultInfo.key = w.balance a.ammCoinVaultInfo.key - coin.toNat ∧
      w₃.balance a.ammPcVaultInfo.key = w.balance a.ammPcVaultInfo.key - pc.toNat := by
  have h₁ := (hexact.moves h.payCoin).balance
  have h₂ := (hexact.moves h.payPc).balance
  have h₃ := hexact.burn (World.effect_of_invoke h.burn)
  obtain ⟨hlc, hlp⟩ := hapart a.userSourceLpInfo.key (by simp)
  obtain ⟨hdc, hdp⟩ := hapart a.userDestCoinInfo.key (by simp)
  obtain ⟨hpc, hpp⟩ := hapart a.userDestPcInfo.key (by simp)
  have hc₁ := h₁ a.ammCoinVaultInfo.key
  have hc₂ := h₂ a.ammCoinVaultInfo.key
  have hc₃ := h₃ a.ammCoinVaultInfo.key
  have hp₁ := h₁ a.ammPcVaultInfo.key
  have hp₂ := h₂ a.ammPcVaultInfo.key
  have hp₃ := h₃ a.ammPcVaultInfo.key
  rw [if_neg hdc.symm, if_pos rfl] at hc₁
  rw [if_neg hpc.symm, if_neg hvaults] at hc₂
  rw [if_neg hlc.symm] at hc₃
  rw [if_neg hdp.symm, if_neg hvaults.symm] at hp₁
  rw [if_neg hpp.symm, if_pos rfl] at hp₂
  rw [if_neg hlp.symm] at hp₃
  simp only [World.balance]
  exact ⟨by omega, by omega⟩

/-- The record and the vaults that a withdraw without the order book leaves. -/
theorem WithdrawDone.numbers {a : WithdrawAccounts} {withdraw : WithdrawInstruction}
    {c : WithdrawContext} {coinAmount pcAmount : U64} (hexact : ExactTokens env)
    (hoff : c.amm.orderbookOn = false) (hvaults : c.amm.coinVault ≠ c.amm.pcVault)
    (hapart : ∀ k ∈ [a.userSourceLpInfo.key, a.userDestCoinInfo.key, a.userDestPcInfo.key],
      k ≠ c.amm.coinVault ∧ k ≠ c.amm.pcVault)
    (h : WithdrawDone env programId a withdraw c coinAmount pcAmount w w') :
    ∃ lpAmount epoch, (w'.accounts a.ammInfo.key).data = .amm (withdrawRecord c lpAmount epoch) ∧
      lpAmount.toNat = c.amm.lpAmount.toNat - withdraw.amount.toNat ∧
      w'.balance c.amm.coinVault = w.balance c.amm.coinVault - coinAmount.toNat ∧
      w'.balance c.amm.pcVault = w.balance c.amm.pcVault - pcAmount.toNat := by
  have hc := h.checked
  obtain ⟨w₀, w₁, w₂, w₃, x1, y1, calcPnlX, calcPnlY, lpAmount, -, hnone, hcalls, -, -, -, -, hlp,
    hw'⟩ := h.run
  obtain ⟨hstored, -, hbalance⟩ :=
    World.dropRefMut_records (ne_of_target_of_amm hc.storedTarget hc.stored) hw'
  have hexactly := hcalls.vaults_exact hexact (by rw [hc.coinVault, hc.pcVault]; exact hvaults)
    (by rw [hc.coinVault, hc.pcVault]; exact hapart)
  rw [hc.coinVault, hc.pcVault, hnone hoff] at hexactly
  refine ⟨lpAmount, w₃.clock.epoch, hstored, ?_, ?_, ?_⟩
  · exact (Nat.sub_eq_of_eq_add' hlp).symm
  · rw [hbalance _ (ne_of_token_of_target hc.coinToken hc.storedTarget)
      (ne_of_token_of_amm hc.coinToken hc.stored)]
    exact hexactly.1
  · rw [hbalance _ (ne_of_token_of_target hc.pcToken hc.storedTarget)
      (ne_of_token_of_amm hc.pcToken hc.stored)]
    exact hexactly.2

/-- A withdraw is accepted by the machine, which then has the new numbers. -/
theorem WithdrawDone.refines {a : WithdrawAccounts} {withdraw : WithdrawInstruction}
    {c : WithdrawContext} {coinAmount pcAmount : U64} {fees : Fees} {p : ShareValue.Pool}
    (hexact : ExactTokens env) (hvaults : coinVault ≠ pcVault)
    (hrep : Represents a.ammInfo.key coinVault pcVault targetOrders fees w p)
    (hapart : ∀ k ∈ [a.userSourceLpInfo.key, a.userDestCoinInfo.key, a.userDestPcInfo.key],
      k ≠ coinVault ∧ k ≠ pcVault)
    (h : WithdrawDone env programId a withdraw c coinAmount pcAmount w w')
    (haccepts : withdraw.Accepts coinAmount.toNat pcAmount.toNat) :
    ∃ p', (PoolRequest.withdraw withdraw).next fees p = some p' ∧
      Represents a.ammInfo.key coinVault pcVault targetOrders fees w' p' := by
  obtain ⟨amm, hz, rfl, rfl⟩ := hrep
  obtain ⟨amm', hz', -⟩ :=
    h.step hexact hvaults hz (hapart _ (by simp)).1 (hapart _ (by simp)).2
  have hc := h.checked
  obtain rfl : amm = c.amm := AccountData.amm_unique hz.stored hc.stored
  obtain rfl := hz.coinVault
  obtain rfl := hz.pcVault
  obtain rfl := hz.targetOrders
  obtain ⟨lpAmount, epoch, hstored, hlp, hcoin, hpc⟩ :=
    h.numbers hexact hz.orderbookOff hvaults hapart
  obtain rfl : amm' = withdrawRecord c lpAmount epoch := AccountData.amm_unique hz'.stored hstored
  obtain ⟨s, hs, -, -⟩ := withdrawTakePnl_amm c
  refine ⟨_, ?_, _, hz', by rw [withdrawRecord, hs], rfl⟩
  -- with a zero baseline the totals that are shared out are the balances
  obtain ⟨t, ht, hx, hy⟩ := hz.target
  rw [← hc.targetOrders] at ht
  obtain rfl : t = c.targetOrders := AccountData.targetOrders_unique ht hc.storedTarget
  obtain ⟨htotalPc, htotalCoin⟩ := hc.totals hz.orderbookOff
  obtain ⟨hbookedCoin, hbookedPc, -, -⟩ := withdrawTakePnl_zero hx hy
  have hzero : (0 : U64).toNat = 0 := rfl
  rw [hz.needTakePnlPc, hzero, Nat.zero_add] at htotalPc
  rw [hz.needTakePnlCoin, hzero, Nat.zero_add] at htotalCoin
  have hcoinAmount := h.coin
  have hpcAmount := h.pc
  rw [hbookedCoin, ← htotalCoin] at hcoinAmount
  rw [hbookedPc, ← htotalPc] at hpcAmount
  simp only [PoolRequest.next, sharePool, ← hcoinAmount, ← hpcAmount]
  rw [if_pos ⟨hc.amount_lt, haccepts, h.coin_pos, h.pc_pos⟩, hcoin, hpc, withdrawRecord, hlp]

end Withdraw

section Swap

variable {env : Env} {programId coinVault pcVault targetOrders : Pubkey} {w w' : World}
  {a : SwapAccounts} {amm : AmmInfo} {c : SwapContext} {fees : Fees} {p : ShareValue.Pool}

/-- The totals that a swap prices against are the two reserves. -/
theorem SwapChecked.reserves
    (hz : ZeroBaseline a.ammInfo.key coinVault pcVault targetOrders w amm)
    (h : SwapChecked env programId a w amm c) :
    c.totalCoinWithoutTakePnl.toNat = w.balance coinVault ∧
      c.totalPcWithoutTakePnl.toNat = w.balance pcVault := by
  have hcoin := h.coinTotal
  have hpc := h.pcTotal
  have hzero : (0 : U64).toNat = 0 := rfl
  rw [RaydiumAmm.coinTotal, inSerum, if_neg (by simp [hz.orderbookOff]), hz.needTakePnlCoin,
    hz.coinVault, hzero] at hcoin
  rw [RaydiumAmm.pcTotal, inSerum, if_neg (by simp [hz.orderbookOff]), hz.needTakePnlPc,
    hz.pcVault, hzero] at hpc
  exact ⟨by omega, by omega⟩

/-- The account of the target orders is none of those that a swap writes. -/
theorem SwapChecked.target_frame {paid out : U64} {w₁ w₂ w₃ : World} {k : Pubkey}
    {t : TargetOrders} (hc : SwapChecked env programId a w amm c)
    (hk : (w.accounts k).data = .targetOrders t) (hw₁ : w₁.accounts = w.accounts)
    (hin : Moves a.userSourceInfo.key (c.swapDirection.inVaultInfo a).key paid.toNat
      w₁.accounts w₂.accounts)
    (hout : Moves (c.swapDirection.outVaultInfo a).key a.userDestinationInfo.key out.toNat
      w₂.accounts w₃.accounts) (data : AccountData) :
    ((w₃.accounts.setData a.ammInfo.key data) k).data = .targetOrders t := by
  have hcoin := (ne_of_token_of_target hc.coinToken hk).symm
  have hpc := (ne_of_token_of_target hc.pcToken hk).symm
  have hsource := (ne_of_token_of_target hc.sourceToken hk).symm
  have hdest := (ne_of_token_of_target hc.destinationToken hk).symm
  have hvault : k ≠ (c.swapDirection.inVaultInfo a).key ∧
      k ≠ (c.swapDirection.outVaultInfo a).key := by
    rw [hc.inVaultInfo_key, hc.outVaultInfo_key]
    cases c.swapDirection with
    | coin2Pc => exact ⟨hcoin, hpc⟩
    | pc2Coin => exact ⟨hpc, hcoin⟩
  simp only [Accounts.setData, if_neg (ne_of_target_of_amm hk hc.stored)]
  rw [hout.other k hvault.2 hdest, hin.other k hsource hvault.1, hw₁]
  exact hk

/-- A swap moves the numbers by its two payments. -/
theorem SwapDone.represents {coinVaultInfo : AccountInfo} {paid counted out : U64}
    (hexact : ExactTokens env) (hvaults : coinVault ≠ pcVault)
    (hz : ZeroBaseline a.ammInfo.key coinVault pcVault targetOrders w amm)
    (h : SwapDone env programId a coinVaultInfo amm c paid counted out w w') :
    Represents a.ammInfo.key coinVault pcVault targetOrders amm.fees w'
      (c.swapDirection.exchange (sharePool coinVault pcVault w amm) paid.toNat out.toNat) := by
  have hc := h.checked
  obtain ⟨w₁, w₂, w₃, s', hcalls, hcounted, hw'⟩ := h.run
  have hin := hexact.moves hcalls.payIn
  have hout := hexact.moves hcalls.payOut
  have hw₁ := hcalls.no_dex (hc.enableOrderbook.trans hz.orderbookOff)
  obtain rfl := hz.coinVault
  obtain rfl := hz.pcVault
  obtain ⟨status, hrecord⟩ := hc.record
  have hon := hc.same.orderbookOn
  obtain ⟨hcoin₃, hpc₃⟩ := hc.vaults_after hvaults hin hout
  obtain ⟨hcoin', hpc'⟩ := hc.vaults_of_write hw'
  obtain ⟨t, ht, hx, hy⟩ := hz.target
  rw [hrecord] at hw' hon
  refine ⟨{ amm with status := status, stateData := s', recentEpoch := w₃.clock.epoch }, {
    stored := by rw [hw']; simp [Accounts.setData]
    target := ⟨t, ?_, hx, hy⟩
    coinVault := rfl
    pcVault := rfl
    targetOrders := hz.targetOrders
    orderbookOff := hon.trans hz.orderbookOff
    sysDecimalValue := hz.sysDecimalValue
    needTakePnlCoin := hcounted.needTakePnlCoin.trans hz.needTakePnlCoin
    needTakePnlPc := hcounted.needTakePnlPc.trans hz.needTakePnlPc
  }, rfl, ?_⟩
  · rw [hw']
    exact hc.target_frame ht (by rw [hw₁]) hin hout _
  · rw [hw₁] at hcoin₃ hpc₃
    rw [sharePool, sharePool, hcoin', hpc']
    cases hdir : c.swapDirection with
    | coin2Pc =>
      simp only [hdir, SwapDirection.coinAfter, SwapDirection.pcAfter, World.balance] at hcoin₃ hpc₃
      simp only [SwapDirection.exchange, World.balance, ShareValue.Pool.mk.injEq, and_true]
      exact ⟨by omega, by omega⟩
    | pc2Coin =>
      simp only [hdir, SwapDirection.coinAfter, SwapDirection.pcAfter, World.balance] at hcoin₃ hpc₃
      simp only [SwapDirection.exchange, World.balance, ShareValue.Pool.mk.injEq, and_true]
      exact ⟨by omega, by omega⟩

/-- The output of the machine is the quoted one. -/
theorem BaseInQuoted.output_eq {swap : SwapInstructionBaseIn} {q : SwapBaseInQuote}
    {dir : SwapDirection}
    (h : BaseInQuoted fees swap.amountIn.toNat (dir.reserveIn p.x p.y) (dir.reserveOut p.x p.y) q) :
    q.swapAmountOut.toNat = swap.output fees dir p := by
  have hnet : q.swapInAfterDeductFee.toNat =
      swap.amountIn.toNat - fees.rounded swap.amountIn.toNat := by
    rw [Fees.rounded, ← h.fee]
    exact (Nat.sub_eq_of_eq_add' h.net).symm
  rw [h.out, hnet]
  rfl

/-- An exact-in swap is accepted by the machine, which then has the new numbers. -/
theorem BaseInDone.refines {swap : SwapInstructionBaseIn} {q : SwapBaseInQuote}
    (hexact : ExactTokens env) (hvaults : coinVault ≠ pcVault)
    (hrep : Represents a.ammInfo.key coinVault pcVault targetOrders fees w p)
    (h : BaseInDone env programId a swap amm c q w w') :
    ∃ p', (PoolRequest.swapBaseIn c.swapDirection swap).next fees p = some p' ∧
      Represents a.ammInfo.key coinVault pcVault targetOrders fees w' p' := by
  obtain ⟨amm₀, hz, rfl, rfl⟩ := hrep
  obtain rfl : amm₀ = amm := AccountData.amm_unique hz.stored h.done.checked.stored
  refine ⟨_, ?_, h.done.represents hexact hvaults hz⟩
  obtain ⟨hcoin, hpc⟩ := h.done.checked.reserves hz
  have hquoted := h.quoted
  have hlt := h.out_lt
  rw [hcoin, hpc] at hquoted hlt
  have hout : swap.output amm₀.fees c.swapDirection (sharePool coinVault pcVault w amm₀) =
      q.swapAmountOut.toNat := hquoted.output_eq.symm
  have hpaid : (baseInPaid c.swapDirection swap.amountIn q.swapAmountOut).toNat =
      c.swapDirection.paidBaseIn swap.amountIn.toNat q.swapAmountOut.toNat := by
    cases c.swapDirection with
    | coin2Pc => rfl
    | pc2Coin => rfl
  simp only [PoolRequest.next, hout, hpaid]
  exact if_pos ⟨h.minimum, h.out_pos, hlt⟩

/-- An exact-out swap is accepted by the machine, which then has the new numbers. -/
theorem BaseOutDone.refines {swap : SwapInstructionBaseOut} {q : SwapBaseOutQuote}
    (hexact : ExactTokens env) (hvaults : coinVault ≠ pcVault)
    (hrep : Represents a.ammInfo.key coinVault pcVault targetOrders fees w p)
    (h : BaseOutDone env programId a swap amm c q w w') :
    ∃ p', (PoolRequest.swapBaseOut c.swapDirection swap).next fees p = some p' ∧
      Represents a.ammInfo.key coinVault pcVault targetOrders fees w' p' := by
  obtain ⟨amm₀, hz, rfl, rfl⟩ := hrep
  obtain rfl : amm₀ = amm := AccountData.amm_unique hz.stored h.done.checked.stored
  refine ⟨_, ?_, h.done.represents hexact hvaults hz⟩
  obtain ⟨hcoin, hpc⟩ := h.done.checked.reserves hz
  have hquoted := h.quoted
  rw [hcoin, hpc] at hquoted
  have hinput : swap.input amm₀.fees c.swapDirection (sharePool coinVault pcVault w amm₀) =
      q.swapInAfterAddFee.toNat := hquoted.required.symm
  simp only [PoolRequest.next, hinput]
  exact if_pos ⟨h.maximum, h.in_pos, hquoted.out_lt⟩

end Swap

/-! ## 2. Runs -/

/-- An operation of a user with its accounts bound; a swap with its direction. -/
inductive PoolTrade where
  | deposit (a : DepositAccounts) (request : DepositInstruction)
  | withdraw (a : WithdrawAccounts) (request : WithdrawInstruction)
  | swapBaseIn (a : SwapAccounts) (dir : SwapDirection) (request : SwapInstructionBaseIn)
  | swapBaseOut (a : SwapAccounts) (dir : SwapDirection) (request : SwapInstructionBaseOut)

namespace PoolTrade

/-- What the operation asks of the machine. -/
def request : PoolTrade → PoolRequest
  | .deposit _ request => .deposit request
  | .withdraw _ request => .withdraw request
  | .swapBaseIn _ dir request => .swapBaseIn dir request
  | .swapBaseOut _ dir request => .swapBaseOut dir request

/-- The pool of the operation. -/
def ammKey : PoolTrade → Pubkey
  | .deposit a _ => a.ammInfo.key
  | .withdraw a _ => a.ammInfo.key
  | .swapBaseIn a _ _ => a.ammInfo.key
  | .swapBaseOut a _ _ => a.ammInfo.key

/-- The token accounts of the user. -/
def userAccounts : PoolTrade → List Pubkey
  | .deposit a _ => [a.userSourceCoinInfo.key, a.userSourcePcInfo.key, a.userDestLpInfo.key]
  | .withdraw a _ => [a.userSourceLpInfo.key, a.userDestCoinInfo.key, a.userDestPcInfo.key]
  | .swapBaseIn a _ _ => [a.userSourceInfo.key, a.userDestinationInfo.key]
  | .swapBaseOut a _ _ => [a.userSourceInfo.key, a.userDestinationInfo.key]

/-- The body of the handler. -/
def body (env : Env) (programId : Pubkey) : PoolTrade → World → Result World
  | .deposit a request => depositBody env programId a request
  | .withdraw a request => withdrawBody env programId a request
  | .swapBaseIn a _ request => swapBaseInBody env programId a request
  | .swapBaseOut a _ request => swapBaseOutBody env programId a request

/-- The direction of a swap is the one that its accounts give it. -/
def Directed (w : World) : PoolTrade → Prop
  | .swapBaseIn a dir _ => dir = .coin2Pc ↔ TowardsPc a w
  | .swapBaseOut a dir _ => dir = .coin2Pc ↔ TowardsPc a w
  | _ => True

end PoolTrade

/-- A step of a run: an operation that went through or did not, or a gift to the vaults. -/
inductive PoolEvent where
  | trade (t : PoolTrade) (succeeded : Bool)
  | gift (coin pc : ℕ)

/-- What the step asks of the machine. -/
def PoolEvent.request : PoolEvent → Option PoolRequest
  | .trade t true => some t.request
  | .trade _ false => none
  | .gift coin pc => some (.gift coin pc)

/-- One step on the pool `ammKey`. The users' token accounts are not the vaults, an operation that
    fails changes nothing, and what happens outside of the program leaves the records of the pool
    alone and takes nothing from its vaults. -/
inductive PoolEvent.Step (env : Env) (programId ammKey coinVault pcVault targetOrders : Pubkey) :
    World → PoolEvent → World → Prop where
  | succeeds {t : PoolTrade} {w w' : World} : t.ammKey = ammKey →
      (∀ k ∈ t.userAccounts, k ≠ coinVault ∧ k ≠ pcVault) → t.Directed w →
      t.body env programId w = .ok w' →
      Step env programId ammKey coinVault pcVault targetOrders w (.trade t true) w'
  | fails {t : PoolTrade} {w : World} : (t.body env programId w).isOk = false →
      Step env programId ammKey coinVault pcVault targetOrders w (.trade t false) w
  | gift {w w' : World} {coin pc : ℕ} : (w'.accounts ammKey).data = (w.accounts ammKey).data →
      (w'.accounts targetOrders).data = (w.accounts targetOrders).data →
      w'.balance coinVault = w.balance coinVault + coin →
      w'.balance pcVault = w.balance pcVault + pc →
      Step env programId ammKey coinVault pcVault targetOrders w (.gift coin pc) w'

section Runs

variable {env : Env} {programId ammKey coinVault pcVault targetOrders : Pubkey} {w w' : World}
  {fees : Fees} {p : ShareValue.Pool}

/-- The direction of a swap that went through. -/
theorem SwapChecked.directed {a : SwapAccounts} {amm : AmmInfo} {c : SwapContext}
    {dir : SwapDirection} (h : SwapChecked env programId a w amm c)
    (hdir : dir = .coin2Pc ↔ TowardsPc a w) : dir = c.swapDirection := by
  have hiff := hdir.trans h.direction_iff.symm
  cases dir with
  | coin2Pc => exact (hiff.mp rfl).symm
  | pc2Coin =>
    cases hc : c.swapDirection with
    | coin2Pc => exact absurd (hiff.mpr hc) (by decide)
    | pc2Coin => rfl

/-- An operation that goes through is accepted by the machine. -/
theorem PoolTrade.refines {t : PoolTrade} (hexact : ExactTokens env) (hvaults : coinVault ≠ pcVault)
    (hrep : Represents t.ammKey coinVault pcVault targetOrders fees w p)
    (hapart : ∀ k ∈ t.userAccounts, k ≠ coinVault ∧ k ≠ pcVault) (hdir : t.Directed w)
    (h : t.body env programId w = .ok w') :
    ∃ p', t.request.next fees p = some p' ∧
      Represents t.ammKey coinVault pcVault targetOrders fees w' p' := by
  cases t with
  | deposit a request =>
    obtain ⟨c, d, hdone, lp, pc, coin, hpriced⟩ := depositBody_bounded h
    exact hdone.refines hexact hvaults hrep hapart (depositAmounts_accepts hpriced)
  | withdraw a request =>
    obtain ⟨c, coinAmount, pcAmount, hdone, hbounded⟩ := withdrawBody_bounded h
    refine hdone.refines hexact hvaults hrep hapart ?_
    exact WithdrawInstruction.slippage_eq_ok.mp hbounded
  | swapBaseIn a dir request =>
    obtain ⟨amm, c, q, hdone⟩ := swapBaseInBody_eq_ok h
    obtain rfl := hdone.done.checked.directed hdir
    exact hdone.refines hexact hvaults hrep
  | swapBaseOut a dir request =>
    obtain ⟨amm, c, q, hdone⟩ := swapBaseOutBody_eq_ok h
    obtain rfl := hdone.done.checked.directed hdir
    exact hdone.refines hexact hvaults hrep

/-- One step of a run is the step of the machine that it asks for. -/
theorem PoolEvent.Step.refines {e : PoolEvent} (hexact : ExactTokens env)
    (hvaults : coinVault ≠ pcVault)
    (h : PoolEvent.Step env programId ammKey coinVault pcVault targetOrders w e w')
    (hrep : Represents ammKey coinVault pcVault targetOrders fees w p) :
    ∃ p', e.request.toList.foldlM (PoolRequest.next fees) p = some p' ∧
      Represents ammKey coinVault pcVault targetOrders fees w' p' := by
  cases h with
  | succeeds hkey hapart hdir hrun =>
    subst hkey
    obtain ⟨p', hnext, hrep'⟩ := PoolTrade.refines hexact hvaults hrep hapart hdir hrun
    refine ⟨p', ?_, hrep'⟩
    simp only [PoolEvent.request, Option.toList_some, List.foldlM_cons, List.foldlM_nil, hnext]
    rfl
  | fails _ => exact ⟨p, rfl, hrep⟩
  | gift hamm htarget hcoin hpc =>
    obtain ⟨amm, hz, hfees, rfl⟩ := hrep
    obtain ⟨t, ht, hx, hy⟩ := hz.target
    refine ⟨_, rfl, amm, { hz with
      stored := hamm.trans hz.stored
      target := ⟨t, htarget.trans ht, hx, hy⟩ }, hfees, ?_⟩
    rw [sharePool, sharePool, hcoin, hpc]

/-- A step that asks for something fair, or for nothing. -/
def PoolEvent.FairStep (env : Env) (programId ammKey coinVault pcVault targetOrders : Pubkey)
    (fees : Fees) (w : World) (e : PoolEvent) (w' : World) : Prop :=
  PoolEvent.Step env programId ammKey coinVault pcVault targetOrders w e w' ∧
    ∀ r ∈ e.request, ∀ p, Represents ammKey coinVault pcVault targetOrders fees w p →
      r.Fair fees p

/-- A fair step keeps the worth of a share. -/
theorem PoolEvent.FairStep.worthKept {e : PoolEvent} {p₀ : ShareValue.Pool}
    (hexact : ExactTokens env) (hvaults : coinVault ≠ pcVault)
    (h : PoolEvent.FairStep env programId ammKey coinVault pcVault targetOrders fees w e w')
    (hrep : Represents ammKey coinVault pcVault targetOrders fees w p) (hpos : 0 < p.shares)
    (hworth : WorthKept p₀ p) :
    ∃ p', Represents ammKey coinVault pcVault targetOrders fees w' p' ∧ 0 < p'.shares ∧
      WorthKept p₀ p' := by
  obtain ⟨hstep, hfair⟩ := h
  obtain ⟨p', hnext, hrep'⟩ := hstep.refines hexact hvaults hrep
  refine ⟨p', hrep', ?_⟩
  cases hr : e.request with
  | none =>
    rw [hr] at hnext
    cases hnext
    exact ⟨hpos, hworth⟩
  | some r =>
    simp only [hr, Option.toList_some, List.foldlM_cons, List.foldlM_nil, bind_pure] at hnext
    exact ⟨r.next_shares_pos hpos hnext,
      hworth.trans hpos (PoolRequest.next_worthKept (hfair r hr p hrep) hnext)⟩

end Runs

namespace Reference

end Reference

section Runs

variable {env : Env} {programId ammKey coinVault pcVault targetOrders : Pubkey} {w w' : World}
  {fees : Fees} {p : ShareValue.Pool}

end Runs

section Runs

variable {env : Env} {programId ammKey coinVault pcVault targetOrders : Pubkey} {w w' : World}
  {fees : Fees} {p : ShareValue.Pool}

end Runs

end RaydiumAmm
