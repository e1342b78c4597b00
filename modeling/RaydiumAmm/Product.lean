import RaydiumAmm.Reference
import RaydiumAmm.SwapEffect

/-!
# The product of the totals

What a swap does to the totals of its pool, and when the product of the totals does not fall.

1. The exchange's accounts are apart from the token accounts and the pool records.
2. `SwapDone.totals` and `SwapDone.payments`: the two payments are all that changes the totals.
3. An exact-in swap keeps the product towards pc; towards coin it keeps it only in a pool whose
   coin total is the larger one by enough.
4. An exact-out swap keeps the product in both directions.
-/

namespace RaydiumAmm

open ConstantProduct Rounding

/-! ## 1. The exchange -/

/-- The exchange's loaders accept accounts of their own kind alone. -/
structure DexLoaders (env : Env) : Prop where
  market : ∀ {k acct p b m}, env.loadMarket k acct p b = .ok m → ∃ m', acct.data = .market m'
  openOrders : ∀ {k acct m o p r}, env.loadOpenOrders k acct m o p = .ok r →
    ∃ r', acct.data = .openOrders r'
  eventQueue : ∀ {m k acct q}, env.loadEventQueue m k acct = .ok q →
    ∃ q', acct.data = .eventQueue q'

theorem Reference.dexLoaders : DexLoaders Reference.env where
  market {k acct p b m} h := by
    simp only [Reference.env] at h
    split at h
    next m' heq => exact ⟨m', heq⟩
    next => cases h
  openOrders {k acct m o p r} h := by
    simp only [Reference.env] at h
    split at h
    next r' heq => exact ⟨r', heq⟩
    next => cases h
  eventQueue {m k acct q} h := by
    simp only [Reference.env] at h
    split at h
    next q' heq => exact ⟨q', heq⟩
    next => cases h

/-- The cancel and settle calls of a swap leave the totals of the pool as they are. -/
def DexKeepsTotals (env : Env) (a : SwapAccounts) (coinVaultInfo : AccountInfo) (amm : AmmInfo)
    (w : World) : Prop :=
  amm.orderbookOn = true → ∀ w',
    Calls env (DexCall (swapSettleIx a coinVaultInfo))
      { w with borrowed := a.ammInfo.key :: w.borrowed } w' →
    coinTotal env a amm w' = coinTotal env a amm w ∧ pcTotal env a amm w' = pcTotal env a amm w

/-- The accounts of the exchange that the totals read. -/
def exchangeKeys (a : SwapAccounts) : List Pubkey :=
  [a.marketInfo.key, a.ammOpenOrdersInfo.key, a.marketEventQueueInfo.key]

section Exchange

variable {env : Env} {programId : Pubkey} {a : SwapAccounts} {w w₁ w₂ : World} {amm : AmmInfo}
  {c : SwapContext}

/-- What the exchange holds is read from its own accounts. -/
theorem inSerum_congr
    (h : amm.orderbookOn = true → ∀ k ∈ exchangeKeys a, w₂.accounts k = w₁.accounts k) :
    inSerum env a amm w₂ = inSerum env a amm w₁ := by
  unfold inSerum
  split
  next hon =>
    have hmarket := h hon a.marketInfo.key (by simp [exchangeKeys])
    have horders := h hon a.ammOpenOrdersInfo.key (by simp [exchangeKeys])
    have hqueue := h hon a.marketEventQueueInfo.key (by simp [exchangeKeys])
    simp only [exactVaultInSerum, loadSerumMarketOrder, hmarket, horders, hqueue]
  next => rfl

/-- Where a swap has loaded the exchange's accounts, they are neither token accounts nor pool
    records. -/
theorem SwapChecked.exchange_data (hload : DexLoaders env)
    (h : SwapChecked env programId a w amm c) (hon : amm.orderbookOn = true) {k : Pubkey}
    (hk : k ∈ exchangeKeys a) :
    (∀ t, (w.accounts k).data ≠ .token t) ∧ ∀ r, (w.accounts k).data ≠ .amm r := by
  obtain ⟨s, hs⟩ := h.loaded (h.enableOrderbook.trans hon)
  simp only [exactVaultInSerum, loadSerumMarketOrder, Outcome.bind_eq_ok, Outcome.unwrap_eq_ok,
    Outcome.lift_eq_ok, Outcome.pure_eq_ok] at hs
  obtain ⟨⟨marketState, openOrders⟩, ⟨m, hmarket, o, horders, -, -, -, -, -, -, heq⟩, eventQ,
    hqueue, -⟩ := hs
  have hqueue : env.loadEventQueue marketState a.marketEventQueueInfo.key
      (w.accounts a.marketEventQueueInfo.key) = .ok eventQ := by
    cases hq : env.loadEventQueue marketState a.marketEventQueueInfo.key
        (w.accounts a.marketEventQueueInfo.key) with
    | ok q =>
      rw [hq] at hqueue
      cases hqueue
      rfl
    | error e =>
      rw [hq] at hqueue
      cases hqueue
  simp only [exchangeKeys, List.mem_cons, List.not_mem_nil, or_false] at hk
  rcases hk with rfl | rfl | rfl
  · obtain ⟨m', hm'⟩ := hload.market hmarket
    simp [hm']
  · obtain ⟨o', ho'⟩ := hload.openOrders horders
    simp [ho']
  · obtain ⟨q', hq'⟩ := hload.eventQueue hqueue
    simp [hq']

/-- A token account of a swap is not an account of the exchange. -/
theorem SwapChecked.token_not_mem (hload : DexLoaders env)
    (h : SwapChecked env programId a w amm c) {k : Pubkey} {t : TokenAccount}
    (hk : (w.accounts k).data = .token t) : amm.orderbookOn = true → k ∉ exchangeKeys a :=
  fun hon hmem => (h.exchange_data hload hon hmem).1 t hk

end Exchange

/-! ## 2. The effect on the totals -/

/-- The last two calls of `w` pay `paid` from `source` to `vaultIn` and `out` from `vaultOut` to
    `destination`. -/
def EndsWithPayments (w : World) (source vaultIn vaultOut destination : Pubkey) (paid out : ℕ) :
    Prop :=
  ∃ before payIn payOut, w.inner = before ++ [payIn, payOut] ∧
    Moves source vaultIn paid payIn.pre payIn.post ∧
    Moves vaultOut destination out payOut.pre payOut.post

/-- What `coin` becomes by a payment in of `paid` and a payment out of `out`. -/
def SwapDirection.coinAfter (dir : SwapDirection) (coin paid out : ℤ) : ℤ :=
  match dir with
  | .coin2Pc => coin + paid
  | .pc2Coin => coin - out

/-- What `pc` becomes by a payment in of `paid` and a payment out of `out`. -/
def SwapDirection.pcAfter (dir : SwapDirection) (pc paid out : ℤ) : ℤ :=
  match dir with
  | .coin2Pc => pc - out
  | .pc2Coin => pc + paid

section Done

variable {env : Env} {programId : Pubkey} {a : SwapAccounts} {coinVaultInfo : AccountInfo}
  {amm : AmmInfo} {c : SwapContext} {paid counted out : U64} {w w' : World}

theorem SwapChecked.inVaultInfo_key (h : SwapChecked env programId a w amm c)
    (dir : SwapDirection) :
    (dir.inVaultInfo a).key =
      match dir with
      | .coin2Pc => amm.coinVault
      | .pc2Coin => amm.pcVault := by
  cases dir with
  | coin2Pc => exact h.coinVault
  | pc2Coin => exact h.pcVault

theorem SwapChecked.outVaultInfo_key (h : SwapChecked env programId a w amm c)
    (dir : SwapDirection) :
    (dir.outVaultInfo a).key =
      match dir with
      | .coin2Pc => amm.pcVault
      | .pc2Coin => amm.coinVault := by
  cases dir with
  | coin2Pc => exact h.pcVault
  | pc2Coin => exact h.coinVault

/-- The payments of a swap. -/
theorem SwapDone.payments (hexact : ExactTokens env)
    (h : SwapDone env programId a coinVaultInfo amm c paid counted out w w') :
    EndsWithPayments w' a.userSourceInfo.key (c.swapDirection.inVaultInfo a).key
      (c.swapDirection.outVaultInfo a).key a.userDestinationInfo.key paid.toNat out.toNat := by
  obtain ⟨w₁, w₂, w₃, s', hcalls, -, rfl⟩ := h.run
  have hinner := World.inner_of_two_invokes hcalls.payIn hcalls.payOut
  exact ⟨w₁.inner, _, _, hinner, hexact.moves hcalls.payIn, hexact.moves hcalls.payOut⟩

/-- The record that a swap leaves: it agrees with the stored one on what the totals read, and has
    counted the swap. -/
theorem SwapDone.record
    (h : SwapDone env programId a coinVaultInfo amm c paid counted out w w') :
    ∃ amm', (w'.accounts a.ammInfo.key).data = .amm amm' ∧ SameTotals amm amm' ∧
      SwapCounted c.swapDirection counted.toNat out.toNat amm.stateData amm'.stateData := by
  obtain ⟨w₁, w₂, w₃, s', -, hcounted, rfl⟩ := h.run
  refine ⟨_, by simp [Accounts.setData]; rfl, ?_, hcounted⟩
  have hs := h.checked.same
  exact {
    coinVault := hs.coinVault
    pcVault := hs.pcVault
    openOrders := hs.openOrders
    marketProgram := hs.marketProgram
    orderbookOn := hs.orderbookOn
    needTakePnlCoin := hcounted.needTakePnlCoin
    needTakePnlPc := hcounted.needTakePnlPc
  }

/-- The payments and the final write leave what the exchange holds alone. -/
theorem SwapChecked.inSerum_after (hload : DexLoaders env)
    (hc : SwapChecked env programId a w amm c) {w₁ w₂ w₃ : World} {data : AccountData}
    (hin : Moves a.userSourceInfo.key (c.swapDirection.inVaultInfo a).key paid.toNat
      w₁.accounts w₂.accounts)
    (hout : Moves (c.swapDirection.outVaultInfo a).key a.userDestinationInfo.key out.toNat
      w₂.accounts w₃.accounts)
    (hw' : w' = w₃.dropRefMut a.ammInfo.key data) :
    inSerum env a amm w' = inSerum env a amm w₁ := by
  subst hw'
  refine inSerum_congr fun hon k hk => ?_
  have hamm : k ≠ a.ammInfo.key := by
    rintro rfl
    exact (hc.exchange_data hload hon hk).2 _ hc.stored
  have hcoin : k ≠ amm.coinVault := fun h => hc.token_not_mem hload hc.coinToken hon (h ▸ hk)
  have hpc : k ≠ amm.pcVault := fun h => hc.token_not_mem hload hc.pcToken hon (h ▸ hk)
  have hsource : k ≠ a.userSourceInfo.key :=
    fun h => hc.token_not_mem hload hc.sourceToken hon (h ▸ hk)
  have hdest : k ≠ a.userDestinationInfo.key :=
    fun h => hc.token_not_mem hload hc.destinationToken hon (h ▸ hk)
  have hvault : k ≠ (c.swapDirection.inVaultInfo a).key ∧
      k ≠ (c.swapDirection.outVaultInfo a).key := by
    rw [hc.inVaultInfo_key, hc.outVaultInfo_key]
    cases c.swapDirection with
    | coin2Pc => exact ⟨hcoin, hpc⟩
    | pc2Coin => exact ⟨hpc, hcoin⟩
  simp only [World.dropRefMut_accounts, Accounts.setData, if_neg hamm]
  rw [hout.other k hvault.2 hdest, hin.other k hsource hvault.1]

/-- The payments change the two vaults by the two amounts. -/
theorem SwapChecked.vaults_after (hc : SwapChecked env programId a w amm c)
    (hvaults : amm.coinVault ≠ amm.pcVault) {w₁ w₂ w₃ : World}
    (hin : Moves a.userSourceInfo.key (c.swapDirection.inVaultInfo a).key paid.toNat
      w₁.accounts w₂.accounts)
    (hout : Moves (c.swapDirection.outVaultInfo a).key a.userDestinationInfo.key out.toNat
      w₂.accounts w₃.accounts) :
    (w₃.balance amm.coinVault : ℤ) =
        c.swapDirection.coinAfter (w₁.balance amm.coinVault) paid.toNat out.toNat ∧
      (w₃.balance amm.pcVault : ℤ) =
        c.swapDirection.pcAfter (w₁.balance amm.pcVault) paid.toNat out.toNat := by
  have hvaults' := hvaults.symm
  have hc₂ := hin.balance amm.coinVault
  have hc₃ := hout.balance amm.coinVault
  have hp₂ := hin.balance amm.pcVault
  have hp₃ := hout.balance amm.pcVault
  rw [hc.inVaultInfo_key, if_neg hc.source_ne_coin.symm] at hc₂
  rw [hc.outVaultInfo_key, if_neg hc.destination_ne_coin.symm] at hc₃
  rw [hc.inVaultInfo_key, if_neg hc.source_ne_pc.symm] at hp₂
  rw [hc.outVaultInfo_key, if_neg hc.destination_ne_pc.symm] at hp₃
  simp only [World.balance]
  cases hdir : c.swapDirection with
  | coin2Pc =>
    simp only [hdir, hvaults, hvaults', if_true, if_false] at hc₂ hc₃ hp₂ hp₃
    simp only [SwapDirection.coinAfter, SwapDirection.pcAfter]
    omega
  | pc2Coin =>
    simp only [hdir, hvaults, hvaults', if_true, if_false] at hc₂ hc₃ hp₂ hp₃
    simp only [SwapDirection.coinAfter, SwapDirection.pcAfter]
    omega

/-- The final write leaves the vaults alone. -/
theorem SwapChecked.vaults_of_write (hc : SwapChecked env programId a w amm c) {w₃ : World}
    {data : AccountData} (hw' : w' = w₃.dropRefMut a.ammInfo.key data) :
    w'.balance amm.coinVault = w₃.balance amm.coinVault ∧
      w'.balance amm.pcVault = w₃.balance amm.pcVault := by
  subst hw'
  exact ⟨Accounts.balance_setData_of_ne (ne_of_token_of_amm hc.coinToken hc.stored),
    Accounts.balance_setData_of_ne (ne_of_token_of_amm hc.pcToken hc.stored)⟩

/-- A swap changes the totals by its two payments. -/
theorem SwapDone.totals (hexact : ExactTokens env) (hload : DexLoaders env)
    (hvaults : amm.coinVault ≠ amm.pcVault) (hdex : DexKeepsTotals env a coinVaultInfo amm w)
    (h : SwapDone env programId a coinVaultInfo amm c paid counted out w w') :
    ∃ amm', (w'.accounts a.ammInfo.key).data = .amm amm' ∧
      coinTotal env a amm' w' =
        c.swapDirection.coinAfter (coinTotal env a amm w) paid.toNat out.toNat ∧
      pcTotal env a amm' w' =
        c.swapDirection.pcAfter (pcTotal env a amm w) paid.toNat out.toNat := by
  obtain ⟨amm', hstored, hsame, -⟩ := h.record
  refine ⟨amm', hstored, ?_⟩
  rw [hsame.coinTotal, hsame.pcTotal]
  obtain ⟨w₁, w₂, w₃, s', hcalls, -, hw'⟩ := h.run
  have hc := h.checked
  have hin := hexact.moves hcalls.payIn
  have hout := hexact.moves hcalls.payOut
  -- without the order book there are no exchange calls
  have hdex₁ : coinTotal env a amm w₁ = coinTotal env a amm w ∧
      pcTotal env a amm w₁ = pcTotal env a amm w := by
    cases hon : amm.orderbookOn with
    | true => exact hdex hon w₁ hcalls.dex
    | false =>
      rw [hcalls.no_dex (hc.enableOrderbook.trans hon)]
      exact ⟨rfl, rfl⟩
  obtain ⟨hcoin, hpc⟩ := hc.vaults_after hvaults hin hout
  obtain ⟨hcoin', hpc'⟩ := hc.vaults_of_write hw'
  rw [← hdex₁.1, ← hdex₁.2]
  simp only [coinTotal, pcTotal, hc.inSerum_after hload hin hout hw', hcoin', hpc', hcoin, hpc]
  cases c.swapDirection with
  | coin2Pc =>
    simp only [SwapDirection.coinAfter, SwapDirection.pcAfter]
    omega
  | pc2Coin =>
    simp only [SwapDirection.coinAfter, SwapDirection.pcAfter]
    omega

end Done

/-! ## 3. Exact in -/

/-- The mint of a token account. -/
def mintOf (w : World) (k : Pubkey) : Option Pubkey :=
  match (w.accounts k).data with
  | .token t => some t.mint
  | _ => none

/-- The user gives the pool's coin for its pc. -/
def TowardsPc (a : SwapAccounts) (w : World) : Prop :=
  mintOf w a.userSourceInfo.key = mintOf w a.ammCoinVaultInfo.key ∧
    mintOf w a.userDestinationInfo.key = mintOf w a.ammPcVaultInfo.key

instance (a : SwapAccounts) (w : World) : Decidable (TowardsPc a w) := by
  unfold TowardsPc
  infer_instance

theorem SwapChecked.direction_iff {env : Env} {programId : Pubkey} {a : SwapAccounts} {w : World}
    {amm : AmmInfo} {c : SwapContext} (h : SwapChecked env programId a w amm c) :
    c.swapDirection = .coin2Pc ↔ TowardsPc a w := by
  have hdir := h.direction
  simp only [TowardsPc, mintOf, h.coinVault, h.pcVault, h.sourceToken, h.destinationToken,
    h.coinToken, h.pcToken, Option.some.injEq]
  unfold chooseDirection at hdir
  split at hdir
  next hmint =>
    exact iff_of_true (Except.ok.inj hdir).symm hmint
  next hmint =>
    split at hdir
    · rw [← Except.ok.inj hdir]
      exact iff_of_false (by decide) hmint
    · cases hdir

/-- `k` is at most the fee of an amount in. The fee rounds up, except that a fee below one half of
    a token is 0. -/
def FeeAtLeast (fees : Fees) (amountIn k : ℕ) : Prop :=
  k = 0 ∨ (fees.swapFeeDenominator.toNat ≤ 2 * (amountIn * fees.swapFeeNumerator.toNat) ∧
    (k - 1) * fees.swapFeeDenominator.toNat < amountIn * fees.swapFeeNumerator.toNat)

/-- The coin total stays at least as large as the pc total when both move by what `amountIn`, less
    its fee, buys. -/
def CoinOutweighsPc (fees : Fees) (amountIn : ℕ) (coin pc : ℤ) : Prop :=
  ∃ k : ℕ, FeeAtLeast fees amountIn k ∧ (pc - 1) * (amountIn - k) + pc * pc < (coin + 1) * pc

/-- The same by the quote. -/
theorem BaseInQuoted.coinOutweighsPc_iff {fees : Fees} {amountIn pc coin : ℕ}
    {q : SwapBaseInQuote} (h : BaseInQuoted fees amountIn pc coin q) (hpc : 0 < pc) :
    CoinOutweighsPc fees amountIn coin pc ↔ q.swapAmountOut.toNat + pc ≤ coin := by
  have hle : ∀ k, FeeAtLeast fees amountIn k ↔ k ≤ q.swapFee.toNat := fun k => by
    rw [h.fee, le_softCeil_iff h.denominator_pos]
    rfl
  have hnet : (amountIn : ℤ) = q.swapFee.toNat + q.swapInAfterDeductFee.toNat := by
    exact_mod_cast h.net
  rw [h.out, outGivenIn_add_le_iff hpc]
  constructor
  · rintro ⟨k, hk, hlt⟩
    have hfee : (k : ℤ) ≤ q.swapFee.toNat := by exact_mod_cast (hle k).mp hk
    have hmono : ((pc : ℤ) - 1) * q.swapInAfterDeductFee.toNat ≤ (pc - 1) * (amountIn - k) :=
      mul_le_mul_of_nonneg_left (by omega) (by omega)
    zify [show 1 ≤ pc from hpc]
    omega
  · intro hlt
    refine ⟨q.swapFee.toNat, (hle _).mpr (le_refl _), ?_⟩
    rw [hnet, add_sub_cancel_left]
    zify [show 1 ≤ pc from hpc] at hlt
    exact hlt

section BaseIn

variable {env : Env} {programId : Pubkey} {a : SwapAccounts} {swap : SwapInstructionBaseIn}
  {amm : AmmInfo} {c : SwapContext} {q : SwapBaseInQuote} {w w' : World}

/-- Towards pc the payment in is the amount that the quote was made for. -/
theorem BaseInDone.product_coin2Pc (h : BaseInDone env programId a swap amm c q w w')
    (hdir : c.swapDirection = .coin2Pc) :
    coinTotal env a amm w * pcTotal env a amm w ≤
      (coinTotal env a amm w + swap.amountIn.toNat) *
        (pcTotal env a amm w - q.swapAmountOut.toNat) := by
  have hquoted := h.quoted
  have hlt := h.out_lt
  simp only [hdir, SwapDirection.reserveIn, SwapDirection.reserveOut] at hquoted hlt
  have hle : q.swapInAfterDeductFee.toNat ≤ swap.amountIn.toNat := by
    have := hquoted.net
    omega
  have hproduct := product_le_of_outGivenIn (x := c.totalCoinWithoutTakePnl.toNat)
    (y := c.totalPcWithoutTakePnl.toNat) hle
  rw [← hquoted.out] at hproduct
  rw [← h.done.checked.coinTotal, ← h.done.checked.pcTotal]
  zify [Nat.le_of_lt hlt] at hproduct
  exact hproduct

/-- Towards coin both payments are the amount out. -/
theorem BaseInDone.product_pc2Coin_iff (h : BaseInDone env programId a swap amm c q w w')
    (hdir : c.swapDirection = .pc2Coin) :
    coinTotal env a amm w * pcTotal env a amm w ≤
        (coinTotal env a amm w - q.swapAmountOut.toNat) *
          (pcTotal env a amm w + q.swapAmountOut.toNat) ↔
      CoinOutweighsPc amm.fees swap.amountIn.toNat (coinTotal env a amm w)
        (pcTotal env a amm w) := by
  have hquoted := h.quoted
  have hlt := h.out_lt
  simp only [hdir, SwapDirection.reserveIn, SwapDirection.reserveOut] at hquoted hlt
  have hpc : 0 < c.totalPcWithoutTakePnl.toNat := by
    by_contra h0
    have h0 : c.totalPcWithoutTakePnl.toNat = 0 := by omega
    -- an empty pc side would sell the whole coin side
    have hpos := hquoted.reserve_pos
    have hout := hquoted.out
    simp only [h0, Nat.zero_add] at hpos hout
    rw [outGivenIn, Nat.zero_add, Nat.mul_div_cancel _ hpos] at hout
    omega
  have hmove := product_le_iff_of_equal_move (y := c.totalPcWithoutTakePnl.toNat) h.out_pos
    (Nat.le_of_lt hlt)
  rw [← h.done.checked.coinTotal, ← h.done.checked.pcTotal, hquoted.coinOutweighsPc_iff hpc,
    ← hmove]
  zify [Nat.le_of_lt hlt]

end BaseIn

/-- A successful exact-in swap keeps the product of the totals exactly where it goes towards pc, or
    where the coin total outweighs the pc total. Its first transfer towards coin moves the amount
    out instead of the amount in. -/
theorem processSwapBaseIn_product_iff {env : Env} {programId : Pubkey}
    {accounts : List AccountInfo} {a : SwapAccounts} {swap : SwapInstructionBaseIn}
    {w w' : World} {amm : AmmInfo} (hexact : ExactTokens env) (hload : DexLoaders env)
    (hbind : bindSwap accounts = .ok a) (hamm : (w.accounts a.ammInfo.key).data = .amm amm)
    (hvaults : amm.coinVault ≠ amm.pcVault)
    (hdex : DexKeepsTotals env a a.marketCoinVaultInfo amm w)
    (h : processSwapBaseIn env programId accounts swap w = .ok w') :
    ∃ amm', (w'.accounts a.ammInfo.key).data = .amm amm' ∧
      (coinTotal env a amm w * pcTotal env a amm w ≤
          coinTotal env a amm' w' * pcTotal env a amm' w' ↔
        TowardsPc a w ∨ CoinOutweighsPc amm.fees swap.amountIn.toNat (coinTotal env a amm w)
          (pcTotal env a amm w)) := by
  simp only [processSwapBaseIn, hbind, Outcome.ok_bind] at h
  obtain ⟨amm₀, c, q, hdone⟩ := swapBaseInBody_eq_ok h
  have hchecked := hdone.done.checked
  obtain rfl : amm₀ = amm := by
    have := hchecked.stored
    rw [hamm] at this
    cases this
    rfl
  obtain ⟨amm', hstored, hcoin, hpc⟩ := hdone.done.totals hexact hload hvaults hdex
  refine ⟨amm', hstored, ?_⟩
  rw [hcoin, hpc, ← hchecked.direction_iff]
  cases hdir : c.swapDirection with
  | coin2Pc =>
    simp only [SwapDirection.coinAfter, SwapDirection.pcAfter, baseInPaid, true_or, iff_true]
    exact hdone.product_coin2Pc hdir
  | pc2Coin =>
    simp only [SwapDirection.coinAfter, SwapDirection.pcAfter, baseInPaid, reduceCtorEq, false_or]
    exact hdone.product_pc2Coin_iff hdir

open Reference in
/-- A swap of 1000 coin for pc. -/
theorem processSwapBaseIn_product_iff_towards_pc :
    ∃ w' amm', processSwapBaseIn env program (swapInfos 31 32) ⟨1000, 0⟩ swapWorld = .ok w' ∧
      (w'.accounts (key 10)).data = .amm amm' ∧
      coinTotal env (swapAccounts 31 32) (pool .swapOnly 1000) swapWorld *
          pcTotal env (swapAccounts 31 32) (pool .swapOnly 1000) swapWorld ≤
        coinTotal env (swapAccounts 31 32) amm' w' * pcTotal env (swapAccounts 31 32) amm' w' := by
  obtain ⟨w', hw'⟩ : ∃ w', processSwapBaseIn env program (swapInfos 31 32) ⟨1000, 0⟩ swapWorld =
      .ok w' := Outcome.exists_of_isOk (by decide)
  have hbind : bindSwap (swapInfos 31 32) = .ok (swapAccounts 31 32) := rfl
  have hamm : (swapWorld.accounts (key 10)).data = .amm (pool .swapOnly 1000) := rfl
  obtain ⟨amm', hstored, hproduct⟩ := processSwapBaseIn_product_iff exactTokens dexLoaders hbind
    hamm (by decide) (fun hon => absurd hon (by decide)) hw'
  exact ⟨w', amm', hw', hstored, hproduct.mpr (.inl (by decide))⟩

open Reference in
/-- A swap of 1000 pc for coin in the same pool: the product falls. -/
theorem processSwapBaseIn_product_falls :
    ¬∀ (env : Env) (programId : Pubkey) (accounts : List AccountInfo) (a : SwapAccounts)
      (swap : SwapInstructionBaseIn) (w w' : World) (amm amm' : AmmInfo),
      ExactTokens env → DexLoaders env → bindSwap accounts = .ok a →
      (w.accounts a.ammInfo.key).data = .amm amm →
      amm.fees.swapFeeNumerator < amm.fees.swapFeeDenominator →
      0 < coinTotal env a amm w → 0 < pcTotal env a amm w → amm.coinVault ≠ amm.pcVault →
      DexKeepsTotals env a a.marketCoinVaultInfo amm w →
      processSwapBaseIn env programId accounts swap w = .ok w' →
      (w'.accounts a.ammInfo.key).data = .amm amm' →
      coinTotal env a amm w * pcTotal env a amm w ≤
        coinTotal env a amm' w' * pcTotal env a amm' w' := by
  intro h
  have hbind : bindSwap (swapInfos 32 31) = .ok (swapAccounts 32 31) := rfl
  have hamm : (swapWorld.accounts (key 10)).data = .amm (pool .swapOnly 1000) := rfl
  have hrun := eq_ok_result (r := processSwapBaseIn env program (swapInfos 32 31) ⟨1000, 0⟩
    swapWorld) (by decide)
  have hamm' := data_of_ammAt (w := result (processSwapBaseIn env program (swapInfos 32 31)
    ⟨1000, 0⟩ swapWorld)) (k := key 10) (Option.some_get (by decide)).symm
  have hproduct := h env program _ _ _ _ _ _ _ exactTokens dexLoaders hbind hamm (by decide)
    (by decide) (by decide) (by decide) (fun hon => absurd hon (by decide)) hrun hamm'
  revert hproduct
  decide

/-! ## 4. Exact out -/

/-- The gross payment covers the product for the amount out, in both directions. -/
theorem BaseOutDone.product {env : Env} {programId : Pubkey} {a : SwapAccounts}
    {swap : SwapInstructionBaseOut} {amm : AmmInfo} {c : SwapContext} {q : SwapBaseOutQuote}
    {w w' : World} (h : BaseOutDone env programId a swap amm c q w w') :
    coinTotal env a amm w * pcTotal env a amm w ≤
      c.swapDirection.coinAfter (coinTotal env a amm w) q.swapInAfterAddFee.toNat
          swap.amountOut.toNat *
        c.swapDirection.pcAfter (pcTotal env a amm w) q.swapInAfterAddFee.toNat
          swap.amountOut.toNat := by
  obtain ⟨hcover, hgross⟩ := h.quoted.cover (Nat.pos_iff_ne_zero.mp h.in_pos)
  have hlt := h.quoted.out_lt
  have hproduct := product_le_of_cover (Nat.le_of_lt hlt) hcover hgross
  rw [← h.done.checked.coinTotal, ← h.done.checked.pcTotal]
  cases hdir : c.swapDirection with
  | coin2Pc =>
    simp only [hdir, SwapDirection.reserveIn, SwapDirection.reserveOut] at hproduct hlt
    simp only [SwapDirection.coinAfter, SwapDirection.pcAfter]
    zify [Nat.le_of_lt hlt] at hproduct
    exact hproduct
  | pc2Coin =>
    simp only [hdir, SwapDirection.reserveIn, SwapDirection.reserveOut] at hproduct hlt
    simp only [SwapDirection.coinAfter, SwapDirection.pcAfter]
    zify [Nat.le_of_lt hlt] at hproduct
    rw [mul_comm] at hproduct
    rw [mul_comm (_ - _)]
    exact hproduct

/-- A successful exact-out swap, with `coin` and `pc` the totals and `q` the quote that the handler
    prices against: the product of the totals does not fall, the user pays the gross amount of the
    quote, at most the maximum, and gets exactly the amount out, which is below the total on that
    side; and the fee is at least its share of the gross amount. -/
theorem processSwapBaseOut_sound {env : Env} {programId : Pubkey} {accounts : List AccountInfo}
    {a : SwapAccounts} {swap : SwapInstructionBaseOut} {w w' : World} {amm : AmmInfo}
    (hexact : ExactTokens env) (hload : DexLoaders env) (hbind : bindSwap accounts = .ok a)
    (hamm : (w.accounts a.ammInfo.key).data = .amm amm) (hvaults : amm.coinVault ≠ amm.pcVault)
    (hdex : ∀ dir : SwapDirection, DexKeepsTotals env a (baseOutCoinVaultInfo dir a) amm w)
    (h : processSwapBaseOut env programId accounts swap w = .ok w') :
    ∃ amm' dir q, ∃ coin pc : U64, (w'.accounts a.ammInfo.key).data = .amm amm' ∧
      (dir = SwapDirection.coin2Pc ↔ TowardsPc a w) ∧
      (coin.toNat : ℤ) = coinTotal env a amm w ∧ (pc.toNat : ℤ) = pcTotal env a amm w ∧
      swapBaseOutQuote amm.fees swap.amountOut pc coin dir = .ok q ∧
      coinTotal env a amm w * pcTotal env a amm w ≤
        coinTotal env a amm' w' * pcTotal env a amm' w' ∧
      q.swapInAfterAddFee.toNat ≤ swap.maxAmountIn.toNat ∧
      EndsWithPayments w' a.userSourceInfo.key (dir.inVaultInfo a).key (dir.outVaultInfo a).key
        a.userDestinationInfo.key q.swapInAfterAddFee.toNat swap.amountOut.toNat ∧
      swap.amountOut.toNat < dir.reserveOut coin.toNat pc.toNat ∧
      (q.swapInAfterAddFee.toNat - q.swapInBeforeAddFee.toNat) * amm.fees.swapFeeDenominator.toNat ≥
        q.swapInAfterAddFee.toNat * amm.fees.swapFeeNumerator.toNat := by
  simp only [processSwapBaseOut, hbind, Outcome.ok_bind] at h
  obtain ⟨amm₀, c, q, hdone⟩ := swapBaseOutBody_eq_ok h
  have hchecked := hdone.done.checked
  obtain rfl : amm₀ = amm := by
    have := hchecked.stored
    rw [hamm] at this
    cases this
    rfl
  obtain ⟨amm', hstored, hcoin, hpc⟩ :=
    hdone.done.totals hexact hload hvaults (hdex c.swapDirection)
  refine ⟨amm', c.swapDirection, q, c.totalCoinWithoutTakePnl, c.totalPcWithoutTakePnl, hstored,
    hchecked.direction_iff, hchecked.coinTotal, hchecked.pcTotal, hdone.quote, ?_, hdone.maximum,
    hdone.done.payments hexact, hdone.quoted.out_lt,
    hdone.quoted.fee_share (Nat.pos_iff_ne_zero.mp hdone.in_pos)⟩
  rw [hcoin, hpc]
  exact hdone.product

open Reference in
/-- A swap of pc for 1000 coin. -/
theorem processSwapBaseOut_sound_towards_coin :
    ∃ w' amm' dir q, ∃ coin pc : U64,
      processSwapBaseOut env program (swapInfos 32 31) ⟨10000, 1000⟩ swapWorld = .ok w' ∧
      (w'.accounts (key 10)).data = .amm amm' ∧
      swapBaseOutQuote (pool .swapOnly 1000).fees 1000 pc coin dir = .ok q ∧
      coinTotal env (swapAccounts 32 31) (pool .swapOnly 1000) swapWorld *
          pcTotal env (swapAccounts 32 31) (pool .swapOnly 1000) swapWorld ≤
        coinTotal env (swapAccounts 32 31) amm' w' * pcTotal env (swapAccounts 32 31) amm' w' ∧
      q.swapInAfterAddFee.toNat ≤ 10000 ∧
      (q.swapInAfterAddFee.toNat - q.swapInBeforeAddFee.toNat) * 10000 ≥
        q.swapInAfterAddFee.toNat * 25 := by
  obtain ⟨w', hw'⟩ : ∃ w', processSwapBaseOut env program (swapInfos 32 31) ⟨10000, 1000⟩ swapWorld =
      .ok w' := Outcome.exists_of_isOk (by decide)
  have hbind : bindSwap (swapInfos 32 31) = .ok (swapAccounts 32 31) := rfl
  have hamm : (swapWorld.accounts (key 10)).data = .amm (pool .swapOnly 1000) := rfl
  obtain ⟨amm', dir, q, coin, pc, hstored, -, -, -, hquote, hproduct, hmax, -, -, hfee⟩ :=
    processSwapBaseOut_sound exactTokens dexLoaders hbind hamm (by decide)
      (fun _ hon => absurd hon (by decide)) hw'
  exact ⟨w', amm', dir, q, coin, pc, hw', hstored, hquote, hproduct, hmax, hfee⟩

end RaydiumAmm
