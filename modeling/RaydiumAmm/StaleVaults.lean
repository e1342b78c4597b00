import RaydiumAmm.Cranking
import RaydiumAmm.LiquidityEffect

/-!
# The vault amounts of a withdraw

A withdraw with the order book on settles the pool's funds into its vaults and then tests that the
vaults cover the payouts. The amounts that it tests are those from before the settle call.

1. `WithdrawSettles`: a withdraw that has settled, and the payouts that it computes.
2. `withdraw_takePnlError_iff`: when the test rejects a payout that the settled vaults cover.
-/

namespace RaydiumAmm

open Outcome (Avoids)

/-! ## 1. A withdraw that has settled -/

/-- The share of `amount` in `lp` of what is held less what is needed elsewhere, rounded down. -/
def payout (held needed amount lp : ℕ) : ℕ := (held - needed) * amount / lp

/-- The coin that a withdraw of `amount` pays out, by the vault and the open orders from before. -/
def coinPayout (amm : AmmInfo) (openOrders : OpenOrders) (amount : U64) (w : World) : ℕ :=
  payout (w.balance amm.coinVault + openOrders.nativeCoinTotal.toNat)
    amm.stateData.needTakePnlCoin.toNat amount.toNat amm.lpAmount.toNat

/-- The same for pc. -/
def pcPayout (amm : AmmInfo) (openOrders : OpenOrders) (amount : U64) (w : World) : ℕ :=
  payout (w.balance amm.pcVault + openOrders.nativePcTotal.toNat)
    amm.stateData.needTakePnlPc.toNat amount.toNat amm.lpAmount.toNat

/-- A withdraw with the order book on that has passed the checks before the payouts: it read the
    open orders in `w` and left `w'` after the settle call, which moved all of them into the vaults.
    The baseline is zero, no event is pending and the payouts are not zero. -/
structure WithdrawSettles (env : Env) (programId : Pubkey) (a : WithdrawAccounts)
    (withdraw : WithdrawInstruction) (w : World) (c : WithdrawContext) (openOrders : OpenOrders)
    (w' : World) : Prop where
  prologue : withdrawPrologue env programId a withdraw w = .ok (c, w')
  orderbook : c.amm.orderbookOn = true
  loaded : env.loadOpenOrders a.ammOpenOrdersInfo.key (w.accounts a.ammOpenOrdersInfo.key)
    a.marketInfo.key a.ammAuthorityInfo.key c.amm.marketProgram = .ok openOrders
  settledCoin :
    w'.balance c.amm.coinVault = w.balance c.amm.coinVault + openOrders.nativeCoinTotal.toNat
  settledPc : w'.balance c.amm.pcVault = w.balance c.amm.pcVault + openOrders.nativePcTotal.toNat
  baseline : c.targetOrders.calcPnlX = 0 ∧ c.targetOrders.calcPnlY = 0
  noPending : ∀ marketState events,
    env.loadEventQueue marketState a.marketEventQInfo.key
      (w'.accounts a.marketEventQInfo.key) = .ok events →
    ∀ e ∈ events, e.change a.ammOpenOrdersInfo.key = 0
  coin_pos : 0 < coinPayout c.amm openOrders withdraw.amount w
  pc_pos : 0 < pcPayout c.amm openOrders withdraw.amount w

section Settles

variable {env : Env} {programId : Pubkey} {a : WithdrawAccounts} {withdraw : WithdrawInstruction}
  {w w' : World} {c : WithdrawContext} {openOrders : OpenOrders}

/-- The totals of a withdraw with the order book on. -/
theorem withdrawTotals_orderbook {amm : AmmInfo}
    {coinVault pcVault destCoin destPc : TokenAccount} {totals : U64 × U64}
    (h : withdrawTotals env a amm true coinVault pcVault destCoin destPc w = .ok (totals, w')) :
    ∃ marketState openOrders events,
      env.loadOpenOrders a.ammOpenOrdersInfo.key (w.accounts a.ammOpenOrdersInfo.key)
        a.marketInfo.key a.ammAuthorityInfo.key amm.marketProgram = .ok openOrders ∧
      env.loadEventQueue marketState a.marketEventQInfo.key
        (w'.accounts a.marketEventQInfo.key) = .ok events ∧
      Calculator.calcTotalWithoutTakePnl pcVault.amount coinVault.amount openOrders amm events
        a.ammOpenOrdersInfo.key = .ok totals := by
  simp only [withdrawTotals, if_true, Outcome.bind_eq_ok, loadSerumMarketOrder, calcTotal,
    Outcome.lift_eq_ok, Outcome.unwrap_eq_ok, Outcome.pure_eq_ok] at h
  obtain ⟨-, -, -, -, -, -, ⟨marketState, openOrders⟩, ⟨market', hmarket, o', hopen, -, -, -, -, -,
    -, hret⟩, ⟨bids, asks⟩, -, w₁, hcancel, -, -, -, -, totals', ⟨events, hevents, htotals⟩,
    hret'⟩ := h
  cases hret
  cases hret'
  refine ⟨marketState, openOrders, events, hopen, ?_, htotals⟩
  cases hload : env.loadEventQueue marketState a.marketEventQInfo.key
      (w'.accounts a.marketEventQInfo.key) with
  | ok q =>
    rw [hload] at hevents
    cases hevents
    rfl
  | error e =>
    rw [hload] at hevents
    cases hevents

theorem withdrawPrologue_orderbook (h : withdrawPrologue env programId a withdraw w = .ok (c, w'))
    (hon : c.amm.orderbookOn = true) :
    ∃ marketState openOrders events,
      env.loadOpenOrders a.ammOpenOrdersInfo.key (w.accounts a.ammOpenOrdersInfo.key)
        a.marketInfo.key a.ammAuthorityInfo.key c.amm.marketProgram = .ok openOrders ∧
      env.loadEventQueue marketState a.marketEventQInfo.key
        (w'.accounts a.marketEventQInfo.key) = .ok events ∧
      Calculator.calcTotalWithoutTakePnl c.ammPcVault.amount c.ammCoinVault.amount openOrders c.amm
        events a.ammOpenOrdersInfo.key =
          .ok (c.totalPcWithoutTakePnl, c.totalCoinWithoutTakePnl) := by
  obtain ⟨-, destCoin, destPc, htotals⟩ := withdrawPrologue_totals h
  rw [hon] at htotals
  obtain ⟨marketState, openOrders, events, hopen, hqueue, hcalc⟩ :=
    withdrawTotals_orderbook htotals
  exact ⟨marketState, openOrders, events, hopen, hqueue, hcalc⟩

theorem sum_change_of_noPending {events : List Event} {key : Pubkey}
    (h : ∀ e ∈ events, e.change key = 0) : (events.map (Event.change key)).sum = 0 := by
  induction events with
  | nil => rfl
  | cons e rest ih =>
    rw [List.map_cons, List.sum_cons, h e List.mem_cons_self,
      ih fun e' he' => h e' (List.mem_cons_of_mem _ he')]
    rfl

/-- Events that change nothing leave the totals of the open orders. -/
theorem calcExactVaultInSerum_of_noPending {events : List Event} {key : Pubkey} {s : U64 × U64}
    (hevents : ∀ e ∈ events, e.change key = 0)
    (h : Calculator.calcExactVaultInSerum openOrders events key = .ok s) :
    s = (openOrders.nativePcTotal, openOrders.nativeCoinTotal) := by
  obtain ⟨hpc, hcoin⟩ := foldlM_applyEvent_eq_ok h
  simp only [sum_change_of_noPending hevents, Prod.fst_zero, Prod.snd_zero, add_zero,
    Nat.cast_inj] at hpc hcoin
  exact Prod.ext (BitVec.eq_of_toNat_eq hpc) (BitVec.eq_of_toNat_eq hcoin)

namespace WithdrawSettles

variable (h : WithdrawSettles env programId a withdraw w c openOrders w')

include h

/-- The totals are those of the vaults and the open orders from before. -/
theorem totals :
    c.totalCoinWithoutTakePnl.toNat = w.balance c.amm.coinVault +
        openOrders.nativeCoinTotal.toNat - c.amm.stateData.needTakePnlCoin.toNat ∧
      c.totalPcWithoutTakePnl.toNat = w.balance c.amm.pcVault +
        openOrders.nativePcTotal.toNat - c.amm.stateData.needTakePnlPc.toNat := by
  obtain ⟨hchecked, -, -⟩ := withdrawPrologue_eq_ok h.prologue
  obtain ⟨marketState, o, events, hload, hqueue, htotals⟩ :=
    withdrawPrologue_orderbook h.prologue h.orderbook
  obtain rfl : o = openOrders := Except.ok.inj (hload.symm.trans h.loaded)
  obtain ⟨s, hserum, hpc, hcoin⟩ := calcTotal_eq_ok htotals
  obtain rfl := calcExactVaultInSerum_of_noPending (h.noPending marketState events hqueue) hserum
  have hcoinVault : w.balance c.amm.coinVault = c.ammCoinVault.amount.toNat :=
    balance_of_token hchecked.coinToken
  have hpcVault : w.balance c.amm.pcVault = c.ammPcVault.amount.toNat :=
    balance_of_token hchecked.pcToken
  simp only at hpc hcoin
  constructor <;> omega

/-- With a zero baseline no profit is taken off the totals. -/
theorem takePnl :
    (withdrawTakePnl c).totalCoinWithoutTakePnl = c.totalCoinWithoutTakePnl ∧
      (withdrawTakePnl c).totalPcWithoutTakePnl = c.totalPcWithoutTakePnl := by
  unfold withdrawTakePnl
  split
  · obtain ⟨hx, hy⟩ := h.baseline
    simp only [calcTakePnl, hx, hy]
    constructor <;>
    · apply BitVec.eq_of_toNat_eq
      rw [Checked.toNat_satSub]
      exact Nat.sub_zero _
  · exact ⟨rfl, rfl⟩

/-- The amounts that the body computes are the payouts. -/
theorem amounts :
    ∃ coinAmount pcAmount,
      withdrawAmounts withdraw.amount (withdrawTakePnl c).amm.lpAmount
        (withdrawTakePnl c).totalCoinWithoutTakePnl
        (withdrawTakePnl c).totalPcWithoutTakePnl = .ok (coinAmount, pcAmount) ∧
      coinAmount.toNat = coinPayout c.amm openOrders withdraw.amount w ∧
      pcAmount.toNat = pcPayout c.amm openOrders withdraw.amount w := by
  obtain ⟨hchecked, -, -⟩ := withdrawPrologue_eq_ok h.prologue
  obtain ⟨s, hs, -, -⟩ := withdrawTakePnl_amm c
  have hlp : (withdrawTakePnl c).amm.lpAmount = c.amm.lpAmount := by rw [hs]
  obtain ⟨hcoinTotal, hpcTotal⟩ := h.totals
  rw [hlp, h.takePnl.1, h.takePnl.2]
  obtain ⟨⟨coinAmount, pcAmount⟩, hamounts⟩ := exists_withdrawAmounts
    (BitVec.lt_def.mpr hchecked.amount_lt) c.totalCoinWithoutTakePnl c.totalPcWithoutTakePnl
  obtain ⟨-, hcoin, hpc⟩ := withdrawAmounts_eq_ok hamounts
  refine ⟨coinAmount, pcAmount, hamounts, ?_, ?_⟩
  · rw [coinPayout, payout, ← hcoinTotal]
    exact hcoin
  · rw [pcPayout, payout, ← hpcTotal]
    exact hpc

/-- A part of the shares pays less than what the vaults hold after the settle call. -/
theorem payout_lt {held needed : ℕ} (hpos : 0 < payout held needed withdraw.amount.toNat
    c.amm.lpAmount.toNat) :
    payout held needed withdraw.amount.toNat c.amm.lpAmount.toNat < held := by
  obtain ⟨hchecked, -, -⟩ := withdrawPrologue_eq_ok h.prologue
  have hlt := hchecked.amount_lt
  have hheld : 0 < held - needed := by
    by_contra h0
    rw [payout, Nat.eq_zero_of_not_pos h0, Nat.zero_mul, Nat.zero_div] at hpos
    cases hpos
  refine lt_of_lt_of_le ?_ (Nat.sub_le held needed)
  refine (Nat.div_lt_iff_lt_mul (Nat.zero_lt_of_lt hlt)).mpr ?_
  exact Nat.mul_lt_mul_of_pos_left hlt hheld

theorem coin_lt : coinPayout c.amm openOrders withdraw.amount w < w'.balance c.amm.coinVault := by
  rw [h.settledCoin]
  exact h.payout_lt h.coin_pos

theorem pc_lt : pcPayout c.amm openOrders withdraw.amount w < w'.balance c.amm.pcVault := by
  rw [h.settledPc]
  exact h.payout_lt h.pc_pos

end WithdrawSettles

end Settles

/-! ## 2. The test of the vaults -/

section Test

variable {env : Env} {programId : Pubkey} {a : WithdrawAccounts} {withdraw : WithdrawInstruction}
  {w w' : World} {c : WithdrawContext} {openOrders : OpenOrders}

variable {e : ProgramError}

/-- A call returns only what the called program returns, and `accountBorrowFailed`. -/
theorem World.invoke_avoids (hcalls : ∀ cpi acc, env.invoke cpi acc ≠ .error e)
    (he : ProgramError.accountBorrowFailed ≠ e) (cpi : Cpi) (w : World) :
    Avoids e (w.invoke env cpi) :=
  (Avoids.require (.inr he)).bind fun _ _ =>
    (Avoids.lift (hcalls cpi w.accounts)).bind fun _ _ => Avoids.of_ok _

/-- So does a payment under the SPL token program. -/
theorem tokenTransferWithAuthority_avoids (hcalls : ∀ cpi acc, env.invoke cpi acc ≠ .error e)
    (he : ProgramError.accountBorrowFailed ≠ e) {tokenProgram : AccountInfo}
    (hspl : tokenProgram.key = splTokenId) (programId : Pubkey)
    (source destination authority : AccountInfo) (ammSeed : List U8) (nonce : U8) (amount : U64)
    (mint : AccountInfo) (w : World) :
    Avoids e (tokenTransferWithAuthority env programId tokenProgram source destination authority
      ammSeed nonce amount mint [] w) := by
  rw [tokenTransferWithAuthority, tokenTransferSigned_spl hspl]
  exact World.invoke_avoids hcalls he _ _

/-- Behind the test of the vaults nothing returns its error. -/
theorem withdrawBaseline_avoids (x1 : U128) (paidAmount decimals sysDecimalValue : U64)
    (delta : U128) : Avoids e (withdrawBaseline x1 paidAmount decimals sysDecimalValue delta) :=
  (normalizeDecimalV2_avoids _ _ _).bind fun _ _ =>
    (Avoids.unwrap _).bind fun _ _ => Avoids.unwrap _

theorem withdrawSlippage_avoids (he : AmmError.exceededSlippage.into ≠ e) (coinAmount pcAmount : U64) :
    Avoids e (withdrawSlippage withdraw coinAmount pcAmount) := by
  unfold withdrawSlippage
  split
  · exact Avoids.require (.inr he)
  · exact Avoids.of_ok ()

/-- After the settle call a withdraw returns `TakePnlError` except where both payouts are below the
    amounts that the vaults held before the call, or where a total cannot be normalized. The
    vaults themselves cover the payouts. -/
theorem withdraw_takePnlError_iff
    (h : WithdrawSettles env programId a withdraw w c openOrders w')
    (hcalls : ∀ cpi acc, env.invoke cpi acc ≠ .error AmmError.takePnlError.into) :
    (withdrawBody env programId a withdraw w ≠ Outcome.fail AmmError.takePnlError.into ↔
      (coinPayout c.amm openOrders withdraw.amount w < w.balance c.amm.coinVault ∧
        pcPayout c.amm openOrders withdraw.amount w < w.balance c.amm.pcVault) ∨
      ¬(10 ^ c.amm.pcDecimals.toNat < 2 ^ 128 ∧ 10 ^ c.amm.coinDecimals.toNat < 2 ^ 128)) ∧
    coinPayout c.amm openOrders withdraw.amount w < w'.balance c.amm.coinVault ∧
    pcPayout c.amm openOrders withdraw.amount w < w'.balance c.amm.pcVault := by
  refine ⟨?_, h.coin_lt, h.pc_lt⟩
  rw [withdrawBody, h.prologue, Outcome.ok_bind]
  by_cases hunits : 10 ^ c.amm.pcDecimals.toNat < 2 ^ 128 ∧ 10 ^ c.amm.coinDecimals.toNat < 2 ^ 128
  case neg =>
    -- a normalization aborts before the test
    refine iff_of_true ?_ (.inr hunits)
    refine (normalizeDecimalV2_avoids _ _ _).bind fun x1 hx1 => ?_
    refine (normalizeDecimalV2_avoids _ _ _).bind fun y1 hy1 => ?_
    exact absurd ⟨(exists_normalizeDecimalV2 _ _ _).mp ⟨x1, hx1⟩,
      (exists_normalizeDecimalV2 _ _ _).mp ⟨y1, hy1⟩⟩ hunits
  obtain ⟨x1, hx1⟩ := (exists_normalizeDecimalV2 c.totalPcWithoutTakePnl c.amm.pcDecimals
    c.amm.sysDecimalValue).mpr hunits.1
  obtain ⟨y1, hy1⟩ := (exists_normalizeDecimalV2 c.totalCoinWithoutTakePnl c.amm.coinDecimals
    c.amm.sysDecimalValue).mpr hunits.2
  obtain ⟨coinAmount, pcAmount, hamounts, hcoin, hpc⟩ := h.amounts
  obtain ⟨hchecked, -, -⟩ := withdrawPrologue_eq_ok h.prologue
  have hcoinVault : w.balance c.amm.coinVault = c.ammCoinVault.amount.toNat :=
    balance_of_token hchecked.coinToken
  have hpcVault : w.balance c.amm.pcVault = c.ammPcVault.amount.toNat :=
    balance_of_token hchecked.pcToken
  have hnonzero : ¬(withdraw.amount = 0 ∨ coinAmount = 0 ∨ pcAmount = 0) := by
    rintro (hzero | rfl | rfl)
    · have hpos := h.coin_pos
      rw [hzero, coinPayout, payout] at hpos
      simp at hpos
    · exact absurd h.coin_pos (by rw [← hcoin]; decide)
    · exact absurd h.pc_pos (by rw [← hpc]; decide)
  simp only [hx1, hy1, hamounts, Outcome.ok_bind, check, Outcome.require_pos hnonzero]
  rw [← hcoin, ← hpc, hcoinVault, hpcVault]
  by_cases hcover : coinAmount < c.ammCoinVault.amount ∧ pcAmount < c.ammPcVault.amount
  case pos =>
    rw [Outcome.require_pos hcover, Outcome.ok_bind]
    refine iff_of_true ?_ (.inl ⟨BitVec.lt_def.mp hcover.1, BitVec.lt_def.mp hcover.2⟩)
    have hpay := tokenTransferWithAuthority_avoids hcalls (by decide)
      hchecked.tokenProgram programId
    refine (withdrawSlippage_avoids (by decide) _ _).bind fun _ _ => ?_
    refine (hpay _ _ _ _ _ _ _ _).bind fun w₁ _ => (hpay _ _ _ _ _ _ _ _).bind fun w₂ _ => ?_
    refine Avoids.bind ?_ fun w₃ _ => ?_
    · exact (Avoids.require (.inr (by decide))).bind fun _ _ =>
        World.invoke_avoids hcalls (by decide) _ _
    · exact (Avoids.unwrap _).bind fun _ _ => (withdrawBaseline_avoids _ _ _ _ _).bind fun _ _ =>
        (withdrawBaseline_avoids _ _ _ _ _).bind fun _ _ => Avoids.of_ok _
  case neg =>
    rw [Outcome.require_neg hcover]
    refine iff_of_false (fun hne => hne rfl) ?_
    rintro (⟨hcoinLt, hpcLt⟩ | hunits')
    · exact hcover ⟨BitVec.lt_def.mpr hcoinLt, BitVec.lt_def.mpr hpcLt⟩
    · exact hunits' hunits

end Test

namespace Reference

/-- The pool with the order book on, with 100 coin and 500 pc in its vaults and 10000 coin and 50000
    pc to settle. -/
def staleWorld : World :=
  world (poolTable (pool .initialized 1000) 100 500 ++
    exchangeTable (openOrders 10000 50000 (BitVec.allOnes 128)) [])

/-- What the checks and the settle call leave of it. -/
def staleSettled (amount : U64) : WithdrawContext × World :=
  match withdrawPrologue env program withdrawAccounts ⟨amount, none, none⟩ staleWorld with
  | .ok r => r
  | .error _ => (⟨pool .initialized 1000, baseline, { mint := key 0, owner := key 0, amount := 0 },
      { mint := key 0, owner := key 0, amount := 0 }, 0, 0⟩, staleWorld)

/-- The reference runtime has one error. -/
theorem invoke_error {cpi : Cpi} {acc : Accounts} {e : ProgramError}
    (h : env.invoke cpi acc = .error e) : e = .incorrectProgramId := by
  simp only [env] at h
  split at h
  next => cases h
  next => exact (Except.error.inj h).symm

end Reference

open Reference in
/-- One share of the thousand pays 10 coin and 50 pc, half of the shares 5050 coin and 25250 pc. -/
theorem staleWorld_settles (amount : U64) (hamount : amount = 1 ∨ amount = 500) :
    WithdrawSettles env program withdrawAccounts ⟨amount, none, none⟩ staleWorld
      (staleSettled amount).1 (openOrders 10000 50000 (BitVec.allOnes 128))
      (staleSettled amount).2 := by
  rcases hamount with rfl | rfl
  all_goals
    exact {
      prologue := rfl
      orderbook := rfl
      loaded := rfl
      settledCoin := rfl
      settledPc := rfl
      baseline := ⟨rfl, rfl⟩
      noPending := by
        intro marketState events hload e he
        cases hload
        cases he
      coin_pos := by decide
      pc_pos := by decide
    }

open Reference in
/-- A withdraw of one share passes the test. -/
theorem withdraw_takePnlError_iff_one :
    withdrawBody env program withdrawAccounts ⟨1, none, none⟩ staleWorld ≠
      Outcome.fail AmmError.takePnlError.into := by
  have hcalls : ∀ cpi acc, env.invoke cpi acc ≠ .error AmmError.takePnlError.into := by
    intro cpi acc h
    exact absurd (invoke_error h) (by decide)
  obtain ⟨hpasses, -, -⟩ := withdraw_takePnlError_iff (staleWorld_settles 1 (.inl rfl)) hcalls
  exact hpasses.mpr (.inl (by decide))

open Reference in
/-- A withdraw of half of the shares: after the settle call the vaults hold 10100 coin and 50500 pc,
    and the payouts of 5050 coin and 25250 pc are rejected. -/
theorem withdraw_takePnlError_half :
    WithdrawSettles env program withdrawAccounts ⟨500, none, none⟩ staleWorld
        (staleSettled 500).1 (openOrders 10000 50000 (BitVec.allOnes 128)) (staleSettled 500).2 ∧
      (staleSettled 500).2.balance (key 13) = 10100 ∧
      (staleSettled 500).2.balance (key 14) = 50500 ∧
      withdrawBody env program withdrawAccounts ⟨500, none, none⟩ staleWorld =
        Outcome.fail AmmError.takePnlError.into :=
  ⟨staleWorld_settles 500 (.inr rfl), by decide, by decide, rfl⟩

end RaydiumAmm
