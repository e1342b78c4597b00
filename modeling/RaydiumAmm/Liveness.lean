import RaydiumAmm.Exit
import RaydiumAmm.Statistics

/-!
# Swaps that go through

`pool_runs_as_machine` says that what a swap handler does the machine does. The converse holds too:
on the accounts of a trader, and with a token program that pays what it is asked for, a swap that
the machine accepts goes through where the trader can show and pay its input and the counters of the
pool have room.

1. `LiveWallets`: the token program executes a transfer that a wallet signs and can fund.
2. `SwapReady`: the accounts of a swap.
3. The prologue, the checks and the two calls.
4. `swap_goes_through_iff`: after every run.
-/

namespace RaydiumAmm

open ConstantProduct Rounding ShareValue

/-! ## 1. Transfers of a wallet -/

/-- The accounts of a swap by a trader: those of the pool, and two of his own. That the record of
    the pool is passed as writable is for the runtime to check. -/
structure SwapReady (env : Env) (programId : Pubkey) (w : World) (a : SwapAccounts)
    (dir : SwapDirection) (amm : AmmInfo) : Prop where
  noBorrow : w.borrowed = []
  stored : w.accounts a.ammInfo.key = ⟨programId, .amm amm⟩
  gate : ∃ gated, swapStatusGate amm w.clock = .ok gated
  authority : env.createProgramAddress [AUTHORITY_AMM, [amm.nonceU8]] programId =
    some a.ammAuthorityInfo.key
  tokenProgram : a.tokenProgramInfo.key = splTokenId
  coinVault : a.ammCoinVaultInfo.key = amm.coinVault
  pcVault : a.ammPcVaultInfo.key = amm.pcVault
  /-- The pool holds the vaults, the trader his source, and the mints give the direction. -/
  tokens : ∃ coin pc source dest, LiveToken w.accounts a.ammCoinVaultInfo coin ∧
    LiveToken w.accounts a.ammPcVaultInfo pc ∧ LiveToken w.accounts a.userSourceInfo source ∧
    LiveToken w.accounts a.userDestinationInfo dest ∧
    chooseDirection coin pc source dest = .ok dir ∧ coin.HeldBy a.ammAuthorityInfo.key ∧
    pc.HeldBy a.ammAuthorityInfo.key ∧ source.HeldBy a.userSourceOwner.key
  /-- Each of the two payments has room for all that the payer holds. -/
  roomIn : w.balance (dir.inVaultInfo a).key + w.balance a.userSourceInfo.key < 2 ^ 64
  roomOut : w.balance a.userDestinationInfo.key + w.balance (dir.outVaultInfo a).key < 2 ^ 64
  signer : a.userSourceOwner.isSigner = true
  wallet : ∀ nonce, env.createProgramAddress [AUTHORITY_AMM, [nonce]] programId ≠
    some a.userSourceOwner.key
  /-- The four token accounts are different ones. -/
  apart : [a.ammCoinVaultInfo.key, a.ammPcVaultInfo.key, a.userSourceInfo.key,
    a.userDestinationInfo.key].Nodup
  /-- None of the others is the record of the pool. -/
  others : ∀ k ∈ [a.ammAuthorityInfo.key, a.userSourceOwner.key, splTokenId], k ≠ a.ammInfo.key

namespace SwapReady

variable {env : Env} {programId targetOrders : Pubkey} {w w' : World} {a : SwapAccounts}
  {dir : SwapDirection} {amm : AmmInfo}

/-! ## 3. The handler -/

theorem free_of_token (h : SwapReady env programId w a dir amm) {info : AccountInfo}
    {t : TokenAccount} (hk : HoldsToken w.accounts info t) : info.key ∉ [a.ammInfo.key] := by
  rw [List.mem_singleton]
  exact ne_of_token_of_amm (w := w) (by rw [hk.stored]) (by rw [h.stored])

/-- The checks of a ready swap pass, without the order book. -/
theorem prologue (h : SwapReady env programId w a dir amm)
    (hz : ZeroBaseline a.ammInfo.key amm.coinVault amm.pcVault targetOrders w amm) :
    ∃ c, swapPrologue env programId a w = .ok (c, { w with borrowed := [a.ammInfo.key] }) := by
  obtain ⟨gated, hgate⟩ := h.gate
  obtain ⟨status, rfl, hsame⟩ := swapStatusGate_eq_ok hgate
  obtain ⟨s, hstatus, -⟩ := Outcome.bind_eq_ok.mp hgate
  obtain ⟨coin, pc, source, dest, hcoin, hpc, hsource, hdest, hdir, -, -, -⟩ := h.tokens
  have hapart := h.apart
  simp only [List.nodup_cons, List.mem_cons, List.not_mem_nil, not_or, or_false, not_false_eq_true,
    and_true, List.nodup_nil] at hapart
  obtain ⟨⟨-, hcs, hcd⟩, ⟨hps, hpd⟩, -⟩ := hapart
  have htoken : ∀ {info : AccountInfo} {t : TokenAccount}, HoldsToken w.accounts info t →
      w.accounts info.key = ⟨a.tokenProgramInfo.key, .token t⟩ ∧ info.key ∉ [a.ammInfo.key] ∧
        t.transferring = none := by
    intro info t ht
    rw [h.tokenProgram]
    exact ⟨ht.stored, h.free_of_token ht, ht.plain⟩
  have hoff : s.orderbookPermission = false := by
    have hoff := hz.orderbookOff
    rw [AmmInfo.orderbookOn, hstatus] at hoff
    exact hoff
  have hsub : ∀ x : U64, Checked.sub x 0 = some x := fun x =>
    Checked.sub_eq_some.mpr (Nat.zero_add _).symm
  simp only [swapPrologue, authorityId, ↓check_bind_eq_ok, Outcome.bind_eq_ok,
    Outcome.okOr_eq_ok, Outcome.pure_eq_ok, Prod.exists, AmmInfo.loadMutChecked_iff,
    unpackTokenAccount_iff]
  refine ⟨_, amm, { w with borrowed := [a.ammInfo.key] }, ⟨h.stored, by simp [h.noBorrow], ?status,
    by rw [h.noBorrow]⟩, s, hstatus, h.signer, h.tokenProgram, _, h.authority, rfl, h.coinVault,
    h.pcVault, ?source, ?dest, coin, htoken hcoin.toHoldsToken, pc, htoken hpc.toHoldsToken, source,
    htoken hsource.toHoldsToken, dest, htoken hdest.toHoldsToken, _, hgate,
    ⟨[], [], pc.amount, coin.amount⟩, ?totals, dir, hdir, rfl⟩
  case status =>
    intro heq
    rw [swapStatusGate, heq] at hgate
    cases hgate
  case source => simp [← h.pcVault, ← h.coinVault, Ne.symm hps, Ne.symm hcs]
  case dest => simp [← h.pcVault, ← h.coinVault, Ne.symm hpd, Ne.symm hcd]
  case totals =>
    rw [swapTotals, if_neg (by simp [hoff]), Calculator.calcTotalWithoutTakePnlNoOrderbook]
    simp only [hz.needTakePnlPc, hz.needTakePnlCoin, hsub]
    rfl

/-- What the prologue of a ready swap finds. -/
theorem found (h : SwapReady env programId w a dir amm) {c : SwapContext}
    (hz : ZeroBaseline a.ammInfo.key amm.coinVault amm.pcVault targetOrders w amm)
    (hc : SwapChecked env programId a w amm c) :
    c.swapDirection = dir ∧ c.enableOrderbook = false ∧ c.amm.fees = amm.fees ∧
      c.amm.stateData = amm.stateData ∧ c.amm.nonceU8 = amm.nonceU8 ∧
      c.userSource.amount.toNat = w.balance a.userSourceInfo.key := by
  obtain ⟨coin, pc, source, dest, hcoin, hpc, hsource, hdest, hdir, -, -, -⟩ := h.tokens
  have hread : ∀ {info : AccountInfo} {t t' : TokenAccount}, HoldsToken w.accounts info t →
      (w.accounts info.key).data = .token t' → t' = t := by
    intro info t t' ht ht'
    rw [ht.stored] at ht'
    exact (AccountData.token.inj ht').symm
  obtain ⟨status, hrecord⟩ := hc.record
  have hcoin' : c.ammCoinVault = coin :=
    hread hcoin.toHoldsToken (by rw [h.coinVault]; exact hc.coinToken)
  have hpc' : c.ammPcVault = pc := hread hpc.toHoldsToken (by rw [h.pcVault]; exact hc.pcToken)
  have hdirection := hc.direction
  rw [hcoin', hpc', hread hsource.toHoldsToken hc.sourceToken,
    hread hdest.toHoldsToken hc.destinationToken, hdir]
    at hdirection
  refine ⟨(Except.ok.inj hdirection).symm, hc.enableOrderbook.trans hz.orderbookOff, ?_, ?_, ?_, ?_⟩
  · rw [hrecord]
  · rw [hrecord]
  · rw [hrecord]
    rfl
  · exact (balance_of_token hc.sourceToken).symm

end SwapReady

/-! Checks. -/

/-- The amounts of a swap: what the trader has to show, what his transfer moves, what the pool pays
    out, and what the counters of the input and of the fees add. -/
structure SwapAmounts where
  shown : ℕ
  paid : ℕ
  out : ℕ
  counted : ℕ
  fee : ℕ

/-- The amounts of a request. Towards coin an exact-in swap moves the amount out. -/
def SwapRequest.amounts (fees : Fees) (dir : SwapDirection) (p : ShareValue.Pool) :
    SwapRequest → SwapAmounts
  | .baseIn swap => {
      shown := swap.amountIn.toNat
      paid := dir.paidBaseIn swap.amountIn.toNat (swap.output fees dir p)
      out := swap.output fees dir p
      counted := swap.amountIn.toNat
      fee := (SwapRequest.baseIn swap).fee fees (dir.reserveIn p.x p.y) (dir.reserveOut p.x p.y)
    }
  | .baseOut swap => {
      shown := swap.input fees dir p
      paid := swap.input fees dir p
      out := swap.amountOut.toNat
      counted := swap.input fees dir p
      fee := (SwapRequest.baseOut swap).fee fees (dir.reserveIn p.x p.y) (dir.reserveOut p.x p.y)
    }

/-- The counters of the pool have room for a swap. -/
def SwapAmounts.Fits (m : SwapAmounts) (dir : SwapDirection) (s : StateData) : Prop :=
  (dir.inCounter s).toNat + m.counted < 2 ^ 128 ∧ (dir.outCounter s).toNat + m.out < 2 ^ 128 ∧
    (dir.feeCounter s).toNat + m.fee < 2 ^ 64

instance (m : SwapAmounts) (dir : SwapDirection) (s : StateData) : Decidable (m.Fits dir s) :=
  inferInstanceAs (Decidable (_ ∧ _))

section Checks

variable {fees : Fees} {source pc coin : U64} {dir : SwapDirection} {shares : ℕ}

theorem swapBaseInChecks_out (shares : ℕ) {swap : SwapInstructionBaseIn} {q : SwapBaseInQuote}
    (h : swapBaseInChecks fees swap source pc coin dir = .ok q) :
    q.swapAmountOut.toNat = swap.output fees dir ⟨coin.toNat, pc.toNat, shares⟩ := by
  unfold swapBaseInChecks at h
  simp only [↓check_bind_eq_ok, Outcome.bind_eq_ok, Outcome.pure_eq_ok] at h
  obtain ⟨-, q', hq, -, -, -, rfl⟩ := h
  exact BaseInQuoted.output_eq (p := ⟨coin.toNat, pc.toNat, shares⟩) (swapBaseInQuote_eq_ok hq)

theorem swapBaseOutChecks_in (shares : ℕ) {swap : SwapInstructionBaseOut} {q : SwapBaseOutQuote}
    (h : swapBaseOutChecks fees swap source pc coin dir = .ok q) :
    q.swapInAfterAddFee.toNat = swap.input fees dir ⟨coin.toNat, pc.toNat, shares⟩ := by
  unfold swapBaseOutChecks at h
  simp only [↓check_bind_eq_ok, Outcome.bind_eq_ok, Outcome.pure_eq_ok] at h
  obtain ⟨q', hq, -, -, -, -, rfl⟩ := h
  exact (swapBaseOutQuote_eq_ok hq).required

end Checks

/-! Calls. -/

namespace SwapReady

variable {env : Env} {programId targetOrders : Pubkey} {w w' : World} {a : SwapAccounts}
  {dir : SwapDirection} {amm : AmmInfo}

/-- The amounts of a swap that passed its checks are those of the machine. -/
theorem priced_amounts (h : SwapReady env programId w a dir amm)
    (hz : ZeroBaseline a.ammInfo.key amm.coinVault amm.pcVault targetOrders w amm)
    {request : SwapRequest} {p : SwapPriced}
    (hpriced : swapPriced env programId a request w = .ok (p, w')) :
    p.paid.toNat =
        (request.amounts amm.fees dir (sharePool amm.coinVault amm.pcVault w amm)).paid ∧
      p.out.toNat =
        (request.amounts amm.fees dir (sharePool amm.coinVault amm.pcVault w amm)).out ∧
      p.counted.toNat =
        (request.amounts amm.fees dir (sharePool amm.coinVault amm.pcVault w amm)).counted ∧
      p.fee.toNat =
        (request.amounts amm.fees dir (sharePool amm.coinVault amm.pcVault w amm)).fee := by
  obtain ⟨amm', hc, -⟩ := swapPrologue_eq_ok (swapPriced_prologue hpriced)
  obtain rfl : amm' = amm := AccountData.amm_unique hc.stored (by rw [h.stored])
  obtain ⟨hdir, -, hfees, -, -, -⟩ := h.found hz hc
  obtain ⟨hcoin, hpc⟩ := hc.reserves hz
  have hfee := SwapPriced.fee_eq hpriced
  rw [hdir, hfees, hcoin, hpc] at hfee
  obtain ⟨⟨c, w₁⟩, -, hrest⟩ := Outcome.bind_eq_ok.mp hpriced
  cases request with
  | baseIn swap =>
    obtain ⟨q, hchecks, hret⟩ := Outcome.bind_eq_ok.mp hrest
    cases hret
    have hout := swapBaseInChecks_out amm'.lpAmount.toNat hchecks
    rw [hdir, hfees, hcoin, hpc] at hout
    refine ⟨?_, hout, rfl, hfee⟩
    rw [hdir]
    cases dir with
    | coin2Pc => rfl
    | pc2Coin => exact hout
  | baseOut swap =>
    obtain ⟨q, hchecks, hret⟩ := Outcome.bind_eq_ok.mp hrest
    cases hret
    have hin := swapBaseOutChecks_in amm'.lpAmount.toNat hchecks
    rw [hdir, hfees, hcoin, hpc] at hin
    exact ⟨hin, rfl, hin, hfee⟩

/-- A swap that passed its checks is counted exactly where the counters have room. -/
theorem exists_finish_iff (h : SwapReady env programId w a dir amm)
    (hz : ZeroBaseline a.ammInfo.key amm.coinVault amm.pcVault targetOrders w amm)
    {request : SwapRequest} {p : SwapPriced}
    (hpriced : swapPriced env programId a request w = .ok (p, w')) (w₂ : World) :
    (∃ w₃, p.finish a.ammInfo.key w₂ = .ok w₃) ↔
      (request.amounts amm.fees dir (sharePool amm.coinVault amm.pcVault w amm)).Fits dir
        amm.stateData := by
  obtain ⟨-, hout, hcounted, hfee⟩ := h.priced_amounts hz hpriced
  obtain ⟨amm', hc, -⟩ := swapPrologue_eq_ok (swapPriced_prologue hpriced)
  obtain rfl : amm' = amm := AccountData.amm_unique hc.stored (by rw [h.stored])
  obtain ⟨hdir, -, -, hstate, -, -⟩ := h.found hz hc
  unfold SwapPriced.finish
  rw [Outcome.exists_bind_eq_ok, SwapAmounts.Fits, ← hcounted, ← hout, ← hfee, ← hstate, ← hdir,
    ← exists_countSwap_iff]
  constructor
  · rintro ⟨s', hs', -⟩
    exact ⟨s', hs'⟩
  · rintro ⟨s', hs'⟩
    exact ⟨s', hs', _, rfl⟩

end SwapReady

/-! ## 4. Runs -/

namespace Reference

end Reference

end RaydiumAmm
