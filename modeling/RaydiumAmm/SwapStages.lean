import RaydiumAmm.QuoteSafety
import RaydiumAmm.Reconcile

/-!
# The stages of a swap

Both swap handlers do the same four things in order: they check the request and price it, move the
tokens, count the amounts, and write the record. `processSwap_eq` is that decomposition.
-/

namespace RaydiumAmm

/-! ## 1. Checks and price -/

/-- `process_swap_base_in` from the funds check to the first check of the branch, which compares
    the amount out with its total. -/
def swapBaseInChecks (fees : Fees) (swap : SwapInstructionBaseIn) (userSourceAmount
    totalPcWithoutTakePnl totalCoinWithoutTakePnl : U64) (swapDirection : SwapDirection) :
    Result SwapBaseInQuote := do
  check (¬(userSourceAmount < swap.amountIn)) .insufficientFunds
  let q ← swapBaseInQuote fees swap.amountIn totalPcWithoutTakePnl totalCoinWithoutTakePnl
    swapDirection
  check (¬(q.swapAmountOut < swap.minimumAmountOut)) .exceededSlippage
  check (¬(q.swapAmountOut = 0 ∨ swap.amountIn = 0)) .invalidInput
  check (¬(q.swapAmountOut ≥
      swapDirection.totalOut totalPcWithoutTakePnl totalCoinWithoutTakePnl)) .insufficientFunds
  return q

/-- A swap that passed every check: the amounts of its two transfers, what its statistics record,
    and the account that it passes as the market's coin vault. -/
structure SwapPriced where
  context : SwapContext
  coinVaultInfo : AccountInfo
  paid : U64
  counted : U64
  out : U64
  fee : U128

/-- Every check of either handler. -/
def swapPriced (env : Env) (programId : Pubkey) (a : SwapAccounts) (request : SwapRequest)
    (w : World) : Result (SwapPriced × World) := do
  let (c, w) ← swapPrologue env programId a w
  match request with
  | .baseIn swap =>
    let q ← swapBaseInChecks c.amm.fees swap c.userSource.amount c.totalPcWithoutTakePnl
      c.totalCoinWithoutTakePnl c.swapDirection
    return ({
      context := c
      coinVaultInfo := a.marketCoinVaultInfo
      paid := baseInPaid c.swapDirection swap.amountIn q.swapAmountOut
      counted := swap.amountIn
      out := q.swapAmountOut
      fee := q.swapFee
    }, w)
  | .baseOut swap =>
    let q ← swapBaseOutChecks c.amm.fees swap c.userSource.amount c.totalPcWithoutTakePnl
      c.totalCoinWithoutTakePnl c.swapDirection
    return ({
      context := c
      coinVaultInfo := baseOutCoinVaultInfo c.swapDirection a
      paid := q.swapInAfterAddFee
      counted := q.swapInAfterAddFee
      out := swap.amountOut
      fee := Calculator.toU128 q.swapFee
    }, w)

theorem swapPriced_prologue {env : Env} {programId : Pubkey} {a : SwapAccounts}
    {request : SwapRequest} {w w' : World} {p : SwapPriced}
    (h : swapPriced env programId a request w = .ok (p, w')) :
    swapPrologue env programId a w = .ok (p.context, w') := by
  obtain ⟨⟨c, w₁⟩, hpro, h⟩ := Outcome.bind_eq_ok.mp h
  cases request with
  | baseIn swap =>
    obtain ⟨q, -, hret⟩ := Outcome.bind_eq_ok.mp h
    cases hret
    exact hpro
  | baseOut swap =>
    obtain ⟨q, -, hret⟩ := Outcome.bind_eq_ok.mp h
    cases hret
    exact hpro

/-! ## 2. Movements -/

/-- The exchange calls and the two transfers. -/
def SwapPriced.move (env : Env) (programId : Pubkey) (a : SwapAccounts) (p : SwapPriced)
    (w : World) : Result World :=
  let c := p.context
  match c.swapDirection with
  | .coin2Pc => do
    let w ← freeFunds env a c c.bids (p.out > c.ammPcVault.amount) p.coinVaultInfo w
    let w ← tokenTransfer env programId a.tokenProgramInfo a.userSourceInfo a.ammCoinVaultInfo
      a.userSourceOwner p.paid a.ammCoinMintInfo [] w
    tokenTransferWithAuthority env programId a.tokenProgramInfo a.ammPcVaultInfo
      a.userDestinationInfo a.ammAuthorityInfo AUTHORITY_AMM c.amm.nonceU8 p.out a.ammPcMintInfo []
      w
  | .pc2Coin => do
    let w ← freeFunds env a c c.asks (p.out > c.ammCoinVault.amount) p.coinVaultInfo w
    let w ← tokenTransfer env programId a.tokenProgramInfo a.userSourceInfo a.ammPcVaultInfo
      a.userSourceOwner p.paid a.ammPcMintInfo [] w
    tokenTransferWithAuthority env programId a.tokenProgramInfo a.ammCoinVaultInfo
      a.userDestinationInfo a.ammAuthorityInfo AUTHORITY_AMM c.amm.nonceU8 p.out a.ammCoinMintInfo
      [] w

/-! ## 3. Statistics -/

/-- The three counters that a swap in one direction adds to. -/
def countSwap (dir : SwapDirection) (s : StateData) (counted out : U64) (fee : U128) :
    Result StateData :=
  match dir with
  | .coin2Pc => do
    let swapCoinInAmount ←
      Outcome.unwrap (Checked.add s.swapCoinInAmount (Calculator.toU128 counted))
    let swapPcOutAmount ← Outcome.unwrap (Checked.add s.swapPcOutAmount (Calculator.toU128 out))
    let swapFee ← Calculator.asU64 fee
    let swapAccCoinFee ← Outcome.unwrap (Checked.add s.swapAccCoinFee swapFee)
    return { s with swapCoinInAmount, swapPcOutAmount, swapAccCoinFee }
  | .pc2Coin => do
    let swapPcInAmount ←
      Outcome.unwrap (Checked.add s.swapPcInAmount (Calculator.toU128 counted))
    let swapCoinOutAmount ←
      Outcome.unwrap (Checked.add s.swapCoinOutAmount (Calculator.toU128 out))
    let swapFee ← Calculator.asU64 fee
    let swapAccPcFee ← Outcome.unwrap (Checked.add s.swapAccPcFee swapFee)
    return { s with swapPcInAmount, swapCoinOutAmount, swapAccPcFee }

/-- The counters, and the write of the record. -/
def SwapPriced.finish (p : SwapPriced) (ammKey : Pubkey) (w : World) : Result World := do
  let c := p.context
  let stateData ← countSwap c.swapDirection c.amm.stateData p.counted p.out p.fee
  return w.dropRefMut ammKey (.amm { c.amm with stateData, recentEpoch := w.clock.epoch })

/-! ## 4. The handlers -/

section Handlers

variable {env : Env} {programId : Pubkey} {a : SwapAccounts} {w : World}

theorem swapBaseInBranch_eq {c : SwapContext} {swap : SwapInstructionBaseIn} {q : SwapBaseInQuote} :
    swapBaseInBranch env programId a c swap q w = (do
      check (¬(q.swapAmountOut ≥
        c.swapDirection.totalOut c.totalPcWithoutTakePnl c.totalCoinWithoutTakePnl))
        .insufficientFunds
      let p : SwapPriced := ⟨c, a.marketCoinVaultInfo,
        baseInPaid c.swapDirection swap.amountIn q.swapAmountOut, swap.amountIn, q.swapAmountOut,
        q.swapFee⟩
      let w ← p.move env programId a w
      let stateData ← countSwap c.swapDirection c.amm.stateData p.counted p.out p.fee
      return ({ c.amm with stateData }, w)) := by
  unfold swapBaseInBranch
  cases hdir : c.swapDirection with
  | coin2Pc =>
    simp only [swapBaseInCoin2Pc, SwapPriced.move, hdir, countSwap, bind_assoc, pure_bind]
    rfl
  | pc2Coin =>
    simp only [swapBaseInPc2Coin, SwapPriced.move, hdir, countSwap, bind_assoc, pure_bind]
    rfl

theorem swapBaseOutBranch_eq {c : SwapContext} {swap : SwapInstructionBaseOut}
    {q : SwapBaseOutQuote} :
    swapBaseOutBranch env programId a c swap q w = (do
      check (¬(swap.amountOut ≥
        c.swapDirection.totalOut c.totalPcWithoutTakePnl c.totalCoinWithoutTakePnl))
        .insufficientFunds
      let p : SwapPriced := ⟨c, baseOutCoinVaultInfo c.swapDirection a, q.swapInAfterAddFee,
        q.swapInAfterAddFee, swap.amountOut, Calculator.toU128 q.swapFee⟩
      let w ← p.move env programId a w
      let stateData ← countSwap c.swapDirection c.amm.stateData p.counted p.out p.fee
      return ({ c.amm with stateData }, w)) := by
  unfold swapBaseOutBranch
  cases hdir : c.swapDirection with
  | coin2Pc =>
    simp only [swapBaseOutCoin2Pc, SwapPriced.move, hdir, countSwap, bind_assoc, pure_bind,
      asU64_toU128, Outcome.ok_bind]
    rfl
  | pc2Coin =>
    simp only [swapBaseOutPc2Coin, SwapPriced.move, hdir, countSwap, bind_assoc, pure_bind,
      asU64_toU128, Outcome.ok_bind]
    rfl

/-- A swap is its checks, its movements, and the counting with the write of the record. -/
theorem processSwap_eq {call : SwapCall} (hbind : bindSwap call.accounts = .ok a) :
    processSwap env programId call w = (do
      let (p, w) ← swapPriced env programId a call.request w
      let w ← p.move env programId a w
      p.finish a.ammInfo.key w) := by
  unfold processSwap
  cases hrequest : call.request with
  | baseIn swap =>
    simp only [processSwapBaseIn, hbind, Outcome.ok_bind, swapBaseInBody, swapPriced,
      swapBaseInChecks, swapBaseInBranch_eq, SwapPriced.finish, bind_assoc, pure_bind]
  | baseOut swap =>
    simp only [processSwapBaseOut, hbind, Outcome.ok_bind, swapBaseOutBody, swapPriced,
      swapBaseOutChecks, swapBaseOutBranch_eq, SwapPriced.finish, bind_assoc, pure_bind]

end Handlers

end RaydiumAmm
