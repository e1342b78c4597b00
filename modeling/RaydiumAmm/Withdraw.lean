import RaydiumAmm.Helpers

/-!
# Withdraw

`process_withdraw`: the accounts with their two optional groups, the cancel-and-settle sequence of
an order book pool, the payouts, and the transfers, burn and records of a withdraw that goes
through.
-/

namespace RaydiumAmm

/-- `WithdrawInstruction`. -/
structure WithdrawInstruction where
  amount : U64
  minCoinAmount : Option U64
  minPcAmount : Option U64
deriving DecidableEq

/-- The accounts of a withdraw. -/
structure WithdrawAccounts where
  tokenProgramInfo : AccountInfo
  ammInfo : AccountInfo
  ammAuthorityInfo : AccountInfo
  ammOpenOrdersInfo : AccountInfo
  ammTargetOrdersInfo : AccountInfo
  ammLpMintInfo : AccountInfo
  ammCoinVaultInfo : AccountInfo
  ammPcVaultInfo : AccountInfo
  ammCoinMintInfo : AccountInfo
  ammPcMintInfo : AccountInfo
  marketProgramInfo : AccountInfo
  marketInfo : AccountInfo
  marketCoinVaultInfo : AccountInfo
  marketPcVaultInfo : AccountInfo
  marketVaultSigner : AccountInfo
  userSourceLpInfo : AccountInfo
  userDestCoinInfo : AccountInfo
  userDestPcInfo : AccountInfo
  sourceLpOwnerInfo : AccountInfo
  marketEventQInfo : AccountInfo
  marketBidsInfo : AccountInfo
  marketAsksInfo : AccountInfo
  referrerPcWallet : Option AccountInfo

/-! ## Accounts -/

/-- `ACCOUNT_LEN` of the withdraw handler. -/
def WITHDRAW_ACCOUNT_LEN : Nat := 20

/-- The two padding accounts are read at these lengths. -/
def withdrawHasPadding (inputAccountLen : Nat) : Prop :=
  inputAccountLen = WITHDRAW_ACCOUNT_LEN + 2 ∨ inputAccountLen = WITHDRAW_ACCOUNT_LEN + 3

/-- The referrer is read at these lengths. -/
def withdrawHasReferrer (inputAccountLen : Nat) : Prop :=
  inputAccountLen = WITHDRAW_ACCOUNT_LEN + 1 ∨ inputAccountLen = WITHDRAW_ACCOUNT_LEN + 3

instance (n : Nat) : Decidable (withdrawHasPadding n) := by
  unfold withdrawHasPadding
  infer_instance

instance (n : Nat) : Decidable (withdrawHasReferrer n) := by
  unfold withdrawHasReferrer
  infer_instance

/-- The reads of the withdraw handler. -/
def withdrawBinder (inputAccountLen : Nat) : Binder WithdrawAccounts := do
  let tokenProgramInfo ← nextAccountInfo
  let ammInfo ← nextAccountInfo
  let ammAuthorityInfo ← nextAccountInfo
  let ammOpenOrdersInfo ← nextAccountInfo
  let ammTargetOrdersInfo ← nextAccountInfo
  let ammLpMintInfo ← nextAccountInfo
  let ammCoinVaultInfo ← nextAccountInfo
  let ammPcVaultInfo ← nextAccountInfo
  let ammCoinMintInfo ← nextAccountInfo
  let ammPcMintInfo ← nextAccountInfo
  if withdrawHasPadding inputAccountLen then
    let _paddingAccountInfo1 ← nextAccountInfo
    let _paddingAccountInfo2 ← nextAccountInfo
  let marketProgramInfo ← nextAccountInfo
  let marketInfo ← nextAccountInfo
  let marketCoinVaultInfo ← nextAccountInfo
  let marketPcVaultInfo ← nextAccountInfo
  let marketVaultSigner ← nextAccountInfo
  let userSourceLpInfo ← nextAccountInfo
  let userDestCoinInfo ← nextAccountInfo
  let userDestPcInfo ← nextAccountInfo
  let sourceLpOwnerInfo ← nextAccountInfo
  let marketEventQInfo ← nextAccountInfo
  let marketBidsInfo ← nextAccountInfo
  let marketAsksInfo ← nextAccountInfo
  let mut referrerPcWallet := none
  if withdrawHasReferrer inputAccountLen then
    referrerPcWallet := some (← nextAccountInfo)
  return {
    tokenProgramInfo, ammInfo, ammAuthorityInfo, ammOpenOrdersInfo, ammTargetOrdersInfo,
    ammLpMintInfo, ammCoinVaultInfo, ammPcVaultInfo, ammCoinMintInfo, ammPcMintInfo,
    marketProgramInfo, marketInfo, marketCoinVaultInfo, marketPcVaultInfo, marketVaultSigner,
    userSourceLpInfo, userDestCoinInfo, userDestPcInfo, sourceLpOwnerInfo, marketEventQInfo,
    marketBidsInfo, marketAsksInfo, referrerPcWallet
  }

/-- The length check and the reads. -/
def bindWithdraw (accounts : List AccountInfo) : Result WithdrawAccounts := do
  check (accounts.length = WITHDRAW_ACCOUNT_LEN ∨ accounts.length = WITHDRAW_ACCOUNT_LEN + 1 ∨
      accounts.length = WITHDRAW_ACCOUNT_LEN + 2 ∨ accounts.length = WITHDRAW_ACCOUNT_LEN + 3)
    .wrongAccountsNumber
  (withdrawBinder accounts.length).bindAll accounts

/-- The accounts of a cancel call. -/
def WithdrawAccounts.cancelInfos (a : WithdrawAccounts) : CancelInfos where
  marketProgramInfo := a.marketProgramInfo
  marketInfo := a.marketInfo
  marketBidsInfo := a.marketBidsInfo
  marketAsksInfo := a.marketAsksInfo
  ammOpenOrdersInfo := a.ammOpenOrdersInfo
  ammAuthorityInfo := a.ammAuthorityInfo
  marketEventQInfo := a.marketEventQInfo

/-- `config::referrer_pc_wallet::id()`. -/
def referrerPcWalletId : Pubkey := Pubkey.default

/-- The test of a referrer wallet that is given and is not the default key. -/
def checkReferrer (a : WithdrawAccounts) (w : World) : Result Unit :=
  match a.referrerPcWallet with
  | some referrer =>
    if referrer.key ≠ Pubkey.default then do
      let referrerPcToken ← unpackTokenAccount w referrer a.tokenProgramInfo.key
      check (referrerPcToken.owner = referrerPcWalletId) .invalidOwner
    else .ok ()
  | none => .ok ()

/-- The wallet passed to the settle call: without a referrer, the pool's pc vault. -/
def WithdrawAccounts.referrer (a : WithdrawAccounts) : AccountInfo :=
  a.referrerPcWallet.getD a.ammPcVaultInfo

/-! ## Checks and totals -/

/-- What a withdraw knows before it computes the payouts. -/
structure WithdrawContext where
  amm : AmmInfo
  targetOrders : TargetOrders
  ammCoinVault : TokenAccount
  ammPcVault : TokenAccount
  totalPcWithoutTakePnl : U64
  totalCoinWithoutTakePnl : U64

/-- The totals `(pc, coin)` of a withdraw. With the order book on, all orders are cancelled and the
    funds settled first, but the amounts and records used are those loaded before. -/
def withdrawTotals (env : Env) (a : WithdrawAccounts) (amm : AmmInfo) (enableOrderbook : Bool)
    (ammCoinVault ammPcVault userDestCoin userDestPc : TokenAccount) (w : World) :
    Result ((U64 × U64) × World) := do
  if enableOrderbook then
    check (a.marketInfo.key = amm.market) .invalidMarket
    check (a.marketProgramInfo.key = amm.marketProgram) .invalidMarketProgram
    check (a.ammOpenOrdersInfo.key = amm.openOrders) .invalidOpenOrders
    let (marketState, openOrders) ← loadSerumMarketOrder env a.marketInfo a.ammOpenOrdersInfo
      a.ammAuthorityInfo amm false w
    let (bids, asks) ← loadAmmOrders env marketState openOrders a.marketBidsInfo a.marketAsksInfo w
    let w ← cancelAmmOrdersAndSettle env a.cancelInfos a.marketCoinVaultInfo a.marketPcVaultInfo
      a.ammCoinVaultInfo a.ammPcVaultInfo a.marketVaultSigner a.tokenProgramInfo
      (some a.referrer) bids asks amm.nonceU8 w
    check (¬(marketState.coinMint ≠ ammCoinVault.mint ∨ marketState.coinMint ≠ userDestCoin.mint))
      .invalidCoinMint
    check (¬(marketState.pcMint ≠ ammPcVault.mint ∨ marketState.pcMint ≠ userDestPc.mint))
      .invalidPCMint
    let totals ← calcTotal env ammPcVault.amount ammCoinVault.amount openOrders amm marketState
      a.marketEventQInfo a.ammOpenOrdersInfo w
    return (totals, w)
  else
    let totals ←
      Calculator.calcTotalWithoutTakePnlNoOrderbook ammPcVault.amount ammCoinVault.amount amm
    return (totals, w)

/-- `process_withdraw` from the referrer to the totals. -/
def withdrawPrologue (env : Env) (programId : Pubkey) (a : WithdrawAccounts)
    (withdraw : WithdrawInstruction) (w : World) : Result (WithdrawContext × World) := do
  checkReferrer a w
  check a.sourceLpOwnerInfo.isSigner .invalidSignAccount
  let (amm, w) ← AmmInfo.loadMutChecked w a.ammInfo programId
  let (targetOrders, w) ←
    TargetOrders.loadMutChecked w a.ammTargetOrdersInfo programId a.ammInfo.key
  let status ← AmmStatus.fromU64 amm.status
  check status.withdrawPermission .invalidStatus
  let authority ← authorityId env programId AUTHORITY_AMM amm.nonceU8
  check (a.ammAuthorityInfo.key = authority) .invalidProgramAddress
  let enableOrderbook := status.orderbookPermission
  check (a.tokenProgramInfo.key = splTokenId) .invalidSplTokenProgram
  check (¬(a.ammCoinVaultInfo.key ≠ amm.coinVault ∨ a.userDestCoinInfo.key = amm.coinVault))
    .invalidCoinVault
  check (¬(a.ammPcVaultInfo.key ≠ amm.pcVault ∨ a.userDestPcInfo.key = amm.pcVault))
    .invalidPCVault
  check (a.ammTargetOrdersInfo.key = amm.targetOrders) .invalidTargetOrders
  check (a.ammLpMintInfo.key = amm.lpMint) .invalidPoolMint
  let ammCoinVault ← unpackTokenAccount w a.ammCoinVaultInfo a.tokenProgramInfo.key
  let ammPcVault ← unpackTokenAccount w a.ammPcVaultInfo a.tokenProgramInfo.key
  let userDestCoin ← unpackTokenAccount w a.userDestCoinInfo a.tokenProgramInfo.key
  let userDestPc ← unpackTokenAccount w a.userDestPcInfo a.tokenProgramInfo.key
  let lpMint ← unpackMint w a.ammLpMintInfo a.tokenProgramInfo.key
  let userSourceLp ← unpackTokenAccount w a.userSourceLpInfo a.tokenProgramInfo.key
  check (userSourceLp.mint = a.ammLpMintInfo.key) .invalidTokenLP
  check (¬(withdraw.amount > userSourceLp.amount)) .insufficientFunds
  check (¬(withdraw.amount > lpMint.supply ∨ withdraw.amount ≥ amm.lpAmount)) .notAllowZeroLP
  let (totals, w) ← withdrawTotals env a amm enableOrderbook ammCoinVault ammPcVault userDestCoin
    userDestPc w
  return ({ amm, targetOrders, ammCoinVault, ammPcVault,
            totalPcWithoutTakePnl := totals.1, totalCoinWithoutTakePnl := totals.2 }, w)

/-! ## Payouts -/

/-- `calc_take_pnl`, skipped in the status `WithdrawOnly`. -/
def withdrawTakePnl (c : WithdrawContext) : TakePnl :=
  if c.amm.status ≠ AmmStatus.withdrawOnly.intoU64 then
    calcTakePnl c.targetOrders c.amm c.totalPcWithoutTakePnl c.totalCoinWithoutTakePnl
  else
    { amm := c.amm
      totalPcWithoutTakePnl := c.totalPcWithoutTakePnl
      totalCoinWithoutTakePnl := c.totalCoinWithoutTakePnl
      deltaX := 0
      deltaY := 0 }

/-- The payouts of a withdraw, rounded down, as `(coin, pc)`. -/
def withdrawAmounts (withdrawAmount ammLpAmount totalCoinWithoutTakePnl
    totalPcWithoutTakePnl : U64) : Result (U64 × U64) := do
  let invariant : InvariantPool := ⟨withdrawAmount, ammLpAmount⟩
  let coin ← invariant.exchangePoolToToken totalCoinWithoutTakePnl .floor
  let coinAmount ← Outcome.okOr coin AmmError.calculationExRateFailure.into
  let pc ← invariant.exchangePoolToToken totalPcWithoutTakePnl .floor
  let pcAmount ← Outcome.okOr pc AmmError.calculationExRateFailure.into
  return (coinAmount, pcAmount)

/-- The slippage bounds count only where both are given. -/
def withdrawSlippage (withdraw : WithdrawInstruction) (coinAmount pcAmount : U64) :
    Result Unit :=
  match withdraw.minCoinAmount, withdraw.minPcAmount with
  | some minCoin, some minPc =>
    check (¬(minCoin > coinAmount ∨ minPc > pcAmount)) .exceededSlippage
  | _, _ => .ok ()

/-- The new baseline of one token after a withdraw: `x1 - normalize(paid) - delta`. -/
def withdrawBaseline (x1 : U128) (paidAmount decimals sysDecimalValue : U64) (delta : U128) :
    Result U128 := do
  let normalized ← Calculator.normalizeDecimalV2 paidAmount decimals sysDecimalValue
  let difference ← Outcome.unwrap (Checked.sub x1 normalized)
  Outcome.unwrap (Checked.sub difference delta)

/-- `process_withdraw` after the accounts are bound. -/
def withdrawBody (env : Env) (programId : Pubkey) (a : WithdrawAccounts)
    (withdraw : WithdrawInstruction) (w : World) : Result World := do
  let (c, w) ← withdrawPrologue env programId a withdraw w
  let x1 ← Calculator.normalizeDecimalV2 c.totalPcWithoutTakePnl c.amm.pcDecimals
    c.amm.sysDecimalValue
  let y1 ← Calculator.normalizeDecimalV2 c.totalCoinWithoutTakePnl c.amm.coinDecimals
    c.amm.sysDecimalValue
  let p := withdrawTakePnl c
  let (coinAmount, pcAmount) ← withdrawAmounts withdraw.amount p.amm.lpAmount
    p.totalCoinWithoutTakePnl p.totalPcWithoutTakePnl
  check (¬(withdraw.amount = 0 ∨ coinAmount = 0 ∨ pcAmount = 0)) .invalidInput
  -- the vault amounts are those read before the settle call
  check (coinAmount < c.ammCoinVault.amount ∧ pcAmount < c.ammPcVault.amount) .takePnlError
  withdrawSlippage withdraw coinAmount pcAmount
  let w ← tokenTransferWithAuthority env programId a.tokenProgramInfo a.ammCoinVaultInfo
    a.userDestCoinInfo a.ammAuthorityInfo AUTHORITY_AMM p.amm.nonceU8 coinAmount
    a.ammCoinMintInfo [] w
  let w ← tokenTransferWithAuthority env programId a.tokenProgramInfo a.ammPcVaultInfo
    a.userDestPcInfo a.ammAuthorityInfo AUTHORITY_AMM p.amm.nonceU8 pcAmount a.ammPcMintInfo [] w
  let w ← tokenBurn env a.tokenProgramInfo a.userSourceLpInfo a.ammLpMintInfo a.sourceLpOwnerInfo
    withdraw.amount w
  let lpAmount ← Outcome.unwrap (Checked.sub p.amm.lpAmount withdraw.amount)
  let calcPnlX ← withdrawBaseline x1 pcAmount p.amm.pcDecimals p.amm.sysDecimalValue p.deltaX
  let calcPnlY ← withdrawBaseline y1 coinAmount p.amm.coinDecimals p.amm.sysDecimalValue p.deltaY
  let w := w.dropRefMut a.ammTargetOrdersInfo.key
    (.targetOrders { c.targetOrders with calcPnlX, calcPnlY })
  return w.dropRefMut a.ammInfo.key
    (.amm { p.amm with lpAmount, recentEpoch := w.clock.epoch })

/-- `process_withdraw`. -/
def processWithdraw (env : Env) (programId : Pubkey) (accounts : List AccountInfo)
    (withdraw : WithdrawInstruction) (w : World) : Result World := do
  let a ← bindWithdraw accounts
  withdrawBody env programId a withdraw w

end RaydiumAmm
