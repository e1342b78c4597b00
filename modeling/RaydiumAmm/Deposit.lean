import RaydiumAmm.Helpers

/-!
# Deposit

`process_deposit`: the accounts, the totals after the pending profit is booked, the two-sided
price of the request, and the transfers and records of a deposit that goes through.
-/

namespace RaydiumAmm

/-- `DepositInstruction`. -/
structure DepositInstruction where
  maxCoinAmount : U64
  maxPcAmount : U64
  baseSide : U64
  otherAmountMin : Option U64
deriving DecidableEq

/-- The accounts of a deposit. -/
structure DepositAccounts where
  tokenProgramInfo : AccountInfo
  ammInfo : AccountInfo
  ammAuthorityInfo : AccountInfo
  ammOpenOrdersInfo : AccountInfo
  ammTargetOrdersInfo : AccountInfo
  ammLpMintInfo : AccountInfo
  ammCoinVaultInfo : AccountInfo
  ammPcVaultInfo : AccountInfo
  marketInfo : AccountInfo
  userSourceCoinInfo : AccountInfo
  userSourcePcInfo : AccountInfo
  userDestLpInfo : AccountInfo
  sourceOwnerInfo : AccountInfo
  marketEventQueueInfo : AccountInfo
  coinMintInfo : AccountInfo
  pcMintInfo : AccountInfo

/-- `ACCOUNT_LEN` of the deposit handler. -/
def DEPOSIT_ACCOUNT_LEN : Nat := 16

/-- The reads of the deposit handler. -/
def depositBinder : Binder DepositAccounts := do
  let tokenProgramInfo ← nextAccountInfo
  let ammInfo ← nextAccountInfo
  let ammAuthorityInfo ← nextAccountInfo
  let ammOpenOrdersInfo ← nextAccountInfo
  let ammTargetOrdersInfo ← nextAccountInfo
  let ammLpMintInfo ← nextAccountInfo
  let ammCoinVaultInfo ← nextAccountInfo
  let ammPcVaultInfo ← nextAccountInfo
  let marketInfo ← nextAccountInfo
  let userSourceCoinInfo ← nextAccountInfo
  let userSourcePcInfo ← nextAccountInfo
  let userDestLpInfo ← nextAccountInfo
  let sourceOwnerInfo ← nextAccountInfo
  let marketEventQueueInfo ← nextAccountInfo
  let coinMintInfo ← nextAccountInfo
  let pcMintInfo ← nextAccountInfo
  return {
    tokenProgramInfo, ammInfo, ammAuthorityInfo, ammOpenOrdersInfo, ammTargetOrdersInfo,
    ammLpMintInfo, ammCoinVaultInfo, ammPcVaultInfo, marketInfo, userSourceCoinInfo,
    userSourcePcInfo, userDestLpInfo, sourceOwnerInfo, marketEventQueueInfo, coinMintInfo,
    pcMintInfo
  }

/-- The length check and the reads. -/
def bindDeposit (accounts : List AccountInfo) : Result DepositAccounts := do
  check (accounts.length = DEPOSIT_ACCOUNT_LEN ∨ accounts.length = DEPOSIT_ACCOUNT_LEN + 1)
    .wrongAccountsNumber
  depositBinder.bindAll accounts

/-- What a deposit knows before it prices the request. -/
structure DepositContext where
  amm : AmmInfo
  targetOrders : TargetOrders
  userSourceCoin : TokenAccount
  userSourcePc : TokenAccount
  totalPcWithoutTakePnl : U64
  totalCoinWithoutTakePnl : U64

/-- The totals `(pc, coin)` of a deposit. -/
def depositTotals (env : Env) (a : DepositAccounts) (amm : AmmInfo) (enableOrderbook : Bool)
    (ammCoinVault ammPcVault userSourceCoin userSourcePc : TokenAccount) (w : World) :
    Result (U64 × U64) := do
  if enableOrderbook then
    check (a.marketInfo.key = amm.market) .invalidMarket
    check (a.ammOpenOrdersInfo.key = amm.openOrders) .invalidOpenOrders
    let (marketState, openOrders) ← loadSerumMarketOrder env a.marketInfo a.ammOpenOrdersInfo
      a.ammAuthorityInfo amm false w
    check (¬(marketState.coinMint ≠ ammCoinVault.mint ∨ marketState.coinMint ≠ userSourceCoin.mint))
      .invalidCoinMint
    check (¬(marketState.pcMint ≠ ammPcVault.mint ∨ marketState.pcMint ≠ userSourcePc.mint))
      .invalidPCMint
    calcTotal env ammPcVault.amount ammCoinVault.amount openOrders amm marketState
      a.marketEventQueueInfo a.ammOpenOrdersInfo w
  else
    Calculator.calcTotalWithoutTakePnlNoOrderbook ammPcVault.amount ammCoinVault.amount amm

/-- `process_deposit` from the load of the pool record to the totals. -/
def depositPrologue (env : Env) (programId : Pubkey) (a : DepositAccounts)
    (deposit : DepositInstruction) (w : World) : Result (DepositContext × World) := do
  let (amm, w) ← AmmInfo.loadMutChecked w a.ammInfo programId
  check (¬(deposit.maxCoinAmount = 0 ∨ deposit.maxPcAmount = 0)) .invalidInput
  check a.sourceOwnerInfo.isSigner .invalidSignAccount
  let status ← AmmStatus.fromU64 amm.status
  check status.depositPermission .invalidStatus
  let authority ← authorityId env programId AUTHORITY_AMM amm.nonceU8
  check (a.ammAuthorityInfo.key = authority) .invalidProgramAddress
  let enableOrderbook := status.orderbookPermission
  check (¬(a.ammCoinVaultInfo.key ≠ amm.coinVault ∨ a.userSourceCoinInfo.key = amm.coinVault))
    .invalidCoinVault
  check (¬(a.ammPcVaultInfo.key ≠ amm.pcVault ∨ a.userSourcePcInfo.key = amm.pcVault))
    .invalidPCVault
  check (a.ammLpMintInfo.key = amm.lpMint) .invalidPoolMint
  check (a.ammTargetOrdersInfo.key = amm.targetOrders) .invalidTargetOrders
  let ammCoinVault ← unpackTokenAccount w a.ammCoinVaultInfo a.tokenProgramInfo.key
  let ammPcVault ← unpackTokenAccount w a.ammPcVaultInfo a.tokenProgramInfo.key
  let userSourceCoin ← unpackTokenAccount w a.userSourceCoinInfo a.tokenProgramInfo.key
  let userSourcePc ← unpackTokenAccount w a.userSourcePcInfo a.tokenProgramInfo.key
  let (targetOrders, w) ←
    TargetOrders.loadMutChecked w a.ammTargetOrdersInfo programId a.ammInfo.key
  let (totalPcWithoutTakePnl, totalCoinWithoutTakePnl) ← depositTotals env a amm enableOrderbook
    ammCoinVault ammPcVault userSourceCoin userSourcePc w
  return ({ amm, targetOrders, userSourceCoin, userSourcePc, totalPcWithoutTakePnl,
            totalCoinWithoutTakePnl }, w)

/-- What a deposit takes and mints. -/
structure DepositAmounts where
  deductPcAmount : U64
  deductCoinAmount : U64
  mintLpAmount : U64

/-- `if let Some(other_min) = … { … }`. -/
def checkOtherAmountMin (amount : U64) : Option U64 → Result Unit
  | some otherMin => check (¬(amount < otherMin)) .exceededSlippage
  | none => .ok ()

/-- The price of a deposit at the given totals. -/
def depositAmounts (deposit : DepositInstruction) (lpAmount totalPcWithoutTakePnl
    totalCoinWithoutTakePnl : U64) : Result DepositAmounts := do
  let invariant : InvariantToken := ⟨totalCoinWithoutTakePnl, totalPcWithoutTakePnl⟩
  if deposit.baseSide = 0 then
    let exchanged ← invariant.exchangeCoinToPc deposit.maxCoinAmount .ceiling
    let deductPcAmount ← Outcome.okOr exchanged AmmError.calculationExRateFailure.into
    let deductCoinAmount := deposit.maxCoinAmount
    check (¬(deductPcAmount > deposit.maxPcAmount)) .exceededSlippage
    checkOtherAmountMin deductPcAmount deposit.otherAmountMin
    let invariantCoin : InvariantPool := ⟨deductCoinAmount, totalCoinWithoutTakePnl⟩
    let minted ← invariantCoin.exchangeTokenToPool lpAmount .floor
    let mintLpAmount ← Outcome.okOr minted AmmError.calculationExRateFailure.into
    return { deductPcAmount, deductCoinAmount, mintLpAmount }
  else
    let exchanged ← invariant.exchangePcToCoin deposit.maxPcAmount .ceiling
    let deductCoinAmount ← Outcome.okOr exchanged AmmError.calculationExRateFailure.into
    let deductPcAmount := deposit.maxPcAmount
    check (¬(deductCoinAmount > deposit.maxCoinAmount)) .exceededSlippage
    checkOtherAmountMin deductCoinAmount deposit.otherAmountMin
    let invariantPc : InvariantPool := ⟨deductPcAmount, totalPcWithoutTakePnl⟩
    let minted ← invariantPc.exchangeTokenToPool lpAmount .floor
    let mintLpAmount ← Outcome.okOr minted AmmError.calculationExRateFailure.into
    return { deductPcAmount, deductCoinAmount, mintLpAmount }

/-- The new baseline of one token after a deposit: `x1 + normalize(deduct) - delta`. -/
def depositBaseline (x1 : U128) (deductAmount decimals sysDecimalValue : U64) (delta : U128) :
    Result U128 := do
  let normalized ← Calculator.normalizeDecimalV2 deductAmount decimals sysDecimalValue
  let sum ← Outcome.unwrap (Checked.add x1 normalized)
  Outcome.unwrap (Checked.sub sum delta)

/-- `process_deposit` after the accounts are bound. -/
def depositBody (env : Env) (programId : Pubkey) (a : DepositAccounts)
    (deposit : DepositInstruction) (w : World) : Result World := do
  let (c, w) ← depositPrologue env programId a deposit w
  let x1 ← Calculator.normalizeDecimalV2 c.totalPcWithoutTakePnl c.amm.pcDecimals
    c.amm.sysDecimalValue
  let y1 ← Calculator.normalizeDecimalV2 c.totalCoinWithoutTakePnl c.amm.coinDecimals
    c.amm.sysDecimalValue
  let p := calcTakePnl c.targetOrders c.amm c.totalPcWithoutTakePnl c.totalCoinWithoutTakePnl
  check (p.amm.lpAmount ≠ 0) .notAllowZeroLP
  let d ← depositAmounts deposit p.amm.lpAmount p.totalPcWithoutTakePnl p.totalCoinWithoutTakePnl
  check (¬(d.deductCoinAmount > c.userSourceCoin.amount ∨ d.deductPcAmount > c.userSourcePc.amount))
    .insufficientFunds
  check (¬(d.mintLpAmount = 0 ∨ d.deductCoinAmount = 0 ∨ d.deductPcAmount = 0)) .invalidInput
  let w ← tokenTransfer env programId a.tokenProgramInfo a.userSourceCoinInfo a.ammCoinVaultInfo
    a.sourceOwnerInfo d.deductCoinAmount a.coinMintInfo [] w
  let w ← tokenTransfer env programId a.tokenProgramInfo a.userSourcePcInfo a.ammPcVaultInfo
    a.sourceOwnerInfo d.deductPcAmount a.pcMintInfo [] w
  let w ← tokenMintTo env a.tokenProgramInfo a.ammLpMintInfo a.userDestLpInfo a.ammAuthorityInfo
    AUTHORITY_AMM p.amm.nonceU8 d.mintLpAmount w
  let lpAmount ← Outcome.unwrap (Checked.add p.amm.lpAmount d.mintLpAmount)
  let calcPnlX ← depositBaseline x1 d.deductPcAmount p.amm.pcDecimals p.amm.sysDecimalValue
    p.deltaX
  let calcPnlY ← depositBaseline y1 d.deductCoinAmount p.amm.coinDecimals p.amm.sysDecimalValue
    p.deltaY
  let w := w.dropRefMut a.ammTargetOrdersInfo.key
    (.targetOrders { c.targetOrders with calcPnlX, calcPnlY })
  return w.dropRefMut a.ammInfo.key
    (.amm { p.amm with lpAmount, recentEpoch := w.clock.epoch })

/-- `process_deposit`. -/
def processDeposit (env : Env) (programId : Pubkey) (accounts : List AccountInfo)
    (deposit : DepositInstruction) (w : World) : Result World := do
  let a ← bindDeposit accounts
  depositBody env programId a deposit w

end RaydiumAmm
