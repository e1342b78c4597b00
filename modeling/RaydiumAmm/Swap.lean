import RaydiumAmm.Helpers

/-!
# Swap

`process_swap_base_in` and `process_swap_base_out`. The two handlers bind and check their accounts
in the same way up to the choice of the direction; that part is `swapPrologue`. Each then prices
the request and runs one of two branches by direction, which the source writes out four times.
-/

namespace RaydiumAmm

/-- `SwapInstructionBaseIn`. -/
structure SwapInstructionBaseIn where
  amountIn : U64
  minimumAmountOut : U64
deriving DecidableEq

/-- `SwapInstructionBaseOut`. -/
structure SwapInstructionBaseOut where
  maxAmountIn : U64
  amountOut : U64
deriving DecidableEq

/-! ## Accounts -/

/-- The accounts of a swap. -/
structure SwapAccounts where
  tokenProgramInfo : AccountInfo
  ammInfo : AccountInfo
  ammAuthorityInfo : AccountInfo
  ammOpenOrdersInfo : AccountInfo
  ammCoinVaultInfo : AccountInfo
  ammPcVaultInfo : AccountInfo
  ammCoinMintInfo : AccountInfo
  ammPcMintInfo : AccountInfo
  marketProgramInfo : AccountInfo
  marketInfo : AccountInfo
  marketBidsInfo : AccountInfo
  marketAsksInfo : AccountInfo
  marketEventQueueInfo : AccountInfo
  marketCoinVaultInfo : AccountInfo
  marketPcVaultInfo : AccountInfo
  marketVaultSigner : AccountInfo
  userSourceInfo : AccountInfo
  userDestinationInfo : AccountInfo
  userSourceOwner : AccountInfo

/-- `ACCOUNT_LEN` of the swap handlers. -/
def SWAP_ACCOUNT_LEN : Nat := 19

/-- The reads of a swap handler. -/
def swapBinder (inputAccountLen : Nat) : Binder SwapAccounts := do
  let tokenProgramInfo ← nextAccountInfo
  let ammInfo ← nextAccountInfo
  let ammAuthorityInfo ← nextAccountInfo
  let ammOpenOrdersInfo ← nextAccountInfo
  if inputAccountLen = SWAP_ACCOUNT_LEN + 1 then
    let _ammTargetOrdersInfo ← nextAccountInfo
  let ammCoinVaultInfo ← nextAccountInfo
  let ammPcVaultInfo ← nextAccountInfo
  let ammCoinMintInfo ← nextAccountInfo
  let ammPcMintInfo ← nextAccountInfo
  let marketProgramInfo ← nextAccountInfo
  let marketInfo ← nextAccountInfo
  let marketBidsInfo ← nextAccountInfo
  let marketAsksInfo ← nextAccountInfo
  let marketEventQueueInfo ← nextAccountInfo
  let marketCoinVaultInfo ← nextAccountInfo
  let marketPcVaultInfo ← nextAccountInfo
  let marketVaultSigner ← nextAccountInfo
  let userSourceInfo ← nextAccountInfo
  let userDestinationInfo ← nextAccountInfo
  let userSourceOwner ← nextAccountInfo
  return {
    tokenProgramInfo, ammInfo, ammAuthorityInfo, ammOpenOrdersInfo, ammCoinVaultInfo,
    ammPcVaultInfo, ammCoinMintInfo, ammPcMintInfo, marketProgramInfo, marketInfo,
    marketBidsInfo, marketAsksInfo, marketEventQueueInfo, marketCoinVaultInfo,
    marketPcVaultInfo, marketVaultSigner, userSourceInfo, userDestinationInfo, userSourceOwner
  }

/-- The length check and the reads. -/
def bindSwap (accounts : List AccountInfo) : Result SwapAccounts := do
  check (accounts.length = SWAP_ACCOUNT_LEN ∨ accounts.length = SWAP_ACCOUNT_LEN + 1)
    .wrongAccountsNumber
  (swapBinder accounts.length).bindAll accounts

/-- The accounts of a cancel call. -/
def SwapAccounts.cancelInfos (a : SwapAccounts) : CancelInfos where
  marketProgramInfo := a.marketProgramInfo
  marketInfo := a.marketInfo
  marketBidsInfo := a.marketBidsInfo
  marketAsksInfo := a.marketAsksInfo
  ammOpenOrdersInfo := a.ammOpenOrdersInfo
  ammAuthorityInfo := a.ammAuthorityInfo
  marketEventQInfo := a.marketEventQueueInfo

/-! ## The shared checks -/

/-- What a swap knows when it has fixed its direction. -/
structure SwapContext where
  amm : AmmInfo
  enableOrderbook : Bool
  ammCoinVault : TokenAccount
  ammPcVault : TokenAccount
  userSource : TokenAccount
  userDestination : TokenAccount
  bids : List LeafNode
  asks : List LeafNode
  totalPcWithoutTakePnl : U64
  totalCoinWithoutTakePnl : U64
  swapDirection : SwapDirection

/-- The status gate: an `OrderBookOnly` pool whose switch time has come becomes `Initialized`, a
    `WaitingTrade` pool that has opened becomes `SwapOnly`. -/
def swapStatusGate (amm : AmmInfo) (clock : Clock) : Result AmmInfo := do
  let status ← AmmStatus.fromU64 amm.status
  if !status.swapPermission then
    if amm.status = AmmStatus.orderBookOnly.intoU64 ∧
        clock.unixTimestamp ≥ amm.stateData.orderbookToInitTime then
      return { amm with status := AmmStatus.initialized.intoU64 }
    else Outcome.fail AmmError.invalidStatus.into
  else if amm.status = AmmStatus.waitingTrade.intoU64 then
    if clock.unixTimestamp < amm.stateData.poolOpenTime then
      Outcome.fail AmmError.invalidStatus.into
    else return { amm with status := AmmStatus.swapOnly.intoU64 }
  else return amm

/-- What the order book part of a swap finds: its orders and the totals `(pc, coin)`. -/
structure SwapTotals where
  bids : List LeafNode
  asks : List LeafNode
  totalPcWithoutTakePnl : U64
  totalCoinWithoutTakePnl : U64

/-- The totals that a swap prices against, with the pool's orders where the order book is on. -/
def swapTotals (env : Env) (a : SwapAccounts) (amm : AmmInfo) (enableOrderbook : Bool)
    (ammPcVaultAmount ammCoinVaultAmount : U64) (w : World) : Result SwapTotals := do
  if enableOrderbook then
    check (a.ammOpenOrdersInfo.key = amm.openOrders) .invalidOpenOrders
    check (a.marketProgramInfo.key = amm.marketProgram) .invalidMarketProgram
    check (a.marketInfo.key = amm.market) .invalidMarket
    let (marketState, openOrders) ← loadSerumMarketOrder env a.marketInfo a.ammOpenOrdersInfo
      a.ammAuthorityInfo amm false w
    let (bids, asks) ← loadAmmOrders env marketState openOrders a.marketBidsInfo a.marketAsksInfo w
    let (totalPc, totalCoin) ← calcTotal env ammPcVaultAmount ammCoinVaultAmount openOrders amm
      marketState a.marketEventQueueInfo a.ammOpenOrdersInfo w
    return ⟨bids, asks, totalPc, totalCoin⟩
  else
    let (totalPc, totalCoin) ←
      Calculator.calcTotalWithoutTakePnlNoOrderbook ammPcVaultAmount ammCoinVaultAmount amm
    return ⟨[], [], totalPc, totalCoin⟩

/-- The direction, by the mints of the user's accounts. -/
def chooseDirection (ammCoinVault ammPcVault userSource userDestination : TokenAccount) :
    Result SwapDirection :=
  if userSource.mint = ammCoinVault.mint ∧ userDestination.mint = ammPcVault.mint then
    .ok .coin2Pc
  else if userSource.mint = ammPcVault.mint ∧ userDestination.mint = ammCoinVault.mint then
    .ok .pc2Coin
  else Outcome.fail AmmError.invalidUserToken.into

/-- Both swap handlers from the load of the pool record to the choice of the direction. -/
def swapPrologue (env : Env) (programId : Pubkey) (a : SwapAccounts) (w : World) :
    Result (SwapContext × World) := do
  let (amm, w) ← AmmInfo.loadMutChecked w a.ammInfo programId
  let status ← AmmStatus.fromU64 amm.status
  let enableOrderbook := status.orderbookPermission
  check a.userSourceOwner.isSigner .invalidSignAccount
  check (a.tokenProgramInfo.key = splTokenId) .invalidSplTokenProgram
  let authority ← authorityId env programId AUTHORITY_AMM amm.nonceU8
  check (a.ammAuthorityInfo.key = authority) .invalidProgramAddress
  check (a.ammCoinVaultInfo.key = amm.coinVault) .invalidCoinVault
  check (a.ammPcVaultInfo.key = amm.pcVault) .invalidPCVault
  check (¬(a.userSourceInfo.key = amm.pcVault ∨ a.userSourceInfo.key = amm.coinVault))
    .invalidUserToken
  check (¬(a.userDestinationInfo.key = amm.pcVault ∨ a.userDestinationInfo.key = amm.coinVault))
    .invalidUserToken
  let ammCoinVault ← unpackTokenAccount w a.ammCoinVaultInfo a.tokenProgramInfo.key
  let ammPcVault ← unpackTokenAccount w a.ammPcVaultInfo a.tokenProgramInfo.key
  let userSource ← unpackTokenAccount w a.userSourceInfo a.tokenProgramInfo.key
  let userDestination ← unpackTokenAccount w a.userDestinationInfo a.tokenProgramInfo.key
  let amm ← swapStatusGate amm w.clock
  let totals ← swapTotals env a amm enableOrderbook ammPcVault.amount ammCoinVault.amount w
  let swapDirection ← chooseDirection ammCoinVault ammPcVault userSource userDestination
  return ({
    amm, enableOrderbook, ammCoinVault, ammPcVault, userSource, userDestination
    bids := totals.bids
    asks := totals.asks
    totalPcWithoutTakePnl := totals.totalPcWithoutTakePnl
    totalCoinWithoutTakePnl := totals.totalCoinWithoutTakePnl
    swapDirection
  }, w)

/-- `if enable_orderbook { … }` of a branch: cancel the side in the way, and settle where the vault
    is short. The branches differ in the side, in the vault that may be short, and in the account
    passed as the market's coin vault. -/
def freeFunds (env : Env) (a : SwapAccounts) (c : SwapContext) (orders : List LeafNode)
    (short : Bool) (coinVaultInfo : AccountInfo) (w : World) : Result World := do
  if c.enableOrderbook then
    let w ← cancelSide env a.cancelInfos c.amm.nonceU8 orders w
    if short then
      invokeDexSettleFunds env a.marketProgramInfo a.marketInfo a.ammOpenOrdersInfo
        a.ammAuthorityInfo coinVaultInfo a.marketPcVaultInfo a.ammCoinVaultInfo a.ammPcVaultInfo
        a.marketVaultSigner a.tokenProgramInfo (some a.ammPcVaultInfo) AUTHORITY_AMM
        c.amm.nonceU8 w
    else return w
  else return w

/-! ## Exact in -/

/-- The quote of an exact-in swap. -/
structure SwapBaseInQuote where
  swapFee : U128
  swapInAfterDeductFee : U128
  swapAmountOut : U64

/-- From the fee to the amount out. -/
def swapBaseInQuote (fees : Fees) (amountIn totalPcWithoutTakePnl totalCoinWithoutTakePnl : U64)
    (swapDirection : SwapDirection) : Result SwapBaseInQuote := do
  let gross ← Outcome.unwrap
    (Checked.mul (Calculator.toU128 amountIn) (Calculator.toU128 fees.swapFeeNumerator))
  let fee ← Outcome.unwrap (checkedCeilDiv gross (Calculator.toU128 fees.swapFeeDenominator))
  let swapFee := fee.1
  let swapInAfterDeductFee ←
    Outcome.unwrap (Checked.sub (Calculator.toU128 amountIn) swapFee)
  let out ← Calculator.swapTokenAmountBaseIn swapInAfterDeductFee
    (Calculator.toU128 totalPcWithoutTakePnl) (Calculator.toU128 totalCoinWithoutTakePnl)
    swapDirection
  let swapAmountOut ← Calculator.asU64 out
  return { swapFee, swapInAfterDeductFee, swapAmountOut }

/-- The `Coin2PC` branch of `process_swap_base_in`. -/
def swapBaseInCoin2Pc (env : Env) (programId : Pubkey) (a : SwapAccounts) (c : SwapContext)
    (swap : SwapInstructionBaseIn) (q : SwapBaseInQuote) (w : World) :
    Result (AmmInfo × World) := do
  check (¬(q.swapAmountOut ≥ c.totalPcWithoutTakePnl)) .insufficientFunds
  let w ← freeFunds env a c c.bids (q.swapAmountOut > c.ammPcVault.amount) a.marketCoinVaultInfo w
  let w ← tokenTransfer env programId a.tokenProgramInfo a.userSourceInfo a.ammCoinVaultInfo
    a.userSourceOwner swap.amountIn a.ammCoinMintInfo [] w
  let w ← tokenTransferWithAuthority env programId a.tokenProgramInfo a.ammPcVaultInfo
    a.userDestinationInfo a.ammAuthorityInfo AUTHORITY_AMM c.amm.nonceU8 q.swapAmountOut
    a.ammPcMintInfo [] w
  let s := c.amm.stateData
  let swapCoinInAmount ←
    Outcome.unwrap (Checked.add s.swapCoinInAmount (Calculator.toU128 swap.amountIn))
  let swapPcOutAmount ←
    Outcome.unwrap (Checked.add s.swapPcOutAmount (Calculator.toU128 q.swapAmountOut))
  let swapFee ← Calculator.asU64 q.swapFee
  let swapAccCoinFee ← Outcome.unwrap (Checked.add s.swapAccCoinFee swapFee)
  return ({ c.amm with
    stateData := { s with swapCoinInAmount, swapPcOutAmount, swapAccCoinFee } }, w)

/-- The `PC2Coin` branch of `process_swap_base_in`. -/
def swapBaseInPc2Coin (env : Env) (programId : Pubkey) (a : SwapAccounts) (c : SwapContext)
    (swap : SwapInstructionBaseIn) (q : SwapBaseInQuote) (w : World) :
    Result (AmmInfo × World) := do
  check (¬(q.swapAmountOut ≥ c.totalCoinWithoutTakePnl)) .insufficientFunds
  let w ← freeFunds env a c c.asks (q.swapAmountOut > c.ammCoinVault.amount)
    a.marketCoinVaultInfo w
  -- the amount of the first transfer is the amount out
  let w ← tokenTransfer env programId a.tokenProgramInfo a.userSourceInfo a.ammPcVaultInfo
    a.userSourceOwner q.swapAmountOut a.ammPcMintInfo [] w
  let w ← tokenTransferWithAuthority env programId a.tokenProgramInfo a.ammCoinVaultInfo
    a.userDestinationInfo a.ammAuthorityInfo AUTHORITY_AMM c.amm.nonceU8 q.swapAmountOut
    a.ammCoinMintInfo [] w
  let s := c.amm.stateData
  let swapPcInAmount ←
    Outcome.unwrap (Checked.add s.swapPcInAmount (Calculator.toU128 swap.amountIn))
  let swapCoinOutAmount ←
    Outcome.unwrap (Checked.add s.swapCoinOutAmount (Calculator.toU128 q.swapAmountOut))
  let swapFee ← Calculator.asU64 q.swapFee
  let swapAccPcFee ← Outcome.unwrap (Checked.add s.swapAccPcFee swapFee)
  return ({ c.amm with
    stateData := { s with swapPcInAmount, swapCoinOutAmount, swapAccPcFee } }, w)

/-- The branch of the direction. -/
def swapBaseInBranch (env : Env) (programId : Pubkey) (a : SwapAccounts) (c : SwapContext)
    (swap : SwapInstructionBaseIn) (q : SwapBaseInQuote) (w : World) :
    Result (AmmInfo × World) :=
  match c.swapDirection with
  | .coin2Pc => swapBaseInCoin2Pc env programId a c swap q w
  | .pc2Coin => swapBaseInPc2Coin env programId a c swap q w

/-- `process_swap_base_in` after the accounts are bound. -/
def swapBaseInBody (env : Env) (programId : Pubkey) (a : SwapAccounts)
    (swap : SwapInstructionBaseIn) (w : World) : Result World := do
  let (c, w) ← swapPrologue env programId a w
  check (¬(c.userSource.amount < swap.amountIn)) .insufficientFunds
  let q ← swapBaseInQuote c.amm.fees swap.amountIn c.totalPcWithoutTakePnl
    c.totalCoinWithoutTakePnl c.swapDirection
  check (¬(q.swapAmountOut < swap.minimumAmountOut)) .exceededSlippage
  check (¬(q.swapAmountOut = 0 ∨ swap.amountIn = 0)) .invalidInput
  let (amm, w) ← swapBaseInBranch env programId a c swap q w
  return w.dropRefMut a.ammInfo.key (.amm { amm with recentEpoch := w.clock.epoch })

/-- `process_swap_base_in`. -/
def processSwapBaseIn (env : Env) (programId : Pubkey) (accounts : List AccountInfo)
    (swap : SwapInstructionBaseIn) (w : World) : Result World := do
  let a ← bindSwap accounts
  swapBaseInBody env programId a swap w

/-! ## Exact out -/

/-- The quote of an exact-out swap. -/
structure SwapBaseOutQuote where
  swapInBeforeAddFee : U128
  swapInAfterAddFee : U64
  swapFee : U64

/-- From the amount before the fee to the fee. -/
def swapBaseOutQuote (fees : Fees) (amountOut totalPcWithoutTakePnl totalCoinWithoutTakePnl : U64)
    (swapDirection : SwapDirection) : Result SwapBaseOutQuote := do
  let swapInBeforeAddFee ← Calculator.swapTokenAmountBaseOut (Calculator.toU128 amountOut)
    (Calculator.toU128 totalPcWithoutTakePnl) (Calculator.toU128 totalCoinWithoutTakePnl)
    swapDirection
  let gross ← Outcome.unwrap
    (Checked.mul swapInBeforeAddFee (Calculator.toU128 fees.swapFeeDenominator))
  let share ← Outcome.unwrap (Checked.sub fees.swapFeeDenominator fees.swapFeeNumerator)
  let quotient ← Outcome.unwrap (checkedCeilDiv gross (Calculator.toU128 share))
  let swapInAfterAddFee ← Calculator.asU64 quotient.1
  let net ← Calculator.asU64 swapInBeforeAddFee
  let swapFee ← Outcome.unwrap (Checked.sub swapInAfterAddFee net)
  return { swapInBeforeAddFee, swapInAfterAddFee, swapFee }

/-- The `Coin2PC` branch of `process_swap_base_out`. -/
def swapBaseOutCoin2Pc (env : Env) (programId : Pubkey) (a : SwapAccounts) (c : SwapContext)
    (swap : SwapInstructionBaseOut) (q : SwapBaseOutQuote) (w : World) :
    Result (AmmInfo × World) := do
  check (¬(swap.amountOut ≥ c.totalPcWithoutTakePnl)) .insufficientFunds
  let w ← freeFunds env a c c.bids (swap.amountOut > c.ammPcVault.amount) a.marketCoinVaultInfo w
  let w ← tokenTransfer env programId a.tokenProgramInfo a.userSourceInfo a.ammCoinVaultInfo
    a.userSourceOwner q.swapInAfterAddFee a.ammCoinMintInfo [] w
  let w ← tokenTransferWithAuthority env programId a.tokenProgramInfo a.ammPcVaultInfo
    a.userDestinationInfo a.ammAuthorityInfo AUTHORITY_AMM c.amm.nonceU8 swap.amountOut
    a.ammPcMintInfo [] w
  let s := c.amm.stateData
  let swapCoinInAmount ←
    Outcome.unwrap (Checked.add s.swapCoinInAmount (Calculator.toU128 q.swapInAfterAddFee))
  let swapPcOutAmount ←
    Outcome.unwrap (Checked.add s.swapPcOutAmount (Calculator.toU128 swap.amountOut))
  let swapAccCoinFee ← Outcome.unwrap (Checked.add s.swapAccCoinFee q.swapFee)
  return ({ c.amm with
    stateData := { s with swapCoinInAmount, swapPcOutAmount, swapAccCoinFee } }, w)

/-- The `PC2Coin` branch of `process_swap_base_out`. -/
def swapBaseOutPc2Coin (env : Env) (programId : Pubkey) (a : SwapAccounts) (c : SwapContext)
    (swap : SwapInstructionBaseOut) (q : SwapBaseOutQuote) (w : World) :
    Result (AmmInfo × World) := do
  check (¬(swap.amountOut ≥ c.totalCoinWithoutTakePnl)) .insufficientFunds
  -- the account passed as the market's coin vault is the asks account
  let w ← freeFunds env a c c.asks (swap.amountOut > c.ammCoinVault.amount) a.marketAsksInfo w
  let w ← tokenTransfer env programId a.tokenProgramInfo a.userSourceInfo a.ammPcVaultInfo
    a.userSourceOwner q.swapInAfterAddFee a.ammPcMintInfo [] w
  let w ← tokenTransferWithAuthority env programId a.tokenProgramInfo a.ammCoinVaultInfo
    a.userDestinationInfo a.ammAuthorityInfo AUTHORITY_AMM c.amm.nonceU8 swap.amountOut
    a.ammCoinMintInfo [] w
  let s := c.amm.stateData
  let swapPcInAmount ←
    Outcome.unwrap (Checked.add s.swapPcInAmount (Calculator.toU128 q.swapInAfterAddFee))
  let swapCoinOutAmount ←
    Outcome.unwrap (Checked.add s.swapCoinOutAmount (Calculator.toU128 swap.amountOut))
  let swapAccPcFee ← Outcome.unwrap (Checked.add s.swapAccPcFee q.swapFee)
  return ({ c.amm with
    stateData := { s with swapPcInAmount, swapCoinOutAmount, swapAccPcFee } }, w)

/-- The branch of the direction. -/
def swapBaseOutBranch (env : Env) (programId : Pubkey) (a : SwapAccounts) (c : SwapContext)
    (swap : SwapInstructionBaseOut) (q : SwapBaseOutQuote) (w : World) :
    Result (AmmInfo × World) :=
  match c.swapDirection with
  | .coin2Pc => swapBaseOutCoin2Pc env programId a c swap q w
  | .pc2Coin => swapBaseOutPc2Coin env programId a c swap q w

/-- `process_swap_base_out` after the accounts are bound. -/
def swapBaseOutBody (env : Env) (programId : Pubkey) (a : SwapAccounts)
    (swap : SwapInstructionBaseOut) (w : World) : Result World := do
  let (c, w) ← swapPrologue env programId a w
  let q ← swapBaseOutQuote c.amm.fees swap.amountOut c.totalPcWithoutTakePnl
    c.totalCoinWithoutTakePnl c.swapDirection
  check (¬(c.userSource.amount < q.swapInAfterAddFee)) .insufficientFunds
  check (¬(swap.maxAmountIn < q.swapInAfterAddFee)) .exceededSlippage
  check (¬(q.swapInAfterAddFee = 0 ∨ swap.amountOut = 0)) .invalidInput
  let (amm, w) ← swapBaseOutBranch env programId a c swap q w
  return w.dropRefMut a.ammInfo.key (.amm { amm with recentEpoch := w.clock.epoch })

/-- `process_swap_base_out`. -/
def processSwapBaseOut (env : Env) (programId : Pubkey) (accounts : List AccountInfo)
    (swap : SwapInstructionBaseOut) (w : World) : Result World := do
  let a ← bindSwap accounts
  swapBaseOutBody env programId a swap w

end RaydiumAmm
