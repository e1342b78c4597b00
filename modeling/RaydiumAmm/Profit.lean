import RaydiumAmm.Helpers

/-!
# Profit

`process_monitor_step`, which books the pending profit, and `process_withdrawpnl`, which pays it.
-/

namespace RaydiumAmm

/-! ## Monitor step -/

/-- `MonitorStepInstruction`. The limits are not read. -/
structure MonitorStepInstruction where
  planOrderLimit : U16
  placeOrderLimit : U16
  cancelOrderLimit : U16
deriving DecidableEq

/-- The accounts of a monitor step. -/
structure MonitorAccounts where
  ammInfo : AccountInfo
  ammAuthorityInfo : AccountInfo
  ammOpenOrdersInfo : AccountInfo
  ammTargetOrdersInfo : AccountInfo
  ammCoinVaultInfo : AccountInfo
  ammPcVaultInfo : AccountInfo
  marketProgramInfo : AccountInfo
  marketInfo : AccountInfo
  marketBidsInfo : AccountInfo
  marketAsksInfo : AccountInfo
  marketEventQueueInfo : AccountInfo
  marketCoinVaultInfo : AccountInfo
  marketPcVaultInfo : AccountInfo
  marketVaultSigner : AccountInfo
  tokenProgramInfo : AccountInfo
  userWalletInfo : AccountInfo

/-- The reads of the monitor handler. -/
def bindMonitor (accounts : List AccountInfo) : Result MonitorAccounts :=
  Binder.bindAll (do
    let ammInfo ← nextAccountInfo
    let ammAuthorityInfo ← nextAccountInfo
    let ammOpenOrdersInfo ← nextAccountInfo
    let ammTargetOrdersInfo ← nextAccountInfo
    let ammCoinVaultInfo ← nextAccountInfo
    let ammPcVaultInfo ← nextAccountInfo
    let marketProgramInfo ← nextAccountInfo
    let marketInfo ← nextAccountInfo
    let marketBidsInfo ← nextAccountInfo
    let marketAsksInfo ← nextAccountInfo
    let marketEventQueueInfo ← nextAccountInfo
    let marketCoinVaultInfo ← nextAccountInfo
    let marketPcVaultInfo ← nextAccountInfo
    let marketVaultSigner ← nextAccountInfo
    let tokenProgramInfo ← nextAccountInfo
    let userWalletInfo ← nextAccountInfo
    return {
      ammInfo, ammAuthorityInfo, ammOpenOrdersInfo, ammTargetOrdersInfo, ammCoinVaultInfo,
      ammPcVaultInfo, marketProgramInfo, marketInfo, marketBidsInfo, marketAsksInfo,
      marketEventQueueInfo, marketCoinVaultInfo, marketPcVaultInfo, marketVaultSigner,
      tokenProgramInfo, userWalletInfo
    }) accounts

/-- The accounts of a cancel call. -/
def MonitorAccounts.cancelInfos (a : MonitorAccounts) : CancelInfos where
  marketProgramInfo := a.marketProgramInfo
  marketInfo := a.marketInfo
  marketBidsInfo := a.marketBidsInfo
  marketAsksInfo := a.marketAsksInfo
  ammOpenOrdersInfo := a.ammOpenOrdersInfo
  ammAuthorityInfo := a.ammAuthorityInfo
  marketEventQInfo := a.marketEventQueueInfo

/-- What a monitor step knows before it books the profit. -/
structure MonitorContext where
  amm : AmmInfo
  targetOrders : TargetOrders
  bids : List LeafNode
  asks : List LeafNode
  totalPcWithoutTakePnl : U64
  totalCoinWithoutTakePnl : U64

/-- `process_monitor_step` up to the totals. The vault accounts and the market program are not
    compared with the pool record. -/
def monitorPrologue (env : Env) (programId : Pubkey) (a : MonitorAccounts) (w : World) :
    Result (MonitorContext × World) := do
  check a.userWalletInfo.isSigner .invalidSignAccount
  let (amm, w) ← AmmInfo.loadMutChecked w a.ammInfo programId
  let authority ← authorityId env programId AUTHORITY_AMM amm.nonceU8
  check (a.ammAuthorityInfo.key = authority) .invalidProgramAddress
  check (a.tokenProgramInfo.key = splTokenId) .invalidSplTokenProgram
  check (a.marketInfo.key = amm.market) .invalidMarket
  check (a.ammOpenOrdersInfo.key = amm.openOrders) .invalidOpenOrders
  check (a.ammTargetOrdersInfo.key = amm.targetOrders) .invalidTargetOrders
  let (marketState, openOrders) ← loadSerumMarketOrder env a.marketInfo a.ammOpenOrdersInfo
    a.ammAuthorityInfo amm false w
  let (bids, asks) ← loadAmmOrders env marketState openOrders a.marketBidsInfo a.marketAsksInfo w
  let (targetOrders, w) ←
    TargetOrders.loadMutChecked w a.ammTargetOrdersInfo programId a.ammInfo.key
  let ammCoinVault ← unpackTokenAccount w a.ammCoinVaultInfo a.tokenProgramInfo.key
  let ammPcVault ← unpackTokenAccount w a.ammPcVaultInfo a.tokenProgramInfo.key
  let (totalPcWithoutTakePnl, totalCoinWithoutTakePnl) ← calcTotal env ammPcVault.amount
    ammCoinVault.amount openOrders amm marketState a.marketEventQueueInfo a.ammOpenOrdersInfo w
  return ({ amm, targetOrders, bids, asks, totalPcWithoutTakePnl, totalCoinWithoutTakePnl }, w)

/-- `if !bids.is_empty() || !asks.is_empty() { … }`: cancel the pool's orders and settle. -/
def monitorCancel (env : Env) (a : MonitorAccounts) (c : MonitorContext) (w : World) :
    Result World :=
  if ¬c.bids.isEmpty ∨ ¬c.asks.isEmpty then
    cancelAmmOrdersAndSettle env a.cancelInfos a.marketCoinVaultInfo a.marketPcVaultInfo
      a.ammCoinVaultInfo a.ammPcVaultInfo a.marketVaultSigner a.tokenProgramInfo none
      c.bids c.asks c.amm.nonceU8 w
  else .ok w

/-- `process_monitor_step` after the accounts are bound. -/
def monitorBody (env : Env) (programId : Pubkey) (a : MonitorAccounts) (w : World) :
    Result World := do
  let (c, w) ← monitorPrologue env programId a w
  let p := calcTakePnl c.targetOrders c.amm c.totalPcWithoutTakePnl c.totalCoinWithoutTakePnl
  let targetOrders := updateTargetOrdersPnl c.targetOrders
    (Calculator.toU128 p.totalPcWithoutTakePnl) (Calculator.toU128 p.totalCoinWithoutTakePnl)
    p.deltaX p.deltaY
  let w ← monitorCancel env a c w
  let w := w.dropRefMut a.ammTargetOrdersInfo.key (.targetOrders targetOrders)
  return w.dropRefMut a.ammInfo.key (.amm p.amm)

/-- `process_monitor_step`. -/
def processMonitorStep (env : Env) (programId : Pubkey) (accounts : List AccountInfo)
    (_monitor : MonitorStepInstruction) (w : World) : Result World := do
  let a ← bindMonitor accounts
  monitorBody env programId a w

/-! ## Withdrawal of the profit -/

/-- The accounts of a profit withdrawal. -/
structure WithdrawPnlAccounts where
  ammInfo : AccountInfo
  ammAuthorityInfo : AccountInfo
  ammCoinVaultInfo : AccountInfo
  ammPcVaultInfo : AccountInfo
  userDestCoinInfo : AccountInfo
  userDestPcInfo : AccountInfo
  tokenProgramInfo : AccountInfo
  userWalletInfo : AccountInfo

/-- The reads of the profit withdrawal. -/
def bindWithdrawPnl (accounts : List AccountInfo) : Result WithdrawPnlAccounts :=
  Binder.bindAll (do
    let ammInfo ← nextAccountInfo
    let ammAuthorityInfo ← nextAccountInfo
    let ammCoinVaultInfo ← nextAccountInfo
    let ammPcVaultInfo ← nextAccountInfo
    let userDestCoinInfo ← nextAccountInfo
    let userDestPcInfo ← nextAccountInfo
    let tokenProgramInfo ← nextAccountInfo
    let userWalletInfo ← nextAccountInfo
    return {
      ammInfo, ammAuthorityInfo, ammCoinVaultInfo, ammPcVaultInfo, userDestCoinInfo,
      userDestPcInfo, tokenProgramInfo, userWalletInfo
    }) accounts

/-- `process_withdrawpnl` up to the payment. The config account is not among its accounts: the
    signer only has to own the destinations. -/
def withdrawPnlPrologue (env : Env) (programId : Pubkey) (a : WithdrawPnlAccounts) (w : World) :
    Result (AmmInfo × World) := do
  check a.userWalletInfo.isSigner .invalidSignAccount
  let (amm, w) ← AmmInfo.loadMutChecked w a.ammInfo programId
  let authority ← authorityId env programId AUTHORITY_AMM amm.nonceU8
  check (a.ammAuthorityInfo.key = authority) .invalidProgramAddress
  check (a.tokenProgramInfo.key = splTokenId) .invalidSplTokenProgram
  check (a.ammCoinVaultInfo.key = amm.coinVault) .invalidCoinVault
  check (a.ammPcVaultInfo.key = amm.pcVault) .invalidPCVault
  let ammCoinVault ← unpackTokenAccount w a.ammCoinVaultInfo a.tokenProgramInfo.key
  let ammPcVault ← unpackTokenAccount w a.ammPcVaultInfo a.tokenProgramInfo.key
  let userDestCoin ← unpackTokenAccount w a.userDestCoinInfo a.tokenProgramInfo.key
  let userDestPc ← unpackTokenAccount w a.userDestPcInfo a.tokenProgramInfo.key
  check (userDestCoin.owner = a.userWalletInfo.key) .invalidOwner
  check (userDestPc.owner = a.userWalletInfo.key) .invalidOwner
  check (userDestCoin.mint = ammCoinVault.mint) .invalidCoinMint
  check (userDestPc.mint = ammPcVault.mint) .invalidPCMint
  return (amm, w)

/-- `if pnl > 0 { … }`: pay one side. The vault stands in the place of the mint. -/
def payPnl (env : Env) (programId : Pubkey) (a : WithdrawPnlAccounts) (amm : AmmInfo)
    (vaultInfo destInfo : AccountInfo) (pnl : U64) (w : World) : Result World :=
  if pnl > 0 then
    tokenTransferWithAuthority env programId a.tokenProgramInfo vaultInfo destInfo
      a.ammAuthorityInfo AUTHORITY_AMM amm.nonceU8 pnl vaultInfo [] w
  else .ok w

/-- `process_withdrawpnl` after the accounts are bound. -/
def withdrawPnlBody (env : Env) (programId : Pubkey) (a : WithdrawPnlAccounts) (w : World) :
    Result World := do
  let (amm, w) ← withdrawPnlPrologue env programId a w
  let coinPnl := amm.stateData.totalPnlCoin
  let pcPnl := amm.stateData.totalPnlPc
  check (¬(coinPnl = 0 ∧ pcPnl = 0)) .insufficientFunds
  let w ← payPnl env programId a amm a.ammCoinVaultInfo a.userDestCoinInfo coinPnl w
  let w ← payPnl env programId a amm a.ammPcVaultInfo a.userDestPcInfo pcPnl w
  return w.dropRefMut a.ammInfo.key
    (.amm { amm with stateData := { amm.stateData with totalPnlCoin := 0, totalPnlPc := 0 } })

/-- `process_withdrawpnl`. -/
def processWithdrawPnl (env : Env) (programId : Pubkey) (accounts : List AccountInfo)
    (w : World) : Result World := do
  let a ← bindWithdrawPnl accounts
  withdrawPnlBody env programId a w

end RaydiumAmm
