import RaydiumAmm.Helpers

/-!
# Administration

The handlers that cancel the pool's orders, migrate it, pay out an SRM account, set its
parameters and keep the config account.
-/

namespace RaydiumAmm

/-! ## Orders -/

/-- The accounts of `process_admin_cancel_orders` and of `process_migrate_to_openbook`, which bind
    the same list. -/
structure OrdersAccounts where
  ammInfo : AccountInfo
  ammAuthorityInfo : AccountInfo
  ammOpenOrdersInfo : AccountInfo
  marketProgramInfo : AccountInfo
  marketInfo : AccountInfo
  marketBidsInfo : AccountInfo
  marketAsksInfo : AccountInfo
  marketEventQueueInfo : AccountInfo
  marketCoinVaultInfo : AccountInfo
  marketPcVaultInfo : AccountInfo
  marketVaultSigner : AccountInfo
  tokenProgramInfo : AccountInfo
  userWalletInfo : AccountInfo

/-- The reads of the two handlers. -/
def bindOrders (accounts : List AccountInfo) : Result OrdersAccounts :=
  Binder.bindAll (do
    let ammInfo ← nextAccountInfo
    let ammAuthorityInfo ← nextAccountInfo
    let ammOpenOrdersInfo ← nextAccountInfo
    let marketProgramInfo ← nextAccountInfo
    let marketInfo ← nextAccountInfo
    let marketBidsInfo ← nextAccountInfo
    let marketAsksInfo ← nextAccountInfo
    let marketEventQueueInfo ← nextAccountInfo
    let marketCoinVaultInfo ← nextAccountInfo
    let marketPcVaultInfo ← nextAccountInfo
    let marketVaultSigner ← nextAccountInfo
    let tokenProgramInfo ← nextAccountInfo
    let userWalletInfo ← nextAccountInfo
    return {
      ammInfo, ammAuthorityInfo, ammOpenOrdersInfo, marketProgramInfo, marketInfo,
      marketBidsInfo, marketAsksInfo, marketEventQueueInfo, marketCoinVaultInfo,
      marketPcVaultInfo, marketVaultSigner, tokenProgramInfo, userWalletInfo
    }) accounts

/-- The accounts of a cancel call. -/
def OrdersAccounts.cancelInfos (a : OrdersAccounts) : CancelInfos where
  marketProgramInfo := a.marketProgramInfo
  marketInfo := a.marketInfo
  marketBidsInfo := a.marketBidsInfo
  marketAsksInfo := a.marketAsksInfo
  ammOpenOrdersInfo := a.ammOpenOrdersInfo
  ammAuthorityInfo := a.ammAuthorityInfo
  marketEventQInfo := a.marketEventQueueInfo

/-- From the market checks to the settle call: the orders of both sides are cancelled, the bids
    first, and the market's vaults stand in the places of the wallets. -/
def cancelAndSettleOrders (env : Env) (a : OrdersAccounts) (amm : AmmInfo) (w : World) :
    Result World := do
  check (a.marketInfo.key = amm.market) .invalidMarket
  check (a.ammOpenOrdersInfo.key = amm.openOrders) .invalidOpenOrders
  let (marketState, openOrders) ← loadSerumMarketOrder env a.marketInfo a.ammOpenOrdersInfo
    a.ammAuthorityInfo amm false w
  let (bids, asks) ← loadAmmOrders env marketState openOrders a.marketBidsInfo a.marketAsksInfo w
  let w ← cancelSide env a.cancelInfos amm.nonceU8 bids w
  let w ← cancelSide env a.cancelInfos amm.nonceU8 asks w
  invokeDexSettleFunds env a.marketProgramInfo a.marketInfo a.ammOpenOrdersInfo
    a.ammAuthorityInfo a.marketCoinVaultInfo a.marketPcVaultInfo a.marketCoinVaultInfo
    a.marketPcVaultInfo a.marketVaultSigner a.tokenProgramInfo none AUTHORITY_AMM amm.nonceU8 w

/-- `AdminCancelOrdersInstruction`. The limit is not read. -/
structure AdminCancelOrdersInstruction where
  limit : U16
deriving DecidableEq

/-- `process_admin_cancel_orders` after the accounts are bound. The market program is not compared
    with the pool record. -/
def adminCancelOrdersBody (env : Env) (programId : Pubkey) (a : OrdersAccounts) (w : World) :
    Result World := do
  check a.userWalletInfo.isSigner .invalidSignAccount
  let (amm, w) ← AmmInfo.loadMutChecked w a.ammInfo programId
  let authority ← authorityId env programId AUTHORITY_AMM amm.nonceU8
  check (a.ammAuthorityInfo.key = authority) .invalidProgramAddress
  check (a.userWalletInfo.key = amm.ammOwner) .invalidOwner
  check (a.tokenProgramInfo.key = splTokenId) .invalidSplTokenProgram
  let w ← cancelAndSettleOrders env a amm w
  return w.dropRefMut a.ammInfo.key (.amm amm)

/-- `process_admin_cancel_orders`. -/
def processAdminCancelOrders (env : Env) (programId : Pubkey) (accounts : List AccountInfo)
    (_cancel : AdminCancelOrdersInstruction) (w : World) : Result World := do
  let a ← bindOrders accounts
  adminCancelOrdersBody env programId a w

/-- `9xQeWvG816bUx9EPjHmaT23yvVM2ZWbrrpZb9PusVFin`. -/
def openbookMarketProgram : Pubkey :=
  ⟨0x850f2d6e02a47af824d09ab69dc42d70cb28cbfa249fb7ee57b9d256c12762ef⟩

/-- `process_migrate_to_openbook` after the accounts are bound. Any signer will do. -/
def migrateToOpenbookBody (env : Env) (programId : Pubkey) (a : OrdersAccounts) (w : World) :
    Result World := do
  check a.userWalletInfo.isSigner .invalidSignAccount
  let (amm, w) ← AmmInfo.loadMutChecked w a.ammInfo programId
  let authority ← authorityId env programId AUTHORITY_AMM amm.nonceU8
  check (a.ammAuthorityInfo.key = authority) .invalidProgramAddress
  check (a.tokenProgramInfo.key = splTokenId) .invalidSplTokenProgram
  check (a.marketProgramInfo.key = openbookMarketProgram) .invalidMarketProgram
  let w ← cancelAndSettleOrders env a amm w
  return w.dropRefMut a.ammInfo.key (.amm { amm with marketProgram := openbookMarketProgram })

/-- `process_migrate_to_openbook`. -/
def processMigrateToOpenbook (env : Env) (programId : Pubkey) (accounts : List AccountInfo)
    (w : World) : Result World := do
  let a ← bindOrders accounts
  migrateToOpenbookBody env programId a w

/-! ## SRM -/

/-- `WithdrawSrmInstruction`. -/
structure WithdrawSrmInstruction where
  amount : U64
deriving DecidableEq

/-- The accounts of an SRM withdrawal. -/
structure WithdrawSrmAccounts where
  ammInfo : AccountInfo
  ammAuthorityInfo : AccountInfo
  ammSrmVaultInfo : AccountInfo
  userDestSrmInfo : AccountInfo
  tokenProgramInfo : AccountInfo
  userWalletInfo : AccountInfo

/-- The reads of the SRM withdrawal. -/
def bindWithdrawSrm (accounts : List AccountInfo) : Result WithdrawSrmAccounts :=
  Binder.bindAll (do
    let ammInfo ← nextAccountInfo
    let ammAuthorityInfo ← nextAccountInfo
    let ammSrmVaultInfo ← nextAccountInfo
    let userDestSrmInfo ← nextAccountInfo
    let tokenProgramInfo ← nextAccountInfo
    let userWalletInfo ← nextAccountInfo
    return {
      ammInfo, ammAuthorityInfo, ammSrmVaultInfo, userDestSrmInfo, tokenProgramInfo,
      userWalletInfo
    }) accounts

/-- `process_withdraw_srm` after the accounts are bound. The source account is neither compared
    with the pool record nor tied to a mint. -/
def withdrawSrmBody (env : Env) (programId : Pubkey) (a : WithdrawSrmAccounts)
    (withdrawsrm : WithdrawSrmInstruction) (w : World) : Result World := do
  check a.userWalletInfo.isSigner .invalidSignAccount
  let (amm, w) ← AmmInfo.loadMutChecked w a.ammInfo programId
  let authority ← authorityId env programId AUTHORITY_AMM amm.nonceU8
  check (a.ammAuthorityInfo.key = authority) .invalidProgramAddress
  check (a.tokenProgramInfo.key = splTokenId) .invalidSplTokenProgram
  let ammSrmVault ← unpackTokenAccount w a.ammSrmVaultInfo a.tokenProgramInfo.key
  let userDestSrm ← unpackTokenAccount w a.userDestSrmInfo a.tokenProgramInfo.key
  check (userDestSrm.owner = a.userWalletInfo.key) .invalidOwner
  check (userDestSrm.mint = ammSrmVault.mint) .invalidCoinMint
  check (¬(withdrawsrm.amount > ammSrmVault.amount)) .insufficientFunds
  check (withdrawsrm.amount ≠ 0) .invalidInput
  let w ← tokenTransferWithAuthority env programId a.tokenProgramInfo a.ammSrmVaultInfo
    a.userDestSrmInfo a.ammAuthorityInfo AUTHORITY_AMM amm.nonceU8 withdrawsrm.amount
    a.ammSrmVaultInfo [] w
  return w.dropRefMut a.ammInfo.key (.amm amm)

/-- `process_withdraw_srm`. -/
def processWithdrawSrm (env : Env) (programId : Pubkey) (accounts : List AccountInfo)
    (withdrawsrm : WithdrawSrmInstruction) (w : World) : Result World := do
  let a ← bindWithdrawSrm accounts
  withdrawSrmBody env programId a withdrawsrm w

/-! ## Parameters -/

/-- `AmmParams`. -/
inductive AmmParams where
  | status
  | state
  | orderNum
  | depth
  | amountWave
  | minPriceMultiplier
  | maxPriceMultiplier
  | minSize
  | volMaxCutRatio
  | fees
  | ammOwner
  | setOpenTime
  | lastOrderDistance
  | initOrderDepth
  | setSwitchTime
  | clearOpenTime
  | seperate
  | updateOpenOrder
deriving DecidableEq

/-- `AmmParams::from_u64` of a parameter byte: `unreachable!()` above 17. -/
def AmmParams.fromU8 (param : U8) : Result AmmParams :=
  match param.toNat with
  | 0 => .ok status
  | 1 => .ok state
  | 2 => .ok orderNum
  | 3 => .ok depth
  | 4 => .ok amountWave
  | 5 => .ok minPriceMultiplier
  | 6 => .ok maxPriceMultiplier
  | 7 => .ok minSize
  | 8 => .ok volMaxCutRatio
  | 9 => .ok fees
  | 10 => .ok ammOwner
  | 11 => .ok setOpenTime
  | 12 => .ok lastOrderDistance
  | 13 => .ok initOrderDepth
  | 14 => .ok setSwitchTime
  | 15 => .ok clearOpenTime
  | 16 => .ok seperate
  | 17 => .ok updateOpenOrder
  | _ => Outcome.panic

/-- `LastOrderDistance`. -/
structure LastOrderDistance where
  lastOrderNumerator : U64
  lastOrderDenominator : U64
deriving DecidableEq

/-- `SetParamsInstruction`. -/
structure SetParamsInstruction where
  param : U8
  value : Option U64
  newPubkey : Option Pubkey
  fees : Option Fees
  lastOrderDistance : Option LastOrderDistance
deriving DecidableEq

/-- `if let Some(value) = … { amm.field = value }`. -/
def setIfSome {α : Type} (amm : AmmInfo) (set : α → AmmInfo) : Option α → AmmInfo
  | some value => set value
  | none => amm

/-- The update of a pool record by one parameter. -/
def setParam (amm : AmmInfo) (setparams : SetParamsInstruction) : AmmParams → AmmInfo
  | .status => setIfSome amm (fun v => { amm with status := v }) setparams.value
  | .state => setIfSome amm (fun v => { amm with state := v }) setparams.value
  | .orderNum => setIfSome amm (fun v => { amm with orderNum := v }) setparams.value
  | .depth => setIfSome amm (fun v => { amm with depth := v }) setparams.value
  | .amountWave => setIfSome amm (fun v => { amm with amountWave := v }) setparams.value
  | .minPriceMultiplier =>
    setIfSome amm (fun v => { amm with minPriceMultiplier := v }) setparams.value
  | .maxPriceMultiplier =>
    setIfSome amm (fun v => { amm with maxPriceMultiplier := v }) setparams.value
  | .minSize => setIfSome amm (fun v => { amm with minSize := v }) setparams.value
  | .volMaxCutRatio => setIfSome amm (fun v => { amm with volMaxCutRatio := v }) setparams.value
  | .fees => setIfSome amm (fun v => { amm with fees := v }) setparams.fees
  | .ammOwner => setIfSome amm (fun v => { amm with ammOwner := v }) setparams.newPubkey
  | .setOpenTime =>
    setIfSome amm (fun v => { amm with stateData := { amm.stateData with poolOpenTime := v } })
      setparams.value
  | .clearOpenTime => { amm with stateData := { amm.stateData with poolOpenTime := 0 } }
  -- the arms without a body
  | .lastOrderDistance => amm
  | .initOrderDepth => amm
  | .setSwitchTime => amm
  | .seperate => amm
  | .updateOpenOrder => amm

/-- `process_set_params`. -/
def processSetParams (env : Env) (programId : Pubkey) (accounts : List AccountInfo)
    (setparams : SetParamsInstruction) (w : World) : Result World := do
  let (ammInfo, ammAuthorityInfo, userWalletInfo) ←
    Binder.bindAll (do
      let ammInfo ← nextAccountInfo
      let ammAuthorityInfo ← nextAccountInfo
      let userWalletInfo ← nextAccountInfo
      return (ammInfo, ammAuthorityInfo, userWalletInfo)) accounts
  check userWalletInfo.isSigner .invalidSignAccount
  let (amm, w) ← AmmInfo.loadMutChecked w ammInfo programId
  let authority ← authorityId env programId AUTHORITY_AMM amm.nonceU8
  check (ammAuthorityInfo.key = authority) .invalidProgramAddress
  check (userWalletInfo.key = amm.ammOwner) .invalidOwner
  let param ← AmmParams.fromU8 setparams.param
  return w.dropRefMut ammInfo.key (.amm (setParam amm setparams param))

/-! ## Config -/

/-- `ConfigArgs`. -/
structure ConfigArgs where
  param : U8
  owner : Option Pubkey
  createPoolFee : Option U64
deriving DecidableEq

/-- `AMM_CONFIG_SEED`: `b"amm_config_account_seed"`. -/
def AMM_CONFIG_SEED : List U8 :=
  [0x61, 0x6d, 0x6d, 0x5f, 0x63, 0x6f, 0x6e, 0x66, 0x69, 0x67, 0x5f, 0x61, 0x63, 0x63, 0x6f,
    0x75, 0x6e, 0x74, 0x5f, 0x73, 0x65, 0x65, 0x64]

/-- `get_associated_address_and_bump_seed`. -/
def getAssociatedAddressAndBumpSeed (env : Env) (infoId marketAddress : Pubkey)
    (associatedSeed : List U8) (programId : Pubkey) : Pubkey × U8 :=
  env.findProgramAddress [infoId.toBytes, marketAddress.toBytes, associatedSeed] programId

/-- `process_create_config`. -/
def processCreateConfig (env : Env) (programId : Pubkey) (accounts : List AccountInfo)
    (w : World) : Result World := do
  let (configInfo, userWalletInfo, systemProgramInfo, rentInfo) ←
    Binder.bindAll (do
      let configInfo ← nextAccountInfo
      let userWalletInfo ← nextAccountInfo
      let systemProgramInfo ← nextAccountInfo
      let rentInfo ← nextAccountInfo
      return (configInfo, userWalletInfo, systemProgramInfo, rentInfo)) accounts
  check userWalletInfo.isSigner .invalidSignAccount
  check (systemProgramInfo.key = systemProgramId) .invalidMarketProgram
  check (rentInfo.key = rentId) .invalidMarketProgram
  let (configAddress, _) := getAssociatedAddressAndBumpSeed env userWalletInfo.key
    userWalletInfo.key AMM_CONFIG_SEED programId
  check (configInfo.key = configAddress) .invalidConfigAccount
  Outcome.require (configInfo.key ∉ w.borrowed) .accountBorrowFailed
  match (w.accounts configInfo.key).data with
  | .config _ =>
    w.writeData programId configInfo.key (.config ⟨userWalletInfo.key, Pubkey.default, 0⟩)
  | _ => Outcome.panic

/-- The update of a config record. `param` is not read. -/
def updateConfig (config : AmmConfig) (configArgs : ConfigArgs) : AmmConfig where
  pnlOwner := configArgs.owner.getD config.pnlOwner
  cancelOwner := config.cancelOwner
  createPoolFee := configArgs.createPoolFee.getD config.createPoolFee

/-- `process_update_config`. -/
def processUpdateConfig (programId : Pubkey) (accounts : List AccountInfo)
    (configArgs : ConfigArgs) (w : World) : Result World := do
  let (configInfo, userWalletInfo) ←
    Binder.bindAll (do
      let configInfo ← nextAccountInfo
      let userWalletInfo ← nextAccountInfo
      return (configInfo, userWalletInfo)) accounts
  check userWalletInfo.isSigner .invalidSignAccount
  let (config, w) ← AmmConfig.loadMutChecked w configInfo programId
  check (userWalletInfo.key = config.pnlOwner) .invalidOwner
  return w.dropRefMut configInfo.key (.config (updateConfig config configArgs))

end RaydiumAmm
