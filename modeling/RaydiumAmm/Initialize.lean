import RaydiumAmm.Helpers

/-!
# Initialize

`process_initialize2`: the checks, the records of a new pool, the initial LP amount and the first
transfers.
-/

namespace RaydiumAmm

/-- `InitializeInstruction2`. -/
structure InitializeInstruction2 where
  nonce : U8
  openTime : U64
  initPcAmount : U64
  initCoinAmount : U64
deriving DecidableEq

/-- The accounts of a pool creation. -/
structure InitializeAccounts where
  ammInfo : AccountInfo
  ammAuthorityInfo : AccountInfo
  ammOpenOrdersInfo : AccountInfo
  ammTargetOrdersInfo : AccountInfo
  ammCoinVaultInfo : AccountInfo
  ammPcVaultInfo : AccountInfo
  ammLpMintInfo : AccountInfo
  poolWithdrawQueueInfo : AccountInfo
  lpWithdrawQueueInfo : AccountInfo
  marketProgramInfo : AccountInfo
  marketInfo : AccountInfo
  marketBidsInfo : AccountInfo
  marketAsksInfo : AccountInfo
  marketEventQueueInfo : AccountInfo
  marketCoinVaultInfo : AccountInfo
  marketPcVaultInfo : AccountInfo
  marketVaultSigner : AccountInfo
  tokenProgramInfo : AccountInfo
  systemProgramInfo : AccountInfo
  rentInfo : AccountInfo
  userWalletInfo : AccountInfo
  userTokenCoinInfo : AccountInfo
  userTokenPcInfo : AccountInfo
  userTokenLpInfo : AccountInfo
  coinMintInfo : AccountInfo
  pcMintInfo : AccountInfo
  srmTokenInfo : AccountInfo
  referrerPcInfo : AccountInfo

/-- The reads of the creation handler. -/
def bindInitialize (accounts : List AccountInfo) : Result InitializeAccounts :=
  Binder.bindAll (do
    let ammInfo ← nextAccountInfo
    let ammAuthorityInfo ← nextAccountInfo
    let ammOpenOrdersInfo ← nextAccountInfo
    let ammTargetOrdersInfo ← nextAccountInfo
    let ammCoinVaultInfo ← nextAccountInfo
    let ammPcVaultInfo ← nextAccountInfo
    let ammLpMintInfo ← nextAccountInfo
    let poolWithdrawQueueInfo ← nextAccountInfo
    let lpWithdrawQueueInfo ← nextAccountInfo
    let marketProgramInfo ← nextAccountInfo
    let marketInfo ← nextAccountInfo
    let marketBidsInfo ← nextAccountInfo
    let marketAsksInfo ← nextAccountInfo
    let marketEventQueueInfo ← nextAccountInfo
    let marketCoinVaultInfo ← nextAccountInfo
    let marketPcVaultInfo ← nextAccountInfo
    let marketVaultSigner ← nextAccountInfo
    let tokenProgramInfo ← nextAccountInfo
    let systemProgramInfo ← nextAccountInfo
    let rentInfo ← nextAccountInfo
    let userWalletInfo ← nextAccountInfo
    let userTokenCoinInfo ← nextAccountInfo
    let userTokenPcInfo ← nextAccountInfo
    let userTokenLpInfo ← nextAccountInfo
    let coinMintInfo ← nextAccountInfo
    let pcMintInfo ← nextAccountInfo
    let srmTokenInfo ← nextAccountInfo
    let referrerPcInfo ← nextAccountInfo
    return {
      ammInfo, ammAuthorityInfo, ammOpenOrdersInfo, ammTargetOrdersInfo, ammCoinVaultInfo,
      ammPcVaultInfo, ammLpMintInfo, poolWithdrawQueueInfo, lpWithdrawQueueInfo,
      marketProgramInfo, marketInfo, marketBidsInfo, marketAsksInfo, marketEventQueueInfo,
      marketCoinVaultInfo, marketPcVaultInfo, marketVaultSigner, tokenProgramInfo,
      systemProgramInfo, rentInfo, userWalletInfo, userTokenCoinInfo, userTokenPcInfo,
      userTokenLpInfo, coinMintInfo, pcMintInfo, srmTokenInfo, referrerPcInfo
    }) accounts

/-! ## The records of a new pool -/

/-- The pool record that `process_initialize2` writes, with the LP amount `lpAmount`. The decimals
    and `sys_decimal_value` are zero. -/
def initialAmmInfo (a : InitializeAccounts) (init : InitializeInstruction2) (lpAmount : U64) :
    AmmInfo where
  status := AmmStatus.initialized.intoU64
  nonce := init.nonce.setWidth 64
  orderNum := 0
  depth := 0
  coinDecimals := 0
  pcDecimals := 0
  state := 0
  resetFlag := 0
  minSize := 0
  volMaxCutRatio := 0
  amountWave := 0
  coinLotSize := 0
  pcLotSize := 0
  minPriceMultiplier := 0
  maxPriceMultiplier := 0
  sysDecimalValue := 0
  fees := Fees.init
  stateData := StateData.init init.openTime
  coinVault := a.ammCoinVaultInfo.key
  pcVault := a.ammPcVaultInfo.key
  coinVaultMint := a.coinMintInfo.key
  pcVaultMint := a.pcMintInfo.key
  lpMint := a.ammLpMintInfo.key
  openOrders := a.ammOpenOrdersInfo.key
  market := a.marketInfo.key
  marketProgram := a.marketProgramInfo.key
  targetOrders := a.ammTargetOrdersInfo.key
  ammOwner := a.userWalletInfo.key
  lpAmount := lpAmount
  clientOrderId := 0
  recentEpoch := 0

/-- `AmmInfo::initialize` with the epoch that `get_recent_epoch` reads. No handler calls it. -/
def AmmInfo.initializeWith (self : AmmInfo) (nonce : U8) (openTime : U64)
    (coinDecimals pcDecimals : U8) (coinLotSize pcLotSize recentEpoch : U64) :
    Result AmmInfo := do
  let sysDecimalValue ←
    (if pcDecimals > coinDecimals then
      Outcome.unwrap (Checked.pow (10 : U64) pcDecimals.toNat)
    else
      Outcome.unwrap (Checked.pow (10 : U64) coinDecimals.toNat) : Result U64)
  let pcUnit ← Outcome.unwrap (Checked.pow (10 : U128) pcDecimals.toNat)
  let tempValueNumerator ← Outcome.unwrap (Checked.mul (Calculator.toU128 coinLotSize) pcUnit)
  let coinUnit ← Outcome.unwrap (Checked.pow (10 : U128) coinDecimals.toNat)
  let tempValueDenominator ← Outcome.unwrap (Checked.mul (Calculator.toU128 pcLotSize) coinUnit)
  let tempValue ← Outcome.unwrap (Checked.div tempValueNumerator tempValueDenominator)
  let sysDecimalValue ←
    (if Calculator.toU128 sysDecimalValue ≤ tempValue then Calculator.asU64 tempValue
    else .ok sysDecimalValue : Result U64)
  let scaled ← Outcome.unwrap
    (Checked.mul (Calculator.toU128 coinLotSize) (Calculator.toU128 sysDecimalValue))
  let minSize ← Outcome.unwrap (Checked.div scaled coinUnit)
  let minSize ←
    (if minSize < Calculator.toU128 U64.max then Calculator.toU64 minSize else .ok 0 : Result U64)
  let fiveTimes ← Outcome.unwrap (Checked.mul sysDecimalValue 5)
  let amountWave ← Outcome.unwrap (Checked.div fiveTimes 1000)
  let pcLotSize ← Calculator.convertInPcLotSize pcDecimals coinDecimals pcLotSize coinLotSize
    sysDecimalValue
  return { self with
    fees := Fees.init
    stateData := StateData.init openTime
    status := AmmStatus.uninitialized.intoU64
    nonce := nonce.setWidth 64
    orderNum := 7
    depth := 3
    coinDecimals := coinDecimals.setWidth 64
    pcDecimals := pcDecimals.setWidth 64
    -- `AmmState::IdleState` and `AmmResetFlag::ResetNo`
    state := 1
    resetFlag := 1
    sysDecimalValue
    minSize
    volMaxCutRatio := 500
    amountWave
    coinLotSize
    pcLotSize
    minPriceMultiplier := 1
    maxPriceMultiplier := 1000000000
    clientOrderId := 0
    recentEpoch
  }

/-- The target-orders record before `check_init`. -/
def blankTargetOrders : TargetOrders where
  owner := Pubkey.default
  targetX := 0
  targetY := 0
  planXBuy := 0
  planYBuy := 0
  planXSell := 0
  planYSell := 0
  placedX := 0
  placedY := 0
  calcPnlX := 0
  calcPnlY := 0
  lastOrderNumerator := 0
  lastOrderDenominator := 0
  planOrdersCur := 0
  placeOrdersCur := 0
  validBuyOrderNum := 0
  validSellOrderNum := 0
  freeSlotBits := BitVec.allOnes 128

/-! ## The initial LP amount -/

/-- `while y < x { x = y; y = (x + product / x) / 2; }`. -/
def newtonLoop (product x y : U128) : Result U128 :=
  if h : y < x then do
    let quotient ← Outcome.unwrap (Checked.div product y)
    let sum ← Outcome.unwrap (Checked.add y quotient)
    newtonLoop product y (sum / 2)
  else .ok x
termination_by x.toNat
decreasing_by exact h

/-- The integer square root of the product; `x as u64` keeps the low 64 bits. -/
def initialLpAmount (product : U128) : Result U64 :=
  if product > 0 then do
    let sum ← Outcome.unwrap (Checked.add product 1)
    let x ← newtonLoop product product (sum / 2)
    return x.setWidth 64
  else .ok 0

/-! ## The handler -/

/-- The checks of a creation: the signer, the program ids and the authority. The vaults, the mint
    and the user's token accounts are taken as given. -/
def initializePrologue (env : Env) (programId : Pubkey) (a : InitializeAccounts)
    (init : InitializeInstruction2) : Result Unit := do
  check a.userWalletInfo.isSigner .invalidSignAccount
  check (a.tokenProgramInfo.key = splTokenId) .invalidSplTokenProgram
  check (a.systemProgramInfo.key = systemProgramId) .invalidMarketProgram
  check (a.rentInfo.key = rentId) .invalidMarketProgram
  let authority ← authorityId env programId AUTHORITY_AMM init.nonce
  check (a.ammAuthorityInfo.key = authority) .invalidProgramAddress

/-- `copy_from_slice` of a pool record: any other length panics. -/
def copyAmm (w : World) (programId key : Pubkey) (amm : AmmInfo) : Result World :=
  match (w.accounts key).data with
  | .amm _ => w.writeData programId key (.amm amm)
  | _ => Outcome.panic

/-- `copy_from_slice` of a target-orders record. -/
def copyTargetOrders (w : World) (programId key : Pubkey) (t : TargetOrders) : Result World :=
  match (w.accounts key).data with
  | .targetOrders _ => w.writeData programId key (.targetOrders t)
  | _ => Outcome.panic

/-- `process_initialize2` after the accounts are bound. Both `RefMut`s of `try_borrow_mut_data`
    stay in scope to the end, so the second borrow of the pool account finds the first. -/
def initializeBody (env : Env) (programId : Pubkey) (a : InitializeAccounts)
    (init : InitializeInstruction2) (w : World) : Result World := do
  initializePrologue env programId a init
  let w ← w.tryBorrowMutData a.ammInfo.key
  let w ← copyAmm w programId a.ammInfo.key (initialAmmInfo a init 0)
  let targetOrders ← blankTargetOrders.checkInit 0 0 a.ammInfo.key
  let w ← w.tryBorrowMutData a.ammTargetOrdersInfo.key
  let w ← copyTargetOrders w programId a.ammTargetOrdersInfo.key targetOrders
  let product ← Outcome.unwrap
    (Checked.mul (Calculator.toU128 init.initCoinAmount) (Calculator.toU128 init.initPcAmount))
  let lpAmount ← initialLpAmount product
  let w ← w.invoke env {
    ix := .mintTo splTokenId a.ammLpMintInfo.key a.userTokenLpInfo.key a.ammAuthorityInfo.key
      lpAmount
    infos := [a.ammLpMintInfo, a.userTokenLpInfo, a.ammAuthorityInfo]
    seeds := [[AUTHORITY_AMM, [init.nonce]]]
  }
  let w ← w.tryBorrowMutData a.ammInfo.key
  let w ← copyAmm w programId a.ammInfo.key (initialAmmInfo a init lpAmount)
  let w ← w.invoke env {
    ix := .transfer splTokenId a.userTokenCoinInfo.key a.ammCoinVaultInfo.key
      a.userWalletInfo.key init.initCoinAmount
    infos := [a.userTokenCoinInfo, a.ammCoinVaultInfo, a.userWalletInfo]
    seeds := []
  }
  let w ← w.invoke env {
    ix := .transfer splTokenId a.userTokenPcInfo.key a.ammPcVaultInfo.key a.userWalletInfo.key
      init.initPcAmount
    infos := [a.userTokenPcInfo, a.ammPcVaultInfo, a.userWalletInfo]
    seeds := []
  }
  return { w with borrowed := [] }

/-- `process_initialize2`. -/
def processInitialize2 (env : Env) (programId : Pubkey) (accounts : List AccountInfo)
    (init : InitializeInstruction2) (w : World) : Result World := do
  let a ← bindInitialize accounts
  initializeBody env programId a init w

end RaydiumAmm
