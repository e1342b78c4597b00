import RaydiumAmm.Swap

/-!
# Simulation

`process_simulate_info`: the records that a dry run reports. Nothing is written and no call is
made.
-/

namespace RaydiumAmm

/-- `SimulateParams`. -/
inductive SimulateParams where
  | poolInfo
  | swapBaseInInfo
  | swapBaseOutInfo
  | runCrankInfo
deriving DecidableEq

/-- `SimulateParams::from_u64` of a parameter byte: `unreachable!()` above 3. -/
def SimulateParams.fromU8 (param : U8) : Result SimulateParams :=
  match param.toNat with
  | 0 => .ok poolInfo
  | 1 => .ok swapBaseInInfo
  | 2 => .ok swapBaseOutInfo
  | 3 => .ok runCrankInfo
  | _ => Outcome.panic

/-- `SimulateInstruction`. -/
structure SimulateInstruction where
  param : U8
  swapBaseInValue : Option SwapInstructionBaseIn
  swapBaseOutValue : Option SwapInstructionBaseOut
deriving DecidableEq

/-- `GetPoolData`. `ammId` is the key that the source prints in base 58. -/
structure GetPoolData where
  status : U64
  coinDecimals : U64
  pcDecimals : U64
  lpDecimals : U64
  poolPcAmount : U64
  poolCoinAmount : U64
  pnlPcAmount : U64
  pnlCoinAmount : U64
  poolLpSupply : U64
  poolOpenTime : U64
  ammId : Pubkey

/-- `GetSwapBaseInData`. -/
structure GetSwapBaseInData where
  poolData : GetPoolData
  amountIn : U64
  minimumAmountOut : U64
  priceImpact : U64

/-- `GetSwapBaseOutData`. -/
structure GetSwapBaseOutData where
  poolData : GetPoolData
  maxAmountIn : U64
  amountOut : U64
  priceImpact : U64

/-- `RunCrankData`. -/
structure RunCrankData where
  status : U64
  state : U64
  runCrank : Bool

/-- The load of the pool record and the check of the authority. -/
def simulateAmm (env : Env) (programId : Pubkey) (ammInfo ammAuthorityInfo : AccountInfo)
    (w : World) : Result AmmInfo := do
  let amm ← AmmInfo.loadChecked w ammInfo programId
  let authority ← authorityId env programId AUTHORITY_AMM amm.nonceU8
  check (ammAuthorityInfo.key = authority) .invalidProgramAddress
  return amm

/-- `simulate_pool_info`: the vault accounts are not compared with the pool record. -/
def simulatePoolInfo (env : Env) (programId : Pubkey) (accounts : List AccountInfo) (w : World) :
    Result GetPoolData := do
  let (ammInfo, ammAuthorityInfo, ammCoinVaultInfo, ammPcVaultInfo, ammLpMintInfo) ←
    Binder.bindAll (do
      let ammInfo ← nextAccountInfo
      let ammAuthorityInfo ← nextAccountInfo
      let _ammOpenOrdersInfo ← nextAccountInfo
      let ammCoinVaultInfo ← nextAccountInfo
      let ammPcVaultInfo ← nextAccountInfo
      let ammLpMintInfo ← nextAccountInfo
      let _marketInfo ← nextAccountInfo
      let _marketEventQueueInfo ← nextAccountInfo
      let _ammTargetOrdersInfo ← nextAccountInfo
      return (ammInfo, ammAuthorityInfo, ammCoinVaultInfo, ammPcVaultInfo, ammLpMintInfo)) accounts
  let amm ← simulateAmm env programId ammInfo ammAuthorityInfo w
  let ammCoinVault ← unpackTokenAccount w ammCoinVaultInfo splTokenId
  let ammPcVault ← unpackTokenAccount w ammPcVaultInfo splTokenId
  let ammLpMint ← unpackMint w ammLpMintInfo splTokenId
  return {
    status := amm.status
    coinDecimals := amm.coinDecimals
    pcDecimals := amm.pcDecimals
    lpDecimals := ammLpMint.decimals.setWidth 64
    poolPcAmount := ammPcVault.amount
    poolCoinAmount := ammCoinVault.amount
    pnlPcAmount := amm.stateData.totalPnlPc
    pnlCoinAmount := amm.stateData.totalPnlCoin
    poolLpSupply := ammLpMint.supply
    poolOpenTime := amm.stateData.poolOpenTime
    ammId := ammInfo.key
  }

/-- What the two swap simulations know when they have the direction. -/
structure SimulateSwap where
  amm : AmmInfo
  ammCoinVault : TokenAccount
  ammPcVault : TokenAccount
  swapDirection : SwapDirection

/-- The common part of the two swap simulations. Their account order differs from that of
    `simulate_pool_info`, which runs over the same list afterwards. -/
def simulateSwap (env : Env) (programId : Pubkey) (accounts : List AccountInfo) (w : World) :
    Result SimulateSwap := do
  let (ammInfo, ammAuthorityInfo, ammCoinVaultInfo, ammPcVaultInfo, userSourceInfo,
      userDestinationInfo) ←
    Binder.bindAll (do
      let ammInfo ← nextAccountInfo
      let ammAuthorityInfo ← nextAccountInfo
      let _ammOpenOrdersInfo ← nextAccountInfo
      let _ammTargetOrdersInfo ← nextAccountInfo
      let ammCoinVaultInfo ← nextAccountInfo
      let ammPcVaultInfo ← nextAccountInfo
      let _ammLpMintInfo ← nextAccountInfo
      let _marketProgramInfo ← nextAccountInfo
      let _marketInfo ← nextAccountInfo
      let _marketEventQueueInfo ← nextAccountInfo
      let userSourceInfo ← nextAccountInfo
      let userDestinationInfo ← nextAccountInfo
      let _userSourceOwner ← nextAccountInfo
      return (ammInfo, ammAuthorityInfo, ammCoinVaultInfo, ammPcVaultInfo, userSourceInfo,
        userDestinationInfo)) accounts
  let amm ← simulateAmm env programId ammInfo ammAuthorityInfo w
  let ammCoinVault ← unpackTokenAccount w ammCoinVaultInfo splTokenId
  let ammPcVault ← unpackTokenAccount w ammPcVaultInfo splTokenId
  let userSource ← unpackTokenAccount w userSourceInfo splTokenId
  let userDestination ← unpackTokenAccount w userDestinationInfo splTokenId
  let swapDirection ← chooseDirection ammCoinVault ammPcVault userSource userDestination
  return { amm, ammCoinVault, ammPcVault, swapDirection }

/-- `simulate_swap_base_in`: the fee is computed and dropped. -/
def simulateSwapBaseIn (env : Env) (programId : Pubkey) (accounts : List AccountInfo)
    (swap : SwapInstructionBaseIn) (w : World) : Result GetSwapBaseInData := do
  let s ← simulateSwap env programId accounts w
  let gross ← Outcome.unwrap (Checked.mul (Calculator.toU128 swap.amountIn)
    (Calculator.toU128 s.amm.fees.swapFeeNumerator))
  let fee ← Outcome.unwrap
    (checkedCeilDiv gross (Calculator.toU128 s.amm.fees.swapFeeDenominator))
  let _ ← Outcome.unwrap (Checked.sub (Calculator.toU128 swap.amountIn) fee.1)
  let poolData ← simulatePoolInfo env programId accounts w
  return ⟨poolData, swap.amountIn, swap.minimumAmountOut, 0⟩

/-- `simulate_swap_base_out`. -/
def simulateSwapBaseOut (env : Env) (programId : Pubkey) (accounts : List AccountInfo)
    (swap : SwapInstructionBaseOut) (w : World) : Result GetSwapBaseOutData := do
  let s ← simulateSwap env programId accounts w
  let maxAmountIn :=
    if s.swapDirection = .coin2Pc then Checked.satAdd s.ammCoinVault.amount 1
    else Checked.satAdd s.ammPcVault.amount 1
  let poolData ← simulatePoolInfo env programId accounts w
  return ⟨poolData, maxAmountIn, swap.amountOut, 0⟩

/-- `simulate_run_crank`. -/
def simulateRunCrank (env : Env) (programId : Pubkey) (accounts : List AccountInfo) (w : World) :
    Result RunCrankData := do
  let (ammInfo, ammAuthorityInfo) ←
    Binder.bindAll (do
      let ammInfo ← nextAccountInfo
      let ammAuthorityInfo ← nextAccountInfo
      let _ammOpenOrdersInfo ← nextAccountInfo
      let _ammTargetOrdersInfo ← nextAccountInfo
      let _ammCoinVaultInfo ← nextAccountInfo
      let _ammPcVaultInfo ← nextAccountInfo
      let _marketProgramInfo ← nextAccountInfo
      let _marketInfo ← nextAccountInfo
      let _marketBidsInfo ← nextAccountInfo
      let _marketAsksInfo ← nextAccountInfo
      let _marketEventQueueInfo ← nextAccountInfo
      return (ammInfo, ammAuthorityInfo)) accounts
  let amm ← simulateAmm env programId ammInfo ammAuthorityInfo w
  return ⟨amm.status, amm.state, true⟩

/-- `process_simulate_info`. -/
def processSimulateInfo (env : Env) (programId : Pubkey) (accounts : List AccountInfo)
    (simulate : SimulateInstruction) (w : World) : Result World := do
  let param ← SimulateParams.fromU8 simulate.param
  match param with
  | .poolInfo =>
    let _ ← simulatePoolInfo env programId accounts w
    return w
  | .swapBaseInInfo =>
    match simulate.swapBaseInValue with
    | some swap =>
      let _ ← simulateSwapBaseIn env programId accounts swap w
      return w
    | none => return w
  | .swapBaseOutInfo =>
    match simulate.swapBaseOutValue with
    | some swap =>
      let _ ← simulateSwapBaseOut env programId accounts swap w
      return w
    | none => return w
  | .runCrankInfo =>
    let _ ← simulateRunCrank env programId accounts w
    return w

end RaydiumAmm
