import RaydiumAmm.Admin
import RaydiumAmm.Deposit
import RaydiumAmm.Initialize
import RaydiumAmm.Profit
import RaydiumAmm.Simulate
import RaydiumAmm.Withdraw

/-!
# Dispatch

The Token-2022 set-up handlers, the instruction type and `process_instruction` on a decoded
instruction. An instruction that fails leaves the world as it was.
-/

namespace RaydiumAmm

/-! ## Token-2022 set-up -/

/-- `CreateToken2022MintInstruction`; the texts are UTF-8 bytes. -/
structure CreateToken2022MintInstruction where
  decimals : U8
  mintAuthority : Pubkey
  freezeAuthority : Option Pubkey
  transferHookProgramId : Option Pubkey
  name : List U8
  symbol : List U8
  uri : List U8
deriving DecidableEq

/-- One call of the mint set-up. -/
def mintSetupCall (env : Env) (mintAccount : AccountInfo) (infos : List AccountInfo)
    (step : MintSetup) (w : World) : Result World :=
  w.invoke env ⟨.mintSetup splToken2022Id mintAccount.key step, infos, []⟩

/-- A call of the mint set-up that depends on the request. -/
def optionalSetupCall (env : Env) (mintAccount : AccountInfo) (infos : List AccountInfo)
    (step : Option MintSetup) (w : World) : Result World :=
  match step with
  | some step => mintSetupCall env mintAccount infos step w
  | none => .ok w

/-- `process_create_token2022_mint`. -/
def processCreateToken2022Mint (env : Env) (accounts : List AccountInfo)
    (instruction : CreateToken2022MintInstruction) (w : World) : Result World := do
  let (mintAccount, mintAuthority, payer, systemProgram, tokenProgram2022) ←
    Binder.bindAll (do
      let mintAccount ← nextAccountInfo
      let mintAuthority ← nextAccountInfo
      let payer ← nextAccountInfo
      let systemProgram ← nextAccountInfo
      let tokenProgram2022 ← nextAccountInfo
      return (mintAccount, mintAuthority, payer, systemProgram, tokenProgram2022)) accounts
  check payer.isSigner .invalidSignAccount
  check (tokenProgram2022.key = splToken2022Id) .invalidSplTokenProgram
  check mintAccount.isSigner .invalidSignAccount
  let hasMetadata := ¬(instruction.name = [] ∧ instruction.symbol = [] ∧ instruction.uri = [])
  let space ← Outcome.okOr
    (env.mintSpace instruction.transferHookProgramId.isSome (decide hasMetadata))
    .invalidAccountData
  let w ← w.invoke env {
    ix := .createAccount payer.key mintAccount.key (env.rentMinimumBalance space) space
      splToken2022Id
    infos := [payer, mintAccount, systemProgram]
    seeds := []
  }
  let mintInfos := [mintAccount, tokenProgram2022]
  let w ← optionalSetupCall env mintAccount mintInfos
    (if hasMetadata then some (.metadataPointer mintAuthority.key mintAccount.key) else none) w
  let w ← optionalSetupCall env mintAccount mintInfos
    (instruction.transferHookProgramId.map (.transferHook mintAuthority.key)) w
  let w ← mintSetupCall env mintAccount mintInfos
    (.mint2 mintAuthority.key instruction.freezeAuthority instruction.decimals) w
  optionalSetupCall env mintAccount [mintAccount, mintAuthority, tokenProgram2022]
    (if hasMetadata then
      some (.metadata mintAuthority.key mintAuthority.key instruction.name instruction.symbol
        instruction.uri)
    else none) w

/-- `process_initialize_extra_account_meta_list`. The second call goes to this program. -/
def processInitializeExtraAccountMetaList (env : Env) (programId : Pubkey)
    (accounts : List AccountInfo) (extraAccountMetas : List ExtraAccountMeta) (w : World) :
    Result World := do
  let (extraAccountMetaList, mint, authority, systemProgram) ←
    Binder.bindAll (do
      let extraAccountMetaList ← nextAccountInfo
      let mint ← nextAccountInfo
      let authority ← nextAccountInfo
      let systemProgram ← nextAccountInfo
      return (extraAccountMetaList, mint, authority, systemProgram)) accounts
  check authority.isSigner .invalidSignAccount
  check (systemProgram.key = systemProgramId) .invalidSystemProgram
  let space ← Outcome.lift (env.metaListSpace extraAccountMetas.length)
  let w ← w.invoke env {
    ix := .createAccount authority.key extraAccountMetaList.key (env.rentMinimumBalance space)
      space programId
    infos := [authority, extraAccountMetaList, systemProgram]
    seeds := []
  }
  w.invoke env {
    ix := .initExtraAccountMetaList programId extraAccountMetaList.key mint.key authority.key
      extraAccountMetas
    infos := [extraAccountMetaList, mint, authority, systemProgram]
    seeds := []
  }

/-! ## Instructions -/

/-- `AmmInstruction`. -/
inductive AmmInstruction where
  | preInitialize (nonce : U8)
  | initialize1 (nonce : U8) (openTime : U64)
  | initialize2 (init2 : InitializeInstruction2)
  | monitorStep (monitor : MonitorStepInstruction)
  | deposit (deposit : DepositInstruction)
  | withdraw (withdraw : WithdrawInstruction)
  | migrateToOpenBook
  | setParams (setparams : SetParamsInstruction)
  | withdrawPnl
  | withdrawSrm (withdrawsrm : WithdrawSrmInstruction)
  | swapBaseIn (swap : SwapInstructionBaseIn)
  | swapBaseOut (swap : SwapInstructionBaseOut)
  | simulateInfo (simulate : SimulateInstruction)
  | adminCancelOrders (cancel : AdminCancelOrdersInstruction)
  | createConfigAccount
  | updateConfigAccount (configArgs : ConfigArgs)
  | createToken2022Mint (createMint : CreateToken2022MintInstruction)
  | updateHookWhitelist (updateWhitelist : UpdateHookWhitelistInstruction)
  | initializeExtraAccountMetaList (initMeta : List ExtraAccountMeta)
  | initializeHookWhitelist (authority : Pubkey)
  | updateWhitelistAuthority (newAuthority : Pubkey)

/-- `process_instruction` on a decoded instruction; the two retired ones panic. -/
def processInstruction (env : Env) (programId : Pubkey) (accounts : List AccountInfo)
    (instruction : AmmInstruction) (w : World) : Result World :=
  match instruction with
  | .preInitialize _ => Outcome.panic
  | .initialize1 _ _ => Outcome.panic
  | .initialize2 init2 => processInitialize2 env programId accounts init2 w
  | .monitorStep monitor => processMonitorStep env programId accounts monitor w
  | .deposit deposit => processDeposit env programId accounts deposit w
  | .withdraw withdraw => processWithdraw env programId accounts withdraw w
  | .migrateToOpenBook => processMigrateToOpenbook env programId accounts w
  | .setParams setparams => processSetParams env programId accounts setparams w
  | .withdrawPnl => processWithdrawPnl env programId accounts w
  | .withdrawSrm withdrawsrm => processWithdrawSrm env programId accounts withdrawsrm w
  | .swapBaseIn swap => processSwapBaseIn env programId accounts swap w
  | .swapBaseOut swap => processSwapBaseOut env programId accounts swap w
  | .simulateInfo simulate => processSimulateInfo env programId accounts simulate w
  | .adminCancelOrders cancel => processAdminCancelOrders env programId accounts cancel w
  | .createConfigAccount => processCreateConfig env programId accounts w
  | .updateConfigAccount configArgs => processUpdateConfig programId accounts configArgs w
  | .createToken2022Mint createMint => processCreateToken2022Mint env accounts createMint w
  | .updateHookWhitelist updateWhitelist =>
    processUpdateHookWhitelist env programId accounts updateWhitelist w
  | .initializeExtraAccountMetaList initMeta =>
    processInitializeExtraAccountMetaList env programId accounts initMeta w
  | .initializeHookWhitelist authority =>
    processInitializeHookWhitelist env programId accounts authority w
  | .updateWhitelistAuthority newAuthority =>
    processUpdateWhitelistAuthority env programId accounts newAuthority w

end RaydiumAmm
