import RaydiumAmm.Encoding
import RaydiumAmm.Layout

/-!
# The client's instruction builders

The builders of `instruction.rs`: each packs an instruction and lists the accounts that it is sent
with. The keys of a builder are one record, in the order of its parameters.
-/

namespace RaydiumAmm

/-- `spl_associated_token_account::id()`. -/
def splAssociatedTokenAccountId : Pubkey :=
  ⟨0x8c97258f4e2489f1bb3d1029148e0d830b5a1399daff1084048e7bd8dbe9f859⟩

/-- `solana_program::sysvar::clock::id()`. -/
def clockId : Pubkey :=
  ⟨0x06a7d51718c774c928566398691d5eb68b5eb8a39b4b6d5c73555b2100000000⟩

/-- `AccountMeta::new`. -/
def AccountMeta.new (pubkey : Pubkey) (isSigner : Bool) : AccountMeta := ⟨pubkey, isSigner, true⟩

/-- `AccountMeta::new_readonly`. -/
def AccountMeta.newReadonly (pubkey : Pubkey) (isSigner : Bool) : AccountMeta :=
  ⟨pubkey, isSigner, false⟩

namespace Client

/-- `Instruction` of the SDK: what a builder returns. -/
structure Request where
  programId : Pubkey
  accounts : List AccountMeta
  data : List U8

/-- Pack the instruction and send it with the accounts. -/
def request (ammProgram : Pubkey) (accounts : List AccountMeta) (instruction : AmmInstruction) :
    Result Request := do
  let data ← instruction.pack
  return ⟨ammProgram, accounts, data⟩

/-! ## Keys -/

/-- The keys of `initialize2`. -/
structure Initialize2Keys where
  ammPool : Pubkey
  ammAuthority : Pubkey
  ammOpenOrders : Pubkey
  ammLpMint : Pubkey
  ammCoinMint : Pubkey
  ammPcMint : Pubkey
  ammCoinVault : Pubkey
  ammPcVault : Pubkey
  ammTargetOrders : Pubkey
  ammConfig : Pubkey
  createFeeDestination : Pubkey
  marketProgram : Pubkey
  market : Pubkey
  userWallet : Pubkey
  userTokenCoin : Pubkey
  userTokenPc : Pubkey
  userTokenLp : Pubkey

/-- The keys of `deposit`. -/
structure DepositKeys where
  ammPool : Pubkey
  ammAuthority : Pubkey
  ammOpenOrders : Pubkey
  ammTargetOrders : Pubkey
  ammLpMint : Pubkey
  ammCoinVault : Pubkey
  ammPcVault : Pubkey
  market : Pubkey
  marketEventQueue : Pubkey
  userTokenCoin : Pubkey
  userTokenPc : Pubkey
  userTokenLp : Pubkey
  userOwner : Pubkey

/-- The keys of `swap_base_in` and `swap_base_out`. -/
structure SwapKeys where
  ammPool : Pubkey
  ammAuthority : Pubkey
  ammOpenOrders : Pubkey
  ammCoinVault : Pubkey
  ammPcVault : Pubkey
  marketProgram : Pubkey
  market : Pubkey
  marketBids : Pubkey
  marketAsks : Pubkey
  marketEventQueue : Pubkey
  marketCoinVault : Pubkey
  marketPcVault : Pubkey
  marketVaultSigner : Pubkey
  userTokenSource : Pubkey
  userTokenDestination : Pubkey
  userSourceOwner : Pubkey

/-- The keys of `migrate_to_openbook`. -/
structure MigrateKeys where
  ammPool : Pubkey
  ammAuthority : Pubkey
  ammOpenOrders : Pubkey
  ammCoinVault : Pubkey
  ammPcVault : Pubkey
  ammTargetOrders : Pubkey
  marketProgram : Pubkey
  market : Pubkey
  marketBids : Pubkey
  marketAsks : Pubkey
  marketEventQueue : Pubkey
  marketCoinVault : Pubkey
  marketPcVault : Pubkey
  marketVaultSigner : Pubkey
  newAmmOpenOrders : Pubkey
  newMarketProgram : Pubkey
  newMarket : Pubkey
  admin : Pubkey

/-- The keys of `withdrawpnl`. -/
structure WithdrawPnlKeys where
  ammPool : Pubkey
  ammConfig : Pubkey
  ammAuthority : Pubkey
  ammOpenOrders : Pubkey
  ammCoinVault : Pubkey
  ammPcVault : Pubkey
  userTokenCoin : Pubkey
  userTokenPc : Pubkey
  userOwner : Pubkey
  ammTargetOrders : Pubkey
  marketProgram : Pubkey
  market : Pubkey
  marketEventQueue : Pubkey
  marketCoinVault : Pubkey
  marketPcVault : Pubkey
  marketVaultSigner : Pubkey

/-- The keys of `set_params`, besides the new open orders. -/
structure SetParamsKeys where
  ammPool : Pubkey
  ammAuthority : Pubkey
  admin : Pubkey
  ammTargetOrders : Pubkey
  ammCoinVault : Pubkey
  ammPcVault : Pubkey
  ammOpenOrders : Pubkey
  marketProgram : Pubkey
  market : Pubkey
  marketCoinVault : Pubkey
  marketPcVault : Pubkey
  marketVaultSigner : Pubkey
  marketEventQueue : Pubkey
  marketBids : Pubkey
  marketAsks : Pubkey

/-- The keys of `monitor_step`, besides the optional ones. -/
structure MonitorKeys where
  ammPool : Pubkey
  ammAuthority : Pubkey
  ammOpenOrders : Pubkey
  ammTargetOrders : Pubkey
  ammCoinVault : Pubkey
  ammPcVault : Pubkey
  marketProgram : Pubkey
  market : Pubkey
  marketCoinVault : Pubkey
  marketPcVault : Pubkey
  marketVaultSigner : Pubkey
  marketRequestQueue : Pubkey
  marketEventQueue : Pubkey
  marketBids : Pubkey
  marketAsks : Pubkey

/-- The keys of `withdrawsrm`. -/
structure WithdrawSrmKeys where
  ammPool : Pubkey
  ammAuthority : Pubkey
  admin : Pubkey
  tokenSrm : Pubkey
  destTokenSrm : Pubkey

/-- The keys of `admin_cancel_orders`, besides the optional ones. -/
structure AdminCancelOrdersKeys where
  ammPool : Pubkey
  ammAuthority : Pubkey
  ammOpenOrders : Pubkey
  ammTargetOrders : Pubkey
  ammCoinVault : Pubkey
  ammPcVault : Pubkey
  ammCancelOwner : Pubkey
  ammConfig : Pubkey
  marketProgram : Pubkey
  market : Pubkey
  marketCoinVault : Pubkey
  marketPcVault : Pubkey
  marketVaultSigner : Pubkey
  marketEventQueue : Pubkey
  marketBids : Pubkey
  marketAsks : Pubkey

/-- The keys of `update_config_account`. -/
structure UpdateConfigKeys where
  admin : Pubkey
  ammConfig : Pubkey

/-! ## Accounts -/

/-- The accounts of `initialize2`. -/
def initialize2Accounts (k : Initialize2Keys) : List AccountMeta := [
  .newReadonly splTokenId false, .newReadonly splAssociatedTokenAccountId false,
  .newReadonly systemProgramId false, .newReadonly rentId false, .new k.ammPool false,
  .newReadonly k.ammAuthority false, .new k.ammOpenOrders false, .new k.ammLpMint false,
  .newReadonly k.ammCoinMint false, .newReadonly k.ammPcMint false, .new k.ammCoinVault false,
  .new k.ammPcVault false, .new k.ammTargetOrders false, .newReadonly k.ammConfig false,
  .new k.createFeeDestination false, .newReadonly k.marketProgram false,
  .newReadonly k.market false, .new k.userWallet true, .new k.userTokenCoin false,
  .new k.userTokenPc false, .new k.userTokenLp false]

/-- The accounts of `deposit`. -/
def depositAccounts (k : DepositKeys) : List AccountMeta := [
  .newReadonly splTokenId false, .new k.ammPool false, .newReadonly k.ammAuthority false,
  .newReadonly k.ammOpenOrders false, .new k.ammTargetOrders false, .new k.ammLpMint false,
  .new k.ammCoinVault false, .new k.ammPcVault false, .newReadonly k.market false,
  .new k.userTokenCoin false, .new k.userTokenPc false, .new k.userTokenLp false,
  .newReadonly k.userOwner true, .newReadonly k.marketEventQueue false]

/-- The accounts of both swaps; the target orders are commented out. -/
def swapAccounts (k : SwapKeys) : List AccountMeta := [
  .newReadonly splTokenId false, .new k.ammPool false, .newReadonly k.ammAuthority false,
  .new k.ammOpenOrders false, .new k.ammCoinVault false, .new k.ammPcVault false,
  .newReadonly k.marketProgram false, .new k.market false, .new k.marketBids false,
  .new k.marketAsks false, .new k.marketEventQueue false, .new k.marketCoinVault false,
  .new k.marketPcVault false, .newReadonly k.marketVaultSigner false, .new k.userTokenSource false,
  .new k.userTokenDestination false, .newReadonly k.userSourceOwner true]

/-- The accounts of `migrate_to_openbook`. -/
def migrateAccounts (k : MigrateKeys) : List AccountMeta := [
  .newReadonly splTokenId false, .newReadonly systemProgramId false, .newReadonly rentId false,
  .new k.ammPool false, .newReadonly k.ammAuthority false, .new k.ammOpenOrders false,
  .new k.ammCoinVault false, .new k.ammPcVault false, .new k.ammTargetOrders false,
  .newReadonly k.marketProgram false, .new k.market false, .new k.marketBids false,
  .new k.marketAsks false, .new k.marketEventQueue false, .new k.marketCoinVault false,
  .new k.marketPcVault false, .newReadonly k.marketVaultSigner false,
  .new k.newAmmOpenOrders false, .newReadonly k.newMarketProgram false,
  .newReadonly k.newMarket false, .new k.admin true]

/-- The accounts of `withdrawpnl`. -/
def withdrawPnlAccounts (k : WithdrawPnlKeys) : List AccountMeta := [
  .newReadonly splTokenId false, .new k.ammPool false, .newReadonly k.ammConfig false,
  .newReadonly k.ammAuthority false, .new k.ammOpenOrders false, .new k.ammCoinVault false,
  .new k.ammPcVault false, .new k.userTokenCoin false, .new k.userTokenPc false,
  .newReadonly k.userOwner true, .new k.ammTargetOrders false, .newReadonly k.marketProgram false,
  .new k.market false, .newReadonly k.marketEventQueue false, .new k.marketCoinVault false,
  .new k.marketPcVault false, .newReadonly k.marketVaultSigner false]

/-- The accounts of `set_params` before the new open orders. -/
def setParamsAccounts (k : SetParamsKeys) : List AccountMeta := [
  .newReadonly splTokenId false, .new k.ammPool false, .newReadonly k.ammAuthority false,
  .new k.ammOpenOrders false, .new k.ammTargetOrders false, .new k.ammCoinVault false,
  .new k.ammPcVault false, .newReadonly k.marketProgram false, .new k.market false,
  .new k.marketCoinVault false, .new k.marketPcVault false, .newReadonly k.marketVaultSigner false,
  .new k.marketEventQueue false, .new k.marketBids false, .new k.marketAsks false,
  .newReadonly k.admin true]

/-- The accounts of `monitor_step` before the optional ones. -/
def monitorAccounts (k : MonitorKeys) : List AccountMeta := [
  .newReadonly splTokenId false, .newReadonly rentId false, .newReadonly clockId false,
  .new k.ammPool false, .newReadonly k.ammAuthority false, .new k.ammOpenOrders false,
  .new k.ammTargetOrders false, .new k.ammCoinVault false, .new k.ammPcVault false,
  .newReadonly k.marketProgram false, .new k.market false, .new k.marketCoinVault false,
  .new k.marketPcVault false, .newReadonly k.marketVaultSigner false,
  .new k.marketRequestQueue false, .new k.marketEventQueue false, .new k.marketBids false,
  .new k.marketAsks false]

/-- The accounts of `withdrawsrm`. -/
def withdrawSrmAccounts (k : WithdrawSrmKeys) : List AccountMeta := [
  .newReadonly splTokenId false, .newReadonly k.ammPool false, .newReadonly k.admin true,
  .newReadonly k.ammAuthority false, .new k.tokenSrm false, .new k.destTokenSrm false]

/-- The accounts of `admin_cancel_orders` before the optional ones. -/
def adminCancelOrdersAccounts (k : AdminCancelOrdersKeys) : List AccountMeta := [
  .newReadonly splTokenId false, .newReadonly k.ammPool false, .newReadonly k.ammAuthority false,
  .new k.ammOpenOrders false, .new k.ammTargetOrders false, .new k.ammCoinVault false,
  .new k.ammPcVault false, .newReadonly k.ammCancelOwner true, .new k.ammConfig false,
  .newReadonly k.marketProgram false, .new k.market false, .new k.marketCoinVault false,
  .new k.marketPcVault false, .newReadonly k.marketVaultSigner false,
  .new k.marketEventQueue false, .new k.marketBids false, .new k.marketAsks false]

/-- The accounts of `update_config_account`. -/
def updateConfigAccounts (k : UpdateConfigKeys) : List AccountMeta := [
  .newReadonly k.admin true, .new k.ammConfig false]

/-- The optional accounts of `monitor_step` and `admin_cancel_orders`: the referrer is only listed
    behind the SRM account. -/
def srmAccounts (ammTokenSrm referrerTokenPc : Option Pubkey) : List AccountMeta :=
  match ammTokenSrm with
  | some tokenSrm => .new tokenSrm false :: referrerTokenPc.toList.map (.new · false)
  | none => []

/-! ## Builders -/

/-- `initialize2`. -/
def initialize2 (ammProgram : Pubkey) (k : Initialize2Keys) (init : InitializeInstruction2) :
    Result Request :=
  request ammProgram (initialize2Accounts k) (.initialize2 init)

/-- `deposit`. -/
def deposit (ammProgram : Pubkey) (k : DepositKeys) (deposit : DepositInstruction) :
    Result Request :=
  request ammProgram (depositAccounts k) (.deposit deposit)

/-- `withdraw`. -/
def withdraw (ammProgram : Pubkey) (k : WithdrawKeys) (referrerPcAccount : Option Pubkey)
    (withdraw : WithdrawInstruction) : Result Request :=
  request ammProgram (withdrawMetas k referrerPcAccount) (.withdraw withdraw)

/-- `swap_base_in`. -/
def swapBaseIn (ammProgram : Pubkey) (k : SwapKeys) (swap : SwapInstructionBaseIn) :
    Result Request :=
  request ammProgram (swapAccounts k) (.swapBaseIn swap)

/-- `swap_base_out`. -/
def swapBaseOut (ammProgram : Pubkey) (k : SwapKeys) (swap : SwapInstructionBaseOut) :
    Result Request :=
  request ammProgram (swapAccounts k) (.swapBaseOut swap)

/-- `migrate_to_openbook`. -/
def migrateToOpenbook (ammProgram : Pubkey) (k : MigrateKeys) : Result Request :=
  request ammProgram (migrateAccounts k) .migrateToOpenBook

/-- `withdrawpnl`. -/
def withdrawpnl (ammProgram : Pubkey) (k : WithdrawPnlKeys) : Result Request :=
  request ammProgram (withdrawPnlAccounts k) .withdrawPnl

/-- `set_params`: the parameter 17, `UpdateOpenOrder`, panics without new open orders. -/
def setParams (ammProgram : Pubkey) (k : SetParamsKeys) (newAmmOpenOrders : Option Pubkey)
    (setparams : SetParamsInstruction) : Result Request := do
  let r ← request ammProgram (setParamsAccounts k) (.setParams setparams)
  if setparams.param = 17 then do
    let newOpenOrders ← Outcome.unwrap newAmmOpenOrders
    return { r with accounts := r.accounts ++ [.newReadonly newOpenOrders false] }
  else return r

/-- `monitor_step`. -/
def monitorStep (ammProgram : Pubkey) (k : MonitorKeys)
    (ammTokenSrm referrerTokenPc : Option Pubkey) (monitor : MonitorStepInstruction) :
    Result Request :=
  request ammProgram (monitorAccounts k ++ srmAccounts ammTokenSrm referrerTokenPc)
    (.monitorStep monitor)

/-- `withdrawsrm`. -/
def withdrawsrm (ammProgram : Pubkey) (k : WithdrawSrmKeys) (withdrawsrm : WithdrawSrmInstruction) :
    Result Request :=
  request ammProgram (withdrawSrmAccounts k) (.withdrawSrm withdrawsrm)

/-- `admin_cancel_orders`. -/
def adminCancelOrders (ammProgram : Pubkey) (k : AdminCancelOrdersKeys)
    (ammTokenSrm referrerTokenPc : Option Pubkey) (cancel : AdminCancelOrdersInstruction) :
    Result Request :=
  request ammProgram (adminCancelOrdersAccounts k ++ srmAccounts ammTokenSrm referrerTokenPc)
    (.adminCancelOrders cancel)

/-- `update_config_account`. -/
def updateConfigAccount (ammProgram : Pubkey) (k : UpdateConfigKeys) (configArgs : ConfigArgs) :
    Result Request :=
  request ammProgram (updateConfigAccounts k) (.updateConfigAccount configArgs)

end Client

end RaydiumAmm
