import RaydiumAmm.Client
import RaydiumAmm.RoundTrip

/-!
# Client and program

Whether the accounts that a builder lists are the ones that the handler of its instruction binds.

1. Roles: what a handler binds an account as. A handler whose accounts do not bind fails.
2. Calls of the builders, and the key that a call passes for a role.
3. The data of a request reaches the handler of its builder.
4. `client_agrees_iff`: the keys for which client and program agree. For seven builders there are
   none.
-/

namespace RaydiumAmm

/-! ## 1. Roles -/

/-- What an account is to a handler. `user` is the wallet that signs. -/
inductive Role where
  | tokenProgram
  | systemProgram
  | rent
  | amm
  | ammAuthority
  | ammOpenOrders
  | ammTargetOrders
  | ammLpMint
  | ammCoinVault
  | ammPcVault
  | ammConfig
  | coinMint
  | pcMint
  | poolWithdrawQueue
  | lpWithdrawQueue
  | marketProgram
  | market
  | marketBids
  | marketAsks
  | marketEventQueue
  | marketCoinVault
  | marketPcVault
  | marketVaultSigner
  | user
  | userCoin
  | userPc
  | userLp
  | userSource
  | userDestination
  | userSrm
  | srmVault
  | referrerPc
deriving DecidableEq

/-- The accounts of a handler under their roles. -/
abbrev Bound := List (Role × Pubkey)

def InitializeAccounts.bound (a : InitializeAccounts) : Bound := [
  (.amm, a.ammInfo.key), (.ammAuthority, a.ammAuthorityInfo.key),
  (.ammOpenOrders, a.ammOpenOrdersInfo.key), (.ammTargetOrders, a.ammTargetOrdersInfo.key),
  (.ammCoinVault, a.ammCoinVaultInfo.key), (.ammPcVault, a.ammPcVaultInfo.key),
  (.ammLpMint, a.ammLpMintInfo.key), (.poolWithdrawQueue, a.poolWithdrawQueueInfo.key),
  (.lpWithdrawQueue, a.lpWithdrawQueueInfo.key), (.marketProgram, a.marketProgramInfo.key),
  (.market, a.marketInfo.key), (.marketBids, a.marketBidsInfo.key),
  (.marketAsks, a.marketAsksInfo.key), (.marketEventQueue, a.marketEventQueueInfo.key),
  (.marketCoinVault, a.marketCoinVaultInfo.key), (.marketPcVault, a.marketPcVaultInfo.key),
  (.marketVaultSigner, a.marketVaultSigner.key), (.tokenProgram, a.tokenProgramInfo.key),
  (.systemProgram, a.systemProgramInfo.key), (.rent, a.rentInfo.key),
  (.user, a.userWalletInfo.key), (.userCoin, a.userTokenCoinInfo.key),
  (.userPc, a.userTokenPcInfo.key), (.userLp, a.userTokenLpInfo.key),
  (.coinMint, a.coinMintInfo.key), (.pcMint, a.pcMintInfo.key),
  (.srmVault, a.srmTokenInfo.key), (.referrerPc, a.referrerPcInfo.key)]

def MonitorAccounts.bound (a : MonitorAccounts) : Bound := [
  (.amm, a.ammInfo.key), (.ammAuthority, a.ammAuthorityInfo.key),
  (.ammOpenOrders, a.ammOpenOrdersInfo.key), (.ammTargetOrders, a.ammTargetOrdersInfo.key),
  (.ammCoinVault, a.ammCoinVaultInfo.key), (.ammPcVault, a.ammPcVaultInfo.key),
  (.marketProgram, a.marketProgramInfo.key), (.market, a.marketInfo.key),
  (.marketBids, a.marketBidsInfo.key), (.marketAsks, a.marketAsksInfo.key),
  (.marketEventQueue, a.marketEventQueueInfo.key),
  (.marketCoinVault, a.marketCoinVaultInfo.key), (.marketPcVault, a.marketPcVaultInfo.key),
  (.marketVaultSigner, a.marketVaultSigner.key), (.tokenProgram, a.tokenProgramInfo.key),
  (.user, a.userWalletInfo.key)]

def DepositAccounts.bound (a : DepositAccounts) : Bound := [
  (.tokenProgram, a.tokenProgramInfo.key), (.amm, a.ammInfo.key),
  (.ammAuthority, a.ammAuthorityInfo.key), (.ammOpenOrders, a.ammOpenOrdersInfo.key),
  (.ammTargetOrders, a.ammTargetOrdersInfo.key), (.ammLpMint, a.ammLpMintInfo.key),
  (.ammCoinVault, a.ammCoinVaultInfo.key), (.ammPcVault, a.ammPcVaultInfo.key),
  (.market, a.marketInfo.key), (.userCoin, a.userSourceCoinInfo.key),
  (.userPc, a.userSourcePcInfo.key), (.userLp, a.userDestLpInfo.key),
  (.user, a.sourceOwnerInfo.key), (.marketEventQueue, a.marketEventQueueInfo.key),
  (.coinMint, a.coinMintInfo.key), (.pcMint, a.pcMintInfo.key)]

def WithdrawAccounts.bound (a : WithdrawAccounts) : Bound := [
  (.tokenProgram, a.tokenProgramInfo.key), (.amm, a.ammInfo.key),
  (.ammAuthority, a.ammAuthorityInfo.key), (.ammOpenOrders, a.ammOpenOrdersInfo.key),
  (.ammTargetOrders, a.ammTargetOrdersInfo.key), (.ammLpMint, a.ammLpMintInfo.key),
  (.ammCoinVault, a.ammCoinVaultInfo.key), (.ammPcVault, a.ammPcVaultInfo.key),
  (.coinMint, a.ammCoinMintInfo.key), (.pcMint, a.ammPcMintInfo.key),
  (.marketProgram, a.marketProgramInfo.key), (.market, a.marketInfo.key),
  (.marketCoinVault, a.marketCoinVaultInfo.key), (.marketPcVault, a.marketPcVaultInfo.key),
  (.marketVaultSigner, a.marketVaultSigner.key), (.userLp, a.userSourceLpInfo.key),
  (.userCoin, a.userDestCoinInfo.key), (.userPc, a.userDestPcInfo.key),
  (.user, a.sourceLpOwnerInfo.key), (.marketEventQueue, a.marketEventQInfo.key),
  (.marketBids, a.marketBidsInfo.key), (.marketAsks, a.marketAsksInfo.key)] ++
  a.referrerPcWallet.toList.map fun info => (.referrerPc, info.key)

def OrdersAccounts.bound (a : OrdersAccounts) : Bound := [
  (.amm, a.ammInfo.key), (.ammAuthority, a.ammAuthorityInfo.key),
  (.ammOpenOrders, a.ammOpenOrdersInfo.key), (.marketProgram, a.marketProgramInfo.key),
  (.market, a.marketInfo.key), (.marketBids, a.marketBidsInfo.key),
  (.marketAsks, a.marketAsksInfo.key), (.marketEventQueue, a.marketEventQueueInfo.key),
  (.marketCoinVault, a.marketCoinVaultInfo.key), (.marketPcVault, a.marketPcVaultInfo.key),
  (.marketVaultSigner, a.marketVaultSigner.key), (.tokenProgram, a.tokenProgramInfo.key),
  (.user, a.userWalletInfo.key)]

def WithdrawPnlAccounts.bound (a : WithdrawPnlAccounts) : Bound := [
  (.amm, a.ammInfo.key), (.ammAuthority, a.ammAuthorityInfo.key),
  (.ammCoinVault, a.ammCoinVaultInfo.key), (.ammPcVault, a.ammPcVaultInfo.key),
  (.userCoin, a.userDestCoinInfo.key), (.userPc, a.userDestPcInfo.key),
  (.tokenProgram, a.tokenProgramInfo.key), (.user, a.userWalletInfo.key)]

def WithdrawSrmAccounts.bound (a : WithdrawSrmAccounts) : Bound := [
  (.amm, a.ammInfo.key), (.ammAuthority, a.ammAuthorityInfo.key),
  (.srmVault, a.ammSrmVaultInfo.key), (.userSrm, a.userDestSrmInfo.key),
  (.tokenProgram, a.tokenProgramInfo.key), (.user, a.userWalletInfo.key)]

def SwapAccounts.bound (a : SwapAccounts) : Bound := [
  (.tokenProgram, a.tokenProgramInfo.key), (.amm, a.ammInfo.key),
  (.ammAuthority, a.ammAuthorityInfo.key), (.ammOpenOrders, a.ammOpenOrdersInfo.key),
  (.ammCoinVault, a.ammCoinVaultInfo.key), (.ammPcVault, a.ammPcVaultInfo.key),
  (.coinMint, a.ammCoinMintInfo.key), (.pcMint, a.ammPcMintInfo.key),
  (.marketProgram, a.marketProgramInfo.key), (.market, a.marketInfo.key),
  (.marketBids, a.marketBidsInfo.key), (.marketAsks, a.marketAsksInfo.key),
  (.marketEventQueue, a.marketEventQueueInfo.key),
  (.marketCoinVault, a.marketCoinVaultInfo.key), (.marketPcVault, a.marketPcVaultInfo.key),
  (.marketVaultSigner, a.marketVaultSigner.key), (.userSource, a.userSourceInfo.key),
  (.userDestination, a.userDestinationInfo.key), (.user, a.userSourceOwner.key)]

/-- The reads at the head of `process_set_params`. -/
def bindSetParams (accounts : List AccountInfo) : Result (AccountInfo × AccountInfo × AccountInfo) :=
  Binder.bindAll (do
    let ammInfo ← nextAccountInfo
    let ammAuthorityInfo ← nextAccountInfo
    let userWalletInfo ← nextAccountInfo
    return (ammInfo, ammAuthorityInfo, userWalletInfo)) accounts

/-- The reads at the head of `process_update_config`. -/
def bindUpdateConfig (accounts : List AccountInfo) : Result (AccountInfo × AccountInfo) :=
  Binder.bindAll (do
    let configInfo ← nextAccountInfo
    let userWalletInfo ← nextAccountInfo
    return (configInfo, userWalletInfo)) accounts

/-- What the handler of an instruction binds, after its length check. The instructions without one
    of the twelve builders are left out. -/
def AmmInstruction.bindRoles (i : AmmInstruction) (accounts : List AccountInfo) : Result Bound :=
  match i with
  | .initialize2 _ => InitializeAccounts.bound <$> bindInitialize accounts
  | .monitorStep _ => MonitorAccounts.bound <$> bindMonitor accounts
  | .deposit _ => DepositAccounts.bound <$> bindDeposit accounts
  | .withdraw _ => WithdrawAccounts.bound <$> bindWithdraw accounts
  | .migrateToOpenBook => OrdersAccounts.bound <$> bindOrders accounts
  | .setParams _ =>
    (fun a => [(.amm, a.1.key), (.ammAuthority, a.2.1.key), (.user, a.2.2.key)]) <$>
      bindSetParams accounts
  | .withdrawPnl => WithdrawPnlAccounts.bound <$> bindWithdrawPnl accounts
  | .withdrawSrm _ => WithdrawSrmAccounts.bound <$> bindWithdrawSrm accounts
  | .swapBaseIn _ => SwapAccounts.bound <$> bindSwap accounts
  | .swapBaseOut _ => SwapAccounts.bound <$> bindSwap accounts
  | .adminCancelOrders _ => OrdersAccounts.bound <$> bindOrders accounts
  | .updateConfigAccount _ =>
    (fun a => [(.ammConfig, a.1.key), (.user, a.2.key)]) <$> bindUpdateConfig accounts
  | _ => .ok []

/-- A computation whose result is mapped fails as it does. -/
theorem error_of_map {ε α β : Type} {f : α → β} {x : Outcome ε α} {e : Fault ε}
    (h : f <$> x = .error e) : x = .error e := by
  cases x with
  | ok a => cases h
  | error e' =>
    cases h
    rfl

/-- A handler whose accounts do not bind fails with that error. -/
theorem processInstruction_of_not_bound {env : Env} {programId : Pubkey}
    {accounts : List AccountInfo} {i : AmmInstruction} {w : World} {e : Fault ProgramError}
    (h : i.bindRoles accounts = .error e) :
    processInstruction env programId accounts i w = .error e := by
  have hfail : ∀ {α : Type} {x : Result α} (body : α → Result World), x = .error e →
      (x >>= body) = .error e := by
    rintro α x body rfl
    rfl
  cases i with
  | initialize2 init => exact hfail _ (error_of_map h)
  | monitorStep monitor => exact hfail _ (error_of_map h)
  | deposit deposit => exact hfail _ (error_of_map h)
  | withdraw withdraw => exact hfail _ (error_of_map h)
  | migrateToOpenBook => exact hfail _ (error_of_map h)
  | setParams setparams => exact hfail _ (error_of_map h)
  | withdrawPnl => exact hfail _ (error_of_map h)
  | withdrawSrm withdrawsrm => exact hfail _ (error_of_map h)
  | swapBaseIn swap => exact hfail _ (error_of_map h)
  | swapBaseOut swap => exact hfail _ (error_of_map h)
  | adminCancelOrders cancel => exact hfail _ (error_of_map h)
  | updateConfigAccount configArgs => exact hfail _ (error_of_map h)
  | _ => cases h

/-! ## 2. Calls of the builders -/

namespace Client

/-- A call of one of the builders. -/
inductive Call where
  | initialize2 (ammProgram : Pubkey) (k : Initialize2Keys) (init : InitializeInstruction2)
  | deposit (ammProgram : Pubkey) (k : DepositKeys) (deposit : DepositInstruction)
  | withdraw (ammProgram : Pubkey) (k : WithdrawKeys) (referrerPcAccount : Option Pubkey)
      (withdraw : WithdrawInstruction)
  | swapBaseIn (ammProgram : Pubkey) (k : SwapKeys) (swap : SwapInstructionBaseIn)
  | swapBaseOut (ammProgram : Pubkey) (k : SwapKeys) (swap : SwapInstructionBaseOut)
  | migrateToOpenbook (ammProgram : Pubkey) (k : MigrateKeys)
  | withdrawpnl (ammProgram : Pubkey) (k : WithdrawPnlKeys)
  | setParams (ammProgram : Pubkey) (k : SetParamsKeys) (newAmmOpenOrders : Option Pubkey)
      (setparams : SetParamsInstruction)
  | monitorStep (ammProgram : Pubkey) (k : MonitorKeys) (ammTokenSrm referrerTokenPc : Option Pubkey)
      (monitor : MonitorStepInstruction)
  | withdrawsrm (ammProgram : Pubkey) (k : WithdrawSrmKeys) (withdrawsrm : WithdrawSrmInstruction)
  | adminCancelOrders (ammProgram : Pubkey) (k : AdminCancelOrdersKeys)
      (ammTokenSrm referrerTokenPc : Option Pubkey) (cancel : AdminCancelOrdersInstruction)
  | updateConfigAccount (ammProgram : Pubkey) (k : UpdateConfigKeys) (configArgs : ConfigArgs)

/-- What the builder returns. -/
def Call.build : Call → Result Request
  | .initialize2 p k init => Client.initialize2 p k init
  | .deposit p k request => Client.deposit p k request
  | .withdraw p k referrer request => Client.withdraw p k referrer request
  | .swapBaseIn p k swap => Client.swapBaseIn p k swap
  | .swapBaseOut p k swap => Client.swapBaseOut p k swap
  | .migrateToOpenbook p k => Client.migrateToOpenbook p k
  | .withdrawpnl p k => Client.withdrawpnl p k
  | .setParams p k newOpenOrders request => Client.setParams p k newOpenOrders request
  | .monitorStep p k srm referrer monitor => Client.monitorStep p k srm referrer monitor
  | .withdrawsrm p k request => Client.withdrawsrm p k request
  | .adminCancelOrders p k srm referrer cancel => Client.adminCancelOrders p k srm referrer cancel
  | .updateConfigAccount p k configArgs => Client.updateConfigAccount p k configArgs

/-- The instruction that the builder packs. -/
def Call.instruction : Call → AmmInstruction
  | .initialize2 _ _ init => .initialize2 init
  | .deposit _ _ request => .deposit request
  | .withdraw _ _ _ request => .withdraw request
  | .swapBaseIn _ _ swap => .swapBaseIn swap
  | .swapBaseOut _ _ swap => .swapBaseOut swap
  | .migrateToOpenbook _ _ => .migrateToOpenBook
  | .withdrawpnl _ _ => .withdrawPnl
  | .setParams _ _ _ request => .setParams request
  | .monitorStep _ _ _ _ monitor => .monitorStep monitor
  | .withdrawsrm _ _ request => .withdrawSrm request
  | .adminCancelOrders _ _ _ _ cancel => .adminCancelOrders cancel
  | .updateConfigAccount _ _ configArgs => .updateConfigAccount configArgs

/-- The key that a swap passes for a role. -/
def SwapKeys.passed (k : SwapKeys) : Role → Option Pubkey
  | .tokenProgram => some splTokenId
  | .amm => some k.ammPool
  | .ammAuthority => some k.ammAuthority
  | .ammOpenOrders => some k.ammOpenOrders
  | .ammCoinVault => some k.ammCoinVault
  | .ammPcVault => some k.ammPcVault
  | .marketProgram => some k.marketProgram
  | .market => some k.market
  | .marketBids => some k.marketBids
  | .marketAsks => some k.marketAsks
  | .marketEventQueue => some k.marketEventQueue
  | .marketCoinVault => some k.marketCoinVault
  | .marketPcVault => some k.marketPcVault
  | .marketVaultSigner => some k.marketVaultSigner
  | .user => some k.userSourceOwner
  | .userSource => some k.userTokenSource
  | .userDestination => some k.userTokenDestination
  | _ => none

/-- The key that a call passes for a role. The builder itself passes the token program, the system
    program and the rent sysvar. -/
def Call.passed : Call → Role → Option Pubkey
  | .initialize2 _ k _ => fun
    | .tokenProgram => some splTokenId
    | .systemProgram => some systemProgramId
    | .rent => some rentId
    | .amm => some k.ammPool
    | .ammAuthority => some k.ammAuthority
    | .ammOpenOrders => some k.ammOpenOrders
    | .ammLpMint => some k.ammLpMint
    | .coinMint => some k.ammCoinMint
    | .pcMint => some k.ammPcMint
    | .ammCoinVault => some k.ammCoinVault
    | .ammPcVault => some k.ammPcVault
    | .ammTargetOrders => some k.ammTargetOrders
    | .ammConfig => some k.ammConfig
    | .marketProgram => some k.marketProgram
    | .market => some k.market
    | .user => some k.userWallet
    | .userCoin => some k.userTokenCoin
    | .userPc => some k.userTokenPc
    | .userLp => some k.userTokenLp
    | _ => none
  | .deposit _ k _ => fun
    | .tokenProgram => some splTokenId
    | .amm => some k.ammPool
    | .ammAuthority => some k.ammAuthority
    | .ammOpenOrders => some k.ammOpenOrders
    | .ammTargetOrders => some k.ammTargetOrders
    | .ammLpMint => some k.ammLpMint
    | .ammCoinVault => some k.ammCoinVault
    | .ammPcVault => some k.ammPcVault
    | .market => some k.market
    | .marketEventQueue => some k.marketEventQueue
    | .user => some k.userOwner
    | .userCoin => some k.userTokenCoin
    | .userPc => some k.userTokenPc
    | .userLp => some k.userTokenLp
    | _ => none
  | .withdraw _ k referrerPcAccount _ => fun
    | .tokenProgram => some splTokenId
    | .amm => some k.ammPool
    | .ammAuthority => some k.ammAuthority
    | .ammOpenOrders => some k.ammOpenOrders
    | .ammTargetOrders => some k.ammTargetOrders
    | .ammLpMint => some k.ammLpMint
    | .ammCoinVault => some k.ammCoinVault
    | .ammPcVault => some k.ammPcVault
    | .coinMint => some k.ammCoinMint
    | .pcMint => some k.ammPcMint
    | .marketProgram => some k.marketProgram
    | .market => some k.market
    | .marketCoinVault => some k.marketCoinVault
    | .marketPcVault => some k.marketPcVault
    | .marketVaultSigner => some k.marketVaultSigner
    | .marketEventQueue => some k.marketEventQueue
    | .marketBids => some k.marketBids
    | .marketAsks => some k.marketAsks
    | .user => some k.userOwner
    | .userCoin => some k.userTokenCoin
    | .userPc => some k.userTokenPc
    | .userLp => some k.userTokenLp
    | .referrerPc => referrerPcAccount
    | _ => none
  | .swapBaseIn _ k _ => k.passed
  | .swapBaseOut _ k _ => k.passed
  | .migrateToOpenbook _ k => fun
    | .tokenProgram => some splTokenId
    | .systemProgram => some systemProgramId
    | .rent => some rentId
    | .amm => some k.ammPool
    | .ammAuthority => some k.ammAuthority
    | .ammOpenOrders => some k.ammOpenOrders
    | .ammTargetOrders => some k.ammTargetOrders
    | .ammCoinVault => some k.ammCoinVault
    | .ammPcVault => some k.ammPcVault
    | .marketProgram => some k.marketProgram
    | .market => some k.market
    | .marketBids => some k.marketBids
    | .marketAsks => some k.marketAsks
    | .marketEventQueue => some k.marketEventQueue
    | .marketCoinVault => some k.marketCoinVault
    | .marketPcVault => some k.marketPcVault
    | .marketVaultSigner => some k.marketVaultSigner
    | .user => some k.admin
    | _ => none
  | .withdrawpnl _ k => fun
    | .tokenProgram => some splTokenId
    | .amm => some k.ammPool
    | .ammConfig => some k.ammConfig
    | .ammAuthority => some k.ammAuthority
    | .ammOpenOrders => some k.ammOpenOrders
    | .ammTargetOrders => some k.ammTargetOrders
    | .ammCoinVault => some k.ammCoinVault
    | .ammPcVault => some k.ammPcVault
    | .marketProgram => some k.marketProgram
    | .market => some k.market
    | .marketEventQueue => some k.marketEventQueue
    | .marketCoinVault => some k.marketCoinVault
    | .marketPcVault => some k.marketPcVault
    | .marketVaultSigner => some k.marketVaultSigner
    | .user => some k.userOwner
    | .userCoin => some k.userTokenCoin
    | .userPc => some k.userTokenPc
    | _ => none
  | .setParams _ k _ _ => fun
    | .tokenProgram => some splTokenId
    | .amm => some k.ammPool
    | .ammAuthority => some k.ammAuthority
    | .ammOpenOrders => some k.ammOpenOrders
    | .ammTargetOrders => some k.ammTargetOrders
    | .ammCoinVault => some k.ammCoinVault
    | .ammPcVault => some k.ammPcVault
    | .marketProgram => some k.marketProgram
    | .market => some k.market
    | .marketBids => some k.marketBids
    | .marketAsks => some k.marketAsks
    | .marketEventQueue => some k.marketEventQueue
    | .marketCoinVault => some k.marketCoinVault
    | .marketPcVault => some k.marketPcVault
    | .marketVaultSigner => some k.marketVaultSigner
    | .user => some k.admin
    | _ => none
  | .monitorStep _ k ammTokenSrm referrerTokenPc _ => fun
    | .tokenProgram => some splTokenId
    | .rent => some rentId
    | .amm => some k.ammPool
    | .ammAuthority => some k.ammAuthority
    | .ammOpenOrders => some k.ammOpenOrders
    | .ammTargetOrders => some k.ammTargetOrders
    | .ammCoinVault => some k.ammCoinVault
    | .ammPcVault => some k.ammPcVault
    | .marketProgram => some k.marketProgram
    | .market => some k.market
    | .marketBids => some k.marketBids
    | .marketAsks => some k.marketAsks
    | .marketEventQueue => some k.marketEventQueue
    | .marketCoinVault => some k.marketCoinVault
    | .marketPcVault => some k.marketPcVault
    | .marketVaultSigner => some k.marketVaultSigner
    | .srmVault => ammTokenSrm
    | .referrerPc => referrerTokenPc
    | _ => none
  | .withdrawsrm _ k _ => fun
    | .tokenProgram => some splTokenId
    | .amm => some k.ammPool
    | .ammAuthority => some k.ammAuthority
    | .user => some k.admin
    | .srmVault => some k.tokenSrm
    | .userSrm => some k.destTokenSrm
    | _ => none
  | .adminCancelOrders _ k ammTokenSrm referrerTokenPc _ => fun
    | .tokenProgram => some splTokenId
    | .amm => some k.ammPool
    | .ammAuthority => some k.ammAuthority
    | .ammOpenOrders => some k.ammOpenOrders
    | .ammTargetOrders => some k.ammTargetOrders
    | .ammCoinVault => some k.ammCoinVault
    | .ammPcVault => some k.ammPcVault
    | .ammConfig => some k.ammConfig
    | .marketProgram => some k.marketProgram
    | .market => some k.market
    | .marketBids => some k.marketBids
    | .marketAsks => some k.marketAsks
    | .marketEventQueue => some k.marketEventQueue
    | .marketCoinVault => some k.marketCoinVault
    | .marketPcVault => some k.marketPcVault
    | .marketVaultSigner => some k.marketVaultSigner
    | .user => some k.ammCancelOwner
    | .srmVault => ammTokenSrm
    | .referrerPc => referrerTokenPc
    | _ => none
  | .updateConfigAccount _ k _ => fun
    | .ammConfig => some k.ammConfig
    | .user => some k.admin
    | _ => none

end Client

/-! ## 3. Dispatch -/

/-- A parameter update is packed like the one that carries nothing but what its parameter needs. -/
theorem SetParamsInstruction.exists_canonical {s : SetParamsInstruction} {bytes : List U8}
    (h : packSetParams s = .ok bytes) :
    ∃ s' : SetParamsInstruction, s'.param = s.param ∧ s'.Canonical ∧
      packSetParams s' = .ok bytes := by
  obtain ⟨param, value, newPubkey, fees, distance⟩ := s
  have hpack := h
  simp only [packSetParams, Outcome.bind_eq_ok] at hpack
  obtain ⟨p, hparam, hpayload⟩ := hpack
  -- the payload alone, which packs the same and is canonical
  have hkeep : ∀ s' : SetParamsInstruction, s'.param = param →
      packSetParams s' = packSetParams ⟨param, value, newPubkey, fees, distance⟩ → s'.Canonical →
      ∃ s' : SetParamsInstruction, s'.param = param ∧ s'.Canonical ∧ packSetParams s' = .ok bytes :=
    fun s' hs' hsame hcanonical => ⟨s', hs', hcanonical, hsame.trans h⟩
  cases p with
  | ammOwner =>
    obtain ⟨key, rfl⟩ : ∃ key, newPubkey = some key := by
      cases newPubkey with
      | none => cases hpayload
      | some key => exact ⟨key, rfl⟩
    refine hkeep ⟨param, none, some key, none, none⟩ rfl ?_ ?_
    · simp only [packSetParams, hparam, Outcome.ok_bind]
    · simp only [SetParamsInstruction.Canonical, hparam]
      exact ⟨key, rfl⟩
  | fees =>
    obtain ⟨f, rfl⟩ : ∃ f, fees = some f := by
      cases fees with
      | none => cases hpayload
      | some f => exact ⟨f, rfl⟩
    refine hkeep ⟨param, none, none, some f, none⟩ rfl ?_ ?_
    · simp only [packSetParams, hparam, Outcome.ok_bind]
    · simp only [SetParamsInstruction.Canonical, hparam]
      exact ⟨f, rfl⟩
  | lastOrderDistance =>
    obtain ⟨d, rfl⟩ : ∃ d, distance = some d := by
      cases distance with
      | none => cases hpayload
      | some d => exact ⟨d, rfl⟩
    refine hkeep ⟨param, none, none, none, some d⟩ rfl ?_ ?_
    · simp only [packSetParams, hparam, Outcome.ok_bind]
    · simp only [SetParamsInstruction.Canonical, hparam]
      exact ⟨d, rfl⟩
  | _ =>
    obtain ⟨v, rfl⟩ : ∃ v, value = some v := by
      cases value with
      | none => cases hpayload
      | some v => exact ⟨v, rfl⟩
    refine hkeep ⟨param, some v, none, none, none⟩ rfl ?_ ?_
    · simp only [packSetParams, hparam, Outcome.ok_bind]
    · simp only [SetParamsInstruction.Canonical, hparam]
      exact ⟨v, rfl⟩

/-- The same for an update of the config. -/
theorem ConfigArgs.exists_canonical {c : ConfigArgs} {bytes : List U8}
    (h : packUpdateConfig c = .ok bytes) :
    ∃ c' : ConfigArgs, c'.param = c.param ∧ c'.Canonical ∧ packUpdateConfig c' = .ok bytes := by
  obtain ⟨param, owner, createPoolFee⟩ := c
  have hpack := h
  unfold packUpdateConfig at hpack
  split at hpack
  next howner =>
    simp only [payload, Outcome.bind_eq_ok, Outcome.okOr_eq_ok, Outcome.require_eq_ok] at hpack
    obtain ⟨key, rfl, -, hkey, -⟩ := hpack
    refine ⟨⟨param, some key, none⟩, rfl, .inl ⟨howner, key, hkey, rfl⟩, ?_⟩
    rw [← h, packUpdateConfig, packUpdateConfig, if_pos howner, if_pos howner]
  next howner =>
    split at hpack
    next hfee =>
      simp only [payload, Outcome.bind_eq_ok, Outcome.okOr_eq_ok] at hpack
      obtain ⟨fee, rfl, -⟩ := hpack
      refine ⟨⟨param, none, some fee⟩, rfl, .inr ⟨hfee, fee, rfl⟩, ?_⟩
      rw [← h, packUpdateConfig, packUpdateConfig, if_neg howner, if_neg howner, if_pos hfee]
    next => cases hpack

namespace Client

/-- The data of a request is read as an instruction that binds like the one that was packed. -/
theorem Call.unpack_of_pack {call : Call} {data : List U8}
    (h : call.instruction.pack = .ok data) :
    ∃ i, AmmInstruction.unpack data = .ok i ∧ i.bindRoles = call.instruction.bindRoles := by
  -- an instruction that is read back as it was packed
  have hcanonical : ∀ j : AmmInstruction, j.Canonical → j.pack = .ok data →
      j.bindRoles = call.instruction.bindRoles →
      ∃ i, AmmInstruction.unpack data = .ok i ∧ i.bindRoles = call.instruction.bindRoles := by
    intro j hj hpack hbind
    obtain ⟨b, hpack', hunpack⟩ := AmmInstruction.unpack_of_pack hj
    obtain rfl := Except.ok.inj (hpack'.symm.trans hpack)
    exact ⟨j, hunpack, hbind⟩
  have hself : call.instruction.Canonical →
      ∃ i, AmmInstruction.unpack data = .ok i ∧ i.bindRoles = call.instruction.bindRoles :=
    fun hj => hcanonical call.instruction hj h rfl
  cases call with
  | setParams p k newOpenOrders request =>
    obtain ⟨bytes, hbytes, hdata⟩ := Outcome.bind_eq_ok.mp h
    obtain ⟨request', hparam, hrequest, hpack⟩ := SetParamsInstruction.exists_canonical hbytes
    refine hcanonical (.setParams request') hrequest ?_ rfl
    rw [AmmInstruction.pack, hpack, hparam]
    exact hdata
  | updateConfigAccount p k configArgs =>
    obtain ⟨bytes, hbytes, hdata⟩ := Outcome.bind_eq_ok.mp h
    obtain ⟨args, hparam, hargs, hpack⟩ := ConfigArgs.exists_canonical hbytes
    refine hcanonical (.updateConfigAccount args) hargs ?_ rfl
    rw [AmmInstruction.pack, hpack, hparam]
    exact hdata
  | withdraw p k referrer request =>
    obtain ⟨amount, minCoin, minPc⟩ := request
    cases minCoin with
    | none => exact hcanonical (.withdraw ⟨amount, none, none⟩) rfl (by cases minPc <;> exact h) rfl
    | some coin =>
      cases minPc with
      | none => exact hcanonical (.withdraw ⟨amount, none, none⟩) rfl h rfl
      | some pc => exact hcanonical (.withdraw ⟨amount, some coin, some pc⟩) rfl h rfl
  | _ => exact hself trivial

/-- The accounts that a builder lists. -/
def Call.accounts : Call → List AccountMeta
  | .initialize2 _ k _ => initialize2Accounts k
  | .deposit _ k _ => depositAccounts k
  | .withdraw _ k referrer _ => withdrawMetas k referrer
  | .swapBaseIn _ k _ => swapAccounts k
  | .swapBaseOut _ k _ => swapAccounts k
  | .migrateToOpenbook _ k => migrateAccounts k
  | .withdrawpnl _ k => withdrawPnlAccounts k
  | .setParams _ k newOpenOrders request =>
    setParamsAccounts k ++
      if request.param = 17 then newOpenOrders.toList.map (.newReadonly · false) else []
  | .monitorStep _ k srm referrer _ => monitorAccounts k ++ srmAccounts srm referrer
  | .withdrawsrm _ k _ => withdrawSrmAccounts k
  | .adminCancelOrders _ k srm referrer _ =>
    adminCancelOrdersAccounts k ++ srmAccounts srm referrer
  | .updateConfigAccount _ k _ => updateConfigAccounts k

theorem request_eq_ok {ammProgram : Pubkey} {accounts : List AccountMeta}
    {instruction : AmmInstruction} {r : Request}
    (h : request ammProgram accounts instruction = .ok r) :
    instruction.pack = .ok r.data ∧ r.accounts = accounts := by
  simp only [request, Outcome.bind_eq_ok, Outcome.pure_eq_ok] at h
  obtain ⟨data, hpack, rfl⟩ := h
  exact ⟨hpack, rfl⟩

/-- What is in a request: the packed instruction and the listed accounts. -/
theorem Call.build_eq_ok {call : Call} {r : Request} (h : call.build = .ok r) :
    call.instruction.pack = .ok r.data ∧ r.accounts = call.accounts := by
  cases call with
  | setParams p k newOpenOrders request =>
    simp only [Call.build, Client.setParams, Outcome.bind_eq_ok] at h
    obtain ⟨r', hr', hadd⟩ := h
    obtain ⟨hpack, haccounts⟩ := request_eq_ok hr'
    by_cases hparam : request.param = 17
    · rw [if_pos hparam] at hadd
      simp only [Outcome.bind_eq_ok, Outcome.unwrap_eq_ok, Outcome.pure_eq_ok] at hadd
      obtain ⟨newKey, rfl, rfl⟩ := hadd
      refine ⟨hpack, ?_⟩
      show r'.accounts ++ _ = setParamsAccounts k ++ _
      rw [haccounts, if_pos hparam]
      rfl
    · rw [if_neg hparam] at hadd
      obtain rfl := Outcome.pure_eq_ok.mp hadd
      refine ⟨hpack, ?_⟩
      rw [haccounts, Call.accounts, if_neg hparam, List.append_nil]
  | _ => exact request_eq_ok h

/-! ## 4. Agreement -/

/-- Client and program agree on a request: the handler of its data binds the accounts, and each of
    them is the key that the call passed for its role. -/
def Call.Agrees (call : Call) (r : Request) : Prop :=
  ∃ i bound, AmmInstruction.unpack r.data = .ok i ∧
    i.bindRoles (r.accounts.map AccountMeta.info) = .ok bound ∧
    ∀ b ∈ bound, call.passed b.1 = some b.2

/-- The keys of a call for which the accounts that its handler binds, by their positions in the
    list of the builder, are the ones meant. -/
def Call.KeysCoincide : Call → Prop
  | .withdrawpnl _ k =>
    k.ammPool = splTokenId ∧ k.ammAuthority = k.ammPool ∧ k.ammCoinVault = k.ammConfig ∧
      k.ammPcVault = k.ammAuthority ∧ k.userTokenCoin = k.ammOpenOrders ∧
      k.userTokenPc = k.ammCoinVault ∧ splTokenId = k.ammPcVault ∧ k.userOwner = k.userTokenCoin
  | .setParams _ k _ _ =>
    k.ammPool = splTokenId ∧ k.ammAuthority = k.ammPool ∧ k.admin = k.ammAuthority
  | .withdrawsrm _ k _ =>
    k.ammPool = splTokenId ∧ k.ammAuthority = k.ammPool ∧ k.tokenSrm = k.admin ∧
      k.destTokenSrm = k.ammAuthority ∧ splTokenId = k.tokenSrm ∧ k.admin = k.destTokenSrm
  | .adminCancelOrders _ k _ _ _ =>
    k.ammPool = splTokenId ∧ k.ammAuthority = k.ammPool ∧ k.ammOpenOrders = k.ammAuthority ∧
      k.marketProgram = k.ammOpenOrders ∧ k.market = k.ammTargetOrders ∧
      k.marketBids = k.ammCoinVault ∧ k.marketAsks = k.ammPcVault ∧
      k.marketEventQueue = k.ammCancelOwner ∧ k.marketCoinVault = k.ammConfig ∧
      k.marketPcVault = k.marketProgram ∧ k.marketVaultSigner = k.market ∧
      splTokenId = k.marketCoinVault ∧ k.ammCancelOwner = k.marketPcVault
  | .updateConfigAccount _ k _ => k.ammConfig = k.admin
  | _ => False

@[simp] theorem key_info_new (pubkey : Pubkey) (isSigner : Bool) :
    (AccountMeta.new pubkey isSigner).info.key = pubkey := rfl

@[simp] theorem key_info_newReadonly (pubkey : Pubkey) (isSigner : Bool) :
    (AccountMeta.newReadonly pubkey isSigner).info.key = pubkey := rfl

/-- The calls whose builders list too few accounts. -/
def Call.isShort : Call → Bool
  | .initialize2 _ _ _ => true
  | .deposit _ _ _ => true
  | .withdraw _ _ _ _ => true
  | .swapBaseIn _ _ _ => true
  | .swapBaseOut _ _ _ => true
  | _ => false

theorem Call.not_bound_of_isShort {call : Call} (h : call.isShort = true) :
    ∃ e, call.instruction.bindRoles (call.accounts.map AccountMeta.info) = .error e := by
  cases call with
  | initialize2 p k init => exact ⟨_, rfl⟩
  | deposit p k request => exact ⟨_, rfl⟩
  | withdraw p k referrer request =>
    cases referrer with
    | none => exact ⟨_, rfl⟩
    | some key => exact ⟨_, rfl⟩
  | swapBaseIn p k swap => exact ⟨_, rfl⟩
  | swapBaseOut p k swap => exact ⟨_, rfl⟩
  | _ => cases h

/-- The accounts that are listed against those that are bound. No keys agree where the list is too
    short for the length check or for the reads, where the wallet is not passed, and where the rent
    sysvar is bound as the token program. -/
theorem Call.bound_agree_iff (call : Call) :
    (∃ bound, call.instruction.bindRoles (call.accounts.map AccountMeta.info) = .ok bound ∧
      ∀ b ∈ bound, call.passed b.1 = some b.2) ↔ call.KeysCoincide := by
  have hnone : call.isShort = true →
      ¬∃ bound, call.instruction.bindRoles (call.accounts.map AccountMeta.info) = .ok bound ∧
        ∀ b ∈ bound, call.passed b.1 = some b.2 := by
    rintro hshort ⟨bound, hbound, -⟩
    obtain ⟨e, he⟩ := Call.not_bound_of_isShort hshort
    rw [he] at hbound
    cases hbound
  have hsome : ∀ {bound : Bound},
      call.instruction.bindRoles (call.accounts.map AccountMeta.info) = .ok bound →
      ((∃ bound, call.instruction.bindRoles (call.accounts.map AccountMeta.info) = .ok bound ∧
        ∀ b ∈ bound, call.passed b.1 = some b.2) ↔ ∀ b ∈ bound, call.passed b.1 = some b.2) := by
    intro bound hbound
    rw [hbound]
    simp
  cases call with
  | initialize2 p k init => exact iff_of_false (hnone rfl) id
  | deposit p k request => exact iff_of_false (hnone rfl) id
  | withdraw p k referrer request => exact iff_of_false (hnone rfl) id
  | swapBaseIn p k swap => exact iff_of_false (hnone rfl) id
  | swapBaseOut p k swap => exact iff_of_false (hnone rfl) id
  | migrateToOpenbook p k =>
    rw [hsome rfl]
    refine iff_of_false ?_ id
    simp only [OrdersAccounts.bound, List.forall_mem_cons, Call.passed, Option.some.injEq,
      key_info_new, key_info_newReadonly]
    rintro ⟨-, -, hopen, -, -, hbids, -, -, -, -, -, htoken, -⟩
    have hrent : splTokenId = rentId := by rw [htoken, hbids, hopen]
    exact absurd hrent (by decide)
  | withdrawpnl p k =>
    rw [hsome rfl]
    simp [WithdrawPnlAccounts.bound, Call.passed, Call.KeysCoincide]
  | setParams p k newOpenOrders request =>
    rw [hsome rfl]
    simp [Call.passed, Call.KeysCoincide]
  | monitorStep p k srm referrer monitor =>
    rw [hsome rfl]
    simp [MonitorAccounts.bound, Call.passed, Call.KeysCoincide]
  | withdrawsrm p k request =>
    rw [hsome rfl]
    simp [WithdrawSrmAccounts.bound, Call.passed, Call.KeysCoincide]
  | adminCancelOrders p k srm referrer cancel =>
    rw [hsome rfl]
    simp [OrdersAccounts.bound, Call.passed, Call.KeysCoincide]
  | updateConfigAccount p k configArgs =>
    rw [hsome rfl]
    simp only [List.forall_mem_cons, Call.passed, Call.KeysCoincide, Option.some.injEq]
    exact ⟨fun hagree => hagree.1, fun hkeys => ⟨hkeys, hkeys.symm, by simp⟩⟩

/-- Client and program agree exactly where the keys of the call coincide. -/
theorem client_agrees_iff {call : Call} {r : Request} (h : call.build = .ok r) :
    call.Agrees r ↔ call.KeysCoincide := by
  obtain ⟨hpack, haccounts⟩ := Call.build_eq_ok h
  obtain ⟨i, hunpack, hbind⟩ := Call.unpack_of_pack hpack
  rw [← call.bound_agree_iff, Call.Agrees, haccounts]
  constructor
  · rintro ⟨j, bound, hj, hbound, hkeys⟩
    obtain rfl : i = j := Except.ok.inj (hunpack.symm.trans hj)
    exact ⟨bound, by rw [← hbind]; exact hbound, hkeys⟩
  · rintro ⟨bound, hbound, hkeys⟩
    exact ⟨i, bound, hunpack, by rw [hbind]; exact hbound, hkeys⟩

open Reference in
/-- An update of a config account that is its own admin. -/
theorem client_agrees_iff_config :
    ∃ r, (Call.updateConfigAccount program ⟨key 30, key 30⟩ ⟨2, none, some 5⟩).build = .ok r ∧
      (Call.updateConfigAccount program ⟨key 30, key 30⟩ ⟨2, none, some 5⟩).Agrees r :=
  ⟨_, rfl, (client_agrees_iff rfl).mpr rfl⟩

end Client

namespace Reference

/-- The keys of `depositAccounts`, as a client passes them. -/
def depositKeys : Client.DepositKeys where
  ammPool := key 10
  ammAuthority := authority
  ammOpenOrders := key 11
  ammTargetOrders := key 12
  ammLpMint := key 15
  ammCoinVault := key 13
  ammPcVault := key 14
  market := key 17
  marketEventQueue := key 20
  userTokenCoin := key 31
  userTokenPc := key 32
  userTokenLp := key 33
  userOwner := key 30

end Reference

open Reference in
/-- A deposit that goes through on the accounts meant is refused by their number on the list that
    the client builds. -/
theorem client_deposit_refused :
    (depositBody env program depositAccounts ⟨1000, 10000, 0, none⟩ swapWorld).isOk = true ∧
    ∃ r, (Client.Call.deposit program depositKeys ⟨1000, 10000, 0, none⟩).build = .ok r ∧
      AmmInstruction.unpack r.data = .ok (.deposit ⟨1000, 10000, 0, none⟩) ∧
      processInstruction env program (r.accounts.map AccountMeta.info)
        (.deposit ⟨1000, 10000, 0, none⟩) swapWorld =
          Outcome.fail AmmError.wrongAccountsNumber.into ∧
      ¬(Client.Call.deposit program depositKeys ⟨1000, 10000, 0, none⟩).Agrees r := by
  refine ⟨by decide, _, rfl, rfl, processInstruction_of_not_bound rfl, ?_⟩
  rintro ⟨i, bound, hunpack, hbound, -⟩
  cases hunpack
  cases hbound

end RaydiumAmm
