import RaydiumAmm.Outcome

/-!
# Errors

`AmmError` lists the errors of the program in declaration order: an error converts to
`ProgramError::Custom` of its position. `Result` is the outcome of a handler, with the errors
already converted as the `?` operator does.
-/

namespace RaydiumAmm

/-- `solana_program::program_error::ProgramError`, the variants this program meets. -/
inductive ProgramError where
  | custom (code : BitVec 32)
  | invalidArgument
  | invalidInstructionData
  | invalidAccountData
  | accountDataTooSmall
  | incorrectProgramId
  | missingRequiredSignature
  | accountAlreadyInitialized
  | uninitializedAccount
  | notEnoughAccountKeys
  | accountBorrowFailed
  | invalidSeeds
  | invalidAccountOwner
  | externalAccountDataModified
deriving DecidableEq

/-- The errors of the program. -/
inductive AmmError where
  | alreadyInUse
  | invalidProgramAddress
  | expectedMint
  | expectedAccount
  | invalidCoinVault
  | invalidPCVault
  | invalidTokenLP
  | invalidDestTokenCoin
  | invalidDestTokenPC
  | invalidPoolMint
  | invalidOpenOrders
  | invalidMarket
  | invalidMarketProgram
  | invalidTargetOrders
  | accountNeedWriteable
  | accountNeedReadOnly
  | invalidCoinMint
  | invalidPCMint
  | invalidOwner
  | invalidSupply
  | invalidDelegate
  | invalidSignAccount
  | invalidStatus
  | invalidInstruction
  | wrongAccountsNumber
  | invalidTargetAccountOwner
  | invalidTargetOwner
  | invalidAmmAccountOwner
  | invalidParamsSet
  | invalidInput
  | exceededSlippage
  | calculationExRateFailure
  | checkedSubOverflow
  | checkedAddOverflow
  | checkedMulOverflow
  | checkedDivOverflow
  | checkedEmptyFunds
  | calcPnlError
  | invalidSplTokenProgram
  | takePnlError
  | insufficientFunds
  | conversionFailure
  | invalidUserToken
  | invalidSrmMint
  | invalidSrmToken
  | tooManyOpenOrders
  | orderAtSlotIsPlaced
  | invalidSysProgramAddress
  | invalidFee
  | repeatCreateAmm
  | notAllowZeroLP
  | invalidCloseAuthority
  | invalidFreezeAuthority
  | invalidReferPCMint
  | invalidConfigAccount
  | repeatCreateConfigAccount
  | marketLotSizeIsTooLarge
  | initLpAmountTooLess
  | unknownAmmError
  | transferHookNotWhitelisted
  | whitelistFull
  | transferHookError
  | invalidWhitelistAccount
  | invalidSystemProgram
  | hookMetaListNotFound
  | hookMetaListInvalid
  | hookMetaListAutoInitFailed
  | hookProgramNotSupportedForAutoInit
deriving DecidableEq

/-- `e as u32`. -/
def AmmError.code (e : AmmError) : BitVec 32 :=
  BitVec.ofNat 32 e.ctorIdx

/-- `From<AmmError> for ProgramError`. -/
def AmmError.into (e : AmmError) : ProgramError :=
  .custom e.code

/-- The outcome of a handler. -/
abbrev Result (α : Type) := Outcome ProgramError α

/-- Continue only where `p` holds; otherwise return `e`. -/
def check (p : Prop) [Decidable p] (e : AmmError) : Result Unit :=
  Outcome.require p e.into

@[simp] theorem check_eq_ok {p : Prop} [Decidable p] {e : AmmError} {u : Unit} :
    check p e = .ok u ↔ p :=
  Outcome.require_eq_ok

/-- The rule for a check at the head of a sequence: it leaves no value to name. -/
theorem check_bind_eq_ok {β : Type} {p : Prop} [Decidable p] {e : AmmError} {f : Unit → Result β}
    {b : β} : (check p e >>= f) = .ok b ↔ p ∧ f () = .ok b :=
  Outcome.require_bind_eq_ok

end RaydiumAmm
