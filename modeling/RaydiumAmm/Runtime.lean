import RaydiumAmm.Math

/-!
# Accounts, cross-program calls and the environment

A handler runs over a `World`: the accounts, the clock, the accounts whose data is mutably
borrowed at this point, and the calls issued so far. Everything outside this program is a field
of `Env`: address derivation, the exchange's loaders, the layout of hook accounts and the effect
of a call on the accounts.

Account data is kept in its decoded form. The constructor of `AccountData` stands for the length
and the discriminating bytes that the loaders test; `bytes` is any other content.
-/

namespace RaydiumAmm

/-! ## Accounts -/

/-- `spl_token::state::Account`. `frozen` stands for its state, and `transferring` is the flag of
    the `TransferHookAccount` extension where the account has one; such an account is longer than
    the plain 165 bytes. No handler reads the delegate or the state: the token program does. -/
structure TokenAccount where
  mint : Pubkey
  owner : Pubkey
  amount : U64
  delegate : Option Pubkey := none
  frozen : Bool := false
  delegatedAmount : U64 := 0
  transferring : Option Bool := none
deriving DecidableEq

/-- A mint. `transferHook` is the program id of the `TransferHook` extension where the mint has
    one; such a mint is longer than the plain 82 bytes. -/
structure Mint where
  supply : U64
  decimals : U8
  transferHook : Option (Option Pubkey) := none
deriving DecidableEq

/-- The content of an account. -/
inductive AccountData where
  | amm (a : AmmInfo)
  | targetOrders (t : TargetOrders)
  | config (c : AmmConfig)
  | token (t : TokenAccount)
  | mint (m : Mint)
  | market (m : MarketState)
  | openOrders (o : OpenOrders)
  | slab (s : Slab)
  | eventQueue (q : List Event)
  | bytes (b : List U8)

/-- An account holds one pool record. -/
theorem AccountData.amm_unique {d : AccountData} {amm amm' : AmmInfo} (h : d = .amm amm)
    (h' : d = .amm amm') : amm = amm' :=
  AccountData.amm.inj (h.symm.trans h')

/-- An account holds one target-orders record. -/
theorem AccountData.targetOrders_unique {d : AccountData} {t t' : TargetOrders}
    (h : d = .targetOrders t) (h' : d = .targetOrders t') : t = t' :=
  AccountData.targetOrders.inj (h.symm.trans h')

/-- An account: the program that owns it, and its content. -/
structure Account where
  owner : Pubkey
  data : AccountData

instance : Inhabited Account := ⟨Pubkey.default, .bytes []⟩

theorem Account.eq_mk {a : Account} {owner : Pubkey} {data : AccountData} (howner : a.owner = owner)
    (hdata : a.data = data) : a = ⟨owner, data⟩ := by
  cases a
  cases howner
  cases hdata
  rfl

/-- All accounts. -/
abbrev Accounts := Pubkey → Account

/-- How an instruction names an account. -/
structure AccountInfo where
  key : Pubkey
  isSigner : Bool
  isWritable : Bool
deriving DecidableEq

/-- Replace the content of one account. -/
def Accounts.setData (a : Accounts) (key : Pubkey) (data : AccountData) : Accounts :=
  fun k => if k = key then { a k with data := data } else a k

/-- The token balance of an account; 0 where it is not a token account. -/
def Accounts.balance (a : Accounts) (key : Pubkey) : Nat :=
  match (a key).data with
  | .token t => t.amount.toNat
  | _ => 0

/-! ## Well-known programs -/

/-- `spl_token::id()`. -/
def splTokenId : Pubkey :=
  ⟨0x06ddf6e1d765a193d9cbe146ceeb79ac1cb485ed5f5b37913a8cf5857eff00a9⟩

/-- `spl_token_2022::id()`. -/
def splToken2022Id : Pubkey :=
  ⟨0x06ddf6e1ee758fde18425dbce46ccddab61afc4d83b90d27febdf928d8a18bfc⟩

/-- `solana_program::system_program::id()`. -/
def systemProgramId : Pubkey := ⟨0⟩

/-- `solana_program::incinerator::id()`. -/
def incineratorId : Pubkey :=
  ⟨0x003390728d34116079bdc911bfff00dbd44d2ecdccf79ca6e10038e100000000⟩

/-- `solana_program::sysvar::rent::id()`. -/
def rentId : Pubkey :=
  ⟨0x06a7d517192c5c51218cc94c3d4af17f58daee089ba1fd44e3dbd98a00000000⟩

/-! ## Cross-program calls -/

/-- The accounts of a dex `SettleFunds` instruction. -/
structure SettleFunds where
  dexProgram : Pubkey
  market : Pubkey
  tokenProgram : Pubkey
  openOrders : Pubkey
  owner : Pubkey
  coinVault : Pubkey
  coinWallet : Pubkey
  pcVault : Pubkey
  pcWallet : Pubkey
  referrerPcWallet : Option Pubkey
  vaultSigner : Pubkey
deriving DecidableEq

/-- A dex `CancelOrdersByClientIds` instruction. -/
structure CancelOrders where
  dexProgram : Pubkey
  market : Pubkey
  bids : Pubkey
  asks : Pubkey
  openOrders : Pubkey
  owner : Pubkey
  eventQ : Pubkey
  clientOrderIds : List U64
deriving DecidableEq

/-- `AccountMeta`. -/
structure AccountMeta where
  pubkey : Pubkey
  isSigner : Bool
  isWritable : Bool
deriving DecidableEq

/-- `ExtraAccountMeta` of the TLV account resolution. -/
structure ExtraAccountMeta where
  discriminator : U8
  addressConfig : BitVec 256
  isSigner : U8
  isWritable : U8
deriving DecidableEq

/-- The steps of setting up a Token-2022 mint after its account exists. -/
inductive MintSetup where
  | metadataPointer (authority metadataAddress : Pubkey)
  | transferHook (authority hookProgramId : Pubkey)
  | mint2 (mintAuthority : Pubkey) (freezeAuthority : Option Pubkey) (decimals : U8)
  | metadata (updateAuthority mintAuthority : Pubkey) (name symbol uri : List U8)
deriving DecidableEq

/-- The instructions that this program passes to other programs. -/
inductive Instruction where
  | transfer (tokenProgram source destination authority : Pubkey) (amount : U64)
  | transferChecked (tokenProgram source mint destination authority : Pubkey) (amount : U64)
      (decimals : U8)
  | mintTo (tokenProgram mint destination authority : Pubkey) (amount : U64)
  | burn (tokenProgram account mint authority : Pubkey) (amount : U64)
  | cancelOrders (c : CancelOrders)
  | settleFunds (s : SettleFunds)
  | executeHook (programId : Pubkey) (metas : List AccountMeta) (amount : U64)
  | createAccount (payer newAccount : Pubkey) (lamports : U64) (space : Nat) (owner : Pubkey)
  | mintSetup (tokenProgram mint : Pubkey) (step : MintSetup)
  | initExtraAccountMetaList (programId list mint authority : Pubkey)
      (metas : List ExtraAccountMeta)
deriving DecidableEq

/-- A call: the instruction, the account infos handed over, and the seeds that sign. -/
structure Cpi where
  ix : Instruction
  infos : List AccountInfo
  seeds : List (List (List U8))
deriving DecidableEq

/-- A call that was made, with the accounts before and after it. -/
structure InnerInstruction where
  cpi : Cpi
  pre : Accounts
  post : Accounts

/-- What an account resolution looks up: the key and the data that it is shown. -/
abbrev MetaLookup := Nat → Option (Pubkey × Option (List U8))

/-- Everything outside this program. -/
structure Env where
  createProgramAddress : List (List U8) → Pubkey → Option Pubkey
  findProgramAddress : List (List U8) → Pubkey → Pubkey × U8
  rentMinimumBalance : Nat → U64
  invoke : Cpi → Accounts → Except ProgramError Accounts
  loadMarket : Pubkey → Account → Pubkey → Bool → Except ProgramError MarketState
  loadOpenOrders : Pubkey → Account → Pubkey → Pubkey → Pubkey → Except ProgramError OpenOrders
  loadBids : MarketState → Pubkey → Account → Except ProgramError Slab
  loadAsks : MarketState → Pubkey → Account → Except ProgramError Slab
  loadEventQueue : MarketState → Pubkey → Account → Except ProgramError (List Event)
  tlvUnpack : AccountData → Bool
  metaListUnpack : AccountData → Option (List ExtraAccountMeta)
  resolveMeta : ExtraAccountMeta → U64 → Pubkey → MetaLookup → Except ProgramError AccountMeta
  mintSpace : Bool → Bool → Option Nat
  metaListSpace : Nat → Except ProgramError Nat

/-! ## The world of a handler -/

/-- `Clock`. `unixTimestamp` is the value after the cast to `u64`. -/
structure Clock where
  unixTimestamp : U64
  epoch : U64

/-- The state that a handler runs over. -/
structure World where
  accounts : Accounts
  clock : Clock
  borrowed : List Pubkey
  inner : List InnerInstruction

namespace World

/-- The token balance of an account. -/
def balance (w : World) (key : Pubkey) : Nat := w.accounts.balance key

/-- `try_borrow_mut_data`: an account whose data is borrowed already gives an error. -/
def tryBorrowMutData (w : World) (key : Pubkey) : Result World := do
  Outcome.require (key ∉ w.borrowed) .accountBorrowFailed
  return { w with borrowed := key :: w.borrowed }

/-- Write the borrowed record of `key` back and drop the borrow. No other code can read the
    account while the borrow lasts, so the writes of a handler to its record count from here. -/
def dropRefMut (w : World) (key : Pubkey) (data : AccountData) : World :=
  { w with accounts := w.accounts.setData key data, borrowed := w.borrowed.erase key }

/-- A direct write to account data. The runtime undoes an instruction that changed an account
    which the program does not own. That it also refuses one which changed an account handed over as
    read-only is not modelled: a run of the model goes on there. -/
def writeData (w : World) (programId key : Pubkey) (data : AccountData) : Result World := do
  Outcome.require ((w.accounts key).owner = programId) .externalAccountDataModified
  return { w with accounts := w.accounts.setData key data }

/-- `invoke_signed`: no account that is handed over may be borrowed. The rest is up to `Env.invoke`,
    the runtime's check of the writable and signer privileges among it. -/
def invoke (env : Env) (w : World) (cpi : Cpi) : Result World := do
  Outcome.require (∀ info ∈ cpi.infos, info.key ∉ w.borrowed) .accountBorrowFailed
  let accounts ← Outcome.lift (env.invoke cpi w.accounts)
  return {
    w with
    accounts := accounts
    inner := w.inner ++ [⟨cpi, w.accounts, accounts⟩]
  }

end World

/-! ## Loading the program's records -/

/-- `AmmInfo::load_checked`. -/
def AmmInfo.loadChecked (w : World) (info : AccountInfo) (programId : Pubkey) :
    Result AmmInfo := do
  check ((w.accounts info.key).owner = programId) .invalidAmmAccountOwner
  match (w.accounts info.key).data with
  | .amm amm => do
    Outcome.require (info.key ∉ w.borrowed) .accountBorrowFailed
    check (amm.status ≠ AmmStatus.uninitialized.intoU64) .invalidStatus
    return amm
  | _ => Outcome.fail AmmError.expectedAccount.into

/-- `AmmInfo::load_mut_checked`: the borrow lasts until the handler ends. -/
def AmmInfo.loadMutChecked (w : World) (info : AccountInfo) (programId : Pubkey) :
    Result (AmmInfo × World) := do
  let amm ← AmmInfo.loadChecked w info programId
  let w ← w.tryBorrowMutData info.key
  return (amm, w)

/-- `TargetOrders::load_mut_checked`. -/
def TargetOrders.loadMutChecked (w : World) (info : AccountInfo) (programId owner : Pubkey) :
    Result (TargetOrders × World) := do
  check ((w.accounts info.key).owner = programId) .invalidTargetAccountOwner
  match (w.accounts info.key).data with
  | .targetOrders targetOrders => do
    let w ← w.tryBorrowMutData info.key
    check (targetOrders.owner = owner) .invalidTargetOwner
    return (targetOrders, w)
  | _ => Outcome.fail AmmError.expectedAccount.into

/-- `AmmConfig::load_mut_checked`. -/
def AmmConfig.loadMutChecked (w : World) (info : AccountInfo) (programId : Pubkey) :
    Result (AmmConfig × World) := do
  check ((w.accounts info.key).owner = programId) .invalidOwner
  match (w.accounts info.key).data with
  | .config config => do
    let w ← w.tryBorrowMutData info.key
    return (config, w)
  | _ => Outcome.fail AmmError.expectedAccount.into

/-- `unpack_token_account`: `data.borrow()` panics on a borrowed account. -/
def unpackTokenAccount (w : World) (info : AccountInfo) (tokenProgramId : Pubkey) :
    Result TokenAccount := do
  check ((w.accounts info.key).owner = tokenProgramId) .invalidSplTokenProgram
  if info.key ∈ w.borrowed then Outcome.panic
  else
    match (w.accounts info.key).data with
    | .token t => do
      check (t.transferring = none) .expectedAccount
      return t
    | _ => Outcome.fail AmmError.expectedAccount.into

/-- `unpack_mint`. -/
def unpackMint (w : World) (info : AccountInfo) (tokenProgramId : Pubkey) : Result Mint := do
  check ((w.accounts info.key).owner = tokenProgramId) .invalidSplTokenProgram
  if info.key ∈ w.borrowed then Outcome.panic
  else
    match (w.accounts info.key).data with
    | .mint m => do
      check (m.transferHook = none) .expectedMint
      return m
    | _ => Outcome.fail AmmError.expectedMint.into

end RaydiumAmm
