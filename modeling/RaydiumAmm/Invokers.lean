import RaydiumAmm.Whitelist

/-!
# Invokers

The calls to the token programs and to the exchange. Under the Token-2022 program a transfer runs
the mint's transfer hook first; under the SPL token program it is a plain transfer.
-/

namespace RaydiumAmm

/-! ## Transfer hooks -/

/-- `get_transfer_hook_program_id`. The owner of the mint account is not tested. -/
def getTransferHookProgramId (w : World) (mintAccount : AccountInfo) : Result (Option Pubkey) :=
  if mintAccount.key ∈ w.borrowed then Outcome.panic
  else
    match (w.accounts mintAccount.key).data with
    | .mint m => .ok m.transferHook.join
    | _ => .ok none

/-- `try_set_transferring` and `try_unset_transferring`, whose errors the callers ignore: an
    account without the extension is left alone. The code writes the flag without a look at the
    owner of the account, and so does this definition; on chain an account with the extension is
    that of Token-2022, and the runtime refuses the call that follows a write to it. -/
def writeTransferring (w : World) (account : AccountInfo) (transferring : Bool) : Result World :=
  if account.key ∈ w.borrowed then Outcome.panic
  else
    match (w.accounts account.key).data with
    | .token t =>
      match t.transferring with
      | some _ =>
        .ok { w with
          accounts := w.accounts.setData account.key
            (.token { t with transferring := some transferring }) }
      | none => .ok w
    | _ => .ok w

/-- The hook programs that support auto-initialization: none. -/
def supportedHooks : List Pubkey := []

/-- `auto_initialize_meta_list`: with no supported hook it always fails at its first check. -/
def autoInitializeMetaList (hookProgramId : Pubkey) : Result Unit :=
  check (hookProgramId ∈ supportedHooks) .hookProgramNotSupportedForAutoInit

/-- `is_meta_list_valid`. -/
def isMetaListValid (env : Env) (w : World) (metaListAccount : AccountInfo) : Result Bool := do
  Outcome.require (metaListAccount.key ∉ w.borrowed) .accountBorrowFailed
  let data := (w.accounts metaListAccount.key).data
  return !data.isEmpty && env.tlvUnpack data && (env.metaListUnpack data).isSome

/-- The lookup that `resolve` is given: the key of an account of the call, and for its data one
    byte where the account is writable. -/
def resolveLookup (accountInfos : List AccountInfo) : MetaLookup := fun index =>
  (accountInfos[index]?).map fun info =>
    (info.key, if info.isWritable then some [1] else none)

/-- The loop that appends the hook's extra accounts, `i` being the index in the meta list. -/
def resolveExtraMetas (env : Env) (hookProgramId : Pubkey) (amount : U64)
    (remainingAccounts : List AccountInfo) :
    Nat → List ExtraAccountMeta → List AccountMeta → List AccountInfo →
      Result (List AccountMeta × List AccountInfo)
  | _, [], metas, infos => .ok (metas, infos)
  | i, extra :: rest, metas, infos =>
    match remainingAccounts[i + 2]? with
    | none => Outcome.fail .notEnoughAccountKeys
    | some accInfo =>
      match env.resolveMeta extra amount hookProgramId (resolveLookup infos) with
      | .error _ => Outcome.fail .invalidAccountData
      | .ok resolvedMeta =>
        resolveExtraMetas env hookProgramId amount remainingAccounts (i + 1) rest
          (metas ++ [resolvedMeta]) (infos ++ [accInfo])

/-- The seed of a meta list's address: `b"extra-account-metas"`. -/
def extraAccountMetasSeed : List U8 :=
  [0x65, 0x78, 0x74, 0x72, 0x61, 0x2d, 0x61, 0x63, 0x63, 0x6f, 0x75, 0x6e, 0x74, 0x2d, 0x6d,
    0x65, 0x74, 0x61, 0x73]

/-- Clear the flag and return `r`: how the error paths after the flag was set end. -/
def unsetAndReturn (w : World) (source : AccountInfo) (r : Result Unit) : World × Result Unit :=
  match writeTransferring w source false with
  | .ok w => (w, r)
  | .error e => (w, .error e)

/-- Call the hook, clear the flag, and return what the hook returned. -/
def callHook (env : Env) (w : World) (source : AccountInfo) (hookProgramId : Pubkey)
    (metas : List AccountMeta) (infos : List AccountInfo) (amount : U64) :
    World × Result Unit :=
  match w.invoke env ⟨.executeHook hookProgramId metas amount, infos, []⟩ with
  | .ok w => unsetAndReturn w source (.ok ())
  | .error e => unsetAndReturn w source (.error e)

/-- The part of `execute_transfer_hook` after the whitelist has admitted the hook. -/
def executeWhitelistedHook (env : Env) (source mint destination authority : AccountInfo)
    (amount : U64) (remainingAccounts : List AccountInfo) (extraAccountMetaListInfo : AccountInfo)
    (hookProgramId : Pubkey) (w : World) : World × Result Unit :=
  match writeTransferring w source true with
  | .error e => (w, .error e)
  | .ok w =>
    let pda := (env.findProgramAddress [extraAccountMetasSeed, mint.key.toBytes] hookProgramId).1
    if extraAccountMetaListInfo.key ≠ pda then
      unsetAndReturn w source (Outcome.fail .invalidAccountData)
    else
      match isMetaListValid env w extraAccountMetaListInfo with
      -- the only return after the flag is set that does not clear it
      | .error e => (w, .error e)
      | .ok isValid =>
        match if isValid then .ok () else autoInitializeMetaList hookProgramId with
        | .error e => unsetAndReturn w source (.error e)
        | .ok () =>
          let accountMetas : List AccountMeta := [
            ⟨source.key, false, true⟩, ⟨mint.key, false, false⟩, ⟨destination.key, false, true⟩,
            ⟨authority.key, false, false⟩, ⟨pda, false, false⟩]
          let accountInfos := [source, mint, destination, authority, extraAccountMetaListInfo]
          if extraAccountMetaListInfo.key ∈ w.borrowed then
            unsetAndReturn w source (Outcome.fail .invalidAccountData)
          -- the borrow of the meta list lasts to the end, where clearing the flag of the same
          -- account panics
          else if source.key = extraAccountMetaListInfo.key then (w, Outcome.panic)
          else
            let data := (w.accounts extraAccountMetaListInfo.key).data
            if !env.tlvUnpack data then
              unsetAndReturn w source (Outcome.fail .invalidAccountData)
            else
              match env.metaListUnpack data with
              | none => callHook env w source hookProgramId accountMetas accountInfos amount
              | some metaList =>
                match resolveExtraMetas env hookProgramId amount remainingAccounts 0 metaList
                    accountMetas accountInfos with
                | .error e => unsetAndReturn w source (.error e)
                | .ok (metas, infos) => callHook env w source hookProgramId metas infos amount

/-- `execute_transfer_hook`. It returns the accounts it leaves next to its result, as the flag of
    the source account is a direct write that an error does not undo. -/
def executeTransferHook (env : Env) (programId : Pubkey)
    (source mint destination authority : AccountInfo) (amount : U64)
    (remainingAccounts : List AccountInfo) (w : World) : World × Result Unit :=
  match getTransferHookProgramId w mint with
  | .error e => (w, .error e)
  | .ok none => (w, .ok ())
  | .ok (some hookProgramId) =>
    match remainingAccounts with
    | whitelistAccount :: extraAccountMetaListInfo :: _ =>
      match isHookWhitelisted env w programId whitelistAccount hookProgramId with
      | .ok true =>
        executeWhitelistedHook env source mint destination authority amount remainingAccounts
          extraAccountMetaListInfo hookProgramId w
      | .ok false => (w, Outcome.fail AmmError.transferHookNotWhitelisted.into)
      | .error e => (w, .error e)
    | _ => (w, Outcome.fail .notEnoughAccountKeys)

/-! ## Token calls -/

/-- `StateWithExtensions::<Mint>::unpack` for the decimals. -/
def mintDecimals (w : World) (mint : AccountInfo) : Result U8 := do
  Outcome.require (mint.key ∉ w.borrowed) .accountBorrowFailed
  match (w.accounts mint.key).data with
  | .mint m => return m.decimals
  | _ => Outcome.fail .invalidAccountData

/-- `token_transfer` and `token_transfer_with_authority`, which differ in the signer seeds alone.
    The instruction builder of the SPL token program refuses any other program id. -/
def tokenTransferSigned (env : Env) (programId : Pubkey)
    (tokenProgram source destination authority : AccountInfo) (seeds : List (List (List U8)))
    (amount : U64) (mint : AccountInfo) (remainingAccounts : List AccountInfo) (w : World) :
    Result World :=
  if tokenProgram.key = splToken2022Id then do
    let hooked := executeTransferHook env programId source mint destination authority amount
      remainingAccounts w
    hooked.2
    let w := hooked.1
    let decimals ← mintDecimals w mint
    w.invoke env {
      ix := .transferChecked tokenProgram.key source.key mint.key destination.key authority.key
        amount decimals
      infos := [source, mint, destination, authority, tokenProgram]
      seeds := seeds
    }
  else do
    Outcome.require (tokenProgram.key = splTokenId) .incorrectProgramId
    w.invoke env {
      ix := .transfer tokenProgram.key source.key destination.key authority.key amount
      infos := [source, destination, authority, tokenProgram]
      seeds := seeds
    }

/-- `token_transfer`. -/
def tokenTransfer (env : Env) (programId : Pubkey)
    (tokenProgram source destination owner : AccountInfo) (depositAmount : U64)
    (mint : AccountInfo) (remainingAccounts : List AccountInfo) (w : World) : Result World :=
  tokenTransferSigned env programId tokenProgram source destination owner [] depositAmount mint
    remainingAccounts w

/-- `token_transfer_with_authority`. -/
def tokenTransferWithAuthority (env : Env) (programId : Pubkey)
    (tokenProgram source destination authority : AccountInfo) (ammSeed : List U8) (nonce : U8)
    (amount : U64) (mint : AccountInfo) (remainingAccounts : List AccountInfo) (w : World) :
    Result World :=
  tokenTransferSigned env programId tokenProgram source destination authority [[ammSeed, [nonce]]]
    amount mint remainingAccounts w

/-- `token_burn`. -/
def tokenBurn (env : Env) (tokenProgram burnAccount mint owner : AccountInfo) (burnAmount : U64)
    (w : World) : Result World := do
  Outcome.require (tokenProgram.key = splTokenId) .incorrectProgramId
  w.invoke env {
    ix := .burn tokenProgram.key burnAccount.key mint.key owner.key burnAmount
    infos := [burnAccount, mint, owner, tokenProgram]
    seeds := []
  }

/-- `token_mint_to`. -/
def tokenMintTo (env : Env) (tokenProgram mint destination authority : AccountInfo)
    (ammSeed : List U8) (nonce : U8) (amount : U64) (w : World) : Result World := do
  Outcome.require (tokenProgram.key = splTokenId) .incorrectProgramId
  w.invoke env {
    ix := .mintTo tokenProgram.key mint.key destination.key authority.key amount
    infos := [mint, destination, authority, tokenProgram]
    seeds := [[ammSeed, [nonce]]]
  }

/-! ## Exchange calls -/

/-- `invoke_dex_cancel_orders_by_client_order_ids`. -/
def invokeDexCancelOrdersByClientOrderIds (env : Env)
    (dexProgram market bids asks openOrders openOrdersOwner eventQ : AccountInfo)
    (ammSeed : List U8) (nonce : U8) (clientOrderIds : List U64) (w : World) : Result World :=
  w.invoke env {
    ix := .cancelOrders {
      dexProgram := dexProgram.key
      market := market.key
      bids := bids.key
      asks := asks.key
      openOrders := openOrders.key
      owner := openOrdersOwner.key
      eventQ := eventQ.key
      clientOrderIds := clientOrderIds
    }
    infos := [dexProgram, market, bids, asks, openOrders, openOrdersOwner, eventQ]
    seeds := [[ammSeed, [nonce]]]
  }

/-- `invoke_dex_settle_funds`. -/
def invokeDexSettleFunds (env : Env)
    (dexProgram market openOrders owner coinVault pcVault coinWallet pcWallet vaultSigner
      splTokenProgram : AccountInfo) (referrerPcWallet : Option AccountInfo)
    (ammSeed : List U8) (nonce : U8) (w : World) : Result World :=
  w.invoke env {
    ix := .settleFunds {
      dexProgram := dexProgram.key
      market := market.key
      tokenProgram := splTokenProgram.key
      openOrders := openOrders.key
      owner := owner.key
      coinVault := coinVault.key
      coinWallet := coinWallet.key
      pcVault := pcVault.key
      pcWallet := pcWallet.key
      referrerPcWallet := referrerPcWallet.map AccountInfo.key
      vaultSigner := vaultSigner.key
    }
    infos := [dexProgram, market, openOrders, owner, coinVault, pcVault, coinWallet, pcWallet,
      vaultSigner, splTokenProgram] ++ referrerPcWallet.toList
    seeds := [[ammSeed, [nonce]]]
  }

end RaydiumAmm
