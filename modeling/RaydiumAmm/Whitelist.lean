import RaydiumAmm.Runtime

/-!
# The hook whitelist

The whitelist of transfer-hook programs: the record, its account bytes, and the handlers that
create it, change its entries and hand over its authority.
-/

namespace RaydiumAmm

/-! ## Binding accounts -/

/-- A reader of the account list: `next_account_info` on the iterator of a handler. -/
abbrev Binder (α : Type) := StateT (List AccountInfo) (Outcome ProgramError) α

/-- `next_account_info`. -/
def nextAccountInfo : Binder AccountInfo := fun accounts =>
  match accounts with
  | [] => Outcome.fail .notEnoughAccountKeys
  | info :: rest => .ok (info, rest)

/-- Run a reader on the accounts of an instruction. -/
def Binder.bindAll {α : Type} (b : Binder α) (accounts : List AccountInfo) : Result α := do
  let r ← b accounts
  return r.1

/-! ## Bytes -/

/-- The 32 bytes of a key, the first byte being the most significant one. -/
def Pubkey.toBytes (k : Pubkey) : List U8 :=
  (List.range 32).map fun i => k.bits.extractLsb' (8 * (31 - i)) 8

/-- The key that a list of 32 bytes spells. -/
def Pubkey.ofBytes (b : List U8) : Pubkey :=
  ⟨b.foldl (fun acc x => acc <<< 8 ||| x.setWidth 256) 0⟩

/-- `to_le_bytes` of a `u32`. -/
def U32.toLeBytes (n : U32) : List U8 :=
  (List.range 4).map fun i => n.extractLsb' (8 * i) 8

/-- `u32::from_le_bytes`. -/
def U32.ofLeBytes (b : List U8) : U32 :=
  b.foldr (fun x acc => acc <<< 8 ||| x.setWidth 32) 0

/-! ## The record -/

def MAX_HOOKS : Nat := 32

def HOOK_WHITELIST_LEN : Nat := 32 + 4 + 32 * MAX_HOOKS

/-- `HookWhitelist`. A record is only built by `default`, by `unpack` and by the two updates, so
    the count never exceeds the slots. -/
structure HookWhitelist where
  authority : Pubkey
  hookCount : U32
  hooks : Vector Pubkey MAX_HOOKS
  count_le : hookCount.toNat ≤ MAX_HOOKS

namespace HookWhitelist

/-- `HookWhitelist::default()` with an authority. -/
def empty (authority : Pubkey) : HookWhitelist where
  authority := authority
  hookCount := 0
  hooks := Vector.replicate MAX_HOOKS Pubkey.default
  count_le := by decide

/-- `contains_hook`. -/
def containsHook (s : HookWhitelist) (hookProgramId : Pubkey) : Bool :=
  (List.range s.hookCount.toNat).any fun i => s.hooks.toList.getD i Pubkey.default == hookProgramId

/-- `add_hook`. -/
def addHook (s : HookWhitelist) (hookProgramId : Pubkey) : Result HookWhitelist := do
  check (s.containsHook hookProgramId = false) .invalidWhitelistAccount
  if h : s.hookCount.toNat < MAX_HOOKS then
    return {
      s with
      hooks := s.hooks.set s.hookCount.toNat hookProgramId
      hookCount := s.hookCount + 1
      count_le := by
        have : MAX_HOOKS < 2 ^ 32 - 1 := by decide
        rw [BitVec.toNat_add]
        exact le_trans (Nat.mod_le _ _) h
    }
  else Outcome.fail AmmError.whitelistFull.into

/-- The first index below the count that holds the hook. -/
def findHook (s : HookWhitelist) (hookProgramId : Pubkey) : Option Nat :=
  (List.range s.hookCount.toNat).find? fun i =>
    s.hooks.toList.getD i Pubkey.default == hookProgramId

/-- One turn of the shift loop: `hooks[i] = hooks[i + 1]`. -/
def shiftHook (hooks : Vector Pubkey MAX_HOOKS) (i : Nat) : Vector Pubkey MAX_HOOKS :=
  hooks.setIfInBounds i (hooks.toList.getD (i + 1) Pubkey.default)

/-- `remove_hook`. -/
def removeHook (s : HookWhitelist) (hookProgramId : Pubkey) : Result HookWhitelist := do
  let index ← Outcome.okOr (s.findHook hookProgramId) AmmError.transferHookNotWhitelisted.into
  let last := s.hookCount.toNat - 1
  let hooks := (List.range' index (last - index)).foldl shiftHook s.hooks
  return {
    s with
    hooks := hooks.setIfInBounds last Pubkey.default
    hookCount := BitVec.ofNat 32 last
    count_le := by
      have h := s.count_le
      rw [BitVec.toNat_ofNat]
      exact le_trans (Nat.mod_le _ _) (le_trans (Nat.sub_le _ _) h)
  }

/-- `get_active_hooks`. -/
def getActiveHooks (s : HookWhitelist) : List Pubkey :=
  s.hooks.toList.take s.hookCount.toNat

/-- `is_full`. -/
def isFull (s : HookWhitelist) : Bool :=
  decide (MAX_HOOKS ≤ s.hookCount.toNat)

/-- `available_slots`. The count never exceeds the slots, so the difference is not cut off. -/
def availableSlots (s : HookWhitelist) : Nat :=
  MAX_HOOKS - s.hookCount.toNat

/-- `pack_into_slice`. -/
def pack (s : HookWhitelist) : List U8 :=
  s.authority.toBytes ++ s.hookCount.toLeBytes ++ s.hooks.toList.flatMap Pubkey.toBytes

/-- `Pack::unpack`: the length, the count and the authority are tested. -/
def unpack (src : List U8) : Result HookWhitelist := do
  Outcome.require (src.length = HOOK_WHITELIST_LEN) .invalidAccountData
  let authority := Pubkey.ofBytes (src.take 32)
  let hookCount := U32.ofLeBytes ((src.drop 32).take 4)
  let hooks := Vector.ofFn fun i : Fin MAX_HOOKS =>
    Pubkey.ofBytes ((src.drop (36 + i.val * 32)).take 32)
  if h : hookCount.toNat ≤ MAX_HOOKS then do
    Outcome.require (authority ≠ Pubkey.default) .uninitializedAccount
    return ⟨authority, hookCount, hooks, h⟩
  else Outcome.fail .invalidAccountData

end HookWhitelist

/-- The seed of the whitelist's address: `b"hook_whitelist"`. -/
def hookWhitelistSeed : List U8 :=
  [0x68, 0x6f, 0x6f, 0x6b, 0x5f, 0x77, 0x68, 0x69, 0x74, 0x65, 0x6c, 0x69, 0x73, 0x74]

/-- `find_whitelist_pda`. -/
def findWhitelistPda (env : Env) (programId : Pubkey) : Pubkey × U8 :=
  env.findProgramAddress [hookWhitelistSeed] programId

/-- `data_is_empty`. -/
def AccountData.isEmpty : AccountData → Bool
  | .bytes b => b.isEmpty
  | _ => false

/-- `HookWhitelist::unpack` of an account. Every decoded record has a length other than that of a
    whitelist. -/
def loadWhitelist (w : World) (info : AccountInfo) : Result HookWhitelist := do
  Outcome.require (info.key ∉ w.borrowed) .accountBorrowFailed
  match (w.accounts info.key).data with
  | .bytes b => HookWhitelist.unpack b
  | _ => Outcome.fail .invalidAccountData

/-- `is_hook_whitelisted`. -/
def isHookWhitelisted (env : Env) (w : World) (programId : Pubkey)
    (whitelistAccount : AccountInfo) (hookProgramId : Pubkey) : Result Bool := do
  Outcome.require (whitelistAccount.key = (findWhitelistPda env programId).1) .invalidSeeds
  if (w.accounts whitelistAccount.key).data.isEmpty then return false
  else do
    let whitelist ← loadWhitelist w whitelistAccount
    return whitelist.containsHook hookProgramId

/-- `get_whitelisted_hooks`. -/
def getWhitelistedHooks (env : Env) (w : World) (programId : Pubkey)
    (whitelistAccount : AccountInfo) : Result (List Pubkey) := do
  Outcome.require (whitelistAccount.key = (findWhitelistPda env programId).1) .invalidSeeds
  if (w.accounts whitelistAccount.key).data.isEmpty then return []
  else do
    let whitelist ← loadWhitelist w whitelistAccount
    return whitelist.getActiveHooks

/-! ## Handlers -/

inductive HookWhitelistAction where
  | add
  | remove
deriving DecidableEq

/-- `UpdateHookWhitelistInstruction`. -/
structure UpdateHookWhitelistInstruction where
  hookProgramId : Pubkey
  action : HookWhitelistAction
deriving DecidableEq

/-- `process_initialize_hook_whitelist`. -/
def processInitializeHookWhitelist (env : Env) (programId : Pubkey)
    (accounts : List AccountInfo) (authority : Pubkey) (w : World) : Result World := do
  let (whitelistAccountInfo, payerInfo, systemProgramInfo) ←
    Binder.bindAll (do
      let whitelistAccountInfo ← nextAccountInfo
      let payerInfo ← nextAccountInfo
      let systemProgramInfo ← nextAccountInfo
      return (whitelistAccountInfo, payerInfo, systemProgramInfo)) accounts
  Outcome.require payerInfo.isSigner .missingRequiredSignature
  Outcome.require (whitelistAccountInfo.key = (findWhitelistPda env programId).1)
    .invalidAccountData
  Outcome.require (w.accounts whitelistAccountInfo.key).data.isEmpty .accountAlreadyInitialized
  let lamports := env.rentMinimumBalance HOOK_WHITELIST_LEN
  let w ← w.invoke env {
    ix := .createAccount payerInfo.key whitelistAccountInfo.key lamports HOOK_WHITELIST_LEN
      programId
    infos := [payerInfo, whitelistAccountInfo, systemProgramInfo]
    seeds := [[hookWhitelistSeed]]
  }
  -- `copy_from_slice` panics unless the new account has the length that was asked for
  match (w.accounts whitelistAccountInfo.key).data with
  | .bytes b =>
    if b.length = HOOK_WHITELIST_LEN then
      w.writeData programId whitelistAccountInfo.key (.bytes (HookWhitelist.empty authority).pack)
    else Outcome.panic
  | _ => Outcome.panic

/-- The checks that the two updates of a whitelist share: its signer, its address, that it exists
    and that the signer is its authority. -/
def loadOwnWhitelist (env : Env) (programId : Pubkey)
    (whitelistAccountInfo authorityInfo : AccountInfo) (w : World) : Result HookWhitelist := do
  Outcome.require authorityInfo.isSigner .missingRequiredSignature
  Outcome.require (whitelistAccountInfo.key = (findWhitelistPda env programId).1)
    .invalidAccountData
  Outcome.require ((w.accounts whitelistAccountInfo.key).data.isEmpty = false)
    .uninitializedAccount
  let whitelist ← loadWhitelist w whitelistAccountInfo
  Outcome.require (whitelist.authority = authorityInfo.key) .invalidAccountOwner
  return whitelist

/-- `process_update_hook_whitelist`. -/
def processUpdateHookWhitelist (env : Env) (programId : Pubkey) (accounts : List AccountInfo)
    (instruction : UpdateHookWhitelistInstruction) (w : World) : Result World := do
  let (whitelistAccountInfo, authorityInfo) ←
    Binder.bindAll (do
      let whitelistAccountInfo ← nextAccountInfo
      let authorityInfo ← nextAccountInfo
      return (whitelistAccountInfo, authorityInfo)) accounts
  let whitelist ← loadOwnWhitelist env programId whitelistAccountInfo authorityInfo w
  let updated ←
    match instruction.action with
    | .add => whitelist.addHook instruction.hookProgramId
    | .remove => whitelist.removeHook instruction.hookProgramId
  w.writeData programId whitelistAccountInfo.key (.bytes updated.pack)

/-- `process_update_whitelist_authority`. -/
def processUpdateWhitelistAuthority (env : Env) (programId : Pubkey)
    (accounts : List AccountInfo) (newAuthority : Pubkey) (w : World) : Result World := do
  let (whitelistAccountInfo, currentAuthorityInfo) ←
    Binder.bindAll (do
      let whitelistAccountInfo ← nextAccountInfo
      let currentAuthorityInfo ← nextAccountInfo
      return (whitelistAccountInfo, currentAuthorityInfo)) accounts
  let whitelist ← loadOwnWhitelist env programId whitelistAccountInfo currentAuthorityInfo w
  w.writeData programId whitelistAccountInfo.key
    (.bytes { whitelist with authority := newAuthority }.pack)

end RaydiumAmm
