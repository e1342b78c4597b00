import RaydiumAmm.Client
import RaydiumAmm.HookCalls
import RaydiumAmm.TokenEncoding
import RaydiumAmm.WhitelistQueries

/-!
# The command line

The commands of the CLI on hooks: the instructions that they build, the transaction that the payer
signs, and what the program makes of a session of them.

1. The builders of `main.rs`.
2. Transactions.
3. One command, where there is a whitelist and where there is none.
4. `cli_sessions_follow_the_roster`.
-/

namespace RaydiumAmm

namespace Cli

/-! ## 1. Builders -/

/-- `create_initialize_whitelist_instruction`. -/
def createInitializeWhitelistInstruction (programId authority whitelistPda : Pubkey) :
    Result Client.Request :=
  Client.request programId
    [.new whitelistPda false, .newReadonly authority true, .newReadonly systemProgramId false]
    (.initializeHookWhitelist authority)

/-- `create_update_whitelist_instruction`. -/
def createUpdateWhitelistInstruction (programId authority whitelistPda hookProgramId : Pubkey)
    (add : Bool) : Result Client.Request :=
  let action := if add then HookWhitelistAction.add else .remove
  Client.request programId [.new whitelistPda false, .newReadonly authority true]
    (.updateHookWhitelist ⟨hookProgramId, action⟩)

/-- `create_initialize_extra_account_meta_list_instruction`. -/
def createInitializeExtraAccountMetaListInstruction (programId metaListPda mint authority : Pubkey)
    (extraAccountMetas : List ExtraAccountMeta) : Result Client.Request :=
  Client.request programId
    [.new metaListPda false, .newReadonly mint false, .newReadonly authority true,
      .newReadonly systemProgramId false]
    (.initializeExtraAccountMetaList extraAccountMetas)

/-! ## 2. Transactions -/

/-- An instruction of a transaction. -/
inductive Instruction where
  /-- `system_instruction::create_account`. -/
  | createAccount (source newAccount : Pubkey) (lamports : U64) (space : Nat) (owner : Pubkey)
  | amm (request : Client.Request)

/-- The keys that have to sign. The system program asks for the signature of the new account. -/
def Instruction.signers : Instruction → List Pubkey
  | .createAccount source newAccount _ _ _ => [source, newAccount]
  | .amm r => (r.accounts.filter AccountMeta.isSigner).map AccountMeta.pubkey

/-- `Transaction::new_signed_with_payer`: it panics where the key of a signer is missing. -/
def newSignedWithPayer (instructions : List Instruction) (payer : Pubkey)
    (signingKeypairs : List Pubkey) : Result (List Instruction) :=
  if ∀ k ∈ payer :: instructions.flatMap Instruction.signers, k ∈ signingKeypairs then
    .ok instructions
  else Outcome.panic

/-- `HWy1jotHpo6UqeQxx49dpYYdQB8wj9Qk9MdxwjLvDHB8`, where `init_hook_meta_list` sends its
    instruction. -/
def devnetProgramId : Pubkey :=
  ⟨0xf5682b06fccbdba6b40d234a14b1f7de9d8b5e11e45a72bcaa92623f3e677a1b⟩

/-- The commands on hooks. The meta of `init_hook_meta_list` is what `new_with_seeds` makes of the
    seed of the whitelist. -/
inductive Command where
  | initWhitelist
  | addHookToWhitelist (hookProgramId : Pubkey)
  | removeHookFromWhitelist (hookProgramId : Pubkey)
  | initHookMetaList (hookProgramId mint : Pubkey) (extraAccountMeta : ExtraAccountMeta)

/-- The transaction of a command: `init_whitelist`, `add_hook_to_whitelist`,
    `remove_hook_from_whitelist` and `init_hook_meta_list`. -/
def Command.transaction (env : Env) (ammProgramId payer : Pubkey) :
    Command → Result (List Instruction)
  | .initWhitelist => do
    let whitelistPda := (findWhitelistPda env ammProgramId).1
    let whitelistSize := 32 + 4 + (32 * 32)
    let init ← createInitializeWhitelistInstruction ammProgramId payer whitelistPda
    newSignedWithPayer
      [.createAccount payer whitelistPda (env.rentMinimumBalance whitelistSize) whitelistSize
        ammProgramId, .amm init] payer [payer]
  | .addHookToWhitelist hookProgramId => do
    let whitelistPda := (findWhitelistPda env ammProgramId).1
    let r ← createUpdateWhitelistInstruction ammProgramId payer whitelistPda hookProgramId true
    newSignedWithPayer [.amm r] payer [payer]
  | .removeHookFromWhitelist hookProgramId => do
    let whitelistPda := (findWhitelistPda env ammProgramId).1
    let r ← createUpdateWhitelistInstruction ammProgramId payer whitelistPda hookProgramId false
    newSignedWithPayer [.amm r] payer [payer]
  | .initHookMetaList hookProgramId mint extraAccountMeta => do
    let metaListPda := metaListAddress env mint hookProgramId
    let r ← createInitializeExtraAccountMetaListInstruction devnetProgramId metaListPda mint payer
      [extraAccountMeta]
    newSignedWithPayer [.amm r] payer [payer]

/-- `process_instruction` of the program, from the bytes on. -/
def processInput (env : Env) (programId : Pubkey) (accounts : List AccountInfo) (input : List U8)
    (w : World) : Result World := do
  let instruction ← AmmInstruction.unpack input
  processInstruction env programId accounts instruction w

/-- The runtime executes an instruction. -/
def Instruction.execute (env : Env) (w : World) : Instruction → Result World
  | .createAccount source newAccount lamports space owner =>
    w.invoke env {
      ix := .createAccount source newAccount lamports space owner
      infos := [⟨source, true, true⟩, ⟨newAccount, true, true⟩]
      seeds := []
    }
  | .amm r =>
    processInput env r.programId (r.accounts.map AccountMeta.info) r.data { w with borrowed := [] }

/-- A command and the wallet that pays for it. -/
structure Call where
  payer : Pubkey
  command : Command

/-- A command runs: the client builds and signs the transaction, and the runtime executes it. -/
def Call.run (env : Env) (ammProgramId : Pubkey) (c : Call) (w : World) : Result World := do
  let instructions ← c.command.transaction env ammProgramId c.payer
  instructions.foldlM (Instruction.execute env) w

/-- A command of a session: one that fails changes nothing. -/
def Call.effect (env : Env) (ammProgramId : Pubkey) (w : World) (c : Call) : World :=
  match c.run env ammProgramId w with
  | .ok w' => w'
  | .error _ => w

/-! ## 3. One command -/

section Commands

variable {env : Env} {ammProgramId payer authority : Pubkey} {w w' : World}
  {r : HookWhitelist.Hooks} {c : Call}

/-- The update that a command asks for. -/
def Command.update : Command → Option UpdateHookWhitelistInstruction
  | .initWhitelist => none
  | .addHookToWhitelist hookProgramId => some ⟨hookProgramId, .add⟩
  | .removeHookFromWhitelist hookProgramId => some ⟨hookProgramId, .remove⟩
  | .initHookMetaList _ _ _ => none

/-- The accounts of an update. -/
def updateAccounts (env : Env) (ammProgramId payer : Pubkey) : List AccountInfo :=
  [⟨whitelistAddress env ammProgramId, false, true⟩, ⟨payer, true, false⟩]

theorem signedBy_updateAccounts_iff :
    SignedBy env ammProgramId authority (updateAccounts env ammProgramId payer) ↔
      payer = authority := by
  constructor
  · rintro ⟨_, _, _, hcons, -, -, hauthority⟩
    cases hcons
    exact hauthority
  · rintro rfl
    exact ⟨_, _, [], rfl, rfl, rfl, rfl⟩

/-- What `newSignedWithPayer` asks of a request that only the payer signs. -/
theorem newSignedWithPayer_single {request : Client.Request}
    (h : (request.accounts.filter AccountMeta.isSigner).map AccountMeta.pubkey = [payer]) :
    newSignedWithPayer [.amm request] payer [payer] = .ok [.amm request] := by
  refine if_pos ?_
  simp [Instruction.signers, h]

theorem newSignedWithPayer_missing {instructions : List Instruction} {signingKeypairs : List Pubkey}
    {k : Pubkey} (hasked : k ∈ instructions.flatMap Instruction.signers)
    (hmissing : k ∉ signingKeypairs) :
    newSignedWithPayer instructions payer signingKeypairs = Outcome.panic :=
  if_neg fun hall => hmissing (hall k (List.mem_cons_of_mem _ hasked))

theorem createUpdateWhitelistInstruction_eq (whitelistPda hookProgramId : Pubkey) (add : Bool)
    {b : List U8} (hpack : (AmmInstruction.updateHookWhitelist
      ⟨hookProgramId, if add then .add else .remove⟩).pack = .ok b) :
    createUpdateWhitelistInstruction ammProgramId payer whitelistPda hookProgramId add =
      .ok ⟨ammProgramId, [.new whitelistPda false, .newReadonly payer true], b⟩ := by
  rw [createUpdateWhitelistInstruction, Client.request, hpack]
  rfl

/-- The bytes of an update reach the handler as the update. -/
theorem run_update {u : UpdateHookWhitelistInstruction} (h : c.command.update = some u) :
    c.run env ammProgramId w = processUpdateHookWhitelist env ammProgramId
      (updateAccounts env ammProgramId c.payer) u { w with borrowed := [] } := by
  obtain ⟨b, hpack, hunpack⟩ :=
    AmmInstruction.unpack_of_pack (i := .updateHookWhitelist u) trivial
  have htransaction : c.command.transaction env ammProgramId c.payer =
      .ok [.amm ⟨ammProgramId, [.new (whitelistAddress env ammProgramId) false,
        .newReadonly c.payer true], b⟩] := by
    cases hcommand : c.command with
    | initWhitelist =>
      rw [hcommand] at h
      cases h
    | initHookMetaList hookProgramId mint extraAccountMeta =>
      rw [hcommand] at h
      cases h
    | addHookToWhitelist hookProgramId =>
      rw [hcommand] at h
      cases h
      rw [Command.transaction, createUpdateWhitelistInstruction_eq _ _ true hpack, Outcome.ok_bind]
      exact newSignedWithPayer_single rfl
    | removeHookFromWhitelist hookProgramId =>
      rw [hcommand] at h
      cases h
      rw [Command.transaction, createUpdateWhitelistInstruction_eq _ _ false hpack, Outcome.ok_bind]
      exact newSignedWithPayer_single rfl
  rw [Call.run, htransaction, Outcome.ok_bind, List.foldlM_cons]
  simp only [Instruction.execute, processInput, hunpack, Outcome.ok_bind]
  exact bind_pure _

theorem createInitializeWhitelistInstruction_eq (whitelistPda : Pubkey) {b : List U8}
    (hpack : (AmmInstruction.initializeHookWhitelist payer).pack = .ok b) :
    createInitializeWhitelistInstruction ammProgramId payer whitelistPda =
      .ok ⟨ammProgramId, [.new whitelistPda false, .newReadonly payer true,
        .newReadonly systemProgramId false], b⟩ := by
  rw [createInitializeWhitelistInstruction, Client.request, hpack]
  rfl

/-- A list of one item is what the program cannot read. -/
theorem unpack_oneMeta (m : ExtraAccountMeta) :
    AmmInstruction.unpack ([18] ++ U32.toLeBytes 1 ++ [m].flatMap ExtraAccountMeta.bytesOf) =
      Outcome.panic := by
  have hlength : (1 : U32).toNat = 0 + 1 := rfl
  rw [unpack_extraMetas, List.flatMap_cons, hlength, unpackExtraMetas_bytesOf]
  rfl

theorem createInitializeExtraAccountMetaListInstruction_one (programId metaListPda mint : Pubkey)
    (m : ExtraAccountMeta) :
    createInitializeExtraAccountMetaListInstruction programId metaListPda mint payer [m] =
      .ok ⟨programId, [.new metaListPda false, .newReadonly mint false, .newReadonly payer true,
        .newReadonly systemProgramId false],
        [18] ++ U32.toLeBytes 1 ++ [m].flatMap ExtraAccountMeta.bytesOf⟩ := rfl

/-- The other two commands abort. The account of the whitelist cannot sign, so its creation does not
    leave the client; the meta list is sent, and the program aborts while it reads it. -/
theorem run_of_no_update (h : c.command.update = none)
    (hpda : c.payer ≠ whitelistAddress env ammProgramId) :
    c.run env ammProgramId w = Outcome.panic := by
  cases hcommand : c.command with
  | addHookToWhitelist hookProgramId =>
    rw [hcommand] at h
    cases h
  | removeHookFromWhitelist hookProgramId =>
    rw [hcommand] at h
    cases h
  | initWhitelist =>
    obtain ⟨b, hpack, -⟩ :=
      AmmInstruction.unpack_of_pack (i := .initializeHookWhitelist c.payer) trivial
    rw [Call.run, hcommand, Command.transaction, createInitializeWhitelistInstruction_eq _ hpack,
      Outcome.ok_bind, newSignedWithPayer_missing (k := whitelistAddress env ammProgramId)
        (by simp [Instruction.signers, whitelistAddress]) (by simpa using Ne.symm hpda)]
    rfl
  | initHookMetaList hookProgramId mint extraAccountMeta =>
    rw [Call.run, hcommand, Command.transaction,
      createInitializeExtraAccountMetaListInstruction_one, Outcome.ok_bind,
      newSignedWithPayer_single rfl, Outcome.ok_bind, List.foldlM_cons]
    simp only [Instruction.execute, processInput, unpack_oneMeta]
    rfl

/-- What a command makes of a roster that `authority` keeps. -/
def Call.apply (authority : Pubkey) (r : HookWhitelist.Hooks) (c : Call) : HookWhitelist.Hooks :=
  if c.payer = authority then
    match c.command.update with
    | some u => (r.update u.toUpdate).toOption.getD r
    | none => r
  else r

/-- A command changes the bytes of a roster as it changes the roster. -/
theorem Call.effect_stores (hauthority : authority ≠ Pubkey.default)
    (hpda : c.payer ≠ whitelistAddress env ammProgramId)
    (h : Stores env ammProgramId (HookWhitelist.ofRoster authority r) w) :
    Stores env ammProgramId (HookWhitelist.ofRoster authority (c.apply authority r))
      (c.effect env ammProgramId w) := by
  cases hupdate : c.command.update with
  | none =>
    have hsame : c.apply authority r = r := by
      rw [Call.apply, hupdate]
      exact ite_self r
    rw [hsame, Call.effect, run_of_no_update hupdate hpda]
    exact h
  | some u =>
    have hfree : Stores env ammProgramId (HookWhitelist.ofRoster authority r)
        { w with borrowed := [] } := ⟨h.owner, List.not_mem_nil, h.data⟩
    by_cases hpayer : c.payer = authority
    · have hrun := hfree.update_signed hauthority (signedBy_updateAccounts_iff.mpr hpayer) u
      rw [HookWhitelist.applyUpdate_ofRoster] at hrun
      have happly : c.apply authority r = (r.update u.toUpdate).toOption.getD r := by
        rw [Call.apply, if_pos hpayer, hupdate]
      rw [happly, Call.effect, run_update hupdate, hrun]
      cases r.update u.toUpdate with
      | error refusal => exact h
      | ok r' => exact hfree.store _
    · have hfails : ∀ w', c.run env ammProgramId w ≠ .ok w' := by
        intro w' hok
        rw [run_update hupdate] at hok
        exact hpayer (signedBy_updateAccounts_iff.mp (hfree.signed_of_update hok).2)
      rw [Call.apply, if_neg hpayer, Call.effect]
      cases hrun : c.run env ammProgramId w with
      | error e => exact h
      | ok w' => exact absurd hrun (hfails w')

/-- A command changes nothing where there is no whitelist. -/
theorem Call.effect_of_empty (hpda : c.payer ≠ whitelistAddress env ammProgramId)
    (h : (w.accounts (whitelistAddress env ammProgramId)).data.isEmpty = true) :
    c.effect env ammProgramId w = w := by
  cases hupdate : c.command.update with
  | none => rw [Call.effect, run_of_no_update hupdate hpda]; rfl
  | some u =>
    have hload : loadOwnWhitelist env ammProgramId
        ⟨whitelistAddress env ammProgramId, false, true⟩ ⟨c.payer, true, false⟩
        { w with borrowed := [] } = Outcome.fail .uninitializedAccount := by
      have hkey : whitelistAddress env ammProgramId = (findWhitelistPda env ammProgramId).1 := rfl
      simp only [loadOwnWhitelist, Outcome.require_pos, Outcome.ok_bind, hkey]
      rw [Outcome.require_neg (by rw [← hkey, h]; decide)]
      rfl
    have hrun : c.run env ammProgramId w = Outcome.fail .uninitializedAccount := by
      rw [run_update hupdate]
      show (loadOwnWhitelist env ammProgramId _ _ _ >>= _) = _
      rw [hload]
      rfl
    rw [Call.effect, hrun]
    rfl

end Commands

end Cli

/-! ## 4. Sessions -/

/-- In every session of commands on hooks whose payers are wallets: where there is no whitelist,
    nothing changes and no hook is allowed; where there is one, the bytes at the end are those of
    the roster that the updates of its authority leave, in order, and the lookups answer for it. -/
theorem cli_sessions_follow_the_roster {env : Env} {ammProgramId : Pubkey} {session : List Cli.Call}
    (hpda : ∀ c ∈ session, c.payer ≠ whitelistAddress env ammProgramId) (w : World) :
    ((w.accounts (whitelistAddress env ammProgramId)).data.isEmpty = true →
      session.foldl (Cli.Call.effect env ammProgramId) w = w ∧
        ∀ info hook, info.key = whitelistAddress env ammProgramId →
          isHookWhitelisted env w ammProgramId info hook = .ok false) ∧
    ∀ authority r, authority ≠ Pubkey.default →
      Stores env ammProgramId (HookWhitelist.ofRoster authority r) w →
      Stores env ammProgramId
        (HookWhitelist.ofRoster authority (session.foldl (Cli.Call.apply authority) r))
        (session.foldl (Cli.Call.effect env ammProgramId) w) ∧
      ∀ info hook, info.key = whitelistAddress env ammProgramId →
        isHookWhitelisted env (session.foldl (Cli.Call.effect env ammProgramId) w) ammProgramId info
          hook = .ok (decide (hook ∈ (session.foldl (Cli.Call.apply authority) r).members)) := by
  constructor
  · intro hempty
    constructor
    · induction session with
      | nil => rfl
      | cons c session ih =>
        rw [List.foldl_cons, Cli.Call.effect_of_empty (hpda c List.mem_cons_self) hempty]
        exact ih fun c hc => hpda c (List.mem_cons_of_mem _ hc)
    · intro info hook hkey
      have hseeds : info.key = (findWhitelistPda env ammProgramId).1 := hkey
      rw [isHookWhitelisted, Outcome.require_pos hseeds, Outcome.ok_bind, hkey, if_pos hempty]
      rfl
  · intro authority r hauthority h
    have hstored : Stores env ammProgramId
        (HookWhitelist.ofRoster authority (session.foldl (Cli.Call.apply authority) r))
        (session.foldl (Cli.Call.effect env ammProgramId) w) := by
      induction session generalizing w r with
      | nil => exact h
      | cons c session ih =>
        exact ih (fun c hc => hpda c (List.mem_cons_of_mem _ hc)) _ _
          (Cli.Call.effect_stores hauthority (hpda c List.mem_cons_self) h)
    refine ⟨hstored, fun info hook hkey => ?_⟩
    rw [hstored.isHookWhitelisted hkey, HookWhitelist.unpack_pack hauthority, Outcome.ok_bind,
      HookWhitelist.containsHook_ofRoster]
    rfl

open Reference in
/-- Two commands on a fresh whitelist: one of its authority, and one of another wallet. -/
theorem cli_sessions_follow_the_roster_two_payers :
    Stores env program (HookWhitelist.ofRoster (key 7)
        ([⟨key 7, .addHookToWhitelist (key 9)⟩, ⟨key 8, .removeHookFromWhitelist (key 9)⟩].foldl
          (Cli.Call.apply (key 7)) Roster.empty))
      ([⟨key 7, .addHookToWhitelist (key 9)⟩, ⟨key 8, .removeHookFromWhitelist (key 9)⟩].foldl
        (Cli.Call.effect env program) (whitelistWorld (.ofRoster (key 7) Roster.empty))) := by
  refine ((cli_sessions_follow_the_roster ?_ _).2 (key 7) Roster.empty (by decide)
    (stores_whitelistWorld _)).1
  intro c hc
  rcases List.mem_cons.mp hc with rfl | hc
  · decide
  · obtain rfl := List.mem_singleton.mp hc
    decide

end RaydiumAmm
