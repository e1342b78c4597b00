import RaydiumAmm.HookCalls
import RaydiumAmm.LiquidityEffect
import RaydiumAmm.Dispatch

/-!
# Trades of hooked tokens

A deposit and a swap hand no account on to the hook of a mint.

1. `Env.withHooks`: other answers of the hooks. Only a call of a hook can see them.
2. A deposit and a swap run the same under all answers.
3. `hooked_trade_never`: no list of accounts makes a deposit or a swap call a hook, and a list that
   carries the accounts of a hook is too long.
-/

namespace RaydiumAmm

/-! ## 1. The answers of the hooks -/

/-- A call of a transfer hook. -/
abbrev Cpi.isHook (c : Cpi) : Bool :=
  match c.ix with
  | .executeHook _ _ _ => true
  | _ => false

/-- The same programs, with hooks that answer their calls by `answer`. -/
def Env.withHooks (env : Env) (answer : Cpi → Accounts → Except ProgramError Accounts) : Env :=
  env.withInvoke fun c acc => if c.isHook then answer c acc else env.invoke c acc

/-- The instruction calls a hook: an answer of the hooks changes its result, or a call of a hook is
    among the calls that it records. -/
def IssuesHook (env : Env) (programId : Pubkey) (accounts : List AccountInfo) (i : AmmInstruction)
    (w : World) : Prop :=
  (∃ answer, processInstruction (env.withHooks answer) programId accounts i w ≠
    processInstruction env programId accounts i w) ∨
  ∃ w' new, processInstruction env programId accounts i w = .ok w' ∧ w'.inner = w.inner ++ new ∧
    ∃ e ∈ new, e.cpi.isHook = true

/-! ## 2. Runs under all answers -/

section Answers

variable {env : Env} {answer : Cpi → Accounts → Except ProgramError Accounts} {programId : Pubkey}

/-- Every other call is answered as before. -/
theorem World.invoke_withHooks {c : Cpi} (hc : c.isHook = false) (w : World) :
    w.invoke (env.withHooks answer) c = w.invoke env c := by
  have hsame : (env.withHooks answer).invoke c w.accounts = env.invoke c w.accounts := by
    show (if c.isHook then answer c w.accounts else env.invoke c w.accounts) = _
    rw [hc]
    rfl
  rw [World.invoke, World.invoke, hsame]

/-- Without further accounts a hook is not called. -/
theorem executeTransferHook_nil_withHooks (source mint destination authority : AccountInfo)
    (amount : U64) (w : World) :
    executeTransferHook (env.withHooks answer) programId source mint destination authority amount
      [] w = executeTransferHook env programId source mint destination authority amount [] w := rfl

theorem tokenTransferSigned_nil_withHooks (tokenProgram source destination authority mint :
    AccountInfo) (seeds : List (List (List U8))) (amount : U64) (w : World) :
    tokenTransferSigned (env.withHooks answer) programId tokenProgram source destination authority
      seeds amount mint [] w =
    tokenTransferSigned env programId tokenProgram source destination authority seeds amount mint
      [] w := by
  unfold tokenTransferSigned
  rw [executeTransferHook_nil_withHooks]
  simp only [World.invoke_withHooks, Cpi.isHook]

/-- Cancel calls go to the exchange. -/
theorem cancelSide_withHooks (a : CancelInfos) (nonce : U8) (orders : List LeafNode) (w : World) :
    cancelSide (env.withHooks answer) a nonce orders w = cancelSide env a nonce orders w := by
  unfold cancelSide cancelBatches invokeDexCancelOrdersByClientOrderIds
  simp only [World.invoke_withHooks, Cpi.isHook]

theorem freeFunds_withHooks (a : SwapAccounts) (c : SwapContext) (orders : List LeafNode)
    (short : Bool) (coinVaultInfo : AccountInfo) (w : World) :
    freeFunds (env.withHooks answer) a c orders short coinVaultInfo w =
      freeFunds env a c orders short coinVaultInfo w := by
  unfold freeFunds invokeDexSettleFunds
  simp only [cancelSide_withHooks, World.invoke_withHooks, Cpi.isHook]

/-- The checks of a swap call nothing. -/
theorem swapPrologue_withHooks (a : SwapAccounts) (w : World) :
    swapPrologue (env.withHooks answer) programId a w = swapPrologue env programId a w := rfl

theorem swapBaseInBody_withHooks (a : SwapAccounts) (swap : SwapInstructionBaseIn) (w : World) :
    swapBaseInBody (env.withHooks answer) programId a swap w =
      swapBaseInBody env programId a swap w := by
  unfold swapBaseInBody swapBaseInBranch swapBaseInCoin2Pc swapBaseInPc2Coin tokenTransfer
    tokenTransferWithAuthority
  simp only [swapPrologue_withHooks, freeFunds_withHooks, tokenTransferSigned_nil_withHooks]

theorem swapBaseOutBody_withHooks (a : SwapAccounts) (swap : SwapInstructionBaseOut) (w : World) :
    swapBaseOutBody (env.withHooks answer) programId a swap w =
      swapBaseOutBody env programId a swap w := by
  unfold swapBaseOutBody swapBaseOutBranch swapBaseOutCoin2Pc swapBaseOutPc2Coin tokenTransfer
    tokenTransferWithAuthority
  simp only [swapPrologue_withHooks, freeFunds_withHooks, tokenTransferSigned_nil_withHooks]

/-- The checks of a deposit call nothing. -/
theorem depositPrologue_withHooks (a : DepositAccounts) (deposit : DepositInstruction) (w : World) :
    depositPrologue (env.withHooks answer) programId a deposit w =
      depositPrologue env programId a deposit w := rfl

theorem depositBody_withHooks (a : DepositAccounts) (deposit : DepositInstruction) (w : World) :
    depositBody (env.withHooks answer) programId a deposit w =
      depositBody env programId a deposit w := by
  unfold depositBody tokenTransfer tokenMintTo
  simp only [depositPrologue_withHooks, tokenTransferSigned_nil_withHooks,
    World.invoke_withHooks, Cpi.isHook]

end Answers

/-! ## 3. Trades -/

/-- A request that trades with a pool. -/
inductive Trade where
  | deposit (request : DepositInstruction)
  | swapBaseIn (request : SwapInstructionBaseIn)
  | swapBaseOut (request : SwapInstructionBaseOut)

namespace Trade

/-- The instruction of a request. -/
def instruction : Trade → AmmInstruction
  | .deposit request => .deposit request
  | .swapBaseIn request => .swapBaseIn request
  | .swapBaseOut request => .swapBaseOut request

/-- The number of accounts that the handler requires. -/
def accountLen : Trade → ℕ
  | .deposit _ => DEPOSIT_ACCOUNT_LEN
  | .swapBaseIn _ => SWAP_ACCOUNT_LEN
  | .swapBaseOut _ => SWAP_ACCOUNT_LEN

variable {env : Env} {programId : Pubkey} {accounts : List AccountInfo} {w w' : World}

/-- A trade runs the same under all answers of the hooks. -/
theorem run_withHooks (t : Trade) (answer : Cpi → Accounts → Except ProgramError Accounts) :
    processInstruction (env.withHooks answer) programId accounts t.instruction w =
      processInstruction env programId accounts t.instruction w := by
  cases t with
  | deposit request =>
    show processDeposit _ _ _ _ _ = processDeposit _ _ _ _ _
    unfold processDeposit
    simp only [depositBody_withHooks]
  | swapBaseIn request =>
    show processSwapBaseIn _ _ _ _ _ = processSwapBaseIn _ _ _ _ _
    unfold processSwapBaseIn
    simp only [swapBaseInBody_withHooks]
  | swapBaseOut request =>
    show processSwapBaseOut _ _ _ _ _ = processSwapBaseOut _ _ _ _ _
    unfold processSwapBaseOut
    simp only [swapBaseOutBody_withHooks]

/-- A call that is not one of a hook. -/
abbrev PlainCall (c : Cpi) : Prop := c.isHook = false

theorem plainCall_of_dexCall {s : SettleFunds} {c : Cpi} (h : DexCall s c) : PlainCall c := by
  unfold PlainCall Cpi.isHook
  rcases h with ⟨o, ho, -⟩ | hs
  · rw [ho]
  · rw [hs]

theorem calls_of_swapDone {a : SwapAccounts} {coinVaultInfo : AccountInfo} {amm : AmmInfo}
    {c : SwapContext} {paid counted out : U64}
    (h : SwapDone env programId a coinVaultInfo amm c paid counted out w w') :
    ∃ w₀ w₁, Calls env PlainCall w₀ w₁ ∧ w₀.inner = w.inner ∧ w'.inner = w₁.inner := by
  obtain ⟨w₁, w₂, w₃, s', hcalls, -, hw'⟩ := h.run
  have hdex := hcalls.dex.mono fun c => plainCall_of_dexCall
  refine ⟨_, w₃, (hdex.tail ⟨_, rfl, hcalls.payIn⟩).tail ⟨_, rfl, hcalls.payOut⟩, rfl, ?_⟩
  rw [hw', World.dropRefMut_inner]

/-- A trade that goes through has called no hook. -/
theorem inner_of_ok {t : Trade}
    (h : processInstruction env programId accounts t.instruction w = .ok w') :
    ∃ new, w'.inner = w.inner ++ new ∧ ∀ e ∈ new, PlainCall e.cpi := by
  obtain ⟨w₀, w₁, hcalls, hfirst, hlast⟩ :
      ∃ w₀ w₁, Calls env PlainCall w₀ w₁ ∧ w₀.inner = w.inner ∧ w'.inner = w₁.inner := by
    cases t with
    | deposit request =>
      obtain ⟨a, -, hbody⟩ := Outcome.bind_eq_ok.mp h
      obtain ⟨c, d, hdone⟩ := depositBody_eq_ok hbody
      obtain ⟨w₁, w₂, w₃, x1, y1, calcPnlX, calcPnlY, lpAmount, hcalls, -, -, -, -, -, hw'⟩ :=
        hdone.run
      have hpayCoin : Calls env PlainCall _ w₁ := Calls.single (P := PlainCall) rfl hcalls.payCoin
      refine ⟨_, w₃, (hpayCoin.tail ⟨_, rfl, hcalls.payPc⟩).tail ⟨_, rfl, hcalls.mint⟩, rfl, ?_⟩
      rw [hw', World.dropRefMut_inner, World.dropRefMut_inner]
    | swapBaseIn request =>
      obtain ⟨a, -, hbody⟩ := Outcome.bind_eq_ok.mp h
      obtain ⟨amm, c, q, hdone⟩ := swapBaseInBody_eq_ok hbody
      exact calls_of_swapDone hdone.done
    | swapBaseOut request =>
      obtain ⟨a, -, hbody⟩ := Outcome.bind_eq_ok.mp h
      obtain ⟨amm, c, q, hdone⟩ := swapBaseOutBody_eq_ok hbody
      exact calls_of_swapDone hdone.done
  obtain ⟨new, hnew, hall⟩ := hcalls.trace
  exact ⟨new, by rw [hlast, hnew, hfirst], fun e he => (hall e he).1⟩

/-- No accounts make a trade call a hook. -/
theorem not_issuesHook (t : Trade) : ¬IssuesHook env programId accounts t.instruction w := by
  rintro (⟨answer, hne⟩ | ⟨w', new, hok, hnew, e, he, hhook⟩)
  · exact hne (t.run_withHooks answer)
  · obtain ⟨new', hnew', hplain⟩ := inner_of_ok hok
    obtain rfl := List.append_cancel_left (hnew.symm.trans hnew')
    rw [hplain e he] at hhook
    cases hhook

/-- The swap handlers refuse two accounts more than they require. -/
theorem bindSwap_too_long (hlen : SWAP_ACCOUNT_LEN + 1 < accounts.length) :
    bindSwap accounts = Outcome.fail AmmError.wrongAccountsNumber.into := by
  have hbad : ¬(accounts.length = SWAP_ACCOUNT_LEN ∨ accounts.length = SWAP_ACCOUNT_LEN + 1) := by
    omega
  rw [bindSwap, check, Outcome.require_neg hbad]
  rfl

/-- So does the deposit handler. -/
theorem bindDeposit_too_long (hlen : DEPOSIT_ACCOUNT_LEN + 1 < accounts.length) :
    bindDeposit accounts = Outcome.fail AmmError.wrongAccountsNumber.into := by
  have hbad : ¬(accounts.length = DEPOSIT_ACCOUNT_LEN ∨
      accounts.length = DEPOSIT_ACCOUNT_LEN + 1) := by
    omega
  rw [bindDeposit, check, Outcome.require_neg hbad]
  rfl

theorem run_too_long {t : Trade} (hlen : t.accountLen + 1 < accounts.length) :
    processInstruction env programId accounts t.instruction w =
      Outcome.fail AmmError.wrongAccountsNumber.into := by
  cases t with
  | deposit request =>
    show processDeposit _ _ _ _ _ = _
    rw [processDeposit, bindDeposit_too_long hlen]
    rfl
  | swapBaseIn request =>
    show processSwapBaseIn _ _ _ _ _ = _
    rw [processSwapBaseIn, bindSwap_too_long hlen]
    rfl
  | swapBaseOut request =>
    show processSwapBaseOut _ _ _ _ _ = _
    rw [processSwapBaseOut, bindSwap_too_long hlen]
    rfl

end Trade

/-- Hooked tokens cannot be traded: whatever the accounts, the mints and the whitelist, a deposit
    and a swap call no hook, and the required accounts followed by the whitelist, the meta list and
    the accounts of the hook are refused by their number. -/
theorem hooked_trade_never (env : Env) (programId : Pubkey) (t : Trade) (w : World) :
    (∀ accounts, ¬IssuesHook env programId accounts t.instruction w) ∧
    ∀ required whitelistInfo metaListInfo extra, t.accountLen ≤ required.length →
      processInstruction env programId (required ++ whitelistInfo :: metaListInfo :: extra)
        t.instruction w = Outcome.fail AmmError.wrongAccountsNumber.into := by
  refine ⟨fun accounts => t.not_issuesHook, fun required whitelistInfo metaListInfo extra hlen => ?_⟩
  refine Trade.run_too_long ?_
  rw [List.length_append, List.length_cons, List.length_cons]
  omega

/-! ## A pool of a hooked token -/

namespace Reference

/-- A hook program. -/
def hook : Pubkey := key 60

/-- The reference runtime with the hook deployed, whose meta list names no further account. The
    whitelist lies at 71 and the meta list at 72. -/
def hookEnv : Env :=
  { env.withHooks fun _ acc => .ok acc with
    findProgramAddress := fun seeds _ => (key (70 + seeds.length), 255)
    tlvUnpack := fun _ => true
    metaListUnpack := fun _ => some [] }

/-- The whitelist, which admits the hook. -/
def whitelistOfHook : HookWhitelist := .ofRoster (key 7) ⟨[hook], by decide, by decide⟩

/-- The accounts of the whitelist and of the hook's meta list. -/
def hookInfos : List AccountInfo := [readonly 71, readonly 72]

/-- A token account of the Token-2022 program. -/
def token2022Account (mint owner : Pubkey) (amount : Nat) : Account :=
  { tokenAccount mint owner amount with owner := splToken2022Id }

/-- The pool of `swapWorld` under Token-2022, where the coin mint carries the hook. -/
def hookedWorld : World :=
  world ([
    (40, ⟨splToken2022Id, .mint ⟨0, 0, some (some hook)⟩⟩),
    (41, ⟨splToken2022Id, .mint ⟨0, 0, none⟩⟩),
    (13, token2022Account (key 40) authority 1000000),
    (14, token2022Account (key 41) authority 5000000),
    (31, token2022Account (key 40) (key 30) 1000000),
    (32, token2022Account (key 41) (key 30) 1000000),
    (71, ⟨program, .bytes whitelistOfHook.pack⟩),
    (72, ⟨hook, .bytes [1]⟩)] ++
    poolTable (pool .swapOnly 1000) 1000000 5000000)

/-- The accounts of a deposit in the order of the instruction, under a token program. -/
def depositInfos (tokenProgramInfo : AccountInfo) : List AccountInfo := [
  tokenProgramInfo, writable 10, authorityInfo, writable 11, writable 12, writable 15, writable 13,
  writable 14, writable 17, writable 31, writable 32, writable 33, signer 30, writable 20,
  readonly 40, readonly 41]

/-- The Token-2022 program. -/
def token2022Info : AccountInfo := ⟨splToken2022Id, false, false⟩

/-- The payment of a swap of 1000 coin, with the accounts of the hook. -/
def hookedPayment : HookTransfer where
  source := writable 31
  mint := readonly 40
  destination := writable 13
  authority := signer 30
  amount := 1000
  remainingAccounts := hookInfos

/-- The whitelist admits the hook in every world where its account holds those bytes. -/
theorem hook_whitelisted_of {w : World}
    (hdata : (w.accounts (readonly 71).key).data = .bytes whitelistOfHook.pack)
    (hfree : (readonly 71).key ∉ w.borrowed) :
    isHookWhitelisted hookEnv w program (readonly 71) hook = .ok true := by
  have hauthority : whitelistOfHook.authority ≠ Pubkey.default := by decide
  have hfull : (AccountData.bytes whitelistOfHook.pack).isEmpty = false := by
    rw [AccountData.isEmpty, List.isEmpty_eq_false_iff, ← List.length_pos_iff,
      HookWhitelist.length_pack]
    decide
  have hload : loadWhitelist w (readonly 71) = .ok whitelistOfHook := by
    rw [loadWhitelist, Outcome.require_pos hfree, Outcome.ok_bind, hdata]
    exact HookWhitelist.unpack_pack hauthority
  have hcontains : whitelistOfHook.containsHook hook = true := by
    rw [whitelistOfHook, HookWhitelist.containsHook_ofRoster]
    decide
  have hseeds : (readonly 71).key = (findWhitelistPda hookEnv program).1 := rfl
  rw [isHookWhitelisted, Outcome.require_pos hseeds, Outcome.ok_bind, hdata, hfull, hload,
    Outcome.ok_bind, hcontains]
  rfl

theorem hook_whitelisted :
    isHookWhitelisted hookEnv hookedWorld program (readonly 71) hook = .ok true :=
  hook_whitelisted_of rfl (by decide)

/-- With the accounts of the hook at hand, `execute_transfer_hook` calls it. -/
theorem hookedPayment_calls :
    ∃ e, (hookedPayment.run hookEnv program hookedWorld).1.inner = [e] ∧ e.cpi.isHook = true := by
  have hhook : getTransferHookProgramId hookedWorld (readonly 40) = .ok (some hook) := rfl
  have hrun : hookedPayment.run hookEnv program hookedWorld =
      executeWhitelistedHook hookEnv (writable 31) (readonly 40) (writable 13) (signer 30) 1000
        hookInfos (readonly 72) hook hookedWorld := by
    rw [HookTransfer.run, executeTransferHook]
    simp only [hookedPayment, hookInfos, hhook, hook_whitelisted]
  rw [hrun]
  exact ⟨_, rfl, rfl⟩

/-- A deposit on a pool of `swapWorld`. -/
def depositRequest : DepositInstruction := ⟨1000, 10000, 0, none⟩

end Reference

open Reference in
/-- The coin mint carries a whitelisted hook with a valid meta list, which a payment in that mint
    calls; without the hook the same deposit and the same swap go through. No accounts make them
    call the hook: the deposit runs out of accounts, the swap refuses the token program, and the
    accounts of the hook are too many. -/
theorem hooked_trade_refused :
    (getTransferHookProgramId hookedWorld (readonly 40) = .ok (some hook) ∧
      isHookWhitelisted hookEnv hookedWorld program (readonly 71) hook = .ok true ∧
      (readonly 72).key = metaListAddress hookEnv (key 40) hook ∧
      isMetaListValid hookEnv hookedWorld (readonly 72) = .ok true ∧
      ∃ e, (hookedPayment.run hookEnv program hookedWorld).1.inner = [e] ∧
        e.cpi.isHook = true) ∧
    ((processDeposit env program (depositInfos tokenProgramInfo) depositRequest swapWorld).isOk =
        true ∧
      (processSwapBaseIn env program (swapInfos 31 32) ⟨1000, 0⟩ swapWorld).isOk = true) ∧
    (∀ accounts, ¬IssuesHook hookEnv program accounts (.deposit depositRequest) hookedWorld) ∧
    (∀ accounts, ¬IssuesHook hookEnv program accounts (.swapBaseIn ⟨1000, 0⟩) hookedWorld) ∧
    processDeposit hookEnv program (depositInfos token2022Info) depositRequest hookedWorld =
      Outcome.fail .notEnoughAccountKeys ∧
    processSwapBaseIn hookEnv program (token2022Info :: (swapInfos 31 32).tail) ⟨1000, 0⟩
      hookedWorld = Outcome.fail AmmError.invalidSplTokenProgram.into ∧
    processSwapBaseIn hookEnv program (swapInfos 31 32 ++ hookInfos) ⟨1000, 0⟩ hookedWorld =
      Outcome.fail AmmError.wrongAccountsNumber.into := by
  refine ⟨⟨rfl, hook_whitelisted, rfl, rfl, hookedPayment_calls⟩, ⟨by decide, by decide⟩,
    fun accounts => ?_, fun accounts => ?_, rfl, rfl, rfl⟩
  · exact Trade.not_issuesHook (.deposit depositRequest)
  · exact Trade.not_issuesHook (.swapBaseIn ⟨1000, 0⟩)

end RaydiumAmm
