import RaydiumAmm.PoolLife

/-!
# What the authority of a pool signs

The authority is an address of this program, which signs for it by passing the seeds to
`invoke_signed`. It owns the vaults and the LP mint, so a program that is called with its signature
can spend them.

1. `PoolCall`: the calls of a handler that has loaded a pool.
2. The handlers.
3. `SignedCall`: what one instruction calls; over a run the signature goes to the SPL token
   program, to the market program of the pool and to the hard-coded exchange of a migration. The
   market program of `MonitorStep` and `AdminCancelOrders` is what the caller lists.
4. A monitor step signs for every program that its caller puts in that place.
-/

namespace RaydiumAmm

/-! ## 1. Calls -/

/-- The program that an instruction goes to. -/
def Instruction.program : Instruction → Pubkey
  | .transfer tokenProgram .. => tokenProgram
  | .transferChecked tokenProgram .. => tokenProgram
  | .mintTo tokenProgram .. => tokenProgram
  | .burn tokenProgram .. => tokenProgram
  | .cancelOrders c => c.dexProgram
  | .settleFunds s => s.dexProgram
  | .executeHook programId .. => programId
  | .createAccount .. => systemProgramId
  | .mintSetup tokenProgram .. => tokenProgram
  | .initExtraAccountMetaList programId .. => programId

/-- A call of a transfer hook. -/
def Instruction.isHook : Instruction → Bool
  | .executeHook .. => true
  | _ => false

/-- A call to cancel orders or to settle. -/
def Instruction.isExchange : Instruction → Bool
  | .cancelOrders _ => true
  | .settleFunds _ => true
  | _ => false

/-- The seeds of the authority. -/
def AmmInfo.seeds (amm : AmmInfo) : List (List (List U8)) := [[AUTHORITY_AMM, [amm.nonceU8]]]

/-- What a handler calls for the pool `amm`: the token program for a user, the token program with
    the signature of the authority, and with it a program that it takes for the exchange. -/
inductive PoolCall (amm : AmmInfo) (dex : Pubkey → Prop) (c : Cpi) : Prop where
  | user (hseeds : c.seeds = []) (hprogram : c.ix.program = splTokenId)
      (hhook : c.ix.isHook = false)
  | token (hseeds : c.seeds = amm.seeds) (hprogram : c.ix.program = splTokenId)
      (hhook : c.ix.isHook = false)
  | exchange (hseeds : c.seeds = amm.seeds) (hprogram : dex c.ix.program)
      (hexchange : c.ix.isExchange = true)

section Calls

variable {env : Env} {programId : Pubkey} {amm : AmmInfo} {dex : Pubkey → Prop} {w w' : World}
  {tokenProgram source destination mint authority : AccountInfo} {amount : U64}

theorem PoolCall.mono {dex' : Pubkey → Prop} {c : Cpi} (hdex : ∀ p, dex p → dex' p)
    (h : PoolCall amm dex c) : PoolCall amm dex' c := by
  cases h with
  | user hseeds hprogram hhook => exact .user hseeds hprogram hhook
  | token hseeds hprogram hhook => exact .token hseeds hprogram hhook
  | exchange hseeds hprogram hexchange => exact .exchange hseeds (hdex _ hprogram) hexchange

theorem transferCpi_user (hspl : tokenProgram.key = splTokenId) :
    PoolCall amm dex (transferCpi tokenProgram source destination authority [] amount) :=
  .user rfl hspl rfl

theorem transferCpi_token (hspl : tokenProgram.key = splTokenId) :
    PoolCall amm dex (transferCpi tokenProgram source destination authority amm.seeds amount) :=
  .token rfl hspl rfl

theorem mintCpi_token (hspl : tokenProgram.key = splTokenId) :
    PoolCall amm dex (mintCpi tokenProgram mint destination authority AUTHORITY_AMM amm.nonceU8
      amount) :=
  .token rfl hspl rfl

theorem burnCpi_user (hspl : tokenProgram.key = splTokenId) :
    PoolCall amm dex (burnCpi tokenProgram source mint authority amount) :=
  .user rfl hspl rfl

theorem cancelBatches_poolCalls {a : CancelInfos} (hdex : dex a.marketProgramInfo.key)
    {batches : List (List U64)} (h : cancelBatches env a amm.nonceU8 batches w = .ok w') :
    Calls env (PoolCall amm dex) w w' := by
  induction batches generalizing w with
  | nil =>
    cases h
    exact .refl
  | cons ids rest ih =>
    simp only [cancelBatches, List.foldlM_cons, Outcome.bind_eq_ok] at h
    obtain ⟨w₁, hfirst, hrest⟩ := h
    refine Relation.ReflTransGen.head ⟨_, ?_, hfirst⟩ (ih hrest)
    exact .exchange rfl hdex rfl

theorem cancelSide_poolCalls {a : CancelInfos} (hdex : dex a.marketProgramInfo.key)
    {orders : List LeafNode} (h : cancelSide env a amm.nonceU8 orders w = .ok w') :
    Calls env (PoolCall amm dex) w w' := by
  simp only [cancelSide, Outcome.bind_eq_ok] at h
  obtain ⟨batches, -, hcancel⟩ := h
  exact cancelBatches_poolCalls hdex hcancel

theorem settle_poolCalls {dexProgram market openOrders owner coinVault pcVault coinWallet pcWallet
    vaultSigner splTokenProgram : AccountInfo} {referrer : Option AccountInfo}
    (hdex : dex dexProgram.key)
    (h : invokeDexSettleFunds env dexProgram market openOrders owner coinVault pcVault coinWallet
      pcWallet vaultSigner splTokenProgram referrer AUTHORITY_AMM amm.nonceU8 w = .ok w') :
    Calls env (PoolCall amm dex) w w' := by
  refine Calls.single ?_ h
  exact .exchange rfl hdex rfl

theorem cancelAmmOrdersAndSettle_poolCalls {a : CancelInfos}
    {marketCoinVaultInfo marketPcVaultInfo ammCoinVaultInfo ammPcVaultInfo marketVaultSigner
      tokenProgramInfo : AccountInfo} {referrer : Option AccountInfo} {bids asks : List LeafNode}
    (hdex : dex a.marketProgramInfo.key)
    (h : cancelAmmOrdersAndSettle env a marketCoinVaultInfo marketPcVaultInfo ammCoinVaultInfo
      ammPcVaultInfo marketVaultSigner tokenProgramInfo referrer bids asks amm.nonceU8 w = .ok w') :
    Calls env (PoolCall amm dex) w w' := by
  simp only [cancelAmmOrdersAndSettle, Outcome.bind_eq_ok] at h
  obtain ⟨batches, -, w₁, hcancel, hsettle⟩ := h
  exact (cancelBatches_poolCalls hdex hcancel).trans (settle_poolCalls hdex hsettle)

end Calls

/-! ## 2. Handlers -/

/-- The programs that the instruction `i` takes for the exchange of the pool `amm`. The last two
    compare the account with nothing; `AdminCancelOrders` asks for the signature of the owner. -/
inductive Exchanges (accounts : List AccountInfo) (amm : AmmInfo) : AmmInstruction → Pubkey → Prop
    where
  | market {i : AmmInstruction} (hon : amm.orderbookOn = true) :
      Exchanges accounts amm i amm.marketProgram
  | migration : Exchanges accounts amm .migrateToOpenBook openbookMarketProgram
  | adminCancelOrders {cancel : AdminCancelOrdersInstruction} {info : AccountInfo}
      (hlisted : info ∈ accounts) (howner : Signed accounts amm.ammOwner) :
      Exchanges accounts amm (.adminCancelOrders cancel) info.key
  | monitorStep {monitor : MonitorStepInstruction} {info : AccountInfo} (hlisted : info ∈ accounts) :
      Exchanges accounts amm (.monitorStep monitor) info.key

/-- A handler calls for one pool, which it finds in `w`. -/
def CallsForPool (env : Env) (programId : Pubkey) (accounts : List AccountInfo)
    (i : AmmInstruction) (w w' : World) : Prop :=
  ∃ key amm w₀ w₁, w.accounts key = ⟨programId, .amm amm⟩ ∧ w₀.inner = w.inner ∧
    Calls env (PoolCall amm (Exchanges accounts amm i)) w₀ w₁ ∧ w'.inner = w₁.inner

section Handlers

variable {env : Env} {programId : Pubkey} {accounts : List AccountInfo} {i : AmmInstruction}
  {w w' : World}

theorem freeFunds_poolCalls {a : SwapAccounts} {c : SwapContext} {dex : Pubkey → Prop}
    {orders : List LeafNode} {short : Bool} {coinVaultInfo : AccountInfo}
    (hdex : c.enableOrderbook = true → dex a.marketProgramInfo.key)
    (h : freeFunds env a c orders short coinVaultInfo w = .ok w') :
    Calls env (PoolCall c.amm dex) w w' := by
  unfold freeFunds at h
  rcases Outcome.ite_eq_ok.mp h with ⟨hon, h⟩ | ⟨-, h⟩
  · simp only [Outcome.bind_eq_ok] at h
    obtain ⟨w₁, hcancel, h⟩ := h
    have hcalls : Calls env (PoolCall c.amm dex) w w₁ := cancelSide_poolCalls (hdex hon) hcancel
    rcases Outcome.ite_eq_ok.mp h with ⟨-, h⟩ | ⟨-, h⟩
    · exact hcalls.trans (settle_poolCalls (hdex hon) h)
    · cases h
      exact hcalls
  · cases h
    exact .refl

/-- The two transfers of a swap. -/
theorem swapTransfers_poolCalls {a : SwapAccounts} {amm : AmmInfo} {dex : Pubkey → Prop}
    {inVaultInfo outVaultInfo inMintInfo outMintInfo : AccountInfo} {paid out : U64} {w₁ w₂ : World}
    (hspl : a.tokenProgramInfo.key = splTokenId) (hfree : Calls env (PoolCall amm dex) w w₁)
    (hin : tokenTransfer env programId a.tokenProgramInfo a.userSourceInfo inVaultInfo
      a.userSourceOwner paid inMintInfo [] w₁ = .ok w₂)
    (hout : tokenTransferWithAuthority env programId a.tokenProgramInfo outVaultInfo
      a.userDestinationInfo a.ammAuthorityInfo AUTHORITY_AMM amm.nonceU8 out outMintInfo [] w₂ =
        .ok w') :
    Calls env (PoolCall amm dex) w w' :=
  (hfree.tail ⟨_, transferCpi_user hspl, tokenTransfer_spl hspl hin⟩).tail
    ⟨_, transferCpi_token hspl, tokenTransferWithAuthority_spl hspl hout⟩

theorem swapBaseInBranch_poolCalls {a : SwapAccounts} {c : SwapContext}
    {swap : SwapInstructionBaseIn} {q : SwapBaseInQuote} {amm : AmmInfo} {dex : Pubkey → Prop}
    (hspl : a.tokenProgramInfo.key = splTokenId)
    (hdex : c.enableOrderbook = true → dex a.marketProgramInfo.key)
    (h : swapBaseInBranch env programId a c swap q w = .ok (amm, w')) :
    Calls env (PoolCall c.amm dex) w w' := by
  cases hdir : c.swapDirection with
  | coin2Pc =>
    simp only [swapBaseInBranch, hdir, swapBaseInCoin2Pc, Outcome.bind_eq_ok,
      Outcome.pure_eq_ok] at h
    obtain ⟨-, -, w₁, hfree, w₂, hin, w₃, hout, _, -, _, -, _, -, _, -, hret⟩ := h
    cases hret
    exact swapTransfers_poolCalls hspl (freeFunds_poolCalls hdex hfree) hin hout
  | pc2Coin =>
    simp only [swapBaseInBranch, hdir, swapBaseInPc2Coin, Outcome.bind_eq_ok,
      Outcome.pure_eq_ok] at h
    obtain ⟨-, -, w₁, hfree, w₂, hin, w₃, hout, _, -, _, -, _, -, _, -, hret⟩ := h
    cases hret
    exact swapTransfers_poolCalls hspl (freeFunds_poolCalls hdex hfree) hin hout

theorem swapBaseOutBranch_poolCalls {a : SwapAccounts} {c : SwapContext}
    {swap : SwapInstructionBaseOut} {q : SwapBaseOutQuote} {amm : AmmInfo} {dex : Pubkey → Prop}
    (hspl : a.tokenProgramInfo.key = splTokenId)
    (hdex : c.enableOrderbook = true → dex a.marketProgramInfo.key)
    (h : swapBaseOutBranch env programId a c swap q w = .ok (amm, w')) :
    Calls env (PoolCall c.amm dex) w w' := by
  cases hdir : c.swapDirection with
  | coin2Pc =>
    simp only [swapBaseOutBranch, hdir, swapBaseOutCoin2Pc, Outcome.bind_eq_ok,
      Outcome.pure_eq_ok] at h
    obtain ⟨-, -, w₁, hfree, w₂, hin, w₃, hout, _, -, _, -, _, -, hret⟩ := h
    cases hret
    exact swapTransfers_poolCalls hspl (freeFunds_poolCalls hdex hfree) hin hout
  | pc2Coin =>
    simp only [swapBaseOutBranch, hdir, swapBaseOutPc2Coin, Outcome.bind_eq_ok,
      Outcome.pure_eq_ok] at h
    obtain ⟨-, -, w₁, hfree, w₂, hin, w₃, hout, _, -, _, -, _, -, hret⟩ := h
    cases hret
    exact swapTransfers_poolCalls hspl (freeFunds_poolCalls hdex hfree) hin hout

/-- The calls of a handler whose pool account is borrowed meanwhile and written afterwards. -/
theorem CallsForPool.of {key : Pubkey} {amm : AmmInfo} {borrowed : List Pubkey} {w₁ : World}
    (howner : (w.accounts key).owner = programId) (hstored : (w.accounts key).data = .amm amm)
    (hcalls : Calls env (PoolCall amm (Exchanges accounts amm i)) { w with borrowed := borrowed } w₁)
    (hw' : w'.inner = w₁.inner) : CallsForPool env programId accounts i w w' :=
  ⟨key, amm, { w with borrowed := borrowed }, w₁, Account.eq_mk howner hstored, rfl, hcalls, hw'⟩

theorem SwapChecked.exchange {a : SwapAccounts} {amm : AmmInfo} {c : SwapContext}
    (hc : SwapChecked env programId a w amm c) (hon : c.enableOrderbook = true) :
    Exchanges accounts amm i a.marketProgramInfo.key := by
  rw [(hc.marketKeys hon).1]
  exact .market (hc.enableOrderbook ▸ hon)

/-- The status gate changes no seed. -/
theorem SwapChecked.poolCall {a : SwapAccounts} {amm : AmmInfo} {c : SwapContext}
    {dex : Pubkey → Prop} (hc : SwapChecked env programId a w amm c) {call : Cpi}
    (h : PoolCall c.amm dex call) : PoolCall amm dex call := by
  obtain ⟨status, hrecord⟩ := hc.record
  rw [hrecord] at h
  cases h with
  | user hseeds hprogram hhook => exact .user hseeds hprogram hhook
  | token hseeds hprogram hhook => exact .token hseeds hprogram hhook
  | exchange hseeds hprogram hexchange => exact .exchange hseeds hprogram hexchange

theorem processSwapBaseIn_callsForPool {swap : SwapInstructionBaseIn}
    (h : processSwapBaseIn env programId accounts swap w = .ok w') :
    CallsForPool env programId accounts i w w' := by
  simp only [processSwapBaseIn, swapBaseInBody, Outcome.bind_eq_ok, Outcome.pure_eq_ok] at h
  obtain ⟨a, -, ⟨c, w₀⟩, hpro, -, -, q, -, -, -, -, -, ⟨amm', w₃⟩, hbranch, rfl⟩ := h
  obtain ⟨amm, hc, rfl⟩ := swapPrologue_eq_ok hpro
  have hcalls : Calls env (PoolCall c.amm (Exchanges accounts amm i)) _ w₃ :=
    swapBaseInBranch_poolCalls hc.tokenProgram hc.exchange hbranch
  exact .of hc.owner hc.stored (hcalls.mono fun _ => hc.poolCall) rfl

theorem processSwapBaseOut_callsForPool {swap : SwapInstructionBaseOut}
    (h : processSwapBaseOut env programId accounts swap w = .ok w') :
    CallsForPool env programId accounts i w w' := by
  simp only [processSwapBaseOut, swapBaseOutBody, Outcome.bind_eq_ok, Outcome.pure_eq_ok] at h
  obtain ⟨a, -, ⟨c, w₀⟩, hpro, q, -, -, -, -, -, -, -, ⟨amm', w₃⟩, hbranch, rfl⟩ := h
  obtain ⟨amm, hc, rfl⟩ := swapPrologue_eq_ok hpro
  have hcalls : Calls env (PoolCall c.amm (Exchanges accounts amm i)) _ w₃ :=
    swapBaseOutBranch_poolCalls hc.tokenProgram hc.exchange hbranch
  exact .of hc.owner hc.stored (hcalls.mono fun _ => hc.poolCall) rfl

theorem processDeposit_callsForPool {deposit : DepositInstruction}
    (h : processDeposit env programId accounts deposit w = .ok w') :
    CallsForPool env programId accounts i w w' := by
  simp only [processDeposit, Outcome.bind_eq_ok] at h
  obtain ⟨a, -, h⟩ := h
  obtain ⟨c, d, hdone⟩ := depositBody_eq_ok h
  obtain ⟨w₁, w₂, w₃, x1, y1, calcPnlX, calcPnlY, lpAmount, hcalls, -, -, -, -, -, rfl⟩ := hdone.run
  have hspl := hdone.tokenProgram
  have hall : Calls env (PoolCall c.amm (Exchanges accounts c.amm i)) _ w₃ :=
    ((Calls.single (transferCpi_user hspl) hcalls.payCoin).tail
      ⟨_, transferCpi_user hspl, hcalls.payPc⟩).tail ⟨_, mintCpi_token hspl, hcalls.mint⟩
  exact .of hdone.checked.owner hdone.checked.stored hall rfl

theorem withdrawTotals_poolCalls {a : WithdrawAccounts} {amm : AmmInfo}
    {coinVault pcVault destCoin destPc : TokenAccount} {totals : U64 × U64}
    (h : withdrawTotals env a amm amm.orderbookOn coinVault pcVault destCoin destPc w =
      .ok (totals, w')) :
    Calls env (PoolCall amm (Exchanges accounts amm i)) w w' := by
  unfold withdrawTotals at h
  rcases Outcome.ite_eq_ok.mp h with ⟨hon, h⟩ | ⟨-, h⟩
  · simp only [↓check_bind_eq_ok, Outcome.bind_eq_ok] at h
    obtain ⟨-, hprogram, -, ⟨marketState, openOrders⟩, -, ⟨bids, asks⟩, -, w₁, hcancel, -, -,
      totals', -, hret⟩ := h
    cases hret
    refine cancelAmmOrdersAndSettle_poolCalls ?_ hcancel
    show Exchanges accounts amm i a.marketProgramInfo.key
    rw [hprogram]
    exact .market hon
  · simp only [Outcome.bind_eq_ok] at h
    obtain ⟨totals', -, hret⟩ := h
    cases hret
    exact .refl

theorem processWithdraw_callsForPool {withdraw : WithdrawInstruction}
    (h : processWithdraw env programId accounts withdraw w = .ok w') :
    CallsForPool env programId accounts i w w' := by
  simp only [processWithdraw, withdrawBody, Outcome.bind_eq_ok, Outcome.pure_eq_ok] at h
  obtain ⟨a, -, ⟨c, w₀⟩, hpro, -, -, -, -, ⟨coinAmount, pcAmount⟩, -, -, -, -, -, -, -, w₁, hcoin,
    w₂, hpc, w₃, hburn, lpAmount, -, -, -, -, -, rfl⟩ := h
  obtain ⟨hc, destCoin, destPc, htotals⟩ := withdrawPrologue_totals hpro
  obtain ⟨s, hs, -, -⟩ := withdrawTakePnl_amm c
  have hspl := hc.tokenProgram
  have hnonce : (withdrawTakePnl c).amm.nonceU8 = c.amm.nonceU8 := by
    rw [hs]
    rfl
  rw [hnonce] at hcoin hpc
  have hdex : Calls env (PoolCall c.amm (Exchanges accounts c.amm i)) _ w₀ :=
    withdrawTotals_poolCalls htotals
  have hall := ((hdex.tail
    ⟨_, transferCpi_token hspl, tokenTransferWithAuthority_spl hspl hcoin⟩).tail
    ⟨_, transferCpi_token hspl, tokenTransferWithAuthority_spl hspl hpc⟩).tail
    ⟨_, burnCpi_user hspl, tokenBurn_eq_ok hburn⟩
  exact .of hc.owner hc.stored hall rfl

theorem payPnl_poolCalls {a : WithdrawPnlAccounts} {amm : AmmInfo} {dex : Pubkey → Prop}
    {vaultInfo destInfo : AccountInfo} {pnl : U64} (hspl : a.tokenProgramInfo.key = splTokenId)
    (h : payPnl env programId a amm vaultInfo destInfo pnl w = .ok w') :
    Calls env (PoolCall amm dex) w w' := by
  rcases payPnl_eq_ok hspl h with h | ⟨-, rfl⟩
  · exact .single (transferCpi_token hspl) h
  · exact .refl

theorem processWithdrawPnl_callsForPool (h : processWithdrawPnl env programId accounts w = .ok w') :
    CallsForPool env programId accounts i w w' := by
  simp only [processWithdrawPnl, Outcome.bind_eq_ok] at h
  obtain ⟨a, -, h⟩ := h
  obtain ⟨amm, hdone⟩ := withdrawPnlBody_eq_ok h
  obtain ⟨w₁, w₂, hcoin, hpc, rfl⟩ := hdone.run
  have hspl := hdone.checked.tokenProgram
  exact .of hdone.checked.owner hdone.checked.stored
    ((payPnl_poolCalls hspl hcoin).trans (payPnl_poolCalls hspl hpc)) rfl

/-- A binder that starts with an account takes the head of the list. -/
theorem Binder.next_bind_eq_ok {α : Type} {f : AccountInfo → Binder α} {l : List AccountInfo}
    {r : α × List AccountInfo} :
    (nextAccountInfo >>= f) l = .ok r ↔ ∃ info rest, l = info :: rest ∧ f info rest = .ok r := by
  cases l with
  | nil => exact iff_of_false (by rintro ⟨⟩) (by rintro ⟨_, _, ⟨⟩, -⟩)
  | cons info rest =>
    constructor
    · intro h
      exact ⟨info, rest, rfl, h⟩
    · rintro ⟨_, _, heq, h⟩
      cases heq
      exact h

theorem Binder.bindAll_eq_ok {α : Type} {b : Binder α} {l : List AccountInfo} {x : α} :
    b.bindAll l = .ok x ↔ ∃ rest, b l = .ok (x, rest) := by
  unfold Binder.bindAll
  rw [Outcome.bind_eq_ok]
  constructor
  · rintro ⟨⟨y, rest⟩, hb, hy⟩
    cases hy
    exact ⟨rest, hb⟩
  · rintro ⟨rest, hb⟩
    exact ⟨(x, rest), hb, rfl⟩

theorem bindMonitor_marketProgram {a : MonitorAccounts} (h : bindMonitor accounts = .ok a) :
    a.marketProgramInfo ∈ accounts := by
  simp only [bindMonitor, Binder.bindAll_eq_ok, Binder.next_bind_eq_ok] at h
  obtain ⟨_, x₀, _, rfl, x₁, _, rfl, x₂, _, rfl, x₃, _, rfl, x₄, _, rfl, x₅, _, rfl, x₆, _, rfl, _,
    _, rfl, _, _, rfl, _, _, rfl, _, _, rfl, _, _, rfl, _, _, rfl, _, _, rfl, _, _, rfl, _, _, rfl,
    hret⟩ := h
  cases hret
  simp

theorem bindOrders_mem {a : OrdersAccounts} (h : bindOrders accounts = .ok a) :
    a.marketProgramInfo ∈ accounts ∧ a.userWalletInfo ∈ accounts := by
  simp only [bindOrders, Binder.bindAll_eq_ok, Binder.next_bind_eq_ok] at h
  obtain ⟨_, x₀, _, rfl, x₁, _, rfl, x₂, _, rfl, x₃, _, rfl, x₄, _, rfl, x₅, _, rfl, x₆, _, rfl, x₇,
    _, rfl, x₈, _, rfl, x₉, _, rfl, x₁₀, _, rfl, x₁₁, _, rfl, x₁₂, _, rfl, hret⟩ := h
  cases hret
  constructor <;> simp

/-- A monitor step calls the market program that its account list has in that place. -/
theorem processMonitorStep_callsForPool {monitor : MonitorStepInstruction}
    (h : processMonitorStep env programId accounts monitor w = .ok w') :
    CallsForPool env programId accounts (.monitorStep monitor) w w' := by
  simp only [processMonitorStep, monitorBody, Outcome.bind_eq_ok, Outcome.pure_eq_ok] at h
  obtain ⟨a, hbind, ⟨c, w₀⟩, hpro, w₁, hcancel, rfl⟩ := h
  obtain ⟨hc, rfl⟩ := monitorPrologue_eq_ok hpro
  have hlisted := bindMonitor_marketProgram hbind
  have hcalls : Calls env (PoolCall c.amm (Exchanges accounts c.amm (.monitorStep monitor)))
      { w with borrowed := a.ammTargetOrdersInfo.key :: a.ammInfo.key :: w.borrowed } w₁ := by
    unfold monitorCancel at hcancel
    rcases Outcome.ite_eq_ok.mp hcancel with ⟨-, hcancel⟩ | ⟨-, hcancel⟩
    · exact cancelAmmOrdersAndSettle_poolCalls (.monitorStep hlisted) hcancel
    · cases hcancel
      exact .refl
  exact .of hc.owner hc.stored hcalls rfl

theorem cancelAndSettleOrders_poolCalls {a : OrdersAccounts} {amm : AmmInfo} {dex : Pubkey → Prop}
    (hdex : dex a.marketProgramInfo.key) (h : cancelAndSettleOrders env a amm w = .ok w') :
    Calls env (PoolCall amm dex) w w' := by
  simp only [cancelAndSettleOrders, Outcome.bind_eq_ok] at h
  obtain ⟨-, -, -, -, ⟨marketState, openOrders⟩, -, ⟨bids, asks⟩, -, w₁, hbids, w₂, hasks,
    hsettle⟩ := h
  exact ((cancelSide_poolCalls hdex hbids).trans (cancelSide_poolCalls hdex hasks)).trans
    (settle_poolCalls hdex hsettle)

theorem processAdminCancelOrders_callsForPool {cancel : AdminCancelOrdersInstruction}
    (h : processAdminCancelOrders env programId accounts cancel w = .ok w') :
    CallsForPool env programId accounts (.adminCancelOrders cancel) w w' := by
  simp only [processAdminCancelOrders, adminCancelOrdersBody, Outcome.bind_eq_ok, check_eq_ok,
    Outcome.pure_eq_ok] at h
  obtain ⟨a, hbind, -, hsigner, ⟨amm, w₀⟩, hload, authority, -, -, -, -, hkey, -, -, w₁, hcancel,
    rfl⟩ := h
  obtain ⟨howner, hdata, -, rfl⟩ := AmmInfo.loadMutChecked_eq_ok hload
  obtain ⟨hlisted, hwallet⟩ := bindOrders_mem hbind
  have hexchange : Exchanges accounts amm (.adminCancelOrders cancel) a.marketProgramInfo.key :=
    .adminCancelOrders hlisted ⟨a.userWalletInfo, hwallet, hsigner, hkey⟩
  exact .of howner hdata (cancelAndSettleOrders_poolCalls hexchange hcancel) rfl

theorem processMigrateToOpenbook_callsForPool
    (h : processMigrateToOpenbook env programId accounts w = .ok w') :
    CallsForPool env programId accounts .migrateToOpenBook w w' := by
  simp only [processMigrateToOpenbook, migrateToOpenbookBody, Outcome.bind_eq_ok, check_eq_ok,
    Outcome.pure_eq_ok] at h
  obtain ⟨a, -, -, -, ⟨amm, w₀⟩, hload, authority, -, -, -, -, -, -, hprogram, w₁, hcancel, rfl⟩ := h
  obtain ⟨howner, hdata, -, rfl⟩ := AmmInfo.loadMutChecked_eq_ok hload
  have hexchange : Exchanges accounts amm .migrateToOpenBook a.marketProgramInfo.key := by
    rw [hprogram]
    exact .migration
  exact .of howner hdata (cancelAndSettleOrders_poolCalls hexchange hcancel) rfl

theorem processWithdrawSrm_callsForPool {withdrawsrm : WithdrawSrmInstruction}
    (h : processWithdrawSrm env programId accounts withdrawsrm w = .ok w') :
    CallsForPool env programId accounts i w w' := by
  simp only [processWithdrawSrm, withdrawSrmBody, Outcome.bind_eq_ok, check_eq_ok,
    Outcome.pure_eq_ok] at h
  obtain ⟨a, -, -, -, ⟨amm, w₀⟩, hload, authority, -, -, -, -, hspl, source, -, dest, -, -, -, -, -,
    -, -, -, -, w₁, htransfer, rfl⟩ := h
  obtain ⟨howner, hdata, -, rfl⟩ := AmmInfo.loadMutChecked_eq_ok hload
  refine .of howner hdata (Calls.single ?_ (tokenTransferWithAuthority_spl hspl htransfer)) rfl
  exact transferCpi_token hspl

end Handlers

/-! ## 3. Instructions and runs -/

/-- A call to set up an account or a mint. The one that creates the whitelist is signed for the
    whitelist. -/
def SetupSigned (c : Cpi) : Prop :=
  c.ix.isSetup = true ∧ (c.seeds = [] ∨ c.seeds = [[hookWhitelistSeed]])

/-- A handler makes set-up calls at most. -/
def CallsForSetup (env : Env) (w w' : World) : Prop :=
  ∃ w₁, Calls env SetupSigned w w₁ ∧ w'.inner = w₁.inner

section Setup

variable {env : Env} {programId : Pubkey} {accounts : List AccountInfo} {w w' : World}

theorem World.writeData_inner {key : Pubkey} {data : AccountData}
    (h : w.writeData programId key data = .ok w') : w'.inner = w.inner := by
  rw [World.writeData_eq_ok h]

theorem CallsForSetup.of_inner (h : w'.inner = w.inner) : CallsForSetup env w w' := ⟨w, .refl, h⟩

theorem processSetParams_callsForSetup {setparams : SetParamsInstruction}
    (h : processSetParams env programId accounts setparams w = .ok w') :
    CallsForSetup env w w' := by
  simp only [processSetParams, Outcome.bind_eq_ok, Outcome.pure_eq_ok] at h
  obtain ⟨⟨ammInfo, ammAuthorityInfo, userWalletInfo⟩, -, -, -, ⟨amm, w₀⟩, hload, -, -, -, -, -, -,
    param, -, rfl⟩ := h
  obtain ⟨-, -, -, rfl⟩ := AmmInfo.loadMutChecked_eq_ok hload
  exact .of_inner rfl

theorem processUpdateConfig_callsForSetup {configArgs : ConfigArgs}
    (h : processUpdateConfig programId accounts configArgs w = .ok w') :
    CallsForSetup env w w' := by
  simp only [processUpdateConfig, Outcome.bind_eq_ok, Outcome.pure_eq_ok] at h
  obtain ⟨⟨configInfo, userWalletInfo⟩, -, -, -, ⟨config, w₀⟩, hload, -, -, rfl⟩ := h
  obtain ⟨-, rfl⟩ := AmmConfig.loadMutChecked_eq_ok hload
  exact .of_inner rfl

theorem processCreateConfig_callsForSetup
    (h : processCreateConfig env programId accounts w = .ok w') : CallsForSetup env w w' := by
  simp only [processCreateConfig, Outcome.bind_eq_ok] at h
  obtain ⟨⟨configInfo, userWalletInfo, systemProgramInfo, rentInfo⟩, -, -, -, -, -, -, -, -, -, -,
    -, h⟩ := h
  cases hd : (w.accounts configInfo.key).data <;> rw [hd] at h <;>
    simp only [Outcome.panic_ne_ok] at h
  exact .of_inner (World.writeData_inner h)

theorem processUpdateHookWhitelist_callsForSetup {instruction : UpdateHookWhitelistInstruction}
    (h : processUpdateHookWhitelist env programId accounts instruction w = .ok w') :
    CallsForSetup env w w' := by
  simp only [processUpdateHookWhitelist, Outcome.bind_eq_ok] at h
  obtain ⟨⟨whitelistAccountInfo, authorityInfo⟩, -, whitelist, -, h⟩ := h
  cases hact : instruction.action <;> simp only [hact, Outcome.bind_eq_ok] at h
  · obtain ⟨updated, -, hwrite⟩ := h
    exact .of_inner (World.writeData_inner hwrite)
  · obtain ⟨updated, -, hwrite⟩ := h
    exact .of_inner (World.writeData_inner hwrite)

theorem processUpdateWhitelistAuthority_callsForSetup {newAuthority : Pubkey}
    (h : processUpdateWhitelistAuthority env programId accounts newAuthority w = .ok w') :
    CallsForSetup env w w' := by
  simp only [processUpdateWhitelistAuthority, Outcome.bind_eq_ok] at h
  obtain ⟨⟨whitelistAccountInfo, currentAuthorityInfo⟩, -, whitelist, -, hwrite⟩ := h
  exact .of_inner (World.writeData_inner hwrite)

theorem processInitializeHookWhitelist_callsForSetup {authority : Pubkey}
    (h : processInitializeHookWhitelist env programId accounts authority w = .ok w') :
    CallsForSetup env w w' := by
  simp only [processInitializeHookWhitelist, Outcome.bind_eq_ok] at h
  obtain ⟨⟨whitelistAccountInfo, payerInfo, systemProgramInfo⟩, -, -, -, -, -, -, -, w₁, hcreate,
    h⟩ := h
  cases hd : (w₁.accounts whitelistAccountInfo.key).data <;> rw [hd] at h <;>
    simp only [Outcome.panic_ne_ok] at h
  rcases Outcome.ite_eq_ok.mp h with ⟨-, hwrite⟩ | ⟨-, hpanic⟩
  · exact ⟨w₁, .single ⟨rfl, .inr rfl⟩ hcreate, World.writeData_inner hwrite⟩
  · cases hpanic

theorem processInitializeExtraAccountMetaList_callsForSetup {metas : List ExtraAccountMeta}
    (h : processInitializeExtraAccountMetaList env programId accounts metas w = .ok w') :
    CallsForSetup env w w' := by
  simp only [processInitializeExtraAccountMetaList, Outcome.bind_eq_ok] at h
  obtain ⟨⟨extraAccountMetaList, mint, authority, systemProgram⟩, -, -, -, -, -, space, -, w₁,
    hcreate, hinit⟩ := h
  exact ⟨w', (Calls.single (P := SetupSigned) ⟨rfl, .inl rfl⟩ hcreate).tail
    ⟨_, ⟨rfl, .inl rfl⟩, hinit⟩, rfl⟩

theorem optionalSetupCall_signed {mintAccount : AccountInfo} {infos : List AccountInfo}
    {step : Option MintSetup} (h : optionalSetupCall env mintAccount infos step w = .ok w') :
    Calls env SetupSigned w w' := by
  cases step with
  | none =>
    cases h
    exact .refl
  | some step => exact .single ⟨rfl, .inl rfl⟩ h

theorem processCreateToken2022Mint_callsForSetup {instruction : CreateToken2022MintInstruction}
    (h : processCreateToken2022Mint env accounts instruction w = .ok w') :
    CallsForSetup env w w' := by
  simp only [processCreateToken2022Mint, Outcome.bind_eq_ok] at h
  obtain ⟨⟨mintAccount, mintAuthority, payer, systemProgram, tokenProgram2022⟩, -, -, -, -, -, -, -,
    space, -, w₁, hcreate, w₂, hpointer, w₃, hhook, w₄, hmint, hmetadata⟩ := h
  have hbefore : Calls env SetupSigned w w₃ :=
    ((Calls.single (P := SetupSigned) ⟨rfl, .inl rfl⟩ hcreate).trans
      (optionalSetupCall_signed hpointer)).trans (optionalSetupCall_signed hhook)
  exact ⟨w', (hbefore.tail ⟨_, ⟨rfl, .inl rfl⟩, hmint⟩).trans (optionalSetupCall_signed hmetadata),
    rfl⟩

end Setup

/-- A call that the instruction `i` makes in `w`: for the set-up of an account or a mint, or for a
    pool that it finds there. -/
inductive SignedCall (programId : Pubkey) (accounts : List AccountInfo) (i : AmmInstruction)
    (w : World) (c : Cpi) : Prop where
  | setup (h : SetupSigned c)
  | pool {key : Pubkey} {amm : AmmInfo} (hstored : w.accounts key = ⟨programId, .amm amm⟩)
      (h : PoolCall amm (Exchanges accounts amm i) c)

section Instructions

variable {env : Env} {programId : Pubkey} {accounts : List AccountInfo} {i : AmmInstruction}
  {w w' : World}

theorem CallsForSetup.signed (h : CallsForSetup env w w') :
    ∃ new, w'.inner = w.inner ++ new ∧ ∀ e ∈ new, SignedCall programId accounts i w e.cpi := by
  obtain ⟨w₁, hcalls, hw'⟩ := h
  obtain ⟨new, hnew, hall⟩ := hcalls.trace
  exact ⟨new, hw'.trans hnew, fun e he => .setup (hall e he).1⟩

theorem CallsForPool.signed (h : CallsForPool env programId accounts i w w') :
    ∃ new, w'.inner = w.inner ++ new ∧ ∀ e ∈ new, SignedCall programId accounts i w e.cpi := by
  obtain ⟨key, amm, w₀, w₁, hstored, hw₀, hcalls, hw'⟩ := h
  obtain ⟨new, hnew, hall⟩ := hcalls.trace
  rw [hw₀] at hnew
  exact ⟨new, hw'.trans hnew, fun e he => .pool hstored (hall e he).1⟩

theorem processInstruction_signed (h : processInstruction env programId accounts i w = .ok w') :
    ∃ new, w'.inner = w.inner ++ new ∧ ∀ e ∈ new, SignedCall programId accounts i w e.cpi := by
  cases i with
  | preInitialize nonce => cases h
  | initialize1 nonce openTime => cases h
  | initialize2 init2 => exact absurd h processInitialize2_ne_ok
  | monitorStep monitor => exact (processMonitorStep_callsForPool h).signed
  | deposit deposit => exact (processDeposit_callsForPool h).signed
  | withdraw withdraw => exact (processWithdraw_callsForPool h).signed
  | migrateToOpenBook => exact (processMigrateToOpenbook_callsForPool h).signed
  | setParams setparams => exact (processSetParams_callsForSetup h).signed
  | withdrawPnl => exact (processWithdrawPnl_callsForPool h).signed
  | withdrawSrm withdrawsrm => exact (processWithdrawSrm_callsForPool h).signed
  | swapBaseIn swap => exact (processSwapBaseIn_callsForPool h).signed
  | swapBaseOut swap => exact (processSwapBaseOut_callsForPool h).signed
  | simulateInfo simulate =>
    rw [processSimulateInfo_eq_ok h]
    exact ⟨[], (List.append_nil _).symm, by simp⟩
  | adminCancelOrders cancel => exact (processAdminCancelOrders_callsForPool h).signed
  | createConfigAccount => exact (processCreateConfig_callsForSetup h).signed
  | updateConfigAccount configArgs =>
    have hsetup : CallsForSetup env w w' := processUpdateConfig_callsForSetup h
    exact hsetup.signed
  | createToken2022Mint createMint => exact (processCreateToken2022Mint_callsForSetup h).signed
  | updateHookWhitelist updateWhitelist =>
    exact (processUpdateHookWhitelist_callsForSetup h).signed
  | initializeExtraAccountMetaList initMeta =>
    exact (processInitializeExtraAccountMetaList_callsForSetup h).signed
  | initializeHookWhitelist authority =>
    exact (processInitializeHookWhitelist_callsForSetup h).signed
  | updateWhitelistAuthority newAuthority =>
    exact (processUpdateWhitelistAuthority_callsForSetup h).signed

theorem SignedCall.not_hook {c : Cpi} (h : SignedCall programId accounts i w c) :
    c.ix.isHook = false := by
  cases h with
  | setup h =>
    have hsetup := h.1
    cases hix : c.ix <;> rw [hix] at hsetup <;> first | rfl | cases hsetup
  | pool hstored h =>
    cases h with
    | user hseeds hprogram hhook => exact hhook
    | token hseeds hprogram hhook => exact hhook
    | exchange hseeds hprogram hexchange =>
      cases hix : c.ix <;> rw [hix] at hexchange <;> first | rfl | cases hexchange

/-- With the seeds of a pool's authority go calls to the token program and to an exchange. -/
theorem SignedCall.receiver {c : Cpi} {nonce : U8} (h : SignedCall programId accounts i w c)
    (hseeds : c.seeds = [[AUTHORITY_AMM, [nonce]]]) :
    ∃ key amm, w.accounts key = ⟨programId, .amm amm⟩ ∧ amm.nonceU8 = nonce ∧
      (c.ix.program = splTokenId ∨
        (c.ix.isExchange = true ∧ Exchanges accounts amm i c.ix.program)) := by
  cases h with
  | setup h =>
    rcases h.2 with h | h <;> rw [hseeds] at h <;> cases h
  | @pool key amm hstored h =>
    have hnonce : c.seeds = amm.seeds → amm.nonceU8 = nonce := by
      intro h
      rw [hseeds, AmmInfo.seeds] at h
      cases h
      rfl
    cases h with
    | user h =>
      rw [hseeds] at h
      cases h
    | token h hprogram => exact ⟨key, amm, hstored, hnonce h, .inl hprogram⟩
    | exchange h hprogram hexchange =>
      exact ⟨key, amm, hstored, hnonce h, .inr ⟨hexchange, hprogram⟩⟩

theorem Executes.signed {c : InstructionCall} (h : Executes env programId w c w') :
    ∃ new, w'.inner = w.inner ++ new ∧
      ∀ e ∈ new, SignedCall programId c.accounts c.instruction w e.cpi := by
  unfold Executes at h
  split at h
  next w₁ hrun =>
    subst h
    obtain ⟨new, hnew, hall⟩ := processInstruction_signed hrun
    refine ⟨new, hnew, fun e he => ?_⟩
    cases hall e he with
    | setup h => exact .setup h
    | pool hstored h => exact .pool hstored h
  next =>
    subst h
    exact ⟨[], (List.append_nil _).symm, by simp⟩

end Instructions

/-- Over every run no transfer hook is called, and the signature of a pool's authority goes to the
    SPL token program or, to cancel and to settle, to a program that the instruction takes for the
    exchange of that pool. -/
theorem pool_signature_is_contained {env : Env} {programId : Pubkey} {w w' : World}
    {calls : List InstructionCall} (hrun : Runs.Run (Executes env programId) w calls w') :
    ∃ new, w'.inner = w.inner ++ new ∧ ∀ e ∈ new, e.cpi.ix.isHook = false ∧
      ∀ nonce, e.cpi.seeds = [[AUTHORITY_AMM, [nonce]]] →
        ∃ before c after w₁ key amm, calls = before ++ c :: after ∧
          Runs.Run (Executes env programId) w before w₁ ∧
          w₁.accounts key = ⟨programId, .amm amm⟩ ∧ amm.nonceU8 = nonce ∧
          (e.cpi.ix.program = splTokenId ∨ (e.cpi.ix.isExchange = true ∧
            Exchanges c.accounts amm c.instruction e.cpi.ix.program)) := by
  obtain ⟨new, hnew, hall⟩ := hrun.log World.inner
    (Q := fun w c e => SignedCall programId c.accounts c.instruction w e.cpi)
    fun _ _ _ hstep => hstep.signed
  refine ⟨new, hnew, fun e he => ?_⟩
  obtain ⟨before, c, after, w₁, hcalls, hbefore, hsigned⟩ := hall e he
  refine ⟨hsigned.not_hook, fun nonce hseeds => ?_⟩
  obtain ⟨key, amm, hstored, hnonce, hreceiver⟩ := hsigned.receiver hseeds
  exact ⟨before, c, after, w₁, key, amm, hcalls, hbefore, hstored, hnonce, hreceiver⟩

open Reference in
/-- One swap of a trader on a new pool. -/
theorem pool_signature_is_contained_trader_swap :
    ∃ new, tradedWorld.inner = openingWorld.inner ++ new ∧ ∀ e ∈ new, e.cpi.ix.isHook = false ∧
      ∀ nonce, e.cpi.seeds = [[AUTHORITY_AMM, [nonce]]] →
        ∃ before c after w₁ key amm, [traderSwap 2000] = before ++ c :: after ∧
          Runs.Run (Executes env program) openingWorld before w₁ ∧
          w₁.accounts key = ⟨program, .amm amm⟩ ∧ amm.nonceU8 = nonce ∧
          (e.cpi.ix.program = splTokenId ∨ (e.cpi.ix.isExchange = true ∧
            Exchanges c.accounts amm c.instruction e.cpi.ix.program)) :=
  pool_signature_is_contained (.single executes_traderSwap)

/-! ## 4. The market program of a monitor step -/

section MonitorStep

variable {env : Env} {programId : Pubkey} {a : CancelInfos} {p : AccountInfo} {nonce : U8}
  {w₁ w₁' w₂ : World}

/-- A call that the program `p` gets together with the account and the seeds of an authority. -/
structure SignedFor (p authority : AccountInfo) (seeds : List (List (List U8))) (c : Cpi) :
    Prop where
  program : c.ix.program = p.key
  listed : authority ∈ c.infos
  seeds : c.seeds = seeds

/-- The cancel call of these accounts. -/
def CancelInfos.cancelCall (a : CancelInfos) (nonce : U8) (clientOrderIds : List U64) : Cpi where
  ix := .cancelOrders ⟨a.marketProgramInfo.key, a.marketInfo.key, a.marketBidsInfo.key,
    a.marketAsksInfo.key, a.ammOpenOrdersInfo.key, a.ammAuthorityInfo.key, a.marketEventQInfo.key,
    clientOrderIds⟩
  infos := [a.marketProgramInfo, a.marketInfo, a.marketBidsInfo, a.marketAsksInfo,
    a.ammOpenOrdersInfo, a.ammAuthorityInfo, a.marketEventQInfo]
  seeds := [[AUTHORITY_AMM, [nonce]]]

/-- The settle call of these accounts. -/
def CancelInfos.settleCall (a : CancelInfos) (marketCoinVaultInfo marketPcVaultInfo ammCoinVaultInfo
    ammPcVaultInfo marketVaultSigner tokenProgramInfo : AccountInfo) (nonce : U8) : Cpi where
  ix := .settleFunds (settleIx a.marketProgramInfo a.marketInfo a.ammOpenOrdersInfo
    a.ammAuthorityInfo marketCoinVaultInfo marketPcVaultInfo ammCoinVaultInfo ammPcVaultInfo
    marketVaultSigner tokenProgramInfo none)
  infos := [a.marketProgramInfo, a.marketInfo, a.ammOpenOrdersInfo, a.ammAuthorityInfo,
    marketCoinVaultInfo, marketPcVaultInfo, ammCoinVaultInfo, ammPcVaultInfo, marketVaultSigner,
    tokenProgramInfo]
  seeds := [[AUTHORITY_AMM, [nonce]]]

/-- A call that went through goes through to every program that accepts it. -/
theorem World.invoke_redirect {c d : Cpi} (hborrowed : w₂.borrowed = w₁.borrowed)
    (hfree : p.key ∉ w₁.borrowed) (haccept : ∀ acc, ∃ acc', env.invoke d acc = .ok acc')
    (hinfos : ∀ info ∈ d.infos, info = p ∨ info ∈ c.infos) (h : w₁.invoke env c = .ok w₁') :
    ∃ w₂', w₂.invoke env d = .ok w₂' ∧ w₂'.borrowed = w₁'.borrowed := by
  obtain ⟨hclear, _, -, rfl⟩ := World.invoke_eq_ok.mp h
  obtain ⟨acc', hacc'⟩ := haccept w₂.accounts
  have hclear' : ∀ info ∈ d.infos, info.key ∉ w₂.borrowed := by
    intro info hinfo
    rw [hborrowed]
    rcases hinfos info hinfo with rfl | hlisted
    · exact hfree
    · exact hclear info hlisted
  exact ⟨_, World.invoke_eq_ok.mpr ⟨hclear', acc', hacc', rfl⟩, hborrowed⟩

theorem cancelBatches_redirect
    (haccept : ∀ c acc, c.ix.program = p.key → ∃ acc', env.invoke c acc = .ok acc')
    {batches : List (List U64)} (hborrowed : w₂.borrowed = w₁.borrowed)
    (hfree : p.key ∉ w₁.borrowed) (h : cancelBatches env a nonce batches w₁ = .ok w₁') :
    ∃ w₂', cancelBatches env { a with marketProgramInfo := p } nonce batches w₂ = .ok w₂' ∧
      w₂'.borrowed = w₁'.borrowed ∧ w₁'.borrowed = w₁.borrowed ∧
      Calls env (SignedFor p a.ammAuthorityInfo [[AUTHORITY_AMM, [nonce]]]) w₂ w₂' := by
  induction batches generalizing w₁ w₂ with
  | nil =>
    cases h
    exact ⟨w₂, rfl, hborrowed, rfl, .refl⟩
  | cons ids rest ih =>
    simp only [cancelBatches, List.foldlM_cons, Outcome.bind_eq_ok] at h
    obtain ⟨v₁, hfirst, hrest⟩ := h
    have hkeeps : v₁.borrowed = w₁.borrowed := (World.frame_of_invoke hfirst).2.1
    obtain ⟨v₂, hfirst', hsame⟩ := World.invoke_redirect
      (d := CancelInfos.cancelCall { a with marketProgramInfo := p } nonce ids) hborrowed hfree
      (fun acc => haccept _ acc rfl) (by simp +contextual [CancelInfos.cancelCall]) hfirst
    obtain ⟨w₂', hrest', hend, hkept, hcalls⟩ := ih hsame (hkeeps ▸ hfree) hrest
    refine ⟨w₂', ?_, hend, hkept.trans hkeeps, .head ⟨_, ⟨rfl, ?_, rfl⟩, hfirst'⟩ hcalls⟩
    · simp only [cancelBatches, List.foldlM_cons, Outcome.bind_eq_ok]
      exact ⟨v₂, hfirst', hrest'⟩
    · simp [CancelInfos.cancelCall]

theorem cancelAmmOrdersAndSettle_redirect
    (haccept : ∀ c acc, c.ix.program = p.key → ∃ acc', env.invoke c acc = .ok acc')
    {marketCoinVaultInfo marketPcVaultInfo ammCoinVaultInfo ammPcVaultInfo marketVaultSigner
      tokenProgramInfo : AccountInfo} {bids asks : List LeafNode} (hfree : p.key ∉ w₁.borrowed)
    (h : cancelAmmOrdersAndSettle env a marketCoinVaultInfo marketPcVaultInfo ammCoinVaultInfo
      ammPcVaultInfo marketVaultSigner tokenProgramInfo none bids asks nonce w₁ = .ok w₁') :
    ∃ w₂', cancelAmmOrdersAndSettle env { a with marketProgramInfo := p } marketCoinVaultInfo
        marketPcVaultInfo ammCoinVaultInfo ammPcVaultInfo marketVaultSigner tokenProgramInfo none
        bids asks nonce w₁ = .ok w₂' ∧
      ∃ new, new ≠ [] ∧ w₂'.inner = w₁.inner ++ new ∧
        ∀ e ∈ new, SignedFor p a.ammAuthorityInfo [[AUTHORITY_AMM, [nonce]]] e.cpi := by
  simp only [cancelAmmOrdersAndSettle, Outcome.bind_eq_ok] at h ⊢
  obtain ⟨batches, hbatches, v₁, hcancel, hsettle⟩ := h
  obtain ⟨v₂, hcancel', hsame, hkept, hcalls⟩ :=
    cancelBatches_redirect haccept (Eq.refl w₁.borrowed) hfree hcancel
  obtain ⟨w₂', hsettle', -⟩ := World.invoke_redirect
    (d := CancelInfos.settleCall { a with marketProgramInfo := p } marketCoinVaultInfo
      marketPcVaultInfo ammCoinVaultInfo ammPcVaultInfo marketVaultSigner tokenProgramInfo nonce)
    hsame (hkept ▸ hfree) (fun acc => haccept _ acc rfl)
    (by simp +contextual [CancelInfos.settleCall]) hsettle
  refine ⟨w₂', ⟨batches, hbatches, v₂, hcancel', hsettle'⟩, ?_⟩
  obtain ⟨new, hnew, hall⟩ := hcalls.trace
  have hlast := (World.frame_of_invoke hsettle').2.2
  rw [hnew, List.append_assoc] at hlast
  refine ⟨_, by simp, hlast, ?_⟩
  intro e he
  rcases List.mem_append.mp he with he | he
  · exact (hall e he).1
  · obtain rfl := List.mem_singleton.mp he
    exact ⟨rfl, by simp [CancelInfos.settleCall], rfl⟩

/-- The seventh account of a monitor step is its market program. -/
theorem bindMonitor_set {accounts : List AccountInfo} {a : MonitorAccounts}
    (h : bindMonitor accounts = .ok a) :
    bindMonitor (accounts.set 6 p) = .ok { a with marketProgramInfo := p } := by
  simp only [bindMonitor, Binder.bindAll_eq_ok, Binder.next_bind_eq_ok] at h
  obtain ⟨_, x₀, _, rfl, x₁, _, rfl, x₂, _, rfl, x₃, _, rfl, x₄, _, rfl, x₅, _, rfl, x₆, _, rfl, _,
    _, rfl, _, _, rfl, _, _, rfl, _, _, rfl, _, _, rfl, _, _, rfl, _, _, rfl, _, _, rfl, _, _, rfl,
    hret⟩ := h
  cases hret
  rfl

end MonitorStep

/-- A monitor step is for the pool of its authority. -/
theorem monitorPrologue_authority {env : Env} {programId : Pubkey} {a : MonitorAccounts}
    {w w' : World} {c : MonitorContext} (h : monitorPrologue env programId a w = .ok (c, w')) :
    authorityId env programId AUTHORITY_AMM c.amm.nonceU8 = .ok a.ammAuthorityInfo.key := by
  simp only [monitorPrologue, Outcome.bind_eq_ok, check_eq_ok] at h
  obtain ⟨-, -, ⟨amm, w₁⟩, -, authority, hauthority, -, hkey, -, -, -, -, -, -, -, -,
    ⟨marketState, openOrders⟩, -, ⟨bids, asks⟩, -, ⟨t, w₂⟩, -, coinVault, -, pcVault, -,
    ⟨totalPc, totalCoin⟩, -, hret⟩ := h
  cases hret
  rw [hkey]
  exact hauthority

/-- A monitor step that makes a call makes it to whatever program its caller lists as the market
    program: with another program there that accepts its calls the step succeeds too, and every
    call goes to that program with the authority of the pool as a signer. -/
theorem monitor_step_signs_for_the_listed_program {env : Env} {programId : Pubkey}
    {accounts : List AccountInfo} {monitor : MonitorStepInstruction} {a : MonitorAccounts}
    {amm : AmmInfo} {p : AccountInfo} {w w' : World} (hbind : bindMonitor accounts = .ok a)
    (hstored : (w.accounts a.ammInfo.key).data = .amm amm)
    (hrun : processMonitorStep env programId accounts monitor w = .ok w')
    (hcalled : w'.inner ≠ w.inner)
    (hfree : p.key ∉ a.ammTargetOrdersInfo.key :: a.ammInfo.key :: w.borrowed)
    (haccept : ∀ c acc, c.ix.program = p.key → ∃ acc', env.invoke c acc = .ok acc') :
    ∃ w'', processMonitorStep env programId (accounts.set 6 p) monitor w = .ok w'' ∧
      authorityId env programId AUTHORITY_AMM amm.nonceU8 = .ok a.ammAuthorityInfo.key ∧
      ∃ new, new ≠ [] ∧ w''.inner = w.inner ++ new ∧
        ∀ e ∈ new, SignedFor p a.ammAuthorityInfo amm.seeds e.cpi := by
  simp only [processMonitorStep, hbind, bindMonitor_set hbind, Outcome.ok_bind] at hrun ⊢
  simp only [monitorBody, Outcome.bind_eq_ok, Outcome.pure_eq_ok] at hrun
  obtain ⟨⟨c, w₀⟩, hpro, w₁, hcancel, rfl⟩ := hrun
  have hauthority := monitorPrologue_authority hpro
  -- no check of the prologue reads the market program
  have hpro' : monitorPrologue env programId { a with marketProgramInfo := p } w = .ok (c, w₀) := hpro
  obtain ⟨hc, rfl⟩ := monitorPrologue_eq_ok hpro
  have hamm : c.amm = amm := by
    have h := hc.stored.symm.trans hstored
    cases h
    rfl
  subst hamm
  unfold monitorCancel at hcancel
  rcases Outcome.ite_eq_ok.mp hcancel with ⟨horders, hcancel⟩ | ⟨-, hcancel⟩
  · obtain ⟨w₂, hcancel', new, hne, hinner, hall⟩ :=
      cancelAmmOrdersAndSettle_redirect haccept hfree hcancel
    have hcancel'' : monitorCancel env { a with marketProgramInfo := p } c _ = .ok w₂ :=
      (if_pos horders).trans hcancel'
    obtain ⟨w'', hrun', hsame⟩ : ∃ w'',
        monitorBody env programId { a with marketProgramInfo := p } w = .ok w'' ∧
          w''.inner = w₂.inner := by
      simp only [monitorBody, Outcome.bind_eq_ok, Outcome.pure_eq_ok]
      exact ⟨_, ⟨_, hpro', w₂, hcancel'', rfl⟩, rfl⟩
    exact ⟨w'', hrun', hauthority, new, hne, hsame.trans hinner, hall⟩
  · cases hcancel
    exact absurd rfl hcalled

namespace Reference

/-- This runtime with one more program, which accepts every call and does nothing. -/
def envWith (idle : Pubkey) : Env :=
  { env with
    invoke := fun c acc => if c.ix.program = idle then .ok acc else env.invoke c acc }

/-- The pool with the order book on and one bid on the book. -/
def orderWorld : World :=
  world ((12, ⟨program, .targetOrders baseline⟩) ::
    poolTable (pool .initialized 1000) 1000000 5000000 ++
      exchangeTable { openOrders 0 0 (BitVec.allOnes 128 - 1) with orders := fun _ => 7 }
        [(7, ⟨3, 9, by decide⟩)])

end Reference

open Reference in
/-- A program that is not the market program of the pool. -/
theorem monitor_step_signs_for_the_listed_program_idle :
    ∃ w'', processMonitorStep (envWith (key 66)) program (monitorInfos.set 6 (readonly 66))
        ⟨0, 0, 0⟩ orderWorld = .ok w'' ∧
      authorityId (envWith (key 66)) program AUTHORITY_AMM 0 = .ok authority ∧
      ∃ new, new ≠ [] ∧ w''.inner = orderWorld.inner ++ new ∧
        ∀ e ∈ new, SignedFor (readonly 66) authorityInfo [[AUTHORITY_AMM, [0]]] e.cpi := by
  have hbind : bindMonitor monitorInfos = .ok _ := rfl
  have hstored : (orderWorld.accounts (key 10)).data = .amm (pool .initialized 1000) := rfl
  have hrun := eq_ok_result (r := processMonitorStep (envWith (key 66)) program monitorInfos
    ⟨0, 0, 0⟩ orderWorld) (by decide)
  have hsigned := monitor_step_signs_for_the_listed_program (p := readonly 66) hbind hstored hrun
    (fun h => absurd (congrArg List.length h) (by decide)) (by decide)
    fun c acc hc => ⟨acc, if_pos hc⟩
  exact hsigned

end RaydiumAmm
