import RaydiumAmm.Records

/-!
# The privileged operations

Who can withdraw the profit, withdraw an SRM account or migrate a pool. The handlers check that
somebody signed and never compare him with the owner that is stored.

1. `GoThrough`: a list of calls that goes through, and the calls of the handlers as such lists.
2. `WithdrawPnlAdmits`, `WithdrawSrmAdmits`, `MigrateAdmits`: all that the handlers ask for.
3. `privileged_signed_iff`: a success is signed by the owner exactly where the request is, or where
   the handler refuses it; and the same over runs.
-/

namespace RaydiumAmm

/-! ## 1. Calls -/

/-- The calls in order. -/
def invokeAll (env : Env) (calls : List Cpi) (w : World) : Result World :=
  calls.foldlM (fun w c => w.invoke env c) w

/-- Every call goes through in its turn, and none is handed a borrowed account. -/
def GoThrough (env : Env) (borrowed : List Pubkey) : List Cpi → Accounts → Prop
  | [], _ => True
  | c :: rest, acc =>
    (∀ info ∈ c.infos, info.key ∉ borrowed) ∧
      ∃ acc', env.invoke c acc = .ok acc' ∧ GoThrough env borrowed rest acc'

section Calls

variable {env : Env} {programId : Pubkey} {w : World}

theorem invokeAll_cons (c : Cpi) (rest : List Cpi) (w : World) :
    invokeAll env (c :: rest) w = (do
      let w ← w.invoke env c
      invokeAll env rest w) := by
  unfold invokeAll
  rw [List.foldlM_cons]

theorem invokeAll_append (calls rest : List Cpi) (w : World) :
    invokeAll env (calls ++ rest) w = (do
      let w ← invokeAll env calls w
      invokeAll env rest w) := by
  unfold invokeAll
  rw [List.foldlM_append]

theorem invokeAll_isOk_iff (calls : List Cpi) (w : World) :
    (∃ w', invokeAll env calls w = .ok w') ↔ GoThrough env w.borrowed calls w.accounts := by
  induction calls generalizing w with
  | nil => exact iff_of_true ⟨w, rfl⟩ trivial
  | cons c rest ih =>
    simp only [invokeAll_cons, Outcome.bind_eq_ok, World.invoke_eq_ok, GoThrough]
    constructor
    · rintro ⟨w', _, ⟨hfree, acc, hinvoke, rfl⟩, hrest⟩
      exact ⟨hfree, acc, hinvoke, (ih _).mp ⟨w', hrest⟩⟩
    · rintro ⟨hfree, acc, hinvoke, hrest⟩
      obtain ⟨w', hw'⟩ := (ih { w with
        accounts := acc
        inner := w.inner ++ [⟨c, w.accounts, acc⟩] }).mpr hrest
      exact ⟨w', _, ⟨hfree, acc, hinvoke, rfl⟩, hw'⟩

/-- The payment of one side of the profit: one call, or none. -/
def payPnlCalls (a : WithdrawPnlAccounts) (amm : AmmInfo) (vaultInfo destInfo : AccountInfo)
    (pnl : U64) : List Cpi :=
  if pnl > 0 then
    [transferCpi a.tokenProgramInfo vaultInfo destInfo a.ammAuthorityInfo
      [[AUTHORITY_AMM, [amm.nonceU8]]] pnl]
  else []

theorem payPnl_eq {a : WithdrawPnlAccounts} (programId : Pubkey) (amm : AmmInfo)
    (vaultInfo destInfo : AccountInfo) (pnl : U64)
    (hspl : a.tokenProgramInfo.key = splTokenId) (w : World) :
    payPnl env programId a amm vaultInfo destInfo pnl w =
      invokeAll env (payPnlCalls a amm vaultInfo destInfo pnl) w := by
  unfold payPnl payPnlCalls
  split
  · rw [tokenTransferWithAuthority, tokenTransferSigned_spl hspl, invokeAll_cons]
    exact (bind_pure _).symm
  · rfl

/-- The cancel call of one batch of orders. -/
def cancelCpi (a : OrdersAccounts) (nonce : U8) (clientOrderIds : List U64) : Cpi where
  ix := .cancelOrders {
    dexProgram := a.marketProgramInfo.key
    market := a.marketInfo.key
    bids := a.marketBidsInfo.key
    asks := a.marketAsksInfo.key
    openOrders := a.ammOpenOrdersInfo.key
    owner := a.ammAuthorityInfo.key
    eventQ := a.marketEventQueueInfo.key
    clientOrderIds := clientOrderIds
  }
  infos := [a.marketProgramInfo, a.marketInfo, a.marketBidsInfo, a.marketAsksInfo,
    a.ammOpenOrdersInfo, a.ammAuthorityInfo, a.marketEventQueueInfo]
  seeds := [[AUTHORITY_AMM, [nonce]]]

/-- The settle call at the end. -/
def ordersSettleCpi (a : OrdersAccounts) (nonce : U8) : Cpi where
  ix := .settleFunds (ordersSettleIx a)
  infos := [a.marketProgramInfo, a.marketInfo, a.ammOpenOrdersInfo, a.ammAuthorityInfo,
    a.marketCoinVaultInfo, a.marketPcVaultInfo, a.marketCoinVaultInfo, a.marketPcVaultInfo,
    a.marketVaultSigner, a.tokenProgramInfo]
  seeds := [[AUTHORITY_AMM, [nonce]]]

theorem cancelBatches_eq (a : OrdersAccounts) (nonce : U8) (batches : List (List U64))
    (w : World) :
    cancelBatches env a.cancelInfos nonce batches w =
      invokeAll env (batches.map (cancelCpi a nonce)) w := by
  induction batches generalizing w with
  | nil => rfl
  | cons ids rest ih =>
    rw [List.map_cons, invokeAll_cons]
    unfold cancelBatches at ih ⊢
    rw [List.foldlM_cons]
    exact bind_congr fun w => ih w

end Calls

/-! ## 2. The checks of the handlers -/

/-- The checks that the three handlers share. The signer is not compared with the pool. -/
structure SignerAdmits (env : Env) (programId : Pubkey) (acc : Accounts)
    (ammInfo ammAuthorityInfo tokenProgramInfo userWalletInfo : AccountInfo) (amm : AmmInfo) :
    Prop where
  isSigner : userWalletInfo.isSigner = true
  stored : acc ammInfo.key = ⟨programId, .amm amm⟩
  status : amm.status ≠ AmmStatus.uninitialized.intoU64
  authority : env.createProgramAddress [AUTHORITY_AMM, [amm.nonceU8]] programId =
    some ammAuthorityInfo.key
  tokenProgram : tokenProgramInfo.key = splTokenId

/-- A plain SPL token account. -/
structure HoldsToken (acc : Accounts) (info : AccountInfo) (t : TokenAccount) : Prop where
  stored : acc info.key = ⟨splTokenId, .token t⟩
  plain : t.transferring = none

/-- All that `process_withdrawpnl` asks for. -/
structure WithdrawPnlAdmits (env : Env) (programId : Pubkey) (acc : Accounts)
    (a : WithdrawPnlAccounts) (amm : AmmInfo) (coin pc destCoin destPc : TokenAccount) : Prop where
  signer : SignerAdmits env programId acc a.ammInfo a.ammAuthorityInfo a.tokenProgramInfo
    a.userWalletInfo amm
  coinVault : a.ammCoinVaultInfo.key = amm.coinVault
  pcVault : a.ammPcVaultInfo.key = amm.pcVault
  coinAccount : HoldsToken acc a.ammCoinVaultInfo coin
  pcAccount : HoldsToken acc a.ammPcVaultInfo pc
  destCoinAccount : HoldsToken acc a.userDestCoinInfo destCoin
  destPcAccount : HoldsToken acc a.userDestPcInfo destPc
  coinHolder : destCoin.owner = a.userWalletInfo.key
  pcHolder : destPc.owner = a.userWalletInfo.key
  coinMint : destCoin.mint = coin.mint
  pcMint : destPc.mint = pc.mint
  some_pnl : ¬(amm.stateData.totalPnlCoin = 0 ∧ amm.stateData.totalPnlPc = 0)
  payments : GoThrough env [a.ammInfo.key]
    (payPnlCalls a amm a.ammCoinVaultInfo a.userDestCoinInfo amm.stateData.totalPnlCoin ++
      payPnlCalls a amm a.ammPcVaultInfo a.userDestPcInfo amm.stateData.totalPnlPc) acc

/-- All that `process_withdraw_srm` asks for. -/
structure WithdrawSrmAdmits (env : Env) (programId : Pubkey) (acc : Accounts)
    (a : WithdrawSrmAccounts) (amount : U64) (amm : AmmInfo) (source dest : TokenAccount) :
    Prop where
  signer : SignerAdmits env programId acc a.ammInfo a.ammAuthorityInfo a.tokenProgramInfo
    a.userWalletInfo amm
  sourceAccount : HoldsToken acc a.ammSrmVaultInfo source
  destAccount : HoldsToken acc a.userDestSrmInfo dest
  holder : dest.owner = a.userWalletInfo.key
  mint : dest.mint = source.mint
  funded : ¬amount > source.amount
  amount_ne : amount ≠ 0
  payment : GoThrough env [a.ammInfo.key] [transferCpi a.tokenProgramInfo a.ammSrmVaultInfo
    a.userDestSrmInfo a.ammAuthorityInfo [[AUTHORITY_AMM, [amm.nonceU8]]] amount] acc

/-- All that `process_migrate_to_openbook` asks for. -/
structure MigrateAdmits (env : Env) (programId : Pubkey) (acc : Accounts) (a : OrdersAccounts)
    (amm : AmmInfo) (marketState : MarketState) (openOrders : OpenOrders) (bids asks : Slab)
    (bidBatches askBatches : List (List U64)) : Prop where
  signer : SignerAdmits env programId acc a.ammInfo a.ammAuthorityInfo a.tokenProgramInfo
    a.userWalletInfo amm
  marketProgram : a.marketProgramInfo.key = openbookMarketProgram
  marketKey : a.marketInfo.key = amm.market
  openOrdersKey : a.ammOpenOrdersInfo.key = amm.openOrders
  marketLoads : env.loadMarket a.marketInfo.key (acc a.marketInfo.key) amm.marketProgram false =
    .ok marketState
  ordersLoad : env.loadOpenOrders a.ammOpenOrdersInfo.key (acc a.ammOpenOrdersInfo.key)
    a.marketInfo.key a.ammAuthorityInfo.key amm.marketProgram = .ok openOrders
  ordersMarket : openOrders.market = a.marketInfo.key
  ordersOwner : openOrders.owner = a.ammAuthorityInfo.key
  bidsLoad : env.loadBids marketState a.marketBidsInfo.key (acc a.marketBidsInfo.key) = .ok bids
  asksLoad : env.loadAsks marketState a.marketAsksInfo.key (acc a.marketAsksInfo.key) = .ok asks
  bidsBatched : oneSidedBatches (getAmmOrders openOrders bids asks).1 = .ok bidBatches
  asksBatched : oneSidedBatches (getAmmOrders openOrders bids asks).2 = .ok askBatches
  calls : GoThrough env [a.ammInfo.key]
    ((bidBatches ++ askBatches).map (cancelCpi a amm.nonceU8) ++ [ordersSettleCpi a amm.nonceU8])
    acc

section Admits

variable {env : Env} {programId : Pubkey} {w w' : World}

/-- A token account is not the account of the pool record, so the borrow does not reach it. -/
theorem HoldsToken.free {info ammInfo : AccountInfo} {t : TokenAccount} {amm : AmmInfo}
    (h : HoldsToken w.accounts info t) (hamm : w.accounts ammInfo.key = ⟨programId, .amm amm⟩)
    (hfree : w.borrowed = []) : info.key ∉ ammInfo.key :: w.borrowed := by
  rw [hfree, List.mem_singleton]
  intro heq
  have hstored := h.stored
  rw [heq, hamm] at hstored
  cases hstored

theorem withdrawPnlBody_isOk_iff {a : WithdrawPnlAccounts} (hfree : w.borrowed = []) :
    (∃ w', withdrawPnlBody env programId a w = .ok w') ↔
      ∃ amm coin pc destCoin destPc,
        WithdrawPnlAdmits env programId w.accounts a amm coin pc destCoin destPc := by
  simp only [withdrawPnlBody, withdrawPnlPrologue, authorityId, ↓check_bind_eq_ok,
    Outcome.bind_eq_ok, Outcome.okOr_eq_ok, Outcome.pure_eq_ok, Prod.exists,
    AmmInfo.loadMutChecked_iff, unpackTokenAccount_iff]
  constructor
  · rintro ⟨w', amm, w₀, ⟨hsigner, amm', w₁, ⟨hstored, -, hstatus, rfl⟩, authority, hauthority,
      rfl, hspl, hcoinVault, hpcVault, coin, hcoin, pc, hpc, destCoin, hdestCoin, destPc, hdestPc,
      hcoinHolder, hpcHolder, hcoinMint, hpcMint, hret⟩, hsome, w₂, hpayCoin, w₃, hpayPc, -⟩
    cases hret
    rw [payPnl_eq programId amm _ _ _ hspl] at hpayCoin hpayPc
    have hpaid := (invokeAll_isOk_iff (payPnlCalls a amm a.ammCoinVaultInfo a.userDestCoinInfo
      amm.stateData.totalPnlCoin ++ payPnlCalls a amm a.ammPcVaultInfo a.userDestPcInfo
      amm.stateData.totalPnlPc) { w with borrowed := a.ammInfo.key :: w.borrowed }).mp
      ⟨w₃, by rw [invokeAll_append, hpayCoin]; exact hpayPc⟩
    rw [hspl] at hcoin hpc hdestCoin hdestPc
    refine ⟨amm, coin, pc, destCoin, destPc, {
      signer := ⟨hsigner, hstored, hstatus, hauthority, hspl⟩
      coinVault := hcoinVault
      pcVault := hpcVault
      coinAccount := ⟨hcoin.1, hcoin.2.2⟩
      pcAccount := ⟨hpc.1, hpc.2.2⟩
      destCoinAccount := ⟨hdestCoin.1, hdestCoin.2.2⟩
      destPcAccount := ⟨hdestPc.1, hdestPc.2.2⟩
      coinHolder := hcoinHolder
      pcHolder := hpcHolder
      coinMint := hcoinMint
      pcMint := hpcMint
      some_pnl := hsome
      payments := ?_
    }⟩
    rw [hfree] at hpaid
    exact hpaid
  · rintro ⟨amm, coin, pc, destCoin, destPc, h⟩
    have hspl := h.signer.tokenProgram
    have hstored := h.signer.stored
    obtain ⟨w₃, hpaid⟩ := (invokeAll_isOk_iff _
      { w with borrowed := a.ammInfo.key :: w.borrowed }).mpr (by rw [hfree]; exact h.payments)
    rw [invokeAll_append, Outcome.bind_eq_ok] at hpaid
    obtain ⟨w₂, hpayCoin, hpayPc⟩ := hpaid
    rw [← payPnl_eq programId amm _ _ _ hspl] at hpayCoin hpayPc
    refine ⟨_, amm, _, ⟨h.signer.isSigner, amm, _, ⟨hstored, by simp [hfree], h.signer.status,
      rfl⟩, _, h.signer.authority, rfl, hspl, h.coinVault, h.pcVault, coin, ?_, pc, ?_, destCoin,
      ?_, destPc, ?_, h.coinHolder, h.pcHolder, h.coinMint, h.pcMint, rfl⟩, h.some_pnl, w₂,
      hpayCoin, w₃, hpayPc, rfl⟩
    all_goals rw [hspl]
    · exact ⟨h.coinAccount.stored, h.coinAccount.free hstored hfree, h.coinAccount.plain⟩
    · exact ⟨h.pcAccount.stored, h.pcAccount.free hstored hfree, h.pcAccount.plain⟩
    · exact ⟨h.destCoinAccount.stored, h.destCoinAccount.free hstored hfree,
        h.destCoinAccount.plain⟩
    · exact ⟨h.destPcAccount.stored, h.destPcAccount.free hstored hfree, h.destPcAccount.plain⟩

theorem withdrawSrmBody_isOk_iff {a : WithdrawSrmAccounts} {withdrawsrm : WithdrawSrmInstruction}
    (hfree : w.borrowed = []) :
    (∃ w', withdrawSrmBody env programId a withdrawsrm w = .ok w') ↔
      ∃ amm source dest,
        WithdrawSrmAdmits env programId w.accounts a withdrawsrm.amount amm source dest := by
  unfold withdrawSrmBody authorityId
  simp only [↓check_bind_eq_ok, Outcome.bind_eq_ok, Outcome.okOr_eq_ok, Outcome.pure_eq_ok,
    Prod.exists, AmmInfo.loadMutChecked_iff, unpackTokenAccount_iff]
  constructor
  · rintro ⟨w', hsigner, amm, w₁, ⟨hstored, -, hstatus, rfl⟩, authority, hauthority, rfl, hspl,
      source, hsource, dest, hdest, hholder, hmint, hfunded, hpos, w₂, hpay, -⟩
    rw [tokenTransferWithAuthority, tokenTransferSigned_spl hspl] at hpay
    have hpaid := (invokeAll_isOk_iff [_] { w with borrowed := a.ammInfo.key :: w.borrowed }).mp
      ⟨w₂, by rw [invokeAll_cons, hpay]; rfl⟩
    rw [hspl] at hsource hdest
    refine ⟨amm, source, dest, {
      signer := ⟨hsigner, hstored, hstatus, hauthority, hspl⟩
      sourceAccount := ⟨hsource.1, hsource.2.2⟩
      destAccount := ⟨hdest.1, hdest.2.2⟩
      holder := hholder
      mint := hmint
      funded := hfunded
      amount_ne := hpos
      payment := ?_
    }⟩
    rw [hfree] at hpaid
    exact hpaid
  · rintro ⟨amm, source, dest, h⟩
    have hspl := h.signer.tokenProgram
    have hstored := h.signer.stored
    obtain ⟨w₂, hpaid⟩ := (invokeAll_isOk_iff _
      { w with borrowed := a.ammInfo.key :: w.borrowed }).mpr (by rw [hfree]; exact h.payment)
    rw [invokeAll_cons, Outcome.bind_eq_ok] at hpaid
    obtain ⟨w₁, hpay, -⟩ := hpaid
    refine ⟨_, h.signer.isSigner, amm, _, ⟨hstored, by simp [hfree], h.signer.status, rfl⟩, _,
      h.signer.authority, rfl, hspl, source, ?_, dest, ?_, h.holder, h.mint, h.funded, h.amount_ne,
      w₁, ?_, rfl⟩
    · rw [hspl]
      exact ⟨h.sourceAccount.stored, h.sourceAccount.free hstored hfree, h.sourceAccount.plain⟩
    · rw [hspl]
      exact ⟨h.destAccount.stored, h.destAccount.free hstored hfree, h.destAccount.plain⟩
    · rw [tokenTransferWithAuthority, tokenTransferSigned_spl hspl]
      exact hpay

/-- The calls of a migration, from the batches of the two sides. -/
theorem ordersCalls_isOk_iff (a : OrdersAccounts) (nonce : U8)
    (bidBatches askBatches : List (List U64)) (w : World) :
    (∃ w₁ w₂ w₃, cancelBatches env a.cancelInfos nonce bidBatches w = .ok w₁ ∧
        cancelBatches env a.cancelInfos nonce askBatches w₁ = .ok w₂ ∧
        w₂.invoke env (ordersSettleCpi a nonce) = .ok w₃) ↔
      GoThrough env w.borrowed
        ((bidBatches ++ askBatches).map (cancelCpi a nonce) ++ [ordersSettleCpi a nonce])
        w.accounts := by
  rw [← invokeAll_isOk_iff, List.map_append]
  simp only [invokeAll_append, invokeAll_cons, Outcome.bind_eq_ok, cancelBatches_eq]
  constructor
  · rintro ⟨w₁, w₂, w₃, hbids, hasks, hsettle⟩
    exact ⟨w₃, w₂, ⟨w₁, hbids, hasks⟩, w₃, hsettle, rfl⟩
  · rintro ⟨w₃, w₂, ⟨w₁, hbids, hasks⟩, w₄, hsettle, -⟩
    exact ⟨w₁, w₂, w₄, hbids, hasks, hsettle⟩

theorem migrateToOpenbookBody_isOk_iff {a : OrdersAccounts} (hfree : w.borrowed = []) :
    (∃ w', migrateToOpenbookBody env programId a w = .ok w') ↔
      ∃ amm marketState openOrders bids asks bidBatches askBatches,
        MigrateAdmits env programId w.accounts a amm marketState openOrders bids asks bidBatches
          askBatches := by
  unfold migrateToOpenbookBody cancelAndSettleOrders loadSerumMarketOrder authorityId
  simp only [loadAmmOrders, cancelSide, ↓check_bind_eq_ok, Outcome.bind_eq_ok, Outcome.okOr_eq_ok,
    Outcome.lift_eq_ok, Outcome.pure_eq_ok, Prod.exists, AmmInfo.loadMutChecked_iff]
  constructor
  · rintro ⟨w', hsigner, amm, w₀, ⟨hstored, -, hstatus, rfl⟩, authority, hauthority, rfl, hspl,
      hprogram, w₄, ⟨hmarket, hopen, marketState, openOrders, ⟨_, hload, _, horders,
      hordersMarket, hordersOwner, -, hret⟩, bids', asks', ⟨bids, hbids, asks, hasks, hret'⟩, w₁,
      ⟨bidBatches, hbidBatches, hcancelBids⟩, w₂, ⟨askBatches, haskBatches, hcancelAsks⟩,
      hsettle⟩, -⟩
    cases hret
    have hbids' : (getAmmOrders openOrders bids asks).1 = bids' := congrArg Prod.fst hret'
    have hasks' : (getAmmOrders openOrders bids asks).2 = asks' := congrArg Prod.snd hret'
    have hcalls := (ordersCalls_isOk_iff a amm.nonceU8 bidBatches askBatches _).mp
      ⟨w₁, w₂, w₄, hcancelBids, hcancelAsks, hsettle⟩
    rw [← hbids'] at hbidBatches
    rw [← hasks'] at haskBatches
    refine ⟨amm, marketState, openOrders, bids, asks, bidBatches, askBatches, {
      signer := ⟨hsigner, hstored, hstatus, hauthority, hspl⟩
      marketProgram := hprogram
      marketKey := hmarket
      openOrdersKey := hopen
      marketLoads := hload
      ordersLoad := horders
      ordersMarket := hordersMarket
      ordersOwner := hordersOwner
      bidsLoad := hbids
      asksLoad := hasks
      bidsBatched := hbidBatches
      asksBatched := haskBatches
      calls := ?_
    }⟩
    rw [hfree] at hcalls
    exact hcalls
  · rintro ⟨amm, marketState, openOrders, bids, asks, bidBatches, askBatches, h⟩
    obtain ⟨w₁, w₂, w₃, hcancelBids, hcancelAsks, hsettle⟩ :=
      (ordersCalls_isOk_iff a amm.nonceU8 bidBatches askBatches
        { w with borrowed := a.ammInfo.key :: w.borrowed }).mpr (by rw [hfree]; exact h.calls)
    exact ⟨_, h.signer.isSigner, amm, _, ⟨h.signer.stored, by simp [hfree], h.signer.status, rfl⟩,
      _, h.signer.authority, rfl, h.signer.tokenProgram, h.marketProgram, w₃, ⟨h.marketKey,
      h.openOrdersKey, marketState, openOrders, ⟨_, h.marketLoads, _, h.ordersLoad,
      h.ordersMarket, h.ordersOwner, h.openOrdersKey, rfl⟩, _, _, ⟨bids, h.bidsLoad, asks,
      h.asksLoad, rfl⟩, w₁, ⟨bidBatches, h.bidsBatched, hcancelBids⟩, w₂, ⟨askBatches,
      h.asksBatched, hcancelAsks⟩, hsettle⟩, rfl⟩

end Admits

/-! ## 3. Who signs -/

/-- The handler of a privileged instruction has nothing to refuse. -/
def Admitted (env : Env) (programId : Pubkey) (w : World) (c : InstructionCall) : Prop :=
  match c.instruction with
  | .withdrawPnl => ∃ a, bindWithdrawPnl c.accounts = .ok a ∧ ∃ amm coin pc destCoin destPc,
      WithdrawPnlAdmits env programId w.accounts a amm coin pc destCoin destPc
  | .withdrawSrm withdrawsrm => ∃ a, bindWithdrawSrm c.accounts = .ok a ∧ ∃ amm source dest,
      WithdrawSrmAdmits env programId w.accounts a withdrawsrm.amount amm source dest
  | .migrateToOpenBook => ∃ a, bindOrders c.accounts = .ok a ∧
      ∃ amm marketState openOrders bids asks bidBatches askBatches,
        MigrateAdmits env programId w.accounts a amm marketState openOrders bids asks bidBatches
          askBatches
  | _ => False

/-- The key that has to sign a privileged instruction: for a withdrawal of the profit the owner
    stored in the config account `configKey`, for the other two the owner stored in the pool, which
    is their first account. -/
inductive PrivilegedKey (programId configKey : Pubkey) (w : World) (c : InstructionCall) :
    Pubkey → Prop where
  | withdrawPnl {config : AmmConfig} : c.instruction = .withdrawPnl →
      w.accounts configKey = ⟨programId, .config config⟩ →
      PrivilegedKey programId configKey w c config.pnlOwner
  | withdrawSrm {withdrawsrm : WithdrawSrmInstruction} {k : Pubkey} {amm : AmmInfo} :
      c.instruction = .withdrawSrm withdrawsrm → Leads c.accounts k →
      w.accounts k = ⟨programId, .amm amm⟩ → PrivilegedKey programId configKey w c amm.ammOwner
  | migrateToOpenBook {k : Pubkey} {amm : AmmInfo} : c.instruction = .migrateToOpenBook →
      Leads c.accounts k → w.accounts k = ⟨programId, .amm amm⟩ →
      PrivilegedKey programId configKey w c amm.ammOwner

/-- If a privileged instruction goes through, its owner has signed it. -/
def SignedByOwner (env : Env) (programId configKey : Pubkey) (w : World) (c : InstructionCall) :
    Prop :=
  ∀ owner, PrivilegedKey programId configKey w c owner → Succeeds env programId w c →
    Signed c.accounts owner

/-- The owner has signed the request, or the handler has something to refuse in it. -/
def SignedOrRefused (env : Env) (programId configKey : Pubkey) (w : World) (c : InstructionCall) :
    Prop :=
  ∀ owner, PrivilegedKey programId configKey w c owner →
    Signed c.accounts owner ∨ ¬Admitted env programId w c

/-- No owner of a privileged instruction has signed it. -/
def SignedByOthers (programId configKey : Pubkey) (w : World) (c : InstructionCall) : Prop :=
  ∀ owner, PrivilegedKey programId configKey w c owner → ¬Signed c.accounts owner

section Signed

variable {env : Env} {programId configKey : Pubkey} {w w' : World} {c : InstructionCall}

theorem processWithdrawPnl_isOk_iff (accounts : List AccountInfo) (hfree : w.borrowed = []) :
    (∃ w', processWithdrawPnl env programId accounts w = .ok w') ↔
      ∃ a, bindWithdrawPnl accounts = .ok a ∧ ∃ amm coin pc destCoin destPc,
        WithdrawPnlAdmits env programId w.accounts a amm coin pc destCoin destPc := by
  simp only [processWithdrawPnl, Outcome.exists_bind_eq_ok, withdrawPnlBody_isOk_iff hfree]

theorem processWithdrawSrm_isOk_iff (accounts : List AccountInfo)
    (withdrawsrm : WithdrawSrmInstruction) (hfree : w.borrowed = []) :
    (∃ w', processWithdrawSrm env programId accounts withdrawsrm w = .ok w') ↔
      ∃ a, bindWithdrawSrm accounts = .ok a ∧ ∃ amm source dest,
        WithdrawSrmAdmits env programId w.accounts a withdrawsrm.amount amm source dest := by
  simp only [processWithdrawSrm, Outcome.exists_bind_eq_ok, withdrawSrmBody_isOk_iff hfree]

theorem processMigrateToOpenbook_isOk_iff (accounts : List AccountInfo) (hfree : w.borrowed = []) :
    (∃ w', processMigrateToOpenbook env programId accounts w = .ok w') ↔
      ∃ a, bindOrders accounts = .ok a ∧
        ∃ amm marketState openOrders bids asks bidBatches askBatches,
          MigrateAdmits env programId w.accounts a amm marketState openOrders bids asks bidBatches
            askBatches := by
  simp only [processMigrateToOpenbook, Outcome.exists_bind_eq_ok,
    migrateToOpenbookBody_isOk_iff hfree]

/-- A privileged instruction goes through exactly where its handler has nothing to refuse. -/
theorem succeeds_iff_admitted {owner : Pubkey}
    (hkey : PrivilegedKey programId configKey w c owner) :
    Succeeds env programId w c ↔ Admitted env programId w c := by
  cases hkey with
  | withdrawPnl hi =>
    unfold Succeeds Admitted
    rw [hi]
    exact processWithdrawPnl_isOk_iff (w := { w with clock := c.clock, borrowed := [] }) _ rfl
  | withdrawSrm hi =>
    unfold Succeeds Admitted
    rw [hi]
    exact processWithdrawSrm_isOk_iff (w := { w with clock := c.clock, borrowed := [] }) _ _ rfl
  | migrateToOpenBook hi =>
    unfold Succeeds Admitted
    rw [hi]
    exact processMigrateToOpenbook_isOk_iff (w := { w with clock := c.clock, borrowed := [] }) _ rfl

theorem signedByOwner_iff :
    SignedByOwner env programId configKey w c ↔ SignedOrRefused env programId configKey w c := by
  unfold SignedByOwner SignedOrRefused
  constructor
  · intro h owner hkey
    by_cases hadmitted : Admitted env programId w c
    · exact .inl (h owner hkey ((succeeds_iff_admitted hkey).mpr hadmitted))
    · exact .inr hadmitted
  · intro h owner hkey hsucceeds
    rcases h owner hkey with hsigned | hrefused
    · exact hsigned
    · exact absurd ((succeeds_iff_admitted hkey).mp hsucceeds) hrefused

end Signed

/-- (1) A privileged instruction that goes through is signed by its owner if and only if the owner
    signed the request or the handler has something to refuse in it. (2) It is so for every
    instruction of a run if and only if the condition holds of every instruction of the run. (3) In
    a run whose instructions are signed by other keys only, no privileged instruction goes through
    if and only if the condition holds of every instruction of the run. -/
theorem privileged_signed_iff (env : Env) (programId configKey : Pubkey) :
    (∀ w c owner, PrivilegedKey programId configKey w c owner →
      ((Succeeds env programId w c → Signed c.accounts owner) ↔
        Signed c.accounts owner ∨ ¬Admitted env programId w c)) ∧
    (∀ w calls w',
      Runs.Run (fun w c w' => Executes env programId w c w' ∧
          SignedByOwner env programId configKey w c) w calls w' ↔
        Runs.Run (fun w c w' => Executes env programId w c w' ∧
          SignedOrRefused env programId configKey w c) w calls w') ∧
    ∀ w calls w',
      Runs.Run (fun w c w' => Executes env programId w c w' ∧
          SignedByOthers programId configKey w c ∧
          ∀ owner, PrivilegedKey programId configKey w c owner → ¬Succeeds env programId w c)
          w calls w' ↔
        Runs.Run (fun w c w' => Executes env programId w c w' ∧
          SignedByOthers programId configKey w c ∧ SignedOrRefused env programId configKey w c)
          w calls w' := by
  refine ⟨fun w c owner hkey => ?_, fun w calls w' => ?_, fun w calls w' => ?_⟩
  · rw [succeeds_iff_admitted hkey, imp_iff_not_or, or_comm]
  · constructor
    · exact Runs.Run.mono fun w c w' hstep => ⟨hstep.1, signedByOwner_iff.mp hstep.2⟩
    · exact Runs.Run.mono fun w c w' hstep => ⟨hstep.1, signedByOwner_iff.mpr hstep.2⟩
  · constructor
    · intro hrun
      refine hrun.mono ?_
      rintro w c w' ⟨hexec, hothers, hnone⟩
      refine ⟨hexec, hothers, signedByOwner_iff.mp ?_⟩
      intro owner hkey hsucceeds
      exact absurd hsucceeds (hnone owner hkey)
    · intro hrun
      refine hrun.mono ?_
      rintro w c w' ⟨hexec, hothers, hrefused⟩
      refine ⟨hexec, hothers, ?_⟩
      intro owner hkey hsucceeds
      exact hothers owner hkey (signedByOwner_iff.mpr hrefused owner hkey hsucceeds)

namespace Reference

/-- A pool with a booked profit and a config, both of an owner 99 who signs nothing here, next to
    an SRM account of the authority and one of wallet 30. -/
def strangerWorld : World :=
  world ((70, ⟨program, .config ⟨key 99, Pubkey.default, 0⟩⟩) ::
    poolTable { profitPool with ammOwner := key 99 } 1000000 5000000 ++
      [(50, tokenAccount (key 42) authority 100), (51, tokenAccount (key 42) (key 30) 0)])

/-- The withdrawal of the profit by wallet 30. -/
def withdrawPnlCall : InstructionCall := ⟨withdrawPnlInfos, .withdrawPnl, ⟨0, 0⟩⟩

/-- The withdrawal of 40 SRM by wallet 30. -/
def withdrawSrmCall : InstructionCall := ⟨srmInfos 50 51, .withdrawSrm ⟨40⟩, ⟨0, 0⟩⟩

/-- The reference runtime with OpenBook in the place of the exchange. -/
def openbookEnv : Env :=
  { env with
    invoke := fun c acc =>
      match c.ix with
      | .settleFunds s =>
        match settle acc s with
        | some acc =>
          if s.dexProgram = openbookMarketProgram then .ok acc else .error .incorrectProgramId
        | none => .error .incorrectProgramId
      | _ => env.invoke c acc }

/-- A pool of the owner 99 on an OpenBook market, without orders. -/
def openbookWorld : World :=
  world (poolTable { pool .initialized 1000 with
      ammOwner := key 99, marketProgram := openbookMarketProgram } 1000000 5000000 ++
    (exchangeTable (openOrders 10 20 (BitVec.allOnes 128)) []).map fun e =>
      (e.1, if e.2.owner = dex then ⟨openbookMarketProgram, e.2.data⟩ else e.2))

/-- The migration by wallet 30. -/
def migrateCall : InstructionCall where
  accounts := [
    writable 10, authorityInfo, writable 11, ⟨openbookMarketProgram, false, false⟩, writable 17,
    writable 18, writable 19, writable 20, writable 21, writable 22, readonly 23,
    tokenProgramInfo, signer 30]
  instruction := .migrateToOpenBook
  clock := ⟨0, 0⟩

end Reference

open Reference in
/-- The owner's own withdrawal of 40 SRM. -/
theorem privileged_signed_iff_owner :
    Succeeds env program srmWorld withdrawSrmCall ∧ Signed withdrawSrmCall.accounts (key 30) := by
  have hsucceeds : Succeeds env program srmWorld withdrawSrmCall :=
    Outcome.exists_of_isOk (by decide +kernel)
  have hsigned : Signed withdrawSrmCall.accounts (key 30) := by
    unfold Signed
    decide
  refine ⟨hsucceeds, ?_⟩
  exact ((privileged_signed_iff env program (key 70)).1 srmWorld withdrawSrmCall (key 30)
    (@PrivilegedKey.withdrawSrm _ _ _ _ _ (key 10) (pool .swapOnly 1000) rfl rfl rfl)).mpr
    (.inl hsigned) hsucceeds

open Reference in
/-- Wallet 30 takes the profit, 40 SRM and the migration of an owner who did not sign. -/
theorem privileged_unsigned :
    (Succeeds env program strangerWorld withdrawPnlCall ∧
      PrivilegedKey program (key 70) strangerWorld withdrawPnlCall (key 99) ∧
      ¬Signed withdrawPnlCall.accounts (key 99)) ∧
    (Succeeds env program strangerWorld withdrawSrmCall ∧
      PrivilegedKey program (key 70) strangerWorld withdrawSrmCall (key 99) ∧
      ¬Signed withdrawSrmCall.accounts (key 99)) ∧
    (Succeeds openbookEnv program openbookWorld migrateCall ∧
      PrivilegedKey program (key 70) openbookWorld migrateCall (key 99) ∧
      ¬Signed migrateCall.accounts (key 99)) := by
  refine ⟨⟨?_, ?_, ?_⟩, ⟨?_, ?_, ?_⟩, ⟨?_, ?_, ?_⟩⟩
  · exact Outcome.exists_of_isOk (by decide +kernel)
  · exact @PrivilegedKey.withdrawPnl _ _ _ _ ⟨key 99, Pubkey.default, 0⟩ rfl rfl
  · unfold Signed
    decide
  · exact Outcome.exists_of_isOk (by decide +kernel)
  · exact @PrivilegedKey.withdrawSrm _ _ _ _ _ (key 10) { profitPool with ammOwner := key 99 }
      rfl rfl rfl
  · unfold Signed
    decide
  · exact Outcome.exists_of_isOk (by decide +kernel)
  · exact @PrivilegedKey.migrateToOpenBook _ _ _ _ (key 10) { pool .initialized 1000 with
      ammOwner := key 99, marketProgram := openbookMarketProgram } rfl rfl rfl
  · unfold Signed
    decide

end RaydiumAmm
