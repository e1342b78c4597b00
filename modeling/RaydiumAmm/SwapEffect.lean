import RaydiumAmm.Calls
import RaydiumAmm.Quotes

/-!
# The effect of a swap

What a successful swap of either kind did: the checks that it passed, its calls in order, and the
record that it left. Every result about swaps starts from `swapBaseInBody_eq_ok` or
`swapBaseOutBody_eq_ok`; no other proof unfolds the handlers.
-/

namespace RaydiumAmm

/-! ## 1. Loading -/

theorem AmmInfo.loadMutChecked_iff {w w' : World} {info : AccountInfo} {programId : Pubkey}
    {amm : AmmInfo} :
    AmmInfo.loadMutChecked w info programId = .ok (amm, w') ↔
      w.accounts info.key = ⟨programId, .amm amm⟩ ∧ info.key ∉ w.borrowed ∧
        amm.status ≠ AmmStatus.uninitialized.intoU64 ∧
        w' = { w with borrowed := info.key :: w.borrowed } := by
  simp only [AmmInfo.loadMutChecked, AmmInfo.loadChecked, World.tryBorrowMutData,
    Outcome.bind_eq_ok, Outcome.require_eq_ok, check_eq_ok, Outcome.pure_eq_ok, Prod.mk.injEq]
  constructor
  · rintro ⟨loaded, ⟨-, howner, hload⟩, borrowed, ⟨-, hfree, rfl⟩, rfl, rfl⟩
    cases hdata : (w.accounts info.key).data with
    | amm amm =>
      simp only [hdata, Outcome.bind_eq_ok, Outcome.require_eq_ok, check_eq_ok,
        Outcome.pure_eq_ok] at hload
      obtain ⟨-, -, -, hstatus, rfl⟩ := hload
      exact ⟨Account.eq_mk howner hdata, hfree, hstatus, rfl⟩
    | _ =>
      simp only [hdata] at hload
      cases hload
  · rintro ⟨hstored, hfree, hstatus, rfl⟩
    simp only [hstored, Outcome.bind_eq_ok, Outcome.require_eq_ok, check_eq_ok, Outcome.pure_eq_ok]
    exact ⟨amm, ⟨(), trivial, (), hfree, (), hstatus, rfl⟩, _, ⟨(), hfree, rfl⟩, rfl, rfl⟩

theorem AmmInfo.loadMutChecked_eq_ok {w w' : World} {info : AccountInfo} {programId : Pubkey}
    {amm : AmmInfo} (h : AmmInfo.loadMutChecked w info programId = .ok (amm, w')) :
    (w.accounts info.key).owner = programId ∧ (w.accounts info.key).data = .amm amm ∧
      info.key ∉ w.borrowed ∧ w' = { w with borrowed := info.key :: w.borrowed } := by
  obtain ⟨hstored, hfree, -, hw'⟩ := AmmInfo.loadMutChecked_iff.mp h
  rw [hstored]
  exact ⟨rfl, rfl, hfree, hw'⟩

theorem unpackTokenAccount_iff {w : World} {info : AccountInfo} {tokenProgramId : Pubkey}
    {t : TokenAccount} :
    unpackTokenAccount w info tokenProgramId = .ok t ↔
      w.accounts info.key = ⟨tokenProgramId, .token t⟩ ∧ info.key ∉ w.borrowed ∧
        t.transferring = none := by
  simp only [unpackTokenAccount, Outcome.bind_eq_ok, check_eq_ok]
  constructor
  · rintro ⟨-, howner, h⟩
    rcases Outcome.ite_eq_ok.mp h with ⟨-, h⟩ | ⟨hfree, h⟩
    · cases h
    · cases hdata : (w.accounts info.key).data with
      | token t =>
        simp only [hdata, Outcome.bind_eq_ok, check_eq_ok, Outcome.pure_eq_ok] at h
        obtain ⟨-, hplain, rfl⟩ := h
        exact ⟨Account.eq_mk howner hdata, hfree, hplain⟩
      | _ =>
        simp only [hdata] at h
        cases h
  · rintro ⟨hstored, hfree, hplain⟩
    refine ⟨(), by rw [hstored], ?_⟩
    rw [if_neg hfree, hstored]
    simp only [Outcome.bind_eq_ok, check_eq_ok, Outcome.pure_eq_ok]
    exact ⟨(), hplain, trivial⟩

theorem unpackTokenAccount_eq_ok {w : World} {info : AccountInfo} {tokenProgramId : Pubkey}
    {t : TokenAccount} (h : unpackTokenAccount w info tokenProgramId = .ok t) :
    (w.accounts info.key).owner = tokenProgramId ∧ info.key ∉ w.borrowed ∧
      (w.accounts info.key).data = .token t := by
  obtain ⟨hstored, hfree, -⟩ := unpackTokenAccount_iff.mp h
  rw [hstored]
  exact ⟨rfl, hfree, rfl⟩

/-- A record that is loaded for writing is loaded for reading. -/
theorem AmmInfo.loadChecked_of_loadMut {w w₁ : World} {i j : AccountInfo} {programId : Pubkey}
    {amm : AmmInfo} (hkey : i.key = j.key)
    (h : AmmInfo.loadMutChecked w i programId = .ok (amm, w₁)) :
    AmmInfo.loadChecked w j programId = .ok amm := by
  obtain ⟨loaded, hload, hrest⟩ := Outcome.bind_eq_ok.mp h
  obtain ⟨borrowed, -, hret⟩ := Outcome.bind_eq_ok.mp hrest
  cases hret
  unfold AmmInfo.loadChecked at hload ⊢
  rwa [← hkey]

/-- A token account that is read next to a borrowed record is read without it. -/
theorem unpackTokenAccount_of_borrowed {w : World} {i j : AccountInfo}
    {key tokenProgramId : Pubkey} {t : TokenAccount} (hkey : i.key = j.key)
    (h : unpackTokenAccount { w with borrowed := key :: w.borrowed } i tokenProgramId = .ok t) :
    unpackTokenAccount w j tokenProgramId = .ok t := by
  obtain ⟨hstored, hfree, hplain⟩ := unpackTokenAccount_iff.mp h
  rw [unpackTokenAccount_iff, ← hkey]
  refine ⟨hstored, ?_, hplain⟩
  intro hmem
  exact hfree (List.mem_cons_of_mem _ hmem)

/-- An unpacked token account holds its balance. -/
theorem balance_of_token {w : World} {key : Pubkey} {t : TokenAccount}
    (h : (w.accounts key).data = .token t) : w.balance key = t.amount.toNat := by
  simp [World.balance, Accounts.balance, h]

/-- A token account is not the account of a pool record. -/
theorem ne_of_token_of_amm {w : World} {key key' : Pubkey} {t : TokenAccount} {amm : AmmInfo}
    (h : (w.accounts key).data = .token t) (h' : (w.accounts key').data = .amm amm) :
    key ≠ key' := by
  rintro rfl
  rw [h] at h'
  cases h'

/-! ## 2. The totals of a pool -/

/-- The order book is on for the status of the record. -/
def AmmInfo.orderbookOn (amm : AmmInfo) : Bool :=
  match AmmStatus.fromU64 amm.status with
  | .ok status => status.orderbookPermission
  | .error _ => false

/-- The totals `(pc, coin)` that the exchange holds for the pool, event queue included. -/
def exactVaultInSerum (env : Env) (a : SwapAccounts) (amm : AmmInfo) (w : World) :
    Result (U64 × U64) := do
  let (marketState, openOrders) ← loadSerumMarketOrder env a.marketInfo a.ammOpenOrdersInfo
    a.ammAuthorityInfo amm false w
  let eventQ ← Outcome.unwrap
    (env.loadEventQueue marketState a.marketEventQueueInfo.key
      (w.accounts a.marketEventQueueInfo.key)).toOption
  Calculator.calcExactVaultInSerum openOrders eventQ a.ammOpenOrdersInfo.key

/-- The part of the totals `(pc, coin)` that is on the exchange; nothing without the order book. -/
def inSerum (env : Env) (a : SwapAccounts) (amm : AmmInfo) (w : World) : ℕ × ℕ :=
  if amm.orderbookOn then
    match exactVaultInSerum env a amm w with
    | .ok s => (s.1.toNat, s.2.toNat)
    | .error _ => (0, 0)
  else (0, 0)

/-- The coin total of the pool without the pending profit. -/
def coinTotal (env : Env) (a : SwapAccounts) (amm : AmmInfo) (w : World) : ℤ :=
  w.balance amm.coinVault + (inSerum env a amm w).2 - amm.stateData.needTakePnlCoin.toNat

/-- The pc total of the pool without the pending profit. -/
def pcTotal (env : Env) (a : SwapAccounts) (amm : AmmInfo) (w : World) : ℤ :=
  w.balance amm.pcVault + (inSerum env a amm w).1 - amm.stateData.needTakePnlPc.toNat

/-- Records that agree on what the totals read. -/
structure SameTotals (amm amm' : AmmInfo) : Prop where
  coinVault : amm'.coinVault = amm.coinVault
  pcVault : amm'.pcVault = amm.pcVault
  openOrders : amm'.openOrders = amm.openOrders
  marketProgram : amm'.marketProgram = amm.marketProgram
  orderbookOn : amm'.orderbookOn = amm.orderbookOn
  needTakePnlCoin : amm'.stateData.needTakePnlCoin = amm.stateData.needTakePnlCoin
  needTakePnlPc : amm'.stateData.needTakePnlPc = amm.stateData.needTakePnlPc

theorem SameTotals.refl (amm : AmmInfo) : SameTotals amm amm := ⟨rfl, rfl, rfl, rfl, rfl, rfl, rfl⟩

theorem SameTotals.trans {amm amm' amm'' : AmmInfo} (h : SameTotals amm amm')
    (h' : SameTotals amm' amm'') : SameTotals amm amm'' where
  coinVault := h'.coinVault.trans h.coinVault
  pcVault := h'.pcVault.trans h.pcVault
  openOrders := h'.openOrders.trans h.openOrders
  marketProgram := h'.marketProgram.trans h.marketProgram
  orderbookOn := h'.orderbookOn.trans h.orderbookOn
  needTakePnlCoin := h'.needTakePnlCoin.trans h.needTakePnlCoin
  needTakePnlPc := h'.needTakePnlPc.trans h.needTakePnlPc

theorem SameTotals.inSerum {amm amm' : AmmInfo} (h : SameTotals amm amm') (env : Env)
    (a : SwapAccounts) (w : World) : inSerum env a amm' w = RaydiumAmm.inSerum env a amm w := by
  simp only [RaydiumAmm.inSerum, h.orderbookOn, exactVaultInSerum, loadSerumMarketOrder,
    h.marketProgram, h.openOrders]

theorem SameTotals.coinTotal {amm amm' : AmmInfo} (h : SameTotals amm amm') (env : Env)
    (a : SwapAccounts) (w : World) : coinTotal env a amm' w = RaydiumAmm.coinTotal env a amm w := by
  simp only [RaydiumAmm.coinTotal, h.inSerum, h.coinVault, h.needTakePnlCoin]

theorem SameTotals.pcTotal {amm amm' : AmmInfo} (h : SameTotals amm amm') (env : Env)
    (a : SwapAccounts) (w : World) : pcTotal env a amm' w = RaydiumAmm.pcTotal env a amm w := by
  simp only [RaydiumAmm.pcTotal, h.inSerum, h.pcVault, h.needTakePnlPc]

/-- The totals that a swap prices against are those of the pool, and with the order book on the
    exchange's accounts have loaded. -/
theorem swapTotals_eq_ok {env : Env} {a : SwapAccounts} {amm : AmmInfo}
    {pcVaultAmount coinVaultAmount : U64} {w : World} {t : SwapTotals}
    (h : swapTotals env a amm amm.orderbookOn pcVaultAmount coinVaultAmount w = .ok t)
    (hcoin : w.balance amm.coinVault = coinVaultAmount.toNat)
    (hpc : w.balance amm.pcVault = pcVaultAmount.toNat) :
    (t.totalCoinWithoutTakePnl.toNat : ℤ) = coinTotal env a amm w ∧
      (t.totalPcWithoutTakePnl.toNat : ℤ) = pcTotal env a amm w ∧
      (amm.orderbookOn = true → ∃ s, exactVaultInSerum env a amm w = .ok s) := by
  unfold swapTotals at h
  rcases Outcome.ite_eq_ok.mp h with ⟨hon, h⟩ | ⟨hoff, h⟩
  · simp only [Outcome.bind_eq_ok, check_eq_ok] at h
    obtain ⟨-, -, -, -, -, -, ⟨marketState, openOrders⟩, hload, ⟨bids, asks⟩, -,
      ⟨totalPc, totalCoin⟩, htotal, ht⟩ := h
    cases ht
    simp only [calcTotal, Outcome.bind_eq_ok, Outcome.unwrap_eq_ok] at htotal
    obtain ⟨eventQ, hqueue, htotal⟩ := htotal
    obtain ⟨s, hs, hpcSum, hcoinSum⟩ := calcTotal_eq_ok htotal
    have hexact : exactVaultInSerum env a amm w = .ok s := by
      simp only [exactVaultInSerum, hload, Outcome.ok_bind, hqueue, Outcome.unwrap, hs]
    have hserum : inSerum env a amm w = (s.1.toNat, s.2.toNat) := by
      simp only [inSerum, if_pos hon, hexact]
    dsimp only at hpcSum hcoinSum
    simp only [coinTotal, pcTotal, hserum, hcoin, hpc]
    exact ⟨by omega, by omega, fun _ => ⟨s, hexact⟩⟩
  · simp only [Outcome.bind_eq_ok] at h
    obtain ⟨⟨totalPc, totalCoin⟩, htotal, ht⟩ := h
    cases ht
    obtain ⟨hpcSum, hcoinSum⟩ := calcTotalNoOrderbook_eq_ok htotal
    dsimp only at hpcSum hcoinSum
    simp only [coinTotal, pcTotal, inSerum, if_neg hoff, hcoin, hpc]
    exact ⟨by omega, by omega, fun hon => absurd hon hoff⟩

/-! ## 3. The checks -/

/-- The status gate changes the status alone, and leaves the order book as it is. -/
theorem swapStatusGate_eq_ok {amm amm' : AmmInfo} {clock : Clock}
    (h : swapStatusGate amm clock = .ok amm') :
    ∃ status, amm' = { amm with status := status } ∧
      AmmInfo.orderbookOn { amm with status := status } = amm.orderbookOn := by
  simp only [swapStatusGate, Outcome.bind_eq_ok] at h
  obtain ⟨status, hstatus, h⟩ := h
  have hnum := AmmStatus.intoU64_of_fromU64 hstatus
  have hon : amm.orderbookOn = status.orderbookPermission := by
    simp only [AmmInfo.orderbookOn, hstatus]
  rcases Outcome.ite_eq_ok.mp h with ⟨hperm, h⟩ | ⟨hperm, h⟩
  · rcases Outcome.ite_eq_ok.mp h with ⟨⟨hobo, -⟩, h⟩ | ⟨-, h⟩
    · cases h
      refine ⟨_, rfl, ?_⟩
      have : status = .orderBookOnly := by
        have := AmmStatus.fromU64_intoU64 .orderBookOnly
        rw [← hobo, hstatus] at this
        exact Except.ok.inj this
      rw [hon, this]
      rfl
    · cases h
  · rcases Outcome.ite_eq_ok.mp h with ⟨hwait, h⟩ | ⟨-, h⟩
    · rcases Outcome.ite_eq_ok.mp h with ⟨-, h⟩ | ⟨-, h⟩
      · cases h
      · cases h
        refine ⟨_, rfl, ?_⟩
        have : status = .waitingTrade := by
          have := AmmStatus.fromU64_intoU64 .waitingTrade
          rw [← hwait, hstatus] at this
          exact Except.ok.inj this
        rw [hon, this]
        rfl
    · cases h
      exact ⟨_, rfl, rfl⟩

/-- What a swap has checked when its direction is fixed: `amm` is the stored record. -/
structure SwapChecked (env : Env) (programId : Pubkey) (a : SwapAccounts) (w : World)
    (amm : AmmInfo) (c : SwapContext) : Prop where
  owner : (w.accounts a.ammInfo.key).owner = programId
  stored : (w.accounts a.ammInfo.key).data = .amm amm
  record : ∃ status, c.amm = { amm with status := status }
  same : SameTotals amm c.amm
  tokenProgram : a.tokenProgramInfo.key = splTokenId
  authority : env.createProgramAddress [AUTHORITY_AMM, [amm.nonceU8]] programId =
    some a.ammAuthorityInfo.key
  coinVault : a.ammCoinVaultInfo.key = amm.coinVault
  pcVault : a.ammPcVaultInfo.key = amm.pcVault
  source_ne_pc : a.userSourceInfo.key ≠ amm.pcVault
  source_ne_coin : a.userSourceInfo.key ≠ amm.coinVault
  destination_ne_pc : a.userDestinationInfo.key ≠ amm.pcVault
  destination_ne_coin : a.userDestinationInfo.key ≠ amm.coinVault
  coinToken : (w.accounts amm.coinVault).data = .token c.ammCoinVault
  pcToken : (w.accounts amm.pcVault).data = .token c.ammPcVault
  sourceToken : (w.accounts a.userSourceInfo.key).data = .token c.userSource
  destinationToken : (w.accounts a.userDestinationInfo.key).data = .token c.userDestination
  enableOrderbook : c.enableOrderbook = amm.orderbookOn
  marketKeys : c.enableOrderbook = true →
    a.marketProgramInfo.key = amm.marketProgram ∧ a.ammOpenOrdersInfo.key = amm.openOrders ∧
      a.marketInfo.key = amm.market
  loaded : c.enableOrderbook = true → ∃ s, exactVaultInSerum env a amm w = .ok s
  coinTotal : (c.totalCoinWithoutTakePnl.toNat : ℤ) = coinTotal env a amm w
  pcTotal : (c.totalPcWithoutTakePnl.toNat : ℤ) = pcTotal env a amm w
  direction : chooseDirection c.ammCoinVault c.ammPcVault c.userSource c.userDestination =
    .ok c.swapDirection

theorem swapPrologue_eq_ok {env : Env} {programId : Pubkey} {a : SwapAccounts} {w w' : World}
    {c : SwapContext} (h : swapPrologue env programId a w = .ok (c, w')) :
    ∃ amm, SwapChecked env programId a w amm c ∧
      w' = { w with borrowed := a.ammInfo.key :: w.borrowed } := by
  simp only [swapPrologue, ↓check_bind_eq_ok, Outcome.bind_eq_ok] at h
  obtain ⟨⟨amm, w₁⟩, hload, status, hstatus, -, htoken, authority, hauth, hauthKey, hcoinKey,
    hpcKey, hsource, hdest, ammCoinVault, hcoin, ammPcVault, hpc, userSource, husource,
    userDestination, hudest, gated, hgate, totals, htotals, direction, hdir, hret⟩ := h
  obtain ⟨howner, hdata, -, rfl⟩ := AmmInfo.loadMutChecked_eq_ok hload
  obtain ⟨-, -, hcoinData⟩ := unpackTokenAccount_eq_ok hcoin
  obtain ⟨-, -, hpcData⟩ := unpackTokenAccount_eq_ok hpc
  obtain ⟨-, -, hsourceData⟩ := unpackTokenAccount_eq_ok husource
  obtain ⟨-, -, hdestData⟩ := unpackTokenAccount_eq_ok hudest
  obtain ⟨newStatus, rfl, hon⟩ := swapStatusGate_eq_ok hgate
  have hsame : SameTotals amm { amm with status := newStatus } :=
    { coinVault := rfl, pcVault := rfl, openOrders := rfl, marketProgram := rfl
      orderbookOn := hon, needTakePnlCoin := rfl, needTakePnlPc := rfl }
  have hperm : status.orderbookPermission = amm.orderbookOn := by
    simp only [AmmInfo.orderbookOn, hstatus]
  simp only at hcoinKey hpcKey hcoinData hpcData hsourceData hdestData htotals hauth
  rw [hcoinKey] at hcoinData
  rw [hpcKey] at hpcData
  rw [hperm, ← hon] at htotals
  obtain ⟨hcoinTotal, hpcTotal, hloaded⟩ :=
    swapTotals_eq_ok htotals (balance_of_token hcoinData) (balance_of_token hpcData)
  have hkeys : amm.orderbookOn = true →
      a.marketProgramInfo.key = amm.marketProgram ∧ a.ammOpenOrdersInfo.key = amm.openOrders ∧
        a.marketInfo.key = amm.market := by
    intro hob
    rw [swapTotals, hon, if_pos hob] at htotals
    simp only [Outcome.bind_eq_ok, check_eq_ok] at htotals
    obtain ⟨-, hopen, -, hprogram, -, hmarket, -⟩ := htotals
    exact ⟨hprogram, hopen, hmarket⟩
  simp only [authorityId, Outcome.okOr_eq_ok] at hauth
  cases hret
  exact ⟨amm, {
    owner := howner
    stored := hdata
    record := ⟨newStatus, rfl⟩
    same := hsame
    tokenProgram := htoken
    authority := by rw [hauthKey]; exact hauth
    coinVault := hcoinKey
    pcVault := hpcKey
    source_ne_pc := fun h => hsource (.inl h)
    source_ne_coin := fun h => hsource (.inr h)
    destination_ne_pc := fun h => hdest (.inl h)
    destination_ne_coin := fun h => hdest (.inr h)
    coinToken := hcoinData
    pcToken := hpcData
    sourceToken := hsourceData
    destinationToken := hdestData
    enableOrderbook := hperm
    marketKeys := fun h => hkeys (hperm ▸ h)
    loaded := fun h => hloaded (hon.trans (hperm ▸ h))
    coinTotal := by rw [hcoinTotal, hsame.coinTotal]; rfl
    pcTotal := by rw [hpcTotal, hsame.pcTotal]; rfl
    direction := hdir
  }, rfl⟩

/-! ## 4. The branches -/

/-- The pool account that a swap pays into. -/
def SwapDirection.inVaultInfo (dir : SwapDirection) (a : SwapAccounts) : AccountInfo :=
  match dir with
  | .coin2Pc => a.ammCoinVaultInfo
  | .pc2Coin => a.ammPcVaultInfo

/-- The pool account that a swap takes from. -/
def SwapDirection.outVaultInfo (dir : SwapDirection) (a : SwapAccounts) : AccountInfo :=
  match dir with
  | .coin2Pc => a.ammPcVaultInfo
  | .pc2Coin => a.ammCoinVaultInfo

/-- The settle instruction of a swap, with the account passed as the market's coin vault. -/
def swapSettleIx (a : SwapAccounts) (coinVaultInfo : AccountInfo) : SettleFunds :=
  settleIx a.marketProgramInfo a.marketInfo a.ammOpenOrdersInfo a.ammAuthorityInfo coinVaultInfo
    a.marketPcVaultInfo a.ammCoinVaultInfo a.ammPcVaultInfo a.marketVaultSigner a.tokenProgramInfo
    (some a.ammPcVaultInfo)

theorem freeFunds_calls {env : Env} {a : SwapAccounts} {c : SwapContext}
    {orders : List LeafNode} {short : Bool} {coinVaultInfo : AccountInfo} {w w' : World}
    (h : freeFunds env a c orders short coinVaultInfo w = .ok w') :
    Calls env (DexCall (swapSettleIx a coinVaultInfo)) w w' ∧
      (c.enableOrderbook = false → w' = w) := by
  unfold freeFunds at h
  rcases Outcome.ite_eq_ok.mp h with ⟨hon, h⟩ | ⟨hoff, h⟩
  · refine ⟨?_, fun hoff => absurd hoff (by simp [hon])⟩
    simp only [Outcome.bind_eq_ok] at h
    obtain ⟨w₁, hcancel, h⟩ := h
    have hcalls : Calls env (DexCall (swapSettleIx a coinVaultInfo)) w w₁ :=
      (cancelSide_calls hcancel).mono fun c hc => .inl hc
    rcases Outcome.ite_eq_ok.mp h with ⟨-, h⟩ | ⟨-, h⟩
    · exact hcalls.tail ⟨_, .inr rfl, h⟩
    · cases h
      exact hcalls
  · cases h
    exact ⟨.refl, fun _ => rfl⟩

/-- What a swap adds to the statistics of the pool; the other fields stay. -/
structure SwapCounted (dir : SwapDirection) (counted out : ℕ) (s s' : StateData) : Prop where
  coinIn : s'.swapCoinInAmount.toNat =
    s.swapCoinInAmount.toNat + (if dir = .coin2Pc then counted else 0)
  coinOut : s'.swapCoinOutAmount.toNat =
    s.swapCoinOutAmount.toNat + (if dir = .coin2Pc then 0 else out)
  pcIn : s'.swapPcInAmount.toNat =
    s.swapPcInAmount.toNat + (if dir = .coin2Pc then 0 else counted)
  pcOut : s'.swapPcOutAmount.toNat =
    s.swapPcOutAmount.toNat + (if dir = .coin2Pc then out else 0)
  needTakePnlCoin : s'.needTakePnlCoin = s.needTakePnlCoin
  needTakePnlPc : s'.needTakePnlPc = s.needTakePnlPc
  totalPnlCoin : s'.totalPnlCoin = s.totalPnlCoin
  totalPnlPc : s'.totalPnlPc = s.totalPnlPc

/-- The calls of a swap branch that starts in `w`: the exchange calls, the payment `paid` of the
    user, the payment `out` of the pool. -/
structure SwapCalls (env : Env) (a : SwapAccounts) (c : SwapContext) (coinVaultInfo : AccountInfo)
    (paid out : U64) (w w₁ w₂ w₃ : World) : Prop where
  dex : Calls env (DexCall (swapSettleIx a coinVaultInfo)) w w₁
  no_dex : c.enableOrderbook = false → w₁ = w
  payIn : w₁.invoke env (transferCpi a.tokenProgramInfo a.userSourceInfo
    (c.swapDirection.inVaultInfo a) a.userSourceOwner [] paid) = .ok w₂
  payOut : w₂.invoke env (transferCpi a.tokenProgramInfo (c.swapDirection.outVaultInfo a)
    a.userDestinationInfo a.ammAuthorityInfo [[AUTHORITY_AMM, [c.amm.nonceU8]]] out) = .ok w₃

/-- A swap that went through: `paid` and `out` are the amounts of its two transfers, `counted` is
    the amount in that its statistics record. -/
structure SwapDone (env : Env) (programId : Pubkey) (a : SwapAccounts) (coinVaultInfo : AccountInfo)
    (amm : AmmInfo) (c : SwapContext) (paid counted out : U64) (w w' : World) : Prop where
  checked : SwapChecked env programId a w amm c
  run : ∃ w₁ w₂ w₃ s',
    SwapCalls env a c coinVaultInfo paid out { w with borrowed := a.ammInfo.key :: w.borrowed }
      w₁ w₂ w₃ ∧
    SwapCounted c.swapDirection counted.toNat out.toNat amm.stateData s' ∧
    w' = w₃.dropRefMut a.ammInfo.key
      (.amm { c.amm with stateData := s', recentEpoch := w₃.clock.epoch })

section Branches

variable {env : Env} {programId : Pubkey} {a : SwapAccounts} {c : SwapContext}
  {w w' : World} {amm : AmmInfo}

theorem swapBaseInCoin2Pc_eq_ok {swap : SwapInstructionBaseIn} {q : SwapBaseInQuote}
    (ht : a.tokenProgramInfo.key = splTokenId) (hdir : c.swapDirection = .coin2Pc)
    (h : swapBaseInCoin2Pc env programId a c swap q w = .ok (amm, w')) :
    q.swapAmountOut.toNat < c.totalPcWithoutTakePnl.toNat ∧ ∃ w₁ w₂ s',
      SwapCalls env a c a.marketCoinVaultInfo swap.amountIn q.swapAmountOut w w₁ w₂ w' ∧
      SwapCounted .coin2Pc swap.amountIn.toNat q.swapAmountOut.toNat c.amm.stateData s' ∧
      amm = { c.amm with stateData := s' } := by
  simp only [swapBaseInCoin2Pc, Outcome.bind_eq_ok, check_eq_ok, Outcome.unwrap_eq_ok,
    Checked.add_eq_some, Outcome.pure_eq_ok, Prod.mk.injEq, toNat_toU128] at h
  obtain ⟨-, hlt, w₁, hfree, w₂, hin, w₃, hout, coinIn, hcoinIn, pcOut, hpcOut, fee, -, accFee, -,
    rfl, rfl⟩ := h
  obtain ⟨hdex, hnone⟩ := freeFunds_calls hfree
  refine ⟨BitVec.lt_def.mp (BitVec.not_le.mp hlt), w₁, w₂, _, ⟨hdex, hnone, ?_, ?_⟩, ?_, rfl⟩
  · rw [hdir]
    exact tokenTransfer_spl ht hin
  · rw [hdir]
    exact tokenTransferWithAuthority_spl ht hout
  · constructor <;> simp [hcoinIn, hpcOut]

theorem swapBaseInPc2Coin_eq_ok {swap : SwapInstructionBaseIn} {q : SwapBaseInQuote}
    (ht : a.tokenProgramInfo.key = splTokenId) (hdir : c.swapDirection = .pc2Coin)
    (h : swapBaseInPc2Coin env programId a c swap q w = .ok (amm, w')) :
    q.swapAmountOut.toNat < c.totalCoinWithoutTakePnl.toNat ∧ ∃ w₁ w₂ s',
      SwapCalls env a c a.marketCoinVaultInfo q.swapAmountOut q.swapAmountOut w w₁ w₂ w' ∧
      SwapCounted .pc2Coin swap.amountIn.toNat q.swapAmountOut.toNat c.amm.stateData s' ∧
      amm = { c.amm with stateData := s' } := by
  simp only [swapBaseInPc2Coin, Outcome.bind_eq_ok, check_eq_ok, Outcome.unwrap_eq_ok,
    Checked.add_eq_some, Outcome.pure_eq_ok, Prod.mk.injEq, toNat_toU128] at h
  obtain ⟨-, hlt, w₁, hfree, w₂, hin, w₃, hout, pcIn, hpcIn, coinOut, hcoinOut, fee, -, accFee, -,
    rfl, rfl⟩ := h
  obtain ⟨hdex, hnone⟩ := freeFunds_calls hfree
  refine ⟨BitVec.lt_def.mp (BitVec.not_le.mp hlt), w₁, w₂, _, ⟨hdex, hnone, ?_, ?_⟩, ?_, rfl⟩
  · rw [hdir]
    exact tokenTransfer_spl ht hin
  · rw [hdir]
    exact tokenTransferWithAuthority_spl ht hout
  · constructor <;> simp [hpcIn, hcoinOut]

theorem swapBaseOutCoin2Pc_eq_ok {swap : SwapInstructionBaseOut} {q : SwapBaseOutQuote}
    (ht : a.tokenProgramInfo.key = splTokenId) (hdir : c.swapDirection = .coin2Pc)
    (h : swapBaseOutCoin2Pc env programId a c swap q w = .ok (amm, w')) :
    ∃ w₁ w₂ s',
      SwapCalls env a c a.marketCoinVaultInfo q.swapInAfterAddFee swap.amountOut w w₁ w₂ w' ∧
      SwapCounted .coin2Pc q.swapInAfterAddFee.toNat swap.amountOut.toNat c.amm.stateData s' ∧
      amm = { c.amm with stateData := s' } := by
  simp only [swapBaseOutCoin2Pc, Outcome.bind_eq_ok, check_eq_ok, Outcome.unwrap_eq_ok,
    Checked.add_eq_some, Outcome.pure_eq_ok, Prod.mk.injEq, toNat_toU128] at h
  obtain ⟨-, -, w₁, hfree, w₂, hin, w₃, hout, coinIn, hcoinIn, pcOut, hpcOut, accFee, -, rfl,
    rfl⟩ := h
  obtain ⟨hdex, hnone⟩ := freeFunds_calls hfree
  refine ⟨w₁, w₂, _, ⟨hdex, hnone, ?_, ?_⟩, ?_, rfl⟩
  · rw [hdir]
    exact tokenTransfer_spl ht hin
  · rw [hdir]
    exact tokenTransferWithAuthority_spl ht hout
  · constructor <;> simp [hcoinIn, hpcOut]

theorem swapBaseOutPc2Coin_eq_ok {swap : SwapInstructionBaseOut} {q : SwapBaseOutQuote}
    (ht : a.tokenProgramInfo.key = splTokenId) (hdir : c.swapDirection = .pc2Coin)
    (h : swapBaseOutPc2Coin env programId a c swap q w = .ok (amm, w')) :
    ∃ w₁ w₂ s',
      SwapCalls env a c a.marketAsksInfo q.swapInAfterAddFee swap.amountOut w w₁ w₂ w' ∧
      SwapCounted .pc2Coin q.swapInAfterAddFee.toNat swap.amountOut.toNat c.amm.stateData s' ∧
      amm = { c.amm with stateData := s' } := by
  simp only [swapBaseOutPc2Coin, Outcome.bind_eq_ok, check_eq_ok, Outcome.unwrap_eq_ok,
    Checked.add_eq_some, Outcome.pure_eq_ok, Prod.mk.injEq, toNat_toU128] at h
  obtain ⟨-, -, w₁, hfree, w₂, hin, w₃, hout, pcIn, hpcIn, coinOut, hcoinOut, accFee, -, rfl,
    rfl⟩ := h
  obtain ⟨hdex, hnone⟩ := freeFunds_calls hfree
  refine ⟨w₁, w₂, _, ⟨hdex, hnone, ?_, ?_⟩, ?_, rfl⟩
  · rw [hdir]
    exact tokenTransfer_spl ht hin
  · rw [hdir]
    exact tokenTransferWithAuthority_spl ht hout
  · constructor <;> simp [hpcIn, hcoinOut]

end Branches

/-! ## 5. The handlers -/

/-- What the first transfer of an exact-in swap moves: towards the coin vault the amount in,
    towards the pc vault the amount out. -/
def baseInPaid (dir : SwapDirection) (amountIn amountOut : U64) : U64 :=
  match dir with
  | .coin2Pc => amountIn
  | .pc2Coin => amountOut

/-- An exact-in swap that went through: its quote, its bounds and its effect. -/
structure BaseInDone (env : Env) (programId : Pubkey) (a : SwapAccounts)
    (swap : SwapInstructionBaseIn) (amm : AmmInfo) (c : SwapContext) (q : SwapBaseInQuote)
    (w w' : World) : Prop where
  quoted : BaseInQuoted amm.fees swap.amountIn.toNat
    (c.swapDirection.reserveIn c.totalCoinWithoutTakePnl.toNat c.totalPcWithoutTakePnl.toNat)
    (c.swapDirection.reserveOut c.totalCoinWithoutTakePnl.toNat c.totalPcWithoutTakePnl.toNat) q
  funded : swap.amountIn.toNat ≤ w.balance a.userSourceInfo.key
  minimum : swap.minimumAmountOut.toNat ≤ q.swapAmountOut.toNat
  out_pos : 0 < q.swapAmountOut.toNat
  in_pos : 0 < swap.amountIn.toNat
  out_lt : q.swapAmountOut.toNat <
    c.swapDirection.reserveOut c.totalCoinWithoutTakePnl.toNat c.totalPcWithoutTakePnl.toNat
  done : SwapDone env programId a a.marketCoinVaultInfo amm c
    (baseInPaid c.swapDirection swap.amountIn q.swapAmountOut) swap.amountIn q.swapAmountOut w w'

/-- A word other than 0 is positive. -/
theorem toNat_pos_of_ne_zero {a : U64} (h : a ≠ 0) : 0 < a.toNat := by
  rw [Nat.pos_iff_ne_zero]
  intro h0
  exact h (BitVec.eq_of_toNat_eq h0)

theorem swapBaseInBody_eq_ok {env : Env} {programId : Pubkey} {a : SwapAccounts}
    {swap : SwapInstructionBaseIn} {w w' : World}
    (h : swapBaseInBody env programId a swap w = .ok w') :
    ∃ amm c q, BaseInDone env programId a swap amm c q w w' := by
  simp only [swapBaseInBody, Outcome.bind_eq_ok, check_eq_ok, Outcome.pure_eq_ok] at h
  obtain ⟨⟨c, w₀⟩, hpro, -, hfunded, q, hq, -, hmin, -, hpos, ⟨amm', w₃⟩, hbranch, rfl⟩ := h
  obtain ⟨amm, hchecked, rfl⟩ := swapPrologue_eq_ok hpro
  obtain ⟨newStatus, hrecord⟩ := hchecked.record
  have hquoted := swapBaseInQuote_eq_ok hq
  have hfees : c.amm.fees = amm.fees := by rw [hrecord]
  have hstate : c.amm.stateData = amm.stateData := by rw [hrecord]
  rw [not_or] at hpos
  rw [hfees] at hquoted
  refine ⟨amm, c, q, ?_⟩
  have hsource := balance_of_token hchecked.sourceToken
  have hfunded' : swap.amountIn.toNat ≤ w.balance a.userSourceInfo.key := by
    rw [hsource]
    exact BitVec.le_def.mp (BitVec.not_lt.mp hfunded)
  cases hdir : c.swapDirection with
  | coin2Pc =>
    simp only [swapBaseInBranch, hdir] at hbranch
    obtain ⟨hlt, w₁, w₂, s', hcalls, hcounted, rfl⟩ :=
      swapBaseInCoin2Pc_eq_ok hchecked.tokenProgram hdir hbranch
    rw [hstate] at hcounted
    exact {
      quoted := hquoted
      funded := hfunded'
      minimum := BitVec.le_def.mp (BitVec.not_lt.mp hmin)
      out_pos := toNat_pos_of_ne_zero hpos.1
      in_pos := toNat_pos_of_ne_zero hpos.2
      out_lt := by rw [hdir]; exact hlt
      done := ⟨hchecked, w₁, w₂, w₃, s', by rw [hdir]; exact hcalls, by rw [hdir]; exact hcounted,
        rfl⟩
    }
  | pc2Coin =>
    simp only [swapBaseInBranch, hdir] at hbranch
    obtain ⟨hlt, w₁, w₂, s', hcalls, hcounted, rfl⟩ :=
      swapBaseInPc2Coin_eq_ok hchecked.tokenProgram hdir hbranch
    rw [hstate] at hcounted
    exact {
      quoted := hquoted
      funded := hfunded'
      minimum := BitVec.le_def.mp (BitVec.not_lt.mp hmin)
      out_pos := toNat_pos_of_ne_zero hpos.1
      in_pos := toNat_pos_of_ne_zero hpos.2
      out_lt := by rw [hdir]; exact hlt
      done := ⟨hchecked, w₁, w₂, w₃, s', by rw [hdir]; exact hcalls, by rw [hdir]; exact hcounted,
        rfl⟩
    }

/-- The account that an exact-out swap passes as the market's coin vault: towards coin, the asks
    account. -/
def baseOutCoinVaultInfo (dir : SwapDirection) (a : SwapAccounts) : AccountInfo :=
  match dir with
  | .coin2Pc => a.marketCoinVaultInfo
  | .pc2Coin => a.marketAsksInfo

/-- An exact-out swap that went through: its quote, its bounds and its effect. -/
structure BaseOutDone (env : Env) (programId : Pubkey) (a : SwapAccounts)
    (swap : SwapInstructionBaseOut) (amm : AmmInfo) (c : SwapContext) (q : SwapBaseOutQuote)
    (w w' : World) : Prop where
  quote : swapBaseOutQuote amm.fees swap.amountOut c.totalPcWithoutTakePnl
    c.totalCoinWithoutTakePnl c.swapDirection = .ok q
  quoted : BaseOutQuoted amm.fees swap.amountOut.toNat
    (c.swapDirection.reserveIn c.totalCoinWithoutTakePnl.toNat c.totalPcWithoutTakePnl.toNat)
    (c.swapDirection.reserveOut c.totalCoinWithoutTakePnl.toNat c.totalPcWithoutTakePnl.toNat) q
  funded : q.swapInAfterAddFee.toNat ≤ w.balance a.userSourceInfo.key
  maximum : q.swapInAfterAddFee.toNat ≤ swap.maxAmountIn.toNat
  in_pos : 0 < q.swapInAfterAddFee.toNat
  out_pos : 0 < swap.amountOut.toNat
  done : SwapDone env programId a (baseOutCoinVaultInfo c.swapDirection a) amm c
    q.swapInAfterAddFee q.swapInAfterAddFee swap.amountOut w w'

theorem swapBaseOutBody_eq_ok {env : Env} {programId : Pubkey} {a : SwapAccounts}
    {swap : SwapInstructionBaseOut} {w w' : World}
    (h : swapBaseOutBody env programId a swap w = .ok w') :
    ∃ amm c q, BaseOutDone env programId a swap amm c q w w' := by
  simp only [swapBaseOutBody, Outcome.bind_eq_ok, check_eq_ok, Outcome.pure_eq_ok] at h
  obtain ⟨⟨c, w₀⟩, hpro, q, hq, -, hfunded, -, hmax, -, hpos, ⟨amm', w₃⟩, hbranch, rfl⟩ := h
  obtain ⟨amm, hchecked, rfl⟩ := swapPrologue_eq_ok hpro
  obtain ⟨newStatus, hrecord⟩ := hchecked.record
  have hquoted := swapBaseOutQuote_eq_ok hq
  have hfees : c.amm.fees = amm.fees := by rw [hrecord]
  have hstate : c.amm.stateData = amm.stateData := by rw [hrecord]
  rw [not_or] at hpos
  rw [hfees] at hquoted
  refine ⟨amm, c, q, ?_⟩
  have hsource := balance_of_token hchecked.sourceToken
  refine {
    quote := hfees ▸ hq
    quoted := hquoted
    funded := hsource ▸ BitVec.le_def.mp (BitVec.not_lt.mp hfunded)
    maximum := BitVec.le_def.mp (BitVec.not_lt.mp hmax)
    in_pos := toNat_pos_of_ne_zero hpos.1
    out_pos := toNat_pos_of_ne_zero hpos.2
    done := ?_
  }
  cases hdir : c.swapDirection with
  | coin2Pc =>
    simp only [swapBaseOutBranch, hdir] at hbranch
    obtain ⟨w₁, w₂, s', hcalls, hcounted, rfl⟩ :=
      swapBaseOutCoin2Pc_eq_ok hchecked.tokenProgram hdir hbranch
    rw [hstate] at hcounted
    exact ⟨hchecked, w₁, w₂, w₃, s', hcalls, by rw [hdir]; exact hcounted, rfl⟩
  | pc2Coin =>
    simp only [swapBaseOutBranch, hdir] at hbranch
    obtain ⟨w₁, w₂, s', hcalls, hcounted, rfl⟩ :=
      swapBaseOutPc2Coin_eq_ok hchecked.tokenProgram hdir hbranch
    rw [hstate] at hcounted
    exact ⟨hchecked, w₁, w₂, w₃, s', hcalls, by rw [hdir]; exact hcounted, rfl⟩

end RaydiumAmm
