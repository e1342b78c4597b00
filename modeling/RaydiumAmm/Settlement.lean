import RaydiumAmm.AdminEffect
import RaydiumAmm.Product
import RaydiumAmm.ProfitEffect
import RaydiumAmm.Reference

/-!
# Settlement

A settle call moves the pool's free funds from the exchange into token accounts. The pool loses
nothing by it exactly where these accounts are its own vaults.

1. `Settled`: the effect of a settle call, and when it conserves the holdings of a pool.
2. `SettlesBy`: the settle calls of a handler are all of one instruction.
3. `settle_conserves_iff`: for every handler that settles, when its settle calls conserve.
-/

namespace RaydiumAmm

/-! ## 1. One settle call -/

/-- What a settle call adds to `k`. -/
def SettleFunds.credit (s : SettleFunds) (o : OpenOrders) (k : Pubkey) : ℕ :=
  (if k = s.coinWallet then o.nativeCoinFree.toNat else 0) +
    if k = s.pcWallet then o.nativePcFree.toNat else 0

/-- What a settle call takes from `k`. -/
def SettleFunds.debit (s : SettleFunds) (o : OpenOrders) (k : Pubkey) : ℕ :=
  (if k = s.coinVault then o.nativeCoinFree.toNat else 0) +
    if k = s.pcVault then o.nativePcFree.toNat else 0

/-- The free funds of `o` are paid out and taken off its totals. -/
structure PaidOut (o o' : OpenOrders) : Prop where
  coinFree : o'.nativeCoinFree = 0
  pcFree : o'.nativePcFree = 0
  coinTotal : o'.nativeCoinTotal.toNat + o.nativeCoinFree.toNat = o.nativeCoinTotal.toNat
  pcTotal : o'.nativePcTotal.toNat + o.nativePcFree.toNat = o.nativePcTotal.toNat

/-- The effect of a settle call on the open orders `o`: the free funds move from the vaults to the
    wallets that the instruction names. -/
structure Settled (s : SettleFunds) (o : OpenOrders) (acc acc' : Accounts) : Prop where
  stored : (acc s.openOrders).data = .openOrders o
  paidOut : ∃ o', (acc' s.openOrders).data = .openOrders o' ∧ PaidOut o o'
  balance : ∀ k, acc'.balance k + s.debit o k = acc.balance k + s.credit o k

/-- Every settle call that succeeds has this effect. -/
def SettleMoves (env : Env) : Prop :=
  ∀ {s : SettleFunds} {infos : List AccountInfo} {seeds : List (List (List U8))}
    {acc acc' : Accounts}, env.invoke ⟨.settleFunds s, infos, seeds⟩ acc = .ok acc' →
      ∃ o, Settled s o acc acc'

/-- What the pool holds of coin: its vault and its open orders. -/
def coinHeld (amm : AmmInfo) (acc : Accounts) : ℕ :=
  acc.balance amm.coinVault +
    match (acc amm.openOrders).data with
    | .openOrders o => o.nativeCoinTotal.toNat
    | _ => 0

/-- What the pool holds of pc. -/
def pcHeld (amm : AmmInfo) (acc : Accounts) : ℕ :=
  acc.balance amm.pcVault +
    match (acc amm.openOrders).data with
    | .openOrders o => o.nativePcTotal.toNat
    | _ => 0

/-- A settle call leaves what the pool holds as it is. -/
def Conserved (amm : AmmInfo) (acc acc' : Accounts) : Prop :=
  coinHeld amm acc' = coinHeld amm acc ∧ pcHeld amm acc' = pcHeld amm acc

/-- A settle call pays from the market's vaults into the vaults of the pool. -/
structure PaysHome (amm : AmmInfo) (marketCoinVault marketPcVault : Pubkey) (s : SettleFunds) :
    Prop where
  coinVault : s.coinVault = marketCoinVault
  pcVault : s.pcVault = marketPcVault
  coinWallet : s.coinWallet = amm.coinVault
  pcWallet : s.pcWallet = amm.pcVault

/-- What the settle call draws from a vault of the pool is what it pays into it of the other
    token: nothing, where the two vaults of the pool and the two of the market are apart. -/
def EvenDraw (amm : AmmInfo) (marketCoinVault marketPcVault : Pubkey) (o : OpenOrders) : Prop :=
  (if amm.coinVault = marketCoinVault then o.nativeCoinFree.toNat else 0) +
      (if amm.coinVault = marketPcVault then o.nativePcFree.toNat else 0) =
    (if amm.coinVault = amm.pcVault then o.nativePcFree.toNat else 0) ∧
  (if amm.pcVault = marketCoinVault then o.nativeCoinFree.toNat else 0) +
      (if amm.pcVault = marketPcVault then o.nativePcFree.toNat else 0) =
    (if amm.pcVault = amm.coinVault then o.nativeCoinFree.toNat else 0)

theorem evenDraw_of_apart {amm : AmmInfo} {marketCoinVault marketPcVault : Pubkey}
    {o : OpenOrders} (hpool : amm.coinVault ≠ amm.pcVault)
    (hmarket : ∀ k ∈ [amm.coinVault, amm.pcVault], k ≠ marketCoinVault ∧ k ≠ marketPcVault) :
    EvenDraw amm marketCoinVault marketPcVault o := by
  obtain ⟨hcc, hcp⟩ := hmarket amm.coinVault (by simp)
  obtain ⟨hpc, hpp⟩ := hmarket amm.pcVault (by simp)
  simp [EvenDraw, hcc, hcp, hpc, hpp, hpool, Ne.symm hpool]

/-- A settle call that pays home conserves the pool's holdings exactly where it draws evenly. -/
theorem Settled.conserved_iff {s : SettleFunds} {o : OpenOrders} {acc acc' : Accounts}
    {amm : AmmInfo} {marketCoinVault marketPcVault : Pubkey} (h : Settled s o acc acc')
    (hopen : s.openOrders = amm.openOrders)
    (hhome : PaysHome amm marketCoinVault marketPcVault s) :
    Conserved amm acc acc' ↔ EvenDraw amm marketCoinVault marketPcVault o := by
  obtain ⟨o', hstored', hpaid⟩ := h.paidOut
  have hstored := h.stored
  rw [hopen] at hstored hstored'
  have hcoin := h.balance amm.coinVault
  have hpc := h.balance amm.pcVault
  simp only [SettleFunds.debit, SettleFunds.credit, hhome.coinVault, hhome.pcVault,
    hhome.coinWallet, hhome.pcWallet, if_true] at hcoin hpc
  have hcoinTotal := hpaid.coinTotal
  have hpcTotal := hpaid.pcTotal
  simp only [Conserved, coinHeld, pcHeld, hstored, hstored', EvenDraw]
  constructor
  · rintro ⟨h₁, h₂⟩
    exact ⟨by linarith, by linarith⟩
  · rintro ⟨h₁, h₂⟩
    exact ⟨by linarith, by linarith⟩

namespace Reference

/-- A move of tokens leaves an account of another kind alone. -/
theorem moveTokens_frame {acc acc' : Accounts} {s d k : Pubkey} {n : U64}
    (h : moveTokens acc s d n = some acc') (hk : ∀ t, (acc k).data ≠ .token t) :
    acc' k = acc k :=
  (moveTokens_changes h k).frame hk

theorem withoutFree_paidOut {o : OpenOrders}
    (hfree : o.nativeCoinFree ≤ o.nativeCoinTotal ∧ o.nativePcFree ≤ o.nativePcTotal) :
    PaidOut o (withoutFree o) where
  coinFree := rfl
  pcFree := rfl
  coinTotal := by
    rw [withoutFree, BitVec.toNat_sub_of_le hfree.1]
    exact Nat.sub_add_cancel (BitVec.le_def.mp hfree.1)
  pcTotal := by
    rw [withoutFree, BitVec.toNat_sub_of_le hfree.2]
    exact Nat.sub_add_cancel (BitVec.le_def.mp hfree.2)

/-- The steps of a settle call. -/
theorem settle_eq_some {acc acc' : Accounts} {s : SettleFunds} (h : settle acc s = some acc') :
    ∃ o acc₁ acc₂, (acc s.openOrders).data = .openOrders o ∧
      (o.nativeCoinFree ≤ o.nativeCoinTotal ∧ o.nativePcFree ≤ o.nativePcTotal) ∧
      moveTokens acc s.coinVault s.coinWallet o.nativeCoinFree = some acc₁ ∧
      moveTokens acc₁ s.pcVault s.pcWallet o.nativePcFree = some acc₂ ∧
      acc' = acc₂.setData s.openOrders (.openOrders (withoutFree o)) := by
  unfold settle at h
  cases hdata : (acc s.openOrders).data <;> simp only [hdata, reduceCtorEq] at h
  rename_i o
  split at h
  next hfree =>
    simp only [Option.bind_eq_bind, Option.bind_eq_some_iff, Option.some.injEq] at h
    obtain ⟨acc₁, hcoin, acc₂, hpc, rfl⟩ := h
    exact ⟨o, acc₁, acc₂, rfl, hfree, hcoin, hpc, rfl⟩
  next => cases h

theorem settle_settled {acc acc' : Accounts} {s : SettleFunds} (h : settle acc s = some acc') :
    ∃ o, Settled s o acc acc' := by
  obtain ⟨o, acc₁, acc₂, hdata, hfree, hcoin, hpc, rfl⟩ := settle_eq_some h
  have hframe₁ := moveTokens_frame hcoin (k := s.openOrders) (by simp [hdata])
  have hframe₂ := moveTokens_frame hpc (k := s.openOrders) (by simp [hframe₁, hdata])
  refine ⟨o, hdata, ⟨withoutFree o, by simp [Accounts.setData], withoutFree_paidOut hfree⟩,
    fun k => ?_⟩
  have hwrite : (acc₂.setData s.openOrders (.openOrders (withoutFree o))).balance k =
      acc₂.balance k := by
    by_cases hk : k = s.openOrders
    · subst hk
      simp [Accounts.balance, Accounts.setData, hframe₂, hframe₁, hdata]
    · exact Accounts.balance_setData_of_ne hk
  have hmove₁ := (moveTokens_moves hcoin).balance k
  have hmove₂ := (moveTokens_moves hpc).balance k
  rw [hwrite]
  zify
  simp only [SettleFunds.debit, SettleFunds.credit]
  push_cast
  linarith

theorem settle_grantsNone {acc acc' : Accounts} {s : SettleFunds}
    (h : settle acc s = some acc') : GrantsNone acc acc' := by
  obtain ⟨o, acc₁, acc₂, hdata, -, hcoin, hpc, rfl⟩ := settle_eq_some h
  have hframe₁ := moveTokens_frame hcoin (k := s.openOrders) (by simp [hdata])
  have hframe₂ := moveTokens_frame hpc (k := s.openOrders) (by simp [hframe₁, hdata])
  have hmoved := (grantsNone (moveTokens_changes hcoin)).trans
    (grantsNone (moveTokens_changes hpc))
  refine hmoved.trans (.setData ?_ ?_)
  · simp [hframe₂, hframe₁, hdata]
  · rintro t ⟨⟩

theorem settleMoves : SettleMoves env := by
  intro s infos seeds acc acc' h
  exact settle_settled (settle_of_invoke h)

end Reference

/-! ## 2. The settle calls of a handler -/

/-- Every settle call between `w` and `w'` carries the instruction `s`. -/
def SettlesBy (env : Env) (s : SettleFunds) (w w' : World) : Prop :=
  ∃ new, w'.inner = w.inner ++ new ∧ ∀ e ∈ new, ∀ s', e.cpi.ix = .settleFunds s' →
    s' = s ∧ env.invoke e.cpi e.pre = .ok e.post

namespace SettlesBy

variable {env : Env} {s : SettleFunds} {w w' w'' : World}

theorem trans (h : SettlesBy env s w w') (h' : SettlesBy env s w' w'') : SettlesBy env s w w'' := by
  obtain ⟨new, hnew, hall⟩ := h
  obtain ⟨new', hnew', hall'⟩ := h'
  refine ⟨new ++ new', by rw [hnew', hnew, List.append_assoc], fun e he => ?_⟩
  rcases List.mem_append.mp he with he | he
  · exact hall e he
  · exact hall' e he

/-- A cancel-and-settle sequence. -/
theorem of_calls (h : Calls env (DexCall s) w w') : SettlesBy env s w w' := by
  obtain ⟨new, hnew, hall⟩ := h.trace
  refine ⟨new, hnew, fun e he s' hs' => ?_⟩
  obtain ⟨hcall, hinvoke⟩ := hall e he
  refine ⟨?_, hinvoke⟩
  rcases hcall with ⟨o, ho, -⟩ | hsettle
  · rw [ho] at hs'
    cases hs'
  · exact (Instruction.settleFunds.inj (hsettle.symm.trans hs')).symm

/-- A cancel-and-settle sequence that runs only with the order book on, where its open orders are
    checked. -/
theorem of_orderbook {on : Bool} {openOrders : Pubkey} (hdex : Calls env (DexCall s) w w')
    (hoff : on = false → w' = w) (hopen : on = true → s.openOrders = openOrders) :
    SettlesBy env { s with openOrders := openOrders } w w' := by
  cases on with
  | true =>
    obtain rfl := hopen rfl
    exact .of_calls hdex
  | false =>
    rw [hoff rfl]
    exact .of_calls .refl

/-- A call that does not settle. -/
theorem of_invoke {c : Cpi} (hc : ∀ s', c.ix ≠ .settleFunds s') (h : w.invoke env c = .ok w') :
    SettlesBy env s w w' := by
  obtain ⟨-, -, hinner⟩ := World.frame_of_invoke h
  refine ⟨_, hinner, fun e he s' hs' => ?_⟩
  rw [List.mem_singleton.mp he] at hs'
  exact absurd hs' (hc s')

/-- The borrows and the record that a handler writes back at its end are no calls. -/
theorem of_inner {w₀ w₁ : World} (h : SettlesBy env s w w') (h₀ : w₀.inner = w.inner)
    (h₁ : w₁.inner = w'.inner) : SettlesBy env s w₀ w₁ := by
  simpa only [SettlesBy, h₀, h₁] using h

end SettlesBy

/-! ## 3. The handlers that settle -/

/-- A handler that settles, with its bound accounts. -/
inductive Settler where
  | swapBaseIn (a : SwapAccounts) (swap : SwapInstructionBaseIn)
  | swapBaseOut (a : SwapAccounts) (swap : SwapInstructionBaseOut)
  | withdraw (a : WithdrawAccounts) (withdraw : WithdrawInstruction)
  | monitorStep (a : MonitorAccounts)
  | adminCancelOrders (a : OrdersAccounts)
  | migrateToOpenbook (a : OrdersAccounts)

namespace Settler

/-- The handler after its accounts are bound. -/
def body (env : Env) (programId : Pubkey) : Settler → World → Result World
  | swapBaseIn a swap => swapBaseInBody env programId a swap
  | swapBaseOut a swap => swapBaseOutBody env programId a swap
  | withdraw a instruction => withdrawBody env programId a instruction
  | monitorStep a => monitorBody env programId a
  | adminCancelOrders a => adminCancelOrdersBody env programId a
  | migrateToOpenbook a => migrateToOpenbookBody env programId a

/-- The account of the pool record. -/
def ammKey : Settler → Pubkey
  | swapBaseIn a _ => a.ammInfo.key
  | swapBaseOut a _ => a.ammInfo.key
  | withdraw a _ => a.ammInfo.key
  | monitorStep a => a.ammInfo.key
  | adminCancelOrders a => a.ammInfo.key
  | migrateToOpenbook a => a.ammInfo.key

/-- The account passed as the market's coin vault. -/
def marketCoinVault : Settler → Pubkey
  | swapBaseIn a _ => a.marketCoinVaultInfo.key
  | swapBaseOut a _ => a.marketCoinVaultInfo.key
  | withdraw a _ => a.marketCoinVaultInfo.key
  | monitorStep a => a.marketCoinVaultInfo.key
  | adminCancelOrders a => a.marketCoinVaultInfo.key
  | migrateToOpenbook a => a.marketCoinVaultInfo.key

/-- The account passed as the market's pc vault. -/
def marketPcVault : Settler → Pubkey
  | swapBaseIn a _ => a.marketPcVaultInfo.key
  | swapBaseOut a _ => a.marketPcVaultInfo.key
  | withdraw a _ => a.marketPcVaultInfo.key
  | monitorStep a => a.marketPcVaultInfo.key
  | adminCancelOrders a => a.marketPcVaultInfo.key
  | migrateToOpenbook a => a.marketPcVaultInfo.key

/-- The accounts under which the handler's settle call pays home. -/
def PassesHome (amm : AmmInfo) (w : World) : Settler → Prop
  | swapBaseIn _ _ => True
  | swapBaseOut a _ => TowardsPc a w ∨ a.marketAsksInfo.key = a.marketCoinVaultInfo.key
  | withdraw _ _ => True
  | monitorStep a => a.ammCoinVaultInfo.key = amm.coinVault ∧ a.ammPcVaultInfo.key = amm.pcVault
  | adminCancelOrders a =>
    a.marketCoinVaultInfo.key = amm.coinVault ∧ a.marketPcVaultInfo.key = amm.pcVault
  | migrateToOpenbook a =>
    a.marketCoinVaultInfo.key = amm.coinVault ∧ a.marketPcVaultInfo.key = amm.pcVault

end Settler

/-- The settle calls of a handler all carry one instruction, which names the pool's open orders. -/
def SettlesPool (env : Env) (amm : AmmInfo) (h : Settler) (w w' : World) : Prop :=
  ∃ s, SettlesBy env s w w' ∧ s.openOrders = amm.openOrders ∧
    (PaysHome amm h.marketCoinVault h.marketPcVault s ↔ h.PassesHome amm w)

section Handlers

variable {env : Env} {programId : Pubkey} {amm : AmmInfo} {w w' : World}

/-- The settle calls of a swap, whose exchange calls name the account `coinVaultInfo` as the
    market's coin vault. -/
theorem SwapDone.settlesBy {a : SwapAccounts} {coinVaultInfo : AccountInfo} {c : SwapContext}
    {paid counted out : U64}
    (h : SwapDone env programId a coinVaultInfo amm c paid counted out w w') :
    SettlesBy env { swapSettleIx a coinVaultInfo with openOrders := amm.openOrders } w w' := by
  obtain ⟨w₁, w₂, w₃, s', hcalls, -, hw'⟩ := h.run
  have hdex := SettlesBy.of_orderbook hcalls.dex hcalls.no_dex
    fun hon => (h.checked.marketKeys hon).2.1
  have hpayIn := hdex.trans (.of_invoke (by simp [transferCpi]) hcalls.payIn)
  have hpayOut := hpayIn.trans (.of_invoke (by simp [transferCpi]) hcalls.payOut)
  exact hpayOut.of_inner rfl (by rw [hw', World.dropRefMut_inner])

theorem BaseInDone.settlesPool {a : SwapAccounts} {swap : SwapInstructionBaseIn}
    {c : SwapContext} {q : SwapBaseInQuote} (h : BaseInDone env programId a swap amm c q w w') :
    SettlesPool env amm (.swapBaseIn a swap) w w' :=
  ⟨_, h.done.settlesBy, rfl, iff_of_true
    ⟨rfl, rfl, h.done.checked.coinVault, h.done.checked.pcVault⟩ trivial⟩

theorem BaseOutDone.settlesPool {a : SwapAccounts} {swap : SwapInstructionBaseOut}
    {c : SwapContext} {q : SwapBaseOutQuote} (h : BaseOutDone env programId a swap amm c q w w') :
    SettlesPool env amm (.swapBaseOut a swap) w w' := by
  have hc := h.done.checked
  refine ⟨_, h.done.settlesBy, rfl, ?_⟩
  simp only [Settler.PassesHome, Settler.marketCoinVault, Settler.marketPcVault,
    ← hc.direction_iff]
  cases hdir : c.swapDirection with
  | coin2Pc => exact iff_of_true ⟨rfl, rfl, hc.coinVault, hc.pcVault⟩ (.inl rfl)
  | pc2Coin =>
    exact ⟨fun hhome => .inr hhome.coinVault,
      fun hor => ⟨hor.resolve_left (by decide), rfl, hc.coinVault, hc.pcVault⟩⟩

theorem WithdrawDone.settlesPool {a : WithdrawAccounts} {withdraw : WithdrawInstruction}
    {c : WithdrawContext} {coinAmount pcAmount : U64}
    (h : WithdrawDone env programId a withdraw c coinAmount pcAmount w w') :
    SettlesPool env c.amm (.withdraw a withdraw) w w' := by
  have hc := h.checked
  obtain ⟨w₀, w₁, w₂, w₃, x1, y1, calcPnlX, calcPnlY, lpAmount, hdex, hnone, hcalls, -, -, -, -, -,
    hw'⟩ := h.run
  refine ⟨{ withdrawSettleIx a with openOrders := c.amm.openOrders }, ?_, rfl,
    iff_of_true ⟨rfl, rfl, hc.coinVault, hc.pcVault⟩ trivial⟩
  have hsettle := SettlesBy.of_orderbook hdex hnone fun hon => (hc.marketKeys hon).2
  have hpayCoin := hsettle.trans (.of_invoke (by simp [transferCpi]) hcalls.payCoin)
  have hpayPc := hpayCoin.trans (.of_invoke (by simp [transferCpi]) hcalls.payPc)
  have hburn := hpayPc.trans (.of_invoke (by simp [burnCpi]) hcalls.burn)
  exact hburn.of_inner rfl (by rw [hw', World.dropRefMut_inner, World.dropRefMut_inner])

theorem MonitorDone.settlesPool {a : MonitorAccounts} {c : MonitorContext}
    (h : MonitorDone env programId a c w w') :
    SettlesPool env c.amm (.monitorStep a) w w' := by
  obtain ⟨w₁, hdex, hw'⟩ := h.run
  refine ⟨monitorSettleIx a, (SettlesBy.of_calls hdex).of_inner rfl (by
    rw [hw', World.dropRefMut_inner, World.dropRefMut_inner]), h.checked.openOrders, ?_⟩
  exact ⟨fun hhome => ⟨hhome.coinWallet, hhome.pcWallet⟩, fun hpass => ⟨rfl, rfl, hpass.1, hpass.2⟩⟩

/-- Cancel-all and migration settle into the market's own vaults. -/
theorem OrdersDone.settlesBy {a : OrdersAccounts} (h : OrdersDone env programId a amm w w') :
    SettlesBy env (ordersSettleIx a) w w' := by
  obtain ⟨w₁, marketProgram, hdex, hw'⟩ := h.run
  exact (SettlesBy.of_calls hdex).of_inner rfl (by rw [hw', World.dropRefMut_inner])

theorem ordersSettleIx_paysHome_iff (a : OrdersAccounts) :
    PaysHome amm a.marketCoinVaultInfo.key a.marketPcVaultInfo.key (ordersSettleIx a) ↔
      a.marketCoinVaultInfo.key = amm.coinVault ∧ a.marketPcVaultInfo.key = amm.pcVault :=
  ⟨fun hhome => ⟨hhome.coinWallet, hhome.pcWallet⟩, fun hpass => ⟨rfl, rfl, hpass.1, hpass.2⟩⟩

/-- The settle calls of every handler that settles. -/
theorem Settler.settlesPool {h : Settler} (hamm : (w.accounts h.ammKey).data = .amm amm)
    (hrun : h.body env programId w = .ok w') : SettlesPool env amm h w w' := by
  cases h with
  | swapBaseIn a swap =>
    obtain ⟨amm₀, c, q, hdone⟩ := swapBaseInBody_eq_ok hrun
    obtain rfl : amm₀ = amm := AccountData.amm_unique hdone.done.checked.stored hamm
    exact hdone.settlesPool
  | swapBaseOut a swap =>
    obtain ⟨amm₀, c, q, hdone⟩ := swapBaseOutBody_eq_ok hrun
    obtain rfl : amm₀ = amm := AccountData.amm_unique hdone.done.checked.stored hamm
    exact hdone.settlesPool
  | withdraw a withdraw =>
    obtain ⟨c, coinAmount, pcAmount, hdone⟩ := withdrawBody_eq_ok hrun
    obtain rfl : c.amm = amm := AccountData.amm_unique hdone.checked.stored hamm
    exact hdone.settlesPool
  | monitorStep a =>
    obtain ⟨c, hdone⟩ := monitorBody_eq_ok hrun
    obtain rfl : c.amm = amm := AccountData.amm_unique hdone.checked.stored hamm
    exact hdone.settlesPool
  | adminCancelOrders a =>
    obtain ⟨amm₀, hdone⟩ := adminCancelOrdersBody_eq_ok hrun
    obtain rfl : amm₀ = amm := AccountData.amm_unique hdone.stored hamm
    exact ⟨_, hdone.settlesBy, hdone.openOrders, ordersSettleIx_paysHome_iff a⟩
  | migrateToOpenbook a =>
    obtain ⟨amm₀, hdone⟩ := migrateToOpenbookBody_eq_ok hrun
    obtain rfl : amm₀ = amm := AccountData.amm_unique hdone.stored hamm
    exact ⟨_, hdone.settlesBy, hdone.openOrders, ordersSettleIx_paysHome_iff a⟩

end Handlers

/-- A settle call of a handler conserves what the pool holds and pays from the market's vaults into
    those of the pool exactly where the handler passes the accounts that say so and the settle call
    draws evenly: never otherwise in a cancel-all or a migration, and in an exact-out swap towards
    coin only where the asks account is the market's coin vault. -/
theorem settle_conserves_iff {env : Env} (hdex : SettleMoves env) {programId : Pubkey}
    {h : Settler} {w w' : World} {amm : AmmInfo} (hamm : (w.accounts h.ammKey).data = .amm amm)
    (hrun : h.body env programId w = .ok w') :
    ∃ new, w'.inner = w.inner ++ new ∧ ∀ e ∈ new, ∀ s, e.cpi.ix = .settleFunds s →
      ∃ o, (e.pre amm.openOrders).data = .openOrders o ∧
        (Conserved amm e.pre e.post ∧ PaysHome amm h.marketCoinVault h.marketPcVault s ↔
          h.PassesHome amm w ∧ EvenDraw amm h.marketCoinVault h.marketPcVault o) := by
  obtain ⟨s, ⟨new, hnew, hall⟩, hopen, hhome⟩ := Settler.settlesPool hamm hrun
  refine ⟨new, hnew, fun e he s' hs' => ?_⟩
  obtain ⟨rfl, hinvoke⟩ := hall e he s' hs'
  obtain ⟨⟨ix, infos, seeds⟩, pre, post⟩ := e
  obtain rfl : ix = .settleFunds s' := hs'
  obtain ⟨o, hsettled⟩ := hdex hinvoke
  refine ⟨o, hopen ▸ hsettled.stored, ?_⟩
  rw [← hhome]
  constructor
  · rintro ⟨hcons, hpays⟩
    exact ⟨hpays, (hsettled.conserved_iff hopen hpays).mp hcons⟩
  · rintro ⟨hpays, heven⟩
    exact ⟨(hsettled.conserved_iff hopen hpays).mpr heven, hpays⟩

open Reference in
/-- A withdraw of 100 shares settles 10 coin and 20 pc home. -/
theorem settle_conserves_iff_withdraw :
    ∃ w' e, withdrawBody env program withdrawAccounts ⟨100, none, none⟩ settleWorld = .ok w' ∧
      e ∈ w'.inner ∧ e.cpi.ix = .settleFunds (withdrawSettleIx withdrawAccounts) ∧
      Conserved (pool .initialized 1000) e.pre e.post ∧
      PaysHome (pool .initialized 1000) (key 21) (key 22) (withdrawSettleIx withdrawAccounts) := by
  have hrun := eq_ok_result (r := withdrawBody env program withdrawAccounts ⟨100, none, none⟩
    settleWorld) (by decide)
  have hamm : (settleWorld.accounts (key 10)).data = .amm (pool .initialized 1000) := rfl
  obtain ⟨new, hnew, hall⟩ := settle_conserves_iff settleMoves
    (h := .withdraw withdrawAccounts ⟨100, none, none⟩) hamm hrun
  obtain ⟨e, he, hsettle⟩ : ∃ e ∈ (result (withdrawBody env program withdrawAccounts
      ⟨100, none, none⟩ settleWorld)).inner,
      e.cpi.ix = .settleFunds (withdrawSettleIx withdrawAccounts) :=
    ⟨_, List.head_mem (by decide), by decide⟩
  obtain ⟨o, -, hiff⟩ := hall e (by rw [← List.nil_append new]; exact hnew ▸ he) _ hsettle
  exact ⟨_, e, hrun, he, hsettle, hiff.mpr ⟨trivial, evenDraw_of_apart (by decide) (by decide)⟩⟩

open Reference in
/-- A cancel-all settles 10 coin and 20 pc from the market's vaults into the market's vaults. -/
theorem cancel_settles_away :
    ¬∀ (env : Env) (programId : Pubkey) (h : Settler) (w w' : World) (amm : AmmInfo)
      (new : List InnerInstruction), SettleMoves env → (w.accounts h.ammKey).data = .amm amm →
      h.body env programId w = .ok w' → w'.inner = w.inner ++ new →
      ∀ e ∈ new, ∀ s, e.cpi.ix = .settleFunds s → Conserved amm e.pre e.post ∧
        PaysHome amm h.marketCoinVault h.marketPcVault s := by
  intro h
  have hrun := eq_ok_result (r := adminCancelOrdersBody env program ordersAccounts settleWorld)
    (by decide)
  have hamm : (settleWorld.accounts (key 10)).data = .amm (pool .initialized 1000) := rfl
  have hcons := (h env program (.adminCancelOrders ordersAccounts) settleWorld _ _ _ settleMoves
    hamm hrun rfl _ (List.head_mem (by decide)) (ordersSettleIx ordersAccounts) (by decide)).1
  revert hcons
  unfold Conserved
  decide

end RaydiumAmm
