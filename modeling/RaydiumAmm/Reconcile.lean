import RaydiumAmm.Product
import RaydiumAmm.Runs

/-!
# Swap counters against swap transfers

The counters `swap_coin_in_amount`, `swap_coin_out_amount`, `swap_pc_in_amount` and
`swap_pc_out_amount` of a pool against what the swaps' own transfers did to its vaults, over runs
of swaps of either kind. The two agree where the first transfer moves what the counter records,
and for an exact-in swap towards coin that is a coincidence of the price.
-/

namespace RaydiumAmm

open ConstantProduct Rounding

/-! ## 1. Transfers -/

/-- The call was a token transfer. -/
def InnerInstruction.isTransfer (e : InnerInstruction) : Bool :=
  match e.cpi.ix with
  | .transfer .. => true
  | _ => false

/-- What the transfers among `entries` did to the balance of `k`. -/
def transferNet (k : Pubkey) (entries : List InnerInstruction) : ℤ :=
  ((entries.filter (·.isTransfer)).map fun e => (e.post.balance k : ℤ) - e.pre.balance k).sum

theorem transferNet_append (k : Pubkey) (l l' : List InnerInstruction) :
    transferNet k (l ++ l') = transferNet k l + transferNet k l' := by
  simp [transferNet]

theorem transferNet_eq_zero {k : Pubkey} {l : List InnerInstruction}
    (h : ∀ e ∈ l, e.isTransfer = false) : transferNet k l = 0 := by
  have : l.filter (·.isTransfer) = [] := by
    rw [List.filter_eq_nil_iff]
    intro e he
    simp [h e he]
  simp [transferNet, this]

/-- The exchange calls are no transfers. -/
theorem DexCall.not_isTransfer {s : SettleFunds} {e : InnerInstruction} (h : DexCall s e.cpi) :
    e.isTransfer = false := by
  rcases h with ⟨o, ho, -⟩ | hs
  · simp [InnerInstruction.isTransfer, ho]
  · simp [InnerInstruction.isTransfer, hs]

/-! ## 2. One swap -/

/-- What `new` transfers did to the two vaults is what the counters of the pool grew by. -/
structure Reconciled (coinVault pcVault : Pubkey) (s s' : StateData)
    (new : List InnerInstruction) : Prop where
  coin : transferNet coinVault new =
    ((s'.swapCoinInAmount.toNat : ℤ) - s.swapCoinInAmount.toNat) -
      ((s'.swapCoinOutAmount.toNat : ℤ) - s.swapCoinOutAmount.toNat)
  pc : transferNet pcVault new =
    ((s'.swapPcInAmount.toNat : ℤ) - s.swapPcInAmount.toNat) -
      ((s'.swapPcOutAmount.toNat : ℤ) - s.swapPcOutAmount.toNat)

theorem Reconciled.refl (coinVault pcVault : Pubkey) (s : StateData) :
    Reconciled coinVault pcVault s s [] where
  coin := by simp [transferNet]
  pc := by simp [transferNet]

theorem Reconciled.trans {coinVault pcVault : Pubkey} {s s' s'' : StateData}
    {new new' : List InnerInstruction} (h : Reconciled coinVault pcVault s s' new)
    (h' : Reconciled coinVault pcVault s' s'' new') :
    Reconciled coinVault pcVault s s'' (new ++ new') where
  coin := by
    rw [transferNet_append, h.coin, h'.coin]
    omega
  pc := by
    rw [transferNet_append, h.pc, h'.pc]
    omega

section Done

variable {env : Env} {programId : Pubkey} {a : SwapAccounts} {coinVaultInfo : AccountInfo}
  {amm : AmmInfo} {c : SwapContext} {paid counted out : U64} {w w' : World}

/-- What the two transfers of a swap did to the two vaults. -/
theorem SwapDone.transfers (hexact : ExactTokens env) (hvaults : amm.coinVault ≠ amm.pcVault)
    (h : SwapDone env programId a coinVaultInfo amm c paid counted out w w') :
    ∃ new, w'.inner = w.inner ++ new ∧
      transferNet amm.coinVault new = c.swapDirection.coinAfter 0 paid.toNat out.toNat ∧
      transferNet amm.pcVault new = c.swapDirection.pcAfter 0 paid.toNat out.toNat := by
  obtain ⟨w₁, w₂, w₃, s', hcalls, -, rfl⟩ := h.run
  have hc := h.checked
  obtain ⟨dex, hdex, hall⟩ := hcalls.dex.trace
  have hinner := World.inner_of_two_invokes hcalls.payIn hcalls.payOut
  rw [hdex, List.append_assoc] at hinner
  refine ⟨_, hinner, ?_⟩
  have hnone : ∀ k, transferNet k dex = 0 := fun k =>
    transferNet_eq_zero fun e he => (hall e he).1.not_isTransfer
  -- the vaults after the two transfers, from the balances after the exchange calls
  have hpaid := hc.vaults_after hvaults (hexact.moves hcalls.payIn) (hexact.moves hcalls.payOut)
  simp only [World.balance] at hpaid
  simp only [transferNet_append, hnone]
  simp only [transferNet, InnerInstruction.isTransfer, transferCpi, List.filter_cons, if_true,
    List.filter_nil, List.map_cons, List.map_nil, List.sum_cons, List.sum_nil]
  cases hdir : c.swapDirection with
  | coin2Pc =>
    simp only [hdir, SwapDirection.coinAfter, SwapDirection.pcAfter] at hpaid ⊢
    omega
  | pc2Coin =>
    simp only [hdir, SwapDirection.coinAfter, SwapDirection.pcAfter] at hpaid ⊢
    omega

/-- The swap's counters agree with its transfers exactly where the first transfer moves the amount
    that the counter records. -/
theorem SwapDone.reconciled_iff (hexact : ExactTokens env) (hvaults : amm.coinVault ≠ amm.pcVault)
    (h : SwapDone env programId a coinVaultInfo amm c paid counted out w w') :
    ∃ amm' new, (w'.accounts a.ammInfo.key).data = .amm amm' ∧ SameTotals amm amm' ∧
      w'.inner = w.inner ++ new ∧
      (Reconciled amm.coinVault amm.pcVault amm.stateData amm'.stateData new ↔
        paid.toNat = counted.toNat) := by
  obtain ⟨amm', hstored, hsame, hcounted⟩ := h.record
  obtain ⟨new, hnew, hcoin, hpc⟩ := h.transfers hexact hvaults
  refine ⟨amm', new, hstored, hsame, hnew, ?_⟩
  have hci := hcounted.coinIn
  have hco := hcounted.coinOut
  have hpi := hcounted.pcIn
  have hpo := hcounted.pcOut
  cases hdir : c.swapDirection with
  | coin2Pc =>
    simp only [hdir, SwapDirection.coinAfter, SwapDirection.pcAfter, if_true] at *
    constructor
    · intro hr
      have := hr.coin
      omega
    · intro heq
      constructor <;> omega
  | pc2Coin =>
    simp only [hdir, SwapDirection.coinAfter, SwapDirection.pcAfter, reduceCtorEq, if_false] at *
    constructor
    · intro hr
      have := hr.pc
      omega
    · intro heq
      constructor <;> omega

end Done

/-! ## 3. The calls of a run -/

/-- A request to one of the two swap handlers. -/
inductive SwapRequest where
  | baseIn (swap : SwapInstructionBaseIn)
  | baseOut (swap : SwapInstructionBaseOut)

/-- A call of a swap handler. -/
structure SwapCall where
  accounts : List AccountInfo
  request : SwapRequest

/-- The call of either handler. -/
def processSwap (env : Env) (programId : Pubkey) (c : SwapCall) (w : World) : Result World :=
  match c.request with
  | .baseIn swap => processSwapBaseIn env programId c.accounts swap w
  | .baseOut swap => processSwapBaseOut env programId c.accounts swap w

/-- A successful swap call on the pool `ammKey`, at a time of its own. -/
def SwapStep (env : Env) (programId ammKey : Pubkey) (w : World) (c : SwapCall) (w' : World) :
    Prop :=
  ∃ a clock, bindSwap c.accounts = .ok a ∧ a.ammInfo.key = ammKey ∧
    processSwap env programId c { w with clock := clock, borrowed := [] } = .ok w'

/-- What `amountIn` of pc, less its fee `k`, buys is `amountIn` of coin. -/
def BuysItself (fees : Fees) (amountIn : ℕ) (coin pc : ℤ) : Prop :=
  ∃ k : ℕ, FeeAtLeast fees amountIn k ∧ ¬FeeAtLeast fees amountIn (k + 1) ∧
    amountIn * (pc + (amountIn - k)) ≤ coin * (amountIn - k) ∧
    coin * (amountIn - k) < (amountIn + 1) * (pc + (amountIn - k))

theorem BaseInQuoted.buysItself_iff {fees : Fees} {amountIn pc coin : ℕ} {q : SwapBaseInQuote}
    (h : BaseInQuoted fees amountIn pc coin q) :
    BuysItself fees amountIn coin pc ↔ q.swapAmountOut.toNat = amountIn := by
  have hle : ∀ k, FeeAtLeast fees amountIn k ↔ k ≤ q.swapFee.toNat := fun k => by
    rw [h.fee, le_softCeil_iff h.denominator_pos]
    rfl
  have hnet : (amountIn : ℤ) - q.swapFee.toNat = q.swapInAfterDeductFee.toNat := by
    have := h.net
    omega
  have hpos := h.reserve_pos
  have hquote : q.swapAmountOut.toNat = amountIn ↔
      amountIn * (pc + q.swapInAfterDeductFee.toNat) ≤ coin * q.swapInAfterDeductFee.toNat ∧
        coin * q.swapInAfterDeductFee.toNat <
          (amountIn + 1) * (pc + q.swapInAfterDeductFee.toNat) := by
    rw [h.out, outGivenIn, Nat.div_eq_iff hpos, Nat.add_mul, Nat.one_mul]
    omega
  rw [hquote]
  constructor
  · rintro ⟨k, hk, hk', hlow, hhigh⟩
    obtain rfl : k = q.swapFee.toNat := by
      have h₁ := (hle k).mp hk
      have h₂ := mt (hle (k + 1)).mpr hk'
      omega
    rw [hnet] at hlow hhigh
    exact ⟨by exact_mod_cast hlow, by exact_mod_cast hhigh⟩
  · rintro ⟨hlow, hhigh⟩
    refine ⟨q.swapFee.toNat, (hle _).mpr le_rfl, ?_, ?_, ?_⟩
    · rw [hle]
      omega
    · rw [hnet]
      exact_mod_cast hlow
    · rw [hnet]
      exact_mod_cast hhigh

/-- The condition on a call: an exact-in swap goes towards pc, or it buys its own amount. -/
def MeetsLedger (env : Env) (w : World) (c : SwapCall) : Prop :=
  match c.request with
  | .baseOut _ => True
  | .baseIn swap => ∀ a amm, bindSwap c.accounts = .ok a →
      (w.accounts a.ammInfo.key).data = .amm amm →
      TowardsPc a w ∨
        BuysItself amm.fees swap.amountIn.toNat (coinTotal env a amm w) (pcTotal env a amm w)

/-- An exact-in swap took exactly its amount in from the user, and gave at least the minimum. -/
def DebitsExactly (c : SwapCall) (w' : World) : Prop :=
  match c.request with
  | .baseOut _ => True
  | .baseIn swap => ∀ a, bindSwap c.accounts = .ok a →
      ∃ before payIn payOut, w'.inner = before ++ [payIn, payOut] ∧
        (payIn.post.balance a.userSourceInfo.key : ℤ) =
          payIn.pre.balance a.userSourceInfo.key - swap.amountIn.toNat ∧
        payOut.pre.balance a.userDestinationInfo.key + swap.minimumAmountOut.toNat ≤
          payOut.post.balance a.userDestinationInfo.key

section BaseIn

variable {env : Env} {programId : Pubkey} {a : SwapAccounts} {swap : SwapInstructionBaseIn}
  {amm : AmmInfo} {c : SwapContext} {q : SwapBaseInQuote} {w w' : World}

/-- The amount that an exact-in swap pays in is the amount in exactly under the condition. -/
theorem BaseInDone.paid_eq_iff (h : BaseInDone env programId a swap amm c q w w') :
    (baseInPaid c.swapDirection swap.amountIn q.swapAmountOut).toNat = swap.amountIn.toNat ↔
      TowardsPc a w ∨
        BuysItself amm.fees swap.amountIn.toNat (coinTotal env a amm w) (pcTotal env a amm w) := by
  have hchecked := h.done.checked
  rw [← hchecked.direction_iff]
  cases hdir : c.swapDirection with
  | coin2Pc => simp [baseInPaid]
  | pc2Coin =>
    have hquoted := h.quoted
    simp only [hdir, SwapDirection.reserveIn, SwapDirection.reserveOut] at hquoted
    simp only [baseInPaid, reduceCtorEq, false_or]
    rw [← hchecked.coinTotal, ← hchecked.pcTotal]
    exact hquoted.buysItself_iff.symm

/-- The user is debited what the first transfer moves and credited the amount out. -/
theorem BaseInDone.debits_iff (hexact : ExactTokens env)
    (h : BaseInDone env programId a swap amm c q w w') :
    (∃ before payIn payOut, w'.inner = before ++ [payIn, payOut] ∧
      (payIn.post.balance a.userSourceInfo.key : ℤ) =
        payIn.pre.balance a.userSourceInfo.key - swap.amountIn.toNat ∧
      payOut.pre.balance a.userDestinationInfo.key + swap.minimumAmountOut.toNat ≤
        payOut.post.balance a.userDestinationInfo.key) ↔
      (baseInPaid c.swapDirection swap.amountIn q.swapAmountOut).toNat = swap.amountIn.toNat := by
  have hchecked := h.done.checked
  have hmin := h.minimum
  obtain ⟨before, payIn, payOut, hinner, hin, hout⟩ := h.done.payments hexact
  have hsource : a.userSourceInfo.key ≠ (c.swapDirection.inVaultInfo a).key := by
    rw [hchecked.inVaultInfo_key]
    cases c.swapDirection with
    | coin2Pc => exact hchecked.source_ne_coin
    | pc2Coin => exact hchecked.source_ne_pc
  have hdest : a.userDestinationInfo.key ≠ (c.swapDirection.outVaultInfo a).key := by
    rw [hchecked.outVaultInfo_key]
    cases c.swapDirection with
    | coin2Pc => exact hchecked.destination_ne_pc
    | pc2Coin => exact hchecked.destination_ne_coin
  have hdebit := hin.balance a.userSourceInfo.key
  have hcredit := hout.balance a.userDestinationInfo.key
  simp only [if_neg hsource, if_true] at hdebit
  simp only [if_neg hdest, if_true] at hcredit
  constructor
  · rintro ⟨before', payIn', payOut', hinner', hdebit', -⟩
    rw [hinner] at hinner'
    obtain ⟨-, hlast⟩ := List.append_inj' hinner' rfl
    simp only [List.cons.injEq, and_true] at hlast
    obtain ⟨rfl, rfl⟩ := hlast
    omega
  · intro heq
    exact ⟨before, payIn, payOut, hinner, by omega, by omega⟩

end BaseIn

/-! ## 4. Runs -/

section Runs

variable {env : Env} {programId ammKey : Pubkey} {w w' : World} {c : SwapCall} {amm : AmmInfo}

/-- An exact-in call debits exactly its amount exactly under the condition. -/
theorem SwapStep.debits_iff (hexact : ExactTokens env)
    (h : SwapStep env programId ammKey w c w') : DebitsExactly c w' ↔ MeetsLedger env w c := by
  obtain ⟨a, clock, hbind, -, hrun⟩ := h
  unfold DebitsExactly MeetsLedger
  cases hreq : c.request with
  | baseOut swap => rfl
  | baseIn swap =>
    simp only [processSwap, hreq, processSwapBaseIn, hbind, Outcome.ok_bind] at hrun
    obtain ⟨amm, ctx, q, hdone⟩ := swapBaseInBody_eq_ok hrun
    have hstored := hdone.done.checked.stored
    have hiff := (hdone.debits_iff hexact).trans hdone.paid_eq_iff
    constructor
    · intro hdebits a' amm' hbind' hstored'
      obtain rfl : a = a' := Except.ok.inj (hbind.symm.trans hbind')
      obtain rfl : amm = amm' := AccountData.amm_unique hstored hstored'
      exact hiff.mp (hdebits a hbind)
    · intro hmeets a' hbind'
      obtain rfl : a = a' := Except.ok.inj (hbind.symm.trans hbind')
      exact hiff.mpr (hmeets a amm hbind hstored)

/-- One swap under the condition. -/
theorem SwapStep.reconciled (hexact : ExactTokens env)
    (h : SwapStep env programId ammKey w c w') (hmeets : MeetsLedger env w c)
    (hamm : (w.accounts ammKey).data = .amm amm) (hvaults : amm.coinVault ≠ amm.pcVault) :
    ∃ amm' new, (w'.accounts ammKey).data = .amm amm' ∧ SameTotals amm amm' ∧
      w'.inner = w.inner ++ new ∧
      Reconciled amm.coinVault amm.pcVault amm.stateData amm'.stateData new := by
  obtain ⟨a, clock, hbind, rfl, hrun⟩ := h
  unfold MeetsLedger at hmeets
  cases hreq : c.request with
  | baseIn swap =>
    simp only [processSwap, hreq, processSwapBaseIn, hbind, Outcome.ok_bind] at hrun hmeets
    obtain ⟨amm₀, ctx, q, hdone⟩ := swapBaseInBody_eq_ok hrun
    obtain rfl : amm = amm₀ := AccountData.amm_unique hamm hdone.done.checked.stored
    obtain ⟨amm', new, hstored, hsame, hnew, hiff⟩ := hdone.done.reconciled_iff hexact hvaults
    exact ⟨amm', new, hstored, hsame, hnew,
      hiff.mpr (hdone.paid_eq_iff.mpr (hmeets a amm rfl hamm))⟩
  | baseOut swap =>
    simp only [processSwap, hreq, processSwapBaseOut, hbind, Outcome.ok_bind] at hrun
    obtain ⟨amm₀, ctx, q, hdone⟩ := swapBaseOutBody_eq_ok hrun
    obtain rfl : amm = amm₀ := AccountData.amm_unique hamm hdone.done.checked.stored
    obtain ⟨amm', new, hstored, hsame, hnew, hiff⟩ := hdone.done.reconciled_iff hexact hvaults
    exact ⟨amm', new, hstored, hsame, hnew, hiff.mpr rfl⟩

/-- Over every run of successful swaps of either kind and direction on a pool with two distinct
    vaults: the counters agree with the transfers and every exact-in swap debits exactly its amount
    and credits at least its minimum, exactly where every exact-in swap of the run goes towards pc
    or buys its own amount. -/
theorem swapRun_reconciles_iff (hexact : ExactTokens env)
    (hamm : (w.accounts ammKey).data = .amm amm) (hvaults : amm.coinVault ≠ amm.pcVault)
    {calls : List SwapCall} :
    ((∃ amm' new, (w'.accounts ammKey).data = .amm amm' ∧ w'.inner = w.inner ++ new ∧
        Reconciled amm.coinVault amm.pcVault amm.stateData amm'.stateData new) ∧
      Runs.Run (fun w c w' => SwapStep env programId ammKey w c w' ∧ DebitsExactly c w')
        w calls w') ↔
    Runs.Run (fun w c w' => SwapStep env programId ammKey w c w' ∧ MeetsLedger env w c)
      w calls w' := by
  constructor
  · rintro ⟨-, hrun⟩
    exact hrun.mono fun w c w' h => ⟨h.1, (h.1.debits_iff hexact).mp h.2⟩
  · intro hrun
    refine ⟨?_, hrun.mono fun w c w' h => ⟨h.1, (h.1.debits_iff hexact).mpr h.2⟩⟩
    -- the counters and the transfers since the start agree, and the vaults stay
    have hinv : ∃ amm' new, (w'.accounts ammKey).data = .amm amm' ∧
        w'.inner = w.inner ++ new ∧ SameTotals amm amm' ∧
        Reconciled amm.coinVault amm.pcVault amm.stateData amm'.stateData new := by
      refine hrun.inv (I := fun w' => ∃ amm' new, (w'.accounts ammKey).data = .amm amm' ∧
        w'.inner = w.inner ++ new ∧ SameTotals amm amm' ∧
        Reconciled amm.coinVault amm.pcVault amm.stateData amm'.stateData new) ?_ ?_
      · rintro w₁ c w₂ ⟨hstep, hmeets⟩ ⟨amm₁, new₁, hstored₁, hnew₁, hsame₁, hr₁⟩
        have hvaults₁ : amm₁.coinVault ≠ amm₁.pcVault := by
          rw [hsame₁.coinVault, hsame₁.pcVault]
          exact hvaults
        obtain ⟨amm₂, new₂, hstored₂, hsame₂, hnew₂, hr₂⟩ :=
          hstep.reconciled hexact hmeets hstored₁ hvaults₁
        rw [hsame₁.coinVault, hsame₁.pcVault] at hr₂
        refine ⟨amm₂, new₁ ++ new₂, hstored₂, ?_, hsame₁.trans hsame₂, hr₁.trans hr₂⟩
        rw [hnew₂, hnew₁, List.append_assoc]
      · exact ⟨amm, [], hamm, by simp, .refl amm, .refl _ _ _⟩
    obtain ⟨amm', new, hstored, hnew, -, hr⟩ := hinv
    exact ⟨amm', new, hstored, hnew, hr⟩

end Runs

open Reference in
/-- A swap of 1000 coin for pc, and one of pc for 1000 coin in the next epoch. -/
theorem swapRun_reconciles_two_swaps :
    ∃ (w' : World) (amm' : AmmInfo) (new : List InnerInstruction),
      (w'.accounts (key 10)).data = .amm amm' ∧ w'.inner = swapWorld.inner ++ new ∧
      Reconciled (key 13) (key 14) (pool .swapOnly 1000).stateData amm'.stateData new := by
  have hbind₁ : bindSwap (swapInfos 31 32) = .ok (swapAccounts 31 32) := rfl
  have hbind₂ : bindSwap (swapInfos 32 31) = .ok (swapAccounts 32 31) := rfl
  have hamm : (swapWorld.accounts (key 10)).data = .amm (pool .swapOnly 1000) := rfl
  have hrun₁ := eq_ok_result (r := processSwap env program
    ⟨swapInfos 31 32, .baseIn ⟨1000, 0⟩⟩ swapWorld) (by decide)
  obtain ⟨w', hrun₂⟩ : ∃ w', processSwap env program ⟨swapInfos 32 31, .baseOut ⟨10000, 1000⟩⟩
      { result (processSwap env program ⟨swapInfos 31 32, .baseIn ⟨1000, 0⟩⟩ swapWorld) with
        clock := ⟨60, 1⟩, borrowed := [] } = .ok w' :=
    Outcome.exists_of_isOk (by decide)
  have hmeets : MeetsLedger env swapWorld ⟨swapInfos 31 32, .baseIn ⟨1000, 0⟩⟩ := by
    intro a amm hbind _
    obtain rfl : swapAccounts 31 32 = a := Except.ok.inj (hbind₁.symm.trans hbind)
    exact .inl (by decide)
  have hrun : Runs.Run (fun w c w' => SwapStep env program (key 10) w c w' ∧ MeetsLedger env w c)
      swapWorld ([⟨swapInfos 31 32, .baseIn ⟨1000, 0⟩⟩] ++
        [⟨swapInfos 32 31, .baseOut ⟨10000, 1000⟩⟩]) w' :=
    .snoc (.single ⟨⟨_, ⟨0, 0⟩, hbind₁, rfl, hrun₁⟩, hmeets⟩)
      ⟨⟨_, ⟨60, 1⟩, hbind₂, rfl, hrun₂⟩, trivial⟩
  obtain ⟨⟨amm', new, hstored, hnew, hr⟩, -⟩ :=
    (swapRun_reconciles_iff exactTokens hamm (by decide)).mpr hrun
  exact ⟨w', amm', new, hstored, hnew, hr⟩

open Reference in
/-- A swap of 1000 pc for coin: the counter grows by 1000, the pc vault by what the user gets. -/
theorem swapRun_not_reconciled :
    ¬∀ (env : Env) (programId ammKey : Pubkey) (w w' : World) (amm : AmmInfo)
      (calls : List SwapCall), ExactTokens env → (w.accounts ammKey).data = .amm amm →
      amm.coinVault ≠ amm.pcVault → Runs.Run (SwapStep env programId ammKey) w calls w' →
      ∃ amm' new, (w'.accounts ammKey).data = .amm amm' ∧ w'.inner = w.inner ++ new ∧
        Reconciled amm.coinVault amm.pcVault amm.stateData amm'.stateData new := by
  intro h
  have hbind : bindSwap (swapInfos 32 31) = .ok (swapAccounts 32 31) := rfl
  have hamm : (swapWorld.accounts (key 10)).data = .amm (pool .swapOnly 1000) := rfl
  have hrun := eq_ok_result (r := processSwap env program
    ⟨swapInfos 32 31, .baseIn ⟨1000, 0⟩⟩ swapWorld) (by decide)
  obtain ⟨amm', new, hstored, hnew, hr⟩ := h env program (key 10) swapWorld _ _ _ exactTokens hamm
    (by decide) (Runs.Run.single ⟨_, ⟨0, 0⟩, hbind, rfl, hrun⟩)
  have hamm' := data_of_ammAt (w := result (processSwap env program
    ⟨swapInfos 32 31, .baseIn ⟨1000, 0⟩⟩ swapWorld)) (k := key 10) (Option.some_get (by decide)).symm
  obtain rfl := AccountData.amm_unique hstored hamm'
  have hpc := hr.pc
  rw [← show _ = new from hnew] at hpc
  revert hpc
  decide

end RaydiumAmm
