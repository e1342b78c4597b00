import RaydiumAmm.Custody

/-!
# Isolation

What an operation on a pool `B` can take from the vaults of another pool `A`. Both pools may sign
with one authority, so that only the keys in the two records keep them apart.

1. `PoolAction`: the swaps, deposits and withdraws, with the accounts that they debit and credit.
2. An account that is apart from pool `B` is spared.
3. `pool_isolation`: when an operation on `B` spares the vaults of `A`.
-/

namespace RaydiumAmm

/-! ## 1. Operations on a pool -/

/-- A swap, deposit or withdraw with its bound accounts. -/
inductive PoolAction where
  | swapBaseIn (a : SwapAccounts) (swap : SwapInstructionBaseIn)
  | swapBaseOut (a : SwapAccounts) (swap : SwapInstructionBaseOut)
  | deposit (a : DepositAccounts) (deposit : DepositInstruction)
  | withdraw (a : WithdrawAccounts) (withdraw : WithdrawInstruction)

/-- The vault that a swap pays into. -/
def swapInVault (amm : AmmInfo) (a : SwapAccounts) (w : World) : Pubkey :=
  if TowardsPc a w then amm.coinVault else amm.pcVault

/-- The vault that a swap takes from. -/
def swapOutVault (amm : AmmInfo) (a : SwapAccounts) (w : World) : Pubkey :=
  if TowardsPc a w then amm.pcVault else amm.coinVault

namespace PoolAction

/-- The operation after its accounts are bound. -/
def body (env : Env) (programId : Pubkey) : PoolAction → World → Result World
  | swapBaseIn a swap => swapBaseInBody env programId a swap
  | swapBaseOut a swap => swapBaseOutBody env programId a swap
  | deposit a instruction => depositBody env programId a instruction
  | withdraw a instruction => withdrawBody env programId a instruction

/-- The account of the pool record. -/
def ammKey : PoolAction → Pubkey
  | swapBaseIn a _ => a.ammInfo.key
  | swapBaseOut a _ => a.ammInfo.key
  | deposit a _ => a.ammInfo.key
  | withdraw a _ => a.ammInfo.key

/-- The wallet by whose authority tokens or shares leave the user's accounts. -/
def user : PoolAction → Pubkey
  | swapBaseIn a _ => a.userSourceOwner.key
  | swapBaseOut a _ => a.userSourceOwner.key
  | deposit a _ => a.sourceOwnerInfo.key
  | withdraw a _ => a.sourceLpOwnerInfo.key

/-- The user's authority is one by which the operation could take from `v`: a withdraw burns, the
    others move tokens. -/
def MayTake (w : World) (v : Pubkey) : PoolAction → Prop
  | withdraw a _ => w.accounts.MayBurn v a.sourceLpOwnerInfo.key
  | op => w.accounts.MaySpend v op.user

/-- The settle instructions that the operation can issue. -/
def settles : PoolAction → List SettleFunds
  | swapBaseIn a _ => [swapSettleIx a a.marketCoinVaultInfo]
  | swapBaseOut a _ => [swapSettleIx a a.marketCoinVaultInfo, swapSettleIx a a.marketAsksInfo]
  | deposit _ _ => []
  | withdraw a _ => [withdrawSettleIx a]

/-- The accounts that the operation takes tokens or shares from. -/
def debits (amm : AmmInfo) (w : World) : PoolAction → List Pubkey
  | swapBaseIn a _ => [a.userSourceInfo.key, swapOutVault amm a w]
  | swapBaseOut a _ => [a.userSourceInfo.key, swapOutVault amm a w]
  | deposit a _ => [a.userSourceCoinInfo.key, a.userSourcePcInfo.key]
  | withdraw a _ => [amm.coinVault, amm.pcVault, a.userSourceLpInfo.key]

/-- The accounts that the operation pays tokens or shares into. -/
def credits (amm : AmmInfo) (w : World) : PoolAction → List Pubkey
  | swapBaseIn a _ => [swapInVault amm a w, a.userDestinationInfo.key]
  | swapBaseOut a _ => [swapInVault amm a w, a.userDestinationInfo.key]
  | deposit a _ => [amm.coinVault, amm.pcVault, a.userDestLpInfo.key]
  | withdraw a _ => [a.userDestCoinInfo.key, a.userDestPcInfo.key]

/-- The exchange calls of the operation leave the balance of `v` as it is. -/
def ExchangeIdle (env : Env) (w : World) (v : Pubkey) (op : PoolAction) : Prop :=
  ∀ s ∈ op.settles, ∀ w₀ w₁ : World, w₀.accounts = w.accounts →
    Calls env (DexCall s) w₀ w₁ → w₁.balance v = w₀.balance v

/-- The account `v` is apart from the operation: it is no vault of the pool, the user's authority
    does not reach it, and no settle instruction names it as a payer. -/
structure Apart (amm : AmmInfo) (w : World) (op : PoolAction) (v : Pubkey) : Prop where
  coinVault : v ≠ amm.coinVault
  pcVault : v ≠ amm.pcVault
  user : ¬op.MayTake w v
  market : ∀ s ∈ op.settles, s.Spares v

end PoolAction

/-! ## 2. Accounts apart -/

section Actions

variable {env : Env} {programId v : Pubkey} {w w' : World} {amm : AmmInfo}

/-- The two vaults of a swap, by the direction that the user's accounts choose. -/
theorem SwapChecked.vaults_eq {a : SwapAccounts} {c : SwapContext}
    (h : SwapChecked env programId a w amm c) :
    (c.swapDirection.inVaultInfo a).key = swapInVault amm a w ∧
      (c.swapDirection.outVaultInfo a).key = swapOutVault amm a w := by
  rw [h.inVaultInfo_key, h.outVaultInfo_key, swapInVault, swapOutVault]
  cases hdir : c.swapDirection with
  | coin2Pc =>
    have hto := h.direction_iff.mp hdir
    exact ⟨(if_pos hto).symm, (if_pos hto).symm⟩
  | pc2Coin =>
    have hfrom : ¬TowardsPc a w := fun hto => by simpa [hdir] using h.direction_iff.mpr hto
    exact ⟨(if_neg hfrom).symm, (if_neg hfrom).symm⟩

/-- The exchange calls of a swap spare what its settle instruction spares. -/
theorem SwapCalls.exchange {a : SwapAccounts} {c : SwapContext} {coinVaultInfo : AccountInfo}
    {paid out : U64} {w₀ w₁ w₂ w₃ : World}
    (hcalls : SwapCalls env a c coinVaultInfo paid out w₀ w₁ w₂ w₃)
    (hdex : c.enableOrderbook = true → Exchange env a.marketProgramInfo.key)
    (hv : (swapSettleIx a coinVaultInfo).Spares v) :
    Spared v w₀ w₁ ∧ GrantsNone w₀.accounts w₁.accounts := by
  cases hon : c.enableOrderbook with
  | true => exact Exchange.calls (s := swapSettleIx a coinVaultInfo) (hdex hon) hv hcalls.dex
  | false =>
    rw [hcalls.no_dex hon]
    exact ⟨le_refl _, .refl _⟩

/-- A swap spares the accounts apart from it. -/
theorem SwapDone.spared {a : SwapAccounts} {coinVaultInfo : AccountInfo} {c : SwapContext}
    {paid counted out : U64} (hexact : ExactTokens env) (hspenders : TokenSpenders env)
    (hdex : Exchange env amm.marketProgram)
    (h : SwapDone env programId a coinVaultInfo amm c paid counted out w w')
    (hcoin : v ≠ amm.coinVault) (hpc : v ≠ amm.pcVault)
    (huser : ¬w.accounts.MaySpend v a.userSourceOwner.key)
    (hsettle : (swapSettleIx a coinVaultInfo).Spares v) : Spared v w w' := by
  have hc := h.checked
  obtain ⟨w₁, w₂, w₃, s', hcalls, -, rfl⟩ := h.run
  obtain ⟨hexchange, hgrants⟩ :=
    hcalls.exchange (fun hon => (hc.marketKeys hon).1 ▸ hdex) hsettle
  obtain ⟨hin, -⟩ :=
    hspenders.spared hexact hc.tokenProgram hcalls.payIn (mt hgrants.maySpend huser)
  have hout : Spared v w₂ w₃ := by
    refine (hexact.moves hcalls.payOut).spared fun heq => ?_
    rw [hc.outVaultInfo_key] at heq
    cases hdir : c.swapDirection with
    | coin2Pc => exact absurd (by simpa [hdir] using heq) hpc
    | pc2Coin => exact absurd (by simpa [hdir] using heq) hcoin
  have hamm : ∀ t, (w.accounts a.ammInfo.key).data ≠ .token t := by simp [hc.stored]
  exact Spared.dropRefMut (le_trans (le_trans hexchange hin) hout) hamm

/-- A withdraw spares the accounts apart from it. -/
theorem WithdrawDone.spared {a : WithdrawAccounts} {withdraw : WithdrawInstruction}
    {c : WithdrawContext} {coinAmount pcAmount : U64} (hexact : ExactTokens env)
    (hspenders : TokenSpenders env) (hdex : Exchange env c.amm.marketProgram)
    (h : WithdrawDone env programId a withdraw c coinAmount pcAmount w w')
    (hcoin : v ≠ c.amm.coinVault) (hpc : v ≠ c.amm.pcVault)
    (huser : ¬w.accounts.MayBurn v a.sourceLpOwnerInfo.key)
    (hsettle : (withdrawSettleIx a).Spares v) : Spared v w w' := by
  have hc := h.checked
  obtain ⟨w₀, w₁, w₂, w₃, x1, y1, calcPnlX, calcPnlY, lpAmount, hcancel, hnone, hcalls, -, -, -, -,
    -, hw'⟩ := h.run
  have hspl := hc.tokenProgram
  have hexchange : Spared v w w₀ ∧ GrantsNone w.accounts w₀.accounts := by
    cases hon : c.amm.orderbookOn with
    | true =>
      have hprogram : Exchange env a.marketProgramInfo.key := by
        rw [(hc.marketKeys hon).1]
        exact hdex
      have hsame := Exchange.calls (s := withdrawSettleIx a) hprogram hsettle hcancel
      exact hsame
    | false =>
      rw [hnone hon]
      exact ⟨le_refl _, .refl _⟩
  have hpayCoin : Spared v w₀ w₁ :=
    (hexact.moves hcalls.payCoin).spared fun heq => absurd (heq.trans hc.coinVault) hcoin
  have hpayPc : Spared v w₁ w₂ :=
    (hexact.moves hcalls.payPc).spared fun heq => absurd (heq.trans hc.pcVault) hpc
  have hgrants : GrantsNone w.accounts w₂.accounts :=
    (hexchange.2.trans (hspenders.of_invoke hspl hcalls.payCoin).2).trans
      (hspenders.of_invoke hspl hcalls.payPc).2
  have hburn : Spared v w₂ w₃ := by
    have heffect := World.effect_of_invoke hcalls.burn
    have hb := hexact.burn heffect v
    rw [burnCpi, hspl] at heffect
    have hne : v ≠ a.userSourceLpInfo.key := by
      rintro rfl
      exact huser (hgrants.mayBurn (hspenders.burn heffect))
    rw [if_neg hne] at hb
    unfold Spared World.balance
    omega
  have hcalled : Spared v w w₃ :=
    le_trans (le_trans (le_trans hexchange.1 hpayCoin) hpayPc) hburn
  have htarget : ∀ t, (w.accounts a.ammTargetOrdersInfo.key).data ≠ .token t := by
    simp [hc.storedTarget]
  have hamm : ∀ t, (w.accounts a.ammInfo.key).data ≠ .token t := by simp [hc.stored]
  rw [hw']
  exact (hcalled.dropRefMut htarget).dropRefMut hamm

/-- Every operation spares the accounts apart from it. -/
theorem PoolAction.Apart.spared {op : PoolAction} (hexact : ExactTokens env)
    (hspenders : TokenSpenders env) (hdex : Exchange env amm.marketProgram)
    (hamm : (w.accounts op.ammKey).data = .amm amm) (hrun : op.body env programId w = .ok w')
    (h : op.Apart amm w v) : Spared v w w' := by
  cases op with
  | swapBaseIn a swap =>
    obtain ⟨amm₀, c, q, hdone⟩ := swapBaseInBody_eq_ok hrun
    obtain rfl : amm₀ = amm := AccountData.amm_unique hdone.done.checked.stored hamm
    exact hdone.done.spared hexact hspenders hdex h.coinVault h.pcVault h.user
      (h.market _ (by simp [settles]))
  | swapBaseOut a swap =>
    obtain ⟨amm₀, c, q, hdone⟩ := swapBaseOutBody_eq_ok hrun
    obtain rfl : amm₀ = amm := AccountData.amm_unique hdone.done.checked.stored hamm
    refine hdone.done.spared hexact hspenders hdex h.coinVault h.pcVault h.user (h.market _ ?_)
    cases c.swapDirection <;> simp [settles, baseOutCoinVaultInfo]
  | deposit a instruction =>
    obtain ⟨c, d, hdone⟩ := depositBody_eq_ok hrun
    exact hdone.spared hexact hspenders h.user
  | withdraw a instruction =>
    obtain ⟨c, coinAmount, pcAmount, hdone⟩ := withdrawBody_eq_ok hrun
    obtain rfl : c.amm = amm := AccountData.amm_unique hdone.checked.stored hamm
    exact hdone.spared hexact hspenders hdex h.coinVault h.pcVault h.user
      (h.market _ (by simp [settles]))

/-! ## 3. Accounts debited -/

/-- Without a payment into `v` a transfer does not raise its balance. -/
theorem Moves.balance_le {s d : Pubkey} {n : ℕ} {acc acc' : Accounts} (h : Moves s d n acc acc')
    (hd : v ≠ d) : acc'.balance v ≤ acc.balance v := by
  have hb := h.balance v
  rw [if_neg hd] at hb
  split at hb <;> omega

/-- A transfer out of `v` to another account lowers its balance. -/
theorem Moves.balance_lt {d : Pubkey} {n : ℕ} {acc acc' : Accounts} (h : Moves v d n acc acc')
    (hd : v ≠ d) (hn : 0 < n) : acc'.balance v < acc.balance v := by
  have hb := h.balance v
  rw [if_neg hd, if_pos rfl] at hb
  omega

/-- An account that someone can spend is not a record. -/
theorem ne_of_maySpend {acc : Accounts} {k k' au : Pubkey} (h : acc.MaySpend k au)
    (h' : ∀ t, (acc k').data ≠ .token t) : k ≠ k' := by
  rintro rfl
  exact not_maySpend_of_not_token h' h

/-- Where the accounts that a swap debits are not credited and the exchange leaves `v` alone, a
    swap spares `v` exactly where it does not debit it. -/
theorem SwapDone.spared_iff {a : SwapAccounts} {coinVaultInfo : AccountInfo} {c : SwapContext}
    {paid counted out : U64} (hexact : ExactTokens env)
    (h : SwapDone env programId a coinVaultInfo amm c paid counted out w w')
    (hpaid : 0 < paid.toNat) (hout : 0 < out.toNat)
    (hapart : ∀ k ∈ [a.userSourceInfo.key, swapOutVault amm a w],
      k ∉ [swapInVault amm a w, a.userDestinationInfo.key])
    (hidle : ∀ w₀ w₁ : World, w₀.accounts = w.accounts →
      Calls env (DexCall (swapSettleIx a coinVaultInfo)) w₀ w₁ → w₁.balance v = w₀.balance v) :
    Spared v w w' ↔ v ∉ [a.userSourceInfo.key, swapOutVault amm a w] := by
  have hc := h.checked
  obtain ⟨w₁, w₂, w₃, s', hcalls, -, rfl⟩ := h.run
  have hstart : w₁.balance v = w.balance v :=
    hidle { w with borrowed := a.ammInfo.key :: w.borrowed } w₁ rfl hcalls.dex
  have hin := hexact.moves hcalls.payIn
  have hout' := hexact.moves hcalls.payOut
  rw [hc.vaults_eq.1] at hin
  rw [hc.vaults_eq.2] at hout'
  have hamm : ∀ t, (w.accounts a.ammInfo.key).data ≠ .token t := by simp [hc.stored]
  constructor
  · intro hspared hmem
    have hcredit := hapart v hmem
    simp only [List.mem_cons, List.not_mem_nil, or_false, not_or] at hcredit hmem
    have hrecord : v ≠ a.ammInfo.key := by
      rcases hmem with rfl | rfl
      · exact ne_of_token_of_amm hc.sourceToken hc.stored
      · unfold swapOutVault
        split
        · exact ne_of_token_of_amm hc.pcToken hc.stored
        · exact ne_of_token_of_amm hc.coinToken hc.stored
    have hfall : w₃.balance v < w₁.balance v := by
      have hle₂ := hin.balance_le hcredit.1
      have hle₃ := hout'.balance_le hcredit.2
      rcases hmem with rfl | rfl
      · exact lt_of_le_of_lt hle₃ (hin.balance_lt hcredit.1 hpaid)
      · exact lt_of_lt_of_le (hout'.balance_lt hcredit.2 hout) hle₂
    rw [hstart] at hfall
    refine absurd hspared (Nat.not_le.mpr ?_)
    rw [World.balance, World.dropRefMut_accounts, Accounts.balance_setData_of_ne hrecord]
    exact hfall
  · intro hnot
    simp only [List.mem_cons, List.not_mem_nil, or_false, not_or] at hnot
    have hspared₂ : Spared v w₁ w₂ := hin.spared fun heq => absurd heq hnot.1
    have hspared₃ : Spared v w₂ w₃ := hout'.spared fun heq => absurd heq hnot.2
    exact Spared.dropRefMut (le_trans (le_of_eq hstart.symm) (le_trans hspared₂ hspared₃)) hamm

/-- The same for a deposit, which makes no exchange calls. -/
theorem DepositDone.spared_iff {a : DepositAccounts} {deposit : DepositInstruction}
    {c : DepositContext} {d : DepositAmounts} (hexact : ExactTokens env)
    (hspenders : TokenSpenders env) (h : DepositDone env programId a deposit c d w w')
    (hapart : ∀ k ∈ [a.userSourceCoinInfo.key, a.userSourcePcInfo.key],
      k ∉ [c.amm.coinVault, c.amm.pcVault, a.userDestLpInfo.key]) :
    Spared v w w' ↔ v ∉ [a.userSourceCoinInfo.key, a.userSourcePcInfo.key] := by
  have hc := h.checked
  obtain ⟨w₁, w₂, w₃, x1, y1, calcPnlX, calcPnlY, lpAmount, hcalls, -, -, -, -, -, hw'⟩ := h.run
  have hcoin := hexact.moves hcalls.payCoin
  have hpc := hexact.moves hcalls.payPc
  have hmint := hexact.mintTo (World.effect_of_invoke hcalls.mint) v
  rw [hc.coinVault] at hcoin
  rw [hc.pcVault] at hpc
  have hamm : ∀ t, (w.accounts a.ammInfo.key).data ≠ .token t := by simp [hc.stored]
  have htarget : ∀ t, (w.accounts a.ammTargetOrdersInfo.key).data ≠ .token t := by
    simp [hc.storedTarget]
  constructor
  · intro hspared hmem
    have hcredit := hapart v hmem
    simp only [List.mem_cons, List.not_mem_nil, or_false, not_or] at hcredit hmem
    obtain ⟨hspendCoin, hgrants⟩ := hspenders.of_invoke h.tokenProgram hcalls.payCoin
    have hspendPc := hgrants.maySpend (hspenders.of_invoke h.tokenProgram hcalls.payPc).1
    have hrecords : v ≠ a.ammInfo.key ∧ v ≠ a.ammTargetOrdersInfo.key := by
      rcases hmem with rfl | rfl
      · exact ⟨ne_of_maySpend hspendCoin hamm, ne_of_maySpend hspendCoin htarget⟩
      · exact ⟨ne_of_maySpend hspendPc hamm, ne_of_maySpend hspendPc htarget⟩
    have hfall : w₃.balance v < w.balance v := by
      have hle₁ := hcoin.balance_le hcredit.1
      have hle₂ := hpc.balance_le hcredit.2.1
      rw [if_neg hcredit.2.2, add_zero, Nat.cast_inj] at hmint
      have hlt : w₂.balance v < w.balance v := by
        rcases hmem with rfl | rfl
        · exact lt_of_le_of_lt hle₂ (hcoin.balance_lt hcredit.1 h.coin_pos)
        · exact lt_of_lt_of_le (hpc.balance_lt hcredit.2.1 h.pc_pos) hle₁
      exact lt_of_eq_of_lt hmint hlt
    refine absurd hspared (Nat.not_le.mpr ?_)
    rw [hw', World.balance, World.dropRefMut_accounts, Accounts.balance_setData_of_ne hrecords.1,
      World.dropRefMut_accounts, Accounts.balance_setData_of_ne hrecords.2]
    exact hfall
  · intro hnot
    simp only [List.mem_cons, List.not_mem_nil, or_false, not_or] at hnot
    have hspared₁ : Spared v w w₁ := hcoin.spared fun heq => absurd heq hnot.1
    have hspared₂ : Spared v w₁ w₂ := hpc.spared fun heq => absurd heq hnot.2
    have hspared₃ : Spared v w₂ w₃ := by
      unfold Spared World.balance
      split at hmint <;> omega
    have hcalled : Spared v w w₃ := le_trans (le_trans hspared₁ hspared₂) hspared₃
    rw [hw']
    exact (hcalled.dropRefMut htarget).dropRefMut hamm

/-- The same for a withdraw. -/
theorem WithdrawDone.spared_iff {a : WithdrawAccounts} {withdraw : WithdrawInstruction}
    {c : WithdrawContext} {coinAmount pcAmount : U64} (hexact : ExactTokens env)
    (h : WithdrawDone env programId a withdraw c coinAmount pcAmount w w')
    (hapart : ∀ k ∈ [c.amm.coinVault, c.amm.pcVault, a.userSourceLpInfo.key],
      k ∉ [a.userDestCoinInfo.key, a.userDestPcInfo.key])
    (hidle : ∀ w₀ w₁ : World, w₀.accounts = w.accounts →
      Calls env (DexCall (withdrawSettleIx a)) w₀ w₁ → w₁.balance v = w₀.balance v) :
    Spared v w w' ↔ v ∉ [c.amm.coinVault, c.amm.pcVault, a.userSourceLpInfo.key] := by
  have hc := h.checked
  obtain ⟨w₀, w₁, w₂, w₃, x1, y1, calcPnlX, calcPnlY, lpAmount, hdex, -, hcalls, -, -, -, -, -,
    hw'⟩ := h.run
  have hstart : w₀.balance v = w.balance v := hidle { w with
    borrowed := a.ammTargetOrdersInfo.key :: a.ammInfo.key :: w.borrowed } w₀ rfl hdex
  have hcoin := hexact.moves hcalls.payCoin
  have hpc := hexact.moves hcalls.payPc
  have hburn := hexact.burn (World.effect_of_invoke hcalls.burn) v
  rw [hc.coinVault] at hcoin
  rw [hc.pcVault] at hpc
  have hamm : ∀ t, (w.accounts a.ammInfo.key).data ≠ .token t := by simp [hc.stored]
  have htarget : ∀ t, (w.accounts a.ammTargetOrdersInfo.key).data ≠ .token t := by
    simp [hc.storedTarget]
  constructor
  · intro hspared hmem
    have hcredit := hapart v hmem
    simp only [List.mem_cons, List.not_mem_nil, or_false, not_or] at hcredit hmem
    have htoken : ∃ t, (w.accounts v).data = .token t := by
      rcases hmem with rfl | rfl | rfl
      · exact ⟨_, hc.coinToken⟩
      · exact ⟨_, hc.pcToken⟩
      · obtain ⟨t, ht, -⟩ := hc.sourceLp
        exact ⟨t, ht⟩
    obtain ⟨t, ht⟩ := htoken
    have hfall : w₃.balance v < w₀.balance v := by
      have hle₁ := hcoin.balance_le hcredit.1
      have hle₂ := hpc.balance_le hcredit.2
      have hle₃ : w₃.balance v ≤ w₂.balance v := by
        unfold World.balance
        split at hburn <;> omega
      rcases hmem with rfl | rfl | rfl
      · exact lt_of_le_of_lt (le_trans hle₃ hle₂) (hcoin.balance_lt hcredit.1 h.coin_pos)
      · exact lt_of_le_of_lt hle₃ (lt_of_lt_of_le (hpc.balance_lt hcredit.2 h.pc_pos) hle₁)
      · have hamount := h.amount_pos
        rw [if_pos rfl] at hburn
        unfold World.balance at hle₃ ⊢
        omega
    rw [hstart] at hfall
    refine absurd hspared (Nat.not_le.mpr ?_)
    rw [hw', World.balance, World.dropRefMut_accounts,
      Accounts.balance_setData_of_ne (ne_of_token_of_amm ht hc.stored), World.dropRefMut_accounts,
      Accounts.balance_setData_of_ne (ne_of_token_of_target ht hc.storedTarget)]
    exact hfall
  · intro hnot
    simp only [List.mem_cons, List.not_mem_nil, or_false, not_or] at hnot
    have hspared₁ : Spared v w₀ w₁ := hcoin.spared fun heq => absurd heq hnot.1
    have hspared₂ : Spared v w₁ w₂ := hpc.spared fun heq => absurd heq hnot.2.1
    have hspared₃ : Spared v w₂ w₃ := by
      rw [if_neg hnot.2.2] at hburn
      unfold Spared World.balance
      omega
    have hcalled : Spared v w w₃ :=
      le_trans (le_of_eq hstart.symm) (le_trans (le_trans hspared₁ hspared₂) hspared₃)
    rw [hw']
    exact (hcalled.dropRefMut htarget).dropRefMut hamm

/-- Where an operation does not credit the accounts that it debits and its exchange calls leave `v`
    alone, it spares `v` exactly where it does not debit it. -/
theorem PoolAction.spared_iff {op : PoolAction} (hexact : ExactTokens env)
    (hspenders : TokenSpenders env) (hamm : (w.accounts op.ammKey).data = .amm amm)
    (hrun : op.body env programId w = .ok w')
    (hapart : ∀ k ∈ op.debits amm w, k ∉ op.credits amm w) (hidle : op.ExchangeIdle env w v) :
    Spared v w w' ↔ v ∉ op.debits amm w := by
  cases op with
  | swapBaseIn a swap =>
    obtain ⟨amm₀, c, q, hdone⟩ := swapBaseInBody_eq_ok hrun
    obtain rfl : amm₀ = amm := AccountData.amm_unique hdone.done.checked.stored hamm
    refine hdone.done.spared_iff hexact ?_ hdone.out_pos hapart (hidle _ (by simp [settles]))
    cases c.swapDirection with
    | coin2Pc => exact hdone.in_pos
    | pc2Coin => exact hdone.out_pos
  | swapBaseOut a swap =>
    obtain ⟨amm₀, c, q, hdone⟩ := swapBaseOutBody_eq_ok hrun
    obtain rfl : amm₀ = amm := AccountData.amm_unique hdone.done.checked.stored hamm
    refine hdone.done.spared_iff hexact hdone.in_pos hdone.out_pos hapart (hidle _ ?_)
    cases c.swapDirection <;> simp [settles, baseOutCoinVaultInfo]
  | deposit a instruction =>
    obtain ⟨c, d, hdone⟩ := depositBody_eq_ok hrun
    obtain rfl : c.amm = amm := AccountData.amm_unique hdone.checked.stored hamm
    exact hdone.spared_iff hexact hspenders hapart
  | withdraw a instruction =>
    obtain ⟨c, coinAmount, pcAmount, hdone⟩ := withdrawBody_eq_ok hrun
    obtain rfl : c.amm = amm := AccountData.amm_unique hdone.checked.stored hamm
    exact hdone.spared_iff hexact hapart (hidle _ (by simp [settles]))

end Actions

/-- Isolation of two pools. An operation on pool `B` (1) takes nothing from the vaults of `A` where
    these are apart from it: no vaults of `B`, out of reach of the user's authority, and not named
    as payers of a settle call. (2) Where it does not credit the accounts that it debits and its
    exchange calls leave the vaults of `A` alone, it takes nothing from them exactly where it debits
    neither. -/
theorem pool_isolation {env : Env} (hexact : ExactTokens env) (hspenders : TokenSpenders env)
    {programId : Pubkey} (ammA : AmmInfo) {ammB : AmmInfo} (op : PoolAction) {w w' : World}
    (hdex : Exchange env ammB.marketProgram) (hamm : (w.accounts op.ammKey).data = .amm ammB)
    (hrun : op.body env programId w = .ok w') :
    ((∀ v ∈ [ammA.coinVault, ammA.pcVault], op.Apart ammB w v) →
      ∀ v ∈ [ammA.coinVault, ammA.pcVault], w.balance v ≤ w'.balance v) ∧
    ((∀ k ∈ op.debits ammB w, k ∉ op.credits ammB w) →
      (∀ v ∈ [ammA.coinVault, ammA.pcVault], op.ExchangeIdle env w v) →
      ((∀ v ∈ [ammA.coinVault, ammA.pcVault], w.balance v ≤ w'.balance v) ↔
        ∀ v ∈ [ammA.coinVault, ammA.pcVault], v ∉ op.debits ammB w)) := by
  constructor
  · intro hapart v hv
    exact (hapart v hv).spared hexact hspenders hdex hamm hrun
  · intro hapart hidle
    exact forall₂_congr fun v hv =>
      PoolAction.spared_iff hexact hspenders hamm hrun hapart (hidle v hv)

open Reference in
/-- A deposit on one pool, with another pool of its own vaults. -/
theorem pool_isolation_deposit :
    ∃ w', depositBody env program depositAccounts ⟨1000, 10000, 0, none⟩ (twoPools 64 65) = .ok w' ∧
      (∀ v ∈ [key 64, key 65], (twoPools 64 65).balance v ≤ w'.balance v) ∧
      ∀ v ∈ [key 64, key 65], v ∉ [key 31, key 32] := by
  obtain ⟨w', hrun⟩ : ∃ w', depositBody env program depositAccounts ⟨1000, 10000, 0, none⟩
      (twoPools 64 65) = .ok w' := Outcome.exists_of_isOk (by decide)
  have hamm : ((twoPools 64 65).accounts (key 10)).data =
      .amm (initialAmmInfo creation ⟨0, 0, 0, 0⟩ 1000) := rfl
  obtain ⟨hspared, hiff⟩ := pool_isolation exactTokens tokenSpenders
    (initialAmmInfo (otherCreation 64 65) ⟨0, 0, 0, 0⟩ 1000)
    (.deposit depositAccounts ⟨1000, 10000, 0, none⟩) dexExchange hamm hrun
  have hnone : ∀ s, s ∉ PoolAction.settles (.deposit depositAccounts ⟨1000, 10000, 0, none⟩) :=
    fun s => List.not_mem_nil
  have hkept : ∀ v ∈ [key 64, key 65], (twoPools 64 65).balance v ≤ w'.balance v := by
    refine hspared fun v hv => ?_
    have hcoin : v ≠ key 13 := by
      revert v
      decide
    have hpc : v ≠ key 14 := by
      revert v
      decide
    have huser : ¬(twoPools 64 65).accounts.MaySpend v (key 30) := by
      revert v
      decide
    exact ⟨hcoin, hpc, huser, fun s hs => absurd hs (hnone s)⟩
  exact ⟨w', hrun, hkept, (hiff (by decide) fun v _ s hs => absurd hs (hnone s)).mp hkept⟩

open Reference in
/-- A second pool was created on the vaults of the first: a swap on the first pool takes pc out of
    the pc vault of the second. -/
theorem pools_share_vaults :
    ¬∀ (env : Env) (programId : Pubkey) (a b : InitializeAccounts)
      (initA initB : InitializeInstruction2) (lpA lpB : U64) (op : PoolAction) (w w' : World),
      ExactTokens env → TokenSpenders env → Exchange env b.marketProgramInfo.key →
      initializePrologue env programId a initA = .ok () →
      initializePrologue env programId b initB = .ok () →
      a.ammInfo.key ≠ b.ammInfo.key →
      (w.accounts a.ammInfo.key).data = .amm (initialAmmInfo a initA lpA) →
      (w.accounts b.ammInfo.key).data = .amm (initialAmmInfo b initB lpB) →
      op.ammKey = b.ammInfo.key → op.body env programId w = .ok w' →
      ∀ v ∈ [(initialAmmInfo a initA lpA).coinVault, (initialAmmInfo a initA lpA).pcVault],
        w.balance v ≤ w'.balance v := by
  intro h
  have hrun := eq_ok_result (r := swapBaseInBody env program (swapAccounts 31 32) ⟨1000, 0⟩
    (twoPools 13 14)) (by decide)
  have hspared := h env program (otherCreation 13 14) creation ⟨0, 0, 0, 0⟩ ⟨0, 0, 0, 0⟩ 1000 1000
    (.swapBaseIn (swapAccounts 31 32) ⟨1000, 0⟩) (twoPools 13 14) _ exactTokens tokenSpenders
    dexExchange (by decide) (by decide) (by decide) rfl rfl rfl hrun (key 14) (by decide)
  revert hspared
  decide

end RaydiumAmm
