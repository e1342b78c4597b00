import RaydiumAmm.Records

/-!
# Custody

What each instruction can take out of a given token account `v`, a pool vault above all.

1. `Spared v w w'`: the balance of `v` does not fall, with the rules for calls and writes.
2. The handlers that spare every account, and those that spare `v` under a condition.
3. `vault_custody`: an SRM withdrawal, and over every run the instructions that take from `v`.
-/

namespace RaydiumAmm

/-! ## 1. Spared accounts -/

/-- The balance of `v` does not fall. -/
def Spared (v : Pubkey) (w w' : World) : Prop :=
  w.balance v ≤ w'.balance v

/-- An account that is not a token account holds nothing. -/
theorem balance_of_not_token {acc : Accounts} {k : Pubkey} (h : ∀ t, (acc k).data ≠ .token t) :
    acc.balance k = 0 := by
  unfold Accounts.balance
  split
  next t heq => exact absurd heq (h t)
  next => rfl

theorem not_maySpend_of_not_token {acc : Accounts} {k au : Pubkey}
    (h : ∀ t, (acc k).data ≠ .token t) : ¬acc.MaySpend k au := by
  have hholder : acc.holder k = none := by
    unfold Accounts.holder
    split
    next t heq => exact absurd heq (h t)
    next => rfl
  have hdelegate : acc.delegate k = none := by
    unfold Accounts.delegate
    split
    next t heq => exact absurd heq (h t)
    next => rfl
  rw [Accounts.MaySpend, hholder, hdelegate]
  simp

/-- A write over a record spares every account. -/
theorem Spared.setData {v key : Pubkey} {w w₁ w' : World} {data : AccountData}
    (h : Spared v w w₁) (hkey : ∀ t, (w.accounts key).data ≠ .token t)
    (hw' : w'.accounts = w₁.accounts.setData key data) : Spared v w w' := by
  unfold Spared World.balance at *
  by_cases hv : v = key
  · rw [hv, balance_of_not_token hkey]
    exact Nat.zero_le _
  · rw [hw', Accounts.balance_setData_of_ne hv]
    exact h

theorem Spared.dropRefMut {v key : Pubkey} {w w₁ : World} {data : AccountData}
    (h : Spared v w w₁) (hkey : ∀ t, (w.accounts key).data ≠ .token t) :
    Spared v w (w₁.dropRefMut key data) :=
  h.setData hkey rfl

/-- Tokens leave their source alone. -/
theorem Moves.spared {v s d : Pubkey} {n : ℕ} {acc acc' : Accounts} (h : Moves s d n acc acc')
    (hv : v = s → v = d) : acc.balance v ≤ acc'.balance v := by
  have hb := h.balance v
  by_cases hs : v = s
  · rw [if_pos hs, if_pos (hv hs)] at hb
    omega
  · rw [if_neg hs] at hb
    split at hb <;> omega

/-- The program at `p` is an exchange: its calls give no one a right to an account, a cancel call
    moves no tokens and a settle call moves the free funds. -/
structure Exchange (env : Env) (p : Pubkey) : Prop where
  cancel : ∀ {o : CancelOrders} {infos seeds acc acc'}, o.dexProgram = p →
    env.invoke ⟨.cancelOrders o, infos, seeds⟩ acc = .ok acc' →
      (∀ k, acc'.balance k = acc.balance k) ∧ GrantsNone acc acc'
  settle : ∀ {s : SettleFunds} {infos seeds acc acc'}, s.dexProgram = p →
    env.invoke ⟨.settleFunds s, infos, seeds⟩ acc = .ok acc' →
      (∃ o, Settled s o acc acc') ∧ GrantsNone acc acc'

/-- What the settle instruction `s` draws from `v` it pays into `v`. -/
def SettleFunds.Spares (s : SettleFunds) (v : Pubkey) : Prop :=
  (v = s.coinVault → v = s.coinWallet) ∧ (v = s.pcVault → v = s.pcWallet)

theorem Settled.spared {s : SettleFunds} {o : OpenOrders} {acc acc' : Accounts} {v : Pubkey}
    (h : Settled s o acc acc') (hv : s.Spares v) : acc.balance v ≤ acc'.balance v := by
  have hb := h.balance v
  have hcoin : (if v = s.coinVault then o.nativeCoinFree.toNat else 0) ≤
      if v = s.coinWallet then o.nativeCoinFree.toNat else 0 := by
    by_cases hs : v = s.coinVault
    · rw [if_pos hs, if_pos (hv.1 hs)]
    · rw [if_neg hs]
      exact Nat.zero_le _
  have hpc : (if v = s.pcVault then o.nativePcFree.toNat else 0) ≤
      if v = s.pcWallet then o.nativePcFree.toNat else 0 := by
    by_cases hs : v = s.pcVault
    · rw [if_pos hs, if_pos (hv.2 hs)]
    · rw [if_neg hs]
      exact Nat.zero_le _
  simp only [SettleFunds.debit, SettleFunds.credit] at hb
  linarith

/-- The calls of a cancel-and-settle sequence. -/
theorem Exchange.calls {env : Env} {s : SettleFunds} {v : Pubkey} {w w' : World}
    (hdex : Exchange env s.dexProgram) (hv : s.Spares v)
    (h : Calls env (DexCall s) w w') :
    Spared v w w' ∧ GrantsNone w.accounts w'.accounts := by
  refine h.inv (Q := fun w' => Spared v w w' ∧ GrantsNone w.accounts w'.accounts) ?_
    ⟨le_refl _, .refl _⟩
  rintro ⟨ix, infos, seeds⟩ w₁ w₂ hcall hinvoke ⟨hspared, hgrants⟩
  have hrun := World.effect_of_invoke hinvoke
  rcases hcall with ⟨o, rfl, ho⟩ | rfl
  · obtain ⟨hsame, hgrants'⟩ := hdex.cancel ho hrun
    exact ⟨le_of_le_of_eq hspared (hsame v).symm, hgrants.trans hgrants'⟩
  · obtain ⟨⟨o, hsettled⟩, hgrants'⟩ := hdex.settle rfl hrun
    exact ⟨le_trans hspared (hsettled.spared hv), hgrants.trans hgrants'⟩

section Spenders

variable {env : Env} {tokenProgram source destination authority : AccountInfo}
  {seeds : List (List (List U8))} {amount : U64} {v : Pubkey} {w w' : World}

theorem TokenSpenders.of_invoke (hspenders : TokenSpenders env)
    (hspl : tokenProgram.key = splTokenId)
    (h : w.invoke env (transferCpi tokenProgram source destination authority seeds amount) =
      .ok w') :
    w.accounts.MaySpend source.key authority.key ∧ GrantsNone w.accounts w'.accounts := by
  have heffect := World.effect_of_invoke h
  rw [transferCpi, hspl] at heffect
  exact hspenders.transfer heffect

/-- A transfer by `authority` spares an account that `authority` can not spend. -/
theorem TokenSpenders.spared (hexact : ExactTokens env) (hspenders : TokenSpenders env)
    (hspl : tokenProgram.key = splTokenId)
    (h : w.invoke env (transferCpi tokenProgram source destination authority seeds amount) =
      .ok w')
    (hv : ¬w.accounts.MaySpend v authority.key) :
    Spared v w w' ∧ GrantsNone w.accounts w'.accounts := by
  obtain ⟨hsource, hgrants⟩ := hspenders.of_invoke hspl h
  refine ⟨(hexact.moves h).spared fun hs => ?_, hgrants⟩
  rw [hs] at hv
  exact absurd hsource hv

end Spenders

theorem Reference.dexExchange : Exchange Reference.env Reference.dex where
  cancel _ h := by
    obtain rfl := cancelOrders_of_invoke h
    exact ⟨fun _ => rfl, .refl _⟩
  settle _ h := by
    have hsettle := settle_of_invoke h
    exact ⟨settle_settled hsettle, settle_grantsNone hsettle⟩

/-! ## 2. The handlers -/

section Handlers

variable {env : Env} {programId v : Pubkey} {w w' : World}

/-- A deposit spares the accounts that its source owner can not spend. -/
theorem DepositDone.spared {a : DepositAccounts} {deposit : DepositInstruction}
    {c : DepositContext} {d : DepositAmounts} (hexact : ExactTokens env)
    (hspenders : TokenSpenders env) (h : DepositDone env programId a deposit c d w w')
    (hv : ¬w.accounts.MaySpend v a.sourceOwnerInfo.key) : Spared v w w' := by
  obtain ⟨w₁, w₂, w₃, x1, y1, calcPnlX, calcPnlY, lpAmount, hcalls, -, -, -, -, -, hw'⟩ := h.run
  have hspl := h.tokenProgram
  obtain ⟨hcoin, hgrants⟩ := hspenders.spared hexact hspl hcalls.payCoin hv
  obtain ⟨hpc, -⟩ := hspenders.spared hexact hspl hcalls.payPc (mt hgrants.maySpend hv)
  have hmint : Spared v w₂ w₃ := by
    have hb := hexact.mintTo (World.effect_of_invoke hcalls.mint) v
    unfold Spared World.balance
    split at hb <;> omega
  have hcalled : Spared v w w₃ := le_trans (le_trans hcoin hpc) hmint
  have htarget : ∀ t, (w.accounts a.ammTargetOrdersInfo.key).data ≠ .token t := by
    simp [h.checked.storedTarget]
  have hamm : ∀ t, (w.accounts a.ammInfo.key).data ≠ .token t := by simp [h.checked.stored]
  rw [hw']
  exact (hcalled.dropRefMut htarget).dropRefMut hamm

/-- A monitor step spares what its settle instruction does. -/
theorem MonitorDone.spared {a : MonitorAccounts} {c : MonitorContext}
    (hdex : Exchange env a.marketProgramInfo.key) (hv : (monitorSettleIx a).Spares v)
    (h : MonitorDone env programId a c w w') : Spared v w w' := by
  obtain ⟨w₁, hcalls, hw'⟩ := h.run
  have hcalled : Spared v w w₁ :=
    (Exchange.calls (s := monitorSettleIx a) hdex hv hcalls).1
  have htarget : ∀ t, (w.accounts a.ammTargetOrdersInfo.key).data ≠ .token t := by
    simp [h.checked.storedTarget]
  have hamm : ∀ t, (w.accounts a.ammInfo.key).data ≠ .token t := by simp [h.checked.stored]
  rw [hw']
  exact (hcalled.dropRefMut htarget).dropRefMut hamm

/-- A cancel-all and a migration pay the market's vaults what they draw from them. -/
theorem OrdersDone.spared {a : OrdersAccounts} {amm : AmmInfo}
    (hdex : Exchange env a.marketProgramInfo.key) (h : OrdersDone env programId a amm w w') :
    Spared v w w' := by
  obtain ⟨w₁, marketProgram, hcalls, hw'⟩ := h.run
  have hcalled : Spared v w w₁ :=
    (Exchange.calls (s := ordersSettleIx a) hdex ⟨fun h => h, fun h => h⟩ hcalls).1
  have hamm : ∀ t, (w.accounts a.ammInfo.key).data ≠ .token t := by simp [h.stored]
  rw [hw']
  exact hcalled.dropRefMut hamm

/-- An SRM withdrawal moves its amount between the two accounts that it was given. -/
theorem WithdrawSrmDone.balance {a : WithdrawSrmAccounts} {amount : U64} {amm : AmmInfo}
    (hexact : ExactTokens env) (h : WithdrawSrmDone env programId a amount amm w w') (k : Pubkey) :
    (w'.balance k : ℤ) = w.balance k +
      (if k = a.userDestSrmInfo.key then (amount.toNat : ℤ) else 0) -
      (if k = a.ammSrmVaultInfo.key then (amount.toNat : ℤ) else 0) := by
  obtain ⟨w₁, htransfer, rfl⟩ := h.run
  have hb := (hexact.moves htransfer).balance k
  obtain ⟨source, hsource⟩ := h.sourceToken
  obtain ⟨dest, hdest⟩ := h.destToken
  by_cases hk : k = a.ammInfo.key
  · have hks := (ne_of_token_of_amm hsource h.stored).symm
    have hkd := (ne_of_token_of_amm hdest h.stored).symm
    subst hk
    rw [if_neg hks, if_neg hkd]
    simp [World.balance, Accounts.balance, Accounts.setData, h.stored]
  · rw [World.balance, World.dropRefMut_accounts, Accounts.balance_setData_of_ne hk]
    exact hb

/-- It leaves an account alone exactly where that is both its source and its destination or
    neither. -/
theorem WithdrawSrmDone.balance_eq_iff {a : WithdrawSrmAccounts} {amount : U64} {amm : AmmInfo}
    (hexact : ExactTokens env) (h : WithdrawSrmDone env programId a amount amm w w') (k : Pubkey) :
    w'.balance k = w.balance k ↔ (k = a.ammSrmVaultInfo.key ↔ k = a.userDestSrmInfo.key) := by
  have hb := h.balance hexact k
  have hpos := h.amount_pos
  by_cases hs : k = a.ammSrmVaultInfo.key
  · rw [if_pos hs] at hb
    by_cases hd : k = a.userDestSrmInfo.key
    · rw [if_pos hd] at hb
      exact iff_of_true (by omega) (iff_of_true hs hd)
    · rw [if_neg hd] at hb
      exact iff_of_false (by omega) fun hiff => hd (hiff.mp hs)
  · rw [if_neg hs] at hb
    by_cases hd : k = a.userDestSrmInfo.key
    · rw [if_pos hd] at hb
      exact iff_of_false (by omega) fun hiff => hs (hiff.mpr hd)
    · rw [if_neg hd] at hb
      exact iff_of_true (by omega) (iff_of_false hs hd)

/-- The calls that set up an account or a mint take no tokens. -/
def SetupSpares (env : Env) : Prop :=
  ∀ {c : Cpi} {acc acc' : Accounts}, c.ix.isSetup = true → env.invoke c acc = .ok acc' →
    ∀ k, acc.balance k ≤ acc'.balance k

theorem Reference.setupSpares : SetupSpares Reference.env := by
  rintro ⟨ix, infos, seeds⟩ acc acc' hc h
  have h := run_of_invoke h
  cases ix with
  | createAccount payer newAccount lamports space owner => cases h
  | mintSetup tokenProgram mint step => cases h
  | initExtraAccountMetaList programId list mint authority metas => cases h
  | _ => cases hc

theorem SetupSpares.spared (hsetup : SetupSpares env) (h : Calls env SetupCall w w') :
    Spared v w w' := by
  refine h.inv (Q := Spared v w) ?_ (le_refl _)
  intro c w₁ w₂ hc hinvoke hspared
  exact le_trans hspared (hsetup hc (World.effect_of_invoke hinvoke) v)

/-- No token account is written as a record. -/
theorem RecordChange.not_token {accounts : List AccountInfo} {clock : Clock} {i : AmmInstruction}
    {key : Pubkey} {old new : AccountData} (h : RecordChange accounts clock i key old new)
    (t : TokenAccount) : old ≠ .token t := by
  intro hold
  cases h <;> cases hold

theorem Spared.writes {writes : List (Pubkey × AccountData)} {w₁ : World} (h : Spared v w w₁)
    (hkeys : ∀ write ∈ writes, ∀ t, (w.accounts write.1).data ≠ .token t)
    (hw' : w'.accounts =
      writes.foldl (fun acc write => acc.setData write.1 write.2) w₁.accounts) :
    Spared v w w' := by
  induction writes generalizing w₁ with
  | nil =>
    unfold Spared World.balance at *
    rw [hw']
    exact h
  | cons write rest ih =>
    have hnext : Spared v w { w₁ with accounts := w₁.accounts.setData write.1 write.2 } :=
      h.setData (hkeys write List.mem_cons_self) rfl
    exact ih hnext (fun write' hmem => hkeys write' (List.mem_cons_of_mem _ hmem)) hw'

/-- A handler that makes set-up calls and changes records spares every account. -/
theorem Writes.spared {accounts : List AccountInfo} {i : AmmInstruction}
    (hsetup : SetupSpares env) (h : Writes env SetupCall accounts i w w') : Spared v w w' := by
  obtain ⟨writes, ⟨borrowed, w₁, hcalls, hw'⟩, hwrites⟩ := h
  have hcalled : Spared v w w₁ := hsetup.spared (w := { w with borrowed := borrowed }) hcalls
  exact hcalled.writes (fun write hmem => (hwrites write hmem).not_token) hw'

end Handlers

/-! ## 3. Runs -/

/-- A swap that pays into a vault of its pool: the last but one of its calls moves tokens from the
    user's source account into the vault. -/
def SwapPaysIn (accounts : List AccountInfo) (w w' : World) : Prop :=
  ∃ a amm, bindSwap accounts = .ok a ∧ (w.accounts a.ammInfo.key).data = .amm amm ∧
    ∃ before payIn payOut, w'.inner = w.inner ++ before ++ [payIn, payOut] ∧
      ∃ vaultIn ∈ [amm.coinVault, amm.pcVault], ∃ paid > 0,
        Moves a.userSourceInfo.key vaultIn paid payIn.pre payIn.post

/-- A withdraw that burns shares of its pool: its last call. -/
def WithdrawBurns (accounts : List AccountInfo) (w w' : World) : Prop :=
  ∃ a amm, bindWithdraw accounts = .ok a ∧ (w.accounts a.ammInfo.key).data = .amm amm ∧
    ∃ before burn, w'.inner = w.inner ++ before ++ [burn] ∧ ∃ owner amount, 0 < amount.toNat ∧
      burn.cpi.ix = .burn splTokenId a.userSourceLpInfo.key amm.lpMint owner amount

/-- The instruction has a right to take from a vault: a swap that pays in, a withdraw that burns
    shares, a withdrawal of the profit. -/
def TakesByRight (w : World) (c : InstructionCall) (w' : World) : Prop :=
  match c.instruction with
  | .swapBaseIn _ => SwapPaysIn c.accounts w w'
  | .swapBaseOut _ => SwapPaysIn c.accounts w w'
  | .withdraw _ => WithdrawBurns c.accounts w w'
  | .withdrawPnl => True
  | _ => False

/-- The instruction does not reach into `v` by an account that it leaves unchecked: `v` is not the
    source of an SRM withdrawal, the depositor is neither the holder of `v` nor a delegate whom the
    holder has approved, the market program of a monitor step, a cancel-all or a migration is an
    exchange, and a monitor step does not name `v` as a vault of the market. -/
def Tied (env : Env) (v : Pubkey) (w : World) (c : InstructionCall) : Prop :=
  match c.instruction with
  | .withdrawSrm _ => ∀ a, bindWithdrawSrm c.accounts = .ok a →
      v = a.ammSrmVaultInfo.key → v = a.userDestSrmInfo.key
  | .deposit _ => ∀ a, bindDeposit c.accounts = .ok a →
      ¬w.accounts.MaySpend v a.sourceOwnerInfo.key
  | .monitorStep _ => ∀ a, bindMonitor c.accounts = .ok a →
      Exchange env a.marketProgramInfo.key ∧ (monitorSettleIx a).Spares v
  | .migrateToOpenBook => ∀ a, bindOrders c.accounts = .ok a →
      Exchange env a.marketProgramInfo.key
  | .adminCancelOrders _ => ∀ a, bindOrders c.accounts = .ok a →
      Exchange env a.marketProgramInfo.key
  | _ => True

section Runs

variable {env : Env} {programId v : Pubkey} {w w' : World} {accounts : List AccountInfo}

theorem SwapDone.paysIn {a : SwapAccounts} {coinVaultInfo : AccountInfo} {amm : AmmInfo}
    {c : SwapContext} {paid counted out : U64} (hexact : ExactTokens env)
    (hbind : bindSwap accounts = .ok a) (hpaid : 0 < paid.toNat)
    (h : SwapDone env programId a coinVaultInfo amm c paid counted out w w') :
    SwapPaysIn accounts w w' := by
  obtain ⟨w₁, w₂, w₃, s', hcalls, -, rfl⟩ := h.run
  obtain ⟨new, hnew, -⟩ := hcalls.dex.trace
  have hinner := World.inner_of_two_invokes hcalls.payIn hcalls.payOut
  rw [hnew] at hinner
  refine ⟨a, amm, hbind, h.checked.stored, new, _, _, hinner, (c.swapDirection.inVaultInfo a).key,
    ?_, _, hpaid, hexact.moves hcalls.payIn⟩
  rw [h.checked.inVaultInfo_key]
  cases c.swapDirection <;> simp

theorem processSwapBaseIn_paysIn {swap : SwapInstructionBaseIn} (hexact : ExactTokens env)
    (h : processSwapBaseIn env programId accounts swap w = .ok w') : SwapPaysIn accounts w w' := by
  simp only [processSwapBaseIn, Outcome.bind_eq_ok] at h
  obtain ⟨a, hbind, h⟩ := h
  obtain ⟨amm, c, q, hdone⟩ := swapBaseInBody_eq_ok h
  refine hdone.done.paysIn hexact hbind ?_
  cases c.swapDirection with
  | coin2Pc => exact hdone.in_pos
  | pc2Coin => exact hdone.out_pos

theorem processSwapBaseOut_paysIn {swap : SwapInstructionBaseOut} (hexact : ExactTokens env)
    (h : processSwapBaseOut env programId accounts swap w = .ok w') :
    SwapPaysIn accounts w w' := by
  simp only [processSwapBaseOut, Outcome.bind_eq_ok] at h
  obtain ⟨a, hbind, h⟩ := h
  obtain ⟨amm, c, q, hdone⟩ := swapBaseOutBody_eq_ok h
  exact hdone.done.paysIn hexact hbind hdone.in_pos

theorem processWithdraw_burns {withdraw : WithdrawInstruction}
    (h : processWithdraw env programId accounts withdraw w = .ok w') :
    WithdrawBurns accounts w w' := by
  simp only [processWithdraw, Outcome.bind_eq_ok] at h
  obtain ⟨a, hbind, h⟩ := h
  obtain ⟨c, coinAmount, pcAmount, hdone⟩ := withdrawBody_eq_ok h
  have hc := hdone.checked
  obtain ⟨w₀, w₁, w₂, w₃, x1, y1, calcPnlX, calcPnlY, lpAmount, hdex, -, hcalls, -, -, -, -, -,
    hw'⟩ := hdone.run
  obtain ⟨new, hnew, -⟩ := hdex.trace
  have hpaid := World.inner_of_two_invokes hcalls.payCoin hcalls.payPc
  obtain ⟨-, -, hburn⟩ := World.frame_of_invoke hcalls.burn
  have hinner : w'.inner = w₃.inner := by
    rw [hw', World.dropRefMut_inner, World.dropRefMut_inner]
  rw [hburn, hpaid, hnew, List.append_assoc w.inner] at hinner
  refine ⟨a, c.amm, hbind, hc.stored, _, _, hinner, a.sourceLpOwnerInfo.key, withdraw.amount,
    hdone.amount_pos, ?_⟩
  simp only [burnCpi, hc.tokenProgram, hc.lpMint]

/-- What a successful instruction can take from `v`. -/
theorem processInstruction_spared_or {c : InstructionCall} (hexact : ExactTokens env)
    (hspenders : TokenSpenders env) (hsetup : SetupSpares env) (htied : Tied env v w c)
    (h : processInstruction env programId c.accounts c.instruction w = .ok w') :
    Spared v w w' ∨ TakesByRight w c w' := by
  obtain ⟨accounts, instruction, clock⟩ := c
  cases instruction with
  | preInitialize nonce => cases h
  | initialize1 nonce openTime => cases h
  | initialize2 init2 => exact absurd h processInitialize2_ne_ok
  | monitorStep monitor =>
    simp only [processInstruction, processMonitorStep, Outcome.bind_eq_ok] at h
    obtain ⟨a, hbind, h⟩ := h
    obtain ⟨c, hdone⟩ := monitorBody_eq_ok h
    obtain ⟨hdex, hv⟩ := htied a hbind
    exact .inl (hdone.spared hdex hv)
  | deposit deposit =>
    simp only [processInstruction, processDeposit, Outcome.bind_eq_ok] at h
    obtain ⟨a, hbind, h⟩ := h
    obtain ⟨c, d, hdone⟩ := depositBody_eq_ok h
    exact .inl (hdone.spared hexact hspenders (htied a hbind))
  | withdraw withdraw => exact .inr (processWithdraw_burns h)
  | migrateToOpenBook =>
    simp only [processInstruction, processMigrateToOpenbook, Outcome.bind_eq_ok] at h
    obtain ⟨a, hbind, h⟩ := h
    obtain ⟨amm, hdone⟩ := migrateToOpenbookBody_eq_ok h
    exact .inl (hdone.spared (htied a hbind))
  | setParams setparams => exact .inl ((processSetParams_changes h).spared hsetup)
  | withdrawPnl => exact .inr trivial
  | withdrawSrm withdrawsrm =>
    simp only [processInstruction, processWithdrawSrm, Outcome.bind_eq_ok] at h
    obtain ⟨a, hbind, h⟩ := h
    obtain ⟨amm, hdone⟩ := withdrawSrmBody_eq_ok h
    refine .inl ?_
    have hb := hdone.balance hexact v
    have hv := htied a hbind
    unfold Spared
    by_cases hs : v = a.ammSrmVaultInfo.key
    · rw [if_pos hs, if_pos (hv hs)] at hb
      omega
    · rw [if_neg hs] at hb
      split at hb <;> omega
  | swapBaseIn swap => exact .inr (processSwapBaseIn_paysIn hexact h)
  | swapBaseOut swap => exact .inr (processSwapBaseOut_paysIn hexact h)
  | simulateInfo simulate =>
    rw [processSimulateInfo_eq_ok h]
    exact .inl (le_refl _)
  | adminCancelOrders cancel =>
    simp only [processInstruction, processAdminCancelOrders, Outcome.bind_eq_ok] at h
    obtain ⟨a, hbind, h⟩ := h
    obtain ⟨amm, hdone⟩ := adminCancelOrdersBody_eq_ok h
    exact .inl (hdone.spared (htied a hbind))
  | createConfigAccount => exact .inl ((processCreateConfig_changes h).spared hsetup)
  | updateConfigAccount configArgs => exact .inl ((processUpdateConfig_changes h).spared hsetup)
  | createToken2022Mint createMint =>
    exact .inl ((processCreateToken2022Mint_changes h).spared hsetup)
  | updateHookWhitelist updateWhitelist =>
    exact .inl ((processUpdateHookWhitelist_changes h).spared hsetup)
  | initializeExtraAccountMetaList initMeta =>
    exact .inl ((processInitializeExtraAccountMetaList_changes h).spared hsetup)
  | initializeHookWhitelist authority =>
    exact .inl ((processInitializeHookWhitelist_changes h).spared hsetup)
  | updateWhitelistAuthority newAuthority =>
    exact .inl ((processUpdateWhitelistAuthority_changes h).spared hsetup)

/-- One instruction of a run. -/
theorem Executes.takes {c : InstructionCall} (hexact : ExactTokens env)
    (hspenders : TokenSpenders env) (hsetup : SetupSpares env) (htied : Tied env v w c)
    (h : Executes env programId w c w') (hfall : w'.balance v < w.balance v) :
    TakesByRight w c w' := by
  unfold Executes at h
  split at h
  next w₁ hrun =>
    subst h
    rcases processInstruction_spared_or (w := { w with clock := c.clock, borrowed := [] }) hexact
      hspenders hsetup htied hrun with hspared | htakes
    · exact absurd hspared (Nat.not_le.mpr hfall)
    · exact htakes
  next e hrun =>
    rw [h] at hfall
    exact absurd hfall (lt_irrefl _)

end Runs

/-- Custody of the vaults. (1) A successful SRM withdrawal leaves the balances of the pool's vaults
    as they are exactly where each of the vaults is both its source and its destination or neither.
    (2) In every run whose instructions are tied with respect to `v`, the balance of `v` falls only
    by a swap that pays in, by a withdraw that burns shares, or by a withdrawal of the profit. -/
theorem vault_custody {env : Env} (hexact : ExactTokens env) (hspenders : TokenSpenders env)
    (hsetup : SetupSpares env) (programId : Pubkey) :
    (∀ (accounts : List AccountInfo) (withdrawsrm : WithdrawSrmInstruction) (w w' : World)
      (a : WithdrawSrmAccounts) (amm : AmmInfo), bindWithdrawSrm accounts = .ok a →
      (w.accounts a.ammInfo.key).data = .amm amm →
      processWithdrawSrm env programId accounts withdrawsrm w = .ok w' →
      (w'.balance amm.coinVault = w.balance amm.coinVault ∧
          w'.balance amm.pcVault = w.balance amm.pcVault ↔
        ∀ v ∈ [amm.coinVault, amm.pcVault],
          (v = a.ammSrmVaultInfo.key ↔ v = a.userDestSrmInfo.key))) ∧
    ∀ (v : Pubkey) (w w' : World) (calls : List InstructionCall),
      Runs.Run (fun w c w' => Executes env programId w c w' ∧ Tied env v w c) w calls w' →
      Runs.Run (fun w c w' => Executes env programId w c w' ∧
        (w'.balance v < w.balance v → TakesByRight w c w')) w calls w' := by
  constructor
  · intro accounts withdrawsrm w w' a amm hbind hamm hrun
    simp only [processWithdrawSrm, hbind, Outcome.ok_bind] at hrun
    obtain ⟨amm₀, hdone⟩ := withdrawSrmBody_eq_ok hrun
    obtain rfl : amm₀ = amm := AccountData.amm_unique hdone.stored hamm
    rw [hdone.balance_eq_iff hexact, hdone.balance_eq_iff hexact, List.forall_mem_cons,
      List.forall_mem_singleton]
  · intro v w w' calls hrun
    exact hrun.mono fun w c w' hstep => ⟨hstep.1, hstep.1.takes hexact hspenders hsetup hstep.2⟩

open Reference in
/-- An SRM withdrawal of 5 tokens from an SRM account spares the vaults, alone and as a run. -/
theorem vault_custody_srm_account :
    ∃ w', processWithdrawSrm env program (srmInfos 50 51) ⟨5⟩ srmWorld = .ok w' ∧
      w'.balance (key 13) = srmWorld.balance (key 13) ∧
      w'.balance (key 14) = srmWorld.balance (key 14) ∧
      Runs.Run (fun w c w' => Executes env program w c w' ∧
        (w'.balance (key 13) < w.balance (key 13) → TakesByRight w c w')) srmWorld
        [⟨srmInfos 50 51, .withdrawSrm ⟨5⟩, ⟨0, 0⟩⟩] w' := by
  obtain ⟨w', hrun⟩ : ∃ w', processWithdrawSrm env program (srmInfos 50 51) ⟨5⟩ srmWorld = .ok w' :=
    Outcome.exists_of_isOk (by decide)
  have hbind : bindWithdrawSrm (srmInfos 50 51) = .ok _ := rfl
  have hamm : (srmWorld.accounts (key 10)).data = .amm (pool .swapOnly 1000) := rfl
  obtain ⟨hsrm, hruns⟩ := vault_custody exactTokens tokenSpenders setupSpares program
  have hexec : Executes env program srmWorld ⟨srmInfos 50 51, .withdrawSrm ⟨5⟩, ⟨0, 0⟩⟩ w' := by
    unfold Executes
    rw [show processInstruction env program (srmInfos 50 51) (.withdrawSrm ⟨5⟩)
      { srmWorld with clock := ⟨0, 0⟩, borrowed := [] } = .ok w' from hrun]
  have htied : Tied env (key 13) srmWorld ⟨srmInfos 50 51, .withdrawSrm ⟨5⟩, ⟨0, 0⟩⟩ := by
    intro a ha
    obtain rfl := Except.ok.inj (hbind.symm.trans ha)
    decide
  obtain ⟨hcoin, hpc⟩ := (hsrm _ _ _ _ _ _ hbind hamm hrun).mpr (by decide)
  exact ⟨w', hrun, hcoin, hpc, hruns _ _ _ _ (.single ⟨hexec, htied⟩)⟩

open Reference in
/-- An SRM withdrawal takes 500000 coin out of the pool's coin vault. -/
theorem withdrawSrm_drains :
    ¬∀ (env : Env) (programId : Pubkey) (accounts : List AccountInfo)
      (withdrawsrm : WithdrawSrmInstruction) (w w' : World) (a : WithdrawSrmAccounts)
      (amm : AmmInfo), ExactTokens env → TokenSpenders env →
      bindWithdrawSrm accounts = .ok a → (w.accounts a.ammInfo.key).data = .amm amm →
      processWithdrawSrm env programId accounts withdrawsrm w = .ok w' →
      w'.balance amm.coinVault = w.balance amm.coinVault ∧
        w'.balance amm.pcVault = w.balance amm.pcVault := by
  intro h
  have hrun := eq_ok_result (r := processWithdrawSrm env program (srmInfos 13 31) ⟨500000⟩
    srmWorld) (by decide)
  have hbind : bindWithdrawSrm (srmInfos 13 31) = .ok _ := rfl
  have hamm : (srmWorld.accounts (key 10)).data = .amm (pool .swapOnly 1000) := rfl
  have hcoin := (h env program (srmInfos 13 31) ⟨500000⟩ srmWorld _ _ _ exactTokens tokenSpenders
    hbind hamm hrun).1
  revert hcoin
  decide

end RaydiumAmm
