import RaydiumAmm.Backing
import RaydiumAmm.Creation

/-!
# The supply of the LP mint

A pool counts its LP tokens in `lp_amount` and never compares that number with the supply of its
mint. What holds between the two over runs of deposits, withdraws and burns by the holders:

1. `ExactSupply`: what the calls do to the supply of a mint.
2. `LpStep.covered`: a step keeps the excess of the supply over `lp_amount` bounded.
3. `lp_supply_covered_iff`: the supply is covered in every run exactly where the mint that was
   handed to the creation had no supply.
-/

namespace RaydiumAmm

/-! ## 1. Supply -/

/-- The supply of a mint; 0 where the content is not a mint. -/
def AccountData.supply : AccountData → ℕ
  | .mint m => m.supply.toNat
  | _ => 0

/-- The supply of the mint of an account. -/
def Accounts.supply (acc : Accounts) (k : Pubkey) : ℕ := (acc k).data.supply

theorem Accounts.supply_setData (acc : Accounts) (key k : Pubkey) (data : AccountData) :
    (acc.setData key data).supply k = if k = key then data.supply else acc.supply k := by
  unfold Accounts.supply Accounts.setData
  split <;> rfl

theorem AccountData.supply_of_isRecord {data : AccountData} (h : data.isRecord = true) :
    data.supply = 0 := by
  cases data with
  | mint m => cases h
  | _ => rfl

/-- A write of a record raises no supply. -/
theorem Accounts.supply_setData_le {data : AccountData} (hdata : data.isRecord = true)
    (acc : Accounts) (key k : Pubkey) : (acc.setData key data).supply k ≤ acc.supply k := by
  rw [Accounts.supply_setData, AccountData.supply_of_isRecord hdata]
  split
  · exact Nat.zero_le _
  · exact le_rfl

/-- A write of a record over a record changes no supply. -/
theorem Accounts.supply_setData_record {data : AccountData} {acc : Accounts} {key : Pubkey}
    (hold : (acc key).data.isRecord = true) (hdata : data.isRecord = true) (k : Pubkey) :
    (acc.setData key data).supply k = acc.supply k := by
  rw [Accounts.supply_setData, AccountData.supply_of_isRecord hdata]
  split
  next heq => rw [heq, Accounts.supply, AccountData.supply_of_isRecord hold]
  next => rfl

/-- A mint adds its amount to the supply and a burn takes its amount away. A transfer changes no
    supply, nor do the calls of the exchange, which move tokens alone. -/
structure ExactSupply (env : Env) : Prop where
  transfer : ∀ {p s d au n infos seeds acc acc'},
    env.invoke ⟨.transfer p s d au n, infos, seeds⟩ acc = .ok acc' →
      ∀ k, acc'.supply k = acc.supply k
  mintTo : ∀ {p m d au n infos seeds acc acc'},
    env.invoke ⟨.mintTo p m d au n, infos, seeds⟩ acc = .ok acc' →
      ∀ k, acc'.supply k = acc.supply k + (if k = m then n.toNat else 0)
  burn : ∀ {p s m au n infos seeds acc acc'},
    env.invoke ⟨.burn p s m au n, infos, seeds⟩ acc = .ok acc' →
      ∀ k, acc'.supply k + (if k = m then n.toNat else 0) = acc.supply k
  cancelOrders : ∀ {o infos seeds acc acc'},
    env.invoke ⟨.cancelOrders o, infos, seeds⟩ acc = .ok acc' → ∀ k, acc'.supply k = acc.supply k
  settleFunds : ∀ {s infos seeds acc acc'},
    env.invoke ⟨.settleFunds s, infos, seeds⟩ acc = .ok acc' → ∀ k, acc'.supply k = acc.supply k

namespace Reference

theorem TokenChange.supply {acc acc' : Accounts} {k : Pubkey} (h : TokenChange (acc k) (acc' k)) :
    acc'.supply k = acc.supply k := by
  unfold Accounts.supply
  generalize acc k = old at h ⊢
  generalize acc' k = new at h ⊢
  cases h with
  | refl => rfl
  | token => rfl

theorem mintTokens_supply {acc acc' : Accounts} {m d : Pubkey} {n : U64}
    (h : mintTokens acc m d n = some acc') (k : Pubkey) :
    acc'.supply k = acc.supply k + (if k = m then n.toNat else 0) := by
  obtain ⟨tm, td, supply, given, hm, hd, hne, hsupply, -, rfl⟩ := mintTokens_eq_some h
  rw [Accounts.supply_setData, Accounts.supply_setData]
  by_cases hkm : k = m
  · rw [if_neg (hkm ▸ hne.symm), if_pos hkm, if_pos hkm, hkm, Accounts.supply, hm]
    exact hsupply
  · rw [if_neg hkm, if_neg hkm, Nat.add_zero]
    by_cases hkd : k = d
    · rw [if_pos hkd, hkd, Accounts.supply, hd]
      rfl
    · rw [if_neg hkd]

theorem burnTokens_supply {acc acc' : Accounts} {s m : Pubkey} {n : U64}
    (h : burnTokens acc s m n = some acc') (k : Pubkey) :
    acc'.supply k + (if k = m then n.toNat else 0) = acc.supply k := by
  obtain ⟨tm, ts, supply, taken, hm, hs, hne, hsupply, -, rfl⟩ := burnTokens_eq_some h
  rw [Accounts.supply_setData, Accounts.supply_setData]
  by_cases hkm : k = m
  · rw [if_neg (hkm ▸ hne.symm), if_pos hkm, if_pos hkm, hkm, Accounts.supply, hm]
    show supply.toNat + n.toNat = _
    exact (Nat.add_comm _ _).trans hsupply.symm
  · rw [if_neg hkm, if_neg hkm, Nat.add_zero]
    by_cases hks : k = s
    · rw [if_pos hks, hks, Accounts.supply, hs]
      rfl
    · rw [if_neg hks]

theorem settle_supply {acc acc' : Accounts} {s : SettleFunds} (h : settle acc s = some acc')
    (k : Pubkey) : acc'.supply k = acc.supply k := by
  obtain ⟨o, acc₁, acc₂, hdata, -, hcoin, hpc, rfl⟩ := settle_eq_some h
  have hsame : acc₂.supply k = acc.supply k :=
    (moveTokens_changes hpc k).supply.trans (moveTokens_changes hcoin k).supply
  rw [Accounts.supply_setData]
  split
  next heq =>
    rw [heq, Accounts.supply, hdata]
    rfl
  next => exact hsame

theorem exactSupply : ExactSupply env where
  transfer h k := (transfer_changes h k).supply
  mintTo h := mintTokens_supply (mintTo_of_invoke h)
  burn h k := by
    obtain ⟨acc₁, -, hadmits, hburn⟩ := burn_of_invoke h
    rw [← (hadmits.changes k).supply]
    exact burnTokens_supply hburn k
  cancelOrders h := by
    rw [cancelOrders_of_invoke h]
    exact fun _ => rfl
  settleFunds h := settle_supply (settle_of_invoke h)

end Reference

/-! ## 2. Steps -/

/-- The record of the pool, whose mint has a supply of at most `lp_amount` and `excess`. -/
structure Covered (programId ammKey lpMint : Pubkey) (excess : ℕ) (w : World) (amm : AmmInfo) :
    Prop where
  stored : w.accounts ammKey = ⟨programId, .amm amm⟩
  mint : amm.lpMint = lpMint
  supply : w.accounts.supply lpMint ≤ amm.lpAmount.toNat + excess

/-- An operation on the LP tokens of a pool: that of a liquidity provider, at a time of its own, or
    a burn by a holder. -/
inductive LpOp where
  | pool (clock : Clock) (op : PoolOp)
  | burn (tokenProgram source mint owner : AccountInfo) (amount : U64)

/-- One operation on the LP tokens of the pool `ammKey`. One that fails or aborts leaves the world
    alone. -/
def LpStep (env : Env) (programId ammKey : Pubkey) (w : World) (op : LpOp) (w' : World) : Prop :=
  match op with
  | .pool clock op =>
    op.ammKey = ammKey ∧
      (op.body env programId { w with clock := clock, borrowed := [] } = .ok w' ∨
        (op.body env programId { w with clock := clock, borrowed := [] }).isOk = false ∧ w' = w)
  | .burn tokenProgram source mint owner amount =>
    (∃ acc, env.invoke (burnCpi tokenProgram source mint owner amount) w.accounts = .ok acc ∧
        w' = { w with accounts := acc }) ∨
      (env.invoke (burnCpi tokenProgram source mint owner amount) w.accounts).isOk = false ∧ w' = w

section Steps

variable {env : Env} {programId ammKey lpMint : Pubkey} {excess : ℕ} {w w' : World} {amm : AmmInfo}

/-- The invariant looks at the accounts alone. -/
theorem Covered.of_accounts (h : Covered programId ammKey lpMint excess w amm)
    (haccounts : w'.accounts = w.accounts) : Covered programId ammKey lpMint excess w' amm := by
  obtain ⟨stored, hmint, hsupply⟩ := h
  rw [← haccounts] at stored hsupply
  exact ⟨stored, hmint, hsupply⟩

theorem Covered.ownsRecord (h : Covered programId ammKey lpMint excess w amm) :
    OwnsRecord programId w.accounts ammKey := by
  constructor
  · rw [h.stored]
  · rw [h.stored]
    rfl

/-- The calls of the exchange change no supply. -/
theorem ExactSupply.dexCalls (hexact : ExactSupply env) {s : SettleFunds}
    (h : Calls env (DexCall s) w w') (k : Pubkey) : w'.accounts.supply k = w.accounts.supply k := by
  refine h.inv (Q := fun w₁ => w₁.accounts.supply k = w.accounts.supply k) ?_ rfl
  rintro ⟨ix, infos, seeds⟩ w₁ w₂ hcall hinvoke hsame
  have heffect := World.effect_of_invoke hinvoke
  rcases hcall with ⟨o, hix, -⟩ | hix
  · obtain rfl : ix = .cancelOrders o := hix
    exact (hexact.cancelOrders heffect k).trans hsame
  · obtain rfl : ix = .settleFunds s := hix
    exact (hexact.settleFunds heffect k).trans hsame

/-- The two records of a pool, written back after calls, leave the pool record and no more
    supply. -/
theorem covered_of_records {targetKey : Pubkey} {t : TargetOrders} {amm' : AmmInfo} {w₁ : World}
    (howner : (w₁.accounts ammKey).owner = programId) (hne : targetKey ≠ ammKey)
    (hmint : amm'.lpMint = lpMint)
    (hsupply : w₁.accounts.supply lpMint ≤ amm'.lpAmount.toNat + excess)
    (hw' : w' = (w₁.dropRefMut targetKey (.targetOrders t)).dropRefMut ammKey (.amm amm')) :
    Covered programId ammKey lpMint excess w' amm' := by
  subst hw'
  refine ⟨?_, hmint, ?_⟩
  · refine Account.eq_mk ?_ ?_
    · simpa [Accounts.setData, hne.symm] using howner
    · simp [Accounts.setData]
  · calc ((w₁.accounts.setData targetKey (.targetOrders t)).setData ammKey
            (.amm amm')).supply lpMint
        ≤ (w₁.accounts.setData targetKey (.targetOrders t)).supply lpMint :=
          Accounts.supply_setData_le rfl _ _ _
      _ ≤ w₁.accounts.supply lpMint := Accounts.supply_setData_le rfl _ _ _
      _ ≤ amm'.lpAmount.toNat + excess := hsupply

/-- A deposit adds what it mints to both numbers. -/
theorem DepositDone.covered {a : DepositAccounts} {deposit : DepositInstruction}
    {c : DepositContext} {d : DepositAmounts} (hkeep : KeepsRecords env programId)
    (hexact : ExactSupply env) (hc : Covered programId a.ammInfo.key lpMint excess w amm)
    (h : DepositDone env programId a deposit c d w w') :
    ∃ amm', Covered programId a.ammInfo.key lpMint excess w' amm' := by
  have hchecked := h.checked
  have hstored : (w.accounts a.ammInfo.key).data = .amm amm := by rw [hc.stored]
  obtain rfl : amm = c.amm := AccountData.amm_unique hstored hchecked.stored
  obtain ⟨w₁, w₂, w₃, x1, y1, calcPnlX, calcPnlY, lpAmount, hcalls, -, -, -, -, hlp, hw'⟩ := h.run
  have hsame := hkeep.calls hcalls.calls hc.ownsRecord
  have hpayCoin := hexact.transfer (World.effect_of_invoke hcalls.payCoin) lpMint
  have hpayPc := hexact.transfer (World.effect_of_invoke hcalls.payPc) lpMint
  have hminted := hexact.mintTo (World.effect_of_invoke hcalls.mint) lpMint
  rw [if_pos (hchecked.lpMint.trans hc.mint).symm] at hminted
  have hsupply := hc.supply
  simp only at hpayCoin
  refine ⟨_, covered_of_records ?_ (ne_of_target_of_amm hchecked.storedTarget hchecked.stored)
    ?_ ?_ hw'⟩
  · rw [hsame]
    exact hchecked.owner
  · exact hc.mint
  · show w₃.accounts.supply lpMint ≤ lpAmount.toNat + excess
    omega

/-- A withdraw takes what it burns from both numbers. -/
theorem WithdrawDone.covered {a : WithdrawAccounts} {withdraw : WithdrawInstruction}
    {c : WithdrawContext} {coinAmount pcAmount : U64} (hkeep : KeepsRecords env programId)
    (hexact : ExactSupply env) (hc : Covered programId a.ammInfo.key lpMint excess w amm)
    (h : WithdrawDone env programId a withdraw c coinAmount pcAmount w w') :
    ∃ amm', Covered programId a.ammInfo.key lpMint excess w' amm' := by
  have hchecked := h.checked
  have hstored : (w.accounts a.ammInfo.key).data = .amm amm := by rw [hc.stored]
  obtain rfl : amm = c.amm := AccountData.amm_unique hstored hchecked.stored
  obtain ⟨w₀, w₁, w₂, w₃, x1, y1, calcPnlX, calcPnlY, lpAmount, hdex, -, hcalls, -, -, -, -, hlp,
    hw'⟩ := h.run
  obtain ⟨s, hs, -, -⟩ := withdrawTakePnl_amm c
  have hsame := hkeep.calls (hdex.any.trans hcalls.calls) hc.ownsRecord
  have hsettled := hexact.dexCalls hdex lpMint
  have hpayCoin := hexact.transfer (World.effect_of_invoke hcalls.payCoin) lpMint
  have hpayPc := hexact.transfer (World.effect_of_invoke hcalls.payPc) lpMint
  have hburned := hexact.burn (World.effect_of_invoke hcalls.burn) lpMint
  rw [if_pos (hchecked.lpMint.trans hc.mint).symm] at hburned
  have hsupply := hc.supply
  simp only at hsettled
  refine ⟨_, covered_of_records ?_ (ne_of_target_of_amm hchecked.storedTarget hchecked.stored)
    ?_ ?_ hw'⟩
  · rw [hsame]
    exact hchecked.owner
  · rw [withdrawRecord, hs]
    exact hc.mint
  · show w₃.accounts.supply lpMint ≤ lpAmount.toNat + excess
    omega

/-- A burn by a holder lowers the supply alone. -/
theorem Covered.burn {tokenProgram source mint owner : AccountInfo} {amount : U64}
    {acc : Accounts} (hkeep : KeepsRecords env programId) (hexact : ExactSupply env)
    (hc : Covered programId ammKey lpMint excess w amm)
    (h : env.invoke (burnCpi tokenProgram source mint owner amount) w.accounts = .ok acc) :
    Covered programId ammKey lpMint excess { w with accounts := acc } amm := by
  refine ⟨?_, hc.mint, ?_⟩
  · exact (hkeep h ammKey hc.ownsRecord).trans hc.stored
  · have hburned := hexact.burn h lpMint
    have hsupply := hc.supply
    show acc.supply lpMint ≤ amm.lpAmount.toNat + excess
    split at hburned <;> omega

/-- An operation on the LP tokens keeps the bound on the excess. -/
theorem LpStep.covered {op : LpOp} (hkeep : KeepsRecords env programId) (hexact : ExactSupply env)
    (hstep : LpStep env programId ammKey w op w')
    (hc : Covered programId ammKey lpMint excess w amm) :
    ∃ amm', Covered programId ammKey lpMint excess w' amm' := by
  cases op with
  | pool clock op =>
    have hc' : Covered programId ammKey lpMint excess
        { w with clock := clock, borrowed := [] } amm := hc.of_accounts rfl
    obtain ⟨rfl, hok | ⟨-, rfl⟩⟩ := hstep
    · cases op with
      | deposit a deposit =>
        obtain ⟨c, d, hdone⟩ := depositBody_eq_ok hok
        exact hdone.covered hkeep hexact hc'
      | withdraw a withdraw =>
        obtain ⟨c, coinAmount, pcAmount, hdone⟩ := withdrawBody_eq_ok hok
        exact hdone.covered hkeep hexact hc'
    · exact ⟨amm, hc⟩
  | burn tokenProgram source mint owner amount =>
    rcases hstep with ⟨acc, hburn, rfl⟩ | ⟨-, rfl⟩
    · exact ⟨amm, hc.burn hkeep hexact hburn⟩
    · exact ⟨amm, hc⟩

end Steps

/-! ## 3. Runs -/

section Runs

variable {env : Env} {programId ammKey lpMint : Pubkey} {a : InitializeAccounts}
  {init : InitializeInstruction2} {excess : ℕ} {w w' : World}

/-- Over every run the supply exceeds `lp_amount` by no more than it did at the start. -/
theorem Covered.run {amm : AmmInfo} {ops : List LpOp} (hkeep : KeepsRecords env programId)
    (hexact : ExactSupply env) (hc : Covered programId ammKey lpMint excess w amm)
    (hrun : Runs.Run (LpStep env programId ammKey) w ops w') :
    ∃ amm', Covered programId ammKey lpMint excess w' amm' := by
  induction hrun with
  | nil => exact ⟨amm, hc⟩
  | snoc _ hlast ih =>
    obtain ⟨amm₁, hc₁⟩ := ih
    exact hlast.covered hkeep hexact hc₁

/-- What the last part of a creation leaves: the record, with the LP amount minted on top of the
    supply of the mint that it was handed. -/
theorem initializeFunds_supply (hkeep : KeepsRecords env programId) (hexact : ExactSupply env)
    (h : initializeFunds env programId a init w = .ok w') :
    ∃ lpAmount, initializeLpAmount init = .ok lpAmount ∧
      w'.accounts a.ammInfo.key = ⟨programId, .amm (initialAmmInfo a init lpAmount)⟩ ∧
      w'.accounts.supply a.ammLpMintInfo.key =
        w.accounts.supply a.ammLpMintInfo.key + lpAmount.toNat := by
  simp only [initializeFunds, World.tryBorrowMutData, Outcome.bind_eq_ok, Outcome.require_eq_ok,
    Outcome.pure_eq_ok, copyAmm_eq_ok] at h
  obtain ⟨lpAmount, hlp, w₁, hmint, w₂, ⟨-, -, rfl⟩, w₃, ⟨⟨old, hold⟩, rfl⟩, w₄, hcoin, w₅, hpc,
    rfl⟩ := h
  have hminted := hexact.mintTo (World.effect_of_invoke hmint) a.ammLpMintInfo.key
  rw [if_pos rfl] at hminted
  have hcopied : (w₁.accounts.setData a.ammInfo.key
      (.amm (initialAmmInfo a init lpAmount))).supply a.ammLpMintInfo.key =
        w₁.accounts.supply a.ammLpMintInfo.key :=
    Accounts.supply_setData_record (by rw [hold]; rfl) rfl _
  have hpaidCoin := hexact.transfer (World.effect_of_invoke hcoin) a.ammLpMintInfo.key
  have hpaidPc := hexact.transfer (World.effect_of_invoke hpc) a.ammLpMintInfo.key
  -- neither transfer touches the record
  have hold : w₁.accounts a.ammInfo.key = ⟨programId, .amm old⟩ := hold
  have hstored : (w₁.accounts.setData a.ammInfo.key (.amm (initialAmmInfo a init lpAmount)))
      a.ammInfo.key = ⟨programId, .amm (initialAmmInfo a init lpAmount)⟩ := by
    simp only [Accounts.setData, if_true, hold]
  have howns : OwnsRecord programId
      (w₁.accounts.setData a.ammInfo.key (.amm (initialAmmInfo a init lpAmount)))
      a.ammInfo.key := by
    constructor
    · rw [hstored]
    · rw [hstored]
      rfl
  have hkept := hkeep.calls (P := AnyCall)
    ((Calls.single trivial hcoin).tail ⟨_, trivial, hpc⟩) howns
  refine ⟨lpAmount, hlp, hkept.trans hstored, ?_⟩
  calc w₅.accounts.supply a.ammLpMintInfo.key
      = w₁.accounts.supply a.ammLpMintInfo.key := hpaidPc.trans (hpaidCoin.trans hcopied)
    _ = w.accounts.supply a.ammLpMintInfo.key + lpAmount.toNat := hminted

/-- From the state that the last part of a creation leaves, every run of deposits, withdraws and
    burns by holders keeps the supply of the LP mint within `lp_amount` if and only if that mint had
    no supply before the creation minted on top of it. -/
theorem lp_supply_covered_iff (hkeep : KeepsRecords env programId) (hexact : ExactSupply env)
    (hcreated : initializeFunds env programId a init w = .ok w') :
    (∀ ops w'', Runs.Run (LpStep env programId a.ammInfo.key) w' ops w'' →
        ∃ amm, w''.accounts a.ammInfo.key = ⟨programId, .amm amm⟩ ∧
          amm.lpMint = a.ammLpMintInfo.key ∧
          w''.accounts.supply amm.lpMint ≤ amm.lpAmount.toNat) ↔
      w.accounts.supply a.ammLpMintInfo.key = 0 := by
  obtain ⟨lpAmount, -, hstored, hsupply⟩ := initializeFunds_supply hkeep hexact hcreated
  constructor
  · intro h
    -- the empty run
    obtain ⟨amm, hamm, hmint, hcovered⟩ := h [] w' (.nil w')
    rw [hstored] at hamm
    cases hamm
    have hcovered : w'.accounts.supply a.ammLpMintInfo.key ≤ lpAmount.toNat := hcovered
    omega
  · intro hfresh ops w'' hrun
    have hc : Covered programId a.ammInfo.key a.ammLpMintInfo.key 0 w'
        (initialAmmInfo a init lpAmount) := by
      refine ⟨hstored, rfl, ?_⟩
      show w'.accounts.supply a.ammLpMintInfo.key ≤ lpAmount.toNat + 0
      rw [hsupply, hfresh, Nat.zero_add, Nat.add_zero]
    obtain ⟨amm, hc'⟩ := hc.run hkeep hexact hrun
    refine ⟨amm, hc'.stored, hc'.mint, ?_⟩
    rw [hc'.mint]
    exact hc'.supply

end Runs

namespace Reference

/-- A creation with 4 coin and 9 pc. -/
def smallRequest : InitializeInstruction2 := ⟨0, 0, 9, 4⟩

/-- The square root of 36, by three steps from 18. -/
theorem smallRequest_lpAmount : initializeLpAmount smallRequest = .ok 6 := by
  have hroot : newtonLoop 36 36 18 = .ok 6 := by
    rw [newtonLoop, dif_pos (by decide)]
    show newtonLoop 36 18 10 = .ok 6
    rw [newtonLoop, dif_pos (by decide)]
    show newtonLoop 36 10 6 = .ok 6
    rw [newtonLoop, dif_pos (by decide)]
    show newtonLoop 36 6 6 = .ok 6
    rw [newtonLoop, dif_neg (by decide)]
  show (do
    let x ← newtonLoop 36 36 18
    return x.setWidth 64 : Result U64) = .ok 6
  rw [hroot]
  rfl

/-- The accounts of that creation before its mint, where the LP mint has a supply of `before`. -/
def mintWorld (before : Nat) : World := world [
  (10, ⟨program, .amm (initialAmmInfo creation smallRequest 0)⟩),
  (12, ⟨program, .targetOrders (initialTargetOrders (key 10))⟩),
  (13, tokenAccount (key 40) authority 0),
  (14, tokenAccount (key 41) authority 0),
  (15, mintAccount before),
  (31, tokenAccount (key 40) (key 30) 1000000),
  (32, tokenAccount (key 41) (key 30) 1000000),
  (33, tokenAccount (key 15) (key 30) before)]

end Reference

open Reference in
/-- On a fresh mint every run is covered. -/
theorem lp_supply_covered_iff_fresh :
    ∃ w, initializeFunds env program creation smallRequest (mintWorld 0) = .ok w ∧
      ∀ ops w', Runs.Run (LpStep env program (key 10)) w ops w' →
        ∃ amm, w'.accounts (key 10) = ⟨program, .amm amm⟩ ∧ amm.lpMint = key 15 ∧
          w'.accounts.supply amm.lpMint ≤ amm.lpAmount.toNat := by
  have hcreated : ∃ w, initializeFunds env program creation smallRequest (mintWorld 0) =
      .ok w := by
    rw [initializeFunds, smallRequest_lpAmount, Outcome.ok_bind]
    exact Outcome.exists_of_isOk (by decide +kernel)
  obtain ⟨w, hw⟩ := hcreated
  exact ⟨w, hw, (lp_supply_covered_iff (keepsRecords program) exactSupply hw).mpr rfl⟩

open Reference in
/-- On a mint with a supply of 500, the pool starts with 506 LP tokens in circulation and counts
    6. -/
theorem lp_supply_starts_uncovered :
    ∃ w amm, initializeFunds env program creation smallRequest (mintWorld 500) = .ok w ∧
      w.accounts (key 10) = ⟨program, .amm amm⟩ ∧ amm.lpMint = key 15 ∧
      amm.lpAmount.toNat = 6 ∧ w.accounts.supply amm.lpMint = 506 := by
  have hcreated : ∃ w, initializeFunds env program creation smallRequest (mintWorld 500) =
      .ok w := by
    rw [initializeFunds, smallRequest_lpAmount, Outcome.ok_bind]
    exact Outcome.exists_of_isOk (by decide +kernel)
  obtain ⟨w, hw⟩ := hcreated
  obtain ⟨lpAmount, hlp, hstored, hsupply⟩ :=
    initializeFunds_supply (keepsRecords program) exactSupply hw
  rw [smallRequest_lpAmount] at hlp
  cases hlp
  exact ⟨w, _, hw, hstored, rfl, rfl, hsupply⟩

end RaydiumAmm
