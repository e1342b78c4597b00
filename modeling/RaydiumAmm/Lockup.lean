import RaydiumAmm.Creation
import RaydiumAmm.Custody
import RaydiumAmm.HookedTrades
import RaydiumAmm.Layout
import RaydiumAmm.PoolLife

/-!
# Liquidity that stays

The account list of a withdraw is read past its end, so no withdraw goes through. Over whole runs
the LP amount of a pool is then a ledger of deposits, and a vault pays only swaps and the profit.

1. No withdraw goes through.
2. The LP amount over one instruction.
3. `liquidity_is_locked`.
-/

namespace RaydiumAmm

/-! ## 1. Withdraws -/

section Withdraws

variable {env : Env} {programId : Pubkey} {w w' : World}

theorem bindWithdraw_ne_ok (accounts : List AccountInfo) (a : WithdrawAccounts) :
    bindWithdraw accounts ≠ .ok a := by
  intro h
  by_cases hadmits : WithdrawAdmits accounts.length
  · have hreads : accounts.length < withdrawReads accounts.length := by
      rw [withdrawReads_of_admits hadmits]
      exact Nat.lt_add_of_pos_right Nat.zero_lt_two
    unfold WithdrawAdmits at hadmits
    rw [bindWithdraw, check, Outcome.require_pos hadmits, Outcome.ok_bind, Binder.bindAll,
      (withdrawBinder_reads _).short accounts hreads] at h
    cases h
  · unfold WithdrawAdmits at hadmits
    rw [bindWithdraw, check, Outcome.require_neg hadmits] at h
    cases h

theorem processWithdraw_ne_ok {accounts : List AccountInfo} {withdraw : WithdrawInstruction} :
    processWithdraw env programId accounts withdraw w ≠ .ok w' := by
  intro h
  simp only [processWithdraw, Outcome.bind_eq_ok] at h
  obtain ⟨a, hbind, -⟩ := h
  exact bindWithdraw_ne_ok accounts a hbind

end Withdraws

/-! ## 2. One instruction -/

/-- The instruction is a deposit into the pool of `k`. -/
def InstructionCall.DepositsInto (k : Pubkey) (c : InstructionCall) : Prop :=
  ∃ deposit a, c.instruction = .deposit deposit ∧ bindDeposit c.accounts = .ok a ∧ a.ammInfo.key = k

/-- What a deposit writes to the account of `key`. -/
def DepositWrites (ammKey key : Pubkey) (data data' : AccountData) : Prop :=
  ∀ amm, data = .amm amm → key = ammKey ∧
    ∃ amm' mint, data' = .amm amm' ∧ amm'.lpAmount.toNat = amm.lpAmount.toNat + mint

/-- The account `k` holds a pool of `n` LP. -/
def HoldsLp (programId k : Pubkey) (w : World) (n : ℕ) : Prop :=
  ∃ amm, w.accounts k = ⟨programId, .amm amm⟩ ∧ amm.lpAmount.toNat = n

section Steps

variable {env : Env} {programId k v : Pubkey} {w w' : World} {c : InstructionCall} {n : ℕ}

theorem processDeposit_writes {accounts : List AccountInfo} {deposit : DepositInstruction}
    (h : processDeposit env programId accounts deposit w = .ok w') :
    ∃ a writes, bindDeposit accounts = .ok a ∧ WritesAfterCalls env AnyCall w w' writes ∧
      ∀ write ∈ writes,
        DepositWrites a.ammInfo.key write.1 (w.accounts write.1).data write.2 := by
  simp only [processDeposit, Outcome.bind_eq_ok] at h
  obtain ⟨a, hbind, h⟩ := h
  obtain ⟨c, d, hdone⟩ := depositBody_eq_ok h
  obtain ⟨w₁, w₂, w₃, x1, y1, calcPnlX, calcPnlY, lpAmount, hcalls, -, -, -, -, hlp, hw'⟩ :=
    hdone.run
  refine ⟨a, [(a.ammTargetOrdersInfo.key, .targetOrders _), (a.ammInfo.key, .amm _)], hbind,
    ⟨_, w₃, hcalls.calls, by rw [hw']; rfl⟩, ?_⟩
  intro write hwrite amm hdata
  rcases List.mem_cons.mp hwrite with rfl | hwrite
  · -- the planning record holds no pool
    rw [hdone.checked.storedTarget] at hdata
    cases hdata
  · obtain rfl := List.mem_singleton.mp hwrite
    rw [hdone.checked.stored] at hdata
    cases hdata
    exact ⟨rfl, _, d.mintLpAmount.toNat, rfl, hlp⟩

/-- The LP amount of a pool grows by what a deposit into it mints, and by nothing else. -/
theorem HoldsLp.step (hkeep : KeepsRecords env programId) (h : HoldsLp programId k w n)
    (hexec : Executes env programId w c w') :
    ∃ m, (0 < m → c.DepositsInto k) ∧ HoldsLp programId k w' (n + m) := by
  obtain ⟨amm, hk, rfl⟩ := h
  obtain ⟨amm', hk', -, -, hlp⟩ := hexec.poolKept hkeep amm hk
  by_cases hsame : amm'.lpAmount = amm.lpAmount
  · exact ⟨0, fun hpos => absurd hpos (Nat.lt_irrefl 0), amm', hk', by rw [hsame, Nat.add_zero]⟩
  by_cases hsucceeds : Succeeds env programId w c
  · obtain ⟨w₁, hrun⟩ := hsucceeds
    obtain rfl := hexec.eq_of_ok hrun
    rcases hlp hsame with ⟨deposit, hi⟩ | ⟨withdraw, hi⟩
    · rw [hi] at hrun
      obtain ⟨a, writes, hbind, hafter, hwrites⟩ := processDeposit_writes hrun
      have howns : OwnsRecord programId w.accounts k := ⟨by rw [hk], by rw [hk]; rfl⟩
      obtain ⟨-, hdata | hdeposit⟩ := WritesAfterCalls.record
        (w := { w with clock := c.clock, borrowed := [] }) (R := DepositWrites a.ammInfo.key) hkeep
        howns hafter hwrites
      · rw [hk', hk] at hdata
        cases hdata
        exact absurd rfl hsame
      · obtain ⟨hkey, amm'', mint, hdata, hmint⟩ := hdeposit amm (by rw [hk])
        rw [hk'] at hdata
        cases hdata
        exact ⟨mint, fun _ => ⟨deposit, a, hi, hbind, hkey.symm⟩, amm', hk', hmint⟩
    · rw [hi] at hrun
      exact absurd hrun processWithdraw_ne_ok
  · rw [hexec.eq_of_not_succeeds hsucceeds, hk] at hk'
    cases hk'
    exact absurd rfl hsame

/-- The instruction takes from a vault as a swap that pays in, or as a withdrawal of the profit. -/
def TakesNoShare (w : World) (c : InstructionCall) (w' : World) : Prop :=
  TakesByRight w c w' ∧ ∀ withdraw, c.instruction ≠ .withdraw withdraw

theorem Executes.takesNoShare (hexact : ExactTokens env) (hspenders : TokenSpenders env)
    (hsetup : SetupSpares env) (htied : Tied env v w c) (h : Executes env programId w c w')
    (hfall : w'.balance v < w.balance v) : TakesNoShare w c w' := by
  refine ⟨h.takes hexact hspenders hsetup htied hfall, ?_⟩
  intro withdraw hi
  have hfails : ¬Succeeds env programId w c := by
    rintro ⟨w₁, hrun⟩
    rw [hi] at hrun
    exact processWithdraw_ne_ok hrun
  rw [h.eq_of_not_succeeds hfails] at hfall
  exact Nat.lt_irrefl _ hfall

end Steps

/-! ## 3. Runs -/

/-- No run turns LP into tokens. (1) Over every run, whoever signs, the LP amount of a pool is what
    it was and one entry for each instruction, which is positive only for a deposit into the pool.
    (2) Over every run that is tied with respect to `v`, the balance of `v` falls only by a swap
    that pays in or by a withdrawal of the profit. -/
theorem liquidity_is_locked {env : Env} {programId : Pubkey} :
    (KeepsRecords env programId →
      ∀ (k : Pubkey) (amm : AmmInfo) (w w' : World) (calls : List InstructionCall),
        w.accounts k = ⟨programId, .amm amm⟩ → Runs.Run (Executes env programId) w calls w' →
        ∃ amm' minted, w'.accounts k = ⟨programId, .amm amm'⟩ ∧
          List.Forall₂ (fun c m => 0 < m → c.DepositsInto k) calls minted ∧
          amm'.lpAmount.toNat = amm.lpAmount.toNat + minted.sum) ∧
    (ExactTokens env → TokenSpenders env → SetupSpares env →
      ∀ (v : Pubkey) (w w' : World) (calls : List InstructionCall),
        Runs.Run (fun w c w' => Executes env programId w c w' ∧ Tied env v w c) w calls w' →
        Runs.Run (fun w c w' => Executes env programId w c w' ∧
          (w'.balance v < w.balance v → TakesNoShare w c w')) w calls w') := by
  constructor
  · intro hkeep k amm w w' calls hk hrun
    obtain ⟨minted, hentries, amm', hk', hlp⟩ := hrun.ledger (I := HoldsLp programId k)
      (E := fun c m => 0 < m → c.DepositsInto k)
      (fun _ _ _ _ hstep h => h.step hkeep hstep) ⟨amm, hk, rfl⟩
    exact ⟨amm', minted, hk', hentries, hlp⟩
  · intro hexact hspenders hsetup v w w' calls hrun
    exact hrun.mono fun w c w' hstep =>
      ⟨hstep.1, hstep.1.takesNoShare hexact hspenders hsetup hstep.2⟩

namespace Reference

/-- A holder of LP asks for 100 of them, with the accounts that a client builds. -/
def withdrawCall : InstructionCall where
  accounts := (withdrawMetas withdrawKeys none).map AccountMeta.info
  instruction := .withdraw ⟨100, none, none⟩
  clock := ⟨0, 0⟩

/-- A deposit of 1000 coin. -/
def depositCall : InstructionCall where
  accounts := depositInfos tokenProgramInfo
  instruction := .deposit depositRequest
  clock := ⟨0, 0⟩

end Reference

open Reference in
/-- A withdraw that is refused, then a deposit: one entry for each of them, and the deposit lets the
    coin vault be. -/
theorem liquidity_is_locked_two_calls :
    ∃ (w' : World) (amm' : AmmInfo) (minted : List ℕ),
      Succeeds env program swapWorld depositCall ∧ w'.accounts (key 10) = ⟨program, .amm amm'⟩ ∧
      List.Forall₂ (fun c m => 0 < m → c.DepositsInto (key 10)) [withdrawCall, depositCall] minted ∧
      amm'.lpAmount.toNat = 1000 + minted.sum ∧
      Runs.Run (fun w c w' => Executes env program w c w' ∧
        (w'.balance (key 13) < w.balance (key 13) → TakesNoShare w c w')) swapWorld
        ([withdrawCall] ++ [depositCall]) w' := by
  obtain ⟨w', hdeposit⟩ : Succeeds env program swapWorld depositCall :=
    Outcome.exists_of_isOk (by decide)
  have htied : Tied env (key 13) swapWorld depositCall := by
    intro a hbind
    cases hbind
    decide
  have hrefused : Executes env program swapWorld withdrawCall swapWorld := .of_fails rfl
  have hrun : Runs.Run (Executes env program) swapWorld ([withdrawCall] ++ [depositCall]) w' :=
    .snoc (.single hrefused) (.of_ok hdeposit)
  have hk : swapWorld.accounts (key 10) = ⟨program, .amm (pool .swapOnly 1000)⟩ := rfl
  obtain ⟨hledger, hvaults⟩ := @liquidity_is_locked env program
  obtain ⟨amm', minted, hk', hentries, hlp⟩ := hledger (keepsRecords program) _ _ _ _ _ hk hrun
  exact ⟨w', amm', minted, ⟨w', hdeposit⟩, hk', hentries, hlp,
    hvaults exactTokens tokenSpenders setupSpares _ _ _ _
      (.snoc (.single ⟨hrefused, trivial⟩) ⟨.of_ok hdeposit, htied⟩)⟩

end RaydiumAmm
