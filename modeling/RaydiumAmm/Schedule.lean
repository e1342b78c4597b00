import RaydiumAmm.PoolLife

/-!
# The schedule of a pool

A pool in the status `WaitingTrade` opens at its `pool_open_time`, one in `OrderBookOnly` at its
`orderbook_to_init_time`.

1. `Scheduled`: what the writes of an instruction make of the two times.
2. No instruction changes the times of a pool without the signature of its owner.
3. `waiting_pool_opens_on_time`: before its time no swap goes through on a waiting pool, whatever
   runs before it.
-/

namespace RaydiumAmm

/-! ## 1. Writes -/

/-- The times at which a waiting pool opens. -/
def AmmInfo.times (amm : AmmInfo) : U64 × U64 :=
  (amm.stateData.poolOpenTime, amm.stateData.orderbookToInitTime)

/-- A write to an account that keeps the times of a pool whose owner does not sign. -/
def KeepsTimes (accounts : List AccountInfo) (data data' : AccountData) : Prop :=
  ∀ amm, data = .amm amm → ¬Signed accounts amm.ammOwner →
    ∃ amm', data' = .amm amm' ∧ amm'.times = amm.times

/-- What a handler does to the times: calls, and writes that keep them. -/
def Scheduled (env : Env) (accounts : List AccountInfo) (w w' : World) : Prop :=
  ∃ writes, WritesAfterCalls env AnyCall w w' writes ∧
    ∀ write ∈ writes, KeepsTimes accounts (w.accounts write.1).data write.2

section Writes

variable {env : Env} {programId : Pubkey} {accounts : List AccountInfo} {w w' : World}

/-- One pool record is written after the calls. -/
theorem Scheduled.amm {borrowed : List Pubkey} {w₁ : World} {key : Pubkey} {amm amm' : AmmInfo}
    (hcalls : Calls env AnyCall { w with borrowed := borrowed } w₁)
    (hstored : (w.accounts key).data = .amm amm) (htimes : amm'.times = amm.times)
    (hw' : w' = w₁.dropRefMut key (.amm amm')) : Scheduled env accounts w w' := by
  refine ⟨[(key, .amm amm')], ⟨borrowed, w₁, hcalls, by rw [hw']; rfl⟩, ?_⟩
  intro write hwrite amm₀ hdata _
  obtain rfl := List.mem_singleton.mp hwrite
  rw [hstored] at hdata
  cases hdata
  exact ⟨amm', rfl, htimes⟩

/-- The two records of a pool are written after the calls. -/
theorem Scheduled.pool {borrowed : List Pubkey} {w₁ : World} {key targetKey : Pubkey}
    {amm amm' : AmmInfo} {t t' : TargetOrders}
    (hcalls : Calls env AnyCall { w with borrowed := borrowed } w₁)
    (hstored : (w.accounts key).data = .amm amm)
    (htarget : (w.accounts targetKey).data = .targetOrders t) (htimes : amm'.times = amm.times)
    (hw' : w' = (w₁.dropRefMut targetKey (.targetOrders t')).dropRefMut key (.amm amm')) :
    Scheduled env accounts w w' := by
  refine ⟨[(targetKey, .targetOrders t'), (key, .amm amm')],
    ⟨borrowed, w₁, hcalls, by rw [hw']; rfl⟩, ?_⟩
  intro write hwrite amm₀ hdata _
  rcases List.mem_cons.mp hwrite with rfl | hwrite
  · rw [htarget] at hdata
    cases hdata
  · obtain rfl := List.mem_singleton.mp hwrite
    rw [hstored] at hdata
    cases hdata
    exact ⟨amm', rfl, htimes⟩

/-- An instruction whose changes keep the times. -/
theorem Writes.scheduled {i : AmmInstruction} (h : Writes env AnyCall accounts i w w')
    (hchange : ∀ key amm amm', AmmChange accounts w.clock key i amm amm' →
      ¬Signed accounts amm.ammOwner → amm'.times = amm.times) : Scheduled env accounts w w' := by
  obtain ⟨writes, hafter, hwrites⟩ := h
  refine ⟨writes, hafter, ?_⟩
  intro write hwrite amm hdata hforeign
  have hrecord := hwrites write hwrite
  rw [hdata] at hrecord
  generalize hnew : write.2 = data at hrecord
  cases hrecord with
  | amm h => exact ⟨_, rfl, hchange _ _ _ h hforeign⟩

end Writes

/-! ## 2. Handlers -/

section Handlers

variable {env : Env} {programId : Pubkey} {accounts : List AccountInfo} {w w' : World}

theorem swapStatusGate_times {amm gated : AmmInfo} {clock : Clock}
    (h : swapStatusGate amm clock = .ok gated) : gated.times = amm.times := by
  obtain ⟨status, rfl, -⟩ := swapStatusGate_eq_ok h
  rfl

/-- A branch of an exact-in swap counts, and leaves the times alone. -/
theorem swapBaseInBranch_times {a : SwapAccounts} {c : SwapContext} {swap : SwapInstructionBaseIn}
    {q : SwapBaseInQuote} {amm : AmmInfo}
    (h : swapBaseInBranch env programId a c swap q w = .ok (amm, w')) :
    amm.times = c.amm.times := by
  cases hdir : c.swapDirection with
  | coin2Pc =>
    simp only [swapBaseInBranch, hdir, swapBaseInCoin2Pc, Outcome.bind_eq_ok,
      Outcome.pure_eq_ok] at h
    obtain ⟨-, -, _, -, _, -, _, -, _, -, _, -, _, -, _, -, hret⟩ := h
    cases hret
    rfl
  | pc2Coin =>
    simp only [swapBaseInBranch, hdir, swapBaseInPc2Coin, Outcome.bind_eq_ok,
      Outcome.pure_eq_ok] at h
    obtain ⟨-, -, _, -, _, -, _, -, _, -, _, -, _, -, _, -, hret⟩ := h
    cases hret
    rfl

theorem swapBaseOutBranch_times {a : SwapAccounts} {c : SwapContext}
    {swap : SwapInstructionBaseOut} {q : SwapBaseOutQuote} {amm : AmmInfo}
    (h : swapBaseOutBranch env programId a c swap q w = .ok (amm, w')) :
    amm.times = c.amm.times := by
  cases hdir : c.swapDirection with
  | coin2Pc =>
    simp only [swapBaseOutBranch, hdir, swapBaseOutCoin2Pc, Outcome.bind_eq_ok,
      Outcome.pure_eq_ok] at h
    obtain ⟨-, -, _, -, _, -, _, -, _, -, _, -, _, -, hret⟩ := h
    cases hret
    rfl
  | pc2Coin =>
    simp only [swapBaseOutBranch, hdir, swapBaseOutPc2Coin, Outcome.bind_eq_ok,
      Outcome.pure_eq_ok] at h
    obtain ⟨-, -, _, -, _, -, _, -, _, -, _, -, _, -, hret⟩ := h
    cases hret
    rfl

theorem swapBaseInBranch_calls {a : SwapAccounts} {c : SwapContext} {swap : SwapInstructionBaseIn}
    {q : SwapBaseInQuote} {amm : AmmInfo} (ht : a.tokenProgramInfo.key = splTokenId)
    (h : swapBaseInBranch env programId a c swap q w = .ok (amm, w')) : Calls env AnyCall w w' := by
  cases hdir : c.swapDirection with
  | coin2Pc =>
    simp only [swapBaseInBranch, hdir] at h
    obtain ⟨-, w₁, w₂, s, hcalls, -, -⟩ := swapBaseInCoin2Pc_eq_ok ht hdir h
    exact hcalls.calls
  | pc2Coin =>
    simp only [swapBaseInBranch, hdir] at h
    obtain ⟨-, w₁, w₂, s, hcalls, -, -⟩ := swapBaseInPc2Coin_eq_ok ht hdir h
    exact hcalls.calls

theorem swapBaseOutBranch_calls {a : SwapAccounts} {c : SwapContext}
    {swap : SwapInstructionBaseOut} {q : SwapBaseOutQuote} {amm : AmmInfo}
    (ht : a.tokenProgramInfo.key = splTokenId)
    (h : swapBaseOutBranch env programId a c swap q w = .ok (amm, w')) :
    Calls env AnyCall w w' := by
  cases hdir : c.swapDirection with
  | coin2Pc =>
    simp only [swapBaseOutBranch, hdir] at h
    obtain ⟨w₁, w₂, s, hcalls, -, -⟩ := swapBaseOutCoin2Pc_eq_ok ht hdir h
    exact hcalls.calls
  | pc2Coin =>
    simp only [swapBaseOutBranch, hdir] at h
    obtain ⟨w₁, w₂, s, hcalls, -, -⟩ := swapBaseOutPc2Coin_eq_ok ht hdir h
    exact hcalls.calls

theorem processSwapBaseIn_scheduled {swap : SwapInstructionBaseIn}
    (h : processSwapBaseIn env programId accounts swap w = .ok w') :
    Scheduled env accounts w w' := by
  simp only [processSwapBaseIn, swapBaseInBody, Outcome.bind_eq_ok, Outcome.pure_eq_ok] at h
  obtain ⟨a, -, ⟨c, w₀⟩, hpro, -, -, q, -, -, -, -, -, ⟨amm', w₃⟩, hbranch, hw'⟩ := h
  obtain ⟨amm, hstored, hgate⟩ := swapPrologue_gate hpro
  obtain ⟨_, hchecked, rfl⟩ := swapPrologue_eq_ok hpro
  refine .amm (swapBaseInBranch_calls hchecked.tokenProgram hbranch) hstored ?_ hw'.symm
  exact (swapBaseInBranch_times hbranch).trans (swapStatusGate_times hgate)

theorem processSwapBaseOut_scheduled {swap : SwapInstructionBaseOut}
    (h : processSwapBaseOut env programId accounts swap w = .ok w') :
    Scheduled env accounts w w' := by
  simp only [processSwapBaseOut, swapBaseOutBody, Outcome.bind_eq_ok, Outcome.pure_eq_ok] at h
  obtain ⟨a, -, ⟨c, w₀⟩, hpro, q, -, -, -, -, -, -, -, ⟨amm', w₃⟩, hbranch, hw'⟩ := h
  obtain ⟨amm, hstored, hgate⟩ := swapPrologue_gate hpro
  obtain ⟨_, hchecked, rfl⟩ := swapPrologue_eq_ok hpro
  refine .amm (swapBaseOutBranch_calls hchecked.tokenProgram hbranch) hstored ?_ hw'.symm
  exact (swapBaseOutBranch_times hbranch).trans (swapStatusGate_times hgate)

theorem processDeposit_scheduled {deposit : DepositInstruction}
    (h : processDeposit env programId accounts deposit w = .ok w') :
    Scheduled env accounts w w' := by
  simp only [processDeposit, Outcome.bind_eq_ok] at h
  obtain ⟨a, -, h⟩ := h
  obtain ⟨c, d, hdone⟩ := depositBody_eq_ok h
  obtain ⟨w₁, w₂, w₃, x1, y1, calcPnlX, calcPnlY, lpAmount, hcalls, -, -, -, -, -, hw'⟩ := hdone.run
  refine .pool hcalls.calls hdone.checked.stored hdone.checked.storedTarget ?_ hw'
  rfl

theorem processWithdraw_scheduled {withdraw : WithdrawInstruction}
    (h : processWithdraw env programId accounts withdraw w = .ok w') :
    Scheduled env accounts w w' := by
  simp only [processWithdraw, Outcome.bind_eq_ok] at h
  obtain ⟨a, -, h⟩ := h
  obtain ⟨c, coinAmount, pcAmount, hdone⟩ := withdrawBody_eq_ok h
  obtain ⟨w₀, w₁, w₂, w₃, x1, y1, calcPnlX, calcPnlY, lpAmount, hdex, -, hcalls, -, -, -, -, -,
    hw'⟩ := hdone.run
  refine .pool (hdex.any.trans hcalls.calls) hdone.checked.stored hdone.checked.storedTarget ?_ hw'
  unfold withdrawRecord withdrawTakePnl
  split <;> rfl

theorem processMonitorStep_scheduled (monitor : MonitorStepInstruction)
    (h : processMonitorStep env programId accounts monitor w = .ok w') :
    Scheduled env accounts w w' := by
  simp only [processMonitorStep, Outcome.bind_eq_ok] at h
  obtain ⟨a, -, h⟩ := h
  obtain ⟨c, hdone⟩ := monitorBody_eq_ok h
  obtain ⟨w₁, hcalls, hw'⟩ := hdone.run
  refine .pool hcalls.any hdone.checked.stored hdone.checked.storedTarget ?_ hw'
  rfl

theorem processWithdrawPnl_scheduled (h : processWithdrawPnl env programId accounts w = .ok w') :
    Scheduled env accounts w w' := by
  simp only [processWithdrawPnl, Outcome.bind_eq_ok] at h
  obtain ⟨a, -, h⟩ := h
  obtain ⟨amm, hdone⟩ := withdrawPnlBody_eq_ok h
  obtain ⟨w₁, w₂, hcoin, hpc, hw'⟩ := hdone.run
  have hspl := hdone.checked.tokenProgram
  refine .amm ((payPnl_calls hspl hcoin).trans (payPnl_calls hspl hpc)) hdone.checked.stored ?_ hw'
  rfl

/-- A successful instruction keeps the times of every pool whose owner does not sign it. -/
theorem processInstruction_scheduled {i : AmmInstruction}
    (h : processInstruction env programId accounts i w = .ok w') : Scheduled env accounts w w' := by
  have hwrites := processInstruction_changes h
  cases i with
  | swapBaseIn swap => exact processSwapBaseIn_scheduled h
  | swapBaseOut swap => exact processSwapBaseOut_scheduled h
  | deposit deposit => exact processDeposit_scheduled h
  | withdraw withdraw => exact processWithdraw_scheduled h
  | monitorStep monitor => exact processMonitorStep_scheduled monitor h
  | withdrawPnl => exact processWithdrawPnl_scheduled h
  | _ =>
    -- the other instructions write no times, or ask for the signature of the owner
    refine hwrites.scheduled fun key amm amm' hchange hforeign => ?_
    cases hchange <;> first | rfl | exact absurd (by assumption) hforeign

end Handlers

/-! ## 3. Runs -/

/-- The pool waits for the time `t`. -/
def AmmInfo.WaitsUntil (amm : AmmInfo) (t : U64) : Prop :=
  (amm.status = AmmStatus.waitingTrade.intoU64 ∧ amm.stateData.poolOpenTime = t) ∨
    (amm.status = AmmStatus.orderBookOnly.intoU64 ∧ amm.stateData.orderbookToInitTime = t)

section Runs

variable {env : Env} {programId k : Pubkey} {w w' : World} {amm : AmmInfo} {t : U64}

/-- The gate lets a swap on a waiting pool through from its time on, and refuses it before. -/
theorem AmmInfo.WaitsUntil.gate (h : amm.WaitsUntil t) (clock : Clock) :
    (clock.unixTimestamp < t → swapStatusGate amm clock = Outcome.fail AmmError.invalidStatus.into) ∧
      (t ≤ clock.unixTimestamp → ∃ gated, swapStatusGate amm clock = .ok gated) := by
  rcases h with ⟨hstatus, rfl⟩ | ⟨hstatus, rfl⟩
  · simp only [swapStatusGate, hstatus, AmmStatus.fromU64_intoU64, Outcome.ok_bind]
    refine ⟨fun hlt => ?_, fun hle => ?_⟩
    · rw [if_neg (by decide), if_pos trivial, if_pos hlt]
    · rw [if_neg (by decide), if_pos trivial, if_neg (BitVec.not_lt.mpr hle)]
      exact ⟨_, rfl⟩
  · simp only [swapStatusGate, hstatus, AmmStatus.fromU64_intoU64, Outcome.ok_bind]
    refine ⟨fun hlt => ?_, fun hle => ?_⟩
    · rw [if_pos (by decide), if_neg fun h => BitVec.not_le.mpr hlt h.2]
    · rw [if_pos (by decide), if_pos ⟨trivial, hle⟩]
      exact ⟨_, rfl⟩

/-- An instruction of a run keeps the times of a pool whose owner does not sign it. -/
theorem Executes.times {c : InstructionCall} {amm' : AmmInfo} (hkeep : KeepsRecords env programId)
    (hk : w.accounts k = ⟨programId, .amm amm⟩) (hk' : w'.accounts k = ⟨programId, .amm amm'⟩)
    (hforeign : ¬Signed c.accounts amm.ammOwner) (h : Executes env programId w c w') :
    amm'.times = amm.times := by
  by_cases hsucceeds : Succeeds env programId w c
  · obtain ⟨w₁, hrun⟩ := hsucceeds
    obtain rfl := h.eq_of_ok hrun
    obtain ⟨writes, hafter, hwrites⟩ := processInstruction_scheduled hrun
    have howns : OwnsRecord programId w.accounts k := ⟨by rw [hk], by rw [hk]; rfl⟩
    obtain ⟨-, hdata | htimes⟩ := WritesAfterCalls.record
      (w := { w with clock := c.clock, borrowed := [] }) (R := fun _ => KeepsTimes c.accounts) hkeep
      howns hafter hwrites
    · rw [hk', hk] at hdata
      cases hdata
      rfl
    · obtain ⟨amm'', hdata, hsame⟩ := htimes amm (by rw [hk]) hforeign
      rw [hk'] at hdata
      cases hdata
      exact hsame
  · rw [h.eq_of_not_succeeds hsucceeds, hk] at hk'
    cases hk'
    rfl

/-- One change of a waiting pool before its time, without the signature of its owner. -/
theorem AmmChange.waits {accounts : List AccountInfo} {clock : Clock} {key : Pubkey}
    {i : AmmInstruction} {amm' : AmmInfo} (hwaits : amm.WaitsUntil t)
    (hearly : clock.unixTimestamp < t) (hforeign : ¬Signed accounts amm.ammOwner)
    (h : AmmChange accounts clock key i amm amm') :
    amm'.status = amm.status ∧ amm'.ammOwner = amm.ammOwner := by
  cases h with
  | swapBaseIn hgate =>
    rw [(hwaits.gate clock).1 hearly] at hgate
    cases hgate
  | swapBaseOut hgate =>
    rw [(hwaits.gate clock).1 hearly] at hgate
    cases hgate
  | setParams _ _ hsigned => exact absurd hsigned hforeign
  | _ => exact ⟨rfl, rfl⟩

/-- The account `k` holds a pool of `owner` that waits for the time `t`. -/
def HoldsWaiting (programId k owner : Pubkey) (t : U64) (w : World) : Prop :=
  ∃ amm, w.accounts k = ⟨programId, .amm amm⟩ ∧ amm.WaitsUntil t ∧ amm.ammOwner = owner

theorem HoldsWaiting.step {c : InstructionCall} {owner : Pubkey}
    (hkeep : KeepsRecords env programId) (h : HoldsWaiting programId k owner t w)
    (hearly : c.clock.unixTimestamp < t) (hforeign : ¬Signed c.accounts owner)
    (hexec : Executes env programId w c w') : HoldsWaiting programId k owner t w' := by
  obtain ⟨amm, hk, hwaits, rfl⟩ := h
  obtain ⟨amm', hk', hchange⟩ := hexec.amm hkeep hk
  have htimes := hexec.times hkeep hk hk' hforeign
  have hkept : amm'.status = amm.status ∧ amm'.ammOwner = amm.ammOwner := by
    rcases hchange with rfl | hchange
    · exact ⟨rfl, rfl⟩
    · exact hchange.waits hwaits hearly hforeign
  refine ⟨amm', hk', ?_, hkept.2⟩
  have hopen : amm'.stateData.poolOpenTime = amm.stateData.poolOpenTime := congrArg Prod.fst htimes
  have hbook : amm'.stateData.orderbookToInitTime = amm.stateData.orderbookToInitTime :=
    congrArg Prod.snd htimes
  unfold AmmInfo.WaitsUntil at *
  rw [hkept.1, hopen, hbook]
  exact hwaits

/-- A pool whose owner has put it in `WaitingTrade` or in `OrderBookOnly` stays there in every run
    that its owner does not sign and whose clocks are before its time. A swap on it after such a
    run goes through only from its time on, and the gate then lets it through. -/
theorem waiting_pool_opens_on_time {calls : List InstructionCall}
    (hkeep : KeepsRecords env programId) (hk : w.accounts k = ⟨programId, .amm amm⟩)
    (hwaits : amm.WaitsUntil t) (hrun : Runs.Run (Executes env programId) w calls w')
    (hearly : ∀ c ∈ calls, c.clock.unixTimestamp < t ∧ ¬Signed c.accounts amm.ammOwner) :
    ∃ amm', w'.accounts k = ⟨programId, .amm amm'⟩ ∧ amm'.WaitsUntil t ∧
      (∀ c : InstructionCall, c.Operates k → c.instruction.isSwap = true →
        Succeeds env programId w' c → t ≤ c.clock.unixTimestamp) ∧
      ∀ clock : Clock, t ≤ clock.unixTimestamp → ∃ gated, swapStatusGate amm' clock = .ok gated := by
  obtain ⟨amm', hk', hwaits', -⟩ := (hrun.restrict hearly).inv
    (I := HoldsWaiting programId k amm.ammOwner t)
    (fun _ _ _ hstep h => h.step hkeep hstep.2.1 hstep.2.2 hstep.1) ⟨amm, hk, hwaits, rfl⟩
  refine ⟨amm', hk', hwaits', ?_, fun clock => (hwaits'.gate clock).2⟩
  intro c hop hswap hsucceeds
  by_contra hlt
  have hlt := BitVec.not_le.mp hlt
  obtain ⟨gated, hgate⟩ := hsucceeds.gate hk' hop hswap
  rw [(hwaits'.gate c.clock).1 hlt] at hgate
  cases hgate

end Runs

namespace Reference

/-- The record of a pool that waits for the time 1000. -/
def waitingPool : AmmInfo :=
  { initialAmmInfo creation ⟨0, 1000, 0, 0⟩ 1000 with status := AmmStatus.waitingTrade.intoU64 }

/-- That pool, and a trader with 1000000 coin. -/
def waitingWorld : World :=
  world (poolTable waitingPool 1000000 5000000 ++
    [(51, tokenAccount (key 40) (key 50) 1000000), (52, tokenAccount (key 41) (key 50) 0)])

end Reference

open Reference in
/-- A swap at the time 999 is refused, and one at the time 1000 goes through. -/
theorem waiting_pool_opens_on_time_thousand :
    Succeeds env program waitingWorld (traderSwap 1000) ∧
      ∃ amm', waitingWorld.accounts (key 10) = ⟨program, .amm amm'⟩ ∧ amm'.WaitsUntil 1000 ∧
        (1000 : U64) ≤ (traderSwap 1000).clock.unixTimestamp := by
  have hsucceeds : Succeeds env program waitingWorld (traderSwap 1000) :=
    Outcome.exists_of_isOk (by decide)
  have hk : waitingWorld.accounts (key 10) = ⟨program, .amm waitingPool⟩ := rfl
  have hearly : ∀ c ∈ [traderSwap 999],
      c.clock.unixTimestamp < 1000 ∧ ¬Signed c.accounts waitingPool.ammOwner := by
    intro c hc
    obtain rfl := List.mem_singleton.mp hc
    exact ⟨by decide, not_signed_traderInfos⟩
  have hop : (traderSwap 1000).Operates (key 10) := ⟨_, rfl, rfl⟩
  obtain ⟨amm', hk', hwaits, htime, -⟩ := waiting_pool_opens_on_time (keepsRecords program) hk
    (.inl ⟨rfl, rfl⟩) (.single (.of_fails (by decide))) hearly
  exact ⟨hsucceeds, amm', hk', hwaits, htime _ hop rfl hsucceeds⟩

end RaydiumAmm
