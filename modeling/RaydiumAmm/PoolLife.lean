import RaydiumAmm.LiquidityEffect
import RaydiumAmm.Opening

/-!
# The life of a pool record

Who can change what of a pool record, over every run of instructions of the program.

1. `AmmInfo.wiring`: what nobody changes. `AmmInfo.settings`: what the owner changes.
2. `pool_record_life`: the wiring of a pool is that of its start, whoever signs; without the
   signature of the owner the settings stay, and the status only opens.
3. `paused_stays_paused`: an operation that the status of the start does not permit does not go
   through.
-/

namespace RaydiumAmm

/-! ## 1. The parts of a record -/

/-- What a pool is wired to. -/
structure PoolWiring where
  nonce : U64
  coinDecimals : U64
  pcDecimals : U64
  resetFlag : U64
  coinLotSize : U64
  pcLotSize : U64
  sysDecimalValue : U64
  coinVault : Pubkey
  pcVault : Pubkey
  coinVaultMint : Pubkey
  pcVaultMint : Pubkey
  lpMint : Pubkey
  openOrders : Pubkey
  market : Pubkey
  targetOrders : Pubkey
  clientOrderId : U64

def AmmInfo.wiring (amm : AmmInfo) : PoolWiring where
  nonce := amm.nonce
  coinDecimals := amm.coinDecimals
  pcDecimals := amm.pcDecimals
  resetFlag := amm.resetFlag
  coinLotSize := amm.coinLotSize
  pcLotSize := amm.pcLotSize
  sysDecimalValue := amm.sysDecimalValue
  coinVault := amm.coinVault
  pcVault := amm.pcVault
  coinVaultMint := amm.coinVaultMint
  pcVaultMint := amm.pcVaultMint
  lpMint := amm.lpMint
  openOrders := amm.openOrders
  market := amm.market
  targetOrders := amm.targetOrders
  clientOrderId := amm.clientOrderId

/-- What the owner of a pool sets, the status apart. -/
structure PoolSettings where
  orderNum : U64
  depth : U64
  state : U64
  minSize : U64
  volMaxCutRatio : U64
  amountWave : U64
  minPriceMultiplier : U64
  maxPriceMultiplier : U64
  fees : Fees
  ammOwner : Pubkey

def AmmInfo.settings (amm : AmmInfo) : PoolSettings where
  orderNum := amm.orderNum
  depth := amm.depth
  state := amm.state
  minSize := amm.minSize
  volMaxCutRatio := amm.volMaxCutRatio
  amountWave := amm.amountWave
  minPriceMultiplier := amm.minPriceMultiplier
  maxPriceMultiplier := amm.maxPriceMultiplier
  fees := amm.fees
  ammOwner := amm.ammOwner

/-- A pool opens: its waiting time or its order book time is over. -/
inductive AmmStatus.Opens : AmmStatus → AmmStatus → Prop where
  | waitingTrade : Opens .waitingTrade .swapOnly
  | orderBookOnly : Opens .orderBookOnly .initialized

/-- The status `n'` is `n`, or `n` after it has opened. -/
def OpensOrStays (n n' : U64) : Prop :=
  n' = n ∨ ∃ s s' : AmmStatus, s.Opens s' ∧ n = s.intoU64 ∧ n' = s'.intoU64

/-- No status opens twice. -/
theorem AmmStatus.Opens.last {s s' s'' : AmmStatus} (h : s.Opens s') : ¬s'.Opens s'' := by
  intro h'
  cases h <;> cases h'

theorem AmmStatus.intoU64_injective {s s' : AmmStatus} (h : s.intoU64 = s'.intoU64) : s = s' := by
  have hs := AmmStatus.fromU64_intoU64 s
  rw [h, AmmStatus.fromU64_intoU64] at hs
  exact (Except.ok.inj hs).symm

theorem OpensOrStays.trans {n n' n'' : U64} (h : OpensOrStays n n') (h' : OpensOrStays n' n'') :
    OpensOrStays n n'' := by
  rcases h with rfl | ⟨s, s', hopens, rfl, rfl⟩
  · exact h'
  · rcases h' with rfl | ⟨r, r', hopens', hr, rfl⟩
    · exact .inr ⟨s, s', hopens, rfl, rfl⟩
    · obtain rfl := AmmStatus.intoU64_injective hr
      exact absurd hopens' hopens.last

/-! ## 2. One instruction -/

section Step

variable {amm amm' : AmmInfo} {accounts : List AccountInfo} {clock : Clock} {key : Pubkey}
  {i : AmmInstruction}

/-- The status gate opens the pool or leaves its status. -/
theorem swapStatusGate_opens (h : swapStatusGate amm clock = .ok amm') :
    OpensOrStays amm.status amm'.status := by
  simp only [swapStatusGate, Outcome.bind_eq_ok] at h
  obtain ⟨status, -, h⟩ := h
  rcases Outcome.ite_eq_ok.mp h with ⟨-, h⟩ | ⟨-, h⟩
  · rcases Outcome.ite_eq_ok.mp h with ⟨⟨hbook, -⟩, h⟩ | ⟨-, h⟩
    · cases h
      exact .inr ⟨_, _, .orderBookOnly, hbook, rfl⟩
    · cases h
  · rcases Outcome.ite_eq_ok.mp h with ⟨hwaiting, h⟩ | ⟨-, h⟩
    · rcases Outcome.ite_eq_ok.mp h with ⟨-, h⟩ | ⟨-, h⟩
      · cases h
      · cases h
        exact .inr ⟨_, _, .waitingTrade, hwaiting, rfl⟩
    · cases h
      exact .inl rfl

/-- A parameter update leaves the wiring alone. -/
theorem setParam_wiring (setparams : SetParamsInstruction) (param : AmmParams) :
    (setParam amm setparams param).wiring = amm.wiring := by
  have hset : ∀ {α : Type} (set : α → AmmInfo) (o : Option α),
      (∀ v, (set v).wiring = amm.wiring) → (setIfSome amm set o).wiring = amm.wiring := by
    intro α set o hv
    cases o with
    | none => rfl
    | some v => exact hv v
  cases param with
  | clearOpenTime => rfl
  | lastOrderDistance => rfl
  | initOrderDepth => rfl
  | setSwitchTime => rfl
  | seperate => rfl
  | updateOpenOrder => rfl
  | _ => exact hset _ _ fun _ => rfl

/-- No instruction changes the wiring. -/
theorem AmmChange.wiring (h : AmmChange accounts clock key i amm amm') :
    amm'.wiring = amm.wiring := by
  cases h with
  | swapBaseIn hgate =>
    obtain ⟨status, rfl, -⟩ := swapStatusGate_eq_ok hgate
    rfl
  | swapBaseOut hgate =>
    obtain ⟨status, rfl, -⟩ := swapStatusGate_eq_ok hgate
    rfl
  | setParams => exact setParam_wiring _ _
  | _ => rfl

/-- Without the signature of the owner the settings stay and the status only opens. -/
theorem AmmChange.settings (h : AmmChange accounts clock key i amm amm')
    (hforeign : ¬Signed accounts amm.ammOwner) :
    amm'.settings = amm.settings ∧ OpensOrStays amm.status amm'.status := by
  cases h with
  | swapBaseIn hgate =>
    have hopens := swapStatusGate_opens hgate
    obtain ⟨status, rfl, -⟩ := swapStatusGate_eq_ok hgate
    exact ⟨rfl, hopens⟩
  | swapBaseOut hgate =>
    have hopens := swapStatusGate_opens hgate
    obtain ⟨status, rfl, -⟩ := swapStatusGate_eq_ok hgate
    exact ⟨rfl, hopens⟩
  | setParams _ _ hsigned => exact absurd hsigned hforeign
  | _ => exact ⟨rfl, .inl rfl⟩

end Step

/-! ## 3. Runs -/

section Runs

variable {env : Env} {programId k : Pubkey} {w w' : World} {amm : AmmInfo}
  {calls : List InstructionCall}

theorem Executes.of_ok {c : InstructionCall}
    (h : processInstruction env programId c.accounts c.instruction
      { w with clock := c.clock, borrowed := [] } = .ok w') : Executes env programId w c w' := by
  unfold Executes
  rw [h]

theorem Executes.of_fails {c : InstructionCall}
    (h : (processInstruction env programId c.accounts c.instruction
      { w with clock := c.clock, borrowed := [] }).isOk = false) : Executes env programId w c w := by
  unfold Executes
  cases hrun : processInstruction env programId c.accounts c.instruction
      { w with clock := c.clock, borrowed := [] } with
  | ok w₁ =>
    rw [hrun] at h
    cases h
  | error e => rfl

/-- A run keeps the wiring. -/
theorem exists_wired_of_run (hkeep : KeepsRecords env programId)
    (hk : w.accounts k = ⟨programId, .amm amm⟩)
    (hrun : Runs.Run (Executes env programId) w calls w') :
    ∃ amm', w'.accounts k = ⟨programId, .amm amm'⟩ ∧ amm'.wiring = amm.wiring := by
  refine hrun.inv (I := fun w' => ∃ amm', w'.accounts k = ⟨programId, .amm amm'⟩ ∧
    amm'.wiring = amm.wiring) ?_ ⟨amm, hk, rfl⟩
  rintro w c w' hexec ⟨amm', hstored, hwiring⟩
  obtain ⟨amm'', hstored', rfl | hchange⟩ := hexec.amm hkeep hstored
  · exact ⟨_, hstored', hwiring⟩
  · exact ⟨amm'', hstored', hchange.wiring.trans hwiring⟩

/-- What a run without the signature of the owner leaves. -/
structure LeftAlone (programId k : Pubkey) (amm : AmmInfo) (w : World) (amm' : AmmInfo) : Prop where
  stored : w.accounts k = ⟨programId, .amm amm'⟩
  settings : amm'.settings = amm.settings
  status : OpensOrStays amm.status amm'.status

theorem LeftAlone.step {c : InstructionCall} {amm' : AmmInfo} (hkeep : KeepsRecords env programId)
    (h : LeftAlone programId k amm w amm') (hforeign : ¬Signed c.accounts amm.ammOwner)
    (hexec : Executes env programId w c w') : ∃ amm'', LeftAlone programId k amm w' amm'' := by
  obtain ⟨amm'', hstored', rfl | hchange⟩ := hexec.amm hkeep h.stored
  · exact ⟨_, hstored', h.settings, h.status⟩
  · have howner : amm'.ammOwner = amm.ammOwner := congrArg PoolSettings.ammOwner h.settings
    obtain ⟨hsettings, hstatus⟩ := hchange.settings (howner ▸ hforeign)
    exact ⟨amm'', hstored', hsettings.trans h.settings, h.status.trans hstatus⟩

theorem exists_leftAlone_of_run (hkeep : KeepsRecords env programId)
    (hk : w.accounts k = ⟨programId, .amm amm⟩)
    (hrun : Runs.Run (Executes env programId) w calls w')
    (hforeign : ∀ c ∈ calls, ¬Signed c.accounts amm.ammOwner) :
    ∃ amm', LeftAlone programId k amm w' amm' := by
  refine (hrun.restrict hforeign).inv (I := fun w' => ∃ amm', LeftAlone programId k amm w' amm') ?_
    ⟨amm, hk, rfl, .inl rfl⟩
  rintro w c w' ⟨hexec, hforeign⟩ ⟨amm', h⟩
  exact h.step hkeep hforeign hexec

/-- Over every run, whoever signs it, a pool keeps its wiring: its vaults, mints, market, open
    orders, planning record and decimals. Over a run that its owner does not sign, its fees, its
    order parameters and its owner stay as well, and its status is the same or has opened, once. -/
theorem pool_record_life (hkeep : KeepsRecords env programId)
    (hk : w.accounts k = ⟨programId, .amm amm⟩)
    (hrun : Runs.Run (Executes env programId) w calls w') :
    ∃ amm', w'.accounts k = ⟨programId, .amm amm'⟩ ∧ amm'.wiring = amm.wiring ∧
      ((∀ c ∈ calls, ¬Signed c.accounts amm.ammOwner) →
        amm'.settings = amm.settings ∧ OpensOrStays amm.status amm'.status) := by
  obtain ⟨amm', hstored, hwiring⟩ := exists_wired_of_run hkeep hk hrun
  refine ⟨amm', hstored, hwiring, fun hforeign => ?_⟩
  obtain ⟨amm'', h⟩ := exists_leftAlone_of_run hkeep hk hrun hforeign
  have hsame := h.stored
  rw [hstored] at hsame
  cases hsame
  exact ⟨h.settings, h.status⟩

end Runs

namespace Reference

/-- A swap of 1000 coin by a trader who is not the owner of the pool. -/
def traderSwap (time : U64) : InstructionCall := ⟨traderInfos, .swapBaseIn ⟨1000, 0⟩, ⟨time, 0⟩⟩

theorem not_signed_traderSwap (time : U64) : ∀ c ∈ [traderSwap time], ¬Signed c.accounts (key 30) := by
  intro c hc
  obtain rfl := List.mem_singleton.mp hc
  exact not_signed_traderInfos

/-- The world after that swap on the new pool. -/
def tradedWorld : World :=
  result (processInstruction env program traderInfos (.swapBaseIn ⟨1000, 0⟩)
    { openingWorld with clock := ⟨2000, 0⟩, borrowed := [] })

theorem executes_traderSwap : Executes env program openingWorld (traderSwap 2000) tradedWorld :=
  .of_ok (eq_ok_result (by decide))

end Reference

open Reference in
/-- One swap of a trader on a new pool. -/
theorem pool_record_life_trader_swap :
    ∃ amm', tradedWorld.accounts (key 10) = ⟨program, .amm amm'⟩ ∧
      amm'.wiring = (initialAmmInfo creation ⟨0, 1000, 0, 0⟩ 1000).wiring ∧
      amm'.settings = (initialAmmInfo creation ⟨0, 1000, 0, 0⟩ 1000).settings ∧
      OpensOrStays AmmStatus.initialized.intoU64 amm'.status := by
  obtain ⟨amm', hstored, hwiring, hforeign⟩ := pool_record_life (keepsRecords program)
    stored_openingWorld (.single executes_traderSwap)
  exact ⟨amm', hstored, hwiring, hforeign (not_signed_traderSwap 2000)⟩

/-! ## 4. Operations -/

/-- The status permits the operation; a pool whose order book time is over opens in a swap. The
    other instructions do not look at the status. -/
def AmmInstruction.permittedIn (status : AmmStatus) : AmmInstruction → Bool
  | .deposit _ => status.depositPermission
  | .withdraw _ => status.withdrawPermission
  | .swapBaseIn _ => status.swapPermission || status == .orderBookOnly
  | .swapBaseOut _ => status.swapPermission || status == .orderBookOnly
  | _ => true

/-- The instruction is an operation of a user on the pool `k`. -/
def InstructionCall.Operates (k : Pubkey) (c : InstructionCall) : Prop :=
  match c.instruction with
  | .deposit _ => ∃ a, bindDeposit c.accounts = .ok a ∧ a.ammInfo.key = k
  | .withdraw _ => ∃ a, bindWithdraw c.accounts = .ok a ∧ a.ammInfo.key = k
  | .swapBaseIn _ => ∃ a, bindSwap c.accounts = .ok a ∧ a.ammInfo.key = k
  | .swapBaseOut _ => ∃ a, bindSwap c.accounts = .ok a ∧ a.ammInfo.key = k
  | _ => False

section Operations

variable {env : Env} {programId : Pubkey} {w w' : World}

/-- A deposit that goes through is permitted. -/
theorem depositBody_permitted {a : DepositAccounts} {deposit : DepositInstruction} {amm : AmmInfo}
    (hamm : (w.accounts a.ammInfo.key).data = .amm amm)
    (h : depositBody env programId a deposit w = .ok w') :
    ∃ status, AmmStatus.fromU64 amm.status = .ok status ∧ status.depositPermission = true := by
  simp only [depositBody, depositPrologue, ↓check_bind_eq_ok, Outcome.bind_eq_ok] at h
  obtain ⟨-, ⟨⟨amm₀, w₁⟩, hload, -, -, status, hstatus, hpermitted, -⟩, -⟩ := h
  obtain ⟨-, hdata, -⟩ := AmmInfo.loadMutChecked_eq_ok hload
  obtain rfl : amm = amm₀ := AccountData.amm_unique hamm hdata
  exact ⟨status, hstatus, hpermitted⟩

/-- A withdraw that goes through is permitted. -/
theorem withdrawBody_permitted {a : WithdrawAccounts} {withdraw : WithdrawInstruction}
    {amm : AmmInfo} (hamm : (w.accounts a.ammInfo.key).data = .amm amm)
    (h : withdrawBody env programId a withdraw w = .ok w') :
    ∃ status, AmmStatus.fromU64 amm.status = .ok status ∧ status.withdrawPermission = true := by
  simp only [withdrawBody, withdrawPrologue, ↓check_bind_eq_ok, Outcome.bind_eq_ok] at h
  obtain ⟨-, ⟨-, -, -, ⟨amm₀, w₁⟩, hload, -, -, status, hstatus, hpermitted, -⟩, -⟩ := h
  obtain ⟨-, hdata, -⟩ := AmmInfo.loadMutChecked_eq_ok hload
  obtain rfl : amm = amm₀ := AccountData.amm_unique hamm hdata
  exact ⟨status, hstatus, hpermitted⟩

/-- What passes the status gate is permitted. -/
theorem swapStatusGate_permitted {amm gated : AmmInfo} {clock : Clock}
    (h : swapStatusGate amm clock = .ok gated) :
    ∃ status, AmmStatus.fromU64 amm.status = .ok status ∧
      (status.swapPermission || status == .orderBookOnly) = true := by
  simp only [swapStatusGate, Outcome.bind_eq_ok] at h
  obtain ⟨status, hstatus, h⟩ := h
  refine ⟨status, hstatus, ?_⟩
  rcases Outcome.ite_eq_ok.mp h with ⟨-, h⟩ | ⟨hpermitted, -⟩
  · rcases Outcome.ite_eq_ok.mp h with ⟨⟨hbook, -⟩, -⟩ | ⟨-, h⟩
    · have hsame := AmmStatus.intoU64_of_fromU64 hstatus
      rw [hbook] at hsame
      rw [AmmStatus.intoU64_injective hsame]
      rfl
    · cases h
  · rw [Bool.not_eq_true, Bool.not_eq_false'] at hpermitted
    rw [hpermitted]
    rfl

/-- A swap on a pool that goes through has passed the status gate. -/
theorem Succeeds.gate {c : InstructionCall} {k : Pubkey} {amm : AmmInfo}
    (hk : w.accounts k = ⟨programId, .amm amm⟩) (hop : c.Operates k)
    (hswap : c.instruction.isSwap = true) (h : Succeeds env programId w c) :
    ∃ gated, swapStatusGate amm c.clock = .ok gated := by
  obtain ⟨accounts, instruction, clock⟩ := c
  obtain ⟨w', hrun⟩ := h
  cases instruction with
  | swapBaseIn swap =>
    obtain ⟨a, hbind, rfl⟩ := hop
    simp only [processInstruction, processSwapBaseIn, hbind, Outcome.ok_bind, swapBaseInBody,
      Outcome.bind_eq_ok] at hrun
    obtain ⟨⟨c, w₁⟩, hpro, -⟩ := hrun
    obtain ⟨amm₀, hdata, hgate⟩ := swapPrologue_gate hpro
    obtain rfl : amm = amm₀ := AccountData.amm_unique (by rw [hk]) hdata
    exact ⟨_, hgate⟩
  | swapBaseOut swap =>
    obtain ⟨a, hbind, rfl⟩ := hop
    simp only [processInstruction, processSwapBaseOut, hbind, Outcome.ok_bind, swapBaseOutBody,
      Outcome.bind_eq_ok] at hrun
    obtain ⟨⟨c, w₁⟩, hpro, -⟩ := hrun
    obtain ⟨amm₀, hdata, hgate⟩ := swapPrologue_gate hpro
    obtain rfl : amm = amm₀ := AccountData.amm_unique (by rw [hk]) hdata
    exact ⟨_, hgate⟩
  | _ => cases hswap

/-- An operation on a pool that goes through is permitted by the status of the pool. -/
theorem Succeeds.permitted {c : InstructionCall} {k : Pubkey} {amm : AmmInfo}
    (hk : w.accounts k = ⟨programId, .amm amm⟩) (hop : c.Operates k)
    (h : Succeeds env programId w c) :
    ∃ status, AmmStatus.fromU64 amm.status = .ok status ∧
      c.instruction.permittedIn status = true := by
  obtain ⟨accounts, instruction, clock⟩ := c
  obtain ⟨w', hrun⟩ := h
  have hdata : (w.accounts k).data = .amm amm := by rw [hk]
  cases instruction with
  | deposit deposit =>
    obtain ⟨a, hbind, rfl⟩ := hop
    simp only [processInstruction, processDeposit, hbind, Outcome.ok_bind] at hrun
    exact depositBody_permitted (w := { w with clock := clock, borrowed := [] }) hdata hrun
  | withdraw withdraw =>
    obtain ⟨a, hbind, rfl⟩ := hop
    simp only [processInstruction, processWithdraw, hbind, Outcome.ok_bind] at hrun
    exact withdrawBody_permitted (w := { w with clock := clock, borrowed := [] }) hdata hrun
  | swapBaseIn swap =>
    obtain ⟨gated, hgate⟩ := Succeeds.gate hk hop rfl ⟨w', hrun⟩
    exact swapStatusGate_permitted hgate
  | swapBaseOut swap =>
    obtain ⟨gated, hgate⟩ := Succeeds.gate hk hop rfl ⟨w', hrun⟩
    exact swapStatusGate_permitted hgate
  | _ => exact absurd hop id

/-- What a pool permits after it has opened, it permitted before. -/
theorem AmmStatus.Opens.permittedIn {s s' : AmmStatus} (h : s.Opens s') (i : AmmInstruction)
    (hi : i.permittedIn s' = true) : i.permittedIn s = true := by
  cases h <;> cases i <;> exact hi

end Operations

/-- After every run that the owner of a pool does not sign, an operation on the pool that goes
    through is one that the status at the start of the run permits. -/
theorem paused_stays_paused {env : Env} {programId k : Pubkey} {w w' : World} {amm : AmmInfo}
    {status : AmmStatus} {calls : List InstructionCall} {c : InstructionCall}
    (hkeep : KeepsRecords env programId) (hk : w.accounts k = ⟨programId, .amm amm⟩)
    (hstatus : AmmStatus.fromU64 amm.status = .ok status)
    (hrun : Runs.Run (Executes env programId) w calls w')
    (hforeign : ∀ c ∈ calls, ¬Signed c.accounts amm.ammOwner) (hop : c.Operates k)
    (hsucceeds : Succeeds env programId w' c) : c.instruction.permittedIn status = true := by
  obtain ⟨amm', h⟩ := exists_leftAlone_of_run hkeep hk hrun hforeign
  obtain ⟨status', hstatus', hpermitted⟩ := hsucceeds.permitted h.stored hop
  rcases h.status with hsame | ⟨s, s', hopens, hs, hs'⟩
  · rw [hsame, hstatus] at hstatus'
    cases hstatus'
    exact hpermitted
  · rw [hs', AmmStatus.fromU64_intoU64] at hstatus'
    cases hstatus'
    rw [hs, AmmStatus.fromU64_intoU64] at hstatus
    cases hstatus
    exact hopens.permittedIn _ hpermitted

open Reference in
/-- A second swap of the trader. -/
theorem paused_stays_paused_second_swap :
    Succeeds env program tradedWorld (traderSwap 3000) ∧
      (AmmInstruction.swapBaseIn ⟨1000, 0⟩).permittedIn .initialized = true := by
  have hsucceeds : Succeeds env program tradedWorld (traderSwap 3000) :=
    Outcome.exists_of_isOk (by decide)
  have hop : (traderSwap 3000).Operates (key 10) := ⟨_, rfl, rfl⟩
  exact ⟨hsucceeds, paused_stays_paused (keepsRecords program) stored_openingWorld rfl
    (.single executes_traderSwap) (not_signed_traderSwap 2000) hop hsucceeds⟩

end RaydiumAmm
