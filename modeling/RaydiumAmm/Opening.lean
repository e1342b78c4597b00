import RaydiumAmm.Records
import RaydiumAmm.Configuration

/-!
# The opening time

A new pool has an opening time and a status under which swaps wait for it, and it is created in
another status.

1. `OpenSince`: a record that the status gate lets through at any time.
2. Runs that the owner of the pool does not sign keep such a record.
3. `opening_gate_iff`: before the opening time swaps are stopped only where there is no such time.
-/

namespace RaydiumAmm

/-! ## 1. The gate -/

/-- The record is in the status `Initialized` and belongs to `owner`. -/
structure OpenSince (owner : Pubkey) (amm : AmmInfo) : Prop where
  status : amm.status = AmmStatus.initialized.intoU64
  owner : amm.ammOwner = owner

/-- In the status `Initialized` swaps pass the gate at any time. -/
theorem swapStatusGate_initialized {amm : AmmInfo} (h : amm.status = AmmStatus.initialized.intoU64)
    (clock : Clock) : swapStatusGate amm clock = .ok amm := by
  have hwaiting : ¬AmmStatus.initialized.intoU64 = AmmStatus.waitingTrade.intoU64 := by decide
  rw [swapStatusGate, h, AmmStatus.fromU64_intoU64, Outcome.ok_bind, if_neg (by decide),
    if_neg hwaiting]
  rfl

/-- The record of a new pool. -/
theorem OpenSince.initial (a : InitializeAccounts) (init : InitializeInstruction2) (lpAmount : U64) :
    OpenSince a.userWalletInfo.key (initialAmmInfo a init lpAmount) := ⟨rfl, rfl⟩

/-- What an instruction makes of the record without the signature of its owner. -/
theorem AmmChange.openSince {accounts : List AccountInfo} {clock : Clock} {key owner : Pubkey}
    {i : AmmInstruction} {amm amm' : AmmInfo} (h : OpenSince owner amm)
    (hsigned : ¬Signed accounts owner) (hchange : AmmChange accounts clock key i amm amm') :
    OpenSince owner amm' := by
  cases hchange with
  | swapBaseIn hgate =>
    rw [swapStatusGate_initialized h.status] at hgate
    cases hgate
    exact ⟨h.status, h.owner⟩
  | swapBaseOut hgate =>
    rw [swapStatusGate_initialized h.status] at hgate
    cases hgate
    exact ⟨h.status, h.owner⟩
  | setParams _ _ hsigned' => exact absurd (h.owner ▸ hsigned') hsigned
  | _ => exact ⟨h.status, h.owner⟩

/-! ## 2. Runs -/

/-- The account `k` holds an open record of the program. -/
def HoldsOpen (programId owner k : Pubkey) (w : World) : Prop :=
  ∃ amm, w.accounts k = ⟨programId, .amm amm⟩ ∧ OpenSince owner amm

/-- A run that the owner does not sign leaves the record open. -/
theorem holdsOpen_of_run {env : Env} {programId owner k : Pubkey} {w w' : World}
    {calls : List InstructionCall} (hkeep : KeepsRecords env programId)
    (h : Runs.Run (Executes env programId) w calls w')
    (hforeign : ∀ c ∈ calls, ¬Signed c.accounts owner) (hk : HoldsOpen programId owner k w) :
    HoldsOpen programId owner k w' := by
  refine (h.restrict hforeign).inv ?_ hk
  rintro w c w' ⟨hexec, hsigned⟩ ⟨amm, hstored, hopen⟩
  obtain ⟨amm', hstored', rfl | hchange⟩ := hexec.amm hkeep hstored
  · exact ⟨_, hstored', hopen⟩
  · exact ⟨amm', hstored', hchange.openSince hopen hsigned⟩

/-! ## 3. Swaps before the opening time -/

/-- An instruction that the owner does not sign, before the opening time. -/
structure InstructionCall.Early (owner : Pubkey) (openTime : U64) (c : InstructionCall) : Prop where
  foreign : ¬Signed c.accounts owner
  before : c.clock.unixTimestamp < openTime

/-- A swap of either kind. -/
def AmmInstruction.isSwap : AmmInstruction → Bool
  | .swapBaseIn _ => true
  | .swapBaseOut _ => true
  | _ => false

/-- After every run of early instructions from `w`, the status gate stops every early swap on the
    pool `k` with `InvalidStatus`. -/
def WaitsToOpen (env : Env) (programId k owner : Pubkey) (openTime : U64) (w : World) : Prop :=
  ∀ calls w', Runs.Run (Executes env programId) w calls w' →
    (∀ c ∈ calls, c.Early owner openTime) →
    ∀ c : InstructionCall, c.Early owner openTime → c.instruction.isSwap = true →
      ∀ amm, w'.accounts k = ⟨programId, .amm amm⟩ →
        swapStatusGate amm c.clock = Outcome.fail AmmError.invalidStatus.into

/-- A new pool waits for its opening time exactly where that time is zero. In every run without the
    signature of its owner, every swap passes the gate at every time. -/
theorem opening_gate_iff {env : Env} {programId k : Pubkey} {a : InitializeAccounts}
    {init : InitializeInstruction2} {lpAmount : U64} {w : World}
    (hkeep : KeepsRecords env programId)
    (hk : w.accounts k = ⟨programId, .amm (initialAmmInfo a init lpAmount)⟩) :
    (WaitsToOpen env programId k a.userWalletInfo.key init.openTime w ↔ init.openTime = 0) ∧
    ∀ calls w', Runs.Run (Executes env programId) w calls w' →
      (∀ c ∈ calls, ¬Signed c.accounts a.userWalletInfo.key) →
      ∃ amm, w'.accounts k = ⟨programId, .amm amm⟩ ∧
        ∀ clock, swapStatusGate amm clock = .ok amm := by
  refine ⟨⟨fun hwaits => ?_, fun hzero => ?_⟩, ?_⟩
  · by_contra hne
    have hpos : (0 : U64) < init.openTime := by
      rw [BitVec.lt_def]
      exact Nat.pos_of_ne_zero fun h0 => hne (BitVec.eq_of_toNat_eq h0)
    -- a swap right after the creation, at the time 0
    have hforeign : ¬Signed [] a.userWalletInfo.key := by
      rintro ⟨info, hinfo, -⟩
      cases hinfo
    have hgate := hwaits [] w (.nil w) (by simp) ⟨[], .swapBaseIn ⟨0, 0⟩, ⟨0, 0⟩⟩
      ⟨hforeign, hpos⟩ rfl _ hk
    rw [swapStatusGate_initialized rfl] at hgate
    cases hgate
  · intro calls w' _ _ c hearly
    have hbefore := BitVec.lt_def.mp hearly.before
    rw [hzero] at hbefore
    exact absurd hbefore (Nat.not_lt_zero _)
  · intro calls w' hrun hforeign
    obtain ⟨amm, hstored, hopen⟩ :=
      holdsOpen_of_run hkeep hrun hforeign ⟨_, hk, OpenSince.initial a init lpAmount⟩
    exact ⟨amm, hstored, swapStatusGate_initialized hopen.status⟩

/-! ## A pool that opens at the time 1000 -/

namespace Reference

/-- A pool right after its creation with the opening time 1000, and a trader with 1000000 coin. -/
def openingWorld : World :=
  world (poolTable (initialAmmInfo creation ⟨0, 1000, 0, 0⟩ 1000) 1000000 5000000 ++
    exchangeTable (openOrders 0 0 (BitVec.allOnes 128)) [] ++
    [(51, tokenAccount (key 40) (key 50) 1000000), (52, tokenAccount (key 41) (key 50) 0)])

theorem stored_openingWorld : openingWorld.accounts (key 10) =
    ⟨program, .amm (initialAmmInfo creation ⟨0, 1000, 0, 0⟩ 1000)⟩ := rfl

/-- The accounts of a swap that the trader signs. -/
def traderInfos : List AccountInfo := (swapInfos 51 52).dropLast ++ [signer 50]

/-- The owner of the pool does not sign it. -/
theorem not_signed_traderInfos : ¬Signed traderInfos (key 30) := by
  rintro ⟨info, hinfo, hsigner, hkey⟩
  revert info
  decide

end Reference

open Reference in
/-- The new pool does not wait, and swaps stay open in every run. -/
theorem opening_gate_iff_thousand :
    ¬WaitsToOpen env program (key 10) (key 30) 1000 openingWorld ∧
    ∀ calls w', Runs.Run (Executes env program) openingWorld calls w' →
      (∀ c ∈ calls, ¬Signed c.accounts (key 30)) →
      ∃ amm, w'.accounts (key 10) = ⟨program, .amm amm⟩ ∧
        ∀ clock, swapStatusGate amm clock = .ok amm := by
  obtain ⟨hiff, hruns⟩ := opening_gate_iff (keepsRecords program) stored_openingWorld
  refine ⟨fun hwaits => ?_, hruns⟩
  exact absurd (hiff.mp hwaits) (by decide)

open Reference in
/-- At the time 999 a trader swaps 1000 coin on the new pool. -/
theorem opening_gate_early_swap :
    openingWorld.accounts (key 10) =
        ⟨program, .amm (initialAmmInfo creation ⟨0, 1000, 0, 0⟩ 1000)⟩ ∧
      InstructionCall.Early (key 30) 1000 ⟨traderInfos, .swapBaseIn ⟨1000, 0⟩, ⟨999, 0⟩⟩ ∧
      (processInstruction env program traderInfos (.swapBaseIn ⟨1000, 0⟩)
        { openingWorld with clock := ⟨999, 0⟩ }).isOk = true ∧
      ¬WaitsToOpen env program (key 10) (key 30) 1000 openingWorld := by
  have hearly : InstructionCall.Early (key 30) 1000
      ⟨traderInfos, .swapBaseIn ⟨1000, 0⟩, ⟨999, 0⟩⟩ := ⟨not_signed_traderInfos, by decide⟩
  refine ⟨stored_openingWorld, hearly, by decide, fun hwaits => ?_⟩
  have hgate := hwaits [] openingWorld (.nil _) (by simp) _ hearly rfl _ stored_openingWorld
  rw [swapStatusGate_initialized rfl] at hgate
  cases hgate

end RaydiumAmm
