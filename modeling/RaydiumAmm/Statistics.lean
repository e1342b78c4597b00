import RaydiumAmm.SwapStages

/-!
# The statistics of a pool

The amount counters have 128 bits and the fee counters 64. In any run of fewer than 2^64 swaps the
amount counters stay far below their bound, so a swap that has moved its tokens is aborted by the
fee counter of its input token or by none.
-/

namespace RaydiumAmm

open Rounding

/-! ## 1. The counters of one swap -/

namespace SwapDirection

/-- The counter of the amounts in. -/
def inCounter (dir : SwapDirection) (s : StateData) : U128 :=
  match dir with
  | .coin2Pc => s.swapCoinInAmount
  | .pc2Coin => s.swapPcInAmount

/-- The counter of the amounts out. -/
def outCounter (dir : SwapDirection) (s : StateData) : U128 :=
  match dir with
  | .coin2Pc => s.swapPcOutAmount
  | .pc2Coin => s.swapCoinOutAmount

/-- The counter of the fees. -/
def feeCounter (dir : SwapDirection) (s : StateData) : U64 :=
  match dir with
  | .coin2Pc => s.swapAccCoinFee
  | .pc2Coin => s.swapAccPcFee

end SwapDirection

section Count

variable {dir : SwapDirection} {s : StateData} {counted out : U64} {fee : U128}

/-- The counting succeeds exactly where each of its three sums fits its counter. -/
theorem exists_countSwap_iff :
    (∃ s', countSwap dir s counted out fee = .ok s') ↔
      (dir.inCounter s).toNat + counted.toNat < 2 ^ 128 ∧
      (dir.outCounter s).toNat + out.toNat < 2 ^ 128 ∧
      (dir.feeCounter s).toNat + fee.toNat < 2 ^ 64 := by
  constructor
  · rintro ⟨s', h⟩
    cases dir with
    | coin2Pc =>
      simp only [countSwap, Outcome.bind_eq_ok, Outcome.unwrap_eq_ok, Checked.add_eq_some,
        asU64_eq_ok, toNat_toU128] at h
      obtain ⟨sumIn, hin, sumOut, hout, fee', hfee, sumFee, hsum, -⟩ := h
      rw [hfee] at hsum
      exact ⟨hin ▸ sumIn.isLt, hout ▸ sumOut.isLt, hsum ▸ sumFee.isLt⟩
    | pc2Coin =>
      simp only [countSwap, Outcome.bind_eq_ok, Outcome.unwrap_eq_ok, Checked.add_eq_some,
        asU64_eq_ok, toNat_toU128] at h
      obtain ⟨sumIn, hin, sumOut, hout, fee', hfee, sumFee, hsum, -⟩ := h
      rw [hfee] at hsum
      exact ⟨hin ▸ sumIn.isLt, hout ▸ sumOut.isLt, hsum ▸ sumFee.isLt⟩
  · rintro ⟨hin, hout, hfee⟩
    obtain ⟨sumIn, hsumIn⟩ := Checked.exists_toNat_eq hin
    obtain ⟨sumOut, hsumOut⟩ := Checked.exists_toNat_eq hout
    obtain ⟨sumFee, hsumFee⟩ := Checked.exists_toNat_eq hfee
    obtain ⟨fee', hfee'⟩ : ∃ fee' : U64, fee'.toNat = fee.toNat :=
      Checked.exists_toNat_eq (by omega)
    rw [← hfee'] at hsumFee
    cases dir with
    | coin2Pc =>
      simp only [countSwap, Outcome.exists_bind_eq_ok, Outcome.unwrap_eq_ok, Checked.add_eq_some,
        asU64_eq_ok, toNat_toU128]
      exact ⟨sumIn, hsumIn, sumOut, hsumOut, fee', hfee', sumFee, hsumFee, _, rfl⟩
    | pc2Coin =>
      simp only [countSwap, Outcome.exists_bind_eq_ok, Outcome.unwrap_eq_ok, Checked.add_eq_some,
        asU64_eq_ok, toNat_toU128]
      exact ⟨sumIn, hsumIn, sumOut, hsumOut, fee', hfee', sumFee, hsumFee, _, rfl⟩

/-- A counting that fails aborts. -/
theorem countSwap_avoids (e : ProgramError) : Outcome.Avoids e (countSwap dir s counted out fee) := by
  cases dir with
  | coin2Pc =>
    exact (Outcome.Avoids.unwrap _).bind fun _ _ => (Outcome.Avoids.unwrap _).bind fun _ _ =>
      (Outcome.Avoids.unwrap _).bind fun _ _ => (Outcome.Avoids.unwrap _).bind fun _ _ =>
        Outcome.Avoids.of_ok _
  | pc2Coin =>
    exact (Outcome.Avoids.unwrap _).bind fun _ _ => (Outcome.Avoids.unwrap _).bind fun _ _ =>
      (Outcome.Avoids.unwrap _).bind fun _ _ => (Outcome.Avoids.unwrap _).bind fun _ _ =>
        Outcome.Avoids.of_ok _

end Count

/-! ## 2. The fee of a request -/

/-- The fee of a request at these reserves: a rounded share of the amount in, or what the amount in
    exceeds the price by. -/
def SwapRequest.fee (request : SwapRequest) (fees : Fees) (rin rout : ℕ) : ℕ :=
  match request with
  | .baseIn swap => fees.rounded swap.amountIn.toNat
  | .baseOut swap => fees.required rin rout swap.amountOut.toNat -
      softCeil (rin * swap.amountOut.toNat) (rout - swap.amountOut.toNat)

section Fee

variable {env : Env} {programId : Pubkey} {a : SwapAccounts} {request : SwapRequest}
  {w w' : World} {p : SwapPriced} {amm : AmmInfo}

theorem SwapPriced.fee_eq (hpriced : swapPriced env programId a request w = .ok (p, w')) :
    p.fee.toNat = request.fee p.context.amm.fees
      (p.context.swapDirection.reserveIn p.context.totalCoinWithoutTakePnl.toNat
        p.context.totalPcWithoutTakePnl.toNat)
      (p.context.swapDirection.reserveOut p.context.totalCoinWithoutTakePnl.toNat
        p.context.totalPcWithoutTakePnl.toNat) := by
  obtain ⟨⟨c, w₁⟩, -, hpriced⟩ := Outcome.bind_eq_ok.mp hpriced
  cases request with
  | baseIn swap =>
    obtain ⟨q, hchecks, hret⟩ := Outcome.bind_eq_ok.mp hpriced
    cases hret
    simp only [swapBaseInChecks, Outcome.bind_eq_ok, check_eq_ok, Outcome.pure_eq_ok] at hchecks
    obtain ⟨-, -, q', hq, -, -, -, -, -, -, rfl⟩ := hchecks
    exact (swapBaseInQuote_eq_ok hq).fee
  | baseOut swap =>
    obtain ⟨q, hchecks, hret⟩ := Outcome.bind_eq_ok.mp hpriced
    cases hret
    simp only [swapBaseOutChecks, Outcome.bind_eq_ok, check_eq_ok, Outcome.pure_eq_ok] at hchecks
    obtain ⟨q', hq, -, -, -, -, -, -, -, -, rfl⟩ := hchecks
    have hquoted := swapBaseOutQuote_eq_ok hq
    have hfee := hquoted.fee
    rw [hquoted.required, hquoted.net] at hfee
    show (Calculator.toU128 q'.swapFee).toNat = _
    rw [toNat_toU128]
    exact Nat.eq_sub_of_add_eq' hfee.symm

/-- The fee of the request still fits the fee counter of its input token. -/
def FeeCounterFits (env : Env) (a : SwapAccounts) (amm : AmmInfo) (request : SwapRequest)
    (w : World) : Prop :=
  let coin := (coinTotal env a amm w).toNat
  let pc := (pcTotal env a amm w).toNat
  if TowardsPc a w then
    amm.stateData.swapAccCoinFee.toNat + request.fee amm.fees coin pc < 2 ^ 64
  else amm.stateData.swapAccPcFee.toNat + request.fee amm.fees pc coin < 2 ^ 64

instance (env : Env) (a : SwapAccounts) (amm : AmmInfo) (request : SwapRequest) (w : World) :
    Decidable (FeeCounterFits env a amm request w) := by
  unfold FeeCounterFits
  infer_instance

theorem SwapPriced.feeCounter_iff (hstored : (w.accounts a.ammInfo.key).data = .amm amm)
    (hpriced : swapPriced env programId a request w = .ok (p, w')) :
    (p.context.swapDirection.feeCounter p.context.amm.stateData).toNat + p.fee.toNat < 2 ^ 64 ↔
      FeeCounterFits env a amm request w := by
  obtain ⟨amm', hchecked, -⟩ := swapPrologue_eq_ok (swapPriced_prologue hpriced)
  obtain rfl : amm = amm' := AccountData.amm_unique hstored hchecked.stored
  obtain ⟨status, hrecord⟩ := hchecked.record
  have hcoin : (coinTotal env a amm w).toNat = p.context.totalCoinWithoutTakePnl.toNat := by
    rw [← hchecked.coinTotal, Int.toNat_natCast]
  have hpc : (pcTotal env a amm w).toNat = p.context.totalPcWithoutTakePnl.toNat := by
    rw [← hchecked.pcTotal, Int.toNat_natCast]
  have hfees : p.context.amm.fees = amm.fees := by rw [hrecord]
  have hstate : p.context.amm.stateData = amm.stateData := by rw [hrecord]
  rw [SwapPriced.fee_eq hpriced, hfees, hstate]
  simp only [FeeCounterFits, hcoin, hpc, ← hchecked.direction_iff]
  cases hdir : p.context.swapDirection with
  | coin2Pc => rfl
  | pc2Coin => rfl

end Fee

/-! ## 3. The amount counters of a run -/

/-- The zero counters of a new pool. -/
structure StateData.CountersZero (s : StateData) : Prop where
  coinIn : s.swapCoinInAmount = 0
  pcOut : s.swapPcOutAmount = 0
  accPcFee : s.swapAccPcFee = 0
  pcIn : s.swapPcInAmount = 0
  coinOut : s.swapCoinOutAmount = 0
  accCoinFee : s.swapAccCoinFee = 0

theorem StateData.init_countersZero (openTime : U64) : (StateData.init openTime).CountersZero :=
  ⟨rfl, rfl, rfl, rfl, rfl, rfl⟩

/-- The amount counters are at most those of `n` swaps of the largest amount. -/
structure CountersWithin (n : ℕ) (s : StateData) : Prop where
  coinIn : s.swapCoinInAmount.toNat ≤ n * (2 ^ 64 - 1)
  coinOut : s.swapCoinOutAmount.toNat ≤ n * (2 ^ 64 - 1)
  pcIn : s.swapPcInAmount.toNat ≤ n * (2 ^ 64 - 1)
  pcOut : s.swapPcOutAmount.toNat ≤ n * (2 ^ 64 - 1)

theorem StateData.CountersZero.within {s : StateData} (h : s.CountersZero) : CountersWithin 0 s where
  coinIn := by rw [h.coinIn]; decide
  coinOut := by rw [h.coinOut]; decide
  pcIn := by rw [h.pcIn]; decide
  pcOut := by rw [h.pcOut]; decide

/-- One swap counts its two amounts once each. -/
theorem CountersWithin.counted {n : ℕ} {s s' : StateData} {dir : SwapDirection} {counted out : U64}
    (h : CountersWithin n s) (hcounted : SwapCounted dir counted.toNat out.toNat s s') :
    CountersWithin (n + 1) s' := by
  have hin : counted.toNat ≤ 2 ^ 64 - 1 := Nat.le_sub_one_of_lt counted.isLt
  have hout : out.toNat ≤ 2 ^ 64 - 1 := Nat.le_sub_one_of_lt out.isLt
  have hadd : ∀ {x y : ℕ}, x ≤ n * (2 ^ 64 - 1) → y ≤ 2 ^ 64 - 1 →
      x + y ≤ (n + 1) * (2 ^ 64 - 1) := by
    intro x y hx hy
    rw [Nat.succ_mul]
    exact Nat.add_le_add hx hy
  constructor
  · rw [hcounted.coinIn]
    refine hadd h.coinIn ?_
    split
    · exact hin
    · exact Nat.zero_le _
  · rw [hcounted.coinOut]
    refine hadd h.coinOut ?_
    split
    · exact Nat.zero_le _
    · exact hout
  · rw [hcounted.pcIn]
    refine hadd h.pcIn ?_
    split
    · exact Nat.zero_le _
    · exact hin
  · rw [hcounted.pcOut]
    refine hadd h.pcOut ?_
    split
    · exact hout
    · exact Nat.zero_le _

/-- After fewer than 2^64 swaps the amount counters have room for another one. -/
theorem CountersWithin.room {n : ℕ} {s : StateData} (h : CountersWithin n s) (hn : n < 2 ^ 64)
    (dir : SwapDirection) (counted out : U64) :
    (dir.inCounter s).toNat + counted.toNat < 2 ^ 128 ∧
      (dir.outCounter s).toNat + out.toNat < 2 ^ 128 := by
  have hin := counted.isLt
  have hout := out.isLt
  have h₁ := h.coinIn
  have h₂ := h.coinOut
  have h₃ := h.pcIn
  have h₄ := h.pcOut
  cases dir with
  | coin2Pc => exact ⟨by simp only [SwapDirection.inCounter]; omega,
      by simp only [SwapDirection.outCounter]; omega⟩
  | pc2Coin => exact ⟨by simp only [SwapDirection.inCounter]; omega,
      by simp only [SwapDirection.outCounter]; omega⟩

/-- The pool's amount counters are those of at most `n` swaps. -/
def PoolWithin (ammKey : Pubkey) (n : ℕ) (w : World) : Prop :=
  ∃ amm, (w.accounts ammKey).data = .amm amm ∧ CountersWithin n amm.stateData

section Runs

variable {env : Env} {programId ammKey : Pubkey} {w w' : World}

theorem SwapDone.within {a : SwapAccounts} {coinVaultInfo : AccountInfo} {amm : AmmInfo}
    {c : SwapContext} {paid counted out : U64} {n : ℕ}
    (h : SwapDone env programId a coinVaultInfo amm c paid counted out w w')
    (hwithin : PoolWithin a.ammInfo.key n w) : PoolWithin a.ammInfo.key (n + 1) w' := by
  obtain ⟨amm₀, hstored, hcounters⟩ := hwithin
  obtain rfl : amm₀ = amm := AccountData.amm_unique hstored h.checked.stored
  obtain ⟨amm', hstored', -, hcounted⟩ := h.record
  exact ⟨amm', hstored', hcounters.counted hcounted⟩

/-- The step of the run invariant. -/
theorem SwapStep.within (n : ℕ) (w : World) (call : SwapCall) (w' : World)
    (h : SwapStep env programId ammKey w call w') (hwithin : PoolWithin ammKey n w) :
    PoolWithin ammKey (n + 1) w' := by
  obtain ⟨a, clock, hbind, rfl, hrun⟩ := h
  unfold processSwap at hrun
  cases hrequest : call.request with
  | baseIn swap =>
    simp only [hrequest, processSwapBaseIn, hbind, Outcome.ok_bind] at hrun
    obtain ⟨amm, c, q, hdone⟩ := swapBaseInBody_eq_ok hrun
    exact hdone.done.within hwithin
  | baseOut swap =>
    simp only [hrequest, processSwapBaseOut, hbind, Outcome.ok_bind] at hrun
    obtain ⟨amm, c, q, hdone⟩ := swapBaseOutBody_eq_ok hrun
    exact hdone.done.within hwithin

/-- From zero counters, a run of `n` swaps leaves those of `n` swaps. -/
theorem run_within {calls : List SwapCall} {amm : AmmInfo}
    (hstored : (w.accounts ammKey).data = .amm amm) (hzero : amm.stateData.CountersZero)
    (hrun : Runs.Run (SwapStep env programId ammKey) w calls w') :
    PoolWithin ammKey calls.length w' :=
  hrun.inv_length SwapStep.within ⟨amm, hstored, hzero.within⟩

end Runs

/-! ## 4. The next swap -/

/-- Once the tokens are moved, the swap goes through or aborts. -/
theorem SwapPriced.finish_ok_or_panic (p : SwapPriced) (ammKey : Pubkey) (w : World) :
    (∃ w', p.finish ammKey w = .ok w') ∨ p.finish ammKey w = Outcome.panic := by
  refine Outcome.Avoids.ok_or_panic fun e => ?_
  exact (countSwap_avoids e).bind fun _ _ => Outcome.Avoids.of_ok _

/-- With room in the amount counters, the fee counter alone decides. -/
theorem SwapPriced.exists_finish_iff {p : SwapPriced} {ammKey : Pubkey} {w : World}
    (hroom : (p.context.swapDirection.inCounter p.context.amm.stateData).toNat + p.counted.toNat <
        2 ^ 128 ∧
      (p.context.swapDirection.outCounter p.context.amm.stateData).toNat + p.out.toNat < 2 ^ 128) :
    (∃ w', p.finish ammKey w = .ok w') ↔
      (p.context.swapDirection.feeCounter p.context.amm.stateData).toNat + p.fee.toNat < 2 ^ 64 := by
  unfold SwapPriced.finish
  rw [Outcome.exists_bind_eq_ok]
  constructor
  · rintro ⟨s', hcount, -⟩
    exact (exists_countSwap_iff.mp ⟨s', hcount⟩).2.2
  · intro hfee
    obtain ⟨s', hcount⟩ := exists_countSwap_iff.mpr ⟨hroom.1, hroom.2, hfee⟩
    exact ⟨s', hcount, _, rfl⟩

section Next

variable {env : Env} {programId ammKey : Pubkey} {w w' w₀ w₁ w₂ : World} {calls : List SwapCall}
  {clock : Clock} {call : SwapCall} {amm amm' : AmmInfo} {a : SwapAccounts} {p : SwapPriced}

/-- After any run of fewer than 2^64 successful swaps from zero counters, a swap at any time that
    passed its checks and moved its tokens is not aborted by a counter exactly where its fee still
    fits the fee counter of its input token, and then it goes through. -/
theorem swap_counters_block_iff
    (hstored : (w.accounts ammKey).data = .amm amm) (hzero : amm.stateData.CountersZero)
    (hrun : Runs.Run (SwapStep env programId ammKey) w calls w') (hlength : calls.length < 2 ^ 64)
    (hnext : w₀ = { w' with clock := clock, borrowed := [] })
    (hstored' : (w₀.accounts ammKey).data = .amm amm')
    (hbind : bindSwap call.accounts = .ok a) (hpool : a.ammInfo.key = ammKey)
    (hpriced : swapPriced env programId a call.request w₀ = .ok (p, w₁))
    (hmoved : p.move env programId a w₁ = .ok w₂) :
    (processSwap env programId call w₀ ≠ Outcome.panic ↔
      FeeCounterFits env a amm' call.request w₀) ∧
    (FeeCounterFits env a amm' call.request w₀ →
      ∃ w'', processSwap env programId call w₀ = .ok w'') := by
  obtain ⟨amm₀, hstored₀, hwithin⟩ := run_within hstored hzero hrun
  have hsame : w₀.accounts = w'.accounts := by rw [hnext]
  rw [← hsame] at hstored₀
  obtain rfl : amm₀ = amm' := AccountData.amm_unique hstored₀ hstored'
  subst hpool
  obtain ⟨amm₁, hchecked, -⟩ := swapPrologue_eq_ok (swapPriced_prologue hpriced)
  obtain rfl : amm₀ = amm₁ := AccountData.amm_unique hstored₀ hchecked.stored
  obtain ⟨status, hrecord⟩ := hchecked.record
  have hstate : p.context.amm.stateData = amm₀.stateData := by rw [hrecord]
  have hroom := hwithin.room hlength p.context.swapDirection p.counted p.out
  rw [← hstate] at hroom
  have hend : processSwap env programId call w₀ = p.finish a.ammInfo.key w₂ := by
    rw [processSwap_eq hbind, hpriced, Outcome.ok_bind]
    show (p.move env programId a w₁ >>= fun w => p.finish a.ammInfo.key w) = _
    rw [hmoved, Outcome.ok_bind]
  have hok : (∃ w'', processSwap env programId call w₀ = .ok w'') ↔
      FeeCounterFits env a amm₀ call.request w₀ := by
    rw [hend, SwapPriced.exists_finish_iff hroom]
    exact SwapPriced.feeCounter_iff hstored₀ hpriced
  refine ⟨?_, hok.mpr⟩
  rw [← hok, hend]
  constructor
  · intro hne
    exact (p.finish_ok_or_panic a.ammInfo.key w₂).resolve_right hne
  · rintro ⟨w'', hw''⟩ hpanic
    rw [hw''] at hpanic
    cases hpanic

end Next

namespace Reference

/-- A sale of `n` coin. -/
def saleCall (n : Nat) : SwapCall := ⟨swapInfos 31 32, .baseIn ⟨BitVec.ofNat 64 n, 0⟩⟩

/-- A purchase of `n` coin at any price. -/
def purchaseCall (n : Nat) : SwapCall :=
  ⟨swapInfos 32 31, .baseOut ⟨BitVec.allOnes 64, BitVec.ofNat 64 n⟩⟩

/-- A pool with a swap fee of 1023/1024. -/
def feePool : AmmInfo :=
  { pool .swapOnly 1000 with
    fees := { Fees.init with swapFeeNumerator := 1023, swapFeeDenominator := 1024 } }

/-- More than half of the coin that a 64-bit balance can hold. -/
def saleAmount : Nat := 2 ^ 63 + 2 ^ 60

/-- That pool, and a user who holds most of the coin. -/
def feeWorld : World := world [
  (10, ⟨program, .amm feePool⟩),
  (13, tokenAccount (key 40) authority (2 ^ 40)),
  (14, tokenAccount (key 41) authority (2 ^ 20)),
  (31, tokenAccount (key 40) (key 30) saleAmount),
  (32, tokenAccount (key 41) (key 30) (2 ^ 41))]

/-- The pool after the sale, and after the purchase of the same coin back. -/
def soldWorld : World := result (processSwap env program (saleCall saleAmount) feeWorld)

def boughtBackWorld : World :=
  result (processSwap env program (purchaseCall saleAmount) soldWorld)

end Reference

/-- A swap that passes its checks and makes its transfers. -/
theorem exists_moved {env : Env} {programId : Pubkey} {a : SwapAccounts} {request : SwapRequest}
    {w : World}
    (h : (swapPriced env programId a request w >>= fun r => r.1.move env programId a r.2).isOk =
      true) :
    ∃ p w₁ w₂, swapPriced env programId a request w = .ok (p, w₁) ∧
      p.move env programId a w₁ = .ok w₂ := by
  obtain ⟨w₂, hw₂⟩ := Outcome.exists_of_isOk h
  obtain ⟨⟨p, w₁⟩, hpriced, hmoved⟩ := Outcome.bind_eq_ok.mp hw₂
  exact ⟨p, w₁, w₂, hpriced, hmoved⟩

open Reference in
/-- After a sale on a new pool, another one in the next epoch goes through. -/
theorem swap_counters_block_iff_sale :
    ∃ w₀ w'', Runs.Run (SwapStep env program (key 10)) swapWorld [saleCall 1000] w₀ ∧
      processSwap env program (saleCall 1000) { w₀ with clock := ⟨60, 1⟩, borrowed := [] } =
        .ok w'' := by
  have hsale := eq_ok_result (r := processSwap env program (saleCall 1000) swapWorld) (by decide)
  have hrun : Runs.Run (SwapStep env program (key 10)) swapWorld [saleCall 1000] _ :=
    .single ⟨swapAccounts 31 32, ⟨0, 0⟩, rfl, rfl, hsale⟩
  obtain ⟨p, w₁, w₂, hpriced, hmoved⟩ : ∃ p w₁ w₂,
      swapPriced env program (swapAccounts 31 32) (saleCall 1000).request
        { result (processSwap env program (saleCall 1000) swapWorld) with
          clock := ⟨60, 1⟩, borrowed := [] } = .ok (p, w₁) ∧
      p.move env program (swapAccounts 31 32) w₁ = .ok w₂ :=
    exists_moved (by decide)
  obtain ⟨-, hok⟩ := swap_counters_block_iff rfl (StateData.init_countersZero 0) hrun (by decide) rfl
    (data_of_ammAt (Option.some_get (by decide)).symm) rfl rfl hpriced hmoved
  obtain ⟨w'', hnext⟩ := hok (by decide)
  exact ⟨_, w'', hrun, hnext⟩

open Reference in
/-- A sale, the purchase of the same coin back, and the same sale again: the second sale passes its
    checks and moves its tokens, but its fee overflows the fee counter. -/
theorem swap_counters_block :
    feePool.stateData.CountersZero ∧
    Runs.Run (SwapStep env program (key 10)) feeWorld
      [saleCall saleAmount, purchaseCall saleAmount] boughtBackWorld ∧
    (∃ p w₁ w₂, swapPriced env program (swapAccounts 31 32) (saleCall saleAmount).request
        boughtBackWorld = .ok (p, w₁) ∧
      p.move env program (swapAccounts 31 32) w₁ = .ok w₂) ∧
    processSwap env program (saleCall saleAmount) boughtBackWorld = Outcome.panic := by
  have hsale : SwapStep env program (key 10) feeWorld (saleCall saleAmount) soldWorld :=
    ⟨swapAccounts 31 32, ⟨0, 0⟩, rfl, rfl, eq_ok_result (by decide)⟩
  have hpurchase : SwapStep env program (key 10) soldWorld (purchaseCall saleAmount)
      boughtBackWorld :=
    ⟨swapAccounts 32 31, ⟨0, 0⟩, rfl, rfl, eq_ok_result (by decide)⟩
  exact ⟨StateData.init_countersZero 0, (Runs.Run.single hsale).snoc hpurchase,
    exists_moved (by decide), rfl⟩

end RaydiumAmm
