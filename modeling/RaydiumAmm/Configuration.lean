import RaydiumAmm.Quotes
import RaydiumAmm.Records

/-!
# Configuration

The status, the state and the fees that a pool record keeps.

1. `AmmInfo.WellFormed`: what the three checks of the program say of a record.
2. What the readers of a well-formed record rely on: a status to dispatch on, and fees that can be
   deducted.
3. `AmmChange.wellFormed_iff`: one instruction keeps a record well formed unless a parameter update
   carries a value that the checks refuse.
4. `configuration_kept`: the same over every run.
-/

namespace RaydiumAmm

open Rounding

/-! ## 1. The checks -/

/-- The configuration of a pool passes the checks of the program. -/
structure AmmInfo.WellFormed (amm : AmmInfo) : Prop where
  status : AmmStatus.validStatus amm.status = true
  state : AmmState.validState amm.state = true
  fees : amm.fees.validate = .ok ()

/-- The valid numbers are those of the statuses other than `Uninitialized`. -/
theorem AmmStatus.validStatus_iff {n : U64} :
    validStatus n = true ↔ ∃ s, fromU64 n = .ok s ∧ s ≠ uninitialized := by
  unfold validStatus fromU64
  generalize n.toNat = m
  rcases m with _ | _ | _ | _ | _ | _ | _ | _ | m <;> simp [Outcome.panic]

theorem validateFraction_eq_ok {numerator denominator : U64} :
    validateFraction numerator denominator = .ok () ↔ numerator.toNat < denominator.toNat := by
  unfold validateFraction
  split
  next h =>
    refine iff_of_false (by simp) ?_
    rcases h with h | rfl
    · exact Nat.not_lt.mpr (BitVec.le_def.mp h)
    · exact Nat.not_lt_zero _
  next h =>
    refine iff_of_true rfl ?_
    exact BitVec.lt_def.mp (BitVec.not_le.mp fun hle => h (.inl hle))

/-- Valid fees are four proper fractions. -/
theorem Fees.validate_eq_ok {fees : Fees} :
    fees.validate = .ok () ↔
      fees.minSeparateNumerator.toNat < fees.minSeparateDenominator.toNat ∧
      fees.tradeFeeNumerator.toNat < fees.tradeFeeDenominator.toNat ∧
      fees.pnlNumerator.toNat < fees.pnlDenominator.toNat ∧
      fees.swapFeeNumerator.toNat < fees.swapFeeDenominator.toNat := by
  simp only [← validateFraction_eq_ok, Fees.validate]
  cases validateFraction fees.minSeparateNumerator fees.minSeparateDenominator <;>
    cases validateFraction fees.tradeFeeNumerator fees.tradeFeeDenominator <;>
    cases validateFraction fees.pnlNumerator fees.pnlDenominator <;>
    simp [bind, Except.bind]

/-- A pool is created well formed. -/
theorem initialAmmInfo_wellFormed (a : InitializeAccounts) (init : InitializeInstruction2)
    (lpAmount : U64) : (initialAmmInfo a init lpAmount).WellFormed where
  status := rfl
  state := rfl
  fees := rfl

/-! ## 2. The readers -/

/-- No subtraction of a fee underflows: an exact input covers its fee, an exact output leaves the
    pool a share of its input, and the input with the fee covers the input without it. -/
structure Fees.Deducts (fees : Fees) : Prop where
  baseIn : ∀ amountIn, ∃ fee net : U128, amountIn.toNat = fee.toNat + net.toNat ∧
    ∀ pc coin dir, swapBaseInQuote fees amountIn pc coin dir = (do
      let out ← Calculator.swapTokenAmountBaseIn net (Calculator.toU128 pc)
        (Calculator.toU128 coin) dir
      let swapAmountOut ← Calculator.asU64 out
      return ⟨fee, net, swapAmountOut⟩)
  baseOut : ∀ amountOut pc coin dir before gross,
    Calculator.swapTokenAmountBaseOut (Calculator.toU128 amountOut) (Calculator.toU128 pc)
      (Calculator.toU128 coin) dir = .ok before →
    Checked.mul before (Calculator.toU128 fees.swapFeeDenominator) = some gross →
    ∃ quotient : U128, before.toNat ≤ quotient.toNat ∧
      swapBaseOutQuote fees amountOut pc coin dir = (do
        let swapInAfterAddFee ← Calculator.asU64 quotient
        let net ← Calculator.asU64 before
        return ⟨before, swapInAfterAddFee, swapInAfterAddFee - net⟩)

section Fees

variable {fees : Fees}

theorem Fees.deducts_baseOut (h : fees.swapFeeNumerator.toNat < fees.swapFeeDenominator.toNat)
    {amountOut pc coin : U64} {dir : SwapDirection} {before gross : U128}
    (hbefore : Calculator.swapTokenAmountBaseOut (Calculator.toU128 amountOut)
      (Calculator.toU128 pc) (Calculator.toU128 coin) dir = .ok before)
    (hgross : Checked.mul before (Calculator.toU128 fees.swapFeeDenominator) = some gross) :
    ∃ quotient : U128, before.toNat ≤ quotient.toNat ∧
      swapBaseOutQuote fees amountOut pc coin dir = (do
        let swapInAfterAddFee ← Calculator.asU64 quotient
        let net ← Calculator.asU64 before
        return ⟨before, swapInAfterAddFee, swapInAfterAddFee - net⟩) := by
  have hdenominator := fees.swapFeeDenominator.isLt
  obtain ⟨share, hshare⟩ : ∃ share, Checked.sub fees.swapFeeDenominator fees.swapFeeNumerator =
      some share := ⟨_, if_pos (Nat.le_of_lt h)⟩
  have hsplit := Checked.sub_eq_some.mp hshare
  have hpos : 0 < share.toNat := by omega
  obtain ⟨quotient, hquotient⟩ := exists_checkedCeilDiv (a := gross)
    (b := Calculator.toU128 share) (by rwa [toNat_toU128]) (by rw [toNat_toU128]; omega)
  have hle : before.toNat ≤ quotient.1.toNat := by
    rw [(checkedCeilDiv_eq_some hquotient).2, Checked.mul_eq_some.mp hgross, toNat_toU128,
      toNat_toU128]
    exact le_softCeil_mul_div hpos (by omega)
  refine ⟨quotient.1, hle, ?_⟩
  simp only [swapBaseOutQuote, hbefore, hgross, hshare, hquotient, Outcome.unwrap, Outcome.ok_bind]
  cases hafter : Calculator.asU64 quotient.1 with
  | error e => rfl
  | ok after =>
    cases hnet : Calculator.asU64 before with
    | error e => rfl
    | ok net =>
      have hcover : net.toNat ≤ after.toNat := by
        rw [asU64_eq_ok.mp hafter, asU64_eq_ok.mp hnet]
        exact hle
      rw [Outcome.ok_bind, Outcome.ok_bind, Outcome.ok_bind, Outcome.ok_bind,
        show Checked.sub after net = some (after - net) from if_pos hcover]
      rfl

/-- Valid fees can be deducted. -/
theorem Fees.deducts_of_validate (h : fees.validate = .ok ()) : fees.Deducts := by
  obtain ⟨-, -, -, hswap⟩ := Fees.validate_eq_ok.mp h
  exact {
    baseIn := Fees.deducts_baseIn hswap
    baseOut := fun _ _ _ _ _ _ hbefore hgross => Fees.deducts_baseOut hswap hbefore hgross
  }

end Fees

/-! ## 3. The writers -/

/-- The configuration that a parameter update carries, if any, passes the checks. -/
def SetParamsInstruction.Valid (setparams : SetParamsInstruction) : Prop :=
  match AmmParams.fromU8 setparams.param with
  | .ok .status => ∀ value ∈ setparams.value, AmmStatus.validStatus value = true
  | .ok .state => ∀ value ∈ setparams.value, AmmState.validState value = true
  | .ok .fees => ∀ fees ∈ setparams.fees, fees.validate = .ok ()
  | _ => True

/-- The same of any instruction. -/
def AmmInstruction.Valid : AmmInstruction → Prop
  | .setParams setparams => setparams.Valid
  | _ => True

section Step

variable {amm amm' : AmmInfo}

/-- A change of other fields keeps a record well formed. -/
theorem AmmInfo.WellFormed.of_same (h : amm.WellFormed) (hstatus : amm'.status = amm.status)
    (hstate : amm'.state = amm.state) (hfees : amm'.fees = amm.fees) : amm'.WellFormed where
  status := by rw [hstatus]; exact h.status
  state := by rw [hstate]; exact h.state
  fees := by rw [hfees]; exact h.fees

/-- The status gate of a swap passes to a valid status. -/
theorem swapStatusGate_wellFormed {clock : Clock} (h : amm.WellFormed)
    (hgate : swapStatusGate amm clock = .ok amm') : amm'.WellFormed := by
  simp only [swapStatusGate, Outcome.bind_eq_ok] at hgate
  obtain ⟨status, -, hgate⟩ := hgate
  rcases Outcome.ite_eq_ok.mp hgate with ⟨-, hgate⟩ | ⟨-, hgate⟩
  · rcases Outcome.ite_eq_ok.mp hgate with ⟨-, hgate⟩ | ⟨-, hgate⟩
    · cases hgate
      exact ⟨rfl, h.state, h.fees⟩
    · cases hgate
  · rcases Outcome.ite_eq_ok.mp hgate with ⟨-, hgate⟩ | ⟨-, hgate⟩
    · rcases Outcome.ite_eq_ok.mp hgate with ⟨-, hgate⟩ | ⟨-, hgate⟩
      · cases hgate
      · cases hgate
        exact ⟨rfl, h.state, h.fees⟩
    · cases hgate
      exact h

theorem setIfSome_wellFormed_iff {α : Type} {set : α → AmmInfo} {o : Option α} {Q : α → Prop}
    (h : amm.WellFormed) (hset : ∀ v, (set v).WellFormed ↔ Q v) :
    (setIfSome amm set o).WellFormed ↔ ∀ v ∈ o, Q v := by
  cases o with
  | none => exact iff_of_true h (by simp)
  | some v => simpa [setIfSome] using hset v

/-- A field that no check reads. -/
theorem setIfSome_wellFormed {α : Type} {set : α → AmmInfo} {o : Option α} (h : amm.WellFormed)
    (hset : ∀ v, (set v).status = amm.status ∧ (set v).state = amm.state ∧
      (set v).fees = amm.fees) : (setIfSome amm set o).WellFormed := by
  cases o with
  | none => exact h
  | some v => exact h.of_same (hset v).1 (hset v).2.1 (hset v).2.2

/-- A parameter update of a well-formed record leaves one exactly where it carries a valid
    configuration. -/
theorem setParam_wellFormed_iff {setparams : SetParamsInstruction} {param : AmmParams}
    (h : amm.WellFormed) (hparam : AmmParams.fromU8 setparams.param = .ok param) :
    (setParam amm setparams param).WellFormed ↔ setparams.Valid := by
  unfold SetParamsInstruction.Valid
  rw [hparam]
  cases param with
  | status =>
    exact setIfSome_wellFormed_iff h fun v =>
      ⟨fun hwf => hwf.status, fun hv => ⟨hv, h.state, h.fees⟩⟩
  | state =>
    exact setIfSome_wellFormed_iff h fun v =>
      ⟨fun hwf => hwf.state, fun hv => ⟨h.status, hv, h.fees⟩⟩
  | fees =>
    exact setIfSome_wellFormed_iff h fun v =>
      ⟨fun hwf => hwf.fees, fun hv => ⟨h.status, h.state, hv⟩⟩
  | clearOpenTime => exact iff_true_intro (h.of_same rfl rfl rfl)
  | lastOrderDistance => exact iff_true_intro h
  | initOrderDepth => exact iff_true_intro h
  | setSwitchTime => exact iff_true_intro h
  | seperate => exact iff_true_intro h
  | updateOpenOrder => exact iff_true_intro h
  | _ => exact iff_true_intro (setIfSome_wellFormed h fun v => ⟨rfl, rfl, rfl⟩)

/-- One change of a well-formed record. -/
theorem AmmChange.wellFormed_iff {accounts : List AccountInfo} {clock : Clock} {key : Pubkey}
    {i : AmmInstruction} (h : amm.WellFormed) (hchange : AmmChange accounts clock key i amm amm') :
    amm'.WellFormed ↔ i.Valid := by
  cases hchange with
  | swapBaseIn hgate =>
    exact iff_of_true ((swapStatusGate_wellFormed h hgate).of_same rfl rfl rfl) trivial
  | swapBaseOut hgate =>
    exact iff_of_true ((swapStatusGate_wellFormed h hgate).of_same rfl rfl rfl) trivial
  | setParams hparam => exact setParam_wellFormed_iff h hparam
  | _ => exact iff_of_true (h.of_same rfl rfl rfl) trivial

/-- Only a parameter update of the pool itself carries a configuration for it. -/
theorem AmmChange.valid {accounts : List AccountInfo} {clock : Clock} {key : Pubkey}
    {i : AmmInstruction} (hchange : AmmChange accounts clock key i amm amm')
    (h : Leads accounts key → i.Valid) : i.Valid := by
  cases hchange with
  | setParams _ hleads => exact h hleads
  | _ => trivial

end Step

/-! ## 4. Runs -/

/-- An instruction that updates the parameters of the pool `k` carries a valid configuration. -/
def InstructionCall.ValidFor (k : Pubkey) (c : InstructionCall) : Prop :=
  Leads c.accounts k → c.instruction.Valid

/-- The account `k` holds a well-formed pool record of the program. -/
def HoldsWellFormed (programId k : Pubkey) (w : World) : Prop :=
  ∃ amm, w.accounts k = ⟨programId, .amm amm⟩ ∧ amm.WellFormed

section Runs

variable {env : Env} {programId k : Pubkey} {w w' : World} {c : InstructionCall}

/-- A parameter update of the pool `k` that goes through leaves a well-formed record exactly where
    it carries a valid configuration. -/
theorem processSetParams_wellFormed_iff {accounts : List AccountInfo}
    {setparams : SetParamsInstruction} (hk : HoldsWellFormed programId k w)
    (hleads : Leads accounts k)
    (h : processSetParams env programId accounts setparams w = .ok w') :
    HoldsWellFormed programId k w' ↔ setparams.Valid := by
  obtain ⟨amm, hstored, hwf⟩ := hk
  obtain ⟨key, old, param, hkey, hdata, hparam, -, hw'⟩ := processSetParams_eq_ok h
  obtain rfl : key = k := Option.some.inj (hkey.symm.trans hleads)
  rw [hstored] at hdata
  obtain rfl : amm = old := AccountData.amm.inj hdata
  have hnew : w'.accounts key = ⟨programId, .amm (setParam amm setparams param)⟩ := by
    rw [hw', Accounts.setData, if_pos rfl, hstored]
  rw [← setParam_wellFormed_iff hwf hparam]
  constructor
  · rintro ⟨amm', hstored', hwf'⟩
    rw [hnew] at hstored'
    cases hstored'
    exact hwf'
  · intro hwf'
    exact ⟨_, hnew, hwf'⟩

/-- One instruction of a run keeps the record of `k` well formed exactly where it carries a valid
    configuration for it or does not go through. -/
theorem Executes.wellFormed_iff (hkeep : KeepsRecords env programId)
    (h : Executes env programId w c w') (hk : HoldsWellFormed programId k w) :
    HoldsWellFormed programId k w' ↔ (Succeeds env programId w c → c.ValidFor k) := by
  constructor
  · rintro hk' ⟨w₁, hrun⟩ hleads
    obtain rfl := h.eq_of_ok hrun
    cases hi : c.instruction with
    | setParams setparams =>
      rw [hi] at hrun
      refine (processSetParams_wellFormed_iff (w := { w with clock := c.clock, borrowed := [] }) ?_
        hleads hrun).mp hk'
      exact hk
    | _ => trivial
  · intro hvalid
    by_cases hsucceeds : Succeeds env programId w c
    · obtain ⟨amm, hstored, hwf⟩ := hk
      obtain ⟨amm', hstored', rfl | hchange⟩ := h.amm hkeep hstored
      · exact ⟨_, hstored', hwf⟩
      · exact ⟨amm', hstored', (hchange.wellFormed_iff hwf).mpr (hchange.valid (hvalid hsucceeds))⟩
    · rw [h.eq_of_not_succeeds hsucceeds]
      exact hk

end Runs

/-- The configuration of a pool, from a well-formed record. (1) A run keeps the record well formed
    after every instruction if and only if every parameter update of the pool that goes through
    carries a valid configuration. (2) The status of the record that such a run leaves is one to
    dispatch on and is not `Uninitialized`, and its fees can be deducted. -/
theorem configuration_kept {env : Env} {programId : Pubkey} (hkeep : KeepsRecords env programId)
    (k : Pubkey) (w w' : World) (calls : List InstructionCall)
    (hk : HoldsWellFormed programId k w) :
    (Runs.Run (fun w c w' => Executes env programId w c w' ∧ HoldsWellFormed programId k w')
        w calls w' ↔
      Runs.Run (fun w c w' => Executes env programId w c w' ∧
        (Succeeds env programId w c → c.ValidFor k)) w calls w') ∧
    (Runs.Run (fun w c w' => Executes env programId w c w' ∧
        (Succeeds env programId w c → c.ValidFor k)) w calls w' →
      ∃ amm, w'.accounts k = ⟨programId, .amm amm⟩ ∧ amm.WellFormed ∧
        (∃ status, AmmStatus.fromU64 amm.status = .ok status ∧ status ≠ .uninitialized) ∧
        amm.fees.Deducts) := by
  refine ⟨⟨fun hrun => ?_, fun hrun => ?_⟩, fun hrun => ?_⟩
  · refine (hrun.mono_inv ?_ hk).1
    rintro w c w' ⟨hexec, hk'⟩ hk
    exact ⟨⟨hexec, (hexec.wellFormed_iff hkeep hk).mp hk'⟩, hk'⟩
  · refine (hrun.mono_inv ?_ hk).1
    rintro w c w' ⟨hexec, hvalid⟩ hk
    have hk' := (hexec.wellFormed_iff hkeep hk).mpr hvalid
    exact ⟨⟨hexec, hk'⟩, hk'⟩
  · obtain ⟨amm, hstored, hwf⟩ := hrun.inv (I := HoldsWellFormed programId k)
      (fun w c w' hstep hk => (hstep.1.wellFormed_iff hkeep hk).mpr hstep.2) hk
    exact ⟨amm, hstored, hwf, AmmStatus.validStatus_iff.mp hwf.status,
      Fees.deducts_of_validate hwf.fees⟩

namespace Reference

/-- The accounts of a parameter update by the owner of the pool. -/
def setParamsInfos : List AccountInfo := [writable 10, authorityInfo, signer 30]

/-- A parameter update of the status. -/
def setStatus (status : U64) : SetParamsInstruction := ⟨0, some status, none, none, none⟩

/-- A pool right after its creation. -/
def freshWorld : World :=
  world (poolTable (initialAmmInfo creation ⟨0, 0, 0, 0⟩ 1000) 1000000 5000000)

end Reference

open Reference in
/-- An update of the status of a new pool to `SwapOnly`, as a run. -/
theorem configuration_kept_swap_only :
    ∃ w' amm', processSetParams env program setParamsInfos (setStatus 6) freshWorld = .ok w' ∧
      w'.accounts (key 10) = ⟨program, .amm amm'⟩ ∧ amm'.WellFormed ∧ amm'.fees.Deducts := by
  obtain ⟨w', hrun⟩ : ∃ w', processSetParams env program setParamsInfos (setStatus 6) freshWorld =
      .ok w' := Outcome.exists_of_isOk (by decide)
  have hexec : Executes env program freshWorld ⟨setParamsInfos, .setParams (setStatus 6), ⟨0, 0⟩⟩
      w' := by
    unfold Executes
    rw [show processInstruction env program setParamsInfos (.setParams (setStatus 6))
      { freshWorld with clock := ⟨0, 0⟩, borrowed := [] } = .ok w' from hrun]
  have hvalid : InstructionCall.ValidFor (key 10)
      ⟨setParamsInfos, .setParams (setStatus 6), ⟨0, 0⟩⟩ := by
    rintro - value hvalue
    cases hvalue
    rfl
  have hfresh : HoldsWellFormed program (key 10) freshWorld :=
    ⟨_, rfl, initialAmmInfo_wellFormed creation ⟨0, 0, 0, 0⟩ 1000⟩
  obtain ⟨amm', hstored, hwf, -, hfees⟩ := (configuration_kept (keepsRecords program) (key 10)
    freshWorld w' _ hfresh).2 (.single ⟨hexec, fun _ => hvalid⟩)
  exact ⟨w', amm', hrun, hstored, hwf, hfees⟩

open Reference in
/-- An update of the status of a new pool to 8 goes through, and the next swap aborts. -/
theorem setParams_breaks_configuration :
    ∃ amm w' amm', freshWorld.accounts (key 10) = ⟨program, .amm amm⟩ ∧ amm.WellFormed ∧
      processSetParams env program setParamsInfos (setStatus 8) freshWorld = .ok w' ∧
      w'.accounts (key 10) = ⟨program, .amm amm'⟩ ∧ ¬amm'.WellFormed ∧
      AmmStatus.fromU64 amm'.status = Outcome.panic ∧
      processSwapBaseIn env program (swapInfos 31 32) ⟨1000, 0⟩ w' = Outcome.panic := by
  have hrun := eq_ok_result (r := processSetParams env program setParamsInfos (setStatus 8)
    freshWorld) (by decide)
  refine ⟨_, _, _, rfl, initialAmmInfo_wellFormed _ _ _, hrun, rfl, ?_, rfl, rfl⟩
  intro hwf
  have hstatus := hwf.status
  revert hstatus
  decide

end RaydiumAmm
