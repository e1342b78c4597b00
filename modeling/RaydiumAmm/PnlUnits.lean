import RaydiumAmm.Quotes
import RaydiumAmm.Reference

/-!
# The units of the pending profit

`calc_take_pnl` books the baseline of the target orders as native tokens, while a deposit and a
withdraw take the same number off the normalized totals.

1. `SideConserved`: the tokens that one total loses are those that its profit gains, and the delta
   is their normalized amount.
2. `SideBalances`: the inputs for which this holds.
3. `takePnl_conserved_iff`: both sides are conserved exactly where both balance.
-/

namespace RaydiumAmm

/-! ## 1. Conservation -/

/-- One side of the bookkeeping: `removed` native tokens leave the total and enter the profit, and
    `delta` is `removed` in the units of the pool. -/
def SideConserved (total total' totalPnl totalPnl' decimals sysDecimalValue : U64) (delta : U128) :
    Prop :=
  ∃ removed : U64, total.toNat = total'.toNat + removed.toNat ∧
    totalPnl'.toNat = totalPnl.toNat + removed.toNat ∧
    Calculator.normalizeDecimalV2 removed decimals sysDecimalValue = .ok delta

/-- Both sides of the bookkeeping of `amm` at the totals `pc` and `coin`. -/
structure PnlConserved (amm : AmmInfo) (pc coin : U64) (p : TakePnl) : Prop where
  pc : SideConserved pc p.totalPcWithoutTakePnl amm.stateData.totalPnlPc p.amm.stateData.totalPnlPc
    amm.pcDecimals amm.sysDecimalValue p.deltaX
  coin : SideConserved coin p.totalCoinWithoutTakePnl amm.stateData.totalPnlCoin
    p.amm.stateData.totalPnlCoin amm.coinDecimals amm.sysDecimalValue p.deltaY

/-! ## 2. The inputs -/

/-- The low 64 bits of a delta, as they are cast. -/
def nativeDelta (delta : U128) : ℕ := delta.toNat % 2 ^ 64

/-- What the profit can still take. -/
def pnlRoom (totalPnl : U64) : ℕ := 2 ^ 64 - 1 - totalPnl.toNat

/-- The two saturating operations move the same amount: neither saturates, or both do at the same
    bound. -/
def SaturatesAlike (delta : U128) (total totalPnl : U64) : Prop :=
  (nativeDelta delta ≤ total.toNat ∧ nativeDelta delta ≤ pnlRoom totalPnl) ∨
    total.toNat = pnlRoom totalPnl

/-- The delta is the normalized amount of what is removed, where one token is `10 ^ decimals`. -/
def Normalizes (delta : U128) (total decimals sysDecimalValue : U64) : Prop :=
  10 ^ decimals.toNat < 2 ^ 128 ∧
    delta.toNat * 10 ^ decimals.toNat ≤
      min total.toNat (nativeDelta delta) * sysDecimalValue.toNat ∧
    min total.toNat (nativeDelta delta) * sysDecimalValue.toNat <
      (delta.toNat + 1) * 10 ^ decimals.toNat

/-- The inputs for which a side is conserved. -/
def SideBalances (delta : U128) (total totalPnl decimals sysDecimalValue : U64) : Prop :=
  SaturatesAlike delta total totalPnl ∧ Normalizes delta total decimals sysDecimalValue

theorem toNat_setWidth_delta (delta : U128) : (delta.setWidth 64).toNat = nativeDelta delta :=
  BitVec.toNat_setWidth 64 delta

/-- What a saturating subtraction removes. -/
theorem satSub_removed (total : U64) (delta : U128) :
    total.toNat = (Checked.satSub total (delta.setWidth 64)).toNat +
      min total.toNat (nativeDelta delta) := by
  rw [Checked.toNat_satSub, toNat_setWidth_delta]
  omega

/-- What a saturating addition gains. -/
theorem satAdd_increase (totalPnl : U64) (delta : U128) :
    (Checked.satAdd totalPnl (delta.setWidth 64)).toNat =
      totalPnl.toNat + min (pnlRoom totalPnl) (nativeDelta delta) := by
  have hlt := totalPnl.isLt
  rw [Checked.toNat_satAdd, toNat_setWidth_delta, pnlRoom]
  omega

theorem saturatesAlike_iff {delta : U128} {total totalPnl : U64} :
    SaturatesAlike delta total totalPnl ↔
      min total.toNat (nativeDelta delta) = min (pnlRoom totalPnl) (nativeDelta delta) := by
  unfold SaturatesAlike
  omega

theorem normalizes_iff {delta : U128} {total decimals sysDecimalValue removed : U64}
    (h : removed.toNat = min total.toNat (nativeDelta delta)) :
    Calculator.normalizeDecimalV2 removed decimals sysDecimalValue = .ok delta ↔
      Normalizes delta total decimals sysDecimalValue := by
  have hpos : 0 < 10 ^ decimals.toNat := Nat.pow_pos (by decide)
  rw [normalizeDecimalV2_eq_ok, Normalizes, h, eq_comm, Nat.div_eq_iff hpos]
  refine and_congr_right fun _ => and_congr_right fun _ => ?_
  rw [Nat.add_mul, Nat.one_mul, Nat.mul_comm]
  omega

/-- One side is conserved exactly where it balances. -/
theorem sideConserved_iff (delta : U128) (total totalPnl decimals sysDecimalValue : U64) :
    SideConserved total (Checked.satSub total (delta.setWidth 64)) totalPnl
        (Checked.satAdd totalPnl (delta.setWidth 64)) decimals sysDecimalValue delta ↔
      SideBalances delta total totalPnl decimals sysDecimalValue := by
  have hremoved := satSub_removed total delta
  have hincrease := satAdd_increase totalPnl delta
  unfold SideConserved SideBalances
  rw [saturatesAlike_iff]
  constructor
  · rintro ⟨removed, hleaves, henters, hnormal⟩
    have hvalue : removed.toNat = min total.toNat (nativeDelta delta) := by omega
    exact ⟨by omega, (normalizes_iff hvalue).mp hnormal⟩
  · rintro ⟨halike, hnormal⟩
    obtain ⟨removed, hvalue⟩ : ∃ removed : U64,
        removed.toNat = min total.toNat (nativeDelta delta) :=
      Checked.exists_toNat_eq (lt_of_le_of_lt (Nat.min_le_left _ _) total.isLt)
    exact ⟨removed, by omega, by omega, (normalizes_iff hvalue).mpr hnormal⟩

/-! ## 3. Both sides -/

/-- The bookkeeping conserves the profit exactly where both sides balance. -/
theorem takePnl_conserved_iff (target : TargetOrders) (amm : AmmInfo) (pc coin : U64) :
    PnlConserved amm pc coin (calcTakePnl target amm pc coin) ↔
      SideBalances target.calcPnlX pc amm.stateData.totalPnlPc amm.pcDecimals
          amm.sysDecimalValue ∧
        SideBalances target.calcPnlY coin amm.stateData.totalPnlCoin amm.coinDecimals
          amm.sysDecimalValue := by
  rw [← sideConserved_iff, ← sideConserved_iff]
  constructor
  · rintro ⟨hpc, hcoin⟩
    exact ⟨hpc, hcoin⟩
  · rintro ⟨hpc, hcoin⟩
    exact ⟨hpc, hcoin⟩

/-- A pool with 9 coin decimals, 6 pc decimals and the larger unit as its own. -/
def unitsPool : AmmInfo :=
  { Reference.pool .swapOnly 1000 with
    coinDecimals := 9
    pcDecimals := 6
    sysDecimalValue := 1000000000 }

/-- A baseline of 5 pc tokens, in the units of that pool. -/
def unitsBaseline : TargetOrders := { blankTargetOrders with calcPnlX := 5000000000 }

/-- The baseline of 5 pc tokens, which are 5000000 native ones, takes 5000000000 native tokens off
    the total. -/
theorem takePnl_units_differ :
    ¬PnlConserved unitsPool 9000000000 1000000000
      (calcTakePnl unitsBaseline unitsPool 9000000000 1000000000) ∧
    (calcTakePnl unitsBaseline unitsPool 9000000000 1000000000).totalPcWithoutTakePnl =
      4000000000 ∧
    Calculator.normalizeDecimalV2 5000000 6 1000000000 = .ok 5000000000 := by
  refine ⟨fun hconserved => ?_, rfl, rfl⟩
  obtain ⟨hpc, -⟩ := (takePnl_conserved_iff _ _ _ _).mp hconserved
  obtain ⟨-, -, -, hhigh⟩ := hpc
  revert hhigh
  decide

end RaydiumAmm
