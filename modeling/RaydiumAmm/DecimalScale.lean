import RaydiumAmm.Quotes
import RaydiumAmm.Reference

/-!
# The decimal scale of a pool

Deposit and withdraw keep their baselines in normalized units, which lose nothing where the system
decimal value is a power of ten that is no smaller than the unit of either token.

1. `decimalTrip`: an amount normalized and restored.
2. `AmmInfo.initializeWith` builds records on which the trip is exact.
3. `new_pool_loses_amounts`: on the record that `process_initialize2` writes it aborts for every
   amount.
-/

namespace RaydiumAmm

open Calculator (toU128)

/-! ## 1. The trip -/

/-- `restore_decimal(normalize_decimal_v2(v))`. -/
def decimalTrip (v nativeDecimal sysDecimalValue : U64) : Result U128 := do
  let normalized ← Calculator.normalizeDecimalV2 v nativeDecimal sysDecimalValue
  Calculator.restoreDecimal normalized nativeDecimal sysDecimalValue

/-- A record that loses nothing of any native amount, of either token. -/
def KeepsAmounts (amm : AmmInfo) : Prop :=
  ∀ v : U64, decimalTrip v amm.coinDecimals amm.sysDecimalValue = .ok (toU128 v) ∧
    decimalTrip v amm.pcDecimals amm.sysDecimalValue = .ok (toU128 v)

/-- A restored amount: nothing overflows, the system value is not zero, and the quotient is rounded
    down. -/
theorem restoreDecimal_eq_ok {val y : U128} {nativeDecimal sysDecimalValue : U64} :
    Calculator.restoreDecimal val nativeDecimal sysDecimalValue = .ok y ↔
      10 ^ nativeDecimal.toNat < 2 ^ 128 ∧ val.toNat * 10 ^ nativeDecimal.toNat < 2 ^ 128 ∧
        sysDecimalValue.toNat ≠ 0 ∧
        y.toNat = val.toNat * 10 ^ nativeDecimal.toNat / sysDecimalValue.toNat := by
  have hten : (10 : U128).toNat = 10 := by decide
  simp only [Calculator.restoreDecimal, Outcome.bind_eq_ok, Outcome.unwrap_eq_ok,
    Checked.mul_eq_some, Checked.pow_eq_some, Checked.div_eq_some, toNat_toU128, hten]
  constructor
  · rintro ⟨unit, hunit, product, hproduct, hne, hy⟩
    rw [hunit] at hproduct
    exact ⟨hunit ▸ unit.isLt, hproduct ▸ product.isLt, hne, by rw [hy, hproduct]⟩
  · rintro ⟨hlt, hfits, hne, hy⟩
    obtain ⟨unit, hunit⟩ : ∃ a : U128, a.toNat = 10 ^ nativeDecimal.toNat :=
      Checked.exists_toNat_eq hlt
    obtain ⟨product, hproduct⟩ : ∃ a : U128, a.toNat = val.toNat * 10 ^ nativeDecimal.toNat :=
      Checked.exists_toNat_eq hfits
    exact ⟨unit, hunit, product, by rw [hproduct, hunit], hne, by rw [hy, hproduct]⟩

/-- With a power of ten that is no smaller than the unit of the token, both divisions are exact. -/
theorem decimalTrip_of_le {decimals sysDecimalValue : U64} {m : ℕ} (v : U64)
    (hsys : sysDecimalValue.toNat = 10 ^ m) (hle : decimals.toNat ≤ m) :
    decimalTrip v decimals sysDecimalValue = .ok (toU128 v) := by
  have hunit : 0 < 10 ^ decimals.toNat := Nat.pow_pos (by decide)
  have hsplit : 10 ^ m = 10 ^ (m - decimals.toNat) * 10 ^ decimals.toNat := by
    rw [← Nat.pow_add, Nat.sub_add_cancel hle]
  have hfits : 10 ^ decimals.toNat < 2 ^ 128 := by
    have hbound : 10 ^ decimals.toNat ≤ 10 ^ m := Nat.pow_le_pow_right (by decide) hle
    have hword := sysDecimalValue.isLt
    omega
  obtain ⟨x, hx⟩ := (exists_normalizeDecimalV2 v decimals sysDecimalValue).mpr hfits
  have hvalue : x.toNat * 10 ^ decimals.toNat = v.toNat * sysDecimalValue.toNat := by
    rw [(normalizeDecimalV2_eq_ok.mp hx).2, hsys, hsplit, ← Nat.mul_assoc,
      Nat.mul_div_cancel _ hunit]
  rw [decimalTrip, hx, Outcome.ok_bind, restoreDecimal_eq_ok, hvalue]
  have hpos : 0 < sysDecimalValue.toNat := by
    rw [hsys]
    exact Nat.pow_pos (by decide)
  refine ⟨hfits, ?_, Nat.ne_of_gt hpos, ?_⟩
  · exact lt_of_lt_of_le (Nat.mul_lt_mul'' v.isLt sysDecimalValue.isLt) (by decide)
  · rw [toNat_toU128, Nat.mul_div_cancel _ hpos]

/-- A system value of zero restores nothing. -/
theorem decimalTrip_zero (v : U64) : decimalTrip v 0 0 = Outcome.panic := by
  obtain ⟨x, hx⟩ := (exists_normalizeDecimalV2 v 0 0).mpr (by decide)
  have hvalue : x = 0 := by
    apply BitVec.eq_of_toNat_eq
    rw [(normalizeDecimalV2_eq_ok.mp hx).2]
    exact Nat.zero_div _
  rw [decimalTrip, hx, Outcome.ok_bind, hvalue]
  rfl

/-! ## 2. `AmmInfo::initialize` -/

/-- The record keeps the decimals that it is given. -/
theorem AmmInfo.initializeWith_decimals {self amm : AmmInfo} {nonce coinDecimals pcDecimals : U8}
    {openTime coinLotSize pcLotSize recentEpoch : U64}
    (h : self.initializeWith nonce openTime coinDecimals pcDecimals coinLotSize pcLotSize
      recentEpoch = .ok amm) :
    amm.coinDecimals = coinDecimals.setWidth 64 ∧ amm.pcDecimals = pcDecimals.setWidth 64 := by
  simp only [AmmInfo.initializeWith, Outcome.bind_eq_ok, Outcome.pure_eq_ok] at h
  obtain ⟨-, -, -, -, -, -, -, -, -, -, -, -, -, -, -, -, -, -, -, -, -, -, -, -, -, -, rfl⟩ := h
  exact ⟨rfl, rfl⟩

/-- With the power of ten of the larger decimals nothing is lost. -/
theorem AmmInfo.initializeWith_keepsAmounts {self amm : AmmInfo} {nonce coinDecimals pcDecimals : U8}
    {openTime coinLotSize pcLotSize recentEpoch : U64}
    (h : self.initializeWith nonce openTime coinDecimals pcDecimals coinLotSize pcLotSize
      recentEpoch = .ok amm)
    (hsys : amm.sysDecimalValue.toNat = 10 ^ max coinDecimals.toNat pcDecimals.toNat) :
    KeepsAmounts amm := by
  obtain ⟨hcoin, hpc⟩ := AmmInfo.initializeWith_decimals h
  have hcoinLe : amm.coinDecimals.toNat ≤ max coinDecimals.toNat pcDecimals.toNat := by
    rw [hcoin, Checked.toNat_widen (by decide)]
    exact le_max_left _ _
  have hpcLe : amm.pcDecimals.toNat ≤ max coinDecimals.toNat pcDecimals.toNat := by
    rw [hpc, Checked.toNat_widen (by decide)]
    exact le_max_right _ _
  intro v
  exact ⟨decimalTrip_of_le v hsys hcoinLe, decimalTrip_of_le v hsys hpcLe⟩

/-! ## 3. A new pool -/

/-- Every record that `process_initialize2` writes, with either of its LP amounts, aborts on every
    amount of either token, while every record of `AmmInfo::initialize` with the power of ten of
    the larger decimals loses nothing. -/
theorem new_pool_loses_amounts (a : InitializeAccounts) (init : InitializeInstruction2)
    (lpAmount : U64) :
    ¬KeepsAmounts (initialAmmInfo a init lpAmount) ∧
    (∀ v, decimalTrip v (initialAmmInfo a init lpAmount).coinDecimals
        (initialAmmInfo a init lpAmount).sysDecimalValue = Outcome.panic ∧
      decimalTrip v (initialAmmInfo a init lpAmount).pcDecimals
        (initialAmmInfo a init lpAmount).sysDecimalValue = Outcome.panic) ∧
    ∀ (self amm : AmmInfo) (nonce coinDecimals pcDecimals : U8)
      (openTime coinLotSize pcLotSize recentEpoch : U64),
      self.initializeWith nonce openTime coinDecimals pcDecimals coinLotSize pcLotSize recentEpoch =
        .ok amm →
      amm.sysDecimalValue.toNat = 10 ^ max coinDecimals.toNat pcDecimals.toNat →
      KeepsAmounts amm := by
  refine ⟨?_, fun v => ⟨decimalTrip_zero v, decimalTrip_zero v⟩, ?_⟩
  · intro hkeeps
    have htrip := (hkeeps 0).1
    rw [show decimalTrip 0 (initialAmmInfo a init lpAmount).coinDecimals
      (initialAmmInfo a init lpAmount).sysDecimalValue = Outcome.panic from
        decimalTrip_zero 0] at htrip
    cases htrip
  · intro self amm nonce coinDecimals pcDecimals openTime coinLotSize pcLotSize recentEpoch h hsys
    exact AmmInfo.initializeWith_keepsAmounts h hsys

/-- A new pool, and 1000000 units of its coin. -/
theorem new_pool_loses_million :
    ¬KeepsAmounts (initialAmmInfo Reference.creation ⟨0, 0, 1000000, 1000000⟩ 1000000) ∧
    decimalTrip 1000000
        (initialAmmInfo Reference.creation ⟨0, 0, 1000000, 1000000⟩ 1000000).coinDecimals
        (initialAmmInfo Reference.creation ⟨0, 0, 1000000, 1000000⟩ 1000000).sysDecimalValue =
      Outcome.panic := by
  refine ⟨?_, rfl⟩
  intro hkeeps
  cases (hkeeps 1000000).1

end RaydiumAmm
