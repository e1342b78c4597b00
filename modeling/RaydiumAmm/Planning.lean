import RaydiumAmm.CeilDiv
import RaydiumAmm.Grid
import RaydiumAmm.Quotes
import RaydiumAmm.Reference
import Mathlib.Data.Nat.Fib.Basic

/-!
# The arithmetic of planned orders

The calculator's functions for orders that a pool would place on a venue, and the counter of their
client ids.

1. `getMaxBuySizeAtPrice` and `getMaxSellSizeAtPrice` and what two planned orders do.
2. Lots, ticks and the units of the venue.
3. `fibonacci`.
4. `incrClientOrderId`.
-/

namespace RaydiumAmm

open Calculator (toU128 asU64)

/-! ## 1. Sizes -/

namespace Fees

/-- The price of a buy with the fee on top. -/
def buyPrice (fees : Fees) (price : U64) : ℕ :=
  price.toNat * (fees.tradeFeeDenominator.toNat + fees.tradeFeeNumerator.toNat) /
    fees.tradeFeeDenominator.toNat

/-- The price of a sale with the fee taken off. -/
def sellPrice (fees : Fees) (price : U64) : ℕ :=
  price.toNat * fees.tradeFeeDenominator.toNat /
    (fees.tradeFeeDenominator.toNat + fees.tradeFeeNumerator.toNat)

end Fees

section Sizes

variable {price size : U64} {x y : U128} {amm : AmmInfo}

theorem getMaxBuySizeAtPrice_eq_ok
    (h : Calculator.getMaxBuySizeAtPrice price x y amm = .ok size) :
    0 < amm.fees.tradeFeeDenominator.toNat ∧ 0 < amm.fees.buyPrice price ∧
      size.toNat = Sizing.buySize (x.toNat * amm.sysDecimalValue.toNat) y.toNat
        (amm.fees.buyPrice price) := by
  simp only [Calculator.getMaxBuySizeAtPrice, Outcome.bind_eq_ok, Outcome.unwrap_eq_ok,
    Checked.add_eq_some, Checked.mul_eq_some, Checked.div_eq_some, asU64_eq_ok,
    Checked.toNat_satSub, toNat_toU128] at h
  obtain ⟨feeSum, hsum, gross, hgross, priceWithFee, ⟨hden, hprice⟩, scaled, hscaled, covered,
    ⟨hne, hcovered⟩, hsize⟩ := h
  rw [hgross, hsum] at hprice
  rw [hprice] at hne hcovered
  rw [hcovered, hscaled] at hsize
  exact ⟨Nat.pos_of_ne_zero hden, Nat.pos_of_ne_zero hne, hsize⟩

theorem getMaxSellSizeAtPrice_eq_ok
    (h : Calculator.getMaxSellSizeAtPrice price x y amm = .ok size) :
    0 < amm.fees.sellPrice price ∧
      size.toNat = Sizing.sellSize (x.toNat * amm.sysDecimalValue.toNat) y.toNat
        (amm.fees.sellPrice price) := by
  simp only [Calculator.getMaxSellSizeAtPrice, Outcome.bind_eq_ok, Outcome.unwrap_eq_ok,
    Checked.add_eq_some, Checked.mul_eq_some, Checked.div_eq_some, asU64_eq_ok,
    Checked.toNat_satSub, toNat_toU128] at h
  obtain ⟨net, hnet, feeSum, hsum, priceWithFee, ⟨-, hprice⟩, scaled, hscaled, second,
    ⟨hne, hsecond⟩, hsize⟩ := h
  rw [hnet, hsum] at hprice
  rw [hprice] at hne hsecond
  rw [hsecond, hscaled] at hsize
  exact ⟨Nat.pos_of_ne_zero hne, hsize⟩

theorem Fees.le_buyPrice {fees : Fees} (h : 0 < fees.tradeFeeDenominator.toNat) :
    price.toNat ≤ fees.buyPrice price := by
  unfold Fees.buyPrice
  rw [Nat.le_div_iff_mul_le h]
  exact Nat.mul_le_mul_left _ (Nat.le_add_right _ _)

theorem Fees.sellPrice_mul_le (fees : Fees) (price : U64) :
    fees.sellPrice price * (fees.tradeFeeDenominator.toNat + fees.tradeFeeNumerator.toNat) ≤
      price.toNat * fees.tradeFeeDenominator.toNat := Nat.div_mul_le_self _ _

theorem Fees.sellPrice_le {fees : Fees} : fees.sellPrice price ≤ price.toNat := by
  refine Nat.div_le_of_le_mul ?_
  rw [Nat.mul_comm]
  exact Nat.mul_le_mul_right _ (Nat.le_add_right _ _)

/-- A buy price below a sell price, both with the fee, leaves two fees between the plain ones. -/
theorem Fees.spread_of_lt {fees : Fees} {buy sell : U64} (h : 0 < fees.tradeFeeDenominator.toNat)
    (hlt : fees.buyPrice buy < fees.sellPrice sell) :
    buy.toNat * (fees.tradeFeeDenominator.toNat + fees.tradeFeeNumerator.toNat) ^ 2 <
      sell.toNat * fees.tradeFeeDenominator.toNat ^ 2 := by
  have hsell := fees.sellPrice_mul_le sell
  have hbuy : buy.toNat * (fees.tradeFeeDenominator.toNat + fees.tradeFeeNumerator.toNat) <
      fees.tradeFeeDenominator.toNat * (fees.buyPrice buy + 1) := by
    exact Nat.lt_mul_div_succ _ h
  have hsum : 0 < fees.tradeFeeDenominator.toNat + fees.tradeFeeNumerator.toNat :=
    Nat.add_pos_left h _
  generalize fees.tradeFeeDenominator.toNat = d at *
  generalize d + fees.tradeFeeNumerator.toNat = e at *
  calc buy.toNat * e ^ 2 = buy.toNat * e * e := by ring
    _ < d * (fees.buyPrice buy + 1) * e := Nat.mul_lt_mul_of_pos_right hbuy hsum
    _ ≤ d * fees.sellPrice sell * e :=
      Nat.mul_le_mul_right e (Nat.mul_le_mul_left d (Nat.succ_le_of_lt hlt))
    _ = d * (fees.sellPrice sell * e) := Nat.mul_assoc _ _ _
    _ ≤ d * (sell.toNat * d) := Nat.mul_le_mul_left d hsell
    _ = sell.toNat * d ^ 2 := by ring

/-- The whole size of a sale keeps the product where the fee on what is left is a unit. -/
theorem Fees.sellPrice_gap {fees : Fees} {rest : ℕ} (h : 0 < fees.tradeFeeDenominator.toNat)
    (hrest : fees.tradeFeeDenominator.toNat ≤ fees.tradeFeeNumerator.toNat * rest) :
    fees.sellPrice price * (rest + 1) ≤ price.toNat * rest := by
  have hsell := fees.sellPrice_mul_le price
  generalize fees.sellPrice price = q at *
  generalize fees.tradeFeeDenominator.toNat = d at *
  generalize fees.tradeFeeNumerator.toNat = f at *
  refine Nat.le_of_mul_le_mul_left ?_ h
  calc d * (q * (rest + 1)) = q * (d * rest + d) := by ring
    _ ≤ q * (d * rest + f * rest) := Nat.mul_le_mul_left q (Nat.add_le_add_left hrest _)
    _ = q * (d + f) * rest := by ring
    _ ≤ price.toNat * d * rest := Nat.mul_le_mul_right rest hsell
    _ = d * (price.toNat * rest) := by ring

end Sizes

/-- Orders that are sized from one state of a pool on both sides of the book leave two fees between
    their prices, and every fill of one of them, whole or in part, keeps the product of the
    reserves. The whole fill of a sale does where the fee on the coin that is left is a unit. -/
theorem planned_orders_keep_the_pool {amm : AmmInfo} {x y : U128} {buy sell buySize sellSize : U64}
    (hbuy : Calculator.getMaxBuySizeAtPrice buy x y amm = .ok buySize)
    (hsell : Calculator.getMaxSellSizeAtPrice sell x y amm = .ok sellSize) :
    (0 < buySize.toNat → 0 < sellSize.toNat →
      buy.toNat * (amm.fees.tradeFeeDenominator.toNat + amm.fees.tradeFeeNumerator.toNat) ^ 2 <
        sell.toNat * amm.fees.tradeFeeDenominator.toNat ^ 2) ∧
    (∀ s ≤ buySize.toNat, buy.toNat * s ≤ x.toNat * amm.sysDecimalValue.toNat ∧
      x.toNat * amm.sysDecimalValue.toNat * y.toNat ≤
        (x.toNat * amm.sysDecimalValue.toNat - buy.toNat * s) * (y.toNat + s)) ∧
    ∀ s ≤ sellSize.toNat,
      (s = sellSize.toNat → amm.fees.tradeFeeDenominator.toNat ≤
        amm.fees.tradeFeeNumerator.toNat * (y.toNat - s)) →
      s ≤ y.toNat ∧ x.toNat * amm.sysDecimalValue.toNat * y.toNat ≤
        (x.toNat * amm.sysDecimalValue.toNat + sell.toNat * s) * (y.toNat - s) := by
  obtain ⟨hden, hbuyPrice, hbuySize⟩ := getMaxBuySizeAtPrice_eq_ok hbuy
  obtain ⟨hsellPrice, hsellSize⟩ := getMaxSellSizeAtPrice_eq_ok hsell
  refine ⟨fun hb hs => ?_, fun s hs => ?_, fun s hs hwhole => ?_⟩
  · rw [hbuySize] at hb
    rw [hsellSize] at hs
    exact Fees.spread_of_lt hden (Sizing.lt_of_both_sizes hbuyPrice hsellPrice hb hs)
  · rw [hbuySize] at hs
    exact Sizing.product_le_of_buy hbuyPrice (Fees.le_buyPrice hden) hs
  · rw [hsellSize] at hs hwhole
    rcases lt_or_eq_of_le hs with hlt | rfl
    · obtain ⟨hle, hworth⟩ := Sizing.worth_of_lt_sellSize hsellPrice Fees.sellPrice_le hlt
      exact ⟨hle, Sizing.product_le_of_sell hle hworth⟩
    · refine ⟨Nat.sub_le _ _, ?_⟩
      rcases Nat.eq_zero_or_pos (Sizing.sellSize (x.toNat * amm.sysDecimalValue.toNat) y.toNat
        (amm.fees.sellPrice sell)) with hzero | hpos
      · simp [hzero]
      · exact Sizing.product_le_of_sell (Nat.sub_le _ _) (Sizing.worth_of_eq_sellSize hsellPrice hpos
          (Fees.sellPrice_gap hden (hwhole rfl)))

/-- Both orders on a pool of 1000000 coin and 5000000 pc. -/
theorem planned_orders_keep_the_pool_at_four_and_six :
    4000000 * (10000 + 25) ^ 2 < 6000000 * 10000 ^ 2 ∧
      5000000 * 1000000 * 1000000 ≤
        (5000000 * 1000000 - 4000000 * 246882) * (1000000 + 246882) := by
  have hbuy : Calculator.getMaxBuySizeAtPrice 4000000 5000000 1000000
      { Reference.pool .initialized 1000 with sysDecimalValue := 1000000 } = .ok 246882 := rfl
  have hsell : Calculator.getMaxSellSizeAtPrice 6000000 5000000 1000000
      { Reference.pool .initialized 1000 with sysDecimalValue := 1000000 } = .ok 164584 := rfl
  obtain ⟨hspread, hfills, -⟩ := planned_orders_keep_the_pool hbuy hsell
  exact ⟨hspread (by decide) (by decide), (hfills 246882 (by decide)).2⟩

/-! ## 2. Lots, ticks and units -/

section Units

variable {val lot r : U64}

theorem floorLot_eq_ok : Calculator.floorLot val lot = .ok r ↔
    lot.toNat ≠ 0 ∧ r.toNat = val.toNat / lot.toNat * lot.toNat := by
  simp only [Calculator.floorLot, Outcome.bind_eq_ok, Outcome.unwrap_eq_ok, Checked.div_eq_some,
    Checked.mul_eq_some]
  constructor
  · rintro ⟨unit, ⟨hne, hunit⟩, hr⟩
    exact ⟨hne, by rw [hr, hunit]⟩
  · rintro ⟨hne, hr⟩
    exact ⟨val / lot, ⟨hne, BitVec.toNat_udiv⟩, by rw [hr, BitVec.toNat_udiv]⟩

theorem ceilLot_eq_ok (h : Calculator.ceilLot val lot = .ok r) :
    0 < lot.toNat ∧ r.toNat = Rounding.softCeil val.toNat lot.toNat * lot.toNat := by
  simp only [Calculator.ceilLot, Outcome.bind_eq_ok, Outcome.unwrap_eq_ok, Checked.mul_eq_some,
    asU64_eq_ok] at h
  obtain ⟨quotient, hquotient, unit, hunit, hr⟩ := h
  obtain ⟨hpos, hvalue⟩ := checkedCeilDiv_eq_some hquotient
  rw [toNat_toU128] at hpos
  rw [toNat_toU128, toNat_toU128] at hvalue
  exact ⟨hpos, by rw [hr, hunit, hvalue]⟩

/-- The lots around a value: the greatest multiple below, and the least one above, except that a
    value below one half of a lot is rounded down by both. -/
theorem lots_bracket {below above : U64} (hfloor : Calculator.floorLot val lot = .ok below)
    (hceil : Calculator.ceilLot val lot = .ok above) :
    IsGreatest {m | lot.toNat ∣ m ∧ m ≤ val.toNat} below.toNat ∧
      (lot.toNat ≤ 2 * val.toNat → IsLeast {m | lot.toNat ∣ m ∧ val.toNat ≤ m} above.toNat) ∧
      (2 * val.toNat < lot.toNat → above = 0) := by
  obtain ⟨-, hbelow⟩ := floorLot_eq_ok.mp hfloor
  obtain ⟨hlot, habove⟩ := ceilLot_eq_ok hceil
  refine ⟨hbelow ▸ Grid.isGreatest_floor _ _, fun hhalf => ?_, fun hsmall => ?_⟩
  · rw [habove, Rounding.softCeil_eq_ceilDiv (.inr hhalf)]
    exact Grid.isLeast_ceil hlot _
  · rw [(Rounding.softCeil_eq_zero hlot).mpr hsmall, Nat.zero_mul] at habove
    exact BitVec.eq_of_toNat_eq habove

theorem convertInPrice_eq_ok :
    Calculator.convertInPrice val lot = .ok r ↔ r.toNat = val.toNat * lot.toNat := by
  rw [Calculator.convertInPrice, Outcome.unwrap_eq_ok, Checked.mul_eq_some]

theorem convertPriceOut_eq_ok : Calculator.convertPriceOut val lot = .ok r ↔
    lot.toNat ≠ 0 ∧ r.toNat = val.toNat / lot.toNat := by
  rw [Calculator.convertPriceOut, Outcome.unwrap_eq_ok, Checked.div_eq_some]

/-- A conversion of 128 bits that ends in 64: both sides of the fraction fit. -/
theorem exists_div_asU64 {a b : ℕ} {x y : U128} (hx : x.toNat = a) (hy : y.toNat = b) (hb : b ≠ 0)
    (hfits : a / b < 2 ^ 64) : ∃ q, Checked.div x y = some q ∧ ∃ r : U64, asU64 q = .ok r ∧
      r.toNat = a / b := by
  obtain ⟨r, hr⟩ : ∃ r : U64, r.toNat = a / b := Checked.exists_toNat_eq hfits
  refine ⟨x / y, Checked.div_eq_some.mpr ⟨hy ▸ hb, BitVec.toNat_udiv⟩, r, ?_, hr⟩
  rw [asU64_eq_ok, hr, BitVec.toNat_udiv, hx, hy]

theorem convertInVol_eq_ok {decimal sys : U64}
    (h : Calculator.convertInVol val decimal lot sys = .ok r) :
    10 ^ decimal.toNat < 2 ^ 128 ∧ val.toNat * (lot.toNat * sys.toNat) < 2 ^ 128 ∧
      r.toNat = Grid.convert (lot.toNat * sys.toNat) (10 ^ decimal.toNat) val.toNat := by
  have hten : (10 : U128).toNat = 10 := by decide
  simp only [Calculator.convertInVol, Outcome.bind_eq_ok, Outcome.unwrap_eq_ok, Checked.mul_eq_some,
    Checked.pow_eq_some, Checked.div_eq_some, asU64_eq_ok, toNat_toU128, hten] at h
  obtain ⟨lots, hlots, scaled, hscaled, unit, hunit, volume, ⟨-, hvolume⟩, hr⟩ := h
  rw [hlots, Nat.mul_assoc] at hscaled
  refine ⟨hunit ▸ unit.isLt, hscaled ▸ scaled.isLt, ?_⟩
  rw [hr, hvolume, hscaled, hunit, Grid.convert]

theorem exists_convertVolOut {decimal sys : U64} {v : ℕ} (hunit : 10 ^ decimal.toNat < 2 ^ 128)
    (hscaled : val.toNat * 10 ^ decimal.toNat < 2 ^ 128) (hlots : lot.toNat * sys.toNat ≠ 0)
    (hv : Grid.convert (10 ^ decimal.toNat) (lot.toNat * sys.toNat) val.toNat ≤ v)
    (hfits : v < 2 ^ 64) :
    ∃ out : U64, Calculator.convertVolOut val decimal lot sys = .ok out ∧
      out.toNat = Grid.convert (10 ^ decimal.toNat) (lot.toNat * sys.toNat) val.toNat := by
  have hten : (10 : U128).toNat = 10 := by decide
  obtain ⟨unit, hunit'⟩ : ∃ u : U128, u.toNat = 10 ^ decimal.toNat := Checked.exists_toNat_eq hunit
  obtain ⟨scaled, hscaled'⟩ : ∃ s : U128, s.toNat = val.toNat * 10 ^ decimal.toNat :=
    Checked.exists_toNat_eq hscaled
  obtain ⟨lots, hlots'⟩ : ∃ l : U128, l.toNat = lot.toNat * sys.toNat :=
    Checked.exists_toNat_eq (lt_of_lt_of_le (Nat.mul_lt_mul'' lot.isLt sys.isLt) (by decide))
  obtain ⟨volume, hvolume, out, hout, hvalue⟩ :=
    exists_div_asU64 hscaled' hlots' hlots (lt_of_le_of_lt hv hfits)
  refine ⟨out, ?_, hvalue⟩
  simp only [Calculator.convertVolOut, Outcome.bind_eq_ok, Outcome.unwrap_eq_ok, Checked.mul_eq_some,
    Checked.pow_eq_some, toNat_toU128, hten]
  exact ⟨unit, hunit', scaled, by rw [hscaled', hunit'], lots, hlots', volume, hvolume, hout⟩

section PcLotSize

variable {pcDecimals coinDecimals : U8} {coinLotSize sys : U64}

theorem convertInPcLotSize_eq_ok
    (h : Calculator.convertInPcLotSize pcDecimals coinDecimals val coinLotSize sys = .ok r) :
    10 ^ pcDecimals.toNat < 2 ^ 128 ∧ 10 ^ coinDecimals.toNat < 2 ^ 128 ∧
      val.toNat * (sys.toNat * 10 ^ coinDecimals.toNat) < 2 ^ 128 ∧
      coinLotSize.toNat * 10 ^ pcDecimals.toNat ≠ 0 ∧
      r.toNat = Grid.convert (sys.toNat * 10 ^ coinDecimals.toNat)
        (coinLotSize.toNat * 10 ^ pcDecimals.toNat) val.toNat := by
  have hten : (10 : U128).toNat = 10 := by decide
  simp only [Calculator.convertInPcLotSize, Outcome.bind_eq_ok, Outcome.unwrap_eq_ok,
    Checked.mul_eq_some, Checked.pow_eq_some, Checked.div_eq_some, asU64_eq_ok, toNat_toU128,
    hten] at h
  obtain ⟨scaled, hscaled, coinUnit, hcoinUnit, numerator, hnumerator, pcUnit, hpcUnit, denominator,
    hdenominator, quotient, ⟨hne, hquotient⟩, hr⟩ := h
  rw [hscaled, hcoinUnit, Nat.mul_assoc] at hnumerator
  rw [hpcUnit] at hdenominator
  refine ⟨hpcUnit ▸ pcUnit.isLt, hcoinUnit ▸ coinUnit.isLt, hnumerator ▸ numerator.isLt,
    hdenominator ▸ hne, ?_⟩
  rw [hr, hquotient, hnumerator, hdenominator, Grid.convert]

theorem exists_convertOutPcLotSize {v : ℕ} (hpcUnit : 10 ^ pcDecimals.toNat < 2 ^ 128)
    (hcoinUnit : 10 ^ coinDecimals.toNat < 2 ^ 128)
    (hnumerator : val.toNat * (coinLotSize.toNat * 10 ^ pcDecimals.toNat) < 2 ^ 128)
    (hdenominator : sys.toNat * 10 ^ coinDecimals.toNat < 2 ^ 128)
    (hne : sys.toNat * 10 ^ coinDecimals.toNat ≠ 0)
    (hv : Grid.convert (coinLotSize.toNat * 10 ^ pcDecimals.toNat)
      (sys.toNat * 10 ^ coinDecimals.toNat) val.toNat ≤ v) (hfits : v < 2 ^ 64) :
    ∃ out : U64, Calculator.convertOutPcLotSize pcDecimals coinDecimals val coinLotSize sys = .ok out ∧
      out.toNat = Grid.convert (coinLotSize.toNat * 10 ^ pcDecimals.toNat)
        (sys.toNat * 10 ^ coinDecimals.toNat) val.toNat := by
  have hten : (10 : U128).toNat = 10 := by decide
  obtain ⟨pcUnit, hpcUnit'⟩ : ∃ u : U128, u.toNat = 10 ^ pcDecimals.toNat :=
    Checked.exists_toNat_eq hpcUnit
  obtain ⟨coinUnit, hcoinUnit'⟩ : ∃ u : U128, u.toNat = 10 ^ coinDecimals.toNat :=
    Checked.exists_toNat_eq hcoinUnit
  obtain ⟨lots, hlots⟩ : ∃ l : U128, l.toNat = val.toNat * coinLotSize.toNat :=
    Checked.exists_toNat_eq (lt_of_lt_of_le (Nat.mul_lt_mul'' val.isLt coinLotSize.isLt) (by decide))
  rw [← Nat.mul_assoc] at hnumerator
  obtain ⟨numerator, hnumerator'⟩ := Checked.exists_toNat_eq hnumerator
  obtain ⟨denominator, hdenominator'⟩ := Checked.exists_toNat_eq hdenominator
  rw [Nat.mul_assoc] at hnumerator'
  obtain ⟨quotient, hquotient, out, hout, hvalue⟩ :=
    exists_div_asU64 hnumerator' hdenominator' hne (lt_of_le_of_lt hv hfits)
  refine ⟨out, ?_, hvalue⟩
  simp only [Calculator.convertOutPcLotSize, Outcome.bind_eq_ok, Outcome.unwrap_eq_ok,
    Checked.mul_eq_some, Checked.pow_eq_some, toNat_toU128, hten]
  exact ⟨lots, hlots, pcUnit, hpcUnit', numerator, by rw [hnumerator', hlots, hpcUnit', Nat.mul_assoc],
    coinUnit, hcoinUnit', denominator, by rw [hdenominator', hcoinUnit'], quotient, hquotient, hout⟩

end PcLotSize

end Units

/-- A price that goes out to the venue and back is rounded down to a tick and goes out as the same.
    A volume that comes in can go out again, as no more than it was, and as the same exactly where
    nothing was rounded off on the way in; likewise a tick size. The lots around a value are its
    neighbours on the grid, except that below one half of a lot both are zero. -/
theorem venue_units_round_trip :
    (∀ price lot out : U64, Calculator.convertPriceOut price lot = .ok out →
      ∃ back : U64, Calculator.convertInPrice out lot = .ok back ∧
        Calculator.floorLot price lot = .ok back ∧ back.toNat ≤ price.toNat ∧
        Calculator.convertPriceOut back lot = .ok out) ∧
    (∀ vol decimal lot sys v : U64, Calculator.convertInVol vol decimal lot sys = .ok v →
      lot.toNat * sys.toNat ≠ 0 →
      ∃ out : U64, Calculator.convertVolOut v decimal lot sys = .ok out ∧ out.toNat ≤ vol.toNat ∧
        (out = vol ↔ 10 ^ decimal.toNat ∣ vol.toNat * (lot.toNat * sys.toNat))) ∧
    (∀ (pcDecimals coinDecimals : U8) (tick coinLotSize sys t : U64),
      Calculator.convertInPcLotSize pcDecimals coinDecimals tick coinLotSize sys = .ok t →
      0 < tick.toNat → 0 < sys.toNat →
      ∃ out : U64,
        Calculator.convertOutPcLotSize pcDecimals coinDecimals t coinLotSize sys = .ok out ∧
        out.toNat ≤ tick.toNat ∧
        (out = tick ↔ coinLotSize.toNat * 10 ^ pcDecimals.toNat ∣
          tick.toNat * (sys.toNat * 10 ^ coinDecimals.toNat))) ∧
    ∀ val lot below above : U64, Calculator.floorLot val lot = .ok below →
      Calculator.ceilLot val lot = .ok above →
      IsGreatest {m | lot.toNat ∣ m ∧ m ≤ val.toNat} below.toNat ∧
        (lot.toNat ≤ 2 * val.toNat → IsLeast {m | lot.toNat ∣ m ∧ val.toNat ≤ m} above.toNat) ∧
        (2 * val.toNat < lot.toNat → above = 0) := by
  refine ⟨fun price lot out h => ?_, fun vol decimal lot sys v h hne => ?_,
    fun pcDecimals coinDecimals tick coinLotSize sys t h htick hsys => ?_,
    fun val lot below above => lots_bracket⟩
  · obtain ⟨hlot, hout⟩ := convertPriceOut_eq_ok.mp h
    have hle : price.toNat / lot.toNat * lot.toNat ≤ price.toNat := Nat.div_mul_le_self _ _
    obtain ⟨back, hback⟩ : ∃ b : U64, b.toNat = price.toNat / lot.toNat * lot.toNat :=
      Checked.exists_toNat_eq (lt_of_le_of_lt hle price.isLt)
    refine ⟨back, convertInPrice_eq_ok.mpr (by rw [hback, hout]), floorLot_eq_ok.mpr ⟨hlot, hback⟩,
      hback ▸ hle, convertPriceOut_eq_ok.mpr ⟨hlot, ?_⟩⟩
    rw [hback, Nat.mul_div_cancel _ (Nat.pos_of_ne_zero hlot), hout]
  · obtain ⟨hunit, hin, hv⟩ := convertInVol_eq_ok h
    have hscaled : v.toNat * 10 ^ decimal.toNat < 2 ^ 128 := by
      rw [hv]
      exact lt_of_le_of_lt Grid.convert_mul_le hin
    have hle : Grid.convert (10 ^ decimal.toNat) (lot.toNat * sys.toNat) v.toNat ≤ vol.toNat := by
      rw [hv]
      exact Grid.convert_convert_le
    obtain ⟨out, hok, hout⟩ := exists_convertVolOut hunit hscaled hne hle vol.isLt
    refine ⟨out, hok, hout ▸ hle, ?_⟩
    rw [← BitVec.toNat_inj, hout, hv]
    exact Grid.convert_convert_eq_iff (Nat.pos_of_ne_zero hne)
  · obtain ⟨hpcUnit, hcoinUnit, hin, -, ht⟩ := convertInPcLotSize_eq_ok h
    have hden : 0 < sys.toNat * 10 ^ coinDecimals.toNat :=
      Nat.mul_pos hsys (Nat.pow_pos (by decide))
    have hnumerator : t.toNat * (coinLotSize.toNat * 10 ^ pcDecimals.toNat) < 2 ^ 128 := by
      rw [ht]
      exact lt_of_le_of_lt Grid.convert_mul_le hin
    have hdenominator : sys.toNat * 10 ^ coinDecimals.toNat < 2 ^ 128 :=
      lt_of_le_of_lt (Nat.le_mul_of_pos_left _ htick) hin
    have hle : Grid.convert (coinLotSize.toNat * 10 ^ pcDecimals.toNat)
        (sys.toNat * 10 ^ coinDecimals.toNat) t.toNat ≤ tick.toNat := by
      rw [ht]
      exact Grid.convert_convert_le
    obtain ⟨out, hok, hout⟩ := exists_convertOutPcLotSize hpcUnit hcoinUnit hnumerator hdenominator
      (Nat.ne_of_gt hden) hle tick.isLt
    refine ⟨out, hok, hout ▸ hle, ?_⟩
    rw [← BitVec.toNat_inj, hout, ht]
    exact Grid.convert_convert_eq_iff hden

/-- A volume of 3 at nine decimals is 300 lots of 100000, which go out as 3 again. -/
theorem venue_units_round_trip_nine_decimals :
    Calculator.convertInVol 3 9 100000 1000000 = .ok 300 ∧
      Calculator.convertVolOut 300 9 100000 1000000 = .ok 3 := by
  have hin : Calculator.convertInVol 3 9 100000 1000000 = .ok 300 := rfl
  obtain ⟨out, hout, -, hexact⟩ := venue_units_round_trip.2.1 3 9 100000 1000000 300 hin (by decide)
  obtain rfl : out = 3 := hexact.mpr (by decide)
  exact ⟨hin, hout⟩

/-! ## 3. Weights -/

/-- The weight of the order `i`. -/
def orderWeight (i : ℕ) : ℕ := if i = 0 then 0 else Nat.fib (i + 1)

theorem orderWeight_succ (i : ℕ) : orderWeight (i + 1) = Nat.fib (i + 2) := if_neg (Nat.succ_ne_zero i)

theorem orderWeight_strictMono : StrictMono orderWeight := by
  refine strictMono_nat_of_lt_succ fun i => ?_
  rw [orderWeight_succ]
  cases i with
  | zero => decide
  | succ i =>
    rw [orderWeight_succ]
    exact Nat.fib_add_two_strictMono (Nat.lt_succ_self i)

theorem orderWeight_add {i : ℕ} (h : 3 ≤ i) :
    orderWeight (i - 1) + orderWeight (i - 2) = orderWeight i := by
  obtain ⟨j, rfl⟩ := Nat.exists_eq_add_of_le' h
  show orderWeight (j + 1 + 1) + orderWeight (j + 1) = orderWeight (j + 2 + 1)
  rw [orderWeight_succ, orderWeight_succ, orderWeight_succ, Nat.add_comm]
  exact Nat.fib_add_two.symm

/-- The weights of the first `n` orders as words. -/
def orderWeights (n : ℕ) : List U64 := (List.range n).map fun i => BitVec.ofNat 64 (orderWeight i)

theorem getElem?_orderWeights {n i : ℕ} (h : i < n) :
    (orderWeights n)[i]? = some (BitVec.ofNat 64 (orderWeight i)) := by
  simp [orderWeights, h]

theorem orderWeights_succ (n : ℕ) :
    orderWeights (n + 1) = orderWeights n ++ [BitVec.ofNat 64 (orderWeight n)] := by
  simp [orderWeights, List.range_succ]

/-- The last weight of 64 bits is that of order 92. -/
theorem orderWeight_lt_iff {i : ℕ} : orderWeight i < 2 ^ 64 ↔ i ≤ 92 := by
  have hlast : orderWeight 92 < 2 ^ 64 := by decide +kernel
  have hnext : 2 ^ 64 ≤ orderWeight 93 := by decide +kernel
  constructor
  · intro h
    by_contra hlt
    exact absurd (le_trans hnext (orderWeight_strictMono.monotone (Nat.lt_of_not_le hlt)))
      (Nat.not_le_of_lt h)
  · intro h
    exact lt_of_le_of_lt (orderWeight_strictMono.monotone h) hlast

/-- One push onto the earlier weights. -/
theorem fibonacciPush_orderWeights {n : ℕ} (h : n ≤ 93) :
    Calculator.fibonacciPush (orderWeights n) n =
      if n ≤ 92 then .ok (orderWeights (n + 1)) else Outcome.panic := by
  rcases Nat.lt_or_ge n 3 with hsmall | hlarge
  · obtain rfl | rfl | rfl : n = 0 ∨ n = 1 ∨ n = 2 := by omega
    · rfl
    · rfl
    · rfl
  · have hsum := orderWeight_add hlarge
    have hfirst : orderWeight (n - 1) < 2 ^ 64 := orderWeight_lt_iff.mpr (by omega)
    have hsecond : orderWeight (n - 2) < 2 ^ 64 := orderWeight_lt_iff.mpr (by omega)
    have hpush : Calculator.fibonacciPush (orderWeights n) n =
        (Outcome.unwrap (Checked.add (BitVec.ofNat 64 (orderWeight (n - 1)))
          (BitVec.ofNat 64 (orderWeight (n - 2)))) >>= fun ret => .ok (orderWeights n ++ [ret])) := by
      rw [Calculator.fibonacciPush, if_neg (by omega), if_neg (by omega), if_neg (by omega),
        getElem?_orderWeights (by omega), getElem?_orderWeights (by omega)]
      rfl
    rw [hpush, Checked.add, BitVec.toNat_ofNat, BitVec.toNat_ofNat, Nat.mod_eq_of_lt hfirst,
      Nat.mod_eq_of_lt hsecond, hsum]
    by_cases hlast : n ≤ 92
    · rw [if_pos (orderWeight_lt_iff.mpr hlast), if_pos hlast, orderWeights_succ, ← hsum,
        BitVec.ofNat_add]
      rfl
    · rw [if_neg (mt orderWeight_lt_iff.mp hlast), if_neg hlast]
      rfl

theorem foldlM_fibonacciPush (n : ℕ) : (List.range n).foldlM Calculator.fibonacciPush [] =
    if n ≤ 93 then .ok (orderWeights n) else Outcome.panic := by
  induction n with
  | zero => rfl
  | succ n ih =>
    rw [List.range_succ, List.foldlM_append, ih]
    by_cases hn : n ≤ 93
    · rw [if_pos hn, Outcome.ok_bind, List.foldlM_cons, fibonacciPush_orderWeights hn]
      by_cases hlast : n ≤ 92
      · rw [if_pos hlast, if_pos (Nat.succ_le_succ hlast)]
        rfl
      · rw [if_neg hlast, if_neg (by omega)]
        rfl
    · rw [if_neg hn, if_neg (by omega)]
      rfl

theorem map_toNat_orderWeights {n : ℕ} (h : n ≤ 93) :
    (orderWeights n).map BitVec.toNat = (List.range n).map orderWeight := by
  rw [orderWeights, List.map_map]
  refine List.map_congr_left fun i hi => ?_
  have hlt : orderWeight i < 2 ^ 64 := orderWeight_lt_iff.mpr (by rw [List.mem_range] at hi; omega)
  exact (BitVec.toNat_ofNat _ _).trans (Nat.mod_eq_of_lt hlt)

/-- The weights of up to 93 orders are the first Fibonacci numbers, each larger than the one before;
    for more the sum overflows. -/
theorem fibonacci_panics_from_ninety_four (orderNum : U64) :
    (94 ≤ orderNum.toNat → Calculator.fibonacci orderNum = Outcome.panic) ∧
      (orderNum.toNat ≤ 93 → ∃ fb, Calculator.fibonacci orderNum = .ok fb ∧
        fb.map BitVec.toNat = (List.range orderNum.toNat).map orderWeight ∧
        fb.Pairwise (· < ·)) := by
  constructor
  · intro h
    rw [Calculator.fibonacci, foldlM_fibonacciPush, if_neg (by omega)]
  · intro h
    refine ⟨orderWeights orderNum.toNat, ?_, ?_, ?_⟩
    · rw [Calculator.fibonacci, foldlM_fibonacciPush, if_pos h]
    · exact map_toNat_orderWeights h
    · have hvalues : ((orderWeights orderNum.toNat).map BitVec.toNat).Pairwise (· < ·) := by
        rw [map_toNat_orderWeights h]
        exact List.pairwise_lt_range.map _ fun _ _ hlt => orderWeight_strictMono hlt
      have hpairs := List.pairwise_map.mp hvalues
      exact hpairs

/-! ## 4. Client order ids -/

/-- The ids of `n` calls in a row. -/
def issuedIds : ℕ → AmmInfo → List U64
  | 0, _ => []
  | n + 1, amm => amm.incrClientOrderId.1 :: issuedIds n amm.incrClientOrderId.2

theorem incrClientOrderId_kept (amm : AmmInfo) :
    amm.incrClientOrderId.2.clientOrderId = amm.incrClientOrderId.1 := rfl

/-- The next id counts through the words that are not zero, around at the end. -/
theorem incrClientOrderId_toNat (amm : AmmInfo) :
    amm.incrClientOrderId.1.toNat = amm.clientOrderId.toNat % (2 ^ 64 - 1) + 1 := by
  have hlt := amm.clientOrderId.isLt
  have hnext : (amm.clientOrderId + 1).toNat = (amm.clientOrderId.toNat + 1) % 2 ^ 64 :=
    BitVec.toNat_add _ _
  by_cases hlast : amm.clientOrderId.toNat = 2 ^ 64 - 1
  · have hzero : amm.clientOrderId + 1 = 0 := by
      apply BitVec.eq_of_toNat_eq
      rw [hnext, hlast]
      rfl
    have hone : amm.incrClientOrderId.1 = 1 := by
      show (if amm.clientOrderId + 1 = 0 then amm.clientOrderId + 1 + 1 else _) = _
      rw [if_pos hzero, hzero]
      rfl
    rw [hone, hlast]
    rfl
  · have hne : ¬amm.clientOrderId + 1 = 0 := by
      intro hzero
      rw [hzero] at hnext
      have hnext : 0 = (amm.clientOrderId.toNat + 1) % 2 ^ 64 := hnext
      omega
    have hsucc : amm.incrClientOrderId.1 = amm.clientOrderId + 1 := if_neg hne
    rw [hsucc, hnext]
    omega

theorem map_toNat_issuedIds (n : ℕ) (amm : AmmInfo) :
    (issuedIds n amm).map BitVec.toNat =
      (List.range n).map fun i => (amm.clientOrderId.toNat + i) % (2 ^ 64 - 1) + 1 := by
  induction n generalizing amm with
  | zero => rfl
  | succ n ih =>
    rw [issuedIds, List.map_cons, ih, List.range_succ_eq_map, List.map_cons, List.map_map,
      incrClientOrderId_kept, incrClientOrderId_toNat]
    congr 1
    refine List.map_congr_left fun i _ => ?_
    show (amm.clientOrderId.toNat % (2 ^ 64 - 1) + 1 + i) % (2 ^ 64 - 1) + 1 =
      (amm.clientOrderId.toNat + (i + 1)) % (2 ^ 64 - 1) + 1
    omega

/-- No client id is zero, and they are all different for exactly as many calls as there are ids,
    from whatever value the counter starts. -/
theorem client_order_ids_are_fresh (n : ℕ) (amm : AmmInfo) :
    (∀ id ∈ issuedIds n amm, id ≠ 0) ∧ ((issuedIds n amm).Nodup ↔ n ≤ 2 ^ 64 - 1) := by
  have hmap := map_toNat_issuedIds n amm
  constructor
  · rintro id hid rfl
    have hzero : 0 ∈ (issuedIds n amm).map BitVec.toNat := List.mem_map.mpr ⟨0, hid, rfl⟩
    rw [hmap] at hzero
    obtain ⟨i, -, hi⟩ := List.mem_map.mp hzero
    exact absurd hi (Nat.succ_ne_zero _)
  · rw [← List.nodup_map_iff (f := BitVec.toNat) fun _ _ => BitVec.eq_of_toNat_eq, hmap,
      List.nodup_map_iff_inj_on List.nodup_range]
    constructor
    · intro h
      by_contra hlt
      have hback := h 0 (List.mem_range.mpr (by omega)) (2 ^ 64 - 1)
        (List.mem_range.mpr (by omega)) (by omega)
      omega
    · intro h i hi j hj heq
      rw [List.mem_range] at hi hj
      omega

end RaydiumAmm
