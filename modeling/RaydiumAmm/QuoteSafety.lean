import RaydiumAmm.Quotes

/-!
# Where a quote aborts

The pricing of a swap computes with unwrapped operations before it checks its result.

1. `swapBaseInQuote_safe`: an exact-in quote aborts only where there is nothing to divide by, and
   leaves a part of a positive output reserve.
2. `swapBaseOutChecks`: the pricing of an exact-out swap with all its checks.
3. `swapBaseOutChecks_clean_iff`: it ends cleanly exactly where no check would have to refuse the
   requested amount itself, since the computation aborts before those checks.
-/

namespace RaydiumAmm

open Rounding ConstantProduct
open Outcome (EndsIn)

section Fee

variable {fees : Fees}

/-! ## 1. Exact in -/

/-- An exact-in quote with a fee below one. -/
theorem swapBaseInQuote_safe (h : fees.swapFeeNumerator.toNat < fees.swapFeeDenominator.toNat)
    (amountIn pc coin : U64) (dir : SwapDirection) :
    (swapBaseInQuote fees amountIn pc coin dir = Outcome.panic ↔
      dir.reserveIn coin.toNat pc.toNat + (amountIn.toNat - fees.rounded amountIn.toNat) = 0) ∧
    (dir.reserveIn coin.toNat pc.toNat + (amountIn.toNat - fees.rounded amountIn.toNat) ≠ 0 →
      ∃ q, swapBaseInQuote fees amountIn pc coin dir = .ok q ∧
        q.swapFee.toNat = fees.rounded amountIn.toNat ∧ q.swapFee.toNat ≤ amountIn.toNat ∧
        q.swapAmountOut.toNat = outGivenIn (dir.reserveIn coin.toNat pc.toNat)
          (dir.reserveOut coin.toNat pc.toNat) (amountIn.toNat - fees.rounded amountIn.toNat) ∧
        (0 < dir.reserveIn coin.toNat pc.toNat → 0 < dir.reserveOut coin.toNat pc.toNat →
          q.swapAmountOut.toNat < dir.reserveOut coin.toNat pc.toNat)) := by
  constructor
  · constructor
    · intro hpanic
      by_contra hne
      obtain ⟨q, hq⟩ := exists_swapBaseInQuote_of_pos h (Nat.pos_of_ne_zero hne)
      rw [hpanic] at hq
      cases hq
    · intro hzero
      rcases Outcome.Avoids.ok_or_panic fun _ => swapBaseInQuote_avoids fees amountIn pc coin dir
        with ⟨q, hq⟩ | hpanic
      · have hquoted := swapBaseInQuote_eq_ok hq
        have hfee : q.swapFee.toNat = fees.rounded amountIn.toNat := hquoted.fee
        have hnet := hquoted.net
        have hpos := hquoted.reserve_pos
        omega
      · exact hpanic
  · intro hne
    obtain ⟨q, hq⟩ := exists_swapBaseInQuote_of_pos h (Nat.pos_of_ne_zero hne)
    have hquoted := swapBaseInQuote_eq_ok hq
    have hfee : q.swapFee.toNat = fees.rounded amountIn.toNat := hquoted.fee
    have hsplit := hquoted.net
    have hnet : q.swapInAfterDeductFee.toNat = amountIn.toNat - fees.rounded amountIn.toNat := by
      omega
    have hout := hquoted.out
    rw [hnet] at hout
    refine ⟨q, hq, hfee, by omega, hout, ?_⟩
    intro hin hreserve
    rw [hout]
    exact outGivenIn_lt hin hreserve

/-- A sale of 1000 coin to an empty pool, and of nothing at all. -/
theorem swapBaseInQuote_safe_empty :
    swapBaseInQuote Fees.init 1000 0 0 .coin2Pc ≠ Outcome.panic ∧
      swapBaseInQuote Fees.init 0 0 0 .coin2Pc = Outcome.panic :=
  ⟨mt (swapBaseInQuote_safe (by decide) 1000 0 0 .coin2Pc).1.mp (by decide),
    (swapBaseInQuote_safe (by decide) 0 0 0 .coin2Pc).1.mpr rfl⟩

/-! ## 2. Exact out -/

/-- The total that a swap takes from. -/
def SwapDirection.totalOut (dir : SwapDirection)
    (totalPcWithoutTakePnl totalCoinWithoutTakePnl : U64) : U64 :=
  match dir with
  | .coin2Pc => totalPcWithoutTakePnl
  | .pc2Coin => totalCoinWithoutTakePnl

/-- `process_swap_base_out` from the amount before the fee to the first check of the branch, which
    compares the amount out with its total. -/
def swapBaseOutChecks (fees : Fees) (swap : SwapInstructionBaseOut) (userSourceAmount
    totalPcWithoutTakePnl totalCoinWithoutTakePnl : U64) (swapDirection : SwapDirection) :
    Result SwapBaseOutQuote := do
  let q ← swapBaseOutQuote fees swap.amountOut totalPcWithoutTakePnl totalCoinWithoutTakePnl
    swapDirection
  check (¬(userSourceAmount < q.swapInAfterAddFee)) .insufficientFunds
  check (¬(swap.maxAmountIn < q.swapInAfterAddFee)) .exceededSlippage
  check (¬(q.swapInAfterAddFee = 0 ∨ swap.amountOut = 0)) .invalidInput
  check (¬(swap.amountOut ≥
      swapDirection.totalOut totalPcWithoutTakePnl totalCoinWithoutTakePnl)) .insufficientFunds
  return q

/-! ## 3. Clean endings -/

/-- An error of the program. -/
def IsAmmError (e : ProgramError) : Prop := ∃ a : AmmError, e = a.into

/-- The requested amount is refused with an error of the program where the pool cannot give it or
    nobody can pay for it, and nothing aborts. -/
structure RefusesCleanly (fees : Fees) (amountOut rin rout : ℕ) (r : Result SwapBaseOutQuote) :
    Prop where
  ends : EndsIn IsAmmError r
  drained : rout ≤ amountOut → r = Outcome.fail AmmError.insufficientFunds.into
  unaffordable : amountOut < rout → 2 ^ 64 ≤ fees.required rin rout amountOut →
    r = Outcome.fail AmmError.insufficientFunds.into ∨
      r = Outcome.fail AmmError.exceededSlippage.into

theorem swapBaseOutChecks_eq_panic {swap : SwapInstructionBaseOut} {source pc coin : U64}
    {dir : SwapDirection} (h : swapBaseOutQuote fees swap.amountOut pc coin dir = Outcome.panic) :
    swapBaseOutChecks fees swap source pc coin dir = Outcome.panic := by
  rw [swapBaseOutChecks, h]
  rfl

/-- With a fee below one, the pricing of an exact-out swap ends cleanly exactly where the amount out
    is below its total and the amount that it requires has 64 bits. -/
theorem swapBaseOutChecks_clean_iff
    (h : fees.swapFeeNumerator.toNat < fees.swapFeeDenominator.toNat)
    (swap : SwapInstructionBaseOut) (source pc coin : U64) (dir : SwapDirection) :
    RefusesCleanly fees swap.amountOut.toNat (dir.reserveIn coin.toNat pc.toNat)
        (dir.reserveOut coin.toNat pc.toNat) (swapBaseOutChecks fees swap source pc coin dir) ↔
      swap.amountOut.toNat < dir.reserveOut coin.toNat pc.toNat ∧
        fees.required (dir.reserveIn coin.toNat pc.toNat) (dir.reserveOut coin.toNat pc.toNat)
          swap.amountOut.toNat < 2 ^ 64 := by
  rw [← exists_swapBaseOutQuote_iff h]
  constructor
  · intro hclean
    rcases Outcome.Avoids.ok_or_panic fun _ =>
      swapBaseOutQuote_avoids fees swap.amountOut pc coin dir with hok | hpanic
    · exact hok
    · exact absurd (swapBaseOutChecks_eq_panic hpanic ▸ hclean.ends) EndsIn.not_panic
  · intro hok
    obtain ⟨hlt, hfits⟩ := (exists_swapBaseOutQuote_iff h).mp hok
    obtain ⟨q, hq⟩ := hok
    refine ⟨?_, fun hge => absurd hlt (Nat.not_lt.mpr hge),
      fun _ hge => absurd hfits (Nat.not_lt.mpr hge)⟩
    rw [swapBaseOutChecks, hq, Outcome.ok_bind]
    exact (EndsIn.require ⟨_, rfl⟩).bind fun _ _ => (EndsIn.require ⟨_, rfl⟩).bind fun _ _ =>
      (EndsIn.require ⟨_, rfl⟩).bind fun _ _ => (EndsIn.require ⟨_, rfl⟩).bind fun _ _ =>
        EndsIn.of_ok q

/-- A request for 4995 pc from a pool with 1000000 coin and 5000000 pc. -/
theorem swapBaseOutChecks_clean_iff_pool :
    RefusesCleanly Fees.init 4995 1000000 5000000
        (swapBaseOutChecks Fees.init ⟨2000, 4995⟩ 1000000 5000000 1000000 .coin2Pc) :=
  (swapBaseOutChecks_clean_iff (by decide) ⟨2000, 4995⟩ 1000000 5000000 1000000 .coin2Pc).mpr
    (by decide)

/-- A request for the whole pc total aborts, and so does one for all but one unit of it where the
    coin total is large. -/
theorem swapBaseOutChecks_aborts :
    swapBaseOutChecks Fees.init ⟨2000, 5000000⟩ 1000000 5000000 1000000 .coin2Pc = Outcome.panic ∧
      ¬RefusesCleanly Fees.init 5000000 1000000 5000000
        (swapBaseOutChecks Fees.init ⟨2000, 5000000⟩ 1000000 5000000 1000000 .coin2Pc) ∧
      ¬RefusesCleanly Fees.init 4999999 1000000000000000000 5000000
        (swapBaseOutChecks Fees.init ⟨2000, 4999999⟩ 1000000 5000000 1000000000000000000
          .coin2Pc) := by
  refine ⟨rfl, fun hclean => ?_, fun hclean => ?_⟩
  · exact EndsIn.not_panic hclean.ends
  · exact EndsIn.not_panic hclean.ends

end Fee

end RaydiumAmm
