import Mathlib.Algebra.BigOperators.Ring.List
import RaydiumAmm.Quotes

/-!
# Trading against the quotes

What a trader can make of the two quotes at given reserves and a given fee.

1. `exact_out_pays_exact_in`: the gross amount that an exact-out swap asks for buys at least the
   same output in an exact-in swap.
2. `quoteEach`: amounts sold one after the other, and what they buy together.
3. `split_quote_le`: a split never pays where the fees of the parts reach the fee of the whole;
   `split_quote_pays`: it can pay where they do not.
-/

namespace RaydiumAmm

open Rounding ConstantProduct

/-! ## 1. Exact out, then exact in -/

/-- What is left of the gross amount after the fee of an exact-in swap is at least the amount
    before the fee. -/
theorem BaseOutQuoted.fee_le {fees : Fees} {amountOut rin rout : ℕ} {q : SwapBaseOutQuote}
    (h : BaseOutQuoted fees amountOut rin rout q) (hne : q.swapInAfterAddFee.toNat ≠ 0) :
    softCeil (q.swapInAfterAddFee.toNat * fees.swapFeeNumerator.toNat)
      fees.swapFeeDenominator.toNat ≤
        q.swapInAfterAddFee.toNat - q.swapInBeforeAddFee.toNat :=
  softCeil_le (Nat.zero_lt_of_lt h.fee_lt) (h.fee_share hne)

/-- The gross amount of an exact-out quote buys at least the output in an exact-in quote. -/
theorem exact_out_pays_exact_in {fees : Fees} {amountOut pc coin : U64} {dir : SwapDirection}
    {q : SwapBaseOutQuote} (h : swapBaseOutQuote fees amountOut pc coin dir = .ok q)
    (hne : q.swapInAfterAddFee ≠ 0) :
    ∃ q', swapBaseInQuote fees q.swapInAfterAddFee pc coin dir = .ok q' ∧
      amountOut ≤ q'.swapAmountOut := by
  have hout := swapBaseOutQuote_eq_ok h
  have hgross : q.swapInAfterAddFee.toNat ≠ 0 := fun h0 => hne (BitVec.eq_of_toNat_eq h0)
  obtain ⟨hcover, hle⟩ := hout.cover hgross
  -- an empty input reserve would have made the gross amount zero
  have hreserve : 0 < dir.reserveIn coin.toNat pc.toNat := by
    by_contra h0
    have hnet := hout.net
    rw [Nat.eq_zero_of_not_pos h0, Nat.zero_mul,
      (softCeil_eq_zero (by have := hout.out_lt; omega)).mpr (by have := hout.out_lt; omega)] at hnet
    apply hgross
    rw [hout.gross, hnet, Nat.zero_mul, softCeil_eq_zero (by have := hout.fee_lt; omega)]
    have := hout.fee_lt
    omega
  obtain ⟨q', hq'⟩ := exists_swapBaseInQuote hout.fee_lt hreserve
  refine ⟨q', hq', BitVec.le_def.mpr ?_⟩
  have hin := swapBaseInQuote_eq_ok hq'
  have hnet : q.swapInBeforeAddFee.toNat ≤ q'.swapInAfterDeductFee.toNat := by
    have hfee := hout.fee_le hgross
    rw [← hin.fee] at hfee
    have hsplit := hin.net
    omega
  rw [hin.out]
  refine le_outGivenIn_of_cover (Nat.le_of_lt hout.out_lt) hin.reserve_pos (hcover.trans ?_)
  exact Nat.mul_le_mul_right _ hnet

/-- An output of 100 pc from reserves of 1000000 coin and 5000000 pc. -/
theorem exact_out_pays_exact_in_pc :
    ∃ q', swapBaseInQuote Fees.init 22 5000000 1000000 .coin2Pc = .ok q' ∧
      100 ≤ q'.swapAmountOut := by
  have hquote : swapBaseOutQuote Fees.init 100 5000000 1000000 .coin2Pc = .ok ⟨21, 22, 1⟩ := rfl
  exact exact_out_pays_exact_in hquote (by decide)

/-! ## 2. Amounts in a row -/

/-- The reserves `(pc, coin)` after an amount was added to the input reserve and an output was taken
    from the other. They are 64-bit balances. -/
def SwapDirection.move (dir : SwapDirection) (pc coin amountIn amountOut : U64) :
    Result (U64 × U64) :=
  match dir with
  | .coin2Pc => do
    let coin ← Outcome.unwrap (Checked.add coin amountIn)
    let pc ← Outcome.unwrap (Checked.sub pc amountOut)
    return (pc, coin)
  | .pc2Coin => do
    let pc ← Outcome.unwrap (Checked.add pc amountIn)
    let coin ← Outcome.unwrap (Checked.sub coin amountOut)
    return (pc, coin)

/-- Quote the amounts one after the other, each on the reserves that the ones before it left. The
    result is the sum of the outputs. -/
def quoteEach (fees : Fees) (dir : SwapDirection) : List U64 → U64 → U64 → Result ℕ
  | [], _, _ => .ok 0
  | amountIn :: rest, pc, coin => do
    let q ← swapBaseInQuote fees amountIn pc coin dir
    let (pc, coin) ← dir.move pc coin amountIn q.swapAmountOut
    let total ← quoteEach fees dir rest pc coin
    return q.swapAmountOut.toNat + total

section Split

variable {fees : Fees} {dir : SwapDirection} {pc coin pc' coin' : U64}

theorem SwapDirection.move_eq_ok {amountIn amountOut : U64}
    (h : dir.move pc coin amountIn amountOut = .ok (pc', coin')) :
    dir.reserveIn coin'.toNat pc'.toNat = dir.reserveIn coin.toNat pc.toNat + amountIn.toNat ∧
      dir.reserveOut coin'.toNat pc'.toNat =
        dir.reserveOut coin.toNat pc.toNat - amountOut.toNat := by
  cases dir with
  | coin2Pc =>
    simp only [SwapDirection.move, Outcome.bind_eq_ok, Outcome.unwrap_eq_ok, Checked.add_eq_some,
      Checked.sub_eq_some, Outcome.pure_eq_ok, Prod.mk.injEq] at h
    obtain ⟨c, hc, p, hp, rfl, rfl⟩ := h
    simp only [SwapDirection.reserveIn, SwapDirection.reserveOut]
    omega
  | pc2Coin =>
    simp only [SwapDirection.move, Outcome.bind_eq_ok, Outcome.unwrap_eq_ok, Checked.add_eq_some,
      Checked.sub_eq_some, Outcome.pure_eq_ok, Prod.mk.injEq] at h
    obtain ⟨p, hp, c, hc, rfl, rfl⟩ := h
    simp only [SwapDirection.reserveIn, SwapDirection.reserveOut]
    omega

/-- The fees of the parts are taken out of them. -/
theorem quoteEach_fees_le {amounts : List U64} {total : ℕ}
    (h : quoteEach fees dir amounts pc coin = .ok total) :
    (amounts.map fun a => fees.rounded a.toNat).sum ≤ (amounts.map BitVec.toNat).sum := by
  induction amounts generalizing pc coin total with
  | nil => exact Nat.le_refl 0
  | cons amountIn rest ih =>
    simp only [quoteEach, Outcome.bind_eq_ok, Outcome.pure_eq_ok] at h
    obtain ⟨q, hq, ⟨pc', coin'⟩, -, total', htotal, -⟩ := h
    have hquote := swapBaseInQuote_eq_ok hq
    have hfee : q.swapFee.toNat = fees.rounded amountIn.toNat := hquote.fee
    have hsplit := hquote.net
    simp only [List.map_cons, List.sum_cons]
    exact Nat.add_le_add (by omega) (ih htotal)

/-- What a row of amounts buys is no more than what their sum, less the fees of the parts, buys at
    once. -/
theorem quoteEach_le {amounts : List U64} {total net : ℕ}
    (hpos : 0 < dir.reserveIn coin.toNat pc.toNat)
    (hnet : net + (amounts.map fun a => fees.rounded a.toNat).sum = (amounts.map BitVec.toNat).sum)
    (h : quoteEach fees dir amounts pc coin = .ok total) :
    total ≤ outGivenIn (dir.reserveIn coin.toNat pc.toNat)
      (dir.reserveOut coin.toNat pc.toNat) net := by
  induction amounts generalizing pc coin total net with
  | nil =>
    cases h
    exact Nat.zero_le _
  | cons amountIn rest ih =>
    simp only [quoteEach, Outcome.bind_eq_ok, Outcome.pure_eq_ok] at h
    obtain ⟨q, hq, ⟨pc', coin'⟩, hmove, total', htotal, rfl⟩ := h
    have hquote := swapBaseInQuote_eq_ok hq
    obtain ⟨hin, hout⟩ := SwapDirection.move_eq_ok hmove
    have hrest := quoteEach_fees_le htotal
    obtain ⟨netRest, hnetRest⟩ := Nat.exists_eq_add_of_le' hrest
    have hnets : net = q.swapInAfterDeductFee.toNat + netRest := by
      have hfee : q.swapFee.toNat = fees.rounded amountIn.toNat := hquote.fee
      have hsplit := hquote.net
      simp only [List.map_cons, List.sum_cons] at hnet
      omega
    have hle := ih (by rw [hin]; exact Nat.add_pos_left hpos _) hnetRest.symm htotal
    rw [hin, hout, hquote.out] at hle
    -- the whole amount is added to the input reserve, and only its net part is paid for
    have hfees : outGivenIn (dir.reserveIn coin.toNat pc.toNat + amountIn.toNat)
        (dir.reserveOut coin.toNat pc.toNat - outGivenIn (dir.reserveIn coin.toNat pc.toNat)
          (dir.reserveOut coin.toNat pc.toNat) q.swapInAfterDeductFee.toNat) netRest ≤
        outGivenIn (dir.reserveIn coin.toNat pc.toNat + q.swapInAfterDeductFee.toNat)
          (dir.reserveOut coin.toNat pc.toNat - outGivenIn (dir.reserveIn coin.toNat pc.toNat)
            (dir.reserveOut coin.toNat pc.toNat) q.swapInAfterDeductFee.toNat) netRest := by
      refine outGivenIn_le_of_reserve_le (Nat.add_pos_left hpos _) (Nat.add_le_add_left ?_ _)
      have := hquote.net
      omega
    rw [hquote.out, hnets]
    exact (Nat.add_le_add_left (hle.trans hfees) _).trans (outGivenIn_add_le hpos)

/-- The fees of the parts reach the fee of the whole where none of them is rounded down to zero. -/
theorem Fees.rounded_sum_le {amounts : List U64} (hd : 0 < fees.swapFeeDenominator.toNat)
    (h : ∀ a ∈ amounts, fees.swapFeeNumerator.toNat = 0 ∨
      fees.swapFeeDenominator.toNat ≤ 2 * (a.toNat * fees.swapFeeNumerator.toNat)) :
    fees.rounded (amounts.map BitVec.toNat).sum ≤
      (amounts.map fun a => fees.rounded a.toNat).sum := by
  have hparts : ∀ p ∈ amounts.map fun a => a.toNat * fees.swapFeeNumerator.toNat,
      p ≤ softCeil p fees.swapFeeDenominator.toNat * fees.swapFeeDenominator.toNat := by
    intro p hp
    obtain ⟨a, ha, rfl⟩ := List.mem_map.mp hp
    rcases h a ha with hn | hhalf
    · rw [hn, Nat.mul_zero]
      exact Nat.zero_le _
    · refine le_softCeil_mul hd ?_
      rw [Ne, softCeil_eq_zero hd]
      omega
  have hsum := softCeil_sum_le hd _ hparts
  rw [List.sum_map_mul_right, List.map_map] at hsum
  exact hsum

/-- Amounts sold one after the other buy no more than their sum sold at once, where the fees of the
    parts sum to the fee of the whole or more. They do where no fee of a part is rounded down to
    zero. -/
theorem split_quote_le {amounts : List U64} {whole : U64} {total : ℕ}
    (hfee : fees.swapFeeNumerator.toNat < fees.swapFeeDenominator.toNat)
    (hin : 0 < dir.reserveIn coin.toNat pc.toNat)
    (hwhole : whole.toNat = (amounts.map BitVec.toNat).sum)
    (h : quoteEach fees dir amounts pc coin = .ok total) :
    ∃ q, swapBaseInQuote fees whole pc coin dir = .ok q ∧
      (q.swapFee.toNat ≤ (amounts.map fun a => fees.rounded a.toNat).sum →
        total ≤ q.swapAmountOut.toNat) ∧
      ((∀ a ∈ amounts, fees.swapFeeNumerator.toNat = 0 ∨
        fees.swapFeeDenominator.toNat ≤ 2 * (a.toNat * fees.swapFeeNumerator.toNat)) →
          total ≤ q.swapAmountOut.toNat) := by
  obtain ⟨q, hq⟩ : ∃ q, swapBaseInQuote fees whole pc coin dir = .ok q :=
    exists_swapBaseInQuote hfee hin
  have hquote := swapBaseInQuote_eq_ok hq
  have hle : q.swapFee.toNat ≤ (amounts.map fun a => fees.rounded a.toNat).sum →
      total ≤ q.swapAmountOut.toNat := by
    intro hfees
    obtain ⟨net, hnet⟩ := Nat.exists_eq_add_of_le' (quoteEach_fees_le h)
    rw [hquote.out]
    refine (quoteEach_le hin hnet.symm h).trans (outGivenIn_le_of_le hin ?_)
    have := hquote.net
    omega
  refine ⟨q, hq, hle, fun hparts => hle ?_⟩
  rw [hquote.fee, hwhole]
  exact Fees.rounded_sum_le (Nat.zero_lt_of_lt hfee) hparts

/-- Sales of 400 and 600 coin against 1000000 coin and 5000000 pc. -/
theorem split_quote_le_two :
    ∃ q, swapBaseInQuote Fees.init 1000 5000000 1000000 .coin2Pc = .ok q ∧
      (q.swapFee.toNat ≤ (([400, 600] : List U64).map fun a => Fees.init.rounded a.toNat).sum →
        4979 ≤ q.swapAmountOut.toNat) ∧
      ((∀ a ∈ ([400, 600] : List U64), Fees.init.swapFeeNumerator.toNat = 0 ∨
        Fees.init.swapFeeDenominator.toNat ≤ 2 * (a.toNat * Fees.init.swapFeeNumerator.toNat)) →
          4979 ≤ q.swapAmountOut.toNat) :=
  split_quote_le (by decide) (by decide) (by decide) (by rfl)

/-- Two sales of 199 coin pay no fee, and one sale of 398 coin does: against 1000000 coin and 10^12
    pc the split buys more. -/
theorem split_quote_pays :
    ∃ total q, quoteEach Fees.init .coin2Pc [199, 199] 1000000000000 1000000 = .ok total ∧
      swapBaseInQuote Fees.init 398 1000000000000 1000000 .coin2Pc = .ok q ∧
      q.swapAmountOut.toNat < total := by
  exact ⟨_, _, rfl, rfl, by decide⟩

end Split

end RaydiumAmm
