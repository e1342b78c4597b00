import RaydiumAmm.CeilDiv
import RaydiumAmm.Deposit
import RaydiumAmm.Swap
import RaydiumAmm.Withdraw

/-!
# Quotes

What the calculator returns, in natural numbers: the ceiling division is `softCeil`, the exact-in
quote is `outGivenIn` of the amount less its fee, the exact-out quote is a rounded cover with the
fee added, and the share prices are floors and rounded ceilings. A caller cites these lemmas and
does not unfold the calculator.
-/

namespace RaydiumAmm

open Rounding ConstantProduct
open Outcome (Avoids)

@[simp] theorem toNat_toU128 {a : U64} : (Calculator.toU128 a).toNat = a.toNat :=
  Checked.toNat_widen (by decide)

@[simp] theorem asU64_eq_ok {a : U128} {b : U64} : Calculator.asU64 a = .ok b ↔ b.toNat = a.toNat := by
  simp [Calculator.asU64, Checked.narrow_eq_some]

/-- A word of at most 64 bits is narrowed. -/
theorem asU64_of_lt {a : U128} (h : a.toNat < 2 ^ 64) :
    Calculator.asU64 a = .ok (a.setWidth 64) := by
  rw [Calculator.asU64, Checked.narrow, if_pos h]
  rfl

/-- A fee of 64 bits is kept by the conversion that an exact-in swap makes. -/
theorem asU64_toU128 (fee : U64) : Calculator.asU64 (Calculator.toU128 fee) = .ok fee :=
  asU64_eq_ok.mpr toNat_toU128.symm

/-! ## Division -/

/-- A ceiling division that returns has a positive divisor and the rounded quotient. -/
theorem checkedCeilDiv_eq_some {a b : U128} {p : U128 × U128} (h : checkedCeilDiv a b = some p) :
    0 < b.toNat ∧ p.1.toNat = softCeil a.toNat b.toNat := by
  rcases Nat.eq_zero_or_pos b.toNat with hb | hb
  · rw [checkedCeilDiv_of_zero hb] at h
    cases h
  refine ⟨hb, ?_⟩
  unfold softCeil
  rcases Nat.lt_or_ge a.toNat b.toNat with hlt | hle
  · rw [checkedCeilDiv_of_lt hlt] at h
    split at h
    next =>
      cases h
      rw [if_pos hlt]
      split <;> rfl
    next => cases h
  · obtain ⟨q, r, hdiv, hleast, -⟩ := checkedCeilDiv_covers hb hle
    rw [h] at hdiv
    cases hdiv
    rw [if_neg (Nat.not_lt_of_le hle), ← Nat.ceilDiv_eq_add_pred_div]
    exact hleast.unique (isLeast_ceilDiv hb)

/-- A ceiling division by a positive word below one half of the range returns. -/
theorem exists_checkedCeilDiv {a b : U128} (hb : 0 < b.toNat) (hlt : b.toNat < 2 ^ 127) :
    ∃ p, checkedCeilDiv a b = some p := by
  rw [← Option.ne_none_iff_exists']
  intro hnone
  rcases (checkedCeilDiv_isFair.fails a b).mp hnone with hzero | ⟨hsmall, htwice⟩
  · omega
  · omega

/-! ## Swap quotes -/

/-- The reserve that a swap pays into. -/
def SwapDirection.reserveIn (dir : SwapDirection) (coin pc : ℕ) : ℕ :=
  match dir with
  | .coin2Pc => coin
  | .pc2Coin => pc

/-- The reserve that a swap takes from. -/
def SwapDirection.reserveOut (dir : SwapDirection) (coin pc : ℕ) : ℕ :=
  match dir with
  | .coin2Pc => pc
  | .pc2Coin => coin

theorem swapTokenAmountBaseIn_eq_ok {amountIn pc coin out : U128} {dir : SwapDirection}
    (h : Calculator.swapTokenAmountBaseIn amountIn pc coin dir = .ok out) :
    0 < dir.reserveIn coin.toNat pc.toNat + amountIn.toNat ∧
      out.toNat = outGivenIn (dir.reserveIn coin.toNat pc.toNat)
        (dir.reserveOut coin.toNat pc.toNat) amountIn.toNat := by
  cases dir with
  | coin2Pc =>
    simp only [Calculator.swapTokenAmountBaseIn, Outcome.bind_eq_ok, Outcome.unwrap_eq_ok,
      Checked.add_eq_some, Checked.mul_eq_some, Checked.div_eq_some] at h
    obtain ⟨denominator, hd, product, hp, hne, hout⟩ := h
    refine ⟨?_, ?_⟩
    · simp only [SwapDirection.reserveIn]
      omega
    · simp only [SwapDirection.reserveIn, SwapDirection.reserveOut, outGivenIn, hout, hp, hd]
  | pc2Coin =>
    simp only [Calculator.swapTokenAmountBaseIn, Outcome.bind_eq_ok, Outcome.unwrap_eq_ok,
      Checked.add_eq_some, Checked.mul_eq_some, Checked.div_eq_some] at h
    obtain ⟨denominator, hd, product, hp, hne, hout⟩ := h
    refine ⟨?_, ?_⟩
    · simp only [SwapDirection.reserveIn]
      omega
    · simp only [SwapDirection.reserveIn, SwapDirection.reserveOut, outGivenIn, hout, hp, hd]

/-- An exact-in quote in natural numbers: `net` is the amount less its rounded fee. -/
structure BaseInQuoted (fees : Fees) (amountIn rin rout : ℕ) (q : SwapBaseInQuote) : Prop where
  denominator_pos : 0 < fees.swapFeeDenominator.toNat
  fee : q.swapFee.toNat =
    softCeil (amountIn * fees.swapFeeNumerator.toNat) fees.swapFeeDenominator.toNat
  net : amountIn = q.swapFee.toNat + q.swapInAfterDeductFee.toNat
  reserve_pos : 0 < rin + q.swapInAfterDeductFee.toNat
  out : q.swapAmountOut.toNat = outGivenIn rin rout q.swapInAfterDeductFee.toNat

theorem swapBaseInQuote_eq_ok {fees : Fees} {amountIn pc coin : U64} {dir : SwapDirection}
    {q : SwapBaseInQuote} (h : swapBaseInQuote fees amountIn pc coin dir = .ok q) :
    BaseInQuoted fees amountIn.toNat (dir.reserveIn coin.toNat pc.toNat)
      (dir.reserveOut coin.toNat pc.toNat) q := by
  simp only [swapBaseInQuote, Outcome.bind_eq_ok, Outcome.unwrap_eq_ok, Checked.mul_eq_some,
    Checked.sub_eq_some, asU64_eq_ok, Outcome.pure_eq_ok, toNat_toU128] at h
  obtain ⟨gross, hgross, fee, hfee, net, hnet, out, hout, amountOut, hamount, rfl⟩ := h
  obtain ⟨hd, hf⟩ := checkedCeilDiv_eq_some hfee
  obtain ⟨hpos, ho⟩ := swapTokenAmountBaseIn_eq_ok hout
  simp only [toNat_toU128] at hd hf hpos ho
  exact {
    denominator_pos := hd
    fee := by rw [hf, hgross]
    net := hnet
    reserve_pos := hpos
    out := by rw [hamount, ho]
  }

/-- The fee of an exact-in swap, as it is rounded. -/
def Fees.rounded (fees : Fees) (amountIn : ℕ) : ℕ :=
  softCeil (amountIn * fees.swapFeeNumerator.toNat) fees.swapFeeDenominator.toNat

/-- With a fee below one, the fee of every amount is computed and leaves a net amount. -/
theorem Fees.exists_fee {fees : Fees}
    (h : fees.swapFeeNumerator.toNat < fees.swapFeeDenominator.toNat)
    (amountIn : U64) :
    ∃ fee net : U128, fee.toNat = fees.rounded amountIn.toNat ∧
      amountIn.toNat = fee.toNat + net.toNat ∧
      ∀ pc coin dir, swapBaseInQuote fees amountIn pc coin dir = (do
        let out ← Calculator.swapTokenAmountBaseIn net (Calculator.toU128 pc)
          (Calculator.toU128 coin) dir
        let swapAmountOut ← Calculator.asU64 out
        return ⟨fee, net, swapAmountOut⟩) := by
  have hpos : 0 < fees.swapFeeDenominator.toNat := by omega
  have hdenominator := fees.swapFeeDenominator.isLt
  have hmul : (Calculator.toU128 amountIn).toNat *
      (Calculator.toU128 fees.swapFeeNumerator).toNat < 2 ^ 128 := by
    rw [toNat_toU128, toNat_toU128]
    exact lt_of_lt_of_le (Nat.mul_lt_mul'' amountIn.isLt fees.swapFeeNumerator.isLt) (by decide)
  obtain ⟨gross, hgross⟩ : ∃ gross, Checked.mul (Calculator.toU128 amountIn)
      (Calculator.toU128 fees.swapFeeNumerator) = some gross := ⟨_, if_pos hmul⟩
  obtain ⟨fee, hfee⟩ := exists_checkedCeilDiv (a := gross)
    (b := Calculator.toU128 fees.swapFeeDenominator) (by rwa [toNat_toU128])
    (by rw [toNat_toU128]; omega)
  have hvalue : fee.1.toNat = fees.rounded amountIn.toNat := by
    rw [(checkedCeilDiv_eq_some hfee).2, Checked.mul_eq_some.mp hgross, toNat_toU128, toNat_toU128,
      toNat_toU128]
    rfl
  have hle : fee.1.toNat ≤ amountIn.toNat := by
    rw [hvalue]
    exact softCeil_le hpos (Nat.mul_le_mul_left _ (Nat.le_of_lt h))
  obtain ⟨net, hnet⟩ : ∃ net, Checked.sub (Calculator.toU128 amountIn) fee.1 = some net :=
    ⟨_, if_pos (by rwa [toNat_toU128])⟩
  refine ⟨fee.1, net, hvalue, ?_, fun pc coin dir => ?_⟩
  · have hsplit := Checked.sub_eq_some.mp hnet
    rwa [toNat_toU128] at hsplit
  · simp only [swapBaseInQuote, hgross, hfee, hnet, Outcome.unwrap, Outcome.ok_bind]

theorem Fees.deducts_baseIn {fees : Fees}
    (h : fees.swapFeeNumerator.toNat < fees.swapFeeDenominator.toNat)
    (amountIn : U64) :
    ∃ fee net : U128, amountIn.toNat = fee.toNat + net.toNat ∧
      ∀ pc coin dir, swapBaseInQuote fees amountIn pc coin dir = (do
        let out ← Calculator.swapTokenAmountBaseIn net (Calculator.toU128 pc)
          (Calculator.toU128 coin) dir
        let swapAmountOut ← Calculator.asU64 out
        return ⟨fee, net, swapAmountOut⟩) := by
  obtain ⟨fee, net, -, hsplit, hquote⟩ := Fees.exists_fee h amountIn
  exact ⟨fee, net, hsplit, hquote⟩

/-- A net amount of 64 bits is quoted wherever the reserves allow a division. -/
theorem exists_swapTokenAmountBaseIn {net : U128} {pc coin : U64} {dir : SwapDirection}
    (hnet : net.toNat < 2 ^ 64) (hpos : 0 < dir.reserveIn coin.toNat pc.toNat + net.toNat) :
    ∃ out, Calculator.swapTokenAmountBaseIn net (Calculator.toU128 pc) (Calculator.toU128 coin)
      dir = .ok out := by
  have hsum : ∀ reserve : U64, ∃ sum, Checked.add (Calculator.toU128 reserve) net = some sum := by
    intro reserve
    refine ⟨_, if_pos ?_⟩
    have := reserve.isLt
    rw [toNat_toU128]
    omega
  have hproduct : ∀ reserve : U64,
      ∃ product, Checked.mul (Calculator.toU128 reserve) net = some product := by
    intro reserve
    refine ⟨_, if_pos ?_⟩
    rw [toNat_toU128]
    exact lt_of_lt_of_le (Nat.mul_lt_mul'' reserve.isLt hnet) (by decide)
  cases dir with
  | coin2Pc =>
    obtain ⟨sum, hadd⟩ := hsum coin
    obtain ⟨product, hmul⟩ := hproduct pc
    have hne : ¬sum.toNat = 0 := by
      rw [Checked.add_eq_some.mp hadd, toNat_toU128]
      exact Nat.ne_of_gt hpos
    exact ⟨product / sum, by
      simp only [Calculator.swapTokenAmountBaseIn, hadd, hmul, Outcome.unwrap, Outcome.ok_bind,
        Checked.div, if_neg hne]⟩
  | pc2Coin =>
    obtain ⟨sum, hadd⟩ := hsum pc
    obtain ⟨product, hmul⟩ := hproduct coin
    have hne : ¬sum.toNat = 0 := by
      rw [Checked.add_eq_some.mp hadd, toNat_toU128]
      exact Nat.ne_of_gt hpos
    exact ⟨product / sum, by
      simp only [Calculator.swapTokenAmountBaseIn, hadd, hmul, Outcome.unwrap, Outcome.ok_bind,
        Checked.div, if_neg hne]⟩

theorem SwapDirection.reserveOut_lt (dir : SwapDirection) (coin pc : U64) :
    dir.reserveOut coin.toNat pc.toNat < 2 ^ 64 := by
  cases dir with
  | coin2Pc => exact pc.isLt
  | pc2Coin => exact coin.isLt

/-- With a fee below one, an amount is quoted where its net part and the input reserve allow a
    division. -/
theorem exists_swapBaseInQuote_of_pos {fees : Fees} {amountIn pc coin : U64} {dir : SwapDirection}
    (h : fees.swapFeeNumerator.toNat < fees.swapFeeDenominator.toNat)
    (hpos : 0 < dir.reserveIn coin.toNat pc.toNat +
      (amountIn.toNat - fees.rounded amountIn.toNat)) :
    ∃ q, swapBaseInQuote fees amountIn pc coin dir = .ok q := by
  obtain ⟨fee, net, hfee, hsplit, hquote⟩ := Fees.exists_fee h amountIn
  have hnet : net.toNat < 2 ^ 64 := by
    have := amountIn.isLt
    omega
  have hsum : 0 < dir.reserveIn coin.toNat pc.toNat + net.toNat := by omega
  obtain ⟨out, hout⟩ := exists_swapTokenAmountBaseIn hnet hsum
  -- the output is part of a reserve of 64 bits
  have hfits : out.toNat < 2 ^ 64 := by
    obtain ⟨-, hvalue⟩ := swapTokenAmountBaseIn_eq_ok hout
    rw [hvalue, toNat_toU128, toNat_toU128]
    exact lt_of_le_of_lt outGivenIn_le (dir.reserveOut_lt coin pc)
  exact ⟨_, by rw [hquote, hout, Outcome.ok_bind, asU64_of_lt hfits]; rfl⟩

/-- With a fee below one and a positive input reserve, every amount is quoted. -/
theorem exists_swapBaseInQuote {fees : Fees} {amountIn pc coin : U64} {dir : SwapDirection}
    (h : fees.swapFeeNumerator.toNat < fees.swapFeeDenominator.toNat)
    (hpos : 0 < dir.reserveIn coin.toNat pc.toNat) :
    ∃ q, swapBaseInQuote fees amountIn pc coin dir = .ok q :=
  exists_swapBaseInQuote_of_pos h (Nat.add_pos_left hpos _)

/-- A quote aborts or is given: it has no error of its own. -/
theorem swapBaseInQuote_avoids {e : ProgramError} (fees : Fees) (amountIn pc coin : U64)
    (dir : SwapDirection) : Avoids e (swapBaseInQuote fees amountIn pc coin dir) := by
  refine (Avoids.unwrap _).bind fun _ _ => (Avoids.unwrap _).bind fun _ _ =>
    (Avoids.unwrap _).bind fun _ _ => Avoids.bind ?_ fun _ _ => (Avoids.unwrap _).bind fun _ _ =>
      Avoids.of_ok _
  cases dir with
  | coin2Pc =>
    exact (Avoids.unwrap _).bind fun _ _ => (Avoids.unwrap _).bind fun _ _ => Avoids.unwrap _
  | pc2Coin =>
    exact (Avoids.unwrap _).bind fun _ _ => (Avoids.unwrap _).bind fun _ _ => Avoids.unwrap _

theorem swapTokenAmountBaseOut_eq_ok {amountOut pc coin net : U128} {dir : SwapDirection}
    (h : Calculator.swapTokenAmountBaseOut amountOut pc coin dir = .ok net) :
    amountOut.toNat < dir.reserveOut coin.toNat pc.toNat ∧
      net.toNat = softCeil (dir.reserveIn coin.toNat pc.toNat * amountOut.toNat)
        (dir.reserveOut coin.toNat pc.toNat - amountOut.toNat) := by
  cases dir with
  | coin2Pc =>
    simp only [Calculator.swapTokenAmountBaseOut, Outcome.bind_eq_ok, Outcome.unwrap_eq_ok,
      Checked.sub_eq_some, Checked.mul_eq_some, Outcome.pure_eq_ok] at h
    obtain ⟨denominator, hd, product, hp, quotient, hq, rfl⟩ := h
    obtain ⟨hpos, hnet⟩ := checkedCeilDiv_eq_some hq
    have hden : denominator.toNat = pc.toNat - amountOut.toNat := by omega
    refine ⟨?_, ?_⟩
    · simp only [SwapDirection.reserveOut]
      omega
    · simp only [SwapDirection.reserveIn, SwapDirection.reserveOut, hnet, hp, hden]
  | pc2Coin =>
    simp only [Calculator.swapTokenAmountBaseOut, Outcome.bind_eq_ok, Outcome.unwrap_eq_ok,
      Checked.sub_eq_some, Checked.mul_eq_some, Outcome.pure_eq_ok] at h
    obtain ⟨denominator, hd, product, hp, quotient, hq, rfl⟩ := h
    obtain ⟨hpos, hnet⟩ := checkedCeilDiv_eq_some hq
    have hden : denominator.toNat = coin.toNat - amountOut.toNat := by omega
    refine ⟨?_, ?_⟩
    · simp only [SwapDirection.reserveOut]
      omega
    · simp only [SwapDirection.reserveIn, SwapDirection.reserveOut, hnet, hp, hden]

/-- An exact-out quote in natural numbers: `net` covers the output, `gross` is `net` with the
    fee. -/
structure BaseOutQuoted (fees : Fees) (amountOut rin rout : ℕ) (q : SwapBaseOutQuote) : Prop where
  fee_lt : fees.swapFeeNumerator.toNat < fees.swapFeeDenominator.toNat
  out_lt : amountOut < rout
  net : q.swapInBeforeAddFee.toNat = softCeil (rin * amountOut) (rout - amountOut)
  gross : q.swapInAfterAddFee.toNat =
    softCeil (q.swapInBeforeAddFee.toNat * fees.swapFeeDenominator.toNat)
      (fees.swapFeeDenominator.toNat - fees.swapFeeNumerator.toNat)
  fee : q.swapInAfterAddFee.toNat = q.swapInBeforeAddFee.toNat + q.swapFee.toNat

theorem swapBaseOutQuote_eq_ok {fees : Fees} {amountOut pc coin : U64} {dir : SwapDirection}
    {q : SwapBaseOutQuote} (h : swapBaseOutQuote fees amountOut pc coin dir = .ok q) :
    BaseOutQuoted fees amountOut.toNat (dir.reserveIn coin.toNat pc.toNat)
      (dir.reserveOut coin.toNat pc.toNat) q := by
  simp only [swapBaseOutQuote, Outcome.bind_eq_ok, Outcome.unwrap_eq_ok, Checked.mul_eq_some,
    Checked.sub_eq_some, asU64_eq_ok, Outcome.pure_eq_ok, toNat_toU128] at h
  obtain ⟨before, hbefore, gross, hgross, share, hshare, quotient, hq, after, hafter, net, hnet,
    fee, hfee, rfl⟩ := h
  obtain ⟨hlt, hb⟩ := swapTokenAmountBaseOut_eq_ok hbefore
  obtain ⟨hpos, hg⟩ := checkedCeilDiv_eq_some hq
  simp only [toNat_toU128] at hlt hb hpos hg
  have hs : share.toNat = fees.swapFeeDenominator.toNat - fees.swapFeeNumerator.toNat := by omega
  exact {
    fee_lt := by omega
    out_lt := hlt
    net := hb
    gross := by simp only [hafter, hg, hgross, hs]
    fee := by simp only [hfee, hnet]
  }

/-- The net amount for an output below its reserve is computed. -/
theorem exists_swapTokenAmountBaseOut {amountOut : U128} {pc coin : U64} {dir : SwapDirection}
    (h : amountOut.toNat < dir.reserveOut coin.toNat pc.toNat) :
    ∃ net, Calculator.swapTokenAmountBaseOut amountOut (Calculator.toU128 pc)
      (Calculator.toU128 coin) dir = .ok net := by
  have hsteps : ∀ rin rout : U64, amountOut.toNat < rout.toNat → ∃ denominator product quotient,
      Checked.sub (Calculator.toU128 rout) amountOut = some denominator ∧
      Checked.mul (Calculator.toU128 rin) amountOut = some product ∧
      checkedCeilDiv product denominator = some quotient := by
    intro rin rout hlt
    have hrout := rout.isLt
    obtain ⟨denominator, hsub⟩ : ∃ denominator,
        Checked.sub (Calculator.toU128 rout) amountOut = some denominator :=
      ⟨_, if_pos (by rw [toNat_toU128]; exact Nat.le_of_lt hlt)⟩
    have hden := Checked.sub_eq_some.mp hsub
    rw [toNat_toU128] at hden
    obtain ⟨product, hmul⟩ : ∃ product,
        Checked.mul (Calculator.toU128 rin) amountOut = some product := by
      refine ⟨_, if_pos ?_⟩
      rw [toNat_toU128]
      exact lt_of_lt_of_le (Nat.mul_lt_mul'' rin.isLt (hlt.trans hrout)) (by decide)
    obtain ⟨quotient, hquotient⟩ :=
      exists_checkedCeilDiv (a := product) (b := denominator) (by omega) (by omega)
    exact ⟨denominator, product, quotient, hsub, hmul, hquotient⟩
  cases dir with
  | coin2Pc =>
    obtain ⟨denominator, product, quotient, hsub, hmul, hquotient⟩ := hsteps coin pc h
    exact ⟨quotient.1, by simp only [Calculator.swapTokenAmountBaseOut, hsub, hmul, hquotient,
      Outcome.unwrap, Outcome.ok_bind]; rfl⟩
  | pc2Coin =>
    obtain ⟨denominator, product, quotient, hsub, hmul, hquotient⟩ := hsteps pc coin h
    exact ⟨quotient.1, by simp only [Calculator.swapTokenAmountBaseOut, hsub, hmul, hquotient,
      Outcome.unwrap, Outcome.ok_bind]; rfl⟩

/-- What an exact-out swap requires of the input side, fee included. -/
def Fees.required (fees : Fees) (rin rout amountOut : ℕ) : ℕ :=
  softCeil (softCeil (rin * amountOut) (rout - amountOut) * fees.swapFeeDenominator.toNat)
    (fees.swapFeeDenominator.toNat - fees.swapFeeNumerator.toNat)

theorem BaseOutQuoted.required {fees : Fees} {amountOut rin rout : ℕ} {q : SwapBaseOutQuote}
    (h : BaseOutQuoted fees amountOut rin rout q) :
    q.swapInAfterAddFee.toNat = fees.required rin rout amountOut := by
  rw [h.gross, h.net]
  rfl

/-- With a fee below one, an output is quoted exactly where it is below its reserve and what it
    requires has 64 bits. -/
theorem exists_swapBaseOutQuote_iff {fees : Fees} {amountOut pc coin : U64} {dir : SwapDirection}
    (h : fees.swapFeeNumerator.toNat < fees.swapFeeDenominator.toNat) :
    (∃ q, swapBaseOutQuote fees amountOut pc coin dir = .ok q) ↔
      amountOut.toNat < dir.reserveOut coin.toNat pc.toNat ∧
        fees.required (dir.reserveIn coin.toNat pc.toNat) (dir.reserveOut coin.toNat pc.toNat)
          amountOut.toNat < 2 ^ 64 := by
  constructor
  · rintro ⟨q, hq⟩
    have hquoted := swapBaseOutQuote_eq_ok hq
    refine ⟨hquoted.out_lt, ?_⟩
    rw [← hquoted.required]
    exact q.swapInAfterAddFee.isLt
  · rintro ⟨hlt, hfits⟩
    have hd := fees.swapFeeDenominator.isLt
    obtain ⟨net, hnet⟩ : ∃ net, Calculator.swapTokenAmountBaseOut (Calculator.toU128 amountOut)
        (Calculator.toU128 pc) (Calculator.toU128 coin) dir = .ok net :=
      exists_swapTokenAmountBaseOut (by rwa [toNat_toU128])
    obtain ⟨-, hvalue⟩ := swapTokenAmountBaseOut_eq_ok hnet
    simp only [toNat_toU128] at hvalue
    rw [Fees.required, ← hvalue] at hfits
    -- the fee only adds to the net amount, so that one has 64 bits as well
    have hle : net.toNat ≤ softCeil (net.toNat * fees.swapFeeDenominator.toNat)
        (fees.swapFeeDenominator.toNat - fees.swapFeeNumerator.toNat) :=
      le_softCeil_mul_div (Nat.sub_pos_of_lt h) (Nat.sub_le _ _)
    obtain ⟨gross, hgross⟩ : ∃ gross,
        Checked.mul net (Calculator.toU128 fees.swapFeeDenominator) = some gross := by
      refine ⟨_, if_pos ?_⟩
      rw [toNat_toU128]
      exact lt_of_lt_of_le (Nat.mul_lt_mul'' (hle.trans_lt hfits) hd) (by decide)
    obtain ⟨share, hshare⟩ : ∃ share,
        Checked.sub fees.swapFeeDenominator fees.swapFeeNumerator = some share :=
      ⟨_, if_pos (Nat.le_of_lt h)⟩
    have hshareValue : share.toNat =
        fees.swapFeeDenominator.toNat - fees.swapFeeNumerator.toNat := by
      have := Checked.sub_eq_some.mp hshare
      omega
    obtain ⟨quotient, hquotient⟩ := exists_checkedCeilDiv (a := gross)
      (b := Calculator.toU128 share) (by rw [toNat_toU128]; omega) (by rw [toNat_toU128]; omega)
    have hafter : quotient.1.toNat = softCeil (net.toNat * fees.swapFeeDenominator.toNat)
        (fees.swapFeeDenominator.toNat - fees.swapFeeNumerator.toNat) := by
      rw [(checkedCeilDiv_eq_some hquotient).2, Checked.mul_eq_some.mp hgross, toNat_toU128,
        toNat_toU128, hshareValue]
    obtain ⟨after, hnarrow⟩ : ∃ after, Calculator.asU64 quotient.1 = .ok after :=
      ⟨_, asU64_of_lt (hafter ▸ hfits)⟩
    obtain ⟨before, hbefore⟩ : ∃ before, Calculator.asU64 net = .ok before :=
      ⟨_, asU64_of_lt (hle.trans_lt hfits)⟩
    obtain ⟨fee, hfee⟩ : ∃ fee, Checked.sub after before = some fee := by
      refine ⟨_, if_pos ?_⟩
      rw [asU64_eq_ok.mp hnarrow, asU64_eq_ok.mp hbefore, hafter]
      exact hle
    exact ⟨⟨net, after, fee⟩, by
      simp only [swapBaseOutQuote, hnet, hgross, hshare, hquotient, hnarrow, hbefore, hfee,
        Outcome.unwrap, Outcome.ok_bind]; rfl⟩

theorem swapBaseOutQuote_avoids {e : ProgramError} (fees : Fees) (amountOut pc coin : U64)
    (dir : SwapDirection) : Avoids e (swapBaseOutQuote fees amountOut pc coin dir) := by
  refine Avoids.bind ?_ fun _ _ => (Avoids.unwrap _).bind fun _ _ =>
    (Avoids.unwrap _).bind fun _ _ => (Avoids.unwrap _).bind fun _ _ =>
      (Avoids.unwrap _).bind fun _ _ => (Avoids.unwrap _).bind fun _ _ =>
        (Avoids.unwrap _).bind fun _ _ => Avoids.of_ok _
  cases dir with
  | coin2Pc =>
    exact (Avoids.unwrap _).bind fun _ _ => (Avoids.unwrap _).bind fun _ _ =>
      (Avoids.unwrap _).bind fun _ _ => Avoids.of_ok _
  | pc2Coin =>
    exact (Avoids.unwrap _).bind fun _ _ => (Avoids.unwrap _).bind fun _ _ =>
      (Avoids.unwrap _).bind fun _ _ => Avoids.of_ok _

/-- A gross amount other than 0 leaves the fee its full share. -/
theorem BaseOutQuoted.fee_share {fees : Fees} {amountOut rin rout : ℕ} {q : SwapBaseOutQuote}
    (h : BaseOutQuoted fees amountOut rin rout q) (hne : q.swapInAfterAddFee.toNat ≠ 0) :
    (q.swapInAfterAddFee.toNat - q.swapInBeforeAddFee.toNat) * fees.swapFeeDenominator.toNat ≥
      q.swapInAfterAddFee.toNat * fees.swapFeeNumerator.toNat := by
  have hlt := h.fee_lt
  have hcover := le_softCeil_mul
    (a := q.swapInBeforeAddFee.toNat * fees.swapFeeDenominator.toNat)
    (b := fees.swapFeeDenominator.toNat - fees.swapFeeNumerator.toNat) (by omega)
    (by rw [← h.gross]; exact hne)
  rw [← h.gross, Nat.mul_sub] at hcover
  have hle : q.swapInAfterAddFee.toNat * fees.swapFeeNumerator.toNat ≤
      q.swapInAfterAddFee.toNat * fees.swapFeeDenominator.toNat :=
    Nat.mul_le_mul_left _ (Nat.le_of_lt hlt)
  rw [Nat.sub_mul]
  omega

/-- A gross amount other than 0 covers the product for the output. -/
theorem BaseOutQuoted.cover {fees : Fees} {amountOut rin rout : ℕ} {q : SwapBaseOutQuote}
    (h : BaseOutQuoted fees amountOut rin rout q) (hne : q.swapInAfterAddFee.toNat ≠ 0) :
    rin * amountOut ≤ q.swapInBeforeAddFee.toNat * (rout - amountOut) ∧
      q.swapInBeforeAddFee.toNat ≤ q.swapInAfterAddFee.toNat := by
  have hlt := h.out_lt
  have hnet : q.swapInBeforeAddFee.toNat ≠ 0 := by
    intro h0
    apply hne
    rw [h.gross, h0, Nat.zero_mul, softCeil_eq_zero (by have := h.fee_lt; omega)]
    have := h.fee_lt
    omega
  refine ⟨?_, by have := h.fee; omega⟩
  rw [h.net]
  exact le_softCeil_mul (by omega) (by rw [← h.net]; exact hnet)

/-! ## Share prices -/

/-- A quotient as the exchange functions round it. -/
def RoundDirection.rounded (r : RoundDirection) (a b : ℕ) : ℕ :=
  match r with
  | .floor => a / b
  | .ceiling => softCeil a b

/-- The body of the exchange functions returns exactly the rounded quotient. -/
theorem exchange_eq_ok_iff {amount numerator denominator : U64} {r : RoundDirection}
    {o : Option U64} :
    exchange amount numerator denominator r = .ok o ↔
      ∃ q : U64, o = some q ∧ 0 < denominator.toNat ∧
        q.toNat = r.rounded (amount.toNat * numerator.toNat) denominator.toNat := by
  constructor
  · intro h
    simp only [exchange, Outcome.bind_eq_ok, Outcome.unwrap_eq_ok, Checked.mul_eq_some,
      toNat_toU128] at h
    obtain ⟨product, hp, h⟩ := h
    cases r with
    | floor =>
      simp only [Outcome.bind_eq_ok, Outcome.unwrap_eq_ok, Checked.div_eq_some, asU64_eq_ok,
        Outcome.pure_eq_ok, toNat_toU128] at h
      obtain ⟨quotient, ⟨hne, hq⟩, ret, hret, rfl⟩ := h
      exact ⟨ret, rfl, Nat.pos_of_ne_zero hne, by rw [hret, hq, hp]; rfl⟩
    | ceiling =>
      simp only [Outcome.bind_eq_ok, Outcome.unwrap_eq_ok, asU64_eq_ok, Outcome.pure_eq_ok] at h
      obtain ⟨quotient, hq, ret, hret, rfl⟩ := h
      obtain ⟨hpos, hc⟩ := checkedCeilDiv_eq_some hq
      simp only [toNat_toU128] at hpos hc
      exact ⟨ret, rfl, hpos, by rw [hret, hc, hp]; rfl⟩
  · rintro ⟨q, rfl, hpos, hq⟩
    obtain ⟨product, hproduct⟩ : ∃ product, Checked.mul (Calculator.toU128 amount)
        (Calculator.toU128 numerator) = some product := by
      refine ⟨_, if_pos ?_⟩
      rw [toNat_toU128, toNat_toU128]
      exact lt_of_lt_of_le (Nat.mul_lt_mul'' amount.isLt numerator.isLt) (by decide)
    have hvalue := Checked.mul_eq_some.mp hproduct
    rw [toNat_toU128, toNat_toU128] at hvalue
    rw [← hvalue] at hq
    cases r with
    | floor =>
      obtain ⟨quotient, hquotient⟩ : ∃ quotient,
          Checked.div product (Calculator.toU128 denominator) = some quotient :=
        ⟨_, if_neg (by rw [toNat_toU128]; exact Nat.ne_of_gt hpos)⟩
      have hdiv := (Checked.div_eq_some.mp hquotient).2
      rw [toNat_toU128] at hdiv
      have hnarrow : Calculator.asU64 quotient = .ok q := asU64_eq_ok.mpr (by rw [hq, hdiv]; rfl)
      simp only [exchange, hproduct, hquotient, hnarrow, Outcome.unwrap, Outcome.ok_bind]
      rfl
    | ceiling =>
      have hd := denominator.isLt
      obtain ⟨quotient, hquotient⟩ := exists_checkedCeilDiv (a := product)
        (b := Calculator.toU128 denominator) (by rwa [toNat_toU128]) (by rw [toNat_toU128]; omega)
      have hdiv := (checkedCeilDiv_eq_some hquotient).2
      rw [toNat_toU128] at hdiv
      have hnarrow : Calculator.asU64 quotient.1 = .ok q :=
        asU64_eq_ok.mpr (by rw [hq, hdiv]; rfl)
      simp only [exchange, hproduct, hquotient, hnarrow, Outcome.unwrap, Outcome.ok_bind]
      rfl

/-- An exchange aborts or is given: it has no error of its own. -/
theorem exchange_avoids {e : ProgramError} (amount numerator denominator : U64)
    (r : RoundDirection) : Avoids e (exchange amount numerator denominator r) := by
  refine (Avoids.unwrap _).bind fun _ _ => ?_
  cases r with
  | floor =>
    exact (Avoids.unwrap _).bind fun _ _ => (Avoids.unwrap _).bind fun _ _ => Avoids.of_ok _
  | ceiling =>
    exact (Avoids.unwrap _).bind fun _ _ => (Avoids.unwrap _).bind fun _ _ => Avoids.of_ok _

/-- A rounded quotient of 64 bits is returned. -/
theorem exists_exchange {amount numerator denominator : U64} {r : RoundDirection}
    (hpos : 0 < denominator.toNat)
    (hfits : r.rounded (amount.toNat * numerator.toNat) denominator.toNat < 2 ^ 64) :
    ∃ q : U64, exchange amount numerator denominator r = .ok (some q) ∧
      q.toNat = r.rounded (amount.toNat * numerator.toNat) denominator.toNat := by
  obtain ⟨q, hq⟩ := Checked.exists_toNat_eq hfits
  exact ⟨q, exchange_eq_ok_iff.mpr ⟨q, rfl, hpos, hq⟩, hq⟩

/-- Everything else aborts. -/
theorem exchange_eq_panic {amount numerator denominator : U64} {r : RoundDirection}
    (h : ¬(0 < denominator.toNat ∧
      r.rounded (amount.toNat * numerator.toNat) denominator.toNat < 2 ^ 64)) :
    exchange amount numerator denominator r = Outcome.panic := by
  rcases Avoids.ok_or_panic fun _ => exchange_avoids amount numerator denominator r
    with ⟨o, ho⟩ | hpanic
  · obtain ⟨q, -, hpos, hq⟩ := exchange_eq_ok_iff.mp ho
    exact absurd ⟨hpos, hq ▸ q.isLt⟩ h
  · exact hpanic

/-- A share of at most one is computed. -/
theorem exists_exchange_floor {amount numerator denominator : U64}
    (hpos : 0 < denominator.toNat) (hle : numerator.toNat ≤ denominator.toNat) :
    ∃ q, exchange amount numerator denominator .floor = .ok (some q) := by
  -- the share is no more than the amount, which has 64 bits
  have hfits : amount.toNat * numerator.toNat / denominator.toNat < 2 ^ 64 := by
    refine lt_of_le_of_lt (Nat.div_le_of_le_mul ?_) amount.isLt
    rw [Nat.mul_comm denominator.toNat]
    exact Nat.mul_le_mul_left _ hle
  obtain ⟨q, hq, -⟩ := exists_exchange (r := .floor) hpos hfits
  exact ⟨q, hq⟩

/-- The payouts of a withdraw are the floored shares of the totals. -/
theorem withdrawAmounts_eq_ok {amount lp coin pc : U64} {p : U64 × U64}
    (h : withdrawAmounts amount lp coin pc = .ok p) :
    0 < lp.toNat ∧ p.1.toNat = coin.toNat * amount.toNat / lp.toNat ∧
      p.2.toNat = pc.toNat * amount.toNat / lp.toNat := by
  simp only [withdrawAmounts, InvariantPool.exchangePoolToToken, Outcome.bind_eq_ok,
    Outcome.okOr_eq_ok, Outcome.pure_eq_ok] at h
  obtain ⟨coinOpt, hcoin, coinAmount, rfl, pcOpt, hpc, pcAmount, rfl, rfl⟩ := h
  obtain ⟨c, hc, hlp, hcq⟩ := exchange_eq_ok_iff.mp hcoin
  obtain ⟨p, hp, -, hpq⟩ := exchange_eq_ok_iff.mp hpc
  cases hc
  cases hp
  exact ⟨hlp, hcq, hpq⟩

/-- A part of the shares is paid out. -/
theorem exists_withdrawAmounts {amount lp : U64} (h : amount < lp) (coin pc : U64) :
    ∃ p, withdrawAmounts amount lp coin pc = .ok p := by
  have hlt : amount.toNat < lp.toNat := BitVec.lt_def.mp h
  have hshare : ∀ total, ∃ q, exchange total amount lp .floor = .ok (some q) := fun _ =>
    exists_exchange_floor (Nat.zero_lt_of_lt hlt) (Nat.le_of_lt hlt)
  obtain ⟨coinAmount, hcoin⟩ := hshare coin
  obtain ⟨pcAmount, hpc⟩ := hshare pc
  refine ⟨(coinAmount, pcAmount), ?_⟩
  simp only [withdrawAmounts, InvariantPool.exchangePoolToToken, hcoin, hpc, Outcome.ok_bind,
    Outcome.okOr]
  rfl

/-- The amounts of a deposit: the base side gives its maximum, the other side its rounded price,
    and the mint is the floored share that the base side pays for. -/
structure DepositPriced (deposit : DepositInstruction) (lp pc coin : U64) (d : DepositAmounts) :
    Prop where
  coin_pos : deposit.baseSide = 0 → 0 < coin.toNat
  pc_pos : deposit.baseSide ≠ 0 → 0 < pc.toNat
  base_coin : deposit.baseSide = 0 →
    d.deductCoinAmount = deposit.maxCoinAmount ∧
      d.deductPcAmount.toNat = softCeil (deposit.maxCoinAmount.toNat * pc.toNat) coin.toNat ∧
      d.mintLpAmount.toNat = lp.toNat * d.deductCoinAmount.toNat / coin.toNat
  base_pc : deposit.baseSide ≠ 0 →
    d.deductPcAmount = deposit.maxPcAmount ∧
      d.deductCoinAmount.toNat = softCeil (deposit.maxPcAmount.toNat * coin.toNat) pc.toNat ∧
      d.mintLpAmount.toNat = lp.toNat * d.deductPcAmount.toNat / pc.toNat

theorem depositAmounts_eq_ok {deposit : DepositInstruction} {lp pc coin : U64}
    {d : DepositAmounts} (h : depositAmounts deposit lp pc coin = .ok d) :
    DepositPriced deposit lp pc coin d := by
  simp only [depositAmounts, InvariantToken.exchangeCoinToPc, InvariantToken.exchangePcToCoin,
    InvariantPool.exchangeTokenToPool] at h
  rcases Outcome.ite_eq_ok.mp h with ⟨hside, h⟩ | ⟨hside, h⟩
  · simp only [Outcome.bind_eq_ok, Outcome.okOr_eq_ok, Outcome.pure_eq_ok] at h
    obtain ⟨exchanged, hx, deductPc, rfl, -, -, -, -, minted, hm, mint, rfl, rfl⟩ := h
    obtain ⟨q, hq, hpos, hqv⟩ := exchange_eq_ok_iff.mp hx
    obtain ⟨r, hr, -, hrv⟩ := exchange_eq_ok_iff.mp hm
    cases hq
    cases hr
    exact {
      coin_pos := fun _ => hpos
      pc_pos := fun hne => absurd hside hne
      base_coin := fun _ => ⟨rfl, hqv, hrv⟩
      base_pc := fun hne => absurd hside hne
    }
  · simp only [Outcome.bind_eq_ok, Outcome.okOr_eq_ok, Outcome.pure_eq_ok] at h
    obtain ⟨exchanged, hx, deductCoin, rfl, -, -, -, -, minted, hm, mint, rfl, rfl⟩ := h
    obtain ⟨q, hq, hpos, hqv⟩ := exchange_eq_ok_iff.mp hx
    obtain ⟨r, hr, -, hrv⟩ := exchange_eq_ok_iff.mp hm
    cases hq
    cases hr
    exact {
      coin_pos := fun heq => absurd heq hside
      pc_pos := fun _ => hpos
      base_coin := fun heq => absurd heq hside
      base_pc := fun _ => ⟨rfl, hqv, hrv⟩
    }

/-! ## Totals -/

/-- A normalized amount: the unit of its token has 128 bits, and the quotient is rounded down. -/
theorem normalizeDecimalV2_eq_ok {val nativeDecimal sysDecimalValue : U64} {x : U128} :
    Calculator.normalizeDecimalV2 val nativeDecimal sysDecimalValue = .ok x ↔
      10 ^ nativeDecimal.toNat < 2 ^ 128 ∧
        x.toNat = val.toNat * sysDecimalValue.toNat / 10 ^ nativeDecimal.toNat := by
  have hten : (10 : U128).toNat = 10 := by decide
  simp only [Calculator.normalizeDecimalV2, Outcome.bind_eq_ok, Outcome.unwrap_eq_ok,
    Checked.mul_eq_some, Checked.pow_eq_some, Checked.div_eq_some, toNat_toU128, hten]
  constructor
  · rintro ⟨product, hproduct, unit, hunit, -, hx⟩
    exact ⟨hunit ▸ unit.isLt, by rw [hx, hproduct, hunit]⟩
  · rintro ⟨hlt, hx⟩
    obtain ⟨product, hproduct⟩ : ∃ a : U128, a.toNat = val.toNat * sysDecimalValue.toNat :=
      Checked.exists_toNat_eq
        (lt_of_lt_of_le (Nat.mul_lt_mul'' val.isLt sysDecimalValue.isLt) (by decide))
    obtain ⟨unit, hunit⟩ : ∃ a : U128, a.toNat = 10 ^ nativeDecimal.toNat :=
      Checked.exists_toNat_eq hlt
    have hne : unit.toNat ≠ 0 := by
      rw [hunit]
      exact Nat.ne_of_gt (Nat.pow_pos (by decide))
    exact ⟨product, hproduct, unit, hunit, hne, by rw [hx, hproduct, hunit]⟩

/-- A total is normalized where the unit of its token has 128 bits, and aborts elsewhere. -/
theorem exists_normalizeDecimalV2 (val nativeDecimal sysDecimalValue : U64) :
    (∃ x, Calculator.normalizeDecimalV2 val nativeDecimal sysDecimalValue = .ok x) ↔
      10 ^ nativeDecimal.toNat < 2 ^ 128 := by
  constructor
  · rintro ⟨x, h⟩
    exact (normalizeDecimalV2_eq_ok.mp h).1
  · intro hlt
    have hfits : val.toNat * sysDecimalValue.toNat / 10 ^ nativeDecimal.toNat < 2 ^ 128 :=
      lt_of_le_of_lt (Nat.div_le_self _ _)
        (lt_of_lt_of_le (Nat.mul_lt_mul'' val.isLt sysDecimalValue.isLt) (by decide))
    obtain ⟨x, hx⟩ := Checked.exists_toNat_eq hfits
    exact ⟨x, normalizeDecimalV2_eq_ok.mpr ⟨hlt, hx⟩⟩

theorem normalizeDecimalV2_avoids {e : ProgramError} (val nativeDecimal sysDecimalValue : U64) :
    Avoids e (Calculator.normalizeDecimalV2 val nativeDecimal sysDecimalValue) :=
  (Avoids.unwrap _).bind fun _ _ => (Avoids.unwrap _).bind fun _ _ => Avoids.unwrap _

/-- Without the order book, the totals are the vault amounts less the pending profit. -/
theorem calcTotalNoOrderbook_eq_ok {pc coin : U64} {amm : AmmInfo} {t : U64 × U64}
    (h : Calculator.calcTotalWithoutTakePnlNoOrderbook pc coin amm = .ok t) :
    pc.toNat = amm.stateData.needTakePnlPc.toNat + t.1.toNat ∧
      coin.toNat = amm.stateData.needTakePnlCoin.toNat + t.2.toNat := by
  simp only [Calculator.calcTotalWithoutTakePnlNoOrderbook, Outcome.bind_eq_ok,
    Outcome.okOr_eq_ok, Checked.sub_eq_some, Outcome.pure_eq_ok] at h
  obtain ⟨totalPc, hpc, totalCoin, hcoin, rfl⟩ := h
  exact ⟨hpc, hcoin⟩

/-- With the order book, the exchange's totals `s` are added. -/
theorem calcTotal_eq_ok {pc coin : U64} {openOrders : OpenOrders} {amm : AmmInfo}
    {eventQ : List Event} {key : Pubkey} {t : U64 × U64}
    (h : Calculator.calcTotalWithoutTakePnl pc coin openOrders amm eventQ key = .ok t) :
    ∃ s, Calculator.calcExactVaultInSerum openOrders eventQ key = .ok s ∧
      pc.toNat + s.1.toNat = amm.stateData.needTakePnlPc.toNat + t.1.toNat ∧
      coin.toNat + s.2.toNat = amm.stateData.needTakePnlCoin.toNat + t.2.toNat := by
  simp only [Calculator.calcTotalWithoutTakePnl, Outcome.bind_eq_ok, Outcome.okOr_eq_ok,
    Checked.sub_eq_some, Checked.add_eq_some, Outcome.pure_eq_ok] at h
  obtain ⟨s, hs, pcSum, hpcSum, totalPc, hpc, coinSum, hcoinSum, totalCoin, hcoin, rfl⟩ := h
  refine ⟨s, hs, ?_, ?_⟩
  · dsimp only
    omega
  · dsimp only
    omega

end RaydiumAmm
