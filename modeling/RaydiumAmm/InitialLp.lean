import Mathlib.Data.Nat.Sqrt
import RaydiumAmm.Initialize
import RaydiumAmm.Quotes

/-!
# The initial LP amount

A new pool mints the integer square root of the product of its deposits, found by Newton's method
from above.

1. One Newton step over the naturals: it never falls below the root, and where it does not
   decrease the root is reached.
2. `newtonLoop_eq_sqrt`: the loop of the handler, by induction over its guesses.
3. `initial_lp_exact`: the amount for all deposits.
-/

/-! ## 1. A Newton step -/

namespace Newton

variable {p y : ℕ}

/-- The mean of a guess and its cofactor is at least the root. -/
theorem sqrt_le_step (hy : 0 < y) : Nat.sqrt p ≤ (y + p / y) / 2 := by
  have hcofactor : 2 * Nat.sqrt p - y ≤ p / y := by
    rw [Nat.le_div_iff_mul_le hy]
    rcases Nat.le_total (2 * Nat.sqrt p) y with hle | hle
    · rw [Nat.sub_eq_zero_of_le hle, Nat.zero_mul]
      exact Nat.zero_le p
    · -- with `d` for the excess over the guess, `d * y` is at most the square of their mean
      obtain ⟨d, hd⟩ := Nat.exists_eq_add_of_le hle
      rw [hd, Nat.add_sub_cancel_left]
      have hroot := Nat.sqrt_le p
      nlinarith [sq_nonneg ((y : ℤ) - d)]
  omega

/-- Where the mean is not smaller, the guess is no larger than the root. -/
theorem le_sqrt_of_le_step (hy : 0 < y) (h : y ≤ (y + p / y) / 2) : y ≤ Nat.sqrt p := by
  have hcofactor : y ≤ p / y := by omega
  rw [Nat.le_sqrt]
  exact (Nat.le_div_iff_mul_le hy).mp hcofactor

/-- A guess and its cofactor add up to at most their product and 1. -/
theorem add_div_le (hy : 0 < y) (hle : y ≤ p) : y + p / y ≤ p + 1 := by
  have hone : 1 ≤ p / y := (Nat.one_le_div_iff hy).mpr hle
  have hmul : p / y * y ≤ p := Nat.div_mul_le_self p y
  nlinarith

end Newton

namespace RaydiumAmm

/-! ## 2. The loop -/

/-- From a guess that is no smaller than the root and its mean with the cofactor, the loop returns
    the root. -/
theorem newtonLoop_eq_sqrt (product x y : U128) (hmax : product.toNat + 1 < 2 ^ 128)
    (hpos : 0 < product.toNat) (hle : x.toNat ≤ product.toNat)
    (hroot : Nat.sqrt product.toNat ≤ x.toNat)
    (hstep : y.toNat = (x.toNat + product.toNat / x.toNat) / 2) :
    ∃ r, newtonLoop product x y = .ok r ∧ r.toNat = Nat.sqrt product.toNat := by
  have hrootPos : 0 < Nat.sqrt product.toNat := Nat.sqrt_pos.mpr hpos
  induction x, y using newtonLoop.induct with
  | case1 x y hlt ih =>
    have hlt' : y.toNat < x.toNat := BitVec.lt_def.mp hlt
    have hxpos : 0 < x.toNat := Nat.zero_lt_of_lt hlt'
    have hyroot : Nat.sqrt product.toNat ≤ y.toNat := by
      rw [hstep]
      exact Newton.sqrt_le_step hxpos
    have hypos : 0 < y.toNat := Nat.lt_of_lt_of_le hrootPos hyroot
    have hyle : y.toNat ≤ product.toNat := by omega
    have hsum := Newton.add_div_le hypos hyle
    have hdiv : Checked.div product y = some (product / y) := if_neg (Nat.ne_of_gt hypos)
    have hadd : Checked.add y (product / y) = some (y + product / y) := by
      refine if_pos ?_
      rw [BitVec.toNat_udiv]
      omega
    have hnext : ((y + product / y) / 2).toNat = (y.toNat + product.toNat / y.toNat) / 2 := by
      rw [BitVec.toNat_udiv, Checked.add_eq_some.mp hadd, BitVec.toNat_udiv]
      rfl
    rw [newtonLoop, dif_pos hlt, hdiv]
    simp only [Outcome.unwrap, Outcome.ok_bind, hadd]
    exact ih _ hyle hyroot hnext
  | case2 x y hlt =>
    have hge : x.toNat ≤ y.toNat := Nat.le_of_not_lt fun h => hlt (BitVec.lt_def.mpr h)
    have hxpos : 0 < x.toNat := Nat.lt_of_lt_of_le hrootPos hroot
    rw [hstep] at hge
    refine ⟨x, by rw [newtonLoop, dif_neg hlt], ?_⟩
    exact Nat.le_antisymm (Newton.le_sqrt_of_le_step hxpos hge) hroot

/-- The loop starts at the product, whose cofactor is 1. -/
theorem newtonLoop_start (product : U128) (hmax : product.toNat + 1 < 2 ^ 128)
    (hpos : 0 < product.toNat) :
    ∃ sum root, Checked.add product 1 = some sum ∧
      newtonLoop product product (sum / 2) = .ok root ∧
      root.toNat = Nat.sqrt product.toNat := by
  have hadd : Checked.add product 1 = some (product + 1) := if_pos hmax
  have hstep : ((product + 1) / 2).toNat =
      (product.toNat + product.toNat / product.toNat) / 2 := by
    rw [BitVec.toNat_udiv, Checked.add_eq_some.mp hadd, Nat.div_self hpos]
    rfl
  obtain ⟨root, hloop, hroot⟩ := newtonLoop_eq_sqrt product product ((product + 1) / 2) hmax hpos
    le_rfl (Nat.sqrt_le_self _) hstep
  exact ⟨product + 1, root, hadd, hloop, hroot⟩

/-! ## 3. The amount -/

/-- The product of two 64-bit deposits. -/
theorem exists_product (coin pc : U64) :
    ∃ product, Checked.mul (Calculator.toU128 coin) (Calculator.toU128 pc) = some product ∧
      product.toNat = coin.toNat * pc.toNat ∧ product.toNat ≤ (2 ^ 64 - 1) * (2 ^ 64 - 1) := by
  have hle : coin.toNat * pc.toNat ≤ (2 ^ 64 - 1) * (2 ^ 64 - 1) :=
    Nat.mul_le_mul (Nat.le_pred_of_lt coin.isLt) (Nat.le_pred_of_lt pc.isLt)
  have hmul : (Calculator.toU128 coin).toNat * (Calculator.toU128 pc).toNat < 2 ^ 128 := by
    rw [toNat_toU128, toNat_toU128]
    omega
  obtain ⟨product, hproduct⟩ : ∃ product, Checked.mul (Calculator.toU128 coin)
      (Calculator.toU128 pc) = some product := ⟨_, if_pos hmul⟩
  have hvalue : product.toNat = coin.toNat * pc.toNat := by
    rw [Checked.mul_eq_some.mp hproduct, toNat_toU128, toNat_toU128]
  exact ⟨product, hproduct, hvalue, hvalue ▸ hle⟩

/-- The root of such a product has 64 bits, so the cast to `u64` keeps it. -/
theorem initialLpAmount_eq_sqrt {product : U128}
    (hle : product.toNat ≤ (2 ^ 64 - 1) * (2 ^ 64 - 1)) :
    ∃ lpAmount, initialLpAmount product = .ok lpAmount ∧
      lpAmount.toNat = Nat.sqrt product.toNat := by
  unfold initialLpAmount
  split
  next hpos =>
    have hpos' : 0 < product.toNat := BitVec.lt_def.mp hpos
    obtain ⟨sum, root, hadd, hloop, hroot⟩ := newtonLoop_start product (by omega) hpos'
    have hfits : root.toNat < 2 ^ 64 := by
      rw [hroot, Nat.sqrt_lt]
      omega
    refine ⟨root.setWidth 64, ?_, ?_⟩
    · simp only [hadd, Outcome.unwrap, Outcome.ok_bind, hloop]
      rfl
    · rw [BitVec.toNat_setWidth, Nat.mod_eq_of_lt hfits, hroot]
  next hzero =>
    have hzero' : product.toNat = 0 :=
      Nat.eq_zero_of_not_pos fun h => hzero (BitVec.lt_def.mpr h)
    refine ⟨0, rfl, ?_⟩
    rw [hzero', Nat.sqrt_zero]
    rfl

/-- The initial LP amount of a request. -/
def initializeLpAmount (init : InitializeInstruction2) : Result U64 := do
  let product ← Outcome.unwrap
    (Checked.mul (Calculator.toU128 init.initCoinAmount) (Calculator.toU128 init.initPcAmount))
  initialLpAmount product

theorem initializeLpAmount_eq_sqrt (init : InitializeInstruction2) :
    ∃ lpAmount, initializeLpAmount init = .ok lpAmount ∧
      lpAmount.toNat = Nat.sqrt (init.initCoinAmount.toNat * init.initPcAmount.toNat) := by
  obtain ⟨product, hproduct, hvalue, hle⟩ := exists_product init.initCoinAmount init.initPcAmount
  obtain ⟨lpAmount, hlp, hroot⟩ := initialLpAmount_eq_sqrt hle
  refine ⟨lpAmount, ?_, hvalue ▸ hroot⟩
  simp only [initializeLpAmount, hproduct, Outcome.unwrap, Outcome.ok_bind, hlp]

/-- For all deposits the product is formed, the loop ends without an abort, its result is the
    integer square root, and the amount is that result with no bit cut off. -/
theorem initial_lp_exact (init : InitializeInstruction2) :
    ∃ lpAmount product, initializeLpAmount init = .ok lpAmount ∧
      Checked.mul (Calculator.toU128 init.initCoinAmount)
        (Calculator.toU128 init.initPcAmount) = some product ∧
      lpAmount.toNat * lpAmount.toNat ≤ init.initCoinAmount.toNat * init.initPcAmount.toNat ∧
      init.initCoinAmount.toNat * init.initPcAmount.toNat <
        (lpAmount.toNat + 1) * (lpAmount.toNat + 1) ∧
      (product > 0 → ∃ sum root, Checked.add product 1 = some sum ∧
        newtonLoop product product (sum / 2) = .ok root ∧ root.toNat = lpAmount.toNat) := by
  obtain ⟨product, hproduct, hvalue, hle⟩ := exists_product init.initCoinAmount init.initPcAmount
  obtain ⟨lpAmount, hlp, hroot⟩ := initializeLpAmount_eq_sqrt init
  refine ⟨lpAmount, product, hlp, hproduct, ?_, ?_, ?_⟩
  · rw [hroot]
    exact Nat.sqrt_le _
  · rw [hroot]
    exact Nat.lt_succ_sqrt _
  · intro hpos
    obtain ⟨sum, root, hadd, hloop, hvalue'⟩ := newtonLoop_start product (by omega)
      (BitVec.lt_def.mp hpos)
    exact ⟨sum, root, hadd, hloop, by rw [hvalue', hvalue, hroot]⟩

end RaydiumAmm
