import RaydiumAmm.Quotes

/-!
# The best quotes

The two swap functions of the calculator against the constant product of their reserves: the
exact-in quote is the largest output that keeps the product, the exact-out quote is the smallest
input that does, except that it is zero where it would be a single unit for less than half a unit.
-/

namespace RaydiumAmm

open Rounding ConstantProduct

/-- The quotes `baseIn` and `baseOut` against an input reserve `x` and an output reserve `y`: each is
    the best amount that keeps the product. -/
structure QuotesOptimal (baseIn baseOut : U128 → Result U128) (x y : ℕ) : Prop where
  sells : ∀ a : U128, a.toNat < 2 ^ 64 → 0 < x + a.toNat → ∃ out, baseIn a = .ok out
  sold : ∀ a out, baseIn a = .ok out → IsGreatest (outputsKeeping x y a.toNat) out.toNat
  buys : ∀ o : U128, o.toNat < y → ∃ net, baseOut o = .ok net
  free : ∀ o net, baseOut o = .ok net → (net.toNat = 0 ↔ 2 * (x * o.toNat) < y - o.toNat)
  bought : ∀ o net, baseOut o = .ok net → ¬2 * (x * o.toNat) < y - o.toNat →
    IsLeast (inputsKeeping x y o.toNat) net.toNat
  back : ∀ a o, baseIn a = .ok o → o.toNat < y → ∃ net, baseOut o = .ok net ∧ net.toNat ≤ a.toNat

/-- Both quotes are optimal in both directions. -/
theorem swap_quotes_optimal (coin pc : U64) (dir : SwapDirection) :
    QuotesOptimal
      (fun a => Calculator.swapTokenAmountBaseIn a (Calculator.toU128 pc) (Calculator.toU128 coin)
        dir)
      (fun o => Calculator.swapTokenAmountBaseOut o (Calculator.toU128 pc) (Calculator.toU128 coin)
        dir)
      (dir.reserveIn coin.toNat pc.toNat) (dir.reserveOut coin.toNat pc.toNat) where
  sells a ha hpos := exists_swapTokenAmountBaseIn ha hpos
  sold a out h := by
    obtain ⟨hpos, hout⟩ := swapTokenAmountBaseIn_eq_ok h
    simp only [toNat_toU128] at hpos hout
    rw [hout]
    exact isGreatest_outGivenIn hpos
  buys o ho := exists_swapTokenAmountBaseOut ho
  free o net h := by
    obtain ⟨hlt, hnet⟩ := swapTokenAmountBaseOut_eq_ok h
    simp only [toNat_toU128] at hlt hnet
    rw [hnet]
    exact softCeil_eq_zero (Nat.sub_pos_of_lt hlt)
  bought o net h hpaid := by
    obtain ⟨hlt, hnet⟩ := swapTokenAmountBaseOut_eq_ok h
    simp only [toNat_toU128] at hlt hnet
    rw [hnet]
    refine isLeast_softCeil hlt ?_
    rwa [Ne, softCeil_eq_zero (Nat.sub_pos_of_lt hlt)]
  back a o h hlt := by
    obtain ⟨-, hout⟩ := swapTokenAmountBaseIn_eq_ok h
    obtain ⟨net, hback⟩ := exists_swapTokenAmountBaseOut hlt
    obtain ⟨-, hnet⟩ := swapTokenAmountBaseOut_eq_ok hback
    simp only [toNat_toU128] at hout hnet
    refine ⟨net, hback, ?_⟩
    rw [hnet, hout]
    exact softCeil_outGivenIn_le (hout ▸ hlt)

/-- 1000 coin against 1000000 coin and 5000000 pc buy 4995 pc, which cost 1000 coin. -/
example :
    Calculator.swapTokenAmountBaseIn 1000 5000000 1000000 .coin2Pc = .ok 4995 ∧
      Calculator.swapTokenAmountBaseOut 4995 5000000 1000000 .coin2Pc = .ok 1000 := by
  exact ⟨rfl, rfl⟩

end RaydiumAmm
