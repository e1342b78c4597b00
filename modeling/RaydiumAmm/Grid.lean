import RaydiumAmm.ConstantProduct

/-!
# Grids and order sizes

Facts about natural numbers for code that trades on a venue with lots and ticks:

1. the multiples of a lot on both sides of a number;
2. `convert`, a change of units that rounds down, and the trip through it and back;
3. `buySize` and `sellSize`, the sizes at a price up to the curve of a constant product.
-/

/-! ## 1. Multiples -/

namespace Grid

variable {a b n v s : ℕ}

theorem isGreatest_floor (n v : ℕ) : IsGreatest {m | n ∣ m ∧ m ≤ v} (v / n * n) := by
  constructor
  · exact ⟨Nat.dvd_mul_left n _, Nat.div_mul_le_self v n⟩
  · rintro m ⟨⟨k, rfl⟩, hle⟩
    rcases Nat.eq_zero_or_pos n with rfl | hn
    · simp
    rw [Nat.mul_comm n k] at hle ⊢
    exact Nat.mul_le_mul_right n ((Nat.le_div_iff_mul_le hn).mpr hle)

theorem isLeast_ceil (hn : 0 < n) (v : ℕ) : IsLeast {m | n ∣ m ∧ v ≤ m} (v ⌈/⌉ n * n) := by
  constructor
  · refine ⟨Nat.dvd_mul_left n _, ?_⟩
    rw [Nat.mul_comm]
    exact le_smul_ceilDiv hn
  · rintro m ⟨⟨k, rfl⟩, hle⟩
    rw [Nat.mul_comm n k]
    exact Nat.mul_le_mul_right n ((ceilDiv_le_iff_le_mul hn).mpr hle)

theorem floor_eq_iff : v / n * n = v ↔ n ∣ v := by
  constructor
  · intro h
    rw [← h]
    exact Nat.dvd_mul_left n _
  · exact Nat.div_mul_cancel

/-! ## 2. A change of units -/

/-- `v` units of size `a` in units of size `b`, rounded down. -/
def convert (a b v : ℕ) : ℕ := v * a / b

theorem convert_mul_le : convert a b v * b ≤ v * a := Nat.div_mul_le_self _ b

theorem convert_convert_le : convert b a (convert a b v) ≤ v :=
  Nat.div_le_of_le_mul (by rw [Nat.mul_comm a v]; exact convert_mul_le)

/-- The trip is exact where the first change is. -/
theorem convert_convert_eq_iff (ha : 0 < a) : convert b a (convert a b v) = v ↔ b ∣ v * a := by
  constructor
  · intro h
    have hle : v * a ≤ convert a b v * b := by
      calc v * a = convert b a (convert a b v) * a := by rw [h]
        _ ≤ convert a b v * b := convert_mul_le
    exact floor_eq_iff.mp (le_antisymm convert_mul_le hle)
  · intro h
    unfold convert
    rw [Nat.div_mul_cancel h, Nat.mul_div_cancel v ha]

end Grid

/-! ## 3. Sizes up to a curve -/

namespace Sizing

variable {x y p q s t : ℕ}

/-- The most that can be bought at `p` into reserves whose price is `x / y`. -/
def buySize (x y p : ℕ) : ℕ := x / p - y

/-- The most that can be sold at `p` out of them. -/
def sellSize (x y p : ℕ) : ℕ := y - x / p

theorem le_buySize_iff (hp : 0 < p) (hs : 0 < s) : s ≤ buySize x y p ↔ (y + s) * p ≤ x := by
  rw [← Nat.le_div_iff_mul_le hp]
  unfold buySize
  omega

theorem le_sellSize_iff (hp : 0 < p) (hs : 0 < s) :
    s ≤ sellSize x y p ↔ s ≤ y ∧ x < (y - s + 1) * p := by
  rw [← Nat.div_lt_iff_lt_mul hp]
  unfold sellSize
  generalize x / p = m
  omega

/-- Where something can be bought at `p` and something sold at `q`, the price of the reserves is
    between the two. -/
theorem lt_of_both_sizes (hp : 0 < p) (hq : 0 < q) (hbuy : 0 < buySize x y p)
    (hsell : 0 < sellSize x y q) : p < q := by
  have hover : (y + 1) * p ≤ x := (le_buySize_iff hp Nat.one_pos).mp hbuy
  obtain ⟨hy, hunder⟩ := (le_sellSize_iff hq Nat.one_pos).mp hsell
  rw [Nat.sub_add_cancel hy] at hunder
  by_contra hle
  have hback : y * q ≤ (y + 1) * p := Nat.mul_le_mul (Nat.le_succ y) (Nat.le_of_not_lt hle)
  omega

/-- A buy up to the size at a price that is no lower keeps the product. -/
theorem product_le_of_buy (hq : 0 < q) (hpq : p ≤ q) (hs : s ≤ buySize x y q) :
    p * s ≤ x ∧ x * y ≤ (x - p * s) * (y + s) := by
  rcases Nat.eq_zero_or_pos s with rfl | hpos
  · simp
  have hfits : (y + s) * q ≤ x := (le_buySize_iff hq hpos).mp hs
  have hpaid : p * (y + s) ≤ x := by
    calc p * (y + s) ≤ q * (y + s) := Nat.mul_le_mul_right _ hpq
      _ = (y + s) * q := Nat.mul_comm _ _
      _ ≤ x := hfits
  have hle : p * s ≤ x := le_trans (Nat.mul_le_mul_left p (Nat.le_add_left s y)) hpaid
  refine ⟨hle, ?_⟩
  have hcover : y * (p * s) ≤ s * (x - p * s) := by
    have hrest : p * y ≤ x - p * s := by
      rw [Nat.mul_add] at hpaid
      omega
    calc y * (p * s) = s * (p * y) := by ring
      _ ≤ s * (x - p * s) := Nat.mul_le_mul_left s hrest
  have hkeep := ConstantProduct.product_le_of_cover hle hcover (le_refl s)
  rw [Nat.mul_comm x y, Nat.mul_comm (x - p * s)]
  exact hkeep

/-- A sale keeps the product where what is left is worth the reserves at its price. -/
theorem product_le_of_sell (hs : s ≤ y) (hworth : x ≤ p * (y - s)) :
    x * y ≤ (x + p * s) * (y - s) := by
  refine ConstantProduct.product_le_of_cover hs ?_ (le_refl _)
  calc x * s ≤ p * (y - s) * s := Nat.mul_le_mul_right s hworth
    _ = p * s * (y - s) := by ring

/-- A sale of less than the size at a price that is no higher. -/
theorem worth_of_lt_sellSize (hq : 0 < q) (hqp : q ≤ p) (hs : s < sellSize x y q) :
    s ≤ y ∧ x ≤ p * (y - s) := by
  obtain ⟨hy, hunder⟩ := (le_sellSize_iff hq (Nat.succ_pos s)).mp hs
  refine ⟨Nat.le_of_succ_le hy, ?_⟩
  have hleft : y - (s + 1) + 1 = y - s := by omega
  rw [hleft] at hunder
  calc x ≤ (y - s) * q := Nat.le_of_lt hunder
    _ ≤ (y - s) * p := Nat.mul_le_mul_left _ hqp
    _ = p * (y - s) := Nat.mul_comm _ _

/-- A sale of the whole size, where the two prices differ by one unit of it over what is left. -/
theorem worth_of_eq_sellSize (hq : 0 < q) (hpos : 0 < sellSize x y q)
    (hgap : q * (y - sellSize x y q + 1) ≤ p * (y - sellSize x y q)) :
    x ≤ p * (y - sellSize x y q) := by
  obtain ⟨-, hunder⟩ := (le_sellSize_iff hq hpos).mp (le_refl _)
  rw [Nat.mul_comm] at hunder
  exact le_trans (Nat.le_of_lt hunder) hgap

end Sizing
