import Mathlib.Algebra.Order.Floor.Div
import Mathlib.Algebra.Order.Ring.Nat
import Mathlib.Order.Bounds.Basic
import Mathlib.Tactic.Linarith
import Mathlib.Tactic.Ring

/-!
# Rounding, constant products and shares

Facts about natural numbers on which exchange code with integer reserves rests:

1. `softCeil`, a ceiling division that does not round up a quotient below one half, and the ways
   in which it still bounds its dividend;
2. `outGivenIn`, the floored quote of a constant product, the moves of reserves under which the
   product does not fall, and the best such moves;
3. `NotDiluted`, the order on pairs of a reserve and its shares by value per share.
-/

/-! ## 1. Rounding -/

namespace Rounding

variable {a b k : ℕ}

/-- Ceiling division, except that a dividend below the divisor gives 1 only from one half on. -/
def softCeil (a b : ℕ) : ℕ :=
  if a < b then (if b ≤ 2 * a then 1 else 0) else (a + b - 1) / b

/-- Where the result reaches `k`: for `k = 1` the dividend is at least one half of the divisor, and
    beyond that the ceiling decides. -/
theorem le_softCeil_iff (hb : 0 < b) :
    k ≤ softCeil a b ↔ k = 0 ∨ (b ≤ 2 * a ∧ (k - 1) * b < a) := by
  unfold softCeil
  rcases Nat.eq_zero_or_pos k with hk | hk
  · simp [hk]
  obtain ⟨m, rfl⟩ : ∃ m, k = m + 1 := ⟨k - 1, by omega⟩
  have hm : m = 0 ∨ b ≤ m * b := by
    rcases Nat.eq_zero_or_pos m with h | h
    · exact .inl h
    · exact .inr (Nat.le_mul_of_pos_left b h)
  split
  next hab =>
    rcases hm with rfl | hmb
    · split <;> simp <;> omega
    · have hm0 : m ≠ 0 := by
        rintro rfl
        omega
      split <;> simp <;> omega
  next hab =>
    rw [Nat.le_div_iff_mul_le hb, Nat.add_mul]
    simp
    omega

theorem softCeil_eq_zero (hb : 0 < b) : softCeil a b = 0 ↔ 2 * a < b := by
  have h := le_softCeil_iff (a := a) (k := 1) hb
  constructor
  · intro h0
    by_contra hge
    have : 1 ≤ softCeil a b := h.mpr (.inr ⟨by omega, by omega⟩)
    omega
  · intro hlt
    by_contra hne
    rcases h.mp (Nat.one_le_iff_ne_zero.mpr hne) with h1 | ⟨h2, -⟩ <;> omega

/-- A result other than 0 covers the dividend. -/
theorem le_softCeil_mul (hb : 0 < b) (h : softCeil a b ≠ 0) : a ≤ softCeil a b * b := by
  by_contra hlt
  have hle : softCeil a b + 1 ≤ softCeil a b := by
    refine (le_softCeil_iff hb).mpr (.inr ⟨?_, ?_⟩)
    · rw [Ne, softCeil_eq_zero hb] at h
      omega
    · simp only [Nat.add_sub_cancel]
      omega
  omega

/-- A multiple of the divisor that covers the dividend bounds the result. -/
theorem softCeil_le (hb : 0 < b) (h : a ≤ k * b) : softCeil a b ≤ k := by
  by_contra hgt
  rcases (le_softCeil_iff hb).mp (Nat.lt_of_not_le hgt) with h0 | ⟨-, hlt⟩
  · cases h0
  · rw [Nat.succ_sub_one] at hlt
    omega

/-- Outside the quotients below one half it is the ceiling. -/
theorem softCeil_eq_ceilDiv (h : a = 0 ∨ b ≤ 2 * a) : softCeil a b = a ⌈/⌉ b := by
  rw [Nat.ceilDiv_eq_add_pred_div]
  unfold softCeil
  split
  next hab =>
    rcases Nat.eq_zero_or_pos a with rfl | ha
    · rw [if_neg (by omega), Nat.zero_add, Nat.div_eq_of_lt (by omega)]
    · rw [if_pos (by omega)]
      symm
      exact Nat.div_eq_of_lt_le (by omega) (by omega)
  next => rfl

/-- There it is zero, which the ceiling of a positive dividend is not. -/
theorem softCeil_ne_ceilDiv (ha : 0 < a) (h : 2 * a < b) : softCeil a b ≠ a ⌈/⌉ b := by
  rw [(softCeil_eq_zero (by omega)).mpr h, Nat.ceilDiv_eq_add_pred_div]
  exact (Nat.div_pos (by omega) (by omega)).ne

/-- The quotient of a multiple by a divisor that is no larger. -/
theorem le_softCeil_mul_div {c : ℕ} (hb : 0 < b) (hbc : b ≤ c) : k ≤ softCeil (k * c) b := by
  refine (le_softCeil_iff hb).mpr ?_
  rcases Nat.eq_zero_or_pos k with hk | hk
  · exact .inl hk
  · have hone : c ≤ k * c := Nat.le_mul_of_pos_left c hk
    have hless : (k - 1) * b ≤ (k - 1) * c := Nat.mul_le_mul_left _ hbc
    have hstep : (k - 1) * c + c = k * c := by
      rw [← Nat.succ_mul, Nat.succ_eq_add_one, Nat.sub_add_cancel hk]
    exact .inr ⟨by omega, by omega⟩

/-- The result of a sum is at most the sum of the results, where none of these falls short of its
    dividend. -/
theorem softCeil_sum_le (hb : 0 < b) (l : List ℕ) (h : ∀ a ∈ l, a ≤ softCeil a b * b) :
    softCeil l.sum b ≤ (l.map fun a => softCeil a b).sum := by
  refine softCeil_le hb ?_
  induction l with
  | nil => exact Nat.zero_le _
  | cons a rest ih =>
    rw [List.sum_cons, List.map_cons, List.sum_cons, Nat.add_mul]
    exact Nat.add_le_add (h a List.mem_cons_self) (ih fun a' ha' => h a' (List.mem_cons_of_mem _ ha'))

end Rounding

/-! ## 2. Constant products -/

namespace ConstantProduct

variable {x x' y a b g i o : ℕ}

/-- What `a` buys of the reserve `y` against the reserve `x`, rounded down. -/
def outGivenIn (x y a : ℕ) : ℕ := y * a / (x + a)

theorem outGivenIn_mul_le : outGivenIn x y a * (x + a) ≤ y * a :=
  Nat.div_mul_le_self _ _

theorem outGivenIn_le : outGivenIn x y a ≤ y := by
  unfold outGivenIn
  rcases Nat.eq_zero_or_pos (x + a) with h | h
  · simp [h]
  · rw [Nat.div_le_iff_le_mul_add_pred h]
    nlinarith [Nat.zero_le (y * x)]

/-- A larger input reserve buys no more. -/
theorem outGivenIn_le_of_reserve_le (hx : 0 < x) (hxx' : x ≤ x') :
    outGivenIn x' y a ≤ outGivenIn x y a :=
  Nat.div_le_div_left (Nat.add_le_add_right hxx' a) (Nat.add_pos_left hx a)

/-- A larger amount buys no less. -/
theorem outGivenIn_le_of_le (hx : 0 < x) (hab : a ≤ b) : outGivenIn x y a ≤ outGivenIn x y b := by
  have hmul : outGivenIn x y a * (x + a) ≤ y * a := outGivenIn_mul_le
  have hle : outGivenIn x y a ≤ y := outGivenIn_le
  obtain ⟨e, rfl⟩ := Nat.exists_eq_add_of_le hab
  refine (Nat.le_div_iff_mul_le (Nat.add_pos_left hx _)).mpr ?_
  calc outGivenIn x y a * (x + (a + e))
      = outGivenIn x y a * (x + a) + outGivenIn x y a * e := by ring
    _ ≤ y * a + y * e := Nat.add_le_add hmul (Nat.mul_le_mul_right e hle)
    _ = y * (a + e) := by ring

/-- Two amounts in a row buy no more than their sum. -/
theorem outGivenIn_add_le (hx : 0 < x) :
    outGivenIn x y a + outGivenIn (x + a) (y - outGivenIn x y a) b ≤ outGivenIn x y (a + b) := by
  have hfirst : outGivenIn x y a * (x + a) ≤ y * a := outGivenIn_mul_le
  have hsecond : outGivenIn (x + a) (y - outGivenIn x y a) b * (x + a + b) ≤
      (y - outGivenIn x y a) * b := outGivenIn_mul_le
  obtain ⟨r, hr⟩ := Nat.exists_eq_add_of_le (outGivenIn_le (x := x) (y := y) (a := a))
  have hrest : y - outGivenIn x y a = r := by omega
  rw [hrest] at hsecond ⊢
  refine (Nat.le_div_iff_mul_le (Nat.add_pos_left hx _)).mpr ?_
  calc (outGivenIn x y a + outGivenIn (x + a) r b) * (x + (a + b))
      = outGivenIn x y a * (x + a) + outGivenIn x y a * b +
          outGivenIn (x + a) r b * (x + a + b) := by ring
    _ ≤ y * a + outGivenIn x y a * b + r * b := by gcongr
    _ = y * a + (outGivenIn x y a + r) * b := by ring
    _ = y * (a + b) := by rw [← hr]; ring

/-- An amount that covers the product for the output `o` buys at least `o`. -/
theorem le_outGivenIn_of_cover (ho : o ≤ y) (hpos : 0 < x + a) (hcover : x * o ≤ a * (y - o)) :
    o ≤ outGivenIn x y a := by
  refine (Nat.le_div_iff_mul_le hpos).mpr ?_
  obtain ⟨r, rfl⟩ := Nat.exists_eq_add_of_le ho
  rw [Nat.add_sub_cancel_left] at hcover
  calc o * (x + a) = x * o + o * a := by ring
    _ ≤ a * r + o * a := Nat.add_le_add_right hcover _
    _ = (o + r) * a := by ring

/-- Paying in at least the quoted amount does not lower the product. -/
theorem product_le_of_outGivenIn (hab : a ≤ b) :
    x * y ≤ (x + b) * (y - outGivenIn x y a) := by
  have hle : outGivenIn x y a ≤ y := outGivenIn_le
  have hmul : outGivenIn x y a * (x + a) ≤ y * a := outGivenIn_mul_le
  obtain ⟨r, hr⟩ := Nat.exists_eq_add_of_le hle
  obtain ⟨e, rfl⟩ := Nat.exists_eq_add_of_le hab
  have hpaid : outGivenIn x y a * (x + a + e) ≤ y * (a + e) := by
    calc outGivenIn x y a * (x + a + e)
        = outGivenIn x y a * (x + a) + outGivenIn x y a * e := by ring
      _ ≤ y * a + y * e := Nat.add_le_add hmul (Nat.mul_le_mul_right e hle)
      _ = y * (a + e) := by ring
  have hsub : y - outGivenIn x y a = r := by omega
  rw [hsub]
  nlinarith [hpaid, hr]

/-- Paying in at least `i`, where `i` covers the product for the output `o`, does not lower the
    product. -/
theorem product_le_of_cover (ho : o ≤ y) (hcover : x * o ≤ i * (y - o)) (hig : i ≤ g) :
    x * y ≤ (x + g) * (y - o) := by
  obtain ⟨r, rfl⟩ := Nat.exists_eq_add_of_le ho
  simp only [Nat.add_sub_cancel_left] at hcover ⊢
  have : i * r ≤ g * r := Nat.mul_le_mul_right r hig
  nlinarith

/-- Inputs and outputs that keep the product are those that cover each other. -/
theorem product_le_iff_cover (ho : o ≤ y) :
    x * y ≤ (x + a) * (y - o) ↔ x * o ≤ a * (y - o) := by
  constructor
  · intro h
    obtain ⟨r, rfl⟩ := Nat.exists_eq_add_of_le ho
    simp only [Nat.add_sub_cancel_left] at h ⊢
    nlinarith
  · intro h
    exact product_le_of_cover ho h (Nat.le_refl a)

/-- What can be taken out of the reserve `y` against `a` so that the product does not fall. -/
def outputsKeeping (x y a : ℕ) : Set ℕ := {o | o ≤ y ∧ x * y ≤ (x + a) * (y - o)}

/-- What can be paid in for the output `o` so that the product does not fall. -/
def inputsKeeping (x y o : ℕ) : Set ℕ := {i | x * y ≤ (x + i) * (y - o)}

/-- The floored quote is the best output. -/
theorem isGreatest_outGivenIn (hpos : 0 < x + a) :
    IsGreatest (outputsKeeping x y a) (outGivenIn x y a) := by
  refine ⟨⟨outGivenIn_le, product_le_of_outGivenIn (Nat.le_refl a)⟩, ?_⟩
  rintro o ⟨ho, hkeeps⟩
  exact le_outGivenIn_of_cover ho hpos ((product_le_iff_cover ho).mp hkeeps)

/-- A rounded cover other than 0 is the best input. -/
theorem isLeast_softCeil (ho : o < y) (hne : Rounding.softCeil (x * o) (y - o) ≠ 0) :
    IsLeast (inputsKeeping x y o) (Rounding.softCeil (x * o) (y - o)) := by
  have hpos : 0 < y - o := Nat.sub_pos_of_lt ho
  constructor
  · exact (product_le_iff_cover (Nat.le_of_lt ho)).mpr (Rounding.le_softCeil_mul hpos hne)
  · intro i hkeeps
    exact Rounding.softCeil_le hpos ((product_le_iff_cover (Nat.le_of_lt ho)).mp hkeeps)

/-- The cover of a quote costs no more than the quote was given for. -/
theorem softCeil_outGivenIn_le (hlt : outGivenIn x y a < y) :
    Rounding.softCeil (x * outGivenIn x y a) (y - outGivenIn x y a) ≤ a := by
  refine Rounding.softCeil_le (Nat.sub_pos_of_lt hlt) ?_
  exact (product_le_iff_cover (Nat.le_of_lt hlt)).mp (product_le_of_outGivenIn (Nat.le_refl a))

/-- Positive reserves keep a part of the output. -/
theorem outGivenIn_lt (hx : 0 < x) (hy : 0 < y) : outGivenIn x y a < y := by
  refine (Nat.div_lt_iff_lt_mul (Nat.add_pos_left hx a)).mpr ?_
  rw [Nat.mul_add]
  exact Nat.lt_add_of_pos_left (Nat.mul_pos hy hx)

/-- Moving the same amount into one reserve and out of the other keeps the product only where the
    first stays the smaller one. -/
theorem product_le_iff_of_equal_move (ho : 0 < o) (hox : o ≤ x) :
    x * y ≤ (x - o) * (y + o) ↔ o + y ≤ x := by
  obtain ⟨r, rfl⟩ := Nat.exists_eq_add_of_le hox
  simp only [Nat.add_sub_cancel_left]
  constructor
  · intro h
    by_contra hlt
    have : r < y := by omega
    nlinarith
  · intro h
    have : y ≤ r := by omega
    nlinarith

/-- When a quote leaves its reserve at least as large as the other one, by the amount paid. -/
theorem outGivenIn_add_le_iff (hy : 0 < y) :
    outGivenIn y x a + y ≤ x ↔ (y - 1) * a + y * y < (x + 1) * y := by
  obtain ⟨z, rfl⟩ : ∃ z, y = z + 1 := ⟨y - 1, by omega⟩
  simp only [Nat.add_sub_cancel]
  rcases Nat.lt_or_ge x (z + 1) with hx | hx
  · constructor
    · intro h
      omega
    · intro h
      have := Nat.mul_le_mul_right (z + 1) hx
      nlinarith
  · obtain ⟨t, rfl⟩ := Nat.exists_eq_add_of_le hx
    have hout : outGivenIn (z + 1) (z + 1 + t) a + (z + 1) ≤ z + 1 + t ↔
        outGivenIn (z + 1) (z + 1 + t) a < t + 1 := by omega
    rw [hout, outGivenIn, Nat.div_lt_iff_lt_mul (by omega)]
    constructor <;> intro h <;> nlinarith

end ConstantProduct

/-! ## 3. Shares -/

namespace ShareValue

variable {t l t' l' t'' l'' d m o : ℕ}

/-- A share of `l'` shares in `t'` is worth at least a share of `l` shares in `t`. -/
def NotDiluted (t l t' l' : ℕ) : Prop := t * l' ≤ t' * l

theorem NotDiluted.refl : NotDiluted t l t l := le_refl _

theorem NotDiluted.trans (hl' : 0 < l') (h : NotDiluted t l t' l')
    (h' : NotDiluted t' l' t'' l'') : NotDiluted t l t'' l'' := by
  unfold NotDiluted at *
  refine Nat.le_of_mul_le_mul_right ?_ hl'
  calc t * l'' * l' = t * l' * l'' := by ring
    _ ≤ t' * l * l'' := Nat.mul_le_mul_right _ h
    _ = t' * l'' * l := by ring
    _ ≤ t'' * l' * l := Nat.mul_le_mul_right _ h'
    _ = t'' * l * l' := by ring

/-- Adding `d` against `m` new shares that `d` pays for. -/
theorem NotDiluted.mint (h : m * t ≤ l * d) : NotDiluted t l (t + d) (l + m) := by
  unfold NotDiluted
  nlinarith

/-- Taking `o` against `m` burned shares that are worth `o`. -/
theorem NotDiluted.burn (ho : o ≤ t) (hm : m ≤ l) (h : o * l ≤ t * m) :
    NotDiluted t l (t - o) (l - m) := by
  unfold NotDiluted
  obtain ⟨r, rfl⟩ := Nat.exists_eq_add_of_le ho
  obtain ⟨s, rfl⟩ := Nat.exists_eq_add_of_le hm
  simp only [Nat.add_sub_cancel_left]
  nlinarith

/-- A reserve that only grows does not dilute the shares. -/
theorem NotDiluted.mono (h : NotDiluted t l t' l') (hle : t' ≤ t'') : NotDiluted t l t'' l' :=
  le_trans h (Nat.mul_le_mul_right _ hle)

/-- The second reserve of a two-sided deposit: where `d'` covers `d` at the ratio of the reserves
    and `d` pays for `m` shares of the first, `d'` pays for `m` shares of the second. -/
theorem mint_other_side (ht : 0 < t) (h : m * t ≤ l * d) (hd : d * t' ≤ d' * t) :
    m * t' ≤ l * d' := by
  refine Nat.le_of_mul_le_mul_right ?_ ht
  calc m * t' * t = m * t * t' := by ring
    _ ≤ l * d * t' := Nat.mul_le_mul_right _ h
    _ = l * (d * t') := by ring
    _ ≤ l * (d' * t) := Nat.mul_le_mul_left _ hd
    _ = l * d' * t := by ring

/-- Two reserves and the shares in them. -/
structure Pool where
  x : ℕ
  y : ℕ
  shares : ℕ
deriving DecidableEq

/-- What holders may do to a pool: join against shares that both sides pay for, or leave with at
    most the worth of the burned shares. A reserve may also be given more than that. -/
inductive Step : Pool → Pool → Prop where
  | join {x y l dx dy m x' y' : ℕ} (hx : m * x ≤ l * dx) (hy : m * y ≤ l * dy)
      (hx' : x + dx ≤ x') (hy' : y + dy ≤ y') : Step ⟨x, y, l⟩ ⟨x', y', l + m⟩
  | leave {x y l ox oy m x' y' : ℕ} (hm : m < l) (hox : ox ≤ x) (hoy : oy ≤ y)
      (hx : ox * l ≤ x * m) (hy : oy * l ≤ y * m) (hx' : x - ox ≤ x') (hy' : y - oy ≤ y') :
      Step ⟨x, y, l⟩ ⟨x', y', l - m⟩

/-- Neither side of `p'` is diluted against `p`, and there are shares. -/
structure Backed (p p' : Pool) : Prop where
  x : NotDiluted p.x p.shares p'.x p'.shares
  y : NotDiluted p.y p.shares p'.y p'.shares
  pos : 0 < p'.shares

theorem Backed.refl {p : Pool} (h : 0 < p.shares) : Backed p p := ⟨.refl, .refl, h⟩

/-- A step keeps the shares backed. -/
theorem Backed.step {p p' p'' : Pool} (h : Backed p p') (hstep : Step p' p'') : Backed p p'' := by
  cases hstep with
  | join hx hy hx' hy' =>
    refine ⟨h.x.trans h.pos ((NotDiluted.mint hx).mono hx'),
      h.y.trans h.pos ((NotDiluted.mint hy).mono hy'), ?_⟩
    exact Nat.add_pos_left h.pos _
  | leave hm hox hoy hx hy hx' hy' =>
    refine ⟨h.x.trans h.pos ((NotDiluted.burn hox (Nat.le_of_lt hm) hx).mono hx'),
      h.y.trans h.pos ((NotDiluted.burn hoy (Nat.le_of_lt hm) hy).mono hy'), ?_⟩
    exact Nat.sub_pos_of_lt hm

end ShareValue
