import RaydiumAmm.ConstantProduct
import RaydiumAmm.Math

/-!
# Ceiling division

`checked_ceil_div` adjusts the quotient and then the divisor, so that neither truncates.

1. The ceiling over the naturals, and a ceiling quotient together with the ceiling of its dividend
   by it.
2. What `checked_ceil_div` returns, case by case.
3. `checkedCeilDiv_fair`: both implementations, on all words.
-/

/-! ## 1. Two ceilings -/

namespace Rounding

variable {a b : ℕ}

/-- The ceiling as code computes it, from the quotient and the remainder. -/
theorem ceilDiv_eq_ite (hb : 0 < b) : a ⌈/⌉ b = if 0 < a % b then a / b + 1 else a / b := by
  have hsplit := Nat.div_add_mod a b
  rw [Nat.mul_comm] at hsplit
  have hmod := Nat.mod_lt a hb
  rw [Nat.ceilDiv_eq_add_pred_div]
  split
  next hrest =>
    refine Nat.div_eq_of_lt_le ?_ ?_
    · rw [Nat.add_mul]
      omega
    · rw [Nat.add_mul, Nat.add_mul]
      omega
  next hnone =>
    refine Nat.div_eq_of_lt_le ?_ ?_
    · omega
    · rw [Nat.add_mul]
      omega

theorem isLeast_ceilDiv (hb : 0 < b) : IsLeast {q | a ≤ q * b} (a ⌈/⌉ b) := by
  constructor
  · show a ≤ a ⌈/⌉ b * b
    rw [Nat.mul_comm]
    exact le_smul_ceilDiv hb
  · intro q (hq : a ≤ q * b)
    rw [Nat.mul_comm] at hq
    exact (ceilDiv_le_iff_le_mul hb).mpr hq

theorem ceilDiv_of_dvd (hb : 0 < b) (h : b ∣ a) : a ⌈/⌉ b = a / b := by
  rw [ceilDiv_eq_ite hb, Nat.mod_eq_zero_of_dvd h, if_neg (Nat.lt_irrefl 0)]

theorem ceilDiv_of_not_dvd (hb : 0 < b) (h : ¬b ∣ a) : a ⌈/⌉ b = a / b + 1 := by
  have hrest : 0 < a % b := Nat.pos_of_ne_zero fun hzero => h (Nat.dvd_of_mod_eq_zero hzero)
  rw [ceilDiv_eq_ite hb, if_pos hrest]

/-- The ceiling of the dividend by its ceiling quotient is a divisor that is no larger and still
    covers the dividend, and one quotient less does not. -/
theorem ceilDiv_ceilDiv (ha : 0 < a) (hb : 0 < b) :
    a ⌈/⌉ (a ⌈/⌉ b) ≤ b ∧ (a ⌈/⌉ b - 1) * (a ⌈/⌉ (a ⌈/⌉ b)) < a ∧
      a ≤ a ⌈/⌉ b * (a ⌈/⌉ (a ⌈/⌉ b)) := by
  obtain ⟨hcovers, hleast⟩ := isLeast_ceilDiv (a := a) hb
  have hcovers : a ≤ a ⌈/⌉ b * b := hcovers
  have hq : 0 < a ⌈/⌉ b := by
    by_contra hzero
    rw [Nat.eq_zero_of_not_pos hzero, Nat.zero_mul] at hcovers
    omega
  have hle : a ⌈/⌉ (a ⌈/⌉ b) ≤ b := (ceilDiv_le_iff_le_mul hq).mpr hcovers
  refine ⟨hle, ?_, le_smul_ceilDiv hq⟩
  -- one quotient less does not even cover with the larger divisor
  have hless : (a ⌈/⌉ b - 1) * b < a := by
    by_contra hge
    have hback : a ⌈/⌉ b ≤ a ⌈/⌉ b - 1 := hleast (Nat.le_of_not_lt hge)
    omega
  exact lt_of_le_of_lt (Nat.mul_le_mul_left _ hle) hless

end Rounding

namespace RaydiumAmm

open Rounding

/-! ## 2. The cases -/

section Cases

variable {a b : U128}

theorem checkedCeilDiv_of_zero (hb : b.toNat = 0) : checkedCeilDiv a b = none := by
  rw [checkedCeilDiv, Checked.div, if_pos hb]
  rfl

/-- A dividend below the divisor is doubled and compared. -/
theorem checkedCeilDiv_of_lt (h : a.toNat < b.toNat) :
    checkedCeilDiv a b =
      if 2 * a.toNat < 2 ^ 128 then some (if b.toNat ≤ 2 * a.toNat then (1, 0) else (0, 0))
      else none := by
  have hb : ¬b.toNat = 0 := by omega
  have hquotient : a / b = 0 := by
    apply BitVec.eq_of_toNat_eq
    rw [BitVec.toNat_udiv, Nat.div_eq_of_lt h]
    rfl
  have htwo : a.toNat * (2 : U128).toNat = 2 * a.toNat := Nat.mul_comm _ _
  simp only [checkedCeilDiv, Checked.div, if_neg hb, Option.bind_eq_bind, Option.bind_some,
    hquotient, if_true, Checked.mul, htwo]
  by_cases hfits : 2 * a.toNat < 2 ^ 128
  · rw [if_pos hfits, if_pos hfits, Option.bind_some]
    have htwice : (a * 2).toNat = 2 * a.toNat := by
      rw [BitVec.toNat_mul, htwo, Nat.mod_eq_of_lt hfits]
    by_cases hhalf : b.toNat ≤ 2 * a.toNat
    · rw [if_pos hhalf, if_pos (BitVec.le_def.mpr (htwice ▸ hhalf))]
    · rw [if_neg hhalf, if_neg fun hle => hhalf (htwice ▸ BitVec.le_def.mp hle)]
  · rw [if_neg hfits, if_neg hfits]
    rfl

theorem udiv_ne_zero (hb : 0 < b.toNat) (hle : b.toNat ≤ a.toNat) : ¬a / b = 0 := by
  intro hzero
  have hpos : 0 < (a / b).toNat := by
    rw [BitVec.toNat_udiv]
    exact Nat.div_pos hle hb
  rw [hzero] at hpos
  exact Nat.lt_irrefl 0 hpos

theorem umod_pos_iff : a % b > 0 ↔ ¬b.toNat ∣ a.toNat := by
  rw [gt_iff_lt, BitVec.lt_def, BitVec.toNat_umod, Nat.dvd_iff_mod_eq_zero]
  exact Nat.pos_iff_ne_zero

/-- One more than a quotient that is not exact is its ceiling, where that is a word. -/
theorem exists_add_one_udiv (hb : 0 < b.toNat) (hdvd : ¬b.toNat ∣ a.toNat)
    (hfits : a.toNat ⌈/⌉ b.toNat < 2 ^ 128) :
    ∃ q, Checked.add (a / b) 1 = some q ∧ q.toNat = a.toNat ⌈/⌉ b.toNat := by
  have hvalue : (a / b).toNat + (1 : U128).toNat = a.toNat ⌈/⌉ b.toNat := by
    rw [BitVec.toNat_udiv, ceilDiv_of_not_dvd hb hdvd]
    rfl
  obtain ⟨q, hq⟩ : ∃ q, Checked.add (a / b) 1 = some q := by
    refine ⟨_, if_pos ?_⟩
    rw [hvalue]
    exact hfits
  exact ⟨q, hq, (Checked.add_eq_some.mp hq).trans hvalue⟩

/-- An exact quotient is returned with the divisor. -/
theorem checkedCeilDiv_of_dvd (hb : 0 < b.toNat) (hle : b.toNat ≤ a.toNat)
    (hdvd : b.toNat ∣ a.toNat) : checkedCeilDiv a b = some (a / b, b) := by
  have hrest : ¬a % b > 0 := fun hrest => umod_pos_iff.mp hrest hdvd
  simp only [checkedCeilDiv, Checked.div, Checked.rem, if_neg (Nat.ne_of_gt hb),
    Option.bind_eq_bind, Option.bind_some, if_neg (udiv_ne_zero hb hle), if_neg hrest]

/-- Any other quotient is rounded up, and its divisor is the ceiling of the dividend by it. -/
theorem checkedCeilDiv_of_not_dvd (hb : 0 < b.toNat) (hle : b.toNat ≤ a.toNat)
    (hdvd : ¬b.toNat ∣ a.toNat) :
    ∃ q r : U128, checkedCeilDiv a b = some (q, r) ∧ q.toNat = a.toNat ⌈/⌉ b.toNat ∧
      r.toNat = a.toNat ⌈/⌉ q.toNat := by
  have hpos : 0 < a.toNat := Nat.lt_of_lt_of_le hb hle
  have hle_self : a.toNat ⌈/⌉ b.toNat ≤ a.toNat :=
    (ceilDiv_le_iff_le_mul hb).mpr (Nat.le_mul_of_pos_left _ hb)
  obtain ⟨q, hq, hqvalue⟩ := exists_add_one_udiv hb hdvd (lt_of_le_of_lt hle_self a.isLt)
  have hqpos : 0 < q.toNat := by
    rw [hqvalue, ceilDiv_of_not_dvd hb hdvd]
    exact Nat.succ_pos _
  have hbound : a.toNat ⌈/⌉ q.toNat ≤ b.toNat := by
    rw [hqvalue]
    exact (ceilDiv_ceilDiv hpos hb).1
  simp only [checkedCeilDiv, Checked.div, Checked.rem, if_neg (Nat.ne_of_gt hb),
    Option.bind_eq_bind, Option.bind_some, if_neg (udiv_ne_zero hb hle),
    if_pos (umod_pos_iff.mpr hdvd), hq, if_neg (Nat.ne_of_gt hqpos)]
  by_cases hagain : q.toNat ∣ a.toNat
  · have hexact : ¬a % q > 0 := fun hrest => umod_pos_iff.mp hrest hagain
    refine ⟨q, a / q, by rw [if_neg hexact], hqvalue, ?_⟩
    rw [BitVec.toNat_udiv, ceilDiv_of_dvd hqpos hagain]
  · obtain ⟨r, hr, hrvalue⟩ := exists_add_one_udiv hqpos hagain (lt_of_le_of_lt hbound b.isLt)
    refine ⟨q, r, ?_, hqvalue, hrvalue⟩
    rw [if_pos (umod_pos_iff.mpr hagain), hr, Option.bind_some]

end Cases

/-! ## 3. Both implementations -/

/-- `impl CheckedCeilDiv for u128`. -/
def CheckedCeilDiv.u128 (self rhs : U128) : Option (U128 × U128) := checkedCeilDiv self rhs

/-- `impl CheckedCeilDiv for U128`, the 128-bit integer of two words. -/
def CheckedCeilDiv.U128 (self rhs : U128) : Option (U128 × U128) := checkedCeilDiv self rhs

/-- A division of words that truncates on neither side: where it fails, how it rounds a dividend
    below the divisor, and elsewhere a quotient and a divisor that are the least to cover the
    dividend. -/
structure FairDivision (div : U128 → U128 → Option (U128 × U128)) : Prop where
  fails : ∀ a b, div a b = none ↔
    b.toNat = 0 ∨ (a.toNat < b.toNat ∧ 2 ^ 128 ≤ 2 * a.toNat)
  below : ∀ a b, a.toNat < b.toNat → 2 * a.toNat < 2 ^ 128 →
    (b.toNat ≤ 2 * a.toNat → div a b = some (1, 0)) ∧
      (2 * a.toNat < b.toNat → div a b = some (0, 0))
  covers : ∀ a b, 0 < b.toNat → b.toNat ≤ a.toNat → ∃ q r, div a b = some (q, r) ∧
    IsLeast {k | a.toNat ≤ k * b.toNat} q.toNat ∧
    (b.toNat ∣ a.toNat → r = b) ∧
    (¬b.toNat ∣ a.toNat → IsLeast {k | a.toNat ≤ q.toNat * k} r.toNat) ∧
    r.toNat ≤ b.toNat ∧ (q.toNat - 1) * r.toNat < a.toNat ∧ a.toNat ≤ q.toNat * r.toNat

/-- From the divisor on, the quotient and the divisor cover the dividend. -/
theorem checkedCeilDiv_covers {a b : U128} (hb : 0 < b.toNat) (hle : b.toNat ≤ a.toNat) :
    ∃ q r, checkedCeilDiv a b = some (q, r) ∧
      IsLeast {k | a.toNat ≤ k * b.toNat} q.toNat ∧
      (b.toNat ∣ a.toNat → r = b) ∧
      (¬b.toNat ∣ a.toNat → IsLeast {k | a.toNat ≤ q.toNat * k} r.toNat) ∧
      r.toNat ≤ b.toNat ∧ (q.toNat - 1) * r.toNat < a.toNat ∧ a.toNat ≤ q.toNat * r.toNat := by
  have hpos : 0 < a.toNat := Nat.lt_of_lt_of_le hb hle
  by_cases hdvd : b.toNat ∣ a.toNat
  · have hq : (a / b).toNat = a.toNat ⌈/⌉ b.toNat := by
      rw [BitVec.toNat_udiv, ceilDiv_of_dvd hb hdvd]
    have hexact : (a / b).toNat * b.toNat = a.toNat := by
      rw [BitVec.toNat_udiv, Nat.div_mul_cancel hdvd]
    refine ⟨a / b, b, checkedCeilDiv_of_dvd hb hle hdvd, ?_, fun _ => rfl, fun hnot =>
      absurd hdvd hnot, le_rfl, ?_, hexact.ge⟩
    · rw [hq]
      exact isLeast_ceilDiv hb
    · rw [Nat.sub_mul, Nat.one_mul, hexact]
      exact Nat.sub_lt hpos hb
  · obtain ⟨q, r, hdiv, hq, hr⟩ := checkedCeilDiv_of_not_dvd hb hle hdvd
    obtain ⟨hrle, hless, hcovers⟩ := ceilDiv_ceilDiv hpos hb
    rw [← hq, ← hr] at hrle hless hcovers
    have hqpos : 0 < q.toNat := by
      by_contra hzero
      rw [Nat.eq_zero_of_not_pos hzero, Nat.zero_mul] at hcovers
      omega
    refine ⟨q, r, hdiv, ?_, fun h => absurd h hdvd, fun _ => ?_, hrle, hless, hcovers⟩
    · rw [hq]
      exact isLeast_ceilDiv hb
    · rw [hr]
      simp only [Nat.mul_comm q.toNat]
      exact isLeast_ceilDiv hqpos

theorem checkedCeilDiv_isFair : FairDivision checkedCeilDiv where
  fails a b := by
    rcases Nat.eq_zero_or_pos b.toNat with hb | hb
    · exact iff_of_true (checkedCeilDiv_of_zero hb) (.inl hb)
    · rcases Nat.lt_or_ge a.toNat b.toNat with hlt | hle
      · rw [checkedCeilDiv_of_lt hlt]
        by_cases hfits : 2 * a.toNat < 2 ^ 128
        · rw [if_pos hfits]
          exact iff_of_false (by rintro ⟨⟩) (by omega)
        · rw [if_neg hfits]
          exact iff_of_true rfl (.inr ⟨hlt, Nat.le_of_not_lt hfits⟩)
      · obtain ⟨q, r, hdiv, -⟩ := checkedCeilDiv_covers hb hle
        rw [hdiv]
        exact iff_of_false (by rintro ⟨⟩) (by omega)
  below a b hlt hfits := by
    rw [checkedCeilDiv_of_lt hlt, if_pos hfits]
    constructor
    · intro hhalf
      rw [if_pos hhalf]
    · intro hsmall
      rw [if_neg (Nat.not_le_of_lt hsmall)]
  covers _ _ := checkedCeilDiv_covers

/-- Both implementations, on all words. -/
theorem checkedCeilDiv_fair :
    FairDivision CheckedCeilDiv.u128 ∧ FairDivision CheckedCeilDiv.U128 :=
  ⟨checkedCeilDiv_isFair, checkedCeilDiv_isFair⟩

end RaydiumAmm
