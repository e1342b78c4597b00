import Mathlib.Data.Nat.Basic
import Mathlib.Tactic.Ring

/-!
# Checked and saturating machine arithmetic

The operations on fixed-width unsigned words that report an overflow, with one lemma each that
says in `Nat` what a successful call returned. Code that computes with checked operations only is
then reasoned about in `Nat`, with no modulus anywhere.
-/

namespace Checked

variable {w v : Nat}

/-- `checked_add`. -/
def add (a b : BitVec w) : Option (BitVec w) :=
  if a.toNat + b.toNat < 2 ^ w then some (a + b) else none

/-- `checked_sub`. -/
def sub (a b : BitVec w) : Option (BitVec w) :=
  if b.toNat ≤ a.toNat then some (a - b) else none

/-- `checked_mul`. -/
def mul (a b : BitVec w) : Option (BitVec w) :=
  if a.toNat * b.toNat < 2 ^ w then some (a * b) else none

/-- `checked_div`. -/
def div (a b : BitVec w) : Option (BitVec w) :=
  if b.toNat = 0 then none else some (a / b)

/-- `checked_rem`. -/
def rem (a b : BitVec w) : Option (BitVec w) :=
  if b.toNat = 0 then none else some (a % b)

/-- `checked_pow`. -/
def pow (a : BitVec w) (n : Nat) : Option (BitVec w) :=
  if a.toNat ^ n < 2 ^ w then some (BitVec.ofNat w (a.toNat ^ n)) else none

/-- `saturating_add`. -/
def satAdd (a b : BitVec w) : BitVec w :=
  if a.toNat + b.toNat < 2 ^ w then a + b else BitVec.allOnes w

/-- `saturating_sub`. -/
def satSub (a b : BitVec w) : BitVec w :=
  if b.toNat ≤ a.toNat then a - b else 0

/-- A conversion to a narrower word that fails where the value does not fit. -/
def narrow (v : Nat) (a : BitVec w) : Option (BitVec v) :=
  if a.toNat < 2 ^ v then some (a.setWidth v) else none

/-- Every number of `w` bits is a word. -/
theorem exists_toNat_eq {n : Nat} (h : n < 2 ^ w) : ∃ a : BitVec w, a.toNat = n :=
  ⟨BitVec.ofNat w n, by rw [BitVec.toNat_ofNat, Nat.mod_eq_of_lt h]⟩

theorem add_eq_some {a b c : BitVec w} : add a b = some c ↔ c.toNat = a.toNat + b.toNat := by
  unfold add
  have hc := c.isLt
  split
  next h =>
    rw [Option.some.injEq, ← BitVec.toNat_inj, BitVec.toNat_add, Nat.mod_eq_of_lt h]
    exact eq_comm
  next h =>
    constructor
    · intro h'
      cases h'
    · intro h'
      omega

theorem sub_eq_some {a b c : BitVec w} : sub a b = some c ↔ a.toNat = b.toNat + c.toNat := by
  unfold sub
  have ha := a.isLt
  split
  next h =>
    rw [Option.some.injEq, ← BitVec.toNat_inj, BitVec.toNat_sub_of_le (BitVec.le_def.mpr h)]
    omega
  next h =>
    constructor
    · intro h'
      cases h'
    · intro h'
      omega

theorem mul_eq_some {a b c : BitVec w} : mul a b = some c ↔ c.toNat = a.toNat * b.toNat := by
  unfold mul
  have hc := c.isLt
  split
  next h =>
    rw [Option.some.injEq, ← BitVec.toNat_inj, BitVec.toNat_mul, Nat.mod_eq_of_lt h]
    exact eq_comm
  next h =>
    constructor
    · intro h'
      cases h'
    · intro h'
      omega

theorem div_eq_some {a b c : BitVec w} :
    div a b = some c ↔ b.toNat ≠ 0 ∧ c.toNat = a.toNat / b.toNat := by
  unfold div
  split
  next h => simp [h]
  next h =>
    rw [Option.some.injEq, ← BitVec.toNat_inj, BitVec.toNat_udiv]
    simp [h, eq_comm]

theorem pow_eq_some {a c : BitVec w} {n : Nat} : pow a n = some c ↔ c.toNat = a.toNat ^ n := by
  unfold pow
  have hc := c.isLt
  split
  next h =>
    rw [Option.some.injEq, ← BitVec.toNat_inj, BitVec.toNat_ofNat, Nat.mod_eq_of_lt h]
    exact eq_comm
  next h =>
    constructor
    · intro h'
      cases h'
    · intro h'
      omega

theorem narrow_eq_some {a : BitVec w} {c : BitVec v} :
    narrow v a = some c ↔ c.toNat = a.toNat := by
  unfold narrow
  have hc := c.isLt
  split
  next h =>
    rw [Option.some.injEq, ← BitVec.toNat_inj, BitVec.toNat_setWidth, Nat.mod_eq_of_lt h]
    exact eq_comm
  next h =>
    constructor
    · intro h'
      cases h'
    · intro h'
      omega

theorem toNat_satAdd {a b : BitVec w} :
    (satAdd a b).toNat = min (a.toNat + b.toNat) (2 ^ w - 1) := by
  unfold satAdd
  have ha := a.isLt
  split
  next h =>
    rw [BitVec.toNat_add, Nat.mod_eq_of_lt h]
    omega
  next h =>
    rw [BitVec.toNat_allOnes]
    omega

theorem toNat_satSub {a b : BitVec w} : (satSub a b).toNat = a.toNat - b.toNat := by
  unfold satSub
  split
  next h => rw [BitVec.toNat_sub_of_le (BitVec.le_def.mpr h)]
  next h =>
    rw [show (0 : BitVec w).toNat = 0 from BitVec.toNat_zero]
    omega

/-- Widening keeps the value. -/
theorem toNat_widen {a : BitVec w} (h : w ≤ v) : (a.setWidth v).toNat = a.toNat := by
  rw [BitVec.toNat_setWidth]
  exact Nat.mod_eq_of_lt (Nat.lt_of_lt_of_le a.isLt (Nat.pow_le_pow_right (by decide) h))

end Checked
