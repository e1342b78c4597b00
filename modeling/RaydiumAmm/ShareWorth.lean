import RaydiumAmm.ConstantProduct

/-!
# The worth of a share

The product of two reserves against the square of the shares in them. Joins, leaves and trades at
the product keep it, so it is the value that mixed runs of them compare.
-/

namespace ShareValue

variable {p p' p'' : Pool}

/-- The product of the reserves behind the squared shares does not fall. -/
def WorthKept (p p' : Pool) : Prop :=
  p.x * p.y * p'.shares ^ 2 ≤ p'.x * p'.y * p.shares ^ 2

theorem WorthKept.refl (p : Pool) : WorthKept p p := le_refl _

theorem WorthKept.trans (hpos : 0 < p'.shares) (h : WorthKept p p') (h' : WorthKept p' p'') :
    WorthKept p p'' := by
  unfold WorthKept at *
  refine Nat.le_of_mul_le_mul_right ?_ (Nat.pow_pos (n := 2) hpos)
  calc p.x * p.y * p''.shares ^ 2 * p'.shares ^ 2
      = p.x * p.y * p'.shares ^ 2 * p''.shares ^ 2 := by ring
    _ ≤ p'.x * p'.y * p.shares ^ 2 * p''.shares ^ 2 := Nat.mul_le_mul_right _ h
    _ = p'.x * p'.y * p''.shares ^ 2 * p.shares ^ 2 := by ring
    _ ≤ p''.x * p''.y * p'.shares ^ 2 * p.shares ^ 2 := Nat.mul_le_mul_right _ h'
    _ = p''.x * p''.y * p.shares ^ 2 * p'.shares ^ 2 := by ring

/-- A pool whose sides are not diluted keeps its worth. -/
theorem WorthKept.of_notDiluted (hx : NotDiluted p.x p.shares p'.x p'.shares)
    (hy : NotDiluted p.y p.shares p'.y p'.shares) : WorthKept p p' := by
  unfold NotDiluted at hx hy
  unfold WorthKept
  calc p.x * p.y * p'.shares ^ 2
      = p.x * p'.shares * (p.y * p'.shares) := by ring
    _ ≤ p'.x * p.shares * (p'.y * p.shares) := Nat.mul_le_mul hx hy
    _ = p'.x * p'.y * p.shares ^ 2 := by ring

/-- What holders do keeps the worth. -/
theorem Step.worthKept (h : Step p p') : WorthKept p p' := by
  cases h with
  | join hx hy hx' hy' =>
    exact .of_notDiluted ((NotDiluted.mint hx).mono hx') ((NotDiluted.mint hy).mono hy')
  | leave hm hox hoy hx hy hx' hy' =>
    exact .of_notDiluted ((NotDiluted.burn hox (Nat.le_of_lt hm) hx).mono hx')
      ((NotDiluted.burn hoy (Nat.le_of_lt hm) hy).mono hy')

/-- A trade keeps the worth where it keeps the product. -/
theorem WorthKept.of_product (hshares : p'.shares = p.shares) (h : p.x * p.y ≤ p'.x * p'.y) :
    WorthKept p p' := by
  unfold WorthKept
  rw [hshares]
  exact Nat.mul_le_mul_right _ h

end ShareValue
