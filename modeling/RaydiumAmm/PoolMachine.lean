import RaydiumAmm.Quotes
import RaydiumAmm.ShareWorth
import RaydiumAmm.SlippageBounds

/-!
# The pool as a machine on three numbers

What a pool without the order book is for its users: the two reserves and the LP amount, moved by
requests whose outcome is a function of these numbers, the request and the fees.

1. `PoolRequest.next`: what an accepted request makes of the three numbers.
2. `PoolRequest.next_worthKept`: an accepted request keeps the worth of a share, except an exact-in
   swap towards coin that leaves less coin than there was pc.
-/

namespace RaydiumAmm

open ConstantProduct Rounding ShareValue

/-! ## 1. The machine -/

/-- What a user asks of a pool; a swap with the direction that its accounts give it. `gift` is not
    a request of this program: anyone can send tokens to a vault. -/
inductive PoolRequest where
  | deposit (request : DepositInstruction)
  | withdraw (request : WithdrawInstruction)
  | swapBaseIn (dir : SwapDirection) (request : SwapInstructionBaseIn)
  | swapBaseOut (dir : SwapDirection) (request : SwapInstructionBaseOut)
  | gift (coin pc : ℕ)

/-- What a swap makes of the numbers by a payment in of `paid` and a payment out of `out`. -/
def SwapDirection.exchange (dir : SwapDirection) (p : ShareValue.Pool) (paid out : ℕ) :
    ShareValue.Pool :=
  match dir with
  | .coin2Pc => ⟨p.x + paid, p.y - out, p.shares⟩
  | .pc2Coin => ⟨p.x - out, p.y + paid, p.shares⟩

/-- What an exact-in swap pays in: towards coin it is the amount out. -/
def SwapDirection.paidBaseIn (dir : SwapDirection) (amountIn out : ℕ) : ℕ :=
  match dir with
  | .coin2Pc => amountIn
  | .pc2Coin => out

/-- The coin, the pc and the LP of a deposit. -/
def DepositInstruction.price (deposit : DepositInstruction) (p : ShareValue.Pool) : ℕ × ℕ × ℕ :=
  if deposit.baseSide = 0 then
    (deposit.maxCoinAmount.toNat, softCeil (deposit.maxCoinAmount.toNat * p.y) p.x,
      p.shares * deposit.maxCoinAmount.toNat / p.x)
  else
    (softCeil (deposit.maxPcAmount.toNat * p.x) p.y, deposit.maxPcAmount.toNat,
      p.shares * deposit.maxPcAmount.toNat / p.y)

/-- The amounts of a deposit are within the bounds that the user gave. -/
def DepositInstruction.Accepts (deposit : DepositInstruction) (coin pc : ℕ) : Prop :=
  coin ≤ deposit.maxCoinAmount.toNat ∧ pc ≤ deposit.maxPcAmount.toNat ∧
    ∀ m ∈ deposit.otherAmountMin, m.toNat ≤ if deposit.baseSide = 0 then pc else coin

instance DepositInstruction.decidableAccepts (deposit : DepositInstruction) (coin pc : ℕ) :
    Decidable (deposit.Accepts coin pc) := by
  unfold DepositInstruction.Accepts
  infer_instance

/-- The payouts of a withdraw are within the bounds that the user gave, where both were given. -/
def WithdrawInstruction.Accepts (withdraw : WithdrawInstruction) (coin pc : ℕ) : Prop :=
  ∀ b ∈ withdraw.bounds, b.1.toNat ≤ coin ∧ b.2.toNat ≤ pc

instance WithdrawInstruction.decidableAccepts (withdraw : WithdrawInstruction) (coin pc : ℕ) :
    Decidable (withdraw.Accepts coin pc) :=
  Option.decidableForallMem withdraw.bounds

/-- The output of an exact-in swap. -/
def SwapInstructionBaseIn.output (swap : SwapInstructionBaseIn) (fees : Fees) (dir : SwapDirection)
    (p : ShareValue.Pool) : ℕ :=
  outGivenIn (dir.reserveIn p.x p.y) (dir.reserveOut p.x p.y)
    (swap.amountIn.toNat - fees.rounded swap.amountIn.toNat)

/-- The input of an exact-out swap. -/
def SwapInstructionBaseOut.input (swap : SwapInstructionBaseOut) (fees : Fees)
    (dir : SwapDirection) (p : ShareValue.Pool) : ℕ :=
  fees.required (dir.reserveIn p.x p.y) (dir.reserveOut p.x p.y) swap.amountOut.toNat

/-- What an accepted request makes of the numbers. -/
def PoolRequest.next (fees : Fees) (p : ShareValue.Pool) : PoolRequest → Option ShareValue.Pool
  | .deposit request =>
    let (coin, pc, lp) := request.price p
    if request.Accepts coin pc ∧ 0 < coin ∧ 0 < pc ∧ 0 < lp then
      some ⟨p.x + coin, p.y + pc, p.shares + lp⟩
    else none
  | .withdraw request =>
    let coin := p.x * request.amount.toNat / p.shares
    let pc := p.y * request.amount.toNat / p.shares
    if request.amount.toNat < p.shares ∧ request.Accepts coin pc ∧ 0 < coin ∧ 0 < pc then
      some ⟨p.x - coin, p.y - pc, p.shares - request.amount.toNat⟩
    else none
  | .swapBaseIn dir request =>
    let out := request.output fees dir p
    if request.minimumAmountOut.toNat ≤ out ∧ 0 < out ∧ out < dir.reserveOut p.x p.y then
      some (dir.exchange p (dir.paidBaseIn request.amountIn.toNat out) out)
    else none
  | .swapBaseOut dir request =>
    let paid := request.input fees dir p
    if paid ≤ request.maxAmountIn.toNat ∧ 0 < paid ∧
        request.amountOut.toNat < dir.reserveOut p.x p.y then
      some (dir.exchange p paid request.amountOut.toNat)
    else none
  | .gift coin pc => some ⟨p.x + coin, p.y + pc, p.shares⟩

/-- An exact-in swap towards coin leaves at least as much coin as there was pc; the other requests
    are fair as they are. -/
def PoolRequest.Fair (fees : Fees) (p : ShareValue.Pool) : PoolRequest → Prop
  | .swapBaseIn .pc2Coin request => request.output fees .pc2Coin p + p.y ≤ p.x
  | _ => True

/-! ## 2. The worth of a share -/

section Worth

variable {fees : Fees} {p p' : ShareValue.Pool}

/-- Both sides of a deposit pay for the LP that it mints. -/
theorem DepositInstruction.price_pays {deposit : DepositInstruction}
    (hcoin : 0 < (deposit.price p).1) (hpc : 0 < (deposit.price p).2.1)
    (hlp : 0 < (deposit.price p).2.2) :
    (deposit.price p).2.2 * p.x ≤ p.shares * (deposit.price p).1 ∧
      (deposit.price p).2.2 * p.y ≤ p.shares * (deposit.price p).2.1 := by
  have hdivisor : ∀ a b : ℕ, 0 < a / b → 0 < b := fun a b h =>
    Nat.pos_of_ne_zero fun h0 => by simp [h0] at h
  unfold DepositInstruction.price at *
  split at hcoin
  next hside =>
    simp only [if_pos hside] at hpc hlp ⊢
    have hpaid := Nat.div_mul_le_self (p.shares * deposit.maxCoinAmount.toNat) p.x
    have hx := hdivisor _ _ hlp
    exact ⟨hpaid, mint_other_side hx hpaid (le_softCeil_mul hx hpc.ne')⟩
  next hside =>
    simp only [if_neg hside] at hpc hlp ⊢
    have hpaid := Nat.div_mul_le_self (p.shares * deposit.maxPcAmount.toNat) p.y
    have hy := hdivisor _ _ hlp
    exact ⟨mint_other_side hy hpaid (le_softCeil_mul hy hcoin.ne'), hpaid⟩

/-- A payment in of at least what the payment out costs keeps the product. -/
theorem SwapDirection.exchange_worthKept {dir : SwapDirection} {paid out : ℕ}
    (h : dir.reserveIn p.x p.y * dir.reserveOut p.x p.y ≤
      (dir.reserveIn p.x p.y + paid) * (dir.reserveOut p.x p.y - out)) :
    WorthKept p (dir.exchange p paid out) := by
  cases dir with
  | coin2Pc => exact .of_product rfl h
  | pc2Coin =>
    refine .of_product rfl ?_
    show p.x * p.y ≤ (p.x - out) * (p.y + paid)
    rw [mul_comm p.x, mul_comm (p.x - out)]
    exact h

/-- What an exact-out swap pays in covers the amount out. -/
theorem Fees.required_cover {rin rout out : ℕ} (hlt : out < rout)
    (hpos : 0 < fees.required rin rout out) :
    rin * rout ≤ (rin + fees.required rin rout out) * (rout - out) := by
  have hrest : 0 < rout - out := Nat.sub_pos_of_lt hlt
  unfold Fees.required at *
  generalize hnet : softCeil (rin * out) (rout - out) = net at *
  have hshare : 0 < fees.swapFeeDenominator.toNat - fees.swapFeeNumerator.toNat := by
    rcases Nat.eq_zero_or_pos
      (fees.swapFeeDenominator.toNat - fees.swapFeeNumerator.toNat) with h0 | h0
    · rw [h0, softCeil, if_neg (Nat.not_lt_zero _), Nat.div_zero] at hpos
      exact absurd hpos (lt_irrefl 0)
    · exact h0
  have hne : net ≠ 0 := by
    rintro rfl
    rw [Nat.zero_mul, (softCeil_eq_zero hshare).mpr hshare] at hpos
    exact absurd hpos (lt_irrefl 0)
  refine product_le_of_cover (i := net) (Nat.le_of_lt hlt) ?_ ?_
  · rw [← hnet]
    exact le_softCeil_mul hrest (hnet ▸ hne)
  · exact le_softCeil_mul_div hshare (Nat.sub_le _ _)

/-- An accepted fair request keeps the worth of a share. -/
theorem PoolRequest.next_worthKept {r : PoolRequest} (hfair : r.Fair fees p)
    (h : r.next fees p = some p') : WorthKept p p' := by
  cases r with
  | deposit request =>
    simp only [PoolRequest.next, Option.ite_none_right_eq_some, Option.some.injEq] at h
    obtain ⟨⟨-, hcoin, hpc, hlp⟩, rfl⟩ := h
    obtain ⟨hx, hy⟩ := request.price_pays hcoin hpc hlp
    exact (Step.join hx hy le_rfl le_rfl).worthKept
  | withdraw request =>
    simp only [PoolRequest.next, Option.ite_none_right_eq_some, Option.some.injEq] at h
    obtain ⟨⟨hlt, -, -, -⟩, rfl⟩ := h
    have hshare : ∀ a, a * request.amount.toNat / p.shares ≤ a := fun a =>
      Nat.div_le_of_le_mul (by rw [mul_comm]; exact Nat.mul_le_mul_right a (Nat.le_of_lt hlt))
    exact (Step.leave hlt (hshare _) (hshare _) (Nat.div_mul_le_self _ _)
      (Nat.div_mul_le_self _ _) le_rfl le_rfl).worthKept
  | swapBaseIn dir request =>
    simp only [PoolRequest.next, Option.ite_none_right_eq_some, Option.some.injEq] at h
    obtain ⟨⟨-, hpos, hlt⟩, rfl⟩ := h
    cases dir with
    | coin2Pc => exact SwapDirection.exchange_worthKept (product_le_of_outGivenIn (Nat.sub_le _ _))
    | pc2Coin =>
      -- both payments are the amount out
      exact .of_product rfl ((product_le_iff_of_equal_move hpos (Nat.le_of_lt hlt)).mpr hfair)
  | swapBaseOut dir request =>
    simp only [PoolRequest.next, Option.ite_none_right_eq_some, Option.some.injEq] at h
    obtain ⟨⟨-, hpos, hlt⟩, rfl⟩ := h
    exact SwapDirection.exchange_worthKept (Fees.required_cover hlt hpos)
  | gift coin pc =>
    cases h
    exact .of_product rfl (Nat.mul_le_mul (Nat.le_add_right _ _) (Nat.le_add_right _ _))

/-- An accepted request leaves LP in circulation. -/
theorem PoolRequest.next_shares_pos {r : PoolRequest} (hpos : 0 < p.shares)
    (h : r.next fees p = some p') : 0 < p'.shares := by
  cases r with
  | deposit request =>
    simp only [PoolRequest.next, Option.ite_none_right_eq_some, Option.some.injEq] at h
    obtain ⟨-, rfl⟩ := h
    exact Nat.add_pos_left hpos _
  | withdraw request =>
    simp only [PoolRequest.next, Option.ite_none_right_eq_some, Option.some.injEq] at h
    obtain ⟨⟨hlt, -⟩, rfl⟩ := h
    exact Nat.sub_pos_of_lt hlt
  | swapBaseIn dir request =>
    simp only [PoolRequest.next, Option.ite_none_right_eq_some, Option.some.injEq] at h
    obtain ⟨-, rfl⟩ := h
    cases dir <;> exact hpos
  | swapBaseOut dir request =>
    simp only [PoolRequest.next, Option.ite_none_right_eq_some, Option.some.injEq] at h
    obtain ⟨-, rfl⟩ := h
    cases dir <;> exact hpos
  | gift coin pc =>
    cases h
    exact hpos

end Worth

end RaydiumAmm
