import RaydiumAmm.LiquidityEffect
import RaydiumAmm.Quotes
import RaydiumAmm.Reference

/-!
# Withdraws from a closing pool

A pool in the status `WithdrawOnly` books no profit, so a withdraw takes nothing but its payout off
the baselines.

1. A scaled floor is superadditive, with an error of one unit at most.
2. `exists_baseline`: one side of the bookkeeping.
3. `withdrawOnly_tracks`: the payouts and both baselines of a withdraw.
4. `withdrawBody_of_withdrawOnly`: the handler with that arithmetic done, and what it stores.
-/

namespace Rounding

variable {s u : ℕ}

/-- Scaling the parts of an amount loses one unit at most against scaling the whole. -/
theorem scaled_add (hu : 0 < u) (m n : ℕ) :
    m * s / u + n * s / u ≤ (m + n) * s / u ∧
      (m + n) * s / u ≤ m * s / u + n * s / u + 1 := by
  rw [Nat.add_mul, Nat.add_div hu]
  split
  · exact ⟨Nat.le_succ _, le_rfl⟩
  · exact ⟨le_rfl, Nat.le_succ _⟩

end Rounding

namespace RaydiumAmm

/-- The baseline `b` is the normalized amount that remains, or one unit more. -/
def Tracks (b : U128) (remaining decimals sysDecimalValue : U64) : Prop :=
  ∃ n, Calculator.normalizeDecimalV2 remaining decimals sysDecimalValue = .ok n ∧
    n.toNat ≤ b.toNat ∧ b.toNat ≤ n.toNat + 1

/-- One side of a withdraw without a profit: the total is normalized, the payout comes off it
    without an abort, and the new baseline tracks what remains. -/
theorem exists_baseline {total paid decimals : U64} (sysDecimalValue : U64)
    (hunit : decimals.toNat ≤ 19) (hpaid : paid.toNat ≤ total.toNat) :
    ∃ x b, Calculator.normalizeDecimalV2 total decimals sysDecimalValue = .ok x ∧
      withdrawBaseline x paid decimals sysDecimalValue 0 = .ok b ∧
      Tracks b (total - paid) decimals sysDecimalValue := by
  have hfits : 10 ^ decimals.toNat < 2 ^ 128 :=
    lt_of_le_of_lt (Nat.pow_le_pow_right (by decide) hunit) (by decide)
  obtain ⟨x, hx⟩ := (exists_normalizeDecimalV2 total decimals sysDecimalValue).mpr hfits
  obtain ⟨y, hy⟩ := (exists_normalizeDecimalV2 paid decimals sysDecimalValue).mpr hfits
  obtain ⟨n, hn⟩ := (exists_normalizeDecimalV2 (total - paid) decimals sysDecimalValue).mpr hfits
  have hxvalue := (normalizeDecimalV2_eq_ok.mp hx).2
  have hyvalue := (normalizeDecimalV2_eq_ok.mp hy).2
  have hnvalue := (normalizeDecimalV2_eq_ok.mp hn).2
  rw [BitVec.toNat_sub_of_le (BitVec.le_def.mpr hpaid)] at hnvalue
  -- the total is what remains and what is paid
  obtain ⟨hlow, hhigh⟩ := Rounding.scaled_add (s := sysDecimalValue.toNat)
    (Nat.pow_pos (n := decimals.toNat) (by decide : 0 < 10)) (total.toNat - paid.toNat) paid.toNat
  rw [Nat.sub_add_cancel hpaid, ← hnvalue, ← hyvalue, ← hxvalue] at hlow hhigh
  obtain ⟨b, hb⟩ : ∃ b : U128, Checked.sub x y = some b := ⟨_, if_pos (by omega)⟩
  have hbvalue := Checked.sub_eq_some.mp hb
  have hzero : Checked.sub b 0 = some b := Checked.sub_eq_some.mpr (Nat.zero_add _).symm
  refine ⟨x, b, hx, ?_, n, hn, by omega, by omega⟩
  simp only [withdrawBaseline, hy, Outcome.ok_bind, hb, Outcome.unwrap, hzero]

/-- Without a profit the totals and the record of a withdraw are those it has read. -/
theorem withdrawTakePnl_of_withdrawOnly {c : WithdrawContext}
    (h : c.amm.status = AmmStatus.withdrawOnly.intoU64) :
    withdrawTakePnl c = {
      amm := c.amm
      totalPcWithoutTakePnl := c.totalPcWithoutTakePnl
      totalCoinWithoutTakePnl := c.totalCoinWithoutTakePnl
      deltaX := 0
      deltaY := 0 } :=
  if_neg (not_not.mpr h)

/-- A floored share of a total is no more than the total. -/
theorem share_le {total amount lp : ℕ} (h : amount < lp) : total * amount / lp ≤ total := by
  refine Nat.div_le_of_le_mul ?_
  rw [Nat.mul_comm lp]
  exact Nat.mul_le_mul_left _ (Nat.le_of_lt h)

/-- A withdraw of `amount` shares: its payouts are at most the totals, the last updates of the
    handler do not abort, and each new baseline tracks what remains. -/
def WithdrawTracks (c : WithdrawContext) (amount : U64) : Prop :=
  let p := withdrawTakePnl c
  ∃ coinAmount pcAmount x1 y1 calcPnlX calcPnlY,
    withdrawAmounts amount p.amm.lpAmount p.totalCoinWithoutTakePnl p.totalPcWithoutTakePnl =
      .ok (coinAmount, pcAmount) ∧
    coinAmount ≤ c.totalCoinWithoutTakePnl ∧ pcAmount ≤ c.totalPcWithoutTakePnl ∧
    Calculator.normalizeDecimalV2 c.totalPcWithoutTakePnl c.amm.pcDecimals
      c.amm.sysDecimalValue = .ok x1 ∧
    Calculator.normalizeDecimalV2 c.totalCoinWithoutTakePnl c.amm.coinDecimals
      c.amm.sysDecimalValue = .ok y1 ∧
    withdrawBaseline x1 pcAmount p.amm.pcDecimals p.amm.sysDecimalValue p.deltaX =
      .ok calcPnlX ∧
    withdrawBaseline y1 coinAmount p.amm.coinDecimals p.amm.sysDecimalValue p.deltaY =
      .ok calcPnlY ∧
    Tracks calcPnlX (c.totalPcWithoutTakePnl - pcAmount) c.amm.pcDecimals
      c.amm.sysDecimalValue ∧
    Tracks calcPnlY (c.totalCoinWithoutTakePnl - coinAmount) c.amm.coinDecimals
      c.amm.sysDecimalValue

/-- A withdraw without a profit, on any totals. -/
theorem exists_payout (c : WithdrawContext) {amount : U64}
    (hcoinDecimals : c.amm.coinDecimals.toNat ≤ 19) (hpcDecimals : c.amm.pcDecimals.toNat ≤ 19)
    (hamount : amount < c.amm.lpAmount) :
    ∃ coinAmount pcAmount x1 y1 calcPnlX calcPnlY,
      withdrawAmounts amount c.amm.lpAmount c.totalCoinWithoutTakePnl c.totalPcWithoutTakePnl =
        .ok (coinAmount, pcAmount) ∧
      coinAmount ≤ c.totalCoinWithoutTakePnl ∧ pcAmount ≤ c.totalPcWithoutTakePnl ∧
      Calculator.normalizeDecimalV2 c.totalPcWithoutTakePnl c.amm.pcDecimals
        c.amm.sysDecimalValue = .ok x1 ∧
      Calculator.normalizeDecimalV2 c.totalCoinWithoutTakePnl c.amm.coinDecimals
        c.amm.sysDecimalValue = .ok y1 ∧
      withdrawBaseline x1 pcAmount c.amm.pcDecimals c.amm.sysDecimalValue 0 = .ok calcPnlX ∧
      withdrawBaseline y1 coinAmount c.amm.coinDecimals c.amm.sysDecimalValue 0 = .ok calcPnlY ∧
      Tracks calcPnlX (c.totalPcWithoutTakePnl - pcAmount) c.amm.pcDecimals
        c.amm.sysDecimalValue ∧
      Tracks calcPnlY (c.totalCoinWithoutTakePnl - coinAmount) c.amm.coinDecimals
        c.amm.sysDecimalValue := by
  obtain ⟨⟨coinAmount, pcAmount⟩, hamounts⟩ := exists_withdrawAmounts hamount
    c.totalCoinWithoutTakePnl c.totalPcWithoutTakePnl
  obtain ⟨-, hcoin, hpc⟩ := withdrawAmounts_eq_ok hamounts
  have hshare := BitVec.lt_def.mp hamount
  have hcoinLe : coinAmount.toNat ≤ c.totalCoinWithoutTakePnl.toNat := hcoin ▸ share_le hshare
  have hpcLe : pcAmount.toNat ≤ c.totalPcWithoutTakePnl.toNat := hpc ▸ share_le hshare
  obtain ⟨x1, calcPnlX, hx1, hX, htracksX⟩ :=
    exists_baseline c.amm.sysDecimalValue hpcDecimals hpcLe
  obtain ⟨y1, calcPnlY, hy1, hY, htracksY⟩ :=
    exists_baseline c.amm.sysDecimalValue hcoinDecimals hcoinLe
  exact ⟨coinAmount, pcAmount, x1, y1, calcPnlX, calcPnlY, hamounts, BitVec.le_def.mpr hcoinLe,
    BitVec.le_def.mpr hpcLe, hx1, hy1, hX, hY, htracksX, htracksY⟩

/-- Every withdraw of less than all shares from a pool in the status `WithdrawOnly`. -/
theorem withdrawOnly_tracks (c : WithdrawContext) (amount : U64)
    (hstatus : c.amm.status = AmmStatus.withdrawOnly.intoU64)
    (hcoinDecimals : c.amm.coinDecimals.toNat ≤ 19) (hpcDecimals : c.amm.pcDecimals.toNat ≤ 19)
    (hamount : amount < c.amm.lpAmount) : WithdrawTracks c amount := by
  unfold WithdrawTracks
  rw [withdrawTakePnl_of_withdrawOnly hstatus]
  exact exists_payout c hcoinDecimals hpcDecimals hamount

namespace Reference

/-- A closing pool with a coin of 9 decimals and a pc of 6. -/
def closingContext : WithdrawContext where
  amm := { pool .withdrawOnly 1000 with
    coinDecimals := 9, pcDecimals := 6, sysDecimalValue := 1000000000 }
  targetOrders := { blankTargetOrders with owner := key 10 }
  ammCoinVault := { mint := key 40, owner := authority, amount := 1000000 }
  ammPcVault := { mint := key 41, owner := authority, amount := 5000000 }
  totalPcWithoutTakePnl := 5000000
  totalCoinWithoutTakePnl := 1000000

end Reference

/-- A withdraw of 7 of its 1000 shares. -/
theorem withdrawOnly_tracks_closing : WithdrawTracks Reference.closingContext 7 :=
  withdrawOnly_tracks Reference.closingContext 7 rfl (by decide) (by decide) (by decide)

/-! ## The handler -/

section Handler

variable {env : Env} {programId : Pubkey} {a : WithdrawAccounts} {withdraw : WithdrawInstruction}
  {w w' : World} {c : WithdrawContext}

/-- What the handler does once it has its totals: with the status `WithdrawOnly` none of its
    arithmetic aborts, and what is left is its checks, its calls and its two writes. -/
theorem withdrawBody_of_withdrawOnly
    (hpro : withdrawPrologue env programId a withdraw w = .ok (c, w'))
    (hstatus : c.amm.status = AmmStatus.withdrawOnly.intoU64)
    (hcoinDecimals : c.amm.coinDecimals.toNat ≤ 19) (hpcDecimals : c.amm.pcDecimals.toNat ≤ 19) :
    ∃ coinAmount pcAmount calcPnlX calcPnlY,
      coinAmount ≤ c.totalCoinWithoutTakePnl ∧ pcAmount ≤ c.totalPcWithoutTakePnl ∧
      Tracks calcPnlX (c.totalPcWithoutTakePnl - pcAmount) c.amm.pcDecimals
        c.amm.sysDecimalValue ∧
      Tracks calcPnlY (c.totalCoinWithoutTakePnl - coinAmount) c.amm.coinDecimals
        c.amm.sysDecimalValue ∧
      withdrawBody env programId a withdraw w = (do
        check (¬(withdraw.amount = 0 ∨ coinAmount = 0 ∨ pcAmount = 0)) .invalidInput
        check (coinAmount < c.ammCoinVault.amount ∧ pcAmount < c.ammPcVault.amount) .takePnlError
        withdrawSlippage withdraw coinAmount pcAmount
        let w₁ ← tokenTransferWithAuthority env programId a.tokenProgramInfo a.ammCoinVaultInfo
          a.userDestCoinInfo a.ammAuthorityInfo AUTHORITY_AMM c.amm.nonceU8 coinAmount
          a.ammCoinMintInfo [] w'
        let w₂ ← tokenTransferWithAuthority env programId a.tokenProgramInfo a.ammPcVaultInfo
          a.userDestPcInfo a.ammAuthorityInfo AUTHORITY_AMM c.amm.nonceU8 pcAmount a.ammPcMintInfo
          [] w₁
        let w₃ ← tokenBurn env a.tokenProgramInfo a.userSourceLpInfo a.ammLpMintInfo
          a.sourceLpOwnerInfo withdraw.amount w₂
        let w₄ := w₃.dropRefMut a.ammTargetOrdersInfo.key
          (.targetOrders { c.targetOrders with calcPnlX, calcPnlY })
        return w₄.dropRefMut a.ammInfo.key (.amm { c.amm with
          lpAmount := c.amm.lpAmount - withdraw.amount, recentEpoch := w₄.clock.epoch })) := by
  obtain ⟨hchecked, -⟩ := withdrawPrologue_totals hpro
  have hlt : withdraw.amount < c.amm.lpAmount := BitVec.lt_def.mpr hchecked.amount_lt
  obtain ⟨coinAmount, pcAmount, x1, y1, calcPnlX, calcPnlY, hamounts, hcoinLe, hpcLe, hx1, hy1, hX,
    hY, htracksX, htracksY⟩ := exists_payout c hcoinDecimals hpcDecimals hlt
  refine ⟨coinAmount, pcAmount, calcPnlX, calcPnlY, hcoinLe, hpcLe, htracksX, htracksY, ?_⟩
  have hlp : Checked.sub c.amm.lpAmount withdraw.amount =
      some (c.amm.lpAmount - withdraw.amount) := if_pos (Nat.le_of_lt hchecked.amount_lt)
  simp only [withdrawBody, hpro, Outcome.ok_bind, hx1, hy1, withdrawTakePnl_of_withdrawOnly hstatus,
    hamounts, hlp, Outcome.unwrap, hX, hY]

/-- The baselines that a withdraw from a closing pool stores. -/
theorem withdrawBody_stores_baselines {amm : AmmInfo}
    (hdata : (w.accounts a.ammInfo.key).data = .amm amm)
    (hstatus : amm.status = AmmStatus.withdrawOnly.intoU64)
    (hcoinDecimals : amm.coinDecimals.toNat ≤ 19) (hpcDecimals : amm.pcDecimals.toNat ≤ 19)
    (h : withdrawBody env programId a withdraw w = .ok w') :
    ∃ c w₀ coinAmount pcAmount t, withdrawPrologue env programId a withdraw w = .ok (c, w₀) ∧
      coinAmount ≤ c.totalCoinWithoutTakePnl ∧ pcAmount ≤ c.totalPcWithoutTakePnl ∧
      (w'.accounts a.ammTargetOrdersInfo.key).data = .targetOrders t ∧
      Tracks t.calcPnlX (c.totalPcWithoutTakePnl - pcAmount) amm.pcDecimals amm.sysDecimalValue ∧
      Tracks t.calcPnlY (c.totalCoinWithoutTakePnl - coinAmount) amm.coinDecimals
        amm.sysDecimalValue := by
  obtain ⟨⟨c, w₀⟩, hpro, -⟩ := Outcome.bind_eq_ok.mp h
  obtain ⟨hchecked, -⟩ := withdrawPrologue_totals hpro
  obtain rfl : amm = c.amm := AccountData.amm_unique hdata hchecked.stored
  obtain ⟨coinAmount, pcAmount, calcPnlX, calcPnlY, hcoinLe, hpcLe, htracksX, htracksY, hbody⟩ :=
    withdrawBody_of_withdrawOnly hpro hstatus hcoinDecimals hpcDecimals
  -- the two records are different accounts, so the write of the pool leaves the baselines
  have hne : a.ammTargetOrdersInfo.key ≠ a.ammInfo.key := by
    intro hkey
    have htarget := hchecked.storedTarget
    rw [hkey, hdata] at htarget
    cases htarget
  rw [hbody] at h
  simp only [↓check_bind_eq_ok, Outcome.bind_eq_ok] at h
  obtain ⟨-, -, -, -, w₁, -, w₂, -, w₃, -, hret⟩ := h
  cases hret
  refine ⟨c, w₀, coinAmount, pcAmount, { c.targetOrders with calcPnlX, calcPnlY }, hpro, hcoinLe,
    hpcLe, ?_, htracksX, htracksY⟩
  simp [Accounts.setData, hne]

end Handler

end RaydiumAmm
