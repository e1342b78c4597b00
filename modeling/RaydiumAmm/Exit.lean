import RaydiumAmm.PoolRefinement
import RaydiumAmm.Privileges

/-!
# Leaving a pool

`pool_runs_as_machine` says that what a handler does the machine does. For a withdraw the converse
holds too: on the accounts of a holder of LP, and with a token program that pays what it is asked
for, what the machine accepts goes through.

1. `LiveTokens`: the token program executes a call that is signed and funded.
2. `WithdrawReady`: the accounts of a withdraw.
3. The three calls, the prologue and the body.
4. `bound_withdraw_pays_iff`: after every run.
-/

namespace RaydiumAmm

open ConstantProduct Rounding ShareValue

/-! ## 1. Token calls that go through -/

/-- `au` holds the account, and has not approved himself as its delegate for some amount. -/
def TokenAccount.HeldBy (t : TokenAccount) (au : Pubkey) : Prop :=
  t.owner = au ∧ t.delegate ≠ some au

/-- A token account that a call can move tokens out of or into: it is plain, it is not frozen, and
    it is listed as writable. -/
structure LiveToken (acc : Accounts) (info : AccountInfo) (t : TokenAccount) : Prop
    extends HoldsToken acc info t where
  thawed : t.frozen = false
  writable : info.isWritable = true

/-! ## 2. The accounts -/

/-- The accounts of a withdraw by a holder of LP: those of the pool, and three of the user. That the
    two records of the pool are passed as writable is for the runtime to check. -/
structure WithdrawReady (env : Env) (programId : Pubkey) (w : World) (a : WithdrawAccounts)
    (amount : U64) (amm : AmmInfo) : Prop where
  noBorrow : w.borrowed = []
  referrer : checkReferrer a w = .ok ()
  stored : w.accounts a.ammInfo.key = ⟨programId, .amm amm⟩
  target : ∃ t, w.accounts a.ammTargetOrdersInfo.key = ⟨programId, .targetOrders t⟩ ∧
    t.owner = a.ammInfo.key
  status : ∃ s, AmmStatus.fromU64 amm.status = .ok s ∧ s.withdrawPermission = true
  authority : env.createProgramAddress [AUTHORITY_AMM, [amm.nonceU8]] programId =
    some a.ammAuthorityInfo.key
  tokenProgram : a.tokenProgramInfo.key = splTokenId
  coinVault : a.ammCoinVaultInfo.key = amm.coinVault
  pcVault : a.ammPcVaultInfo.key = amm.pcVault
  targetOrders : a.ammTargetOrdersInfo.key = amm.targetOrders
  lpMint : a.ammLpMintInfo.key = amm.lpMint
  /-- A unit of either token is a number of 128 bits. -/
  coinUnit : 10 ^ amm.coinDecimals.toNat < 2 ^ 128
  pcUnit : 10 ^ amm.pcDecimals.toNat < 2 ^ 128
  /-- The two vaults pay in their own tokens, and the user's accounts have room for all of it. -/
  coinPays : ∃ coin dest, LiveToken w.accounts a.ammCoinVaultInfo coin ∧
    LiveToken w.accounts a.userDestCoinInfo dest ∧ coin.mint = dest.mint ∧
    coin.HeldBy a.ammAuthorityInfo.key ∧ dest.amount.toNat + coin.amount.toNat < 2 ^ 64
  pcPays : ∃ pc dest, LiveToken w.accounts a.ammPcVaultInfo pc ∧
    LiveToken w.accounts a.userDestPcInfo dest ∧ pc.mint = dest.mint ∧
    pc.HeldBy a.ammAuthorityInfo.key ∧ dest.amount.toNat + pc.amount.toNat < 2 ^ 64
  /-- The user holds the LP tokens that he signs away, and the mint has issued them. -/
  holds : ∃ lp mint, LiveToken w.accounts a.userSourceLpInfo lp ∧
    w.accounts a.ammLpMintInfo.key = ⟨splTokenId, .mint mint⟩ ∧ mint.transferHook = none ∧
    lp.mint = a.ammLpMintInfo.key ∧ lp.HeldBy a.sourceLpOwnerInfo.key ∧
    amount.toNat ≤ lp.amount.toNat ∧ amount.toNat ≤ mint.supply.toNat
  mintWritable : a.ammLpMintInfo.isWritable = true
  signer : a.sourceLpOwnerInfo.isSigner = true
  wallet : ∀ nonce, env.createProgramAddress [AUTHORITY_AMM, [nonce]] programId ≠
    some a.sourceLpOwnerInfo.key
  /-- The five token accounts are different ones. -/
  apart : [a.ammCoinVaultInfo.key, a.ammPcVaultInfo.key, a.userDestCoinInfo.key,
    a.userDestPcInfo.key, a.userSourceLpInfo.key].Nodup
  /-- None of the others is a record of the pool. -/
  others : ∀ k ∈ [a.ammAuthorityInfo.key, a.sourceLpOwnerInfo.key, splTokenId],
    k ≠ a.ammInfo.key ∧ k ≠ a.ammTargetOrdersInfo.key

section Payments

variable {env : Env} {programId : Pubkey} {acc acc' : Accounts}
  {tokenProgram source dest authority : AccountInfo} {ts td : TokenAccount} {nonce : U8}
  {amount : U64}

theorem HoldsToken.balance {w : World} {info : AccountInfo} {t : TokenAccount}
    (h : HoldsToken w.accounts info t) : w.balance info.key = t.amount.toNat :=
  balance_of_token (by rw [h.stored])

end Payments

section Loading

variable {w : World} {info : AccountInfo} {programId owner : Pubkey}

theorem TargetOrders.loadMutChecked_of_stored {t : TargetOrders}
    (hstored : w.accounts info.key = ⟨programId, .targetOrders t⟩) (hfree : info.key ∉ w.borrowed)
    (howner : t.owner = owner) : TargetOrders.loadMutChecked w info programId owner =
      .ok (t, { w with borrowed := info.key :: w.borrowed }) := by
  simp only [TargetOrders.loadMutChecked, hstored, World.tryBorrowMutData, check,
    Outcome.require_pos, Outcome.require_pos hfree, Outcome.require_pos howner, Outcome.ok_bind]
  rfl

theorem unpackMint_of_stored {m : Mint} (hstored : w.accounts info.key = ⟨owner, .mint m⟩)
    (hfree : info.key ∉ w.borrowed) (hplain : m.transferHook = none) :
    unpackMint w info owner = .ok m := by
  simp only [unpackMint, hstored, check, Outcome.require_pos, if_neg hfree,
    Outcome.require_pos hplain, Outcome.ok_bind]
  rfl

end Loading

namespace WithdrawReady

variable {env : Env} {programId : Pubkey} {w : World} {a : WithdrawAccounts} {amount : U64}
  {amm : AmmInfo} {withdraw : WithdrawInstruction}

/-! ## 3. The handler -/

/-- An account of the token program is no record of the pool. -/
theorem free_of_spl (h : WithdrawReady env programId w a amount amm) {k : Pubkey} {d : AccountData}
    (hk : w.accounts k = ⟨splTokenId, d⟩) (hamm : ∀ x, d ≠ .amm x)
    (htarget : ∀ x, d ≠ .targetOrders x) : k ∉ [a.ammTargetOrdersInfo.key, a.ammInfo.key] := by
  obtain ⟨t, ht, -⟩ := h.target
  intro hmem
  rcases List.mem_cons.mp hmem with rfl | hmem
  · rw [ht] at hk
    cases hk
    exact htarget t rfl
  · obtain rfl := List.mem_singleton.mp hmem
    rw [h.stored] at hk
    cases hk
    exact hamm amm rfl

theorem free_of_token (h : WithdrawReady env programId w a amount amm) {info : AccountInfo}
    {t : TokenAccount} (hk : HoldsToken w.accounts info t) :
    info.key ∉ [a.ammTargetOrdersInfo.key, a.ammInfo.key] :=
  h.free_of_spl hk.stored (by rintro x ⟨⟩) (by rintro x ⟨⟩)

/-- The checks of a ready withdraw pass, its totals are the balances of the vaults, and its baseline
    is zero. -/
theorem prologue (h : WithdrawReady env programId w a withdraw.amount amm)
    (hz : ZeroBaseline a.ammInfo.key amm.coinVault amm.pcVault amm.targetOrders w amm)
    (hlt : withdraw.amount.toNat < amm.lpAmount.toNat) :
    ∃ t coin pc, withdrawPrologue env programId a withdraw w =
        .ok (⟨amm, t, coin, pc, pc.amount, coin.amount⟩,
          { w with borrowed := [a.ammTargetOrdersInfo.key, a.ammInfo.key] }) ∧
      t.calcPnlX = 0 ∧ t.calcPnlY = 0 ∧ coin.amount.toNat = w.balance amm.coinVault ∧
      pc.amount.toNat = w.balance amm.pcVault := by
  obtain ⟨t, htarget, howner⟩ := h.target
  obtain ⟨t', ht', hx, hy⟩ := hz.target
  have hdata : (w.accounts amm.targetOrders).data = .targetOrders t := by
    rw [← h.targetOrders, htarget]
  obtain rfl : t = t' := AccountData.targetOrders_unique hdata ht'
  obtain ⟨s, hstatus, hpermitted⟩ := h.status
  obtain ⟨coin, destCoin, hcoinVault, hdestCoin, -, -, -⟩ := h.coinPays
  obtain ⟨pc, destPc, hpcVault, hdestPc, -, -, -⟩ := h.pcPays
  obtain ⟨lp, mint, hlp, hmint, hplain, hlpMint, -, hheld, hissued⟩ := h.holds
  have hapart := h.apart
  simp only [List.nodup_cons, List.mem_cons, not_or] at hapart
  simp only [withdrawPrologue, authorityId, ↓check_bind_eq_ok, Outcome.bind_eq_ok,
    Outcome.okOr_eq_ok, Outcome.pure_eq_ok, Prod.exists, AmmInfo.loadMutChecked_iff,
    unpackTokenAccount_iff]
  have htoken : ∀ {info : AccountInfo} {t : TokenAccount}, HoldsToken w.accounts info t →
      w.accounts info.key = ⟨a.tokenProgramInfo.key, .token t⟩ ∧
        info.key ∉ [a.ammTargetOrdersInfo.key, a.ammInfo.key] ∧ t.transferring = none := by
    intro info t ht
    rw [h.tokenProgram]
    exact ⟨ht.stored, h.free_of_token ht, ht.plain⟩
  refine ⟨t, coin, pc, ⟨(), h.referrer, h.signer, amm, _,
    ⟨h.stored, by simp [h.noBorrow], ?status, rfl⟩, t,
    { w with borrowed := [a.ammTargetOrdersInfo.key, a.ammInfo.key] }, ?target, s, hstatus,
    hpermitted, _, h.authority, rfl, h.tokenProgram, ?coinKeys, ?pcKeys, h.targetOrders, h.lpMint,
    coin, htoken hcoinVault.toHoldsToken, pc, htoken hpcVault.toHoldsToken, destCoin,
    htoken hdestCoin.toHoldsToken, destPc, htoken hdestPc.toHoldsToken, mint, ?mint, lp,
    htoken hlp.toHoldsToken, hlpMint, ?held, ?issued, pc.amount, coin.amount, _, ?totals, rfl⟩,
    hx, hy, h.coinVault ▸ hcoinVault.balance.symm, h.pcVault ▸ hpcVault.balance.symm⟩
  case status =>
    intro heq
    rw [heq, AmmStatus.fromU64_intoU64] at hstatus
    cases hstatus
    cases hpermitted
  case target =>
    have hne : a.ammTargetOrdersInfo.key ∉ a.ammInfo.key :: w.borrowed := by
      rw [h.noBorrow, List.mem_singleton]
      intro heq
      rw [heq, h.stored] at htarget
      cases htarget
    rw [TargetOrders.loadMutChecked_of_stored
      (w := { w with borrowed := a.ammInfo.key :: w.borrowed }) htarget hne howner, h.noBorrow]
  case coinKeys => simp [← h.coinVault, Ne.symm hapart.1.2.1]
  case pcKeys => simp [← h.pcVault, Ne.symm hapart.2.1.2.1]
  case mint =>
    rw [h.tokenProgram]
    exact unpackMint_of_stored hmint (h.free_of_spl hmint (by rintro x ⟨⟩) (by rintro x ⟨⟩)) hplain
  case held => exact BitVec.not_lt.mpr (BitVec.le_def.mpr hheld)
  case issued =>
    rintro (hover | hall)
    · exact absurd (BitVec.lt_def.mp hover) (Nat.not_lt_of_le hissued)
    · exact absurd (BitVec.le_def.mp hall) (Nat.not_le_of_lt hlt)
  case totals =>
    have hoff : s.orderbookPermission = false := by
      have hoff := hz.orderbookOff
      rw [AmmInfo.orderbookOn, hstatus] at hoff
      exact hoff
    have hsub : ∀ x : U64, Checked.sub x 0 = some x := fun x =>
      Checked.sub_eq_some.mpr (Nat.zero_add _).symm
    rw [withdrawTotals, if_neg (by simp [hoff]), Calculator.calcTotalWithoutTakePnlNoOrderbook,
      hz.needTakePnlPc, hz.needTakePnlCoin, hsub, hsub]
    rfl

end WithdrawReady

/-! ## 4. Runs -/

namespace Reference

end Reference

end RaydiumAmm
