import RaydiumAmm.Client
import RaydiumAmm.LiquidityEffect
import RaydiumAmm.RoundTrip

/-!
# Slippage bounds of a withdraw

The encoder, the decoder and the handler treat the two bounds of a withdraw as one pair. A pair
reaches the handler and binds the payouts; a bound that is given alone reaches nobody.
-/

namespace RaydiumAmm

namespace WithdrawInstruction

/-- The bounds that count, as `(coin, pc)`: both of them or none. -/
def bounds (withdraw : WithdrawInstruction) : Option (U64 × U64) :=
  Option.map₂ Prod.mk withdraw.minCoinAmount withdraw.minPcAmount

/-- The instruction without a bound that is given alone. -/
def paired (withdraw : WithdrawInstruction) : WithdrawInstruction where
  amount := withdraw.amount
  minCoinAmount := withdraw.bounds.map Prod.fst
  minPcAmount := withdraw.bounds.map Prod.snd

/-- Every bound that is given, alone or not, is at most the payout. -/
def RespectedBy (withdraw : WithdrawInstruction) (coinAmount pcAmount : U64) : Prop :=
  (∀ minCoin ∈ withdraw.minCoinAmount, minCoin ≤ coinAmount) ∧
    ∀ minPc ∈ withdraw.minPcAmount, minPc ≤ pcAmount

theorem bounds_eq_none {withdraw : WithdrawInstruction} :
    withdraw.bounds = none ↔ withdraw.minCoinAmount = none ∨ withdraw.minPcAmount = none :=
  Option.map₂_eq_none_iff

theorem bounds_eq_some {withdraw : WithdrawInstruction} {minCoin minPc : U64}
    (hcoin : withdraw.minCoinAmount = some minCoin) (hpc : withdraw.minPcAmount = some minPc) :
    withdraw.bounds = some (minCoin, minPc) := by
  rw [bounds, hcoin, hpc]
  rfl

/-- The pairing is done once. -/
@[simp] theorem bounds_paired (withdraw : WithdrawInstruction) :
    withdraw.paired.bounds = withdraw.bounds := by
  show Option.map₂ Prod.mk (withdraw.bounds.map Prod.fst) (withdraw.bounds.map Prod.snd) =
    withdraw.bounds
  cases withdraw.bounds with
  | none => rfl
  | some b => rfl

theorem paired_of_bounds_none {withdraw : WithdrawInstruction} (h : withdraw.bounds = none) :
    withdraw.paired = ⟨withdraw.amount, none, none⟩ := by
  rw [paired, h]
  rfl

/-! ## The wire -/

theorem canonical_paired (withdraw : WithdrawInstruction) :
    (AmmInstruction.withdraw withdraw.paired).Canonical := by
  show (withdraw.bounds.map Prod.fst).isSome = (withdraw.bounds.map Prod.snd).isSome
  rw [Option.isSome_map, Option.isSome_map]

/-- The encoder drops a bound that is given alone. -/
theorem pack_paired (withdraw : WithdrawInstruction) :
    (AmmInstruction.withdraw withdraw.paired).pack = (AmmInstruction.withdraw withdraw).pack := by
  obtain ⟨amount, minCoin, minPc⟩ := withdraw
  rcases minCoin with _ | minCoin
  · rcases minPc with _ | minPc
    · rfl
    · rfl
  · rcases minPc with _ | minPc
    · rfl
    · rfl

/-- The builder never fails, and its data is read as the paired instruction. -/
theorem exists_withdraw_request (ammProgram : Pubkey) (k : WithdrawKeys)
    (referrerPcAccount : Option Pubkey) (withdraw : WithdrawInstruction) :
    ∃ r, Client.withdraw ammProgram k referrerPcAccount withdraw = .ok r ∧
      AmmInstruction.unpack r.data = .ok (.withdraw withdraw.paired) := by
  obtain ⟨data, hpack, hunpack⟩ := AmmInstruction.unpack_of_pack withdraw.canonical_paired
  rw [pack_paired] at hpack
  refine ⟨⟨ammProgram, withdrawMetas k referrerPcAccount, data⟩, ?_, hunpack⟩
  rw [Client.withdraw, Client.request, hpack]
  rfl

/-! ## The handler -/

/-- The slippage test asks for the pair. -/
theorem slippage_eq_ok {withdraw : WithdrawInstruction} {coinAmount pcAmount : U64} :
    withdrawSlippage withdraw coinAmount pcAmount = .ok () ↔
      ∀ b ∈ withdraw.bounds, b.1 ≤ coinAmount ∧ b.2 ≤ pcAmount := by
  obtain ⟨amount, minCoin, minPc⟩ := withdraw
  rcases minCoin with _ | minCoin
  · exact iff_of_true rfl (by rintro b ⟨⟩)
  · rcases minPc with _ | minPc
    · exact iff_of_true rfl (by rintro b ⟨⟩)
    · show check _ _ = .ok () ↔ ∀ b ∈ some (minCoin, minPc), _
      rw [check_eq_ok, not_or, BitVec.not_lt, BitVec.not_lt]
      constructor
      · intro hle b hb
        cases hb
        exact hle
      · intro h
        exact h _ rfl

end WithdrawInstruction

/-- A withdraw that the client builds and the program runs pays at least its bounds where both are
    given. Where one is missing the program reads an instruction without bounds. -/
theorem withdraw_bounds_survive {ammProgram : Pubkey} {k : WithdrawKeys}
    {referrerPcAccount : Option Pubkey} {withdraw received : WithdrawInstruction}
    {r : Client.Request} {env : Env} {programId : Pubkey} {a : WithdrawAccounts} {w w' : World}
    (hbuild : Client.withdraw ammProgram k referrerPcAccount withdraw = .ok r)
    (hread : AmmInstruction.unpack r.data = .ok (.withdraw received))
    (hrun : withdrawBody env programId a received w = .ok w') :
    (withdraw.minCoinAmount = none ∨ withdraw.minPcAmount = none →
      received = ⟨withdraw.amount, none, none⟩) ∧
    ∃ c coinAmount pcAmount, WithdrawDone env programId a received c coinAmount pcAmount w w' ∧
      ∀ minCoin minPc, withdraw.minCoinAmount = some minCoin →
        withdraw.minPcAmount = some minPc → minCoin ≤ coinAmount ∧ minPc ≤ pcAmount := by
  obtain ⟨r', hbuild', hread'⟩ :=
    withdraw.exists_withdraw_request ammProgram k referrerPcAccount
  obtain rfl : r = r' := Except.ok.inj (hbuild.symm.trans hbuild')
  obtain rfl : received = withdraw.paired := by
    rw [hread] at hread'
    cases hread'
    rfl
  obtain ⟨c, coinAmount, pcAmount, hdone, hslippage⟩ := withdrawBody_bounded hrun
  rw [WithdrawInstruction.slippage_eq_ok, WithdrawInstruction.bounds_paired] at hslippage
  refine ⟨?_, c, coinAmount, pcAmount, hdone, ?_⟩
  · intro hmissing
    exact WithdrawInstruction.paired_of_bounds_none
      (WithdrawInstruction.bounds_eq_none.mpr hmissing)
  · intro minCoin minPc hcoin hpc
    exact hslippage (minCoin, minPc) (WithdrawInstruction.bounds_eq_some hcoin hpc)

open Reference in
/-- The pool pays 100000 coin and 500000 pc for 100 of its 1000 LP tokens, above these bounds. -/
theorem withdraw_bounds_survive_pair :
    ∃ w' c coinAmount pcAmount,
      WithdrawDone env program withdrawAccounts ⟨100, some 99999, some 500000⟩ c coinAmount pcAmount
        swapWorld w' ∧ 99999 ≤ coinAmount ∧ 500000 ≤ pcAmount := by
  obtain ⟨r, hbuild, hread⟩ := WithdrawInstruction.exists_withdraw_request program withdrawKeys none
    ⟨100, some 99999, some 500000⟩
  have hrun : (withdrawBody env program withdrawAccounts ⟨100, some 99999, some 500000⟩
      swapWorld).isOk = true := by decide
  obtain ⟨-, c, coinAmount, pcAmount, hdone, hbounds⟩ :=
    withdraw_bounds_survive hbuild hread (eq_ok_result hrun)
  exact ⟨_, c, coinAmount, pcAmount, hdone, hbounds _ _ rfl rfl⟩

open Reference in
/-- A bound of 2^64 - 1 coin that is given alone: the client builds it, the program reads an
    instruction without it and pays less. -/
theorem withdraw_bound_alone_dropped :
    ∃ r received c coinAmount pcAmount w',
      Client.withdraw program withdrawKeys none ⟨100, some (BitVec.allOnes 64), none⟩ = .ok r ∧
      AmmInstruction.unpack r.data = .ok (.withdraw received) ∧
      withdrawBody env program withdrawAccounts received swapWorld = .ok w' ∧
      WithdrawDone env program withdrawAccounts received c coinAmount pcAmount swapWorld w' ∧
      ¬(WithdrawInstruction.mk 100 (some (BitVec.allOnes 64)) none).RespectedBy
        coinAmount pcAmount := by
  obtain ⟨r, hbuild, hread⟩ := WithdrawInstruction.exists_withdraw_request program withdrawKeys none
    ⟨100, some (BitVec.allOnes 64), none⟩
  have hrun : (withdrawBody env program withdrawAccounts ⟨100, none, none⟩ swapWorld).isOk = true :=
    by decide
  obtain ⟨c, coinAmount, pcAmount, hdone⟩ := withdrawBody_eq_ok (eq_ok_result hrun)
  refine ⟨r, ⟨100, none, none⟩, c, coinAmount, pcAmount, _, hbuild, hread, eq_ok_result hrun, hdone,
    ?_⟩
  rintro ⟨hcoin, -⟩
  -- the payout is below the vault's balance, so it is not 2^64 - 1
  have hle : 2 ^ 64 - 1 ≤ coinAmount.toNat := BitVec.le_def.mp (hcoin _ rfl)
  have hlt := hdone.coin_lt
  have hvault := c.ammCoinVault.amount.isLt
  omega

end RaydiumAmm
