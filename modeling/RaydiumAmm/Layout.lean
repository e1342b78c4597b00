import RaydiumAmm.Deposit
import RaydiumAmm.Reference
import RaydiumAmm.Withdraw

/-!
# Account layouts

How many accounts the binding phase of a handler reads, against the lengths that its check admits:
the withdraw handler reads two accounts more than it admits at each of its four lengths.
-/

namespace RaydiumAmm

/-! ## 1. Counting reads -/

/-- `b` reads exactly the first `n` accounts, and a shorter list runs out. -/
structure Binder.Reads {α : Type} (b : Binder α) (n : ℕ) : Prop where
  short : ∀ l, l.length < n → b l = Outcome.fail .notEnoughAccountKeys
  enough : ∀ l, n ≤ l.length → ∃ x, b l = .ok (x, l.drop n)

namespace Binder.Reads

variable {α β : Type} {m n : ℕ}

theorem pure (x : α) : Binder.Reads (Pure.pure x) 0 where
  short _ h := absurd h (Nat.not_lt_zero _)
  enough _ _ := ⟨x, rfl⟩

theorem next : Binder.Reads nextAccountInfo 1 where
  short l h := by
    cases l with
    | nil => rfl
    | cons a l => simp at h
  enough l h := by
    cases l with
    | nil => simp at h
    | cons a l => exact ⟨a, rfl⟩

theorem bind {b : Binder α} {f : α → Binder β} (hb : b.Reads m) (hf : ∀ x, (f x).Reads n) :
    Binder.Reads (b >>= f) (m + n) where
  short l h := by
    change (b l >>= fun r => f r.1 r.2) = _
    rcases Nat.lt_or_ge l.length m with hm | hm
    · rw [hb.short l hm]
      rfl
    · obtain ⟨x, hx⟩ := hb.enough l hm
      rw [hx]
      exact (hf x).short _ (by rw [List.length_drop]; omega)
  enough l h := by
    change ∃ y, (b l >>= fun r => f r.1 r.2) = _
    obtain ⟨x, hx⟩ := hb.enough l (by omega)
    obtain ⟨y, hy⟩ := (hf x).enough (l.drop m) (by rw [List.length_drop]; omega)
    refine ⟨y, ?_⟩
    rw [hx]
    change f x (l.drop m) = _
    rw [hy, List.drop_drop]

/-- The next account, then the rest. -/
theorem next_bind {f : AccountInfo → Binder β} (hf : ∀ x, (f x).Reads n) :
    Binder.Reads (nextAccountInfo >>= f) (n + 1) := by
  rw [Nat.add_comm]
  exact next.bind hf

end Binder.Reads

/-! ## 2. Withdraw -/

/-- The number of `next_account_info` calls of a withdraw: 22, the two padding accounts and the
    referrer. -/
def withdrawReads (inputAccountLen : ℕ) : ℕ :=
  22 + (if withdrawHasPadding inputAccountLen then 2 else 0) +
    (if withdrawHasReferrer inputAccountLen then 1 else 0)

theorem withdrawBinder_reads (n : ℕ) : (withdrawBinder n).Reads (withdrawReads n) := by
  by_cases hp : withdrawHasPadding n <;> by_cases hr : withdrawHasReferrer n <;>
    simp only [withdrawBinder, withdrawReads, hp, hr, if_true, if_false] <;>
    (repeat refine .next_bind fun _ => ?_) <;>
    exact .pure _

/-- The lengths that the check at the head of the withdraw handler admits. -/
def WithdrawAdmits (n : ℕ) : Prop :=
  n = WITHDRAW_ACCOUNT_LEN ∨ n = WITHDRAW_ACCOUNT_LEN + 1 ∨ n = WITHDRAW_ACCOUNT_LEN + 2 ∨
    n = WITHDRAW_ACCOUNT_LEN + 3

/-- At every admitted length the reads are two more. -/
theorem withdrawReads_of_admits {n : ℕ} (h : WithdrawAdmits n) : withdrawReads n = n + 2 := by
  rcases h with rfl | rfl | rfl | rfl <;> rfl

/-- Every withdraw with an admitted number of accounts runs out of accounts. -/
theorem processWithdraw_runs_out (env : Env) (programId : Pubkey) (accounts : List AccountInfo)
    (withdraw : WithdrawInstruction) (w : World) (h : WithdrawAdmits accounts.length) :
    accounts.length < withdrawReads accounts.length ∧
      processWithdraw env programId accounts withdraw w =
        Outcome.fail .notEnoughAccountKeys := by
  have hreads : accounts.length < withdrawReads accounts.length := by
    rw [withdrawReads_of_admits h]
    omega
  refine ⟨hreads, ?_⟩
  have hbind : bindWithdraw accounts = Outcome.fail .notEnoughAccountKeys := by
    unfold WithdrawAdmits at h
    rw [bindWithdraw, check, Outcome.require_pos h, Outcome.ok_bind, Binder.bindAll,
      (withdrawBinder_reads _).short accounts hreads]
    rfl
  rw [processWithdraw, hbind]
  rfl

/-- The keys that `instruction::withdraw` is given, besides the referrer. -/
structure WithdrawKeys where
  ammPool : Pubkey
  ammAuthority : Pubkey
  ammOpenOrders : Pubkey
  ammTargetOrders : Pubkey
  ammLpMint : Pubkey
  ammCoinVault : Pubkey
  ammPcVault : Pubkey
  ammCoinMint : Pubkey
  ammPcMint : Pubkey
  marketProgram : Pubkey
  market : Pubkey
  marketCoinVault : Pubkey
  marketPcVault : Pubkey
  marketVaultSigner : Pubkey
  userTokenLp : Pubkey
  userTokenCoin : Pubkey
  userTokenPc : Pubkey
  userOwner : Pubkey
  marketEventQueue : Pubkey
  marketBids : Pubkey
  marketAsks : Pubkey

/-- The accounts of the instruction that `instruction::withdraw` builds. -/
def withdrawMetas (k : WithdrawKeys) (referrerPcAccount : Option Pubkey) : List AccountMeta := [
  ⟨splTokenId, false, false⟩, ⟨k.ammPool, false, true⟩, ⟨k.ammAuthority, false, false⟩,
  ⟨k.ammOpenOrders, false, true⟩, ⟨k.ammTargetOrders, false, true⟩, ⟨k.ammLpMint, false, true⟩,
  ⟨k.ammCoinVault, false, true⟩, ⟨k.ammPcVault, false, true⟩, ⟨k.ammCoinMint, false, false⟩,
  ⟨k.ammPcMint, false, false⟩, ⟨k.marketProgram, false, false⟩, ⟨k.market, false, true⟩,
  ⟨k.marketCoinVault, false, true⟩, ⟨k.marketPcVault, false, true⟩,
  ⟨k.marketVaultSigner, false, false⟩, ⟨k.userTokenLp, false, true⟩,
  ⟨k.userTokenCoin, false, true⟩, ⟨k.userTokenPc, false, true⟩, ⟨k.userOwner, true, false⟩,
  ⟨k.marketEventQueue, false, true⟩, ⟨k.marketBids, false, true⟩, ⟨k.marketAsks, false, true⟩] ++
  referrerPcAccount.toList.map (⟨·, false, true⟩)

/-- How the runtime hands the accounts of an instruction over. -/
def AccountMeta.info (m : AccountMeta) : AccountInfo := ⟨m.pubkey, m.isSigner, m.isWritable⟩

/-- The client's lists have 22 or 23 accounts, both of which the check admits. -/
theorem withdrawMetas_admitted (k : WithdrawKeys) (referrerPcAccount : Option Pubkey) :
    WithdrawAdmits ((withdrawMetas k referrerPcAccount).map AccountMeta.info).length := by
  cases referrerPcAccount with
  | none => exact .inr (.inr (.inl rfl))
  | some r => exact .inr (.inr (.inr rfl))

namespace Reference

/-- The keys of `withdrawAccounts`. -/
def withdrawKeys : WithdrawKeys where
  ammPool := key 10
  ammAuthority := authority
  ammOpenOrders := key 11
  ammTargetOrders := key 12
  ammLpMint := key 15
  ammCoinVault := key 13
  ammPcVault := key 14
  ammCoinMint := key 40
  ammPcMint := key 41
  marketProgram := dex
  market := key 17
  marketCoinVault := key 21
  marketPcVault := key 22
  marketVaultSigner := key 23
  userTokenLp := key 33
  userTokenCoin := key 31
  userTokenPc := key 32
  userOwner := key 30
  marketEventQueue := key 20
  marketBids := key 18
  marketAsks := key 19

end Reference

open Reference in
/-- The client's list of 22 accounts. -/
theorem processWithdraw_runs_out_client :
    processWithdraw env program ((withdrawMetas withdrawKeys none).map AccountMeta.info)
      ⟨100, none, none⟩ swapWorld = Outcome.fail .notEnoughAccountKeys :=
  (processWithdraw_runs_out env program _ ⟨100, none, none⟩ swapWorld
    (withdrawMetas_admitted withdrawKeys none)).2

open Reference in
/-- A withdraw that goes through on the accounts it names is turned away on the client's list. -/
theorem withdraw_valid_but_rejected :
    WithdrawAdmits ((withdrawMetas withdrawKeys none).map AccountMeta.info).length ∧
      (withdrawBody env program withdrawAccounts ⟨100, none, none⟩ swapWorld).isOk = true ∧
      processWithdraw env program ((withdrawMetas withdrawKeys none).map AccountMeta.info)
        ⟨100, none, none⟩ swapWorld = Outcome.fail .notEnoughAccountKeys :=
  ⟨withdrawMetas_admitted withdrawKeys none, by decide, rfl⟩

end RaydiumAmm
