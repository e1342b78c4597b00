import RaydiumAmm.Backing
import RaydiumAmm.ProfitEffect

/-!
# The reservation of the profit

Booking, exclusion from the totals, and payment of the profit are done by three functions over two
pairs of fields. `calc_take_pnl` books into `total_pnl_*`; the totals exclude `need_take_pnl_*`;
`process_withdrawpnl` pays `total_pnl_*`. So a booked profit is not held out of the totals, and its
payment lowers them.

Each booking adds the whole baseline again: `k` monitor steps book it `k` times, up to `u64::MAX`.
-/

namespace RaydiumAmm

/-! ## 1. Booking -/

/-- Booking leaves a total as it is: there is nothing to add, or no room. -/
def SideSettled (total : U64) (calcPnl : U128) : Prop :=
  calcPnl.setWidth 64 = 0#64 ∨ total = U64.max

/-- Booking for a second time leaves a total as the first left it. -/
def SideSettledAfterOne (total : U64) (calcPnl : U128) : Prop :=
  calcPnl.setWidth 64 = 0#64 ∨ 2 ^ 64 - 1 ≤ total.toNat + (calcPnl.setWidth 64).toNat

instance (total : U64) (calcPnl : U128) : Decidable (SideSettled total calcPnl) := by
  unfold SideSettled
  infer_instance

theorem satAdd_eq_self_iff {total delta : U64} :
    Checked.satAdd total delta = total ↔ delta = 0#64 ∨ total = U64.max := by
  have hmax : U64.max.toNat = 2 ^ 64 - 1 := by decide
  have hzero : (0#64).toNat = 0 := rfl
  have hlt := total.isLt
  rw [← BitVec.toNat_inj, Checked.toNat_satAdd, ← BitVec.toNat_inj (y := 0#64),
    ← BitVec.toNat_inj (y := U64.max), hmax, hzero]
  omega

/-- Booking the same amount again and again saturates as one sum does. -/
theorem min_booked_add (total delta n M : ℕ) :
    min (min (total + n * delta) M + delta) M = min (total + (n + 1) * delta) M := by
  rw [Nat.add_mul, Nat.one_mul]
  omega

/-! ## 2. Held out of the totals -/

/-- The totals of a record do not depend on what is booked. -/
theorem calcTotal_of_booked (t : TargetOrders) (amm : AmmInfo)
    (totalPc totalCoin pcAmount coinAmount : U64) :
    Calculator.calcTotalWithoutTakePnlNoOrderbook pcAmount coinAmount
        (calcTakePnl t amm totalPc totalCoin).amm =
      Calculator.calcTotalWithoutTakePnlNoOrderbook pcAmount coinAmount amm := rfl

/-- What the booking added is what the totals are lower by. -/
def HeldOut (s s' : StateData) (totals totals' : U64 × U64) : Prop :=
  totals'.1.toNat + (s'.totalPnlPc.toNat - s.totalPnlPc.toNat) = totals.1.toNat ∧
    totals'.2.toNat + (s'.totalPnlCoin.toNat - s.totalPnlCoin.toNat) = totals.2.toNat

/-- For each vault, the two payments of the profit bring in what they take out. -/
def PaysBack (amm : AmmInfo) (destCoin destPc : Pubkey) : Prop :=
  ∀ k, k = amm.coinVault ∨ k = amm.pcVault →
    (if k = destCoin then amm.stateData.totalPnlCoin.toNat else 0) +
        (if k = destPc then amm.stateData.totalPnlPc.toNat else 0) =
      (if k = amm.coinVault then amm.stateData.totalPnlCoin.toNat else 0) +
        (if k = amm.pcVault then amm.stateData.totalPnlPc.toNat else 0)

/-- A booking is held out of the totals exactly where it books nothing. -/
theorem calcTakePnl_heldOut_iff {t : TargetOrders} {amm : AmmInfo}
    {totalPc totalCoin pcAmount coinAmount : U64} {totals : U64 × U64}
    (h : Calculator.calcTotalWithoutTakePnlNoOrderbook pcAmount coinAmount amm = .ok totals) :
    (∃ totals', Calculator.calcTotalWithoutTakePnlNoOrderbook pcAmount coinAmount
        (calcTakePnl t amm totalPc totalCoin).amm = .ok totals' ∧
      HeldOut amm.stateData (calcTakePnl t amm totalPc totalCoin).amm.stateData totals totals') ↔
    SideSettled amm.stateData.totalPnlPc t.calcPnlX ∧
      SideSettled amm.stateData.totalPnlCoin t.calcPnlY := by
  rw [calcTotal_of_booked, h, SideSettled, SideSettled, ← satAdd_eq_self_iff,
    ← satAdd_eq_self_iff, ← BitVec.toNat_inj, ← BitVec.toNat_inj]
  have hpc : (Checked.satAdd amm.stateData.totalPnlPc (t.calcPnlX.setWidth 64)).toNat ≥
      amm.stateData.totalPnlPc.toNat := by
    have := amm.stateData.totalPnlPc.isLt
    rw [Checked.toNat_satAdd]
    omega
  have hcoin : (Checked.satAdd amm.stateData.totalPnlCoin (t.calcPnlY.setWidth 64)).toNat ≥
      amm.stateData.totalPnlCoin.toNat := by
    have := amm.stateData.totalPnlCoin.isLt
    rw [Checked.toNat_satAdd]
    omega
  constructor
  · rintro ⟨totals', htotals', hheld⟩
    obtain rfl := Except.ok.inj htotals'
    simp only [HeldOut, calcTakePnl] at hheld
    omega
  · rintro ⟨hx, hy⟩
    refine ⟨totals, rfl, ?_⟩
    simp only [HeldOut, calcTakePnl]
    omega

/-- The totals without the order book, by the balances of the vaults. -/
theorem noOrderbookTotals_eq_ok {w : World} {amm : AmmInfo} {totals : U64 × U64} :
    noOrderbookTotals w amm = .ok totals ↔
      w.balance amm.pcVault = amm.stateData.needTakePnlPc.toNat + totals.1.toNat ∧
        w.balance amm.coinVault = amm.stateData.needTakePnlCoin.toNat + totals.2.toNat := by
  simp only [noOrderbookTotals, Calculator.calcTotalWithoutTakePnlNoOrderbook, Outcome.bind_eq_ok,
    Outcome.okOr_eq_ok, Checked.sub_eq_some, Outcome.pure_eq_ok, BitVec.toNat_ofNat,
    Nat.mod_eq_of_lt (balance_lt w _)]
  constructor
  · rintro ⟨pc, hpc, coin, hcoin, rfl⟩
    exact ⟨hpc, hcoin⟩
  · rintro ⟨hpc, hcoin⟩
    exact ⟨totals.1, hpc, totals.2, hcoin, rfl⟩

/-- The balances after a profit withdrawal. -/
theorem WithdrawPnlDone.balance {env : Env} {programId : Pubkey} {a : WithdrawPnlAccounts}
    {amm : AmmInfo} {w w' : World} (hexact : ExactTokens env)
    (h : WithdrawPnlDone env programId a amm w w') {k : Pubkey} (hk : k ≠ a.ammInfo.key) :
    (w'.balance k : ℤ) = w.balance k +
      ((if k = a.userDestCoinInfo.key then (amm.stateData.totalPnlCoin.toNat : ℤ) else 0) +
        (if k = a.userDestPcInfo.key then (amm.stateData.totalPnlPc.toNat : ℤ) else 0)) -
      ((if k = amm.coinVault then (amm.stateData.totalPnlCoin.toNat : ℤ) else 0) +
        (if k = amm.pcVault then (amm.stateData.totalPnlPc.toNat : ℤ) else 0)) := by
  have hc := h.checked
  obtain ⟨w₁, w₂, hcoin, hpc, rfl⟩ := h.run
  have hcoin := (payPnl_moves hexact hc.tokenProgram hcoin).balance k
  have hpc := (payPnl_moves hexact hc.tokenProgram hpc).balance k
  rw [hc.coinVault] at hcoin
  rw [hc.pcVault] at hpc
  simp only [World.balance, World.dropRefMut_accounts, Accounts.balance_setData_of_ne hk]
  dsimp only at hcoin
  linarith

/-- A profit withdrawal keeps the totals exactly where it pays the vaults back. -/
theorem WithdrawPnlDone.totals_iff {env : Env} {programId : Pubkey} {a : WithdrawPnlAccounts}
    {amm : AmmInfo} {w w' : World} {totals : U64 × U64} (hexact : ExactTokens env)
    (htotals : noOrderbookTotals w amm = .ok totals)
    (h : WithdrawPnlDone env programId a amm w w') :
    noOrderbookTotals w' (withdrawPnlRecord amm) = .ok totals ↔
      PaysBack amm a.userDestCoinInfo.key a.userDestPcInfo.key := by
  have hc := h.checked
  obtain ⟨vc, hcoinToken⟩ := hc.coinToken
  obtain ⟨vp, hpcToken⟩ := hc.pcToken
  have hcoin := h.balance hexact (ne_of_token_of_amm hcoinToken hc.stored)
  have hpc := h.balance hexact (ne_of_token_of_amm hpcToken hc.stored)
  rw [noOrderbookTotals_eq_ok] at htotals ⊢
  obtain ⟨htotalPc, htotalCoin⟩ := htotals
  simp only [if_true] at hcoin hpc
  simp only [withdrawPnlRecord, PaysBack, or_imp, forall_and, forall_eq, if_true]
  zify at htotalPc htotalCoin ⊢
  constructor
  · rintro ⟨hpc', hcoin'⟩
    exact ⟨by linarith, by linarith⟩
  · rintro ⟨hcoin', hpc'⟩
    exact ⟨by linarith, by linarith⟩

/-- Held out of the totals. (a) A booking of `calc_take_pnl` is held out of the next totals exactly
    where, on each side, the low 64 bits of the baseline are zero or the total stands at
    `u64::MAX`. (b) A successful profit withdrawal keeps the totals exactly where, for each vault,
    its two payments bring in what they take out. -/
theorem reservation_iff {env : Env} (hexact : ExactTokens env) :
    (∀ (t : TargetOrders) (amm : AmmInfo) (totalPc totalCoin pcAmount coinAmount : U64)
      (totals : U64 × U64),
      Calculator.calcTotalWithoutTakePnlNoOrderbook pcAmount coinAmount amm = .ok totals →
      ((∃ totals', Calculator.calcTotalWithoutTakePnlNoOrderbook pcAmount coinAmount
          (calcTakePnl t amm totalPc totalCoin).amm = .ok totals' ∧
        HeldOut amm.stateData (calcTakePnl t amm totalPc totalCoin).amm.stateData totals totals') ↔
      SideSettled amm.stateData.totalPnlPc t.calcPnlX ∧
        SideSettled amm.stateData.totalPnlCoin t.calcPnlY)) ∧
    ∀ (programId : Pubkey) (accounts : List AccountInfo) (a : WithdrawPnlAccounts) (amm : AmmInfo)
      (w w' : World) (totals : U64 × U64), bindWithdrawPnl accounts = .ok a →
      (w.accounts a.ammInfo.key).data = .amm amm → noOrderbookTotals w amm = .ok totals →
      processWithdrawPnl env programId accounts w = .ok w' →
      ∃ amm', (w'.accounts a.ammInfo.key).data = .amm amm' ∧
        (noOrderbookTotals w' amm' = .ok totals ↔
          PaysBack amm a.userDestCoinInfo.key a.userDestPcInfo.key) := by
  refine ⟨fun t amm totalPc totalCoin pcAmount coinAmount totals => calcTakePnl_heldOut_iff, ?_⟩
  intro programId accounts a amm w w' totals hbind hamm htotals h
  simp only [processWithdrawPnl, hbind, Outcome.ok_bind] at h
  obtain ⟨amm₀, hdone⟩ := withdrawPnlBody_eq_ok h
  obtain rfl : amm = amm₀ := AccountData.amm_unique hamm hdone.checked.stored
  refine ⟨withdrawPnlRecord amm, ?_, hdone.totals_iff hexact htotals⟩
  obtain ⟨w₁, w₂, -, -, rfl⟩ := hdone.run
  simp [Accounts.setData]

open Reference in
/-- A payment of 100 pc to the user changes the totals. -/
theorem reservation_iff_paid :
    ∃ w' amm', processWithdrawPnl env program withdrawPnlInfos profitWorld = .ok w' ∧
      (w'.accounts (key 10)).data = .amm amm' ∧
      noOrderbookTotals w' amm' ≠ .ok (5000000, 1000000) := by
  obtain ⟨w', hw'⟩ : ∃ w', processWithdrawPnl env program withdrawPnlInfos profitWorld = .ok w' :=
    Outcome.exists_of_isOk (by decide)
  have hamm : (profitWorld.accounts (key 10)).data = .amm profitPool := rfl
  obtain ⟨amm', hstored, hkept⟩ := (reservation_iff exactTokens).2 program withdrawPnlInfos _
    profitPool profitWorld w' (5000000, 1000000) rfl hamm (by decide) hw'
  have hnot : ¬PaysBack profitPool (key 31) (key 32) := by
    intro hpays
    have hpc := hpays (key 14) (.inr rfl)
    revert hpc
    decide
  exact ⟨w', amm', hw', hstored, mt hkept.mp hnot⟩

open Reference in
/-- A booking of 5 pc that the totals do not show, and a payment of 100 pc that they do. -/
theorem profit_not_reserved :
    (¬∀ (t : TargetOrders) (amm : AmmInfo) (totalPc totalCoin pcAmount coinAmount : U64)
      (totals : U64 × U64),
      Calculator.calcTotalWithoutTakePnlNoOrderbook pcAmount coinAmount amm = .ok totals →
      ∃ totals', Calculator.calcTotalWithoutTakePnlNoOrderbook pcAmount coinAmount
          (calcTakePnl t amm totalPc totalCoin).amm = .ok totals' ∧
        HeldOut amm.stateData (calcTakePnl t amm totalPc totalCoin).amm.stateData
          totals totals') ∧
    ¬∀ (env : Env) (programId ammKey : Pubkey) (accounts : List AccountInfo) (amm amm' : AmmInfo)
      (w w' : World) (totals : U64 × U64), ExactTokens env → (w.accounts ammKey).data = .amm amm →
      noOrderbookTotals w amm = .ok totals →
      processWithdrawPnl env programId accounts w = .ok w' →
      (w'.accounts ammKey).data = .amm amm' → noOrderbookTotals w' amm' = .ok totals := by
  constructor
  · intro h
    obtain ⟨totals', htotals', hheld⟩ := h baseline (pool .swapOnly 1000) 5000000 1000000 5000000
      1000000 (5000000, 1000000) (by decide)
    obtain rfl := Except.ok.inj htotals'
    revert hheld
    unfold HeldOut
    decide
  · intro h
    have hamm : (profitWorld.accounts (key 10)).data = .amm profitPool := rfl
    have hrun := eq_ok_result (r := processWithdrawPnl env program withdrawPnlInfos profitWorld)
      (by decide)
    have hamm' := data_of_ammAt (w := result (processWithdrawPnl env program withdrawPnlInfos
      profitWorld)) (k := key 10) (Option.some_get (by decide)).symm
    have htotals := h env program (key 10) withdrawPnlInfos profitPool _ profitWorld _
      (5000000, 1000000) exactTokens hamm (by decide) hrun hamm'
    revert htotals
    decide

/-! ## 3. Booked once -/

/-- The records of a pool. -/
structure PnlRecords (ammKey : Pubkey) (w : World) (amm : AmmInfo) (t : TargetOrders) : Prop where
  stored : (w.accounts ammKey).data = .amm amm
  target : (w.accounts amm.targetOrders).data = .targetOrders t

/-- The profit booked so far, `(pc, coin)`. -/
def pnlAt (ammKey : Pubkey) (w : World) : Option (U64 × U64) :=
  match (w.accounts ammKey).data with
  | .amm amm => some (amm.stateData.totalPnlPc, amm.stateData.totalPnlCoin)
  | _ => none

theorem PnlRecords.pnlAt {ammKey : Pubkey} {w : World} {amm : AmmInfo} {t : TargetOrders}
    (h : PnlRecords ammKey w amm t) :
    pnlAt ammKey w = some (amm.stateData.totalPnlPc, amm.stateData.totalPnlCoin) := by
  simp only [RaydiumAmm.pnlAt, h.stored]

/-- A call of the monitor handler. -/
structure MonitorCall where
  accounts : List AccountInfo
  monitor : MonitorStepInstruction

/-- A successful monitor step on the pool `ammKey`. -/
def MonitorStep (env : Env) (programId ammKey : Pubkey) (w : World) (c : MonitorCall)
    (w' : World) : Prop :=
  ∃ a, bindMonitor c.accounts = .ok a ∧ a.ammInfo.key = ammKey ∧
    processMonitorStep env programId c.accounts c.monitor w = .ok w'

/-- What a monitor step leaves after `n` bookings since the records `amm` and `t`. -/
structure Booked (n : ℕ) (amm : AmmInfo) (t : TargetOrders) (amm' : AmmInfo) (t' : TargetOrders) :
    Prop where
  pc : amm'.stateData.totalPnlPc.toNat =
    min (amm.stateData.totalPnlPc.toNat + n * (t.calcPnlX.setWidth 64).toNat) (2 ^ 64 - 1)
  coin : amm'.stateData.totalPnlCoin.toNat =
    min (amm.stateData.totalPnlCoin.toNat + n * (t.calcPnlY.setWidth 64).toNat) (2 ^ 64 - 1)
  calcPnlX : t'.calcPnlX = t.calcPnlX
  calcPnlY : t'.calcPnlY = t.calcPnlY

section Monitor

variable {env : Env} {programId ammKey : Pubkey} {w w' : World} {c : MonitorCall}
  {amm : AmmInfo} {t : TargetOrders}

/-- A successful monitor step finds both records. -/
theorem MonitorStep.records (h : MonitorStep env programId ammKey w c w') :
    ∃ amm t, PnlRecords ammKey w amm t := by
  obtain ⟨a, hbind, rfl, hrun⟩ := h
  simp only [processMonitorStep, hbind, Outcome.ok_bind] at hrun
  obtain ⟨ctx, hdone⟩ := monitorBody_eq_ok hrun
  have hc := hdone.checked
  exact ⟨ctx.amm, ctx.targetOrders, hc.stored, hc.targetOrders ▸ hc.storedTarget⟩

/-- One monitor step books the baseline once and leaves it. -/
theorem MonitorStep.booked (h : MonitorStep env programId ammKey w c w')
    (hr : PnlRecords ammKey w amm t) :
    ∃ amm' t', PnlRecords ammKey w' amm' t' ∧ Booked 1 amm t amm' t' := by
  obtain ⟨a, hbind, rfl, hrun⟩ := h
  simp only [processMonitorStep, hbind, Outcome.ok_bind] at hrun
  obtain ⟨ctx, hdone⟩ := monitorBody_eq_ok hrun
  have hc := hdone.checked
  obtain rfl : amm = ctx.amm := AccountData.amm_unique hr.stored hc.stored
  have ht := hr.target
  rw [← hc.targetOrders] at ht
  obtain rfl : t = ctx.targetOrders := AccountData.targetOrders_unique ht hc.storedTarget
  obtain ⟨w₁, -, hw'⟩ := hdone.run
  obtain ⟨hstored, htarget, -⟩ := World.dropRefMut_records (ne_of_target_of_amm ht hc.stored) hw'
  rw [hc.targetOrders] at htarget
  exact ⟨_, _, ⟨hstored, htarget⟩, {
    pc := by simp only [calcTakePnl, Checked.toNat_satAdd, Nat.one_mul]
    coin := by simp only [calcTakePnl, Checked.toNat_satAdd, Nat.one_mul]
    calcPnlX := rfl
    calcPnlY := rfl
  }⟩

/-- One more booking. -/
theorem Booked.succ {n : ℕ} {amm' amm'' : AmmInfo} {t' t'' : TargetOrders}
    (h : Booked n amm t amm' t') (h' : Booked 1 amm' t' amm'' t'') :
    Booked (n + 1) amm t amm'' t'' where
  pc := by rw [h'.pc, h.pc, h.calcPnlX, Nat.one_mul, min_booked_add]
  coin := by rw [h'.coin, h.coin, h.calcPnlY, Nat.one_mul, min_booked_add]
  calcPnlX := h'.calcPnlX.trans h.calcPnlX
  calcPnlY := h'.calcPnlY.trans h.calcPnlY

/-- A run of `n` monitor steps books the baseline `n` times. -/
theorem monitorRun_booked {calls : List MonitorCall}
    (h : Runs.Run (MonitorStep env programId ammKey) w calls w')
    (hr : PnlRecords ammKey w amm t) :
    ∃ amm' t', PnlRecords ammKey w' amm' t' ∧ Booked calls.length amm t amm' t' := by
  induction h with
  | nil =>
    refine ⟨amm, t, hr, ?_, ?_, rfl, rfl⟩
    · have := amm.stateData.totalPnlPc.isLt
      simp only [List.length_nil]
      omega
    · have := amm.stateData.totalPnlCoin.isLt
      simp only [List.length_nil]
      omega
  | snoc _ hlast ih =>
    obtain ⟨amm₁, t₁, hr₁, hb₁⟩ := ih
    obtain ⟨amm₂, t₂, hr₂, hb₂⟩ := hlast.booked hr₁
    refine ⟨amm₂, t₂, hr₂, ?_⟩
    rw [List.length_append, List.length_singleton]
    exact hb₁.succ hb₂

/-- A second value of a saturating sum equals the first. -/
theorem min_booked_eq_iff (total delta n M : ℕ) :
    min (total + (n + 1) * delta) M = min (total + 1 * delta) M ↔
      n = 0 ∨ delta = 0 ∨ M ≤ total + delta := by
  rcases Nat.eq_zero_or_pos n with rfl | hn
  · simp
  rcases Nat.eq_zero_or_pos delta with rfl | hdelta
  · simp
  · have hle : delta ≤ n * delta := Nat.le_mul_of_pos_left delta hn
    rw [Nat.add_mul, Nat.one_mul]
    omega

/-- A booking for the second to the last time changes nothing. -/
theorem Booked.pnlAt_eq_iff {n : ℕ} {w₁ : World} {amm₁ amm' : AmmInfo} {t₁ t' : TargetOrders}
    (hr₁ : PnlRecords ammKey w₁ amm₁ t₁) (hr' : PnlRecords ammKey w' amm' t')
    (h₁ : Booked 1 amm t amm₁ t₁) (h' : Booked (n + 1) amm t amm' t') :
    pnlAt ammKey w' = pnlAt ammKey w₁ ↔
      n = 0 ∨ (SideSettledAfterOne amm.stateData.totalPnlPc t.calcPnlX ∧
        SideSettledAfterOne amm.stateData.totalPnlCoin t.calcPnlY) := by
  have hzero : (0#64).toNat = 0 := rfl
  rw [hr₁.pnlAt, hr'.pnlAt, Option.some.injEq, Prod.mk.injEq, ← BitVec.toNat_inj,
    ← BitVec.toNat_inj, h₁.pc, h₁.coin, h'.pc, h'.coin, min_booked_eq_iff, min_booked_eq_iff]
  simp only [SideSettledAfterOne, ← BitVec.toNat_inj (y := 0#64), hzero]
  tauto

/-- No trade, no profit. (1) After a first monitor step on the records `amm` and `t`, further
    monitor steps leave the booked profit as it is exactly where there are none, or where on each
    side the low 64 bits of the baseline are zero or the first step has reached `u64::MAX`. (2) A
    monitor step after a successful deposit or withdraw leaves the booked profit as it is exactly
    where, on each side, the low 64 bits of the baseline that it finds are zero or the total stands
    at `u64::MAX`. -/
theorem monitor_books_once_iff (env : Env) (programId ammKey : Pubkey) :
    (∀ (w w₁ w' : World) (first : MonitorCall) (calls : List MonitorCall) (amm : AmmInfo)
      (t : TargetOrders), PnlRecords ammKey w amm t →
      MonitorStep env programId ammKey w first w₁ →
      Runs.Run (MonitorStep env programId ammKey) w₁ calls w' →
      (pnlAt ammKey w' = pnlAt ammKey w₁ ↔
        calls = [] ∨ (SideSettledAfterOne amm.stateData.totalPnlPc t.calcPnlX ∧
          SideSettledAfterOne amm.stateData.totalPnlCoin t.calcPnlY))) ∧
    ∀ (w w₁ w' : World) (op : PoolOp) (c : MonitorCall), op.ammKey = ammKey →
      op.body env programId w = .ok w₁ → MonitorStep env programId ammKey w₁ c w' →
      ∃ amm t, PnlRecords ammKey w₁ amm t ∧
        (pnlAt ammKey w' = pnlAt ammKey w₁ ↔
          SideSettled amm.stateData.totalPnlPc t.calcPnlX ∧
            SideSettled amm.stateData.totalPnlCoin t.calcPnlY) := by
  constructor
  · intro w w₁ w' first calls amm t hr hfirst hrun
    obtain ⟨amm₁, t₁, hr₁, hb₁⟩ := hfirst.booked hr
    obtain ⟨amm', t', hr', hb'⟩ := monitorRun_booked
      ((Runs.Run.single hfirst).trans hrun) hr
    rw [List.length_append, List.length_singleton, Nat.add_comm] at hb'
    rw [Booked.pnlAt_eq_iff hr₁ hr' hb₁ hb', List.length_eq_zero_iff]
  · intro w w₁ w' op c _ _ hstep
    obtain ⟨amm, t, hr⟩ := hstep.records
    obtain ⟨amm', t', hr', hb⟩ := hstep.booked hr
    refine ⟨amm, t, hr, ?_⟩
    rw [hr.pnlAt, hr'.pnlAt, SideSettled, SideSettled, ← satAdd_eq_self_iff,
      ← satAdd_eq_self_iff, Option.some.injEq, Prod.mk.injEq, ← BitVec.toNat_inj,
      ← BitVec.toNat_inj, ← BitVec.toNat_inj, ← BitVec.toNat_inj, hb.pc, hb.coin,
      Checked.toNat_satAdd, Checked.toNat_satAdd, Nat.one_mul, Nat.one_mul]

end Monitor

open Reference in
/-- Two monitor steps on a baseline of 5 pc. -/
theorem monitor_books_once_iff_two_steps :
    ∃ w₁ w', MonitorStep env program (key 10) monitorWorld ⟨monitorInfos, ⟨0, 0, 0⟩⟩ w₁ ∧
      MonitorStep env program (key 10) w₁ ⟨monitorInfos, ⟨0, 0, 0⟩⟩ w' ∧
      pnlAt (key 10) w' ≠ pnlAt (key 10) w₁ := by
  have hbind : bindMonitor monitorInfos = .ok _ := rfl
  have hrun₁ := eq_ok_result (r := processMonitorStep env program monitorInfos ⟨0, 0, 0⟩
    monitorWorld) (by decide)
  obtain ⟨w', hrun₂⟩ : ∃ w', processMonitorStep env program monitorInfos ⟨0, 0, 0⟩
      (result (processMonitorStep env program monitorInfos ⟨0, 0, 0⟩ monitorWorld)) = .ok w' :=
    Outcome.exists_of_isOk (by decide)
  have hfirst : MonitorStep env program (key 10) monitorWorld ⟨monitorInfos, ⟨0, 0, 0⟩⟩ _ :=
    ⟨_, hbind, rfl, hrun₁⟩
  have hsecond : MonitorStep env program (key 10) _ ⟨monitorInfos, ⟨0, 0, 0⟩⟩ w' :=
    ⟨_, hbind, rfl, hrun₂⟩
  have hr : PnlRecords (key 10) monitorWorld (pool .initialized 1000) baseline := ⟨rfl, rfl⟩
  have honce := (monitor_books_once_iff env program (key 10)).1 _ _ _ _ _ _ _ hr hfirst
    (.single hsecond)
  refine ⟨_, w', hfirst, hsecond, mt honce.mp ?_⟩
  unfold SideSettledAfterOne
  decide

open Reference in
/-- The second of two monitor steps in a row books the baseline again. -/
theorem monitor_books_twice :
    ¬∀ (env : Env) (programId ammKey : Pubkey) (w w₁ w' : World) (first : MonitorCall)
      (calls : List MonitorCall), MonitorStep env programId ammKey w first w₁ →
      Runs.Run (MonitorStep env programId ammKey) w₁ calls w' →
      pnlAt ammKey w' = pnlAt ammKey w₁ := by
  intro h
  have hbind : bindMonitor monitorInfos = .ok _ := rfl
  have hrun₁ := eq_ok_result (r := processMonitorStep env program monitorInfos ⟨0, 0, 0⟩
    monitorWorld) (by decide)
  have hrun₂ := eq_ok_result (r := processMonitorStep env program monitorInfos ⟨0, 0, 0⟩
    (result (processMonitorStep env program monitorInfos ⟨0, 0, 0⟩ monitorWorld))) (by decide)
  have heq := h env program (key 10) monitorWorld _ _ ⟨monitorInfos, ⟨0, 0, 0⟩⟩ _
    ⟨_, hbind, rfl, hrun₁⟩ (.single (l := ⟨monitorInfos, ⟨0, 0, 0⟩⟩) ⟨_, hbind, rfl, hrun₂⟩)
  revert heq
  decide

end RaydiumAmm
