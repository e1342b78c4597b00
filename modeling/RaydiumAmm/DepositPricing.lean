import RaydiumAmm.Quotes

/-!
# The pricing of a deposit

The exchange functions return an option, and the deposit handler turns a missing value into
`CalculationExRateFailure`. They compute with unwrapped operations, so the value is never missing.

1. `ExchangesCleanly`: what the option promises.
2. `exchange_clean_iff`: an exchange keeps the promise where its divisor is not zero, its quotient
   has 64 bits, and a ceiling is not that of a positive quotient below one half.
3. `depositPricing`: the pricing part of the handler, and the inputs on which it ends in an amount or
   in one of its errors.
-/

namespace RaydiumAmm

open Rounding
open Outcome (EndsIn)

/-! ## 1. Exchanges -/

/-- The quotient that a rounding direction stands for. -/
def RoundDirection.quotient (r : RoundDirection) (a b : ℕ) : ℕ :=
  match r with
  | .floor => a / b
  | .ceiling => a ⌈/⌉ b

/-- There is a quotient of 64 bits. -/
def QuotientFits (r : RoundDirection) (product divisor : ℕ) : Prop :=
  divisor ≠ 0 ∧ r.quotient product divisor < 2 ^ 64

/-- The quotient where there is one of 64 bits, and `None` elsewhere. -/
structure ExchangesCleanly (r : RoundDirection) (product divisor : ℕ) (x : Result (Option U64)) :
    Prop where
  given : QuotientFits r product divisor →
    ∃ q : U64, x = .ok (some q) ∧ q.toNat = r.quotient product divisor
  missing : ¬QuotientFits r product divisor → x = .ok none

/-- Where the code rounds as its direction says: a ceiling is not that of a positive quotient below
    one half. -/
def RoundDirection.Exact (r : RoundDirection) (product divisor : ℕ) : Prop :=
  r = .ceiling → product = 0 ∨ divisor ≤ 2 * product

theorem RoundDirection.rounded_eq_quotient {r : RoundDirection} {a b : ℕ} (h : r.Exact a b) :
    r.rounded a b = r.quotient a b := by
  cases r with
  | floor => rfl
  | ceiling => exact softCeil_eq_ceilDiv (h rfl)

theorem RoundDirection.exact_of_rounded_eq {r : RoundDirection} {a b : ℕ}
    (h : r.rounded a b = r.quotient a b) : r.Exact a b := by
  rintro rfl
  by_contra hsmall
  rw [not_or, Nat.not_le] at hsmall
  exact softCeil_ne_ceilDiv (Nat.pos_of_ne_zero hsmall.1) hsmall.2 h

/-- An exchange is clean exactly where it has a quotient of 64 bits and rounds as it says. -/
theorem exchange_clean_iff (amount numerator denominator : U64) (r : RoundDirection) :
    ExchangesCleanly r (amount.toNat * numerator.toNat) denominator.toNat
        (exchange amount numerator denominator r) ↔
      QuotientFits r (amount.toNat * numerator.toNat) denominator.toNat ∧
        r.Exact (amount.toNat * numerator.toNat) denominator.toNat := by
  constructor
  · intro hclean
    by_cases hfits : QuotientFits r (amount.toNat * numerator.toNat) denominator.toNat
    · refine ⟨hfits, RoundDirection.exact_of_rounded_eq ?_⟩
      obtain ⟨q, hq, hvalue⟩ := hclean.given hfits
      obtain ⟨q', hsome, -, hrounded⟩ := exchange_eq_ok_iff.mp hq
      cases hsome
      exact hrounded.symm.trans hvalue
    · -- the value is never missing
      obtain ⟨q, hnone, -, -⟩ := exchange_eq_ok_iff.mp (hclean.missing hfits)
      cases hnone
  · rintro ⟨hfits, hexact⟩
    refine ⟨fun _ => ?_, fun hmissing => absurd hfits hmissing⟩
    rw [← RoundDirection.rounded_eq_quotient hexact]
    refine exists_exchange (Nat.pos_of_ne_zero hfits.1) ?_
    rw [RoundDirection.rounded_eq_quotient hexact]
    exact hfits.2

/-! ## 2. The pricing part -/

/-- `process_deposit` from the test of the LP amount to the last test of the amounts, less the
    comparison with what the user holds. -/
def depositPricing (deposit : DepositInstruction) (lpAmount totalPcWithoutTakePnl
    totalCoinWithoutTakePnl : U64) : Result DepositAmounts := do
  check (lpAmount ≠ 0) .notAllowZeroLP
  let d ← depositAmounts deposit lpAmount totalPcWithoutTakePnl totalCoinWithoutTakePnl
  check (¬(d.mintLpAmount = 0 ∨ d.deductCoinAmount = 0 ∨ d.deductPcAmount = 0)) .invalidInput
  return d

/-- Where the pricing aborts, so does the handler. -/
theorem depositBody_of_pricing_panic {env : Env} {programId : Pubkey} {a : DepositAccounts}
    {deposit : DepositInstruction} {w w' : World} {c : DepositContext} {x1 y1 : U128}
    (hpro : depositPrologue env programId a deposit w = .ok (c, w'))
    (hx : Calculator.normalizeDecimalV2 c.totalPcWithoutTakePnl c.amm.pcDecimals
      c.amm.sysDecimalValue = .ok x1)
    (hy : Calculator.normalizeDecimalV2 c.totalCoinWithoutTakePnl c.amm.coinDecimals
      c.amm.sysDecimalValue = .ok y1)
    (h : depositPricing deposit c.amm.lpAmount
      (calcTakePnl c.targetOrders c.amm c.totalPcWithoutTakePnl
        c.totalCoinWithoutTakePnl).totalPcWithoutTakePnl
      (calcTakePnl c.targetOrders c.amm c.totalPcWithoutTakePnl
        c.totalCoinWithoutTakePnl).totalCoinWithoutTakePnl = Outcome.panic) :
    depositBody env programId a deposit w = Outcome.panic := by
  have hlp : (calcTakePnl c.targetOrders c.amm c.totalPcWithoutTakePnl
      c.totalCoinWithoutTakePnl).amm.lpAmount = c.amm.lpAmount := rfl
  unfold depositPricing at h
  simp only [depositBody, hpro, hx, hy, Outcome.ok_bind, hlp]
  by_cases hzero : c.amm.lpAmount ≠ 0
  · have hcheck : check (c.amm.lpAmount ≠ 0) .notAllowZeroLP = .ok () := Outcome.require_pos hzero
    rw [hcheck, Outcome.ok_bind] at h ⊢
    cases hamounts : depositAmounts deposit c.amm.lpAmount
        (calcTakePnl c.targetOrders c.amm c.totalPcWithoutTakePnl
          c.totalCoinWithoutTakePnl).totalPcWithoutTakePnl
        (calcTakePnl c.targetOrders c.amm c.totalPcWithoutTakePnl
          c.totalCoinWithoutTakePnl).totalCoinWithoutTakePnl with
    | error f =>
      rw [hamounts] at h
      cases h
      rfl
    | ok d =>
      -- the last test does not abort
      rw [hamounts, Outcome.ok_bind] at h
      have hends : EndsIn (fun _ : ProgramError => True)
          (Outcome.panic : Result DepositAmounts) := by
        rw [← h]
        exact (EndsIn.require trivial).bind fun _ _ => EndsIn.of_ok d
      exact absurd hends EndsIn.not_panic
  · have hcheck : check (c.amm.lpAmount ≠ 0) .notAllowZeroLP =
        Outcome.fail AmmError.notAllowZeroLP.into := Outcome.require_neg hzero
    rw [hcheck] at h
    cases h

/-- The errors that the pricing part is to end in. -/
inductive PricingError : ProgramError → Prop where
  | exceededSlippage : PricingError AmmError.exceededSlippage.into
  | invalidInput : PricingError AmmError.invalidInput.into
  | notAllowZeroLP : PricingError AmmError.notAllowZeroLP.into
  | calculationExRateFailure : PricingError AmmError.calculationExRateFailure.into

namespace DepositInstruction

/-- The amount that the base side gives. -/
def maxBase (deposit : DepositInstruction) : U64 :=
  if deposit.baseSide = 0 then deposit.maxCoinAmount else deposit.maxPcAmount

/-- The maximum of the other side. -/
def maxOther (deposit : DepositInstruction) : U64 :=
  if deposit.baseSide = 0 then deposit.maxPcAmount else deposit.maxCoinAmount

/-- The total of the base side. -/
def baseTotal (deposit : DepositInstruction) (pc coin : U64) : U64 :=
  if deposit.baseSide = 0 then coin else pc

/-- The total of the other side. -/
def otherTotal (deposit : DepositInstruction) (pc coin : U64) : U64 :=
  if deposit.baseSide = 0 then pc else coin

/-- What is taken, with `other` on the other side. -/
def amounts (deposit : DepositInstruction) (other mint : U64) : DepositAmounts :=
  if deposit.baseSide = 0 then ⟨other, deposit.maxCoinAmount, mint⟩
  else ⟨deposit.maxPcAmount, other, mint⟩

/-- What the other side gives: its part of the base amount, as the ceiling division rounds it. -/
def otherAmount (deposit : DepositInstruction) (pc coin : U64) : ℕ :=
  softCeil (deposit.maxBase.toNat * (deposit.otherTotal pc coin).toNat)
    (deposit.baseTotal pc coin).toNat

/-- The other amount is within its two bounds. -/
def WithinBounds (deposit : DepositInstruction) (other : ℕ) : Prop :=
  other ≤ deposit.maxOther.toNat ∧ ∀ otherMin, deposit.otherAmountMin = some otherMin →
    otherMin.toNat ≤ other

end DepositInstruction

/-- The two sides of the price are one computation. -/
theorem depositAmounts_eq (deposit : DepositInstruction) (lpAmount pc coin : U64) :
    depositAmounts deposit lpAmount pc coin = (do
      let exchanged ← exchange deposit.maxBase (deposit.otherTotal pc coin)
        (deposit.baseTotal pc coin) .ceiling
      let other ← Outcome.okOr exchanged AmmError.calculationExRateFailure.into
      check (¬(other > deposit.maxOther)) .exceededSlippage
      checkOtherAmountMin other deposit.otherAmountMin
      let minted ← exchange lpAmount deposit.maxBase (deposit.baseTotal pc coin) .floor
      let mint ← Outcome.okOr minted AmmError.calculationExRateFailure.into
      return deposit.amounts other mint) := by
  unfold depositAmounts DepositInstruction.maxBase DepositInstruction.maxOther
    DepositInstruction.baseTotal DepositInstruction.otherTotal DepositInstruction.amounts
  by_cases hside : deposit.baseSide = 0
  · simp only [if_pos hside]
    rfl
  · simp only [if_neg hside]
    rfl

/-- The inputs that are priced cleanly: there are no shares, or the base total is not zero, the
    other amount has 64 bits, and so has the mint of a request within its bounds. -/
def Priceable (deposit : DepositInstruction) (lpAmount pc coin : U64) : Prop :=
  lpAmount = 0 ∨
    ((deposit.baseTotal pc coin).toNat ≠ 0 ∧ deposit.otherAmount pc coin < 2 ^ 64 ∧
      (deposit.WithinBounds (deposit.otherAmount pc coin) →
        lpAmount.toNat * deposit.maxBase.toNat / (deposit.baseTotal pc coin).toNat < 2 ^ 64))

theorem checkOtherAmountMin_endsIn (other : U64) (o : Option U64) :
    EndsIn PricingError (checkOtherAmountMin other o) := by
  cases o with
  | none => exact EndsIn.of_ok ()
  | some otherMin => exact EndsIn.require .exceededSlippage

theorem checkOtherAmountMin_eq_ok {other : U64} {o : Option U64} :
    checkOtherAmountMin other o = .ok () ↔ ∀ otherMin, o = some otherMin → otherMin ≤ other := by
  cases o with
  | none => simp [checkOtherAmountMin]
  | some otherMin => simp [checkOtherAmountMin]

theorem depositAmounts_endsIn_iff (deposit : DepositInstruction) (lpAmount pc coin : U64) :
    EndsIn PricingError (depositAmounts deposit lpAmount pc coin) ↔
      (deposit.baseTotal pc coin).toNat ≠ 0 ∧ deposit.otherAmount pc coin < 2 ^ 64 ∧
        (deposit.WithinBounds (deposit.otherAmount pc coin) →
          lpAmount.toNat * deposit.maxBase.toNat / (deposit.baseTotal pc coin).toNat < 2 ^ 64) := by
  rw [depositAmounts_eq]
  by_cases hother : 0 < (deposit.baseTotal pc coin).toNat ∧ deposit.otherAmount pc coin < 2 ^ 64
  swap
  · have hpanic : exchange deposit.maxBase (deposit.otherTotal pc coin)
        (deposit.baseTotal pc coin) .ceiling = Outcome.panic := exchange_eq_panic hother
    constructor
    · intro hends
      exact absurd hends (EndsIn.not_bind hpanic)
    · rintro ⟨hne, hfits, -⟩
      exact absurd ⟨Nat.pos_of_ne_zero hne, hfits⟩ hother
  obtain ⟨hpos, hfits⟩ := hother
  obtain ⟨other, hexchange, hvalue⟩ : ∃ other : U64,
      exchange deposit.maxBase (deposit.otherTotal pc coin) (deposit.baseTotal pc coin) .ceiling =
        .ok (some other) ∧ other.toNat = deposit.otherAmount pc coin :=
    exists_exchange (r := .ceiling) hpos hfits
  rw [hexchange, Outcome.ok_bind, Outcome.okOr, Outcome.ok_bind, ← hvalue]
  constructor
  · intro hends
    refine ⟨Nat.ne_of_gt hpos, other.isLt, fun hbounds => ?_⟩
    by_contra hmint
    have hmax : check (¬(other > deposit.maxOther)) .exceededSlippage = .ok () :=
      Outcome.require_pos (BitVec.not_lt.mpr (BitVec.le_def.mpr hbounds.1))
    have hmin : checkOtherAmountMin other deposit.otherAmountMin = .ok () :=
      checkOtherAmountMin_eq_ok.mpr fun m hm => BitVec.le_def.mpr (hbounds.2 m hm)
    have hpanic : exchange lpAmount deposit.maxBase (deposit.baseTotal pc coin) .floor =
        Outcome.panic := exchange_eq_panic fun h => hmint h.2
    rw [hmax, Outcome.ok_bind, hmin, Outcome.ok_bind] at hends
    exact EndsIn.not_bind hpanic hends
  · rintro ⟨-, -, hmint⟩
    refine (EndsIn.require .exceededSlippage).bind fun _ hmax =>
      (checkOtherAmountMin_endsIn other _).bind fun _ hmin => ?_
    have hbounds : deposit.WithinBounds other.toNat :=
      ⟨BitVec.le_def.mp (BitVec.not_lt.mp (check_eq_ok.mp hmax)),
        fun m hm => BitVec.le_def.mp (checkOtherAmountMin_eq_ok.mp hmin m hm)⟩
    obtain ⟨mint, hexchange', -⟩ : ∃ mint : U64,
        exchange lpAmount deposit.maxBase (deposit.baseTotal pc coin) .floor = .ok (some mint) ∧ _ :=
      exists_exchange (r := .floor) hpos (hmint hbounds)
    rw [hexchange', Outcome.ok_bind, Outcome.okOr, Outcome.ok_bind]
    exact EndsIn.of_ok _

theorem depositPricing_endsIn_iff (deposit : DepositInstruction) (lpAmount pc coin : U64) :
    EndsIn PricingError (depositPricing deposit lpAmount pc coin) ↔
      Priceable deposit lpAmount pc coin := by
  unfold depositPricing Priceable
  by_cases hzero : lpAmount = 0
  · have hcheck : check (lpAmount ≠ 0) .notAllowZeroLP =
        Outcome.fail AmmError.notAllowZeroLP.into := Outcome.require_neg (not_not.mpr hzero)
    rw [hcheck]
    exact ⟨fun _ => .inl hzero, fun _ => EndsIn.fail .notAllowZeroLP⟩
  · have hcheck : check (lpAmount ≠ 0) .notAllowZeroLP = .ok () := Outcome.require_pos hzero
    rw [hcheck, Outcome.ok_bind, or_iff_right hzero, ← depositAmounts_endsIn_iff]
    constructor
    · intro hends
      rcases hamounts : depositAmounts deposit lpAmount pc coin with f | d
      · rw [hamounts] at hends
        rcases hends with ⟨d, hd⟩ | ⟨e, he, hfail⟩
        · cases hd
        · cases hfail
          exact EndsIn.fail he
      · exact EndsIn.of_ok d
    · intro hends
      exact hends.bind fun d _ => (EndsIn.require .invalidInput).bind fun _ _ => EndsIn.of_ok d

/-! ## 3. Clean endings -/

/-- The exchange functions of a deposit and its pricing part, on all inputs. -/
theorem deposit_pricing_clean_iff (t : InvariantToken) (p : InvariantPool) (amount : U64)
    (r : RoundDirection) (deposit : DepositInstruction) (lpAmount pc coin : U64) :
    (ExchangesCleanly r (amount.toNat * t.tokenPc.toNat) t.tokenCoin.toNat
        (t.exchangeCoinToPc amount r) ↔
      QuotientFits r (amount.toNat * t.tokenPc.toNat) t.tokenCoin.toNat ∧
        r.Exact (amount.toNat * t.tokenPc.toNat) t.tokenCoin.toNat) ∧
    (ExchangesCleanly r (amount.toNat * t.tokenCoin.toNat) t.tokenPc.toNat
        (t.exchangePcToCoin amount r) ↔
      QuotientFits r (amount.toNat * t.tokenCoin.toNat) t.tokenPc.toNat ∧
        r.Exact (amount.toNat * t.tokenCoin.toNat) t.tokenPc.toNat) ∧
    (ExchangesCleanly r (amount.toNat * p.tokenInput.toNat) p.tokenTotal.toNat
        (p.exchangeTokenToPool amount r) ↔
      QuotientFits r (amount.toNat * p.tokenInput.toNat) p.tokenTotal.toNat ∧
        r.Exact (amount.toNat * p.tokenInput.toNat) p.tokenTotal.toNat) ∧
    (EndsIn PricingError (depositPricing deposit lpAmount pc coin) ↔
      Priceable deposit lpAmount pc coin) :=
  ⟨exchange_clean_iff amount t.tokenPc t.tokenCoin r,
    exchange_clean_iff amount t.tokenCoin t.tokenPc r,
    exchange_clean_iff amount p.tokenInput p.tokenTotal r,
    depositPricing_endsIn_iff deposit lpAmount pc coin⟩

/-- A deposit of 1000 coin into a pool without coin aborts in its first exchange, and a deposit of
    2^62 coin into a pool with one coin and 2^32 pc as well. -/
theorem deposit_pricing_aborts :
    (InvariantToken.exchangeCoinToPc ⟨0, 5000000⟩ 1000 .ceiling = Outcome.panic ∧
      ¬ExchangesCleanly .ceiling (1000 * 5000000) 0
        (InvariantToken.exchangeCoinToPc ⟨0, 5000000⟩ 1000 .ceiling) ∧
      ¬EndsIn PricingError (depositPricing ⟨1000, 5000, 0, none⟩ 1000 5000000 0)) ∧
    (InvariantToken.exchangeCoinToPc ⟨1, 4294967296⟩ 4611686018427387904 .ceiling =
        Outcome.panic ∧
      ¬EndsIn PricingError
        (depositPricing ⟨4611686018427387904, 5000, 0, none⟩ 1000 4294967296 1)) := by
  refine ⟨⟨rfl, fun hclean => ?_, fun hends => ?_⟩, rfl, fun hends => ?_⟩
  · have hnone := hclean.missing fun hfits => hfits.1 rfl
    cases hnone
  · exact EndsIn.not_panic hends
  · exact EndsIn.not_panic hends

end RaydiumAmm
