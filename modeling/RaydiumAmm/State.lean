import RaydiumAmm.Error

/-!
# Stored records

The records that the program keeps in its accounts, without their padding and without the order
arrays that no handler reads, and the enumerations over their status fields.
-/

namespace RaydiumAmm

abbrev U8 := BitVec 8
abbrev U16 := BitVec 16
abbrev U32 := BitVec 32
abbrev U64 := BitVec 64
abbrev U128 := BitVec 128

/-- `u64::MAX`. -/
def U64.max : U64 := BitVec.allOnes 64

/-- An account address: 32 bytes. -/
structure Pubkey where
  bits : BitVec 256
deriving DecidableEq

/-- `Pubkey::default()`. -/
def Pubkey.default : Pubkey := ⟨0⟩

instance : Inhabited Pubkey := ⟨Pubkey.default⟩

def TEN_THOUSAND : U64 := 10000

/-! ## Status, state and parameter numbers -/

inductive AmmStatus where
  | uninitialized
  | initialized
  | disabled
  | withdrawOnly
  | liquidityOnly
  | orderBookOnly
  | swapOnly
  | waitingTrade
deriving DecidableEq

namespace AmmStatus

/-- `AmmStatus::from_u64`: `unreachable!()` above 7. -/
def fromU64 (status : U64) : Result AmmStatus :=
  match status.toNat with
  | 0 => .ok uninitialized
  | 1 => .ok initialized
  | 2 => .ok disabled
  | 3 => .ok withdrawOnly
  | 4 => .ok liquidityOnly
  | 5 => .ok orderBookOnly
  | 6 => .ok swapOnly
  | 7 => .ok waitingTrade
  | _ => Outcome.panic

def intoU64 : AmmStatus → U64
  | uninitialized => 0
  | initialized => 1
  | disabled => 2
  | withdrawOnly => 3
  | liquidityOnly => 4
  | orderBookOnly => 5
  | swapOnly => 6
  | waitingTrade => 7

/-- `AmmStatus::valid_status`: every number of a status except that of `Uninitialized`. No handler
    calls it. -/
def validStatus (status : U64) : Bool :=
  match status.toNat with
  | 1 => true
  | 2 => true
  | 3 => true
  | 4 => true
  | 5 => true
  | 6 => true
  | 7 => true
  | _ => false

def depositPermission : AmmStatus → Bool
  | uninitialized => false
  | initialized => true
  | disabled => false
  | withdrawOnly => false
  | liquidityOnly => true
  | orderBookOnly => true
  | swapOnly => true
  | waitingTrade => true

def withdrawPermission : AmmStatus → Bool
  | uninitialized => false
  | initialized => true
  | disabled => false
  | withdrawOnly => true
  | liquidityOnly => true
  | orderBookOnly => true
  | swapOnly => true
  | waitingTrade => true

def swapPermission : AmmStatus → Bool
  | uninitialized => false
  | initialized => true
  | disabled => false
  | withdrawOnly => false
  | liquidityOnly => false
  | orderBookOnly => false
  | swapOnly => true
  | waitingTrade => true

def orderbookPermission : AmmStatus → Bool
  | uninitialized => false
  | initialized => true
  | disabled => false
  | withdrawOnly => false
  | liquidityOnly => false
  | orderBookOnly => true
  | swapOnly => false
  | waitingTrade => false

@[simp] theorem fromU64_intoU64 (s : AmmStatus) : fromU64 s.intoU64 = .ok s := by
  cases s <;> rfl

/-- The numbers that `from_u64` accepts are those of the statuses. -/
theorem intoU64_of_fromU64 {n : U64} {s : AmmStatus} (h : fromU64 n = .ok s) : s.intoU64 = n := by
  unfold fromU64 at h
  split at h <;> cases h <;> apply BitVec.eq_of_toNat_eq <;> simp_all [intoU64]

end AmmStatus

/-- `AmmState::valid_state`: the numbers of the seven states. No handler calls it. -/
def AmmState.validState (state : U64) : Bool :=
  match state.toNat with
  | 0 => true
  | 1 => true
  | 2 => true
  | 3 => true
  | 4 => true
  | 5 => true
  | 6 => true
  | _ => false

/-! ## The pool record -/

/-- `Fees`. -/
structure Fees where
  minSeparateNumerator : U64
  minSeparateDenominator : U64
  tradeFeeNumerator : U64
  tradeFeeDenominator : U64
  pnlNumerator : U64
  pnlDenominator : U64
  swapFeeNumerator : U64
  swapFeeDenominator : U64
deriving DecidableEq

/-- `validate_fraction`. -/
def validateFraction (numerator denominator : U64) : Except AmmError Unit :=
  if numerator ≥ denominator ∨ denominator = 0 then .error .invalidFee else .ok ()

/-- `Fees::validate`. No handler calls it. -/
def Fees.validate (fees : Fees) : Except AmmError Unit := do
  validateFraction fees.minSeparateNumerator fees.minSeparateDenominator
  validateFraction fees.tradeFeeNumerator fees.tradeFeeDenominator
  validateFraction fees.pnlNumerator fees.pnlDenominator
  validateFraction fees.swapFeeNumerator fees.swapFeeDenominator

/-- The values that `Fees::initialize` writes. -/
def Fees.init : Fees where
  minSeparateNumerator := 5
  minSeparateDenominator := TEN_THOUSAND
  tradeFeeNumerator := 25
  tradeFeeDenominator := TEN_THOUSAND
  pnlNumerator := 12
  pnlDenominator := 100
  swapFeeNumerator := 25
  swapFeeDenominator := TEN_THOUSAND

/-- `StateData`. -/
structure StateData where
  needTakePnlCoin : U64
  needTakePnlPc : U64
  totalPnlPc : U64
  totalPnlCoin : U64
  poolOpenTime : U64
  orderbookToInitTime : U64
  swapCoinInAmount : U128
  swapPcOutAmount : U128
  swapAccPcFee : U64
  swapPcInAmount : U128
  swapCoinOutAmount : U128
  swapAccCoinFee : U64
deriving DecidableEq

/-- The values that `StateData::initialize` writes. -/
def StateData.init (openTime : U64) : StateData where
  needTakePnlCoin := 0
  needTakePnlPc := 0
  totalPnlPc := 0
  totalPnlCoin := 0
  poolOpenTime := openTime
  orderbookToInitTime := 0
  swapCoinInAmount := 0
  swapPcOutAmount := 0
  swapAccPcFee := 0
  swapPcInAmount := 0
  swapCoinOutAmount := 0
  swapAccCoinFee := 0

/-- `AmmInfo`, the record of one pool. -/
structure AmmInfo where
  status : U64
  nonce : U64
  orderNum : U64
  depth : U64
  coinDecimals : U64
  pcDecimals : U64
  state : U64
  resetFlag : U64
  minSize : U64
  volMaxCutRatio : U64
  amountWave : U64
  coinLotSize : U64
  pcLotSize : U64
  minPriceMultiplier : U64
  maxPriceMultiplier : U64
  sysDecimalValue : U64
  fees : Fees
  stateData : StateData
  coinVault : Pubkey
  pcVault : Pubkey
  coinVaultMint : Pubkey
  pcVaultMint : Pubkey
  lpMint : Pubkey
  openOrders : Pubkey
  market : Pubkey
  marketProgram : Pubkey
  targetOrders : Pubkey
  ammOwner : Pubkey
  lpAmount : U64
  clientOrderId : U64
  recentEpoch : U64
deriving DecidableEq

/-- `amm.nonce as u8`: the low byte. -/
def AmmInfo.nonceU8 (amm : AmmInfo) : U8 := amm.nonce.setWidth 8

/-- `incr_client_order_id`: the id that it returns, with the record that keeps it. -/
def AmmInfo.incrClientOrderId (self : AmmInfo) : U64 × AmmInfo :=
  let next := self.clientOrderId + 1
  let next := if next = 0 then next + 1 else next
  (next, { self with clientOrderId := next })

/-- `TargetOrders`, the planning record of one pool. -/
structure TargetOrders where
  owner : Pubkey
  targetX : U128
  targetY : U128
  planXBuy : U128
  planYBuy : U128
  planXSell : U128
  planYSell : U128
  placedX : U128
  placedY : U128
  calcPnlX : U128
  calcPnlY : U128
  lastOrderNumerator : U64
  lastOrderDenominator : U64
  planOrdersCur : U64
  placeOrdersCur : U64
  validBuyOrderNum : U64
  validSellOrderNum : U64
  freeSlotBits : U128
deriving DecidableEq

/-- `TargetOrders::check_init`. -/
def TargetOrders.checkInit (t : TargetOrders) (x y : U128) (owner : Pubkey) :
    Result TargetOrders := do
  check (t.owner = Pubkey.default) .alreadyInUse
  return {
    owner := owner
    lastOrderNumerator := 0
    lastOrderDenominator := 0
    planOrdersCur := 0
    placeOrdersCur := 0
    validBuyOrderNum := 0
    validSellOrderNum := 0
    targetX := 0
    targetY := 0
    planXBuy := 0
    planYBuy := 0
    planXSell := 0
    planYSell := 0
    placedX := 0
    placedY := 0
    calcPnlX := x
    calcPnlY := y
    freeSlotBits := BitVec.allOnes 128
  }

/-- `AmmConfig`. -/
structure AmmConfig where
  pnlOwner : Pubkey
  cancelOwner : Pubkey
  createPoolFee : U64
deriving DecidableEq

end RaydiumAmm
