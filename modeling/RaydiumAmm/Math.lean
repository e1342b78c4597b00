import RaydiumAmm.Checked
import RaydiumAmm.Dex

/-!
# Calculator

The integer arithmetic of the pool: the ceiling division, the swap quotes, the decimal
normalisation, the units and sizes of orders, the totals without the pending profit and the share
prices. Every `unwrap` of the source is `Outcome.unwrap`, so an overflow is a panic and not a value.
-/

namespace RaydiumAmm

inductive SwapDirection where
  /-- Input token pc, output token coin. -/
  | pc2Coin
  /-- Input token coin, output token pc. -/
  | coin2Pc
deriving DecidableEq

inductive RoundDirection where
  | floor
  | ceiling
deriving DecidableEq

/-- `checked_ceil_div`. The two instances, for `u128` and for the 128-bit `U128`, are the same
    text, so one definition over the width serves both. -/
def checkedCeilDiv {w : Nat} (a rhs : BitVec w) : Option (BitVec w × BitVec w) := do
  let quotient ← Checked.div a rhs
  if quotient = 0 then
    -- a small dividend is not rounded up below one half of the divisor
    let twice ← Checked.mul a 2
    if twice ≥ rhs then some (1, 0) else some (0, 0)
  else
    let remainder ← Checked.rem a rhs
    if remainder > 0 then
      let quotient ← Checked.add quotient 1
      let rhs ← Checked.div a quotient
      let remainder ← Checked.rem a quotient
      if remainder > 0 then
        let rhs ← Checked.add rhs 1
        some (quotient, rhs)
      else some (quotient, rhs)
    else some (quotient, rhs)

namespace Calculator

/-- `to_u64`. -/
def toU64 (val : U128) : Result U64 :=
  Outcome.okOr (Checked.narrow 64 val) AmmError.conversionFailure.into

/-- `as_u64`: panics where the value does not fit. -/
def asU64 (val : U128) : Result U64 :=
  Outcome.unwrap (Checked.narrow 64 val)

/-- `x.into()` from `u64` to a 128-bit word. -/
def toU128 (val : U64) : U128 := val.setWidth 128

/-- `normalize_decimal_v2`. -/
def normalizeDecimalV2 (val nativeDecimal sysDecimalValue : U64) : Result U128 := do
  let retMut ← Outcome.unwrap (Checked.mul (toU128 val) (toU128 sysDecimalValue))
  let unit ← Outcome.unwrap (Checked.pow (10 : U128) nativeDecimal.toNat)
  Outcome.unwrap (Checked.div retMut unit)

/-- `restore_decimal`. -/
def restoreDecimal (val : U128) (nativeDecimal sysDecimalValue : U64) : Result U128 := do
  let unit ← Outcome.unwrap (Checked.pow (10 : U128) nativeDecimal.toNat)
  let retMut ← Outcome.unwrap (Checked.mul val unit)
  Outcome.unwrap (Checked.div retMut (toU128 sysDecimalValue))

/-- `convert_in_pc_lot_size`. -/
def convertInPcLotSize (pcDecimals coinDecimals : U8) (pcLotSize coinLotSize
    sysDecimalValue : U64) : Result U64 := do
  let scaled ← Outcome.unwrap (Checked.mul (toU128 pcLotSize) (toU128 sysDecimalValue))
  let coinUnit ← Outcome.unwrap (Checked.pow (10 : U128) coinDecimals.toNat)
  let numerator ← Outcome.unwrap (Checked.mul scaled coinUnit)
  let pcUnit ← Outcome.unwrap (Checked.pow (10 : U128) pcDecimals.toNat)
  let denominator ← Outcome.unwrap (Checked.mul (toU128 coinLotSize) pcUnit)
  let quotient ← Outcome.unwrap (Checked.div numerator denominator)
  asU64 quotient

/-- The push of one iteration of `fibonacci`. The sum is a plain operator. -/
def fibonacciPush (fb : List U64) (i : Nat) : Result (List U64) :=
  if i = 0 then .ok (fb ++ [0])
  else if i = 1 then .ok (fb ++ [1])
  else if i = 2 then .ok (fb ++ [2])
  else do
    let first ← Outcome.unwrap fb[i - 1]?
    let second ← Outcome.unwrap fb[i - 2]?
    let ret ← Outcome.unwrap (Checked.add first second)
    return fb ++ [ret]

/-- `fibonacci`: the weights 0, 1, 2, 3, 5, 8, … of so many orders. -/
def fibonacci (orderNum : U64) : Result (List U64) :=
  (List.range orderNum.toNat).foldlM fibonacciPush []

/-- `floor_lot`. -/
def floorLot (val lotSize : U64) : Result U64 := do
  let unit ← Outcome.unwrap (Checked.div val lotSize)
  Outcome.unwrap (Checked.mul unit lotSize)

/-- `ceil_lot`. -/
def ceilLot (val lotSize : U64) : Result U64 := do
  let quotient ← Outcome.unwrap (checkedCeilDiv (toU128 val) (toU128 lotSize))
  let unit ← asU64 quotient.1
  Outcome.unwrap (Checked.mul unit lotSize)

/-- `convert_out_pc_lot_size`, whose operators on `U128` panic on an overflow. -/
def convertOutPcLotSize (pcDecimals coinDecimals : U8) (pcLotSize coinLotSize
    sysDecimalValue : U64) : Result U64 := do
  let lots ← Outcome.unwrap (Checked.mul (toU128 pcLotSize) (toU128 coinLotSize))
  let pcUnit ← Outcome.unwrap (Checked.pow (10 : U128) pcDecimals.toNat)
  let numerator ← Outcome.unwrap (Checked.mul lots pcUnit)
  let coinUnit ← Outcome.unwrap (Checked.pow (10 : U128) coinDecimals.toNat)
  let denominator ← Outcome.unwrap (Checked.mul (toU128 sysDecimalValue) coinUnit)
  let quotient ← Outcome.unwrap (Checked.div numerator denominator)
  asU64 quotient

/-- `convert_in_price`. -/
def convertInPrice (val pcLotSize : U64) : Result U64 :=
  Outcome.unwrap (Checked.mul val pcLotSize)

/-- `convert_price_out`. -/
def convertPriceOut (val pcLotSize : U64) : Result U64 :=
  Outcome.unwrap (Checked.div val pcLotSize)

/-- `convert_in_vol`. -/
def convertInVol (val coinDecimal coinLotSize sysDecimalValue : U64) : Result U64 := do
  let lots ← Outcome.unwrap (Checked.mul (toU128 val) (toU128 coinLotSize))
  let scaled ← Outcome.unwrap (Checked.mul lots (toU128 sysDecimalValue))
  let unit ← Outcome.unwrap (Checked.pow (10 : U128) coinDecimal.toNat)
  let volume ← Outcome.unwrap (Checked.div scaled unit)
  asU64 volume

/-- `convert_vol_out`. -/
def convertVolOut (val coinDecimal coinLotSize sysDecimalValue : U64) : Result U64 := do
  let unit ← Outcome.unwrap (Checked.pow (10 : U128) coinDecimal.toNat)
  let scaled ← Outcome.unwrap (Checked.mul (toU128 val) unit)
  let lots ← Outcome.unwrap (Checked.mul (toU128 coinLotSize) (toU128 sysDecimalValue))
  let volume ← Outcome.unwrap (Checked.div scaled lots)
  asU64 volume

/-- `get_max_buy_size_at_price`: the size up to which the pool can buy at `price` with the fee on
    top. The sum of the fee parts is a plain operator. -/
def getMaxBuySizeAtPrice (price : U64) (x y : U128) (amm : AmmInfo) : Result U64 := do
  let feeSum ← Outcome.unwrap
    (Checked.add amm.fees.tradeFeeDenominator amm.fees.tradeFeeNumerator)
  let gross ← Outcome.unwrap (Checked.mul (toU128 price) (toU128 feeSum))
  let priceWithFee ← Outcome.unwrap (Checked.div gross (toU128 amm.fees.tradeFeeDenominator))
  let scaled ← Outcome.unwrap (Checked.mul x (toU128 amm.sysDecimalValue))
  let covered ← Outcome.unwrap (Checked.div scaled priceWithFee)
  asU64 (Checked.satSub covered y)

/-- `get_max_sell_size_at_price`: the size up to which it can sell at `price` with the fee taken
    off. -/
def getMaxSellSizeAtPrice (price : U64) (x y : U128) (amm : AmmInfo) : Result U64 := do
  let net ← Outcome.unwrap (Checked.mul (toU128 price) (toU128 amm.fees.tradeFeeDenominator))
  let feeSum ← Outcome.unwrap
    (Checked.add amm.fees.tradeFeeDenominator amm.fees.tradeFeeNumerator)
  let priceWithFee ← Outcome.unwrap (Checked.div net (toU128 feeSum))
  let scaled ← Outcome.unwrap (Checked.mul x (toU128 amm.sysDecimalValue))
  let secondPart ← Outcome.unwrap (Checked.div scaled priceWithFee)
  asU64 (Checked.satSub y secondPart)

/-- The change that one event of the queue makes to the totals `(pc, coin)`. The subtraction and
    the addition are plain operators in a build with overflow checks. -/
def applyEvent (ammOpenOrders : Pubkey) (totals : U64 × U64) (event : Event) :
    Result (U64 × U64) :=
  if event.owner ≠ ammOpenOrders then .ok totals
  else do
    let view ← Outcome.unwrap event.view
    match view with
    | .fill .bid true nativeQtyPaid nativeQtyReceived =>
      let nativePcTotal ← Outcome.unwrap (Checked.sub totals.1 nativeQtyPaid)
      let nativeCoinTotal ← Outcome.unwrap (Checked.add totals.2 nativeQtyReceived)
      .ok (nativePcTotal, nativeCoinTotal)
    | .fill .ask true nativeQtyPaid nativeQtyReceived =>
      let nativeCoinTotal ← Outcome.unwrap (Checked.sub totals.2 nativeQtyPaid)
      let nativePcTotal ← Outcome.unwrap (Checked.add totals.1 nativeQtyReceived)
      .ok (nativePcTotal, nativeCoinTotal)
    | _ => .ok totals

/-- `calc_exact_vault_in_serum`, on the event queue that the market loads. -/
def calcExactVaultInSerum (openOrders : OpenOrders) (eventQ : List Event)
    (ammOpenOrders : Pubkey) : Result (U64 × U64) :=
  eventQ.foldlM (applyEvent ammOpenOrders) (openOrders.nativePcTotal, openOrders.nativeCoinTotal)

/-- `calc_total_without_take_pnl`, as `(pc, coin)`. -/
def calcTotalWithoutTakePnl (pcAmount coinAmount : U64) (openOrders : OpenOrders) (amm : AmmInfo)
    (eventQ : List Event) (ammOpenOrders : Pubkey) : Result (U64 × U64) := do
  let (pcTotalInSerum, coinTotalInSerum) ← calcExactVaultInSerum openOrders eventQ ammOpenOrders
  let pcSum ← Outcome.okOr (Checked.add pcAmount pcTotalInSerum)
    AmmError.checkedAddOverflow.into
  let totalPcWithoutTakePnl ← Outcome.okOr (Checked.sub pcSum amm.stateData.needTakePnlPc)
    AmmError.checkedSubOverflow.into
  let coinSum ← Outcome.okOr (Checked.add coinAmount coinTotalInSerum)
    AmmError.checkedAddOverflow.into
  let totalCoinWithoutTakePnl ← Outcome.okOr (Checked.sub coinSum amm.stateData.needTakePnlCoin)
    AmmError.checkedSubOverflow.into
  return (totalPcWithoutTakePnl, totalCoinWithoutTakePnl)

/-- `calc_total_without_take_pnl_no_orderbook`, as `(pc, coin)`. -/
def calcTotalWithoutTakePnlNoOrderbook (pcAmount coinAmount : U64) (amm : AmmInfo) :
    Result (U64 × U64) := do
  let totalPcWithoutTakePnl ← Outcome.okOr (Checked.sub pcAmount amm.stateData.needTakePnlPc)
    AmmError.checkedSubOverflow.into
  let totalCoinWithoutTakePnl ←
    Outcome.okOr (Checked.sub coinAmount amm.stateData.needTakePnlCoin)
      AmmError.checkedSubOverflow.into
  return (totalPcWithoutTakePnl, totalCoinWithoutTakePnl)

/-- `swap_token_amount_base_in`. -/
def swapTokenAmountBaseIn (amountIn totalPcWithoutTakePnl totalCoinWithoutTakePnl : U128)
    (swapDirection : SwapDirection) : Result U128 :=
  match swapDirection with
  | .coin2Pc => do
    let denominator ← Outcome.unwrap (Checked.add totalCoinWithoutTakePnl amountIn)
    let product ← Outcome.unwrap (Checked.mul totalPcWithoutTakePnl amountIn)
    Outcome.unwrap (Checked.div product denominator)
  | .pc2Coin => do
    let denominator ← Outcome.unwrap (Checked.add totalPcWithoutTakePnl amountIn)
    let product ← Outcome.unwrap (Checked.mul totalCoinWithoutTakePnl amountIn)
    Outcome.unwrap (Checked.div product denominator)

/-- `swap_token_amount_base_out`. -/
def swapTokenAmountBaseOut (amountOut totalPcWithoutTakePnl totalCoinWithoutTakePnl : U128)
    (swapDirection : SwapDirection) : Result U128 :=
  match swapDirection with
  | .coin2Pc => do
    let denominator ← Outcome.unwrap (Checked.sub totalPcWithoutTakePnl amountOut)
    let product ← Outcome.unwrap (Checked.mul totalCoinWithoutTakePnl amountOut)
    let quotient ← Outcome.unwrap (checkedCeilDiv product denominator)
    return quotient.1
  | .pc2Coin => do
    let denominator ← Outcome.unwrap (Checked.sub totalCoinWithoutTakePnl amountOut)
    let product ← Outcome.unwrap (Checked.mul totalPcWithoutTakePnl amountOut)
    let quotient ← Outcome.unwrap (checkedCeilDiv product denominator)
    return quotient.1

end Calculator

open Calculator (toU128 asU64)

/-- `amount * numerator / denominator` in 128 bits, rounded as asked and narrowed with `as_u64`:
    the body that the exchange functions below share. -/
def exchange (amount numerator denominator : U64) (roundDirection : RoundDirection) :
    Result (Option U64) := do
  let product ← Outcome.unwrap (Checked.mul (toU128 amount) (toU128 numerator))
  match roundDirection with
  | .floor =>
    let quotient ← Outcome.unwrap (Checked.div product (toU128 denominator))
    let ret ← asU64 quotient
    return some ret
  | .ceiling =>
    let quotient ← Outcome.unwrap (checkedCeilDiv product (toU128 denominator))
    let ret ← asU64 quotient.1
    return some ret

/-- `InvariantToken`. -/
structure InvariantToken where
  tokenCoin : U64
  tokenPc : U64

/-- `exchange_coin_to_pc`. -/
def InvariantToken.exchangeCoinToPc (self : InvariantToken) (tokenCoin : U64)
    (roundDirection : RoundDirection) : Result (Option U64) :=
  exchange tokenCoin self.tokenPc self.tokenCoin roundDirection

/-- `exchange_pc_to_coin`. -/
def InvariantToken.exchangePcToCoin (self : InvariantToken) (tokenPc : U64)
    (roundDirection : RoundDirection) : Result (Option U64) :=
  exchange tokenPc self.tokenCoin self.tokenPc roundDirection

/-- `InvariantPool`. -/
structure InvariantPool where
  tokenInput : U64
  tokenTotal : U64

/-- `exchange_pool_to_token`. -/
def InvariantPool.exchangePoolToToken (self : InvariantPool) (tokenTotalAmount : U64)
    (roundDirection : RoundDirection) : Result (Option U64) :=
  exchange tokenTotalAmount self.tokenInput self.tokenTotal roundDirection

/-- `exchange_token_to_pool`. -/
def InvariantPool.exchangeTokenToPool (self : InvariantPool) (poolTotalAmount : U64)
    (roundDirection : RoundDirection) : Result (Option U64) :=
  exchange poolTotalAmount self.tokenInput self.tokenTotal roundDirection

end RaydiumAmm
