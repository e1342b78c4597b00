import RaydiumAmm.Invokers

/-!
# Helpers of the handlers

The signing authority, the pool's order book data, the profit bookkeeping, the withdraw amounts
and the cancel-and-settle sequence.
-/

namespace RaydiumAmm

/-- `AUTHORITY_AMM`: `b"amm authority"`. -/
def AUTHORITY_AMM : List U8 :=
  [0x61, 0x6d, 0x6d, 0x20, 0x61, 0x75, 0x74, 0x68, 0x6f, 0x72, 0x69, 0x74, 0x79]

/-- `authority_id`: it depends on the program and the nonce, not on the pool. -/
def authorityId (env : Env) (programId : Pubkey) (ammSeed : List U8) (nonce : U8) :
    Result Pubkey :=
  Outcome.okOr (env.createProgramAddress [ammSeed, [nonce]] programId)
    AmmError.invalidProgramAddress.into

/-- `load_serum_market_order`. -/
def loadSerumMarketOrder (env : Env) (marketAcc openOrdersAcc authorityAcc : AccountInfo)
    (amm : AmmInfo) (allowDisabled : Bool) (w : World) : Result (MarketState × OpenOrders) := do
  let marketState ← Outcome.lift
    (env.loadMarket marketAcc.key (w.accounts marketAcc.key) amm.marketProgram allowDisabled)
  let openOrders ← Outcome.lift
    (env.loadOpenOrders openOrdersAcc.key (w.accounts openOrdersAcc.key) marketAcc.key
      authorityAcc.key amm.marketProgram)
  check (openOrders.market = marketAcc.key) .invalidMarket
  check (openOrders.owner = authorityAcc.key) .invalidOwner
  check (openOrdersAcc.key = amm.openOrders) .invalidOpenOrders
  return (marketState, openOrders)

/-- `load_bids_checked` and `load_asks_checked` followed by `get_amm_orders`. -/
def loadAmmOrders (env : Env) (marketState : MarketState) (openOrders : OpenOrders)
    (marketBidsInfo marketAsksInfo : AccountInfo) (w : World) :
    Result (List LeafNode × List LeafNode) := do
  let bidsOrders ← Outcome.lift
    (env.loadBids marketState marketBidsInfo.key (w.accounts marketBidsInfo.key))
  let asksOrders ← Outcome.lift
    (env.loadAsks marketState marketAsksInfo.key (w.accounts marketAsksInfo.key))
  return getAmmOrders openOrders bidsOrders asksOrders

/-- `calc_total_without_take_pnl` as the handlers call it: the event queue is loaded first, and a
    queue that does not load panics. -/
def calcTotal (env : Env) (pcAmount coinAmount : U64) (openOrders : OpenOrders) (amm : AmmInfo)
    (marketState : MarketState) (eventQAccount ammOpenAccount : AccountInfo) (w : World) :
    Result (U64 × U64) := do
  let eventQ ← Outcome.unwrap
    (env.loadEventQueue marketState eventQAccount.key (w.accounts eventQAccount.key)).toOption
  Calculator.calcTotalWithoutTakePnl pcAmount coinAmount openOrders amm eventQ ammOpenAccount.key

/-! ## Profit bookkeeping -/

/-- What `calc_take_pnl` leaves: the record, the two totals and the two deltas. -/
structure TakePnl where
  amm : AmmInfo
  totalPcWithoutTakePnl : U64
  totalCoinWithoutTakePnl : U64
  deltaX : U128
  deltaY : U128

/-- `calc_take_pnl`. The two last arguments of the source are not read. `delta as u64` keeps the
    low 64 bits. -/
def calcTakePnl (target : TargetOrders) (amm : AmmInfo)
    (totalPcWithoutTakePnl totalCoinWithoutTakePnl : U64) : TakePnl :=
  let deltaX := target.calcPnlX
  let deltaY := target.calcPnlY
  { amm := { amm with
      stateData := { amm.stateData with
        totalPnlPc := Checked.satAdd amm.stateData.totalPnlPc (deltaX.setWidth 64)
        totalPnlCoin := Checked.satAdd amm.stateData.totalPnlCoin (deltaY.setWidth 64) } }
    totalPcWithoutTakePnl := Checked.satSub totalPcWithoutTakePnl (deltaX.setWidth 64)
    totalCoinWithoutTakePnl := Checked.satSub totalCoinWithoutTakePnl (deltaY.setWidth 64)
    deltaX := deltaX
    deltaY := deltaY }

/-- `update_target_orders_pnl`. -/
def updateTargetOrdersPnl (targetOrders : TargetOrders) (x1 y1 deltaX deltaY : U128) :
    TargetOrders :=
  { targetOrders with calcPnlX := deltaX, calcPnlY := deltaY, targetX := x1, targetY := y1 }

/-! ## Batches of client order ids -/

/-- The state of the loop that collects client order ids: the full batches, the batch in progress
    and its length. -/
structure Batching where
  ammOrderIdsVec : List (List U64) := []
  orderIds : List U64 := List.replicate 8 0
  count : Nat := 0

namespace Batching

/-- `order_ids[count] = id; count += 1`: an index of 8 panics. -/
def push (b : Batching) (id : U64) : Result Batching :=
  if b.count < 8 then .ok { b with orderIds := b.orderIds.set b.count id, count := b.count + 1 }
  else Outcome.panic

/-- `if count == 8 { … }`. -/
def flush (b : Batching) : Batching :=
  if b.count = 8 then
    { ammOrderIdsVec := b.ammOrderIdsVec ++ [b.orderIds]
      orderIds := List.replicate 8 0
      count := 0 }
  else b

/-- The batches after the loop. -/
def finish (b : Batching) : List (List U64) :=
  if b.count ≠ 0 then b.ammOrderIdsVec ++ [b.orderIds] else b.ammOrderIdsVec

end Batching

/-- The batches of one side's orders. -/
def oneSidedBatches (orders : List LeafNode) : Result (List (List U64)) := do
  let b ← orders.foldlM (fun (b : Batching) order => do
    let b ← b.push order.clientOrderId
    return b.flush) {}
  return b.finish

/-- Push the id of order `i` where there is one. -/
def pushAt (orders : List LeafNode) (i : Nat) (b : Batching) : Result Batching :=
  match orders[i]? with
  | some order => b.push order.clientOrderId
  | none => .ok b

/-- The batches of both sides' orders, a bid and an ask in turn. -/
def twoSidedBatches (bids asks : List LeafNode) : Result (List (List U64)) := do
  let b ← (List.range (max bids.length asks.length)).foldlM (fun (b : Batching) i => do
    let b ← pushAt bids i b
    let b ← pushAt asks i b
    return b.flush) {}
  return b.finish

/-! ## Cancel and settle -/

/-- The accounts of a cancel call, under the names that the handlers bind. -/
structure CancelInfos where
  marketProgramInfo : AccountInfo
  marketInfo : AccountInfo
  marketBidsInfo : AccountInfo
  marketAsksInfo : AccountInfo
  ammOpenOrdersInfo : AccountInfo
  ammAuthorityInfo : AccountInfo
  marketEventQInfo : AccountInfo

/-- One cancel call for each batch. -/
def cancelBatches (env : Env) (a : CancelInfos) (nonce : U8) (batches : List (List U64))
    (w : World) : Result World :=
  batches.foldlM (fun w ids =>
    invokeDexCancelOrdersByClientOrderIds env a.marketProgramInfo a.marketInfo a.marketBidsInfo
      a.marketAsksInfo a.ammOpenOrdersInfo a.ammAuthorityInfo a.marketEventQInfo AUTHORITY_AMM
      nonce ids w) w

/-- `if !orders.is_empty() { … }`: cancel one side's orders. -/
def cancelSide (env : Env) (a : CancelInfos) (nonce : U8) (orders : List LeafNode) (w : World) :
    Result World := do
  let batches ← oneSidedBatches orders
  cancelBatches env a nonce batches w

/-- `cancel_amm_orders_and_settle`. -/
def cancelAmmOrdersAndSettle (env : Env) (a : CancelInfos)
    (marketCoinVaultInfo marketPcVaultInfo ammCoinVaultInfo ammPcVaultInfo marketVaultSigner
      tokenProgramInfo : AccountInfo) (referrerPcWallet : Option AccountInfo)
    (bids asks : List LeafNode) (ammNonce : U8) (w : World) : Result World := do
  let batches ← twoSidedBatches bids asks
  let w ← cancelBatches env a ammNonce batches w
  invokeDexSettleFunds env a.marketProgramInfo a.marketInfo a.ammOpenOrdersInfo
    a.ammAuthorityInfo marketCoinVaultInfo marketPcVaultInfo ammCoinVaultInfo ammPcVaultInfo
    marketVaultSigner tokenProgramInfo referrerPcWallet AUTHORITY_AMM ammNonce w

end RaydiumAmm
