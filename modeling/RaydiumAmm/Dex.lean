import RaydiumAmm.State
import Mathlib.Data.List.Sort

/-!
# The exchange's records

What this program reads of an order book exchange: the market, the pool's open-orders account, the
two books and the event queue. The byte layouts belong to the exchange; here are the views that
its loaders return.
-/

namespace RaydiumAmm

inductive Side where
  | bid
  | ask
deriving DecidableEq

/-- `EventView`: a fill, or any other event. -/
inductive EventView where
  | fill (side : Side) (maker : Bool) (nativeQtyPaid nativeQtyReceived : U64)
  | out
deriving DecidableEq

/-- An event of the queue. `view` is `none` where `as_view` fails. -/
structure Event where
  owner : Pubkey
  view : Option EventView
deriving DecidableEq

/-- `OpenOrders`. -/
structure OpenOrders where
  market : Pubkey
  owner : Pubkey
  nativeCoinFree : U64
  nativeCoinTotal : U64
  nativePcFree : U64
  nativePcTotal : U64
  freeSlotBits : U128
  isBidBits : U128
  orders : Fin 128 → U128

/-- `MarketState`, the fields that are read. -/
structure MarketState where
  coinMint : Pubkey
  pcMint : Pubkey
deriving DecidableEq

/-- A leaf of a book. Its price is a `NonZeroU64`. -/
structure LeafNode where
  price : U64
  clientOrderId : U64
  price_ne_zero : price ≠ 0

/-- A book: a map from order id to leaf. -/
structure Slab where
  leaves : List (U128 × LeafNode)

/-- `find_by_key` followed by `get` and `as_leaf`. -/
def Slab.findByKey (slab : Slab) (key : U128) : Option LeafNode :=
  slab.leaves.lookup key

/-! ## Orders of the pool -/

/-- Slot `i` of the open orders holds an order. -/
def OpenOrders.occupied (o : OpenOrders) (i : Fin 128) : Bool :=
  !(o.freeSlotBits.getLsbD i)

/-- The order in slot `i` is a bid. -/
def OpenOrders.isBid (o : OpenOrders) (i : Fin 128) : Bool :=
  o.isBidBits.getLsbD i

/-- One turn of the loop over the slots: the leaf of an occupied slot goes to the list of its
    side, and a slot whose order is no longer in the book is skipped. -/
def collectOrder (o : OpenOrders) (bids asks : Slab) (acc : List LeafNode × List LeafNode)
    (i : Fin 128) : List LeafNode × List LeafNode :=
  if !o.occupied i then acc
  else if o.isBid i then
    match bids.findByKey (o.orders i) with
    | none => acc
    | some handleBid => (acc.1 ++ [handleBid], acc.2)
  else
    match asks.findByKey (o.orders i) with
    | none => acc
    | some handleAsk => (acc.1, acc.2 ++ [handleAsk])

/-- `get_amm_orders`: bids by falling price, asks by rising price, both stable. The count of zero
    bits is zero exactly when every slot is free. -/
def getAmmOrders (o : OpenOrders) (bids asks : Slab) : List LeafNode × List LeafNode :=
  let orders :=
    if o.freeSlotBits ≠ BitVec.allOnes 128 then
      (List.finRange 128).foldl (collectOrder o bids asks) ([], [])
    else ([], [])
  (orders.1.insertionSort fun a b => b.price ≤ a.price,
    orders.2.insertionSort fun a b => a.price ≤ b.price)

end RaydiumAmm
