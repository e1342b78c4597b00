import Mathlib.Data.List.Perm.Basic
import RaydiumAmm.AdminEffect
import RaydiumAmm.ProfitEffect
import RaydiumAmm.SwapStages

/-!
# Batches of cancelled orders

Which orders of the pool a handler finds, and in which calls it cancels them.

1. `getAmmOrders`: the occupied slots whose order is in the book of its side, sorted by price.
2. `Batching.Holds`: the invariant of the loops that collect client order ids.
3. The one-sided loop, and the two-sided one, whose batch has an even length as long as both lists
   last.
4. `cancel_coverage`: every order is cancelled exactly once, in full batches but the last.
5. What each handler cancels: of the orders that `get_amm_orders` finds for it, a withdraw and a
   monitor step all in one go, a cancel-all and a migration one side after the other, a swap the
   side in its way.
-/

namespace RaydiumAmm

/-! ## 1. The orders found -/

/-- The bid of slot `i` that is in the book. -/
def OpenOrders.bidAt (o : OpenOrders) (bids : Slab) (i : Fin 128) : Option LeafNode :=
  if o.occupied i ∧ o.isBid i then bids.findByKey (o.orders i) else none

/-- The ask of slot `i` that is in the book. -/
def OpenOrders.askAt (o : OpenOrders) (asks : Slab) (i : Fin 128) : Option LeafNode :=
  if o.occupied i ∧ ¬o.isBid i then asks.findByKey (o.orders i) else none

section Orders

variable (o : OpenOrders) (bids asks : Slab)

/-- One turn of the loop adds what the slot holds. -/
theorem collectOrder_eq (acc : List LeafNode × List LeafNode) (i : Fin 128) :
    collectOrder o bids asks acc i =
      (acc.1 ++ (o.bidAt bids i).toList, acc.2 ++ (o.askAt asks i).toList) := by
  unfold collectOrder OpenOrders.bidAt OpenOrders.askAt
  cases hslot : o.occupied i with
  | false => simp
  | true =>
    cases hside : o.isBid i with
    | false => cases asks.findByKey (o.orders i) <;> simp
    | true => cases bids.findByKey (o.orders i) <;> simp

theorem foldl_collectOrder (slots : List (Fin 128)) (acc : List LeafNode × List LeafNode) :
    slots.foldl (collectOrder o bids asks) acc =
      (acc.1 ++ slots.filterMap (o.bidAt bids), acc.2 ++ slots.filterMap (o.askAt asks)) := by
  induction slots generalizing acc with
  | nil => simp
  | cons i rest ih =>
    rw [List.foldl_cons, ih, collectOrder_eq]
    cases hbid : o.bidAt bids i <;> cases hask : o.askAt asks i <;> simp [hbid, hask]

/-- Without an occupied slot there is nothing to find. -/
theorem OpenOrders.not_occupied_of_free (h : o.freeSlotBits = BitVec.allOnes 128) (i : Fin 128) :
    o.occupied i = false := by
  rw [OpenOrders.occupied, h, BitVec.getLsbD_allOnes, decide_eq_true i.isLt]
  rfl

theorem getAmmOrders_eq :
    getAmmOrders o bids asks =
      (((List.finRange 128).filterMap (o.bidAt bids)).insertionSort fun a b => b.price ≤ a.price,
        ((List.finRange 128).filterMap (o.askAt asks)).insertionSort
          fun a b => a.price ≤ b.price) := by
  unfold getAmmOrders
  split
  next => rw [foldl_collectOrder, List.nil_append, List.nil_append]
  next hfree =>
    have hnone := o.not_occupied_of_free (Classical.not_not.mp hfree)
    have hbids : (List.finRange 128).filterMap (o.bidAt bids) = [] :=
      List.filterMap_eq_nil_iff.mpr fun i _ => by simp [OpenOrders.bidAt, hnone i]
    have hasks : (List.finRange 128).filterMap (o.askAt asks) = [] :=
      List.filterMap_eq_nil_iff.mpr fun i _ => by simp [OpenOrders.askAt, hnone i]
    rw [hbids, hasks]

/-- The list of bids holds the bids found, the highest price first. -/
theorem getAmmOrders_bids :
    (getAmmOrders o bids asks).1.Perm ((List.finRange 128).filterMap (o.bidAt bids)) ∧
      (getAmmOrders o bids asks).1.Pairwise fun a b => b.price ≤ a.price := by
  rw [getAmmOrders_eq]
  refine ⟨List.perm_insertionSort _ _, ?_⟩
  have : Std.Total fun a b : LeafNode => b.price ≤ a.price :=
    ⟨fun a b => (BitVec.le_total a.price b.price).symm⟩
  have : IsTrans LeafNode fun a b => b.price ≤ a.price :=
    ⟨fun _ _ _ hab hbc => BitVec.le_trans hbc hab⟩
  exact List.pairwise_insertionSort _ _

/-- The list of asks holds the asks found, the lowest price first. -/
theorem getAmmOrders_asks :
    (getAmmOrders o bids asks).2.Perm ((List.finRange 128).filterMap (o.askAt asks)) ∧
      (getAmmOrders o bids asks).2.Pairwise fun a b => a.price ≤ b.price := by
  rw [getAmmOrders_eq]
  refine ⟨List.perm_insertionSort _ _, ?_⟩
  have : Std.Total fun a b : LeafNode => a.price ≤ b.price :=
    ⟨fun a b => BitVec.le_total a.price b.price⟩
  have : IsTrans LeafNode fun a b => a.price ≤ b.price :=
    ⟨fun _ _ _ hab hbc => BitVec.le_trans hab hbc⟩
  exact List.pairwise_insertionSort _ _

end Orders

/-! ## 2. Batches in progress -/

/-- The ids of a list of orders. -/
def clientOrderIds (orders : List LeafNode) : List U64 := orders.map LeafNode.clientOrderId

/-- Batches of eight that spell `ids`, with zeros behind the last id in the last batch. -/
structure Batched (batches : List (List U64)) (ids : List U64) : Prop where
  eight : ∀ batch ∈ batches, batch.length = 8
  flatten : ∃ pad < 8, batches.flatten = ids ++ List.replicate pad 0

/-- What the loop holds of the ids it was given: full batches, and the rest in front of the zeros of
    the batch in progress. -/
structure Batching.Holds (b : Batching) (ids : List U64) : Prop where
  eight : ∀ batch ∈ b.ammOrderIdsVec, batch.length = 8
  current : ∃ current : List U64, current.length = b.count ∧
    b.orderIds = current ++ List.replicate (8 - b.count) 0 ∧
    b.ammOrderIdsVec.flatten ++ current = ids

namespace Batching

variable {b : Batching} {ids : List U64}

theorem holds_empty : Holds {} [] where
  eight := fun batch h => by cases h
  current := ⟨[], rfl, rfl, rfl⟩

/-- There is room for an id as long as the batch is not full. -/
theorem Holds.push (h : b.Holds ids) (hcount : b.count < 8) (id : U64) :
    ∃ b', b.push id = .ok b' ∧ b'.Holds (ids ++ [id]) ∧ b'.count = b.count + 1 := by
  refine ⟨_, if_pos hcount, ⟨h.eight, ?_⟩, rfl⟩
  obtain ⟨current, hlen, horder, hids⟩ := h.current
  refine ⟨current ++ [id], by simp [hlen], ?_, ?_⟩
  · obtain ⟨room, hroom⟩ : ∃ room, 8 - b.count = room + 1 := ⟨7 - b.count, by omega⟩
    have hroom' : 8 - (b.count + 1) = room := by omega
    show b.orderIds.set b.count id = current ++ [id] ++ List.replicate (8 - (b.count + 1)) 0
    rw [horder, hroom, hroom', ← hlen, List.set_append_right _ _ (Nat.le_refl _), Nat.sub_self,
      List.replicate_succ, List.set_cons_zero, List.append_assoc, List.singleton_append]
  · rw [← hids, List.append_assoc]

/-- A flush makes room again. -/
theorem Holds.flush (h : b.Holds ids) (hcount : b.count ≤ 8) :
    b.flush.Holds ids ∧ b.flush.count < 8 ∧ b.flush.count % 8 = b.count % 8 := by
  unfold Batching.flush
  split
  next hfull =>
    obtain ⟨current, hlen, horder, hids⟩ := h.current
    have hcurrent : b.orderIds = current := by rw [horder, hfull]; simp
    refine ⟨⟨?_, [], rfl, rfl, ?_⟩, Nat.zero_lt_succ 7, ?_⟩
    · intro batch hbatch
      rcases List.mem_append.mp hbatch with hbatch | hbatch
      · exact h.eight batch hbatch
      · obtain rfl := List.mem_singleton.mp hbatch
        rw [hcurrent, hlen, hfull]
    · rw [List.flatten_append, List.append_nil, List.flatten_singleton, hcurrent, hids]
    · show 0 % 8 = b.count % 8
      rw [hfull]
  next hroom => exact ⟨h, by omega, rfl⟩

/-- The batch in progress is the last one. -/
theorem Holds.finish (h : b.Holds ids) (hcount : b.count < 8) : Batched b.finish ids := by
  obtain ⟨current, hlen, horder, hids⟩ := h.current
  unfold Batching.finish
  split
  next hsome =>
    refine ⟨?_, 8 - b.count, by omega, ?_⟩
    · intro batch hbatch
      rcases List.mem_append.mp hbatch with hbatch | hbatch
      · exact h.eight batch hbatch
      · obtain rfl := List.mem_singleton.mp hbatch
        rw [horder, List.length_append, List.length_replicate, hlen]
        omega
    · rw [List.flatten_append, List.flatten_singleton, horder, ← List.append_assoc, hids]
  next hnone =>
    obtain rfl : current = [] := List.eq_nil_of_length_eq_zero (by omega)
    refine ⟨h.eight, 0, by decide, ?_⟩
    rw [← hids, List.replicate_zero, List.append_nil, List.append_nil]

end Batching

/-! ## 3. The loops -/

section Loops

variable {b : Batching} {ids : List U64}

/-- The loop over one side's orders. -/
theorem oneSidedBatches_loop (orders : List LeafNode) (h : b.Holds ids) (hcount : b.count < 8) :
    ∃ b', orders.foldlM (fun (b : Batching) order => do
        let b ← b.push order.clientOrderId
        return b.flush) b = (.ok b' : Result Batching) ∧
      b'.Holds (ids ++ clientOrderIds orders) ∧ b'.count < 8 := by
  induction orders generalizing b ids with
  | nil => exact ⟨b, rfl, by rwa [clientOrderIds, List.map_nil, List.append_nil], hcount⟩
  | cons order rest ih =>
    obtain ⟨b₁, hpush, hb₁, hcount₁⟩ := h.push hcount order.clientOrderId
    obtain ⟨hflush, hroom, -⟩ := hb₁.flush (by omega)
    obtain ⟨b', hrest, hb', hlast⟩ := ih hflush hroom
    refine ⟨b', ?_, ?_, hlast⟩
    · rw [List.foldlM_cons, hpush]
      exact hrest
    · rwa [List.append_assoc] at hb'

theorem oneSidedBatches_spec (orders : List LeafNode) :
    ∃ batches, oneSidedBatches orders = .ok batches ∧ Batched batches (clientOrderIds orders) := by
  obtain ⟨b, hloop, hb, hcount⟩ := oneSidedBatches_loop orders Batching.holds_empty (by decide)
  refine ⟨b.finish, ?_, hb.finish hcount⟩
  rw [oneSidedBatches, hloop]
  rfl

/-- The id at an index, where there is one. -/
def idAt (orders : List LeafNode) (i : ℕ) : List U64 := clientOrderIds orders[i]?.toList

/-- The ids of the first `k` turns of the two-sided loop. -/
def interleaved (bids asks : List LeafNode) (k : ℕ) : List U64 :=
  (List.range k).flatMap fun i => idAt bids i ++ idAt asks i

theorem interleaved_succ (bids asks : List LeafNode) (k : ℕ) :
    interleaved bids asks (k + 1) = interleaved bids asks k ++ idAt bids k ++ idAt asks k := by
  rw [interleaved, List.range_succ, List.flatMap_append, List.flatMap_singleton, interleaved,
    List.append_assoc]

theorem flatMap_idAt (orders : List LeafNode) {k : ℕ} (h : orders.length ≤ k) :
    (List.range k).flatMap (idAt orders) = clientOrderIds orders := by
  have htake : ∀ n, (List.range n).flatMap (idAt orders) = clientOrderIds (orders.take n) := by
    intro n
    induction n with
    | zero => rfl
    | succ n ih =>
      rw [List.range_succ, List.flatMap_append, ih, List.flatMap_singleton, List.take_add_one]
      exact List.map_append.symm
  rw [htake, List.take_of_length_le h]

/-- The turns reach every id of both lists once. -/
theorem interleaved_perm (bids asks : List LeafNode) :
    (interleaved bids asks (max bids.length asks.length)).Perm
      (clientOrderIds (bids ++ asks)) := by
  have hperm := List.flatMap_append_perm (List.range (max bids.length asks.length)) (idAt bids)
    (idAt asks)
  rw [flatMap_idAt bids (Nat.le_max_left _ _), flatMap_idAt asks (Nat.le_max_right _ _)] at hperm
  rw [clientOrderIds, List.map_append]
  exact hperm.symm

/-- Push what a list holds at an index. -/
theorem Batching.Holds.pushAt (h : b.Holds ids) (orders : List LeafNode) (i : ℕ)
    (hcount : i < orders.length → b.count < 8) :
    ∃ b', RaydiumAmm.pushAt orders i b = .ok b' ∧ b'.Holds (ids ++ idAt orders i) ∧
      b'.count = b.count + if i < orders.length then 1 else 0 := by
  unfold RaydiumAmm.pushAt idAt
  by_cases hi : i < orders.length
  · rw [List.getElem?_eq_getElem hi, if_pos hi]
    exact h.push (hcount hi) _
  · rw [List.getElem?_eq_none (Nat.le_of_not_lt hi), if_neg hi]
    exact ⟨b, rfl, by simpa [clientOrderIds] using h, rfl⟩

/-- The loop over both sides' orders. As long as both lists last, the batch in progress has an even
    length, so the two ids of a turn fit; after that a turn has one id. -/
theorem twoSidedBatches_loop (bids asks : List LeafNode) (k : ℕ) :
    ∃ b, (List.range k).foldlM (fun (b : Batching) i => do
        let b ← pushAt bids i b
        let b ← pushAt asks i b
        return b.flush) {} = (.ok b : Result Batching) ∧
      b.Holds (interleaved bids asks k) ∧ b.count < 8 ∧
      (k ≤ min bids.length asks.length → b.count % 2 = 0) := by
  induction k with
  | zero => exact ⟨{}, rfl, Batching.holds_empty, by decide, fun _ => rfl⟩
  | succ k ih =>
    obtain ⟨b, hloop, hb, hcount, heven⟩ := ih
    obtain ⟨b₁, hbid, hb₁, hcount₁⟩ := hb.pushAt bids k fun _ => hcount
    have hroom : k < asks.length → b₁.count < 8 := by
      intro hask
      rw [hcount₁]
      split
      next hbids =>
        have := heven (Nat.le_min.mpr ⟨Nat.le_of_lt hbids, Nat.le_of_lt hask⟩)
        omega
      next => omega
    obtain ⟨b₂, hask, hb₂, hcount₂⟩ := hb₁.pushAt asks k hroom
    have hle : b₂.count ≤ 8 := by
      rw [hcount₂]
      split
      next hasks => exact hroom hasks
      next =>
        rw [hcount₁]
        split <;> omega
    obtain ⟨hflush, hlt, hmod⟩ := hb₂.flush hle
    refine ⟨b₂.flush, ?_, ?_, hlt, ?_⟩
    · rw [List.range_succ, List.foldlM_append, hloop, Outcome.ok_bind, List.foldlM_cons, hbid,
        Outcome.ok_bind, hask]
      rfl
    · rwa [interleaved_succ]
    · intro hk
      have hboth := Nat.le_min.mp hk
      have hparity := heven (Nat.le_of_succ_le hk)
      rw [if_pos (Nat.lt_of_succ_le hboth.1)] at hcount₁
      rw [if_pos (Nat.lt_of_succ_le hboth.2)] at hcount₂
      omega

theorem twoSidedBatches_spec (bids asks : List LeafNode) :
    ∃ batches ids, twoSidedBatches bids asks = .ok batches ∧ Batched batches ids ∧
      ids.Perm (clientOrderIds (bids ++ asks)) := by
  obtain ⟨b, hloop, hb, hcount, -⟩ :=
    twoSidedBatches_loop bids asks (max bids.length asks.length)
  refine ⟨b.finish, _, ?_, hb.finish hcount, interleaved_perm bids asks⟩
  rw [twoSidedBatches, hloop]
  rfl

end Loops

/-! ## 4. The calls -/

/-- The ids that a call cancels, where it is a cancel call. -/
def Cpi.cancelledIds (c : Cpi) : Option (List U64) :=
  match c.ix with
  | .cancelOrders o => some o.clientOrderIds
  | _ => none

/-- The batches of the cancel calls made so far, in order. -/
def World.cancelled (w : World) : List (List U64) := w.inner.filterMap fun e => e.cpi.cancelledIds

/-- The calls from `w` to `w'` cancel each of the orders once, in batches of eight. -/
def CancelsOnce (orders : List LeafNode) (w w' : World) : Prop :=
  ∃ batches ids, w'.cancelled = w.cancelled ++ batches ∧ Batched batches ids ∧
    ids.Perm (clientOrderIds orders)

section Issued

variable {env : Env} {a : CancelInfos} {nonce : U8} {w w' : World}

theorem World.cancelled_of_invoke {c : Cpi} (h : w.invoke env c = .ok w') :
    w'.cancelled = w.cancelled ++ c.cancelledIds.toList := by
  obtain ⟨-, -, hinner⟩ := World.frame_of_invoke h
  rw [World.cancelled, World.cancelled, hinner, List.filterMap_append]
  cases hids : c.cancelledIds <;> simp [hids]

/-- Each batch is cancelled in a call of its own, in order. -/
theorem cancelBatches_issued {batches : List (List U64)}
    (h : cancelBatches env a nonce batches w = .ok w') : w'.cancelled = w.cancelled ++ batches := by
  induction batches generalizing w with
  | nil =>
    cases h
    exact (List.append_nil _).symm
  | cons ids rest ih =>
    simp only [cancelBatches, List.foldlM_cons, Outcome.bind_eq_ok] at h
    obtain ⟨w₁, hfirst, hrest⟩ := h
    rw [ih hrest, World.cancelled_of_invoke hfirst, List.append_assoc]
    rfl

/-- Other calls cancel nothing. -/
theorem World.cancelled_of_other {c : Cpi} (hc : c.cancelledIds = none)
    (h : w.invoke env c = .ok w') : w'.cancelled = w.cancelled := by
  rw [World.cancelled_of_invoke h, hc]
  exact List.append_nil _

/-- `cancel_amm_orders_and_settle` cancels the orders of both sides in the batches of the two-sided
    loop. -/
theorem cancelAmmOrdersAndSettle_issued {marketCoinVault marketPcVault ammCoinVault ammPcVault
    vaultSigner tokenProgram : AccountInfo} {referrer : Option AccountInfo}
    {bids asks : List LeafNode} {batches : List (List U64)}
    (hbatches : twoSidedBatches bids asks = .ok batches)
    (h : cancelAmmOrdersAndSettle env a marketCoinVault marketPcVault ammCoinVault ammPcVault
      vaultSigner tokenProgram referrer bids asks nonce w = .ok w') :
    w'.cancelled = w.cancelled ++ batches := by
  simp only [cancelAmmOrdersAndSettle, hbatches, Outcome.ok_bind, Outcome.bind_eq_ok] at h
  obtain ⟨w₁, hcancel, hsettle⟩ := h
  rw [World.cancelled_of_other rfl hsettle, cancelBatches_issued hcancel]

theorem cancelSide_issued {orders : List LeafNode} {batches : List (List U64)}
    (hbatches : oneSidedBatches orders = .ok batches)
    (h : cancelSide env a nonce orders w = .ok w') : w'.cancelled = w.cancelled ++ batches := by
  rw [cancelSide, hbatches] at h
  exact cancelBatches_issued h

end Issued

/-- The orders found in the books, and the batches in which a handler cancels them: all of both
    sides, or all of one side. -/
theorem cancel_coverage (o : OpenOrders) (bidBook askBook : Slab) :
    ((getAmmOrders o bidBook askBook).1.Perm ((List.finRange 128).filterMap (o.bidAt bidBook)) ∧
      (getAmmOrders o bidBook askBook).1.Pairwise fun a b => b.price ≤ a.price) ∧
    ((getAmmOrders o bidBook askBook).2.Perm ((List.finRange 128).filterMap (o.askAt askBook)) ∧
      (getAmmOrders o bidBook askBook).2.Pairwise fun a b => a.price ≤ b.price) ∧
    (∀ bids asks : List LeafNode, ∃ batches ids, twoSidedBatches bids asks = .ok batches ∧
      Batched batches ids ∧ ids.Perm (clientOrderIds (bids ++ asks)) ∧
      ∀ env a marketCoinVault marketPcVault ammCoinVault ammPcVault vaultSigner tokenProgram
        referrer nonce w w',
        cancelAmmOrdersAndSettle env a marketCoinVault marketPcVault ammCoinVault ammPcVault
          vaultSigner tokenProgram referrer bids asks nonce w = .ok w' →
        w'.cancelled = w.cancelled ++ batches) ∧
    (∀ orders : List LeafNode, ∃ batches, oneSidedBatches orders = .ok batches ∧
      Batched batches (clientOrderIds orders) ∧
      ∀ env a nonce w w', cancelSide env a nonce orders w = .ok w' →
        w'.cancelled = w.cancelled ++ batches) := by
  refine ⟨getAmmOrders_bids o bidBook askBook, getAmmOrders_asks o bidBook askBook, ?_, ?_⟩
  · intro bids asks
    obtain ⟨batches, ids, hbatches, hspell, hperm⟩ := twoSidedBatches_spec bids asks
    refine ⟨batches, ids, hbatches, hspell, hperm, ?_⟩
    intro env a _ _ _ _ _ _ _ nonce w w' h
    exact cancelAmmOrdersAndSettle_issued hbatches h
  · intro orders
    obtain ⟨batches, hbatches, hspell⟩ := oneSidedBatches_spec orders
    refine ⟨batches, hbatches, hspell, ?_⟩
    intro env a nonce w w' h
    exact cancelSide_issued hbatches h

/-! ## 5. The handlers -/

/-- The orders of the pool that `get_amm_orders` finds in the books of its market. -/
def FindsOrders (env : Env) (c : CancelInfos) (amm : AmmInfo) (w : World)
    (bids asks : List LeafNode) : Prop :=
  ∃ marketState openOrders bidBook askBook,
    loadSerumMarketOrder env c.marketInfo c.ammOpenOrdersInfo c.ammAuthorityInfo amm false w =
      .ok (marketState, openOrders) ∧
    env.loadBids marketState c.marketBidsInfo.key (w.accounts c.marketBidsInfo.key) =
      .ok bidBook ∧
    env.loadAsks marketState c.marketAsksInfo.key (w.accounts c.marketAsksInfo.key) =
      .ok askBook ∧
    getAmmOrders openOrders bidBook askBook = (bids, asks)

namespace CancelsOnce

variable {orders : List LeafNode} {env : Env} {w w' w'' : World}

/-- No order, no call. -/
theorem of_nil : CancelsOnce [] w w := by
  have hspell : Batched [] [] := ⟨fun _ h => absurd h List.not_mem_nil, 0, by decide, rfl⟩
  exact ⟨[], [], (List.append_nil _).symm, hspell, .rfl⟩

/-- What follows cancels nothing. -/
theorem before (h : CancelsOnce orders w w') (hother : w''.cancelled = w'.cancelled) :
    CancelsOnce orders w w'' := by
  obtain ⟨batches, ids, hcancelled, hspell, hperm⟩ := h
  exact ⟨batches, ids, hother.trans hcancelled, hspell, hperm⟩

theorem of_cancelAmmOrdersAndSettle {a : CancelInfos} {marketCoinVault marketPcVault ammCoinVault
    ammPcVault vaultSigner tokenProgram : AccountInfo} {referrer : Option AccountInfo}
    {bids asks : List LeafNode} {nonce : U8}
    (h : cancelAmmOrdersAndSettle env a marketCoinVault marketPcVault ammCoinVault ammPcVault
      vaultSigner tokenProgram referrer bids asks nonce w = .ok w') :
    CancelsOnce (bids ++ asks) w w' := by
  obtain ⟨batches, ids, hbatches, hspell, hperm⟩ := twoSidedBatches_spec bids asks
  exact ⟨batches, ids, cancelAmmOrdersAndSettle_issued hbatches h, hspell, hperm⟩

theorem of_cancelSide {a : CancelInfos} {nonce : U8}
    (h : cancelSide env a nonce orders w = .ok w') : CancelsOnce orders w w' := by
  obtain ⟨batches, hbatches, hspell⟩ := oneSidedBatches_spec orders
  exact ⟨batches, _, cancelSide_issued hbatches h, hspell, .rfl⟩

end CancelsOnce

section Handlers

variable {env : Env} {programId : Pubkey} {w w' : World}

theorem findsOrders_of_load {c : CancelInfos} {amm : AmmInfo} {marketState : MarketState}
    {openOrders : OpenOrders} {bids asks : List LeafNode}
    (hload : loadSerumMarketOrder env c.marketInfo c.ammOpenOrdersInfo c.ammAuthorityInfo amm false
      w = .ok (marketState, openOrders))
    (horders : loadAmmOrders env marketState openOrders c.marketBidsInfo c.marketAsksInfo w =
      .ok (bids, asks)) : FindsOrders env c amm w bids asks := by
  simp only [loadAmmOrders, Outcome.bind_eq_ok, Outcome.lift_eq_ok, Outcome.pure_eq_ok] at horders
  obtain ⟨bidBook, hbids, askBook, hasks, horders⟩ := horders
  exact ⟨marketState, openOrders, bidBook, askBook, hload, hbids, hasks, horders⟩

/-- A withdraw from a pool with the order book on cancels every order of the pool. -/
theorem withdrawTotals_cancels {a : WithdrawAccounts} {amm : AmmInfo}
    {coinVault pcVault destCoin destPc : TokenAccount} {totals : U64 × U64}
    (h : withdrawTotals env a amm true coinVault pcVault destCoin destPc w = .ok (totals, w')) :
    ∃ bids asks, FindsOrders env a.cancelInfos amm w bids asks ∧
      CancelsOnce (bids ++ asks) w w' := by
  unfold withdrawTotals at h
  rw [if_pos rfl] at h
  simp only [↓check_bind_eq_ok, Outcome.bind_eq_ok] at h
  obtain ⟨-, -, -, ⟨marketState, openOrders⟩, hload, ⟨bids, asks⟩, horders, w₁, hcancel, -, -,
    totals', -, hret⟩ := h
  cases hret
  exact ⟨bids, asks, findsOrders_of_load (c := a.cancelInfos) hload horders,
    .of_cancelAmmOrdersAndSettle hcancel⟩

/-- So does a monitor step: without an order it makes no call. -/
theorem monitorCancel_cancels {a : MonitorAccounts} {c : MonitorContext}
    (h : monitorCancel env a c w = .ok w') : CancelsOnce (c.bids ++ c.asks) w w' := by
  unfold monitorCancel at h
  rcases Outcome.ite_eq_ok.mp h with ⟨-, h⟩ | ⟨hnone, h⟩
  · exact .of_cancelAmmOrdersAndSettle h
  · cases h
    simp only [not_or, Classical.not_not, List.isEmpty_iff] at hnone
    rw [hnone.1, hnone.2]
    exact .of_nil

/-- The orders that a monitor step has found. -/
theorem monitorPrologue_findsOrders {a : MonitorAccounts} {c : MonitorContext}
    (h : monitorPrologue env programId a w = .ok (c, w')) :
    FindsOrders env a.cancelInfos c.amm w c.bids c.asks := by
  simp only [monitorPrologue, Outcome.bind_eq_ok, check_eq_ok] at h
  obtain ⟨-, -, ⟨amm, w₁⟩, hamm, authority, -, -, -, -, -, -, -, -, -, -, -,
    ⟨marketState, openOrders⟩, hload, ⟨bids, asks⟩, horders, ⟨t, w₂⟩, -, coinVault, -, pcVault, -,
    ⟨totalPc, totalCoin⟩, -, hret⟩ := h
  obtain ⟨-, -, -, rfl⟩ := AmmInfo.loadMutChecked_eq_ok hamm
  cases hret
  exact findsOrders_of_load (c := a.cancelInfos) hload horders

/-- A cancel-all and a migration cancel every bid, and then every ask. -/
theorem cancelAndSettleOrders_cancels {a : OrdersAccounts} {amm : AmmInfo}
    (h : cancelAndSettleOrders env a amm w = .ok w') :
    ∃ bids asks w₁, FindsOrders env a.cancelInfos amm w bids asks ∧ CancelsOnce bids w w₁ ∧
      CancelsOnce asks w₁ w' := by
  simp only [cancelAndSettleOrders, Outcome.bind_eq_ok, check_eq_ok] at h
  obtain ⟨-, -, -, -, ⟨marketState, openOrders⟩, hload, ⟨bids, asks⟩, horders, w₁, hbids, w₂, hasks,
    hsettle⟩ := h
  have hasks' : CancelsOnce asks w₁ w₂ := .of_cancelSide hasks
  exact ⟨bids, asks, w₁, findsOrders_of_load (c := a.cancelInfos) hload horders,
    .of_cancelSide hbids, hasks'.before (World.cancelled_of_other rfl hsettle)⟩

/-- The side of the book that is in the way of a swap. -/
def SwapContext.ordersInTheWay (c : SwapContext) : List LeafNode :=
  match c.swapDirection with
  | .coin2Pc => c.bids
  | .pc2Coin => c.asks

theorem freeFunds_cancels {a : SwapAccounts} {c : SwapContext} {orders : List LeafNode}
    {short : Bool} {coinVaultInfo : AccountInfo} (hon : c.enableOrderbook = true)
    (h : freeFunds env a c orders short coinVaultInfo w = .ok w') : CancelsOnce orders w w' := by
  unfold freeFunds at h
  rw [if_pos hon] at h
  obtain ⟨w₁, hcancel, h⟩ := Outcome.bind_eq_ok.mp h
  have hcancels : CancelsOnce orders w w₁ := .of_cancelSide hcancel
  rcases Outcome.ite_eq_ok.mp h with ⟨-, hsettle⟩ | ⟨-, h⟩
  · exact hcancels.before (World.cancelled_of_other rfl hsettle)
  · cases h
    exact hcancels

/-- The orders that a swap has found with the order book on. -/
theorem swapPrologue_findsOrders {a : SwapAccounts} {c : SwapContext} {w₀ : World}
    (h : swapPrologue env programId a w = .ok (c, w₀)) (hon : c.enableOrderbook = true) :
    FindsOrders env a.cancelInfos c.amm w c.bids c.asks := by
  simp only [swapPrologue, ↓check_bind_eq_ok, Outcome.bind_eq_ok] at h
  obtain ⟨⟨amm, w₁⟩, hamm, status, -, -, -, authority, -, -, -, -, -, -, coinVault, -, pcVault, -,
    source, -, destination, -, gated, -, totals, htotals, direction, -, hret⟩ := h
  obtain ⟨-, -, -, rfl⟩ := AmmInfo.loadMutChecked_eq_ok hamm
  cases hret
  unfold swapTotals at htotals
  rw [if_pos hon] at htotals
  simp only [Outcome.bind_eq_ok, check_eq_ok] at htotals
  obtain ⟨-, -, -, -, -, -, ⟨marketState, openOrders⟩, hload, ⟨bids, asks⟩, horders,
    ⟨totalPc, totalCoin⟩, -, hret⟩ := htotals
  cases hret
  exact findsOrders_of_load (c := a.cancelInfos) hload horders

theorem SwapPriced.move_cancels {a : SwapAccounts} {p : SwapPriced}
    (hon : p.context.enableOrderbook = true) (hspl : a.tokenProgramInfo.key = splTokenId)
    (h : p.move env programId a w = .ok w') : CancelsOnce p.context.ordersInTheWay w w' := by
  unfold SwapPriced.move at h
  unfold SwapContext.ordersInTheWay
  cases hdir : p.context.swapDirection with
  | coin2Pc =>
    simp only [hdir, Outcome.bind_eq_ok] at h
    obtain ⟨w₁, hfree, w₂, hin, hout⟩ := h
    have hpaid := World.cancelled_of_other rfl (tokenTransfer_spl hspl hin)
    have hpays := World.cancelled_of_other rfl (tokenTransferWithAuthority_spl hspl hout)
    exact (freeFunds_cancels hon hfree).before (hpays.trans hpaid)
  | pc2Coin =>
    simp only [hdir, Outcome.bind_eq_ok] at h
    obtain ⟨w₁, hfree, w₂, hin, hout⟩ := h
    have hpaid := World.cancelled_of_other rfl (tokenTransfer_spl hspl hin)
    have hpays := World.cancelled_of_other rfl (tokenTransferWithAuthority_spl hspl hout)
    exact (freeFunds_cancels hon hfree).before (hpays.trans hpaid)

/-- A swap with the order book on cancels the orders of the side in its way. -/
theorem processSwap_cancels {call : SwapCall} {a : SwapAccounts}
    (hbind : bindSwap call.accounts = .ok a) (h : processSwap env programId call w = .ok w') :
    ∃ c w₀, swapPrologue env programId a w = .ok (c, w₀) ∧ (c.enableOrderbook = true →
      FindsOrders env a.cancelInfos c.amm w c.bids c.asks ∧
        CancelsOnce c.ordersInTheWay w w') := by
  rw [processSwap_eq hbind] at h
  obtain ⟨⟨p, w₀⟩, hpriced, h⟩ := Outcome.bind_eq_ok.mp h
  obtain ⟨w₁, hmove, hfinish⟩ := Outcome.bind_eq_ok.mp h
  have hpro := swapPriced_prologue hpriced
  refine ⟨p.context, w₀, hpro, fun hon => ⟨swapPrologue_findsOrders hpro hon, ?_⟩⟩
  obtain ⟨amm, hchecked, rfl⟩ := swapPrologue_eq_ok hpro
  obtain ⟨stateData, -, hret⟩ := Outcome.bind_eq_ok.mp hfinish
  have hcancels := SwapPriced.move_cancels hon hchecked.tokenProgram hmove
  cases hret
  exact hcancels

/-- A whole withdraw: with the order book on, every order of the pool. -/
theorem withdrawBody_cancels {a : WithdrawAccounts} {withdraw : WithdrawInstruction}
    (h : withdrawBody env programId a withdraw w = .ok w') :
    ∃ amm, (w.accounts a.ammInfo.key).data = .amm amm ∧ (amm.orderbookOn = true →
      ∃ bids asks, FindsOrders env a.cancelInfos amm w bids asks ∧
        CancelsOnce (bids ++ asks) w w') := by
  simp only [withdrawBody, ↓check_bind_eq_ok, Outcome.bind_eq_ok] at h
  obtain ⟨⟨c, w₀⟩, hpro, x1, -, y1, -, ⟨coinAmount, pcAmount⟩, -, -, -, -, -, w₁, hcoin, w₂, hpc,
    w₃, hburn, lpAmount, -, calcPnlX, -, calcPnlY, -, hret⟩ := h
  obtain ⟨hchecked, destCoin, destPc, htotals⟩ := withdrawPrologue_totals hpro
  refine ⟨c.amm, hchecked.stored, fun hon => ?_⟩
  rw [hon] at htotals
  obtain ⟨bids, asks, hfinds, hcancels⟩ := withdrawTotals_cancels htotals
  have hspl := hchecked.tokenProgram
  have hcoin' := World.cancelled_of_other rfl (tokenTransferWithAuthority_spl hspl hcoin)
  have hpc' := World.cancelled_of_other rfl (tokenTransferWithAuthority_spl hspl hpc)
  have hburn' := World.cancelled_of_other rfl (tokenBurn_eq_ok hburn)
  have hcancels' := hcancels.before (hburn'.trans (hpc'.trans hcoin'))
  cases hret
  exact ⟨bids, asks, hfinds, hcancels'⟩

/-- A whole monitor step, whatever the status. -/
theorem monitorBody_cancels {a : MonitorAccounts} (h : monitorBody env programId a w = .ok w') :
    ∃ amm bids asks, (w.accounts a.ammInfo.key).data = .amm amm ∧
      FindsOrders env a.cancelInfos amm w bids asks ∧ CancelsOnce (bids ++ asks) w w' := by
  simp only [monitorBody, Outcome.bind_eq_ok] at h
  obtain ⟨⟨c, w₀⟩, hpro, w₁, hcancel, hret⟩ := h
  obtain ⟨hchecked, rfl⟩ := monitorPrologue_eq_ok hpro
  cases hret
  have hcancels := monitorCancel_cancels hcancel
  exact ⟨c.amm, c.bids, c.asks, hchecked.stored, monitorPrologue_findsOrders hpro, hcancels⟩

/-- A whole cancel-all. -/
theorem adminCancelOrdersBody_cancels {a : OrdersAccounts}
    (h : adminCancelOrdersBody env programId a w = .ok w') :
    ∃ amm bids asks w₁, (w.accounts a.ammInfo.key).data = .amm amm ∧
      FindsOrders env a.cancelInfos amm w bids asks ∧ CancelsOnce bids w w₁ ∧
      CancelsOnce asks w₁ w' := by
  simp only [adminCancelOrdersBody, Outcome.bind_eq_ok, check_eq_ok] at h
  obtain ⟨-, -, ⟨amm, w₀⟩, hload, authority, -, -, -, -, -, -, -, w₁, hcancel, hret⟩ := h
  obtain ⟨-, hdata, -, rfl⟩ := AmmInfo.loadMutChecked_eq_ok hload
  obtain ⟨bids, asks, w₂, hfinds, hbids, hasks⟩ := cancelAndSettleOrders_cancels hcancel
  cases hret
  exact ⟨amm, bids, asks, w₂, hdata, hfinds, hbids, hasks⟩

/-- A whole migration. -/
theorem migrateToOpenbookBody_cancels {a : OrdersAccounts}
    (h : migrateToOpenbookBody env programId a w = .ok w') :
    ∃ amm bids asks w₁, (w.accounts a.ammInfo.key).data = .amm amm ∧
      FindsOrders env a.cancelInfos amm w bids asks ∧ CancelsOnce bids w w₁ ∧
      CancelsOnce asks w₁ w' := by
  simp only [migrateToOpenbookBody, Outcome.bind_eq_ok, check_eq_ok] at h
  obtain ⟨-, -, ⟨amm, w₀⟩, hload, authority, -, -, -, -, -, -, -, w₁, hcancel, hret⟩ := h
  obtain ⟨-, hdata, -, rfl⟩ := AmmInfo.loadMutChecked_eq_ok hload
  obtain ⟨bids, asks, w₂, hfinds, hbids, hasks⟩ := cancelAndSettleOrders_cancels hcancel
  cases hret
  exact ⟨amm, bids, asks, w₂, hdata, hfinds, hbids, hasks⟩

end Handlers

end RaydiumAmm
