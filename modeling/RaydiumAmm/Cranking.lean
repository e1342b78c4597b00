import RaydiumAmm.Reference

/-!
# Cranking

A crank of the exchange takes events off the queue and credits them to the open orders. The totals
that the program computes from the open orders and the rest of the queue do not depend on how far
the crank has come.

1. `Event.change`: what the exchange credits for one event, in integers.
2. The fold over the queue adds the changes of the pool's events and skips all others.
3. `totals_crank_invariant`: the totals after any crank, and with any events of other owners.
-/

namespace RaydiumAmm

/-! ## 1. The exchange -/

/-- The event belongs to the open orders `key`. -/
def Event.ownedBy (key : Pubkey) (e : Event) : Bool := e.owner == key

/-- What an event changes in the native totals `(pc, coin)` of the open orders `key`: a maker fill
    takes the amount paid from the side paid and adds the amount received to the other. -/
def Event.change (key : Pubkey) (e : Event) : ℤ × ℤ :=
  if e.ownedBy key then
    match e.view with
    | some (.fill .bid true paid received) => (-(paid.toNat : ℤ), received.toNat)
    | some (.fill .ask true paid received) => (received.toNat, -(paid.toNat : ℤ))
    | _ => 0
  else 0

/-- The exchange has credited the events `consumed` to the open orders `o` and has left `o'`. The
    other fields of the open orders may change as well. -/
structure Cranked (key : Pubkey) (consumed : List Event) (o o' : OpenOrders) : Prop where
  pc : (o'.nativePcTotal.toNat : ℤ) =
    o.nativePcTotal.toNat + (consumed.map (Event.change key)).sum.1
  coin : (o'.nativeCoinTotal.toNat : ℤ) =
    o.nativeCoinTotal.toNat + (consumed.map (Event.change key)).sum.2

/-! ## 2. The fold of the program -/

section Fold

open Calculator

variable {key : Pubkey} {totals totals' : U64 × U64} {event : Event} {events : List Event}

/-- An event of another owner is skipped, whatever it holds. -/
theorem applyEvent_of_not_owned (h : event.ownedBy key = false) :
    applyEvent key totals event = .ok totals := by
  have hne : event.owner ≠ key := by simpa [Event.ownedBy] using h
  rw [applyEvent, if_pos hne]

/-- One event adds its change to the totals. -/
theorem applyEvent_eq_ok (h : applyEvent key totals event = .ok totals') :
    (totals'.1.toNat : ℤ) = totals.1.toNat + (event.change key).1 ∧
      (totals'.2.toNat : ℤ) = totals.2.toNat + (event.change key).2 := by
  cases hown : event.ownedBy key with
  | false =>
    rw [applyEvent_of_not_owned hown] at h
    cases h
    simp [Event.change, hown]
  | true =>
    have heq : ¬event.owner ≠ key := by simpa [Event.ownedBy] using hown
    rw [applyEvent, if_neg heq, Outcome.bind_eq_ok] at h
    obtain ⟨view, hview, h⟩ := h
    rw [Outcome.unwrap_eq_ok] at hview
    split at h
    next paid received =>
      simp only [Outcome.bind_eq_ok, Outcome.unwrap_eq_ok, Checked.sub_eq_some,
        Checked.add_eq_some, Except.ok.injEq] at h
      obtain ⟨pc, hpc, coin, hcoin, rfl⟩ := h
      simp only [Event.change, hown, hview, if_true]
      constructor <;> push_cast [hpc, hcoin] <;> ring
    next paid received =>
      simp only [Outcome.bind_eq_ok, Outcome.unwrap_eq_ok, Checked.sub_eq_some,
        Checked.add_eq_some, Except.ok.injEq] at h
      obtain ⟨coin, hcoin, pc, hpc, rfl⟩ := h
      simp only [Event.change, hown, hview, if_true]
      constructor <;> push_cast [hpc, hcoin] <;> ring
    next hbid hask =>
      cases h
      have hzero : event.change key = 0 := by
        simp only [Event.change, hown, hview, if_true]
        split
        next heq => exact absurd (Option.some.inj heq) (hbid _ _)
        next heq => exact absurd (Option.some.inj heq) (hask _ _)
        next => rfl
      simp [hzero]

/-- A queue adds the changes of its events. -/
theorem foldlM_applyEvent_eq_ok (h : events.foldlM (applyEvent key) totals = .ok totals') :
    (totals'.1.toNat : ℤ) = totals.1.toNat + (events.map (Event.change key)).sum.1 ∧
      (totals'.2.toNat : ℤ) = totals.2.toNat + (events.map (Event.change key)).sum.2 := by
  induction events generalizing totals with
  | nil =>
    cases h
    simp
  | cons event rest ih =>
    rw [List.foldlM_cons, Outcome.bind_eq_ok] at h
    obtain ⟨mid, hfirst, hrest⟩ := h
    obtain ⟨hpc, hcoin⟩ := applyEvent_eq_ok hfirst
    obtain ⟨hpc', hcoin'⟩ := ih hrest
    rw [List.map_cons, List.sum_cons]
    exact ⟨by rw [hpc', hpc, Prod.fst_add, add_assoc],
      by rw [hcoin', hcoin, Prod.snd_add, add_assoc]⟩

/-- Only the pool's events count. -/
theorem foldlM_applyEvent_filter (events : List Event) (totals : U64 × U64) :
    events.foldlM (applyEvent key) totals =
      (events.filter (Event.ownedBy key)).foldlM (applyEvent key) totals := by
  induction events generalizing totals with
  | nil => rfl
  | cons event rest ih =>
    cases hown : event.ownedBy key with
    | false =>
      rw [List.foldlM_cons, applyEvent_of_not_owned hown, Outcome.ok_bind, ih,
        List.filter_cons_of_neg (by simp [hown])]
    | true =>
      rw [List.filter_cons_of_pos hown, List.foldlM_cons, List.foldlM_cons]
      exact congrArg _ (funext fun mid => ih mid)

/-- The crank leaves what the fold has reached at that point of the queue. -/
theorem calcExactVaultInSerum_cranked {o o' : OpenOrders} {consumed rest : List Event}
    (h : calcExactVaultInSerum o (consumed ++ rest) key = .ok totals)
    (hcrank : Cranked key consumed o o') : calcExactVaultInSerum o' rest key = .ok totals := by
  rw [calcExactVaultInSerum, List.foldlM_append, Outcome.bind_eq_ok] at h
  obtain ⟨mid, hconsumed, hrest⟩ := h
  obtain ⟨hpc, hcoin⟩ := foldlM_applyEvent_eq_ok hconsumed
  have hmid : (o'.nativePcTotal, o'.nativeCoinTotal) = mid := by
    refine Prod.ext ?_ ?_
    · apply BitVec.eq_of_toNat_eq
      have h := hcrank.pc.trans hpc.symm
      exact_mod_cast h
    · apply BitVec.eq_of_toNat_eq
      have h := hcrank.coin.trans hcoin.symm
      exact_mod_cast h
  rw [calcExactVaultInSerum, hmid]
  exact hrest

/-- The fold leaves totals that a crank can leave. -/
theorem exists_cranked {o : OpenOrders} {consumed rest : List Event}
    (h : calcExactVaultInSerum o (consumed ++ rest) key = .ok totals) :
    ∃ o', Cranked key consumed o o' := by
  rw [calcExactVaultInSerum, List.foldlM_append, Outcome.bind_eq_ok] at h
  obtain ⟨mid, hconsumed, -⟩ := h
  obtain ⟨hpc, hcoin⟩ := foldlM_applyEvent_eq_ok hconsumed
  exact ⟨{ o with nativePcTotal := mid.1, nativeCoinTotal := mid.2 }, hpc, hcoin⟩

end Fold

/-! ## 3. The totals -/

/-- Where the totals come out for a queue, they come out the same after a crank of any prefix,
    which can always take place, and for any queue with the same events of the pool. -/
theorem totals_crank_invariant {pcAmount coinAmount : U64} {o : OpenOrders} {amm : AmmInfo}
    {events : List Event} {key : Pubkey} {totals : U64 × U64}
    (h : Calculator.calcTotalWithoutTakePnl pcAmount coinAmount o amm events key = .ok totals) :
    (∀ consumed rest, events = consumed ++ rest →
      (∃ o', Cranked key consumed o o') ∧
        ∀ o', Cranked key consumed o o' →
          Calculator.calcTotalWithoutTakePnl pcAmount coinAmount o' amm rest key = .ok totals) ∧
    ∀ events', events'.filter (Event.ownedBy key) = events.filter (Event.ownedBy key) →
      Calculator.calcTotalWithoutTakePnl pcAmount coinAmount o amm events' key = .ok totals := by
  rw [Calculator.calcTotalWithoutTakePnl, Outcome.bind_eq_ok] at h
  obtain ⟨inSerum, hserum, htotals⟩ := h
  refine ⟨?_, fun events' hsame => ?_⟩
  · rintro consumed rest rfl
    refine ⟨exists_cranked hserum, fun o' hcrank => ?_⟩
    rw [Calculator.calcTotalWithoutTakePnl, calcExactVaultInSerum_cranked hserum hcrank]
    exact htotals
  · have hserum' : Calculator.calcExactVaultInSerum o events' key = .ok inSerum := by
      rw [Calculator.calcExactVaultInSerum, foldlM_applyEvent_filter, hsame,
        ← foldlM_applyEvent_filter]
      exact hserum
    rw [Calculator.calcTotalWithoutTakePnl, hserum']
    exact htotals

namespace Reference

/-- A maker bid of the pool, filled for 30 pc against 10 coin. -/
def bidFill : Event := ⟨key 11, some (.fill .bid true 30 10)⟩

/-- The same event of other open orders. -/
def foreignFill : Event := ⟨key 12, some (.fill .bid true 30 10)⟩

end Reference

open Reference in
/-- The bid of the pool is filled and cranked while an event of other open orders is queued. -/
theorem totals_crank_invariant_bid :
    Calculator.calcTotalWithoutTakePnl 500 100 (openOrders 10 0 0) (pool .initialized 1000)
        [foreignFill] (key 11) = .ok (500, 110) ∧
      Calculator.calcTotalWithoutTakePnl 500 100 (openOrders 0 30 0) (pool .initialized 1000)
        [bidFill] (key 11) = .ok (500, 110) := by
  have hbefore : Calculator.calcTotalWithoutTakePnl 500 100 (openOrders 0 30 0)
      (pool .initialized 1000) [bidFill, foreignFill] (key 11) = .ok (500, 110) := by decide
  obtain ⟨hcrank, hforeign⟩ := totals_crank_invariant hbefore
  exact ⟨(hcrank [bidFill] [foreignFill] rfl).2 (openOrders 10 0 0) ⟨by decide, by decide⟩,
    hforeign [bidFill] (by decide)⟩

end RaydiumAmm
