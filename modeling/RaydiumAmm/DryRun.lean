import RaydiumAmm.Client
import RaydiumAmm.RoundTrip
import RaydiumAmm.Simulate
import RaydiumAmm.SwapStages

/-!
# Dry runs of a swap

What a simulated swap says about the swap, on the account list of its own builder.

1. The builders.
2. The two reads of one list: `simulate_swap_base_in` and `simulate_swap_base_out` have the target
   orders in fourth place, `simulate_pool_info` has the coin vault there. So the program answers no
   request of the builders (`simulateSwap_refused`).
3. `dryRun_agrees_iff`: for no swap that passes its checks does the dry run succeed.
-/

namespace RaydiumAmm

namespace Client

/-! ## 1. The builders -/

/-- The keys of `simulate_swap_base_in` and `simulate_swap_base_out`. -/
structure SimulateSwapKeys where
  ammPool : Pubkey
  ammAuthority : Pubkey
  ammOpenOrders : Pubkey
  ammTargetOrders : Pubkey
  ammCoinVault : Pubkey
  ammPcVault : Pubkey
  ammLpMint : Pubkey
  marketProgram : Pubkey
  market : Pubkey
  marketEventQueue : Pubkey
  userTokenSource : Pubkey
  userTokenDestination : Pubkey
  userSourceOwner : Pubkey

/-- The accounts of both simulated swaps. -/
def simulateSwapAccounts (k : SimulateSwapKeys) : List AccountMeta := [
  .newReadonly k.ammPool false, .newReadonly k.ammAuthority false,
  .newReadonly k.ammOpenOrders false, .newReadonly k.ammTargetOrders false,
  .newReadonly k.ammCoinVault false, .newReadonly k.ammPcVault false,
  .newReadonly k.ammLpMint false, .newReadonly k.marketProgram false,
  .newReadonly k.market false, .newReadonly k.marketEventQueue false,
  .newReadonly k.userTokenSource false, .newReadonly k.userTokenDestination false,
  .newReadonly k.userSourceOwner true]

/-- `simulate_swap_base_in`. -/
def simulateSwapBaseIn (ammProgram : Pubkey) (k : SimulateSwapKeys) (amountIn : U64) :
    Result Request :=
  request ammProgram (simulateSwapAccounts k) (.simulateInfo ⟨1, some ⟨amountIn, 0⟩, none⟩)

/-- `simulate_swap_base_out`. -/
def simulateSwapBaseOut (ammProgram : Pubkey) (k : SimulateSwapKeys) (amountOut : U64) :
    Result Request :=
  request ammProgram (simulateSwapAccounts k) (.simulateInfo ⟨2, none, some ⟨0, amountOut⟩⟩)

end Client

/-- The accounts as a dry run receives them. -/
def dryRunInfos (k : Client.SimulateSwapKeys) : List AccountInfo :=
  (Client.simulateSwapAccounts k).map AccountMeta.info

/-- The instruction that asks for a dry run. -/
def SwapRequest.simulate : SwapRequest → SimulateInstruction
  | .baseIn swap => ⟨1, some swap, none⟩
  | .baseOut swap => ⟨2, none, some swap⟩

theorem SwapRequest.canonical_simulate (request : SwapRequest) :
    (AmmInstruction.simulateInfo request.simulate).Canonical := by
  cases request with
  | baseIn swap => exact ⟨swap, rfl⟩
  | baseOut swap => exact ⟨swap, rfl⟩

/-- What the builders send is read back as a dry run on their own list of accounts. The bound of the
    swap is not among their parameters. -/
theorem simulateSwap_requests (ammProgram : Pubkey) (k : Client.SimulateSwapKeys) (amount : U64) :
    (∃ r, Client.simulateSwapBaseIn ammProgram k amount = .ok r ∧
      r.programId = ammProgram ∧ r.accounts.map AccountMeta.info = dryRunInfos k ∧
      AmmInstruction.unpack r.data =
        .ok (.simulateInfo (SwapRequest.baseIn ⟨amount, 0⟩).simulate)) ∧
    ∃ r, Client.simulateSwapBaseOut ammProgram k amount = .ok r ∧
      r.programId = ammProgram ∧ r.accounts.map AccountMeta.info = dryRunInfos k ∧
      AmmInstruction.unpack r.data =
        .ok (.simulateInfo (SwapRequest.baseOut ⟨0, amount⟩).simulate) := by
  obtain ⟨dataIn, hpackIn, hreadIn⟩ :=
    AmmInstruction.unpack_of_pack (SwapRequest.baseIn ⟨amount, 0⟩).canonical_simulate
  obtain ⟨dataOut, hpackOut, hreadOut⟩ :=
    AmmInstruction.unpack_of_pack (SwapRequest.baseOut ⟨0, amount⟩).canonical_simulate
  constructor
  · refine ⟨⟨ammProgram, Client.simulateSwapAccounts k, dataIn⟩, ?_, rfl, rfl, hreadIn⟩
    exact Outcome.bind_eq_ok.mpr ⟨dataIn, hpackIn, rfl⟩
  · refine ⟨⟨ammProgram, Client.simulateSwapAccounts k, dataOut⟩, ?_, rfl, rfl, hreadOut⟩
    exact Outcome.bind_eq_ok.mpr ⟨dataOut, hpackOut, rfl⟩

/-- The pool data of a dry run. -/
def simulatedPool (env : Env) (programId : Pubkey) (accounts : List AccountInfo)
    (request : SwapRequest) (w : World) : Result GetPoolData :=
  match request with
  | .baseIn swap =>
    GetSwapBaseInData.poolData <$> simulateSwapBaseIn env programId accounts swap w
  | .baseOut swap =>
    GetSwapBaseOutData.poolData <$> simulateSwapBaseOut env programId accounts swap w

/-! ## 2. Two orders of one list -/

/-- The accounts of a dry run are those of the pool and of the swap, and the pool's order book is
    off. -/
structure DryRunAccounts (env : Env) (programId : Pubkey) (k : Client.SimulateSwapKeys)
    (a : SwapAccounts) (w : World) (amm : AmmInfo) : Prop where
  stored : w.accounts k.ammPool = ⟨programId, .amm amm⟩
  orderbook : amm.orderbookOn = false
  authority : env.createProgramAddress [AUTHORITY_AMM, [amm.nonceU8]] programId =
    some k.ammAuthority
  openOrders : k.ammOpenOrders = amm.openOrders
  targetOrders : k.ammTargetOrders = amm.targetOrders
  coinVault : k.ammCoinVault = amm.coinVault
  pcVault : k.ammPcVault = amm.pcVault
  lpMint : k.ammLpMint = amm.lpMint
  marketProgram : k.marketProgram = amm.marketProgram
  market : k.market = amm.market
  targets : ∃ t, w.accounts k.ammTargetOrders = ⟨programId, .targetOrders t⟩
  samePool : a.ammInfo.key = k.ammPool
  sameSource : a.userSourceInfo.key = k.userTokenSource
  sameDestination : a.userDestinationInfo.key = k.userTokenDestination
  sameOwner : a.userSourceOwner.key = k.userSourceOwner

section Orders

variable {env : Env} {programId : Pubkey} {k : Client.SimulateSwapKeys} {a : SwapAccounts}
  {w : World} {amm : AmmInfo}

/-- The reads of `simulate_swap_base_in` and `simulate_swap_base_out`. -/
theorem simulateSwap_dryRunInfos :
    simulateSwap env programId (dryRunInfos k) w = (do
      let amm ← simulateAmm env programId ⟨k.ammPool, false, false⟩ ⟨k.ammAuthority, false, false⟩ w
      let ammCoinVault ← unpackTokenAccount w ⟨k.ammCoinVault, false, false⟩ splTokenId
      let ammPcVault ← unpackTokenAccount w ⟨k.ammPcVault, false, false⟩ splTokenId
      let userSource ← unpackTokenAccount w ⟨k.userTokenSource, false, false⟩ splTokenId
      let userDestination ← unpackTokenAccount w ⟨k.userTokenDestination, false, false⟩ splTokenId
      let swapDirection ← chooseDirection ammCoinVault ammPcVault userSource userDestination
      return { amm, ammCoinVault, ammPcVault, swapDirection }) := rfl

/-- The reads of `simulate_pool_info` on the same list: the target orders for the coin vault, the
    coin vault for the pc vault, and the pc vault for the LP mint. -/
theorem simulatePoolInfo_dryRunInfos :
    simulatePoolInfo env programId (dryRunInfos k) w = (do
      let amm ← simulateAmm env programId ⟨k.ammPool, false, false⟩ ⟨k.ammAuthority, false, false⟩ w
      let ammCoinVault ← unpackTokenAccount w ⟨k.ammTargetOrders, false, false⟩ splTokenId
      let ammPcVault ← unpackTokenAccount w ⟨k.ammCoinVault, false, false⟩ splTokenId
      let ammLpMint ← unpackMint w ⟨k.ammPcVault, false, false⟩ splTokenId
      return {
        status := amm.status
        coinDecimals := amm.coinDecimals
        pcDecimals := amm.pcDecimals
        lpDecimals := ammLpMint.decimals.setWidth 64
        poolPcAmount := ammPcVault.amount
        poolCoinAmount := ammCoinVault.amount
        pnlPcAmount := amm.stateData.totalPnlPc
        pnlCoinAmount := amm.stateData.totalPnlCoin
        poolLpSupply := ammLpMint.supply
        poolOpenTime := amm.stateData.poolOpenTime
        ammId := k.ammPool
      }) := rfl

/-- Target orders are no token account, so the nested call never returns. -/
theorem simulatePoolInfo_ne_ok (h : DryRunAccounts env programId k a w amm) (data : GetPoolData) :
    simulatePoolInfo env programId (dryRunInfos k) w ≠ .ok data := by
  intro hdata
  rw [simulatePoolInfo_dryRunInfos] at hdata
  simp only [Outcome.bind_eq_ok] at hdata
  obtain ⟨-, -, vault, hvault, -⟩ := hdata
  obtain ⟨t, ht⟩ := h.targets
  obtain ⟨hstored, -, -⟩ := unpackTokenAccount_iff.mp hvault
  rw [ht] at hstored
  cases hstored

/-- No dry run of a swap reports. -/
theorem simulateSwapBaseIn_ne_ok (h : DryRunAccounts env programId k a w amm)
    (swap : SwapInstructionBaseIn) (data : GetSwapBaseInData) :
    simulateSwapBaseIn env programId (dryRunInfos k) swap w ≠ .ok data := by
  intro hdata
  simp only [simulateSwapBaseIn, Outcome.bind_eq_ok] at hdata
  obtain ⟨-, -, -, -, -, -, -, -, poolData, hpool, -⟩ := hdata
  exact simulatePoolInfo_ne_ok h poolData hpool

theorem simulateSwapBaseOut_ne_ok (h : DryRunAccounts env programId k a w amm)
    (swap : SwapInstructionBaseOut) (data : GetSwapBaseOutData) :
    simulateSwapBaseOut env programId (dryRunInfos k) swap w ≠ .ok data := by
  intro hdata
  simp only [simulateSwapBaseOut, Outcome.bind_eq_ok] at hdata
  obtain ⟨-, -, poolData, hpool, -⟩ := hdata
  exact simulatePoolInfo_ne_ok h poolData hpool

/-- `SimulateInfo` runs the simulation of its request and drops what it reports. -/
theorem processSimulateInfo_simulate (accounts : List AccountInfo) (request : SwapRequest) :
    processSimulateInfo env programId accounts request.simulate w = (do
      let _ ← simulatedPool env programId accounts request w
      return w) := by
  cases request with
  | baseIn swap =>
    show (simulateSwapBaseIn env programId accounts swap w >>= fun _ => pure w) = _
    cases h : simulateSwapBaseIn env programId accounts swap w with
    | ok data => simp only [simulatedPool, h]; rfl
    | error e => simp only [simulatedPool, h]; rfl
  | baseOut swap =>
    show (simulateSwapBaseOut env programId accounts swap w >>= fun _ => pure w) = _
    cases h : simulateSwapBaseOut env programId accounts swap w with
    | ok data => simp only [simulatedPool, h]; rfl
    | error e => simp only [simulatedPool, h]; rfl

theorem simulatedPool_ne_ok (h : DryRunAccounts env programId k a w amm) (request : SwapRequest)
    (poolData : GetPoolData) :
    simulatedPool env programId (dryRunInfos k) request w ≠ .ok poolData := by
  intro hpool
  cases request with
  | baseIn swap =>
    rcases hdata : simulateSwapBaseIn env programId (dryRunInfos k) swap w with e | data
    · rw [simulatedPool, hdata] at hpool
      cases hpool
    · exact simulateSwapBaseIn_ne_ok h swap data hdata
  | baseOut swap =>
    rcases hdata : simulateSwapBaseOut env programId (dryRunInfos k) swap w with e | data
    · rw [simulatedPool, hdata] at hpool
      cases hpool
    · exact simulateSwapBaseOut_ne_ok h swap data hdata

theorem processSimulateInfo_ne_ok (h : DryRunAccounts env programId k a w amm)
    (request : SwapRequest) (w' : World) :
    processSimulateInfo env programId (dryRunInfos k) request.simulate w ≠ .ok w' := by
  intro hrun
  rw [processSimulateInfo_simulate] at hrun
  obtain ⟨poolData, hpool, -⟩ := Outcome.bind_eq_ok.mp hrun
  exact simulatedPool_ne_ok h request poolData hpool

/-- What the program makes of the two requests of a client: it answers neither. -/
theorem simulateSwap_refused (h : DryRunAccounts env programId k a w amm) (amount : U64) :
    (∃ r i, Client.simulateSwapBaseIn programId k amount = .ok r ∧
      AmmInstruction.unpack r.data = .ok i ∧
      ∀ w', processInstruction env r.programId (r.accounts.map AccountMeta.info) i w ≠ .ok w') ∧
    ∃ r i, Client.simulateSwapBaseOut programId k amount = .ok r ∧
      AmmInstruction.unpack r.data = .ok i ∧
      ∀ w', processInstruction env r.programId (r.accounts.map AccountMeta.info) i w ≠ .ok w' := by
  obtain ⟨⟨rIn, hin, hprogramIn, hlistIn, hreadIn⟩, rOut, hout, hprogramOut, hlistOut, hreadOut⟩ :=
    simulateSwap_requests programId k amount
  refine ⟨⟨rIn, _, hin, hreadIn, ?_⟩, rOut, _, hout, hreadOut, ?_⟩
  · rw [hprogramIn, hlistIn]
    exact processSimulateInfo_ne_ok h _
  · rw [hprogramOut, hlistOut]
    exact processSimulateInfo_ne_ok h _

end Orders

/-! ## 3. Agreement -/

/-- The swap would pass its checks. -/
def SwapPasses (env : Env) (programId : Pubkey) (a : SwapAccounts) (request : SwapRequest)
    (w : World) : Prop :=
  ∃ p w', swapPriced env programId a request w = .ok (p, w')

/-- The dry run succeeds where the swap would pass its checks, and reports the amount that the swap
    charges and the totals that it prices against. -/
structure DryRunAgrees (env : Env) (programId : Pubkey) (k : Client.SimulateSwapKeys)
    (a : SwapAccounts) (request : SwapRequest) (w : World) : Prop where
  succeeds : SwapPasses env programId a request w →
    ∃ w', processSimulateInfo env programId (dryRunInfos k) request.simulate w = .ok w'
  charge : ∀ swap data p w', request = .baseOut swap →
    simulateSwapBaseOut env programId (dryRunInfos k) swap w = .ok data →
    swapPriced env programId a request w = .ok (p, w') → data.maxAmountIn = p.paid
  totals : ∀ poolData p w', simulatedPool env programId (dryRunInfos k) request w = .ok poolData →
    swapPriced env programId a request w = .ok (p, w') →
    poolData.poolPcAmount = p.context.totalPcWithoutTakePnl ∧
      poolData.poolCoinAmount = p.context.totalCoinWithoutTakePnl

section Agreement

variable {env : Env} {programId : Pubkey} {k : Client.SimulateSwapKeys} {a : SwapAccounts}
  {w : World} {amm : AmmInfo}

/-- Up to the nested call the dry run follows the swap: it finds the same record, the same vaults
    and the same direction. -/
theorem simulateSwap_of_prologue (h : DryRunAccounts env programId k a w amm) {c : SwapContext}
    {w' : World} (hpro : swapPrologue env programId a w = .ok (c, w')) :
    simulateAmm env programId ⟨k.ammPool, false, false⟩ ⟨k.ammAuthority, false, false⟩ w =
        .ok amm ∧
      simulateSwap env programId (dryRunInfos k) w =
        .ok ⟨amm, c.ammCoinVault, c.ammPcVault, c.swapDirection⟩ := by
  simp only [swapPrologue, ↓check_bind_eq_ok, Outcome.bind_eq_ok] at hpro
  obtain ⟨⟨amm', w₁⟩, hload, status, -, -, htoken, authority, -, -, hcoinKey, hpcKey, -, -,
    ammCoinVault, hcoin, ammPcVault, hpc, userSource, hsource, userDestination, hdest, gated,
    hgate, totals, htotals, direction, hdir, hret⟩ := hpro
  cases hret
  obtain ⟨hstored, -, -, rfl⟩ := AmmInfo.loadMutChecked_iff.mp hload
  obtain rfl : amm' = amm := by
    rw [h.samePool, h.stored] at hstored
    cases hstored
    rfl
  have hamm : simulateAmm env programId ⟨k.ammPool, false, false⟩ ⟨k.ammAuthority, false, false⟩ w =
      .ok amm' := by
    simp only [simulateAmm, Outcome.bind_eq_ok, check_eq_ok, Outcome.pure_eq_ok, authorityId,
      Outcome.okOr_eq_ok]
    exact ⟨amm', AmmInfo.loadChecked_of_loadMut h.samePool hload, _, h.authority, (), rfl, rfl⟩
  refine ⟨hamm, ?_⟩
  rw [htoken] at hcoin hpc hsource hdest
  rw [simulateSwap_dryRunInfos, hamm]
  simp only [Outcome.ok_bind,
    unpackTokenAccount_of_borrowed (j := ⟨k.ammCoinVault, false, false⟩)
      (hcoinKey.trans h.coinVault.symm) hcoin,
    unpackTokenAccount_of_borrowed (j := ⟨k.ammPcVault, false, false⟩)
      (hpcKey.trans h.pcVault.symm) hpc,
    unpackTokenAccount_of_borrowed (j := ⟨k.userTokenSource, false, false⟩) h.sameSource hsource,
    unpackTokenAccount_of_borrowed (j := ⟨k.userTokenDestination, false, false⟩) h.sameDestination
      hdest, hdir]
  rfl

/-- The fee of an exact-in swap that passes is computed without an abort. -/
theorem swapPriced_fee (h : DryRunAccounts env programId k a w amm) {swap : SwapInstructionBaseIn}
    {p : SwapPriced} {w' : World}
    (hpriced : swapPriced env programId a (.baseIn swap) w = .ok (p, w')) :
    ∃ gross fee net, Checked.mul (Calculator.toU128 swap.amountIn)
        (Calculator.toU128 amm.fees.swapFeeNumerator) = some gross ∧
      checkedCeilDiv gross (Calculator.toU128 amm.fees.swapFeeDenominator) = some fee ∧
      Checked.sub (Calculator.toU128 swap.amountIn) fee.1 = some net := by
  obtain ⟨⟨c, w₁⟩, hpro, hchecks⟩ := Outcome.bind_eq_ok.mp hpriced
  obtain ⟨amm', hchecked, -⟩ := swapPrologue_eq_ok hpro
  obtain ⟨status, hrecord⟩ := hchecked.record
  obtain rfl : amm' = amm := by
    have hstored := hchecked.stored
    rw [h.samePool, h.stored] at hstored
    cases hstored
    rfl
  have hfees : c.amm.fees = amm'.fees := by rw [hrecord]
  simp only [swapBaseInChecks, swapBaseInQuote, hfees, Outcome.bind_eq_ok, Outcome.unwrap_eq_ok]
    at hchecks
  obtain ⟨-, ⟨-, -, -, ⟨gross, hgross, fee, hfee, net, hnet, -⟩, -⟩, -⟩ := hchecks
  exact ⟨gross, fee, net, hgross, hfee, hnet⟩

/-- Where the swap would pass, the dry run ends at the account that it takes for the coin vault. -/
theorem dryRun_refused (h : DryRunAccounts env programId k a w amm) (hne : programId ≠ splTokenId)
    {request : SwapRequest} (hpasses : SwapPasses env programId a request w) :
    processSimulateInfo env programId (dryRunInfos k) request.simulate w =
      Outcome.fail AmmError.invalidSplTokenProgram.into := by
  obtain ⟨p, w', hpriced⟩ := hpasses
  obtain ⟨hamm, hswap⟩ := simulateSwap_of_prologue h (swapPriced_prologue hpriced)
  have hpool : simulatePoolInfo env programId (dryRunInfos k) w =
      Outcome.fail AmmError.invalidSplTokenProgram.into := by
    obtain ⟨t, ht⟩ := h.targets
    have hcheck : check ((w.accounts k.ammTargetOrders).owner = splTokenId)
        .invalidSplTokenProgram = Outcome.fail AmmError.invalidSplTokenProgram.into :=
      Outcome.require_neg (by rw [ht]; exact hne)
    simp only [simulatePoolInfo_dryRunInfos, hamm, Outcome.ok_bind, unpackTokenAccount, hcheck]
    rfl
  rw [processSimulateInfo_simulate]
  cases request with
  | baseIn swap =>
    -- the fee that the dry run computes and drops is the one that the swap has computed
    obtain ⟨gross, fee, net, hgross, hfee, hnet⟩ := swapPriced_fee h hpriced
    simp only [simulatedPool, simulateSwapBaseIn, hswap, Outcome.ok_bind, hgross, hfee, hnet,
      Outcome.unwrap, hpool]
    rfl
  | baseOut swap =>
    simp only [simulatedPool, simulateSwapBaseOut, hswap, Outcome.ok_bind, hpool]
    rfl

/-- The dry run agrees with no swap that would pass its checks: it always fails. -/
theorem dryRun_agrees_iff (h : DryRunAccounts env programId k a w amm) (request : SwapRequest) :
    DryRunAgrees env programId k a request w ↔ ¬SwapPasses env programId a request w := by
  constructor
  · intro hagrees hpasses
    obtain ⟨w', hrun⟩ := hagrees.succeeds hpasses
    exact processSimulateInfo_ne_ok h request w' hrun
  · intro hfails
    exact {
      succeeds := fun hpasses => absurd hpasses hfails
      charge := fun swap data _ _ _ hdata _ => absurd hdata (simulateSwapBaseOut_ne_ok h swap data)
      totals := fun poolData _ _ hpool _ => absurd hpool (simulatedPool_ne_ok h request poolData)
    }

end Agreement

namespace Reference

/-- The keys of a dry run of `swapAccounts source destination`. -/
def dryRunKeys (source destination : Nat) : Client.SimulateSwapKeys where
  ammPool := key 10
  ammAuthority := authority
  ammOpenOrders := key 11
  ammTargetOrders := key 12
  ammCoinVault := key 13
  ammPcVault := key 14
  ammLpMint := key 15
  marketProgram := dex
  market := key 17
  marketEventQueue := key 20
  userTokenSource := key source
  userTokenDestination := key destination
  userSourceOwner := key 30

theorem dryRunAccounts (source destination : Nat) :
    DryRunAccounts env program (dryRunKeys source destination) (swapAccounts source destination)
      swapWorld (pool .swapOnly 1000) where
  stored := rfl
  orderbook := rfl
  authority := rfl
  openOrders := rfl
  targetOrders := rfl
  coinVault := rfl
  pcVault := rfl
  lpMint := rfl
  marketProgram := rfl
  market := rfl
  targets := ⟨_, rfl⟩
  samePool := rfl
  sameSource := rfl
  sameDestination := rfl
  sameOwner := rfl

theorem swapPasses_of_isOk {a : SwapAccounts} {request : SwapRequest} {w : World}
    (h : (swapPriced env program a request w).isOk = true) : SwapPasses env program a request w := by
  obtain ⟨⟨p, w'⟩, hpriced⟩ := Outcome.exists_of_isOk h
  exact ⟨p, w', hpriced⟩

end Reference

open Reference in
/-- A sale of 1000 coin at the going price passes its checks, and the dry run disagrees with it; one
    that asks for too much does not, and there is nothing to disagree with. -/
theorem dryRun_agrees_iff_sale :
    ¬DryRunAgrees env program (dryRunKeys 31 32) (swapAccounts 31 32) (.baseIn ⟨1000, 0⟩)
        swapWorld ∧
      DryRunAgrees env program (dryRunKeys 31 32) (swapAccounts 31 32) (.baseIn ⟨1000, 1000000⟩)
        swapWorld := by
  have hpasses : SwapPasses env program (swapAccounts 31 32) (.baseIn ⟨1000, 0⟩) swapWorld :=
    swapPasses_of_isOk (by decide)
  have hfails : ¬SwapPasses env program (swapAccounts 31 32) (.baseIn ⟨1000, 1000000⟩)
      swapWorld := by
    rintro ⟨p, w', hpriced⟩
    have hrefused : (swapPriced env program (swapAccounts 31 32) (.baseIn ⟨1000, 1000000⟩)
        swapWorld).isOk = false := by decide
    rw [hpriced] at hrefused
    cases hrefused
  exact ⟨fun hagrees => (dryRun_agrees_iff (dryRunAccounts 31 32) _).mp hagrees hpasses,
    (dryRun_agrees_iff (dryRunAccounts 31 32) _).mpr hfails⟩

open Reference in
/-- A sale of 1000 coin and a purchase of 1000 pc pass their checks, and both dry runs are refused
    at the target orders. -/
theorem dryRun_disagrees :
    (SwapPasses env program (swapAccounts 31 32) (.baseIn ⟨1000, 0⟩) swapWorld ∧
      processSimulateInfo env program (dryRunInfos (dryRunKeys 31 32)) ⟨1, some ⟨1000, 0⟩, none⟩
        swapWorld = Outcome.fail AmmError.invalidSplTokenProgram.into ∧
      ¬DryRunAgrees env program (dryRunKeys 31 32) (swapAccounts 31 32) (.baseIn ⟨1000, 0⟩)
        swapWorld) ∧
    (SwapPasses env program (swapAccounts 31 32) (.baseOut ⟨1000, 1000⟩) swapWorld ∧
      processSimulateInfo env program (dryRunInfos (dryRunKeys 31 32)) ⟨2, none, some ⟨1000, 1000⟩⟩
        swapWorld = Outcome.fail AmmError.invalidSplTokenProgram.into ∧
      ¬DryRunAgrees env program (dryRunKeys 31 32) (swapAccounts 31 32) (.baseOut ⟨1000, 1000⟩)
        swapWorld) := by
  have hsale : SwapPasses env program (swapAccounts 31 32) (.baseIn ⟨1000, 0⟩) swapWorld :=
    swapPasses_of_isOk (by decide)
  have hpurchase : SwapPasses env program (swapAccounts 31 32) (.baseOut ⟨1000, 1000⟩) swapWorld :=
    swapPasses_of_isOk (by decide)
  have hne : program ≠ splTokenId := by decide
  refine ⟨⟨hsale, dryRun_refused (dryRunAccounts 31 32) hne hsale, fun hagrees => ?_⟩,
    hpurchase, dryRun_refused (dryRunAccounts 31 32) hne hpurchase, fun hagrees => ?_⟩
  · obtain ⟨w', hrun⟩ := hagrees.succeeds hsale
    exact processSimulateInfo_ne_ok (dryRunAccounts 31 32) _ w' hrun
  · obtain ⟨w', hrun⟩ := hagrees.succeeds hpurchase
    exact processSimulateInfo_ne_ok (dryRunAccounts 31 32) _ w' hrun

end RaydiumAmm
