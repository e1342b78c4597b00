import RaydiumAmm.Dispatch
import RaydiumAmm.Runs
import RaydiumAmm.Settlement

/-!
# Records

What an instruction does to the records that the program keeps.

1. `KeepsRecords`: the programs called write no record of this program.
2. `RecordChange`: what each instruction can make of the content of an account.
3. `processInstruction_changes`: a successful instruction makes calls and then changes of this kind.
4. `Executes.record`: the same of one record over one instruction of a run.
-/

namespace RaydiumAmm

/-! ## 1. Calls -/

/-- The records that the program keeps in its accounts. -/
def AccountData.isRecord : AccountData → Bool
  | .amm _ => true
  | .targetOrders _ => true
  | .config _ => true
  | _ => false

/-- The program owns the account, and it holds a record. -/
structure OwnsRecord (programId : Pubkey) (acc : Accounts) (k : Pubkey) : Prop where
  owner : (acc k).owner = programId
  isRecord : (acc k).data.isRecord = true

/-- An account is written by its owner alone, and a call of this program to itself carries no
    instruction of its own, so a call changes no record of this program. -/
def KeepsRecords (env : Env) (programId : Pubkey) : Prop :=
  ∀ {c : Cpi} {acc acc' : Accounts}, env.invoke c acc = .ok acc' →
    ∀ k, OwnsRecord programId acc k → acc' k = acc k

section Kept

variable {env : Env} {programId k : Pubkey} {w w' : World}

theorem KeepsRecords.calls {P : Cpi → Prop} (hkeep : KeepsRecords env programId)
    (h : Calls env P w w') (hk : OwnsRecord programId w.accounts k) :
    w'.accounts k = w.accounts k := by
  refine h.inv (Q := fun w₁ => w₁.accounts k = w.accounts k) ?_ rfl
  intro c w₁ w₂ _ hinvoke hsame
  have hk₁ : OwnsRecord programId w₁.accounts k := by
    constructor
    · rw [hsame]
      exact hk.owner
    · rw [hsame]
      exact hk.isRecord
  exact (hkeep (World.effect_of_invoke hinvoke) k hk₁).trans hsame

end Kept

namespace Reference

/-- An account that holds a record is none of those that hold something else. -/
theorem ne_of_isRecord {acc : Accounts} {k key : Pubkey} {data : AccountData}
    (hk : (acc k).data.isRecord = true) (hkey : (acc key).data = data)
    (hdata : data.isRecord = false) : k ≠ key := by
  rintro rfl
  rw [hkey, hdata] at hk
  cases hk

theorem not_token_of_isRecord {data : AccountData} (h : data.isRecord = true) (t : TokenAccount) :
    data ≠ .token t := by
  rintro rfl
  cases h

theorem moveTokens_record {acc acc' : Accounts} {s d k : Pubkey} {n : U64}
    (h : moveTokens acc s d n = some acc') (hk : (acc k).data.isRecord = true) :
    acc' k = acc k :=
  moveTokens_frame h (not_token_of_isRecord hk)

theorem mintTokens_record {acc acc' : Accounts} {m d k : Pubkey} {n : U64}
    (h : mintTokens acc m d n = some acc') (hk : (acc k).data.isRecord = true) :
    acc' k = acc k := by
  obtain ⟨tm, td, supply, given, hm, hd, -, -, -, rfl⟩ := mintTokens_eq_some h
  have hkm := ne_of_isRecord hk hm rfl
  have hkd := ne_of_isRecord hk hd rfl
  simp [Accounts.setData, hkm, hkd]

theorem burnTokens_record {acc acc' : Accounts} {s m k : Pubkey} {n : U64}
    (h : burnTokens acc s m n = some acc') (hk : (acc k).data.isRecord = true) :
    acc' k = acc k := by
  obtain ⟨tm, ts, supply, taken, hm, hs, -, -, -, rfl⟩ := burnTokens_eq_some h
  have hkm := ne_of_isRecord hk hm rfl
  have hks := ne_of_isRecord hk hs rfl
  simp [Accounts.setData, hkm, hks]

theorem settle_record {acc acc' : Accounts} {s : SettleFunds} {k : Pubkey}
    (h : settle acc s = some acc') (hk : (acc k).data.isRecord = true) : acc' k = acc k := by
  obtain ⟨o, acc₁, acc₂, hdata, -, hcoin, hpc, rfl⟩ := settle_eq_some h
  have hfirst := moveTokens_record hcoin hk
  have hsecond := moveTokens_record hpc (k := k) (by rw [hfirst]; exact hk)
  have hne := ne_of_isRecord hk hdata rfl
  simp [Accounts.setData, hne, hsecond, hfirst]

theorem keepsRecords (programId : Pubkey) : KeepsRecords env programId := by
  rintro ⟨ix, infos, seeds⟩ acc acc' h k hk
  cases ix with
  | transfer p s d au n => exact (transfer_changes h k).frame (not_token_of_isRecord hk.isRecord)
  | mintTo p m d au n => exact mintTokens_record (mintTo_of_invoke h) hk.isRecord
  | burn p s m au n =>
    obtain ⟨acc₁, -, hadmits, hburn⟩ := burn_of_invoke h
    have hsame := (hadmits.changes k).frame (not_token_of_isRecord hk.isRecord)
    rw [← hsame]
    exact burnTokens_record hburn (by rw [hsame]; exact hk.isRecord)
  | cancelOrders o => rw [cancelOrders_of_invoke h]
  | settleFunds s => exact settle_record (settle_of_invoke h) hk.isRecord
  | _ => cases run_of_invoke h

end Reference

/-! ## 2. Changes -/

/-- `key` is among the signers of an instruction. -/
def Signed (accounts : List AccountInfo) (key : Pubkey) : Prop :=
  ∃ info ∈ accounts, info.isSigner = true ∧ info.key = key

/-- `key` is the first account of an instruction. -/
def Leads (accounts : List AccountInfo) (key : Pubkey) : Prop :=
  accounts.head?.map AccountInfo.key = some key

/-- What an instruction can make of the pool record of `key`. -/
inductive AmmChange (accounts : List AccountInfo) (clock : Clock) (key : Pubkey) :
    AmmInstruction → AmmInfo → AmmInfo → Prop where
  | swapBaseIn {swap : SwapInstructionBaseIn} {amm gated : AmmInfo} {s : StateData} {epoch : U64} :
      swapStatusGate amm clock = .ok gated →
      AmmChange accounts clock key (.swapBaseIn swap) amm
        { gated with stateData := s, recentEpoch := epoch }
  | swapBaseOut {swap : SwapInstructionBaseOut} {amm gated : AmmInfo} {s : StateData}
      {epoch : U64} :
      swapStatusGate amm clock = .ok gated →
      AmmChange accounts clock key (.swapBaseOut swap) amm
        { gated with stateData := s, recentEpoch := epoch }
  | deposit {deposit : DepositInstruction} {amm : AmmInfo} {s : StateData} {lpAmount epoch : U64} :
      AmmChange accounts clock key (.deposit deposit) amm
        { amm with stateData := s, lpAmount := lpAmount, recentEpoch := epoch }
  | withdraw {withdraw : WithdrawInstruction} {amm : AmmInfo} {s : StateData}
      {lpAmount epoch : U64} :
      AmmChange accounts clock key (.withdraw withdraw) amm
        { amm with stateData := s, lpAmount := lpAmount, recentEpoch := epoch }
  | monitorStep {monitor : MonitorStepInstruction} {amm : AmmInfo} {s : StateData} :
      AmmChange accounts clock key (.monitorStep monitor) amm { amm with stateData := s }
  | withdrawPnl {amm : AmmInfo} {s : StateData} :
      AmmChange accounts clock key .withdrawPnl amm { amm with stateData := s }
  | withdrawSrm {withdrawsrm : WithdrawSrmInstruction} {amm : AmmInfo} :
      AmmChange accounts clock key (.withdrawSrm withdrawsrm) amm amm
  | migrateToOpenBook {amm : AmmInfo} {marketProgram : Pubkey} :
      AmmChange accounts clock key .migrateToOpenBook amm
        { amm with marketProgram := marketProgram }
  | adminCancelOrders {cancel : AdminCancelOrdersInstruction} {amm : AmmInfo}
      {marketProgram : Pubkey} :
      AmmChange accounts clock key (.adminCancelOrders cancel) amm
        { amm with marketProgram := marketProgram }
  | setParams {setparams : SetParamsInstruction} {amm : AmmInfo} {param : AmmParams} :
      AmmParams.fromU8 setparams.param = .ok param → Leads accounts key →
      Signed accounts amm.ammOwner →
      AmmChange accounts clock key (.setParams setparams) amm (setParam amm setparams param)

/-- What an instruction can make of the config record of `key`. -/
inductive ConfigChange (accounts : List AccountInfo) (key : Pubkey) :
    AmmInstruction → AmmConfig → AmmConfig → Prop where
  | update {configArgs : ConfigArgs} {config : AmmConfig} : Signed accounts config.pnlOwner →
      ConfigChange accounts key (.updateConfigAccount configArgs) config
        (updateConfig config configArgs)
  | create {config : AmmConfig} {user : Pubkey} : Leads accounts key → Signed accounts user →
      ConfigChange accounts key .createConfigAccount config ⟨user, Pubkey.default, 0⟩

/-- What an instruction can make of the content of the account `key`. -/
inductive RecordChange (accounts : List AccountInfo) (clock : Clock) (i : AmmInstruction)
    (key : Pubkey) : AccountData → AccountData → Prop where
  | amm {amm amm' : AmmInfo} : AmmChange accounts clock key i amm amm' →
      RecordChange accounts clock i key (.amm amm) (.amm amm')
  | target {t t' : TargetOrders} : t'.owner = t.owner →
      RecordChange accounts clock i key (.targetOrders t) (.targetOrders t')
  | config {config config' : AmmConfig} : ConfigChange accounts key i config config' →
      RecordChange accounts clock i key (.config config) (.config config')
  | bytes {b b' : List U8} : RecordChange accounts clock i key (.bytes b) (.bytes b')

/-- The accounts after calls that satisfy `P` and then the writes of `writes`, in order. -/
def WritesAfterCalls (env : Env) (P : Cpi → Prop) (w w' : World)
    (writes : List (Pubkey × AccountData)) : Prop :=
  ∃ borrowed w₁, Calls env P { w with borrowed := borrowed } w₁ ∧
    w'.accounts = writes.foldl (fun acc write => acc.setData write.1 write.2) w₁.accounts

/-- An account after a sequence of writes: its content is the old one or that of a write to it. -/
theorem Accounts.foldl_setData (writes : List (Pubkey × AccountData)) (acc : Accounts)
    (k : Pubkey) :
    (writes.foldl (fun acc write => acc.setData write.1 write.2) acc k).owner = (acc k).owner ∧
      ((writes.foldl (fun acc write => acc.setData write.1 write.2) acc k).data = (acc k).data ∨
        ∃ write ∈ writes, write.1 = k ∧
          (writes.foldl (fun acc write => acc.setData write.1 write.2) acc k).data = write.2) := by
  induction writes generalizing acc with
  | nil => exact ⟨rfl, .inl rfl⟩
  | cons write rest ih =>
    obtain ⟨howner, hdata⟩ := ih (acc.setData write.1 write.2)
    have hsame : ((acc.setData write.1 write.2) k).owner = (acc k).owner := by
      unfold Accounts.setData
      split <;> rfl
    refine ⟨howner.trans hsame, ?_⟩
    rcases hdata with hdata | ⟨last, hmem, hkey, hdata⟩
    · by_cases hk : k = write.1
      · refine .inr ⟨write, List.mem_cons_self, hk.symm, hdata.trans ?_⟩
        simp [Accounts.setData, hk]
      · exact .inl (hdata.trans (by simp [Accounts.setData, hk]))
    · exact .inr ⟨last, List.mem_cons_of_mem _ hmem, hkey, hdata⟩

/-- A record after calls and writes, each write changing what the account held. -/
theorem WritesAfterCalls.record {env : Env} {P : Cpi → Prop} {programId k : Pubkey} {w w' : World}
    {writes : List (Pubkey × AccountData)} {R : Pubkey → AccountData → AccountData → Prop}
    (hkeep : KeepsRecords env programId) (hk : OwnsRecord programId w.accounts k)
    (h : WritesAfterCalls env P w w' writes)
    (hwrites : ∀ write ∈ writes, R write.1 (w.accounts write.1).data write.2) :
    (w'.accounts k).owner = programId ∧
      ((w'.accounts k).data = (w.accounts k).data ∨
        R k (w.accounts k).data (w'.accounts k).data) := by
  obtain ⟨borrowed, w₁, hcalls, hw'⟩ := h
  have hsame : w₁.accounts k = w.accounts k :=
    hkeep.calls (w := { w with borrowed := borrowed }) hcalls hk
  obtain ⟨howner, hdata⟩ := Accounts.foldl_setData writes w₁.accounts k
  rw [hw']
  refine ⟨howner.trans (by rw [hsame]; exact hk.owner), ?_⟩
  rcases hdata with hdata | ⟨write, hmem, rfl, hdata⟩
  · exact .inl (by rw [hdata, hsame])
  · exact .inr (by rw [hdata]; exact hwrites write hmem)

/-! ## 3. The instructions -/

/-- The calls that set up an account or a mint. -/
def Instruction.isSetup : Instruction → Bool
  | .createAccount .. => true
  | .mintSetup .. => true
  | .initExtraAccountMetaList .. => true
  | _ => false

section Handlers

variable {env : Env} {programId : Pubkey} {accounts : List AccountInfo} {w w' : World}

theorem World.writeData_eq_ok {key : Pubkey} {data : AccountData}
    (h : w.writeData programId key data = .ok w') :
    w' = { w with accounts := w.accounts.setData key data } := by
  simp only [World.writeData, Outcome.bind_eq_ok, Outcome.pure_eq_ok] at h
  obtain ⟨-, -, rfl⟩ := h
  rfl

theorem AmmConfig.loadMutChecked_eq_ok {info : AccountInfo} {config : AmmConfig}
    (h : AmmConfig.loadMutChecked w info programId = .ok (config, w')) :
    (w.accounts info.key).data = .config config ∧
      w' = { w with borrowed := info.key :: w.borrowed } := by
  simp only [AmmConfig.loadMutChecked, World.tryBorrowMutData, Outcome.bind_eq_ok] at h
  obtain ⟨-, -, h⟩ := h
  cases hd : (w.accounts info.key).data <;> rw [hd] at h <;>
    simp only [Outcome.fail_ne_ok, Outcome.bind_eq_ok, Outcome.pure_eq_ok, Prod.mk.injEq] at h
  obtain ⟨w₁, ⟨-, -, rfl⟩, rfl, rfl⟩ := h
  exact ⟨rfl, rfl⟩

/-- The calls that set up an account or a mint. -/
abbrev SetupCall (c : Cpi) : Prop := c.ix.isSetup = true

/-- What a handler does: calls that satisfy `P`, and then changes of records. -/
def Writes (env : Env) (P : Cpi → Prop) (accounts : List AccountInfo) (i : AmmInstruction)
    (w w' : World) : Prop :=
  ∃ writes, WritesAfterCalls env P w w' writes ∧
    ∀ write ∈ writes, RecordChange accounts w.clock i write.1 (w.accounts write.1).data write.2

theorem Writes.any {i : AmmInstruction} {P : Cpi → Prop} (h : Writes env P accounts i w w') :
    Writes env AnyCall accounts i w w' := by
  obtain ⟨writes, ⟨borrowed, w₁, hcalls, hw'⟩, hwrites⟩ := h
  exact ⟨writes, ⟨borrowed, w₁, hcalls.any, hw'⟩, hwrites⟩

/-- One pool record is written after the calls. -/
theorem Writes.amm {i : AmmInstruction} {P : Cpi → Prop} {borrowed : List Pubkey} {w₁ : World}
    {key : Pubkey} {amm amm' : AmmInfo} (hcalls : Calls env P { w with borrowed := borrowed } w₁)
    (hstored : (w.accounts key).data = .amm amm)
    (hchange : AmmChange accounts w.clock key i amm amm')
    (hw' : w' = w₁.dropRefMut key (.amm amm')) : Writes env P accounts i w w' := by
  refine ⟨[(key, .amm amm')], ⟨borrowed, w₁, hcalls, ?_⟩, ?_⟩
  · rw [hw']
    rfl
  · rintro write hwrite
    obtain rfl := List.mem_singleton.mp hwrite
    rw [hstored]
    exact .amm hchange

/-- The two records of a pool are written after the calls. -/
theorem Writes.pool {i : AmmInstruction} {P : Cpi → Prop} {borrowed : List Pubkey} {w₁ : World}
    {key targetKey : Pubkey} {amm amm' : AmmInfo} {t t' : TargetOrders}
    (hcalls : Calls env P { w with borrowed := borrowed } w₁)
    (hstored : (w.accounts key).data = .amm amm)
    (htarget : (w.accounts targetKey).data = .targetOrders t) (howner : t'.owner = t.owner)
    (hchange : AmmChange accounts w.clock key i amm amm')
    (hw' : w' = (w₁.dropRefMut targetKey (.targetOrders t')).dropRefMut key (.amm amm')) :
    Writes env P accounts i w w' := by
  refine ⟨[(targetKey, .targetOrders t'), (key, .amm amm')], ⟨borrowed, w₁, hcalls, ?_⟩, ?_⟩
  · rw [hw']
    rfl
  · rintro write hwrite
    rcases List.mem_cons.mp hwrite with rfl | hwrite
    · rw [htarget]
      exact .target howner
    · obtain rfl := List.mem_singleton.mp hwrite
      rw [hstored]
      exact .amm hchange

/-- Calls alone. -/
theorem Writes.calls {i : AmmInstruction} {P : Cpi → Prop} (hcalls : Calls env P w w') :
    Writes env P accounts i w w' :=
  ⟨[], ⟨w.borrowed, w', hcalls, rfl⟩, by simp⟩

/-- One write without calls. -/
theorem Writes.one {i : AmmInstruction} {P : Cpi → Prop} {key : Pubkey} {data : AccountData}
    (hw' : w'.accounts = w.accounts.setData key data)
    (hchange : RecordChange accounts w.clock i key (w.accounts key).data data) :
    Writes env P accounts i w w' := by
  refine ⟨[(key, data)], ⟨w.borrowed, w, .refl, hw'⟩, ?_⟩
  rintro write hwrite
  obtain rfl := List.mem_singleton.mp hwrite
  exact hchange

/-! Swaps. -/

/-- The record that a swap starts from has passed the status gate. -/
theorem swapPrologue_gate {a : SwapAccounts} {c : SwapContext} {w₀ : World}
    (h : swapPrologue env programId a w = .ok (c, w₀)) :
    ∃ amm, (w.accounts a.ammInfo.key).data = .amm amm ∧
      swapStatusGate amm w.clock = .ok c.amm := by
  simp only [swapPrologue, Outcome.bind_eq_ok, check_eq_ok] at h
  obtain ⟨⟨amm, w₁⟩, hload, status, -, -, -, -, -, authority, -, -, -, -, -, -, -, -, -, -, -,
    ammCoinVault, -, ammPcVault, -, userSource, -, userDestination, -, gated, hgate, totals, -,
    direction, -, hret⟩ := h
  obtain ⟨-, hdata, -, rfl⟩ := AmmInfo.loadMutChecked_eq_ok hload
  cases hret
  exact ⟨amm, hdata, hgate⟩

theorem SwapCalls.calls {a : SwapAccounts} {c : SwapContext} {coinVaultInfo : AccountInfo}
    {paid out : U64} {w₁ w₂ w₃ : World} (h : SwapCalls env a c coinVaultInfo paid out w w₁ w₂ w₃) :
    Calls env (AnyCall) w w₃ :=
  (h.dex.any.tail ⟨_, trivial, h.payIn⟩).tail ⟨_, trivial, h.payOut⟩

theorem processSwapBaseIn_changes {swap : SwapInstructionBaseIn}
    (h : processSwapBaseIn env programId accounts swap w = .ok w') :
    Writes env AnyCall accounts (.swapBaseIn swap) w w' := by
  simp only [processSwapBaseIn, swapBaseInBody, Outcome.bind_eq_ok, check_eq_ok,
    Outcome.pure_eq_ok] at h
  obtain ⟨a, -, ⟨c, w₀⟩, hpro, -, -, q, -, -, -, -, -, ⟨amm', w₃⟩, hbranch, hw'⟩ := h
  obtain ⟨amm, hstored, hgate⟩ := swapPrologue_gate hpro
  obtain ⟨amm₀, hchecked, rfl⟩ := swapPrologue_eq_ok hpro
  cases hdir : c.swapDirection with
  | coin2Pc =>
    simp only [swapBaseInBranch, hdir] at hbranch
    obtain ⟨-, w₁, w₂, s, hcalls, -, rfl⟩ :=
      swapBaseInCoin2Pc_eq_ok hchecked.tokenProgram hdir hbranch
    exact .amm hcalls.calls hstored (.swapBaseIn hgate) hw'.symm
  | pc2Coin =>
    simp only [swapBaseInBranch, hdir] at hbranch
    obtain ⟨-, w₁, w₂, s, hcalls, -, rfl⟩ :=
      swapBaseInPc2Coin_eq_ok hchecked.tokenProgram hdir hbranch
    exact .amm hcalls.calls hstored (.swapBaseIn hgate) hw'.symm

theorem processSwapBaseOut_changes {swap : SwapInstructionBaseOut}
    (h : processSwapBaseOut env programId accounts swap w = .ok w') :
    Writes env AnyCall accounts (.swapBaseOut swap) w w' := by
  simp only [processSwapBaseOut, swapBaseOutBody, Outcome.bind_eq_ok, check_eq_ok,
    Outcome.pure_eq_ok] at h
  obtain ⟨a, -, ⟨c, w₀⟩, hpro, q, -, -, -, -, -, -, -, ⟨amm', w₃⟩, hbranch, hw'⟩ := h
  obtain ⟨amm, hstored, hgate⟩ := swapPrologue_gate hpro
  obtain ⟨amm₀, hchecked, rfl⟩ := swapPrologue_eq_ok hpro
  cases hdir : c.swapDirection with
  | coin2Pc =>
    simp only [swapBaseOutBranch, hdir] at hbranch
    obtain ⟨w₁, w₂, s, hcalls, -, rfl⟩ :=
      swapBaseOutCoin2Pc_eq_ok hchecked.tokenProgram hdir hbranch
    exact .amm hcalls.calls hstored (.swapBaseOut hgate) hw'.symm
  | pc2Coin =>
    simp only [swapBaseOutBranch, hdir] at hbranch
    obtain ⟨w₁, w₂, s, hcalls, -, rfl⟩ :=
      swapBaseOutPc2Coin_eq_ok hchecked.tokenProgram hdir hbranch
    exact .amm hcalls.calls hstored (.swapBaseOut hgate) hw'.symm

/-! Liquidity. -/

theorem processDeposit_changes {deposit : DepositInstruction}
    (h : processDeposit env programId accounts deposit w = .ok w') :
    Writes env AnyCall accounts (.deposit deposit) w w' := by
  simp only [processDeposit, Outcome.bind_eq_ok] at h
  obtain ⟨a, -, h⟩ := h
  obtain ⟨c, d, hdone⟩ := depositBody_eq_ok h
  obtain ⟨w₁, w₂, w₃, x1, y1, calcPnlX, calcPnlY, lpAmount, hcalls, -, -, -, -, -, hw'⟩ := hdone.run
  have hall : Calls env (AnyCall) { w with
      borrowed := a.ammTargetOrdersInfo.key :: a.ammInfo.key :: w.borrowed } w₃ :=
    ((Calls.single trivial hcalls.payCoin).tail ⟨_, trivial, hcalls.payPc⟩).tail
      ⟨_, trivial, hcalls.mint⟩
  refine Writes.pool hall hdone.checked.stored hdone.checked.storedTarget ?_ ?_ hw'
  · rfl
  · exact .deposit

theorem processWithdraw_changes {withdraw : WithdrawInstruction}
    (h : processWithdraw env programId accounts withdraw w = .ok w') :
    Writes env AnyCall accounts (.withdraw withdraw) w w' := by
  simp only [processWithdraw, Outcome.bind_eq_ok] at h
  obtain ⟨a, -, h⟩ := h
  obtain ⟨c, coinAmount, pcAmount, hdone⟩ := withdrawBody_eq_ok h
  obtain ⟨w₀, w₁, w₂, w₃, x1, y1, calcPnlX, calcPnlY, lpAmount, hdex, -, hcalls, -, -, -, -, -,
    hw'⟩ := hdone.run
  have hall : Calls env (AnyCall) { w with
      borrowed := a.ammTargetOrdersInfo.key :: a.ammInfo.key :: w.borrowed } w₃ :=
    (((hdex.mono fun _ _ => trivial).tail ⟨_, trivial, hcalls.payCoin⟩).tail
      ⟨_, trivial, hcalls.payPc⟩).tail ⟨_, trivial, hcalls.burn⟩
  obtain ⟨s, hs, -, -⟩ := withdrawTakePnl_amm c
  refine Writes.pool (hdex.any.trans hcalls.calls) hdone.checked.stored hdone.checked.storedTarget ?_ ?_ hw'
  · rfl
  · rw [withdrawRecord, hs]
    exact .withdraw

/-! Profit. -/

theorem processMonitorStep_changes {monitor : MonitorStepInstruction}
    (h : processMonitorStep env programId accounts monitor w = .ok w') :
    Writes env AnyCall accounts (.monitorStep monitor) w w' := by
  simp only [processMonitorStep, Outcome.bind_eq_ok] at h
  obtain ⟨a, -, h⟩ := h
  obtain ⟨c, hdone⟩ := monitorBody_eq_ok h
  obtain ⟨w₁, hcalls, hw'⟩ := hdone.run
  refine Writes.pool hcalls.any.any hdone.checked.stored hdone.checked.storedTarget ?_ ?_ hw'
  · rfl
  · exact .monitorStep

theorem payPnl_calls {a : WithdrawPnlAccounts} {amm : AmmInfo} {vaultInfo destInfo : AccountInfo}
    {pnl : U64} (hspl : a.tokenProgramInfo.key = splTokenId)
    (h : payPnl env programId a amm vaultInfo destInfo pnl w = .ok w') :
    Calls env (AnyCall) w w' := by
  rcases payPnl_eq_ok hspl h with h | ⟨-, rfl⟩
  · exact .single trivial h
  · exact .refl

theorem processWithdrawPnl_changes (h : processWithdrawPnl env programId accounts w = .ok w') :
    Writes env AnyCall accounts .withdrawPnl w w' := by
  simp only [processWithdrawPnl, Outcome.bind_eq_ok] at h
  obtain ⟨a, -, h⟩ := h
  obtain ⟨amm, hdone⟩ := withdrawPnlBody_eq_ok h
  obtain ⟨w₁, w₂, hcoin, hpc, hw'⟩ := hdone.run
  have hspl := hdone.checked.tokenProgram
  exact .amm ((payPnl_calls hspl hcoin).trans (payPnl_calls hspl hpc)) hdone.checked.stored
    .withdrawPnl hw'

/-! Administration. -/

theorem processMigrateToOpenbook_changes
    (h : processMigrateToOpenbook env programId accounts w = .ok w') :
    Writes env AnyCall accounts .migrateToOpenBook w w' := by
  simp only [processMigrateToOpenbook, Outcome.bind_eq_ok] at h
  obtain ⟨a, -, h⟩ := h
  obtain ⟨amm, hdone⟩ := migrateToOpenbookBody_eq_ok h
  obtain ⟨w₁, marketProgram, hcalls, hw'⟩ := hdone.run
  exact .amm hcalls.any hdone.stored .migrateToOpenBook hw'

theorem processAdminCancelOrders_changes {cancel : AdminCancelOrdersInstruction}
    (h : processAdminCancelOrders env programId accounts cancel w = .ok w') :
    Writes env AnyCall accounts (.adminCancelOrders cancel) w w' := by
  simp only [processAdminCancelOrders, Outcome.bind_eq_ok] at h
  obtain ⟨a, -, h⟩ := h
  obtain ⟨amm, hdone⟩ := adminCancelOrdersBody_eq_ok h
  obtain ⟨w₁, marketProgram, hcalls, hw'⟩ := hdone.run
  exact .amm hcalls.any hdone.stored .adminCancelOrders hw'

theorem processWithdrawSrm_changes {withdrawsrm : WithdrawSrmInstruction}
    (h : processWithdrawSrm env programId accounts withdrawsrm w = .ok w') :
    Writes env AnyCall accounts (.withdrawSrm withdrawsrm) w w' := by
  simp only [processWithdrawSrm, Outcome.bind_eq_ok] at h
  obtain ⟨a, -, h⟩ := h
  obtain ⟨amm, hdone⟩ := withdrawSrmBody_eq_ok h
  obtain ⟨w₁, htransfer, hw'⟩ := hdone.run
  exact .amm (.single (P := AnyCall) trivial htransfer) hdone.stored .withdrawSrm hw'

/-- The accounts that a handler binds are among those of the instruction. -/
theorem bind_setParams_mem {a b c : AccountInfo}
    (h : Binder.bindAll (do
      let ammInfo ← nextAccountInfo
      let ammAuthorityInfo ← nextAccountInfo
      let userWalletInfo ← nextAccountInfo
      return (ammInfo, ammAuthorityInfo, userWalletInfo)) accounts = .ok (a, b, c)) :
    ∃ rest, accounts = a :: b :: c :: rest := by
  obtain _ | ⟨x, _ | ⟨y, _ | ⟨z, rest⟩⟩⟩ := accounts
  · cases h
  · cases h
  · cases h
  · cases h
    exact ⟨rest, rfl⟩

/-- What a parameter update that goes through did. -/
theorem processSetParams_eq_ok {setparams : SetParamsInstruction}
    (h : processSetParams env programId accounts setparams w = .ok w') :
    ∃ key amm param, Leads accounts key ∧ (w.accounts key).data = .amm amm ∧
      AmmParams.fromU8 setparams.param = .ok param ∧ Signed accounts amm.ammOwner ∧
      w'.accounts = w.accounts.setData key (.amm (setParam amm setparams param)) := by
  simp only [processSetParams, Outcome.bind_eq_ok, check_eq_ok, Outcome.pure_eq_ok] at h
  obtain ⟨⟨ammInfo, ammAuthorityInfo, userWalletInfo⟩, hbind, -, hsigner, ⟨amm, w₀⟩, hload, -, -,
    -, -, -, howner, param, hparam, rfl⟩ := h
  obtain ⟨-, hdata, -, rfl⟩ := AmmInfo.loadMutChecked_eq_ok hload
  obtain ⟨rest, rfl⟩ := bind_setParams_mem hbind
  exact ⟨ammInfo.key, amm, param, rfl, hdata, hparam, ⟨userWalletInfo, by simp, hsigner, howner⟩,
    rfl⟩

theorem processSetParams_changes {setparams : SetParamsInstruction}
    (h : processSetParams env programId accounts setparams w = .ok w') :
    Writes env SetupCall accounts (.setParams setparams) w w' := by
  obtain ⟨key, amm, param, hleads, hdata, hparam, hsigned, hw'⟩ := processSetParams_eq_ok h
  exact .one hw' (by rw [hdata]; exact .amm (.setParams hparam hleads hsigned))

/-- What an update of a config that goes through did. -/
theorem processUpdateConfig_eq_ok {configArgs : ConfigArgs}
    (h : processUpdateConfig programId accounts configArgs w = .ok w') :
    ∃ key config, Leads accounts key ∧ (w.accounts key).data = .config config ∧
      Signed accounts config.pnlOwner ∧
      w'.accounts = w.accounts.setData key (.config (updateConfig config configArgs)) := by
  simp only [processUpdateConfig, Outcome.bind_eq_ok, check_eq_ok, Outcome.pure_eq_ok] at h
  obtain ⟨⟨configInfo, userWalletInfo⟩, hbind, -, hsigner, ⟨config, w₀⟩, hload, -, howner, rfl⟩ := h
  obtain ⟨hdata, rfl⟩ := AmmConfig.loadMutChecked_eq_ok hload
  obtain _ | ⟨x, _ | ⟨y, rest⟩⟩ := accounts
  · cases hbind
  · cases hbind
  · cases hbind
    exact ⟨configInfo.key, config, rfl, hdata, ⟨userWalletInfo, by simp, hsigner, howner⟩, rfl⟩

theorem processUpdateConfig_changes {configArgs : ConfigArgs}
    (h : processUpdateConfig programId accounts configArgs w = .ok w') :
    Writes env SetupCall accounts (.updateConfigAccount configArgs) w w' := by
  obtain ⟨key, config, -, hdata, hsigned, hw'⟩ := processUpdateConfig_eq_ok h
  exact .one hw' (by rw [hdata]; exact .config (.update hsigned))

theorem processCreateConfig_changes (h : processCreateConfig env programId accounts w = .ok w') :
    Writes env SetupCall accounts .createConfigAccount w w' := by
  simp only [processCreateConfig, Outcome.bind_eq_ok, check_eq_ok] at h
  obtain ⟨⟨configInfo, userWalletInfo, systemProgramInfo, rentInfo⟩, hbind, -, hsigner, -, -, -, -,
    -, -, -, -, h⟩ := h
  cases hd : (w.accounts configInfo.key).data <;> rw [hd] at h <;>
    simp only [Outcome.panic_ne_ok] at h
  rw [World.writeData_eq_ok h]
  obtain _ | ⟨x, _ | ⟨y, rest⟩⟩ := accounts
  · cases hbind
  · cases hbind
  · obtain _ | ⟨u, _ | ⟨v, rest⟩⟩ := rest
    · cases hbind
    · cases hbind
    · cases hbind
      have hsigned : Signed (configInfo :: userWalletInfo :: systemProgramInfo :: rentInfo :: rest)
          userWalletInfo.key := ⟨userWalletInfo, by simp, hsigner, rfl⟩
      exact .one rfl (by rw [hd]; exact .config (.create rfl hsigned))

/-! Whitelist. -/

theorem loadOwnWhitelist_bytes {whitelistAccountInfo authorityInfo : AccountInfo}
    {whitelist : HookWhitelist}
    (h : loadOwnWhitelist env programId whitelistAccountInfo authorityInfo w = .ok whitelist) :
    ∃ b, (w.accounts whitelistAccountInfo.key).data = .bytes b := by
  simp only [loadOwnWhitelist, loadWhitelist, Outcome.bind_eq_ok] at h
  obtain ⟨-, -, -, -, -, -, loaded, ⟨-, -, hload⟩, -⟩ := h
  split at hload
  next b hb => exact ⟨b, hb⟩
  next => cases hload

theorem processUpdateHookWhitelist_changes {instruction : UpdateHookWhitelistInstruction}
    (h : processUpdateHookWhitelist env programId accounts instruction w = .ok w') :
    Writes env SetupCall accounts (.updateHookWhitelist instruction) w w' := by
  simp only [processUpdateHookWhitelist, Outcome.bind_eq_ok] at h
  obtain ⟨⟨whitelistAccountInfo, authorityInfo⟩, -, whitelist, hload, h⟩ := h
  obtain ⟨b, hb⟩ := loadOwnWhitelist_bytes hload
  obtain ⟨updated, hwrite⟩ : ∃ updated : HookWhitelist,
      w.writeData programId whitelistAccountInfo.key (.bytes updated.pack) = .ok w' := by
    cases hact : instruction.action <;> simp only [hact, Outcome.bind_eq_ok] at h
    · obtain ⟨updated, -, hwrite⟩ := h
      exact ⟨updated, hwrite⟩
    · obtain ⟨updated, -, hwrite⟩ := h
      exact ⟨updated, hwrite⟩
  exact .one (by rw [World.writeData_eq_ok hwrite]) (by rw [hb]; exact .bytes)

theorem processUpdateWhitelistAuthority_changes {newAuthority : Pubkey}
    (h : processUpdateWhitelistAuthority env programId accounts newAuthority w = .ok w') :
    Writes env SetupCall accounts (.updateWhitelistAuthority newAuthority) w w' := by
  simp only [processUpdateWhitelistAuthority, Outcome.bind_eq_ok] at h
  obtain ⟨⟨whitelistAccountInfo, currentAuthorityInfo⟩, -, whitelist, hload, hwrite⟩ := h
  obtain ⟨b, hb⟩ := loadOwnWhitelist_bytes hload
  exact .one (by rw [World.writeData_eq_ok hwrite]) (by rw [hb]; exact .bytes)

/-- The account of a new whitelist is empty when it is asked for. -/
theorem processInitializeHookWhitelist_changes {authority : Pubkey}
    (h : processInitializeHookWhitelist env programId accounts authority w = .ok w') :
    Writes env SetupCall accounts (.initializeHookWhitelist authority) w w' := by
  simp only [processInitializeHookWhitelist, Outcome.bind_eq_ok, Outcome.require_eq_ok] at h
  obtain ⟨⟨whitelistAccountInfo, payerInfo, systemProgramInfo⟩, -, -, -, -, -, -, hempty, w₁,
    hcreate, h⟩ := h
  cases hd : (w₁.accounts whitelistAccountInfo.key).data <;> rw [hd] at h <;>
    simp only [Outcome.panic_ne_ok] at h
  rcases Outcome.ite_eq_ok.mp h with ⟨-, hwrite⟩ | ⟨-, hpanic⟩
  · refine ⟨[(whitelistAccountInfo.key, .bytes (HookWhitelist.empty authority).pack)],
      ⟨w.borrowed, w₁, .single rfl hcreate, ?_⟩, ?_⟩
    · rw [World.writeData_eq_ok hwrite]
      rfl
    · intro write hmem
      obtain rfl := List.mem_singleton.mp hmem
      cases hold : (w.accounts whitelistAccountInfo.key).data with
      | bytes b => exact .bytes
      | _ =>
        simp only [hold] at hempty
        cases hempty
  · cases hpanic

/-! Token-2022 set-up. -/

theorem processInitializeExtraAccountMetaList_changes {metas : List ExtraAccountMeta}
    (h : processInitializeExtraAccountMetaList env programId accounts metas w = .ok w') :
    Writes env SetupCall accounts (.initializeExtraAccountMetaList metas) w w' := by
  simp only [processInitializeExtraAccountMetaList, Outcome.bind_eq_ok] at h
  obtain ⟨⟨extraAccountMetaList, mint, authority, systemProgram⟩, -, -, -, -, -, space, -, w₁,
    hcreate, hinit⟩ := h
  exact .calls ((Calls.single (P := SetupCall) rfl hcreate).tail ⟨_, rfl, hinit⟩)

theorem optionalSetupCall_calls {mintAccount : AccountInfo} {infos : List AccountInfo}
    {step : Option MintSetup} (h : optionalSetupCall env mintAccount infos step w = .ok w') :
    Calls env (SetupCall) w w' := by
  cases step with
  | none =>
    cases h
    exact .refl
  | some step => exact .single rfl h

theorem processCreateToken2022Mint_changes {instruction : CreateToken2022MintInstruction}
    (h : processCreateToken2022Mint env accounts instruction w = .ok w') :
    Writes env SetupCall accounts (.createToken2022Mint instruction) w w' := by
  simp only [processCreateToken2022Mint, Outcome.bind_eq_ok] at h
  obtain ⟨⟨mintAccount, mintAuthority, payer, systemProgram, tokenProgram2022⟩, -, -, -, -, -, -, -,
    space, -, w₁, hcreate, w₂, hpointer, w₃, hhook, w₄, hmint, hmetadata⟩ := h
  have hbefore : Calls env (SetupCall) w w₃ :=
    ((Calls.single (P := SetupCall) rfl hcreate).trans (optionalSetupCall_calls hpointer)).trans
      (optionalSetupCall_calls hhook)
  exact .calls ((hbefore.tail ⟨_, rfl, hmint⟩).trans (optionalSetupCall_calls hmetadata))

/-! The rest. -/

/-- A simulation changes nothing. -/
theorem processSimulateInfo_eq_ok {accounts : List AccountInfo} {simulate : SimulateInstruction}
    (h : processSimulateInfo env programId accounts simulate w = .ok w') : w' = w := by
  simp only [processSimulateInfo, Outcome.bind_eq_ok] at h
  obtain ⟨param, -, h⟩ := h
  cases param with
  | poolInfo =>
    simp only [Outcome.bind_eq_ok, Outcome.pure_eq_ok] at h
    obtain ⟨-, -, rfl⟩ := h
    rfl
  | swapBaseInInfo =>
    cases hs : simulate.swapBaseInValue <;>
      simp only [hs, Outcome.bind_eq_ok, Outcome.pure_eq_ok] at h
    · exact h.symm
    · obtain ⟨-, -, rfl⟩ := h
      rfl
  | swapBaseOutInfo =>
    cases hs : simulate.swapBaseOutValue <;>
      simp only [hs, Outcome.bind_eq_ok, Outcome.pure_eq_ok] at h
    · exact h.symm
    · obtain ⟨-, -, rfl⟩ := h
      rfl
  | runCrankInfo =>
    simp only [Outcome.bind_eq_ok, Outcome.pure_eq_ok] at h
    obtain ⟨-, -, rfl⟩ := h
    rfl

/-- A pool record is copied while the borrow of its account lasts. -/
theorem copyAmm_borrowed {key : Pubkey} {amm : AmmInfo}
    (h : copyAmm w programId key amm = .ok w') : w'.borrowed = w.borrowed := by
  unfold copyAmm at h
  cases hd : (w.accounts key).data <;> rw [hd] at h <;> simp only [Outcome.panic_ne_ok] at h
  rw [World.writeData_eq_ok h]

theorem copyTargetOrders_borrowed {key : Pubkey} {t : TargetOrders}
    (h : copyTargetOrders w programId key t = .ok w') : w'.borrowed = w.borrowed := by
  unfold copyTargetOrders at h
  cases hd : (w.accounts key).data <;> rw [hd] at h <;> simp only [Outcome.panic_ne_ok] at h
  rw [World.writeData_eq_ok h]

theorem World.tryBorrowMutData_eq_ok {key : Pubkey} (h : w.tryBorrowMutData key = .ok w') :
    key ∉ w.borrowed ∧ w'.borrowed = key :: w.borrowed := by
  simp only [World.tryBorrowMutData, Outcome.bind_eq_ok, Outcome.require_eq_ok,
    Outcome.pure_eq_ok] at h
  obtain ⟨-, hfree, rfl⟩ := h
  exact ⟨hfree, rfl⟩

/-- A creation fails: it borrows the pool account a second time while the first borrow lasts. -/
theorem processInitialize2_ne_ok {accounts : List AccountInfo} {init : InitializeInstruction2} :
    processInitialize2 env programId accounts init w ≠ .ok w' := by
  intro h
  simp only [processInitialize2, initializeBody, Outcome.bind_eq_ok] at h
  obtain ⟨a, -, -, -, w₁, hborrow, w₂, hcopy, t, -, w₃, hborrowTarget, w₄, hcopyTarget, product, -,
    lpAmount, -, w₅, hmint, w₆, hborrowAgain, -⟩ := h
  obtain ⟨-, hfirst⟩ := World.tryBorrowMutData_eq_ok hborrow
  obtain ⟨-, hsecond⟩ := World.tryBorrowMutData_eq_ok hborrowTarget
  obtain ⟨-, hkept, -⟩ := World.frame_of_invoke hmint
  refine (World.tryBorrowMutData_eq_ok hborrowAgain).1 ?_
  rw [hkept, copyTargetOrders_borrowed hcopyTarget, hsecond, copyAmm_borrowed hcopy, hfirst]
  simp

/-- A successful instruction makes calls and then changes records. -/
theorem processInstruction_changes {i : AmmInstruction}
    (h : processInstruction env programId accounts i w = .ok w') : Writes env AnyCall accounts i w w' := by
  cases i with
  | preInitialize nonce => cases h
  | initialize1 nonce openTime => cases h
  | initialize2 init2 => exact absurd h processInitialize2_ne_ok
  | monitorStep monitor => exact processMonitorStep_changes h
  | deposit deposit => exact processDeposit_changes h
  | withdraw withdraw => exact processWithdraw_changes h
  | migrateToOpenBook => exact processMigrateToOpenbook_changes h
  | setParams setparams => exact (processSetParams_changes h).any
  | withdrawPnl => exact processWithdrawPnl_changes h
  | withdrawSrm withdrawsrm => exact processWithdrawSrm_changes h
  | swapBaseIn swap => exact processSwapBaseIn_changes h
  | swapBaseOut swap => exact processSwapBaseOut_changes h
  | simulateInfo simulate =>
    rw [processSimulateInfo_eq_ok h]
    exact .calls (P := AnyCall) .refl
  | adminCancelOrders cancel => exact processAdminCancelOrders_changes h
  | createConfigAccount => exact (processCreateConfig_changes h).any
  | updateConfigAccount configArgs => exact (processUpdateConfig_changes h).any
  | createToken2022Mint createMint => exact (processCreateToken2022Mint_changes h).any
  | updateHookWhitelist updateWhitelist => exact (processUpdateHookWhitelist_changes h).any
  | initializeExtraAccountMetaList initMeta =>
    exact (processInitializeExtraAccountMetaList_changes h).any
  | initializeHookWhitelist authority => exact (processInitializeHookWhitelist_changes h).any
  | updateWhitelistAuthority newAuthority => exact (processUpdateWhitelistAuthority_changes h).any

end Handlers

/-! ## 4. Runs -/

/-- An instruction of a run, with the clock that it finds. -/
structure InstructionCall where
  accounts : List AccountInfo
  instruction : AmmInstruction
  clock : Clock

/-- One instruction of a run: it starts without borrows, and one that fails changes nothing. -/
def Executes (env : Env) (programId : Pubkey) (w : World) (c : InstructionCall) (w' : World) :
    Prop :=
  match processInstruction env programId c.accounts c.instruction
    { w with clock := c.clock, borrowed := [] } with
  | .ok w₁ => w' = w₁
  | .error _ => w' = w

section Runs

variable {env : Env} {programId : Pubkey} {w w' : World}

/-- The instruction goes through. -/
def Succeeds (env : Env) (programId : Pubkey) (w : World) (c : InstructionCall) : Prop :=
  ∃ w', processInstruction env programId c.accounts c.instruction
    { w with clock := c.clock, borrowed := [] } = .ok w'

/-- An instruction of a run that does not go through changes nothing. -/
theorem Executes.eq_of_not_succeeds {c : InstructionCall} (h : Executes env programId w c w')
    (hfails : ¬Succeeds env programId w c) : w' = w := by
  unfold Executes at h
  split at h
  next w₁ hrun => exact absurd ⟨w₁, hrun⟩ hfails
  next => exact h

/-- One that goes through leaves its result. -/
theorem Executes.eq_of_ok {c : InstructionCall} {w₁ : World} (h : Executes env programId w c w')
    (hrun : processInstruction env programId c.accounts c.instruction
      { w with clock := c.clock, borrowed := [] } = .ok w₁) : w' = w₁ := by
  unfold Executes at h
  rw [hrun] at h
  exact h

/-- What one instruction of a run makes of a record. -/
theorem Executes.record {k : Pubkey} {c : InstructionCall} (hkeep : KeepsRecords env programId)
    (hk : OwnsRecord programId w.accounts k) (h : Executes env programId w c w') :
    (w'.accounts k).owner = programId ∧
      ((w'.accounts k).data = (w.accounts k).data ∨
        RecordChange c.accounts c.clock c.instruction k (w.accounts k).data
          (w'.accounts k).data) := by
  unfold Executes at h
  split at h
  next w₁ hrun =>
    subst h
    obtain ⟨writes, hafter, hwrites⟩ := processInstruction_changes hrun
    exact WritesAfterCalls.record (w := { w with clock := c.clock, borrowed := [] }) hkeep hk hafter
      hwrites
  next e hrun =>
    subst h
    exact ⟨hk.owner, .inl rfl⟩

/-- A pool record over one instruction of a run. -/
theorem Executes.amm {k : Pubkey} {c : InstructionCall} {amm : AmmInfo}
    (hkeep : KeepsRecords env programId) (hk : w.accounts k = ⟨programId, .amm amm⟩)
    (h : Executes env programId w c w') :
    ∃ amm', w'.accounts k = ⟨programId, .amm amm'⟩ ∧
      (amm' = amm ∨ AmmChange c.accounts c.clock k c.instruction amm amm') := by
  have howns : OwnsRecord programId w.accounts k := ⟨by rw [hk], by rw [hk]; rfl⟩
  obtain ⟨howner, hdata⟩ := h.record hkeep howns
  rw [hk] at hdata
  rcases hdata with hdata | hdata
  · exact ⟨amm, Account.eq_mk howner hdata, .inl rfl⟩
  · generalize hnew : (w'.accounts k).data = data at hdata
    cases hdata with
    | amm hchange => exact ⟨_, Account.eq_mk howner hnew, .inr hchange⟩

/-- A config record over one instruction of a run. -/
theorem Executes.config {k : Pubkey} {c : InstructionCall} {config : AmmConfig}
    (hkeep : KeepsRecords env programId) (hk : w.accounts k = ⟨programId, .config config⟩)
    (h : Executes env programId w c w') :
    ∃ config', w'.accounts k = ⟨programId, .config config'⟩ ∧
      (config' = config ∨ ConfigChange c.accounts k c.instruction config config') := by
  have howns : OwnsRecord programId w.accounts k := ⟨by rw [hk], by rw [hk]; rfl⟩
  obtain ⟨howner, hdata⟩ := h.record hkeep howns
  rw [hk] at hdata
  rcases hdata with hdata | hdata
  · exact ⟨config, Account.eq_mk howner hdata, .inl rfl⟩
  · generalize hnew : (w'.accounts k).data = data at hdata
    cases hdata with
    | config hchange => exact ⟨_, Account.eq_mk howner hnew, .inr hchange⟩

end Runs

end RaydiumAmm
