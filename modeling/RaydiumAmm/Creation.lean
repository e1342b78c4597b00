import RaydiumAmm.InitialLp
import RaydiumAmm.Records

/-!
# Creation

What `process_initialize2` and `process_create_config` do to accounts that are in use.

1. The parts of `process_initialize2`, and the records that it has copied when it ends.
2. `initialize2_never_completes`: it ends at the second borrow of the pool account.
3. `create_once_iff`: which requests the two handlers refuse before they write, and what a run can
   make of a pool and of a config.
-/

namespace RaydiumAmm

/-! ## 1. The parts of a creation -/

/-- `process_initialize2` up to the first copy over the pool account. -/
def initializeAmm (env : Env) (programId : Pubkey) (a : InitializeAccounts)
    (init : InitializeInstruction2) (w : World) : Result World := do
  initializePrologue env programId a init
  let w ← w.tryBorrowMutData a.ammInfo.key
  copyAmm w programId a.ammInfo.key (initialAmmInfo a init 0)

/-- The next part, up to the copy over the target-orders account. -/
def initializeTarget (programId : Pubkey) (a : InitializeAccounts) (w : World) : Result World := do
  let targetOrders ← blankTargetOrders.checkInit 0 0 a.ammInfo.key
  let w ← w.tryBorrowMutData a.ammTargetOrdersInfo.key
  copyTargetOrders w programId a.ammTargetOrdersInfo.key targetOrders

/-- The call that mints the initial LP amount. -/
def initializeMintCpi (a : InitializeAccounts) (init : InitializeInstruction2) (lpAmount : U64) :
    Cpi where
  ix := .mintTo splTokenId a.ammLpMintInfo.key a.userTokenLpInfo.key a.ammAuthorityInfo.key
    lpAmount
  infos := [a.ammLpMintInfo, a.userTokenLpInfo, a.ammAuthorityInfo]
  seeds := [[AUTHORITY_AMM, [init.nonce]]]

/-- The last part: the LP amount, its mint, the second copy and the first transfers. -/
def initializeFunds (env : Env) (programId : Pubkey) (a : InitializeAccounts)
    (init : InitializeInstruction2) (w : World) : Result World := do
  let lpAmount ← initializeLpAmount init
  let w ← w.invoke env (initializeMintCpi a init lpAmount)
  let w ← w.tryBorrowMutData a.ammInfo.key
  let w ← copyAmm w programId a.ammInfo.key (initialAmmInfo a init lpAmount)
  let w ← w.invoke env {
    ix := .transfer splTokenId a.userTokenCoinInfo.key a.ammCoinVaultInfo.key
      a.userWalletInfo.key init.initCoinAmount
    infos := [a.userTokenCoinInfo, a.ammCoinVaultInfo, a.userWalletInfo]
    seeds := []
  }
  let w ← w.invoke env {
    ix := .transfer splTokenId a.userTokenPcInfo.key a.ammPcVaultInfo.key a.userWalletInfo.key
      init.initPcAmount
    infos := [a.userTokenPcInfo, a.ammPcVaultInfo, a.userWalletInfo]
    seeds := []
  }
  return { w with borrowed := [] }

/-- The accounts over which a creation has copied a record when it ends. -/
def initializeWritten (env : Env) (programId : Pubkey) (a : InitializeAccounts)
    (init : InitializeInstruction2) (w : World) : List Pubkey :=
  match initializeAmm env programId a init w with
  | .error _ => []
  | .ok w =>
    match initializeTarget programId a w with
    | .error _ => [a.ammInfo.key]
    | .ok _ => [a.ammInfo.key, a.ammTargetOrdersInfo.key]

section Parts

variable {env : Env} {programId : Pubkey} {a : InitializeAccounts} {init : InitializeInstruction2}
  {w w' : World}

/-- The parts in order are the handler. -/
theorem initializeBody_eq_parts :
    initializeBody env programId a init w = (do
      let w ← initializeAmm env programId a init w
      let w ← initializeTarget programId a w
      initializeFunds env programId a init w) := by
  simp only [initializeBody, initializeAmm, initializeTarget, initializeFunds, initializeLpAmount,
    initializeMintCpi, bind_assoc]

/-- The target-orders record of a new pool. -/
def initialTargetOrders (amm : Pubkey) : TargetOrders :=
  { blankTargetOrders with owner := amm }

/-- `check_init` looks at the record that was just built, so it never refuses. -/
theorem checkInit_blank (amm : Pubkey) :
    blankTargetOrders.checkInit 0 0 amm = .ok (initialTargetOrders amm) := rfl

/-- A pool record is copied exactly over an account of the program that can hold it. -/
theorem copyAmm_eq_ok {key : Pubkey} {amm : AmmInfo} :
    copyAmm w programId key amm = .ok w' ↔
      (∃ old, w.accounts key = ⟨programId, .amm old⟩) ∧
        w' = { w with accounts := w.accounts.setData key (.amm amm) } := by
  unfold copyAmm
  constructor
  · intro h
    cases hdata : (w.accounts key).data with
    | amm old =>
      simp only [hdata, World.writeData, Outcome.bind_eq_ok, Outcome.require_eq_ok,
        Outcome.pure_eq_ok] at h
      obtain ⟨-, howner, rfl⟩ := h
      exact ⟨⟨old, Account.eq_mk howner hdata⟩, rfl⟩
    | _ =>
      simp only [hdata] at h
      cases h
  · rintro ⟨⟨old, hstored⟩, rfl⟩
    simp only [hstored, World.writeData]
    rfl

/-- The first part goes through exactly where the checks pass and the pool account can hold the
    record. -/
theorem initializeAmm_eq_ok (hfree : a.ammInfo.key ∉ w.borrowed) :
    initializeAmm env programId a init w = .ok w' ↔
      initializePrologue env programId a init = .ok () ∧
      (∃ amm, w.accounts a.ammInfo.key = ⟨programId, .amm amm⟩) ∧
      w' = { w with
        accounts := w.accounts.setData a.ammInfo.key (.amm (initialAmmInfo a init 0))
        borrowed := a.ammInfo.key :: w.borrowed } := by
  simp only [initializeAmm, World.tryBorrowMutData, Outcome.bind_eq_ok, Outcome.require_eq_ok,
    Outcome.pure_eq_ok, copyAmm_eq_ok]
  constructor
  · rintro ⟨⟨⟩, hpro, w₁, ⟨-, -, rfl⟩, hstored, rfl⟩
    exact ⟨hpro, hstored, rfl⟩
  · rintro ⟨hpro, hstored, rfl⟩
    exact ⟨(), hpro, _, ⟨(), hfree, rfl⟩, hstored, rfl⟩

/-- The second part goes through where the target-orders account is free and can hold the
    record. -/
theorem initializeTarget_eq_ok {t : TargetOrders} (hfree : a.ammTargetOrdersInfo.key ∉ w.borrowed)
    (hstored : w.accounts a.ammTargetOrdersInfo.key = ⟨programId, .targetOrders t⟩) :
    initializeTarget programId a w = .ok { w with
      accounts := w.accounts.setData a.ammTargetOrdersInfo.key
        (.targetOrders (initialTargetOrders a.ammInfo.key))
      borrowed := a.ammTargetOrdersInfo.key :: w.borrowed } := by
  simp only [initializeTarget, checkInit_blank, Outcome.ok_bind, World.tryBorrowMutData]
  rw [Outcome.require_pos hfree]
  simp only [Outcome.ok_bind, copyTargetOrders, pure_bind, hstored, World.writeData]
  rfl

end Parts

/-! ## 2. The second borrow -/

section Stops

variable {env : Env} {programId : Pubkey} {a : InitializeAccounts} {init : InitializeInstruction2}
  {w : World}

/-- Where the mint goes through, the last part stops at its borrow of the pool account. -/
theorem initializeFunds_eq_fail (hborrowed : a.ammInfo.key ∈ w.borrowed)
    (hmint : ∀ lpAmount, initializeLpAmount init = .ok lpAmount →
      ∃ acc, env.invoke (initializeMintCpi a init lpAmount) w.accounts = .ok acc) :
    initializeFunds env programId a init w = Outcome.fail .accountBorrowFailed := by
  obtain ⟨lpAmount, hlpAmount, -⟩ := initializeLpAmount_eq_sqrt init
  obtain ⟨acc, hacc⟩ := hmint lpAmount hlpAmount
  rw [initializeFunds, hlpAmount, Outcome.ok_bind, World.invoke]
  -- the call itself is refused where it is handed a borrowed account
  by_cases hinfos : ∀ info ∈ (initializeMintCpi a init lpAmount).infos, info.key ∉ w.borrowed
  · rw [Outcome.require_pos hinfos, hacc]
    simp only [Outcome.ok_bind, Outcome.lift, pure_bind, World.tryBorrowMutData]
    rw [Outcome.require_neg (by simpa using hborrowed)]
    rfl
  · rw [Outcome.require_neg hinfos]
    rfl

/-- The accounts after the two copies of a creation. -/
def initializedAccounts (a : InitializeAccounts) (init : InitializeInstruction2) (acc : Accounts) :
    Accounts :=
  (acc.setData a.ammInfo.key (.amm (initialAmmInfo a init 0))).setData a.ammTargetOrdersInfo.key
    (.targetOrders (initialTargetOrders a.ammInfo.key))

/-- A request that passes the checks, with two free accounts of the right size. -/
structure InitializeReady (env : Env) (programId : Pubkey) (a : InitializeAccounts)
    (init : InitializeInstruction2) (w : World) : Prop where
  checks : initializePrologue env programId a init = .ok ()
  amm : ∃ amm, w.accounts a.ammInfo.key = ⟨programId, .amm amm⟩
  target : ∃ t, w.accounts a.ammTargetOrdersInfo.key = ⟨programId, .targetOrders t⟩
  freeAmm : a.ammInfo.key ∉ w.borrowed
  freeTarget : a.ammTargetOrdersInfo.key ∉ w.borrowed

/-- Such a request copies both records. -/
theorem InitializeReady.copies (h : InitializeReady env programId a init w) :
    ∃ w₁, initializeAmm env programId a init w = .ok w₁ ∧
      initializeTarget programId a w₁ = .ok { w with
        accounts := initializedAccounts a init w.accounts
        borrowed := a.ammTargetOrdersInfo.key :: a.ammInfo.key :: w.borrowed } := by
  obtain ⟨amm, hamm⟩ := h.amm
  obtain ⟨t, htarget⟩ := h.target
  have hne : a.ammTargetOrdersInfo.key ≠ a.ammInfo.key := by
    intro heq
    rw [heq, hamm] at htarget
    cases htarget
  refine ⟨_, (initializeAmm_eq_ok h.freeAmm).mpr ⟨h.checks, h.amm, rfl⟩, ?_⟩
  refine initializeTarget_eq_ok (t := t) ?_ ?_
  · simpa [hne] using h.freeTarget
  · simpa [Accounts.setData, hne] using htarget

/-- And it ends at the second borrow of the pool account. -/
theorem InitializeReady.stops (h : InitializeReady env programId a init w)
    (hmint : ∀ lpAmount, initializeLpAmount init = .ok lpAmount →
      ∃ acc, env.invoke (initializeMintCpi a init lpAmount)
        (initializedAccounts a init w.accounts) = .ok acc) :
    initializeBody env programId a init w = Outcome.fail .accountBorrowFailed := by
  obtain ⟨w₁, hamm, htarget⟩ := h.copies
  rw [initializeBody_eq_parts, hamm, Outcome.ok_bind, htarget, Outcome.ok_bind]
  exact initializeFunds_eq_fail (by simp) hmint

end Stops

/-- A creation never completes. A request that passes the checks, with two free accounts of the
    right size and a mint that goes through, fails at the second borrow of the pool account. -/
theorem initialize2_never_completes (env : Env) (programId : Pubkey) (accounts : List AccountInfo)
    (init : InitializeInstruction2) (w : World) :
    (∀ w', processInitialize2 env programId accounts init w ≠ .ok w') ∧
    ∀ a, bindInitialize accounts = .ok a → InitializeReady env programId a init w →
      (∀ lpAmount, initializeLpAmount init = .ok lpAmount →
        ∃ acc, env.invoke (initializeMintCpi a init lpAmount)
          (initializedAccounts a init w.accounts) = .ok acc) →
      processInitialize2 env programId accounts init w = Outcome.fail .accountBorrowFailed := by
  refine ⟨fun w' => processInitialize2_ne_ok, fun a hbind hready hmint => ?_⟩
  rw [processInitialize2, hbind, Outcome.ok_bind]
  exact hready.stops hmint

namespace Reference

/-- The accounts of a creation, in the order of the instruction. -/
def creationInfos : List AccountInfo := [
  writable 10, authorityInfo, writable 11, writable 12, writable 13, writable 14, writable 15,
  writable 16, writable 16, dexInfo, writable 17, writable 18, writable 19, writable 20,
  writable 21, writable 22, readonly 23, tokenProgramInfo, ⟨systemProgramId, false, false⟩,
  ⟨rentId, false, false⟩, signer 30, writable 31, writable 32, writable 33, readonly 40,
  readonly 41, writable 34, writable 35]

/-- A creation with 1000 coin and 4000 pc. -/
def creationRequest : InitializeInstruction2 := ⟨0, 0, 4000, 1000⟩

/-- The accounts of a pool that is not created yet. -/
def creationWorld : World := world [
  (10, ⟨program, .amm (pool .uninitialized 0)⟩),
  (12, ⟨program, .targetOrders blankTargetOrders⟩),
  (13, tokenAccount (key 40) authority 0),
  (14, tokenAccount (key 41) authority 0),
  (15, mintAccount 0),
  (31, tokenAccount (key 40) (key 30) 1000000),
  (32, tokenAccount (key 41) (key 30) 1000000),
  (33, tokenAccount (key 15) (key 30) 0)]

theorem initializeReady : InitializeReady env program creation creationRequest creationWorld where
  checks := rfl
  amm := ⟨_, rfl⟩
  target := ⟨_, rfl⟩
  freeAmm := List.not_mem_nil
  freeTarget := List.not_mem_nil

/-- A fresh mint takes any amount. -/
theorem mint_fresh (lpAmount : U64) :
    ∃ acc, env.invoke (initializeMintCpi creation creationRequest lpAmount)
      (initializedAccounts creation creationRequest creationWorld.accounts) = .ok acc := by
  have hadd : Checked.add (BitVec.ofNat 64 0) lpAmount = some lpAmount :=
    Checked.add_eq_some.mpr (by simp)
  have hmint : (initializedAccounts creation creationRequest creationWorld.accounts (key 15)).data =
      .mint { supply := BitVec.ofNat 64 0, decimals := 0 } := rfl
  have hdest : (initializedAccounts creation creationRequest creationWorld.accounts (key 33)).data =
      .token { mint := key 15, owner := key 30, amount := BitVec.ofNat 64 0 } := rfl
  have hrun : ∃ acc, mintTokens (initializedAccounts creation creationRequest
      creationWorld.accounts) (key 15) (key 33) lpAmount = some acc := by
    simp only [mintTokens, hmint, hdest, hadd]
    exact ⟨_, rfl⟩
  obtain ⟨acc, hacc⟩ := hrun
  refine ⟨acc, ?_⟩
  simp only [env, run, initializeMintCpi, if_true]
  rw [show creation.ammLpMintInfo.key = key 15 from rfl,
    show creation.userTokenLpInfo.key = key 33 from rfl, hacc]

end Reference

open Reference in
/-- A creation with 1000 coin and 4000 pc, on free accounts of the right size. -/
theorem initialize2_never_completes_first :
    InitializeReady env program creation creationRequest creationWorld ∧
      processInitialize2 env program creationInfos creationRequest creationWorld =
        Outcome.fail .accountBorrowFailed :=
  ⟨initializeReady, (initialize2_never_completes env program creationInfos creationRequest
    creationWorld).2 creation rfl initializeReady fun lpAmount _ => mint_fresh lpAmount⟩

open Reference in
/-- So the request does not return the record with the LP amount that it minted. -/
theorem initialize2_not_completed :
    ¬∀ (env : Env) (programId : Pubkey) (accounts : List AccountInfo)
      (init : InitializeInstruction2) (w : World) (a : InitializeAccounts),
      bindInitialize accounts = .ok a → InitializeReady env programId a init w →
      (∀ c acc, ∃ acc', env.invoke c acc = .ok acc') →
      ∃ w', processInitialize2 env programId accounts init w = .ok w' := by
  intro h
  obtain ⟨w', hw'⟩ := h { env with invoke := fun _ acc => .ok acc } program creationInfos
    creationRequest creationWorld creation rfl
    ⟨rfl, ⟨_, rfl⟩, ⟨_, rfl⟩, List.not_mem_nil, List.not_mem_nil⟩ fun _ acc => ⟨acc, rfl⟩
  exact processInitialize2_ne_ok hw'

/-! ## 3. Accounts in use -/

section Written

variable {env : Env} {programId : Pubkey} {a : InitializeAccounts} {init : InitializeInstruction2}
  {w : World}

/-- A creation writes the pool account exactly where its checks pass. Neither the stored status nor
    the stored owner of the target orders is among them. -/
theorem mem_initializeWritten_amm {amm : AmmInfo} (hfree : a.ammInfo.key ∉ w.borrowed)
    (hstored : w.accounts a.ammInfo.key = ⟨programId, .amm amm⟩) :
    a.ammInfo.key ∈ initializeWritten env programId a init w ↔
      initializePrologue env programId a init = .ok () := by
  unfold initializeWritten
  cases hamm : initializeAmm env programId a init w with
  | error e =>
    refine iff_of_false List.not_mem_nil fun hchecks => ?_
    rw [(initializeAmm_eq_ok hfree).mpr ⟨hchecks, ⟨amm, hstored⟩, rfl⟩] at hamm
    cases hamm
  | ok w₁ =>
    refine iff_of_true ?_ ((initializeAmm_eq_ok hfree).mp hamm).1
    dsimp only
    split <;> simp

/-- And it writes the target-orders account exactly where it has written the pool account. -/
theorem mem_initializeWritten_target {t : TargetOrders} (hfree : a.ammInfo.key ∉ w.borrowed)
    (hfreeTarget : a.ammTargetOrdersInfo.key ∉ w.borrowed)
    (hstored : w.accounts a.ammTargetOrdersInfo.key = ⟨programId, .targetOrders t⟩) :
    a.ammTargetOrdersInfo.key ∈ initializeWritten env programId a init w ↔
      initializePrologue env programId a init = .ok () ∧
        ∃ amm, w.accounts a.ammInfo.key = ⟨programId, .amm amm⟩ := by
  by_cases hready : initializePrologue env programId a init = .ok () ∧
      ∃ amm, w.accounts a.ammInfo.key = ⟨programId, .amm amm⟩
  · refine iff_of_true ?_ hready
    obtain ⟨w₁, hamm, htarget⟩ := InitializeReady.copies
      ⟨hready.1, hready.2, ⟨t, hstored⟩, hfree, hfreeTarget⟩
    simp [initializeWritten, hamm, htarget]
  · refine iff_of_false ?_ hready
    cases hamm : initializeAmm env programId a init w with
    | error e => simp [initializeWritten, hamm]
    | ok w₁ =>
      obtain ⟨hchecks, hstoredAmm, -⟩ := (initializeAmm_eq_ok hfree).mp hamm
      exact absurd ⟨hchecks, hstoredAmm⟩ hready

end Written

/-- The checks of `process_create_config`. The content of the config account is not among them. -/
def CreateConfigAdmits (env : Env) (programId : Pubkey) (accounts : List AccountInfo) : Prop :=
  ∃ config user systemProgram rent rest,
    accounts = config :: user :: systemProgram :: rent :: rest ∧ user.isSigner = true ∧
      systemProgram.key = systemProgramId ∧ rent.key = rentId ∧
      config.key = (getAssociatedAddressAndBumpSeed env user.key user.key AMM_CONFIG_SEED
        programId).1

section Config

variable {env : Env} {programId k : Pubkey} {accounts : List AccountInfo} {w w' : World}

theorem CreateConfigAdmits.of_eq_ok
    (h : processCreateConfig env programId accounts w = .ok w') :
    CreateConfigAdmits env programId accounts := by
  simp only [processCreateConfig, Outcome.bind_eq_ok, check_eq_ok] at h
  obtain ⟨⟨config, user, systemProgram, rent⟩, hbind, -, hsigner, -, hsystem, -, hrent, -, haddress,
    -⟩ := h
  obtain _ | ⟨x, _ | ⟨y, rest⟩⟩ := accounts
  · cases hbind
  · cases hbind
  · obtain _ | ⟨u, _ | ⟨v, rest⟩⟩ := rest
    · cases hbind
    · cases hbind
    · cases hbind
      exact ⟨_, _, _, _, rest, rfl, hsigner, hsystem, hrent, haddress⟩

/-- A request that the checks admit makes the signer the owner, whoever was. -/
theorem processCreateConfig_of_admits {info user systemProgram rent : AccountInfo}
    {rest : List AccountInfo} {config : AmmConfig} (hsigner : user.isSigner = true)
    (hsystem : systemProgram.key = systemProgramId) (hrent : rent.key = rentId)
    (haddress : info.key = (getAssociatedAddressAndBumpSeed env user.key user.key AMM_CONFIG_SEED
      programId).1)
    (hfree : info.key ∉ w.borrowed) (hstored : w.accounts info.key = ⟨programId, .config config⟩) :
    processCreateConfig env programId (info :: user :: systemProgram :: rent :: rest) w =
      .ok { w with
        accounts := w.accounts.setData info.key (.config ⟨user.key, Pubkey.default, 0⟩) } := by
  have hbind : Binder.bindAll (do
      let configInfo ← nextAccountInfo
      let userWalletInfo ← nextAccountInfo
      let systemProgramInfo ← nextAccountInfo
      let rentInfo ← nextAccountInfo
      return (configInfo, userWalletInfo, systemProgramInfo, rentInfo))
      (info :: user :: systemProgram :: rent :: rest) =
        .ok (info, user, systemProgram, rent) := rfl
  simp only [processCreateConfig, hbind, Outcome.ok_bind, check, hsigner, hsystem, hrent,
    ← haddress, hstored, World.writeData]
  rw [Outcome.require_pos hfree]
  rfl

/-- A config account that is in use is overwritten exactly where the checks admit the request. -/
theorem processCreateConfig_isOk_iff {config : AmmConfig} (hleads : Leads accounts k)
    (hfree : k ∉ w.borrowed) (hstored : w.accounts k = ⟨programId, .config config⟩) :
    (∃ w', processCreateConfig env programId accounts w = .ok w') ↔
      CreateConfigAdmits env programId accounts := by
  constructor
  · rintro ⟨w', h⟩
    exact .of_eq_ok h
  · rintro ⟨info, user, systemProgram, rent, rest, rfl, hsigner, hsystem, hrent, haddress⟩
    obtain rfl : info.key = k := Option.some.inj hleads
    exact ⟨_, processCreateConfig_of_admits hsigner hsystem hrent haddress hfree hstored⟩

end Config

/-! ## 4. Runs -/

/-- One instruction of a run on the pool record of `k`: the vaults stay, the owner changes by a
    parameter update that the owner signed, and the LP amount by a deposit or a withdraw. -/
def PoolKept (programId k : Pubkey) (w : World) (c : InstructionCall) (w' : World) : Prop :=
  ∀ amm, w.accounts k = ⟨programId, .amm amm⟩ → ∃ amm', w'.accounts k = ⟨programId, .amm amm'⟩ ∧
    (amm'.coinVault = amm.coinVault ∧ amm'.pcVault = amm.pcVault) ∧
    (amm'.ammOwner ≠ amm.ammOwner →
      (∃ setparams, c.instruction = .setParams setparams) ∧ Signed c.accounts amm.ammOwner) ∧
    (amm'.lpAmount ≠ amm.lpAmount →
      (∃ deposit, c.instruction = .deposit deposit) ∨
        ∃ withdraw, c.instruction = .withdraw withdraw)

/-- One instruction of a run on the config record of `k`: the owner changes by an update that the
    owner signed. -/
def ConfigKept (programId k : Pubkey) (w : World) (c : InstructionCall) (w' : World) : Prop :=
  ∀ config, w.accounts k = ⟨programId, .config config⟩ →
    ∃ config', w'.accounts k = ⟨programId, .config config'⟩ ∧
      (config'.pnlOwner ≠ config.pnlOwner →
        (∃ configArgs, c.instruction = .updateConfigAccount configArgs) ∧
          Signed c.accounts config.pnlOwner)

/-- A creation of the config `k` is refused by one of its checks. -/
def InstructionCall.RefusesConfig (env : Env) (programId k : Pubkey) (c : InstructionCall) : Prop :=
  c.instruction = .createConfigAccount → Leads c.accounts k →
    ¬CreateConfigAdmits env programId c.accounts

section Runs

variable {env : Env} {programId k : Pubkey} {w w' : World} {c : InstructionCall}

theorem swapStatusGate_keeps {amm amm' : AmmInfo} {clock : Clock}
    (h : swapStatusGate amm clock = .ok amm') :
    (amm'.coinVault = amm.coinVault ∧ amm'.pcVault = amm.pcVault) ∧
      amm'.ammOwner = amm.ammOwner ∧ amm'.lpAmount = amm.lpAmount := by
  obtain ⟨status, rfl, -⟩ := swapStatusGate_eq_ok h
  exact ⟨⟨rfl, rfl⟩, rfl, rfl⟩

/-- A parameter update reaches the owner, and neither the vaults nor the LP amount. -/
theorem setParam_keeps (amm : AmmInfo) (setparams : SetParamsInstruction) (param : AmmParams) :
    ((setParam amm setparams param).coinVault = amm.coinVault ∧
      (setParam amm setparams param).pcVault = amm.pcVault) ∧
      (setParam amm setparams param).lpAmount = amm.lpAmount := by
  have hset : ∀ {α : Type} (set : α → AmmInfo) (o : Option α),
      (∀ v, ((set v).coinVault = amm.coinVault ∧ (set v).pcVault = amm.pcVault) ∧
        (set v).lpAmount = amm.lpAmount) →
      ((setIfSome amm set o).coinVault = amm.coinVault ∧
        (setIfSome amm set o).pcVault = amm.pcVault) ∧
        (setIfSome amm set o).lpAmount = amm.lpAmount := by
    intro α set o h
    cases o with
    | none => exact ⟨⟨rfl, rfl⟩, rfl⟩
    | some v => exact h v
  cases param with
  | clearOpenTime => exact ⟨⟨rfl, rfl⟩, rfl⟩
  | lastOrderDistance => exact ⟨⟨rfl, rfl⟩, rfl⟩
  | initOrderDepth => exact ⟨⟨rfl, rfl⟩, rfl⟩
  | setSwitchTime => exact ⟨⟨rfl, rfl⟩, rfl⟩
  | seperate => exact ⟨⟨rfl, rfl⟩, rfl⟩
  | updateOpenOrder => exact ⟨⟨rfl, rfl⟩, rfl⟩
  | _ => exact hset _ _ fun v => ⟨⟨rfl, rfl⟩, rfl⟩

theorem Executes.poolKept (hkeep : KeepsRecords env programId)
    (h : Executes env programId w c w') : PoolKept programId k w c w' := by
  intro amm hstored
  obtain ⟨amm', hstored', hchange⟩ := h.amm hkeep hstored
  refine ⟨amm', hstored', ?_⟩
  rcases hchange with rfl | hchange
  · exact ⟨⟨rfl, rfl⟩, fun hne => absurd rfl hne, fun hne => absurd rfl hne⟩
  · generalize hi : c.instruction = i at hchange
    cases hchange with
    | swapBaseIn hgate =>
      obtain ⟨hvaults, howner, hlp⟩ := swapStatusGate_keeps hgate
      exact ⟨hvaults, fun hne => absurd howner hne, fun hne => absurd hlp hne⟩
    | swapBaseOut hgate =>
      obtain ⟨hvaults, howner, hlp⟩ := swapStatusGate_keeps hgate
      exact ⟨hvaults, fun hne => absurd howner hne, fun hne => absurd hlp hne⟩
    | deposit => exact ⟨⟨rfl, rfl⟩, fun hne => absurd rfl hne, fun _ => .inl ⟨_, rfl⟩⟩
    | withdraw => exact ⟨⟨rfl, rfl⟩, fun hne => absurd rfl hne, fun _ => .inr ⟨_, rfl⟩⟩
    | @setParams setparams _ param _ _ hsigned =>
      obtain ⟨hvaults, hlp⟩ := setParam_keeps amm setparams param
      exact ⟨hvaults, fun _ => ⟨⟨_, rfl⟩, hsigned⟩, fun hne => absurd hlp hne⟩
    | _ => exact ⟨⟨rfl, rfl⟩, fun hne => absurd rfl hne, fun hne => absurd rfl hne⟩

theorem Executes.configKept (hkeep : KeepsRecords env programId)
    (h : Executes env programId w c w') (hrefuses : c.RefusesConfig env programId k) :
    ConfigKept programId k w c w' := by
  intro config hstored
  obtain ⟨config', hstored', hchange⟩ := h.config hkeep hstored
  refine ⟨config', hstored', fun hne => ?_⟩
  rcases hchange with rfl | hchange
  · exact absurd rfl hne
  · generalize hi : c.instruction = i at hchange
    cases hchange with
    | update hsigned => exact ⟨⟨_, rfl⟩, hsigned⟩
    | create hleads =>
      -- a creation that the checks refuse changes nothing
      unfold Executes at h
      rw [hi] at h
      split at h
      next w₁ hrun => exact absurd (CreateConfigAdmits.of_eq_ok hrun) (hrefuses hi hleads)
      next =>
        rw [h, hstored] at hstored'
        cases hstored'
        exact absurd rfl hne

end Runs

/-- Accounts in use. (1) A creation of a pool over accounts that hold records ends with an error;
    it leaves them unwritten exactly where its checks refuse it, or for the target orders where
    the pool account is of the wrong kind. (2) A creation of a config over one that holds a record
    ends with an error exactly where its checks refuse it. (3) Over every run the pool record keeps
    its vaults, and its owner and LP amount change only as `PoolKept` says; over a run whose
    creations of the config are refused, its owner changes only as `ConfigKept` says. -/
theorem create_once_iff {env : Env} {programId : Pubkey} (hkeep : KeepsRecords env programId) :
    (∀ accounts init w a, bindInitialize accounts = .ok a → w.borrowed = [] →
      (∀ amm, w.accounts a.ammInfo.key = ⟨programId, .amm amm⟩ →
        ((∃ e, processInitialize2 env programId accounts init w = .error e) ∧
            a.ammInfo.key ∉ initializeWritten env programId a init w ↔
          initializePrologue env programId a init ≠ .ok ())) ∧
      ∀ t, w.accounts a.ammTargetOrdersInfo.key = ⟨programId, .targetOrders t⟩ →
        ((∃ e, processInitialize2 env programId accounts init w = .error e) ∧
            a.ammTargetOrdersInfo.key ∉ initializeWritten env programId a init w ↔
          ¬(initializePrologue env programId a init = .ok () ∧
            ∃ amm, w.accounts a.ammInfo.key = ⟨programId, .amm amm⟩))) ∧
    (∀ k accounts w config, Leads accounts k → w.borrowed = [] →
      w.accounts k = ⟨programId, .config config⟩ →
      ((∃ e, processCreateConfig env programId accounts w = .error e) ↔
        ¬CreateConfigAdmits env programId accounts)) ∧
    ∀ k w calls w', Runs.Run (Executes env programId) w calls w' →
      Runs.Run (fun w c w' => Executes env programId w c w' ∧ PoolKept programId k w c w')
        w calls w' ∧
      (∀ amm, w.accounts k = ⟨programId, .amm amm⟩ →
        ∃ amm', w'.accounts k = ⟨programId, .amm amm'⟩ ∧
          amm'.coinVault = amm.coinVault ∧ amm'.pcVault = amm.pcVault) ∧
      ((∀ c ∈ calls, c.RefusesConfig env programId k) →
        Runs.Run (fun w c w' => Executes env programId w c w' ∧ ConfigKept programId k w c w')
          w calls w') := by
  refine ⟨fun accounts init w a hbind hfree => ?_, fun k accounts w config hleads hfree hstored =>
    ?_, fun k w calls w' hrun => ?_⟩
  · have herror : ∃ e, processInitialize2 env programId accounts init w = .error e := by
      cases h : processInitialize2 env programId accounts init w with
      | error e => exact ⟨e, rfl⟩
      | ok w' => exact absurd h processInitialize2_ne_ok
    refine ⟨fun amm hstored => ?_, fun t hstored => ?_⟩
    · rw [mem_initializeWritten_amm (by rw [hfree]; exact List.not_mem_nil) hstored]
      exact and_iff_right herror
    · rw [mem_initializeWritten_target (by rw [hfree]; exact List.not_mem_nil)
        (by rw [hfree]; exact List.not_mem_nil) hstored]
      exact and_iff_right herror
  · rw [← processCreateConfig_isOk_iff hleads (by rw [hfree]; exact List.not_mem_nil) hstored]
    cases h : processCreateConfig env programId accounts w with
    | error e => exact iff_of_true ⟨e, rfl⟩ (by rintro ⟨w', hw'⟩; cases hw')
    | ok w' => exact iff_of_false (by rintro ⟨e, he⟩; cases he) fun hnot => hnot ⟨w', rfl⟩
  · refine ⟨hrun.mono fun w c w' hstep => ⟨hstep, hstep.poolKept hkeep⟩, fun amm hstored => ?_,
      fun hrefuses => ?_⟩
    · refine hrun.inv (I := fun w' => ∃ amm', w'.accounts k = ⟨programId, .amm amm'⟩ ∧
        amm'.coinVault = amm.coinVault ∧ amm'.pcVault = amm.pcVault) ?_ ⟨amm, hstored, rfl, rfl⟩
      rintro w₁ c w₂ hstep ⟨amm₁, hstored₁, hcoin, hpc⟩
      obtain ⟨amm₂, hstored₂, hvaults, -⟩ := hstep.poolKept hkeep amm₁ hstored₁
      exact ⟨amm₂, hstored₂, hvaults.1.trans hcoin, hvaults.2.trans hpc⟩
    · refine (hrun.restrict hrefuses).mono ?_
      rintro w₁ c w₂ ⟨hstep, hrefused⟩
      exact ⟨hstep, hstep.configKept hkeep hrefused⟩

namespace Reference

/-- The address of the config that wallet 30 created. -/
def configKey : Pubkey :=
  (getAssociatedAddressAndBumpSeed env (key 30) (key 30) AMM_CONFIG_SEED program).1

/-- That config after its owner has handed it to `owner`. -/
def configWorld (owner : Pubkey) : World where
  accounts k := if k = configKey then ⟨program, .config ⟨owner, Pubkey.default, 0⟩⟩ else default
  clock := ⟨0, 0⟩
  borrowed := []
  inner := []

theorem configWorld_stored (owner : Pubkey) :
    (configWorld owner).accounts configKey = ⟨program, .config ⟨owner, Pubkey.default, 0⟩⟩ := by
  simp only [configWorld, if_true]

/-- The accounts of a creation of this config by a wallet. -/
def createConfigInfos (wallet : Nat) : List AccountInfo :=
  [⟨configKey, false, true⟩, signer wallet, ⟨systemProgramId, false, false⟩,
    ⟨rentId, false, false⟩]

end Reference

open Reference in
/-- Another wallet cannot create the config again. -/
theorem create_once_iff_other_wallet :
    ∃ e, processCreateConfig env program (createConfigInfos 31) (configWorld (key 31)) =
      .error e := by
  refine ((create_once_iff (keepsRecords program)).2.1 configKey (createConfigInfos 31) _ _ rfl rfl
    (configWorld_stored _)).mpr ?_
  rintro ⟨config, user, systemProgram, rent, rest, heq, -, -, -, haddress⟩
  simp only [createConfigInfos, List.cons.injEq] at heq
  obtain ⟨rfl, rfl, -⟩ := heq
  revert haddress
  decide +kernel

open Reference in
/-- The creator takes back a config that was handed to wallet 31. -/
theorem createConfig_takes_back :
    ∃ w', processCreateConfig env program (createConfigInfos 30) (configWorld (key 31)) = .ok w' ∧
      (configWorld (key 31)).accounts configKey =
        ⟨program, .config ⟨key 31, Pubkey.default, 0⟩⟩ ∧ key 31 ≠ Pubkey.default ∧
      w'.accounts configKey = ⟨program, .config ⟨key 30, Pubkey.default, 0⟩⟩ := by
  have hrun : processCreateConfig env program (createConfigInfos 30) (configWorld (key 31)) =
      .ok _ :=
    processCreateConfig_of_admits rfl rfl rfl rfl List.not_mem_nil (configWorld_stored _)
  refine ⟨_, hrun, configWorld_stored _, by decide, ?_⟩
  simp only [Accounts.setData, if_true, configWorld_stored]
  rfl

end RaydiumAmm
