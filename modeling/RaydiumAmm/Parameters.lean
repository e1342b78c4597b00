import RaydiumAmm.Configuration
import RaydiumAmm.Creation
import RaydiumAmm.Lens
import RaydiumAmm.Reencoding

/-!
# Parameter updates

What the parameters of `SetParams` and of `UpdateConfigAccount` stand for: a field of the pool, of
its target orders or of the config, and the part of the request that is meant for it.

1. The fields;
2. `ActsAsLens`: the value is stored in the field of its parameter and nothing else changes;
3. `setParams_actsAsLens_iff`: the two arms of `process_set_params` without a body do so only where
   there is nothing to change;
4. `updateConfig_actsAsLens_iff`: `process_update_config` writes the canceller of the orders to the
   owner of the profit;
5. `parameter_update_stores_iff`: both.
-/

namespace RaydiumAmm

/-! ## 1. Fields -/

/-- A field of the pool record or of its target orders, and what a request carries for it. -/
inductive ParamField : Type 1 where
  | amm {α : Type} (field : Lens AmmInfo α) (given : SetParamsInstruction → Option α)
  | targetOrders {α : Type} (field : Lens TargetOrders α) (given : SetParamsInstruction → Option α)

def AmmInfo.poolOpenTimeField : Lens AmmInfo U64 where
  get amm := amm.stateData.poolOpenTime
  set amm v := { amm with stateData := { amm.stateData with poolOpenTime := v } }

def AmmInfo.orderbookToInitTimeField : Lens AmmInfo U64 where
  get amm := amm.stateData.orderbookToInitTime
  set amm v := { amm with stateData := { amm.stateData with orderbookToInitTime := v } }

/-- `last_order_numerator` and `last_order_denominator`. -/
def TargetOrders.lastOrderDistanceField : Lens TargetOrders LastOrderDistance where
  get t := ⟨t.lastOrderNumerator, t.lastOrderDenominator⟩
  set t d := { t with
    lastOrderNumerator := d.lastOrderNumerator
    lastOrderDenominator := d.lastOrderDenominator }

/-- The field that a parameter stands for. The rest stand for an action. -/
def AmmParams.field : AmmParams → Option ParamField
  | .status =>
    some <| .amm { get := AmmInfo.status, set amm v := { amm with status := v } } (·.value)
  | .state => some <| .amm { get := AmmInfo.state, set amm v := { amm with state := v } } (·.value)
  | .orderNum =>
    some <| .amm { get := AmmInfo.orderNum, set amm v := { amm with orderNum := v } } (·.value)
  | .depth => some <| .amm { get := AmmInfo.depth, set amm v := { amm with depth := v } } (·.value)
  | .amountWave =>
    some <| .amm { get := AmmInfo.amountWave, set amm v := { amm with amountWave := v } } (·.value)
  | .minPriceMultiplier =>
    some <| .amm
      { get := AmmInfo.minPriceMultiplier, set amm v := { amm with minPriceMultiplier := v } }
      (·.value)
  | .maxPriceMultiplier =>
    some <| .amm
      { get := AmmInfo.maxPriceMultiplier, set amm v := { amm with maxPriceMultiplier := v } }
      (·.value)
  | .minSize =>
    some <| .amm { get := AmmInfo.minSize, set amm v := { amm with minSize := v } } (·.value)
  | .volMaxCutRatio =>
    some <| .amm
      { get := AmmInfo.volMaxCutRatio, set amm v := { amm with volMaxCutRatio := v } } (·.value)
  | .fees => some <| .amm { get := AmmInfo.fees, set amm v := { amm with fees := v } } (·.fees)
  | .ammOwner =>
    some <| .amm { get := AmmInfo.ammOwner, set amm v := { amm with ammOwner := v } } (·.newPubkey)
  | .setOpenTime => some <| .amm AmmInfo.poolOpenTimeField (·.value)
  | .setSwitchTime => some <| .amm AmmInfo.orderbookToInitTimeField (·.value)
  | .lastOrderDistance =>
    some <| .targetOrders TargetOrders.lastOrderDistanceField (·.lastOrderDistance)
  | .initOrderDepth => none
  | .clearOpenTime => none
  | .seperate => none
  | .updateOpenOrder => none

def AmmConfig.pnlOwnerField : Lens AmmConfig Pubkey where
  get := AmmConfig.pnlOwner
  set config v := { config with pnlOwner := v }

def AmmConfig.cancelOwnerField : Lens AmmConfig Pubkey where
  get := AmmConfig.cancelOwner
  set config v := { config with cancelOwner := v }

def AmmConfig.createPoolFeeField : Lens AmmConfig U64 where
  get := AmmConfig.createPoolFee
  set config v := { config with createPoolFee := v }

/-! ## 2. Storing a value -/

/-- The accounts `acc'` are `acc` with the given value in the field, which lies in the pool record
    `amm` of `key` or in the target orders of that pool. -/
def ParamField.Stores (setparams : SetParamsInstruction) (key : Pubkey) (amm : AmmInfo)
    (acc acc' : Accounts) : ParamField → Prop
  | .amm field given => acc' = acc.setData key (.amm (field.put amm (given setparams)))
  | .targetOrders field given =>
    (given setparams = none ∧ acc' = acc) ∨
      ∃ v t, given setparams = some v ∧ (acc amm.targetOrders).data = .targetOrders t ∧
        acc' = acc.setData amm.targetOrders (.targetOrders (field.set t v))

def SetParamsInstruction.ActsAsLens (setparams : SetParamsInstruction)
    (accounts : List AccountInfo) (w w' : World) : Prop :=
  ∀ key amm param field, Leads accounts key → (w.accounts key).data = .amm amm →
    AmmParams.fromU8 setparams.param = .ok param → param.field = some field →
    field.Stores setparams key amm w.accounts w'.accounts

def ConfigArgs.ActsAsLens (configArgs : ConfigArgs) (accounts : List AccountInfo) (w w' : World) :
    Prop :=
  ∀ key config, Leads accounts key → (w.accounts key).data = .config config →
    (configArgs.param = 0 → w'.accounts =
      w.accounts.setData key (.config (AmmConfig.pnlOwnerField.put config configArgs.owner))) ∧
    (configArgs.param = 1 → w'.accounts =
      w.accounts.setData key (.config (AmmConfig.cancelOwnerField.put config configArgs.owner))) ∧
    (configArgs.param = 2 → w'.accounts =
      w.accounts.setData key
        (.config (AmmConfig.createPoolFeeField.put config configArgs.createPoolFee)))

/-- A parameter update stores its value in the field of its parameter and changes nothing else. -/
def AmmInstruction.ActsAsLens (accounts : List AccountInfo) (w w' : World) :
    AmmInstruction → Prop
  | .setParams setparams => setparams.ActsAsLens accounts w w'
  | .updateConfigAccount configArgs => configArgs.ActsAsLens accounts w w'
  | _ => True

section Accounts

variable {acc : Accounts} {key : Pubkey} {data data' : AccountData}

theorem Accounts.setData_inj : acc.setData key data = acc.setData key data' ↔ data = data' := by
  constructor
  · intro h
    have hkey := congrArg (fun a : Accounts => (a key).data) h
    simpa only [Accounts.setData, if_true] using hkey
  · rintro rfl
    rfl

theorem Accounts.setData_self (h : (acc key).data = data) : acc.setData key data = acc := by
  funext k
  rw [Accounts.setData]
  split
  next hk =>
    rw [hk, ← h]
  next => rfl

theorem Accounts.setData_eq_self_iff : acc.setData key data = acc ↔ (acc key).data = data := by
  constructor
  · intro h
    rw [← h, Accounts.setData, if_pos rfl]
  · exact Accounts.setData_self

end Accounts

/-! ## 3. `process_set_params` -/

/-- Where the arm of the parameter has no body, the value is stored already or there is none. -/
def SetParamsInstruction.Covered (setparams : SetParamsInstruction) (accounts : List AccountInfo)
    (w : World) : Prop :=
  ∀ key amm, Leads accounts key → (w.accounts key).data = .amm amm →
    (AmmParams.fromU8 setparams.param = .ok .setSwitchTime →
      ∀ v ∈ setparams.value, amm.stateData.orderbookToInitTime = v) ∧
    (AmmParams.fromU8 setparams.param = .ok .lastOrderDistance →
      ∀ d ∈ setparams.lastOrderDistance, ∃ t,
        (w.accounts amm.targetOrders).data = .targetOrders t ∧
          t.lastOrderNumerator = d.lastOrderNumerator ∧
          t.lastOrderDenominator = d.lastOrderDenominator)

section SetParams

variable {env : Env} {programId key : Pubkey} {accounts : List AccountInfo} {w w' : World}
  {setparams : SetParamsInstruction} {amm : AmmInfo} {param : AmmParams}

theorem setIfSome_eq_elim {α : Type} (set : α → AmmInfo) (o : Option α) :
    setIfSome amm set o = o.elim amm set := by
  cases o <;> rfl

/-- Every other arm for a field of the pool record is the write to that field. -/
theorem setParam_eq_put {α : Type} {field : Lens AmmInfo α}
    {given : SetParamsInstruction → Option α} (h : param.field = some (.amm field given))
    (hswitch : param ≠ .setSwitchTime) :
    setParam amm setparams param = field.put amm (given setparams) := by
  cases param with
  | setSwitchTime => exact absurd rfl hswitch
  | lastOrderDistance => cases h
  | initOrderDepth => cases h
  | clearOpenTime => cases h
  | seperate => cases h
  | updateOpenOrder => cases h
  | _ =>
    cases h
    exact setIfSome_eq_elim _ _

/-- Accounts that stay as they are hold the given distance exactly where it is there already. -/
theorem stores_self_iff {acc : Accounts} {field : ParamField}
    (hfield : AmmParams.field .lastOrderDistance = some field) :
    field.Stores setparams key amm acc acc ↔ ∀ d ∈ setparams.lastOrderDistance, ∃ t,
      (acc amm.targetOrders).data = .targetOrders t ∧
        t.lastOrderNumerator = d.lastOrderNumerator ∧
        t.lastOrderDenominator = d.lastOrderDenominator := by
  cases hfield
  constructor
  · rintro (⟨hgiven, -⟩ | ⟨v, t, hgiven, ht, hself⟩) d hd
    · cases hgiven.symm.trans hd
    · cases hgiven.symm.trans hd
      have hset := Accounts.setData_eq_self_iff.mp hself.symm
      rw [ht] at hset
      have hget := Lens.set_eq_self_iff.mp (AccountData.targetOrders.inj hset).symm
      exact ⟨t, ht, (LastOrderDistance.mk.inj hget).1, (LastOrderDistance.mk.inj hget).2⟩
  · intro h
    cases hgiven : setparams.lastOrderDistance with
    | none => exact .inl ⟨hgiven, rfl⟩
    | some d =>
      obtain ⟨t, ht, hnumerator, hdenominator⟩ := h d hgiven
      have hget : TargetOrders.lastOrderDistanceField.get t = d := by
        show LastOrderDistance.mk t.lastOrderNumerator t.lastOrderDenominator = d
        rw [hnumerator, hdenominator]
      refine .inr ⟨d, t, hgiven, ht, (Accounts.setData_self ?_).symm⟩
      rw [ht, Lens.set_eq_self_iff.mpr hget]

/-- What the update of one parameter leaves is what the lens of its field asks for, unless its arm
    has no body and there is something to store. -/
theorem stores_setParam_iff {field : ParamField} (hdata : (w.accounts key).data = .amm amm)
    (hfield : param.field = some field) :
    field.Stores setparams key amm w.accounts
        (w.accounts.setData key (.amm (setParam amm setparams param))) ↔
      (param = .setSwitchTime → ∀ v ∈ setparams.value, amm.stateData.orderbookToInitTime = v) ∧
      (param = .lastOrderDistance → ∀ d ∈ setparams.lastOrderDistance, ∃ t,
        (w.accounts amm.targetOrders).data = .targetOrders t ∧
          t.lastOrderNumerator = d.lastOrderNumerator ∧
          t.lastOrderDenominator = d.lastOrderDenominator) := by
  by_cases hswitch : param = .setSwitchTime
  · subst hswitch
    cases hfield
    simp only [ParamField.Stores, setParam, Accounts.setData_inj, AccountData.amm.injEq,
      reduceCtorEq, false_imp_iff, and_true, true_imp_iff]
    exact eq_comm.trans Lens.put_eq_self_iff
  by_cases hdistance : param = .lastOrderDistance
  · subst hdistance
    rw [show setParam amm setparams .lastOrderDistance = amm from rfl, Accounts.setData_self hdata,
      stores_self_iff hfield]
    simp only [reduceCtorEq, false_imp_iff, true_and, true_imp_iff]
  refine iff_of_true ?_ ⟨fun h => absurd h hswitch, fun h => absurd h hdistance⟩
  cases field with
  | amm field given =>
    rw [setParam_eq_put hfield hswitch]
    rfl
  | targetOrders field given =>
    cases param with
    | lastOrderDistance => exact absurd rfl hdistance
    | _ => cases hfield

/-- A parameter update that goes through acts as a lens on the field of its parameter exactly where
    it is covered. -/
theorem setParams_actsAsLens_iff
    (h : processSetParams env programId accounts setparams w = .ok w') :
    setparams.ActsAsLens accounts w w' ↔ setparams.Covered accounts w := by
  obtain ⟨key, amm, param, hleads, hdata, hparam, -, hw'⟩ := processSetParams_eq_ok h
  constructor
  · intro hlens key' amm' hleads' hdata'
    obtain rfl : key = key' := Option.some.inj (hleads.symm.trans hleads')
    obtain rfl : amm = amm' := AccountData.amm.inj (hdata.symm.trans hdata')
    rw [hparam]
    simp only [Except.ok.injEq]
    cases hfield : param.field with
    | none =>
      constructor
      · rintro rfl
        cases hfield
      · rintro rfl
        cases hfield
    | some field =>
      have hstores := hlens key amm param field hleads hdata hparam hfield
      rw [hw'] at hstores
      exact (stores_setParam_iff hdata hfield).mp hstores
  · intro hcovered key' amm' param' field hleads' hdata' hparam' hfield
    obtain rfl : key = key' := Option.some.inj (hleads.symm.trans hleads')
    obtain rfl : amm = amm' := AccountData.amm.inj (hdata.symm.trans hdata')
    obtain rfl : param = param' := Except.ok.inj (hparam.symm.trans hparam')
    have hcond := hcovered key amm hleads hdata
    rw [hparam] at hcond
    simp only [Except.ok.injEq] at hcond
    rw [hw']
    exact (stores_setParam_iff hdata hfield).mpr hcond

end SetParams

/-! ## 4. `process_update_config` -/

/-- A request for the canceller of the orders names the key that is owner and canceller already. -/
def ConfigArgs.Covered (configArgs : ConfigArgs) (accounts : List AccountInfo) (w : World) : Prop :=
  ∀ key config, Leads accounts key → (w.accounts key).data = .config config →
    configArgs.param = 1 → ∀ owner ∈ configArgs.owner,
      config.pnlOwner = owner ∧ config.cancelOwner = owner

/-- What the decoder makes of tag 15: an owner for the parameters 0 and 1, a fee for 2. -/
structure ConfigArgs.Decoded (configArgs : ConfigArgs) : Prop where
  owner : configArgs.param ≠ 2 → configArgs.owner.isSome ∧ configArgs.createPoolFee = none
  fee : configArgs.param = 2 → configArgs.owner = none

section Decoder

variable {rest data : List U8} {configArgs : ConfigArgs}

theorem decoded_of_unpackUpdateConfig
    (h : unpackUpdateConfig rest = .ok (.updateConfigAccount configArgs)) : configArgs.Decoded := by
  simp only [unpackUpdateConfig, Outcome.bind_eq_ok] at h
  obtain ⟨⟨param, bytes⟩, -, h⟩ := h
  rcases Outcome.ite_eq_ok.mp h with ⟨hparam, h⟩ | ⟨-, h⟩
  · rw [Outcome.bind_eq_ok] at h
    obtain ⟨owner, -, h⟩ := h
    cases h
    refine ⟨fun _ => ⟨rfl, rfl⟩, ?_⟩
    rintro rfl
    rcases hparam with hparam | hparam
    · cases hparam
    · cases hparam
  · rcases Outcome.ite_eq_ok.mp h with ⟨hparam, h⟩ | ⟨-, h⟩
    · rw [Outcome.bind_eq_ok] at h
      obtain ⟨⟨fee, tail⟩, -, h⟩ := h
      cases h
      exact ⟨fun hne => absurd hparam hne, fun _ => rfl⟩
    · cases h

theorem unpackSetParams_ne : unpackSetParams rest ≠ .ok (.updateConfigAccount configArgs) := by
  intro h
  simp only [unpackSetParams, Outcome.bind_eq_ok, Prod.exists] at h
  obtain ⟨param, bytes, -, named, -, h⟩ := h
  split at h
  all_goals
    simp only [Outcome.bind_eq_ok, Outcome.pure_eq_ok, reduceCtorEq, and_false, exists_const] at h

theorem unpackSimulateInfo_ne :
    unpackSimulateInfo rest ≠ .ok (.updateConfigAccount configArgs) := by
  intro h
  simp only [unpackSimulateInfo, Outcome.bind_eq_ok, Prod.exists] at h
  obtain ⟨param, bytes, -, named, -, h⟩ := h
  split at h
  all_goals
    simp only [Outcome.bind_eq_ok, Outcome.pure_eq_ok, reduceCtorEq, and_false, exists_const] at h

theorem unpackUpdateHookWhitelist_ne :
    unpackUpdateHookWhitelist rest ≠ .ok (.updateConfigAccount configArgs) := by
  intro h
  simp only [unpackUpdateHookWhitelist, Outcome.bind_eq_ok] at h
  obtain ⟨hook, -, bytes, -, h⟩ := h
  split at h
  · cases h
  · rcases Outcome.ite_eq_ok.mp h with ⟨-, h⟩ | ⟨-, h⟩
    · cases h
    · rcases Outcome.ite_eq_ok.mp h with ⟨-, h⟩ | ⟨-, h⟩
      · cases h
      · cases h

/-- No other tag decodes to an update of the config. -/
theorem decoded_of_unpack
    (h : AmmInstruction.unpack data = .ok (.updateConfigAccount configArgs)) :
    configArgs.Decoded := by
  cases data with
  | nil => exact absurd h Outcome.fail_ne_ok
  | cons tag rest =>
    dsimp only [AmmInstruction.unpack] at h
    split at h
    -- tag 15
    case h_16 => exact decoded_of_unpackUpdateConfig h
    all_goals
      simp only [unpackSetParams_ne, unpackSimulateInfo_ne, unpackUpdateHookWhitelist_ne,
        unpackCreateToken2022Mint, Outcome.bind_eq_ok, Outcome.ite_eq_ok, Outcome.pure_eq_ok,
        Outcome.fail_ne_ok, reduceCtorEq, and_false, or_false, exists_const] at h

end Decoder

section UpdateConfig

variable {programId : Pubkey} {accounts : List AccountInfo} {w w' : World}
  {configArgs : ConfigArgs}

/-- An update of a config, decoded from bytes, acts as a lens on the field of its parameter exactly
    where it is covered. -/
theorem updateConfig_actsAsLens_iff (hdecoded : configArgs.Decoded)
    (h : processUpdateConfig programId accounts configArgs w = .ok w') :
    configArgs.ActsAsLens accounts w w' ↔ configArgs.Covered accounts w := by
  obtain ⟨key, config, hleads, hdata, -, hw'⟩ := processUpdateConfig_eq_ok h
  obtain ⟨param, owner, createPoolFee⟩ := configArgs
  constructor
  · intro hlens key' config' hleads' hdata' hparam v hv
    cases hv
    obtain rfl : key = key' := Option.some.inj (hleads.symm.trans hleads')
    obtain rfl : config = config' := AccountData.config.inj (hdata.symm.trans hdata')
    have hcancel := (hlens key config hleads hdata).2.1 hparam
    have hfee : createPoolFee = none := (hdecoded.owner (by rw [hparam]; decide)).2
    subst hfee
    rw [hw', Accounts.setData_inj] at hcancel
    exact (Lens.set_eq_set_iff (l := AmmConfig.pnlOwnerField) (m := AmmConfig.cancelOwnerField)
      rfl).mp (AccountData.config.inj hcancel)
  · intro hcovered key' config' hleads' hdata'
    obtain rfl : key = key' := Option.some.inj (hleads.symm.trans hleads')
    obtain rfl : config = config' := AccountData.config.inj (hdata.symm.trans hdata')
    rw [hw']
    refine ⟨fun hparam => ?_, fun hparam => ?_, fun hparam => ?_⟩
    · obtain ⟨howner, hfee⟩ := hdecoded.owner (by rw [hparam]; decide)
      obtain ⟨v, hv⟩ := Option.isSome_iff_exists.mp howner
      cases hv
      cases hfee
      rfl
    · obtain ⟨howner, hfee⟩ := hdecoded.owner (by rw [hparam]; decide)
      obtain ⟨v, hv⟩ := Option.isSome_iff_exists.mp howner
      cases hv
      cases hfee
      rw [Accounts.setData_inj]
      exact congrArg AccountData.config ((Lens.set_eq_set_iff (l := AmmConfig.pnlOwnerField)
        (m := AmmConfig.cancelOwnerField) rfl).mpr (hcovered key config hleads hdata hparam v rfl))
    · have howner := hdecoded.fee hparam
      cases howner
      cases createPoolFee <;> rfl

end UpdateConfig

/-! ## 5. Both -/

/-- The condition on a request and on the world that it meets. -/
def AmmInstruction.Covered (accounts : List AccountInfo) (w : World) : AmmInstruction → Prop
  | .setParams setparams => setparams.Covered accounts w
  | .updateConfigAccount configArgs => configArgs.Covered accounts w
  | _ => True

/-- The updates in question: any `SetParams`, and an `UpdateConfigAccount` that was decoded. -/
inductive ParameterUpdate : AmmInstruction → Prop
  | setParams (setparams : SetParamsInstruction) : ParameterUpdate (.setParams setparams)
  | updateConfigAccount {data : List U8} {configArgs : ConfigArgs}
      (h : AmmInstruction.unpack data = .ok (.updateConfigAccount configArgs)) :
      ParameterUpdate (.updateConfigAccount configArgs)

/-- A parameter update that goes through stores its value in the field of its parameter and changes
    nothing else if and only if it does not meet an arm without a body, or the canceller of a config,
    with something to store. -/
theorem parameter_update_stores_iff {env : Env} {programId : Pubkey} {accounts : List AccountInfo}
    {i : AmmInstruction} {w w' : World} (hi : ParameterUpdate i)
    (h : processInstruction env programId accounts i w = .ok w') :
    i.ActsAsLens accounts w w' ↔ i.Covered accounts w := by
  cases hi with
  | setParams setparams => exact setParams_actsAsLens_iff h
  | updateConfigAccount hunpack => exact updateConfig_actsAsLens_iff (decoded_of_unpack hunpack) h

namespace Reference

/-- An update of the switch time to 5. -/
def setSwitchTime : SetParamsInstruction := ⟨14, some 5, none, none, none⟩

/-- The config of wallet 30, and the accounts of an update of it by that wallet. -/
def ownConfigWorld : World := configWorld (key 30)

def updateConfigInfos : List AccountInfo := [⟨configKey, false, true⟩, signer 30]

/-- The bytes of an update of a config that hands the key 31 over for a parameter. -/
def updateConfigData (param : U8) : List U8 := 15 :: param :: (key 31).toBytes

theorem unpack_updateConfigData (param : U8) (h : param = 0 ∨ param = 1) :
    AmmInstruction.unpack (updateConfigData param) =
      .ok (.updateConfigAccount ⟨param, some (key 31), none⟩) := by
  show unpackUpdateConfig (param :: (key 31).toBytes) = _
  simp only [unpackUpdateConfig, unpackU8_cons, Outcome.ok_bind, if_pos h, readKey_toBytes]
  rfl

end Reference

open Reference in
/-- The status of a new pool, and the owner of the profit in a config. -/
theorem parameter_update_stores_status :
    (∃ w', processInstruction env program setParamsInfos (.setParams (setStatus 6)) freshWorld =
        .ok w' ∧ (setStatus 6).ActsAsLens setParamsInfos freshWorld w') ∧
    ∃ w', processInstruction env program updateConfigInfos
        (.updateConfigAccount ⟨0, some (key 31), none⟩) ownConfigWorld = .ok w' ∧
      ConfigArgs.ActsAsLens ⟨0, some (key 31), none⟩ updateConfigInfos ownConfigWorld w' := by
  constructor
  · obtain ⟨w', hrun⟩ : ∃ w', processInstruction env program setParamsInfos
        (.setParams (setStatus 6)) freshWorld = .ok w' := Outcome.exists_of_isOk (by decide)
    refine ⟨w', hrun, (parameter_update_stores_iff (.setParams _) hrun).mpr ?_⟩
    rintro key amm - -
    exact ⟨nofun, nofun⟩
  · obtain ⟨w', hrun⟩ : ∃ w', processInstruction env program updateConfigInfos
        (.updateConfigAccount ⟨0, some (key 31), none⟩) ownConfigWorld = .ok w' :=
      Outcome.exists_of_isOk (by decide +kernel)
    refine ⟨w', hrun, (parameter_update_stores_iff
      (.updateConfigAccount (unpack_updateConfigData 0 (.inl rfl))) hrun).mpr ?_⟩
    rintro key config - - hparam
    cases hparam

open Reference in
/-- The switch time of a new pool stays 0 though the update to 5 reports success, and the update of
    the canceller of a config changes the owner of the profit. -/
theorem parameter_update_no_lens :
    (∃ w', processInstruction env program setParamsInfos (.setParams setSwitchTime) freshWorld =
        .ok w' ∧ ¬setSwitchTime.ActsAsLens setParamsInfos freshWorld w') ∧
    ∃ w', AmmInstruction.unpack (updateConfigData 1) =
        .ok (.updateConfigAccount ⟨1, some (key 31), none⟩) ∧
      processInstruction env program updateConfigInfos
        (.updateConfigAccount ⟨1, some (key 31), none⟩) ownConfigWorld = .ok w' ∧
      ¬ConfigArgs.ActsAsLens ⟨1, some (key 31), none⟩ updateConfigInfos ownConfigWorld w' := by
  constructor
  · obtain ⟨w', hrun⟩ : ∃ w', processInstruction env program setParamsInfos
        (.setParams setSwitchTime) freshWorld = .ok w' := Outcome.exists_of_isOk (by decide)
    refine ⟨w', hrun, fun hlens => ?_⟩
    have hcovered := (setParams_actsAsLens_iff hrun).mp hlens
    have htime := (hcovered (key 10) _ rfl rfl).1 rfl 5 rfl
    cases htime
  · obtain ⟨w', hrun⟩ : ∃ w', processInstruction env program updateConfigInfos
        (.updateConfigAccount ⟨1, some (key 31), none⟩) ownConfigWorld = .ok w' :=
      Outcome.exists_of_isOk (by decide +kernel)
    have hunpack := unpack_updateConfigData 1 (.inr rfl)
    refine ⟨w', hunpack, hrun, fun hlens => ?_⟩
    have hcovered := (updateConfig_actsAsLens_iff (decoded_of_unpack hunpack) hrun).mp hlens
    have howner := (hcovered configKey _ rfl
      (congrArg Account.data (configWorld_stored (key 30))) rfl (key 31) rfl).1
    cases howner

end RaydiumAmm
