import RaydiumAmm.Image
import RaydiumAmm.RayLog
import RaydiumAmm.Reencoding
import RaydiumAmm.Reference

/-!
# The records as the bytes of their accounts

`AmmInfo`, `TargetOrders` and `AmmConfig` are `repr(C, packed)`: their fields lie in the account one
after another, words with the least significant byte first, and a handler reads and writes them in
place. What no handler reads (paddings, the planned orders) lies between them.

1. The images of the three records: 752, 2208 and 544 bytes, each input of that length being the
   image of one record and one filling.
2. The loaders and the writes of a `RefMut` on raw accounts.
3. They agree with the loaders on decoded accounts, over every run of accesses.
-/

namespace RaydiumAmm

open Codec (FixedWidth)

/-! ## 1. Images -/

theorem u64Format_exact : u64Format.Exact := FixedWidth.exact_word rfl

theorem u128Format_exact : u128Format.Exact := FixedWidth.exact_word rfl

theorem pubkeyFormat_exact : pubkeyFormat.Exact := by
  intro b hb
  show (Pubkey.ofBytes (b.take 32)).toBytes = b
  have hlen : b.length = 32 := hb
  rw [List.take_of_length_le hlen.le, Pubkey.toBytes_ofBytes hlen]

/-- `Fees`, eight words. -/
def Fees.format : FixedWidth Fees :=
  FixedWidth.record
    (u64Format.prod <| u64Format.prod <| u64Format.prod <| u64Format.prod <| u64Format.prod <|
      u64Format.prod <| u64Format.prod u64Format)
    (fun (a, b, c, d, e, f, g, h) => ⟨a, b, c, d, e, f, g, h⟩)
    (fun f => (f.minSeparateNumerator, f.minSeparateDenominator, f.tradeFeeNumerator,
      f.tradeFeeDenominator, f.pnlNumerator, f.pnlDenominator, f.swapFeeNumerator,
      f.swapFeeDenominator))
    fun _ => rfl

theorem Fees.format_exact : Fees.format.Exact :=
  have h := u64Format_exact
  FixedWidth.Exact.record (h.prod <| h.prod <| h.prod <| h.prod <| h.prod <| h.prod <| h.prod h) _
    fun _ => rfl

/-- `StateData` with its padding. -/
def StateData.format : FixedWidth (StateData × Vector U64 2) :=
  FixedWidth.record
    (u64Format.prod <| u64Format.prod <| u64Format.prod <| u64Format.prod <| u64Format.prod <|
      (u64Format.array 2).prod <| u64Format.prod <| u128Format.prod <| u128Format.prod <|
      u64Format.prod <| u128Format.prod <| u128Format.prod u64Format)
    (fun (a, b, c, d, e, padding, f, g, h, i, j, k, l) =>
      (⟨a, b, c, d, e, f, g, h, i, j, k, l⟩, padding))
    (fun (s, padding) => (s.needTakePnlCoin, s.needTakePnlPc, s.totalPnlPc, s.totalPnlCoin,
      s.poolOpenTime, padding, s.orderbookToInitTime, s.swapCoinInAmount, s.swapPcOutAmount,
      s.swapAccPcFee, s.swapPcInAmount, s.swapCoinOutAmount, s.swapAccCoinFee))
    fun _ => rfl

theorem StateData.format_exact : StateData.format.Exact :=
  have h := u64Format_exact
  have h' := u128Format_exact
  FixedWidth.Exact.record (h.prod <| h.prod <| h.prod <| h.prod <| h.prod <| (h.array 2).prod <|
    h.prod <| h'.prod <| h'.prod <| h.prod <| h'.prod <| h'.prod h) _ fun _ => rfl

/-- The paddings of `AmmInfo`. -/
structure AmmInfo.Padding where
  stateData : Vector U64 2
  padding1 : Vector U64 8
  padding2 : U64

/-- The sixteen words at the head of `AmmInfo`. -/
def wordsFormat : FixedWidth
    (U64 × U64 × U64 × U64 × U64 × U64 × U64 × U64 × U64 × U64 × U64 × U64 × U64 × U64 × U64 ×
      U64) :=
  u64Format.prod <| u64Format.prod <| u64Format.prod <| u64Format.prod <| u64Format.prod <|
    u64Format.prod <| u64Format.prod <| u64Format.prod <| u64Format.prod <| u64Format.prod <|
    u64Format.prod <| u64Format.prod <| u64Format.prod <| u64Format.prod <| u64Format.prod u64Format

/-- The nine keys of `AmmInfo` in a row. -/
def keysFormat : FixedWidth
    (Pubkey × Pubkey × Pubkey × Pubkey × Pubkey × Pubkey × Pubkey × Pubkey × Pubkey) :=
  pubkeyFormat.prod <| pubkeyFormat.prod <| pubkeyFormat.prod <| pubkeyFormat.prod <|
    pubkeyFormat.prod <| pubkeyFormat.prod <| pubkeyFormat.prod <| pubkeyFormat.prod pubkeyFormat

theorem wordsFormat_exact : wordsFormat.Exact :=
  have h := u64Format_exact
  h.prod <| h.prod <| h.prod <| h.prod <| h.prod <| h.prod <| h.prod <| h.prod <| h.prod <|
    h.prod <| h.prod <| h.prod <| h.prod <| h.prod <| h.prod h

theorem keysFormat_exact : keysFormat.Exact :=
  have h := pubkeyFormat_exact
  h.prod <| h.prod <| h.prod <| h.prod <| h.prod <| h.prod <| h.prod <| h.prod h

/-- `AmmInfo` with its paddings. -/
def AmmInfo.format : FixedWidth (AmmInfo × AmmInfo.Padding) :=
  FixedWidth.record
    (wordsFormat.prod <| Fees.format.prod <| StateData.format.prod <| keysFormat.prod <|
      (u64Format.array 8).prod <| pubkeyFormat.prod <| u64Format.prod <| u64Format.prod <|
      u64Format.prod u64Format)
    (fun ((a, b, c, d, e, f, g, h, i, j, k, l, m, n, o, p), fees, (stateData, padding),
        (q, r, s, t, u, v, w, x, y), padding1, ammOwner, lpAmount, clientOrderId, recentEpoch,
        padding2) =>
      (⟨a, b, c, d, e, f, g, h, i, j, k, l, m, n, o, p, fees, stateData, q, r, s, t, u, v, w, x, y,
        ammOwner, lpAmount, clientOrderId, recentEpoch⟩, ⟨padding, padding1, padding2⟩))
    (fun (amm, padding) => ((amm.status, amm.nonce, amm.orderNum, amm.depth, amm.coinDecimals,
      amm.pcDecimals, amm.state, amm.resetFlag, amm.minSize, amm.volMaxCutRatio, amm.amountWave,
      amm.coinLotSize, amm.pcLotSize, amm.minPriceMultiplier, amm.maxPriceMultiplier,
      amm.sysDecimalValue), amm.fees, (amm.stateData, padding.stateData), (amm.coinVault,
      amm.pcVault, amm.coinVaultMint, amm.pcVaultMint, amm.lpMint, amm.openOrders, amm.market,
      amm.marketProgram, amm.targetOrders), padding.padding1, amm.ammOwner, amm.lpAmount,
      amm.clientOrderId, amm.recentEpoch, padding.padding2))
    fun _ => rfl

theorem AmmInfo.format_exact : AmmInfo.format.Exact :=
  have h := u64Format_exact
  FixedWidth.Exact.record (wordsFormat_exact.prod <| Fees.format_exact.prod <|
    StateData.format_exact.prod <| keysFormat_exact.prod <| (h.array 8).prod <|
    pubkeyFormat_exact.prod <| h.prod <| h.prod <| h.prod h) _ fun _ => rfl

/-- `TargetOrder`. -/
structure TargetOrder where
  price : U64
  vol : U64

def TargetOrder.format : FixedWidth TargetOrder :=
  FixedWidth.record (u64Format.prod u64Format) (fun (price, vol) => ⟨price, vol⟩)
    (fun o => (o.price, o.vol)) fun _ => rfl

theorem TargetOrder.format_exact : TargetOrder.format.Exact :=
  FixedWidth.Exact.record (u64Format_exact.prod u64Format_exact) _ fun _ => rfl

/-- The fields of `TargetOrders` that no handler reads: planned orders, client ids, paddings. -/
structure TargetOrders.Planned where
  buyOrders : Vector TargetOrder 50
  padding1 : Vector U64 8
  sellOrders : Vector TargetOrder 50
  padding2 : Vector U64 6
  replaceBuyClientId : Vector U64 10
  replaceSellClientId : Vector U64 10
  padding3 : Vector U64 10

/-- The ten amounts of `TargetOrders` in a row. -/
def amountsFormat : FixedWidth
    (U128 × U128 × U128 × U128 × U128 × U128 × U128 × U128 × U128 × U128) :=
  u128Format.prod <| u128Format.prod <| u128Format.prod <| u128Format.prod <| u128Format.prod <|
    u128Format.prod <| u128Format.prod <| u128Format.prod <| u128Format.prod u128Format

theorem amountsFormat_exact : amountsFormat.Exact :=
  have h := u128Format_exact
  h.prod <| h.prod <| h.prod <| h.prod <| h.prod <| h.prod <| h.prod <| h.prod <| h.prod h

/-- `TargetOrders`. The owner is four words in the source, the key's bytes in memory order. -/
def TargetOrders.format : FixedWidth (TargetOrders × TargetOrders.Planned) :=
  FixedWidth.record
    (pubkeyFormat.prod <| (TargetOrder.format.array 50).prod <| (u64Format.array 8).prod <|
      amountsFormat.prod <| (TargetOrder.format.array 50).prod <| (u64Format.array 6).prod <|
      (u64Format.array 10).prod <| (u64Format.array 10).prod <| u64Format.prod <| u64Format.prod <|
      u64Format.prod <| u64Format.prod <| u64Format.prod <| u64Format.prod <|
      (u64Format.array 10).prod u128Format)
    (fun (owner, buyOrders, padding1, (a, b, c, d, e, f, g, h, i, j), sellOrders, padding2,
        replaceBuyClientId, replaceSellClientId, k, l, m, n, o, p, padding3, freeSlotBits) =>
      (⟨owner, a, b, c, d, e, f, g, h, i, j, k, l, m, n, o, p, freeSlotBits⟩,
        ⟨buyOrders, padding1, sellOrders, padding2, replaceBuyClientId, replaceSellClientId,
          padding3⟩))
    (fun (t, planned) => (t.owner, planned.buyOrders, planned.padding1, (t.targetX, t.targetY,
      t.planXBuy, t.planYBuy, t.planXSell, t.planYSell, t.placedX, t.placedY, t.calcPnlX,
      t.calcPnlY), planned.sellOrders, planned.padding2, planned.replaceBuyClientId,
      planned.replaceSellClientId, t.lastOrderNumerator, t.lastOrderDenominator, t.planOrdersCur,
      t.placeOrdersCur, t.validBuyOrderNum, t.validSellOrderNum, planned.padding3,
      t.freeSlotBits))
    fun _ => rfl

theorem TargetOrders.format_exact : TargetOrders.format.Exact :=
  have h := u64Format_exact
  have hs := TargetOrder.format_exact.array 50
  FixedWidth.Exact.record (pubkeyFormat_exact.prod <| hs.prod <| (h.array 8).prod <|
    amountsFormat_exact.prod <| hs.prod <| (h.array 6).prod <| (h.array 10).prod <|
    (h.array 10).prod <| h.prod <| h.prod <| h.prod <| h.prod <| h.prod <| h.prod <|
    (h.array 10).prod u128Format_exact) _ fun _ => rfl

/-- The `pending` fields of `AmmConfig`. -/
structure AmmConfig.Pending where
  pending1 : Vector U64 28
  pending2 : Vector U64 31

/-- `AmmConfig`. -/
def AmmConfig.format : FixedWidth (AmmConfig × AmmConfig.Pending) :=
  FixedWidth.record
    (pubkeyFormat.prod <| pubkeyFormat.prod <| (u64Format.array 28).prod <|
      (u64Format.array 31).prod u64Format)
    (fun (pnlOwner, cancelOwner, pending1, pending2, createPoolFee) =>
      (⟨pnlOwner, cancelOwner, createPoolFee⟩, ⟨pending1, pending2⟩))
    (fun (c, pending) => (c.pnlOwner, c.cancelOwner, pending.pending1, pending.pending2,
      c.createPoolFee))
    fun _ => rfl

theorem AmmConfig.format_exact : AmmConfig.format.Exact :=
  have h := u64Format_exact
  FixedWidth.Exact.record (pubkeyFormat_exact.prod <| pubkeyFormat_exact.prod <|
    (h.array 28).prod <| (h.array 31).prod h) _ fun _ => rfl

theorem AmmInfo.format_width : AmmInfo.format.width = 752 := rfl

theorem TargetOrders.format_width : TargetOrders.format.width = 2208 := rfl

theorem AmmConfig.format_width : AmmConfig.format.width = 544 := rfl

/-- The strings of 752, of 2208 and of 544 bytes are the images of the pool records, the planning
    records and the config records with their fillings, one for one. -/
theorem record_images_are_the_strings_of_their_length :
    Function.Bijective (fun r : AmmInfo × AmmInfo.Padding =>
        (⟨AmmInfo.format.write r, AmmInfo.format.length_write r⟩ : Codec.Bytes 752)) ∧
      Function.Bijective (fun r : TargetOrders × TargetOrders.Planned =>
        (⟨TargetOrders.format.write r, TargetOrders.format.length_write r⟩ : Codec.Bytes 2208)) ∧
      Function.Bijective (fun r : AmmConfig × AmmConfig.Pending =>
        (⟨AmmConfig.format.write r, AmmConfig.format.length_write r⟩ : Codec.Bytes 544)) :=
  ⟨AmmInfo.format_exact.bijective, TargetOrders.format_exact.bijective,
    AmmConfig.format_exact.bijective⟩

/-! ## 2. Raw accounts -/

/-- An account as the runtime has it. -/
structure RawAccount where
  owner : Pubkey
  data : List U8

abbrev RawAccounts := Pubkey → RawAccount

/-- `AmmInfo::load_checked` and `AmmInfo::load_mut_checked`; the length is checked, so `from_bytes`
    does not panic. -/
def AmmInfo.loadRaw (programId : Pubkey) (a : RawAccount) : Result AmmInfo := do
  check (a.owner = programId) .invalidAmmAccountOwner
  check (a.data.length = AmmInfo.format.width) .expectedAccount
  let (amm, _) := AmmInfo.format.read a.data
  check (amm.status ≠ AmmStatus.uninitialized.intoU64) .invalidStatus
  return amm

/-- `TargetOrders::load_checked` and `TargetOrders::load_mut_checked`. -/
def TargetOrders.loadRaw (programId owner : Pubkey) (a : RawAccount) : Result TargetOrders := do
  check (a.owner = programId) .invalidTargetAccountOwner
  check (a.data.length = TargetOrders.format.width) .expectedAccount
  let (targetOrders, _) := TargetOrders.format.read a.data
  check (targetOrders.owner = owner) .invalidTargetOwner
  return targetOrders

/-- `AmmConfig::load_checked` and `AmmConfig::load_mut_checked`. -/
def AmmConfig.loadRaw (programId : Pubkey) (a : RawAccount) : Result AmmConfig := do
  check (a.owner = programId) .invalidOwner
  check (a.data.length = AmmConfig.format.width) .expectedAccount
  let (config, _) := AmmConfig.format.read a.data
  return config

/-- The writes of a `RefMut` to the fields of its record. -/
def RawAccounts.store {α β : Type} (format : FixedWidth (α × β)) (m : RawAccounts) (key : Pubkey)
    (r : α) : RawAccounts :=
  fun k =>
    if k = key then { m k with data := format.write (r, (format.read (m k).data).2) } else m k

/-- A handler loads a record, changes its fields and drops it. -/
inductive RecordAccess where
  | amm (key : Pubkey) (change : AmmInfo → AmmInfo)
  | targetOrders (key owner : Pubkey) (change : TargetOrders → TargetOrders)
  | config (key : Pubkey) (change : AmmConfig → AmmConfig)

def RecordAccess.onRaw (programId : Pubkey) (m : RawAccounts) : RecordAccess → Result RawAccounts
  | .amm key change => do
    let amm ← AmmInfo.loadRaw programId (m key)
    return m.store AmmInfo.format key (change amm)
  | .targetOrders key owner change => do
    let targetOrders ← TargetOrders.loadRaw programId owner (m key)
    return m.store TargetOrders.format key (change targetOrders)
  | .config key change => do
    let config ← AmmConfig.loadRaw programId (m key)
    return m.store AmmConfig.format key (change config)

/-- The same on decoded accounts. -/
def RecordAccess.onRecords (programId : Pubkey) (w : World) : RecordAccess → Result World
  | .amm key change => do
    let (a, w) ← AmmInfo.loadMutChecked w ⟨key, false, true⟩ programId
    return w.dropRefMut key (.amm (change a))
  | .targetOrders key owner change => do
    let (t, w) ← TargetOrders.loadMutChecked w ⟨key, false, true⟩ programId owner
    return w.dropRefMut key (.targetOrders (change t))
  | .config key change => do
    let (c, w) ← AmmConfig.loadMutChecked w ⟨key, false, true⟩ programId
    return w.dropRefMut key (.config (change c))

/-! ## 3. Agreement -/

/-- What an account of this program holds: the length tells the kind. -/
def AccountData.ofBytes (b : List U8) : AccountData :=
  if b.length = AmmInfo.format.width then .amm (AmmInfo.format.read b).1
  else if b.length = TargetOrders.format.width then .targetOrders (TargetOrders.format.read b).1
  else if b.length = AmmConfig.format.width then .config (AmmConfig.format.read b).1
  else .bytes b

/-- What a write to a record leaves alone. -/
inductive Filling where
  | amm (padding : AmmInfo.Padding)
  | targetOrders (planned : TargetOrders.Planned)
  | config (pending : AmmConfig.Pending)
  | bytes (b : List U8)

def Filling.ofBytes (b : List U8) : Filling :=
  if b.length = AmmInfo.format.width then .amm (AmmInfo.format.read b).2
  else if b.length = TargetOrders.format.width then .targetOrders (TargetOrders.format.read b).2
  else if b.length = AmmConfig.format.width then .config (AmmConfig.format.read b).2
  else .bytes b

/-- The decoded accounts of this program are those that the bytes spell. -/
structure Decodes (programId : Pubkey) (m : RawAccounts) (acc : Accounts) : Prop where
  owner : ∀ k, (acc k).owner = (m k).owner
  data : ∀ k, (m k).owner = programId → (acc k).data = .ofBytes (m k).data

theorem check_pos {p : Prop} [Decidable p] {e : AmmError} (h : p) : check p e = .ok () :=
  Outcome.require_pos h

theorem check_neg {p : Prop} [Decidable p] {e : AmmError} (h : ¬p) :
    check p e = Outcome.fail e.into :=
  Outcome.require_neg h

section Agreement

variable {programId owner key : Pubkey} {m : RawAccounts} {w : World} {b : List U8}

theorem AccountData.ofBytes_amm (h : b.length = AmmInfo.format.width) :
    AccountData.ofBytes b = .amm (AmmInfo.format.read b).1 := if_pos h

theorem AccountData.ofBytes_targetOrders (h : b.length = TargetOrders.format.width) :
    AccountData.ofBytes b = .targetOrders (TargetOrders.format.read b).1 := by
  unfold AccountData.ofBytes
  rw [h, if_neg (by decide), if_pos rfl]

theorem AccountData.ofBytes_config (h : b.length = AmmConfig.format.width) :
    AccountData.ofBytes b = .config (AmmConfig.format.read b).1 := by
  unfold AccountData.ofBytes
  rw [h, if_neg (by decide), if_neg (by decide), if_pos rfl]

/-- A length tells one kind of record. -/
theorem AccountData.length_of_ofBytes_amm {amm : AmmInfo} (h : AccountData.ofBytes b = .amm amm) :
    b.length = AmmInfo.format.width := by
  unfold AccountData.ofBytes at h
  split_ifs at h with hlen
  exact hlen

theorem AccountData.length_of_ofBytes_targetOrders {t : TargetOrders}
    (h : AccountData.ofBytes b = .targetOrders t) : b.length = TargetOrders.format.width := by
  unfold AccountData.ofBytes at h
  split_ifs at h with _ hlen
  exact hlen

theorem AccountData.length_of_ofBytes_config {c : AmmConfig}
    (h : AccountData.ofBytes b = .config c) : b.length = AmmConfig.format.width := by
  unfold AccountData.ofBytes at h
  split_ifs at h with _ _ hlen
  exact hlen

theorem World.tryBorrowMutData_of_nil (hfree : w.borrowed = []) :
    w.tryBorrowMutData key = .ok { w with borrowed := [key] } := by
  unfold World.tryBorrowMutData
  rw [hfree, Outcome.require_pos List.not_mem_nil]
  rfl

theorem AmmInfo.loadMutChecked_eq {info : AccountInfo} (h : Decodes programId m w.accounts)
    (hfree : w.borrowed = []) :
    AmmInfo.loadMutChecked w info programId = AmmInfo.loadRaw programId (m info.key) >>= fun amm =>
      .ok (amm, { w with borrowed := [info.key] }) := by
  unfold AmmInfo.loadMutChecked AmmInfo.loadChecked AmmInfo.loadRaw
  rw [h.owner]
  by_cases howner : (m info.key).owner = programId
  · rw [check_pos howner, h.data _ howner, World.tryBorrowMutData_of_nil hfree, hfree]
    by_cases hlen : (m info.key).data.length = AmmInfo.format.width
    · rw [AccountData.ofBytes_amm hlen, check_pos hlen, Outcome.require_pos List.not_mem_nil]
      rfl
    · rw [check_neg hlen]
      cases hdata : AccountData.ofBytes (m info.key).data with
      | amm a => exact absurd (AccountData.length_of_ofBytes_amm hdata) hlen
      | _ => rfl
  · rw [check_neg howner]
    rfl

theorem TargetOrders.loadMutChecked_eq {info : AccountInfo} (h : Decodes programId m w.accounts)
    (hfree : w.borrowed = []) :
    TargetOrders.loadMutChecked w info programId owner =
      TargetOrders.loadRaw programId owner (m info.key) >>= fun t =>
        .ok (t, { w with borrowed := [info.key] }) := by
  unfold TargetOrders.loadMutChecked TargetOrders.loadRaw
  rw [h.owner]
  by_cases howner : (m info.key).owner = programId
  · rw [check_pos howner, h.data _ howner, World.tryBorrowMutData_of_nil hfree]
    by_cases hlen : (m info.key).data.length = TargetOrders.format.width
    · rw [AccountData.ofBytes_targetOrders hlen, check_pos hlen]
      simp only [Outcome.ok_bind, bind_assoc, pure_bind]
      rfl
    · rw [check_neg hlen]
      cases hdata : AccountData.ofBytes (m info.key).data with
      | targetOrders t => exact absurd (AccountData.length_of_ofBytes_targetOrders hdata) hlen
      | _ => rfl
  · rw [check_neg howner]
    rfl

theorem AmmConfig.loadMutChecked_eq {info : AccountInfo} (h : Decodes programId m w.accounts)
    (hfree : w.borrowed = []) :
    AmmConfig.loadMutChecked w info programId =
      AmmConfig.loadRaw programId (m info.key) >>= fun c =>
        .ok (c, { w with borrowed := [info.key] }) := by
  unfold AmmConfig.loadMutChecked AmmConfig.loadRaw
  rw [h.owner]
  by_cases howner : (m info.key).owner = programId
  · rw [check_pos howner, h.data _ howner, World.tryBorrowMutData_of_nil hfree]
    by_cases hlen : (m info.key).data.length = AmmConfig.format.width
    · rw [AccountData.ofBytes_config hlen, check_pos hlen]
      rfl
    · rw [check_neg hlen]
      cases hdata : AccountData.ofBytes (m info.key).data with
      | config c => exact absurd (AccountData.length_of_ofBytes_config hdata) hlen
      | _ => rfl
  · rw [check_neg howner]
    rfl

/-- A store to a record of one format, seen through the decoded accounts. -/
theorem Decodes.store {α β : Type} {format : FixedWidth (α × β)} {make : α → AccountData} {r : α}
    (hmake : ∀ b, b.length = format.width → AccountData.ofBytes b = make (format.read b).1)
    (h : Decodes programId m w.accounts) :
    Decodes programId (m.store format key r) (w.accounts.setData key (make r)) where
  owner k := by
    unfold RawAccounts.store Accounts.setData
    split <;> exact h.owner k
  data k hk := by
    unfold RawAccounts.store Accounts.setData at *
    by_cases heq : k = key
    · rw [if_pos heq, if_pos heq, hmake _ (format.length_write _), format.read_write_self]
    · rw [if_neg heq] at hk
      rw [if_neg heq, if_neg heq]
      exact h.data k hk

end Agreement

/-- Both succeed, with related values, or both fail in the same way. -/
def Outcome.Agree {ε α β : Type} (R : α → β → Prop) : Outcome ε α → Outcome ε β → Prop
  | .ok a, .ok b => R a b
  | .error e, .error e' => e = e'
  | _, _ => False

theorem Outcome.Agree.bind_ok {ε α β γ : Type} {R : β → γ → Prop} {x : Outcome ε α} {f : α → β}
    {g : α → γ} (h : ∀ a, x = .ok a → R (f a) (g a)) :
    Outcome.Agree R (x >>= fun a => .ok (f a)) (x >>= fun a => .ok (g a)) := by
  cases x with
  | ok a => exact h a rfl
  | error e => rfl

/-- No borrow is pending, and the decoded accounts are those that the bytes spell. -/
def Mirrors (programId : Pubkey) (m : RawAccounts) (w : World) : Prop :=
  w.borrowed = [] ∧ Decodes programId m w.accounts

theorem RecordAccess.agree {programId : Pubkey} {m : RawAccounts} {w : World} (a : RecordAccess)
    (h : Mirrors programId m w) :
    Outcome.Agree (Mirrors programId) (a.onRaw programId m) (a.onRecords programId w) := by
  obtain ⟨hfree, hdecodes⟩ := h
  unfold RecordAccess.onRaw RecordAccess.onRecords
  cases a with
  | amm key change =>
    simp only [AmmInfo.loadMutChecked_eq hdecodes hfree, bind_assoc, Outcome.ok_bind]
    exact Outcome.Agree.bind_ok fun amm _ =>
      ⟨List.erase_cons_head _ _, hdecodes.store fun _ => AccountData.ofBytes_amm⟩
  | targetOrders key owner change =>
    simp only [TargetOrders.loadMutChecked_eq hdecodes hfree, bind_assoc, Outcome.ok_bind]
    exact Outcome.Agree.bind_ok fun t _ =>
      ⟨List.erase_cons_head _ _, hdecodes.store fun _ => AccountData.ofBytes_targetOrders⟩
  | config key change =>
    simp only [AmmConfig.loadMutChecked_eq hdecodes hfree, bind_assoc, Outcome.ok_bind]
    exact Outcome.Agree.bind_ok fun c _ =>
      ⟨List.erase_cons_head _ _, hdecodes.store fun _ => AccountData.ofBytes_config⟩

/-- What is left of an account when its record is rewritten in place. -/
structure RawAccount.Framed (programId : Pubkey) (a a' : RawAccount) : Prop where
  owner : a'.owner = a.owner
  length : a'.data.length = a.data.length
  filling : Filling.ofBytes a'.data = Filling.ofBytes a.data
  foreign : a.owner ≠ programId → a' = a

theorem RawAccount.Framed.refl (programId : Pubkey) (a : RawAccount) : a.Framed programId a :=
  ⟨rfl, rfl, rfl, fun _ => rfl⟩

theorem RawAccount.Framed.trans {programId : Pubkey} {a a' a'' : RawAccount}
    (h : a.Framed programId a') (h' : a'.Framed programId a'') : a.Framed programId a'' where
  owner := h'.owner.trans h.owner
  length := h'.length.trans h.length
  filling := h'.filling.trans h.filling
  foreign hne := by
    have hsame := h.foreign hne
    subst hsame
    exact h'.foreign hne

section Frames

variable {programId key owner : Pubkey} {m m' : RawAccounts}

theorem Filling.ofBytes_amm {b : List U8} (h : b.length = AmmInfo.format.width) :
    Filling.ofBytes b = .amm (AmmInfo.format.read b).2 := if_pos h

theorem Filling.ofBytes_targetOrders {b : List U8} (h : b.length = TargetOrders.format.width) :
    Filling.ofBytes b = .targetOrders (TargetOrders.format.read b).2 := by
  unfold Filling.ofBytes
  rw [h, if_neg (by decide), if_pos rfl]

theorem Filling.ofBytes_config {b : List U8} (h : b.length = AmmConfig.format.width) :
    Filling.ofBytes b = .config (AmmConfig.format.read b).2 := by
  unfold Filling.ofBytes
  rw [h, if_neg (by decide), if_neg (by decide), if_pos rfl]

theorem RawAccounts.store_framed {α β : Type} {format : FixedWidth (α × β)} {make : β → Filling}
    {r : α} (hmake : ∀ b, b.length = format.width → Filling.ofBytes b = make (format.read b).2)
    (howner : (m key).owner = programId) (hlen : (m key).data.length = format.width) (k : Pubkey) :
    (m k).Framed programId (m.store format key r k) := by
  unfold RawAccounts.store
  split_ifs with heq
  · subst heq
    have hwritten := format.length_write (r, (format.read (m k).data).2)
    refine ⟨rfl, hwritten.trans hlen.symm, ?_, fun hne => absurd howner hne⟩
    rw [hmake _ hwritten, hmake _ hlen, format.read_write_self]
  · exact .refl programId (m k)

theorem AmmInfo.loadRaw_eq_ok {a : RawAccount} {amm : AmmInfo}
    (h : AmmInfo.loadRaw programId a = .ok amm) :
    a.owner = programId ∧ a.data.length = AmmInfo.format.width := by
  simp only [AmmInfo.loadRaw, check_bind_eq_ok] at h
  exact ⟨h.1, h.2.1⟩

theorem TargetOrders.loadRaw_eq_ok {a : RawAccount} {t : TargetOrders}
    (h : TargetOrders.loadRaw programId owner a = .ok t) :
    a.owner = programId ∧ a.data.length = TargetOrders.format.width := by
  simp only [TargetOrders.loadRaw, check_bind_eq_ok] at h
  exact ⟨h.1, h.2.1⟩

theorem AmmConfig.loadRaw_eq_ok {a : RawAccount} {c : AmmConfig}
    (h : AmmConfig.loadRaw programId a = .ok c) :
    a.owner = programId ∧ a.data.length = AmmConfig.format.width := by
  simp only [AmmConfig.loadRaw, check_bind_eq_ok] at h
  exact ⟨h.1, h.2.1⟩

theorem RecordAccess.framed {a : RecordAccess} (h : a.onRaw programId m = .ok m') (k : Pubkey) :
    (m k).Framed programId (m' k) := by
  unfold RecordAccess.onRaw at h
  cases a with
  | amm key change =>
    obtain ⟨amm, hload, h⟩ := Outcome.bind_eq_ok.mp h
    cases h
    obtain ⟨howner, hlen⟩ := AmmInfo.loadRaw_eq_ok hload
    exact RawAccounts.store_framed (fun _ => Filling.ofBytes_amm) howner hlen k
  | targetOrders key owner change =>
    obtain ⟨t, hload, h⟩ := Outcome.bind_eq_ok.mp h
    cases h
    obtain ⟨howner, hlen⟩ := TargetOrders.loadRaw_eq_ok hload
    exact RawAccounts.store_framed (fun _ => Filling.ofBytes_targetOrders) howner hlen k
  | config key change =>
    obtain ⟨c, hload, h⟩ := Outcome.bind_eq_ok.mp h
    cases h
    obtain ⟨howner, hlen⟩ := AmmConfig.loadRaw_eq_ok hload
    exact RawAccounts.store_framed (fun _ => Filling.ofBytes_config) howner hlen k

end Frames

/-- An access that fails leaves all accounts as they were. -/
def RecordAccess.applyRaw (programId : Pubkey) (m : RawAccounts) (a : RecordAccess) : RawAccounts :=
  match a.onRaw programId m with
  | .ok m' => m'
  | .error _ => m

def RecordAccess.applyRecords (programId : Pubkey) (w : World) (a : RecordAccess) : World :=
  match a.onRecords programId w with
  | .ok w' => w'
  | .error _ => w

section Runs

variable {programId : Pubkey} {m : RawAccounts} {w : World}

theorem RecordAccess.apply_mirrors (a : RecordAccess) (h : Mirrors programId m w) :
    Mirrors programId (a.applyRaw programId m) (a.applyRecords programId w) := by
  have hagree := a.agree h
  unfold RecordAccess.applyRaw RecordAccess.applyRecords
  cases hraw : a.onRaw programId m <;> cases hrecords : a.onRecords programId w <;>
    rw [hraw, hrecords] at hagree
  · exact h
  · exact hagree.elim
  · exact hagree.elim
  · exact hagree

theorem RecordAccess.apply_framed (a : RecordAccess) (k : Pubkey) :
    (m k).Framed programId (a.applyRaw programId m k) := by
  unfold RecordAccess.applyRaw
  cases hraw : a.onRaw programId m with
  | ok m' => exact RecordAccess.framed hraw k
  | error e => exact .refl programId (m k)

/-- Over every run of record accesses the raw accounts and the decoded ones stay in step: the next
    access, whichever it is, succeeds on both or fails on both with the same error. No account
    changes its owner or its length, so none is read as another kind of record, and the paddings,
    the planned orders, the accounts of other lengths and those of other programs keep their
    bytes. -/
theorem raw_accounts_stay_in_step (accesses : List RecordAccess) (h : Mirrors programId m w) :
    Mirrors programId (accesses.foldl (RecordAccess.applyRaw programId) m)
        (accesses.foldl (RecordAccess.applyRecords programId) w) ∧
      (∀ a : RecordAccess, Outcome.Agree (Mirrors programId)
        (a.onRaw programId (accesses.foldl (RecordAccess.applyRaw programId) m))
        (a.onRecords programId (accesses.foldl (RecordAccess.applyRecords programId) w))) ∧
      ∀ k, (m k).Framed programId (accesses.foldl (RecordAccess.applyRaw programId) m k) := by
  induction accesses generalizing m w with
  | nil => exact ⟨h, fun a => a.agree h, fun k => .refl programId (m k)⟩
  | cons a rest ih =>
    obtain ⟨hmirrors, hnext, hframed⟩ := ih (a.apply_mirrors h)
    exact ⟨hmirrors, hnext, fun k => (a.apply_framed k).trans (hframed k)⟩

end Runs

namespace Reference

/-- The world of raw accounts that are all of this program. -/
def decodedWorld (m : RawAccounts) : World :=
  ⟨fun k => ⟨(m k).owner, .ofBytes (m k).data⟩, ⟨0, 0⟩, [], []⟩

theorem mirrors_decodedWorld (m : RawAccounts) : Mirrors program m (decodedWorld m) :=
  ⟨rfl, fun _ => rfl, fun _ _ => rfl⟩

/-- Every account is a pool with blank paddings. -/
def rawPools : RawAccounts := fun _ =>
  ⟨program, AmmInfo.format.write
    (pool .swapOnly 1000, ⟨Vector.replicate 2 0, Vector.replicate 8 0, 0⟩)⟩

theorem length_rawPools (k : Pubkey) : (rawPools k).data.length = 752 := by
  unfold rawPools
  rw [AmmInfo.format.length_write, AmmInfo.format_width]

/-- The owner pauses the pool. -/
def pauseAccess : RecordAccess := .amm (key 10) fun amm => { amm with status := 2 }

end Reference

open Reference in
/-- Two accesses to one pool. -/
theorem raw_accounts_stay_in_step_pause :
    Mirrors program ([pauseAccess, pauseAccess].foldl (RecordAccess.applyRaw program) rawPools)
        ([pauseAccess, pauseAccess].foldl (RecordAccess.applyRecords program)
          (decodedWorld rawPools)) ∧
      ([pauseAccess, pauseAccess].foldl (RecordAccess.applyRaw program) rawPools
        (key 10)).data.length = 752 := by
  obtain ⟨hmirrors, -, hframed⟩ :=
    raw_accounts_stay_in_step [pauseAccess, pauseAccess] (mirrors_decodedWorld rawPools)
  exact ⟨hmirrors, (hframed (key 10)).length.trans (length_rawPools (key 10))⟩

end RaydiumAmm
