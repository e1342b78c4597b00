import RaydiumAmm.Dispatch
import RaydiumAmm.Words

/-!
# The encoding of instructions

`AmmInstruction::unpack` and `AmmInstruction::pack`: one tag byte, then the fields in order. Words
are little-endian, keys are their 32 bytes, and bytes that follow the last field are ignored.
-/

namespace RaydiumAmm

/-! ## Reading -/

/-- `unpack_u8`, `unpack_u16`, `unpack_u32` and `unpack_u64`: a word of `n` bytes off the input. -/
def unpackWord (n w : Nat) (input : List U8) : Result (BitVec w × List U8) :=
  if n ≤ input.length then .ok (Words.ofLeBytes w (input.take n), input.drop n)
  else Outcome.fail .invalidInstructionData

def unpackU8 (input : List U8) : Result (U8 × List U8) := unpackWord 1 8 input

def unpackU16 (input : List U8) : Result (U16 × List U8) := unpackWord 2 16 input

def unpackU32 (input : List U8) : Result (U32 × List U8) := unpackWord 4 32 input

def unpackU64 (input : List U8) : Result (U64 × List U8) := unpackWord 8 64 input

/-- `array_ref![input, 0, n]`: a shorter input panics. -/
def arrayRef (n : Nat) (input : List U8) : Result (List U8) :=
  if n ≤ input.length then .ok (input.take n) else Outcome.panic

/-- `&input[n..]`: a shorter input panics. -/
def sliceFrom (n : Nat) (input : List U8) : Result (List U8) :=
  if n ≤ input.length then .ok (input.drop n) else Outcome.panic

/-- `Pubkey::new_from_array(*array_ref![input, 0, 32])`. -/
def readKey (input : List U8) : Result Pubkey := do
  let bytes ← arrayRef 32 input
  return Pubkey.ofBytes bytes

/-- `Fees::unpack_from_slice` of 64 bytes. -/
def Fees.unpackFromSlice (input : List U8) : Fees :=
  let field := fun i => Words.ofLeBytes 64 ((input.drop (8 * i)).take 8)
  { minSeparateNumerator := field 0
    minSeparateDenominator := field 1
    tradeFeeNumerator := field 2
    tradeFeeDenominator := field 3
    pnlNumerator := field 4
    pnlDenominator := field 5
    swapFeeNumerator := field 6
    swapFeeDenominator := field 7 }

/-- `Fees::LEN`. -/
def FEES_LEN : Nat := 64

/-! ## Texts -/

/-- The width of a UTF-8 character by its first byte; 0 where no character starts so. -/
def utf8CharWidth (lead : U8) : Nat :=
  if lead < 0x80 then 1
  else if 0xC2 ≤ lead ∧ lead ≤ 0xDF then 2
  else if 0xE0 ≤ lead ∧ lead ≤ 0xEF then 3
  else if 0xF0 ≤ lead ∧ lead ≤ 0xF4 then 4
  else 0

/-- A continuation byte. -/
def utf8IsCont (b : U8) : Bool := b &&& 0xC0 == 0x80

/-- The second byte of a character of three or four bytes is in the range of its first byte: no
    overlong form, no surrogate, nothing above `U+10FFFF`. -/
def utf8SecondOk (lead second : U8) : Bool :=
  if lead = 0xE0 then 0xA0 ≤ second && second ≤ 0xBF
  else if lead = 0xED then 0x80 ≤ second && second ≤ 0x9F
  else if lead = 0xF0 then 0x90 ≤ second && second ≤ 0xBF
  else if lead = 0xF4 then 0x80 ≤ second && second ≤ 0x8F
  else 0x80 ≤ second && second ≤ 0xBF

/-- How many bytes after `lead` belong to its character, and whether the character is whole. -/
def utf8Rest (lead : U8) (rest : List U8) : Nat × Bool :=
  match utf8CharWidth lead with
  | 1 => (0, true)
  | 2 => if utf8IsCont (rest.getD 0 0) then (1, true) else (0, false)
  | 3 =>
    if !utf8SecondOk lead (rest.getD 0 0) then (0, false)
    else if !utf8IsCont (rest.getD 1 0) then (1, false)
    else (2, true)
  | 4 =>
    if !utf8SecondOk lead (rest.getD 0 0) then (0, false)
    else if !utf8IsCont (rest.getD 1 0) then (1, false)
    else if !utf8IsCont (rest.getD 2 0) then (2, false)
    else (3, true)
  | _ => (0, false)

/-- The bytes of `U+FFFD`. -/
def utf8Replacement : List U8 := [0xEF, 0xBF, 0xBD]

/-- The characters of the first `fuel` bytes at most. -/
def fromUtf8LossyUpTo : Nat → List U8 → List U8
  | 0, _ => []
  | _, [] => []
  | fuel + 1, lead :: rest =>
    let (n, whole) := utf8Rest lead rest
    (if whole then lead :: rest.take n else utf8Replacement) ++
      fromUtf8LossyUpTo fuel (rest.drop n)

/-- `String::from_utf8_lossy`: each maximal part of a character that breaks off is replaced. -/
def fromUtf8Lossy (bytes : List U8) : List U8 := fromUtf8LossyUpTo bytes.length bytes

/-- A text behind the byte that holds its length. -/
def unpackText (input : List U8) : Result (List U8 × List U8) := do
  let (len, rest) ← unpackU8 input
  Outcome.require (len.toNat ≤ rest.length) .invalidInstructionData
  return (fromUtf8Lossy (rest.take len.toNat), rest.drop len.toNat)

/-! ## `unpack` -/

/-- Tag 6: the payload depends on the parameter. -/
def unpackSetParams (rest : List U8) : Result AmmInstruction := do
  let (param, rest) ← unpackU8 rest
  match ← AmmParams.fromU8 param with
  | .ammOwner => do
    Outcome.require (32 ≤ rest.length) .invalidInstructionData
    let newPubkey ← readKey rest
    return .setParams ⟨param, none, some newPubkey, none, none⟩
  | .fees => do
    Outcome.require (FEES_LEN ≤ rest.length) .invalidInstructionData
    return .setParams ⟨param, none, none, some (Fees.unpackFromSlice (rest.take FEES_LEN)), none⟩
  | .lastOrderDistance => do
    Outcome.require (16 ≤ rest.length) .invalidInstructionData
    let (lastOrderNumerator, rest) ← unpackU64 rest
    let (lastOrderDenominator, _) ← unpackU64 rest
    return .setParams ⟨param, none, none, none, some ⟨lastOrderNumerator, lastOrderDenominator⟩⟩
  | _ => do
    Outcome.require (8 ≤ rest.length) .invalidInstructionData
    let (value, _) ← unpackU64 rest
    return .setParams ⟨param, some value, none, none, none⟩

/-- Tag 12. -/
def unpackSimulateInfo (rest : List U8) : Result AmmInstruction := do
  let (param, rest) ← unpackU8 rest
  match ← SimulateParams.fromU8 param with
  | .poolInfo => return .simulateInfo ⟨param, none, none⟩
  | .runCrankInfo => return .simulateInfo ⟨param, none, none⟩
  | .swapBaseInInfo => do
    let (amountIn, rest) ← unpackU64 rest
    let (minimumAmountOut, _) ← unpackU64 rest
    return .simulateInfo ⟨param, some ⟨amountIn, minimumAmountOut⟩, none⟩
  | .swapBaseOutInfo => do
    let (maxAmountIn, rest) ← unpackU64 rest
    let (amountOut, _) ← unpackU64 rest
    return .simulateInfo ⟨param, none, some ⟨maxAmountIn, amountOut⟩⟩

/-- Tag 15: an owner that is cut short panics. -/
def unpackUpdateConfig (rest : List U8) : Result AmmInstruction := do
  let (param, rest) ← unpackU8 rest
  if param = 0 ∨ param = 1 then do
    let owner ← readKey rest
    return .updateConfigAccount ⟨param, some owner, none⟩
  else if param = 2 then do
    let (createPoolFee, _) ← unpackU64 rest
    return .updateConfigAccount ⟨param, none, some createPoolFee⟩
  else Outcome.fail .invalidInstructionData

/-- An optional key of tag 16: 32 zero bytes stand for none. -/
def unpackOptionalKey (rest : List U8) : Option Pubkey :=
  if 32 ≤ rest.length then
    if (rest.take 32).all (· == 0) then none else some (Pubkey.ofBytes (rest.take 32))
  else none

/-- Tag 16. -/
def unpackCreateToken2022Mint (rest : List U8) : Result AmmInstruction := do
  let (decimals, rest) ← unpackU8 rest
  let mintAuthority ← readKey rest
  let rest ← sliceFrom 32 rest
  let freezeAuthority := unpackOptionalKey rest
  let rest ← sliceFrom 32 rest
  let transferHookProgramId := unpackOptionalKey rest
  let rest ← sliceFrom 32 rest
  let (name, rest) ← unpackText rest
  let (symbol, rest) ← unpackText rest
  let (uri, _) ← unpackText rest
  return .createToken2022Mint
    ⟨decimals, mintAuthority, freezeAuthority, transferHookProgramId, name, symbol, uri⟩

/-- Tag 17. -/
def unpackUpdateHookWhitelist (rest : List U8) : Result AmmInstruction := do
  let hookProgramId ← readKey rest
  match ← sliceFrom 32 rest with
  | [] => Outcome.fail .invalidInstructionData
  | action :: _ =>
    if action = 0 then return .updateHookWhitelist ⟨hookProgramId, .add⟩
    else if action = 1 then return .updateHookWhitelist ⟨hookProgramId, .remove⟩
    else Outcome.fail .invalidInstructionData

/-- `size_of::<ExtraAccountMeta>()`. -/
def EXTRA_ACCOUNT_META_LEN : Nat := 35

/-- `bytemuck::from_bytes::<ExtraAccountMeta>`: any other length panics. -/
def ExtraAccountMeta.fromBytes (b : List U8) : Result ExtraAccountMeta :=
  if b.length = EXTRA_ACCOUNT_META_LEN then
    .ok ⟨b.getD 0 0, (Pubkey.ofBytes ((b.drop 1).take 32)).bits, b.getD 33 0, b.getD 34 0⟩
  else Outcome.panic

/-- The loop of tag 18, whose items are taken to be 34 bytes long. -/
def unpackExtraMetas : Nat → List U8 → Result (List ExtraAccountMeta)
  | 0, _ => .ok []
  | length + 1, rest => do
    Outcome.require (34 ≤ rest.length) .invalidInstructionData
    let extraMeta ← ExtraAccountMeta.fromBytes (rest.take 34)
    let extraAccounts ← unpackExtraMetas length (rest.drop 34)
    return extraMeta :: extraAccounts

/-- The key of tags 19 and 20, with its length tested. -/
def unpackCheckedKey (rest : List U8) : Result Pubkey := do
  Outcome.require (32 ≤ rest.length) .invalidInstructionData
  readKey rest

/-- `AmmInstruction::unpack`. -/
def AmmInstruction.unpack (input : List U8) : Result AmmInstruction :=
  match input with
  | [] => Outcome.fail .invalidInstructionData
  | tag :: rest =>
    match tag.toNat with
    | 0 => do
      let (nonce, rest) ← unpackU8 rest
      let (openTime, _) ← unpackU64 rest
      return .initialize1 nonce openTime
    | 1 => do
      let (nonce, rest) ← unpackU8 rest
      let (openTime, rest) ← unpackU64 rest
      let (initPcAmount, rest) ← unpackU64 rest
      let (initCoinAmount, _) ← unpackU64 rest
      return .initialize2 ⟨nonce, openTime, initPcAmount, initCoinAmount⟩
    | 2 => do
      let (planOrderLimit, rest) ← unpackU16 rest
      let (placeOrderLimit, rest) ← unpackU16 rest
      let (cancelOrderLimit, _) ← unpackU16 rest
      return .monitorStep ⟨planOrderLimit, placeOrderLimit, cancelOrderLimit⟩
    | 3 => do
      let (maxCoinAmount, rest) ← unpackU64 rest
      let (maxPcAmount, rest) ← unpackU64 rest
      let (baseSide, rest) ← unpackU64 rest
      if 8 ≤ rest.length then do
        let (otherAmountMin, _) ← unpackU64 rest
        return .deposit ⟨maxCoinAmount, maxPcAmount, baseSide, some otherAmountMin⟩
      else return .deposit ⟨maxCoinAmount, maxPcAmount, baseSide, none⟩
    | 4 => do
      let (amount, rest) ← unpackU64 rest
      if 16 ≤ rest.length then do
        let (minCoinAmount, rest) ← unpackU64 rest
        let (minPcAmount, _) ← unpackU64 rest
        return .withdraw ⟨amount, some minCoinAmount, some minPcAmount⟩
      else return .withdraw ⟨amount, none, none⟩
    | 5 => return .migrateToOpenBook
    | 6 => unpackSetParams rest
    | 7 => return .withdrawPnl
    | 8 => do
      let (amount, _) ← unpackU64 rest
      return .withdrawSrm ⟨amount⟩
    | 9 => do
      let (amountIn, rest) ← unpackU64 rest
      let (minimumAmountOut, _) ← unpackU64 rest
      return .swapBaseIn ⟨amountIn, minimumAmountOut⟩
    | 10 => do
      let (nonce, _) ← unpackU8 rest
      return .preInitialize nonce
    | 11 => do
      let (maxAmountIn, rest) ← unpackU64 rest
      let (amountOut, _) ← unpackU64 rest
      return .swapBaseOut ⟨maxAmountIn, amountOut⟩
    | 12 => unpackSimulateInfo rest
    | 13 => do
      let (limit, _) ← unpackU16 rest
      return .adminCancelOrders ⟨limit⟩
    | 14 => return .createConfigAccount
    | 15 => unpackUpdateConfig rest
    | 16 => unpackCreateToken2022Mint rest
    | 17 => unpackUpdateHookWhitelist rest
    | 18 => do
      let (length, rest) ← unpackU32 rest
      let extraAccounts ← unpackExtraMetas length.toNat rest
      return .initializeExtraAccountMetaList extraAccounts
    | 19 => do
      let authority ← unpackCheckedKey rest
      return .initializeHookWhitelist authority
    | 20 => do
      let newAuthority ← unpackCheckedKey rest
      return .updateWhitelistAuthority newAuthority
    | _ => Outcome.fail .invalidInstructionData

/-! ## `pack` -/

def U16.toLeBytes (n : U16) : List U8 := Words.leBytes 2 n

def U64.toLeBytes (n : U64) : List U8 := Words.leBytes 8 n

/-- `Fees::pack_into_slice`. -/
def Fees.packIntoSlice (f : Fees) : List U8 :=
  f.minSeparateNumerator.toLeBytes ++ f.minSeparateDenominator.toLeBytes ++
    f.tradeFeeNumerator.toLeBytes ++ f.tradeFeeDenominator.toLeBytes ++
    f.pnlNumerator.toLeBytes ++ f.pnlDenominator.toLeBytes ++
    f.swapFeeNumerator.toLeBytes ++ f.swapFeeDenominator.toLeBytes

/-- A field that the parameter demands. -/
def payload {α : Type} (o : Option α) : Result α := Outcome.okOr o .invalidInstructionData

/-- Tag 6 after its parameter. -/
def packSetParams (setparams : SetParamsInstruction) : Result (List U8) := do
  match ← AmmParams.fromU8 setparams.param with
  | .ammOwner => do
    let newPubkey ← payload setparams.newPubkey
    return newPubkey.toBytes
  | .fees => do
    let fees ← payload setparams.fees
    return fees.packIntoSlice
  | .lastOrderDistance => do
    let distance ← payload setparams.lastOrderDistance
    return distance.lastOrderNumerator.toLeBytes ++ distance.lastOrderDenominator.toLeBytes
  | _ => do
    let value ← payload setparams.value
    return value.toLeBytes

/-- Tag 12 after its parameter. -/
def packSimulateInfo (simulate : SimulateInstruction) : Result (List U8) := do
  match ← SimulateParams.fromU8 simulate.param with
  | .poolInfo => return []
  | .runCrankInfo => return []
  | .swapBaseInInfo => do
    let swap ← payload simulate.swapBaseInValue
    return swap.amountIn.toLeBytes ++ swap.minimumAmountOut.toLeBytes
  | .swapBaseOutInfo => do
    let swap ← payload simulate.swapBaseOutValue
    return swap.maxAmountIn.toLeBytes ++ swap.amountOut.toLeBytes

/-- Tag 15 after its parameter: the zero key is refused as an owner. -/
def packUpdateConfig (configArgs : ConfigArgs) : Result (List U8) :=
  if configArgs.param = 0 ∨ configArgs.param = 1 then do
    let owner ← payload configArgs.owner
    Outcome.require (owner ≠ Pubkey.default) .invalidInstructionData
    return owner.toBytes
  else if configArgs.param = 2 then do
    let createPoolFee ← payload configArgs.createPoolFee
    return createPoolFee.toLeBytes
  else Outcome.fail .invalidInstructionData

/-- An optional key of tag 16. -/
def packOptionalKey (key : Option Pubkey) : List U8 :=
  match key with
  | some key => key.toBytes
  | none => List.replicate 32 0

/-- A text of tag 16: its length is cut to one byte. -/
def packText (text : List U8) : List U8 := BitVec.ofNat 8 text.length :: text

/-- `bytemuck::bytes_of` of an `ExtraAccountMeta`. -/
def ExtraAccountMeta.bytesOf (m : ExtraAccountMeta) : List U8 :=
  [m.discriminator] ++ Pubkey.toBytes ⟨m.addressConfig⟩ ++ [m.isSigner, m.isWritable]

/-- The action byte of tag 17. -/
def HookWhitelistAction.toByte : HookWhitelistAction → U8
  | .add => 0
  | .remove => 1

/-- `AmmInstruction::pack`. -/
def AmmInstruction.pack : AmmInstruction → Result (List U8)
  | .initialize1 nonce openTime => .ok ([0, nonce] ++ openTime.toLeBytes)
  | .initialize2 init2 =>
    .ok ([1, init2.nonce] ++ init2.openTime.toLeBytes ++ init2.initPcAmount.toLeBytes ++
      init2.initCoinAmount.toLeBytes)
  | .monitorStep monitor =>
    .ok ([2] ++ monitor.planOrderLimit.toLeBytes ++ monitor.placeOrderLimit.toLeBytes ++
      monitor.cancelOrderLimit.toLeBytes)
  | .deposit instruction =>
    .ok ([3] ++ instruction.maxCoinAmount.toLeBytes ++ instruction.maxPcAmount.toLeBytes ++
      instruction.baseSide.toLeBytes ++
      match instruction.otherAmountMin with
      | some otherAmountMin => otherAmountMin.toLeBytes
      | none => [])
  | .withdraw instruction =>
    .ok ([4] ++ instruction.amount.toLeBytes ++
      match instruction.minCoinAmount, instruction.minPcAmount with
      | some minCoinAmount, some minPcAmount => minCoinAmount.toLeBytes ++ minPcAmount.toLeBytes
      | _, _ => [])
  | .migrateToOpenBook => .ok [5]
  | .setParams setparams => do
    let bytes ← packSetParams setparams
    return [6, setparams.param] ++ bytes
  | .withdrawPnl => .ok [7]
  | .withdrawSrm withdrawsrm => .ok ([8] ++ withdrawsrm.amount.toLeBytes)
  | .swapBaseIn swap => .ok ([9] ++ swap.amountIn.toLeBytes ++ swap.minimumAmountOut.toLeBytes)
  | .preInitialize nonce => .ok [10, nonce]
  | .swapBaseOut swap => .ok ([11] ++ swap.maxAmountIn.toLeBytes ++ swap.amountOut.toLeBytes)
  | .simulateInfo simulate => do
    let bytes ← packSimulateInfo simulate
    return [12, simulate.param] ++ bytes
  | .adminCancelOrders cancel => .ok ([13] ++ cancel.limit.toLeBytes)
  | .createConfigAccount => .ok [14]
  | .updateConfigAccount configArgs => do
    let bytes ← packUpdateConfig configArgs
    return [15, configArgs.param] ++ bytes
  | .createToken2022Mint createMint =>
    .ok ([16, createMint.decimals] ++ createMint.mintAuthority.toBytes ++
      packOptionalKey createMint.freezeAuthority ++
      packOptionalKey createMint.transferHookProgramId ++ packText createMint.name ++
      packText createMint.symbol ++ packText createMint.uri)
  | .updateHookWhitelist update =>
    .ok ([17] ++ update.hookProgramId.toBytes ++ [update.action.toByte])
  | .initializeExtraAccountMetaList extraAccounts =>
    .ok ([18] ++ U32.toLeBytes (BitVec.ofNat 32 extraAccounts.length) ++
      extraAccounts.flatMap ExtraAccountMeta.bytesOf)
  | .initializeHookWhitelist authority => .ok ([19] ++ authority.toBytes)
  | .updateWhitelistAuthority newAuthority => .ok ([20] ++ newAuthority.toBytes)

end RaydiumAmm
