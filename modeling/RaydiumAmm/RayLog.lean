import RaydiumAmm.Codec
import RaydiumAmm.RoundTrip

/-!
# The logs of the trading handlers

`encode_ray_log` prints a record as text and `decode_ray_log` reads such a text back. The handlers
take the kind of a record from one enumeration and the reader dispatches on another.

1. The records on both sides, and their formats;
2. the writer, the reader, and the records that the handlers build;
3. `roundTrips_iff`: a record is read back exactly where it carries the reader's number;
4. `handler_log_misread`: no record of a handler does.
-/

namespace RaydiumAmm

open Codec (FixedWidth TextCodec)

/-! ## 1. Records -/

namespace Args

/-- `args::DepositLog`. -/
structure DepositLog where
  logType : U8
  maxCoin : U64
  maxPc : U64
  base : U64
  poolCoin : U64
  poolPc : U64
  poolLp : U64
  calcPnlX : U128
  calcPnlY : U128
  deductCoin : U64
  deductPc : U64
  mintLp : U64
deriving DecidableEq

/-- `args::SwapBaseInLog`. -/
structure SwapBaseInLog where
  logType : U8
  amountIn : U64
  minimumOut : U64
  direction : U64
  userSource : U64
  poolCoin : U64
  poolPc : U64
  outAmount : U64
deriving DecidableEq

/-- `args::SwapBaseOutLog`. -/
structure SwapBaseOutLog where
  logType : U8
  maxIn : U64
  amountOut : U64
  direction : U64
  userSource : U64
  poolCoin : U64
  poolPc : U64
  deductIn : U64
deriving DecidableEq

/-- `args::LogType`. -/
inductive LogType where
  | deposit
  | withdraw
  | swapBaseIn
  | swapBaseOut
deriving DecidableEq

/-- `args::LogType::into_u8`. -/
def LogType.intoU8 : LogType → U8
  | deposit => 0
  | withdraw => 1
  | swapBaseIn => 2
  | swapBaseOut => 3

end Args

namespace Log

/-- `log::InitLog`. -/
structure InitLog where
  logType : U8
  time : U64
  pcDecimals : U8
  coinDecimals : U8
  pcLotSize : U64
  coinLotSize : U64
  pcAmount : U64
  coinAmount : U64
  market : Pubkey
deriving DecidableEq

/-- `log::DepositLog`. -/
structure DepositLog where
  logType : U8
  maxCoin : U64
  maxPc : U64
  base : U64
  poolCoin : U64
  poolPc : U64
  poolLp : U64
  calcPnlX : U128
  calcPnlY : U128
  deductCoin : U64
  deductPc : U64
  mintLp : U64
deriving DecidableEq

/-- `log::WithdrawLog`. -/
structure WithdrawLog where
  logType : U8
  withdrawLp : U64
  userLp : U64
  poolCoin : U64
  poolPc : U64
  poolLp : U64
  calcPnlX : U128
  calcPnlY : U128
  outCoin : U64
  outPc : U64
deriving DecidableEq

/-- `log::SwapBaseInLog`. -/
structure SwapBaseInLog where
  logType : U8
  amountIn : U64
  minimumOut : U64
  direction : U64
  userSource : U64
  poolCoin : U64
  poolPc : U64
  outAmount : U64
deriving DecidableEq

/-- `log::SwapBaseOutLog`. -/
structure SwapBaseOutLog where
  logType : U8
  maxIn : U64
  amountOut : U64
  direction : U64
  userSource : U64
  poolCoin : U64
  poolPc : U64
  deductIn : U64
deriving DecidableEq

/-- `log::LogType`. -/
inductive LogType where
  | init
  | deposit
  | withdraw
  | swapBaseIn
  | swapBaseOut
deriving DecidableEq

/-- `log::LogType::from_u8`: `unreachable!()` above 4. -/
def LogType.fromU8 (logType : U8) : Result LogType :=
  match logType.toNat with
  | 0 => .ok init
  | 1 => .ok deposit
  | 2 => .ok withdraw
  | 3 => .ok swapBaseIn
  | 4 => .ok swapBaseOut
  | _ => Outcome.panic

/-- `log::LogType::into_u8`. -/
def LogType.intoU8 : LogType → U8
  | init => 0
  | deposit => 1
  | withdraw => 2
  | swapBaseIn => 3
  | swapBaseOut => 4

/-- The two functions of the reader's enumeration invert each other. -/
theorem LogType.fromU8_eq_ok {n : U8} {t : LogType} : LogType.fromU8 n = .ok t ↔ n = t.intoU8 := by
  constructor
  · intro h
    apply BitVec.eq_of_toNat_eq
    unfold fromU8 at h
    split at h
    all_goals cases h
    all_goals assumption
  · intro h
    subst h
    cases t <;> rfl

end Log

/-! `bincode` writes the fields in order, each as a little-endian word of its width, and a key as
its 32 bytes. -/

def u8Format : FixedWidth U8 := FixedWidth.word 1 8 (by decide)

def u64Format : FixedWidth U64 := FixedWidth.word 8 64 (by decide)

def u128Format : FixedWidth U128 := FixedWidth.word 16 128 (by decide)

def pubkeyFormat : FixedWidth Pubkey where
  width := 32
  write := Pubkey.toBytes
  read b := Pubkey.ofBytes (b.take 32)
  length_write := Pubkey.length_toBytes
  read_write k rest := by rw [List.take_left' k.length_toBytes, Pubkey.ofBytes_toBytes]

def initFields : FixedWidth (U8 × U64 × U8 × U8 × U64 × U64 × U64 × U64 × Pubkey) :=
  u8Format.prod <| u64Format.prod <| u8Format.prod <| u8Format.prod <| u64Format.prod <|
    u64Format.prod <| u64Format.prod <| u64Format.prod pubkeyFormat

def depositFields : FixedWidth
    (U8 × U64 × U64 × U64 × U64 × U64 × U64 × U128 × U128 × U64 × U64 × U64) :=
  u8Format.prod <| u64Format.prod <| u64Format.prod <| u64Format.prod <| u64Format.prod <|
    u64Format.prod <| u64Format.prod <| u128Format.prod <| u128Format.prod <| u64Format.prod <|
    u64Format.prod u64Format

def withdrawFields : FixedWidth (U8 × U64 × U64 × U64 × U64 × U64 × U128 × U128 × U64 × U64) :=
  u8Format.prod <| u64Format.prod <| u64Format.prod <| u64Format.prod <| u64Format.prod <|
    u64Format.prod <| u128Format.prod <| u128Format.prod <| u64Format.prod u64Format

def swapFields : FixedWidth (U8 × U64 × U64 × U64 × U64 × U64 × U64 × U64) :=
  u8Format.prod <| u64Format.prod <| u64Format.prod <| u64Format.prod <| u64Format.prod <|
    u64Format.prod <| u64Format.prod u64Format

def Args.DepositLog.format : FixedWidth Args.DepositLog :=
  depositFields.record
    (fun (a, b, c, d, e, f, g, h, i, j, k, l) => ⟨a, b, c, d, e, f, g, h, i, j, k, l⟩)
    (fun r => (r.logType, r.maxCoin, r.maxPc, r.base, r.poolCoin, r.poolPc, r.poolLp, r.calcPnlX,
      r.calcPnlY, r.deductCoin, r.deductPc, r.mintLp))
    fun _ => rfl

def Args.SwapBaseInLog.format : FixedWidth Args.SwapBaseInLog :=
  swapFields.record
    (fun (a, b, c, d, e, f, g, h) => ⟨a, b, c, d, e, f, g, h⟩)
    (fun r => (r.logType, r.amountIn, r.minimumOut, r.direction, r.userSource, r.poolCoin,
      r.poolPc, r.outAmount))
    fun _ => rfl

def Args.SwapBaseOutLog.format : FixedWidth Args.SwapBaseOutLog :=
  swapFields.record
    (fun (a, b, c, d, e, f, g, h) => ⟨a, b, c, d, e, f, g, h⟩)
    (fun r => (r.logType, r.maxIn, r.amountOut, r.direction, r.userSource, r.poolCoin, r.poolPc,
      r.deductIn))
    fun _ => rfl

def Log.InitLog.format : FixedWidth Log.InitLog :=
  initFields.record
    (fun (a, b, c, d, e, f, g, h, i) => ⟨a, b, c, d, e, f, g, h, i⟩)
    (fun r => (r.logType, r.time, r.pcDecimals, r.coinDecimals, r.pcLotSize, r.coinLotSize,
      r.pcAmount, r.coinAmount, r.market))
    fun _ => rfl

def Log.DepositLog.format : FixedWidth Log.DepositLog :=
  depositFields.record
    (fun (a, b, c, d, e, f, g, h, i, j, k, l) => ⟨a, b, c, d, e, f, g, h, i, j, k, l⟩)
    (fun r => (r.logType, r.maxCoin, r.maxPc, r.base, r.poolCoin, r.poolPc, r.poolLp, r.calcPnlX,
      r.calcPnlY, r.deductCoin, r.deductPc, r.mintLp))
    fun _ => rfl

def Log.WithdrawLog.format : FixedWidth Log.WithdrawLog :=
  withdrawFields.record
    (fun (a, b, c, d, e, f, g, h, i, j) => ⟨a, b, c, d, e, f, g, h, i, j⟩)
    (fun r => (r.logType, r.withdrawLp, r.userLp, r.poolCoin, r.poolPc, r.poolLp, r.calcPnlX,
      r.calcPnlY, r.outCoin, r.outPc))
    fun _ => rfl

def Log.SwapBaseInLog.format : FixedWidth Log.SwapBaseInLog :=
  swapFields.record
    (fun (a, b, c, d, e, f, g, h) => ⟨a, b, c, d, e, f, g, h⟩)
    (fun r => (r.logType, r.amountIn, r.minimumOut, r.direction, r.userSource, r.poolCoin,
      r.poolPc, r.outAmount))
    fun _ => rfl

def Log.SwapBaseOutLog.format : FixedWidth Log.SwapBaseOutLog :=
  swapFields.record
    (fun (a, b, c, d, e, f, g, h) => ⟨a, b, c, d, e, f, g, h⟩)
    (fun r => (r.logType, r.maxIn, r.amountOut, r.direction, r.userSource, r.poolCoin, r.poolPc,
      r.deductIn))
    fun _ => rfl

/-! ## 2. Writer and reader -/

def LOG_SIZE : ℕ := 256

/-- The length of `ray_log: `. -/
def RAY_LOG_PREFIX_LEN : ℕ := 9

/-- `encode_ray_log`: the text that follows the prefix in the printed message. A text longer than
    its buffer panics in `encode_config_slice`, and a message longer than `LOG_SIZE` in
    `arrform!`. -/
def encodeRayLog {α : Type} (base64 : TextCodec) (format : FixedWidth α) (log : α) :
    Result (List Char) :=
  let bytes := format.write log
  let msgStr := base64.encode bytes
  if msgStr.length ≤ bytes.length * 4 / 3 + 4 ∧ RAY_LOG_PREFIX_LEN + msgStr.length ≤ LOG_SIZE then
    .ok msgStr
  else Outcome.panic

/-- What `decode_ray_log` prints. -/
inductive RayLog where
  | init (log : Log.InitLog)
  | deposit (log : Log.DepositLog)
  | withdraw (log : Log.WithdrawLog)
  | swapBaseIn (log : Log.SwapBaseInLog)
  | swapBaseOut (log : Log.SwapBaseOutLog)
deriving DecidableEq

/-- `bincode::deserialize(&bytes).unwrap()`, under one of the reader's kinds. -/
def deserializeAs {α : Type} (format : FixedWidth α) (kind : α → RayLog) (bytes : List U8) :
    Result RayLog := do
  let log ← Outcome.unwrap (format.deserialize bytes)
  return kind log

/-- The arms of `decode_ray_log`. -/
def decodeArm (logType : Log.LogType) (bytes : List U8) : Result RayLog :=
  match logType with
  | .init => deserializeAs Log.InitLog.format .init bytes
  | .deposit => deserializeAs Log.DepositLog.format .deposit bytes
  | .withdraw => deserializeAs Log.WithdrawLog.format .withdraw bytes
  | .swapBaseIn => deserializeAs Log.SwapBaseInLog.format .swapBaseIn bytes
  | .swapBaseOut => deserializeAs Log.SwapBaseOutLog.format .swapBaseOut bytes

/-- `decode_ray_log`: the first byte chooses the record type for all of the bytes. -/
def decodeRayLog (base64 : TextCodec) (log : List Char) : Result RayLog := do
  let bytes ← Outcome.unwrap (base64.decode log)
  let first ← Outcome.unwrap bytes.head?
  let logType ← Log.LogType.fromU8 first
  decodeArm logType bytes

/-- A record of one of the trading handlers. `process_withdraw` takes its record type from the
    reader's module, the others take theirs from `args`. -/
inductive TradeLog where
  | deposit (log : Args.DepositLog)
  | withdraw (log : Log.WithdrawLog)
  | swapBaseIn (log : Args.SwapBaseInLog)
  | swapBaseOut (log : Args.SwapBaseOutLog)
deriving DecidableEq

namespace TradeLog

def encode (base64 : TextCodec) : TradeLog → Result (List Char)
  | deposit log => encodeRayLog base64 Args.DepositLog.format log
  | withdraw log => encodeRayLog base64 Log.WithdrawLog.format log
  | swapBaseIn log => encodeRayLog base64 Args.SwapBaseInLog.format log
  | swapBaseOut log => encodeRayLog base64 Args.SwapBaseOutLog.format log

/-- The number that the record carries. -/
def logType : TradeLog → U8
  | deposit log => log.logType
  | withdraw log => log.logType
  | swapBaseIn log => log.logType
  | swapBaseOut log => log.logType

/-- The operation of the record, as the handlers name it. -/
def operation : TradeLog → Args.LogType
  | deposit _ => .deposit
  | withdraw _ => .withdraw
  | swapBaseIn _ => .swapBaseIn
  | swapBaseOut _ => .swapBaseOut

/-- The operation of the record, as the reader names it. -/
def kind : TradeLog → Log.LogType
  | deposit _ => .deposit
  | withdraw _ => .withdraw
  | swapBaseIn _ => .swapBaseIn
  | swapBaseOut _ => .swapBaseOut

/-- The reader's record of the same operation with the same fields. -/
def toRayLog : TradeLog → RayLog
  | deposit log => .deposit
    { logType := log.logType, maxCoin := log.maxCoin, maxPc := log.maxPc, base := log.base
      poolCoin := log.poolCoin, poolPc := log.poolPc, poolLp := log.poolLp
      calcPnlX := log.calcPnlX, calcPnlY := log.calcPnlY
      deductCoin := log.deductCoin, deductPc := log.deductPc, mintLp := log.mintLp }
  | withdraw log => .withdraw log
  | swapBaseIn log => .swapBaseIn
    { logType := log.logType, amountIn := log.amountIn, minimumOut := log.minimumOut
      direction := log.direction, userSource := log.userSource
      poolCoin := log.poolCoin, poolPc := log.poolPc, outAmount := log.outAmount }
  | swapBaseOut log => .swapBaseOut
    { logType := log.logType, maxIn := log.maxIn, amountOut := log.amountOut
      direction := log.direction, userSource := log.userSource
      poolCoin := log.poolCoin, poolPc := log.poolPc, deductIn := log.deductIn }

/-- The reader does not panic on the text of the record, and prints the record of the same
    operation with every field. -/
def RoundTrips (base64 : TextCodec) (log : TradeLog) : Prop :=
  ∃ text, log.encode base64 = .ok text ∧ decodeRayLog base64 text = .ok log.toRayLog

end TradeLog

/-- `swap_direction as u64`. -/
def SwapDirection.toU64 : SwapDirection → U64
  | .pc2Coin => 1
  | .coin2Pc => 2

/-- The records that the handlers hand to `encode_ray_log`, each with the `LogType` of `args`. The
    amounts that a handler has not computed at one of its exits are any words. -/
inductive HandlerLog : TradeLog → Prop
  | deposit (deposit : DepositInstruction) (poolCoin poolPc poolLp : U64) (calcPnlX calcPnlY : U128)
      (deductCoin deductPc mintLp : U64) :
      HandlerLog <| .deposit
        { logType := Args.LogType.deposit.intoU8
          maxCoin := deposit.maxCoinAmount, maxPc := deposit.maxPcAmount, base := deposit.baseSide
          poolCoin := poolCoin, poolPc := poolPc, poolLp := poolLp
          calcPnlX := calcPnlX, calcPnlY := calcPnlY
          deductCoin := deductCoin, deductPc := deductPc, mintLp := mintLp }
  | withdraw (withdraw : WithdrawInstruction) (userLp poolCoin poolPc poolLp : U64)
      (calcPnlX calcPnlY : U128) (outCoin outPc : U64) :
      HandlerLog <| .withdraw
        { logType := Args.LogType.withdraw.intoU8
          withdrawLp := withdraw.amount, userLp := userLp
          poolCoin := poolCoin, poolPc := poolPc, poolLp := poolLp
          calcPnlX := calcPnlX, calcPnlY := calcPnlY, outCoin := outCoin, outPc := outPc }
  | swapBaseIn (swap : SwapInstructionBaseIn) (swapDirection : SwapDirection)
      (userSource poolCoin poolPc outAmount : U64) :
      HandlerLog <| .swapBaseIn
        { logType := Args.LogType.swapBaseIn.intoU8
          amountIn := swap.amountIn, minimumOut := swap.minimumAmountOut
          direction := swapDirection.toU64, userSource := userSource
          poolCoin := poolCoin, poolPc := poolPc, outAmount := outAmount }
  | swapBaseOut (swap : SwapInstructionBaseOut) (swapDirection : SwapDirection)
      (userSource poolCoin poolPc deductIn : U64) :
      HandlerLog <| .swapBaseOut
        { logType := Args.LogType.swapBaseOut.intoU8
          maxIn := swap.maxAmountIn, amountOut := swap.amountOut
          direction := swapDirection.toU64, userSource := userSource
          poolCoin := poolCoin, poolPc := poolPc, deductIn := deductIn }

/-! ## 3. When a record is read back -/

theorem encodeRayLog_eq {α : Type} {format : FixedWidth α} (base64 : TextCodec) (log : α)
    (h : format.width ≤ 183) :
    encodeRayLog base64 format log = .ok (base64.encode (format.write log)) := by
  have htext := base64.length_encode (format.write log)
  rw [format.length_write] at htext
  have hbuffer : (base64.encode (format.write log)).length ≤
      (format.write log).length * 4 / 3 + 4 := by
    rw [htext, format.length_write]
    omega
  have hmessage : RAY_LOG_PREFIX_LEN + (base64.encode (format.write log)).length ≤ LOG_SIZE := by
    rw [htext, RAY_LOG_PREFIX_LEN, LOG_SIZE]
    omega
  exact if_pos ⟨hbuffer, hmessage⟩

section DeserializeAs

variable {α : Type} {format : FixedWidth α} {kind : α → RayLog} {bytes : List U8}

theorem deserializeAs_write (format : FixedWidth α) (kind : α → RayLog) (log : α) :
    deserializeAs format kind (format.write log) = .ok (kind log) := by
  rw [deserializeAs, format.deserialize_write]
  rfl

theorem deserializeAs_of_le (h : format.width ≤ bytes.length) :
    deserializeAs format kind bytes = .ok (kind (format.read bytes)) := by
  rw [deserializeAs, format.deserialize_of_le h]
  rfl

theorem deserializeAs_of_lt (h : bytes.length < format.width) :
    deserializeAs format kind bytes = Outcome.panic := by
  rw [deserializeAs, format.deserialize_of_lt h]
  rfl

theorem exists_of_deserializeAs {r : RayLog} (h : deserializeAs format kind bytes = .ok r) :
    ∃ log, kind log = r := by
  rw [deserializeAs, Outcome.bind_eq_ok] at h
  obtain ⟨log, -, h⟩ := h
  exact ⟨log, Outcome.pure_eq_ok.mp h⟩

end DeserializeAs

namespace RayLog

/-- The kind of a printed record. -/
def kind : RayLog → Log.LogType
  | init _ => .init
  | deposit _ => .deposit
  | withdraw _ => .withdraw
  | swapBaseIn _ => .swapBaseIn
  | swapBaseOut _ => .swapBaseOut

/-- The bytes that the reader's own record has. -/
def bytes : RayLog → List U8
  | init log => Log.InitLog.format.write log
  | deposit log => Log.DepositLog.format.write log
  | withdraw log => Log.WithdrawLog.format.write log
  | swapBaseIn log => Log.SwapBaseInLog.format.write log
  | swapBaseOut log => Log.SwapBaseOutLog.format.write log

/-- An arm recovers a record of its kind. -/
theorem decodeArm_bytes (r : RayLog) : decodeArm r.kind r.bytes = .ok r := by
  cases r with
  | init log => exact deserializeAs_write Log.InitLog.format .init log
  | deposit log => exact deserializeAs_write Log.DepositLog.format .deposit log
  | withdraw log => exact deserializeAs_write Log.WithdrawLog.format .withdraw log
  | swapBaseIn log => exact deserializeAs_write Log.SwapBaseInLog.format .swapBaseIn log
  | swapBaseOut log => exact deserializeAs_write Log.SwapBaseOutLog.format .swapBaseOut log

/-- An arm prints a record of its own kind. -/
theorem kind_of_decodeArm {t : Log.LogType} {bytes : List U8} {r : RayLog}
    (h : decodeArm t bytes = .ok r) : r.kind = t := by
  cases t
  all_goals
    obtain ⟨log, rfl⟩ := exists_of_deserializeAs h
    rfl

end RayLog

namespace TradeLog

variable {base64 : TextCodec}

/-- The bytes under the text of a record. -/
def bytes : TradeLog → List U8
  | deposit log => Args.DepositLog.format.write log
  | withdraw log => Log.WithdrawLog.format.write log
  | swapBaseIn log => Args.SwapBaseInLog.format.write log
  | swapBaseOut log => Args.SwapBaseOutLog.format.write log

theorem encode_eq (base64 : TextCodec) (log : TradeLog) :
    log.encode base64 = .ok (base64.encode log.bytes) := by
  cases log with
  | deposit log => exact encodeRayLog_eq base64 log (by decide)
  | withdraw log => exact encodeRayLog_eq base64 log (by decide)
  | swapBaseIn log => exact encodeRayLog_eq base64 log (by decide)
  | swapBaseOut log => exact encodeRayLog_eq base64 log (by decide)

theorem head?_bytes (log : TradeLog) : log.bytes.head? = some log.logType := by
  have hone : ∀ (x : U8) (rest : List U8), (Words.leBytes 1 x ++ rest).head? = some x := by
    intro x rest
    simp [Words.leBytes]
  cases log with
  | deposit log => exact hone log.logType _
  | withdraw log => exact hone log.logType _
  | swapBaseIn log => exact hone log.logType _
  | swapBaseOut log => exact hone log.logType _

/-- The reader sees the bytes of the record, and chooses by the number in it. -/
theorem decodeRayLog_encode (base64 : TextCodec) (log : TradeLog) :
    decodeRayLog base64 (base64.encode log.bytes) =
      (Log.LogType.fromU8 log.logType >>= fun t => decodeArm t log.bytes) := by
  rw [decodeRayLog, base64.decode_encode]
  show (Outcome.unwrap log.bytes.head? >>= fun first =>
    Log.LogType.fromU8 first >>= fun t => decodeArm t log.bytes) = _
  rw [head?_bytes]
  rfl

theorem kind_toRayLog (log : TradeLog) : log.toRayLog.kind = log.kind := by
  cases log <;> rfl

/-- The formats of both sides agree. -/
theorem bytes_toRayLog (log : TradeLog) : log.toRayLog.bytes = log.bytes := by
  cases log <;> rfl

/-- A record is read back exactly where it carries the number that the reader gives to its
    operation. -/
theorem roundTrips_iff {log : TradeLog} :
    log.RoundTrips base64 ↔ log.logType = log.kind.intoU8 := by
  rw [RoundTrips, encode_eq]
  constructor
  · rintro ⟨text, htext, hread⟩
    cases htext
    rw [decodeRayLog_encode, Outcome.bind_eq_ok] at hread
    obtain ⟨t, ht, harm⟩ := hread
    have hkind := RayLog.kind_of_decodeArm harm
    rw [kind_toRayLog] at hkind
    rw [hkind]
    exact Log.LogType.fromU8_eq_ok.mp ht
  · intro h
    refine ⟨_, rfl, ?_⟩
    rw [decodeRayLog_encode, Log.LogType.fromU8_eq_ok.mpr h, Outcome.ok_bind]
    rw [← kind_toRayLog, ← bytes_toRayLog]
    exact RayLog.decodeArm_bytes log.toRayLog

end TradeLog

/-! ## 4. The records of the handlers -/

theorem handlerLog_logType {log : TradeLog} (h : HandlerLog log) :
    log.logType = log.operation.intoU8 := by
  cases h <;> rfl

/-- The two enumerations number every operation differently. -/
theorem operation_intoU8_ne (log : TradeLog) : log.operation.intoU8 ≠ log.kind.intoU8 := by
  cases log with
  | deposit log => exact show (0 : U8) ≠ 1 by decide
  | withdraw log => exact show (1 : U8) ≠ 2 by decide
  | swapBaseIn log => exact show (2 : U8) ≠ 3 by decide
  | swapBaseOut log => exact show (3 : U8) ≠ 4 by decide

/-- What the reader makes of a record of a handler: a deposit is printed as the creation of a pool
    whose fields are the front of its bytes, a swap of an exact output as one of an exact input,
    and the other two are too short for the arm that the reader takes. -/
def TradeLog.misread : TradeLog → Result RayLog
  | deposit log => .ok (.init (Log.InitLog.format.read (Args.DepositLog.format.write log)))
  | withdraw _ => Outcome.panic
  | swapBaseIn _ => Outcome.panic
  | swapBaseOut log => .ok <| .swapBaseIn
    { logType := log.logType, amountIn := log.maxIn, minimumOut := log.amountOut
      direction := log.direction, userSource := log.userSource
      poolCoin := log.poolCoin, poolPc := log.poolPc, outAmount := log.deductIn }

theorem decodeRayLog_of_handlerLog (base64 : TextCodec) {log : TradeLog} (h : HandlerLog log) :
    decodeRayLog base64 (base64.encode log.bytes) = log.misread := by
  rw [TradeLog.decodeRayLog_encode, handlerLog_logType h]
  cases log with
  | deposit log =>
    show deserializeAs Log.InitLog.format .init (Args.DepositLog.format.write log) = _
    apply deserializeAs_of_le
    rw [Args.DepositLog.format.length_write]
    decide
  | withdraw log =>
    show deserializeAs Log.DepositLog.format .deposit (Log.WithdrawLog.format.write log) = _
    apply deserializeAs_of_lt
    rw [Log.WithdrawLog.format.length_write]
    decide
  | swapBaseIn log =>
    show deserializeAs Log.WithdrawLog.format .withdraw (Args.SwapBaseInLog.format.write log) = _
    apply deserializeAs_of_lt
    rw [Args.SwapBaseInLog.format.length_write]
    decide
  | swapBaseOut log =>
    exact deserializeAs_write Log.SwapBaseInLog.format .swapBaseIn
      ⟨log.logType, log.maxIn, log.amountOut, log.direction, log.userSource, log.poolCoin,
        log.poolPc, log.deductIn⟩

/-- No record that a handler builds is read back as what it is. -/
theorem handler_log_misread (base64 : TextCodec) {log : TradeLog} (h : HandlerLog log) :
    ¬log.RoundTrips base64 := by
  rw [TradeLog.roundTrips_iff, handlerLog_logType h]
  exact operation_intoU8_ne log

/-- A withdraw of one LP token from a pool of four, at a million a side. -/
theorem handler_log_misread_withdraw :
    ¬TradeLog.RoundTrips Codec.standard (.withdraw
      { logType := Args.LogType.withdraw.intoU8, withdrawLp := 1, userLp := 1
        poolCoin := 1000000, poolPc := 1000000, poolLp := 4, calcPnlX := 0, calcPnlY := 0
        outCoin := 250000, outPc := 250000 }) :=
  handler_log_misread Codec.standard (.withdraw ⟨1, none, none⟩ 1 1000000 1000000 4 0 0 250000 250000)

/-- Not every record of a handler survives the trip: the text of that one aborts the reader. -/
theorem withdraw_log_panics :
    ¬∀ log : TradeLog, HandlerLog log → log.RoundTrips Codec.standard := by
  intro hall
  obtain ⟨text, htext, hread⟩ :=
    hall _ (.withdraw ⟨1, none, none⟩ 1 1000000 1000000 4 0 0 250000 250000)
  rw [TradeLog.encode_eq] at htext
  cases htext
  rw [decodeRayLog_of_handlerLog Codec.standard
    (.withdraw ⟨1, none, none⟩ 1 1000000 1000000 4 0 0 250000 250000)] at hread
  cases hread

end RaydiumAmm
