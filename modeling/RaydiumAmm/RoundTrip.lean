import RaydiumAmm.Encoding

/-!
# Round trips of the instruction encoding

What `pack` writes `unpack` reads back, for the instructions that carry what their parameter needs.

1. Reading a field from the front of a stream that starts with its bytes.
2. `Canonical`: the instructions in question.
3. `unpack_pack`: the round trip, and that the encoding is injective.
-/

namespace RaydiumAmm

/-! ## 1. Fields -/

@[simp] theorem payload_some {α : Type} (a : α) : payload (some a) = .ok a := rfl

/-- A length test that an encoding passes. -/
theorem require_length {n : Nat} {bytes : List U8} {e : ProgramError} (h : n ≤ bytes.length) :
    (Outcome.require (n ≤ bytes.length) e : Result Unit) = .ok () :=
  Outcome.require_pos h

theorem Pubkey.toBytes_eq (k : Pubkey) : k.toBytes = (Words.leBytes 32 k.bits).reverse := by
  refine List.ext_getElem (by simp [Pubkey.toBytes]) fun i hi _ => ?_
  simp only [Pubkey.toBytes, Words.leBytes, List.getElem_map, List.getElem_range,
    List.getElem_reverse, List.length_map, List.length_range]

@[simp] theorem Pubkey.length_toBytes (k : Pubkey) : k.toBytes.length = 32 := by
  simp [Pubkey.toBytes]

@[simp] theorem Pubkey.ofBytes_toBytes (k : Pubkey) : Pubkey.ofBytes k.toBytes = k := by
  rw [Pubkey.toBytes_eq]
  exact congrArg Pubkey.mk (Words.ofBeBytes_reverse_leBytes (by decide) k.bits)

theorem unpackWord_append {n w : Nat} (h : w ≤ 8 * n) (x : BitVec w) (rest : List U8) :
    unpackWord n w (Words.leBytes n x ++ rest) = .ok (x, rest) := by
  have hlen : n ≤ (Words.leBytes n x ++ rest).length := by simp
  rw [unpackWord, if_pos hlen, List.take_left' (Words.length_leBytes n x),
    List.drop_left' (Words.length_leBytes n x), Words.ofLeBytes_leBytes h]

@[simp] theorem unpackU8_cons (b : U8) (rest : List U8) : unpackU8 (b :: rest) = .ok (b, rest) := by
  have hb : Words.leBytes 1 b = [b] := by
    refine List.ext_getElem (by simp) fun i hi _ => ?_
    obtain rfl : i = 0 := by simpa using hi
    simp [Words.leBytes]
  have h : unpackWord 1 8 (Words.leBytes 1 b ++ rest) = .ok (b, rest) :=
    unpackWord_append (by decide) b rest
  rwa [hb] at h

@[simp] theorem U16.length_toLeBytes (n : U16) : n.toLeBytes.length = 2 :=
  Words.length_leBytes 2 n

@[simp] theorem U64.length_toLeBytes (n : U64) : n.toLeBytes.length = 8 :=
  Words.length_leBytes 8 n

@[simp] theorem unpackU16_append (n : U16) (rest : List U8) :
    unpackU16 (n.toLeBytes ++ rest) = .ok (n, rest) :=
  unpackWord_append (by decide) n rest

@[simp] theorem unpackU16_toLeBytes (n : U16) : unpackU16 n.toLeBytes = .ok (n, []) := by
  have h := unpackU16_append n []
  rwa [List.append_nil] at h

@[simp] theorem unpackU64_append (n : U64) (rest : List U8) :
    unpackU64 (n.toLeBytes ++ rest) = .ok (n, rest) :=
  unpackWord_append (by decide) n rest

@[simp] theorem unpackU64_toLeBytes (n : U64) : unpackU64 n.toLeBytes = .ok (n, []) := by
  have h := unpackU64_append n []
  rwa [List.append_nil] at h

@[simp] theorem readKey_append (k : Pubkey) (rest : List U8) :
    readKey (k.toBytes ++ rest) = .ok k := by
  have hlen : 32 ≤ (k.toBytes ++ rest).length := by simp
  have htake : (k.toBytes ++ rest).take 32 = k.toBytes := List.take_left' k.length_toBytes
  simp only [readKey, arrayRef, if_pos hlen, Outcome.ok_bind, htake, Pubkey.ofBytes_toBytes]
  rfl

@[simp] theorem readKey_toBytes (k : Pubkey) : readKey k.toBytes = .ok k := by
  have h := readKey_append k []
  rwa [List.append_nil] at h

@[simp] theorem sliceFrom_append (k : Pubkey) (rest : List U8) :
    sliceFrom 32 (k.toBytes ++ rest) = .ok rest := by
  have hlen : 32 ≤ (k.toBytes ++ rest).length := by simp
  rw [sliceFrom, if_pos hlen, List.drop_left' k.length_toBytes]

theorem Fees.packIntoSlice_eq (f : Fees) :
    f.packIntoSlice = [f.minSeparateNumerator, f.minSeparateDenominator, f.tradeFeeNumerator,
      f.tradeFeeDenominator, f.pnlNumerator, f.pnlDenominator, f.swapFeeNumerator,
      f.swapFeeDenominator].flatMap U64.toLeBytes := by
  simp [Fees.packIntoSlice]

@[simp] theorem Fees.length_packIntoSlice (f : Fees) : f.packIntoSlice.length = FEES_LEN := by
  simp [Fees.packIntoSlice, FEES_LEN]

/-- The eight fees are read back. -/
@[simp] theorem Fees.unpackFromSlice_packIntoSlice (f : Fees) :
    Fees.unpackFromSlice f.packIntoSlice = f := by
  have hfield : ∀ i (hi : i < 8), Words.ofLeBytes 64 ((f.packIntoSlice.drop (8 * i)).take 8) =
      [f.minSeparateNumerator, f.minSeparateDenominator, f.tradeFeeNumerator,
        f.tradeFeeDenominator, f.pnlNumerator, f.pnlDenominator, f.swapFeeNumerator,
        f.swapFeeDenominator][i] := by
    intro i hi
    rw [Fees.packIntoSlice_eq, Words.take_drop_flatMap U64.length_toLeBytes hi]
    exact Words.ofLeBytes_leBytes (by decide) _
  simp only [Fees.unpackFromSlice, hfield 0 (by decide), hfield 1 (by decide),
    hfield 2 (by decide), hfield 3 (by decide), hfield 4 (by decide), hfield 5 (by decide),
    hfield 6 (by decide), hfield 7 (by decide)]
  rfl

/-! ## 2. Canonical instructions -/

/-- The request carries the payload of its parameter and nothing else. -/
def SetParamsInstruction.Canonical (s : SetParamsInstruction) : Prop :=
  match AmmParams.fromU8 s.param with
  | .ok .ammOwner => ∃ key, s = ⟨s.param, none, some key, none, none⟩
  | .ok .fees => ∃ fees, s = ⟨s.param, none, none, some fees, none⟩
  | .ok .lastOrderDistance => ∃ distance, s = ⟨s.param, none, none, none, some distance⟩
  | .ok _ => ∃ value, s = ⟨s.param, some value, none, none, none⟩
  | .error _ => False

/-- The same for a simulation. -/
def SimulateInstruction.Canonical (s : SimulateInstruction) : Prop :=
  match SimulateParams.fromU8 s.param with
  | .ok .poolInfo => s = ⟨s.param, none, none⟩
  | .ok .runCrankInfo => s = ⟨s.param, none, none⟩
  | .ok .swapBaseInInfo => ∃ swap, s = ⟨s.param, some swap, none⟩
  | .ok .swapBaseOutInfo => ∃ swap, s = ⟨s.param, none, some swap⟩
  | .error _ => False

/-- The same for an update of the config: an owner, which is not the zero key, or a fee. -/
def ConfigArgs.Canonical (c : ConfigArgs) : Prop :=
  ((c.param = 0 ∨ c.param = 1) ∧
    ∃ owner, owner ≠ Pubkey.default ∧ c = ⟨c.param, some owner, none⟩) ∨
  (c.param = 2 ∧ ∃ createPoolFee, c = ⟨c.param, none, some createPoolFee⟩)

/-- The instructions of tags 0 to 15, 17, 19 and 20 in canonical form. -/
def AmmInstruction.Canonical : AmmInstruction → Prop
  | .setParams s => s.Canonical
  | .simulateInfo s => s.Canonical
  | .updateConfigAccount c => c.Canonical
  | .withdraw w => w.minCoinAmount.isSome = w.minPcAmount.isSome
  | .createToken2022Mint _ => False
  | .initializeExtraAccountMetaList _ => False
  | _ => True

/-! ## 3. The round trip -/

theorem unpackSetParams_of_pack {s : SetParamsInstruction} (h : s.Canonical) :
    ∃ bytes, packSetParams s = .ok bytes ∧
      unpackSetParams (s.param :: bytes) = .ok (.setParams s) := by
  obtain ⟨param, value, newPubkey, fees, distance⟩ := s
  unfold SetParamsInstruction.Canonical at h
  split at h
  case h_1 hparam =>
    obtain ⟨key, hs⟩ := h
    cases hs
    have hlen : 32 ≤ key.toBytes.length := by simp
    refine ⟨key.toBytes, ?_, ?_⟩
    · simp only [packSetParams, hparam, Outcome.ok_bind, payload_some]
      rfl
    · simp only [unpackSetParams, unpackU8_cons, Outcome.ok_bind, hparam, require_length hlen,
        readKey_toBytes]
      rfl
  case h_2 hparam =>
    obtain ⟨fees, hs⟩ := h
    cases hs
    have hlen : FEES_LEN ≤ fees.packIntoSlice.length := by simp
    have htake : fees.packIntoSlice.take FEES_LEN = fees.packIntoSlice :=
      List.take_of_length_le (by simp)
    refine ⟨fees.packIntoSlice, ?_, ?_⟩
    · simp only [packSetParams, hparam, Outcome.ok_bind, payload_some]
      rfl
    · simp only [unpackSetParams, unpackU8_cons, Outcome.ok_bind, hparam, require_length hlen,
        htake, Fees.unpackFromSlice_packIntoSlice]
      rfl
  case h_3 hparam =>
    obtain ⟨⟨numerator, denominator⟩, hs⟩ := h
    cases hs
    have hlen : 16 ≤ (numerator.toLeBytes ++ denominator.toLeBytes).length := by simp
    refine ⟨numerator.toLeBytes ++ denominator.toLeBytes, ?_, ?_⟩
    · simp only [packSetParams, hparam, Outcome.ok_bind, payload_some]
      rfl
    · simp only [unpackSetParams, unpackU8_cons, Outcome.ok_bind, hparam, require_length hlen,
        unpackU64_append, unpackU64_toLeBytes]
      rfl
  case h_4 p hkey hfees hdistance hparam =>
    obtain ⟨value, hs⟩ := h
    cases hs
    have hlen : 8 ≤ value.toLeBytes.length := by simp
    refine ⟨value.toLeBytes, ?_, ?_⟩
    · simp only [packSetParams, hparam, Outcome.ok_bind, payload_some]
      cases p <;> rfl
    · simp only [unpackSetParams, unpackU8_cons, Outcome.ok_bind, hparam, require_length hlen,
        unpackU64_toLeBytes]
      cases p <;> rfl
  case h_5 => exact h.elim

theorem unpackSimulateInfo_of_pack {s : SimulateInstruction} (h : s.Canonical) :
    ∃ bytes, packSimulateInfo s = .ok bytes ∧
      unpackSimulateInfo (s.param :: bytes) = .ok (.simulateInfo s) := by
  obtain ⟨param, swapBaseIn, swapBaseOut⟩ := s
  unfold SimulateInstruction.Canonical at h
  split at h
  case h_1 hparam =>
    cases h
    refine ⟨[], ?_, ?_⟩
    · simp only [packSimulateInfo, hparam, Outcome.ok_bind]
      rfl
    · simp only [unpackSimulateInfo, unpackU8_cons, Outcome.ok_bind, hparam]
      rfl
  case h_2 hparam =>
    cases h
    refine ⟨[], ?_, ?_⟩
    · simp only [packSimulateInfo, hparam, Outcome.ok_bind]
      rfl
    · simp only [unpackSimulateInfo, unpackU8_cons, Outcome.ok_bind, hparam]
      rfl
  case h_3 hparam =>
    obtain ⟨⟨amountIn, minimumAmountOut⟩, hs⟩ := h
    cases hs
    refine ⟨amountIn.toLeBytes ++ minimumAmountOut.toLeBytes, ?_, ?_⟩
    · simp only [packSimulateInfo, hparam, Outcome.ok_bind, payload_some]
      rfl
    · simp only [unpackSimulateInfo, unpackU8_cons, Outcome.ok_bind, hparam, unpackU64_append,
        unpackU64_toLeBytes]
      rfl
  case h_4 hparam =>
    obtain ⟨⟨maxAmountIn, amountOut⟩, hs⟩ := h
    cases hs
    refine ⟨maxAmountIn.toLeBytes ++ amountOut.toLeBytes, ?_, ?_⟩
    · simp only [packSimulateInfo, hparam, Outcome.ok_bind, payload_some]
      rfl
    · simp only [unpackSimulateInfo, unpackU8_cons, Outcome.ok_bind, hparam, unpackU64_append,
        unpackU64_toLeBytes]
      rfl
  case h_5 => exact h.elim

theorem unpackUpdateConfig_of_pack {c : ConfigArgs} (h : c.Canonical) :
    ∃ bytes, packUpdateConfig c = .ok bytes ∧
      unpackUpdateConfig (c.param :: bytes) = .ok (.updateConfigAccount c) := by
  obtain ⟨param, owner, createPoolFee⟩ := c
  rcases h with ⟨hparam, owner, howner, hc⟩ | ⟨hparam, createPoolFee, hc⟩
  · cases hc
    refine ⟨owner.toBytes, ?_, ?_⟩
    · simp only [packUpdateConfig, if_pos hparam, payload_some, Outcome.ok_bind,
        Outcome.require_pos howner]
      rfl
    · simp only [unpackUpdateConfig, unpackU8_cons, Outcome.ok_bind, if_pos hparam,
        readKey_toBytes]
      rfl
  · cases hc
    cases hparam
    refine ⟨createPoolFee.toLeBytes, ?_, ?_⟩
    · rfl
    · simp only [unpackUpdateConfig, unpackU8_cons, Outcome.ok_bind, unpackU64_toLeBytes]
      rfl

/-- What `pack` writes for a canonical instruction `unpack` reads back. -/
theorem AmmInstruction.unpack_of_pack {i : AmmInstruction} (h : i.Canonical) :
    ∃ b, i.pack = .ok b ∧ AmmInstruction.unpack b = .ok i := by
  cases i with
  | setParams s =>
    obtain ⟨bytes, hpack, hunpack⟩ := unpackSetParams_of_pack h
    exact ⟨[6, s.param] ++ bytes, by rw [AmmInstruction.pack, hpack]; rfl, hunpack⟩
  | simulateInfo s =>
    obtain ⟨bytes, hpack, hunpack⟩ := unpackSimulateInfo_of_pack h
    exact ⟨[12, s.param] ++ bytes, by rw [AmmInstruction.pack, hpack]; rfl, hunpack⟩
  | updateConfigAccount c =>
    obtain ⟨bytes, hpack, hunpack⟩ := unpackUpdateConfig_of_pack h
    exact ⟨[15, c.param] ++ bytes, by rw [AmmInstruction.pack, hpack]; rfl, hunpack⟩
  | deposit d =>
    obtain ⟨maxCoin, maxPc, baseSide, otherMin⟩ := d
    cases otherMin with
    | none => exact ⟨_, rfl, by simp [AmmInstruction.unpack]⟩
    | some otherMin => exact ⟨_, rfl, by simp [AmmInstruction.unpack]⟩
  | withdraw w =>
    obtain ⟨amount, minCoin, minPc⟩ := w
    cases minCoin <;> cases minPc
    case none.none => exact ⟨_, rfl, by simp [AmmInstruction.unpack]⟩
    case some.some => exact ⟨_, rfl, by simp [AmmInstruction.unpack]⟩
    case none.some => cases h
    case some.none => cases h
  | updateHookWhitelist u =>
    obtain ⟨hook, action⟩ := u
    refine ⟨_, rfl, ?_⟩
    cases action <;> simp [AmmInstruction.unpack, unpackUpdateHookWhitelist,
      HookWhitelistAction.toByte]
  | createToken2022Mint c => exact h.elim
  | initializeExtraAccountMetaList m => exact h.elim
  | preInitialize nonce => exact ⟨_, rfl, by simp [AmmInstruction.unpack]⟩
  | initialize1 nonce openTime => exact ⟨_, rfl, by simp [AmmInstruction.unpack]⟩
  | initialize2 init2 => exact ⟨_, rfl, by simp [AmmInstruction.unpack]⟩
  | monitorStep monitor => exact ⟨_, rfl, by simp [AmmInstruction.unpack]⟩
  | migrateToOpenBook => exact ⟨_, rfl, by simp [AmmInstruction.unpack]⟩
  | withdrawPnl => exact ⟨_, rfl, by simp [AmmInstruction.unpack]⟩
  | withdrawSrm withdrawsrm => exact ⟨_, rfl, by simp [AmmInstruction.unpack]⟩
  | swapBaseIn swap => exact ⟨_, rfl, by simp [AmmInstruction.unpack]⟩
  | swapBaseOut swap => exact ⟨_, rfl, by simp [AmmInstruction.unpack]⟩
  | adminCancelOrders cancel => exact ⟨_, rfl, by simp [AmmInstruction.unpack]⟩
  | createConfigAccount => exact ⟨_, rfl, by simp [AmmInstruction.unpack]⟩
  | initializeHookWhitelist authority =>
    exact ⟨_, rfl, by simp [AmmInstruction.unpack, unpackCheckedKey]⟩
  | updateWhitelistAuthority newAuthority =>
    exact ⟨_, rfl, by simp [AmmInstruction.unpack, unpackCheckedKey]⟩

/-- A canonical instruction is read back from its bytes, and no other canonical instruction has
    the same bytes. -/
theorem AmmInstruction.encoding_faithful {i : AmmInstruction} (h : i.Canonical) :
    ∃ b, i.pack = .ok b ∧ AmmInstruction.unpack b = .ok i ∧
      ∀ j : AmmInstruction, j.Canonical → j.pack = .ok b → j = i := by
  obtain ⟨b, hpack, hunpack⟩ := AmmInstruction.unpack_of_pack h
  refine ⟨b, hpack, hunpack, fun j hj hpack' => ?_⟩
  obtain ⟨b', hpackj, hunpackj⟩ := AmmInstruction.unpack_of_pack hj
  obtain rfl : b' = b := Except.ok.inj (hpackj.symm.trans hpack')
  exact Except.ok.inj (hunpackj.symm.trans hunpack)

/-- A withdraw with both minimums is canonical. -/
theorem AmmInstruction.encoding_faithful_withdraw :
    (AmmInstruction.withdraw ⟨7, some 1, some 2⟩).Canonical ∧
      ∃ b, (AmmInstruction.withdraw ⟨7, some 1, some 2⟩).pack = .ok b ∧
        AmmInstruction.unpack b = .ok (.withdraw ⟨7, some 1, some 2⟩) ∧
        ∀ j : AmmInstruction, j.Canonical → j.pack = .ok b →
          j = .withdraw ⟨7, some 1, some 2⟩ :=
  ⟨rfl, AmmInstruction.encoding_faithful rfl⟩

end RaydiumAmm
