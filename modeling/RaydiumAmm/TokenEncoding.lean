import RaydiumAmm.Reencoding

/-!
# Encode, then decode: the token instructions

The two instructions that `AmmInstruction.Canonical` leaves out.

1. `createMint_unpack_of_pack`: a `CreateToken2022Mint` with short texts is read back with every
   zero key for none.
2. `createMint_round_trip`: it is read back as it was exactly where it has no zero key.
3. `extraMetas_round_trip_iff`: the only `InitializeExtraAccountMetaList` that is read back is the
   empty one, since the reader cuts the items shorter than the writer.
-/

namespace RaydiumAmm

/-! ## 1. Mints -/

section Fields

variable {text rest : List U8}

/-- A text that fits its length byte is read back. -/
theorem unpackText_packText (h : Utf8 text) (hlen : text.length < 256) (rest : List U8) :
    unpackText (packText text ++ rest) = .ok (text, rest) := by
  have hbyte : (BitVec.ofNat 8 text.length).toNat = text.length := by
    rw [BitVec.toNat_ofNat]
    exact Nat.mod_eq_of_lt hlen
  have hle : text.length ≤ (text ++ rest).length := by simp
  have hlossy : fromUtf8Lossy text = text := h.lossy_eq (Nat.le_refl _)
  rw [packText, List.cons_append, unpackText, unpackU8_cons, Outcome.ok_bind]
  dsimp only
  rw [hbyte, require_length hle, Outcome.ok_bind, List.take_left, List.drop_left, hlossy]
  rfl

/-- A text of 256 bytes is read back as the empty one, and then as what follows. -/
theorem unpackText_packText_full (h : text.length = 256) :
    unpackText (packText text ++ rest) = .ok ([], text ++ rest) := by
  have hle : (0 : U8).toNat ≤ (text ++ rest).length := Nat.zero_le _
  rw [packText, h, List.cons_append, unpackText, unpackU8_cons, Outcome.ok_bind]
  dsimp only
  rw [show BitVec.ofNat 8 256 = 0 from rfl, require_length hle]
  rfl

theorem unpackText_zero : unpackText (0 :: rest) = .ok ([], rest) := by
  have hle : (0 : U8).toNat ≤ rest.length := Nat.zero_le _
  rw [unpackText, unpackU8_cons, Outcome.ok_bind]
  dsimp only
  rw [require_length hle]
  rfl

/-- The bytes of a key are zero for the zero key alone. -/
theorem all_toBytes_eq_zero (key : Pubkey) :
    key.toBytes.all (· == 0) = true ↔ key = Pubkey.default := by
  rw [← Pubkey.toBytes_inj, Pubkey.toBytes_default, List.eq_replicate_iff]
  simp

/-- An optional key is read back, the zero key as none. -/
theorem unpackOptionalKey_packOptionalKey (key : Option Pubkey) (rest : List U8) :
    unpackOptionalKey (packOptionalKey key ++ rest) = key.filter (· ≠ Pubkey.default) := by
  cases key with
  | none =>
    have hlen : 32 ≤ (List.replicate 32 (0 : U8) ++ rest).length := by simp
    rw [packOptionalKey, unpackOptionalKey, if_pos hlen, List.take_left' List.length_replicate]
    rfl
  | some key =>
    have hlen : 32 ≤ (key.toBytes ++ rest).length := by simp
    rw [packOptionalKey, unpackOptionalKey, if_pos hlen, List.take_left' key.length_toBytes,
      Pubkey.ofBytes_toBytes]
    by_cases hzero : key = Pubkey.default
    · rw [if_pos ((all_toBytes_eq_zero key).mpr hzero), hzero]
      rfl
    · rw [if_neg fun h => hzero ((all_toBytes_eq_zero key).mp h)]
      simp [Option.filter, hzero]

theorem length_packOptionalKey (key : Option Pubkey) : (packOptionalKey key).length = 32 := by
  cases key with
  | none => exact List.length_replicate
  | some key => exact key.length_toBytes

theorem sliceFrom_packOptionalKey (key : Option Pubkey) (rest : List U8) :
    sliceFrom 32 (packOptionalKey key ++ rest) = .ok rest :=
  sliceFrom_eq_ok.mpr ⟨_, length_packOptionalKey key, rfl⟩

end Fields

/-- The three texts are Rust strings that fit their length bytes. -/
structure CreateToken2022MintInstruction.ShortTexts (c : CreateToken2022MintInstruction) : Prop where
  name : Utf8 c.name ∧ c.name.length < 256
  symbol : Utf8 c.symbol ∧ c.symbol.length < 256
  uri : Utf8 c.uri ∧ c.uri.length < 256

/-- The instruction with none for every zero key. -/
def CreateToken2022MintInstruction.withoutZeroKeys (c : CreateToken2022MintInstruction) :
    CreateToken2022MintInstruction :=
  { c with
    freezeAuthority := c.freezeAuthority.filter (· ≠ Pubkey.default)
    transferHookProgramId := c.transferHookProgramId.filter (· ≠ Pubkey.default) }

/-- What `pack` writes for short texts `unpack` reads back, without the zero keys. -/
theorem createMint_unpack_of_pack {c : CreateToken2022MintInstruction} (h : c.ShortTexts) :
    ∃ b, AmmInstruction.pack (.createToken2022Mint c) = .ok b ∧
      AmmInstruction.unpack b = .ok (.createToken2022Mint c.withoutZeroKeys) := by
  obtain ⟨⟨hname, hnameLen⟩, ⟨hsymbol, hsymbolLen⟩, ⟨huri, huriLen⟩⟩ := h
  have hpack : AmmInstruction.pack (.createToken2022Mint c) =
      .ok (16 :: c.decimals :: (c.mintAuthority.toBytes ++ (packOptionalKey c.freezeAuthority ++
        (packOptionalKey c.transferHookProgramId ++ (packText c.name ++ (packText c.symbol ++
          packText c.uri)))))) := by
    simp only [AmmInstruction.pack, List.append_assoc, List.cons_append, List.nil_append]
  refine ⟨_, hpack, ?_⟩
  have huriEnd : unpackText (packText c.uri) = .ok (c.uri, []) := by
    have hend := unpackText_packText huri huriLen []
    rwa [List.append_nil] at hend
  show unpackCreateToken2022Mint (c.decimals :: _) = _
  simp only [unpackCreateToken2022Mint, unpackU8_cons, Outcome.ok_bind, readKey_append,
    sliceFrom_append, sliceFrom_packOptionalKey, unpackOptionalKey_packOptionalKey,
    unpackText_packText hname hnameLen, unpackText_packText hsymbol hsymbolLen, huriEnd]
  rfl

/-! ## 2. Round trips of mints -/

theorem filter_ne_eq_self {key : Option Pubkey} :
    key.filter (· ≠ Pubkey.default) = key ↔ key ≠ some Pubkey.default := by
  cases key with
  | none => simp
  | some key => by_cases hzero : key = Pubkey.default <;> simp [Option.filter, hzero]

theorem CreateToken2022MintInstruction.withoutZeroKeys_eq_self
    {c : CreateToken2022MintInstruction} :
    c.withoutZeroKeys = c ↔
      c.freezeAuthority ≠ some Pubkey.default ∧ c.transferHookProgramId ≠ some Pubkey.default := by
  rw [← filter_ne_eq_self, ← filter_ne_eq_self]
  constructor
  · intro h
    exact ⟨congrArg CreateToken2022MintInstruction.freezeAuthority h,
      congrArg CreateToken2022MintInstruction.transferHookProgramId h⟩
  · rintro ⟨hfreeze, hhook⟩
    rw [CreateToken2022MintInstruction.withoutZeroKeys, hfreeze, hhook]

/-- A `CreateToken2022Mint` with short texts is read back from its bytes with none for every zero
    key, so as it was exactly where neither of its options holds the zero key. -/
theorem createMint_round_trip {c : CreateToken2022MintInstruction} (h : c.ShortTexts) :
    ∃ b, AmmInstruction.pack (.createToken2022Mint c) = .ok b ∧
      AmmInstruction.unpack b = .ok (.createToken2022Mint c.withoutZeroKeys) ∧
      (AmmInstruction.unpack b = .ok (.createToken2022Mint c) ↔
        c.freezeAuthority ≠ some Pubkey.default ∧
          c.transferHookProgramId ≠ some Pubkey.default) := by
  obtain ⟨b, hpack, hunpack⟩ := createMint_unpack_of_pack h
  refine ⟨b, hpack, hunpack, ?_⟩
  rw [hunpack, Except.ok.injEq, AmmInstruction.createToken2022Mint.injEq,
    CreateToken2022MintInstruction.withoutZeroKeys_eq_self]

/-- A mint with these optional keys and this name. -/
def sampleMint (freezeAuthority transferHookProgramId : Option Pubkey) (name : List U8) :
    CreateToken2022MintInstruction where
  decimals := 6
  mintAuthority := ⟨7⟩
  freezeAuthority := freezeAuthority
  transferHookProgramId := transferHookProgramId
  name := name
  symbol := [0x52]
  uri := []

theorem utf8_ascii {lead : U8} {rest : List U8} (h : lead < 0x80) (hrest : Utf8 rest) :
    Utf8 (lead :: rest) := by
  have hwidth : utf8CharWidth lead = 1 := if_pos h
  have hone : utf8Rest lead rest = (0, true) := by
    unfold utf8Rest
    rw [hwidth]
    rfl
  exact .cons hone hrest

/-- A mint with a hook and no freeze authority. -/
theorem createMint_round_trip_hook :
    ∃ b, AmmInstruction.pack (.createToken2022Mint (sampleMint none (some ⟨9⟩) [0x52])) = .ok b ∧
      AmmInstruction.unpack b =
        .ok (.createToken2022Mint (sampleMint none (some ⟨9⟩) [0x52])) := by
  obtain ⟨b, hpack, -, hiff⟩ := createMint_round_trip (c := sampleMint none (some ⟨9⟩) [0x52]) {
    name := ⟨utf8_ascii (by decide) .nil, by decide⟩
    symbol := ⟨utf8_ascii (by decide) .nil, by decide⟩
    uri := ⟨.nil, by decide⟩
  }
  exact ⟨b, hpack, hiff.mpr ⟨by decide, by decide⟩⟩

/-- A name of 256 bytes that starts with two zero characters hides all three texts. -/
theorem createMint_of_full_name {tail : List U8} (h : tail.length = 254) :
    ∃ b, AmmInstruction.pack (.createToken2022Mint (sampleMint none none (0 :: 0 :: tail))) =
        .ok b ∧
      AmmInstruction.unpack b =
        .ok (.createToken2022Mint { sampleMint none none [] with symbol := [] }) := by
  have hname : ∀ rest, unpackText (packText (0 :: 0 :: tail) ++ rest) =
      .ok ([], 0 :: 0 :: tail ++ rest) := fun _ => unpackText_packText_full (by simp [h])
  refine ⟨_, rfl, ?_⟩
  show unpackCreateToken2022Mint (6 :: ((⟨7⟩ : Pubkey).toBytes ++ packOptionalKey none ++
    packOptionalKey none ++ packText (0 :: 0 :: tail) ++ packText [0x52] ++ packText [])) = _
  simp only [List.append_assoc, unpackCreateToken2022Mint, unpackU8_cons, Outcome.ok_bind,
    readKey_append, sliceFrom_append, sliceFrom_packOptionalKey,
    unpackOptionalKey_packOptionalKey, hname, List.cons_append, unpackText_zero]
  rfl

/-- A freeze authority that is the zero key is read back as none, and a name of 256 zero characters
    as the empty one. -/
theorem createMint_not_round_trip :
    (∃ b, AmmInstruction.pack
        (.createToken2022Mint (sampleMint (some Pubkey.default) none [0x52])) = .ok b ∧
      AmmInstruction.unpack b = .ok (.createToken2022Mint (sampleMint none none [0x52]))) ∧
    (∃ b, AmmInstruction.pack
        (.createToken2022Mint (sampleMint none none (List.replicate 256 0))) = .ok b ∧
      AmmInstruction.unpack b =
        .ok (.createToken2022Mint { sampleMint none none [] with symbol := [] })) := by
  constructor
  · exact createMint_unpack_of_pack (c := sampleMint (some Pubkey.default) none [0x52]) {
      name := ⟨utf8_ascii (by decide) .nil, by decide⟩
      symbol := ⟨utf8_ascii (by decide) .nil, by decide⟩
      uri := ⟨.nil, by decide⟩
    }
  · exact createMint_of_full_name (List.length_replicate (n := 254) (a := 0))

/-! ## 3. Lists of account metas -/

theorem ExtraAccountMeta.length_bytesOf (m : ExtraAccountMeta) :
    m.bytesOf.length = EXTRA_ACCOUNT_META_LEN := by
  simp [ExtraAccountMeta.bytesOf, EXTRA_ACCOUNT_META_LEN]

/-- The bytes of an item and more are cut to a wrong length. -/
theorem unpackExtraMetas_bytesOf (m : ExtraAccountMeta) (length : Nat) (rest : List U8) :
    unpackExtraMetas (length + 1) (m.bytesOf ++ rest) = Outcome.panic := by
  refine unpackExtraMetas_eq_panic ?_
  rw [List.length_append, m.length_bytesOf, EXTRA_ACCOUNT_META_LEN]
  omega

theorem unpack_extraMetas (length : U32) (rest : List U8) :
    AmmInstruction.unpack ([18] ++ length.toLeBytes ++ rest) = (do
      let extraAccounts ← unpackExtraMetas length.toNat rest
      return .initializeExtraAccountMetaList extraAccounts) := by
  have hlen : unpackU32 (length.toLeBytes ++ rest) = .ok (length, rest) :=
    unpackWord_append (by decide) length rest
  show (unpackU32 (length.toLeBytes ++ rest) >>= _) = _
  rw [hlen, Outcome.ok_bind]

/-- An `InitializeExtraAccountMetaList` is read back from its bytes exactly where it is empty. -/
theorem extraMetas_round_trip_iff (extraAccounts : List ExtraAccountMeta) :
    (∃ b, AmmInstruction.pack (.initializeExtraAccountMetaList extraAccounts) = .ok b ∧
      AmmInstruction.unpack b = .ok (.initializeExtraAccountMetaList extraAccounts)) ↔
      extraAccounts = [] := by
  constructor
  · rintro ⟨b, hpack, hunpack⟩
    cases hpack
    rw [unpack_extraMetas] at hunpack
    obtain ⟨read, hread, hsame⟩ := Outcome.bind_eq_ok.mp hunpack
    cases hsame
    cases extraAccounts with
    | nil => rfl
    | cons m rest =>
      exfalso
      cases hlength : (BitVec.ofNat 32 (m :: rest).length).toNat with
      | zero =>
        -- the length is a multiple of 2^32, and nothing is read
        rw [hlength] at hread
        cases hread
      | succ length =>
        rw [hlength, List.flatMap_cons, unpackExtraMetas_bytesOf] at hread
        cases hread
  · rintro rfl
    exact ⟨_, rfl, rfl⟩

/-- A list with one item aborts. -/
theorem extraMetas_not_round_trip :
    ∃ b, AmmInstruction.pack (.initializeExtraAccountMetaList [⟨0, 0, 1, 0⟩]) = .ok b ∧
      AmmInstruction.unpack b = Outcome.panic :=
  ⟨_, rfl, rfl⟩

end RaydiumAmm
