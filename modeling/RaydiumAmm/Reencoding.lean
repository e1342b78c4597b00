import RaydiumAmm.Parsing

/-!
# Decode, then encode

`pack` on what `unpack` read, for arbitrary input bytes.

1. A successful reader found the bytes of what it returned at the front of its input.
2. `Utf8`: the texts that `from_utf8_lossy` leaves as they are. No other text is a prefix again.
3. `AmmInstruction.Plain`: the inputs without a zero owner and without a text that is not UTF-8.
4. `pack_of_unpack_iff`: these are the inputs of which `pack` gives back a prefix.
-/

namespace RaydiumAmm

/-! ## 1. Readers -/

section Readers

variable {input rest : List U8}

theorem unpackWord_eq_ok {n w : Nat} {x : BitVec w} (hw : 8 * n = w) :
    unpackWord n w input = .ok (x, rest) ↔ input = Words.leBytes n x ++ rest := by
  constructor
  · intro h
    unfold unpackWord at h
    split at h
    case isTrue hlen =>
      cases h
      have htake : (input.take n).length = n := List.length_take_of_le hlen
      have hback := Words.leBytes_ofLeBytes (b := input.take n) (w := w) (by omega)
      rw [htake] at hback
      rw [hback, List.take_append_drop]
    case isFalse => cases h
  · rintro rfl
    exact unpackWord_append (Nat.le_of_eq hw.symm) x rest

theorem unpackU8_eq_ok {x : U8} : unpackU8 input = .ok (x, rest) ↔ input = x :: rest := by
  cases input with
  | nil => exact iff_of_false (fun h => by cases h) (by simp)
  | cons b bytes =>
    rw [unpackU8_cons]
    constructor
    · intro h
      cases h
      rfl
    · intro h
      cases h
      rfl

theorem unpackU16_eq_ok {x : U16} :
    unpackU16 input = .ok (x, rest) ↔ input = x.toLeBytes ++ rest :=
  unpackWord_eq_ok rfl

theorem unpackU64_eq_ok {x : U64} :
    unpackU64 input = .ok (x, rest) ↔ input = x.toLeBytes ++ rest :=
  unpackWord_eq_ok rfl

/-- 32 bytes are those of the key that they spell. -/
theorem Pubkey.toBytes_ofBytes {bytes : List U8} (h : bytes.length = 32) :
    (Pubkey.ofBytes bytes).toBytes = bytes := by
  have hback := Words.reverse_leBytes_ofBeBytes (b := bytes) (w := 256) (by omega)
  rw [h] at hback
  rw [Pubkey.toBytes_eq]
  exact hback

theorem readKey_eq_ok {k : Pubkey} :
    readKey input = .ok k ↔ ∃ rest, input = k.toBytes ++ rest := by
  constructor
  · intro h
    simp only [readKey, arrayRef, Outcome.bind_eq_ok, Outcome.pure_eq_ok] at h
    obtain ⟨bytes, hbytes, rfl⟩ := h
    split at hbytes
    case isTrue hlen =>
      cases hbytes
      refine ⟨input.drop 32, ?_⟩
      rw [Pubkey.toBytes_ofBytes (List.length_take_of_le hlen), List.take_append_drop]
    case isFalse => cases hbytes
  · rintro ⟨rest, rfl⟩
    exact readKey_append k rest

theorem sliceFrom_eq_ok {n : Nat} :
    sliceFrom n input = .ok rest ↔ ∃ head, head.length = n ∧ input = head ++ rest := by
  constructor
  · intro h
    unfold sliceFrom at h
    split at h
    case isTrue hlen =>
      cases h
      exact ⟨input.take n, List.length_take_of_le hlen, (List.take_append_drop n input).symm⟩
    case isFalse => cases h
  · rintro ⟨head, rfl, rfl⟩
    rw [sliceFrom, if_pos (by simp), List.drop_left]

/-- 64 bytes are those of the fees that they spell. -/
theorem Fees.packIntoSlice_unpackFromSlice {bytes : List U8} (h : bytes.length = FEES_LEN) :
    (Fees.unpackFromSlice bytes).packIntoSlice = bytes := by
  have hfield : ∀ i < 8, U64.toLeBytes (Words.ofLeBytes 64 ((bytes.drop (8 * i)).take 8)) =
      (bytes.drop (8 * i)).take 8 := by
    intro i hi
    have hlen : ((bytes.drop (8 * i)).take 8).length = 8 := by
      rw [List.length_take, List.length_drop, h, FEES_LEN]
      omega
    have hback := Words.leBytes_ofLeBytes (b := (bytes.drop (8 * i)).take 8) (w := 64) (by omega)
    rwa [hlen] at hback
  calc (Fees.unpackFromSlice bytes).packIntoSlice
      = (List.range 8).flatMap fun i =>
          U64.toLeBytes (Words.ofLeBytes 64 ((bytes.drop (8 * i)).take 8)) :=
        Fees.packIntoSlice_eq _
    _ = (List.range 8).flatMap fun i => (bytes.drop (8 * i)).take 8 :=
        List.flatMap_congr fun i hi => hfield i (List.mem_range.mp hi)
    _ = bytes.take 64 := Words.flatMap_take_drop 8 bytes
    _ = bytes := List.take_of_length_le (Nat.le_of_eq h)

end Readers

/-! ## 2. Texts -/

/-- A row of whole characters. -/
inductive Utf8 : List U8 → Prop
  | nil : Utf8 []
  | cons {lead : U8} {rest : List U8} {n : Nat} :
      utf8Rest lead rest = (n, true) → Utf8 (rest.drop n) → Utf8 (lead :: rest)

section Texts

variable {lead : U8} {rest text : List U8} {n fuel : Nat}

/-- A byte past the end of a text does not continue a character. -/
theorem lt_length_of_utf8IsCont (h : utf8IsCont (rest.getD n 0) = true) : n < rest.length := by
  by_contra hge
  rw [List.getD_eq_getElem?_getD, List.getElem?_eq_none (Nat.le_of_not_lt hge)] at h
  exact absurd h (by decide)

theorem utf8Rest_le_length (h : utf8Rest lead rest = (n, true)) : n ≤ rest.length := by
  unfold utf8Rest at h
  split at h
  · cases h
    exact Nat.zero_le _
  · split at h
    next hcont =>
      cases h
      exact lt_length_of_utf8IsCont hcont
    next => cases h
  · split at h
    next => cases h
    next =>
      split at h
      next => cases h
      next hcont =>
        cases h
        exact lt_length_of_utf8IsCont (by simpa using hcont)
  · split at h
    next => cases h
    next =>
      split at h
      next => cases h
      next =>
        split at h
        next => cases h
        next hcont =>
          cases h
          exact lt_length_of_utf8IsCont (by simpa using hcont)
  · cases h

/-- The replacement character is whole where its bytes are. -/
theorem utf8Rest_replacement : utf8Rest 0xEF (0xBF :: 0xBD :: rest) = (2, true) := by
  have hsecond : utf8SecondOk 0xEF 0xBF = true := by decide
  have hcont : utf8IsCont 0xBD = true := by decide
  have hwidth : utf8CharWidth 0xEF = 3 := rfl
  unfold utf8Rest
  rw [hwidth]
  simp only [List.getD_cons_zero, List.getD_cons_succ, hsecond, hcont, Bool.not_true,
    Bool.false_eq_true, if_false]

theorem length_fromUtf8LossyUpTo_le : (fromUtf8LossyUpTo fuel text).length ≤ 3 * text.length := by
  induction fuel generalizing text with
  | zero => exact Nat.zero_le _
  | succ fuel ih =>
    cases text with
    | nil => exact Nat.zero_le _
    | cons lead rest =>
      rcases hrest : utf8Rest lead rest with ⟨n, whole⟩
      have hdrop : (fromUtf8LossyUpTo fuel (rest.drop n)).length ≤ 3 * (rest.drop n).length := ih
      rw [List.length_drop] at hdrop
      simp only [fromUtf8LossyUpTo, hrest, List.length_append, List.length_cons]
      cases whole with
      | true =>
        have hn := utf8Rest_le_length hrest
        simp only [if_true, List.length_cons, List.length_take]
        omega
      | false =>
        simp only [Bool.false_eq_true, if_false, utf8Replacement, List.length_cons, List.length_nil]
        omega

/-- A text of whole characters is left as it is. -/
theorem Utf8.lossy_eq (h : Utf8 text) (hfuel : text.length ≤ fuel) :
    fromUtf8LossyUpTo fuel text = text := by
  induction h generalizing fuel with
  | nil => cases fuel <;> rfl
  | @cons lead rest n hrest _ ih =>
    cases fuel with
    | zero => cases hfuel
    | succ fuel =>
      have hfuel' : (rest.drop n).length ≤ fuel := by
        rw [List.length_drop]
        rw [List.length_cons] at hfuel
        omega
      simp only [fromUtf8LossyUpTo, hrest, ih hfuel', if_true, List.cons_append,
        List.take_append_drop]

/-- A text of which the replaced form is a prefix, up to a multiple of 256 bytes in length, has only
    whole characters: the replacement of a broken one differs from it in its bytes or, at the end
    of the text, in its length. -/
theorem utf8_of_lossy_prefix {after : List U8} (hfuel : text.length ≤ fuel)
    (hlen : (fromUtf8LossyUpTo fuel text).length % 256 = text.length % 256)
    (hstart : fromUtf8LossyUpTo fuel text <+: text ++ after) : Utf8 text := by
  induction fuel generalizing text with
  | zero =>
    obtain rfl : text = [] := List.eq_nil_of_length_eq_zero (Nat.le_zero.mp hfuel)
    exact .nil
  | succ fuel ih =>
    cases text with
    | nil => exact .nil
    | cons lead rest =>
      rcases hrest : utf8Rest lead rest with ⟨n, whole⟩
      simp only [fromUtf8LossyUpTo, hrest] at hlen hstart
      rw [List.length_cons] at hfuel
      cases whole with
      | true =>
        have hn := utf8Rest_le_length hrest
        have hsplit : lead :: rest ++ after = (lead :: rest.take n) ++ (rest.drop n ++ after) := by
          rw [List.cons_append, ← List.append_assoc, List.cons_append, List.take_append_drop,
            List.cons_append]
        rw [if_pos rfl, hsplit, List.prefix_append_right_inj] at hstart
        refine .cons hrest (ih ?_ ?_ hstart)
        · rw [List.length_drop]
          omega
        · simp only [if_true, List.length_append, List.length_cons, List.length_take] at hlen
          rw [List.length_drop]
          omega
      | false =>
        simp only [Bool.false_eq_true, if_false, utf8Replacement] at hlen hstart
        have hle : (fromUtf8LossyUpTo fuel (rest.drop n)).length ≤ 3 * (rest.length - n) := by
          rw [← List.length_drop]
          exact length_fromUtf8LossyUpTo_le
        match rest, hrest with
        | [], _ =>
          simp only [List.length_append, List.length_cons, List.length_nil] at hlen hle
          omega
        | [second], _ =>
          simp only [List.length_append, List.length_cons, List.length_nil] at hlen hle
          omega
        | second :: third :: rest, hrest =>
          simp only [List.cons_append, List.cons_prefix_cons] at hstart
          obtain ⟨rfl, rfl, rfl, -⟩ := hstart
          rw [utf8Rest_replacement] at hrest
          cases hrest

/-- What follows a text decides where the text has only whole characters. -/
theorem packText_prefix_iff {before after : List U8} :
    packText (fromUtf8Lossy text) ++ before <+: packText text ++ after ↔
      Utf8 text ∧ before <+: after := by
  constructor
  · intro h
    simp only [packText, List.cons_append, List.cons_prefix_cons] at h
    obtain ⟨hlen, hstart⟩ := h
    have hutf8 : Utf8 text := by
      refine utf8_of_lossy_prefix (Nat.le_refl _) ?_ ((List.prefix_append _ _).trans hstart)
      have := congrArg BitVec.toNat hlen
      rwa [BitVec.toNat_ofNat, BitVec.toNat_ofNat] at this
    rw [fromUtf8Lossy, hutf8.lossy_eq (Nat.le_refl _), List.prefix_append_right_inj] at hstart
    exact ⟨hutf8, hstart⟩
  · rintro ⟨hutf8, hstart⟩
    rw [fromUtf8Lossy, hutf8.lossy_eq (Nat.le_refl _), List.prefix_append_right_inj]
    exact hstart

theorem unpackText_eq_ok {input : List U8} (h : unpackText input = .ok (text, rest)) :
    ∃ bytes, bytes.length < 256 ∧ input = packText bytes ++ rest ∧
      text = fromUtf8Lossy bytes := by
  simp only [unpackText, Outcome.bind_eq_ok, Prod.exists, unpackU8_eq_ok, Outcome.require_eq_ok,
    Outcome.pure_eq_ok, Prod.mk.injEq] at h
  obtain ⟨len, after, rfl, -, hlen, rfl, rfl⟩ := h
  have htake : (after.take len.toNat).length = len.toNat := List.length_take_of_le hlen
  refine ⟨after.take len.toNat, ?_, ?_, rfl⟩
  · rw [htake]
    exact len.isLt
  · rw [packText, htake, BitVec.ofNat_toNat, BitVec.setWidth_eq, List.cons_append,
      List.take_append_drop]

end Texts

/-! ## 3. Plain inputs -/

/-- The first `n` texts of an input, each behind the byte that holds its length. -/
def leadingTexts : Nat → List U8 → List (List U8)
  | n + 1, len :: rest => rest.take len.toNat :: leadingTexts n (rest.drop len.toNat)
  | _, _ => []

/-- An owner of tag 15 is not the zero key, and the texts of tag 16 are UTF-8. -/
def AmmInstruction.Plain : List U8 → Prop
  | [] => True
  | tag :: rest =>
    match tag.toNat, rest with
    | 15, param :: owner => (param = 0 ∨ param = 1) → owner.take 32 ≠ List.replicate 32 0
    | 16, _ :: keys => ∀ text ∈ leadingTexts 3 (keys.drop 96), Utf8 text
    | _, _ => True

section Plain

variable {rest : List U8} {i : AmmInstruction}

/-- Inputs of the other tags are plain. -/
theorem plain_of_tag {tag : U8} (h15 : tag.toNat ≠ 15) (h16 : tag.toNat ≠ 16) :
    AmmInstruction.Plain (tag :: rest) := by
  dsimp only [AmmInstruction.Plain]
  split
  case h_1 htag => exact absurd htag h15
  case h_2 htag => exact absurd htag h16
  case h_3 => trivial

/-- `pack` gives back a prefix of the input. -/
def AmmInstruction.PacksInto (i : AmmInstruction) (b : List U8) : Prop :=
  ∃ p, i.pack = .ok p ∧ p <+: b

theorem packsInto_of_unpackSetParams (h : unpackSetParams rest = .ok i) :
    i.PacksInto (6 :: rest) := by
  simp only [unpackSetParams, Outcome.bind_eq_ok, Prod.exists, unpackU8_eq_ok] at h
  obtain ⟨param, bytes, rfl, p, hparam, h⟩ := h
  have hpack : ∀ s payload, packSetParams s = .ok payload → s.param = param → payload <+: bytes →
      (AmmInstruction.setParams s).PacksInto (6 :: param :: bytes) := by
    intro s payload hs hsp hstart
    refine ⟨[6, s.param] ++ payload, by rw [AmmInstruction.pack, hs]; rfl, ?_⟩
    rw [hsp]
    exact (List.prefix_append_right_inj [6, param]).mpr hstart
  cases p
  case ammOwner =>
    simp only [Outcome.bind_eq_ok, Outcome.require_eq_ok, readKey_eq_ok, Outcome.pure_eq_ok] at h
    obtain ⟨-, -, key, ⟨tail, rfl⟩, rfl⟩ := h
    refine hpack _ key.toBytes ?_ rfl (List.prefix_append _ _)
    rw [packSetParams, hparam]
    rfl
  case fees =>
    simp only [Outcome.bind_eq_ok, Outcome.require_eq_ok, Outcome.pure_eq_ok] at h
    obtain ⟨-, hlen, rfl⟩ := h
    refine hpack _ (bytes.take FEES_LEN) ?_ rfl (List.take_prefix _ _)
    have hback := Fees.packIntoSlice_unpackFromSlice (List.length_take_of_le hlen)
    rw [packSetParams, hparam]
    exact congrArg Except.ok hback
  case lastOrderDistance =>
    simp only [Outcome.bind_eq_ok, Outcome.require_eq_ok, Prod.exists, unpackU64_eq_ok,
      Outcome.pure_eq_ok] at h
    obtain ⟨-, -, numerator, -, rfl, denominator, tail, rfl, rfl⟩ := h
    refine hpack _ (numerator.toLeBytes ++ denominator.toLeBytes) ?_ rfl ⟨tail, ?_⟩
    · rw [packSetParams, hparam]
      rfl
    · exact List.append_assoc _ _ _
  all_goals
    simp only [Outcome.bind_eq_ok, Outcome.require_eq_ok, Prod.exists, unpackU64_eq_ok,
      Outcome.pure_eq_ok] at h
    obtain ⟨-, -, value, tail, rfl, rfl⟩ := h
    refine hpack _ value.toLeBytes ?_ rfl (List.prefix_append _ _)
    rw [packSetParams, hparam]
    rfl

theorem packsInto_of_unpackSimulateInfo (h : unpackSimulateInfo rest = .ok i) :
    i.PacksInto (12 :: rest) := by
  simp only [unpackSimulateInfo, Outcome.bind_eq_ok, Prod.exists, unpackU8_eq_ok] at h
  obtain ⟨param, bytes, rfl, p, hparam, h⟩ := h
  have hpack : ∀ s payload, packSimulateInfo s = .ok payload → s.param = param →
      payload <+: bytes → (AmmInstruction.simulateInfo s).PacksInto (12 :: param :: bytes) := by
    intro s payload hs hsp hstart
    refine ⟨[12, s.param] ++ payload, by rw [AmmInstruction.pack, hs]; rfl, ?_⟩
    rw [hsp]
    exact (List.prefix_append_right_inj [12, param]).mpr hstart
  cases p
  case poolInfo =>
    cases h
    refine hpack _ [] ?_ rfl List.nil_prefix
    rw [packSimulateInfo, hparam]
    rfl
  case runCrankInfo =>
    cases h
    refine hpack _ [] ?_ rfl List.nil_prefix
    rw [packSimulateInfo, hparam]
    rfl
  all_goals
    simp only [Outcome.bind_eq_ok, Prod.exists, unpackU64_eq_ok, Outcome.pure_eq_ok] at h
    obtain ⟨first, -, rfl, second, tail, rfl, rfl⟩ := h
    refine hpack _ (first.toLeBytes ++ second.toLeBytes) ?_ rfl ⟨tail, List.append_assoc _ _ _⟩
    rw [packSimulateInfo, hparam]
    rfl

/-- The zero key is spelt by 32 zero bytes. -/
theorem Pubkey.toBytes_default : Pubkey.default.toBytes = List.replicate 32 0 := by decide

theorem Pubkey.toBytes_inj {k k' : Pubkey} : k.toBytes = k'.toBytes ↔ k = k' := by
  constructor
  · intro h
    rw [← Pubkey.ofBytes_toBytes k, h, Pubkey.ofBytes_toBytes]
  · rintro rfl
    rfl

theorem packsInto_of_unpackUpdateConfig (h : unpackUpdateConfig rest = .ok i) :
    i.PacksInto (15 :: rest) ↔ AmmInstruction.Plain (15 :: rest) := by
  simp only [unpackUpdateConfig, Outcome.bind_eq_ok, Prod.exists, unpackU8_eq_ok] at h
  obtain ⟨param, bytes, rfl, h⟩ := h
  by_cases hparam : param = 0 ∨ param = 1
  · simp only [if_pos hparam, Outcome.bind_eq_ok, readKey_eq_ok, Outcome.pure_eq_ok] at h
    obtain ⟨owner, ⟨tail, rfl⟩, rfl⟩ := h
    have hplain : AmmInstruction.Plain (15 :: param :: (owner.toBytes ++ tail)) ↔
        owner ≠ Pubkey.default := by
      have htake : (owner.toBytes ++ tail).take 32 = owner.toBytes :=
        List.take_left' owner.length_toBytes
      show ((param = 0 ∨ param = 1) → _ ≠ List.replicate 32 0) ↔ _
      rw [htake, ← Pubkey.toBytes_default, Ne, Pubkey.toBytes_inj]
      exact ⟨fun hp => hp hparam, fun hp _ => hp⟩
    rw [hplain]
    by_cases howner : owner = Pubkey.default
    · refine iff_of_false ?_ fun hn => hn howner
      rintro ⟨p, hp, -⟩
      rw [AmmInstruction.pack, packUpdateConfig, if_pos hparam, payload_some, Outcome.ok_bind,
        Outcome.require_neg (fun hn => hn howner)] at hp
      cases hp
    · refine iff_of_true ⟨[15, param] ++ owner.toBytes, ?_, ?_⟩ howner
      · rw [AmmInstruction.pack, packUpdateConfig, if_pos hparam, payload_some, Outcome.ok_bind,
          Outcome.require_pos howner]
        rfl
      · exact List.prefix_append ([15, param] ++ owner.toBytes) tail
  · have hplain : AmmInstruction.Plain (15 :: param :: bytes) := fun hp => absurd hp hparam
    refine iff_of_true ?_ hplain
    rw [if_neg hparam] at h
    split at h
    case isTrue htwo =>
      simp only [Outcome.bind_eq_ok, Prod.exists, unpackU64_eq_ok, Outcome.pure_eq_ok] at h
      obtain ⟨createPoolFee, tail, rfl, rfl⟩ := h
      refine ⟨[15, param] ++ createPoolFee.toLeBytes, ?_, List.prefix_append _ tail⟩
      rw [AmmInstruction.pack, packUpdateConfig, if_neg hparam, if_pos htwo]
      rfl
    case isFalse => cases h

/-- An optional key is written back as the 32 bytes it was read from. -/
theorem packOptionalKey_unpackOptionalKey {key : List U8} (h : key.length = 32) :
    packOptionalKey (unpackOptionalKey (key ++ rest)) = key := by
  have hlen : 32 ≤ (key ++ rest).length := by simp [h]
  rw [unpackOptionalKey, if_pos hlen, List.take_left' h]
  split
  next hzero =>
    refine (List.eq_replicate_iff.mpr ⟨h, fun b hb => ?_⟩).symm
    simpa using List.all_eq_true.mp hzero b hb
  next => exact Pubkey.toBytes_ofBytes h

theorem leadingTexts_packText {n : Nat} {text after : List U8} (h : text.length < 256) :
    leadingTexts (n + 1) (packText text ++ after) = text :: leadingTexts n after := by
  have hlen : (BitVec.ofNat 8 text.length).toNat = text.length := by
    rw [BitVec.toNat_ofNat]
    exact Nat.mod_eq_of_lt h
  rw [packText, List.cons_append, leadingTexts, hlen, List.take_left, List.drop_left]

theorem packsInto_of_unpackCreateToken2022Mint (h : unpackCreateToken2022Mint rest = .ok i) :
    i.PacksInto (16 :: rest) ↔ AmmInstruction.Plain (16 :: rest) := by
  simp only [unpackCreateToken2022Mint, Outcome.bind_eq_ok, Prod.exists, unpackU8_eq_ok,
    readKey_eq_ok, sliceFrom_eq_ok, Outcome.pure_eq_ok] at h
  obtain ⟨decimals, keys, rfl, mintAuthority, ⟨tail, rfl⟩, -, ⟨head, hhead, hkeys⟩, -,
    ⟨freeze, hfreeze, rfl⟩, texts, ⟨hook, hhook, rfl⟩, name, afterName, hname, symbol, afterSymbol,
    hsymbol, uri, afterUri, huri, rfl⟩ := h
  obtain ⟨rfl, rfl⟩ := List.append_inj hkeys (by rw [hhead, mintAuthority.length_toBytes])
  obtain ⟨name, hnameLen, rfl, rfl⟩ := unpackText_eq_ok hname
  obtain ⟨symbol, hsymbolLen, rfl, rfl⟩ := unpackText_eq_ok hsymbol
  obtain ⟨uri, huriLen, rfl, rfl⟩ := unpackText_eq_ok huri
  have hplain : AmmInstruction.Plain (16 :: decimals :: (mintAuthority.toBytes ++
      (freeze ++ (hook ++ (packText name ++ (packText symbol ++ (packText uri ++ afterUri))))))) ↔
      Utf8 name ∧ Utf8 symbol ∧ Utf8 uri := by
    have hdrop : (mintAuthority.toBytes ++ (freeze ++ (hook ++ (packText name ++
        (packText symbol ++ (packText uri ++ afterUri)))))).drop 96 =
        packText name ++ (packText symbol ++ (packText uri ++ afterUri)) := by
      rw [← List.append_assoc, ← List.append_assoc]
      exact List.drop_left' (by simp [hfreeze, hhook])
    show (∀ text ∈ leadingTexts 3 _, Utf8 text) ↔ _
    rw [hdrop, leadingTexts_packText hnameLen, leadingTexts_packText hsymbolLen,
      leadingTexts_packText huriLen]
    simp [leadingTexts]
  rw [hplain]
  have hpacks : ∀ p : List U8, AmmInstruction.pack (.createToken2022Mint ⟨decimals, mintAuthority,
      unpackOptionalKey (freeze ++ (hook ++ (packText name ++ (packText symbol ++ (packText uri ++
        afterUri))))), unpackOptionalKey (hook ++ (packText name ++ (packText symbol ++
        (packText uri ++ afterUri)))), fromUtf8Lossy name, fromUtf8Lossy symbol,
      fromUtf8Lossy uri⟩) = .ok p ↔
      p = [16, decimals] ++ (mintAuthority.toBytes ++ (freeze ++ (hook ++ (packText
        (fromUtf8Lossy name) ++ (packText (fromUtf8Lossy symbol) ++ (packText (fromUtf8Lossy uri)
          ++ [])))))) := by
    intro p
    simp only [AmmInstruction.pack, packOptionalKey_unpackOptionalKey hfreeze,
      packOptionalKey_unpackOptionalKey hhook, Except.ok.injEq, List.append_assoc,
      List.append_nil, List.cons_append, List.nil_append]
    exact eq_comm
  simp only [AmmInstruction.PacksInto, hpacks, exists_eq_left]
  rw [List.cons_append, List.cons_append, List.nil_append, List.cons_prefix_cons,
    List.cons_prefix_cons, List.prefix_append_right_inj, List.prefix_append_right_inj,
    List.prefix_append_right_inj, packText_prefix_iff, packText_prefix_iff, packText_prefix_iff]
  simp

theorem packsInto_of_unpackUpdateHookWhitelist (h : unpackUpdateHookWhitelist rest = .ok i) :
    i.PacksInto (17 :: rest) := by
  simp only [unpackUpdateHookWhitelist, Outcome.bind_eq_ok, readKey_eq_ok, sliceFrom_eq_ok] at h
  obtain ⟨hook, ⟨tail, rfl⟩, after, ⟨head, hhead, hsplit⟩, h⟩ := h
  obtain ⟨rfl, rfl⟩ := List.append_inj hsplit (by rw [hhead, hook.length_toBytes])
  cases tail with
  | nil => cases h
  | cons action tail =>
    simp only at h
    split at h
    case isTrue hadd =>
      cases h
      refine ⟨[17] ++ hook.toBytes ++ [0], rfl, tail, ?_⟩
      simp [hadd]
    case isFalse =>
      split at h
      case isTrue hremove =>
        cases h
        refine ⟨[17] ++ hook.toBytes ++ [1], rfl, tail, ?_⟩
        simp [hremove]
      case isFalse => cases h

/-- No list of extra accounts but the empty one is read. -/
theorem unpackExtraMetas_eq_ok {length : Nat} {extraAccounts : List ExtraAccountMeta}
    (h : unpackExtraMetas length rest = .ok extraAccounts) : length = 0 ∧ extraAccounts = [] := by
  cases length with
  | zero =>
    cases h
    exact ⟨rfl, rfl⟩
  | succ length =>
    by_cases hlen : 34 ≤ rest.length
    · rw [unpackExtraMetas_eq_panic hlen] at h
      cases h
    · rw [unpackExtraMetas, Outcome.require_neg hlen] at h
      cases h

theorem unpackCheckedKey_eq_ok {k : Pubkey} (h : unpackCheckedKey rest = .ok k) :
    ∃ tail, rest = k.toBytes ++ tail := by
  simp only [unpackCheckedKey, Outcome.bind_eq_ok] at h
  obtain ⟨-, -, h⟩ := h
  exact readKey_eq_ok.mp h

end Plain

/-! ## 4. The parser and the encoder -/

/-- An accepted input of any tag but two is what `pack` writes and more. -/
theorem packsInto_of_tag {tag : U8} {rest : List U8} {i : AmmInstruction} (h15 : tag.toNat ≠ 15)
    (h16 : tag.toNat ≠ 16) (hread : AmmInstruction.unpack (tag :: rest) = .ok i) :
    i.PacksInto (tag :: rest) := by
  obtain ⟨t, ht⟩ : ∃ t, tag.toNat = t := ⟨_, rfl⟩
  have htag : tag = BitVec.ofNat 8 t := by rw [← ht, BitVec.ofNat_toNat, BitVec.setWidth_eq]
  dsimp only [AmmInstruction.unpack] at hread
  rw [ht] at hread
  match t, hread with
  | 0, h =>
    simp only [Outcome.bind_eq_ok, Prod.exists, unpackU8_eq_ok, unpackU64_eq_ok,
      Outcome.pure_eq_ok] at h
    obtain ⟨nonce, -, rfl, openTime, tail, rfl, rfl⟩ := h
    exact ⟨_, rfl, tail, by simp [htag]⟩
  | 1, h =>
    simp only [Outcome.bind_eq_ok, Prod.exists, unpackU8_eq_ok, unpackU64_eq_ok,
      Outcome.pure_eq_ok] at h
    obtain ⟨nonce, -, rfl, openTime, -, rfl, initPc, -, rfl, initCoin, tail, rfl, rfl⟩ := h
    exact ⟨_, rfl, tail, by simp [htag]⟩
  | 2, h =>
    simp only [Outcome.bind_eq_ok, Prod.exists, unpackU16_eq_ok, Outcome.pure_eq_ok] at h
    obtain ⟨plan, -, rfl, place, -, rfl, cancel, tail, rfl, rfl⟩ := h
    exact ⟨_, rfl, tail, by simp [htag]⟩
  | 3, h =>
    simp only [Outcome.bind_eq_ok, Prod.exists, unpackU64_eq_ok] at h
    obtain ⟨maxCoin, -, rfl, maxPc, -, rfl, baseSide, tail, rfl, h⟩ := h
    split at h
    case isTrue =>
      simp only [Outcome.bind_eq_ok, Prod.exists, unpackU64_eq_ok, Outcome.pure_eq_ok] at h
      obtain ⟨otherMin, tail, rfl, rfl⟩ := h
      exact ⟨_, rfl, tail, by simp [htag]⟩
    case isFalse =>
      cases h
      exact ⟨_, rfl, tail, by simp [htag]⟩
  | 4, h =>
    simp only [Outcome.bind_eq_ok, Prod.exists, unpackU64_eq_ok] at h
    obtain ⟨amount, tail, rfl, h⟩ := h
    split at h
    case isTrue =>
      simp only [Outcome.bind_eq_ok, Prod.exists, unpackU64_eq_ok, Outcome.pure_eq_ok] at h
      obtain ⟨minCoin, -, rfl, minPc, tail, rfl, rfl⟩ := h
      exact ⟨_, rfl, tail, by simp [htag]⟩
    case isFalse =>
      cases h
      exact ⟨_, rfl, tail, by simp [htag]⟩
  | 5, h =>
    cases h
    exact ⟨_, rfl, rest, by simp [htag]⟩
  | 6, h =>
    cases htag
    exact packsInto_of_unpackSetParams h
  | 7, h =>
    cases h
    exact ⟨_, rfl, rest, by simp [htag]⟩
  | 8, h =>
    simp only [Outcome.bind_eq_ok, Prod.exists, unpackU64_eq_ok, Outcome.pure_eq_ok] at h
    obtain ⟨amount, tail, rfl, rfl⟩ := h
    exact ⟨_, rfl, tail, by simp [htag]⟩
  | 9, h =>
    simp only [Outcome.bind_eq_ok, Prod.exists, unpackU64_eq_ok, Outcome.pure_eq_ok] at h
    obtain ⟨amountIn, -, rfl, minimumAmountOut, tail, rfl, rfl⟩ := h
    exact ⟨_, rfl, tail, by simp [htag]⟩
  | 10, h =>
    simp only [Outcome.bind_eq_ok, Prod.exists, unpackU8_eq_ok, Outcome.pure_eq_ok] at h
    obtain ⟨nonce, tail, rfl, rfl⟩ := h
    exact ⟨_, rfl, tail, by simp [htag]⟩
  | 11, h =>
    simp only [Outcome.bind_eq_ok, Prod.exists, unpackU64_eq_ok, Outcome.pure_eq_ok] at h
    obtain ⟨maxAmountIn, -, rfl, amountOut, tail, rfl, rfl⟩ := h
    exact ⟨_, rfl, tail, by simp [htag]⟩
  | 12, h =>
    cases htag
    exact packsInto_of_unpackSimulateInfo h
  | 13, h =>
    simp only [Outcome.bind_eq_ok, Prod.exists, unpackU16_eq_ok, Outcome.pure_eq_ok] at h
    obtain ⟨limit, tail, rfl, rfl⟩ := h
    exact ⟨_, rfl, tail, by simp [htag]⟩
  | 14, h =>
    cases h
    exact ⟨_, rfl, rest, by simp [htag]⟩
  | 15, h => exact absurd ht h15
  | 16, h => exact absurd ht h16
  | 17, h =>
    cases htag
    exact packsInto_of_unpackUpdateHookWhitelist h
  | 18, h =>
    simp only [Outcome.bind_eq_ok, Prod.exists, unpackU32, unpackWord_eq_ok (n := 4) rfl,
      Outcome.pure_eq_ok] at h
    obtain ⟨length, tail, rfl, extraAccounts, hmetas, rfl⟩ := h
    obtain ⟨hzero, rfl⟩ := unpackExtraMetas_eq_ok hmetas
    obtain rfl : length = 0 := BitVec.eq_of_toNat_eq hzero
    exact ⟨_, rfl, tail, by simp [htag, U32.toLeBytes, Words.leBytes]⟩
  | 19, h =>
    simp only [Outcome.bind_eq_ok, Outcome.pure_eq_ok] at h
    obtain ⟨authority, hkey, rfl⟩ := h
    obtain ⟨tail, rfl⟩ := unpackCheckedKey_eq_ok hkey
    exact ⟨_, rfl, tail, by simp [htag]⟩
  | 20, h =>
    simp only [Outcome.bind_eq_ok, Outcome.pure_eq_ok] at h
    obtain ⟨newAuthority, hkey, rfl⟩ := h
    obtain ⟨tail, rfl⟩ := unpackCheckedKey_eq_ok hkey
    exact ⟨_, rfl, tail, by simp [htag]⟩
  | t + 21, h => cases h

/-- `pack` gives back a prefix of an accepted input where the input is plain, and only there. -/
theorem packsInto_iff_plain {b : List U8} {i : AmmInstruction}
    (hread : AmmInstruction.unpack b = .ok i) : i.PacksInto b ↔ AmmInstruction.Plain b := by
  cases b with
  | nil => cases hread
  | cons tag rest =>
    by_cases h15 : tag.toNat = 15
    · obtain rfl : tag = 15 := BitVec.eq_of_toNat_eq h15
      exact packsInto_of_unpackUpdateConfig hread
    by_cases h16 : tag.toNat = 16
    · obtain rfl : tag = 16 := BitVec.eq_of_toNat_eq h16
      exact packsInto_of_unpackCreateToken2022Mint hread
    exact iff_of_true (packsInto_of_tag h15 h16 hread) (plain_of_tag h15 h16)

/-- What the parser read from a plain input is written back as a prefix of it, and only from a
    plain input; so two plain inputs with the same instruction differ only behind what `pack`
    writes. -/
theorem pack_of_unpack_iff {b : List U8} {i : AmmInstruction}
    (h : AmmInstruction.unpack b = .ok i) :
    ((∃ p, i.pack = .ok p ∧ p <+: b) ↔ AmmInstruction.Plain b) ∧
      ∀ b', AmmInstruction.unpack b' = .ok i → AmmInstruction.Plain b → AmmInstruction.Plain b' →
        ∃ p, i.pack = .ok p ∧ p <+: b ∧ p <+: b' := by
  refine ⟨packsInto_iff_plain h, fun b' h' hb hb' => ?_⟩
  obtain ⟨p, hp, hstart⟩ := (packsInto_iff_plain h).mpr hb
  obtain ⟨p', hp', hstart'⟩ := (packsInto_iff_plain h').mpr hb'
  obtain rfl : p = p' := Except.ok.inj (hp.symm.trans hp')
  exact ⟨p, hp, hstart, hstart'⟩

/-- A withdrawal of PnL with a trailing byte. -/
theorem pack_of_unpack_withdrawPnl :
    (∃ p, AmmInstruction.withdrawPnl.pack = .ok p ∧ p <+: [7, 1]) ∧
      ∀ b', AmmInstruction.unpack b' = .ok .withdrawPnl → AmmInstruction.Plain b' →
        ∃ p, AmmInstruction.withdrawPnl.pack = .ok p ∧ p <+: [7, 1] ∧ p <+: b' := by
  have hplain : AmmInstruction.Plain [7, 1] := trivial
  obtain ⟨hpacks, hshared⟩ := pack_of_unpack_iff (b := [7, 1]) (i := .withdrawPnl) rfl
  exact ⟨hpacks.mpr hplain, fun b' hb' => hshared b' hb' hplain⟩

/-- A new owner that is the zero key, and a mint whose name is the byte `FF`. -/
theorem pack_of_unpack_not_prefix :
    (∃ i, AmmInstruction.unpack (15 :: 0 :: List.replicate 32 0) = .ok i ∧
      ¬∃ p, i.pack = .ok p ∧ p <+: 15 :: 0 :: List.replicate 32 0) ∧
    ∃ i, AmmInstruction.unpack (16 :: 0 :: (List.replicate 96 0 ++ [1, 0xFF, 0, 0])) = .ok i ∧
      ¬∃ p, i.pack = .ok p ∧ p <+: 16 :: 0 :: (List.replicate 96 0 ++ [1, 0xFF, 0, 0]) := by
  constructor
  · refine ⟨.updateConfigAccount ⟨0, some Pubkey.default, none⟩, rfl, fun hp => ?_⟩
    have hplain := (packsInto_iff_plain rfl).mp hp
    exact hplain (.inl rfl) rfl
  · refine ⟨.createToken2022Mint ⟨0, Pubkey.default, none, none, utf8Replacement, [], []⟩, rfl,
      fun hp => ?_⟩
    have hplain := (packsInto_iff_plain rfl).mp hp
    cases hplain [0xFF] (by decide) with
    | cons hrest _ => cases hrest

end RaydiumAmm
