import RaydiumAmm.RoundTrip

/-!
# What the parser accepts and where it aborts

`AmmInstruction::unpack` is meant to return an instruction or `InvalidInstructionData`.

1. `Parses`: one of these two outcomes, and how it passes through a sequence of readers.
2. `AmmInstruction.Aborts`: the inputs on which a reader panics instead.
3. `unpack_parses_iff`: the parser has one of the two outcomes on all other inputs and on no such
   input.
-/

namespace RaydiumAmm

/-! ## 1. Readers -/

/-- A reader returns a value or `InvalidInstructionData`. -/
def Parses {α : Type} (x : Result α) : Prop :=
  (∃ a, x = .ok a) ∨ x = Outcome.fail .invalidInstructionData

section Readers

variable {α β : Type} {x : Result α} {f : α → Result β} {input rest : List U8} {n : Nat}

@[simp] theorem parses_ok (a : α) : Parses (.ok a : Result α) := .inl ⟨a, rfl⟩

@[simp] theorem parses_pure (a : α) : Parses (pure a : Result α) := parses_ok a

@[simp] theorem parses_fail :
    Parses (Outcome.fail .invalidInstructionData : Result α) := .inr rfl

@[simp] theorem not_parses_panic : ¬Parses (Outcome.panic : Result α) := by
  rintro (⟨a, h⟩ | h) <;> cases h

/-- A sequence parses where its first reader does and the rest parses what that one left. -/
theorem parses_bind : Parses (x >>= f) ↔ Parses x ∧ ∀ a, x = .ok a → Parses (f a) := by
  cases x with
  | ok a =>
    constructor
    · intro h
      refine ⟨parses_ok a, fun a' ha => ?_⟩
      cases ha
      exact h
    · rintro ⟨-, h⟩
      exact h a rfl
  | error e =>
    constructor
    · rintro (⟨b, h⟩ | h)
      · cases h
      · cases h
        exact ⟨parses_fail, fun a ha => by cases ha⟩
    · rintro ⟨⟨a, h⟩ | h, -⟩
      · cases h
      · cases h
        exact .inr rfl

/-- The rest of a sequence decides where the first reader never aborts. -/
theorem Parses.bind (hx : Parses x) (hf : ∀ a, Parses (f a)) : Parses (x >>= f) :=
  parses_bind.mpr ⟨hx, fun a _ => hf a⟩

@[simp] theorem parses_require (p : Prop) [Decidable p] :
    Parses (Outcome.require p .invalidInstructionData : Result Unit) := by
  unfold Outcome.require
  split
  · exact parses_ok ()
  · exact parses_fail

@[simp] theorem parses_unpackWord (n w : Nat) (input : List U8) :
    Parses (unpackWord n w input) := by
  unfold unpackWord
  split
  · exact parses_ok _
  · exact parses_fail

@[simp] theorem parses_unpackU8 (input : List U8) : Parses (unpackU8 input) :=
  parses_unpackWord 1 8 input

@[simp] theorem parses_unpackU16 (input : List U8) : Parses (unpackU16 input) :=
  parses_unpackWord 2 16 input

@[simp] theorem parses_unpackU64 (input : List U8) : Parses (unpackU64 input) :=
  parses_unpackWord 8 64 input

theorem sliceFrom_of_le (h : n ≤ input.length) : sliceFrom n input = .ok (input.drop n) := if_pos h

theorem not_parses_sliceFrom (h : ¬n ≤ input.length) {g : List U8 → Result β} :
    ¬Parses (sliceFrom n input >>= g) := by
  rw [sliceFrom, if_neg h]
  exact fun hp => not_parses_panic (parses_bind.mp hp).1

theorem readKey_of_le (h : 32 ≤ input.length) :
    readKey input = .ok (Pubkey.ofBytes (input.take 32)) := by
  rw [readKey, arrayRef, if_pos h]
  rfl

theorem not_parses_readKey (h : ¬32 ≤ input.length) {g : Pubkey → Result β} :
    ¬Parses (readKey input >>= g) := by
  rw [readKey, arrayRef, if_neg h]
  exact fun hp => not_parses_panic (parses_bind.mp hp).1

theorem parses_unpackText (input : List U8) : Parses (unpackText input) :=
  (parses_unpackU8 input).bind fun _ => (parses_require _).bind fun _ => parses_pure _

theorem parses_unpackCheckedKey (input : List U8) : Parses (unpackCheckedKey input) := by
  by_cases h : 32 ≤ input.length
  · rw [unpackCheckedKey, Outcome.require_pos h, Outcome.ok_bind, readKey_of_le h]
    exact parses_ok _
  · rw [unpackCheckedKey, Outcome.require_neg h]
    exact parses_fail

theorem AmmParams.fromU8_eq_ok {param : U8} (h : param.toNat ≤ 17) :
    ∃ p, AmmParams.fromU8 param = .ok p := by
  unfold AmmParams.fromU8
  split
  case h_19 => grind
  all_goals exact ⟨_, rfl⟩

theorem AmmParams.fromU8_eq_panic {param : U8} (h : 17 < param.toNat) :
    AmmParams.fromU8 param = Outcome.panic := by
  unfold AmmParams.fromU8
  split
  case h_19 => rfl
  all_goals grind

theorem SimulateParams.fromU8_eq_ok {param : U8} (h : param.toNat ≤ 3) :
    ∃ p, SimulateParams.fromU8 param = .ok p := by
  unfold SimulateParams.fromU8
  split
  case h_5 => grind
  all_goals exact ⟨_, rfl⟩

theorem SimulateParams.fromU8_eq_panic {param : U8} (h : 3 < param.toNat) :
    SimulateParams.fromU8 param = Outcome.panic := by
  unfold SimulateParams.fromU8
  split
  case h_5 => rfl
  all_goals grind

end Readers

/-! ## 2. Where a reader aborts -/

/-- The inputs on which `unpack` aborts: an unknown parameter, a key or three that are cut short, an
    extra account that is not cut short. -/
def AmmInstruction.Aborts : List U8 → Prop
  | [] => False
  | tag :: rest =>
    match tag.toNat, rest with
    | 6, param :: _ => 17 < param.toNat
    | 12, param :: _ => 3 < param.toNat
    | 15, param :: owner => (param = 0 ∨ param = 1) ∧ owner.length < 32
    | 16, _ :: keys => keys.length < 96
    | 17, key => key.length < 32
    | 18, metas => 38 ≤ metas.length ∧ (Words.ofLeBytes 32 (metas.take 4)).toNat ≠ 0
    | _, _ => False

theorem parses_unpackSetParams {param : U8} {rest : List U8} :
    Parses (unpackSetParams (param :: rest)) ↔ ¬17 < param.toNat := by
  by_cases h : 17 < param.toNat
  · simp only [unpackSetParams, unpackU8_cons, Outcome.ok_bind, AmmParams.fromU8_eq_panic h, h,
      not_true_eq_false, iff_false]
    exact fun hp => not_parses_panic (parses_bind.mp hp).1
  · obtain ⟨p, hp⟩ := AmmParams.fromU8_eq_ok (Nat.le_of_not_lt h)
    simp only [unpackSetParams, unpackU8_cons, Outcome.ok_bind, hp, h, not_false_eq_true, iff_true]
    -- an owner and fees are read behind a test of their length
    cases p
    case ammOwner =>
      refine parses_bind.mpr ⟨parses_require _, fun u hu => ?_⟩
      rw [readKey_of_le (Outcome.require_eq_ok.mp hu)]
      exact parses_pure _
    case fees => exact (parses_require _).bind fun _ => parses_pure _
    case lastOrderDistance =>
      exact (parses_require _).bind fun _ => (parses_unpackU64 _).bind fun _ =>
        (parses_unpackU64 _).bind fun _ => parses_pure _
    all_goals
      exact (parses_require _).bind fun _ => (parses_unpackU64 _).bind fun _ => parses_pure _

theorem parses_unpackSimulateInfo {param : U8} {rest : List U8} :
    Parses (unpackSimulateInfo (param :: rest)) ↔ ¬3 < param.toNat := by
  by_cases h : 3 < param.toNat
  · simp only [unpackSimulateInfo, unpackU8_cons, Outcome.ok_bind,
      SimulateParams.fromU8_eq_panic h, h, not_true_eq_false, iff_false]
    exact fun hp => not_parses_panic (parses_bind.mp hp).1
  · obtain ⟨p, hp⟩ := SimulateParams.fromU8_eq_ok (Nat.le_of_not_lt h)
    simp only [unpackSimulateInfo, unpackU8_cons, Outcome.ok_bind, hp, h, not_false_eq_true,
      iff_true]
    cases p
    case poolInfo => exact parses_pure _
    case runCrankInfo => exact parses_pure _
    all_goals
      exact (parses_unpackU64 _).bind fun _ => (parses_unpackU64 _).bind fun _ => parses_pure _

theorem parses_unpackUpdateConfig {param : U8} {rest : List U8} :
    Parses (unpackUpdateConfig (param :: rest)) ↔
      ¬((param = 0 ∨ param = 1) ∧ rest.length < 32) := by
  simp only [unpackUpdateConfig, unpackU8_cons, Outcome.ok_bind]
  by_cases hparam : param = 0 ∨ param = 1
  · rw [if_pos hparam]
    by_cases hlen : 32 ≤ rest.length
    · rw [readKey_of_le hlen]
      exact iff_of_true (parses_pure _) fun h => Nat.not_lt.mpr hlen h.2
    · exact iff_of_false (not_parses_readKey hlen) fun h => h ⟨hparam, Nat.lt_of_not_le hlen⟩
  · rw [if_neg hparam]
    refine iff_of_true ?_ fun h => hparam h.1
    split
    · exact (parses_unpackU64 _).bind fun _ => parses_pure _
    · exact parses_fail

theorem parses_unpackCreateToken2022Mint {decimals : U8} {rest : List U8} :
    Parses (unpackCreateToken2022Mint (decimals :: rest)) ↔ ¬rest.length < 96 := by
  simp only [unpackCreateToken2022Mint, unpackU8_cons, Outcome.ok_bind]
  by_cases h1 : 32 ≤ rest.length
  case neg => exact iff_of_false (not_parses_readKey h1) (by omega)
  rw [readKey_of_le h1, Outcome.ok_bind, sliceFrom_of_le h1, Outcome.ok_bind]
  by_cases h2 : 32 ≤ (rest.drop 32).length
  case neg =>
    rw [List.length_drop] at h2
    exact iff_of_false (not_parses_sliceFrom (by rwa [List.length_drop])) (by omega)
  rw [sliceFrom_of_le h2, Outcome.ok_bind]
  by_cases h3 : 32 ≤ ((rest.drop 32).drop 32).length
  case neg =>
    simp only [List.length_drop] at h3
    exact iff_of_false (not_parses_sliceFrom (by rwa [List.length_drop, List.length_drop]))
      (by omega)
  rw [sliceFrom_of_le h3, Outcome.ok_bind]
  simp only [List.length_drop] at h3
  refine iff_of_true ?_ (by omega)
  -- the texts are cut off behind a test of their length
  exact (parses_unpackText _).bind fun _ => (parses_unpackText _).bind fun _ =>
    (parses_unpackText _).bind fun _ => parses_pure _

theorem parses_unpackUpdateHookWhitelist {rest : List U8} :
    Parses (unpackUpdateHookWhitelist rest) ↔ ¬rest.length < 32 := by
  by_cases h : 32 ≤ rest.length
  · rw [unpackUpdateHookWhitelist, readKey_of_le h, Outcome.ok_bind, sliceFrom_of_le h,
      Outcome.ok_bind]
    refine iff_of_true ?_ (Nat.not_lt.mpr h)
    split
    · exact parses_fail
    · split
      · exact parses_pure _
      · split
        · exact parses_pure _
        · exact parses_fail
  · exact iff_of_false (not_parses_readKey h) (by omega)

/-- The first item of a list is cut too short for its type. -/
theorem unpackExtraMetas_eq_panic {length : Nat} {rest : List U8} (h : 34 ≤ rest.length) :
    unpackExtraMetas (length + 1) rest = Outcome.panic := by
  have hitem : (rest.take 34).length ≠ EXTRA_ACCOUNT_META_LEN := by
    rw [List.length_take, Nat.min_eq_left h]
    decide
  rw [unpackExtraMetas, Outcome.require_pos h, Outcome.ok_bind, ExtraAccountMeta.fromBytes,
    if_neg hitem]
  rfl

theorem parses_unpackExtraMetas {length : Nat} {rest : List U8} :
    Parses (unpackExtraMetas length rest) ↔ ¬(length ≠ 0 ∧ 34 ≤ rest.length) := by
  cases length with
  | zero => exact iff_of_true (parses_ok _) fun h => h.1 rfl
  | succ length =>
    by_cases h : 34 ≤ rest.length
    · rw [unpackExtraMetas_eq_panic h]
      exact iff_of_false not_parses_panic fun hn => hn ⟨Nat.succ_ne_zero length, h⟩
    · rw [unpackExtraMetas, Outcome.require_neg h]
      exact iff_of_true parses_fail fun hn => h hn.2

theorem parses_unpackExtraMetaList {rest : List U8} :
    Parses (do
      let (length, rest) ← unpackU32 rest
      let extraAccounts ← unpackExtraMetas length.toNat rest
      return AmmInstruction.initializeExtraAccountMetaList extraAccounts) ↔
      ¬(38 ≤ rest.length ∧ (Words.ofLeBytes 32 (rest.take 4)).toNat ≠ 0) := by
  by_cases h : 4 ≤ rest.length
  · rw [unpackU32, unpackWord, if_pos h, Outcome.ok_bind, parses_bind, parses_unpackExtraMetas]
    simp only [List.length_drop, parses_pure, implies_true, and_true]
    constructor
    · intro hn hlist
      exact hn ⟨hlist.2, by omega⟩
    · intro hn hlist
      exact hn ⟨by omega, hlist.1⟩
  · rw [unpackU32, unpackWord, if_neg h]
    exact iff_of_true parses_fail fun hn => h (by omega)

/-! ## 3. The parser -/

/-- The parser returns an instruction or `InvalidInstructionData` on the inputs on which no reader
    aborts, and on no others. -/
theorem unpack_parses_iff (b : List U8) :
    (∃ i, AmmInstruction.unpack b = .ok i) ∨
        AmmInstruction.unpack b = Outcome.fail .invalidInstructionData ↔
      ¬AmmInstruction.Aborts b := by
  change Parses (AmmInstruction.unpack b) ↔ _
  cases b with
  | nil => exact iff_of_true parses_fail id
  | cons tag rest =>
    dsimp only [AmmInstruction.unpack, AmmInstruction.Aborts]
    generalize tag.toNat = t
    match t, rest with
    | 0, rest =>
      exact iff_of_true ((parses_unpackU8 _).bind fun _ => (parses_unpackU64 _).bind fun _ =>
        parses_pure _) id
    | 1, rest =>
      exact iff_of_true ((parses_unpackU8 _).bind fun _ => (parses_unpackU64 _).bind fun _ =>
        (parses_unpackU64 _).bind fun _ => (parses_unpackU64 _).bind fun _ => parses_pure _) id
    | 2, rest =>
      exact iff_of_true ((parses_unpackU16 _).bind fun _ => (parses_unpackU16 _).bind fun _ =>
        (parses_unpackU16 _).bind fun _ => parses_pure _) id
    | 3, rest =>
      refine iff_of_true ((parses_unpackU64 _).bind fun _ => (parses_unpackU64 _).bind fun _ =>
        (parses_unpackU64 _).bind fun _ => ?_) id
      split
      · exact (parses_unpackU64 _).bind fun _ => parses_pure _
      · exact parses_pure _
    | 4, rest =>
      refine iff_of_true ((parses_unpackU64 _).bind fun _ => ?_) id
      split
      · exact (parses_unpackU64 _).bind fun _ => (parses_unpackU64 _).bind fun _ => parses_pure _
      · exact parses_pure _
    | 5, rest => exact iff_of_true (parses_pure _) id
    | 6, [] => exact iff_of_true parses_fail id
    | 6, param :: rest => exact parses_unpackSetParams
    | 7, rest => exact iff_of_true (parses_pure _) id
    | 8, rest => exact iff_of_true ((parses_unpackU64 _).bind fun _ => parses_pure _) id
    | 9, rest =>
      exact iff_of_true ((parses_unpackU64 _).bind fun _ => (parses_unpackU64 _).bind fun _ =>
        parses_pure _) id
    | 10, rest => exact iff_of_true ((parses_unpackU8 _).bind fun _ => parses_pure _) id
    | 11, rest =>
      exact iff_of_true ((parses_unpackU64 _).bind fun _ => (parses_unpackU64 _).bind fun _ =>
        parses_pure _) id
    | 12, [] => exact iff_of_true parses_fail id
    | 12, param :: rest => exact parses_unpackSimulateInfo
    | 13, rest => exact iff_of_true ((parses_unpackU16 _).bind fun _ => parses_pure _) id
    | 14, rest => exact iff_of_true (parses_pure _) id
    | 15, [] => exact iff_of_true parses_fail id
    | 15, param :: rest => exact parses_unpackUpdateConfig
    | 16, [] => exact iff_of_true parses_fail id
    | 16, decimals :: rest => exact parses_unpackCreateToken2022Mint
    | 17, rest => exact parses_unpackUpdateHookWhitelist
    | 18, rest => exact parses_unpackExtraMetaList
    | 19, rest =>
      exact iff_of_true ((parses_unpackCheckedKey _).bind fun _ => parses_pure _) id
    | 20, rest =>
      exact iff_of_true ((parses_unpackCheckedKey _).bind fun _ => parses_pure _) id
    | t + 21, rest => exact iff_of_true parses_fail id

/-- A `SetParams` whose parameter byte is 18. -/
theorem unpack_aborts_setParams :
    AmmInstruction.unpack [6, 18] = Outcome.panic ∧
      ¬((∃ i, AmmInstruction.unpack [6, 18] = .ok i) ∨
        AmmInstruction.unpack [6, 18] = Outcome.fail .invalidInstructionData) :=
  ⟨rfl, not_parses_panic⟩

end RaydiumAmm
