import RaydiumAmm.HookFlag

/-!
# The extra accounts of a hook

A meta list names the accounts that a hook wants beyond the first five, some of them by seeds that
read the keys and the data of earlier accounts. `execute_transfer_hook` resolves them in order and
takes the accounts themselves from its caller.

1. `Faithful`: the metas are those of a truthful resolution, and every account has the key of its
   meta;
2. `ShowsTruth`, `SuppliesResolved`: what the two shortcuts of the loop rely on;
3. `extra_accounts_faithful_iff`: faithful exactly where both hold.
-/

namespace RaydiumAmm

/-! ## 1. A faithful call -/

/-- A lookup that shows every account of a call with its key and its data. -/
def truthfulLookup (dataOf : AccountData → List U8) (acc : Accounts) (infos : List AccountInfo) :
    MetaLookup := fun index =>
  (infos[index]?).map fun info => (info.key, some (dataOf (acc info.key).data))

/-- The metas after the first five are the resolutions of the meta list over the accounts of the
    call, and the accounts have the keys of the metas, one by one. -/
structure HookTransfer.Faithful (t : HookTransfer) (dataOf : AccountData → List U8) (env : Env)
    (hook : Pubkey) (metaList : List ExtraAccountMeta) (metas : List AccountMeta)
    (infos : List AccountInfo) (acc : Accounts) : Prop where
  resolved : ∀ i extra, metaList[i]? = some extra → ∃ m, metas[5 + i]? = some m ∧
    env.resolveMeta extra t.amount hook (truthfulLookup dataOf acc infos) = .ok m
  aligned : infos.map AccountInfo.key = metas.map AccountMeta.pubkey

/-! ## 2. What the loop relies on -/

/-- The accounts for a call with `n` extra ones, as the caller supplies them. -/
def HookTransfer.suppliedInfos (t : HookTransfer) (metaListInfo : AccountInfo) (n : ℕ) :
    List AccountInfo :=
  t.fixedInfos metaListInfo ++ (t.remainingAccounts.drop 2).take n

/-- Nothing in the meta list depends on the data of an account: one byte in the place of the data of
    a writable account, none for the others, and no sight of the later accounts, resolve every meta
    as the accounts themselves do. -/
def HookTransfer.ShowsTruth (t : HookTransfer) (dataOf : AccountData → List U8) (env : Env)
    (hook : Pubkey) (metaListInfo : AccountInfo) (metaList : List ExtraAccountMeta)
    (acc : Accounts) : Prop :=
  ∀ i extra, metaList[i]? = some extra →
    env.resolveMeta extra t.amount hook
        (resolveLookup ((t.suppliedInfos metaListInfo metaList.length).take (5 + i))) =
      env.resolveMeta extra t.amount hook
        (truthfulLookup dataOf acc (t.suppliedInfos metaListInfo metaList.length))

/-- The caller supplies the account to which each meta of the list resolves, in order. -/
def HookTransfer.SuppliesResolved (t : HookTransfer) (dataOf : AccountData → List U8) (env : Env)
    (hook : Pubkey) (metaListInfo : AccountInfo) (metaList : List ExtraAccountMeta)
    (acc : Accounts) : Prop :=
  ∀ i extra m, metaList[i]? = some extra →
    env.resolveMeta extra t.amount hook
      (truthfulLookup dataOf acc (t.suppliedInfos metaListInfo metaList.length)) = .ok m →
    ∃ info, t.remainingAccounts[i + 2]? = some info ∧ info.key = m.pubkey

/-! ## 3. The loop -/

section Loop

variable {t : HookTransfer} {env : Env} {programId hook : Pubkey} {w w₁ : World}
  {metaListInfo : AccountInfo} {metaList : List ExtraAccountMeta} {metas : List AccountMeta}
  {infos : List AccountInfo}

/-- What the loop has done when the call is reached: the accounts are the supplied ones, and each
    extra meta was resolved with the accounts before its own. -/
theorem HookTransfer.Reaches.spec
    (h : t.Reaches env programId w hook metaListInfo metaList metas infos w₁) :
    infos = t.suppliedInfos metaListInfo metaList.length ∧
      infos.length = 5 + metaList.length ∧
      ∃ resolved, metas = t.fixedMetas env hook ++ resolved ∧ resolved.length = metaList.length ∧
        ∀ i extra, metaList[i]? = some extra → ∃ m, resolved[i]? = some m ∧
          env.resolveMeta extra t.amount hook (resolveLookup (infos.take (5 + i))) = .ok m :=
  resolveExtraMetas_eq_ok h.resolved

/-- The account taken for an extra meta. -/
theorem getElem?_taken {α : Type} {l : List α} {i n : ℕ} (hi : i < n) :
    ((l.drop 2).take n)[i]? = l[i + 2]? := by
  rw [List.getElem?_take_of_lt hi, List.getElem?_drop, Nat.add_comm]

/-- The keys of the accounts are those of the metas exactly where the caller supplies the accounts
    that the extra ones name. -/
theorem HookTransfer.Reaches.aligned_iff
    (h : t.Reaches env programId w hook metaListInfo metaList metas infos w₁)
    {resolved : List AccountMeta} (hmetas : metas = t.fixedMetas env hook ++ resolved)
    (hcount : resolved.length = metaList.length) :
    infos.map AccountInfo.key = metas.map AccountMeta.pubkey ↔
      ∀ i m, resolved[i]? = some m →
        ∃ info, t.remainingAccounts[i + 2]? = some info ∧ info.key = m.pubkey := by
  have hfixed : (t.fixedInfos metaListInfo).map AccountInfo.key =
      (t.fixedMetas env hook).map AccountMeta.pubkey := by
    simp only [fixedInfos, fixedMetas, List.map_cons, List.map_nil, h.address]
  rw [h.spec.1, hmetas, suppliedInfos, List.map_append, List.map_append, hfixed,
    List.append_right_inj]
  constructor
  · intro hkeys i m hm
    have hlt : i < metaList.length := hcount ▸ (List.getElem?_eq_some_iff.mp hm).1
    have hkey := congrArg (fun l : List Pubkey => l[i]?) hkeys
    simp only [List.getElem?_map, getElem?_taken hlt, hm, Option.map_some,
      Option.map_eq_some_iff] at hkey
    exact hkey
  · intro hsupplies
    apply List.ext_getElem?
    intro i
    rw [List.getElem?_map, List.getElem?_map]
    cases hm : resolved[i]? with
    | some m =>
      have hlt : i < metaList.length := hcount ▸ (List.getElem?_eq_some_iff.mp hm).1
      obtain ⟨info, hinfo, hkey⟩ := hsupplies i m hm
      rw [getElem?_taken hlt, hinfo, Option.map_some, Option.map_some, hkey]
    | none =>
      have hle : metaList.length ≤ i := hcount ▸ List.getElem?_eq_none_iff.mp hm
      have htaken := (List.length_take_le metaList.length (t.remainingAccounts.drop 2)).trans hle
      rw [List.getElem?_eq_none htaken]
      rfl

/-- A call that is reached is faithful if and only if the resolutions do not depend on what the
    lookup hides and the caller supplies the accounts that they name. -/
theorem extra_accounts_faithful_iff (dataOf : AccountData → List U8)
    (h : t.Reaches env programId w hook metaListInfo metaList metas infos w₁) :
    t.Faithful dataOf env hook metaList metas infos w₁.accounts ↔
      t.ShowsTruth dataOf env hook metaListInfo metaList w₁.accounts ∧
        t.SuppliesResolved dataOf env hook metaListInfo metaList w₁.accounts := by
  obtain ⟨hinfos, -, resolved, hmetas, hcount, hshown⟩ := h.spec
  have hextra : ∀ i, metas[5 + i]? = resolved[i]? := by
    intro i
    rw [hmetas, List.getElem?_append_right (Nat.le_add_right 5 i)]
    congr 1
    exact Nat.add_sub_cancel_left 5 i
  have haligned := h.aligned_iff hmetas hcount
  constructor
  · rintro ⟨hresolved, hkeys⟩
    rw [hinfos] at hresolved hshown
    constructor
    · intro i extra hi
      obtain ⟨m, hm, hshows⟩ := hshown i extra hi
      obtain ⟨m', hm', htruth⟩ := hresolved i extra hi
      rw [hextra, hm] at hm'
      cases hm'
      exact hshows.trans htruth.symm
    · intro i extra m hi htruth
      obtain ⟨m', hm', htruth'⟩ := hresolved i extra hi
      cases htruth.symm.trans htruth'
      exact haligned.mp hkeys i m ((hextra i).symm.trans hm')
  · rintro ⟨hshows, hsupplies⟩
    rw [HookTransfer.ShowsTruth, ← hinfos] at hshows
    rw [HookTransfer.SuppliesResolved, ← hinfos] at hsupplies
    constructor
    · intro i extra hi
      obtain ⟨m, hm, hshown'⟩ := hshown i extra hi
      exact ⟨m, (hextra i).trans hm, (hshows i extra hi).symm.trans hshown'⟩
    · refine haligned.mpr fun i m hm => ?_
      have hlt : i < metaList.length := hcount ▸ (List.getElem?_eq_some_iff.mp hm).1
      have hi : metaList[i]? = some metaList[i] := List.getElem?_eq_getElem hlt
      obtain ⟨m', hm', hshown'⟩ := hshown i _ hi
      cases hm.symm.trans hm'
      exact hsupplies i _ m hi ((hshows i _ hi).symm.trans hshown')

end Loop

namespace Reference

/-- The resolution of two kinds of metas: a fixed address, and an address that is derived from one
    seed, a slice of the data of an account. -/
def resolve (findProgramAddress : List (List U8) → Pubkey → Pubkey × U8) (extra : ExtraAccountMeta)
    (hook : Pubkey) (lookup : MetaLookup) : Except ProgramError AccountMeta :=
  let config := Pubkey.toBytes ⟨extra.addressConfig⟩
  if extra.discriminator = 0 then
    .ok ⟨⟨extra.addressConfig⟩, extra.isSigner == 1, extra.isWritable == 1⟩
  else if extra.discriminator = 1 ∧ config.getD 0 0 = 4 then
    match (lookup (config.getD 1 0).toNat).bind (·.2) with
    | some data =>
      let slice := (data.drop (config.getD 2 0).toNat).take (config.getD 3 0).toNat
      if slice.length = (config.getD 3 0).toNat then
        .ok ⟨(findProgramAddress [slice] hook).1, extra.isSigner == 1, extra.isWritable == 1⟩
      else .error .invalidAccountData
    | none => .error .invalidAccountData
  else .error .invalidAccountData

/-- The addresses of `hookEnv`, and those of a seed of one byte from 100 on. -/
def seededAddress (seeds : List (List U8)) (_ : Pubkey) : Pubkey × U8 :=
  match seeds with
  | [[b]] => (key (100 + b.toNat), 255)
  | _ => (key (70 + seeds.length), 255)

/-- The reference runtime of the hook with a meta list. -/
def resolvingEnv (metaList : List ExtraAccountMeta) : Env :=
  { hookEnv with
    findProgramAddress := seededAddress
    metaListUnpack := fun _ => some metaList
    resolveMeta := fun extra _ hook lookup => resolve seededAddress extra hook lookup }

/-- The account 80, writable. -/
def fixedMeta : ExtraAccountMeta := ⟨0, (key 80).bits, 0, 1⟩

/-- The address that is derived from the first byte of the data of the first extra account. -/
def seededMeta : ExtraAccountMeta :=
  ⟨1, (Pubkey.ofBytes ([4, 5, 0, 1] ++ List.replicate 28 0)).bits, 0, 0⟩

/-- The seeded meta resolves by the first byte that the lookup shows for its account. -/
theorem resolve_seededMeta {lookup : MetaLookup} {k : Pubkey} {b : U8} {rest : List U8}
    (h : lookup 5 = some (k, some (b :: rest))) :
    resolve seededAddress seededMeta hook lookup = .ok ⟨key (100 + b.toNat), false, false⟩ := by
  have hkind : seededMeta.discriminator ≠ 0 := by decide
  have hseed : seededMeta.discriminator = 1 ∧
      (Pubkey.toBytes ⟨seededMeta.addressConfig⟩).getD 0 0 = 4 := by decide
  have haccount : ((Pubkey.toBytes ⟨seededMeta.addressConfig⟩).getD 1 0).toNat = 5 := by decide
  have hindex : ((Pubkey.toBytes ⟨seededMeta.addressConfig⟩).getD 2 0).toNat = 0 := by decide
  have hlength : ((Pubkey.toBytes ⟨seededMeta.addressConfig⟩).getD 3 0).toNat = 1 := by decide
  simp only [resolve, if_neg hkind, if_pos hseed, haccount, hindex, hlength, h, Option.bind_some]
  rfl

/-- The payment of a swap with extra accounts. -/
def extrasPayment (extras : List AccountInfo) : HookTransfer :=
  { hookedPayment with remainingAccounts := hookInfos ++ extras }

/-- The world of the payment, where the account 80 holds the byte 7. -/
def extrasWorld : World :=
  { flaggedWorld [] with
    accounts := (flaggedWorld []).accounts.setData (key 80) (.bytes [7]) }

/-- The data of an account of bytes. -/
def bytesData : AccountData → List U8
  | .bytes b => b
  | _ => []

/-- Once its metas are resolved the payment gets to the call. -/
theorem extrasPayment_reaches (metaList : List ExtraAccountMeta) (extras : List AccountInfo)
    {infos : List AccountInfo} {metas : List AccountMeta}
    (h : resolveExtraMetas (resolvingEnv metaList) hook 1000 (hookInfos ++ extras) 0 metaList
      ((extrasPayment extras).fixedMetas (resolvingEnv metaList) hook)
      ((extrasPayment extras).fixedInfos (readonly 72)) = .ok (metas, infos)) :
    ∃ w₁, (extrasPayment extras).Reaches (resolvingEnv metaList) program extrasWorld hook
        (readonly 72) metaList metas infos w₁ ∧
      (w₁.accounts (key 80)).data = .bytes [7] := by
  have hlisted : isHookWhitelisted (resolvingEnv metaList) extrasWorld program (readonly 71) hook =
      .ok true :=
    hook_whitelisted_of (w := extrasWorld) rfl (by decide)
  refine ⟨_, ⟨⟨rfl, readonly 71, extras, rfl, hlisted⟩, rfl, rfl, rfl,
    show key 31 ≠ key 72 by decide, rfl, h⟩, rfl⟩

end Reference

open Reference in
/-- The payment with the account that its meta list names. -/
theorem extra_accounts_faithful_fixed :
    ∃ metas infos w₁,
      (extrasPayment [writable 80]).Reaches (resolvingEnv [fixedMeta]) program extrasWorld hook
        (readonly 72) [fixedMeta] metas infos w₁ ∧
      (extrasPayment [writable 80]).Faithful bytesData (resolvingEnv [fixedMeta]) hook [fixedMeta]
        metas infos w₁.accounts := by
  obtain ⟨w₁, hreaches, -⟩ := extrasPayment_reaches [fixedMeta] [writable 80] rfl
  refine ⟨_, _, w₁, hreaches, (extra_accounts_faithful_iff bytesData hreaches).mpr ⟨?_, ?_⟩⟩
  · rintro (_ | i) extra hi
    · cases hi
      rfl
    · cases hi
  · rintro (_ | i) extra m hi htruth
    · cases hi
      cases htruth
      exact ⟨writable 80, rfl, rfl⟩
    · cases hi

open Reference in
/-- Another account than the one that the meta list names is handed over in its place, and an
    address that is derived from the data of an account is derived from the byte 1 instead. -/
theorem extra_accounts_not_faithful :
    (∃ metas infos w₁,
      (extrasPayment [writable 81]).Reaches (resolvingEnv [fixedMeta]) program extrasWorld hook
        (readonly 72) [fixedMeta] metas infos w₁ ∧
      ¬(extrasPayment [writable 81]).Faithful bytesData (resolvingEnv [fixedMeta]) hook [fixedMeta]
        metas infos w₁.accounts) ∧
    ∃ metas infos w₁,
      (extrasPayment [writable 80, readonly 101]).Reaches (resolvingEnv [fixedMeta, seededMeta])
        program extrasWorld hook (readonly 72) [fixedMeta, seededMeta] metas infos w₁ ∧
      ¬(extrasPayment [writable 80, readonly 101]).Faithful bytesData
        (resolvingEnv [fixedMeta, seededMeta]) hook [fixedMeta, seededMeta] metas infos
        w₁.accounts := by
  constructor
  · obtain ⟨w₁, hreaches, -⟩ := extrasPayment_reaches [fixedMeta] [writable 81] rfl
    refine ⟨_, _, w₁, hreaches, fun hfaithful => ?_⟩
    have hkeys := congrArg (fun l : List Pubkey => l[5]?) hfaithful.aligned
    revert hkeys
    decide
  · obtain ⟨w₁, hreaches, hdata⟩ := extrasPayment_reaches [fixedMeta, seededMeta]
      [writable 80, readonly 101] rfl
    refine ⟨_, _, w₁, hreaches, fun hfaithful => ?_⟩
    obtain ⟨m, hm, htruth⟩ := hfaithful.resolved 1 seededMeta rfl
    cases hm
    have hshown : truthfulLookup bytesData w₁.accounts [writable 31, readonly 40, writable 13,
        signer 30, readonly 72, writable 80, readonly 101] 5 = some (key 80, some [7]) := by
      show some (key 80, some (bytesData (w₁.accounts (key 80)).data)) = _
      rw [hdata]
      rfl
    have hkeys := (resolve_seededMeta hshown).symm.trans htruth
    cases hkeys

end RaydiumAmm
