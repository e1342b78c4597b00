import RaydiumAmm.WhitelistRuns

/-!
# The calls of a transfer hook

1. What `execute_transfer_hook` does: nothing, an error without a call, or one call of the hook.
   That no call is issued is told by running it under every `invoke`.
2. A hook that the whitelist admits is a hook that was added last.
3. `transfer_hook_admitted`: the calls after a run of whitelist updates.
-/

namespace RaydiumAmm

/-! ## 1. The paths of a transfer -/

/-- Other programs that answer calls in another way. -/
def Env.withInvoke (env : Env) (invoke : Cpi → Accounts → Except ProgramError Accounts) : Env :=
  { env with invoke := invoke }

section WithInvoke

variable (env : Env) (invoke : Cpi → Accounts → Except ProgramError Accounts)

@[simp] theorem Env.withInvoke_findProgramAddress :
    (env.withInvoke invoke).findProgramAddress = env.findProgramAddress := rfl

@[simp] theorem Env.withInvoke_tlvUnpack :
    (env.withInvoke invoke).tlvUnpack = env.tlvUnpack := rfl

@[simp] theorem Env.withInvoke_metaListUnpack :
    (env.withInvoke invoke).metaListUnpack = env.metaListUnpack := rfl

@[simp] theorem isMetaListValid_withInvoke (w : World) (info : AccountInfo) :
    isMetaListValid (env.withInvoke invoke) w info = isMetaListValid env w info := rfl

@[simp] theorem isHookWhitelisted_withInvoke (w : World) (programId : Pubkey) (info : AccountInfo)
    (hook : Pubkey) :
    isHookWhitelisted (env.withInvoke invoke) w programId info hook =
      isHookWhitelisted env w programId info hook := rfl

end WithInvoke

/-- The arguments of `execute_transfer_hook`. -/
structure HookTransfer where
  source : AccountInfo
  mint : AccountInfo
  destination : AccountInfo
  authority : AccountInfo
  amount : U64
  remainingAccounts : List AccountInfo

/-- `execute_transfer_hook` on these arguments. -/
def HookTransfer.run (t : HookTransfer) (env : Env) (programId : Pubkey) (w : World) :
    World × Result Unit :=
  executeTransferHook env programId t.source t.mint t.destination t.authority t.amount
    t.remainingAccounts w

/-- The address of the meta list of a mint and a hook. -/
def metaListAddress (env : Env) (mint hook : Pubkey) : Pubkey :=
  (env.findProgramAddress [extraAccountMetasSeed, mint.toBytes] hook).1

/-- The transfer ends with `r`, whatever calls would do, and records no call. -/
def HookTransfer.EndsWith (t : HookTransfer) (env : Env) (programId : Pubkey) (w : World)
    (r : Result Unit) : Prop :=
  ∃ w', w'.inner = w.inner ∧ ∀ invoke, t.run (env.withInvoke invoke) programId w = (w', r)

/-- The transfer issues one call, to `hook`: `w₁` is the world of the call, which differs from `w`
    in the source account at most. The first five accounts of the call are fixed, and the meta list
    that was supplied parses. -/
structure HookTransfer.CallsHook (t : HookTransfer) (env : Env) (programId : Pubkey) (w : World)
    (hook : Pubkey) : Prop where
  hooked : getTransferHookProgramId w t.mint = .ok (some hook)
  call : ∃ whitelistInfo metaListInfo rest metaList metas infos w₁,
    t.remainingAccounts = whitelistInfo :: metaListInfo :: rest ∧
    isHookWhitelisted env w programId whitelistInfo hook = .ok true ∧
    metaListInfo.key = metaListAddress env t.mint.key hook ∧
    (w₁.inner = w.inner ∧ ∀ k, k ≠ t.source.key → w₁.accounts k = w.accounts k) ∧
    env.tlvUnpack (w₁.accounts metaListInfo.key).data = true ∧
    env.metaListUnpack (w₁.accounts metaListInfo.key).data = some metaList ∧
    metas.take 5 = [⟨t.source.key, false, true⟩, ⟨t.mint.key, false, false⟩,
      ⟨t.destination.key, false, true⟩, ⟨t.authority.key, false, false⟩,
      ⟨metaListAddress env t.mint.key hook, false, false⟩] ∧
    ∀ invoke, t.run (env.withInvoke invoke) programId w =
      callHook (env.withInvoke invoke) w₁ t.source hook metas infos t.amount

/-- The whitelist admits the hook of the mint, and the meta list comes next in the remaining
    accounts. -/
structure HookTransfer.Admitted (t : HookTransfer) (env : Env) (programId : Pubkey) (w : World)
    (hook : Pubkey) (metaListInfo : AccountInfo) : Prop where
  hooked : getTransferHookProgramId w t.mint = .ok (some hook)
  listed : ∃ whitelistInfo rest, t.remainingAccounts = whitelistInfo :: metaListInfo :: rest ∧
    isHookWhitelisted env w programId whitelistInfo hook = .ok true

/-- The first five metas of a call. -/
def HookTransfer.fixedMetas (t : HookTransfer) (env : Env) (hook : Pubkey) : List AccountMeta := [
  ⟨t.source.key, false, true⟩, ⟨t.mint.key, false, false⟩, ⟨t.destination.key, false, true⟩,
  ⟨t.authority.key, false, false⟩, ⟨metaListAddress env t.mint.key hook, false, false⟩]

/-- The first five accounts of a call. -/
def HookTransfer.fixedInfos (t : HookTransfer) (metaListInfo : AccountInfo) : List AccountInfo :=
  [t.source, t.mint, t.destination, t.authority, metaListInfo]

/-- The transfer gets to the call of the hook, in the world `w₁` where the flag is set, with these
    metas and accounts. -/
structure HookTransfer.Reaches (t : HookTransfer) (env : Env) (programId : Pubkey) (w : World)
    (hook : Pubkey) (metaListInfo : AccountInfo) (metaList : List ExtraAccountMeta)
    (metas : List AccountMeta) (infos : List AccountInfo) (w₁ : World) : Prop where
  admitted : t.Admitted env programId w hook metaListInfo
  address : metaListInfo.key = metaListAddress env t.mint.key hook
  set : writeTransferring w t.source true = .ok w₁
  valid : isMetaListValid env w₁ metaListInfo = .ok true
  other : t.source.key ≠ metaListInfo.key
  parsed : env.metaListUnpack (w₁.accounts metaListInfo.key).data = some metaList
  resolved : resolveExtraMetas env hook t.amount t.remainingAccounts 0 metaList
    (t.fixedMetas env hook) (t.fixedInfos metaListInfo) = .ok (metas, infos)

section Paths

variable {env : Env} {programId : Pubkey} {t : HookTransfer} {w : World} {hook : Pubkey}

/-- Setting the flag changes the source account at most and records nothing. -/
theorem writeTransferring_frame {info : AccountInfo} {flag : Bool} {w w' : World}
    (h : writeTransferring w info flag = .ok w') :
    w'.inner = w.inner ∧ ∀ k, k ≠ info.key → w'.accounts k = w.accounts k := by
  unfold writeTransferring at h
  split at h
  · cases h
  · split at h
    · split at h
      · cases h
        exact ⟨rfl, fun k hk => if_neg hk⟩
      · cases h
        exact ⟨rfl, fun _ _ => rfl⟩
    · cases h
      exact ⟨rfl, fun _ _ => rfl⟩

/-- An error path ends with an error and records nothing. -/
theorem unsetAndReturn_error (w : World) (source : AccountInfo) (e : Fault ProgramError) :
    ∃ w' e', w'.inner = w.inner ∧ unsetAndReturn w source (.error e) = (w', .error e') := by
  unfold unsetAndReturn
  split
  next w' hwrite => exact ⟨w', e, (writeTransferring_frame hwrite).1, rfl⟩
  next e' _ => exact ⟨w, e', rfl, rfl⟩

@[simp] theorem resolveExtraMetas_withInvoke
    (invoke : Cpi → Accounts → Except ProgramError Accounts) (amount : U64)
    (remaining : List AccountInfo) (i : ℕ) (extras : List ExtraAccountMeta)
    (metas : List AccountMeta) (infos : List AccountInfo) :
    resolveExtraMetas (env.withInvoke invoke) hook amount remaining i extras metas infos =
      resolveExtraMetas env hook amount remaining i extras metas infos := by
  induction extras generalizing i metas infos with
  | nil => rfl
  | cons extra rest ih =>
    simp only [resolveExtraMetas, Env.withInvoke]
    split
    · rfl
    · split
      · rfl
      · exact ih _ _ _

/-- Resolution takes the remaining accounts in order, one for each meta of the list, and resolves
    each meta with the accounts before its own. -/
theorem resolveExtraMetas_eq_ok {amount : U64} {remaining : List AccountInfo} {i : ℕ}
    {extras : List ExtraAccountMeta} {metas metas' : List AccountMeta}
    {infos infos' : List AccountInfo}
    (h : resolveExtraMetas env hook amount remaining i extras metas infos = .ok (metas', infos')) :
    infos' = infos ++ (remaining.drop (i + 2)).take extras.length ∧
      infos'.length = infos.length + extras.length ∧
      ∃ resolved, metas' = metas ++ resolved ∧ resolved.length = extras.length ∧
        ∀ j extra, extras[j]? = some extra → ∃ m, resolved[j]? = some m ∧
          env.resolveMeta extra amount hook (resolveLookup (infos'.take (infos.length + j))) =
            .ok m := by
  induction extras generalizing i metas infos with
  | nil =>
    cases h
    exact ⟨by simp, rfl, [], by simp, rfl, fun j extra hj => nomatch hj⟩
  | cons extra rest ih =>
    simp only [resolveExtraMetas] at h
    split at h
    · cases h
    next acc hacc =>
      split at h
      · cases h
      next m hm =>
        obtain ⟨hinfos, hlen, resolved, hmetas, hcount, hrest⟩ := ih h
        obtain ⟨hlt, hget⟩ := List.getElem?_eq_some_iff.mp hacc
        have hdrop : remaining.drop (i + 2) = acc :: remaining.drop (i + 1 + 2) := by
          rw [List.drop_eq_getElem_cons hlt, hget]
        refine ⟨?_, ?_, m :: resolved, ?_, by simp [hcount], ?_⟩
        · rw [hinfos, hdrop, List.length_cons, List.take_succ_cons, List.append_assoc]
          rfl
        · rw [hlen, List.length_append, List.length_cons, List.length_cons, List.length_nil]
          omega
        · rw [hmetas, List.append_assoc]
          rfl
        · intro j extra' hj
          cases j with
          | zero =>
            cases hj
            refine ⟨m, rfl, ?_⟩
            rw [hinfos, List.append_assoc, Nat.add_zero, List.take_left]
            exact hm
          | succ j =>
            obtain ⟨m', hm', hresolve⟩ := hrest j extra' hj
            refine ⟨m', hm', ?_⟩
            rw [List.length_append, List.length_singleton] at hresolve
            rw [← Nat.add_assoc, Nat.add_right_comm]
            exact hresolve

/-- A valid meta list parses. -/
theorem isMetaListValid_true {info : AccountInfo} (h : isMetaListValid env w info = .ok true) :
    info.key ∉ w.borrowed ∧ env.tlvUnpack (w.accounts info.key).data = true ∧
      ∃ metaList, env.metaListUnpack (w.accounts info.key).data = some metaList := by
  simp only [isMetaListValid, Outcome.bind_eq_ok, Outcome.require_eq_ok, Outcome.pure_eq_ok,
    Bool.and_eq_true] at h
  obtain ⟨-, hfree, ⟨-, htlv⟩, hlist⟩ := h
  exact ⟨hfree, htlv, Option.isSome_iff_exists.mp hlist⟩

theorem HookTransfer.Admitted.run_eq {metaListInfo : AccountInfo}
    (h : t.Admitted env programId w hook metaListInfo) :
    t.run env programId w = executeWhitelistedHook env t.source t.mint t.destination t.authority
      t.amount t.remainingAccounts metaListInfo hook w := by
  obtain ⟨whitelistInfo, rest, hremaining, hlisted⟩ := h.listed
  simp only [HookTransfer.run, executeTransferHook, h.hooked, hremaining, hlisted]

section Reaches

variable {metaListInfo : AccountInfo} {metaList : List ExtraAccountMeta} {metas : List AccountMeta}
  {infos : List AccountInfo} {w₁ : World}

/-- Whatever calls would do, the transfer is then the call of the hook. -/
theorem HookTransfer.Reaches.run_eq
    (h : t.Reaches env programId w hook metaListInfo metaList metas infos w₁)
    (invoke : Cpi → Accounts → Except ProgramError Accounts) :
    t.run (env.withInvoke invoke) programId w =
      callHook (env.withInvoke invoke) w₁ t.source hook metas infos t.amount := by
  have hadmitted : t.Admitted (env.withInvoke invoke) programId w hook metaListInfo :=
    ⟨h.admitted.hooked, h.admitted.listed⟩
  have haddress : ¬(metaListInfo.key ≠
    (env.findProgramAddress [extraAccountMetasSeed, t.mint.key.toBytes] hook).1) :=
      not_not.mpr h.address
  have hresolved : resolveExtraMetas env hook t.amount t.remainingAccounts 0 metaList
      [⟨t.source.key, false, true⟩, ⟨t.mint.key, false, false⟩, ⟨t.destination.key, false, true⟩,
        ⟨t.authority.key, false, false⟩,
        ⟨(env.findProgramAddress [extraAccountMetasSeed, t.mint.key.toBytes] hook).1, false,
          false⟩]
      [t.source, t.mint, t.destination, t.authority, metaListInfo] = .ok (metas, infos) :=
    h.resolved
  obtain ⟨hfree, htlv, -⟩ := isMetaListValid_true h.valid
  rw [hadmitted.run_eq]
  simp only [executeWhitelistedHook, h.set, Env.withInvoke_findProgramAddress, if_neg haddress,
    isMetaListValid_withInvoke, h.valid, if_true, if_neg hfree, if_neg h.other,
    Env.withInvoke_tlvUnpack, htlv, Bool.not_true, Bool.false_eq_true, if_false,
    Env.withInvoke_metaListUnpack, h.parsed, resolveExtraMetas_withInvoke, hresolved]

theorem HookTransfer.Reaches.callsHook
    (h : t.Reaches env programId w hook metaListInfo metaList metas infos w₁) :
    t.CallsHook env programId w hook := by
  obtain ⟨whitelistInfo, rest, hremaining, hlisted⟩ := h.admitted.listed
  obtain ⟨-, htlv, -⟩ := isMetaListValid_true h.valid
  obtain ⟨-, -, resolved, hmetas, -⟩ := resolveExtraMetas_eq_ok h.resolved
  refine ⟨h.admitted.hooked, whitelistInfo, metaListInfo, rest, metaList, metas, infos, w₁,
    hremaining, hlisted, h.address, writeTransferring_frame h.set, htlv, h.parsed, ?_, h.run_eq⟩
  rw [hmetas]
  rfl

end Reaches

/-- The exits behind the whitelist, once the flag is set: an error with the flag cleared again, the
    error of the borrow of the meta list as it is, a panic, or the call of the hook. -/
theorem HookTransfer.Admitted.exits {metaListInfo : AccountInfo} {w₁ : World}
    (h : t.Admitted env programId w hook metaListInfo)
    (hset : writeTransferring w t.source true = .ok w₁) :
    (¬(metaListInfo.key = metaListAddress env t.mint.key hook ∧ metaListInfo.key ∈ w₁.borrowed) ∧
        ∃ e, ∀ invoke, t.run (env.withInvoke invoke) programId w =
          unsetAndReturn w₁ t.source (.error e)) ∨
      ((metaListInfo.key = metaListAddress env t.mint.key hook ∧ metaListInfo.key ∈ w₁.borrowed) ∧
        ∀ invoke, t.run (env.withInvoke invoke) programId w =
          (w₁, Outcome.fail .accountBorrowFailed)) ∨
      (metaListInfo.key ∉ w₁.borrowed ∧
        ∀ invoke, t.run (env.withInvoke invoke) programId w = (w₁, Outcome.panic)) ∨
      ∃ metaList metas infos,
        t.Reaches env programId w hook metaListInfo metaList metas infos w₁ := by
  have hrun : ∀ invoke, t.run (env.withInvoke invoke) programId w =
      executeWhitelistedHook (env.withInvoke invoke) t.source t.mint t.destination t.authority
        t.amount t.remainingAccounts metaListInfo hook w := by
    intro invoke
    have hadmitted : t.Admitted (env.withInvoke invoke) programId w hook metaListInfo :=
      ⟨h.hooked, h.listed⟩
    exact hadmitted.run_eq
  by_cases hkey : metaListInfo.key = metaListAddress env t.mint.key hook
  swap
  · refine .inl ⟨fun hboth => hkey hboth.1, .error .invalidAccountData, fun invoke => ?_⟩
    rw [hrun]
    simp only [executeWhitelistedHook, hset, Env.withInvoke_findProgramAddress]
    exact if_pos hkey
  have hkey' : ¬(metaListInfo.key ≠
    (env.findProgramAddress [extraAccountMetasSeed, t.mint.key.toBytes] hook).1) :=
      not_not.mpr hkey
  by_cases hborrowed : metaListInfo.key ∈ w₁.borrowed
  · -- the borrow in `is_meta_list_valid` fails
    have hvalid : isMetaListValid env w₁ metaListInfo = Outcome.fail .accountBorrowFailed := by
      rw [isMetaListValid, Outcome.require_neg (not_not_intro hborrowed)]
      rfl
    refine .inr (.inl ⟨⟨hkey, hborrowed⟩, fun invoke => ?_⟩)
    rw [hrun]
    simp only [executeWhitelistedHook, hset, Env.withInvoke_findProgramAddress, if_neg hkey',
      isMetaListValid_withInvoke, hvalid]
    rfl
  have hopen : ¬(metaListInfo.key = metaListAddress env t.mint.key hook ∧
      metaListInfo.key ∈ w₁.borrowed) := fun hboth => hborrowed hboth.2
  obtain ⟨isValid, hvalid⟩ : ∃ isValid, isMetaListValid env w₁ metaListInfo = .ok isValid := by
    rw [isMetaListValid, Outcome.require_pos hborrowed]
    exact ⟨_, rfl⟩
  cases isValid with
  | false =>
    refine .inl ⟨hopen, .error AmmError.hookProgramNotSupportedForAutoInit.into, fun invoke => ?_⟩
    rw [hrun]
    simp only [executeWhitelistedHook, hset, Env.withInvoke_findProgramAddress, if_neg hkey',
      isMetaListValid_withInvoke, hvalid]
    rfl
  | true =>
    obtain ⟨-, htlv, metaList, hlist⟩ := isMetaListValid_true hvalid
    by_cases hself : t.source.key = metaListInfo.key
    · refine .inr (.inr (.inl ⟨hborrowed, fun invoke => ?_⟩))
      rw [hrun]
      simp only [executeWhitelistedHook, hset, Env.withInvoke_findProgramAddress, if_neg hkey',
        isMetaListValid_withInvoke, hvalid, if_true, if_neg hborrowed, if_pos hself]
    cases hresolve : resolveExtraMetas env hook t.amount t.remainingAccounts 0 metaList
        (t.fixedMetas env hook) (t.fixedInfos metaListInfo) with
    | error e =>
      refine .inl ⟨hopen, e, fun invoke => ?_⟩
      have hresolve' : resolveExtraMetas env hook t.amount t.remainingAccounts 0 metaList
          [⟨t.source.key, false, true⟩, ⟨t.mint.key, false, false⟩,
            ⟨t.destination.key, false, true⟩, ⟨t.authority.key, false, false⟩,
            ⟨(env.findProgramAddress [extraAccountMetasSeed, t.mint.key.toBytes] hook).1,
              false, false⟩]
          [t.source, t.mint, t.destination, t.authority, metaListInfo] = .error e := hresolve
      rw [hrun]
      simp only [executeWhitelistedHook, hset, Env.withInvoke_findProgramAddress,
        if_neg hkey', isMetaListValid_withInvoke, hvalid, if_true, if_neg hborrowed, if_neg hself,
        Env.withInvoke_tlvUnpack, htlv, Bool.not_true, Bool.false_eq_true, if_false,
        Env.withInvoke_metaListUnpack, hlist, resolveExtraMetas_withInvoke, hresolve']
    | ok result =>
      exact .inr (.inr (.inr ⟨metaList, result.1, result.2, h, hkey, hset, hvalid, hself, hlist,
        hresolve⟩))

/-- Behind the whitelist: an error without a call, or the call of the hook. -/
theorem HookTransfer.Admitted.cases {metaListInfo : AccountInfo}
    (h : t.Admitted env programId w hook metaListInfo) :
    (∃ e, t.EndsWith env programId w (.error e)) ∨
      ∃ metaList metas infos w₁,
        t.Reaches env programId w hook metaListInfo metaList metas infos w₁ := by
  cases hset : writeTransferring w t.source true with
  | error e =>
    refine .inl ⟨e, w, rfl, fun invoke => ?_⟩
    have hadmitted : t.Admitted (env.withInvoke invoke) programId w hook metaListInfo :=
      ⟨h.hooked, h.listed⟩
    rw [hadmitted.run_eq]
    simp only [executeWhitelistedHook, hset]
  | ok w₁ =>
    have hinner := (writeTransferring_frame hset).1
    rcases h.exits hset with
      ⟨-, e, hexit⟩ | ⟨-, hexit⟩ | ⟨-, hexit⟩ | ⟨metaList, metas, infos, hreaches⟩
    · obtain ⟨w', e', hinner', hunset⟩ := unsetAndReturn_error w₁ t.source e
      exact .inl ⟨e', w', hinner'.trans hinner, fun invoke => (hexit invoke).trans hunset⟩
    · exact .inl ⟨_, w₁, hinner, hexit⟩
    · exact .inl ⟨_, w₁, hinner, hexit⟩
    · exact .inr ⟨metaList, metas, infos, w₁, hreaches⟩

/-- The paths of `execute_transfer_hook`: the mint has no hook, or the transfer ends with an error
    and no call, or it gets to the call of the hook of the mint. -/
theorem HookTransfer.run_paths (t : HookTransfer) (env : Env) (programId : Pubkey) (w : World) :
    (getTransferHookProgramId w t.mint = .ok none ∧ t.EndsWith env programId w (.ok ())) ∨
      (∃ e, t.EndsWith env programId w (.error e)) ∨
      ∃ hook metaListInfo metaList metas infos w₁,
        t.Reaches env programId w hook metaListInfo metaList metas infos w₁ := by
  obtain ⟨source, mint, destination, authority, amount, remaining⟩ := t
  cases hhook : getTransferHookProgramId w mint with
  | error e =>
    refine .inr (.inl ⟨e, w, rfl, fun invoke => ?_⟩)
    simp only [HookTransfer.run, executeTransferHook, hhook]
  | ok found =>
    cases found with
    | none =>
      refine .inl ⟨rfl, w, rfl, fun invoke => ?_⟩
      simp only [HookTransfer.run, executeTransferHook, hhook]
    | some hook =>
      refine .inr ?_
      rcases remaining with _ | ⟨whitelistInfo, _ | ⟨metaListInfo, rest⟩⟩
      · refine .inl ⟨.error .notEnoughAccountKeys, w, rfl, fun invoke => ?_⟩
        simp only [HookTransfer.run, executeTransferHook, hhook]
        rfl
      · refine .inl ⟨.error .notEnoughAccountKeys, w, rfl, fun invoke => ?_⟩
        simp only [HookTransfer.run, executeTransferHook, hhook]
        rfl
      cases hlisted : isHookWhitelisted env w programId whitelistInfo hook with
      | error e =>
        refine .inl ⟨e, w, rfl, fun invoke => ?_⟩
        simp only [HookTransfer.run, executeTransferHook, hhook, isHookWhitelisted_withInvoke,
          hlisted]
      | ok listed =>
        cases listed with
        | false =>
          refine .inl ⟨.error AmmError.transferHookNotWhitelisted.into, w, rfl, fun invoke => ?_⟩
          simp only [HookTransfer.run, executeTransferHook, hhook, isHookWhitelisted_withInvoke,
            hlisted]
          rfl
        | true =>
          have hadmitted : HookTransfer.Admitted ⟨source, mint, destination, authority, amount,
              whitelistInfo :: metaListInfo :: rest⟩ env programId w hook metaListInfo :=
            ⟨hhook, whitelistInfo, rest, rfl, hlisted⟩
          rcases hadmitted.cases with hends | ⟨metaList, metas, infos, w₁, hreaches⟩
          · exact .inl hends
          · exact .inr ⟨hook, metaListInfo, metaList, metas, infos, w₁, hreaches⟩

/-- In short: no hook, or an error without a call, or one call of the hook. -/
theorem HookTransfer.run_cases (t : HookTransfer) (env : Env) (programId : Pubkey) (w : World) :
    (getTransferHookProgramId w t.mint = .ok none ∧ t.EndsWith env programId w (.ok ())) ∨
      (∃ e, t.EndsWith env programId w (.error e)) ∨
      ∃ hook, t.CallsHook env programId w hook := by
  rcases t.run_paths env programId w with hnone | hends | ⟨hook, _, _, _, _, _, hreaches⟩
  · exact .inl hnone
  · exact .inr (.inl hends)
  · exact .inr (.inr ⟨hook, hreaches.callsHook⟩)

end Paths

/-! ## 2. Admitted hooks -/

/-- A lookup that admits a hook reads it in the stored record. -/
theorem contains_of_isHookWhitelisted {env : Env} {programId hook : Pubkey} {w : World}
    {info : AccountInfo} {s : HookWhitelist}
    (hdata : (w.accounts (whitelistAddress env programId)).data = .bytes s.pack)
    (h : isHookWhitelisted env w programId info hook = .ok true) :
    s.containsHook hook = true := by
  simp only [isHookWhitelisted, Outcome.bind_eq_ok, Outcome.require_eq_ok] at h
  obtain ⟨-, hkey, h⟩ := h
  have hkey' : info.key = whitelistAddress env programId := hkey
  split at h
  · cases h
  · simp only [loadWhitelist, hkey', hdata, Outcome.bind_eq_ok, Outcome.pure_eq_ok] at h
    obtain ⟨t, ⟨-, -, hunpack⟩, hcontains⟩ := h
    have hauthority := (s.unpack_pack_isOk_iff).mp ⟨t, hunpack⟩
    obtain rfl := Except.ok.inj (hunpack.symm.trans (HookWhitelist.unpack_pack hauthority))
    exact hcontains

/-! ## 3. After a run of updates -/

/-- The last update of a hook in a run of calls that went through. -/
def lastUpdateOf (calls : List (Option UpdateHookWhitelistInstruction)) (hook : Pubkey) :
    Option (Roster.Update Pubkey) :=
  Roster.lastUpdate hook (calls.map (Option.map UpdateHookWhitelistInstruction.toUpdate))

/-- After any run of updates of a fresh whitelist, in any world whose whitelist holds the bytes
    that the run left, a transfer calls nothing or it calls the hook of the mint, which is then a
    hook that was added last. A transfer of a mint whose hook was not added last fails without a
    call, and so does the token transfer around it. -/
theorem transfer_hook_admitted {env : Env} {programId authority : Pubkey} {w₀ w w' : World}
    {calls : List (Option UpdateHookWhitelistInstruction)}
    (hstart : Stores env programId (HookWhitelist.empty authority) w₀)
    (hrun : Runs.Run (UpdateStep env programId) w₀ calls w)
    (hsame : (w'.accounts (whitelistAddress env programId)).data =
      (w.accounts (whitelistAddress env programId)).data) (t : HookTransfer) :
    ((∃ r, t.EndsWith env programId w' r) ∨
      ∃ hook, lastUpdateOf calls hook = some (.add hook) ∧ t.CallsHook env programId w' hook) ∧
    ∀ hook, getTransferHookProgramId w' t.mint = .ok (some hook) →
      lastUpdateOf calls hook ≠ some (.add hook) →
      (∃ e, t.EndsWith env programId w' (.error e)) ∧
      ∀ tokenProgram seeds, tokenProgram.key = splToken2022Id →
        ∃ e, tokenTransferSigned env programId tokenProgram t.source t.destination t.authority
          seeds t.amount t.mint t.remainingAccounts w' = .error e := by
  obtain ⟨r, hroster, h⟩ := UpdateStep.run_simulates hstart hrun
  -- the whitelist admits a hook only where it was added last
  have hadmitted : ∀ hook, t.CallsHook env programId w' hook →
      lastUpdateOf calls hook = some (.add hook) := by
    intro hook hcalls
    obtain ⟨whitelistInfo, -, -, -, -, -, -, -, hlisted, -⟩ := hcalls.call
    have hcontains := contains_of_isHookWhitelisted (hsame.trans h.data) hlisted
    rw [HookWhitelist.containsHook_ofRoster, decide_eq_true_eq] at hcontains
    exact (Roster.mem_iff_lastUpdate hroster hook).mp hcontains
  constructor
  · rcases t.run_cases env programId w' with ⟨-, hends⟩ | ⟨e, hends⟩ | ⟨hook, hcalls⟩
    · exact .inl ⟨_, hends⟩
    · exact .inl ⟨_, hends⟩
    · exact .inr ⟨hook, hadmitted hook hcalls, hcalls⟩
  · intro hook hhook hnot
    have hends : ∃ e, t.EndsWith env programId w' (.error e) := by
      rcases t.run_cases env programId w' with ⟨hnone, -⟩ | hends | ⟨hook', hcalls⟩
      · rw [hhook] at hnone
        cases hnone
      · exact hends
      · have heq := hhook.symm.trans hcalls.hooked
        cases heq
        exact absurd (hadmitted hook hcalls) hnot
    refine ⟨hends, fun tokenProgram seeds hprogram => ?_⟩
    obtain ⟨e, w'', -, hends⟩ := hends
    have hfails : executeTransferHook env programId t.source t.mint t.destination t.authority
        t.amount t.remainingAccounts w' = (w'', .error e) := hends env.invoke
    exact ⟨e, by simp only [tokenTransferSigned, if_pos hprogram, hfails]; rfl⟩

namespace Reference

/-- The world `w` with a mint that carries `hook`. -/
def withHookedMint (w : World) (hook : Pubkey) : World :=
  { w with accounts := fun k =>
      if k = key 30 then ⟨splToken2022Id, .mint ⟨0, 0, some (some hook)⟩⟩ else w.accounts k }

/-- A transfer of that mint with nothing but the whitelist and the meta list at hand. -/
def hookedTransfer : HookTransfer where
  source := writable 31
  mint := readonly 30
  destination := writable 32
  authority := readonly 33
  amount := 5
  remainingAccounts := [⟨whitelistAddress env program, false, false⟩, readonly 34]

end Reference

/-- While the whitelist holds another hook alone, the transfer fails without a call. -/
theorem transfer_hook_admitted_other :
    ∃ w, UpdateStep Reference.env Reference.program
        (Reference.whitelistWorld (.empty (Reference.key 7))) (some ⟨Reference.key 9, .add⟩) w ∧
      ∃ e, Reference.hookedTransfer.EndsWith Reference.env Reference.program
        (Reference.withHookedMint w (Reference.key 10)) (.error e) := by
  obtain ⟨w, hstep⟩ := Reference.updateStep_add (Reference.key 7) (by decide)
    (Reference.key 9)
  have hborrowed : w.borrowed = [] := by
    cases hstep with
    | done hok =>
      obtain ⟨-, -, updated, -, rfl⟩ := (Reference.stores_whitelistWorld _).update_eq_ok.mp hok
      rfl
  have haddress : whitelistAddress Reference.env Reference.program ≠ Reference.key 30 := by decide
  have hsame : ((Reference.withHookedMint w (Reference.key 10)).accounts
      (whitelistAddress Reference.env Reference.program)).data =
        (w.accounts (whitelistAddress Reference.env Reference.program)).data := by
    simp [Reference.withHookedMint, haddress]
  have hadmitted := transfer_hook_admitted (Reference.stores_whitelistWorld _) (.single hstep)
    hsame Reference.hookedTransfer
  have hhook : getTransferHookProgramId (Reference.withHookedMint w (Reference.key 10))
      Reference.hookedTransfer.mint = .ok (some (Reference.key 10)) := by
    simp [getTransferHookProgramId, Reference.withHookedMint, hborrowed, Reference.hookedTransfer,
      Reference.readonly]
  exact ⟨w, hstep, (hadmitted.2 _ hhook (by decide)).1⟩

end RaydiumAmm
