import RaydiumAmm.WhitelistRuns

/-!
# The life of the whitelist account

Its creation and the hand-over of its authority.

1. `WhitelistUsable`: the stored bytes decode, lookups answer, and the authority can act. Stored
   bytes are usable exactly where their authority is not the zero key.
2. Runs of updates and hand-overs; `whitelist_usable_iff`.
3. Creation: the address that the handler checks ends in a bump that its signer seeds lack, so the
   call that creates the account is refused; `initializeHookWhitelist_ne_ok`.
-/

namespace RaydiumAmm

/-! ## 1. Usable bytes -/

/-- The whitelist can be read and changed. -/
structure WhitelistUsable (env : Env) (programId : Pubkey) (w : World) : Prop where
  decodes : ∃ b s, (w.accounts (whitelistAddress env programId)).data = .bytes b ∧
    HookWhitelist.unpack b = .ok s
  answers : ∀ info h, info.key = whitelistAddress env programId →
    ∃ listed, isHookWhitelisted env w programId info h = .ok listed
  updatable : ∃ authority, ∀ accounts, SignedBy env programId authority accounts →
    ∀ newAuthority, ∃ w', processUpdateWhitelistAuthority env programId accounts newAuthority w =
      .ok w'

section Stored

variable {env : Env} {programId : Pubkey} {s : HookWhitelist} {w w' : World}
  {accounts : List AccountInfo} {newAuthority : Pubkey}

/-- A hand-over goes through for the authority alone, and changes nothing but the authority. -/
theorem Stores.updateAuthority_eq_ok (h : Stores env programId s w) :
    processUpdateWhitelistAuthority env programId accounts newAuthority w = .ok w' ↔
      s.authority ≠ Pubkey.default ∧ SignedBy env programId s.authority accounts ∧
        w' = w.storeWhitelist env programId { s with authority := newAuthority } := by
  simp only [processUpdateWhitelistAuthority, Outcome.bind_eq_ok]
  constructor
  · rintro ⟨⟨whitelistInfo, authorityInfo⟩, hbind, t, hload, hwrite⟩
    obtain ⟨hsigner, hkey, hauthority, hself, rfl⟩ := h.loadOwn_eq_ok.mp hload
    have hw := Except.ok.inj (hwrite.symm.trans (h.writeData hkey))
    obtain _ | ⟨x, _ | ⟨y, rest⟩⟩ := accounts
    · cases hbind
    · cases hbind
    · cases hbind
      exact ⟨hauthority, ⟨_, _, rest, rfl, hsigner, hkey, hself⟩, hw⟩
  · rintro ⟨hauthority, ⟨whitelistInfo, authorityInfo, rest, rfl, hsigner, hkey, hself⟩, rfl⟩
    exact ⟨⟨whitelistInfo, authorityInfo⟩, rfl, s,
      h.loadOwn_eq_ok.mpr ⟨hsigner, hkey, hauthority, hself, rfl⟩, h.writeData hkey⟩

/-- A lookup reads the stored record. -/
theorem Stores.isHookWhitelisted (h : Stores env programId s w) {info : AccountInfo}
    (hkey : info.key = whitelistAddress env programId) (hook : Pubkey) :
    isHookWhitelisted env w programId info hook = (do
      let whitelist ← HookWhitelist.unpack s.pack
      return whitelist.containsHook hook) := by
  have hseeds : info.key = (findWhitelistPda env programId).1 := hkey
  have hfull : (w.accounts info.key).data.isEmpty = false := by
    rw [hkey, h.data]
    exact HookWhitelist.isEmpty_pack
  simp only [RaydiumAmm.isHookWhitelisted, Outcome.require_pos hseeds, Outcome.ok_bind, hfull,
    h.load hkey]
  rfl

/-- Stored bytes are usable exactly where their authority is not the zero key. -/
theorem Stores.usable_iff (h : Stores env programId s w) :
    WhitelistUsable env programId w ↔ s.authority ≠ Pubkey.default := by
  constructor
  · rintro ⟨⟨b, t, hdata, hunpack⟩, -, -⟩
    obtain rfl : s.pack = b := AccountData.bytes.inj (h.data.symm.trans hdata)
    exact (s.unpack_pack_isOk_iff).mp ⟨t, hunpack⟩
  · intro hauthority
    have hunpack := HookWhitelist.unpack_pack hauthority
    refine ⟨⟨_, s, h.data, hunpack⟩, fun info hook hkey => ?_, s.authority, ?_⟩
    · exact ⟨s.containsHook hook, by rw [h.isHookWhitelisted hkey, hunpack]; rfl⟩
    · intro accounts hsigned newAuthority
      exact ⟨_, h.updateAuthority_eq_ok.mpr ⟨hauthority, hsigned, rfl⟩⟩

/-- The methods keep the authority. -/
theorem HookWhitelist.authority_of_applyUpdate {t : HookWhitelist}
    {u : UpdateHookWhitelistInstruction} (h : s.applyUpdate u = .ok t) :
    t.authority = s.authority := by
  unfold HookWhitelist.applyUpdate at h
  cases hu : u.action <;> simp only [hu] at h
  case add =>
    simp only [HookWhitelist.addHook, Outcome.bind_eq_ok] at h
    obtain ⟨-, -, h⟩ := h
    split at h
    · cases h
      rfl
    · cases h
  case remove =>
    simp only [HookWhitelist.removeHook, Outcome.bind_eq_ok] at h
    obtain ⟨index, -, h⟩ := h
    cases h
    rfl

end Stored

/-! ## 2. Runs of updates and hand-overs -/

/-- The instructions that change a whitelist. -/
inductive WhitelistOp where
  | update (instruction : UpdateHookWhitelistInstruction)
  | authority (newAuthority : Pubkey)

/-- One of them, with any accounts, that went through. -/
inductive WhitelistStep (env : Env) (programId : Pubkey) : World → WhitelistOp → World → Prop where
  | update {accounts : List AccountInfo} {instruction : UpdateHookWhitelistInstruction}
      {w w' : World} :
      processUpdateHookWhitelist env programId accounts instruction w = .ok w' →
      WhitelistStep env programId w (.update instruction) w'
  | authority {accounts : List AccountInfo} {newAuthority : Pubkey} {w w' : World} :
      processUpdateWhitelistAuthority env programId accounts newAuthority w = .ok w' →
      WhitelistStep env programId w (.authority newAuthority) w'

/-- The hand-overs of a run name an authority. -/
def HandsOverToSomeone (ops : List WhitelistOp) : Prop :=
  ∀ newAuthority, .authority newAuthority ∈ ops → newAuthority ≠ Pubkey.default

/-- One step on a stored record, which had an authority. -/
theorem WhitelistStep.stores {env : Env} {programId : Pubkey} {s : HookWhitelist} {w w' : World}
    {op : WhitelistOp} (hstep : WhitelistStep env programId w op w')
    (h : Stores env programId s w) :
    s.authority ≠ Pubkey.default ∧ ∃ t, Stores env programId t w' ∧
      (t.authority ≠ Pubkey.default ↔ HandsOverToSomeone [op]) := by
  cases hstep with
  | update hok =>
    obtain ⟨hauthority, -, updated, happly, rfl⟩ := h.update_eq_ok.mp hok
    refine ⟨hauthority, updated, h.store _, ?_⟩
    simpa [HandsOverToSomeone, HookWhitelist.authority_of_applyUpdate happly] using hauthority
  | authority hok =>
    obtain ⟨hauthority, -, rfl⟩ := h.updateAuthority_eq_ok.mp hok
    exact ⟨hauthority, _, h.store _, by simp [HandsOverToSomeone]⟩

/-- A run leaves a record, which has an authority where every hand-over named one. -/
theorem WhitelistStep.run_stores {env : Env} {programId : Pubkey} {s : HookWhitelist}
    {w w' : World} {ops : List WhitelistOp} (h : Stores env programId s w)
    (hauthority : s.authority ≠ Pubkey.default)
    (hrun : Runs.Run (WhitelistStep env programId) w ops w') :
    ∃ t, Stores env programId t w' ∧
      (t.authority ≠ Pubkey.default ↔ HandsOverToSomeone ops) := by
  induction hrun with
  | nil => exact ⟨s, h, by simpa [HandsOverToSomeone] using hauthority⟩
  | snoc _ hlast ih =>
    obtain ⟨t, ht, hiff⟩ := ih
    obtain ⟨hbefore, t', ht', hiff'⟩ := hlast.stores ht
    have hearlier := hiff.mp hbefore
    refine ⟨t', ht', hiff'.trans ⟨fun hone a ha => ?_, fun hall a ha => ?_⟩⟩
    · rcases List.mem_append.mp ha with ha | ha
      · exact hearlier a ha
      · exact hone a ha
    · exact hall a (List.mem_append_right _ ha)

/-- A creation that goes through leaves an empty whitelist with the given authority. -/
theorem stores_of_initializeHookWhitelist {env : Env} {programId authority : Pubkey}
    {accounts : List AccountInfo} {w w' : World}
    (hok : processInitializeHookWhitelist env programId accounts authority w = .ok w') :
    Stores env programId (HookWhitelist.empty authority) w' := by
  simp only [processInitializeHookWhitelist, Outcome.bind_eq_ok, Outcome.require_eq_ok] at hok
  obtain ⟨⟨whitelistInfo, payerInfo, systemProgramInfo⟩, -, -, -, -, hkey, -, -, w₁, hinvoke,
    hwrite⟩ := hok
  obtain ⟨hfree, created, -, rfl⟩ := World.invoke_eq_ok.mp hinvoke
  have hkey' : whitelistInfo.key = whitelistAddress env programId := hkey
  split at hwrite
  · split at hwrite
    · simp only [World.writeData, Outcome.bind_eq_ok, Outcome.require_eq_ok,
        Outcome.pure_eq_ok] at hwrite
      obtain ⟨-, howner, rfl⟩ := hwrite
      rw [hkey'] at howner
      refine ⟨?_, ?_, ?_⟩
      · simpa [Accounts.setData, hkey'] using howner
      · have hnot := hfree whitelistInfo (by simp)
        rwa [hkey'] at hnot
      · simp [Accounts.setData, hkey']
    · cases hwrite
  · cases hwrite

/-- A run of updates and hand-overs leaves the whitelist usable exactly where no hand-over names
    the zero key, and a creation exactly where its authority is not the zero key. -/
theorem whitelist_usable_iff (env : Env) (programId : Pubkey) :
    (∀ s w ops w', Stores env programId s w → s.authority ≠ Pubkey.default →
      Runs.Run (WhitelistStep env programId) w ops w' →
      (WhitelistUsable env programId w' ↔ HandsOverToSomeone ops)) ∧
    ∀ accounts authority w w',
      processInitializeHookWhitelist env programId accounts authority w = .ok w' →
      (WhitelistUsable env programId w' ↔ authority ≠ Pubkey.default) := by
  constructor
  · intro s w ops w' h hauthority hrun
    obtain ⟨t, ht, hiff⟩ := WhitelistStep.run_stores h hauthority hrun
    exact ht.usable_iff.trans hiff
  · intro accounts authority w w' hok
    exact (stores_of_initializeHookWhitelist hok).usable_iff

namespace Reference

/-- A hand-over of a fresh whitelist. -/
theorem whitelistStep_authority {authority : Pubkey} (hauthority : authority ≠ Pubkey.default)
    (newAuthority : Pubkey) :
    ∃ w, WhitelistStep env program (whitelistWorld (.empty authority)) (.authority newAuthority)
      w := by
  have hstored := stores_whitelistWorld (.empty authority)
  exact ⟨_, .authority (hstored.updateAuthority_eq_ok.mpr
    ⟨hauthority, signedBy_whitelistAccounts authority, rfl⟩)⟩

end Reference

/-- A hand-over to a key leaves the whitelist usable. -/
theorem whitelist_usable_iff_handed_over :
    ∃ w, WhitelistStep Reference.env Reference.program
        (Reference.whitelistWorld (.empty (Reference.key 7))) (.authority (Reference.key 8)) w ∧
      WhitelistUsable Reference.env Reference.program w := by
  have hauthority : Reference.key 7 ≠ Pubkey.default := by decide
  obtain ⟨w, hstep⟩ := Reference.whitelistStep_authority hauthority (Reference.key 8)
  have husable := (whitelist_usable_iff Reference.env Reference.program).1 _ _ _ _
    (Reference.stores_whitelistWorld (.empty (Reference.key 7))) hauthority (.single hstep)
  have hnamed : HandsOverToSomeone [.authority (Reference.key 8)] := by
    have hne : Reference.key 8 ≠ Pubkey.default := by decide
    simpa [HandsOverToSomeone] using hne
  exact ⟨w, hstep, husable.mpr hnamed⟩

/-- A hand-over to the zero key goes through and leaves bytes that no reader accepts. -/
theorem whitelist_lost_by_zero_authority :
    ∃ w, WhitelistStep Reference.env Reference.program
        (Reference.whitelistWorld (.empty (Reference.key 7))) (.authority Pubkey.default) w ∧
      ∃ b, (w.accounts (whitelistAddress Reference.env Reference.program)).data = .bytes b ∧
        HookWhitelist.unpack b = Outcome.fail .uninitializedAccount := by
  have hauthority : Reference.key 7 ≠ Pubkey.default := by decide
  obtain ⟨w, hstep⟩ := Reference.whitelistStep_authority hauthority Pubkey.default
  obtain ⟨-, t, ht, hiff⟩ := hstep.stores (Reference.stores_whitelistWorld _)
  have hzero : t.authority = Pubkey.default := by
    by_contra hne
    exact hiff.mp hne Pubkey.default (List.mem_singleton.mpr rfl) rfl
  exact ⟨w, hstep, t.pack, ht.data, HookWhitelist.unpack_pack_default hzero⟩

/-! ## 3. Creation -/

/-- Program-derived addresses as the runtime treats them: a call creates an account exactly where
    its signer seeds derive the account's key, `find_program_address` derives with the bump
    appended, and the key determines the seed bytes. -/
structure DerivesAddresses (env : Env) (programId : Pubkey) : Prop where
  creates : ∀ payer newAccount lamports space owner infos seeds acc,
    (∃ acc', env.invoke ⟨.createAccount payer newAccount lamports space owner, infos, seeds⟩ acc =
      .ok acc') ↔ ∃ s ∈ seeds, env.createProgramAddress s programId = some newAccount
  finds : env.createProgramAddress
    [hookWhitelistSeed, [(findWhitelistPda env programId).2]] programId =
      some (findWhitelistPda env programId).1
  injective : ∀ s s' k, env.createProgramAddress s programId = some k →
    env.createProgramAddress s' programId = some k → s.flatten = s'.flatten

/-- The creation of the whitelist never goes through: it signs for the seed without the bump,
    which derives another address than the one that it asks for. -/
theorem initializeHookWhitelist_ne_ok {env : Env} {programId : Pubkey}
    (h : DerivesAddresses env programId) (accounts : List AccountInfo) (authority : Pubkey)
    (w w' : World) :
    processInitializeHookWhitelist env programId accounts authority w ≠ .ok w' := by
  intro hok
  simp only [processInitializeHookWhitelist, Outcome.bind_eq_ok, Outcome.require_eq_ok] at hok
  obtain ⟨⟨whitelistInfo, payerInfo, systemProgramInfo⟩, -, -, -, -, hkey, -, -, w₁, hinvoke,
    -⟩ := hok
  obtain ⟨seeds, hseeds, hderived⟩ :=
    (h.creates _ _ _ _ _ _ _ _).mp ⟨_, World.effect_of_invoke hinvoke⟩
  obtain rfl := List.mem_singleton.mp hseeds
  rw [hkey] at hderived
  -- both seed lists would spell the same bytes, but one of them is a byte longer
  have hlength := congrArg List.length (h.injective _ _ _ hderived h.finds)
  simp at hlength

namespace Reference

/-- The address that `find_program_address` gives for the whitelist. -/
def whitelistPda : Pubkey := key 70

/-- A derivation that knows this one address. -/
def deriveWhitelist (seeds : List (List U8)) : Option Pubkey :=
  if seeds.flatten = hookWhitelistSeed ++ [255] then some whitelistPda else none

/-- The reference runtime with a system program that creates derived accounts. -/
def creatingEnv : Env where
  __ := env
  createProgramAddress seeds _ := deriveWhitelist seeds
  findProgramAddress _ _ := (whitelistPda, 255)
  invoke c acc :=
    match c.ix with
    | .createAccount _ newAccount _ space owner =>
      if ∃ s ∈ c.seeds, deriveWhitelist s = some newAccount then
        .ok fun k =>
          if k = newAccount then ⟨owner, .bytes (List.replicate space 0)⟩ else acc k
      else .error .missingRequiredSignature
    | _ => env.invoke c acc

theorem derivesAddresses : DerivesAddresses creatingEnv program where
  creates := by
    intro payer newAccount lamports space owner infos seeds acc
    by_cases h : ∃ s ∈ seeds, deriveWhitelist s = some newAccount <;> simp [creatingEnv, h]
  finds := rfl
  injective := by
    intro s s' k hs hs'
    simp only [creatingEnv, deriveWhitelist, Option.ite_none_right_eq_some] at hs hs'
    rw [hs.1, hs'.1]

/-- The accounts of a creation that the payer signs. -/
def creationAccounts : List AccountInfo :=
  [⟨whitelistPda, false, true⟩, ⟨key 5, true, true⟩, ⟨systemProgramId, false, false⟩]

end Reference

/-- A creation by a signing payer at the right address fails at the call of the system program. -/
theorem initializeHookWhitelist_refused :
    DerivesAddresses Reference.creatingEnv Reference.program ∧
      processInitializeHookWhitelist Reference.creatingEnv Reference.program
        Reference.creationAccounts (Reference.key 7) (Reference.world []) =
          Outcome.fail .missingRequiredSignature := by
  refine ⟨Reference.derivesAddresses, ?_⟩
  rfl

/-- The same creation does not succeed. -/
theorem initializeHookWhitelist_ne_ok_signed :
    (processInitializeHookWhitelist Reference.creatingEnv Reference.program
      Reference.creationAccounts (Reference.key 7) (Reference.world [])).isOk = false := by
  cases h : processInitializeHookWhitelist Reference.creatingEnv Reference.program
    Reference.creationAccounts (Reference.key 7) (Reference.world []) with
  | ok w' => exact absurd h (initializeHookWhitelist_ne_ok Reference.derivesAddresses _ _ _ w')
  | error e => rfl

end RaydiumAmm
