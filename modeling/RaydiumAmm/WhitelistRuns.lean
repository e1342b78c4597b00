import RaydiumAmm.Reference
import RaydiumAmm.WhitelistBytes

/-!
# Runs of whitelist updates

`process_update_hook_whitelist` on the stored bytes carries out the updates of a roster.

1. `Stores`: the whitelist account holds a record, and what the checks of an update accept there.
2. One update of the account.
3. Calls in sequence, where a failed one leaves the accounts alone.
4. `whitelist_refines_roster`: the account bytes over a whole run.
-/

namespace RaydiumAmm

/-! ## 1. The stored record -/

/-- The address of the whitelist. -/
def whitelistAddress (env : Env) (programId : Pubkey) : Pubkey :=
  (findWhitelistPda env programId).1

/-- The whitelist account belongs to the program, is not borrowed and holds the bytes of `s`. -/
structure Stores (env : Env) (programId : Pubkey) (s : HookWhitelist) (w : World) : Prop where
  owner : (w.accounts (whitelistAddress env programId)).owner = programId
  free : whitelistAddress env programId ∉ w.borrowed
  data : (w.accounts (whitelistAddress env programId)).data = .bytes s.pack

/-- The first two accounts are the whitelist and the authority, who signed. -/
def SignedBy (env : Env) (programId authority : Pubkey) (accounts : List AccountInfo) : Prop :=
  ∃ whitelistInfo authorityInfo rest, accounts = whitelistInfo :: authorityInfo :: rest ∧
    authorityInfo.isSigner = true ∧ whitelistInfo.key = whitelistAddress env programId ∧
    authorityInfo.key = authority

/-- Replace the stored record. -/
def World.storeWhitelist (w : World) (env : Env) (programId : Pubkey) (s : HookWhitelist) :
    World :=
  { w with accounts := w.accounts.setData (whitelistAddress env programId) (.bytes s.pack) }

section Stored

variable {env : Env} {programId : Pubkey} {s s' : HookWhitelist} {w w' : World}
  {accounts : List AccountInfo}

theorem HookWhitelist.isEmpty_pack : (AccountData.bytes s.pack).isEmpty = false := by
  have hpos : 0 < s.pack.length := by
    rw [s.length_pack]
    decide
  rw [AccountData.isEmpty, List.isEmpty_eq_false_iff]
  exact List.ne_nil_of_length_pos hpos

theorem Stores.store (h : Stores env programId s w) (s' : HookWhitelist) :
    Stores env programId s' (w.storeWhitelist env programId s') where
  owner := by simpa [World.storeWhitelist, Accounts.setData] using h.owner
  free := h.free
  data := by simp [World.storeWhitelist, Accounts.setData]

/-- The stored record is read back where its authority is not the zero key. -/
theorem Stores.load (h : Stores env programId s w) {info : AccountInfo}
    (hkey : info.key = whitelistAddress env programId) :
    loadWhitelist w info = HookWhitelist.unpack s.pack := by
  have hfree : info.key ∉ w.borrowed := by
    rw [hkey]
    exact h.free
  rw [loadWhitelist, Outcome.require_pos hfree, Outcome.ok_bind, hkey, h.data]

/-- What the checks of an update accept. -/
theorem Stores.loadOwn_eq_ok (h : Stores env programId s w)
    {whitelistInfo authorityInfo : AccountInfo} {t : HookWhitelist} :
    loadOwnWhitelist env programId whitelistInfo authorityInfo w = .ok t ↔
      authorityInfo.isSigner = true ∧ whitelistInfo.key = whitelistAddress env programId ∧
        s.authority ≠ Pubkey.default ∧ authorityInfo.key = s.authority ∧ t = s := by
  simp only [loadOwnWhitelist, Outcome.bind_eq_ok, Outcome.require_eq_ok, Outcome.pure_eq_ok]
  constructor
  · rintro ⟨-, hsigner, -, hkey, -, -, t, hload, -, howner, rfl⟩
    rw [h.load hkey] at hload
    have hauthority := (s.unpack_pack_isOk_iff).mp ⟨_, hload⟩
    obtain rfl := Except.ok.inj (hload.symm.trans (HookWhitelist.unpack_pack hauthority))
    exact ⟨hsigner, hkey, hauthority, howner.symm, rfl⟩
  · rintro ⟨hsigner, hkey, hauthority, howner, rfl⟩
    refine ⟨(), hsigner, (), hkey, (), ?_, t, ?_, (), howner.symm, rfl⟩
    · rw [hkey, h.data]
      exact HookWhitelist.isEmpty_pack
    · rw [h.load hkey]
      exact HookWhitelist.unpack_pack hauthority

theorem Stores.writeData (h : Stores env programId s w) {key : Pubkey}
    (hkey : key = whitelistAddress env programId) :
    w.writeData programId key (.bytes s'.pack) = .ok (w.storeWhitelist env programId s') := by
  subst hkey
  rw [World.writeData, Outcome.require_pos h.owner]
  rfl

/-! ## 2. One update -/

/-- The method that an update calls. -/
def HookWhitelist.applyUpdate (s : HookWhitelist) (instruction : UpdateHookWhitelistInstruction) :
    Result HookWhitelist :=
  match instruction.action with
  | .add => s.addHook instruction.hookProgramId
  | .remove => s.removeHook instruction.hookProgramId

/-- An update signed by the authority is decided by the record. -/
theorem Stores.update_signed (h : Stores env programId s w)
    (hauthority : s.authority ≠ Pubkey.default)
    (hsigned : SignedBy env programId s.authority accounts)
    (instruction : UpdateHookWhitelistInstruction) :
    processUpdateHookWhitelist env programId accounts instruction w = (do
      let updated ← s.applyUpdate instruction
      return w.storeWhitelist env programId updated) := by
  obtain ⟨whitelistInfo, authorityInfo, rest, rfl, hsigner, hkey, hself⟩ := hsigned
  have hload : loadOwnWhitelist env programId whitelistInfo authorityInfo w = .ok s :=
    h.loadOwn_eq_ok.mpr ⟨hsigner, hkey, hauthority, hself, rfl⟩
  have hbind : Binder.bindAll (do
      let whitelistAccountInfo ← nextAccountInfo
      let authorityInfo ← nextAccountInfo
      return (whitelistAccountInfo, authorityInfo)) (whitelistInfo :: authorityInfo :: rest) =
        .ok (whitelistInfo, authorityInfo) := rfl
  simp only [processUpdateHookWhitelist, hbind, Outcome.ok_bind, hload, h.writeData hkey]
  unfold HookWhitelist.applyUpdate
  cases instruction.action <;> rfl

/-- A call that goes through is signed by the authority. -/
theorem Stores.signed_of_update (h : Stores env programId s w)
    {instruction : UpdateHookWhitelistInstruction}
    (hok : processUpdateHookWhitelist env programId accounts instruction w = .ok w') :
    s.authority ≠ Pubkey.default ∧ SignedBy env programId s.authority accounts := by
  simp only [processUpdateHookWhitelist, Outcome.bind_eq_ok] at hok
  obtain ⟨⟨whitelistInfo, authorityInfo⟩, hbind, t, hload, -⟩ := hok
  obtain ⟨hsigner, hkey, hauthority, hself, -⟩ := h.loadOwn_eq_ok.mp hload
  obtain _ | ⟨x, _ | ⟨y, rest⟩⟩ := accounts
  · cases hbind
  · cases hbind
  · cases hbind
    exact ⟨hauthority, _, _, rest, rfl, hsigner, hkey, hself⟩

/-- An update that goes through leaves the updated record. -/
theorem Stores.update_eq_ok (h : Stores env programId s w)
    {instruction : UpdateHookWhitelistInstruction} :
    processUpdateHookWhitelist env programId accounts instruction w = .ok w' ↔
      s.authority ≠ Pubkey.default ∧ SignedBy env programId s.authority accounts ∧
        ∃ updated, s.applyUpdate instruction = .ok updated ∧
          w' = w.storeWhitelist env programId updated := by
  constructor
  · intro hok
    obtain ⟨hauthority, hsigned⟩ := h.signed_of_update hok
    rw [h.update_signed hauthority hsigned, Outcome.bind_eq_ok] at hok
    obtain ⟨updated, happly, hw⟩ := hok
    exact ⟨hauthority, hsigned, updated, happly, (Outcome.pure_eq_ok.mp hw).symm⟩
  · rintro ⟨hauthority, hsigned, updated, happly, rfl⟩
    rw [h.update_signed hauthority hsigned, happly]
    rfl

end Stored

/-! ## 3. Calls in sequence -/

/-- The update of the roster that an instruction asks for. -/
def UpdateHookWhitelistInstruction.toUpdate (u : UpdateHookWhitelistInstruction) :
    Roster.Update Pubkey :=
  match u.action with
  | .add => .add u.hookProgramId
  | .remove => .remove u.hookProgramId

theorem HookWhitelist.applyUpdate_ofRoster {authority : Pubkey} {r : HookWhitelist.Hooks}
    (u : UpdateHookWhitelistInstruction) :
    (HookWhitelist.ofRoster authority r).applyUpdate u =
      HookWhitelist.ofUpdate authority (r.update u.toUpdate) := by
  obtain ⟨h, action⟩ := u
  cases action with
  | add => exact HookWhitelist.addHook_ofRoster
  | remove => exact HookWhitelist.removeHook_ofRoster

/-- A call of `process_update_hook_whitelist` with any accounts; the label is the instruction of a
    call that went through. -/
inductive UpdateStep (env : Env) (programId : Pubkey) :
    World → Option UpdateHookWhitelistInstruction → World → Prop where
  | done {accounts : List AccountInfo} {instruction : UpdateHookWhitelistInstruction}
      {w w' : World} :
      processUpdateHookWhitelist env programId accounts instruction w = .ok w' →
      UpdateStep env programId w (some instruction) w'
  | failed {accounts : List AccountInfo} {instruction : UpdateHookWhitelistInstruction} {w : World}
      {e : Fault ProgramError} :
      processUpdateHookWhitelist env programId accounts instruction w = .error e →
      UpdateStep env programId w none w

/-- A call on the bytes of a roster is an attempt on the roster. -/
theorem UpdateStep.simulates {env : Env} {programId authority : Pubkey} {w w' : World}
    {l : Option UpdateHookWhitelistInstruction} {r : HookWhitelist.Hooks}
    (hstep : UpdateStep env programId w l w')
    (h : Stores env programId (HookWhitelist.ofRoster authority r) w) :
    ∃ r', Roster.Attempt r (l.map UpdateHookWhitelistInstruction.toUpdate) r' ∧
      Stores env programId (HookWhitelist.ofRoster authority r') w' := by
  cases hstep with
  | failed => exact ⟨r, .refused r, h⟩
  | done hok =>
    obtain ⟨-, -, updated, happly, rfl⟩ := h.update_eq_ok.mp hok
    rw [HookWhitelist.applyUpdate_ofRoster] at happly
    unfold HookWhitelist.ofUpdate at happly
    split at happly
    · next r' hupdate =>
      cases happly
      exact ⟨r', .done hupdate, h.store _⟩
    · cases happly

/-- The bytes after a run of calls on a fresh whitelist are those of the roster that the same
    attempts leave. -/
theorem UpdateStep.run_simulates {env : Env} {programId authority : Pubkey} {w₀ w : World}
    {calls : List (Option UpdateHookWhitelistInstruction)}
    (hstart : Stores env programId (HookWhitelist.empty authority) w₀)
    (hrun : Runs.Run (UpdateStep env programId) w₀ calls w) :
    ∃ r : HookWhitelist.Hooks,
      Runs.Run Roster.Attempt Roster.empty
        (calls.map (Option.map UpdateHookWhitelistInstruction.toUpdate)) r ∧
      Stores env programId (HookWhitelist.ofRoster authority r) w := by
  rw [← HookWhitelist.ofRoster_empty] at hstart
  exact hrun.simulate (fun _ _ _ _ hstep h => hstep.simulates h) hstart

/-! ## 4. Refinement -/

/-- From a fresh whitelist, the calls behave as attempts on a roster of at most 32 hooks: the
    stored bytes are those of the roster, the next call of another signer fails, and the next call
    of the authority does what the roster's update does. -/
theorem whitelist_refines_roster {env : Env} {programId authority : Pubkey}
    (hauthority : authority ≠ Pubkey.default) {w₀ w : World}
    {calls : List (Option UpdateHookWhitelistInstruction)}
    (hstart : Stores env programId (HookWhitelist.empty authority) w₀)
    (hrun : Runs.Run (UpdateStep env programId) w₀ calls w) :
    ∃ r : HookWhitelist.Hooks,
      Runs.Run Roster.Attempt Roster.empty
        (calls.map (Option.map UpdateHookWhitelistInstruction.toUpdate)) r ∧
      (∃ b s, (w.accounts (whitelistAddress env programId)).data = .bytes b ∧
        HookWhitelist.unpack b = .ok s ∧ s.authority = authority ∧
        s.hookCount.toNat = r.members.length ∧
        (∀ j (hj : j < MAX_HOOKS), s.hooks[j] = r.members.getD j Pubkey.default) ∧
        ∀ h, s.containsHook h = decide (h ∈ r.members)) ∧
      ∀ accounts instruction,
        (¬SignedBy env programId authority accounts →
          ∃ e, processUpdateHookWhitelist env programId accounts instruction w = .error e) ∧
        (SignedBy env programId authority accounts →
          (∀ r', r.update instruction.toUpdate = .ok r' →
            processUpdateHookWhitelist env programId accounts instruction w =
              .ok (w.storeWhitelist env programId (HookWhitelist.ofRoster authority r'))) ∧
          ∀ refusal, r.update instruction.toUpdate = .error refusal →
            processUpdateHookWhitelist env programId accounts instruction w =
              Outcome.fail (HookWhitelist.refusalError refusal).into) := by
  obtain ⟨r, hroster, h⟩ := UpdateStep.run_simulates hstart hrun
  refine ⟨r, hroster, ⟨_, _, h.data, HookWhitelist.unpack_pack hauthority, rfl,
    HookWhitelist.count_ofRoster, fun j hj => ?_,
    fun _ => HookWhitelist.containsHook_ofRoster⟩, fun accounts instruction => ⟨?_, ?_⟩⟩
  · exact Vector.getElem_ofFn hj
  · intro hunsigned
    cases hresult : processUpdateHookWhitelist env programId accounts instruction w with
    | error e => exact ⟨e, rfl⟩
    | ok w' => exact absurd (h.update_eq_ok.mp hresult).2.1 hunsigned
  · intro hsigned
    have hdecided := h.update_signed hauthority hsigned instruction
    rw [HookWhitelist.applyUpdate_ofRoster] at hdecided
    constructor
    · intro r' hupdate
      rw [hdecided, hupdate]
      rfl
    · intro refusal hupdate
      rw [hdecided, hupdate]
      rfl

/-! A whitelist on the reference runtime. -/

namespace Reference

/-- A world in which the whitelist of the program holds `s`. -/
def whitelistWorld (s : HookWhitelist) : World where
  accounts k :=
    if k = whitelistAddress env program then ⟨program, .bytes s.pack⟩ else default
  clock := ⟨0, 0⟩
  borrowed := []
  inner := []

theorem stores_whitelistWorld (s : HookWhitelist) : Stores env program s (whitelistWorld s) where
  owner := by simp [whitelistWorld]
  free := by simp [whitelistWorld]
  data := by simp [whitelistWorld]

/-- The accounts of an update that `authority` signs. -/
def whitelistAccounts (authority : Pubkey) : List AccountInfo :=
  [⟨whitelistAddress env program, false, true⟩, ⟨authority, true, false⟩]

theorem signedBy_whitelistAccounts (authority : Pubkey) :
    SignedBy env program authority (whitelistAccounts authority) :=
  ⟨_, _, [], rfl, rfl, rfl, rfl⟩

/-- A call that adds a hook to a fresh whitelist. -/
theorem updateStep_add (authority : Pubkey) (hauthority : authority ≠ Pubkey.default)
    (h : Pubkey) :
    ∃ w, UpdateStep env program (whitelistWorld (.empty authority)) (some ⟨h, .add⟩) w := by
  have hstored := stores_whitelistWorld (.empty authority)
  have hok := hstored.update_signed hauthority (signedBy_whitelistAccounts authority) ⟨h, .add⟩
  rw [← HookWhitelist.ofRoster_empty, HookWhitelist.applyUpdate_ofRoster] at hok
  rw [← HookWhitelist.ofRoster_empty]
  exact ⟨_, .done hok⟩

end Reference

/-- After one addition the stored bytes contain the hook. -/
theorem whitelist_refines_roster_add :
    ∃ w, UpdateStep Reference.env Reference.program
        (Reference.whitelistWorld (.empty (Reference.key 7))) (some ⟨Reference.key 9, .add⟩) w ∧
      ∃ r : HookWhitelist.Hooks,
        Runs.Run Roster.Attempt Roster.empty [some (.add (Reference.key 9))] r ∧
        ∃ b s, (w.accounts (whitelistAddress Reference.env Reference.program)).data = .bytes b ∧
          HookWhitelist.unpack b = .ok s ∧
          ∀ h, s.containsHook h = decide (h ∈ r.members) := by
  have hauthority : Reference.key 7 ≠ Pubkey.default := by decide
  obtain ⟨w, hstep⟩ := Reference.updateStep_add _ hauthority (Reference.key 9)
  obtain ⟨r, hrun, ⟨b, s, hdata, hunpack, -, -, -, hcontains⟩, -⟩ :=
    whitelist_refines_roster hauthority (Reference.stores_whitelistWorld _) (.single hstep)
  exact ⟨w, hstep, r, hrun, b, s, hdata, hunpack, hcontains⟩

end RaydiumAmm
