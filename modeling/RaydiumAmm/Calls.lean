import RaydiumAmm.Helpers
import Mathlib.Logic.Relation

/-!
# Calls

What the calls of a handler do to the world, and what is assumed of the programs called.

1. `Calls env P`: the world after any number of calls that satisfy `P`, with its frame, its trace
   and its invariant rule.
2. `ExactTokens`: every token call that succeeds moves, mints or burns exactly its amount.
3. One lemma for each invoker.
-/

namespace RaydiumAmm

/-! ## 1. Sequences of calls -/

theorem World.invoke_eq_ok {env : Env} {w w' : World} {c : Cpi} :
    w.invoke env c = .ok w' ↔
      (∀ info ∈ c.infos, info.key ∉ w.borrowed) ∧
        ∃ accounts, env.invoke c w.accounts = .ok accounts ∧
          w' = { w with accounts := accounts, inner := w.inner ++ [⟨c, w.accounts, accounts⟩] } := by
  simp only [World.invoke, Outcome.bind_eq_ok, Outcome.require_eq_ok, Outcome.lift_eq_ok,
    Outcome.pure_eq_ok]
  constructor
  · rintro ⟨-, hborrow, accounts, hinvoke, rfl⟩
    exact ⟨hborrow, accounts, hinvoke, rfl⟩
  · rintro ⟨hborrow, accounts, hinvoke, rfl⟩
    exact ⟨(), hborrow, accounts, hinvoke, rfl⟩

/-- The effect of a call that succeeds. -/
theorem World.effect_of_invoke {env : Env} {w w' : World} {c : Cpi}
    (h : w.invoke env c = .ok w') : env.invoke c w.accounts = .ok w'.accounts := by
  obtain ⟨-, accounts, hinvoke, rfl⟩ := World.invoke_eq_ok.mp h
  exact hinvoke

/-- A call leaves the clock and the borrows alone and is recorded. -/
theorem World.frame_of_invoke {env : Env} {w w' : World} {c : Cpi}
    (h : w.invoke env c = .ok w') :
    w'.clock = w.clock ∧ w'.borrowed = w.borrowed ∧
      w'.inner = w.inner ++ [⟨c, w.accounts, w'.accounts⟩] := by
  obtain ⟨-, accounts, -, rfl⟩ := World.invoke_eq_ok.mp h
  exact ⟨rfl, rfl, rfl⟩

/-- Two calls in a row are recorded in order. -/
theorem World.inner_of_two_invokes {env : Env} {w w₁ w₂ : World} {c₁ c₂ : Cpi}
    (h₁ : w.invoke env c₁ = .ok w₁) (h₂ : w₁.invoke env c₂ = .ok w₂) :
    w₂.inner =
      w.inner ++ [⟨c₁, w.accounts, w₁.accounts⟩, ⟨c₂, w₁.accounts, w₂.accounts⟩] := by
  obtain ⟨-, -, hfirst⟩ := World.frame_of_invoke h₁
  obtain ⟨-, -, hsecond⟩ := World.frame_of_invoke h₂
  rw [hsecond, hfirst, List.append_assoc]
  rfl

/-- One call that satisfies `P`. -/
def Call (env : Env) (P : Cpi → Prop) (w w' : World) : Prop :=
  ∃ c, P c ∧ w.invoke env c = .ok w'

/-- Any number of calls that satisfy `P`. -/
abbrev Calls (env : Env) (P : Cpi → Prop) : World → World → Prop :=
  Relation.ReflTransGen (Call env P)

/-- Any call. -/
abbrev AnyCall (_ : Cpi) : Prop := True

namespace Calls

variable {env : Env} {P P' : Cpi → Prop} {w w' w'' : World}

theorem single {c : Cpi} (hc : P c) (h : w.invoke env c = .ok w') : Calls env P w w' :=
  Relation.ReflTransGen.single ⟨c, hc, h⟩

theorem mono (hP : ∀ c, P c → P' c) (h : Calls env P w w') : Calls env P' w w' := by
  induction h with
  | refl => exact .refl
  | tail _ hcall ih =>
    obtain ⟨c, hc, hinvoke⟩ := hcall
    exact ih.tail ⟨c, hP c hc, hinvoke⟩

theorem any (h : Calls env P w w') : Calls env AnyCall w w' :=
  h.mono fun _ _ => trivial

/-- What every call preserves, the sequence preserves. -/
theorem inv {Q : World → Prop}
    (step : ∀ c w w', P c → w.invoke env c = .ok w' → Q w → Q w')
    (h : Calls env P w w') (hq : Q w) : Q w' := by
  induction h with
  | refl => exact hq
  | tail _ hcall ih =>
    obtain ⟨c, hc, hinvoke⟩ := hcall
    exact step c _ _ hc hinvoke ih

/-- The calls recorded by a sequence. -/
theorem trace (h : Calls env P w w') :
    ∃ new, w'.inner = w.inner ++ new ∧
      ∀ e ∈ new, P e.cpi ∧ env.invoke e.cpi e.pre = .ok e.post := by
  induction h with
  | refl => exact ⟨[], by simp, by simp⟩
  | @tail w₁ w₂ _ hcall ih =>
    obtain ⟨new, hnew, hall⟩ := ih
    obtain ⟨c, hc, hinvoke⟩ := hcall
    obtain ⟨-, -, hinner⟩ := World.frame_of_invoke hinvoke
    refine ⟨new ++ [⟨c, w₁.accounts, w₂.accounts⟩], ?_, ?_⟩
    · rw [hinner, hnew, List.append_assoc]
    · intro e he
      rcases List.mem_append.mp he with he | he
      · exact hall e he
      · obtain rfl := List.mem_singleton.mp he
        exact ⟨hc, World.effect_of_invoke hinvoke⟩

end Calls

/-! ## 2. Exact token moves -/

/-- `n` tokens go from `source` to `destination`, and no other account changes. -/
structure Moves (source destination : Pubkey) (n : ℕ) (acc acc' : Accounts) : Prop where
  funded : n ≤ acc.balance source
  other : ∀ k, k ≠ source → k ≠ destination → acc' k = acc k
  balance : ∀ k, (acc'.balance k : ℤ) =
    acc.balance k + (if k = destination then (n : ℤ) else 0) - (if k = source then (n : ℤ) else 0)

/-- Every token call that succeeds has exactly the effect that its amount says. -/
structure ExactTokens (env : Env) : Prop where
  transfer : ∀ {p s d au n infos seeds acc acc'},
    env.invoke ⟨.transfer p s d au n, infos, seeds⟩ acc = .ok acc' → Moves s d n.toNat acc acc'
  mintTo : ∀ {p m d au n infos seeds acc acc'},
    env.invoke ⟨.mintTo p m d au n, infos, seeds⟩ acc = .ok acc' →
      ∀ k, (acc'.balance k : ℤ) = acc.balance k + (if k = d then (n.toNat : ℤ) else 0)
  burn : ∀ {p s m au n infos seeds acc acc'},
    env.invoke ⟨.burn p s m au n, infos, seeds⟩ acc = .ok acc' →
      ∀ k, (acc'.balance k : ℤ) = acc.balance k - (if k = s then (n.toNat : ℤ) else 0)

/-- The holder of a token account. -/
def Accounts.holder (acc : Accounts) (k : Pubkey) : Option Pubkey :=
  match (acc k).data with
  | .token t => some t.owner
  | _ => none

/-- The delegate that the holder of a token account has approved. -/
def Accounts.delegate (acc : Accounts) (k : Pubkey) : Option Pubkey :=
  match (acc k).data with
  | .token t => t.delegate
  | _ => none

/-- The authority `au` can take tokens out of `k`, as the holder or as the approved delegate. -/
def Accounts.MaySpend (acc : Accounts) (k au : Pubkey) : Prop :=
  acc.holder k = some au ∨ acc.delegate k = some au

/-- The authority `au` can burn tokens of `k`. Where no one can sign for the holder, anyone can. -/
def Accounts.MayBurn (acc : Accounts) (k au : Pubkey) : Prop :=
  acc.MaySpend k au ∨ acc.holder k ∈ [some systemProgramId, some incineratorId]

instance (acc : Accounts) (k au : Pubkey) : Decidable (acc.MaySpend k au) :=
  inferInstanceAs (Decidable (_ ∨ _))

instance (acc : Accounts) (k au : Pubkey) : Decidable (acc.MayBurn k au) :=
  inferInstanceAs (Decidable (_ ∨ _))

/-- No account changes its holder, and no delegate is approved. -/
structure GrantsNone (acc acc' : Accounts) : Prop where
  holder : ∀ k, acc'.holder k = acc.holder k
  delegate : ∀ k au, acc'.delegate k = some au → acc.delegate k = some au

namespace GrantsNone

variable {acc acc' acc'' : Accounts} {k au : Pubkey}

theorem refl (acc : Accounts) : GrantsNone acc acc :=
  ⟨fun _ => rfl, fun _ _ h => h⟩

theorem trans (h : GrantsNone acc acc') (h' : GrantsNone acc' acc'') : GrantsNone acc acc'' :=
  ⟨fun k => (h'.holder k).trans (h.holder k),
    fun k au hk => h.delegate k au (h'.delegate k au hk)⟩

theorem maySpend (h : GrantsNone acc acc') (hk : acc'.MaySpend k au) : acc.MaySpend k au := by
  rcases hk with hholder | hdelegate
  · exact .inl ((h.holder k).symm.trans hholder)
  · exact .inr (h.delegate k au hdelegate)

theorem mayBurn (h : GrantsNone acc acc') (hk : acc'.MayBurn k au) : acc.MayBurn k au := by
  rcases hk with hspend | hnobody
  · exact .inl (h.maySpend hspend)
  · rw [h.holder k] at hnobody
    exact .inr hnobody

/-- A record takes the place of another one. -/
theorem setData {key : Pubkey} {data : AccountData} (hkey : ∀ t, (acc key).data ≠ .token t)
    (hdata : ∀ t, data ≠ .token t) : GrantsNone acc (acc.setData key data) := by
  refine ⟨fun k => ?_, fun k au h => ?_⟩
  · by_cases hk : k = key
    · subst hk
      simp only [Accounts.holder, Accounts.setData, if_true]
    · simp only [Accounts.holder, Accounts.setData, if_neg hk]
  · by_cases hk : k = key
    · subst hk
      simp only [Accounts.delegate, Accounts.setData, if_true, reduceCtorEq] at h
    · simpa only [Accounts.delegate, Accounts.setData, if_neg hk] using h

end GrantsNone

/-- The SPL token program takes tokens out of an account by the authority of its holder or of the
    delegate that he has approved, and a transfer approves no one. -/
structure TokenSpenders (env : Env) : Prop where
  transfer : ∀ {s d au n infos seeds acc acc'},
    env.invoke ⟨.transfer splTokenId s d au n, infos, seeds⟩ acc = .ok acc' →
      acc.MaySpend s au ∧ GrantsNone acc acc'
  burn : ∀ {s m au n infos seeds acc acc'},
    env.invoke ⟨.burn splTokenId s m au n, infos, seeds⟩ acc = .ok acc' → acc.MayBurn s au

/-- Writing a record over a record changes no balance. -/
theorem Accounts.balance_setData_of_ne {acc : Accounts} {key k : Pubkey} {data : AccountData}
    (h : k ≠ key) : (acc.setData key data).balance k = acc.balance k := by
  simp [Accounts.balance, Accounts.setData, h]

@[simp] theorem World.dropRefMut_accounts (w : World) (key : Pubkey) (data : AccountData) :
    (w.dropRefMut key data).accounts = w.accounts.setData key data := rfl

@[simp] theorem World.dropRefMut_inner (w : World) (key : Pubkey) (data : AccountData) :
    (w.dropRefMut key data).inner = w.inner := rfl

/-! ## 3. Invokers -/

/-- A plain SPL transfer call. -/
def transferCpi (tokenProgram source destination authority : AccountInfo)
    (seeds : List (List (List U8))) (amount : U64) : Cpi where
  ix := .transfer tokenProgram.key source.key destination.key authority.key amount
  infos := [source, destination, authority, tokenProgram]
  seeds := seeds

section Invokers

variable {env : Env} {programId : Pubkey} {tokenProgram source destination authority mint
  vaultInfo : AccountInfo} {amount : U64} {w w' : World} {seed : List U8} {nonce : U8}

/-- Under the SPL token program a transfer is the plain call. -/
theorem tokenTransferSigned_spl (hp : tokenProgram.key = splTokenId)
    (seeds : List (List (List U8))) (w : World) :
    tokenTransferSigned env programId tokenProgram source destination authority seeds amount mint
      [] w = w.invoke env (transferCpi tokenProgram source destination authority seeds amount) := by
  have hne : ¬tokenProgram.key = splToken2022Id := by
    rw [hp]
    decide
  rw [tokenTransferSigned, if_neg hne, Outcome.require_pos hp]
  rfl

theorem tokenTransfer_spl (hp : tokenProgram.key = splTokenId)
    (h : tokenTransfer env programId tokenProgram source destination authority amount mint [] w =
      .ok w') :
    w.invoke env (transferCpi tokenProgram source destination authority [] amount) = .ok w' := by
  rwa [tokenTransfer, tokenTransferSigned_spl hp] at h

/-- The same with the pool's authority. -/
theorem tokenTransferWithAuthority_spl (hp : tokenProgram.key = splTokenId)
    (h : tokenTransferWithAuthority env programId tokenProgram source destination authority seed
      nonce amount mint [] w = .ok w') :
    w.invoke env (transferCpi tokenProgram source destination authority [[seed, [nonce]]] amount) =
      .ok w' := by
  rwa [tokenTransferWithAuthority, tokenTransferSigned_spl hp] at h

theorem ExactTokens.moves (hex : ExactTokens env) {seeds : List (List (List U8))}
    (h : w.invoke env (transferCpi tokenProgram source destination authority seeds amount) =
      .ok w') :
    Moves source.key destination.key amount.toNat w.accounts w'.accounts :=
  hex.transfer (World.effect_of_invoke h)

end Invokers

/-- A call to cancel orders on the exchange `dexProgram`. -/
def CancelCall (dexProgram : Pubkey) (c : Cpi) : Prop :=
  ∃ o, c.ix = .cancelOrders o ∧ o.dexProgram = dexProgram

/-- A call of a cancel-and-settle sequence with the settle instruction `s`. -/
def DexCall (s : SettleFunds) (c : Cpi) : Prop :=
  CancelCall s.dexProgram c ∨ c.ix = .settleFunds s

/-- The batches are cancelled by cancel calls. -/
theorem cancelBatches_calls {env : Env} {a : CancelInfos} {nonce : U8} {w' : World} :
    ∀ {batches : List (List U64)} {w : World}, cancelBatches env a nonce batches w = .ok w' →
      Calls env (CancelCall a.marketProgramInfo.key) w w' := by
  intro batches
  induction batches with
  | nil =>
    intro w h
    cases h
    exact .refl
  | cons ids rest ih =>
    intro w h
    simp only [cancelBatches, List.foldlM_cons, Outcome.bind_eq_ok] at h
    obtain ⟨w₁, hfirst, hrest⟩ := h
    refine Relation.ReflTransGen.head ⟨_, ?_, hfirst⟩ (ih hrest)
    exact ⟨_, rfl, rfl⟩

theorem cancelSide_calls {env : Env} {a : CancelInfos} {nonce : U8} {orders : List LeafNode}
    {w w' : World} (h : cancelSide env a nonce orders w = .ok w') :
    Calls env (CancelCall a.marketProgramInfo.key) w w' := by
  simp only [cancelSide, Outcome.bind_eq_ok] at h
  obtain ⟨batches, -, hcancel⟩ := h
  exact cancelBatches_calls hcancel

/-- The settle instruction that `invokeDexSettleFunds` issues for these accounts. -/
def settleIx (dexProgram market openOrders owner coinVault pcVault coinWallet pcWallet vaultSigner
    splTokenProgram : AccountInfo) (referrerPcWallet : Option AccountInfo) : SettleFunds where
  dexProgram := dexProgram.key
  market := market.key
  tokenProgram := splTokenProgram.key
  openOrders := openOrders.key
  owner := owner.key
  coinVault := coinVault.key
  coinWallet := coinWallet.key
  pcVault := pcVault.key
  pcWallet := pcWallet.key
  referrerPcWallet := referrerPcWallet.map AccountInfo.key
  vaultSigner := vaultSigner.key

/-- The sequence of `cancel_amm_orders_and_settle`. -/
theorem cancelAmmOrdersAndSettle_calls {env : Env} {a : CancelInfos}
    {marketCoinVaultInfo marketPcVaultInfo ammCoinVaultInfo ammPcVaultInfo marketVaultSigner
      tokenProgramInfo : AccountInfo} {referrer : Option AccountInfo}
    {bids asks : List LeafNode} {nonce : U8} {w w' : World}
    (h : cancelAmmOrdersAndSettle env a marketCoinVaultInfo marketPcVaultInfo ammCoinVaultInfo
      ammPcVaultInfo marketVaultSigner tokenProgramInfo referrer bids asks nonce w = .ok w') :
    Calls env (DexCall (settleIx a.marketProgramInfo a.marketInfo a.ammOpenOrdersInfo
      a.ammAuthorityInfo marketCoinVaultInfo marketPcVaultInfo ammCoinVaultInfo ammPcVaultInfo
      marketVaultSigner tokenProgramInfo referrer)) w w' := by
  simp only [cancelAmmOrdersAndSettle, Outcome.bind_eq_ok] at h
  obtain ⟨batches, -, w₁, hcancel, hsettle⟩ := h
  refine Relation.ReflTransGen.tail ((cancelBatches_calls hcancel).mono fun c hc => .inl hc)
    ⟨_, ?_, hsettle⟩
  exact .inr rfl

end RaydiumAmm
