import RaydiumAmm.Admin
import RaydiumAmm.Calls
import RaydiumAmm.Deposit
import RaydiumAmm.Initialize
import RaydiumAmm.Swap
import RaydiumAmm.Withdraw

/-!
# A reference runtime

A concrete environment: an SPL token program with owners and signatures, and an exchange that
settles free funds. It shows that the assumptions made on `Env` hold together, and it is the
runtime of every concrete run.
-/

namespace RaydiumAmm

namespace Reference

/-- The key with the number `n`. -/
def key (n : Nat) : Pubkey := ⟨BitVec.ofNat 256 n⟩

/-- The program. -/
def program : Pubkey := key 1

/-- The exchange. -/
def dex : Pubkey := key 2

/-- Address derivation: the seed bytes as a number, shifted by the program. -/
def createAddress (seeds : List (List U8)) (programId : Pubkey) : Pubkey :=
  ⟨(Pubkey.ofBytes seeds.flatten).bits + programId.bits⟩

/-- The pool authority for the nonce 0. -/
def authority : Pubkey := createAddress [AUTHORITY_AMM, [0]] program

/-- `authority` signs a call where the seeds derive it, or where it is a wallet that signed. -/
def signs (c : Cpi) (signer : Pubkey) : Bool :=
  c.seeds.any (fun s => createAddress s program == signer) ||
    (signer != authority && c.infos.any (fun i => i.key == signer && i.isSigner))

/-! ## Tokens -/

/-- The accounts after `authority` is admitted to take `n` tokens: an approved delegate uses up what
    he was approved for, the holder needs no approval. -/
def authorize (acc : Accounts) (source authority : Pubkey) (n : U64) : Option Accounts :=
  match (acc source).data with
  | .token t =>
    if t.delegate = some authority then do
      let rest ← Checked.sub t.delegatedAmount n
      some (acc.setData source (.token { t with
        delegate := if rest = 0 then none else t.delegate
        delegatedAmount := rest }))
    else if t.owner = authority then some acc
    else none
  | _ => none

/-- The same for a burn, which anyone may ask for where no one can sign for the holder. -/
def authorizeBurn (acc : Accounts) (source authority : Pubkey) (n : U64) : Option Accounts :=
  if acc.holder source ∈ [some systemProgramId, some incineratorId] then some acc
  else authorize acc source authority n

/-- Move `n` tokens between two accounts of one mint. -/
def moveTokens (acc : Accounts) (source destination : Pubkey) (n : U64) : Option Accounts :=
  match (acc source).data, (acc destination).data with
  | .token s, .token d =>
    if s.mint = d.mint ∧ n ≤ s.amount ∧ s.frozen = false ∧ d.frozen = false then
      if source = destination then some acc
      else do
        let taken ← Checked.sub s.amount n
        let given ← Checked.add d.amount n
        some ((acc.setData source (.token { s with amount := taken })).setData destination
          (.token { d with amount := given }))
    else none
  | _, _ => none

/-- Mint `n` tokens. -/
def mintTokens (acc : Accounts) (mint destination : Pubkey) (n : U64) : Option Accounts :=
  match (acc mint).data, (acc destination).data with
  | .mint m, .token d =>
    if d.mint = mint ∧ d.frozen = false then do
      let supply ← Checked.add m.supply n
      let given ← Checked.add d.amount n
      some ((acc.setData mint (.mint { m with supply := supply })).setData destination
        (.token { d with amount := given }))
    else none
  | _, _ => none

/-- Burn `n` tokens. -/
def burnTokens (acc : Accounts) (source mint : Pubkey) (n : U64) : Option Accounts :=
  match (acc mint).data, (acc source).data with
  | .mint m, .token s =>
    if s.mint = mint ∧ s.frozen = false then do
      let supply ← Checked.sub m.supply n
      let taken ← Checked.sub s.amount n
      some ((acc.setData mint (.mint { m with supply := supply })).setData source
        (.token { s with amount := taken }))
    else none
  | _, _ => none

/-- A move of tokens: between one account and itself it changes nothing, and otherwise the amount
    goes from one balance to the other. -/
theorem moveTokens_eq_some {acc acc' : Accounts} {s d : Pubkey} {n : U64}
    (h : moveTokens acc s d n = some acc') :
    ∃ ts td, (acc s).data = .token ts ∧ (acc d).data = .token td ∧ n.toNat ≤ ts.amount.toNat ∧
      (s = d ∧ acc' = acc ∨ s ≠ d ∧ ∃ taken given, ts.amount.toNat = n.toNat + taken.toNat ∧
        given.toNat = td.amount.toNat + n.toNat ∧
        acc' = (acc.setData s (.token { ts with amount := taken })).setData d
          (.token { td with amount := given })) := by
  unfold moveTokens at h
  cases hs : (acc s).data <;> cases hd : (acc d).data <;> simp only [hs, hd, reduceCtorEq] at h
  rename_i ts td
  split at h
  next hok =>
    refine ⟨ts, td, rfl, rfl, BitVec.le_def.mp hok.2.1, ?_⟩
    split at h
    next heq =>
      cases h
      exact .inl ⟨heq, rfl⟩
    next hne =>
      simp only [Option.bind_eq_bind, Option.bind_eq_some_iff, Checked.sub_eq_some,
        Checked.add_eq_some, Option.some.injEq] at h
      obtain ⟨taken, htaken, given, hgiven, rfl⟩ := h
      exact .inr ⟨hne, taken, given, htaken, hgiven, rfl⟩
  next => cases h

/-- A mint adds the amount to the supply and to the balance. -/
theorem mintTokens_eq_some {acc acc' : Accounts} {m d : Pubkey} {n : U64}
    (h : mintTokens acc m d n = some acc') :
    ∃ tm td supply given, (acc m).data = .mint tm ∧ (acc d).data = .token td ∧ d ≠ m ∧
      supply.toNat = tm.supply.toNat + n.toNat ∧ given.toNat = td.amount.toNat + n.toNat ∧
      acc' = (acc.setData m (.mint { tm with supply := supply })).setData d
        (.token { td with amount := given }) := by
  unfold mintTokens at h
  cases hm : (acc m).data <;> cases hd : (acc d).data <;> simp only [hm, hd, reduceCtorEq] at h
  rename_i tm td
  have hne : d ≠ m := by
    rintro rfl
    rw [hm] at hd
    cases hd
  split at h
  next =>
    simp only [Option.bind_eq_bind, Option.bind_eq_some_iff, Checked.add_eq_some,
      Option.some.injEq] at h
    obtain ⟨supply, hsupply, given, hgiven, rfl⟩ := h
    exact ⟨tm, td, supply, given, rfl, rfl, hne, hsupply, hgiven, rfl⟩
  next => cases h

/-- A burn takes the amount from the supply and from the balance. -/
theorem burnTokens_eq_some {acc acc' : Accounts} {s m : Pubkey} {n : U64}
    (h : burnTokens acc s m n = some acc') :
    ∃ tm ts supply taken, (acc m).data = .mint tm ∧ (acc s).data = .token ts ∧ s ≠ m ∧
      tm.supply.toNat = n.toNat + supply.toNat ∧ ts.amount.toNat = n.toNat + taken.toNat ∧
      acc' = (acc.setData m (.mint { tm with supply := supply })).setData s
        (.token { ts with amount := taken }) := by
  unfold burnTokens at h
  cases hm : (acc m).data <;> cases hs : (acc s).data <;> simp only [hm, hs, reduceCtorEq] at h
  rename_i tm ts
  have hne : s ≠ m := by
    rintro rfl
    rw [hm] at hs
    cases hs
  split at h
  next =>
    simp only [Option.bind_eq_bind, Option.bind_eq_some_iff, Checked.sub_eq_some,
      Option.some.injEq] at h
    obtain ⟨supply, hsupply, taken, htaken, rfl⟩ := h
    exact ⟨tm, ts, supply, taken, rfl, rfl, hne, hsupply, htaken, rfl⟩
  next => cases h

/-- At most the amount of a token account changes, and an approval that is used up. -/
inductive TokenChange : Account → Account → Prop where
  | refl (a : Account) : TokenChange a a
  | token (owner : Pubkey) (t : TokenAccount) (amount : U64) (delegate : Option Pubkey)
      (delegatedAmount : U64) (h : delegate = t.delegate ∨ delegate = none) :
      TokenChange ⟨owner, .token t⟩
        ⟨owner, .token { t with
          amount := amount, delegate := delegate, delegatedAmount := delegatedAmount }⟩

namespace TokenChange

variable {a a' a'' : Account}

theorem trans (h : TokenChange a a') (h' : TokenChange a' a'') : TokenChange a a'' := by
  cases h with
  | refl => exact h'
  | token owner t amount delegate delegatedAmount hdelegate =>
    cases h' with
    | refl => exact .token _ _ _ _ _ hdelegate
    | token _ _ amount' delegate' delegatedAmount' hdelegate' =>
      refine .token owner t amount' delegate' delegatedAmount' ?_
      rcases hdelegate' with rfl | rfl
      · exact hdelegate
      · exact .inr rfl

/-- An account of another kind does not change. -/
theorem frame (h : TokenChange a a') (ha : ∀ t, a.data ≠ .token t) : a' = a := by
  cases h with
  | refl => rfl
  | token owner t => exact absurd rfl (ha t)

theorem amount (owner : Pubkey) (t : TokenAccount) (amount : U64) :
    TokenChange ⟨owner, .token t⟩ ⟨owner, .token { t with amount := amount }⟩ :=
  .token owner t amount t.delegate t.delegatedAmount (.inl rfl)

end TokenChange

/-- A changed token account takes the place of the old one. -/
theorem tokenChange_setData {acc : Accounts} {key : Pubkey} {t t' : TokenAccount}
    (hkey : (acc key).data = .token t)
    (h : TokenChange ⟨(acc key).owner, .token t⟩ ⟨(acc key).owner, .token t'⟩) (k : Pubkey) :
    TokenChange (acc k) ((acc.setData key (.token t')) k) := by
  by_cases hk : k = key
  · subst hk
    rw [Account.eq_mk (a := acc k) rfl hkey]
    simpa [Accounts.setData] using h
  · simp only [Accounts.setData, if_neg hk]
    exact .refl _

/-- Such changes give no one a right to an account. -/
theorem grantsNone {acc acc' : Accounts} (h : ∀ k, TokenChange (acc k) (acc' k)) :
    GrantsNone acc acc' := by
  refine ⟨fun k => ?_, fun k au => ?_⟩
  · have hchange := h k
    unfold Accounts.holder
    generalize acc k = old at hchange ⊢
    generalize acc' k = new at hchange ⊢
    cases hchange with
    | refl => rfl
    | token => rfl
  · have hchange := h k
    unfold Accounts.delegate
    generalize acc k = old at hchange ⊢
    generalize acc' k = new at hchange ⊢
    cases hchange with
    | refl => exact id
    | token owner t amount delegate delegatedAmount hdelegate =>
      rintro rfl
      rcases hdelegate with hsame | hnone
      · exact hsame.symm
      · cases hnone

/-- A move of tokens changes amounts alone. -/
theorem moveTokens_changes {acc acc' : Accounts} {s d : Pubkey} {n : U64}
    (h : moveTokens acc s d n = some acc') (k : Pubkey) : TokenChange (acc k) (acc' k) := by
  obtain ⟨ts, td, hs, hd, -, ⟨-, rfl⟩ | ⟨hne, taken, given, -, -, rfl⟩⟩ := moveTokens_eq_some h
  · exact .refl _
  · have hd' : ((acc.setData s (.token { ts with amount := taken })) d).data = .token td := by
      rw [Accounts.setData, if_neg hne.symm, hd]
    exact (tokenChange_setData hs (.amount _ ts taken) k).trans
      (tokenChange_setData hd' (.amount _ td given) k)

theorem moveTokens_moves {acc acc' : Accounts} {s d : Pubkey} {n : U64}
    (h : moveTokens acc s d n = some acc') : Moves s d n.toNat acc acc' := by
  obtain ⟨ts, td, hs, hd, hle, hcases⟩ := moveTokens_eq_some h
  have hfunded : n.toNat ≤ acc.balance s := by simpa [Accounts.balance, hs] using hle
  rcases hcases with ⟨rfl, rfl⟩ | ⟨hne, taken, given, htaken, hgiven, rfl⟩
  · refine ⟨hfunded, fun _ _ _ => rfl, fun k => ?_⟩
    split <;> omega
  · refine ⟨hfunded, fun k hks hkd => by simp [Accounts.setData, hks, hkd], fun k => ?_⟩
    by_cases hkd : k = d
    · subst hkd
      simp [Accounts.balance, Accounts.setData, hd, Ne.symm hne, hgiven]
    · by_cases hks : k = s
      · subst hks
        simp only [Accounts.balance, Accounts.setData, hs, if_neg hkd, if_true]
        omega
      · simp [Accounts.balance, Accounts.setData, hkd, hks]

theorem mintTokens_balance {acc acc' : Accounts} {m d : Pubkey} {n : U64}
    (h : mintTokens acc m d n = some acc') (k : Pubkey) :
    (acc'.balance k : ℤ) = acc.balance k + (if k = d then (n.toNat : ℤ) else 0) := by
  obtain ⟨tm, td, supply, given, hm, hd, hne, -, hgiven, rfl⟩ := mintTokens_eq_some h
  by_cases hkd : k = d
  · subst hkd
    simp [Accounts.balance, Accounts.setData, hd, hne, hgiven]
  · by_cases hkm : k = m
    · subst hkm
      simp [Accounts.balance, Accounts.setData, hm, hkd]
    · simp [Accounts.balance, Accounts.setData, hkd, hkm]

theorem burnTokens_balance {acc acc' : Accounts} {s m : Pubkey} {n : U64}
    (h : burnTokens acc s m n = some acc') (k : Pubkey) :
    (acc'.balance k : ℤ) = acc.balance k - (if k = s then (n.toNat : ℤ) else 0) := by
  obtain ⟨tm, ts, supply, taken, hm, hs, hne, -, htaken, rfl⟩ := burnTokens_eq_some h
  by_cases hks : k = s
  · subst hks
    simp only [Accounts.balance, Accounts.setData, hs, hne, if_true, if_false]
    omega
  · by_cases hkm : k = m
    · subst hkm
      simp [Accounts.balance, Accounts.setData, hm, hks]
    · simp [Accounts.balance, Accounts.setData, hks, hkm]

/-- What the admission of an authority over `source` leaves of the accounts. -/
structure Admits (source : Pubkey) (acc acc' : Accounts) : Prop where
  changes : ∀ k, TokenChange (acc k) (acc' k)
  other : ∀ k, k ≠ source → acc' k = acc k
  balance : ∀ k, acc'.balance k = acc.balance k

theorem Admits.refl (source : Pubkey) (acc : Accounts) : Admits source acc acc :=
  ⟨fun _ => .refl _, fun _ _ => rfl, fun _ => rfl⟩

theorem Admits.moves {s d : Pubkey} {n : ℕ} {acc acc₁ acc' : Accounts} (h : Admits s acc acc₁)
    (hmoves : Moves s d n acc₁ acc') : Moves s d n acc acc' where
  funded := by
    rw [← h.balance s]
    exact hmoves.funded
  other k hs hd := (hmoves.other k hs hd).trans (h.other k hs)
  balance k := by
    rw [← h.balance k]
    exact hmoves.balance k

/-- An authority is admitted as the delegate, who uses up his approval, or as the holder. -/
theorem authorize_eq_some {acc acc' : Accounts} {s au : Pubkey} {n : U64}
    (h : authorize acc s au n = some acc') : acc.MaySpend s au ∧ Admits s acc acc' := by
  unfold authorize at h
  cases hs : (acc s).data <;> simp only [hs, reduceCtorEq] at h
  rename_i t
  split at h
  next hdelegate =>
    simp only [Option.bind_eq_bind, Option.bind_eq_some_iff, Option.some.injEq] at h
    obtain ⟨rest, -, rfl⟩ := h
    refine ⟨.inr (by simp only [Accounts.delegate, hs, hdelegate]), ?_, fun k hk => ?_, fun k => ?_⟩
    · refine tokenChange_setData hs (.token _ t t.amount _ rest ?_)
      split
      · exact .inr rfl
      · exact .inl rfl
    · rw [Accounts.setData, if_neg hk]
    · by_cases hk : k = s
      · subst hk
        simp [Accounts.balance, Accounts.setData, hs]
      · simp [Accounts.balance, Accounts.setData, hk]
  next =>
    split at h
    next howner =>
      obtain rfl := Option.some.inj h
      exact ⟨.inl (by simp only [Accounts.holder, hs, howner]), .refl s acc⟩
    next => cases h

theorem authorizeBurn_eq_some {acc acc' : Accounts} {s au : Pubkey} {n : U64}
    (h : authorizeBurn acc s au n = some acc') : acc.MayBurn s au ∧ Admits s acc acc' := by
  unfold authorizeBurn at h
  split at h
  next hnobody =>
    obtain rfl := Option.some.inj h
    exact ⟨.inr hnobody, .refl s acc⟩
  next =>
    obtain ⟨hspend, hadmits⟩ := authorize_eq_some h
    exact ⟨.inl hspend, hadmits⟩

/-! ## The exchange -/

/-- Open orders without their free amounts. -/
def withoutFree (o : OpenOrders) : OpenOrders :=
  { o with
    nativeCoinFree := 0
    nativePcFree := 0
    nativeCoinTotal := o.nativeCoinTotal - o.nativeCoinFree
    nativePcTotal := o.nativePcTotal - o.nativePcFree }

/-- Move the free amounts, which are part of the totals, to the wallets that the call names. -/
def settle (acc : Accounts) (s : SettleFunds) : Option Accounts :=
  match (acc s.openOrders).data with
  | .openOrders o =>
    if o.nativeCoinFree ≤ o.nativeCoinTotal ∧ o.nativePcFree ≤ o.nativePcTotal then do
      let acc ← moveTokens acc s.coinVault s.coinWallet o.nativeCoinFree
      let acc ← moveTokens acc s.pcVault s.pcWallet o.nativePcFree
      some (acc.setData s.openOrders (.openOrders (withoutFree o)))
    else none
  | _ => none

/-! ## The environment -/

/-- The result of a call, where only these two programs are deployed. -/
def run (c : Cpi) (acc : Accounts) : Option Accounts :=
  match c.ix with
  | .transfer p s d au n =>
    if p = splTokenId ∧ signs c au then do
      let acc ← authorize acc s au n
      moveTokens acc s d n
    else none
  | .mintTo p m d _ n => if p = splTokenId then mintTokens acc m d n else none
  | .burn p s m au n =>
    if p = splTokenId ∧ signs c au then do
      let acc ← authorizeBurn acc s au n
      burnTokens acc s m n
    else none
  | .cancelOrders o => if o.dexProgram = dex then some acc else none
  | .settleFunds s => if s.dexProgram = dex then settle acc s else none
  | _ => none

/-- The reference runtime. -/
def env : Env where
  createProgramAddress seeds programId := some (createAddress seeds programId)
  findProgramAddress seeds programId := (createAddress (seeds ++ [[255]]) programId, 255)
  rentMinimumBalance _ := 0
  invoke c acc :=
    match run c acc with
    | some acc => .ok acc
    | none => .error .incorrectProgramId
  loadMarket _ acct programId _ :=
    match acct.data with
    | .market m => if acct.owner = programId then .ok m else .error .incorrectProgramId
    | _ => .error .invalidAccountData
  loadOpenOrders _ acct _ _ programId :=
    match acct.data with
    | .openOrders o => if acct.owner = programId then .ok o else .error .incorrectProgramId
    | _ => .error .invalidAccountData
  loadBids _ _ acct :=
    match acct.data with
    | .slab s => .ok s
    | _ => .error .invalidAccountData
  loadAsks _ _ acct :=
    match acct.data with
    | .slab s => .ok s
    | _ => .error .invalidAccountData
  loadEventQueue _ _ acct :=
    match acct.data with
    | .eventQueue q => .ok q
    | _ => .error .invalidAccountData
  tlvUnpack _ := false
  metaListUnpack _ := none
  resolveMeta _ _ _ _ := .error .invalidAccountData
  mintSpace _ _ := none
  metaListSpace _ := .error .invalidAccountData

theorem run_of_invoke {c : Cpi} {acc acc' : Accounts} (h : env.invoke c acc = .ok acc') :
    run c acc = some acc' := by
  simp only [env] at h
  split at h
  next heq =>
    cases h
    exact heq
  next => cases h

section Invoke

variable {p s d m au : Pubkey} {n : U64} {infos : List AccountInfo} {seeds : List (List (List U8))}
  {acc acc' : Accounts}

theorem transfer_of_invoke (h : env.invoke ⟨.transfer p s d au n, infos, seeds⟩ acc = .ok acc') :
    ∃ acc₁, acc.MaySpend s au ∧ Admits s acc acc₁ ∧ moveTokens acc₁ s d n = some acc' := by
  have hrun := run_of_invoke h
  simp only [run] at hrun
  split at hrun
  next =>
    obtain ⟨acc₁, hauthorize, hmove⟩ := Option.bind_eq_some_iff.mp hrun
    obtain ⟨hspend, hadmits⟩ := authorize_eq_some hauthorize
    exact ⟨acc₁, hspend, hadmits, hmove⟩
  next => cases hrun

theorem mintTo_of_invoke (h : env.invoke ⟨.mintTo p m d au n, infos, seeds⟩ acc = .ok acc') :
    mintTokens acc m d n = some acc' := by
  have hrun := run_of_invoke h
  simp only [run] at hrun
  split at hrun
  · exact hrun
  · cases hrun

theorem burn_of_invoke (h : env.invoke ⟨.burn p s m au n, infos, seeds⟩ acc = .ok acc') :
    ∃ acc₁, acc.MayBurn s au ∧ Admits s acc acc₁ ∧ burnTokens acc₁ s m n = some acc' := by
  have hrun := run_of_invoke h
  simp only [run] at hrun
  split at hrun
  next =>
    obtain ⟨acc₁, hauthorize, hburn⟩ := Option.bind_eq_some_iff.mp hrun
    obtain ⟨hmay, hadmits⟩ := authorizeBurn_eq_some hauthorize
    exact ⟨acc₁, hmay, hadmits, hburn⟩
  next => cases hrun

/-- A cancel call changes nothing: the reference exchange keeps the orders out of the accounts. -/
theorem cancelOrders_of_invoke {o : CancelOrders}
    (h : env.invoke ⟨.cancelOrders o, infos, seeds⟩ acc = .ok acc') : acc' = acc := by
  have hrun := run_of_invoke h
  simp only [run] at hrun
  split at hrun
  · exact (Option.some.inj hrun).symm
  · cases hrun

theorem settle_of_invoke {f : SettleFunds}
    (h : env.invoke ⟨.settleFunds f, infos, seeds⟩ acc = .ok acc') : settle acc f = some acc' := by
  have hrun := run_of_invoke h
  simp only [run] at hrun
  split at hrun
  · exact hrun
  · cases hrun

/-- A transfer changes token accounts alone, and gives no one a right to them. -/
theorem transfer_changes (h : env.invoke ⟨.transfer p s d au n, infos, seeds⟩ acc = .ok acc')
    (k : Pubkey) : TokenChange (acc k) (acc' k) := by
  obtain ⟨acc₁, -, hadmits, hmove⟩ := transfer_of_invoke h
  exact (hadmits.changes k).trans (moveTokens_changes hmove k)

end Invoke

theorem exactTokens : ExactTokens env where
  transfer h := by
    obtain ⟨acc₁, -, hadmits, hmove⟩ := transfer_of_invoke h
    exact hadmits.moves (moveTokens_moves hmove)
  mintTo h := mintTokens_balance (mintTo_of_invoke h)
  burn h k := by
    obtain ⟨acc₁, -, hadmits, hburn⟩ := burn_of_invoke h
    rw [← hadmits.balance k]
    exact burnTokens_balance hburn k

theorem tokenSpenders : TokenSpenders env where
  transfer h := by
    obtain ⟨-, hspend, -, -⟩ := transfer_of_invoke h
    exact ⟨hspend, grantsNone (transfer_changes h)⟩
  burn h := by
    obtain ⟨-, hmay, -, -⟩ := burn_of_invoke h
    exact hmay

/-! ## Accounts of a run -/

/-- A token account. -/
def tokenAccount (mint owner : Pubkey) (amount : Nat) : Account :=
  ⟨splTokenId, .token { mint := mint, owner := owner, amount := BitVec.ofNat 64 amount }⟩

/-- A mint account. -/
def mintAccount (supply : Nat) : Account :=
  ⟨splTokenId, .mint { supply := BitVec.ofNat 64 supply, decimals := 0 }⟩

/-- Accounts given by a table; every other key is empty. -/
def accounts (table : List (Nat × Account)) : Accounts := fun k =>
  match table.find? (fun e => key e.1 == k) with
  | some e => e.2
  | none => default

/-- A world before an instruction. -/
def world (table : List (Nat × Account)) : World where
  accounts := accounts table
  clock := ⟨0, 0⟩
  borrowed := []
  inner := []

/-- A writable account. -/
def writable (n : Nat) : AccountInfo := ⟨key n, false, true⟩

/-- A read-only account. -/
def readonly (n : Nat) : AccountInfo := ⟨key n, false, false⟩

/-- A signing wallet. -/
def signer (n : Nat) : AccountInfo := ⟨key n, true, false⟩

/-- The SPL token program. -/
def tokenProgramInfo : AccountInfo := ⟨splTokenId, false, false⟩

/-- The pool authority. -/
def authorityInfo : AccountInfo := ⟨authority, false, false⟩

/-- The exchange. -/
def dexInfo : AccountInfo := ⟨dex, false, false⟩

/-- The accounts of a pool and of a user, as they are given to the creation handler. -/
def creation : InitializeAccounts where
  ammInfo := writable 10
  ammAuthorityInfo := authorityInfo
  ammOpenOrdersInfo := writable 11
  ammTargetOrdersInfo := writable 12
  ammCoinVaultInfo := writable 13
  ammPcVaultInfo := writable 14
  ammLpMintInfo := writable 15
  poolWithdrawQueueInfo := writable 16
  lpWithdrawQueueInfo := writable 16
  marketProgramInfo := dexInfo
  marketInfo := writable 17
  marketBidsInfo := writable 18
  marketAsksInfo := writable 19
  marketEventQueueInfo := writable 20
  marketCoinVaultInfo := writable 21
  marketPcVaultInfo := writable 22
  marketVaultSigner := readonly 23
  tokenProgramInfo := tokenProgramInfo
  systemProgramInfo := ⟨systemProgramId, false, false⟩
  rentInfo := ⟨rentId, false, false⟩
  userWalletInfo := signer 30
  userTokenCoinInfo := writable 31
  userTokenPcInfo := writable 32
  userTokenLpInfo := writable 33
  coinMintInfo := readonly 40
  pcMintInfo := readonly 41
  srmTokenInfo := writable 34
  referrerPcInfo := writable 35

/-- The pool record of these accounts in another status. -/
def pool (status : AmmStatus) (lpAmount : Nat) : AmmInfo :=
  { initialAmmInfo creation ⟨0, 0, 0, 0⟩ (BitVec.ofNat 64 lpAmount) with status := status.intoU64 }

/-- The pool `amm` with `coin` and `pc` in its vaults, and a user with 1000000 of each token. -/
def poolTable (amm : AmmInfo) (coin pc : Nat) : List (Nat × Account) := [
  (10, ⟨program, .amm amm⟩),
  (12, ⟨program, .targetOrders { blankTargetOrders with owner := key 10 }⟩),
  (13, tokenAccount (key 40) authority coin),
  (14, tokenAccount (key 41) authority pc),
  (15, mintAccount amm.lpAmount.toNat),
  (31, tokenAccount (key 40) (key 30) 1000000),
  (32, tokenAccount (key 41) (key 30) 1000000),
  (33, tokenAccount (key 15) (key 30) amm.lpAmount.toNat)]

/-- A pool with the order book off that holds 1000000 coin and 5000000 pc. -/
def swapWorld : World := world (poolTable (pool .swapOnly 1000) 1000000 5000000)

/-- The pool's open orders with `coinFree` and `pcFree` to settle. -/
def openOrders (coinFree pcFree : Nat) (freeSlotBits : U128) : OpenOrders where
  market := key 17
  owner := authority
  nativeCoinFree := BitVec.ofNat 64 coinFree
  nativeCoinTotal := BitVec.ofNat 64 coinFree
  nativePcFree := BitVec.ofNat 64 pcFree
  nativePcTotal := BitVec.ofNat 64 pcFree
  freeSlotBits := freeSlotBits
  isBidBits := BitVec.allOnes 128
  orders _ := 0

/-- The accounts of the exchange, with 100000 of each token in the market's vaults. -/
def exchangeTable (o : OpenOrders) (bids : List (U128 × LeafNode)) : List (Nat × Account) := [
  (11, ⟨dex, .openOrders o⟩),
  (17, ⟨dex, .market ⟨key 40, key 41⟩⟩),
  (18, ⟨dex, .slab ⟨bids⟩⟩),
  (19, ⟨dex, .slab ⟨[]⟩⟩),
  (20, ⟨dex, .eventQueue []⟩),
  (21, tokenAccount (key 40) (key 23) 100000),
  (22, tokenAccount (key 41) (key 23) 100000)]

/-- The world that a run leaves; an empty one where it fails. -/
def result (r : Result World) : World :=
  match r with
  | .ok w => w
  | .error _ => world []

theorem eq_ok_result {r : Result World} (h : r.isOk = true) : r = .ok (result r) := by
  cases r with
  | ok w => rfl
  | error e => cases h

/-- The pool record of an account. -/
def ammAt (w : World) (k : Pubkey) : Option AmmInfo :=
  match (w.accounts k).data with
  | .amm amm => some amm
  | _ => none

theorem data_of_ammAt {w : World} {k : Pubkey} {amm : AmmInfo} (h : ammAt w k = some amm) :
    (w.accounts k).data = .amm amm := by
  unfold ammAt at h
  split at h
  next heq =>
    cases h
    exact heq
  next => cases h

/-- The accounts of a swap between two of the user's token accounts. -/
def swapAccounts (source destination : Nat) : SwapAccounts where
  tokenProgramInfo := tokenProgramInfo
  ammInfo := writable 10
  ammAuthorityInfo := authorityInfo
  ammOpenOrdersInfo := writable 11
  ammCoinVaultInfo := writable 13
  ammPcVaultInfo := writable 14
  ammCoinMintInfo := readonly 40
  ammPcMintInfo := readonly 41
  marketProgramInfo := dexInfo
  marketInfo := writable 17
  marketBidsInfo := writable 18
  marketAsksInfo := writable 19
  marketEventQueueInfo := writable 20
  marketCoinVaultInfo := writable 21
  marketPcVaultInfo := writable 22
  marketVaultSigner := readonly 23
  userSourceInfo := writable source
  userDestinationInfo := writable destination
  userSourceOwner := signer 30

/-- The same accounts in the order of the instruction. -/
def swapInfos (source destination : Nat) : List AccountInfo := [
  tokenProgramInfo, writable 10, authorityInfo, writable 11, writable 13, writable 14, readonly 40,
  readonly 41, dexInfo, writable 17, writable 18, writable 19, writable 20, writable 21,
  writable 22, readonly 23, writable source, writable destination, signer 30]

/-- The accounts of a deposit. -/
def depositAccounts : DepositAccounts where
  tokenProgramInfo := tokenProgramInfo
  ammInfo := writable 10
  ammAuthorityInfo := authorityInfo
  ammOpenOrdersInfo := writable 11
  ammTargetOrdersInfo := writable 12
  ammLpMintInfo := writable 15
  ammCoinVaultInfo := writable 13
  ammPcVaultInfo := writable 14
  marketInfo := writable 17
  userSourceCoinInfo := writable 31
  userSourcePcInfo := writable 32
  userDestLpInfo := writable 33
  sourceOwnerInfo := signer 30
  marketEventQueueInfo := writable 20
  coinMintInfo := readonly 40
  pcMintInfo := readonly 41

/-- The accounts of a withdraw. -/
def withdrawAccounts : WithdrawAccounts where
  tokenProgramInfo := tokenProgramInfo
  ammInfo := writable 10
  ammAuthorityInfo := authorityInfo
  ammOpenOrdersInfo := writable 11
  ammTargetOrdersInfo := writable 12
  ammLpMintInfo := writable 15
  ammCoinVaultInfo := writable 13
  ammPcVaultInfo := writable 14
  ammCoinMintInfo := readonly 40
  ammPcMintInfo := readonly 41
  marketProgramInfo := dexInfo
  marketInfo := writable 17
  marketCoinVaultInfo := writable 21
  marketPcVaultInfo := writable 22
  marketVaultSigner := readonly 23
  userSourceLpInfo := writable 33
  userDestCoinInfo := writable 31
  userDestPcInfo := writable 32
  sourceLpOwnerInfo := signer 30
  marketEventQInfo := writable 20
  marketBidsInfo := writable 18
  marketAsksInfo := writable 19
  referrerPcWallet := none

/-- A pool with a booked profit of 100 pc. -/
def profitPool : AmmInfo :=
  { pool .swapOnly 1000 with
    stateData := { (pool .swapOnly 1000).stateData with totalPnlPc := 100 } }

def profitWorld : World := world (poolTable profitPool 1000000 5000000)

/-- The accounts of a profit withdrawal to the user. -/
def withdrawPnlInfos : List AccountInfo := [
  writable 10, authorityInfo, writable 13, writable 14, writable 31, writable 32,
  tokenProgramInfo, signer 30]

/-- The pool next to an SRM account of the authority with 100 tokens and one of the user. -/
def srmWorld : World :=
  world (poolTable (pool .swapOnly 1000) 1000000 5000000 ++
    [(50, tokenAccount (key 42) authority 100), (51, tokenAccount (key 42) (key 30) 0)])

/-- The accounts of an SRM withdrawal by the user. -/
def srmInfos (source destination : Nat) : List AccountInfo := [
  writable 10, authorityInfo, writable source, writable destination, tokenProgramInfo, signer 30]

/-- The target orders of the pool with a baseline of 5 pc. -/
def baseline : TargetOrders := { blankTargetOrders with owner := key 10, calcPnlX := 5 }

/-- The pool with the order book on, without orders, and with that baseline. -/
def monitorWorld : World :=
  world ((12, ⟨program, .targetOrders baseline⟩) ::
    poolTable (pool .initialized 1000) 1000000 5000000 ++
      exchangeTable (openOrders 0 0 (BitVec.allOnes 128)) [])

/-- The pool with the order book on, with 10 coin and 20 pc to settle. -/
def settleWorld : World :=
  world (poolTable (pool .initialized 1000) 1000000 5000000 ++
    exchangeTable (openOrders 10 20 (BitVec.allOnes 128)) [])

/-- The accounts of a cancel-all. -/
def ordersAccounts : OrdersAccounts where
  ammInfo := writable 10
  ammAuthorityInfo := authorityInfo
  ammOpenOrdersInfo := writable 11
  marketProgramInfo := dexInfo
  marketInfo := writable 17
  marketBidsInfo := writable 18
  marketAsksInfo := writable 19
  marketEventQueueInfo := writable 20
  marketCoinVaultInfo := writable 21
  marketPcVaultInfo := writable 22
  marketVaultSigner := readonly 23
  tokenProgramInfo := tokenProgramInfo
  userWalletInfo := signer 30

/-- The creation of another pool with these vaults. -/
def otherCreation (coinVault pcVault : Nat) : InitializeAccounts :=
  { creation with
    ammInfo := writable 60
    ammOpenOrdersInfo := writable 61
    ammTargetOrdersInfo := writable 62
    ammLpMintInfo := writable 63
    ammCoinVaultInfo := writable coinVault
    ammPcVaultInfo := writable pcVault }

/-- Two pools as they are created: that of `creation`, and another one with these vaults. -/
def twoPools (coinVault pcVault : Nat) : World :=
  world ((60, ⟨program, .amm (initialAmmInfo (otherCreation coinVault pcVault) ⟨0, 0, 0, 0⟩ 1000)⟩) ::
    poolTable (initialAmmInfo creation ⟨0, 0, 0, 0⟩ 1000) 1000000 5000000 ++
      exchangeTable (openOrders 0 0 (BitVec.allOnes 128)) [] ++
      [(64, tokenAccount (key 40) authority 1000), (65, tokenAccount (key 41) authority 1000)])

/-- The accounts of a monitor step. -/
def monitorInfos : List AccountInfo := [
  writable 10, authorityInfo, writable 11, writable 12, writable 13, writable 14, dexInfo,
  writable 17, writable 18, writable 19, writable 20, writable 21, writable 22, readonly 23,
  tokenProgramInfo, signer 30]

end Reference

end RaydiumAmm
