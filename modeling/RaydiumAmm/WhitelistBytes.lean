import Mathlib.Data.List.GetD
import RaydiumAmm.RoundTrip
import RaydiumAmm.Roster

/-!
# The whitelist as a roster

1. The account bytes of a whitelist: what `pack_into_slice` writes `Pack::unpack` reads back, where
   the authority is not the zero key.
2. `ofRoster`: the record that holds a roster of hooks.
3. The methods of the record are the updates of the roster.
-/

namespace RaydiumAmm

namespace HookWhitelist

/-! ## 1. Bytes -/

theorem length_pack (s : HookWhitelist) : s.pack.length = HOOK_WHITELIST_LEN := by
  have hhooks := Words.length_flatMap_of_width Pubkey.length_toBytes s.hooks.toList
  simp only [pack, List.length_append, Pubkey.length_toBytes, hhooks, Vector.length_toList]
  rfl

theorem take_pack (s : HookWhitelist) : s.pack.take 32 = s.authority.toBytes := by
  rw [pack, List.append_assoc, List.take_left' s.authority.length_toBytes]

theorem drop_pack (s : HookWhitelist) :
    s.pack.drop 32 = s.hookCount.toLeBytes ++ s.hooks.toList.flatMap Pubkey.toBytes := by
  rw [pack, List.append_assoc, List.drop_left' s.authority.length_toBytes]

theorem count_pack (s : HookWhitelist) :
    U32.ofLeBytes ((s.pack.drop 32).take 4) = s.hookCount := by
  have hlen : s.hookCount.toLeBytes.length = 4 := rfl
  rw [drop_pack, List.take_left' hlen]
  exact Words.ofLeBytes_leBytes (n := 4) (by decide) s.hookCount

theorem hook_pack (s : HookWhitelist) (i : Fin MAX_HOOKS) :
    Pubkey.ofBytes ((s.pack.drop (36 + i.val * 32)).take 32) = s.hooks[i] := by
  have hlen : s.hookCount.toLeBytes.length = 4 := rfl
  have hi : i.val < s.hooks.toList.length := by simp
  have hdrop : s.pack.drop (36 + i.val * 32) =
      (s.hooks.toList.flatMap Pubkey.toBytes).drop (32 * i.val) := by
    have hsum : 36 + i.val * 32 = 32 + (4 + 32 * i.val) := by omega
    rw [hsum, ← List.drop_drop, drop_pack, ← List.drop_drop, List.drop_left' hlen]
  rw [hdrop, Words.take_drop_flatMap Pubkey.length_toBytes hi, Pubkey.ofBytes_toBytes]
  simp

/-- A record is read back from its bytes unless its authority is the zero key. -/
theorem unpack_pack {s : HookWhitelist} (h : s.authority ≠ Pubkey.default) :
    unpack s.pack = .ok s := by
  have hhooks : (Vector.ofFn fun i : Fin MAX_HOOKS =>
      Pubkey.ofBytes ((s.pack.drop (36 + i.val * 32)).take 32)) = s.hooks := by
    refine Vector.ext fun i hi => ?_
    rw [Vector.getElem_ofFn]
    exact hook_pack s ⟨i, hi⟩
  simp only [unpack, take_pack, Pubkey.ofBytes_toBytes, count_pack, hhooks,
    Outcome.require_pos s.length_pack, Outcome.ok_bind, dif_pos s.count_le,
    Outcome.require_pos h]
  rfl

/-- The bytes of a record without an authority are refused. -/
theorem unpack_pack_default {s : HookWhitelist} (h : s.authority = Pubkey.default) :
    unpack s.pack = Outcome.fail .uninitializedAccount := by
  have hne : ¬(s.authority ≠ Pubkey.default) := fun hne => hne h
  simp only [unpack, take_pack, Pubkey.ofBytes_toBytes, count_pack,
    Outcome.require_pos s.length_pack, Outcome.ok_bind, dif_pos s.count_le,
    Outcome.require_neg hne]
  rfl

/-- The bytes of a record are read back exactly where the authority is not the zero key. -/
theorem unpack_pack_isOk_iff (s : HookWhitelist) :
    (∃ s', unpack s.pack = .ok s') ↔ s.authority ≠ Pubkey.default := by
  constructor
  · rintro ⟨s', hs'⟩ hdefault
    rw [unpack_pack_default hdefault] at hs'
    exact Outcome.fail_ne_ok hs'
  · intro h
    exact ⟨s, unpack_pack h⟩

/-! ## 2. The record of a roster -/

/-- The hooks that a whitelist can hold. -/
abbrev Hooks := Roster Pubkey MAX_HOOKS

/-- The slots of a record agree where they agree at every index. -/
theorem hooks_ext {v v' : Vector Pubkey MAX_HOOKS}
    (h : ∀ j, v.toList.getD j Pubkey.default = v'.toList.getD j Pubkey.default) : v = v' := by
  refine Vector.ext fun i hi => ?_
  have hslot := h i
  rw [List.getD_eq_getElem _ _ (by simpa using hi), List.getD_eq_getElem _ _ (by simpa using hi)]
    at hslot
  simpa using hslot

/-- The record with the members of `r` in its first slots and zero keys in the others. -/
def ofRoster (authority : Pubkey) (r : Hooks) : HookWhitelist where
  authority := authority
  hookCount := BitVec.ofNat 32 r.members.length
  hooks := Vector.ofFn fun i => r.members.getD i Pubkey.default
  count_le := by
    rw [BitVec.toNat_ofNat]
    exact le_trans (Nat.mod_le _ _) r.length_le

variable {authority : Pubkey} {r r' : Hooks} {h : Pubkey}

@[simp] theorem authority_ofRoster : (ofRoster authority r).authority = authority := rfl

@[simp] theorem count_ofRoster : (ofRoster authority r).hookCount.toNat = r.members.length := by
  have hlt : r.members.length < 2 ^ 32 := lt_of_le_of_lt r.length_le (by decide)
  rw [ofRoster, BitVec.toNat_ofNat, Nat.mod_eq_of_lt hlt]

@[simp] theorem getD_ofRoster (j : ℕ) :
    (ofRoster authority r).hooks.toList.getD j Pubkey.default =
      r.members.getD j Pubkey.default := by
  by_cases hj : j < MAX_HOOKS
  · rw [List.getD_eq_getElem _ _ (by simpa using hj)]
    simp [ofRoster]
  · have hlen : r.members.length ≤ j := r.length_le.trans (Nat.le_of_not_lt hj)
    rw [List.getD_eq_default _ _ (by simpa using hj), List.getD_eq_default _ _ hlen]

/-- A record is that of a roster where its fields are. -/
theorem eq_ofRoster {s : HookWhitelist} (hauthority : s.authority = authority)
    (hcount : s.hookCount.toNat = r.members.length)
    (hhooks : ∀ j, s.hooks.toList.getD j Pubkey.default = r.members.getD j Pubkey.default) :
    s = ofRoster authority r := by
  obtain ⟨a, count, hooks, hle⟩ := s
  have hcount' : count = (ofRoster authority r).hookCount :=
    BitVec.eq_of_toNat_eq (by rw [count_ofRoster]; exact hcount)
  have hhooks' : hooks = (ofRoster authority r).hooks :=
    hooks_ext fun j => by rw [getD_ofRoster]; exact hhooks j
  simp only [ofRoster, mk.injEq]
  exact ⟨hauthority, hcount', hhooks'⟩

theorem ofRoster_empty : ofRoster authority Roster.empty = empty authority := by
  have hcount : (empty authority).hookCount.toNat = (Roster.empty : Hooks).members.length := rfl
  refine (eq_ofRoster rfl hcount fun j => ?_).symm
  simp [empty, Roster.empty]

/-! ## 3. The methods -/

/-- `contains_hook` is membership. -/
theorem containsHook_ofRoster :
    (ofRoster authority r).containsHook h = decide (h ∈ r.members) := by
  have hiff : (ofRoster authority r).containsHook h = true ↔ h ∈ r.members := by
    simp only [containsHook, List.any_eq_true, List.mem_range, count_ofRoster, getD_ofRoster,
      beq_iff_eq]
    constructor
    · rintro ⟨i, hi, rfl⟩
      rw [List.getD_eq_getElem _ _ hi]
      exact List.getElem_mem hi
    · intro hmem
      obtain ⟨i, hi, rfl⟩ := List.getElem_of_mem hmem
      exact ⟨i, hi, List.getD_eq_getElem _ _ hi⟩
  by_cases hmem : h ∈ r.members
  · simp [hmem, hiff.mpr hmem]
  · simpa [hmem] using fun htrue => hmem (hiff.mp htrue)

theorem getD_set {l : List Pubkey} {i j : ℕ} {x : Pubkey} (hi : i < l.length) :
    (l.set i x).getD j Pubkey.default = if j = i then x else l.getD j Pubkey.default := by
  rw [List.getD_eq_getElem?_getD, List.getElem?_set]
  by_cases hj : j = i
  · subst hj
    simp [hi]
  · simp [hj, Ne.symm hj, List.getD_eq_getElem?_getD]

theorem getD_concat {l : List Pubkey} {j : ℕ} {x : Pubkey} :
    (l ++ [x]).getD j Pubkey.default =
      if j = l.length then x else l.getD j Pubkey.default := by
  rcases lt_trichotomy j l.length with hj | hj | hj
  · rw [List.getD_append _ _ _ _ hj, if_neg hj.ne]
  · subst hj
    simp
  · have hlen : (l ++ [x]).length ≤ j := by rw [List.length_append]; exact hj
    rw [if_neg hj.ne', List.getD_eq_default _ _ hlen, List.getD_eq_default _ _ hj.le]

/-- The error that a refused update gives. -/
def refusalError : Roster.Refusal → AmmError
  | .present => .invalidWhitelistAccount
  | .full => .whitelistFull
  | .absent => .transferHookNotWhitelisted

/-- The outcome of a method by the outcome of the update. -/
def ofUpdate (authority : Pubkey) : Except Roster.Refusal Hooks → Result HookWhitelist
  | .ok r => .ok (ofRoster authority r)
  | .error e => Outcome.fail (refusalError e).into

/-- `add_hook` appends. -/
theorem addHook_ofRoster : (ofRoster authority r).addHook h = ofUpdate authority (r.add h) := by
  by_cases hmem : h ∈ r.members
  · have hadd : r.add h = .error .present := by rw [Roster.add, dif_pos hmem]
    rw [hadd, addHook, containsHook_ofRoster]
    simp [hmem, check, Outcome.require, ofUpdate, refusalError, Outcome.fail]
  · have hcheck : check ((ofRoster authority r).containsHook h = false)
        .invalidWhitelistAccount = .ok () := by
      rw [check_eq_ok, containsHook_ofRoster]
      simpa using hmem
    rw [addHook, hcheck, Outcome.ok_bind]
    by_cases hlen : r.members.length < MAX_HOOKS
    · obtain ⟨r', hadd⟩ : ∃ r', r.add h = .ok r' :=
        ⟨_, by rw [Roster.add, dif_neg hmem, dif_pos hlen]⟩
      obtain ⟨-, -, hmembers⟩ := Roster.add_eq_ok.mp hadd
      have hslot : (ofRoster authority r).hookCount.toNat < MAX_HOOKS := by rwa [count_ofRoster]
      rw [dif_pos hslot, hadd]
      refine congrArg Except.ok (eq_ofRoster rfl ?_ fun j => ?_)
      · have hle : r.members.length + 1 < 2 ^ 32 := lt_of_le_of_lt hlen (by decide)
        rw [BitVec.toNat_add, count_ofRoster, hmembers, List.length_append]
        exact Nat.mod_eq_of_lt hle
      · have hin : r.members.length < (ofRoster authority r).hooks.toList.length := by
          simpa using hlen
        simp only [Vector.toList_set, count_ofRoster, hmembers, getD_set hin, getD_ofRoster,
          getD_concat]
    · have hadd : r.add h = .error .full := by rw [Roster.add, dif_neg hmem, dif_neg hlen]
      have hslot : ¬(ofRoster authority r).hookCount.toNat < MAX_HOOKS := by rwa [count_ofRoster]
      rw [dif_neg hslot, hadd]
      rfl

/-- The index the removal finds is the hook's index in the roster. -/
theorem findHook_ofRoster (hmem : h ∈ r.members) :
    (ofRoster authority r).findHook h = some (r.members.idxOf h) := by
  have hlt : r.members.idxOf h < r.members.length := List.idxOf_lt_length_of_mem hmem
  rw [findHook, List.find?_range_eq_some, count_ofRoster]
  refine ⟨?_, List.mem_range.mpr hlt, fun j hj => ?_⟩
  · rw [getD_ofRoster, List.getD_eq_getElem _ _ hlt]
    simp
  · have hjlt : j < r.members.length := hj.trans hlt
    rw [getD_ofRoster, List.getD_eq_getElem _ _ hjlt]
    simpa using List.not_of_lt_findIdx hj

theorem getD_setIfInBounds {v : Vector Pubkey MAX_HOOKS} {i j : ℕ} {x : Pubkey}
    (hi : i < MAX_HOOKS) :
    (v.setIfInBounds i x).toList.getD j Pubkey.default =
      if j = i then x else v.toList.getD j Pubkey.default := by
  rw [Vector.toList_setIfInBounds, getD_set (by simpa using hi)]

/-- After `n` turns of the shift loop from `start` the slots from there on hold their successors. -/
theorem getD_foldl_shiftHook {v : Vector Pubkey MAX_HOOKS} {start n : ℕ}
    (hn : start + n ≤ MAX_HOOKS) (j : ℕ) :
    ((List.range' start n).foldl shiftHook v).toList.getD j Pubkey.default =
      if start ≤ j ∧ j < start + n then v.toList.getD (j + 1) Pubkey.default
      else v.toList.getD j Pubkey.default := by
  induction n generalizing j with
  | zero => simp
  | succ n ih =>
    have hlast : start + n < MAX_HOOKS := by omega
    rw [List.range'_concat, List.foldl_append, List.foldl_cons, List.foldl_nil, Nat.one_mul,
      shiftHook, getD_setIfInBounds hlast, ih (by omega), ih (by omega)]
    by_cases hj : j = start + n
    · subst hj
      simp
    · have hiff : (start ≤ j ∧ j < start + (n + 1)) ↔ (start ≤ j ∧ j < start + n) := by omega
      rw [if_neg hj, if_congr hiff rfl rfl]

/-- The members after a removal, slot by slot. -/
theorem getD_erase {l : List Pubkey} (h : Pubkey) (j : ℕ) :
    (l.erase h).getD j Pubkey.default =
      if j < l.idxOf h then l.getD j Pubkey.default else l.getD (j + 1) Pubkey.default := by
  rw [List.erase_eq_eraseIdx_of_idxOf rfl, List.getD_eq_getElem?_getD, List.getElem?_eraseIdx]
  split <;> rw [List.getD_eq_getElem?_getD]

/-- `remove_hook` erases: the slots behind the hook move up and the last one is cleared. -/
theorem removeHook_ofRoster :
    (ofRoster authority r).removeHook h = ofUpdate authority (r.remove h) := by
  by_cases hmem : h ∈ r.members
  · obtain ⟨r', hremove⟩ : ∃ r', r.remove h = .ok r' := ⟨_, by rw [Roster.remove, if_pos hmem]⟩
    obtain ⟨-, hmembers⟩ := Roster.remove_eq_ok.mp hremove
    have hindex : r.members.idxOf h < r.members.length := List.idxOf_lt_length_of_mem hmem
    have hle : r.members.length ≤ MAX_HOOKS := r.length_le
    rw [removeHook, findHook_ofRoster hmem, hremove]
    refine congrArg Except.ok (eq_ofRoster rfl ?_ fun j => ?_)
    · have hlt : r.members.length - 1 < 2 ^ 32 :=
        lt_of_le_of_lt (Nat.sub_le _ _) (lt_of_le_of_lt hle (by decide))
      rw [BitVec.toNat_ofNat, count_ofRoster, hmembers, List.length_erase_of_mem hmem]
      exact Nat.mod_eq_of_lt hlt
    · have hlast : r.members.length - 1 < MAX_HOOKS := by omega
      have hshift : r.members.idxOf h + (r.members.length - 1 - r.members.idxOf h) ≤ MAX_HOOKS := by
        omega
      simp only [count_ofRoster, getD_setIfInBounds hlast, getD_foldl_shiftHook hshift,
        getD_ofRoster, hmembers, getD_erase]
      rcases lt_trichotomy j (r.members.length - 1) with hj | hj | hj
      · by_cases hji : j < r.members.idxOf h
        · rw [if_neg hj.ne, if_neg (by omega), if_pos hji]
        · rw [if_neg hj.ne, if_pos (by omega), if_neg hji]
      · rw [if_pos hj, if_neg (by omega), List.getD_eq_default _ _ (by omega)]
      · rw [if_neg hj.ne', if_neg (by omega), if_neg (by omega),
          List.getD_eq_default _ _ (by omega), List.getD_eq_default _ _ (by omega)]
  · have hremove : r.remove h = .error .absent := by rw [Roster.remove, if_neg hmem]
    have hfind : (ofRoster authority r).findHook h = none := by
      rw [findHook, List.find?_range_eq_none]
      intro i hi
      rw [count_ofRoster] at hi
      rw [getD_ofRoster, List.getD_eq_getElem _ _ hi]
      have hne : r.members[i] ≠ h := fun heq => hmem (heq ▸ List.getElem_mem hi)
      simpa using hne
    rw [removeHook, hfind, hremove]
    rfl

end HookWhitelist

end RaydiumAmm
