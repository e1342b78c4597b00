import Mathlib.Data.List.Basic
import Mathlib.Tactic.Ring

/-!
# The bytes of a word

Fixed-width words as lists of bytes, in both orders:

1. `leBytes` and `ofLeBytes`, the least significant byte first: a word is read back from its bytes;
2. `ofBeBytes`, the most significant byte first, as the little-endian reading of the reversed list;
3. a list of items of one width, and how each is cut out of it.
-/

namespace Words

variable {w n i : ℕ}

abbrev Byte := BitVec 8

/-! ## 1. Least significant byte first -/

/-- The first `n` bytes of a word. -/
def leBytes (n : ℕ) (x : BitVec w) : List Byte :=
  (List.range n).map fun i => x.extractLsb' (8 * i) 8

/-- The word that a list of bytes spells; bits from `w` on are dropped. -/
def ofLeBytes (w : ℕ) (b : List Byte) : BitVec w :=
  b.foldr (fun x acc => acc <<< 8 ||| x.setWidth w) 0

@[simp] theorem length_leBytes (n : ℕ) (x : BitVec w) : (leBytes n x).length = n := by
  simp [leBytes]

theorem ofLeBytes_cons (x : Byte) (b : List Byte) :
    ofLeBytes w (x :: b) = ofLeBytes w b <<< 8 ||| x.setWidth w := rfl

/-- A bit of the word is a bit of the byte that holds it. -/
theorem getLsbD_ofLeBytes (b : List Byte) (i : ℕ) :
    (ofLeBytes w b).getLsbD i = (decide (i < w) && (b.getD (i / 8) 0).getLsbD (i % 8)) := by
  induction b generalizing i with
  | nil => simp [ofLeBytes]
  | cons x rest ih =>
    rw [ofLeBytes_cons, BitVec.getLsbD_or, BitVec.getLsbD_shiftLeft, BitVec.getLsbD_setWidth]
    by_cases hi : i < 8
    · simp [hi, Nat.div_eq_of_lt hi, Nat.mod_eq_of_lt hi]
    · obtain ⟨j, rfl⟩ := Nat.exists_eq_add_of_le (Nat.le_of_not_lt hi)
      have hbyte : x.getLsbD (8 + j) = false := BitVec.getLsbD_of_ge x _ (by omega)
      have hdiv : (8 + j) / 8 = j / 8 + 1 := by omega
      have hmod : (8 + j) % 8 = j % 8 := by omega
      rw [hbyte, hdiv, hmod, Nat.add_sub_cancel_left, ih, List.getD_cons_succ]
      by_cases hw : 8 + j < w
      · have hj : j < w := by omega
        simp [hw, hj]
      · simp [hw]

/-- A word is read back from its bytes. -/
theorem ofLeBytes_leBytes (h : w ≤ 8 * n) (x : BitVec w) : ofLeBytes w (leBytes n x) = x := by
  apply BitVec.eq_of_getLsbD_eq
  intro i hi
  have hbyte : i / 8 < n := by omega
  have hbit : 8 * (i / 8) + i % 8 = i := by omega
  rw [getLsbD_ofLeBytes, leBytes, List.getD_eq_getElem?_getD,
    List.getElem?_eq_getElem (by simpa using hbyte), Option.getD_some, List.getElem_map,
    List.getElem_range, BitVec.getLsbD_extractLsb', hbit]
  simp [hi, Nat.mod_lt]

/-- Bytes are written back from the word that they spell. -/
theorem leBytes_ofLeBytes {b : List Byte} (h : 8 * b.length ≤ w) :
    leBytes b.length (ofLeBytes w b) = b := by
  refine List.ext_getElem (by simp) fun i _ hi => ?_
  simp only [leBytes, List.getElem_map, List.getElem_range]
  apply BitVec.eq_of_getLsbD_eq
  intro j hj
  have hdiv : (8 * i + j) / 8 = i := by omega
  have hmod : (8 * i + j) % 8 = j := by omega
  have hw : 8 * i + j < w := by omega
  rw [BitVec.getLsbD_extractLsb', getLsbD_ofLeBytes, hdiv, hmod, List.getD_eq_getElem?_getD,
    List.getElem?_eq_getElem hi, Option.getD_some]
  simp [hj, hw]

/-! ## 2. Most significant byte first -/

/-- The word that a list of bytes spells, the first byte being the most significant one. -/
def ofBeBytes (w : ℕ) (b : List Byte) : BitVec w :=
  b.foldl (fun acc x => acc <<< 8 ||| x.setWidth w) 0

theorem ofBeBytes_eq (b : List Byte) : ofBeBytes w b = ofLeBytes w b.reverse := by
  simp [ofBeBytes, ofLeBytes]

theorem ofBeBytes_reverse_leBytes (h : w ≤ 8 * n) (x : BitVec w) :
    ofBeBytes w (leBytes n x).reverse = x := by
  rw [ofBeBytes_eq, List.reverse_reverse, ofLeBytes_leBytes h]

theorem reverse_leBytes_ofBeBytes {b : List Byte} (h : 8 * b.length ≤ w) :
    (leBytes b.length (ofBeBytes w b)).reverse = b := by
  have hback := leBytes_ofLeBytes (b := b.reverse) (w := w) (by rwa [List.length_reverse])
  rw [List.length_reverse] at hback
  rw [ofBeBytes_eq, hback, List.reverse_reverse]

/-! ## 3. Items of one width -/

section Items

variable {α β : Type} {f : α → List β}

theorem length_flatMap_of_width (hf : ∀ a, (f a).length = n) (l : List α) :
    (l.flatMap f).length = n * l.length := by
  induction l with
  | nil => simp
  | cons a rest ih => rw [List.flatMap_cons, List.length_append, hf, ih, List.length_cons]; ring

/-- The item at an index lies at the multiple of the width. -/
theorem take_drop_flatMap (hf : ∀ a, (f a).length = n) {l : List α} (hi : i < l.length) :
    ((l.flatMap f).drop (n * i)).take n = f l[i] := by
  induction l generalizing i with
  | nil => exact absurd hi (Nat.not_lt_zero i)
  | cons a rest ih =>
    cases i with
    | zero => simp [List.take_left' (hf a)]
    | succ k =>
      have hdrop : (f a ++ rest.flatMap f).drop (n * (k + 1)) = (rest.flatMap f).drop (n * k) := by
        rw [Nat.mul_succ, Nat.add_comm, ← List.drop_drop, List.drop_left' (hf a)]
      rw [List.flatMap_cons, hdrop, List.getElem_cons_succ]
      exact ih (Nat.lt_of_succ_lt_succ hi)

/-- A list is made of its pieces of one width. -/
theorem flatMap_take_drop (k : ℕ) (l : List β) :
    ((List.range k).flatMap fun i => (l.drop (n * i)).take n) = l.take (n * k) := by
  induction k with
  | zero => simp
  | succ k ih =>
    rw [List.range_succ, List.flatMap_append, ih, List.flatMap_singleton, Nat.mul_succ,
      List.take_add]

end Items

end Words
