import RaydiumAmm.Codec

/-!
# Byte images

A codec is exact where every input of its width is what it writes for the value that it reads: then
the values and the inputs of that width correspond one to one.

1. `Exact`, for words, pairs and records;
2. arrays.
-/

namespace Codec

open Words

/-- A fixed number of bytes. -/
abbrev Bytes (n : ℕ) : Type := {b : List Byte // b.length = n}

namespace FixedWidth

variable {α β : Type} {c : FixedWidth α} {d : FixedWidth β}

/-! ## 1. Exact codecs -/

/-- An input of the width is written for the value read from it. -/
def Exact (c : FixedWidth α) : Prop := ∀ b : List Byte, b.length = c.width → c.write (c.read b) = b

theorem read_write_self (c : FixedWidth α) (a : α) : c.read (c.write a) = a := by
  have hread := c.read_write a []
  rwa [List.append_nil] at hread

theorem exact_word {n w : ℕ} (h : w = 8 * n) : (word n w h.le).Exact := by
  subst h
  intro b hb
  show leBytes n (ofLeBytes (8 * n) (b.take n)) = b
  have hlen : b.length = n := hb
  have hback := leBytes_ofLeBytes (b := b) (w := 8 * n) (by rw [hlen])
  rw [hlen] at hback
  rw [List.take_of_length_le hlen.le, hback]

/-- A reader of exact codecs takes the front of its input. -/
theorem read_take (c : FixedWidth α) (hc : c.Exact) {b : List Byte} (h : c.width ≤ b.length) :
    c.write (c.read b) = b.take c.width := by
  have hlen : (b.take c.width).length = c.width := by rw [List.length_take, Nat.min_eq_left h]
  have hsplit := c.read_write (c.read (b.take c.width)) (b.drop c.width)
  rw [hc _ hlen, List.take_append_drop] at hsplit
  rw [hsplit, hc _ hlen]

theorem Exact.prod (hc : c.Exact) (hd : d.Exact) : (c.prod d).Exact := by
  intro b hb
  have hsum : b.length = c.width + d.width := hb
  show c.write (c.read b) ++ d.write (d.read (b.drop c.width)) = b
  rw [c.read_take hc (by rw [hsum]; exact Nat.le_add_right _ _),
    hd _ (by rw [List.length_drop, hsum, Nat.add_sub_cancel_left]), List.take_append_drop]

theorem Exact.record {make : α → β} {fields : β → α} (hc : c.Exact)
    (h : ∀ b, make (fields b) = b) (h' : ∀ a, fields (make a) = a) :
    (c.record make fields h).Exact := by
  intro b hb
  show c.write (fields (make (c.read b))) = b
  rw [h', hc b hb]

/-- The values of an exact codec are the inputs of its width. -/
theorem Exact.bijective (hc : c.Exact) :
    Function.Bijective fun a => (⟨c.write a, c.length_write a⟩ : Bytes c.width) := by
  constructor
  · intro a a' h
    have hwrite : c.write a = c.write a' := Subtype.mk.inj h
    rw [← c.read_write_self a, hwrite, c.read_write_self]
  · rintro ⟨b, hb⟩
    exact ⟨c.read b, Subtype.ext (hc b hb)⟩

/-! ## 2. Arrays -/

/-- One item after another. -/
def array (c : FixedWidth α) (n : ℕ) : FixedWidth (Vector α n) where
  width := c.width * n
  write v := v.toList.flatMap c.write
  read b := (Vector.range n).map fun i => c.read ((b.drop (c.width * i)).take c.width)
  length_write v := by rw [length_flatMap_of_width c.length_write, Vector.length_toList]
  read_write v rest := by
    apply Vector.ext
    intro i hi
    have hlen : i < v.toList.length := by rwa [Vector.length_toList]
    have hend : c.width * i + c.width ≤ (v.toList.flatMap c.write).length := by
      rw [length_flatMap_of_width c.length_write, Vector.length_toList, ← Nat.mul_succ]
      exact Nat.mul_le_mul_left _ hi
    rw [Vector.getElem_map, Vector.getElem_range,
      List.drop_append_of_le_length (Nat.le_of_add_right_le hend),
      List.take_append_of_le_length (by rw [List.length_drop]; exact Nat.le_sub_of_add_le' hend),
      take_drop_flatMap c.length_write hlen, c.read_write_self, Vector.getElem_toList]

theorem Exact.array (hc : c.Exact) (n : ℕ) : (c.array n).Exact := by
  intro b hb
  have hsum : b.length = c.width * n := hb
  have hitem : ∀ i ∈ List.range n, c.write (c.read ((b.drop (c.width * i)).take c.width)) =
      (b.drop (c.width * i)).take c.width := by
    intro i hi
    have hend : c.width * i + c.width ≤ b.length := by
      rw [hsum, ← Nat.mul_succ]
      exact Nat.mul_le_mul_left _ (List.mem_range.mp hi)
    apply hc
    rw [List.length_take, List.length_drop]
    exact Nat.min_eq_left (Nat.le_sub_of_add_le' hend)
  calc (c.array n).write ((c.array n).read b)
      = (List.range n).flatMap fun i => c.write (c.read ((b.drop (c.width * i)).take c.width)) := by
        simp only [FixedWidth.array, Vector.toList_map, Vector.toList_range, List.flatMap_map]
    _ = (List.range n).flatMap fun i => (b.drop (c.width * i)).take c.width :=
        List.flatMap_congr hitem
    _ = b.take (c.width * n) := flatMap_take_drop n b
    _ = b := by rw [← hsum, List.take_length]

end FixedWidth

end Codec
