import RaydiumAmm.Words

/-!
# Codecs of records and of texts

1. `FixedWidth`: a value as a fixed number of bytes, the fields of a record one after another. A
   reader takes the value from the front of its input and ignores what follows.
2. `TextCodec`: bytes as a text of printable characters, four for every three bytes;
3. `standard`: the base 64 alphabet with padding is such a codec.
-/

namespace Codec

open Words

/-! ## 1. Records of fixed width -/

/-- A type whose values take `width` bytes each. -/
structure FixedWidth (α : Type) where
  width : ℕ
  write : α → List Byte
  read : List Byte → α
  length_write : ∀ a, (write a).length = width
  read_write : ∀ a rest, read (write a ++ rest) = a

namespace FixedWidth

variable {α β : Type}

/-- Read a value off the front of the input, which must hold one. -/
def deserialize (c : FixedWidth α) (b : List Byte) : Option α :=
  if c.width ≤ b.length then some (c.read b) else none

theorem deserialize_write (c : FixedWidth α) (a : α) : c.deserialize (c.write a) = some a := by
  have hlen : c.width ≤ (c.write a).length := (c.length_write a).ge
  have hread := c.read_write a []
  rw [List.append_nil] at hread
  rw [deserialize, if_pos hlen, hread]

theorem deserialize_of_le (c : FixedWidth α) {b : List Byte} (h : c.width ≤ b.length) :
    c.deserialize b = some (c.read b) := if_pos h

theorem deserialize_of_lt (c : FixedWidth α) {b : List Byte} (h : b.length < c.width) :
    c.deserialize b = none := if_neg (Nat.not_le.mpr h)

/-- A little-endian word. -/
def word (n w : ℕ) (h : w ≤ 8 * n) : FixedWidth (BitVec w) where
  width := n
  write := leBytes n
  read b := ofLeBytes w (b.take n)
  length_write := length_leBytes n
  read_write x rest := by rw [List.take_left' (length_leBytes n x), ofLeBytes_leBytes h]

/-- One field after another. -/
def prod (c : FixedWidth α) (d : FixedWidth β) : FixedWidth (α × β) where
  width := c.width + d.width
  write p := c.write p.1 ++ d.write p.2
  read b := (c.read b, d.read (b.drop c.width))
  length_write p := by rw [List.length_append, c.length_write, d.length_write]
  read_write p rest := by
    have hdrop : (c.write p.1 ++ (d.write p.2 ++ rest)).drop c.width = d.write p.2 ++ rest :=
      List.drop_left' (c.length_write p.1)
    rw [List.append_assoc, c.read_write, hdrop, d.read_write]

/-- A record is written as the tuple of its fields. -/
def record (c : FixedWidth α) (make : α → β) (fields : β → α) (h : ∀ b, make (fields b) = b) :
    FixedWidth β where
  width := c.width
  write b := c.write (fields b)
  read l := make (c.read l)
  length_write b := c.length_write (fields b)
  read_write b rest := by rw [c.read_write, h]

end FixedWidth

/-! ## 2. Bytes as text -/

/-- Bytes written as text, four characters for every three bytes or part of three. -/
structure TextCodec where
  encode : List Byte → List Char
  decode : List Char → Option (List Byte)
  decode_encode : ∀ b, decode (encode b) = some b
  length_encode : ∀ b, (encode b).length = 4 * ((b.length + 2) / 3)

/-! ## 3. The standard alphabet -/

/-- The code of the character of a value below 64: the capitals, the small letters, the digits, `+`
    and `/`. -/
def code (n : ℕ) : ℕ :=
  if n < 26 then 65 + n
  else if n < 52 then 97 + (n - 26)
  else if n < 62 then 48 + (n - 52)
  else if n = 62 then 43
  else 47

def digit (n : ℕ) : Char := Char.ofNat (code n)

/-- The value of the character of a code. -/
def valueOfCode (c : ℕ) : Option ℕ :=
  if 65 ≤ c ∧ c ≤ 90 then some (c - 65)
  else if 97 ≤ c ∧ c ≤ 122 then some (c - 97 + 26)
  else if 48 ≤ c ∧ c ≤ 57 then some (c - 48 + 52)
  else if c = 43 then some 62
  else if c = 47 then some 63
  else none

def value (c : Char) : Option ℕ := valueOfCode c.toNat

theorem code_lt {n : ℕ} (h : n < 64) : code n < 128 := by
  unfold code
  split_ifs <;> omega

theorem toNat_digit {n : ℕ} (h : n < 64) : (digit n).toNat = code n := by
  have hlt := code_lt h
  have hvalid : (code n).isValidChar := Or.inl (by omega)
  rw [digit, Char.ofNat, dif_pos hvalid]
  rfl

theorem valueOfCode_code {n : ℕ} (h : n < 64) : valueOfCode (code n) = some n := by
  have hall : ∀ i : Fin 64, valueOfCode (code i) = some i.val := by decide
  exact hall ⟨n, h⟩

theorem value_digit {n : ℕ} (h : n < 64) : value (digit n) = some n := by
  rw [value, toNat_digit h, valueOfCode_code h]

/-- The padding is no character of the alphabet. -/
theorem digit_ne_pad {n : ℕ} (h : n < 64) : digit n ≠ '=' := by
  intro heq
  have hvalue := value_digit h
  rw [heq] at hvalue
  cases hvalue

/-- The four characters of 24 bits. -/
def quad (n : ℕ) : Char × Char × Char × Char :=
  (digit (n / 2 ^ 18), digit (n / 2 ^ 12 % 64), digit (n / 2 ^ 6 % 64), digit (n % 64))

def encode : List Byte → List Char
  | [] => []
  | [a] =>
    let q := quad (a.toNat * 2 ^ 16)
    [q.1, q.2.1, '=', '=']
  | [a, b] =>
    let q := quad (a.toNat * 2 ^ 16 + b.toNat * 2 ^ 8)
    [q.1, q.2.1, q.2.2.1, '=']
  | a :: b :: c :: rest =>
    let q := quad (a.toNat * 2 ^ 16 + b.toNat * 2 ^ 8 + c.toNat)
    q.1 :: q.2.1 :: q.2.2.1 :: q.2.2.2 :: encode rest

/-- The 24 bits of four characters. -/
def bits (p q r s : Char) : Option ℕ := do
  let i ← value p
  let j ← value q
  let k ← value r
  let l ← value s
  return i * 2 ^ 18 + j * 2 ^ 12 + k * 2 ^ 6 + l

def byteAt (n i : ℕ) : Byte := BitVec.ofNat 8 (n / 2 ^ (8 * i))

/-- Three bytes out of four characters, fewer where the text is padded. Bits that belong to no byte
    must be zero. -/
def decodeQuad (p q r s : Char) : Option (List Byte) :=
  if s ≠ '=' then do
    let n ← bits p q r s
    return [byteAt n 2, byteAt n 1, byteAt n 0]
  else if r ≠ '=' then do
    let n ← bits p q r 'A'
    if n % 2 ^ 8 = 0 then some [byteAt n 2, byteAt n 1] else none
  else do
    let n ← bits p q 'A' 'A'
    if n % 2 ^ 16 = 0 then some [byteAt n 2] else none

/-- Only the last four characters may be padded. -/
def decode : List Char → Option (List Byte)
  | [] => some []
  | p :: q :: r :: s :: rest => do
    if s = '=' ∧ rest ≠ [] then none
    else do
      let front ← decodeQuad p q r s
      let back ← decode rest
      return front ++ back
  | _ => none

theorem bits_quad {n : ℕ} (h : n < 2 ^ 24) :
    bits (quad n).1 (quad n).2.1 (quad n).2.2.1 (quad n).2.2.2 = some n := by
  have hp : value (quad n).1 = some (n / 2 ^ 18) := value_digit (by omega)
  have hq : value (quad n).2.1 = some (n / 2 ^ 12 % 64) := value_digit (by omega)
  have hr : value (quad n).2.2.1 = some (n / 2 ^ 6 % 64) := value_digit (by omega)
  have hs : value (quad n).2.2.2 = some (n % 64) := value_digit (by omega)
  have hsum : n / 2 ^ 18 * 2 ^ 18 + n / 2 ^ 12 % 64 * 2 ^ 12 + n / 2 ^ 6 % 64 * 2 ^ 6 + n % 64 = n :=
    by omega
  simp only [bits, hp, hq, hr, hs, Option.bind_eq_bind, Option.bind_some, Option.pure_def, hsum]

theorem quad_third_ne_pad (n : ℕ) : (quad n).2.2.1 ≠ '=' :=
  digit_ne_pad (Nat.mod_lt _ (by decide))

theorem quad_fourth_ne_pad (n : ℕ) : (quad n).2.2.2 ≠ '=' :=
  digit_ne_pad (Nat.mod_lt _ (by decide))

theorem digit_zero : digit 0 = 'A' := by decide

theorem quad_third_of_eq_zero {n : ℕ} (h : n / 2 ^ 6 % 64 = 0) : (quad n).2.2.1 = 'A' := by
  rw [quad, h, digit_zero]

theorem quad_fourth_of_eq_zero {n : ℕ} (h : n % 64 = 0) : (quad n).2.2.2 = 'A' := by
  rw [quad, h, digit_zero]

theorem byteAt_of_eq {n i : ℕ} {x : Byte} (h : n / 2 ^ (8 * i) % 2 ^ 8 = x.toNat) :
    byteAt n i = x := by
  apply BitVec.eq_of_toNat_eq
  rw [byteAt, BitVec.toNat_ofNat, h]

section Quads

variable {n : ℕ} {a b c : Byte}

theorem decodeQuad_three (hn : n = a.toNat * 2 ^ 16 + b.toNat * 2 ^ 8 + c.toNat) :
    decodeQuad (quad n).1 (quad n).2.1 (quad n).2.2.1 (quad n).2.2.2 = some [a, b, c] := by
  have ha := a.isLt
  have hb := b.isLt
  have hc := c.isLt
  have hbits : bits _ _ _ _ = some n := bits_quad (by omega)
  have h2 : byteAt n 2 = a := byteAt_of_eq (by omega)
  have h1 : byteAt n 1 = b := byteAt_of_eq (by omega)
  have h0 : byteAt n 0 = c := byteAt_of_eq (by omega)
  rw [decodeQuad, if_pos (quad_fourth_ne_pad n), hbits]
  simp only [Option.bind_eq_bind, Option.bind_some, Option.pure_def, h2, h1, h0]

theorem decodeQuad_two (hn : n = a.toNat * 2 ^ 16 + b.toNat * 2 ^ 8) :
    decodeQuad (quad n).1 (quad n).2.1 (quad n).2.2.1 '=' = some [a, b] := by
  have ha := a.isLt
  have hb := b.isLt
  have hbits : bits _ _ _ _ = some n := bits_quad (by omega)
  have h2 : byteAt n 2 = a := byteAt_of_eq (by omega)
  have h1 : byteAt n 1 = b := byteAt_of_eq (by omega)
  have hzero : n % 2 ^ 8 = 0 := by omega
  rw [quad_fourth_of_eq_zero (by omega)] at hbits
  rw [decodeQuad, if_neg (not_not_intro rfl), if_pos (quad_third_ne_pad n), hbits]
  simp only [Option.bind_eq_bind, Option.bind_some, if_pos hzero, h2, h1]

theorem decodeQuad_one (hn : n = a.toNat * 2 ^ 16) :
    decodeQuad (quad n).1 (quad n).2.1 '=' '=' = some [a] := by
  have ha := a.isLt
  have hbits : bits _ _ _ _ = some n := bits_quad (by omega)
  have h2 : byteAt n 2 = a := byteAt_of_eq (by omega)
  have hzero : n % 2 ^ 16 = 0 := by omega
  rw [quad_third_of_eq_zero (by omega), quad_fourth_of_eq_zero (by omega)] at hbits
  rw [decodeQuad, if_neg (not_not_intro rfl), if_neg (not_not_intro rfl), hbits]
  simp only [Option.bind_eq_bind, Option.bind_some, if_pos hzero, h2]

end Quads

theorem decode_encode (b : List Byte) : decode (encode b) = some b := by
  induction b using encode.induct with
  | case1 => rfl
  | case2 a =>
    have hquad := decodeQuad_one (a := a) rfl
    simp only [encode, decode, hquad]
    rfl
  | case3 a b =>
    have hquad := decodeQuad_two (a := a) (b := b) rfl
    simp only [encode, decode, hquad]
    rfl
  | case4 a b c rest ih =>
    have hquad := decodeQuad_three (a := a) (b := b) (c := c) rfl
    have hpad := quad_fourth_ne_pad (a.toNat * 2 ^ 16 + b.toNat * 2 ^ 8 + c.toNat)
    simp only [encode, decode, hquad, hpad, ih]
    rfl

theorem length_encode (b : List Byte) : (encode b).length = 4 * ((b.length + 2) / 3) := by
  induction b using encode.induct with
  | case1 => rfl
  | case2 a => simp [encode]
  | case3 a b => simp [encode]
  | case4 a b c rest ih =>
    simp only [encode, List.length_cons, ih]
    omega

/-- Base 64 with the standard alphabet and padding. -/
def standard : TextCodec where
  encode := encode
  decode := decode
  decode_encode := decode_encode
  length_encode := length_encode

end Codec
