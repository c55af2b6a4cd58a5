import Codemod.Text.Utf8
import Mathlib.Tactic.Common

/-! Bytes that were encoded are decoded to the same text, so different texts have different
bytes. -/

namespace Codemod.Utf8

section Decoding

variable {a b c d : UInt8} (rest : List UInt8) (offset : Nat)

theorem decodeFrom_one (ha : a.toNat < 0x80) :
    decodeFrom offset (a :: rest) =
      (decodeFrom (offset + 1) rest).map (Char.ofNat a.toNat :: ·) := by
  rw [decodeFrom.eq_def]
  simp only [ha, if_true]

theorem decodeFrom_two (ha : 0xC2 ≤ a.toNat ∧ a.toNat < 0xE0) (hb : isTail b) :
    decodeFrom offset (a :: b :: rest) =
      (decodeFrom (offset + 2) rest).map
        (Char.ofNat ((a.toNat - 0xC0) * 64 + low b) :: ·) := by
  have h₁ : ¬ a.toNat < 0x80 := by omega
  have h₂ : ¬ a.toNat < 0xC2 := by omega
  rw [decodeFrom.eq_def]
  simp only [h₁, h₂, ha.2, hb, if_true, if_false]

theorem decodeFrom_three (ha : 0xE0 ≤ a.toNat ∧ a.toNat < 0xF0) (hb : isSecond a b)
    (hc : isTail c) :
    decodeFrom offset (a :: b :: c :: rest) =
      (decodeFrom (offset + 3) rest).map
        (Char.ofNat ((a.toNat - 0xE0) * 4096 + low b * 64 + low c) :: ·) := by
  have h₁ : ¬ a.toNat < 0x80 := by omega
  have h₂ : ¬ a.toNat < 0xC2 := by omega
  have h₃ : ¬ a.toNat < 0xE0 := by omega
  rw [decodeFrom.eq_def]
  simp only [h₁, h₂, h₃, ha.2, hb, hc, if_true, if_false]

theorem decodeFrom_four (ha : 0xF0 ≤ a.toNat ∧ a.toNat < 0xF5) (hb : isSecond a b)
    (hc : isTail c) (hd : isTail d) :
    decodeFrom offset (a :: b :: c :: d :: rest) =
      (decodeFrom (offset + 4) rest).map
        (Char.ofNat
          ((a.toNat - 0xF0) * 262144 + low b * 4096 + low c * 64 + low d) :: ·) := by
  have h₁ : ¬ a.toNat < 0x80 := by omega
  have h₂ : ¬ a.toNat < 0xC2 := by omega
  have h₃ : ¬ a.toNat < 0xE0 := by omega
  have h₄ : ¬ a.toNat < 0xF0 := by omega
  rw [decodeFrom.eq_def]
  simp only [h₁, h₂, h₃, h₄, ha.2, hb, hc, hd, if_true, if_false]

end Decoding

theorem toNat_byte {n : Nat} (h : n < 256) : (UInt8.ofNat n).toNat = n := by
  simp [UInt8.toNat_ofNat', Nat.mod_eq_of_lt h]

theorem isTail_byte {n : Nat} (h : n < 64) : isTail (.ofNat (0x80 + n)) := by
  have byte := toNat_byte (n := 0x80 + n) (by omega)
  simp only [isTail, within, byte, Bool.and_eq_true, decide_eq_true_eq]
  omega

theorem low_byte {n : Nat} (h : n < 64) : low (.ofNat (0x80 + n)) = n := by
  have byte := toNat_byte (n := 0x80 + n) (by omega)
  unfold low
  omega

/-- The second byte tells characters of three and four bytes from shorter ones and from what is
no character. -/
theorem isSecond_byte {m n : Nat} (hm : m < 256) (hn : n < 64)
    (h : (m = 0xE0 → 0x20 ≤ n) ∧ (m = 0xED → n < 0x20) ∧ (m = 0xF0 → 0x10 ≤ n) ∧
      (m = 0xF4 → n < 0x10)) : isSecond (.ofNat m) (.ofNat (0x80 + n)) := by
  have first := toNat_byte hm
  have second := toNat_byte (n := 0x80 + n) (by omega)
  simp only [isSecond, within, first, second, Bool.and_eq_true, decide_eq_true_eq]
  unfold secondRange
  split_ifs <;> simp only <;> omega

theorem ofNat_eq {c : Char} {n : Nat} (h : n = c.toNat) : Char.ofNat n = c := by
  rw [h, Char.ofNat_toNat]

/-- The bytes of a character are read as that character, whatever follows. -/
theorem decodeFrom_encodeChar (c : Char) (rest : List UInt8) (offset : Nat) :
    decodeFrom offset (encodeChar c ++ rest) =
      (decodeFrom (offset + (encodeChar c).length) rest).map (c :: ·) := by
  have valid : c.toNat < 0xD800 ∨ (0xDFFF < c.toNat ∧ c.toNat < 0x110000) := c.valid
  simp only [encodeChar]
  split_ifs with h₁ h₂ h₃
  · have byte := toNat_byte (n := c.toNat) (by omega)
    simp only [List.cons_append, List.nil_append]
    rw [decodeFrom_one rest offset (by omega), byte, Char.ofNat_toNat]
    rfl
  · have byte := toNat_byte (n := 0xC0 + c.toNat / 64) (by omega)
    simp only [List.cons_append, List.nil_append]
    rw [decodeFrom_two rest offset (by omega) (isTail_byte (by omega)), byte, low_byte (by omega),
      ofNat_eq (c := c) (by omega)]
    rfl
  · have byte := toNat_byte (n := 0xE0 + c.toNat / 4096) (by omega)
    simp only [List.cons_append, List.nil_append]
    rw [decodeFrom_three rest offset (by omega) (isSecond_byte (by omega) (by omega) (by omega))
      (isTail_byte (by omega)), byte, low_byte (by omega), low_byte (by omega),
      ofNat_eq (c := c) (by omega)]
    rfl
  · have byte := toNat_byte (n := 0xF0 + c.toNat / 262144) (by omega)
    simp only [List.cons_append, List.nil_append]
    rw [decodeFrom_four rest offset (by omega) (isSecond_byte (by omega) (by omega) (by omega))
      (isTail_byte (by omega)) (isTail_byte (by omega)), byte, low_byte (by omega),
      low_byte (by omega), low_byte (by omega), ofNat_eq (c := c) (by omega)]
    rfl

theorem decodeFrom_encode (text : List Char) (offset : Nat) :
    decodeFrom offset (encode text) = .ok text := by
  induction text generalizing offset with
  | nil => rfl
  | cons c rest ih =>
    rw [encode, List.flatMap_cons, ← encode, decodeFrom_encodeChar, ih]
    rfl

theorem decode_encode (text : List Char) : decode (encode text) = .ok text :=
  decodeFrom_encode text 0

theorem byteLength_append (front back : List Char) :
    byteLength (front ++ back) = byteLength front + byteLength back := by
  induction front with
  | nil => simp [byteLength]
  | cons c front ih =>
    rw [List.cons_append, byteLength, byteLength, ih]
    omega

theorem length_encodeChar (c : Char) : (encodeChar c).length = c.utf8Size := by
  have hval : c.val.toNat = c.toNat := rfl
  simp only [encodeChar, Char.utf8Size, UInt32.le_iff_toNat_le, hval]
  split_ifs <;> simp_all <;> omega

/-- The length of a text in bytes is that of its encoding. -/
theorem length_encode (text : List Char) : (encode text).length = byteLength text := by
  induction text with
  | nil => rfl
  | cons c rest ih =>
    rw [encode, List.flatMap_cons, List.length_append, length_encodeChar, ← encode, ih, byteLength]

end Codemod.Utf8
