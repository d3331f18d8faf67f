import GlulxAsm.Word

/-! Bytes and words determine each other: a word is read back from its bytes wherever they stand, and
a number that fits one or two bytes is not changed by cutting it down to them. -/
namespace GlulxAsm.Word

theorem exists_ofNat? {value : Nat} (fits : value < 0x100000000) :
    ∃ word, ofNat? value = some word ∧ word.toNat = value :=
  ⟨UInt32.ofNat value, if_pos fits, UInt32.toNat_ofNat_of_lt' fits⟩

theorem toNat_ofBytes (a b c d : UInt8) :
    (ofBytes a b c d).toNat =
      a.toNat * 0x1000000 + b.toNat * 0x10000 + c.toNat * 0x100 + d.toNat := by
  have boundB := b.toNat_lt
  have boundC := c.toNat_lt
  have boundD := d.toNat_lt
  have low : c.toNat <<< 8 ||| d.toNat = c.toNat * 2 ^ 8 + d.toNat := by
    rw [← Nat.shiftLeft_add_eq_or_of_lt boundD, Nat.shiftLeft_eq]
  have middle : b.toNat <<< 16 ||| (c.toNat * 2 ^ 8 + d.toNat) =
      b.toNat * 2 ^ 16 + (c.toNat * 2 ^ 8 + d.toNat) := by
    rw [← Nat.shiftLeft_add_eq_or_of_lt (by omega), Nat.shiftLeft_eq]
  have high : a.toNat <<< 24 ||| (b.toNat * 2 ^ 16 + (c.toNat * 2 ^ 8 + d.toNat)) =
      a.toNat * 2 ^ 24 + (b.toNat * 2 ^ 16 + (c.toNat * 2 ^ 8 + d.toNat)) := by
    rw [← Nat.shiftLeft_add_eq_or_of_lt (by omega), Nat.shiftLeft_eq]
  have small (byte : UInt8) (shift : Nat) (bound : shift ≤ 24) :
      byte.toNat <<< shift % 2 ^ 32 = byte.toNat <<< shift := by
    apply Nat.mod_eq_of_lt
    rw [Nat.shiftLeft_eq]
    calc byte.toNat * 2 ^ shift < 2 ^ 8 * 2 ^ shift :=
          Nat.mul_lt_mul_of_pos_right byte.toNat_lt (Nat.two_pow_pos shift)
      _ ≤ 2 ^ 8 * 2 ^ 24 := Nat.mul_le_mul_left _ (Nat.pow_le_pow_right (by decide) bound)
      _ = 2 ^ 32 := by decide
  simp only [ofBytes, UInt32.toNat_or, UInt32.toNat_shiftLeft, UInt8.toNat_toUInt32,
    UInt32.reduceToNat, Nat.reduceMod, Nat.or_assoc]
  rw [small a 24 (by decide), small b 16 (by decide), small c 8 (by decide), low, middle, high]
  omega

@[simp] theorem ofBytes_bytes (word : UInt32) :
    ofBytes (word >>> 24).toUInt8 (word >>> 16).toUInt8 (word >>> 8).toUInt8 word.toUInt8 = word := by
  have bound := word.toNat_lt
  apply UInt32.toNat_inj.mp
  rw [toNat_ofBytes]
  simp [Nat.shiftRight_eq_div_pow]
  omega

/-- A word is read from the place where its bytes stand. -/
theorem read?_of_drop {content rest : List UInt8} {offset : Nat} {word : UInt32}
    (found : content.drop offset = bytes word ++ rest) : read? content offset = some word := by
  rw [read?, found]
  simp [bytes]

/-- The word of a number with a sign is its remainder. -/
theorem toNat_toUInt32 (value : Int32) : (value.toUInt32.toNat : Int) = value.toInt % 0x100000000 := by
  have bound := value.toUInt32.toNat_lt
  have signed : value.toInt = (value.toUInt32.toNat : Int).bmod (0x100000000) :=
    BitVec.toInt_eq_toNat_bmod value.toBitVec
  have same : (value.toUInt32.toNat : Int).bmod (0x100000000) % 0x100000000 =
      value.toUInt32.toNat % 0x100000000 := Int.bmod_emod
  rw [signed, same]
  omega

/-- The low half of a word stands for a word that fits it. -/
theorem ofBytes_halfBytes {word : UInt32} (small : word.toNat ≤ 0xffff) :
    ofBytes 0 0 (word >>> 8).toUInt8 word.toUInt8 = word := by
  apply UInt32.toNat_inj.mp
  rw [toNat_ofBytes]
  simp [Nat.shiftRight_eq_div_pow]
  omega

/-- The low byte of a word stands for a word that fits it. -/
theorem ofBytes_lowByte {word : UInt32} (small : word.toNat ≤ 0xff) :
    ofBytes 0 0 0 word.toUInt8 = word := by
  apply UInt32.toNat_inj.mp
  rw [toNat_ofBytes]
  simp
  omega

theorem signExtend_byte {value : Int32} (least : -128 ≤ value.toInt) (most : value.toInt ≤ 127) :
    value.toUInt32.toUInt8.toInt8.toInt32 = value := by
  have cut : value.toUInt32.toUInt8.toInt8 = value.toInt8 := by
    apply Int8.toBitVec_inj.mp
    simp [BitVec.signExtend_eq_setWidth_of_le]
  apply Int32.toInt_inj.mp
  rw [cut, Int8.toInt_toInt32, Int32.toInt_toInt8]
  exact Int.bmod_eq_of_le (by omega) (by omega)

theorem toUInt16_halfBytes (word : UInt32) :
    (ofBytes 0 0 (word >>> 8).toUInt8 word.toUInt8).toUInt16 = word.toUInt16 := by
  apply UInt16.toNat_inj.mp
  rw [UInt32.toNat_toUInt16, toNat_ofBytes]
  simp [Nat.shiftRight_eq_div_pow]
  omega

theorem signExtend_half {value : Int32} (least : -32768 ≤ value.toInt)
    (most : value.toInt ≤ 32767) : value.toUInt32.toUInt16.toInt16.toInt32 = value := by
  have cut : value.toUInt32.toUInt16.toInt16 = value.toInt16 := by
    apply Int16.toBitVec_inj.mp
    simp [BitVec.signExtend_eq_setWidth_of_le]
  apply Int32.toInt_inj.mp
  rw [cut, Int16.toInt_toInt32, Int32.toInt_toInt16]
  exact Int.bmod_eq_of_le (by omega) (by omega)

end GlulxAsm.Word
