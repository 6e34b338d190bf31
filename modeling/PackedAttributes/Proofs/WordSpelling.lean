import PackedAttributes.Bytes.Basic

/-! Words and their bytes determine one another. Every block of the right width is the spelling of
exactly one number, so a word that was read can be replaced by the bytes that spell it. -/
namespace PackedAttributes.WordSpelling
open Bytes

/-! ## Numbers and bytes -/

/-- How many numbers bytes of a width can spell. -/
def numberCount : Nat → Nat
  | 0 => 1
  | width + 1 => 256 * numberCount width

@[simp] theorem spelled_length (width n : Nat) : (ofNatLittleEndian width n).length = width := by
  induction width generalizing n with
  | zero => rfl
  | succ width ih => simp [ofNatLittleEndian, ih]

theorem little_endian_spelled (width n : Nat) :
    (ofNatLittleEndian width n).littleEndian = n % numberCount width := by
  induction width generalizing n with
  | zero => simp [ofNatLittleEndian, littleEndian, numberCount, Nat.mod_one]
  | succ width ih =>
    rw [ofNatLittleEndian, littleEndian, ih, numberCount, Nat.mod_mul]
    simp

theorem little_endian_lt (bytes : Bytes) : bytes.littleEndian < numberCount bytes.length := by
  induction bytes with
  | nil => simp [littleEndian, numberCount]
  | cons byte rest ih =>
    have small := byte.toNat_lt
    rw [littleEndian, List.length_cons, numberCount]
    omega

/-- Spelling the number that bytes spell gives the bytes back. -/
theorem spelled_little_endian (bytes : Bytes) :
    ofNatLittleEndian bytes.length bytes.littleEndian = bytes := by
  induction bytes with
  | nil => rfl
  | cons byte rest ih =>
    have small := byte.toNat_lt
    have quotient : (byte.toNat + 256 * littleEndian rest) / 256 = littleEndian rest := by omega
    have low : UInt8.ofNat (byte.toNat + 256 * littleEndian rest) = byte := by
      apply UInt8.toNat_inj.mp
      simp only [UInt8.toNat_ofNat']
      omega
    simp only [List.length_cons, littleEndian, ofNatLittleEndian, quotient, low, ih]

/-- Bytes of a known width spell a number exactly when they are its spelling. -/
theorem little_endian_eq_iff {bytes : Bytes} {width n : Nat} (length : bytes.length = width)
    (small : n < numberCount width) :
    bytes.littleEndian = n ↔ bytes = ofNatLittleEndian width n := by
  constructor
  · rintro rfl
    rw [← length, spelled_little_endian]
  · rintro rfl
    rw [little_endian_spelled, Nat.mod_eq_of_lt small]

/-! ## Words -/

@[simp] theorem of_word32_length (word : UInt32) : (ofWord32 word).length = 4 :=
  spelled_length ..

@[simp] theorem of_word64_length (word : UInt64) : (ofWord64 word).length = 8 :=
  spelled_length ..

@[simp] theorem of_int32_length (word : Int32) : (ofInt32 word).length = 4 :=
  spelled_length ..

@[simp] theorem of_int64_length (word : Int64) : (ofInt64 word).length = 8 :=
  spelled_length ..

theorem word32_eq_iff {bytes : Bytes} (length : bytes.length = 4) (word : UInt32) :
    UInt32.ofNat bytes.littleEndian = word ↔ bytes = ofWord32 word := by
  have bound := little_endian_lt bytes
  rw [length] at bound
  rw [ofWord32, ← little_endian_eq_iff length word.toNat_lt, ← UInt32.toNat_inj,
    UInt32.toNat_ofNat_of_lt' bound]

theorem word64_eq_iff {bytes : Bytes} (length : bytes.length = 8) (word : UInt64) :
    UInt64.ofNat bytes.littleEndian = word ↔ bytes = ofWord64 word := by
  have bound := little_endian_lt bytes
  rw [length] at bound
  rw [ofWord64, ← little_endian_eq_iff length word.toNat_lt, ← UInt64.toNat_inj,
    UInt64.toNat_ofNat_of_lt' bound]

theorem int32_eq_iff {bytes : Bytes} (length : bytes.length = 4) (word : Int32) :
    (UInt32.ofNat bytes.littleEndian).toInt32 = word ↔ bytes = ofInt32 word := by
  rw [ofInt32, ← word32_eq_iff length]
  exact ⟨fun same => same ▸ rfl, fun same => same ▸ rfl⟩

end PackedAttributes.WordSpelling
