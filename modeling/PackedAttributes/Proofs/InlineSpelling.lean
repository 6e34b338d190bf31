import PackedAttributes.Proofs.FieldMeaning

/-! Inline fields lose nothing. A field is read exactly where all of its bytes lie, and the value that
was read spells these bytes again. Only an access mask forgets something: the bits that tell the type
of the file. -/
namespace PackedAttributes.InlineSpelling
open Bytes WordSpelling ExactReading FieldMeaning ActivityOutcomes

/-! ## Bits of words -/

/-- Bits that two numbers share are shared byte by byte. -/
theorem spelled_and (width n m : Nat) : ofNatLittleEndian width (n &&& m) =
    List.zipWith (· &&& ·) (ofNatLittleEndian width n) (ofNatLittleEndian width m) := by
  induction width generalizing n m with
  | zero => rfl
  | succ width ih =>
    have quotient : (n &&& m) / 256 = n / 256 &&& m / 256 := Nat.and_div_two_pow (n := 8)
    have low : UInt8.ofNat (n &&& m) = UInt8.ofNat n &&& UInt8.ofNat m := UInt8.ofNat_and ..
    simp only [ofNatLittleEndian, List.zipWith_cons_cons, quotient, low, ih]

theorem word32_and (word mask : UInt32) :
    ofWord32 (word &&& mask) = List.zipWith (· &&& ·) (ofWord32 word) (ofWord32 mask) := by
  rw [ofWord32, UInt32.toNat_and, spelled_and]
  rfl

theorem word32_injective {word other : UInt32} (same : ofWord32 word = ofWord32 other) :
    word = other := by
  have length := of_word32_length word
  rw [← (word32_eq_iff length word).mpr rfl]
  exact (word32_eq_iff length other).mpr same

/-! ## What values keep -/

/-- What the value of a field keeps of its bytes: all of them, except that an access mask has the bits
12 to 15 cleared, which are the upper half of its second byte. -/
def keptBytes : InlineFormat → Bytes → Bytes
  | .accessMask, [first, second, third, fourth] => [first, second &&& 0x0F, third, fourth]
  | _, bytes => bytes

theorem kept_permissions (word : UInt32) :
    keptBytes .accessMask (ofWord32 word) = ofWord32 (word &&& ~~~fileTypeBits) := by
  have mask : ofWord32 (~~~fileTypeBits) = [0xFF, 0x0F, 0xFF, 0xFF] := rfl
  have whole (byte : UInt8) : byte &&& 0xFF = byte := UInt8.and_neg_one
  rw [word32_and, mask]
  have length := of_word32_length word
  generalize ofWord32 word = bytes at length
  match bytes, length with
  | [first, second, third, fourth], _ => simp only [keptBytes, List.zipWith, whole]

theorem kept_all (other : format ≠ .accessMask) (bytes : Bytes) :
    keptBytes format bytes = bytes := by
  cases format <;> first | rfl | exact absurd rfl other

/-- The value of a field spells what it keeps of the bytes. -/
theorem denoted_bytes (meaning : InlineDenotes format block value) :
    value.toBytes = keptBytes format block := by
  cases format with
  | accessMask =>
    obtain ⟨word, rfl, rfl⟩ := meaning
    exact (kept_permissions word).symm
  | objectType =>
    obtain ⟨word, rfl, rfl⟩ := meaning
    exact congrArg ofWord32 (number_of_number word)
  | _ => exact meaning.2

/-- A block stands for one value. -/
theorem denoted_unique (length : block.length = format.size)
    (first : InlineDenotes format block value) (second : InlineDenotes format block other) :
    value = other := by
  have lies : LiesAt block 0 block := (lies_at_whole rfl).mpr rfl
  have read := (inline_ok_iff format).mpr ⟨block, length, lies, first, rfl⟩
  rw [(inline_ok_iff format).mpr ⟨block, length, lies, second, rfl⟩] at read
  cases read
  rfl

/-- Two fields have the same value exactly if they keep the same bytes. -/
theorem denoted_eq_iff (length : block.length = format.size)
    (first : InlineDenotes format block value) (second : InlineDenotes format otherBlock other) :
    value = other ↔ keptBytes format block = keptBytes format otherBlock := by
  constructor
  · rintro rfl
    rw [← denoted_bytes first, denoted_bytes second]
  · intro same
    by_cases mask : format = .accessMask
    · subst mask
      rw [← denoted_bytes first, ← denoted_bytes second] at same
      obtain ⟨word, rfl, rfl⟩ := first
      obtain ⟨otherWord, rfl, rfl⟩ := second
      exact congrArg Value.accessMask (word32_injective same)
    · rw [kept_all mask, kept_all mask] at same
      subst same
      exact denoted_unique length first second

/-! ## Reading -/

/-- A field that is read lies in the buffer as a whole, and its value is what its bytes stand for. -/
theorem read_denotes {format : InlineFormat}
    (read : format.reader bytes position = .ok (value, after)) :
    position + format.size ≤ bytes.length ∧ after = position + format.size ∧
      InlineDenotes format (bytes.slice position format.size) value := by
  obtain ⟨block, length, lies, meaning, stop⟩ := (inline_ok_iff format).mp read
  have room := lies_at_room lies (length ▸ inline_size_pos format)
  have same := lies_at_iff_slice.mp lies
  rw [length] at room same
  exact ⟨room, stop, same ▸ meaning⟩

/-- An inline field is read exactly where all its bytes lie. Reading stops behind them, the value spells
them again, and fields of the same value have the same bytes, up to the bits that an access mask
forgets. -/
theorem inline_value_spells_field (format : InlineFormat) (bytes : Bytes) (position : Nat) :
    ((∃ value after, format.reader bytes position = .ok (value, after)) ↔
      position + format.size ≤ bytes.length) ∧
    (∀ value after, format.reader bytes position = .ok (value, after) →
      after = position + format.size ∧
      value.toBytes = keptBytes format (bytes.slice position format.size)) ∧
    (∀ (other : Bytes) elsewhere value after otherValue otherAfter,
      format.reader bytes position = .ok (value, after) →
      format.reader other elsewhere = .ok (otherValue, otherAfter) →
        (value = otherValue ↔ keptBytes format (bytes.slice position format.size) =
          keptBytes format (other.slice elsewhere format.size))) := by
  refine ⟨⟨?_, ?_⟩, ?_, ?_⟩
  · rintro ⟨value, after, read⟩
    exact (read_denotes read).1
  · intro room
    obtain ⟨value, read⟩ := inline_succeeds format room
    exact ⟨value, _, read⟩
  · intro value after read
    obtain ⟨_, stop, meaning⟩ := read_denotes read
    exact ⟨stop, denoted_bytes meaning⟩
  · intro other elsewhere value after otherValue otherAfter read otherRead
    obtain ⟨room, _, meaning⟩ := read_denotes read
    obtain ⟨_, _, otherMeaning⟩ := read_denotes otherRead
    exact denoted_eq_iff (slice_length room) meaning otherMeaning

/-- The masks of a regular file and of a folder with the same permissions. -/
theorem type_of_file_forgotten :
    let file : Bytes := [0xFF, 0xED, 0x81, 0, 0]
    let folder : Bytes := [0xED, 0x41, 0, 0, 0xFF]
    InlineFormat.reader .accessMask file 1 = .ok (.accessMask 0x1ED, 5) ∧
    InlineFormat.reader .accessMask folder 0 = .ok (.accessMask 0x1ED, 4) ∧
    keptBytes .accessMask (file.slice 1 4) = keptBytes .accessMask (folder.slice 0 4) ∧
    (Value.accessMask 0x1ED).toBytes = [0xED, 0x01, 0, 0] ∧ file.slice 1 4 ≠ folder.slice 0 4 := by
  intro file folder
  have readFile : InlineFormat.reader .accessMask file 1 = .ok (.accessMask 0x1ED, 5) :=
    to_option_ok_iff.mp (by decide +kernel)
  have readFolder : InlineFormat.reader .accessMask folder 0 = .ok (.accessMask 0x1ED, 4) :=
    to_option_ok_iff.mp (by decide +kernel)
  obtain ⟨_, spells, same⟩ := inline_value_spells_field .accessMask file 1
  exact ⟨readFile, readFolder, (same folder 0 _ _ _ _ readFile readFolder).mp rfl,
    (spells _ _ readFile).2, by decide⟩

end PackedAttributes.InlineSpelling
