import Mathlib.Algebra.Group.Int.Defs
import PackedAttributes.Proofs.ExactReading
import PackedAttributes.Value.FinderInfo

/-! Finder information loses nothing: each of the four records stands for exactly the bytes from
which it was taken, so content of the right size has one meaning for files and one for folders. Both
meanings have the flags, the place and the words behind them in common, since these lie at the same
positions in either shape. -/
namespace PackedAttributes.FinderInfoSpelling
open Bytes WordSpelling ExactReading

/-! ## Words with their most significant byte first -/

@[simp] theorem of_big_word16_length (word : UInt16) : (ofBigWord16 word).length = 2 := by
  simp [ofBigWord16, ofNatBigEndian]

@[simp] theorem of_big_word32_length (word : UInt32) : (ofBigWord32 word).length = 4 := by
  simp [ofBigWord32, ofNatBigEndian]

@[simp] theorem of_big_int16_length (word : Int16) : (ofBigInt16 word).length = 2 :=
  of_big_word16_length _

@[simp] theorem of_big_int32_length (word : Int32) : (ofBigInt32 word).length = 4 :=
  of_big_word32_length _

theorem big_endian_eq_iff {bytes : Bytes} (length : bytes.length = width)
    (small : n < numberCount width) :
    bytes.bigEndian = n ↔ bytes = ofNatBigEndian width n := by
  have reversed : bytes.reverse.length = width := by rw [List.length_reverse, length]
  rw [bigEndian, little_endian_eq_iff reversed small, ofNatBigEndian, List.reverse_eq_iff]

theorem slice_big_endian_iff {bytes : Bytes} (room : position + width ≤ bytes.length)
    (small : n < numberCount width) :
    (bytes.slice position width).bigEndian = n ↔
      LiesAt bytes position (ofNatBigEndian width n) := by
  rw [big_endian_eq_iff (slice_length room) small, lies_at_iff_slice]
  simp [ofNatBigEndian]

theorem slice_big_endian_lt {bytes : Bytes} (room : position + width ≤ bytes.length) :
    (bytes.slice position width).bigEndian < numberCount width := by
  have bound := little_endian_lt (bytes.slice position width).reverse
  rwa [List.length_reverse, slice_length room] at bound

theorem big_word16_iff {bytes : Bytes} (room : position + 2 ≤ bytes.length) :
    bytes.bigWord16 position = word ↔ LiesAt bytes position (ofBigWord16 word) := by
  rw [bigWord16, ← UInt16.toNat_inj, UInt16.toNat_ofNat_of_lt' (slice_big_endian_lt room)]
  exact slice_big_endian_iff room word.toNat_lt

theorem big_word32_iff {bytes : Bytes} (room : position + 4 ≤ bytes.length) :
    bytes.bigWord32 position = word ↔ LiesAt bytes position (ofBigWord32 word) := by
  rw [bigWord32, ← UInt32.toNat_inj, UInt32.toNat_ofNat_of_lt' (slice_big_endian_lt room)]
  exact slice_big_endian_iff room word.toNat_lt

theorem big_int16_iff {bytes : Bytes} (room : position + 2 ≤ bytes.length) :
    bytes.bigInt16 position = word ↔ LiesAt bytes position (ofBigInt16 word) := by
  rw [ofBigInt16, ← big_word16_iff room]
  exact ⟨fun same => same ▸ rfl, fun same => by rw [bigInt16, same]; rfl⟩

theorem big_int32_iff {bytes : Bytes} (room : position + 4 ≤ bytes.length) :
    bytes.bigInt32 position = word ↔ LiesAt bytes position (ofBigInt32 word) := by
  rw [ofBigInt32, ← big_word32_iff room]
  exact ⟨fun same => same ▸ rfl, fun same => by rw [bigInt32, same]; rfl⟩

/-! ## Points and rectangles -/

@[simp] theorem point_length (point : Point) : point.toBytes.length = 4 := by
  simp [Point.toBytes]

@[simp] theorem rectangle_length (rectangle : Rectangle) : rectangle.toBytes.length = 8 := by
  simp [Rectangle.toBytes]

theorem point_iff {bytes : Bytes} (room : position + 4 ≤ bytes.length) :
    Point.ofBytes bytes position = point ↔ LiesAt bytes position point.toBytes := by
  obtain ⟨vertical, horizontal⟩ := point
  simp (disch := omega) only [Point.ofBytes, Point.mk.injEq, Point.toBytes, lies_at_append,
    of_big_int16_length, big_int16_iff]

theorem rectangle_iff {bytes : Bytes} (room : position + 8 ≤ bytes.length) :
    Rectangle.ofBytes bytes position = rectangle ↔ LiesAt bytes position rectangle.toBytes := by
  obtain ⟨top, left, bottom, right⟩ := rectangle
  simp (disch := omega) only [Rectangle.ofBytes, Rectangle.mk.injEq, Rectangle.toBytes,
    lies_at_append, List.length_append, of_big_int16_length, big_int16_iff, Nat.reduceAdd, and_assoc]

/-! ## The four records -/

@[simp] theorem file_info_length (info : FileInfo) : info.toBytes.length = finderRecordSize := by
  simp [FileInfo.toBytes, finderRecordSize]

@[simp] theorem extended_file_info_length (info : ExtendedFileInfo) :
    info.toBytes.length = finderRecordSize := by
  simp [ExtendedFileInfo.toBytes, ExtendedFileInfo.leadingReserved, finderRecordSize]

@[simp] theorem folder_info_length (info : FolderInfo) : info.toBytes.length = finderRecordSize := by
  simp [FolderInfo.toBytes, finderRecordSize]

@[simp] theorem extended_folder_info_length (info : ExtendedFolderInfo) :
    info.toBytes.length = finderRecordSize := by
  simp [ExtendedFolderInfo.toBytes, finderRecordSize]

theorem file_info_iff {bytes : Bytes} (room : position + finderRecordSize ≤ bytes.length) :
    FileInfo.ofBytes bytes position = info ↔ LiesAt bytes position info.toBytes := by
  obtain ⟨fileType, fileCreator, finderFlags, location, reserved⟩ := info
  rw [finderRecordSize] at room
  simp (disch := omega) only [FileInfo.ofBytes, FileInfo.mk.injEq, FileInfo.toBytes,
    lies_at_append, List.length_append, of_big_word32_length, of_big_word16_length, point_length,
    big_word32_iff, big_word16_iff, point_iff, Nat.reduceAdd, and_assoc]

theorem extended_file_info_iff {bytes : Bytes}
    (room : position + finderRecordSize ≤ bytes.length) :
    ExtendedFileInfo.ofBytes bytes position = info ↔ LiesAt bytes position info.toBytes := by
  obtain ⟨first, second, third, fourth, flags, fifth, folder⟩ := info
  rw [finderRecordSize] at room
  simp (disch := omega) only [ExtendedFileInfo.ofBytes, ExtendedFileInfo.mk.injEq,
    ExtendedFileInfo.toBytes, ExtendedFileInfo.leadingReserved, List.flatMap_cons, List.flatMap_nil,
    List.append_nil, lies_at_append, List.length_append, of_big_int16_length, of_big_word16_length,
    big_int16_iff, big_word16_iff, big_int32_iff, Nat.add_assoc, Nat.reduceAdd, and_assoc]

theorem folder_info_iff {bytes : Bytes} (room : position + finderRecordSize ≤ bytes.length) :
    FolderInfo.ofBytes bytes position = info ↔ LiesAt bytes position info.toBytes := by
  obtain ⟨windowBounds, finderFlags, location, reserved⟩ := info
  rw [finderRecordSize] at room
  simp (disch := omega) only [FolderInfo.ofBytes, FolderInfo.mk.injEq, FolderInfo.toBytes,
    lies_at_append, List.length_append, rectangle_length, of_big_word16_length, point_length,
    rectangle_iff, big_word16_iff, point_iff, Nat.reduceAdd, and_assoc]

theorem extended_folder_info_iff {bytes : Bytes}
    (room : position + finderRecordSize ≤ bytes.length) :
    ExtendedFolderInfo.ofBytes bytes position = info ↔ LiesAt bytes position info.toBytes := by
  obtain ⟨scrollPosition, first, flags, second, folder⟩ := info
  rw [finderRecordSize] at room
  simp (disch := omega) only [ExtendedFolderInfo.ofBytes, ExtendedFolderInfo.mk.injEq,
    ExtendedFolderInfo.toBytes, lies_at_append, List.length_append, point_length,
    of_big_int16_length, of_big_word16_length, of_big_int32_length, point_iff,
    big_int16_iff, big_word16_iff, big_int32_iff, big_word32_iff, Nat.reduceAdd, and_assoc]

/-! ## Both records together -/

@[simp] theorem finder_info_length (info : FinderInfo) : info.toBytes.length = finderInfoSize := by
  cases info <;> simp [FinderInfo.toBytes, finderInfoSize, finderRecordSize]

/-- The value of a shape is the one that spells the bytes in this shape. -/
theorem finder_info_iff (isFolder : Bool) (length : content.length = finderInfoSize) :
    FinderInfo.ofBytes content isFolder = info ↔
      info.toBytes = content ∧ info.isFolder = isFolder := by
  have whole : info.toBytes = content ↔ LiesAt content 0 info.toBytes :=
    (lies_at_whole (by rw [length, finder_info_length])).symm
  have firstRoom : 0 + finderRecordSize ≤ content.length := by rw [length]; decide
  have secondRoom : finderRecordSize + finderRecordSize ≤ content.length := by rw [length]; decide
  rw [whole]
  cases isFolder <;> cases info <;>
    simp [FinderInfo.ofBytes, FinderInfo.toBytes, FinderInfo.isFolder, lies_at_append,
      file_info_iff firstRoom, extended_file_info_iff secondRoom, folder_info_iff firstRoom,
      extended_folder_info_iff secondRoom]

/-- Content of the right size is taken apart into the one value of the wanted shape that it
spells, and no other content is. -/
theorem parse_finder_info_iff :
    FinderInfo.parse content isFolder = .ok info ↔
      info.toBytes = content ∧ info.isFolder = isFolder := by
  rw [FinderInfo.parse]
  split
  · rename_i length
    rw [Except.ok.injEq, finder_info_iff _ length]
  · rename_i length
    constructor
    · nofun
    · rintro ⟨rfl, _⟩
      exact absurd (finder_info_length info) length

theorem parse_finder_info_sized (length : content.length = 32) (isFolder : Bool) :
    FinderInfo.parse content isFolder = .ok (FinderInfo.ofBytes content isFolder) :=
  if_pos length

theorem parse_finder_info_error_iff {fault : Fault} :
    FinderInfo.parse content isFolder = .error fault ↔
      content.length ≠ 32 ∧ fault = .compositeLength 32 content.length := by
  rw [FinderInfo.parse]
  split
  · rename_i length
    exact iff_of_false nofun fun failed => failed.1 length
  · rename_i length
    constructor
    · rintro ⟨⟩
      exact ⟨length, rfl⟩
    · rintro ⟨_, rfl⟩
      rfl

/-! ## Fields as numbers -/

/-- A field of a record, told by the number of its bytes and by the number that it holds. -/
structure Field where
  width : Nat
  number : Int

/-- The number in two's complement, most significant byte first. -/
def Field.bytes (field : Field) : Bytes :=
  ofNatBigEndian field.width (field.number % 256 ^ field.width).toNat

/-- All fields of both records in the order in which they are declared. -/
def declaredFields : FinderInfo → List Field
  | .file info extended =>
    [⟨4, info.fileType.toNat⟩, ⟨4, info.fileCreator.toNat⟩, ⟨2, info.finderFlags.toNat⟩,
      ⟨2, info.location.vertical.toInt⟩, ⟨2, info.location.horizontal.toInt⟩,
      ⟨2, info.reserved.toNat⟩,
      ⟨2, extended.reserved₁.toInt⟩, ⟨2, extended.reserved₂.toInt⟩, ⟨2, extended.reserved₃.toInt⟩,
      ⟨2, extended.reserved₄.toInt⟩, ⟨2, extended.extendedFlags.toNat⟩,
      ⟨2, extended.reserved₅.toInt⟩, ⟨4, extended.putAwayFolder.toInt⟩]
  | .folder info extended =>
    [⟨2, info.windowBounds.top.toInt⟩, ⟨2, info.windowBounds.left.toInt⟩,
      ⟨2, info.windowBounds.bottom.toInt⟩, ⟨2, info.windowBounds.right.toInt⟩,
      ⟨2, info.finderFlags.toNat⟩, ⟨2, info.location.vertical.toInt⟩,
      ⟨2, info.location.horizontal.toInt⟩, ⟨2, info.reserved.toNat⟩,
      ⟨2, extended.scrollPosition.vertical.toInt⟩, ⟨2, extended.scrollPosition.horizontal.toInt⟩,
      ⟨4, extended.reserved₁.toInt⟩, ⟨2, extended.extendedFlags.toNat⟩,
      ⟨2, extended.reserved₂.toInt⟩, ⟨4, extended.putAwayFolder.toNat⟩]

theorem word16_field (word : UInt16) : (Field.mk 2 word.toNat).bytes = ofBigWord16 word := by
  have small : word.toNat < 65536 := word.toNat_lt
  have number : ((word.toNat : Int) % 256 ^ 2).toNat = word.toNat := by omega
  rw [Field.bytes, number, ofBigWord16]

theorem word32_field (word : UInt32) : (Field.mk 4 word.toNat).bytes = ofBigWord32 word := by
  have small : word.toNat < 4294967296 := word.toNat_lt
  have number : ((word.toNat : Int) % 256 ^ 4).toNat = word.toNat := by omega
  rw [Field.bytes, number, ofBigWord32]

theorem int16_field (word : Int16) : (Field.mk 2 word.toInt).bytes = ofBigInt16 word := by
  have small := word.toBitVec.isLt
  have number : (word.toInt % 256 ^ 2).toNat = word.toUInt16.toNat := by
    change (word.toBitVec.toInt % 256 ^ 2).toNat = word.toBitVec.toNat
    rw [BitVec.toInt_eq_toNat_cond]
    split <;> omega
  rw [Field.bytes, number, ofBigInt16, ofBigWord16]

theorem int32_field (word : Int32) : (Field.mk 4 word.toInt).bytes = ofBigInt32 word := by
  have small := word.toBitVec.isLt
  have number : (word.toInt % 256 ^ 4).toNat = word.toUInt32.toNat := by
    change (word.toBitVec.toInt % 256 ^ 4).toNat = word.toBitVec.toNat
    rw [BitVec.toInt_eq_toNat_cond]
    split <;> omega
  rw [Field.bytes, number, ofBigInt32, ofBigWord32]

/-- The records are written field by field. -/
theorem declared_bytes (info : FinderInfo) :
    (declaredFields info).flatMap Field.bytes = info.toBytes := by
  cases info <;>
    simp only [declaredFields, List.flatMap_cons, List.flatMap_nil, List.append_nil, word16_field,
      word32_field, int16_field, int32_field, FinderInfo.toBytes, FileInfo.toBytes,
      ExtendedFileInfo.toBytes, ExtendedFileInfo.leadingReserved, FolderInfo.toBytes,
      ExtendedFolderInfo.toBytes, Rectangle.toBytes, Point.toBytes, List.append_assoc]

/-! ## Both shapes of the same bytes -/

theorem word16_slice {bytes : Bytes} (room : position + 2 ≤ bytes.length) :
    bytes.slice position 2 = ofBigWord16 (bytes.bigWord16 position) := by
  have lies := (big_word16_iff room).mp rfl
  rw [lies_at_iff_slice, of_big_word16_length] at lies
  exact lies

theorem point_slice {bytes : Bytes} (room : position + 4 ≤ bytes.length) :
    bytes.slice position 4 = (Point.ofBytes bytes position).toBytes := by
  have lies := (point_iff room).mp rfl
  rw [lies_at_iff_slice, point_length] at lies
  exact lies

/-- Content is taken apart exactly if it is 32 bytes long. Writing all fields back in the order of
their declaration gives the content again, so a value tells the content from which it was taken. A file
and a folder with the same content have the same flags, the same place and the same reserved word
behind it. -/
theorem finder_info_split_exactly (content : Bytes) :
    (∀ isFolder, (∃ info, FinderInfo.parse content isFolder = .ok info) ↔ content.length = 32) ∧
    (∀ isFolder fault, FinderInfo.parse content isFolder = .error fault ↔
      content.length ≠ 32 ∧ fault = .compositeLength 32 content.length) ∧
    (∀ isFolder info, FinderInfo.parse content isFolder = .ok info ↔
      info.isFolder = isFolder ∧ (declaredFields info).flatMap Field.bytes = content) ∧
    (∀ isFolder info other, FinderInfo.parse content isFolder = .ok info →
      FinderInfo.parse other isFolder = .ok info → other = content) ∧
    (∀ file folder, FinderInfo.parse content false = .ok file →
      FinderInfo.parse content true = .ok folder →
      file.finderFlags = folder.finderFlags ∧
      content.slice 8 2 = ofBigWord16 file.finderFlags ∧
      file.extendedFlags = folder.extendedFlags ∧
      content.slice 24 2 = ofBigWord16 file.extendedFlags ∧
      ∃ fileInfo fileMore folderInfo folderMore,
        file = .file fileInfo fileMore ∧ folder = .folder folderInfo folderMore ∧
        fileInfo.location = folderInfo.location ∧
        content.slice 10 4 = fileInfo.location.toBytes ∧
        fileInfo.reserved = folderInfo.reserved ∧
        content.slice 14 2 = ofBigWord16 fileInfo.reserved) := by
  refine ⟨fun isFolder => ⟨?_, ?_⟩, fun _ _ => parse_finder_info_error_iff, ?_, ?_, ?_⟩
  · rintro ⟨info, parsed⟩
    rw [← (parse_finder_info_iff.mp parsed).1, finder_info_length]
    rfl
  · intro length
    exact ⟨_, parse_finder_info_sized length isFolder⟩
  · intro isFolder info
    rw [parse_finder_info_iff, declared_bytes, and_comm]
  · intro isFolder info other parsed again
    rw [← (parse_finder_info_iff.mp parsed).1, ← (parse_finder_info_iff.mp again).1]
  · intro file folder asFile asFolder
    have length : content.length = 32 := by
      rw [← (parse_finder_info_iff.mp asFile).1, finder_info_length]
      rfl
    have room {last : Nat} (inside : last ≤ 32) : last ≤ content.length := length.symm ▸ inside
    rw [parse_finder_info_sized length] at asFile asFolder
    cases asFile
    cases asFolder
    exact ⟨rfl, word16_slice (room (by decide)), rfl, word16_slice (room (by decide)), _, _, _, _, rfl,
      rfl, rfl, point_slice (room (by decide)), rfl, word16_slice (room (by decide))⟩

/-- Content whose signed fields are negative in one shape and halves of other words in the other. -/
theorem negative_fields_kept :
    let content : Bytes := (List.range 32).map fun position => UInt8.ofNat (0xFF - position)
    let file : FinderInfo := .file
      ⟨0xFFFEFDFC, 0xFBFAF9F8, 0xF7F6, ⟨-2572, -3086⟩, 0xF1F0⟩
      ⟨-4114, -4628, -5142, -5656, 0xE7E6, -6684, -471670304⟩
    let folder : FinderInfo := .folder
      ⟨⟨-2, -516, -1030, -1544⟩, 0xF7F6, ⟨-2572, -3086⟩, 0xF1F0⟩
      ⟨⟨-4114, -4628⟩, -336926232, 0xE7E6, -6684, 0xE3E2E1E0⟩
    FinderInfo.parse content false = .ok file ∧ FinderInfo.parse content true = .ok folder ∧
    (declaredFields file).flatMap Field.bytes = content ∧
    (declaredFields folder).flatMap Field.bytes = content ∧
    file.finderFlags = folder.finderFlags ∧ file.extendedFlags = folder.extendedFlags ∧
    content.slice 24 2 = [0xE7, 0xE6] ∧
    ∀ other, FinderInfo.parse other true = .ok folder → other = content := by
  intro content file folder
  have asFile : FinderInfo.parse content false = .ok file := rfl
  have asFolder : FinderInfo.parse content true = .ok folder := rfl
  obtain ⟨_, _, written, injective, shared⟩ := finder_info_split_exactly content
  obtain ⟨flags, _, extendedFlags, spelled, _⟩ := shared file folder asFile asFolder
  exact ⟨asFile, asFolder, ((written _ _).mp asFile).2, ((written _ _).mp asFolder).2, flags,
    extendedFlags, spelled.trans (by decide), fun other => injective true folder other asFolder⟩

end PackedAttributes.FinderInfoSpelling
