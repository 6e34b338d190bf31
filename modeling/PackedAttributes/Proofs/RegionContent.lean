import PackedAttributes.Proofs.ExactReading
import PackedAttributes.Record

/-! A region is what its bytes are, however many of them were written. A record is read from the
start of a region alone when it states its own length, so whatever stands behind it, left over from
an earlier answer or belonging to the next record, is never looked at. -/
namespace PackedAttributes.RegionContent
open Bytes WordSpelling ExactReading

/-! ## Regions -/

@[simp] theorem region_length (region : Region) : region.toBytes.length = region.size := by
  have inside := region.written_le_size
  simp only [Region.toBytes, List.length_append, List.length_replicate]
  omega

@[simp] theorem of_bytes_content (bytes : Bytes) : (Region.ofBytes bytes).toBytes = bytes := by
  simp [Region.ofBytes, Region.toBytes]

/-- Writing replaces the start of the region and leaves the rest as it was. What does not fit is
cut. -/
theorem overwrite_cut (region : Region) (bytes : Bytes) :
    (region.overwrite bytes).toBytes =
      bytes.take region.size ++ region.toBytes.drop bytes.length := by
  have inside := region.written_le_size
  simp only [Region.toBytes, Region.overwrite, List.drop_append, List.drop_replicate,
    List.length_append, List.length_take, List.length_drop, List.append_assoc]
  congr 3
  omega

theorem overwrite_content {region : Region} (fits : bytes.length ≤ region.size) :
    (region.overwrite bytes).toBytes = bytes ++ region.toBytes.drop bytes.length := by
  rw [overwrite_cut, List.take_of_length_le fits]

theorem drop_content (region : Region) (count : Nat) :
    (region.drop count).toBytes = region.toBytes.drop count := by
  simp only [Region.toBytes, Region.drop, List.drop_append, List.drop_replicate, List.length_drop]
  congr 2
  omega

theorem leading_content (region : Region) (count : Nat) :
    region.leading count = region.toBytes.take count := by
  have inside := region.written_le_size
  simp only [Region.leading, Region.toBytes, List.take_append, List.take_replicate,
    List.length_take]
  congr 2
  omega

/-! ## Records at the start of a region -/

/-- The bytes begin with their own length, as a word. -/
structure StatesLength (bytes : Bytes) : Prop where
  /-- The length is a word. -/
  small : bytes.length < UInt32.size
  /-- The word stands in front. -/
  stated : LiesAt bytes 0 (ofWord32 (UInt32.ofNat bytes.length))

theorem states_length_covers (states : StatesLength bytes) : lengthPrefixSize ≤ bytes.length := by
  have room := lies_at_room states.stated (by simp)
  rw [of_word32_length] at room
  exact Nat.le_trans (Nat.le_add_left ..) room

theorem leading_word_of_prefix {region : Region} (word : UInt32)
    (starts : ofWord32 word <+: region.toBytes) : region.leadingWord = word := by
  have front : region.leading 4 = ofWord32 word := by
    rw [leading_content, ← of_word32_length word]
    exact (List.prefix_iff_eq_take.mp starts).symm
  rw [Region.leadingWord, front, word32_eq_iff (of_word32_length word)]

/-- A record that states its own length is found with that length in whatever region it starts. -/
theorem record_length_of_prefix {region : Region} (states : StatesLength record)
    (starts : record <+: region.toBytes) : region.recordLength = .ok record.length := by
  have covers := states_length_covers states
  have inside : record.length ≤ region.size := by
    rw [← region_length region]
    exact starts.length_le
  have stated : ofWord32 (UInt32.ofNat record.length) <+: region.toBytes :=
    states.stated.trans starts
  have room : 4 ≤ region.size := Nat.le_trans covers inside
  have told : region.firstWord = .ok (UInt32.ofNat record.length) := by
    rw [Region.firstWord, if_pos room, leading_word_of_prefix _ stated]
  have length : (UInt32.ofNat record.length).toNat = record.length :=
    UInt32.toNat_ofNat_of_lt' states.small
  simp only [Region.recordLength, told, length]
  rw [if_pos ⟨covers, inside⟩]

/-- Reading a record from the start of a region looks at nothing behind the record. -/
theorem of_region_of_prefix {region : Region} (states : StatesLength record)
    (starts : record <+: region.toBytes) (requested : AttributeSet) :
    Record.ofRegion region requested =
      (Record.ofBytes record requested).mapError .malformedRecord := by
  have front : region.leading record.length = record := by
    rw [leading_content]
    exact (List.prefix_iff_eq_take.mp starts).symm
  simp only [Record.ofRegion, record_length_of_prefix states starts, front]

/-- What is read at the start of a region depends on its bytes alone. -/
theorem of_region_eq_parse (region : Region) (requested : AttributeSet) :
    Record.ofRegion region requested = Record.parse region.toBytes requested := by
  simp only [Record.parse, Record.ofRegion, Region.recordLength, Region.firstWord,
    Region.leadingWord, leading_content, of_bytes_content, ← region_length]

theorem parse_eq_of_bytes (states : StatesLength record) (requested : AttributeSet) :
    Record.parse record requested =
      (Record.ofBytes record requested).mapError .malformedRecord := by
  have alone : record <+: (Region.ofBytes record).toBytes := by simp
  rw [Record.parse, of_region_of_prefix states alone]

/-- Reading a record alone is reading it from the start of any region. -/
theorem parse_eq_of_region {region : Region} (states : StatesLength record)
    (starts : record <+: region.toBytes) (requested : AttributeSet) :
    Record.ofRegion region requested = Record.parse record requested := by
  rw [parse_eq_of_bytes states, of_region_of_prefix states starts]

end PackedAttributes.RegionContent
