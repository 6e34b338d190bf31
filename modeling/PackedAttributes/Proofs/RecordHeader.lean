import PackedAttributes.Kernel.StoredObject
import PackedAttributes.Proofs.ActivityOutcomes
import PackedAttributes.Proofs.FieldMeaning
import PackedAttributes.Proofs.RegionContent
import PackedAttributes.Record

/-! Which bytes are taken for a record, and how far they are looked at. The length in front decides
both: a record is read exactly when that length covers its header and lies inside the bytes, and
nothing behind it has any influence on the record or on what is decoded from it. -/
namespace PackedAttributes.RecordHeader
open Bytes WordSpelling ExactReading FieldMeaning RegionContent ActivityOutcomes

/-! ## The stated length -/

/-- The length that bytes state in front, whether or not it is a sensible one. -/
def statedLength (bytes : Bytes) : Nat :=
  littleEndian (bytes.take 4)

/-- The bytes begin with a record, as far as its length tells: it covers itself and lies inside. -/
def StartsRecord (bytes : Bytes) : Prop :=
  4 ≤ statedLength bytes ∧ statedLength bytes ≤ bytes.length

instance : Decidable (StartsRecord bytes) :=
  inferInstanceAs (Decidable (_ ∧ _))

theorem number_count_le (narrow : width ≤ other) : numberCount width ≤ numberCount other := by
  induction narrow with
  | refl => exact Nat.le_refl _
  | step _ ih =>
    rw [numberCount]
    omega

theorem stated_length_lt (bytes : Bytes) : statedLength bytes < UInt32.size :=
  Nat.lt_of_lt_of_le (little_endian_lt _) (number_count_le (List.length_take_le 4 bytes))

/-- Cutting bytes behind their length does not change the length. -/
theorem stated_length_take (bytes : Bytes) (covers : 4 ≤ count) :
    statedLength (bytes.take count) = statedLength bytes := by
  rw [statedLength, List.take_take, Nat.min_eq_left covers, statedLength]

theorem stated_length_word (word : UInt32) : statedLength (ofWord32 word) = word.toNat := by
  have length := of_word32_length word
  have spelled : UInt32.ofNat (statedLength (ofWord32 word)) = word := by
    rw [statedLength, List.take_of_length_le (Nat.le_of_eq length)]
    exact (word32_eq_iff length word).mpr rfl
  rw [← congrArg UInt32.toNat spelled, UInt32.toNat_ofNat_of_lt' (stated_length_lt _)]

theorem leading_word_length (region : Region) :
    region.leadingWord.toNat = statedLength region.toBytes := by
  rw [Region.leadingWord, leading_content]
  exact UInt32.toNat_ofNat_of_lt' (stated_length_lt _)

/-- Cut to the length that it states, a record states its own length. -/
theorem leading_states_length (starts : StartsRecord bytes) :
    StatesLength (bytes.take (statedLength bytes)) := by
  obtain ⟨covers, inside⟩ := starts
  have length : (bytes.take (statedLength bytes)).length = statedLength bytes := by
    rw [List.length_take, Nat.min_eq_left inside]
  constructor
  · rw [length]
    exact stated_length_lt bytes
  · have four : (bytes.take 4).length = 4 := by
      rw [List.length_take]
      omega
    have front : bytes.take 4 = ofWord32 (UInt32.ofNat (statedLength bytes)) :=
      (word32_eq_iff four _).mp rfl
    rw [length, ← front]
    exact List.take_prefix_take_left covers

theorem record_length_starts {region : Region} (starts : StartsRecord region.toBytes) :
    region.recordLength = .ok (statedLength region.toBytes) := by
  have told := record_length_of_prefix (leading_states_length starts) (List.take_prefix ..)
  rwa [List.length_take, Nat.min_eq_left starts.2] at told

theorem record_length_error {region : Region} (misses : ¬StartsRecord region.toBytes) :
    ∃ fault, region.recordLength = .error fault := by
  by_cases room : 4 ≤ region.size
  · have outside : ¬(lengthPrefixSize ≤ region.leadingWord.toNat ∧
        region.leadingWord.toNat ≤ region.size) := by
      rw [leading_word_length, ← region_length region]
      exact misses
    exact ⟨.lengthPrefix region.leadingWord region.size, by
      simp only [Region.recordLength, Region.firstWord, if_pos room, if_neg outside]⟩
  · exact ⟨.truncated 0 4 region.size, by
      simp only [Region.recordLength, Region.firstWord, if_neg room]⟩

/-! ## The header -/

theorem returned_set_iff {set : AttributeSet} :
    AttributeSet.reader.valueAt bytes position = .ok set ↔ LiesAt bytes position set.toBytes := by
  rw [Reader.valueAt, except_map_ok_iff]
  constructor
  · rintro ⟨⟨found, after⟩, read, rfl⟩
    obtain ⟨parts, lies, rfl, _⟩ := (attribute_set_exact.reads ..).mp read
    exact lies
  · intro lies
    exact ⟨_, (attribute_set_exact.reads ..).mpr ⟨set, lies, rfl, rfl⟩, rfl⟩

/-- A header keeps what it was read from, and it has a returned set exactly if one was asked for. -/
theorem header_holds {bytes : Bytes} {requested : AttributeSet}
    (header : Record.ofBytes bytes requested = .ok record) :
    record.bytes = bytes ∧ record.requested = requested ∧
      record.returned.isSome = requested.contains .returnedAttributes := by
  rw [Record.ofBytes] at header
  split at header
  · obtain ⟨set, _, rfl⟩ := except_map_ok_iff.mp header
    exact ⟨rfl, rfl, Eq.symm ‹_›⟩
  · cases header
    exact ⟨rfl, rfl, (Bool.eq_false_iff.mpr ‹_›).symm⟩

/-- There is a header exactly if there is room for the set that was asked for. -/
theorem header_exists_iff {bytes : Bytes} {requested : AttributeSet} :
    (∃ record, Record.ofBytes bytes requested = .ok record) ↔
      (requested.contains .returnedAttributes = true → 24 ≤ bytes.length) := by
  by_cases asked : requested.contains .returnedAttributes = true
  · have header (record : Record) : Record.ofBytes bytes requested = .ok record ↔
        ∃ set : AttributeSet, LiesAt bytes 4 set.toBytes ∧ ⟨bytes, requested, some set⟩ = record := by
      rw [Record.ofBytes, if_pos asked, except_map_ok_iff]
      simp only [returned_set_iff, lengthPrefixSize]
    simp only [header, asked, true_imp_iff]
    constructor
    · rintro ⟨_, set, lies, rfl⟩
      have width := attribute_set_exact.width set
      have room := lies_at_room lies (by rw [width]; decide)
      rwa [width] at room
    · intro room
      have length : (bytes.slice 4 attributeSetSize).length = attributeSetSize := slice_length room
      obtain ⟨set, spelled⟩ := attribute_set_exact.onto _ length
      exact ⟨_, set, spelled ▸ slice_lies_at, rfl⟩
  · simp [Record.ofBytes, asked]

/-! ## Records at the start of a region -/

/-- Where a record starts, its header is read from its own bytes alone. -/
theorem of_region_starts {region : Region} (starts : StartsRecord region.toBytes)
    (requested : AttributeSet) :
    Record.ofRegion region requested =
      (Record.ofBytes (region.toBytes.take (statedLength region.toBytes)) requested).mapError
        .malformedRecord :=
  of_region_of_prefix (leading_states_length starts) (List.take_prefix ..) requested

theorem of_region_misses {region : Region} (misses : ¬StartsRecord region.toBytes)
    (requested : AttributeSet) :
    ∃ fault, Record.ofRegion region requested = .error (.malformedRecord fault) := by
  obtain ⟨fault, failed⟩ := record_length_error misses
  exact ⟨fault, by simp only [Record.ofRegion, failed]⟩

theorem of_region_ok_iff {region : Region} :
    Record.ofRegion region requested = .ok record ↔ StartsRecord region.toBytes ∧
      Record.ofBytes (region.toBytes.take (statedLength region.toBytes)) requested = .ok record := by
  by_cases starts : StartsRecord region.toBytes
  · rw [of_region_starts starts, except_map_error_ok_iff, and_iff_right starts]
  · obtain ⟨fault, failed⟩ := of_region_misses starts requested
    simp [failed, starts]

/-- Where no record can be read, its header is malformed. -/
theorem of_region_error {region : Region} {failure : Failure}
    (failed : Record.ofRegion region requested = .error failure) :
    ∃ fault, failure = .malformedRecord fault := by
  by_cases starts : StartsRecord region.toBytes
  · rw [of_region_starts starts] at failed
    cases header : Record.ofBytes (region.toBytes.take (statedLength region.toBytes)) requested with
    | ok record =>
      rw [header] at failed
      cases failed
    | error fault =>
      rw [header] at failed
      cases failed
      exact ⟨fault, rfl⟩
  · obtain ⟨fault, malformed⟩ := of_region_misses starts requested
    rw [malformed] at failed
    cases failed
    exact ⟨fault, rfl⟩

theorem of_region_exists_iff {region : Region} {requested : AttributeSet} :
    (∃ record, Record.ofRegion region requested = .ok record) ↔ StartsRecord region.toBytes ∧
      (requested.contains .returnedAttributes = true → 24 ≤ statedLength region.toBytes) := by
  simp only [of_region_ok_iff, exists_and_left, header_exists_iff]
  refine and_congr_right fun starts => ?_
  rw [List.length_take, Nat.min_eq_left starts.2]

/-! ## Bytes -/

theorem parse_ok_iff {bytes : Bytes} :
    Record.parse bytes requested = .ok record ↔ StartsRecord bytes ∧
      Record.ofBytes (bytes.take (statedLength bytes)) requested = .ok record := by
  rw [Record.parse, of_region_ok_iff, of_bytes_content]

theorem parse_exists_iff {bytes : Bytes} {requested : AttributeSet} :
    (∃ record, Record.parse bytes requested = .ok record) ↔ StartsRecord bytes ∧
      (requested.contains .returnedAttributes = true → 24 ≤ statedLength bytes) := by
  simp only [Record.parse, of_region_exists_iff, of_bytes_content]

theorem parsed_size (parsed : Record.parse bytes requested = .ok record) :
    record.size = statedLength bytes := by
  obtain ⟨starts, header⟩ := parse_ok_iff.mp parsed
  rw [Record.size, (header_holds header).1, List.length_take, Nat.min_eq_left starts.2]

/-- The fields of a record begin inside the record. -/
theorem body_inside (parsed : Record.parse bytes requested = .ok record) :
    record.bodyOffset ≤ statedLength bytes := by
  obtain ⟨starts, room⟩ := parse_exists_iff.mp ⟨record, parsed⟩
  obtain ⟨_, _, present⟩ := header_holds (parse_ok_iff.mp parsed).2
  rw [Record.bodyOffset]
  cases returned : record.returned with
  | none => exact starts.1
  | some set =>
    rw [returned] at present
    exact room present.symm

/-- Bytes that agree up to the stated length are read as the same record. -/
theorem parse_agrees {bytes other : Bytes} (starts : StartsRecord bytes)
    (room : statedLength bytes ≤ other.length)
    (same : other.take (statedLength bytes) = bytes.take (statedLength bytes))
    (requested : AttributeSet) : Record.parse other requested = Record.parse bytes requested := by
  have covers := starts.1
  have length : statedLength other = statedLength bytes := by
    rw [← stated_length_take other covers, same, stated_length_take bytes covers]
  have also : StartsRecord other := by rwa [StartsRecord, length, and_iff_right covers]
  rw [Record.parse, Record.parse, of_region_starts (by rwa [of_bytes_content]),
    of_region_starts (by rwa [of_bytes_content]), of_bytes_content, of_bytes_content, length, same]

/-- Reads the header of the record at the start of bytes and decodes the record. -/
def parseDecode (bytes : Bytes) (requested : AttributeSet) : Traced Failure AttributeValues := do
  let record ← Traced.silently (Record.parse bytes requested)
  record.decode

/-- Cut to its length, a record is decoded as it is in front of other bytes. -/
theorem decode_leading (starts : StartsRecord bytes) :
    parseDecode (bytes.take (statedLength bytes)) requested = parseDecode bytes requested := by
  have room : statedLength bytes ≤ (bytes.take (statedLength bytes)).length := by
    rw [List.length_take]
    exact Nat.le_min.mpr ⟨Nat.le_refl _, starts.2⟩
  have same : (bytes.take (statedLength bytes)).take (statedLength bytes) =
      bytes.take (statedLength bytes) := by
    rw [List.take_take, Nat.min_self]
  rw [parseDecode, parse_agrees starts room same, parseDecode]

theorem decoded_starts (decoded : (parseDecode bytes requested).outcome = .ok values) :
    StartsRecord bytes ∧
      (requested.contains .returnedAttributes = true → 24 ≤ statedLength bytes) := by
  rw [parseDecode, traced_bind_outcome, silently_outcome, except_bind_ok_iff] at decoded
  obtain ⟨record, parsed, _⟩ := decoded
  exact parse_exists_iff.mp ⟨record, parsed⟩

/-- A record is read exactly where its length allows it, it is nothing but the bytes up to that
length, and whatever stands behind them changes neither the record nor what is decoded from it. -/
theorem record_read_within_length (bytes : Bytes) (requested : AttributeSet) :
    let length := statedLength bytes
    ((∃ record, Record.parse bytes requested = .ok record) ↔
      4 ≤ bytes.length ∧ 4 ≤ length ∧ length ≤ bytes.length ∧
        (requested.contains .returnedAttributes = true → 24 ≤ length)) ∧
    (∀ record, Record.parse bytes requested = .ok record →
      record.bytes = bytes.take length ∧ record.requested = requested ∧
      record.size = length ∧ statedLength record.bytes = length ∧ record.isEmpty = false ∧
      record.returned.isSome = requested.contains .returnedAttributes ∧
      record.bodyOffset ≤ record.size ∧
      Record.parse record.bytes requested = .ok record) ∧
    (∀ other : Bytes, 4 ≤ length → length ≤ bytes.length → length ≤ other.length →
      other.take length = bytes.take length →
        Record.parse other requested = Record.parse bytes requested ∧
        parseDecode other requested = parseDecode bytes requested) := by
  intro length
  refine ⟨?_, ?_, ?_⟩
  · rw [parse_exists_iff]
    constructor
    · rintro ⟨⟨covers, inside⟩, room⟩
      exact ⟨Nat.le_trans covers inside, covers, inside, room⟩
    · rintro ⟨_, covers, inside, room⟩
      exact ⟨⟨covers, inside⟩, room⟩
  · intro record parsed
    obtain ⟨starts, header⟩ := parse_ok_iff.mp parsed
    obtain ⟨held, asked, returned⟩ := header_holds header
    have size : record.size = length := by
      rw [Record.size, held, List.length_take, Nat.min_eq_left starts.2]
    have stated : statedLength record.bytes = length := by
      rw [held, stated_length_take bytes starts.1]
    have nonempty : record.isEmpty = false := by
      rw [Record.isEmpty, List.isEmpty_eq_false_iff, ← List.length_pos_iff]
      exact Nat.lt_of_lt_of_le (by decide) (Nat.le_trans starts.1 (Nat.le_of_eq size.symm))
    have again : Record.parse record.bytes requested = .ok record := by
      rw [held, parse_eq_of_bytes (leading_states_length starts), header]
      rfl
    exact ⟨held, asked, size, stated, nonempty, returned, size ▸ body_inside parsed, again⟩
  · intro other covers inside room same
    have parsed := parse_agrees ⟨covers, inside⟩ room same requested
    exact ⟨parsed, by rw [parseDecode, parseDecode, parsed]⟩

/-- A record of twelve bytes, whose only descriptor points right behind them. -/
def overreachingRecord (behind : Bytes) : Bytes :=
  [12, 0, 0, 0] ++ [8, 0, 0, 0, 2, 0, 0, 0] ++ behind

theorem content_behind_length_refused :
    let requested : AttributeSet := ⟨1, 0, 0, 0, 0⟩
    let bytes := overreachingRecord [0x61, 0]
    let other := overreachingRecord [0x62, 0, 0x63]
    statedLength bytes = 12 ∧ 12 ≤ bytes.length ∧ 12 ≤ other.length ∧
    other.take 12 = bytes.take 12 ∧
    (∃ record, Record.parse bytes requested = .ok record ∧ record.size = 12) ∧
    (parseDecode other requested).outcome =
      .error (.undecodable (.common .name) (.referenceOutOfBounds 4 8 2 12)) := by
  intro requested bytes other
  have stated : statedLength bytes = 12 := by decide +kernel
  have same : other.take 12 = bytes.take 12 := by decide
  have refused : (parseDecode bytes requested).outcome =
      .error (.undecodable (.common .name) (.referenceOutOfBounds 4 8 2 12)) := by
    simp only [bytes, requested]
    rfl
  obtain ⟨accepted, kept, agree⟩ := record_read_within_length bytes requested
  simp only [stated] at accepted kept agree
  obtain ⟨record, parsed⟩ := accepted.mpr ⟨by decide, by decide, by decide, by decide⟩
  obtain ⟨_, _, size, _⟩ := kept record parsed
  obtain ⟨_, decoded⟩ := agree other (by decide) (by decide) (by decide) same
  exact ⟨stated, by decide, by decide, same, ⟨record, parsed, size⟩, by rw [decoded, refused]⟩

end PackedAttributes.RecordHeader
