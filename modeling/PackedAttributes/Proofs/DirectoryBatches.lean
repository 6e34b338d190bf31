import PackedAttributes.DirectoryReader
import PackedAttributes.Proofs.RecordHeader

/-! Reading a directory neither loses nor mixes up entries. The buffer is reused without being
cleared, so one batch is considered in front of arbitrary bytes: what an earlier batch left behind
and what belongs to the next entry are the same to the entry that is being decoded. -/
namespace PackedAttributes.DirectoryBatches
open ActivityOutcomes RegionContent RecordHeader

/-! ## Entries -/

/-- Bytes with nothing around them are decoded to the values. -/
def DecodesAlone (requested : AttributeSet) (entry : Bytes) (values : AttributeValues) : Prop :=
  ∃ record, Record.parse entry requested = .ok record ∧ record.decode.outcome = .ok values

/-- The bytes of an entry with what they are decoded to. -/
abbrev Entry := Bytes × AttributeValues

/-- An entry as a batch may hold it: it states its own length and can be decoded on its own. -/
def Sound (requested : AttributeSet) (entry : Entry) : Prop :=
  StatesLength entry.1 ∧ DecodesAlone requested entry.1 entry.2

/-- The bytes of entries, one behind the other. -/
def written (batch : List Entry) : Bytes :=
  batch.flatMap Prod.fst

theorem parsed_bytes (states : StatesLength entry)
    (parsed : Record.parse entry requested = .ok record) : record.bytes = entry := by
  rw [parse_eq_of_bytes states] at parsed
  exact (header_holds (except_map_error_ok_iff.mp parsed)).1

/-! ## Batches -/

/-- Entries at the start of a region are decoded like each of them alone, whatever stands behind. -/
theorem decode_batch_alone {batch : List Entry} {region : Region}
    (sound : ∀ entry ∈ batch, Sound requested entry)
    (starts : written batch <+: region.toBytes) :
    (decodeBatch requested batch.length region).outcome = .ok (batch.map Prod.snd) := by
  induction batch generalizing region with
  | nil => rfl
  | cons entry rest ih =>
    obtain ⟨⟨states, record, parsed, decoded⟩, others⟩ := List.forall_mem_cons.mp sound
    rw [written, List.flatMap_cons] at starts
    have front : entry.1 <+: region.toBytes := (List.prefix_append ..).trans starts
    have behind : written rest <+: (region.drop record.size).toBytes := by
      obtain ⟨after, whole⟩ := starts
      rw [drop_content, Record.size, parsed_bytes states parsed, ← whole, List.append_assoc,
        List.drop_left]
      exact List.prefix_append ..
    rw [List.length_cons, decodeBatch]
    simp only [traced_bind_outcome, silently_outcome, parse_eq_of_region states front, parsed,
      except_ok_bind, decoded, ih others behind, traced_pure_outcome, List.map_cons]

/-- A batch that fits into a buffer is found at its start, whatever the buffer held before. -/
theorem batch_written {buffer : Region} (fits : (written batch).length ≤ buffer.size) :
    written batch <+: (buffer.overwrite (written batch)).toBytes := by
  rw [overwrite_content fits]
  exact List.prefix_append ..

/-- What a kernel answers that brings a batch. -/
def batchReply (batch : List Entry) : Reply :=
  .success (written batch) batch.length

/-- Replies that end a directory: one without entries, or none at all. -/
def Ends (script : Script) : Prop :=
  script = [] ∨ ∃ bytes rest, script = .success bytes 0 :: rest

theorem read_batches_end (reader : DirectoryReader) (ends : Ends script) :
    (reader.readBatches directory request buffer found script).traced.outcome = .ok found := by
  rcases ends with rfl | ⟨bytes, rest, rfl⟩
  · rfl
  · rw [DirectoryReader.readBatches, if_pos rfl]
    rfl

/-- A batch is decoded from the whole buffer, as the batch left it. -/
theorem read_batches_batch (reader : DirectoryReader) (buffer : Region) (bytes : Bytes)
    (some : count ≠ 0) :
    (reader.readBatches directory request buffer found
      (.success bytes count :: rest)).traced.outcome =
      ((decodeBatch request.attributes count (buffer.overwrite bytes)).outcome >>= fun values =>
        (reader.readBatches directory request (buffer.overwrite bytes) (found ++ values)
          rest).traced.outcome) := by
  rw [DirectoryReader.readBatches, if_neg some]
  cases decoded : (decodeBatch request.attributes count (buffer.overwrite bytes)).outcome <;>
    simp only [decoded, except_error_bind, except_ok_bind]

/-- One batch adds the values of its entries, and reading goes on with the buffer as the batch left
it. -/
theorem read_batches_step (reader : DirectoryReader) {buffer : Region} {batch : List Entry}
    (present : batch ≠ []) (fits : (written batch).length ≤ buffer.size)
    (sound : ∀ entry ∈ batch, Sound request.attributes entry) :
    (reader.readBatches directory request buffer found (batchReply batch :: rest)).traced.outcome =
      (reader.readBatches directory request (buffer.overwrite (written batch))
        (found ++ batch.map Prod.snd) rest).traced.outcome := by
  have some : batch.length ≠ 0 := fun none => present (List.eq_nil_of_length_eq_zero none)
  rw [batchReply, read_batches_batch reader buffer _ some,
    decode_batch_alone sound (batch_written fits), except_ok_bind]

theorem read_batches_all (reader : DirectoryReader) (directory : Int32) {request : Request}
    {batches : List (List Entry)} (buffer : Region) (found : List AttributeValues)
    (present : ∀ batch ∈ batches, batch ≠ [])
    (fits : ∀ batch ∈ batches, (written batch).length ≤ buffer.size)
    (sound : ∀ entry ∈ batches.flatten, Sound request.attributes entry) (ends : Ends ending) :
    (reader.readBatches directory request buffer found
      (batches.map batchReply ++ ending)).traced.outcome =
        .ok (found ++ batches.flatten.map Prod.snd) := by
  induction batches generalizing buffer found with
  | nil => simpa using read_batches_end reader ends
  | cons batch rest ih =>
    obtain ⟨some, others⟩ := List.forall_mem_cons.mp present
    obtain ⟨room, rooms⟩ := List.forall_mem_cons.mp fits
    rw [List.flatten_cons] at sound
    have own : ∀ entry ∈ batch, Sound request.attributes entry := fun entry member =>
      sound entry (List.mem_append_left _ member)
    have further : ∀ entry ∈ rest.flatten, Sound request.attributes entry := fun entry member =>
      sound entry (List.mem_append_right _ member)
    have kept : ∀ later ∈ rest, (written later).length ≤ (buffer.overwrite (written batch)).size :=
      rooms
    rw [List.map_cons, List.cons_append, read_batches_step reader some room own,
      ih _ _ others kept further]
    simp

/-! ## Directories -/

/-- Reading a directory gives what each entry alone is decoded to, in the order in which the entries
were brought. However the same entries are divided into batches, and whatever a longer batch left in
the buffer, the result is the same. -/
theorem directory_entries_decoded_alone (reader : DirectoryReader) (directory : Int32)
    (selection : Selection) (options : Options) (request : Request) (entries : List Entry)
    (room : 4 ≤ reader.bufferSize)
    (built : (Request.build selection options).outcome = .ok request)
    (sound : ∀ entry ∈ entries, Sound request.withReturnedAttributes.attributes entry)
    (batches : List (List Entry)) (divided : batches.flatten = entries)
    (present : ∀ batch ∈ batches, batch ≠ [])
    (fits : ∀ batch ∈ batches, (written batch).length ≤ reader.bufferSize)
    (ending : Script) (ends : Ends ending) :
    (reader.read directory selection options
      (batches.map batchReply ++ ending)).traced.outcome = .ok (entries.map Prod.snd) := by
  subst divided
  have all := read_batches_all reader directory (Region.zeroed reader.bufferSize) [] present fits sound
    ends
  have whole : Yields (do
      let request ← Dialogue.quiet (Request.build selection options)
      fun script => reader.readBatches directory request.withReturnedAttributes
        (Region.zeroed reader.bufferSize) [] script)
      (batches.map batchReply ++ ending) _ _ _ :=
    bind_yields (quiet_yields built _) ⟨rfl, all, rfl⟩
  have enough : ¬reader.bufferSize < lengthPrefixSize := Nat.not_lt.mpr room
  rw [DirectoryReader.read, if_neg enough]
  exact whole.value_given

/-- An entry with a name. -/
def namedEntry : Entry :=
  (packRecord (some ⟨1, 0, 0, 0, 0⟩) [] [⟨.common .name, [0x61, 0], [0, 0]⟩],
    ⟨[(.common .name, .text "a")]⟩)

/-- An entry for which no attribute was returned. -/
def bareEntry : Entry :=
  (packRecord (some .empty) [] [], ⟨[]⟩)

theorem shorter_batch_decoded_alone :
    let selection : Selection := ⟨[.common .name]⟩
    let requested : AttributeSet := ⟨0x80000001, 0, 0, 0, 0⟩
    let batches := [[namedEntry, bareEntry], [bareEntry]]
    (∀ entry ∈ [namedEntry, bareEntry, bareEntry], Sound requested entry) ∧
    ((DirectoryReader.mk 64).read 3 selection .none
      (batches.map batchReply ++ [.success [] 0])).traced.outcome =
        .ok [namedEntry.2, bareEntry.2, bareEntry.2] := by
  intro selection requested batches
  have named : Sound requested namedEntry :=
    ⟨⟨by decide, by decide +kernel⟩, ⟨namedEntry.1, requested, some ⟨1, 0, 0, 0, 0⟩⟩,
      to_option_ok_iff.mp (by decide +kernel), to_option_ok_iff.mp (by decide +kernel)⟩
  have bare : Sound requested bareEntry :=
    ⟨⟨by decide, by decide +kernel⟩, ⟨bareEntry.1, requested, some .empty⟩,
      to_option_ok_iff.mp (by decide +kernel), to_option_ok_iff.mp (by decide +kernel)⟩
  have sound : ∀ entry ∈ [namedEntry, bareEntry, bareEntry], Sound requested entry := by
    simp only [List.forall_mem_cons]
    exact ⟨named, bare, bare, nofun⟩
  have present : ∀ batch ∈ batches, batch ≠ [] := by decide
  have fits : ∀ batch ∈ batches, (written batch).length ≤ 64 := by decide +kernel
  exact ⟨sound, directory_entries_decoded_alone ⟨64⟩ 3 selection .none _ _ (by decide) rfl sound
    batches rfl present fits _ (.inr ⟨[], [], rfl⟩)⟩

end PackedAttributes.DirectoryBatches
