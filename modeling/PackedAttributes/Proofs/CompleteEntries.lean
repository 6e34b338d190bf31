import PackedAttributes.Proofs.DirectoryBatches

/-! How many entries a batch is found to hold. Entries are looked for in the whole buffer, and the
buffer is not cleared between calls: a batch that announces more entries than it brings is refused
where the buffer holds no more of them, but what an earlier batch left behind completes it. -/
namespace PackedAttributes.CompleteEntries
open Bytes ActivityOutcomes RegionContent RecordHeader DirectoryBatches

/-! ## Complete entries -/

/-- The complete entries at the start of bytes, one behind the other and no more than are asked
for. -/
def completeEntries : Nat → Bytes → List Bytes
  | 0, _ => []
  | count + 1, bytes =>
    if StartsRecord bytes then
      bytes.take (statedLength bytes) :: completeEntries count (bytes.drop (statedLength bytes))
    else []

theorem starts_record_append (starts : StartsRecord bytes) (behind : Bytes) :
    StartsRecord (bytes ++ behind) ∧ statedLength (bytes ++ behind) = statedLength bytes := by
  obtain ⟨covers, inside⟩ := starts
  have length : statedLength (bytes ++ behind) = statedLength bytes := by
    rw [statedLength, List.take_append_of_le_length (Nat.le_trans covers inside), statedLength]
  refine ⟨⟨length ▸ covers, ?_⟩, length⟩
  rw [length, List.length_append]
  exact Nat.le_add_right_of_le inside

/-- Whatever stands behind bytes, their own complete entries come first. -/
theorem complete_entries_append (count : Nat) (bytes behind : Bytes) :
    completeEntries count bytes <+: completeEntries count (bytes ++ behind) := by
  induction count generalizing bytes with
  | zero => exact List.prefix_rfl
  | succ count ih =>
    by_cases starts : StartsRecord bytes
    · obtain ⟨also, length⟩ := starts_record_append starts behind
      rw [completeEntries, if_pos starts, completeEntries, if_pos also, length,
        List.take_append_of_le_length starts.2, List.drop_append_of_le_length starts.2]
      exact List.cons_prefix_cons.mpr ⟨rfl, ih _⟩
    · rw [completeEntries, if_neg starts]
      exact List.nil_prefix

/-! ## One batch -/

/-- Decoding one entry and then those behind it. -/
theorem decode_batch_succ (region : Region) :
    (decodeBatch requested (count + 1) region).outcome =
      ((parseDecode region.toBytes requested).outcome >>= fun values =>
        (decodeBatch requested count (region.drop (statedLength region.toBytes))).outcome.map
          (values :: ·)) := by
  rw [decodeBatch, parseDecode, of_region_eq_parse]
  simp only [traced_bind_outcome, silently_outcome]
  cases parsed : Record.parse region.toBytes requested with
  | error failure => rfl
  | ok record =>
    simp only [except_ok_bind, parsed_size parsed]
    cases record.decode.outcome with
    | error failure => rfl
    | ok values =>
      cases (decodeBatch requested count
        (region.drop (statedLength region.toBytes))).outcome <;> rfl

theorem decode_batch_stops {region : Region} (misses : ¬StartsRecord region.toBytes) :
    ∃ fault, (decodeBatch requested (count + 1) region).outcome =
      .error (.malformedRecord fault) := by
  obtain ⟨fault, failed⟩ := of_region_misses misses requested
  exact ⟨fault, by
    simp only [decodeBatch, traced_bind_outcome, silently_outcome, failed, except_error_bind]⟩

theorem decodes_alone_iff :
    DecodesAlone requested entry values ↔ (parseDecode entry requested).outcome = .ok values := by
  rw [parseDecode, traced_bind_outcome, silently_outcome, except_bind_ok_iff]
  rfl

/-- A complete entry is decoded as if it were alone, and decoding goes on behind it. -/
theorem decode_batch_starts {region : Region} (starts : StartsRecord region.toBytes) :
    let bytes := region.toBytes
    (decodeBatch requested (count + 1) region).outcome =
      ((parseDecode (bytes.take (statedLength bytes)) requested).outcome >>= fun values =>
        (decodeBatch requested count (region.drop (statedLength bytes))).outcome.map (values :: ·)) := by
  intro bytes
  rw [decode_batch_succ, decode_leading starts]

/-- A region with fewer complete entries than are asked for is refused. If all of these can be decoded,
it is what stands behind them that is malformed. -/
theorem decode_batch_short {region : Region}
    (short : (completeEntries count region.toBytes).length < count) :
    ∃ failure, (decodeBatch requested count region).outcome = .error failure ∧
      ((∀ entry ∈ completeEntries count region.toBytes, ∃ values,
        DecodesAlone requested entry values) → ∃ fault, failure = .malformedRecord fault) := by
  -- Each entry moves the start of the region, so the region is general in the induction.
  induction count generalizing region with
  | zero => exact absurd short (Nat.not_lt_zero _)
  | succ count ih =>
    by_cases starts : StartsRecord region.toBytes
    · rw [completeEntries, if_pos starts, ← drop_content] at short ⊢
      obtain ⟨later, failed, malformed⟩ := ih (Nat.lt_of_succ_lt_succ short)
      rw [decode_batch_starts starts, failed]
      cases decoded : (parseDecode (region.toBytes.take (statedLength region.toBytes))
          requested).outcome with
      | ok values => exact ⟨later, rfl, fun sound => malformed (List.forall_mem_cons.mp sound).2⟩
      | error failure =>
        refine ⟨failure, rfl, fun sound => ?_⟩
        obtain ⟨values, alone⟩ := (List.forall_mem_cons.mp sound).1
        rw [decodes_alone_iff, decoded] at alone
        cases alone
    · obtain ⟨fault, failed⟩ := decode_batch_stops starts
      exact ⟨_, failed, fun _ => ⟨fault, rfl⟩⟩

/-- A region with enough complete entries is taken for a batch of them. -/
theorem decode_batch_complete {region : Region} {batch : List Entry}
    (held : completeEntries batch.length region.toBytes = batch.map Prod.fst)
    (sound : ∀ entry ∈ batch, DecodesAlone requested entry.1 entry.2) :
    (decodeBatch requested batch.length region).outcome = .ok (batch.map Prod.snd) := by
  induction batch generalizing region with
  | nil => rfl
  | cons entry rest ih =>
    obtain ⟨own, others⟩ := List.forall_mem_cons.mp sound
    rw [List.length_cons, List.map_cons, completeEntries] at held
    by_cases starts : StartsRecord region.toBytes
    · rw [if_pos starts, ← drop_content] at held
      obtain ⟨front, behind⟩ := List.cons.inj held
      rw [List.length_cons, decode_batch_starts starts, front, decodes_alone_iff.mp own,
        except_ok_bind, ih behind others]
      rfl
    · rw [if_neg starts] at held
      cases held

/-! ## Whole runs -/

/-- What a reply leaves in a buffer. -/
def leftBy (buffer : Bytes) : Reply → Bytes
  | .failure _ => buffer
  | .success written _ => written.take buffer.length ++ buffer.drop written.length

theorem left_by_length (buffer : Bytes) (reply : Reply) :
    (leftBy buffer reply).length = buffer.length := by
  cases reply with
  | failure error => rfl
  | success written count =>
    rw [leftBy, List.length_append, List.length_take, List.length_drop]
    omega

theorem left_by_all_length (buffer : Bytes) (script : Script) :
    (script.foldl leftBy buffer).length = buffer.length := by
  induction script generalizing buffer with
  | nil => rfl
  | cons reply rest ih => rw [List.foldl_cons, ih, left_by_length]

theorem overwrite_left (buffer : Region) (written : Bytes) (count : Nat) :
    (buffer.overwrite written).toBytes = leftBy buffer.toBytes (.success written count) := by
  rw [overwrite_cut, leftBy, region_length]

/-- Where the first replies do not end the directory, reading goes on behind them with what they left
in the buffer. -/
theorem read_batches_append (reader : DirectoryReader) (directory : Int32) (request : Request)
    {earlier : Script} (going : ∀ bytes, .success bytes 0 ∉ earlier) (buffer : Region) :
    ∃ left : Region, left.toBytes = earlier.foldl leftBy buffer.toBytes ∧ ∀ found rest,
      (reader.readBatches directory request buffer found (earlier ++ rest)).traced.outcome =
        ((reader.readBatches directory request buffer found earlier).traced.outcome >>= fun all =>
          (reader.readBatches directory request left all rest).traced.outcome) := by
  induction earlier generalizing buffer with
  | nil => exact ⟨buffer, rfl, fun _ _ => rfl⟩
  | cons reply earlier ih =>
    have further : ∀ bytes, .success bytes 0 ∉ earlier := fun bytes member =>
      going bytes (List.mem_cons_of_mem _ member)
    cases reply with
    | failure error =>
      -- Reading ends here, whatever follows; the buffer only has to be some region.
      obtain ⟨left, content, _⟩ := ih further buffer
      exact ⟨left, content, fun _ _ => rfl⟩
    | success written count =>
      have some : count ≠ 0 := by
        rintro rfl
        exact going written List.mem_cons_self
      obtain ⟨left, content, goes_on⟩ := ih further (buffer.overwrite written)
      refine ⟨left, by rw [content, List.foldl_cons, overwrite_left buffer written count], ?_⟩
      intro found rest
      rw [List.cons_append, read_batches_batch reader buffer written some,
        read_batches_batch reader buffer written some]
      cases (decodeBatch request.attributes count (buffer.overwrite written)).outcome with
      | error failure => rfl
      | ok values => exact goes_on (found ++ values) rest

/-- A directory is read with a cleared buffer, by a request that asks which attributes are
returned. -/
theorem read_continues {reader : DirectoryReader} (room : 4 ≤ reader.bufferSize)
    (built : (Request.build selection options).outcome = .ok request) (script : Script) :
    let read := reader.read directory selection options script
    let run := reader.readBatches directory request.withReturnedAttributes
      (Region.zeroed reader.bufferSize) [] script
    read.calls = run.calls ∧ read.traced.outcome = run.traced.outcome ∧ read.state = run.state := by
  have enough : ¬reader.bufferSize < lengthPrefixSize := Nat.not_lt.mpr room
  rw [DirectoryReader.read, if_neg enough]
  exact bind_continues (quiet_yields built script) fun request script =>
    reader.readBatches directory request.withReturnedAttributes (Region.zeroed reader.bufferSize) []
      script

theorem read_outcome {reader : DirectoryReader} (room : 4 ≤ reader.bufferSize)
    (built : (Request.build selection options).outcome = .ok request) (script : Script) :
    (reader.read directory selection options script).traced.outcome =
      (reader.readBatches directory request.withReturnedAttributes
        (Region.zeroed reader.bufferSize) [] script).traced.outcome :=
  (read_continues room built script).2.1

/-- A batch is taken exactly as far as the buffer holds complete entries. If it announces more of
them, the reading fails. It does not count what the call itself wrote: entries that an earlier call
left behind those of the batch complete it. -/
theorem announced_entries_counted_in_buffer (reader : DirectoryReader) (directory : Int32)
    (selection : Selection) (options : Options) (request : Request) (room : 4 ≤ reader.bufferSize)
    (built : (Request.build selection options).outcome = .ok request) (earlier : Script)
    (going : ∀ bytes, .success bytes 0 ∉ earlier) (bytes : Bytes) (count : Nat) (some : count ≠ 0) :
    let requested := request.withReturnedAttributes.attributes
    let outcome (script : Script) :=
      (reader.read directory selection options script).traced.outcome
    let cleared : Bytes := List.replicate reader.bufferSize 0
    let buffer := (earlier ++ [Reply.success bytes count]).foldl leftBy cleared
    let complete := completeEntries count buffer
    completeEntries count (bytes.take reader.bufferSize) <+: complete ∧
    (complete.length < count → ∀ rest,
      ∃ failure, outcome (earlier ++ .success bytes count :: rest) = .error failure ∧
        ∀ found, outcome earlier = .ok found →
          (∀ entry ∈ complete, ∃ values, DecodesAlone requested entry values) →
            ∃ fault, failure = .malformedRecord fault) ∧
    (∀ found (batch : List Entry), outcome earlier = .ok found → batch.length = count →
      complete = batch.map Prod.fst →
      (∀ entry ∈ batch, DecodesAlone requested entry.1 entry.2) →
        outcome (earlier ++ [.success bytes count]) = .ok (found ++ batch.map Prod.snd)) := by
  intro requested outcome cleared buffer complete
  obtain ⟨left, content, goes_on⟩ := read_batches_append reader directory
    request.withReturnedAttributes going (Region.zeroed reader.bufferSize)
  have held : (left.overwrite bytes).toBytes = buffer := by
    rw [overwrite_left left bytes count, content]
    simp only [buffer, cleared, List.foldl_append, List.foldl_cons, List.foldl_nil]
    rfl
  have size : left.size = reader.bufferSize := by
    rw [← region_length, content, left_by_all_length, region_length]
    rfl
  -- The batch is decoded from what the earlier replies left, not from its own bytes.
  have decided (rest : Script) : outcome (earlier ++ .success bytes count :: rest) =
      (outcome earlier >>= fun found =>
        (decodeBatch requested count (left.overwrite bytes)).outcome >>= fun values =>
          (reader.readBatches directory request.withReturnedAttributes (left.overwrite bytes)
            (found ++ values) rest).traced.outcome) := by
    simp only [outcome, read_outcome room built, goes_on, read_batches_batch reader left bytes some]
    rfl
  refine ⟨?_, ?_, ?_⟩
  · simp only [complete, ← held, overwrite_cut, size]
    exact complete_entries_append ..
  · intro short rest
    simp only [complete, ← held] at short ⊢
    obtain ⟨later, failed, malformed⟩ : ∃ failure,
        (decodeBatch requested count (left.overwrite bytes)).outcome = .error failure ∧ _ :=
      decode_batch_short short
    rw [decided rest, failed]
    cases outcome earlier with
    | error failure => exact ⟨failure, rfl, nofun⟩
    | ok found => exact ⟨later, rfl, fun _ _ => malformed⟩
  · rintro found batch before rfl whole sound
    simp only [complete, ← held] at whole
    rw [decided [], before, except_ok_bind, decode_batch_complete whole sound]
    rfl

/-- A third entry is found neither in the batch nor in what the earlier one left behind it. -/
theorem missing_entry_refused :
    let read := (DirectoryReader.mk 64).read 3 ⟨[.common .name]⟩ .none
    let earlier : Script := [batchReply [namedEntry, bareEntry]]
    (read earlier).traced.outcome = .ok [namedEntry.2, bareEntry.2] ∧
    ∃ fault, (read (earlier ++ [.success namedEntry.1 3])).traced.outcome =
      .error (.malformedRecord fault) := by
  intro read earlier
  have before : (read earlier).traced.outcome = .ok [namedEntry.2, bareEntry.2] :=
    to_option_ok_iff.mp (by decide +kernel)
  have going : ∀ bytes, .success bytes 0 ∉ earlier := by simp [earlier, batchReply]
  have complete : completeEntries 3 ((earlier ++ [Reply.success namedEntry.1 3]).foldl leftBy
      (List.replicate 64 0)) = [namedEntry.1, bareEntry.1] := by decide +kernel
  have sound : ∀ entry ∈ [namedEntry.1, bareEntry.1], ∃ values,
      DecodesAlone ⟨0x80000001, 0, 0, 0, 0⟩ entry values := by
    simp only [List.forall_mem_cons, decodes_alone_iff]
    exact ⟨⟨namedEntry.2, to_option_ok_iff.mp (by decide +kernel)⟩,
      ⟨bareEntry.2, to_option_ok_iff.mp (by decide +kernel)⟩, nofun⟩
  obtain ⟨_, refused, _⟩ := announced_entries_counted_in_buffer ⟨64⟩ 3 ⟨[.common .name]⟩ .none _
    (by decide) rfl earlier going namedEntry.1 3 (by decide)
  simp only [complete] at refused
  obtain ⟨failure, failed, malformed⟩ := refused (by decide) []
  obtain ⟨fault, rfl⟩ := malformed _ before sound
  exact ⟨before, fault, failed⟩

/-- A call that announces two entries and writes one is taken for two entries, where the earlier batch
had the same first entry: the second one is decoded once more from what that batch left behind. -/
theorem left_over_entry_decoded_again :
    let read := (DirectoryReader.mk 64).read 3 ⟨[.common .name]⟩ .none
    completeEntries 2 namedEntry.1 = [namedEntry.1] ∧
    (read [batchReply [namedEntry, bareEntry], .success namedEntry.1 2]).traced.outcome =
      .ok [namedEntry.2, bareEntry.2, namedEntry.2, bareEntry.2] :=
  ⟨by decide +kernel, to_option_ok_iff.mp (by decide +kernel)⟩

end PackedAttributes.CompleteEntries
