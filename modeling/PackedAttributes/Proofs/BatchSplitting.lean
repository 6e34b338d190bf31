import Mathlib.Algebra.Order.BigOperators.Group.List
import Mathlib.Algebra.Order.Ring.Nat
import PackedAttributes.Proofs.CompleteEntries

/-! How far a batch of directory entries is looked at. The kernel says how many entries a batch holds
and how long each of them is, and neither number can be trusted. Entries are taken by a loop with a
running offset, in which every slice and every sum is checked; it is shown to do what decoding the
batch does. Each entry that is taken has a header of 24 bytes, so the bytes of the batch bound the
passes of the loop, however many entries are announced. -/
namespace PackedAttributes.BatchSplitting
open ActivityOutcomes RegionContent RecordHeader DirectoryBatches CompleteEntries

/-! ## The loop with its offset -/

/-- Why the splitting of a batch ends before all entries were taken. -/
inductive Halt where
  /-- An entry is refused. -/
  | refused (failure : Failure)
  /-- A slice would end behind the bytes that it is taken from. -/
  | outOfRange (length available : Nat)
  /-- A sum would be greater than an offset can be. -/
  | overflow (offset length : Nat)
  deriving DecidableEq, Repr

/-- How far the splitting of a batch has come. -/
structure Progress where
  /-- Where the next entry is looked for. -/
  offset : Nat
  /-- The entries that were there before, and behind them those that were taken. -/
  entries : List AttributeValues
  deriving DecidableEq, Repr

/-- The first bytes, where there are so many. -/
def leadingSlice (bytes : Bytes) (length : Nat) : Except Halt Bytes :=
  if length ≤ bytes.length then .ok (bytes.take length)
  else .error (.outOfRange length bytes.length)

/-- The sum of an offset and a length, where an offset can be so great. -/
def offsetBehind (greatest offset length : Nat) : Except Halt Nat :=
  if offset + length ≤ greatest then .ok (offset + length) else .error (.overflow offset length)

/-- One pass of the loop. The entry at the offset is cut out by its own length and decoded, and the
offset moves behind it. Where the offset lies behind the batch, there are no bytes. -/
def pass (greatest : Nat) (requested : AttributeSet) (bytes : Bytes) (progress : Progress) :
    Except Halt Progress := do
  let rest := bytes.drop progress.offset
  let length ← (Region.ofBytes rest).recordLength.mapError fun fault =>
    Halt.refused (.malformedRecord fault)
  let entry ← leadingSlice rest length
  let values ← (parseDecode entry requested).outcome.mapError Halt.refused
  let offset ← offsetBehind greatest progress.offset length
  return ⟨offset, progress.entries ++ [values]⟩

/-- What became of the loop. -/
structure Run where
  /-- Where each pass began. -/
  begun : List Progress
  /-- How far the loop came. What it took stays taken when it ends early. -/
  reached : Progress
  /-- Why it ended early, if it did. -/
  halted : Option Halt
  deriving DecidableEq, Repr

/-- Takes `count` entries out of a batch. -/
def split (greatest : Nat) (requested : AttributeSet) (bytes : Bytes) : Nat → Progress → Run
  | 0, progress => ⟨[], progress, none⟩
  | count + 1, progress =>
    match pass greatest requested bytes progress with
    | .error halt => ⟨[progress], progress, some halt⟩
    | .ok next =>
      let further := split greatest requested bytes count next
      { further with begun := progress :: further.begun }

/-! ## One pass -/

variable {greatest : Nat} {requested : AttributeSet} {bytes : Bytes} {progress next : Progress}

theorem told_length (starts : StartsRecord bytes) :
    (Region.ofBytes bytes).recordLength = .ok (statedLength bytes) := by
  rw [record_length_starts (by rwa [of_bytes_content]), of_bytes_content]

/-- A pass takes the entry at the offset if it can be decoded there. The slice does not end behind the
batch, and so the new offset does not lie behind it either. -/
theorem pass_takes (countable : bytes.length ≤ greatest)
    (decoded : (parseDecode (bytes.drop progress.offset) requested).outcome = .ok values) :
    pass greatest requested bytes progress =
      .ok ⟨progress.offset + statedLength (bytes.drop progress.offset),
        progress.entries ++ [values]⟩ := by
  obtain ⟨starts, _⟩ := decoded_starts decoded
  have inside : progress.offset + statedLength (bytes.drop progress.offset) ≤ greatest := by
    obtain ⟨covers, inside⟩ := starts
    rw [List.length_drop] at inside
    omega
  simp only [pass, told_length starts, leadingSlice, if_pos starts.2, decode_leading starts, decoded,
    offsetBehind, if_pos inside, Except.mapError, except_ok_bind]
  rfl

theorem pass_refuses {failure : Failure}
    (failed : (parseDecode (bytes.drop progress.offset) requested).outcome = .error failure) :
    pass greatest requested bytes progress = .error (.refused failure) := by
  by_cases starts : StartsRecord (bytes.drop progress.offset)
  · simp only [pass, told_length starts, leadingSlice, if_pos starts.2, decode_leading starts, failed,
      Except.mapError, except_ok_bind, except_error_bind]
  · rw [← of_bytes_content (bytes.drop progress.offset)] at starts
    obtain ⟨fault, misses⟩ := record_length_error starts
    simp only [parseDecode, Record.parse, Record.ofRegion, misses] at failed
    cases failed
    simp only [pass, misses, Except.mapError, except_error_bind]

theorem pass_ok_iff (countable : bytes.length ≤ greatest) :
    pass greatest requested bytes progress = .ok next ↔
      ∃ values, (parseDecode (bytes.drop progress.offset) requested).outcome = .ok values ∧
        ⟨progress.offset + statedLength (bytes.drop progress.offset),
          progress.entries ++ [values]⟩ = next := by
  cases decoded : (parseDecode (bytes.drop progress.offset) requested).outcome with
  | ok values => simp [pass_takes countable decoded]
  | error failure => simp [pass_refuses decoded]

/-- A pass moves the offset by no less than a header with a set of returned attributes, and not behind
the batch. -/
theorem pass_moves (countable : bytes.length ≤ greatest)
    (asked : requested.contains .returnedAttributes = true)
    (passed : pass greatest requested bytes progress = .ok next) :
    progress.offset + 24 ≤ next.offset ∧ next.offset ≤ bytes.length := by
  obtain ⟨values, decoded, rfl⟩ := (pass_ok_iff countable).mp passed
  obtain ⟨⟨covers, inside⟩, header⟩ := decoded_starts decoded
  have wide := header asked
  rw [List.length_drop] at inside
  constructor
  · exact Nat.add_le_add_left wide _
  · simp only
    omega

/-! ## Entries in front of the offset -/

/-- The entries of a batch stand one behind the other in front of the offset, and what each of them
alone is decoded to was added in order. -/
structure Taken (requested : AttributeSet) (bytes : Bytes) (found : List AttributeValues)
    (batch : List Entry) (progress : Progress) : Prop where
  /-- Each entry states its length and can be decoded on its own. -/
  sound : ∀ entry ∈ batch, Sound requested entry
  /-- The offset lies in the batch. -/
  inside : progress.offset ≤ bytes.length
  /-- Nothing but the entries stands in front of it. -/
  in_front : bytes.take progress.offset = written batch
  /-- The offset is the sum of the lengths that the entries state. -/
  offset_eq : progress.offset = (batch.map fun entry => statedLength entry.1).sum
  /-- Nothing but the entries was added. -/
  entries_eq : progress.entries = found ++ batch.map Prod.snd

theorem start_taken (requested : AttributeSet) (bytes : Bytes) (found : List AttributeValues) :
    Taken requested bytes found [] ⟨0, found⟩ where
  sound := nofun
  inside := Nat.zero_le _
  in_front := rfl
  offset_eq := rfl
  entries_eq := (List.append_nil found).symm

/-- A pass takes one entry more. -/
theorem pass_taken {batch : List Entry} (countable : bytes.length ≤ greatest)
    (taken : Taken requested bytes found batch progress)
    (passed : pass greatest requested bytes progress = .ok next) :
    ∃ entry, Taken requested bytes found (batch ++ [entry]) next := by
  obtain ⟨values, decoded, rfl⟩ := (pass_ok_iff countable).mp passed
  obtain ⟨starts, _⟩ := decoded_starts decoded
  let length := statedLength (bytes.drop progress.offset)
  let entry : Entry := ((bytes.drop progress.offset).take length, values)
  have own : Sound requested entry :=
    ⟨leading_states_length starts, decodes_alone_iff.mpr (decode_leading starts ▸ decoded)⟩
  have stated : statedLength entry.1 = length := stated_length_take _ starts.1
  refine ⟨entry, ⟨?sound, ?inside, ?in_front, ?offset, ?entries⟩⟩
  case sound => exact List.forall_mem_append.mpr ⟨taken.sound, List.forall_mem_singleton.mpr own⟩
  case inside =>
    have room := taken.inside
    have within := starts.2
    rw [List.length_drop] at within
    simp only
    omega
  case in_front => simp [List.take_add, taken.in_front, written, entry, length]
  case offset =>
    rw [List.map_append, List.sum_append, ← taken.offset_eq, List.map_singleton,
      List.sum_singleton, stated]
  case entries => simp [taken.entries_eq, entry]

/-- Each entry that was taken states at least the length of a header with a set of returned
attributes. -/
theorem taken_wide {batch : List Entry} (asked : requested.contains .returnedAttributes = true)
    (taken : Taken requested bytes found batch progress) :
    batch.length * 24 ≤ progress.offset := by
  have wide : ∀ length ∈ batch.map fun entry => statedLength entry.1, 24 ≤ length := by
    intro length member
    obtain ⟨entry, among, rfl⟩ := List.mem_map.mp member
    exact (decoded_starts (decodes_alone_iff.mp (taken.sound entry among).2)).2 asked
  have sum := List.card_nsmul_le_sum _ _ wide
  rwa [List.length_map, Nat.nsmul_eq_mul, ← taken.offset_eq] at sum

theorem taken_few {batch : List Entry} (asked : requested.contains .returnedAttributes = true)
    (taken : Taken requested bytes found batch progress) : batch.length ≤ bytes.length / 24 :=
  (Nat.le_div_iff_mul_le (by decide)).mpr (Nat.le_trans (taken_wide asked taken) taken.inside)

/-! ## The whole loop -/

/-- What every pass keeps holds wherever a pass begins and where the loop ends. -/
theorem split_keeps {Kept : Progress → Prop}
    (step : ∀ progress next, Kept progress → pass greatest requested bytes progress = .ok next →
      Kept next) (count : Nat) (start : Kept progress) :
    let run := split greatest requested bytes count progress
    ∀ reached ∈ run.reached :: run.begun, Kept reached := by
  induction count generalizing progress with
  | zero => simpa [split] using start
  | succ count ih =>
    rw [split]
    cases passed : pass greatest requested bytes progress with
    | error halt => simpa using start
    | ok next =>
      obtain ⟨reached, begun⟩ := List.forall_mem_cons.mp (ih (step progress next start passed))
      exact List.forall_mem_cons.mpr ⟨reached, List.forall_mem_cons.mpr ⟨start, begun⟩⟩

/-- Wherever a pass begins and where the loop ends, entries were taken from the start of the batch
on. -/
theorem split_taken (countable : bytes.length ≤ greatest) (count : Nat)
    (found : List AttributeValues) :
    let run := split greatest requested bytes count ⟨0, found⟩
    ∀ progress ∈ run.reached :: run.begun, ∃ batch, Taken requested bytes found batch progress := by
  refine split_keeps ?_ count ⟨[], start_taken requested bytes found⟩
  rintro progress next ⟨batch, taken⟩ passed
  obtain ⟨entry, more⟩ := pass_taken countable taken passed
  exact ⟨batch ++ [entry], more⟩

/-- How a loop for `count` entries ends that adds the values, beside what comes of decoding the batch.
Every pass adds an entry but one that is refused, and that one is the last. -/
inductive Ended (count : Nat) (run : Run) (values : List AttributeValues)
    (outcome : Except Failure (List AttributeValues)) : Prop where
  | complete (whole : run.halted = none) (begun : run.begun.length = count)
      (all : values.length = count) (given : outcome = .ok values)
  | early {failure : Failure} (refused : run.halted = some (.refused failure))
      (begun : run.begun.length = values.length + 1) (some : values.length < count)
      (told : outcome = .error failure)

theorem ended_passes (ended : Ended count run values outcome) :
    run.begun.length ≤ values.length + 1 := by
  cases ended with
  | complete _ begun all => exact Nat.le_succ_of_le (Nat.le_of_eq (begun.trans all.symm))
  | early _ begun => exact Nat.le_of_eq begun

/-- From wherever it starts, the loop does what decoding the rest of the batch does. -/
theorem split_ended (countable : bytes.length ≤ greatest) (count : Nat) (progress : Progress)
    {region : Region} (left : region.toBytes = bytes.drop progress.offset) :
    let run := split greatest requested bytes count progress
    ∃ values, run.reached.entries = progress.entries ++ values ∧
      Ended count run values (decodeBatch requested count region).outcome := by
  -- Every pass moves the offset, so the progress and what is left of the batch are general.
  induction count generalizing progress region with
  | zero => exact ⟨[], (List.append_nil _).symm, .complete rfl rfl rfl rfl⟩
  | succ count ih =>
    rw [decode_batch_succ, left, split]
    cases decoded : (parseDecode (bytes.drop progress.offset) requested).outcome with
    | error failure =>
      rw [pass_refuses decoded]
      exact ⟨[], (List.append_nil _).symm, .early rfl rfl (Nat.succ_pos count) rfl⟩
    | ok first =>
      rw [pass_takes countable decoded, except_ok_bind]
      have behind : (region.drop (statedLength (bytes.drop progress.offset))).toBytes =
          bytes.drop (progress.offset + statedLength (bytes.drop progress.offset)) := by
        rw [drop_content, left, List.drop_drop]
      obtain ⟨values, added, ended⟩ := ih ⟨_, progress.entries ++ [first]⟩ behind
      refine ⟨first :: values, added.trans (List.append_assoc ..), ?_⟩
      cases ended with
      | complete whole begun all given =>
        exact .complete whole (congrArg Nat.succ begun) (congrArg Nat.succ all) (by rw [given]; rfl)
      | early refused begun some told =>
        exact .early refused (congrArg Nat.succ begun) (Nat.succ_lt_succ some) (by rw [told]; rfl)

/-! ## Batches -/

/-- The loop over a whole batch ends like the decoding of the batch, behind the entries that it
took. -/
theorem split_reaches (requested : AttributeSet) {region : Region}
    (countable : region.size ≤ greatest) (count : Nat) (found : List AttributeValues) :
    let run := split greatest requested region.toBytes count ⟨0, found⟩
    ∃ batch, Taken requested region.toBytes found batch run.reached ∧
      Ended count run (batch.map Prod.snd) (decodeBatch requested count region).outcome := by
  intro run
  rw [← region_length] at countable
  obtain ⟨batch, taken⟩ := split_taken countable count found run.reached List.mem_cons_self
  obtain ⟨values, added, ended⟩ := split_ended countable count ⟨0, found⟩ rfl
  exact ⟨batch, taken, List.append_cancel_left (taken.entries_eq.symm.trans added) ▸ ended⟩

/-- The headers of the entries of a batch that is decoded fit into it. -/
theorem decoded_batch_fits {region : Region} (asked : requested.contains .returnedAttributes = true)
    (decoded : (decodeBatch requested count region).outcome = .ok values) :
    count * 24 ≤ region.size := by
  obtain ⟨batch, taken, ended⟩ := split_reaches requested (Nat.le_refl region.size) count []
  cases ended with
  | complete whole begun all given =>
    rw [List.length_map] at all
    rw [← all, ← region_length region]
    exact Nat.le_trans (taken_wide asked taken) taken.inside
  | early refused begun some told => cases decoded.symm.trans told

/-- Behind an entry that is refused, no further entry is looked at. -/
theorem refused_batch_settled {region : Region} {failure : Failure}
    (failed : (decodeBatch requested count region).outcome = .error failure) (more : Nat) :
    decodeBatch requested (count + more) region = decodeBatch requested count region := by
  induction count generalizing region failure with
  | zero => cases failed
  | succ count ih =>
    rw [Nat.succ_add, decodeBatch, decodeBatch]
    refine traced_bind_congr fun record parsed => traced_bind_congr fun entry decoded => ?_
    rw [silently_outcome] at parsed
    simp only [decodeBatch, traced_bind_outcome, silently_outcome, parsed, decoded,
      except_ok_bind] at failed
    cases behind : (decodeBatch requested count (region.drop record.size)).outcome with
    | ok values =>
      rw [behind] at failed
      cases failed
    | error refused => rw [ih behind]

/-- A batch without room for the entries that it announces is refused, and a greater number of them
changes nothing. -/
theorem overstated_batch_settled {region : Region}
    (asked : requested.contains .returnedAttributes = true) (overstated : region.size < count * 24) :
    (∃ failure, (decodeBatch requested count region).outcome = .error failure) ∧
      decodeBatch requested count region = decodeBatch requested (region.size / 24 + 1) region := by
  have refused (number : Nat) (overstated : region.size < number * 24) :
      ∃ failure, (decodeBatch requested number region).outcome = .error failure := by
    cases decoded : (decodeBatch requested number region).outcome with
    | error failure => exact ⟨failure, rfl⟩
    | ok values => exact absurd (decoded_batch_fits asked decoded) (Nat.not_le.mpr overstated)
  obtain ⟨failure, failed⟩ := refused (region.size / 24 + 1) (by omega)
  obtain ⟨more, rfl⟩ : ∃ more, count = region.size / 24 + 1 + more :=
    Nat.exists_eq_add_of_le (by omega)
  exact ⟨refused _ overstated, refused_batch_settled failed more⟩

/-- Splitting a batch stays inside it and ends early, whatever number of entries is announced. Offsets
are numbers up to `greatest`, and so is the size of the batch. Before every pass and at the end,
nothing but the entries taken so far stands in front of the offset, so no slice and no sum is out of
range, and only an entry that is refused ends the loop early. Every entry takes at least 24 bytes,
which bounds the entries and the passes: any number of entries that is too great is refused like the
smallest one. A loop that ends with all entries took exactly as many as were announced and added them
in order. -/
theorem batch_split_in_bounds (batch : Region) (requested : AttributeSet)
    (asked : requested.contains .returnedAttributes = true) (greatest : Nat)
    (countable : batch.size ≤ greatest) (count : Nat) (found : List AttributeValues) :
    let bytes := batch.toBytes
    let decoding (count : Nat) := decodeBatch requested count batch
    let run := split greatest requested bytes count ⟨0, found⟩
    (∀ progress ∈ run.reached :: run.begun, progress.offset ≤ bytes.length ∧
      ∃ taken, taken.length ≤ bytes.length / 24 ∧ Taken requested bytes found taken progress) ∧
    (∀ progress next, pass greatest requested bytes progress = .ok next →
      progress.offset + 24 ≤ next.offset ∧ next.offset ≤ bytes.length) ∧
    (∀ halt, run.halted = some halt →
      ∃ failure, halt = .refused failure ∧ (decoding count).outcome = .error failure) ∧
    run.begun.length ≤ bytes.length / 24 + 1 ∧
    (bytes.length < count * 24 →
      (∃ failure, run.halted = some (.refused failure)) ∧
      decoding count = decoding (bytes.length / 24 + 1)) ∧
    (run.halted = none → ∃ taken, taken.length = count ∧
      Taken requested bytes found taken run.reached ∧
      (decoding count).outcome = .ok (taken.map Prod.snd)) := by
  intro bytes decoding run
  have size : bytes.length = batch.size := region_length batch
  have room : bytes.length ≤ greatest := size ▸ countable
  obtain ⟨taken, reached, ended⟩ : ∃ taken, Taken requested bytes found taken run.reached ∧
    Ended count run (taken.map Prod.snd) (decoding count).outcome :=
      split_reaches requested countable count found
  refine ⟨?_, fun _ _ => pass_moves room asked, ?_, ?_, ?_, ?_⟩
  · intro progress among
    obtain ⟨before, stood⟩ := split_taken room count found progress among
    exact ⟨stood.inside, before, taken_few asked stood, stood⟩
  · intro halt halted
    cases ended with
    | complete whole => cases whole.symm.trans halted
    | early refused _ _ told =>
      cases refused.symm.trans halted
      exact ⟨_, rfl, told⟩
  · have passes := ended_passes ended
    rw [List.length_map] at passes
    exact Nat.le_trans passes (Nat.succ_le_succ (taken_few asked reached))
  · intro overstated
    rw [size] at overstated ⊢
    obtain ⟨⟨failure, failed⟩, settled⟩ := overstated_batch_settled asked overstated
    refine ⟨?_, settled⟩
    cases ended with
    | complete _ _ _ given => cases given.symm.trans failed
    | early refused => exact ⟨_, refused⟩
  · intro whole
    cases ended with
    | complete _ _ all given => exact ⟨taken, List.length_map _ ▸ all, reached, given⟩
    | early refused => cases whole.symm.trans refused

/-- A batch of two entries in a buffer of 64 bytes. If as many entries are announced as a word can
say, the loop ends with its third pass. -/
theorem greatest_number_refused_early :
    let requested : AttributeSet := ⟨0x80000001, 0, 0, 0, 0⟩
    let batch := (Region.zeroed 64).overwrite (written [namedEntry, bareEntry])
    let greatest := 2 ^ 64 - 1
    let run (count : Nat) := split greatest requested batch.toBytes count ⟨0, [bareEntry.2]⟩
    (∃ failure, (run greatest).halted = some (.refused failure)) ∧
    (run greatest).begun.length ≤ 3 ∧
    decodeBatch requested greatest batch = decodeBatch requested 3 batch ∧
    (run 2).halted = none ∧ (run 2).reached = ⟨60, [bareEntry.2, namedEntry.2, bareEntry.2]⟩ ∧
    ∃ taken : List Entry, taken.length = 2 ∧
      (decodeBatch requested 2 batch).outcome = .ok (taken.map Prod.snd) := by
  intro requested batch greatest run
  have size : batch.toBytes.length = 64 := region_length batch
  have limit : batch.toBytes.length / 24 + 1 = 3 := by rw [size]
  have bounds (count : Nat) := batch_split_in_bounds batch requested (by decide) greatest (by decide)
    count [bareEntry.2]
  obtain ⟨_, _, _, passes, overstated, _⟩ := bounds greatest
  rw [limit] at passes overstated
  rw [size] at overstated
  obtain ⟨refused, settled⟩ := overstated (by decide)
  obtain ⟨_, _, _, _, _, complete⟩ := bounds 2
  have whole : (run 2).halted = none := by decide +kernel
  obtain ⟨taken, two, _, decoded⟩ := complete whole
  exact ⟨refused, passes, settled, whole, by decide +kernel, taken, two, decoded⟩

end PackedAttributes.BatchSplitting
