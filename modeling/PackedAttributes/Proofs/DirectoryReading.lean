import PackedAttributes.Proofs.CompleteEntries
import PackedAttributes.Proofs.RecordDecoding
import PackedAttributes.Proofs.SelectionFolding

/-! Where the reading of a directory ends, and with what. Calls are numbered, and so are the entries
in the buffer as each call leaves it. The first call that fails, brings no entries or brings one that
cannot be decoded is the last one, and only an end without a problem gives the entries of all calls
before it. -/
namespace PackedAttributes.DirectoryReading
open Bytes ActivityOutcomes CatalogMasks RequestMasks RegionContent RecordHeader RecordDecoding
open SelectionFolding DirectoryBatches CompleteEntries

/-! ## Entries -/

/-- The bytes from an entry on, where the entries before it end as their lengths tell. -/
def entryFrom : Bytes → Nat → Bytes
  | bytes, 0 => bytes
  | bytes, position + 1 => entryFrom (bytes.drop (statedLength bytes)) position

/-- What comes of decoding the entry at a position. -/
def entryAt (requested : AttributeSet) (bytes : Bytes) (position : Nat) :
    Except Failure AttributeValues :=
  (parseDecode (entryFrom bytes position) requested).outcome

def Decodable (requested : AttributeSet) (bytes : Bytes) (position : Nat) : Prop :=
  ∃ values, entryAt requested bytes position = .ok values

/-- The values of the first entries. -/
def entriesOf (requested : AttributeSet) (bytes : Bytes) (count : Nat) : List AttributeValues :=
  (List.range count).filterMap fun position => (entryAt requested bytes position).toOption

theorem entries_of_succ (first : entryAt requested bytes 0 = .ok values) (count : Nat) :
    entriesOf requested bytes (count + 1) =
      values :: entriesOf requested (bytes.drop (statedLength bytes)) count := by
  rw [entriesOf, List.range_succ_eq_map, List.filterMap_cons, first, List.filterMap_map]
  rfl

/-- The length of an entry covers itself and the set of returned attributes, and lies inside the
bytes. -/
def HeaderFits (bytes : Bytes) : Prop :=
  StartsRecord bytes ∧ 24 ≤ statedLength bytes

/-- The failure is of the kind of what is wrong with the entry at the start of bytes. -/
inductive Blames (bytes : Bytes) : Failure → Prop where
  | header (misfit : ¬HeaderFits bytes) (fault : Fault) : Blames bytes (.malformedRecord fault)
  | unknown (fits : HeaderFits bytes) (category : Category) (bits : UInt32) :
      Blames bytes (.unknownAttributes category bits)
  | field (fits : HeaderFits bytes) (attr : Attribute) (fault : Fault) :
      Blames bytes (.undecodable attr fault)

theorem failure_blames {failure : Failure} (asked : requested.contains .returnedAttributes = true)
    (failed : (parseDecode bytes requested).outcome = .error failure) : Blames bytes failure := by
  have readable : (∃ record, Record.parse bytes requested = .ok record) ↔ HeaderFits bytes := by
    rw [parse_exists_iff, asked, HeaderFits]
    simp
  rw [parseDecode, traced_bind_outcome, silently_outcome] at failed
  cases parsed : Record.parse bytes requested with
  | error refused =>
    obtain ⟨fault, rfl⟩ := of_region_error parsed
    rw [parsed] at failed
    cases failed
    refine .header (fun fits => ?_) fault
    obtain ⟨record, header⟩ := readable.mpr fits
    rw [parsed] at header
    cases header
  | ok record =>
    have fits := readable.mp ⟨record, parsed⟩
    rw [parsed, except_ok_bind] at failed
    cases found : record.present.unknown? with
    | some report =>
      rw [Record.decode, found] at failed
      cases failed
      exact .unknown fits report.1 report.2
    | none =>
      obtain ⟨attr, fault, rfl⟩ := catalogued_failure (unknown_eq_none_iff.mp found) failed
      exact .field fits attr fault

/-! ## Batches -/

/-- A batch is taken only if each of its entries can be decoded, and gives their values in order. -/
theorem decode_batch_ok {region : Region}
    (decoded : (decodeBatch requested count region).outcome = .ok values) :
    (∀ position < count, Decodable requested region.toBytes position) ∧
      values = entriesOf requested region.toBytes count := by
  induction count generalizing region values with
  | zero =>
    cases decoded
    exact ⟨nofun, rfl⟩
  | succ count ih =>
    rw [decode_batch_succ, except_bind_ok_iff] at decoded
    obtain ⟨first, own, behind⟩ := decoded
    obtain ⟨rest, further, rfl⟩ := except_map_ok_iff.mp behind
    obtain ⟨others, rfl⟩ := ih further
    rw [drop_content] at others ⊢
    exact ⟨Nat.forall_lt_succ_left.mpr ⟨⟨first, own⟩, others⟩, (entries_of_succ own count).symm⟩

/-- A batch that is refused is refused for the first of its entries that cannot be decoded. -/
theorem decode_batch_error {region : Region} {failure : Failure}
    (failed : (decodeBatch requested count region).outcome = .error failure) :
    ∃ position < count, (∀ earlier < position, Decodable requested region.toBytes earlier) ∧
      entryAt requested region.toBytes position = .error failure := by
  induction count generalizing region with
  | zero => cases failed
  | succ count ih =>
    rw [decode_batch_succ] at failed
    cases own : (parseDecode region.toBytes requested).outcome with
    | error refused =>
      rw [own] at failed
      cases failed
      exact ⟨0, Nat.succ_pos count, nofun, own⟩
    | ok first =>
      rw [own, except_ok_bind, except_map_error_iff] at failed
      obtain ⟨position, inside, earlier, bad⟩ := ih failed
      rw [drop_content] at earlier bad
      exact ⟨position + 1, Nat.succ_lt_succ inside,
        Nat.forall_lt_succ_left.mpr ⟨⟨first, own⟩, earlier⟩, bad⟩

/-! ## Readings -/

def announced : Reply → Nat
  | .failure _ => 0
  | .success _ count => count

/-- A reading: the descriptor of a directory, the attributes that are asked for, the buffer and the
entries found so far, and the replies that are to come. -/
structure Reading where
  directory : Int32
  requested : AttributeSet
  buffer : Bytes
  entries : List AttributeValues
  script : Script

namespace Reading

/-- The reply to a call. Behind the end of the script no entries are left. -/
def reply (reading : Reading) (call : Nat) : Reply :=
  reading.script.getD call (.success [] 0)

/-- The buffer as a call and all earlier ones leave it. -/
def bufferAfter (reading : Reading) (call : Nat) : Bytes :=
  (reading.script.take (call + 1)).foldl leftBy reading.buffer

/-- What comes of decoding the entry of a call at a position. -/
def entry (reading : Reading) (call position : Nat) : Except Failure AttributeValues :=
  entryAt reading.requested (reading.bufferAfter call) position

/-- The values of the entries that a call announces. -/
def batch (reading : Reading) (call : Nat) : List AttributeValues :=
  entriesOf reading.requested (reading.bufferAfter call) (announced (reading.reply call))

/-- The entries found before a call. -/
def found (reading : Reading) (call : Nat) : List AttributeValues :=
  reading.entries ++ (List.range call).flatMap reading.batch

/-- A call brings entries, and each of them can be decoded. -/
def GoesOn (reading : Reading) (call : Nat) : Prop :=
  0 < announced (reading.reply call) ∧ ∀ position < announced (reading.reply call),
    Decodable reading.requested (reading.bufferAfter call) position

/-- How a reading ends with a call: without further entries, with a failure of the call itself or with
the first of its entries that cannot be decoded. -/
inductive EndsWith (reading : Reading) (last : Nat) :
    Except Failure (List AttributeValues) → Prop where
  | finished (reply : reading.reply last = .success bytes 0) :
      EndsWith reading last (.ok (reading.found last))
  | failed (reply : reading.reply last = .failure error) :
      EndsWith reading last (.error (.callFailed .bulkRead s!"fd {reading.directory.toInt}" error))
  | spoiled {failure : Failure} (inside : position < announced (reading.reply last))
      (earlier : ∀ before < position,
        Decodable reading.requested (reading.bufferAfter last) before)
      (bad : reading.entry last position = .error failure) : EndsWith reading last (.error failure)

/-- The reading behind its first call. -/
def behind (reading : Reading) : Reading :=
  { reading with
    buffer := reading.bufferAfter 0
    entries := reading.entries ++ reading.batch 0
    script := reading.script.tail }

variable (reading : Reading)

theorem reply_behind (call : Nat) : reading.behind.reply call = reading.reply (call + 1) := by
  simp only [reply, behind, List.getD_eq_getElem?_getD, List.getElem?_tail]

theorem buffer_behind (call : Nat) :
    reading.behind.bufferAfter call = reading.bufferAfter (call + 1) := by
  obtain ⟨_, _, _, _, script⟩ := reading
  cases script <;> rfl

theorem batch_behind (call : Nat) : reading.behind.batch call = reading.batch (call + 1) := by
  rw [batch, reply_behind, buffer_behind]
  rfl

theorem found_first : reading.found 0 = reading.entries :=
  List.append_nil _

theorem found_behind (call : Nat) : reading.behind.found call = reading.found (call + 1) := by
  have first : reading.behind.entries = reading.entries ++ reading.batch 0 := rfl
  have later : reading.behind.batch = fun call => reading.batch (call + 1) :=
    funext reading.batch_behind
  simp only [found, first, later, List.range_succ_eq_map, List.flatMap_cons, List.flatMap_map,
    List.append_assoc]

variable {reading}

theorem goes_on_behind : reading.behind.GoesOn call ↔ reading.GoesOn (call + 1) := by
  rw [GoesOn, reply_behind, buffer_behind]
  rfl

theorem finished_first (reply : reading.reply 0 = .success bytes 0) :
    EndsWith reading 0 (.ok reading.entries) :=
  reading.found_first ▸ .finished reply

theorem ends_behind (ends : EndsWith reading.behind last outcome) :
    EndsWith reading (last + 1) outcome := by
  cases ends with
  | finished reply =>
    rw [found_behind]
    exact .finished (by rw [← reply_behind, reply])
  | failed reply => exact .failed (by rw [← reply_behind, reply])
  | spoiled inside earlier bad =>
    rw [reply_behind] at inside
    rw [buffer_behind] at earlier
    rw [entry, buffer_behind] at bad
    exact .spoiled inside earlier bad

/-- An activity makes the same call up to the last one and ends as that one ends the reading. The
replies to later calls are left. -/
structure StopsAt (reading : Reading) (call : Call) (last : Nat)
    (exchange : Exchange Script Failure (List AttributeValues)) : Prop where
  going : ∀ earlier < last, reading.GoesOn earlier
  ends : EndsWith reading last exchange.traced.outcome
  calls_made : exchange.calls = List.replicate (last + 1) call
  replies_left : exchange.state = reading.script.drop (last + 1)

theorem ends_no_further (ends : EndsWith reading last outcome) : ¬reading.GoesOn last := by
  rintro ⟨some, whole⟩
  cases ends with
  | finished reply => simp [reply, announced] at some
  | failed reply => simp [reply, announced] at some
  | spoiled inside _ bad =>
    obtain ⟨values, decoded⟩ := whole _ inside
    rw [entry, decoded] at bad
    cases bad

/-- Behind a call after which the reading goes on, it stops where the rest of it stops. -/
theorem stops_behind {exchange further : Exchange Script Failure (List AttributeValues)}
    (goes_on : reading.GoesOn 0) (stops : StopsAt reading.behind call last further)
    (calls_made : exchange.calls = call :: further.calls)
    (outcome : exchange.traced.outcome = further.traced.outcome)
    (replies_left : exchange.state = further.state) : StopsAt reading call (last + 1) exchange where
  going := Nat.forall_lt_succ_left.mpr
    ⟨goes_on, fun earlier before => goes_on_behind.mp (stops.going earlier before)⟩
  ends := outcome ▸ ends_behind stops.ends
  calls_made := by rw [calls_made, stops.calls_made, ← List.replicate_succ]
  replies_left := by rw [replies_left, stops.replies_left, behind, List.drop_tail]

end Reading

open Reading (StopsAt EndsWith finished_first ends_no_further stops_behind)

/-! ## Runs -/

/-- A batch that is refused is the last one. -/
theorem read_batches_refused (reader : DirectoryReader) {buffer : Region} {failure : Failure}
    (some : count ≠ 0)
    (refused : (decodeBatch request.attributes count (buffer.overwrite bytes)).outcome =
      .error failure) :
    let run := reader.readBatches directory request buffer entries (.success bytes count :: rest)
    run.calls = [reader.call directory request] ∧ run.traced.outcome = .error failure ∧
      run.state = rest := by
  simp only [DirectoryReader.readBatches, if_neg some, refused, and_self]

/-- Behind a batch that is taken, reading goes on with the buffer as the batch left it. -/
theorem read_batches_taken (reader : DirectoryReader) {buffer : Region} (some : count ≠ 0)
    (taken : (decodeBatch request.attributes count (buffer.overwrite bytes)).outcome = .ok values) :
    let run := reader.readBatches directory request buffer entries (.success bytes count :: rest)
    let further := reader.readBatches directory request (buffer.overwrite bytes) (entries ++ values)
      rest
    run.calls = reader.call directory request :: further.calls ∧
      run.traced.outcome = further.traced.outcome ∧ run.state = further.state := by
  simp only [DirectoryReader.readBatches, if_neg some, taken, and_self]

/-- Whatever was found before and whatever the buffer holds, calls are made up to the first one that
ends the reading. -/
theorem read_batches_stop (reader : DirectoryReader) (directory : Int32) (request : Request)
    (buffer : Region) (entries : List AttributeValues) (script : Script) :
    ∃ last, StopsAt ⟨directory, request.attributes, buffer.toBytes, entries, script⟩
      (reader.call directory request) last
      (reader.readBatches directory request buffer entries script) := by
  -- Each call changes the buffer and adds to the entries, so both are general in the induction.
  induction script generalizing buffer entries with
  | nil => exact ⟨0, nofun, finished_first rfl, rfl, rfl⟩
  | cons reply rest ih =>
    let reading : Reading := ⟨directory, request.attributes, buffer.toBytes, entries, reply :: rest⟩
    cases reply with
    | failure error => exact ⟨0, nofun, .failed rfl, rfl, rfl⟩
    | success bytes count =>
      by_cases none : count = 0
      · subst none
        exact ⟨0, nofun, finished_first rfl, rfl, rfl⟩
      · have left : (buffer.overwrite bytes).toBytes = reading.bufferAfter 0 :=
          overwrite_left buffer bytes count
        cases decoded : (decodeBatch request.attributes count (buffer.overwrite bytes)).outcome with
        | error failure =>
          obtain ⟨position, inside, earlier, bad⟩ := decode_batch_error decoded
          obtain ⟨calls_made, outcome, replies_left⟩ := read_batches_refused reader none decoded
          rw [left] at earlier bad
          exact ⟨0, nofun, outcome ▸ .spoiled inside earlier bad, calls_made, replies_left⟩
        | ok values =>
          obtain ⟨whole, rfl⟩ := decode_batch_ok decoded
          obtain ⟨calls_made, outcome, replies_left⟩ := read_batches_taken reader none decoded
          obtain ⟨last, stops⟩ := ih (buffer.overwrite bytes) (entries ++ reading.batch 0)
          rw [left] at whole stops calls_made outcome replies_left
          exact ⟨last + 1, stops_behind ⟨Nat.pos_of_ne_zero none, whole⟩ stops calls_made outcome
            replies_left⟩

/-! ## Directories -/

theorem read_small {reader : DirectoryReader} (small : reader.bufferSize < 4) (script : Script) :
    Fails (reader.read directory selection options) script []
      (.invalidArgument s!"bulk buffer of {reader.bufferSize} bytes cannot hold an entry") script := by
  have short : reader.bufferSize < lengthPrefixSize := small
  rw [DirectoryReader.read, if_pos short]
  exact quiet_fails rfl script

theorem read_unbuilt {reader : DirectoryReader} {failure : Failure} (room : 4 ≤ reader.bufferSize)
    (refused : (Request.build selection options).outcome = .error failure) (script : Script) :
    Fails (reader.read directory selection options) script [] failure script := by
  have enough : ¬reader.bufferSize < lengthPrefixSize := Nat.not_lt.mpr room
  rw [DirectoryReader.read, if_neg enough]
  exact bind_fails (quiet_fails refused script) _

theorem read_stops {reader : DirectoryReader} (directory : Int32) (room : 4 ≤ reader.bufferSize)
    (built : (Request.build selection options).outcome = .ok request) (script : Script) :
    let asking := request.withReturnedAttributes
    let cleared : Bytes := List.replicate reader.bufferSize 0
    ∃ last, StopsAt ⟨directory, asking.attributes, cleared, [], script⟩ (reader.call directory asking)
      last (reader.read directory selection options script) := by
  intro asking cleared
  obtain ⟨last, stops⟩ := read_batches_stop reader directory asking (Region.zeroed reader.bufferSize)
    [] script
  obtain ⟨calls_made, outcome, replies_left⟩ := read_continues room built script
  exact ⟨last, stops.going, outcome ▸ stops.ends, calls_made.trans stops.calls_made,
    replies_left.trans stops.replies_left⟩

theorem entries_of_decoded (member : values ∈ entriesOf requested bytes count) :
    ∃ record : Record, record.decode.outcome = .ok values := by
  obtain ⟨position, _, found⟩ := List.mem_filterMap.mp member
  have decoded := to_option_ok_iff.mp found
  rw [entryAt, parseDecode, traced_bind_outcome, except_bind_ok_iff] at decoded
  obtain ⟨record, _, own⟩ := decoded
  exact ⟨record, own⟩

/-- Whatever was read before it, each entry that a reading gives comes from a record of its own. -/
theorem read_entry_decoded {reader : DirectoryReader}
    (read : (reader.read directory selection options script).traced.outcome = .ok entries)
    (member : values ∈ entries) : ∃ record : Record, record.decode.outcome = .ok values := by
  by_cases small : reader.bufferSize < 4
  · rw [(read_small small script).error_given] at read
    cases read
  have room : 4 ≤ reader.bufferSize := Nat.not_lt.mp small
  cases built : (Request.build selection options).outcome with
  | error failure =>
    rw [(read_unbuilt room built script).error_given] at read
    cases read
  | ok request =>
    obtain ⟨last, stops⟩ := read_stops directory room built script
    have ends := stops.ends
    rw [read] at ends
    cases ends with
    | finished reply =>
      obtain ⟨call, _, among⟩ := List.mem_flatMap.mp member
      exact entries_of_decoded among

theorem asks_returned (request : Request) :
    request.withReturnedAttributes.attributes.contains .returnedAttributes = true := by
  rw [contains_iff, Request.withReturnedAttributes, insert_bit]
  exact .inr ⟨rfl, rfl⟩

/-- Reading a directory ends with the first problem, and then without any entries. A buffer that is
too small and after it a selection that is refused end it before any call. Otherwise all calls are
the same up to the first one that fails, brings no entries or brings one that cannot be decoded, and
what ends the reading there is reported: a failing call with its own error, a spoiled batch with
that of its first bad entry. Without a problem all entries are given. -/
theorem reading_ends_at_first_problem (reader : DirectoryReader) (directory : Int32)
    (selection : Selection) (options : Options) (script : Script) :
    let read := reader.read directory selection options
    let built := (Request.build selection options).outcome
    (reader.bufferSize < 4 → Fails read script []
      (.invalidArgument s!"bulk buffer of {reader.bufferSize} bytes cannot hold an entry") script) ∧
    (4 ≤ reader.bufferSize → ∀ failure, built = .error failure →
      ∃ attr, failure = .invalidAttribute attr ∧ Fails read script [] failure script) ∧
    (4 ≤ reader.bufferSize → ∀ request, built = .ok request →
      let attributes := request.attributes
      let list := request.attributeList
      let reading : Reading :=
        ⟨directory, { attributes with common := attributes.common ||| 0x80000000 },
          List.replicate reader.bufferSize 0, [], script⟩
      (∃ last, ¬reading.GoesOn last ∧ StopsAt reading
        ⟨.entries directory, { list with common := list.common ||| 0x80000000 }, request.options,
          reader.bufferSize⟩ last (read script)) ∧
      ∀ call, (reading.bufferAfter call).length = reader.bufferSize ∧
        ∀ position failure, reading.entry call position = .error failure →
          Blames (entryFrom (reading.bufferAfter call) position) failure) := by
  intro read built
  refine ⟨fun small => read_small small script, ?_, ?_⟩
  · intro room failure refused
    obtain ⟨attr, _, told⟩ := build_error_iff.mp refused
    exact ⟨attr, told, read_unbuilt room refused script⟩
  · intro room request accepted attributes list reading
    obtain ⟨last, stops⟩ := read_stops directory room accepted script
    refine ⟨⟨last, ends_no_further stops.ends, stops⟩, fun call => ⟨?_, ?_⟩⟩
    · rw [Reading.bufferAfter, left_by_all_length, List.length_replicate]
    · intro position failure bad
      exact failure_blames (asks_returned request) bad

/-- A batch whose second entry is malformed comes behind a sound one. No further call is made, and the
entries of the sound batch are not given either. Without any room, nothing is said about a selection
that is refused otherwise. -/
theorem spoiled_batch_ends_reading :
    let refused : Selection := ⟨[.common .name, .file .dataExtents]⟩
    let script : Script :=
      [batchReply [namedEntry, bareEntry], .success (bareEntry.1 ++ [3, 0, 0, 0]) 2, .success [] 0]
    let read (reader : DirectoryReader) (selection : Selection) := reader.read 3 selection .none script
    (read ⟨3⟩ refused).traced.outcome =
      .error (.invalidArgument "bulk buffer of 3 bytes cannot hold an entry") ∧
    (read ⟨4⟩ refused).traced.outcome = .error (.invalidAttribute (.file .dataExtents)) ∧
    (read ⟨64⟩ ⟨[.common .name]⟩).calls.length = 2 ∧
    (read ⟨64⟩ ⟨[.common .name]⟩).state = [.success [] 0] ∧
    ∃ fault, (read ⟨64⟩ ⟨[.common .name]⟩).traced.outcome = .error (.malformedRecord fault) := by
  intro refused script read
  obtain ⟨small, _, _⟩ := reading_ends_at_first_problem ⟨3⟩ 3 refused .none script
  obtain ⟨_, unbuilt, _⟩ := reading_ends_at_first_problem ⟨4⟩ 3 refused .none script
  obtain ⟨_, _, unread⟩ := unbuilt (by decide) (.invalidAttribute (.file .dataExtents)) rfl
  obtain ⟨_, _, whole⟩ := reading_ends_at_first_problem ⟨64⟩ 3 ⟨[.common .name]⟩ .none script
  have built : (Request.build ⟨[.common .name]⟩ .none).outcome = .ok ⟨⟨1, 0, 0, 0, 0⟩, .none⟩ := rfl
  let reading : Reading := ⟨3, ⟨1 ||| 0x80000000, 0, 0, 0, 0⟩, List.replicate 64 0, [], script⟩
  obtain ⟨⟨last, _, stops⟩, kept⟩ := whole (by decide) _ built
  have made : (read ⟨64⟩ ⟨[.common .name]⟩).calls.length = 2 := by decide +kernel
  obtain rfl : last = 1 := by
    have calls := congrArg List.length stops.calls_made
    rw [List.length_replicate] at calls
    exact Nat.succ.inj (calls.symm.trans made)
  refine ⟨(small (by decide)).error_given, unread.error_given, made, stops.replies_left, ?_⟩
  have first : reading.entry 1 0 = .ok bareEntry.2 := to_option_ok_iff.mp (by decide +kernel)
  have short : statedLength (entryFrom (reading.bufferAfter 1) 1) = 3 := by decide +kernel
  have blames : ∀ position failure, reading.entry 1 position = .error failure →
      Blames (entryFrom (reading.bufferAfter 1) position) failure := (kept 1).2
  have ends : EndsWith reading 1 _ := stops.ends
  generalize (read ⟨64⟩ ⟨[.common .name]⟩).traced.outcome = outcome at ends ⊢
  cases ends with
  | finished reply => cases reply
  | failed reply => cases reply
  | @spoiled position failure inside _ bad =>
    have below : position < 2 := inside
    obtain rfl | rfl : position = 0 ∨ position = 1 := by omega
    · rw [first] at bad
      cases bad
    · cases blames 1 failure bad with
      | header _ fault => exact ⟨fault, rfl⟩
      | unknown fits | field fits => exact absurd fits.2 (by rw [short]; decide)

end PackedAttributes.DirectoryReading
