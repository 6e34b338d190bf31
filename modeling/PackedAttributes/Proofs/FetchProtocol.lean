import PackedAttributes.Fetch
import PackedAttributes.Proofs.RecordHeader

/-! Fetching against a kernel that may answer anything. Whatever it answers, the first call asks for
the length alone and the second one, if there is one, for exactly that many bytes; every pair of
answers has one outcome, and only an answer that grew in between is no failure of an ordinary kind. -/
namespace PackedAttributes.FetchProtocol
open Bytes RegionContent RecordHeader ActivityOutcomes

/-! ## What a call brings -/

/-- The bytes of a buffer of zeros behind a call that wrote into it. What does not fit is cut. -/
def filled (size : Nat) (written : Bytes) : Bytes :=
  written.take size ++ List.replicate (size - written.length) 0

/-- What a call with a buffer of zeros brings: the error of the kernel, or the bytes of the buffer. -/
def brought (size : Nat) : Reply → Except OsError Bytes
  | .failure error => .error error
  | .success written _ => .ok (filled size written)

theorem filled_length (size : Nat) (written : Bytes) : (filled size written).length = size := by
  simp only [filled, List.length_append, List.length_take, List.length_replicate]
  omega

theorem filled_whole (full : written.length = size) : filled size written = written := by
  rw [filled, full, Nat.sub_self, ← full, List.take_length]
  exact List.append_nil _

theorem region_filled (size : Nat) (written : Bytes) :
    ((Region.zeroed size).overwrite written).toBytes = filled size written := by
  rw [overwrite_cut, filled]
  exact congrArg _ List.drop_replicate

theorem brought_error {reply : Reply} (failed : brought size reply = .error error) :
    reply = .failure error := by
  cases reply with
  | failure own =>
    cases failed
    rfl
  | success written count => cases failed

theorem brought_ok {reply : Reply} (answered : brought size reply = .ok bytes) :
    ∃ written count, reply = .success written count ∧ filled size written = bytes := by
  cases reply with
  | failure error => cases answered
  | success written count =>
    cases answered
    exact ⟨written, count, rfl, rfl⟩

/-! ## Single calls -/

section
variable {kernel : Kernel σ} {state after : σ} {reply : Reply} {call : Call}

theorem brought_call_fails (phase : Phase) (target : Target)
    (answered : kernel state call = (reply, after)) (failed : brought size reply = .error error) :
    Fails (.call kernel phase target call (Region.zeroed size)) state [call]
      (.callFailed phase target.text error) after :=
  call_fails phase target _ (answered.trans (by rw [brought_error failed]))

/-- The buffer of a call that succeeds holds the bytes that it brought. -/
theorem brought_call_yields (phase : Phase) (target : Target)
    (answered : kernel state call = (reply, after)) (succeeded : brought size reply = .ok bytes) :
    ∃ buffer : Region, buffer.toBytes = bytes ∧
      Yields (.call kernel phase target call (Region.zeroed size)) state [call] buffer after := by
  obtain ⟨written, count, rfl, rfl⟩ := brought_ok succeeded
  exact ⟨_, region_filled size written, call_yields phase target _ answered⟩

end

/-! ## Both calls -/

section
variable {kernel : Kernel σ} {state middle after : σ} {target : Target} {request : Request}
  {reply : Reply}

theorem probe_fails
    (answered : kernel state (request.call target (request.options.insert .reportFullSize) 4) =
      (reply, middle))
    (failed : brought 4 reply = .error error) :
    Fails (fetchRecord kernel target request) state
      [request.call target (request.options.insert .reportFullSize) 4]
      (.failed (.callFailed .probe target.text error)) middle := by
  have called := brought_call_fails .probe target answered failed
  exact bind_fails (map_error_fails _ (bind_fails called _)) _

theorem told_word {buffer : Region} (told : buffer.toBytes = bytes) :
    buffer.leadingWord = UInt32.ofNat (statedLength bytes) := by
  rw [← told, ← leading_word_length, UInt32.ofNat_toNat]

/-- A length that does not cover itself ends the fetch. -/
theorem probe_refuses
    (answered : kernel state (request.call target (request.options.insert .reportFullSize) 4) =
      (reply, middle))
    (told : brought 4 reply = .ok bytes) (short : statedLength bytes < 4) :
    Fails (fetchRecord kernel target request) state
      [request.call target (request.options.insert .reportFullSize) 4]
      (.failed (.malformedRecord (.lengthPrefix (.ofNat (statedLength bytes)) 4))) middle := by
  obtain ⟨buffer, content, called⟩ := brought_call_yields .probe target answered told
  have reported : Yields (Dialogue.report (.lengthProbed target.text buffer.leadingWord) :
      Dialogue σ Failure Unit) middle [] () middle := quiet_yields rfl middle
  have length : buffer.leadingWord.toNat < lengthPrefixSize := by
    rw [leading_word_length, content]
    exact short
  have refused : Fails (probeLength kernel target request) state
      [request.call target (request.options.insert .reportFullSize) 4]
      (.malformedRecord (.lengthPrefix buffer.leadingWord 4)) middle := by
    unfold probeLength
    refine bind_fails_later called (bind_fails_later reported ?_)
    rw [if_pos length]
    exact quiet_fails rfl middle
  rw [told_word content] at refused
  exact bind_fails (map_error_fails _ refused) _

theorem probe_tells
    (answered : kernel state (request.call target (request.options.insert .reportFullSize) 4) =
      (reply, middle))
    (told : brought 4 reply = .ok bytes) (covers : 4 ≤ statedLength bytes) :
    Yields (probeLength kernel target request) state
      [request.call target (request.options.insert .reportFullSize) 4]
      (UInt32.ofNat (statedLength bytes)) middle := by
  obtain ⟨buffer, content, called⟩ := brought_call_yields .probe target answered told
  have reported : Yields (Dialogue.report (.lengthProbed target.text buffer.leadingWord) :
      Dialogue σ Failure Unit) middle [] () middle := quiet_yields rfl middle
  have length : ¬buffer.leadingWord.toNat < lengthPrefixSize := by
    rw [leading_word_length, content]
    exact Nat.not_lt.mpr covers
  rw [← told_word content]
  unfold probeLength
  refine bind_yields called (bind_yields reported ?_)
  rw [if_neg length]
  exact pure_yields buffer.leadingWord middle

theorem answer_fails {size : Nat} (small : size < UInt32.size)
    (probed : Yields (probeLength kernel target request) state calls (.ofNat size) middle)
    (answered : kernel middle (request.call target request.options size) = (reply, after))
    (failed : brought size reply = .error error) :
    Fails (fetchRecord kernel target request) state
      (calls ++ [request.call target request.options size])
      (.failed (.callFailed .fetch target.text error)) after := by
  have called := brought_call_fails .fetch target answered failed
  have length : (UInt32.ofNat size).toNat = size := UInt32.toNat_ofNat_of_lt' small
  refine bind_fails_later (map_error_yields _ probed) (bind_fails (map_error_fails _ ?_) _)
  rw [fetchAnswer, length]
  exact called

/-- An answer that arrived is all that decides what the fetch brings. -/
theorem answer_decides {size : Nat} (small : size < UInt32.size)
    (probed : Yields (probeLength kernel target request) state calls (.ofNat size) middle)
    (answered : kernel middle (request.call target request.options size) = (reply, after))
    (arrived : brought size reply = .ok bytes) :
    ∃ buffer : Region, buffer.toBytes = bytes ∧
      (fetchRecord kernel target request state).calls =
        calls ++ [request.call target request.options size] ∧
      (fetchRecord kernel target request state).traced.outcome =
        (acceptAnswer target request (.ofNat size) buffer).outcome ∧
      (fetchRecord kernel target request state).state = after := by
  obtain ⟨buffer, content, called⟩ := brought_call_yields .fetch target answered arrived
  have length : (UInt32.ofNat size).toNat = size := UInt32.toNat_ofNat_of_lt' small
  have fetched : Yields (fetchAnswer kernel target request (UInt32.ofNat size).toNat) middle
      [request.call target request.options size] buffer after := by
    rw [fetchAnswer, length]
    exact called
  refine ⟨buffer, content, ?_⟩
  cases taken : (acceptAnswer target request (.ofNat size) buffer).outcome with
  | error error =>
    have whole : Fails (fetchRecord kernel target request) state _ error after :=
      bind_fails_later (map_error_yields _ probed)
        (bind_fails_later (map_error_yields _ fetched) (quiet_fails taken after))
    exact ⟨whole.calls_made, whole.error_given, whole.state_left⟩
  | ok record =>
    have whole : Yields (fetchRecord kernel target request) state _ record after :=
      bind_yields (map_error_yields _ probed)
        (bind_yields (map_error_yields _ fetched) (quiet_yields taken after))
    exact ⟨whole.calls_made, whole.value_given, whole.state_left⟩

/-! ## The answer -/

theorem grown_iff {size : Nat} (small : size < UInt32.size) {buffer : Region}
    (content : buffer.toBytes = bytes) :
    UInt32.ofNat size < buffer.leadingWord ↔ size < statedLength bytes := by
  rw [UInt32.lt_iff_toNat_lt, UInt32.toNat_ofNat_of_lt' small, leading_word_length, content]

theorem accept_grown {first : UInt32} {buffer : Region} (grown : first < buffer.leadingWord) :
    (acceptAnswer target request first buffer).outcome =
      .error (.answerGrew target.text first buffer.leadingWord) := by
  rw [acceptAnswer, if_pos grown]
  rfl

/-- An answer that did not grow is the record at its start, or a malformed one. -/
theorem accept_not_grown {first : UInt32} {buffer : Region} (fits : ¬first < buffer.leadingWord) :
    (acceptAnswer target request first buffer).outcome =
      (Record.ofRegion buffer request.attributes).mapError .failed := by
  rw [acceptAnswer, if_neg fits]
  rfl

/-- What is said of an answer of a known length, by the length that the answer states for itself. -/
structure Judged (target : Target) (request : Request) (size : Nat) (answer : Bytes)
    (outcome : Except FetchError Record) : Prop where
  /-- A greater length than the one that was told first is a contradiction of the kernel. -/
  grown : size < statedLength answer →
    outcome = .error (.answerGrew target.text (.ofNat size) (.ofNat (statedLength answer)))
  /-- A length that does not cover the header is malformed. -/
  malformed : statedLength answer ≤ size →
    statedLength answer < 4 ∨ (request.returnsSet = true ∧ statedLength answer < 24) →
      ∃ fault, outcome = .error (.failed (.malformedRecord fault))
  /-- Otherwise the record is what the answer holds up to its length. -/
  taken : 4 ≤ statedLength answer → statedLength answer ≤ size →
    (request.returnsSet = true → 24 ≤ statedLength answer) →
      ∃ record, outcome = .ok record ∧ record.bytes = answer.take (statedLength answer) ∧
        record.requested = request.attributes

theorem answer_judged {size : Nat} (small : size < UInt32.size) {buffer : Region}
    (content : buffer.toBytes = answer) (full : answer.length = size) :
    Judged target request size answer
      (acceptAnswer target request (.ofNat size) buffer).outcome where
  grown grown := by
    rw [accept_grown ((grown_iff small content).mpr grown), told_word content]
  malformed fits flawed := by
    -- Both flaws are exactly what keeps a record from being read, so an outcome would refute them.
    rw [accept_not_grown (mt (grown_iff small content).mp (Nat.not_lt.mpr fits))]
    cases read : Record.ofRegion buffer request.attributes with
    | error failure =>
      obtain ⟨fault, rfl⟩ := of_region_error read
      exact ⟨fault, rfl⟩
    | ok record =>
      obtain ⟨starts, room⟩ := of_region_exists_iff.mp ⟨record, read⟩
      rw [content] at starts room
      rcases flawed with short | ⟨asked, short⟩
      · exact absurd starts.1 (Nat.not_le.mpr short)
      · exact absurd (room asked) (Nat.not_le.mpr short)
  taken covers fits room := by
    rw [accept_not_grown (mt (grown_iff small content).mp (Nat.not_lt.mpr fits))]
    obtain ⟨record, read⟩ : ∃ record, Record.ofRegion buffer request.attributes = .ok record := by
      rw [of_region_exists_iff, content]
      exact ⟨⟨covers, full ▸ fits⟩, room⟩
    obtain ⟨held, asked, _⟩ := header_holds (of_region_ok_iff.mp read).2
    exact ⟨record, by rw [read]; rfl, content ▸ held, asked⟩

/-- Nothing but a greater length is a contradiction. -/
theorem judged_contradiction (judged : Judged target request size answer outcome)
    (contradicts : outcome = .error (.answerGrew name known told)) :
    size < statedLength answer := by
  refine Nat.lt_of_not_le fun fits => ?_
  by_cases flawed : statedLength answer < 4 ∨ (request.returnsSet = true ∧ statedLength answer < 24)
  · obtain ⟨fault, malformed⟩ := judged.malformed fits flawed
    rw [malformed] at contradicts
    cases contradicts
  · obtain ⟨covers, room⟩ := not_or.mp flawed
    obtain ⟨record, taken, _⟩ := judged.taken (Nat.not_lt.mp covers) fits fun asked =>
      Nat.not_lt.mp fun short => room ⟨asked, short⟩
    rw [taken] at contradicts
    cases contradicts

end

/-! ## Whole fetches -/

theorem fetch_recorded (kernel : Kernel σ) (target : Target) (request : Request) :
    Recorded kernel (fetchRecord kernel target request) := by
  have probed : Recorded kernel (probeLength kernel target request) := by
    refine bind_recorded (call_recorded _ _ _ _ _) fun buffer =>
      bind_recorded (quiet_recorded _ _) fun _ => ?_
    split <;> exact quiet_recorded _ _
  exact bind_recorded (map_error_recorded _ probed) fun _ =>
    bind_recorded (map_error_recorded _ (call_recorded _ _ _ _ _)) fun _ => quiet_recorded _ _

section
variable (kernel : Kernel σ) (state : σ) (target : Target) (request : Request)

/-- There is a second call exactly if the first one told a length that covers itself. -/
theorem fetch_calls :
    let probe := request.call target (request.options.insert .reportFullSize) 4
    let calls := (fetchRecord kernel target request state).calls
    (calls = [probe] ∧ ∀ told, brought 4 (kernel state probe).1 = .ok told → statedLength told < 4) ∨
    (∃ told, brought 4 (kernel state probe).1 = .ok told ∧ 4 ≤ statedLength told ∧
      calls = [probe, request.call target request.options (statedLength told)]) := by
  intro probe calls
  cases probed : brought 4 (kernel state probe).1 with
  | error error => exact .inl ⟨(probe_fails rfl probed).calls_made, nofun⟩
  | ok told =>
    by_cases short : statedLength told < 4
    · refine .inl ⟨(probe_refuses rfl probed short).calls_made, ?_⟩
      rintro _ ⟨⟩
      exact short
    · have covers := Nat.not_lt.mp short
      have small := stated_length_lt told
      have tells : Yields (probeLength kernel target request) state [probe]
        (.ofNat (statedLength told)) (kernel state probe).2 := probe_tells rfl probed covers
      refine .inr ⟨told, rfl, covers, ?_⟩
      cases fetched : brought (statedLength told)
          (kernel (kernel state probe).2 (request.call target request.options (statedLength told))).1 with
      | error error => exact (answer_fails small tells rfl fetched).calls_made
      | ok answer =>
        obtain ⟨_, _, calls_made, _⟩ := answer_decides small tells rfl fetched
        exact calls_made

theorem second_call_iff (size : Nat) :
    let probe := request.call target (request.options.insert .reportFullSize) 4
    (fetchRecord kernel target request state).calls =
        [probe, request.call target request.options size] ↔
      ∃ told, brought 4 (kernel state probe).1 = .ok told ∧ statedLength told = size ∧ 4 ≤ size := by
  intro probe
  rcases fetch_calls kernel state target request with ⟨once, short⟩ | ⟨told, first, covers, twice⟩
  · rw [once]
    refine ⟨nofun, ?_⟩
    rintro ⟨told, first, rfl, covers⟩
    exact absurd covers (Nat.not_le.mpr (short told first))
  · rw [twice]
    constructor
    · intro same
      have called := List.head_eq_of_cons_eq (List.tail_eq_of_cons_eq same)
      have size_eq : statedLength told = size := congrArg Call.bufferLength called
      exact ⟨told, first, size_eq, size_eq ▸ covers⟩
    · rintro ⟨other, again, rfl, _⟩
      rw [show told = other from Except.ok.inj (first.symm.trans again)]

/-- After a second call, its answer alone decides. -/
theorem second_call_decides {size : Nat}
    (twice : (fetchRecord kernel target request state).calls =
      [request.call target (request.options.insert .reportFullSize) 4,
        request.call target request.options size]) :
    let probe := request.call target (request.options.insert .reportFullSize) 4
    let second := brought size
      (kernel (kernel state probe).2 (request.call target request.options size)).1
    let outcome := (fetchRecord kernel target request state).traced.outcome
    (∀ error, second = .error error →
      outcome = .error (.failed (.callFailed .fetch target.text error))) ∧
    ∀ answer, second = .ok answer → Judged target request size answer outcome := by
  intro probe second outcome
  obtain ⟨told, first, rfl, covers⟩ := (second_call_iff kernel state target request size).mp twice
  have small := stated_length_lt told
  have tells : Yields (probeLength kernel target request) state [probe]
    (.ofNat (statedLength told)) (kernel state probe).2 := probe_tells rfl first covers
  refine ⟨fun error failed => (answer_fails small tells rfl failed).error_given, ?_⟩
  intro answer arrived
  obtain ⟨buffer, content, _, decided, _⟩ := answer_decides small tells rfl arrived
  obtain ⟨written, _, _, filled_answer⟩ := brought_ok arrived
  have full : answer.length = statedLength told := by
    rw [← filled_answer, filled_length]
  have judged : Judged target request (statedLength told) answer _ := answer_judged small content full
  rwa [← decided] at judged

/-- Only an answer that stated a greater length than the one told first is a contradiction. -/
theorem contradiction_grown
    (contradicts : (fetchRecord kernel target request state).traced.outcome =
      .error (.answerGrew name known told)) :
    let probe := request.call target (request.options.insert .reportFullSize) 4
    ∃ size answer, (fetchRecord kernel target request state).calls =
        [probe, request.call target request.options size] ∧
      brought size (kernel (kernel state probe).2 (request.call target request.options size)).1 =
        .ok answer ∧
      size < statedLength answer := by
  intro probe
  cases first : brought 4 (kernel state probe).1 with
  | error error =>
    rw [(probe_fails rfl first).error_given] at contradicts
    cases contradicts
  | ok told =>
    by_cases short : statedLength told < 4
    · rw [(probe_refuses rfl first short).error_given] at contradicts
      cases contradicts
    · have covers := Nat.not_lt.mp short
      have twice := (second_call_iff kernel state target request _).mpr ⟨told, first, rfl, covers⟩
      obtain ⟨fails, judged⟩ := second_call_decides kernel state target request twice
      cases second : brought (statedLength told)
          (kernel (kernel state probe).2 (request.call target request.options (statedLength told))).1 with
      | error error =>
        rw [fails error second] at contradicts
        cases contradicts
      | ok answer =>
        exact ⟨_, answer, twice, second, judged_contradiction (judged answer second) contradicts⟩

end

/-! ## Fetching and decoding -/

theorem attributes_refused {failure : Failure} (kernel : Kernel σ) (state : σ) (target : Target)
    (refused : (Request.build selection options).outcome = .error failure) :
    Fails (fetchAttributes kernel target selection options) state [] (.failed failure) state :=
  bind_fails (map_error_fails FetchError.failed (quiet_fails refused state)) _

theorem attributes_fetched (kernel : Kernel σ) (state : σ) (target : Target)
    (built : (Request.build selection options).outcome = .ok request) :
    (fetchAttributes kernel target selection options state).calls =
      (fetchRecord kernel target request state).calls ∧
    (fetchAttributes kernel target selection options state).traced.outcome =
      ((fetchRecord kernel target request state).traced.outcome >>= fun record =>
        record.decode.outcome.mapError .failed) := by
  obtain ⟨calls_made, outcome, _⟩ := bind_continues
    (map_error_yields FetchError.failed (quiet_yields built state))
    fun request => fetchRecord kernel target request >>= fun record =>
      (Dialogue.quiet record.decode).mapError FetchError.failed
  obtain ⟨same_calls, decoded⟩ := bind_quiet (fetchRecord kernel target request)
    (fun record => ⟨record.decode.events, record.decode.outcome.mapError FetchError.failed⟩) state
  exact ⟨calls_made.trans same_calls, outcome.trans decoded⟩

/-- Whatever the kernel answers, a fetch is decided by at most two answers. -/
theorem two_calls_decide_fetch (kernel : Kernel σ) (state : σ) (target : Target)
    (request : Request) :
    let probe : Call :=
      ⟨.object target, request.attributeList, request.options.insert .reportFullSize, 4⟩
    let fetch (size : Nat) : Call :=
      ⟨.object target, request.attributeList, request.options, size⟩
    let first := brought 4 (kernel state probe).1
    let second (size : Nat) := brought size (kernel (kernel state probe).2 (fetch size)).1
    let exchange := fetchRecord kernel target request state
    let outcome := exchange.traced.outcome
    (exchange.calls = [probe] ∨ ∃ size, exchange.calls = [probe, fetch size]) ∧
    (∀ size, exchange.calls = [probe, fetch size] ↔
      ∃ told, first = .ok told ∧ statedLength told = size ∧ 4 ≤ size) ∧
    exchange.state = exchange.calls.foldl (fun state call => (kernel state call).2) state ∧
    (∀ error, first = .error error →
      outcome = .error (.failed (.callFailed .probe target.text error))) ∧
    (∀ told, first = .ok told → statedLength told < 4 → outcome =
      .error (.failed (.malformedRecord (.lengthPrefix (.ofNat (statedLength told)) 4)))) ∧
    (∀ size, exchange.calls = [probe, fetch size] →
      (∀ error, second size = .error error →
        outcome = .error (.failed (.callFailed .fetch target.text error))) ∧
      ∀ answer, second size = .ok answer → Judged target request size answer outcome) ∧
    (∀ name known told, outcome = .error (.answerGrew name known told) →
      ∃ size answer, exchange.calls = [probe, fetch size] ∧ second size = .ok answer ∧
        size < statedLength answer) ∧
    ∀ selection options,
      let attributes := fetchAttributes kernel target selection options state
      (∀ failure, (Request.build selection options).outcome = .error failure →
        attributes.calls = [] ∧ attributes.traced.outcome = .error (.failed failure)) ∧
      ((Request.build selection options).outcome = .ok request →
        attributes.calls = exchange.calls ∧
        attributes.traced.outcome =
          outcome >>= fun record => record.decode.outcome.mapError .failed) := by
  intro probe fetch first second exchange outcome
  refine ⟨?_, second_call_iff kernel state target request, fetch_recorded kernel target request state,
    fun error failed => (probe_fails rfl failed).error_given,
    fun told answered short => (probe_refuses rfl answered short).error_given,
    fun size twice => second_call_decides kernel state target request twice,
    fun _ _ _ contradicts => contradiction_grown kernel state target request contradicts, ?_⟩
  · rcases fetch_calls kernel state target request with ⟨once, _⟩ | ⟨told, _, _, twice⟩
    · exact .inl once
    · exact .inr ⟨statedLength told, twice⟩
  · intro selection options attributes
    refine ⟨fun failure refused => ?_, attributes_fetched kernel state target⟩
    have failed := attributes_refused kernel state target refused
    exact ⟨failed.calls_made, failed.error_given⟩

/-- An answer that turns out shorter than it was announced is taken as far as it reaches, and a longer
one is a contradiction. -/
theorem changed_answer_decided :
    let request := Request.ofSet ⟨0x00000008, 0, 0, 0, 0⟩ .none
    let answered (length : UInt8) : Script :=
      [.success [12, 0, 0, 0] 0, .success [length, 0, 0, 0, 1, 0, 0, 0, 9] 0]
    let outcome (length : UInt8) :=
      (fetchRecord Script.kernel (.descriptor 3) request (answered length)).traced.outcome
    (∃ record, outcome 8 = .ok record ∧ record.bytes = [8, 0, 0, 0, 1, 0, 0, 0]) ∧
    outcome 13 = .error (.answerGrew (Target.text (.descriptor 3)) 12 13) := by
  intro request answered outcome
  have judged (length : UInt8) : Judged (.descriptor 3) request 12
      (filled 12 [length, 0, 0, 0, 1, 0, 0, 0, 9]) (outcome length) := by
    obtain ⟨_, twice, _, _, _, decides, _⟩ :=
      two_calls_decide_fetch Script.kernel (answered length) (.descriptor 3) request
    exact (decides 12 ((twice 12).mpr ⟨_, rfl, by decide, by decide⟩)).2 _ rfl
  obtain ⟨record, taken, held, _⟩ := (judged 8).taken (by decide) (by decide) (by decide)
  exact ⟨⟨record, taken, held⟩, (judged 13).grown (by decide)⟩

end PackedAttributes.FetchProtocol
