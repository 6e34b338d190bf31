import PackedAttributes.Kernel.Basic

/-! What comes of activities one after the other. The first failure is the outcome of the whole, and
otherwise the last activity decides; events change neither, and calls are made in order. -/
namespace PackedAttributes.ActivityOutcomes

/-! ## Traced results -/

@[simp] theorem traced_pure_outcome (value : α) : (pure value : Traced ε α).outcome = .ok value :=
  rfl

@[simp] theorem report_outcome (event : Event) : (Traced.report event : Traced ε Unit).outcome = .ok () :=
  rfl

@[simp] theorem silently_outcome (outcome : Except ε α) : (Traced.silently outcome).outcome = outcome :=
  rfl

/-- The outcome of two activities, without what they report. -/
@[simp] theorem traced_bind_outcome (first : Traced ε α) (next : α → Traced ε β) :
    (first >>= next).outcome = first.outcome >>= fun value => (next value).outcome := by
  obtain ⟨events, outcome⟩ := first
  cases outcome <;> rfl

/-- What comes second only matters where the first activity has a result. -/
theorem traced_bind_congr {first : Traced ε α} {next other : α → Traced ε β}
    (same : ∀ value, first.outcome = .ok value → next value = other value) :
    (first >>= next) = (first >>= other) := by
  obtain ⟨events, outcome⟩ := first
  cases outcome with
  | error error => rfl
  | ok value => simp only [bind, same value rfl]

theorem except_bind_ok_iff {outcome : Except ε α} {next : α → Except ε β} :
    (outcome >>= next) = .ok result ↔ ∃ value, outcome = .ok value ∧ next value = .ok result := by
  cases outcome <;> simp [bind, Except.bind]

theorem except_map_ok_iff {outcome : Except ε α} {change : α → β} :
    outcome.map change = .ok result ↔ ∃ value, outcome = .ok value ∧ change value = result := by
  cases outcome <;> simp [Except.map]

theorem except_map_error_iff {outcome : Except ε α} {change : α → β} :
    outcome.map change = .error error ↔ outcome = .error error := by
  cases outcome <;> simp [Except.map]

theorem except_map_error_ok_iff {outcome : Except ε α} {change : ε → δ} :
    outcome.mapError change = .ok result ↔ outcome = .ok result := by
  cases outcome with
  | error error => exact iff_of_false nofun nofun
  | ok value =>
    have kept : (Except.ok value).mapError change = .ok value := rfl
    rw [kept, Except.ok.injEq, Except.ok.injEq]

theorem except_map_error_error_iff {outcome : Except ε α} {change : ε → δ} :
    outcome.mapError change = .error error ↔ ∃ own, outcome = .error own ∧ error = change own := by
  cases outcome with
  | error own =>
    have changed : (Except.error own : Except ε α).mapError change = .error (change own) := rfl
    simp [changed, eq_comm]
  | ok value =>
    refine iff_of_false nofun ?_
    rintro ⟨_, failed, _⟩
    cases failed

/-- Whether there is a given result can be decided. -/
theorem to_option_ok_iff {outcome : Except ε α} : outcome.toOption = some value ↔ outcome = .ok value := by
  cases outcome <;> simp [Except.toOption]

/-- The error of an outcome, if it is one. -/
def errorOf? : Except ε α → Option ε
  | .error error => some error
  | .ok _ => none

/-- Whether there is a given error can be decided. -/
theorem error_of_iff {outcome : Except ε α} : errorOf? outcome = some error ↔ outcome = .error error := by
  cases outcome <;> simp [errorOf?]

@[simp] theorem except_ok_bind (value : α) (next : α → Except ε β) :
    (Except.ok value >>= next) = next value :=
  rfl

@[simp] theorem except_error_bind (error : ε) (next : α → Except ε β) :
    (Except.error error >>= next) = .error error :=
  rfl

/-! ## Activities that make calls -/

/-- From the state of the kernel, the activity makes the calls, gives the value and leaves the kernel
in the state behind them. -/
structure Yields (dialogue : Dialogue σ ε α) (state : σ) (calls : List Call) (value : α) (after : σ) :
    Prop where
  calls_made : (dialogue state).calls = calls
  value_given : (dialogue state).traced.outcome = .ok value
  state_left : (dialogue state).state = after

theorem quiet_yields {traced : Traced ε α} (outcome : traced.outcome = .ok value) (state : σ) :
    Yields (.quiet traced) state [] value state :=
  ⟨rfl, outcome, rfl⟩

theorem pure_yields (value : α) (state : σ) :
    Yields (pure value : Dialogue σ ε α) state [] value state :=
  ⟨rfl, rfl, rfl⟩

/-- After a first activity that gives a value, the second one decides what comes of both. The calls
of the first one come before those of the second one. -/
theorem bind_continues {first : Dialogue σ ε α} (before : Yields first state calls value middle)
    (next : α → Dialogue σ ε β) :
    ((first >>= next) state).calls = calls ++ (next value middle).calls ∧
    ((first >>= next) state).traced.outcome = (next value middle).traced.outcome ∧
    ((first >>= next) state).state = (next value middle).state := by
  simp only [bind, before.value_given, before.state_left, before.calls_made, and_self]

theorem bind_yields {first : Dialogue σ ε α} {next : α → Dialogue σ ε β}
    (before : Yields first state calls value middle)
    (later : Yields (next value) middle further result after) :
    Yields (first >>= next) state (calls ++ further) result after := by
  obtain ⟨calls_made, outcome, left⟩ := bind_continues before next
  exact ⟨by rw [calls_made, later.calls_made], outcome.trans later.value_given,
    left.trans later.state_left⟩

/-- A second activity without calls changes nothing but the outcome. -/
theorem bind_quiet (first : Dialogue σ ε α) (next : α → Traced ε β) (state : σ) :
    ((first >>= fun value => .quiet (next value)) state).calls = (first state).calls ∧
    ((first >>= fun value => .quiet (next value)) state).traced.outcome =
      (first state).traced.outcome >>= fun value => (next value).outcome := by
  simp only [bind]
  cases (first state).traced.outcome with
  | error error => exact ⟨rfl, rfl⟩
  | ok value => exact ⟨List.append_nil _, rfl⟩

theorem map_error_yields {dialogue : Dialogue σ ε α} (change : ε → δ)
    (yields : Yields dialogue state calls value after) :
    Yields (dialogue.mapError change) state calls value after := by
  constructor
  · exact yields.calls_made
  · rw [Dialogue.mapError, yields.value_given]
    rfl
  · exact yields.state_left

/-- A call that succeeds overwrites the start of its buffer. -/
theorem call_yields {kernel : Kernel σ} {call : Call} (phase : Phase) (target : Target)
    (buffer : Region) (reply : kernel state call = (.success written count, after)) :
    Yields (.call kernel phase target call buffer) state [call] (buffer.overwrite written) after := by
  constructor <;> rw [Dialogue.call, reply]
  rfl

/-- From the state of the kernel, the activity makes the calls, ends with the error and leaves the
kernel in the state behind them. -/
structure Fails (dialogue : Dialogue σ ε α) (state : σ) (calls : List Call) (error : ε) (after : σ) :
    Prop where
  calls_made : (dialogue state).calls = calls
  error_given : (dialogue state).traced.outcome = .error error
  state_left : (dialogue state).state = after

theorem quiet_fails {traced : Traced ε α} (outcome : traced.outcome = .error error) (state : σ) :
    Fails (.quiet traced) state [] error state :=
  ⟨rfl, outcome, rfl⟩

/-- After a failure, the second activity makes no calls. -/
theorem bind_fails {first : Dialogue σ ε α} (failed : Fails first state calls error after)
    (next : α → Dialogue σ ε β) : Fails (first >>= next) state calls error after := by
  constructor <;> simp only [bind, failed.error_given]
  · exact failed.calls_made
  · exact failed.state_left

theorem bind_fails_later {first : Dialogue σ ε α} {next : α → Dialogue σ ε β}
    (before : Yields first state calls value middle)
    (later : Fails (next value) middle further error after) :
    Fails (first >>= next) state (calls ++ further) error after := by
  obtain ⟨calls_made, outcome, left⟩ := bind_continues before next
  exact ⟨by rw [calls_made, later.calls_made], outcome.trans later.error_given,
    left.trans later.state_left⟩

theorem map_error_fails {dialogue : Dialogue σ ε α} (change : ε → δ)
    (failed : Fails dialogue state calls error after) :
    Fails (dialogue.mapError change) state calls (change error) after := by
  constructor
  · exact failed.calls_made
  · rw [Dialogue.mapError, failed.error_given]
    rfl
  · exact failed.state_left

/-- A call that fails ends its activity with the error of the kernel as it is. -/
theorem call_fails {kernel : Kernel σ} {call : Call} (phase : Phase) (target : Target)
    (buffer : Region) (reply : kernel state call = (.failure error, after)) :
    Fails (.call kernel phase target call buffer) state [call] (.callFailed phase target.text error)
      after := by
  constructor <;> rw [Dialogue.call, reply]

/-! ## What the kernel has seen -/

/-- The kernel has answered exactly the calls that the activity records, in their order. -/
def Recorded (kernel : Kernel σ) (dialogue : Dialogue σ ε α) : Prop :=
  ∀ state, (dialogue state).state =
    (dialogue state).calls.foldl (fun state call => (kernel state call).2) state

theorem quiet_recorded (kernel : Kernel σ) (traced : Traced ε α) :
    Recorded kernel (.quiet traced) :=
  fun _ => rfl

theorem call_recorded (kernel : Kernel σ) (phase : Phase) (target : Target) (call : Call)
    (buffer : Region) : Recorded kernel (.call kernel phase target call buffer) := by
  intro state
  simp only [Dialogue.call]
  cases (kernel state call).1 <;> rfl

theorem bind_recorded {kernel : Kernel σ} {first : Dialogue σ ε α} {next : α → Dialogue σ ε β}
    (before : Recorded kernel first) (later : ∀ value, Recorded kernel (next value)) :
    Recorded kernel (first >>= next) := by
  intro state
  simp only [bind]
  cases (first state).traced.outcome with
  | error error => exact before state
  | ok value => rw [later value, before state, List.foldl_append]

theorem map_error_recorded {kernel : Kernel σ} {dialogue : Dialogue σ ε α} (change : ε → δ)
    (recorded : Recorded kernel dialogue) : Recorded kernel (dialogue.mapError change) :=
  recorded

end PackedAttributes.ActivityOutcomes
