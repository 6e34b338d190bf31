import PackedAttributes.Bytes.Reader
import PackedAttributes.Request

/-!
The kernel as the library sees it: something that answers calls and may change with every answer. An
answer either fails with an error of the operating system or overwrites the start of the caller's
buffer. Activities that make calls keep a record of them beside their events.
-/
namespace PackedAttributes

/-! ## Calls and replies -/

/-- An object whose attributes are wanted. -/
inductive Target where
  /-- The object at a path, which is any sequence of bytes. -/
  | path (bytes : Bytes)
  /-- The object behind an open descriptor. -/
  | descriptor (number : Int32)
  deriving DecidableEq, Repr

/-- The target as text. A path that is no text shows replacement characters. -/
def Target.text : Target → String
  | .path bytes => Utf8.decodeLossy bytes
  | .descriptor number => s!"fd {number.toInt}"

/-- What a call asks about. -/
inductive Subject where
  /-- The attributes of one object. -/
  | object (target : Target)
  /-- The attributes of the next entries of an open directory. -/
  | entries (directory : Int32)
  deriving DecidableEq, Repr

/-- The subject as text. -/
def Subject.text : Subject → String
  | .object target => target.text
  | .entries directory => s!"dirfd {directory.toInt}"

/-- A call to the kernel. -/
structure Call where
  /-- What the call asks about. -/
  subject : Subject
  /-- The attributes that it asks for. -/
  list : AttributeList
  /-- The options. -/
  options : Options
  /-- The size of the buffer for the answer. -/
  bufferLength : Nat
  deriving DecidableEq, Repr

/-- The answer to a call. -/
inductive Reply where
  /-- The call failed and wrote nothing. -/
  | failure (error : OsError)
  /-- The call wrote bytes at the start of the buffer, as far as they fit. For a directory it also
  says how many entries it wrote. -/
  | success (written : Bytes) (count : Nat)
  deriving DecidableEq, Repr

/-- Something that answers calls, with a state of its own. -/
def Kernel (σ : Type) := σ → Call → Reply × σ

/-- Replies that were laid down in advance. -/
abbrev Script := List Reply

/-- A kernel that answers from a script, whatever it is asked. Behind the end of the script it
succeeds without writing anything. -/
def Script.kernel : Kernel Script := fun script _ =>
  match script with
  | [] => (.success [] 0, [])
  | reply :: rest => (reply, rest)

/-! ## Activities that make calls -/

/-- What came of an activity that makes calls. -/
structure Exchange (σ ε α : Type) where
  /-- The calls in order. -/
  calls : List Call
  /-- The events and the result. -/
  traced : Traced ε α
  /-- The state of the kernel behind the last call. -/
  state : σ

/-- An activity that makes calls, by the state of the kernel that it meets. -/
def Dialogue (σ ε α : Type) := σ → Exchange σ ε α

namespace Dialogue

instance {σ ε : Type} : Monad (Dialogue σ ε) where
  pure value := fun state => ⟨[], pure value, state⟩
  bind first next := fun state =>
    let before := first state
    match before.traced.outcome with
    | .ok value =>
      let after := next value before.state
      ⟨before.calls ++ after.calls,
        ⟨before.traced.events ++ after.traced.events, after.traced.outcome⟩, after.state⟩
    | .error error => ⟨before.calls, ⟨before.traced.events, .error error⟩, before.state⟩

/-- An activity that makes no call. -/
def quiet {σ ε α : Type} (traced : Traced ε α) : Dialogue σ ε α :=
  fun state => ⟨[], traced, state⟩

/-- Reports an event. -/
def report {σ ε : Type} (event : Event) : Dialogue σ ε Unit :=
  quiet (.report event)

/-- Ends without a result. -/
def fail {σ ε α : Type} (error : ε) : Dialogue σ ε α :=
  quiet (.fail error)

/-- Makes a call with a buffer and gives back the buffer as the call left it. A failure is reported
and ends the activity. -/
def call {σ : Type} (kernel : Kernel σ) (phase : Phase) (target : Target) (call : Call)
    (buffer : Region) : Dialogue σ Failure Region := fun state =>
  let (reply, state) := kernel state call
  match reply with
  | .failure error =>
    ⟨[call], ⟨[.callFailed phase target.text error],
      .error (.callFailed phase target.text error)⟩, state⟩
  | .success written _ => ⟨[call], pure (buffer.overwrite written), state⟩

/-- The same activity with another kind of error. -/
def mapError {σ ε δ α : Type} (change : ε → δ) (dialogue : Dialogue σ ε α) : Dialogue σ δ α :=
  fun state =>
    let exchange := dialogue state
    ⟨exchange.calls, ⟨exchange.traced.events, exchange.traced.outcome.mapError change⟩,
      exchange.state⟩

end Dialogue

end PackedAttributes
