import PackedAttributes.Failure
import PackedAttributes.Logging.Line

/-!
What is reported while requests are built, records fetched and attributes decoded. The library
returns the events beside its results and leaves it to the program what becomes of them.
-/
namespace PackedAttributes

/-- The activity that an event belongs to. -/
inductive Activity where
  | request | fetch | decode | bulkRead
  deriving DecidableEq, Repr

/-- Something that happened on the way to a result. -/
inductive Event where
  /-- Extended attributes were selected and the option that they need was switched on. -/
  | extendedForced (mask : UInt32)
  /-- The first call of a fetch told the length of the answer. -/
  | lengthProbed (target : String) (length : UInt32)
  /-- The second call of a fetch told a greater length than the first one. -/
  | answerGrew (target : String) (first second : UInt32)
  /-- The second call of a fetch brought the answer. -/
  | answerFetched (target : String) (length : UInt32)
  /-- A system call failed. -/
  | callFailed (phase : Phase) (target : String) (error : OsError)
  /-- The field of an attribute at an offset was decoded. -/
  | fieldDecoded (attr : Attribute) (offset : Nat)
  /-- A whole record was decoded. -/
  | recordDecoded (attributes consumed length : Nat)
  /-- A call brought a batch of directory entries. -/
  | batchRead (target : String) (count : Nat)
  /-- A directory was read to its end. -/
  | directoryFinished (target : String) (entries : Nat)
  deriving DecidableEq, Repr

namespace Event

/-- The level of an event. -/
def level : Event → Level
  | .answerGrew .. => .error
  | .extendedForced _ | .answerFetched .. | .callFailed .. | .directoryFinished .. => .debug
  | .lengthProbed .. | .fieldDecoded .. | .recordDecoded .. | .batchRead .. => .trace

/-- The activity that an event belongs to. Failed calls are reported by the fetching of records,
also while a directory is read. -/
def activity : Event → Activity
  | .extendedForced _ => .request
  | .lengthProbed .. | .answerGrew .. | .answerFetched .. | .callFailed .. => .fetch
  | .fieldDecoded .. | .recordDecoded .. => .decode
  | .batchRead .. | .directoryFinished .. => .bulkRead

/-- The wording of an event. -/
def message : Event → String
  | .extendedForced _ =>
    "Extended common attributes selected, forcing FSOPT_ATTR_CMN_EXTENDED"
  | .lengthProbed .. => "Probed attribute buffer length"
  | .answerGrew .. => "Attribute buffer grew between probe and fetch"
  | .answerFetched .. => "Fetched attribute buffer"
  | .callFailed .. => "Attribute syscall failed"
  | .fieldDecoded .. => "Decoded attribute"
  | .recordDecoded .. => "Decoded attribute buffer"
  | .batchRead .. => "Read bulk batch"
  | .directoryFinished .. => "Finished bulk directory read"

/-- What an event says beside its wording, by name. -/
def details : Event → List (String × String)
  | .extendedForced mask => [("mask", toString mask)]
  | .lengthProbed target length => [("target", target), ("length", toString length)]
  | .answerGrew target first second =>
    [("target", target), ("first", toString first), ("second", toString second)]
  | .answerFetched target length => [("target", target), ("length", toString length)]
  | .callFailed phase target error =>
    [("phase", phase.name), ("target", target), ("error", error.message)]
  | .fieldDecoded attr offset =>
    [("attribute", attr.qualifiedName), ("offset", toString offset)]
  | .recordDecoded attributes consumed length =>
    [("attributes", toString attributes), ("consumed", toString consumed),
      ("length", toString length)]
  | .batchRead target count => [("target", target), ("count", toString count)]
  | .directoryFinished target entries =>
    [("target", target), ("entries", toString entries)]

end Event

/-- The outcome of an activity together with the events on the way to it. The events stay when the
activity fails. -/
structure Traced (ε α : Type) where
  /-- What happened, in order. -/
  events : List Event
  /-- The result, or why there is none. -/
  outcome : Except ε α

namespace Traced

/-- Reports an event. -/
def report {ε : Type} (event : Event) : Traced ε Unit := ⟨[event], .ok ()⟩

/-- Ends without a result. -/
def fail {ε α : Type} (error : ε) : Traced ε α := ⟨[], .error error⟩

/-- An outcome that was reached without any event. -/
def silently {ε α : Type} (outcome : Except ε α) : Traced ε α := ⟨[], outcome⟩

instance {ε : Type} : Monad (Traced ε) where
  pure value := ⟨[], .ok value⟩
  bind first next :=
    match first.outcome with
    | .ok value =>
      let second := next value
      ⟨first.events ++ second.events, second.outcome⟩
    | .error error => ⟨first.events, .error error⟩

end Traced

end PackedAttributes
