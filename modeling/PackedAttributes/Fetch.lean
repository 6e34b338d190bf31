import PackedAttributes.Kernel.Basic
import PackedAttributes.Record

/-!
Fetching the record of one object in two calls. The kernel cuts an answer that does not fit without
saying so, so a first call with room for nothing but the length learns how long the answer is, and a
second call has exactly that much room. An answer that has grown in between is a contradiction of
the kernel and no failure that a caller could handle.
-/
namespace PackedAttributes

/-- Why a fetch brought no record. -/
inductive FetchError where
  /-- Something that a caller can handle. -/
  | failed (failure : Failure)
  /-- The second call told a greater length than the first one. -/
  | answerGrew (target : String) (first second : UInt32)
  deriving DecidableEq, Repr

/-- The wording of the error. -/
def FetchError.message : FetchError → String
  | .failed failure => failure.message
  | .answerGrew target first second =>
    s!"getattrlist reported {second} bytes on the second call for {target}, " ++
      s!"but only {first} on the probe"

/-- The call that asks for the attributes of a target. -/
def Request.call (request : Request) (target : Target) (options : Options) (bufferLength : Nat) :
    Call where
  subject := .object target
  list := request.attributeList
  options := options
  bufferLength := bufferLength

variable {σ : Type}

/-- The length of the answer to a request, learnt by a call with room for the length only. A length
that does not cover itself is refused. -/
def probeLength (kernel : Kernel σ) (target : Target) (request : Request) :
    Dialogue σ Failure UInt32 := do
  let options := request.options.insert .reportFullSize
  let buffer ← Dialogue.call kernel .probe target
    (request.call target options lengthPrefixSize) (Region.zeroed lengthPrefixSize)
  let length := buffer.leadingWord
  Dialogue.report (.lengthProbed target.text length)
  if length.toNat < lengthPrefixSize then
    Dialogue.fail (.malformedRecord (.lengthPrefix length lengthPrefixSize))
  else return length

/-- The answer to a request in a buffer of exactly `length` bytes. -/
def fetchAnswer (kernel : Kernel σ) (target : Target) (request : Request) (length : Nat) :
    Dialogue σ Failure Region :=
  Dialogue.call kernel .fetch target (request.call target request.options length)
    (Region.zeroed length)

/-- The record in an answer for which `first` bytes were announced. -/
def acceptAnswer (target : Target) (request : Request) (first : UInt32) (answer : Region) :
    Traced FetchError Record :=
  let second := answer.leadingWord
  if first < second then do
    .report (.answerGrew target.text first second)
    .fail (.answerGrew target.text first second)
  else do
    .report (.answerFetched target.text second)
    .silently ((Record.ofRegion answer request.attributes).mapError .failed)

/-- Fetches the record of a target. -/
def fetchRecord (kernel : Kernel σ) (target : Target) (request : Request) :
    Dialogue σ FetchError Record := do
  let first ← (probeLength kernel target request).mapError .failed
  let answer ← (fetchAnswer kernel target request first.toNat).mapError .failed
  Dialogue.quiet (acceptAnswer target request first answer)

/-- Builds the request for a selection, fetches the record of a target and decodes it. -/
def fetchAttributes (kernel : Kernel σ) (target : Target) (selection : Selection)
    (options : Options) : Dialogue σ FetchError AttributeValues := do
  let request ← (Dialogue.quiet (Request.build selection options)).mapError .failed
  let record ← fetchRecord kernel target request
  (Dialogue.quiet record.decode).mapError .failed

end PackedAttributes
