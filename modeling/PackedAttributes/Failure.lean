import PackedAttributes.Attribute
import PackedAttributes.Bytes.Reader
import PackedAttributes.OsError

/-!
Why a request, a fetch or a decoding did not succeed.
-/
namespace PackedAttributes

/-- The system calls of a fetch, by the part that they play. -/
inductive Phase where
  /-- The first call of a fetch, which only learns the length of the answer. -/
  | probe
  /-- The second call of a fetch, with room for the whole answer. -/
  | fetch
  /-- A call that reads a batch of directory entries. -/
  | bulkRead
  deriving DecidableEq, Repr

/-- The name of a phase. -/
def Phase.name : Phase → String
  | .probe => "probe"
  | .fetch => "fetch"
  | .bulkRead => "bulk read"

/-- What callers see when something did not succeed. -/
inductive Failure where
  /-- A requested attribute is outside the valid mask of its category. -/
  | invalidAttribute (attr : Attribute)
  /-- An argument is of no use. -/
  | invalidArgument (text : String)
  /-- A system call failed for a target. -/
  | callFailed (phase : Phase) (target : String) (error : OsError)
  /-- The header of a record is unusable. -/
  | malformedRecord (fault : Fault)
  /-- The present attributes include bits that the catalogue does not know. Nothing behind them can
  be located. -/
  | unknownAttributes (category : Category) (bits : UInt32)
  /-- The field of an attribute could not be decoded. -/
  | undecodable (attr : Attribute) (fault : Fault)
  /-- Something outside the attribute calls failed in the operating system. -/
  | osFailure (error : OsError)
  deriving DecidableEq, Repr

namespace Failure

/-- The wording of a failure. -/
def message : Failure → String
  | .invalidAttribute attr =>
    s!"Attribute {attr.qualifiedName} is not valid in a {attr.category.name} request"
  | .invalidArgument text => s!"Invalid argument: {text}"
  | .callFailed phase target error =>
    s!"{phase.name} call failed for {target}: {error.message}"
  | .malformedRecord fault => s!"Malformed attribute buffer: {fault.message}"
  | .unknownAttributes category bits =>
    s!"Kernel returned unknown {category.name} attributes: " ++
      s!"0x{Text.hexadecimal 8 bits.toNat}"
  | .undecodable attr fault => s!"Failed to decode {attr.qualifiedName}: {fault.message}"
  | .osFailure error => s!"IO error: {error.message}"

/-- The error of the operating system behind the failure, where there is one. -/
def osError? : Failure → Option OsError
  | .callFailed _ _ error | .osFailure error => some error
  | _ => none

/-- The attribute that the failure is about, where it is about one. -/
def attribute? : Failure → Option Attribute
  | .invalidAttribute attr | .undecodable attr _ => some attr
  | _ => none

/-- The wording of the cause behind the failure, where it has one of its own. -/
def cause? : Failure → Option String
  | .callFailed _ _ error | .osFailure error => some error.message
  | .undecodable _ fault => some fault.message
  | _ => none

end Failure

end PackedAttributes
