import PackedAttributes.Bytes.Basic
import PackedAttributes.OsError

/-!
Paths of files, and why they cannot be used.

A path is any sequence of bytes; it need not spell a text. It is made of steps between slashes. Steps
to the same directory and empty steps lead nowhere, so slashes at the end and in a row change nothing
but the length of the path.
-/
namespace PackedAttributes.Files

/-! ## Errors -/

/-- Why a path cannot be used. -/
inductive FileError where
  /-- The system reports an error. -/
  | system (error : OsError)
  /-- The path holds a NUL byte, so it cannot be handed to the system. -/
  | nulByte
  /-- Anything else, in words. -/
  | other (text : String)
  deriving DecidableEq, Repr

/-- The wording of the error. -/
def FileError.message : FileError → String
  | .system error => error.message
  | .nulByte => "file name contained an unexpected NUL byte"
  | .other text => text

/-! ## Steps -/

/-- The byte between the steps of a path. -/
def slash : UInt8 := 0x2F

/-- The byte that, alone between slashes, leads nowhere and, twice between slashes, leads up. -/
def dot : UInt8 := 0x2E

/-- A step of a path. -/
inductive Step where
  /-- To the containing directory. -/
  | up
  /-- To an entry. -/
  | entry (name : Bytes)
  deriving DecidableEq, Repr

/-- A path taken apart. -/
structure Path where
  /-- Whether the path starts at the root rather than at the working directory. -/
  isAbsolute : Bool
  /-- What stands between the slashes, without what is in front of the first one where the path
  starts at the root. -/
  parts : List Bytes
  deriving DecidableEq, Repr

namespace Path

/-- Takes a path apart. -/
def ofBytes (bytes : Bytes) : Path :=
  match bytes.splitOn slash with
  | [] :: next :: rest => ⟨true, next :: rest⟩
  | parts => ⟨false, parts⟩

/-- The path as bytes. -/
def toBytes (path : Path) : Bytes :=
  (if path.isAbsolute then [slash] else []) ++ [slash].intercalate path.parts

/-- The step that a part of a path stands for. -/
def step? (part : Bytes) : Option Step :=
  if part = [] ∨ part = [dot] then none
  else if part = [dot, dot] then some .up
  else some (.entry part)

/-- The steps in order. -/
def steps (path : Path) : List Step :=
  path.parts.filterMap step?

/-- Parts from the last one to the first, without those at the end that lead nowhere. -/
def dropIdle (reversed : List Bytes) : List Bytes :=
  reversed.dropWhile (fun part => (step? part).isNone)

/-- The path without its last step. -/
def parent (path : Path) : Path :=
  { path with parts := (dropIdle (dropIdle path.parts.reverse).tail).reverse }

/-- The name of the entry that the path ends with. A path that ends with a step up has none. -/
def fileName? (path : Path) : Option Bytes :=
  match path.steps.getLast? with
  | some (.entry name) => some name
  | _ => none

/-- The directory of the entry that the path ends with. It is the working directory where nothing is
left of a path without its last step. -/
def directory (path : Path) : Bytes :=
  let above := path.parent.toBytes
  if above = [] then [dot] else above

end Path

/-- A path with a further name behind it. -/
def joinName (path name : Bytes) : Bytes :=
  if path = [] ∨ path.getLast? = some slash then path ++ name else path ++ slash :: name

end PackedAttributes.Files
