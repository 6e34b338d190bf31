import PackedAttributes.Bytes.Basic

/-!
What file-system objects are and what tells them apart: their types, with room for numbers that are not
known yet, and the identifiers of file systems and of the objects in them.
-/
namespace PackedAttributes

/-! ## Types -/

/-- The type of a file-system object. -/
inductive ObjectType where
  | none | regular | directory | blockDevice | characterDevice | symlink | socket | fifo | bad
  | stream | complex
  /-- A number without a known meaning. -/
  | unknown (number : UInt32)
  deriving DecidableEq, Repr

namespace ObjectType

/-- The type that a number stands for. -/
def ofNumber (number : UInt32) : ObjectType :=
  match number.toNat with
  | 0 => .none
  | 1 => .regular
  | 2 => .directory
  | 3 => .blockDevice
  | 4 => .characterDevice
  | 5 => .symlink
  | 6 => .socket
  | 7 => .fifo
  | 8 => .bad
  | 9 => .stream
  | 10 => .complex
  | _ => .unknown number

/-- The number that stands for a type. -/
def number : ObjectType → UInt32
  | .none => 0
  | .regular => 1
  | .directory => 2
  | .blockDevice => 3
  | .characterDevice => 4
  | .symlink => 5
  | .socket => 6
  | .fifo => 7
  | .bad => 8
  | .stream => 9
  | .complex => 10
  | .unknown number => number

/-- Whether the object is a directory. -/
def isDirectory (type : ObjectType) : Bool :=
  type == .directory

/-- The name of the type. -/
def text : ObjectType → String
  | .none => "none"
  | .regular => "regular"
  | .directory => "directory"
  | .blockDevice => "block-device"
  | .characterDevice => "character-device"
  | .symlink => "symlink"
  | .socket => "socket"
  | .fifo => "fifo"
  | .bad => "bad"
  | .stream => "stream"
  | .complex => "complex"
  | .unknown number => s!"unknown({number})"

/-- The type written out structurally. -/
def structural : ObjectType → String
  | .none => "None"
  | .regular => "Regular"
  | .directory => "Directory"
  | .blockDevice => "BlockDevice"
  | .characterDevice => "CharacterDevice"
  | .symlink => "Symlink"
  | .socket => "Socket"
  | .fifo => "Fifo"
  | .bad => "Bad"
  | .stream => "Stream"
  | .complex => "Complex"
  | .unknown number => Text.tagged "Unknown" (toString number)

end ObjectType

/-! ## Identifiers -/

/-- A signed word as hexadecimal text of its two's complement, without leading zeros. -/
def hexWord (word : Int32) : String :=
  "0x" ++ Text.numeral 16 word.toUInt32.toNat

/-- The identifier of a file system: two signed words. -/
structure FilesystemId where
  /-- The first word. -/
  first : Int32
  /-- The second word. -/
  second : Int32
  deriving DecidableEq, Repr

namespace FilesystemId

/-- Both words in hexadecimal with a colon between. -/
def text (id : FilesystemId) : String :=
  s!"{hexWord id.first}:{hexWord id.second}"

/-- The identifier written out structurally. -/
def structural (id : FilesystemId) : String :=
  Text.fields "FsId"
    [("val", Text.sequence [toString id.first.toInt, toString id.second.toInt])]

end FilesystemId

/-- The identifier of an object inside a file system. -/
structure ObjectId where
  /-- The number of the object. -/
  number : UInt32
  /-- The generation of the number, which tells its users apart. -/
  generation : UInt32
  deriving DecidableEq, Repr

namespace ObjectId

/-- The number and the generation with a slash between. -/
def text (id : ObjectId) : String :=
  s!"{id.number}/{id.generation}"

/-- The identifier written out structurally. -/
def structural (id : ObjectId) : String :=
  Text.fields "ObjectId"
    [("number", toString id.number), ("generation", toString id.generation)]

end ObjectId

/-- A universally unique identifier: sixteen bytes. -/
structure Guid where
  /-- The bytes in order. -/
  bytes : Bytes
  /-- There are sixteen of them. -/
  length_eq : bytes.length = 16
  deriving DecidableEq, Repr

namespace Guid

/-- Whether all bytes are zero, which stands for no identifier. -/
def isNil (guid : Guid) : Bool :=
  guid.bytes.all (· == 0)

/-- The bytes from one position up to another in capital hexadecimal digits. -/
def digits (guid : Guid) (first past : Nat) : String :=
  Text.joined "" ((guid.bytes.slice first (past - first)).map Text.capitalHexByte)

/-- The bytes in capital hexadecimal digits, in groups of four, two, two, two and six. -/
def text (guid : Guid) : String :=
  Text.joined "-"
    [guid.digits 0 4, guid.digits 4 6, guid.digits 6 8, guid.digits 8 10, guid.digits 10 16]

/-- The identifier written out structurally. -/
def structural (guid : Guid) : String :=
  Text.tagged "Guid" (Text.sequence (guid.bytes.map toString))

end Guid

end PackedAttributes
