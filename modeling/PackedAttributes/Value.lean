import PackedAttributes.Bytes.Basic
import PackedAttributes.Text.Basic
import PackedAttributes.Value.FinderInfo
import PackedAttributes.Value.Object
import PackedAttributes.Value.Timespec
import PackedAttributes.Value.Volume

/-!
The values of attributes. There is one shape for each format of a field, so the catalogue decides
which shape the value of an attribute has. Every value has a text of one line for listings.
-/
namespace PackedAttributes

/-- The shapes of values. -/
inductive Shape where
  | word32 | word64 | offset | device | filesystemId | objectType | objectId | timespec | guid
  | accessMask | volumeCapabilities | volumeSupport | extents | text | blob | finderInfo
  deriving DecidableEq, Repr

namespace Shape

/-- The name of the shape in structural listings. -/
def name : Shape → String
  | .word32 => "U32"
  | .word64 => "U64"
  | .offset => "Offset"
  | .device => "Device"
  | .filesystemId => "FsId"
  | .objectType => "ObjectType"
  | .objectId => "ObjectId"
  | .timespec => "Timespec"
  | .guid => "Guid"
  | .accessMask => "AccessMask"
  | .volumeCapabilities => "VolumeCapabilities"
  | .volumeSupport => "VolumeAttributes"
  | .extents => "Extents"
  | .text => "Text"
  | .blob => "Blob"
  | .finderInfo => "FinderInfo"

end Shape

namespace FieldFormat

/-- The shape of the values in a format. A set of attributes among the fields has no shape of its
own and is kept as its bytes. -/
def shape : FieldFormat → Shape
  | .inline .word32 => .word32
  | .inline .word64 => .word64
  | .inline .offset => .offset
  | .inline .device => .device
  | .inline .filesystemId => .filesystemId
  | .inline .objectType => .objectType
  | .inline .objectId => .objectId
  | .inline .timespec => .timespec
  | .inline .guid => .guid
  | .inline .accessMask => .accessMask
  | .inline .volumeCapabilities => .volumeCapabilities
  | .inline .volumeAttributes => .volumeSupport
  | .inline .extents => .extents
  | .inline .attributeSet => .blob
  | .reference .text => .text
  | .reference .blob => .blob
  | .reference .finderInfo => .finderInfo

end FieldFormat

/-- The value of an attribute. -/
inductive Value where
  /-- A number: an identifier, a count, flags or an error number. -/
  | word32 (word : UInt32)
  /-- A large number. -/
  | word64 (word : UInt64)
  /-- A size. -/
  | offset (word : Int64)
  /-- The number of a device. -/
  | device (word : Int32)
  | filesystemId (id : FilesystemId)
  | objectType (type : ObjectType)
  | objectId (id : ObjectId)
  | timespec (time : Timespec)
  | guid (id : Guid)
  /-- Permissions, without the bits for the type of the file. -/
  | accessMask (permissions : UInt32)
  | volumeCapabilities (volume : VolumeCapabilities)
  | volumeSupport (volume : VolumeSupport)
  | extents (runs : Extents)
  /-- A text, without the NUL byte at its end. -/
  | text (content : String)
  /-- Bytes without an interpretation. -/
  | blob (bytes : Bytes)
  | finderInfo (info : FinderInfo)
  deriving DecidableEq, Repr

namespace Value

/-- The shape of a value. -/
def shape : Value → Shape
  | .word32 _ => .word32
  | .word64 _ => .word64
  | .offset _ => .offset
  | .device _ => .device
  | .filesystemId _ => .filesystemId
  | .objectType _ => .objectType
  | .objectId _ => .objectId
  | .timespec _ => .timespec
  | .guid _ => .guid
  | .accessMask _ => .accessMask
  | .volumeCapabilities _ => .volumeCapabilities
  | .volumeSupport _ => .volumeSupport
  | .extents _ => .extents
  | .text _ => .text
  | .blob _ => .blob
  | .finderInfo _ => .finderInfo

/-! ## Text -/

/-- How many bytes of a blob its text shows. -/
def blobTextLimit : Nat := 16

/-- The number of bytes and the first of them in hexadecimal. -/
def blobText (bytes : Bytes) : String :=
  let shown := Bytes.hexText (bytes.take blobTextLimit)
  s!"{bytes.length} bytes" ++ (if bytes.isEmpty then "" else s!" {shown}") ++
    (if blobTextLimit < bytes.length then "..." else "")

/-- The value in one line. -/
def display : Value → String
  | .word32 word => toString word
  | .word64 word => toString word
  | .offset word => toString word.toInt
  | .device word => hexWord word
  | .filesystemId id => id.text
  | .objectType type => type.text
  | .objectId id => id.text
  | .timespec time => time.text
  | .guid id => id.text
  | .accessMask permissions => Text.octal 4 permissions.toNat
  | .volumeCapabilities volume => volume.text
  | .volumeSupport volume => volume.text
  | .extents runs => runs.text
  | .text content => Text.quoted content
  | .blob bytes => blobText bytes
  | .finderInfo info => info.text

/-- The content of the value written out structurally. -/
def structuralContent : Value → String
  | .word32 word => toString word
  | .word64 word => toString word
  | .offset word => toString word.toInt
  | .device word => toString word.toInt
  | .filesystemId id => id.structural
  | .objectType type => type.structural
  | .objectId id => id.structural
  | .timespec time => time.structural
  | .guid id => id.structural
  | .accessMask permissions => toString permissions
  | .volumeCapabilities volume => volume.structural
  | .volumeSupport volume => volume.structural
  | .extents runs => runs.structural
  | .text content => Text.quoted content
  | .blob bytes => Text.sequence (bytes.map toString)
  | .finderInfo info => info.structural

/-- The value written out structurally, with its shape in front. -/
def structural (value : Value) : String :=
  Text.tagged value.shape.name value.structuralContent

/-! ## Views -/

/-- The value as a number of 32 bits, also if it holds permissions. -/
def asWord32? : Value → Option UInt32
  | .word32 word | .accessMask word => some word
  | _ => none

/-- The value as a number of 64 bits, also if it is a number of 32 bits. -/
def asWord64? : Value → Option UInt64
  | .word64 word => some word
  | .word32 word => some word.toUInt64
  | _ => none

/-- The value as a size. -/
def asOffset? : Value → Option Int64
  | .offset word => some word
  | _ => none

/-- The value as the number of a device. -/
def asDevice? : Value → Option Int32
  | .device word => some word
  | _ => none

/-- The value as the identifier of a file system. -/
def asFilesystemId? : Value → Option FilesystemId
  | .filesystemId id => some id
  | _ => none

/-- The value as the type of an object. -/
def asObjectType? : Value → Option ObjectType
  | .objectType type => some type
  | _ => none

/-- The value as the identifier of an object. -/
def asObjectId? : Value → Option ObjectId
  | .objectId id => some id
  | _ => none

/-- The value as a time. -/
def asTimespec? : Value → Option Timespec
  | .timespec time => some time
  | _ => none

/-- The value as a universally unique identifier. -/
def asGuid? : Value → Option Guid
  | .guid id => some id
  | _ => none

/-- The value as a text. -/
def asText? : Value → Option String
  | .text content => some content
  | _ => none

/-- The value as bytes, also if it is a text. -/
def asBytes? : Value → Option Bytes
  | .blob bytes => some bytes
  | .text content => some (Utf8.encode content)
  | _ => none

/-- The value as Finder information. -/
def asFinderInfo? : Value → Option FinderInfo
  | .finderInfo info => some info
  | _ => none

/-- The value as the capabilities of a volume. -/
def asVolumeCapabilities? : Value → Option VolumeCapabilities
  | .volumeCapabilities volume => some volume
  | _ => none

/-- The value as the attributes that a volume supports. -/
def asVolumeSupport? : Value → Option VolumeSupport
  | .volumeSupport volume => some volume
  | _ => none

/-- The value as runs of blocks. -/
def asExtents? : Value → Option Extents
  | .extents runs => some runs
  | _ => none

/-! ## Bytes -/

/-- The bytes that stand for a value, among the inline fields or behind them. A text ends with a NUL
byte. -/
def toBytes : Value → Bytes
  | .word32 word => Bytes.ofWord32 word
  | .word64 word => Bytes.ofWord64 word
  | .offset word => Bytes.ofInt64 word
  | .device word => Bytes.ofInt32 word
  | .filesystemId id => Bytes.ofInt32 id.first ++ Bytes.ofInt32 id.second
  | .objectType type => Bytes.ofWord32 type.number
  | .objectId id => Bytes.ofWord32 id.number ++ Bytes.ofWord32 id.generation
  | .timespec time => Bytes.ofInt64 time.seconds ++ Bytes.ofInt64 time.nanoseconds
  | .guid id => id.bytes
  | .accessMask permissions => Bytes.ofWord32 permissions
  | .volumeCapabilities volume => volume.toBytes
  | .volumeSupport volume => volume.toBytes
  | .extents runs => runs.toBytes
  | .text content => Utf8.encode content ++ [0]
  | .blob bytes => bytes
  | .finderInfo info => info.toBytes

end Value

end PackedAttributes
