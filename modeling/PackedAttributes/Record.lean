import PackedAttributes.Event
import PackedAttributes.Value

/-!
Records: a header, inline fields, and content behind them that descriptors point at.

A record begins with its own length; if the set of returned attributes was requested, that set follows.
Everything behind the length that the record states for itself is dropped before anything else is read.

Inline values are read by the reader of their format. Content lies behind the inline fields, and its
whole extent is known before it is interpreted. A descriptor says where its content lies relative to
itself, so it has to be kept together with its own position. Whether the content lies inside the
record is decided over the integers, where no sum can wrap around.

The fields of the present attributes lie one behind the other in the order of the catalogue, so a bit
that the catalogue does not know makes all that follows unreadable and is reported before anything is
read. The first field that cannot be read ends the decoding.
-/
namespace PackedAttributes

/-! ## Headers -/

/-- The size of the length in front of a record. -/
def lengthPrefixSize : Nat := 4

namespace Region

/-- The length that the record at the start of a region states for itself. It covers at least itself
and lies inside the region. -/
def recordLength (region : Region) : Except Fault Nat :=
  match region.firstWord with
  | .error fault => .error fault
  | .ok length =>
    if lengthPrefixSize ≤ length.toNat ∧ length.toNat ≤ region.size then .ok length.toNat
    else .error (.lengthPrefix length region.size)

end Region

/-- A record with its header read. -/
structure Record where
  /-- The bytes of the record, from its length to the end that it states. -/
  bytes : Bytes
  /-- The attributes that were requested. -/
  requested : AttributeSet
  /-- The attributes that the kernel says it returned, where it was asked to say so. -/
  returned : Option AttributeSet
  deriving DecidableEq, Repr

namespace Record

/-- The header of the record at the start of some bytes that were cut to its length. -/
def ofBytes (bytes : Bytes) (requested : AttributeSet) : Except Fault Record :=
  if requested.contains .returnedAttributes then
    (AttributeSet.reader.valueAt bytes lengthPrefixSize).map
      (fun returned => ⟨bytes, requested, some returned⟩)
  else .ok ⟨bytes, requested, none⟩

/-- The record at the start of a region, where `requested` is what the kernel was asked for. -/
def ofRegion (region : Region) (requested : AttributeSet) : Except Failure Record :=
  match region.recordLength with
  | .error fault => .error (.malformedRecord fault)
  | .ok length => (ofBytes (region.leading length) requested).mapError .malformedRecord

/-- The record at the start of the given bytes. -/
def parse (bytes : Bytes) (requested : AttributeSet) : Except Failure Record :=
  ofRegion (Region.ofBytes bytes) requested

/-- The number of bytes of the record. -/
def size (record : Record) : Nat :=
  record.bytes.length

/-- Whether the record has no bytes at all. A record that was read has at least its length. -/
def isEmpty (record : Record) : Bool :=
  record.bytes.isEmpty

/-- The attributes in the record: those that were returned where the record says so, else those that
were requested. -/
def present (record : Record) : AttributeSet :=
  record.returned.getD record.requested

/-- The position of the first field. -/
def bodyOffset (record : Record) : Nat :=
  match record.returned with
  | some _ => lengthPrefixSize + attributeSetSize
  | none => lengthPrefixSize

end Record

/-! ## Values -/

/-- The bits of an access mask that tell the type of the file. They are no permissions. -/
def fileTypeBits : UInt32 := 0xF000

/-- Reads an inline value of a format. -/
def InlineFormat.reader : InlineFormat → Reader Value
  | .word32 => return .word32 (← Reader.word32)
  | .word64 => return .word64 (← Reader.word64)
  | .offset => return .offset (← Reader.int64)
  | .device => return .device (← Reader.int32)
  | .filesystemId => do
    let first ← Reader.int32
    let second ← Reader.int32
    return .filesystemId ⟨first, second⟩
  | .objectType => return .objectType (ObjectType.ofNumber (← Reader.word32))
  | .objectId => do
    let number ← Reader.word32
    let generation ← Reader.word32
    return .objectId ⟨number, generation⟩
  | .timespec => do
    let seconds ← Reader.int64
    let nanoseconds ← Reader.int64
    return .timespec ⟨seconds, nanoseconds⟩
  | .guid => do
    let block ← Reader.block 16
    return .guid ⟨block.val, block.property⟩
  | .accessMask => return .accessMask ((← Reader.word32) &&& ~~~fileTypeBits)
  | .volumeCapabilities => return .volumeCapabilities (← VolumeCapabilities.reader)
  | .volumeAttributes => return .volumeSupport (← VolumeSupport.reader)
  | .extents => return .extents (← Extents.reader)
  | .attributeSet => return .blob (← Reader.take attributeSetSize)

/-- The text that content holds. One NUL byte at the end is its terminator and is taken off; content
without any byte lacks it. -/
def textOfContent (content : Bytes) : Except Fault String :=
  match content.getLast? with
  | none => .error .emptyText
  | some last =>
    (Utf8.decode (if last = 0 then content.dropLast else content)).mapError .invalidUtf8

/-- The value that content holds. Finder information has another shape for folders. -/
def ContentFormat.parse (format : ContentFormat) (content : Bytes) (isFolder : Bool) :
    Except Fault Value :=
  match format with
  | .text => (textOfContent content).map .text
  | .blob => .ok (.blob content)
  | .finderInfo => (FinderInfo.parse content isFolder).map .finderInfo

/-! ## Descriptors -/

/-- A descriptor of content, and where it lies. -/
structure Reference where
  /-- The position of the descriptor, from which its offset counts. -/
  origin : Nat
  /-- The distance from the descriptor to the content. -/
  offset : Int32
  /-- The number of bytes of the content. -/
  length : UInt32
  deriving DecidableEq, Repr

namespace Reference

/-- The descriptor that eight bytes at a position spell. -/
def ofBytes (origin : Nat) (bytes : Bytes) : Reference where
  origin := origin
  offset := (UInt32.ofNat (bytes.slice 0 4).littleEndian).toInt32
  length := UInt32.ofNat (bytes.slice 4 4).littleEndian

/-- The descriptor as eight bytes. -/
def toBytes (reference : Reference) : Bytes :=
  Bytes.ofInt32 reference.offset ++ Bytes.ofWord32 reference.length

/-- Reads a descriptor and moves behind it, not behind its content. -/
def reader : Reader Reference := do
  let origin ← Reader.position
  let bytes ← Reader.take descriptorSize
  return ofBytes origin bytes

/-- The position of the content, which may lie outside the record on either side. -/
def start (reference : Reference) : Int :=
  reference.origin + reference.offset.toInt

/-- The content, if all of it lies inside the given bytes. -/
def content (reference : Reference) (bytes : Bytes) : Except Fault Bytes :=
  if 0 ≤ reference.start ∧ reference.start + reference.length.toNat ≤ bytes.length then
    .ok (bytes.slice reference.start.toNat reference.length.toNat)
  else
    .error (.referenceOutOfBounds reference.origin reference.offset reference.length bytes.length)

/-- The value of the content. The type of the object, where it is known, tells folders from files.
-/
def resolve (reference : Reference) (bytes : Bytes) (format : ContentFormat)
    (objectType : Option ObjectType) : Except Fault Value := do
  let content ← reference.content bytes
  format.parse content (objectType.any ObjectType.isDirectory)

end Reference

/-- Reads the field of an attribute: an inline value, or a descriptor and the value that it points
to. -/
def FieldFormat.reader (format : FieldFormat) (objectType : Option ObjectType) : Reader Value :=
  match format with
  | .inline format => format.reader
  | .reference format => fun bytes position =>
    match Reference.reader bytes position with
    | .error fault => .error fault
    | .ok (descriptor, after) =>
      (descriptor.resolve bytes format objectType).map (fun value => (value, after))

/-! ## Decoded attributes -/

/-- The values of the attributes of a record, in the order in which the record holds them. -/
structure AttributeValues where
  /-- Each attribute with its value. -/
  entries : List (Attribute × Value)
  deriving DecidableEq, Repr

namespace AttributeValues

/-- The value of an attribute, if it is there. -/
def get? (values : AttributeValues) (attr : Attribute) : Option Value :=
  values.entries.lookup attr

/-- Whether an attribute is there. -/
def contains (values : AttributeValues) (attr : Attribute) : Bool :=
  (values.get? attr).isSome

/-- The attributes of a category with their values. -/
def inCategory (values : AttributeValues) (category : Category) : List (Attribute × Value) :=
  values.entries.filter (fun entry => entry.1.category == category)

/-- The number of attributes. -/
def size (values : AttributeValues) : Nat :=
  values.entries.length

/-- Whether there is no attribute. -/
def isEmpty (values : AttributeValues) : Bool :=
  values.entries.isEmpty

/-- The name of the object. -/
def name? (values : AttributeValues) : Option String :=
  (values.get? (.common .name)).bind Value.asText?

/-- The type of the object. -/
def objectType? (values : AttributeValues) : Option ObjectType :=
  (values.get? (.common .objectType)).bind Value.asObjectType?

/-- The error that kept the kernel from reading the object. Zero stands for none, and a word that is
no positive signed number is no error number. -/
def errorNumber? (values : AttributeValues) : Option UInt32 :=
  ((values.get? (.common .error)).bind Value.asWord32?).filter
    (fun number => number != 0 && number.toNat < 0x80000000)

/-- The attributes of a category written out structurally. -/
def structural (values : AttributeValues) (category : Category) : String :=
  Text.table ((values.inCategory category).map
    (fun (attr, value) => (attr.label, value.structural)))

end AttributeValues

/-! ## Decoding -/

namespace Record

/-- The values of fields that lie one behind the other from a position on, and the position behind
them. The type of the object, once it was read, shapes the fields that follow. -/
def decodeFields (bytes : Bytes) :
    List Attribute → Option ObjectType → Nat → Traced Failure (List (Attribute × Value) × Nat)
  | [], _, position => pure ([], position)
  | attr :: rest, objectType, position =>
    match attr.format.reader objectType bytes position with
    | .error fault => .fail (.undecodable attr fault)
    | .ok (value, after) => do
      .report (.fieldDecoded attr position)
      let (entries, past) ← decodeFields bytes rest (value.asObjectType?.or objectType) after
      return ((attr, value) :: entries, past)

/-- The values of all present attributes. -/
def decode (record : Record) : Traced Failure AttributeValues :=
  match record.present.unknown? with
  | some (category, bits) => .fail (.unknownAttributes category bits)
  | none => do
    let (entries, past) ← decodeFields record.bytes record.present.fields none record.bodyOffset
    .report (.recordDecoded entries.length past record.size)
    return ⟨entries⟩

end Record

end PackedAttributes
