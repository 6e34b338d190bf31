import PackedAttributes.Kernel.Basic
import PackedAttributes.Record

/-!
Records from the side that writes them, and a kernel that answers from one object of which it knows
every attribute.

In a record the inline fields lie one behind the other, each where the sizes of those before it add
up to; the content of all descriptors follows behind the last inline field. The kernel packs what was
asked for into a record, copies as much of it as the caller's buffer holds and states the length of
the record or, unless it was asked for the full length, of what it copied.
-/
namespace PackedAttributes

/-! ## Layout -/

/-- The size of the header of a record with or without a set of returned attributes. -/
def headerSize (returned : Option AttributeSet) : Nat :=
  lengthPrefixSize + (returned.map (fun _ => attributeSetSize)).getD 0

/-- The number of bytes that the inline fields of attributes take together. -/
def inlineSize : List Attribute → Nat
  | [] => 0
  | attr :: rest => attr.format.inlineSize + inlineSize rest

/-- Each attribute with the position of its inline field, where the first one lies at `position`. -/
def fieldOffsets (position : Nat) : List Attribute → List (Attribute × Nat)
  | [] => []
  | attr :: rest => (attr, position) :: fieldOffsets (position + attr.format.inlineSize) rest

/-- A field that is to be packed. -/
structure PackedField where
  /-- The attribute. -/
  attr : Attribute
  /-- The inline value or the content. -/
  bytes : Bytes
  /-- Bytes without a meaning behind the content. -/
  padding : Bytes
  deriving DecidableEq, Repr

namespace PackedField

/-- The inline part of a field at a position, where the next content lies at `contentPosition`. -/
def inlinePart (field : PackedField) (position contentPosition : Nat) : Bytes :=
  match field.attr.format with
  | .inline _ => field.bytes
  | .reference _ =>
    Reference.toBytes ⟨position, Int32.ofNat (contentPosition - position),
      UInt32.ofNat field.bytes.length⟩

/-- What a field adds behind the inline fields. -/
def contentPart (field : PackedField) : Bytes :=
  match field.attr.format with
  | .inline _ => []
  | .reference _ => field.bytes ++ field.padding

/-- The inline parts of fields from a position on. -/
def inlineParts : List PackedField → (position contentPosition : Nat) → Bytes
  | [], _, _ => []
  | field :: rest, position, contentPosition =>
    let part := field.inlinePart position contentPosition
    part ++ inlineParts rest (position + part.length)
      (contentPosition + field.contentPart.length)

/-- The content of fields, in their order. -/
def contentParts (fields : List PackedField) : Bytes :=
  fields.flatMap contentPart

end PackedField

/-- The record that holds the given fields in their order. The gap between the inline fields and the
first content has no meaning. -/
def packRecord (returned : Option AttributeSet) (gap : Bytes) (fields : List PackedField) : Bytes :=
  let start := headerSize returned
  let contentStart := start + inlineSize (fields.map PackedField.attr) + gap.length
  let body := (returned.map AttributeSet.toBytes).getD [] ++
    PackedField.inlineParts fields start contentStart ++ gap ++ PackedField.contentParts fields
  Bytes.ofWord32 (UInt32.ofNat (lengthPrefixSize + body.length)) ++ body

/-! ## Objects -/

/-- An object with the bytes of every attribute: inline values, or content with its terminator. -/
structure StoredObject where
  /-- The bytes of an attribute. -/
  content : Attribute → Bytes

/-- The attributes that a call asks for. The last mask names extended attributes only under the
option for them, and volume attributes count only with their marker. -/
def Call.requested (call : Call) : AttributeSet where
  common := call.list.common
  volume := if call.list.volume &&& volumeMarker != 0 then call.list.volume else 0
  directory := call.list.directory
  file := call.list.file
  extended := if call.options.contains .useExtendedCommonAttributes then call.list.fork else 0

namespace StoredObject

/-- Zeros up to the next multiple of four. -/
def alignment (size : Nat) : Bytes :=
  List.replicate ((4 - size % 4) % 4) 0

/-- The field of an attribute, its content padded to a multiple of four. -/
def packedField (object : StoredObject) (attr : Attribute) : PackedField where
  attr := attr
  bytes := object.content attr
  padding := alignment (object.content attr).length

/-- The record with all the attributes of a set. -/
def record (object : StoredObject) (set : AttributeSet) : Bytes :=
  packRecord (if set.contains .returnedAttributes then some set else none) []
    (set.fields.map object.packedField)

/-- What a call writes into a buffer: the start of the record, with the length that is stated. -/
def written (object : StoredObject) (call : Call) : Bytes :=
  let record := object.record call.requested
  let copied := record.take call.bufferLength
  let length := if call.options.contains .reportFullSize then record.length else copied.length
  ((Bytes.ofWord32 (UInt32.ofNat length)) ++ copied.drop lengthPrefixSize).take call.bufferLength

/-- The kernel that answers every call from the object. -/
def kernel (object : StoredObject) : Kernel Unit := fun state call =>
  (.success (object.written call) 0, state)

end StoredObject

end PackedAttributes
