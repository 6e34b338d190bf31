import PackedAttributes.Text.Basic

/-!
Bytes as they lie in a buffer, the fixed-width words that they spell, and the texts.

The fields of an attribute record hold their least significant byte first; Finder information holds
its most significant byte first. Each width has a reader and a writer that undo one another.

Well-formed UTF-8 is given by a table of first bytes: each one says which bytes may follow it, which
rules out overlong forms, surrogates and numbers beyond the last code point. A sequence that breaks
off is told apart from one that continues with a byte that cannot stand there, and the length of a
fault is the longest part that is still the start of some sequence.
-/
namespace PackedAttributes

/-- Bytes in the order in which they lie in a buffer. -/
abbrev Bytes := List UInt8

namespace Bytes

/-- The number that bytes spell, least significant byte first. -/
def littleEndian : Bytes → Nat
  | [] => 0
  | byte :: rest => byte.toNat + 256 * littleEndian rest

/-- The number that bytes spell, most significant byte first. -/
def bigEndian (bytes : Bytes) : Nat :=
  littleEndian bytes.reverse

/-- The lowest `width` bytes of a number, least significant byte first. -/
def ofNatLittleEndian : Nat → Nat → Bytes
  | 0, _ => []
  | width + 1, n => UInt8.ofNat n :: ofNatLittleEndian width (n / 256)

/-- The lowest `width` bytes of a number, most significant byte first. -/
def ofNatBigEndian (width n : Nat) : Bytes :=
  (ofNatLittleEndian width n).reverse

/-- A word of 32 bits as four bytes, least significant byte first. -/
def ofWord32 (word : UInt32) : Bytes :=
  ofNatLittleEndian 4 word.toNat

/-- A word of 64 bits as eight bytes, least significant byte first. -/
def ofWord64 (word : UInt64) : Bytes :=
  ofNatLittleEndian 8 word.toNat

/-- A signed word of 32 bits as four bytes, least significant byte first. -/
def ofInt32 (word : Int32) : Bytes :=
  ofWord32 word.toUInt32

/-- A signed word of 64 bits as eight bytes, least significant byte first. -/
def ofInt64 (word : Int64) : Bytes :=
  ofWord64 word.toUInt64

/-- The `count` bytes from a position on, or fewer where the bytes end. -/
def slice (bytes : Bytes) (position count : Nat) : Bytes :=
  (bytes.drop position).take count

/-- The bytes as pairs of hexadecimal digits. -/
def hexText (bytes : Bytes) : String :=
  String.join (bytes.map Text.hexByte)

end Bytes

end PackedAttributes

/-! ## UTF-8 -/

namespace PackedAttributes.Utf8

/-- All bytes from `low` to `high`, both included. -/
structure ByteRange where
  /-- The smallest byte of the range. -/
  low : UInt8
  /-- The largest byte of the range. -/
  high : UInt8
  deriving DecidableEq, Repr

/-- Whether a byte lies in the range. -/
def ByteRange.contains (range : ByteRange) (byte : UInt8) : Bool :=
  range.low ≤ byte && byte ≤ range.high

/-- The bytes that carry six further bits of a character. -/
def tail : ByteRange := ⟨0x80, 0xBF⟩

/-- What a first byte starts: the bits of the character that it carries, and the ranges of the bytes
that follow it. A byte that starts no sequence has none. -/
def lead? (byte : UInt8) : Option (Nat × List ByteRange) :=
  let bits := byte.toNat
  if byte ≤ 0x7F then some (bits, [])
  else if byte < 0xC2 then none
  else if byte ≤ 0xDF then some (bits - 0xC0, [tail])
  else if byte == 0xE0 then some (0, [⟨0xA0, 0xBF⟩, tail])
  else if byte == 0xED then some (0xD, [⟨0x80, 0x9F⟩, tail])
  else if byte ≤ 0xEF then some (bits - 0xE0, [tail, tail])
  else if byte == 0xF0 then some (0, [⟨0x90, 0xBF⟩, tail, tail])
  else if byte ≤ 0xF3 then some (bits - 0xF0, [tail, tail, tail])
  else if byte == 0xF4 then some (4, [⟨0x80, 0x8F⟩, tail, tail])
  else none

/-- A character of which some bytes were read and some are still expected. -/
structure Pending where
  /-- The position of its first byte. -/
  start : Nat
  /-- The number of bytes read so far. -/
  read : Nat
  /-- The bits of the character read so far. -/
  bits : Nat
  /-- What the next byte has to be. -/
  next : ByteRange
  /-- What the bytes after the next one have to be. -/
  later : List ByteRange
  deriving DecidableEq, Repr

/-- Where a text stops being well-formed. -/
structure Fault where
  /-- The number of bytes before the faulty sequence. -/
  validUpTo : Nat
  /-- The length of the faulty sequence, or none where the text ends inside a sequence. -/
  length : Option Nat
  deriving DecidableEq, Repr

/-- The wording of a fault. -/
def Fault.message (fault : Fault) : String :=
  match fault.length with
  | none => s!"incomplete utf-8 byte sequence from index {fault.validUpTo}"
  | some length => s!"invalid utf-8 sequence of {length} bytes from index {fault.validUpTo}"

/-- The character being read after a byte in its place: complete, or waiting for the next byte. -/
def Pending.advance (pending : Pending) (byte : UInt8) : Char ⊕ Pending :=
  let bits := pending.bits * 64 + byte.toNat % 64
  match pending.later with
  | [] => .inl (Char.ofNat bits)
  | next :: later => .inr ⟨pending.start, pending.read + 1, bits, next, later⟩

/-- What the byte at a position starts: a complete character, a character that waits for its next
byte, or nothing. -/
def start? (position : Nat) (byte : UInt8) : Option (Char ⊕ Pending) :=
  match lead? byte with
  | none => none
  | some (bits, []) => some (.inl (Char.ofNat bits))
  | some (bits, next :: later) => some (.inr ⟨position, 1, bits, next, later⟩)

/-- Reads characters from a position on, in the middle of a character if one is pending. -/
def decodeFrom (position : Nat) : Option Pending → Bytes → Except Fault (List Char)
  | none, [] => .ok []
  | some pending, [] => .error ⟨pending.start, none⟩
  | none, byte :: rest =>
    match start? position byte with
    | none => .error ⟨position, some 1⟩
    | some (.inl c) => (decodeFrom (position + 1) none rest).map (c :: ·)
    | some (.inr pending) => decodeFrom (position + 1) (some pending) rest
  | some pending, byte :: rest =>
    if pending.next.contains byte then
      match pending.advance byte with
      | .inl c => (decodeFrom (position + 1) none rest).map (c :: ·)
      | .inr pending => decodeFrom (position + 1) (some pending) rest
    else .error ⟨pending.start, some pending.read⟩

/-- The text that bytes spell, or where they stop spelling one. -/
def decode (bytes : Bytes) : Except Fault String :=
  (decodeFrom 0 none bytes).map String.ofList

/-- The character that stands for a faulty sequence. -/
def replacement : Char := Char.ofNat 0xFFFD

/-- Reads characters with the replacement character in the place of each faulty sequence. A byte
that cannot continue the pending character starts anew. -/
def decodeLossyFrom : Option Pending → Bytes → List Char
  | none, [] => []
  | some _, [] => [replacement]
  | none, byte :: rest =>
    match start? 0 byte with
    | none => replacement :: decodeLossyFrom none rest
    | some (.inl c) => c :: decodeLossyFrom none rest
    | some (.inr pending) => decodeLossyFrom (some pending) rest
  | some pending, byte :: rest =>
    if pending.next.contains byte then
      match pending.advance byte with
      | .inl c => c :: decodeLossyFrom none rest
      | .inr pending => decodeLossyFrom (some pending) rest
    else replacement :: match start? 0 byte with
      | none => replacement :: decodeLossyFrom none rest
      | some (.inl c) => c :: decodeLossyFrom none rest
      | some (.inr pending) => decodeLossyFrom (some pending) rest

/-- The text that bytes spell where they spell one, with replacement characters elsewhere. -/
def decodeLossy (bytes : Bytes) : String :=
  String.ofList (decodeLossyFrom none bytes)

/-- The bytes of a text. -/
def encode (text : String) : Bytes :=
  text.toList.flatMap String.utf8EncodeChar

end PackedAttributes.Utf8
