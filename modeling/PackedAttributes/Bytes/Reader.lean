import PackedAttributes.Bytes.Basic

/-!
Reading at a position of a buffer, and the memory that a caller hands to the kernel.

A reader checks that its bytes are there before it takes them and says where it stopped, so the
position after a field is never guessed from its content. What is wrong with a stretch of bytes is a
fault, which knows positions and lengths but not which attribute was being read; `Failure` adds that.

A region is a fixed number of bytes, zero at first, of which the kernel overwrites an initial part.
Only the bytes that were ever written are kept, so a region of any size costs no more than what was
written into it.
-/
namespace PackedAttributes

/-! ## Faults -/

/-- The reasons why bytes do not hold what is read from them. -/
inductive Fault where
  /-- A read of `needed` bytes at `offset` found only `available` bytes. -/
  | truncated (offset needed available : Nat)
  /-- The range that a descriptor at `origin` points to does not lie inside the buffer. -/
  | referenceOutOfBounds (origin : Nat) (offset : Int32) (length : UInt32) (bufferLength : Nat)
  /-- A text has no bytes, so it lacks even its terminator. -/
  | emptyText
  /-- A text is not well-formed UTF-8. -/
  | invalidUtf8 (fault : Utf8.Fault)
  /-- A record made of two halves does not have their combined size. -/
  | compositeLength (expected actual : Nat)
  /-- A length prefix is smaller than itself or larger than the bytes that are there. -/
  | lengthPrefix (advertised : UInt32) (available : Nat)
  deriving DecidableEq, Repr

/-- The wording of a fault. -/
def Fault.message : Fault → String
  | .truncated offset needed available =>
    s!"buffer truncated: needed {needed} bytes at offset {offset}, {available} available"
  | .referenceOutOfBounds origin offset length bufferLength =>
    s!"reference at {origin} (offset {offset}, length {length}) is outside the " ++
      s!"{bufferLength}-byte buffer"
  | .emptyText => "string reference is empty (missing NUL terminator)"
  | .invalidUtf8 fault => s!"string reference is not valid UTF-8: {fault.message}"
  | .compositeLength expected actual =>
    s!"composite record has {actual} bytes, expected exactly {expected}"
  | .lengthPrefix advertised available =>
    s!"length prefix {advertised} is invalid for a {available}-byte buffer"

/-! ## Readers -/

/-- A step of reading: from a buffer and a position to a value and the position after it. -/
def Reader (α : Type) := Bytes → Nat → Except Fault (α × Nat)

namespace Reader

instance : Monad Reader where
  pure value := fun _ position => .ok (value, position)
  bind reader next := fun bytes position =>
    match reader bytes position with
    | .ok (value, after) => next value bytes after
    | .error fault => .error fault

/-- The position where reading stands. -/
def position : Reader Nat := fun _ position => .ok (position, position)

/-- Takes `size` bytes, or reports how many are there. -/
def take (size : Nat) : Reader Bytes := fun bytes position =>
  if position + size ≤ bytes.length then .ok (bytes.slice position size, position + size)
  else .error (.truncated position size (bytes.length - position))

/-- Takes `size` bytes together with the evidence that there are so many. -/
def block (size : Nat) : Reader { taken : Bytes // taken.length = size } := fun bytes position =>
  if inside : position + size ≤ bytes.length then
    .ok (⟨bytes.slice position size, by simp [Bytes.slice]; omega⟩, position + size)
  else .error (.truncated position size (bytes.length - position))

/-- A word of 32 bits. -/
def word32 : Reader UInt32 := do
  let bytes ← take 4
  return UInt32.ofNat bytes.littleEndian

/-- A word of 64 bits. -/
def word64 : Reader UInt64 := do
  let bytes ← take 8
  return UInt64.ofNat bytes.littleEndian

/-- A signed word of 32 bits. -/
def int32 : Reader Int32 := do
  let word ← word32
  return word.toInt32

/-- A signed word of 64 bits. -/
def int64 : Reader Int64 := do
  let word ← word64
  return word.toInt64

/-- The value that a reader finds at a position, without the position after it. -/
def valueAt {α : Type} (reader : Reader α) (bytes : Bytes) (position : Nat) : Except Fault α :=
  (reader bytes position).map Prod.fst

end Reader

/-! ## Regions -/

/-- A region of `size` bytes that begins with the bytes `written` and is zero behind them. -/
structure Region where
  /-- The number of bytes of the region. -/
  size : Nat
  /-- The initial part that was written. -/
  written : Bytes
  /-- Nothing is written outside the region. -/
  written_le_size : written.length ≤ size := by simp
  deriving DecidableEq, Repr

namespace Region

/-- A region of zeros. -/
def zeroed (size : Nat) : Region where
  size := size
  written := []

/-- A region that consists of the given bytes. -/
def ofBytes (bytes : Bytes) : Region where
  size := bytes.length
  written := bytes

/-- All bytes of the region. -/
def toBytes (region : Region) : Bytes :=
  region.written ++ List.replicate (region.size - region.written.length) 0

/-- Overwrites the start of the region, cutting what does not fit. Bytes behind the written ones
stay as they were. -/
def overwrite (region : Region) (bytes : Bytes) : Region where
  size := region.size
  written := bytes.take region.size ++ region.written.drop bytes.length
  written_le_size := by
    have := region.written_le_size
    simp
    omega

/-- What is left of the region behind its first `count` bytes. -/
def drop (region : Region) (count : Nat) : Region where
  size := region.size - count
  written := region.written.drop count
  written_le_size := by
    have := region.written_le_size
    simp
    omega

/-- The first `count` bytes of the region, or all of them where it is smaller. -/
def leading (region : Region) (count : Nat) : Bytes :=
  let taken := region.written.take count
  taken ++ List.replicate (min count region.size - taken.length) 0

/-- The word that the first four bytes of the region spell. -/
def leadingWord (region : Region) : UInt32 :=
  UInt32.ofNat (region.leading 4).littleEndian

/-- The first word of the region, where it has room for one. -/
def firstWord (region : Region) : Except Fault UInt32 :=
  if 4 ≤ region.size then .ok region.leadingWord else .error (.truncated 0 4 region.size)

end Region

end PackedAttributes
