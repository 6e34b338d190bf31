import PackedAttributes.AttributeSet
import PackedAttributes.Text.Basic

/-!
What a volume says about itself: its capabilities, each of which counts only if the volume also says
that it knows the capability, and the attributes that it knows and supports. And where the content of a
fork lies on its volume: the first eight runs of blocks, of which those that are not used hold none.
-/
namespace PackedAttributes

/-! ## Capabilities -/

/-- Four words of capability bits. -/
structure CapabilityWords where
  /-- The bits about the format of the volume. -/
  format : UInt32
  /-- The bits about the calls that the volume supports. -/
  interfaces : UInt32
  /-- A word without a meaning. -/
  reserved₁ : UInt32
  /-- Another word without a meaning. -/
  reserved₂ : UInt32
  deriving DecidableEq, Repr

namespace CapabilityWords

/-- The words in order. -/
def toList (words : CapabilityWords) : List UInt32 :=
  [words.format, words.interfaces, words.reserved₁, words.reserved₂]

/-- The bits that two groups of words share. -/
def intersect (left right : CapabilityWords) : CapabilityWords where
  format := left.format &&& right.format
  interfaces := left.interfaces &&& right.interfaces
  reserved₁ := left.reserved₁ &&& right.reserved₁
  reserved₂ := left.reserved₂ &&& right.reserved₂

/-- Four words as they lie in a record. -/
def reader : Reader CapabilityWords := do
  let format ← Reader.word32
  let interfaces ← Reader.word32
  let reserved₁ ← Reader.word32
  let reserved₂ ← Reader.word32
  return ⟨format, interfaces, reserved₁, reserved₂⟩

/-- The words as they lie in a record. -/
def toBytes (words : CapabilityWords) : Bytes :=
  words.toList.flatMap Bytes.ofWord32

/-- The words written out structurally. -/
def structural (words : CapabilityWords) : String :=
  Text.sequence (words.toList.map toString)

end CapabilityWords

/-- The capabilities of a volume. -/
structure VolumeCapabilities where
  /-- The bits of the capabilities that the volume has. -/
  capabilities : CapabilityWords
  /-- The bits of the capabilities about which the volume knows whether it has them. -/
  valid : CapabilityWords
  deriving DecidableEq, Repr

namespace VolumeCapabilities

/-- The capabilities that count: those that the volume both knows and has. -/
def effective (volume : VolumeCapabilities) : CapabilityWords :=
  volume.capabilities.intersect volume.valid

/-- Whether all the given bits of the word with a given index count. There are four words. -/
def supports (volume : VolumeCapabilities) (index : Nat) (bits : UInt32) : Bool :=
  match volume.effective.toList[index]? with
  | some word => word &&& bits == bits
  | none => false

/-- The capabilities of format and interfaces that count, in hexadecimal. -/
def text (volume : VolumeCapabilities) : String :=
  s!"format=0x{Text.hexadecimal 8 volume.effective.format.toNat} " ++
    s!"interfaces=0x{Text.hexadecimal 8 volume.effective.interfaces.toNat}"

/-- Both groups of words as they lie in a record. -/
def reader : Reader VolumeCapabilities := do
  let capabilities ← CapabilityWords.reader
  let valid ← CapabilityWords.reader
  return ⟨capabilities, valid⟩

/-- The capabilities as they lie in a record. -/
def toBytes (volume : VolumeCapabilities) : Bytes :=
  volume.capabilities.toBytes ++ volume.valid.toBytes

/-- The capabilities written out structurally. -/
def structural (volume : VolumeCapabilities) : String :=
  Text.fields "VolumeCapabilities"
    [("capabilities", volume.capabilities.structural), ("valid", volume.valid.structural)]

end VolumeCapabilities

/-! ## Supported attributes -/

namespace AttributeSet

/-- The five masks in hexadecimal with slashes between. -/
def text (set : AttributeSet) : String :=
  Text.joined "/" (set.masks.map (fun mask => Text.hexadecimal 8 mask.toNat))

/-- The set written out structurally. -/
def structural (set : AttributeSet) : String :=
  Text.fields "AttributeSet"
    [("common", toString set.common), ("volume", toString set.volume),
      ("directory", toString set.directory), ("file", toString set.file),
      ("common_extended", toString set.extended)]

end AttributeSet

/-- The attributes that a volume can answer for. -/
structure VolumeSupport where
  /-- The attributes that the volume knows. -/
  valid : AttributeSet
  /-- The attributes that the volume stores itself. -/
  native : AttributeSet
  deriving DecidableEq, Repr

namespace VolumeSupport

/-- Both sets with their names. -/
def text (volume : VolumeSupport) : String :=
  s!"valid={volume.valid.text} native={volume.native.text}"

/-- Both sets as they lie in a record. -/
def reader : Reader VolumeSupport := do
  let valid ← AttributeSet.reader
  let native ← AttributeSet.reader
  return ⟨valid, native⟩

/-- Both sets as they lie in a record. -/
def toBytes (volume : VolumeSupport) : Bytes :=
  volume.valid.toBytes ++ volume.native.toBytes

/-- Both sets written out structurally. -/
def structural (volume : VolumeSupport) : String :=
  Text.fields "VolumeAttributeInfo"
    [("valid", volume.valid.structural), ("native", volume.native.structural)]

end VolumeSupport

/-! ## Extents -/

/-- A run of blocks. -/
structure Extent where
  /-- The first block. -/
  startBlock : UInt32
  /-- The number of blocks. -/
  blockCount : UInt32
  deriving DecidableEq, Repr

namespace Extent

/-- A run as it lies in a record. -/
def reader : Reader Extent := do
  let startBlock ← Reader.word32
  let blockCount ← Reader.word32
  return ⟨startBlock, blockCount⟩

/-- The run as it lies in a record. -/
def toBytes (extent : Extent) : Bytes :=
  Bytes.ofWord32 extent.startBlock ++ Bytes.ofWord32 extent.blockCount

/-- The first block and the number of blocks with a plus between. -/
def text (extent : Extent) : String :=
  s!"{extent.startBlock}+{extent.blockCount}"

/-- The run written out structurally. -/
def structural (extent : Extent) : String :=
  Text.fields "ExtentDescriptor"
    [("start_block", toString extent.startBlock), ("block_count", toString extent.blockCount)]

end Extent

/-- The first eight runs of blocks of a fork. -/
structure Extents where
  /-- The runs in order. -/
  runs : List Extent
  /-- There are eight of them. -/
  length_eq : runs.length = 8
  deriving DecidableEq, Repr

namespace Extents

/-- Reads `count` runs one behind the other. -/
def readRuns : (count : Nat) → Reader { runs : List Extent // runs.length = count }
  | 0 => pure ⟨[], rfl⟩
  | count + 1 => do
    let run ← Extent.reader
    let rest ← readRuns count
    return ⟨run :: rest.val, by simp [rest.property]⟩

/-- Eight runs as they lie in a record. -/
def reader : Reader Extents := do
  let runs ← readRuns 8
  return ⟨runs.val, runs.property⟩

/-- The runs as they lie in a record. -/
def toBytes (extents : Extents) : Bytes :=
  extents.runs.flatMap Extent.toBytes

/-- The runs that are used, in brackets. -/
def text (extents : Extents) : String :=
  Text.sequence ((extents.runs.filter (fun run => run.blockCount != 0)).map Extent.text)

/-- All runs written out structurally. -/
def structural (extents : Extents) : String :=
  Text.sequence (extents.runs.map Extent.structural)

end Extents

end PackedAttributes
