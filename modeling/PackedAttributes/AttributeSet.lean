import PackedAttributes.Attribute
import PackedAttributes.Bytes.Reader

/-!
Sets of attributes as five masks, one for each category. A set may hold bits that belong to no
attribute of the catalogue: the kernel reports its sets in this form.
-/
namespace PackedAttributes

/-- A set of attributes as one mask per category. -/
structure AttributeSet where
  /-- The mask of the common attributes. -/
  common : UInt32
  /-- The mask of the volume attributes. -/
  volume : UInt32
  /-- The mask of the directory attributes. -/
  directory : UInt32
  /-- The mask of the file attributes. -/
  file : UInt32
  /-- The mask of the extended common attributes. -/
  extended : UInt32
  deriving DecidableEq, Repr

namespace AttributeSet

/-- The set without any bit. -/
def empty : AttributeSet := ⟨0, 0, 0, 0, 0⟩

/-- The mask of a category. -/
def mask (set : AttributeSet) : Category → UInt32
  | .common => set.common
  | .volume => set.volume
  | .directory => set.directory
  | .file => set.file
  | .extended => set.extended

/-- The set with the mask of one category changed. -/
def mapMask (set : AttributeSet) (category : Category) (change : UInt32 → UInt32) :
    AttributeSet :=
  match category with
  | .common => { set with common := change set.common }
  | .volume => { set with volume := change set.volume }
  | .directory => { set with directory := change set.directory }
  | .file => { set with file := change set.file }
  | .extended => { set with extended := change set.extended }

/-- The masks in the order of the categories. -/
def masks (set : AttributeSet) : List UInt32 :=
  Category.all.map set.mask

/-- Adds an attribute. -/
def insert (set : AttributeSet) (attr : Attribute) : AttributeSet :=
  set.mapMask attr.category (· ||| attr.mask)

/-- Takes an attribute away. -/
def remove (set : AttributeSet) (attr : Attribute) : AttributeSet :=
  set.mapMask attr.category (· &&& ~~~attr.mask)

/-- Whether an attribute is in the set. -/
def contains (set : AttributeSet) (attr : Attribute) : Bool :=
  set.mask attr.category &&& attr.mask != 0

/-- Whether no bit is set in any category. -/
def isEmpty (set : AttributeSet) : Bool :=
  Category.all.all (fun category => set.mask category == 0)

/-- The attributes of a category that are in the set, in the order of the catalogue. -/
def members (set : AttributeSet) (category : Category) : List Attribute :=
  (Attribute.inCategory category).filter set.contains

/-- The set without the bits that the kernel refuses in requests. -/
def clamp (set : AttributeSet) : AttributeSet where
  common := set.common &&& Category.common.validMask
  volume := set.volume &&& Category.volume.validMask
  directory := set.directory &&& Category.directory.validMask
  file := set.file &&& Category.file.validMask
  extended := set.extended &&& Category.extended.validMask

/-- The bits of a category that no attribute accounts for. The marker of volume requests is no
attribute and counts as known. -/
def unknownBits (set : AttributeSet) (category : Category) : UInt32 :=
  let unaccounted := set.mask category &&& ~~~Attribute.knownMask category
  match category with
  | .volume => unaccounted &&& ~~~volumeMarker
  | _ => unaccounted

/-- The first category with bits that no attribute accounts for, and those bits. -/
def unknown? (set : AttributeSet) : Option (Category × UInt32) :=
  Category.all.findSome? (fun category =>
    let bits := set.unknownBits category
    if bits = 0 then none else some (category, bits))

/-- The attributes of the set that have a field in a record, in the order of the fields. The set of
returned attributes is part of the header and has none. -/
def fields (set : AttributeSet) : List Attribute :=
  Category.all.flatMap (fun category =>
    (set.members category).filter (fun attr => attr != .returnedAttributes))

/-- Five masks as they lie in a record. -/
def reader : Reader AttributeSet := do
  let common ← Reader.word32
  let volume ← Reader.word32
  let directory ← Reader.word32
  let file ← Reader.word32
  let extended ← Reader.word32
  return ⟨common, volume, directory, file, extended⟩

/-- The set as it lies in a record. -/
def toBytes (set : AttributeSet) : Bytes :=
  set.masks.flatMap Bytes.ofWord32

end AttributeSet

end PackedAttributes
