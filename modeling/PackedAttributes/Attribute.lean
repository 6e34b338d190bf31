import PackedAttributes.Text.Basic
import PackedAttributes.Text.Lowercase

/-!
The catalogue: every attribute with its category, its bit, its format and its name. A category has a
mask of 32 bits of its own, so equal bits of two categories have nothing to do with one another.

Inside a category the order of the catalogue is the order in which a record holds the attributes. It is
not the order of the bits: the set of returned attributes and the error come first among the common
attributes, and the used space of a volume follows the available space.
-/
namespace PackedAttributes

/-! ## Categories -/

/-- A namespace of attributes. -/
inductive Category where
  | common | volume | directory | file | extended
  deriving DecidableEq, Repr

/-- The bit that marks a request for volume attributes. It has no value in a record. -/
def volumeMarker : UInt32 := 0x80000000

namespace Category

/-- All categories in the order in which a record holds them. -/
def all : List Category :=
  [.common, .volume, .directory, .file, .extended]

/-- The bits that the kernel accepts in a request. -/
def validMask : Category → UInt32
  | .common => 0xFFFFFFFF
  | .volume => 0xF0B7FFFF
  | .directory => 0x0000003F
  | .file => 0x000037FF
  | .extended => 0x00001FFC

/-- The name of the category. -/
def name : Category → String
  | .common => "common"
  | .volume => "volume"
  | .directory => "directory"
  | .file => "file"
  | .extended => "extended"

/-- The category that a word stands for, in any letter case. Long and short spellings are known. -/
def ofWord? (word : String) : Option Category :=
  match Text.lowercase word with
  | "common" | "cmn" => some .common
  | "volume" | "vol" => some .volume
  | "directory" | "dir" => some .directory
  | "file" => some .file
  | "extended" | "cmnext" | "common-extended" => some .extended
  | _ => none

/-- What is said about a word that stands for no category. -/
def unknownMessage (word : String) : String :=
  s!"Unknown attribute category: {word}. " ++
    "Use 'common', 'volume', 'directory', 'file', or 'extended'"

/-- Reads a category from a word. -/
def parse (word : String) : Except String Category :=
  match ofWord? word with
  | some category => .ok category
  | none => .error (unknownMessage word)

end Category

/-! ## Formats -/

/-- The formats of values that lie inline. -/
inductive InlineFormat where
  | word32 | word64 | offset | device | filesystemId | objectType | objectId | timespec | guid
  | accessMask | volumeCapabilities | volumeAttributes | extents | attributeSet
  deriving DecidableEq, Repr

/-- The formats of content that a descriptor points to. -/
inductive ContentFormat where
  /-- A text in UTF-8 that ends with a NUL byte. -/
  | text
  /-- Bytes without an interpretation. -/
  | blob
  /-- Two records of Finder information, one behind the other. -/
  | finderInfo
  deriving DecidableEq, Repr

/-- The format of an attribute's field. -/
inductive FieldFormat where
  /-- The value itself lies among the inline fields. -/
  | inline (format : InlineFormat)
  /-- A descriptor lies among the inline fields and points to the content. -/
  | reference (format : ContentFormat)
  deriving DecidableEq, Repr

/-- The size of a set of attributes: five masks. -/
def attributeSetSize : Nat := 20

/-- The size of a descriptor: an offset and a length. -/
def descriptorSize : Nat := 8

namespace InlineFormat

/-- The number of bytes that a value takes. -/
def size : InlineFormat → Nat
  | .word32 | .device | .objectType | .accessMask => 4
  | .word64 | .offset | .filesystemId | .objectId => 8
  | .timespec | .guid => 16
  | .volumeCapabilities => 32
  | .volumeAttributes => 2 * attributeSetSize
  | .extents => 64
  | .attributeSet => attributeSetSize

/-- The word for the format in listings. -/
def label : InlineFormat → String
  | .word32 => "U32"
  | .word64 => "U64"
  | .offset => "Offset"
  | .device => "Device"
  | .filesystemId => "FsId"
  | .objectType => "ObjectType"
  | .objectId => "ObjectId"
  | .timespec => "Timespec"
  | .guid => "Guid"
  | .accessMask => "AccessMask"
  | .volumeCapabilities => "VolumeCapabilities"
  | .volumeAttributes => "VolumeAttributes"
  | .extents => "ExtentRecord"
  | .attributeSet => "AttributeSet"

end InlineFormat

/-- The word for the format in listings. -/
def ContentFormat.label : ContentFormat → String
  | .text => "Text"
  | .blob => "Blob"
  | .finderInfo => "FinderInfo"

namespace FieldFormat

/-- The number of bytes that the field takes among the inline fields. -/
def inlineSize : FieldFormat → Nat
  | .inline format => format.size
  | .reference _ => descriptorSize

/-- The format as a listing shows it. -/
def description : FieldFormat → String
  | .inline format => s!"{format.label} ({format.size} bytes)"
  | .reference format => s!"reference -> {format.label}"

end FieldFormat

/-! ## Rows -/

/-- What the catalogue says about an attribute. -/
structure CatalogRow where
  /-- The position of the attribute's bit in the mask of its category. -/
  bit : Nat
  /-- How the value lies in a record. -/
  format : FieldFormat
  /-- The name under which the attribute is looked up and printed. -/
  name : String
  /-- The word for the attribute in structural listings. -/
  label : String
  deriving DecidableEq, Repr

/-! ## Attributes by category -/

/-- Attributes that every file-system object has. -/
inductive CommonAttribute where
  | returnedAttributes | error | name | deviceId | filesystemId | objectType | objectTag
  | objectId | objectPermanentId | parentObjectId | textEncoding | creationTime
  | modificationTime | changeTime | accessTime | backupTime | finderInfo | ownerId | groupId
  | accessMask | flags | generationCount | documentId | userAccess | extendedSecurity
  | ownerUuid | groupUuid | fileId | parentId | fullPath | addedTime | dataProtectionClass
  deriving DecidableEq, Repr

/-- Attributes of a mounted volume, asked for at its root. -/
inductive VolumeAttribute where
  | fileSystemType | signature | size | freeSpace | availableSpace | usedSpace
  | minimumAllocationSize | allocationClumpSize | ioBlockSize | objectCount | fileCount
  | directoryCount | maximumObjectCount | mountPoint | name | mountFlags | mountedDevice
  | encodingsUsed | capabilities | uuid | quotaSize | reservedSize | attributes
  | fileSystemTypeName | fileSystemSubtype
  deriving DecidableEq, Repr

/-- Attributes of a directory. -/
inductive DirectoryAttribute where
  | linkCount | entryCount | mountStatus | allocationSize | ioBlockSize | dataLength
  deriving DecidableEq, Repr

/-- Attributes of a file and its forks. -/
inductive FileAttribute where
  | linkCount | totalSize | allocationSize | ioBlockSize | clumpSize | deviceType | fileType
  | forkCount | forkList | dataLength | dataAllocationSize | dataExtents | resourceLength
  | resourceAllocationSize | resourceExtents
  deriving DecidableEq, Repr

/-- Further attributes that every object has, asked for by an option. -/
inductive ExtendedAttribute where
  | relativePath | privateSize | linkId | noFirmlinkPath | realDeviceId | realFilesystemId
  | cloneId | extendedFlags | recursiveGenerationCount | attributionTag | cloneReferenceCount
  deriving DecidableEq, Repr

/-- An attribute of any category. -/
inductive Attribute where
  | common (attr : CommonAttribute)
  | volume (attr : VolumeAttribute)
  | directory (attr : DirectoryAttribute)
  | file (attr : FileAttribute)
  | extended (attr : ExtendedAttribute)
  deriving DecidableEq, Repr

/-! ## The rows of the catalogue -/

namespace CommonAttribute

/-- All common attributes in the order in which a record holds them. -/
def all : List CommonAttribute :=
  [.returnedAttributes, .error, .name, .deviceId, .filesystemId, .objectType, .objectTag,
   .objectId, .objectPermanentId, .parentObjectId, .textEncoding, .creationTime,
   .modificationTime, .changeTime, .accessTime, .backupTime, .finderInfo, .ownerId, .groupId,
   .accessMask, .flags, .generationCount, .documentId, .userAccess, .extendedSecurity, .ownerUuid,
   .groupUuid, .fileId, .parentId, .fullPath, .addedTime, .dataProtectionClass]

/-- The catalogue rows of the common attributes. -/
def row : CommonAttribute → CatalogRow
  | .returnedAttributes => ⟨31, .inline .attributeSet, "returnedAttributes", "ReturnedAttributes"⟩
  | .error => ⟨29, .inline .word32, "error", "Error"⟩
  | .name => ⟨0, .reference .text, "name", "Name"⟩
  | .deviceId => ⟨1, .inline .device, "deviceID", "DeviceId"⟩
  | .filesystemId => ⟨2, .inline .filesystemId, "filesystemID", "FilesystemId"⟩
  | .objectType => ⟨3, .inline .objectType, "objectType", "ObjectType"⟩
  | .objectTag => ⟨4, .inline .word32, "objectTag", "ObjectTag"⟩
  | .objectId => ⟨5, .inline .objectId, "objectID", "ObjectId"⟩
  | .objectPermanentId => ⟨6, .inline .objectId, "objectPermanentID", "ObjectPermanentId"⟩
  | .parentObjectId => ⟨7, .inline .objectId, "parentObjectID", "ParentObjectId"⟩
  | .textEncoding => ⟨8, .inline .word32, "textEncoding", "TextEncoding"⟩
  | .creationTime => ⟨9, .inline .timespec, "creationTime", "CreationTime"⟩
  | .modificationTime => ⟨10, .inline .timespec, "modificationTime", "ModificationTime"⟩
  | .changeTime => ⟨11, .inline .timespec, "changeTime", "ChangeTime"⟩
  | .accessTime => ⟨12, .inline .timespec, "accessTime", "AccessTime"⟩
  | .backupTime => ⟨13, .inline .timespec, "backupTime", "BackupTime"⟩
  | .finderInfo => ⟨14, .reference .finderInfo, "finderInfo", "FinderInfo"⟩
  | .ownerId => ⟨15, .inline .word32, "ownerID", "OwnerId"⟩
  | .groupId => ⟨16, .inline .word32, "groupID", "GroupId"⟩
  | .accessMask => ⟨17, .inline .accessMask, "accessMask", "AccessMask"⟩
  | .flags => ⟨18, .inline .word32, "flags", "Flags"⟩
  | .generationCount => ⟨19, .inline .word32, "generationCount", "GenerationCount"⟩
  | .documentId => ⟨20, .inline .word32, "documentID", "DocumentId"⟩
  | .userAccess => ⟨21, .inline .word32, "userAccess", "UserAccess"⟩
  | .extendedSecurity => ⟨22, .reference .blob, "extendedSecurity", "ExtendedSecurity"⟩
  | .ownerUuid => ⟨23, .inline .guid, "ownerUUID", "OwnerUuid"⟩
  | .groupUuid => ⟨24, .inline .guid, "groupUUID", "GroupUuid"⟩
  | .fileId => ⟨25, .inline .word64, "fileID", "FileId"⟩
  | .parentId => ⟨26, .inline .word64, "parentID", "ParentId"⟩
  | .fullPath => ⟨27, .reference .text, "fullPath", "FullPath"⟩
  | .addedTime => ⟨28, .inline .timespec, "addedTime", "AddedTime"⟩
  | .dataProtectionClass => ⟨30, .inline .word32, "dataProtectionClass", "DataProtectionClass"⟩

end CommonAttribute

namespace VolumeAttribute

/-- All volume attributes in the order in which a record holds them. -/
def all : List VolumeAttribute :=
  [.fileSystemType, .signature, .size, .freeSpace, .availableSpace, .usedSpace,
   .minimumAllocationSize, .allocationClumpSize, .ioBlockSize, .objectCount, .fileCount,
   .directoryCount, .maximumObjectCount, .mountPoint, .name, .mountFlags, .mountedDevice,
   .encodingsUsed, .capabilities, .uuid, .quotaSize, .reservedSize, .attributes,
   .fileSystemTypeName, .fileSystemSubtype]

/-- The catalogue rows of the volume attributes. -/
def row : VolumeAttribute → CatalogRow
  | .fileSystemType => ⟨0, .inline .word32, "fileSystemType", "FileSystemType"⟩
  | .signature => ⟨1, .inline .word32, "signature", "Signature"⟩
  | .size => ⟨2, .inline .offset, "size", "Size"⟩
  | .freeSpace => ⟨3, .inline .offset, "freeSpace", "FreeSpace"⟩
  | .availableSpace => ⟨4, .inline .offset, "availableSpace", "AvailableSpace"⟩
  | .usedSpace => ⟨23, .inline .offset, "usedSpace", "UsedSpace"⟩
  | .minimumAllocationSize => ⟨5, .inline .offset, "minimumAllocationSize", "MinimumAllocationSize"⟩
  | .allocationClumpSize => ⟨6, .inline .offset, "allocationClumpSize", "AllocationClumpSize"⟩
  | .ioBlockSize => ⟨7, .inline .word32, "ioBlockSize", "IoBlockSize"⟩
  | .objectCount => ⟨8, .inline .word32, "objectCount", "ObjectCount"⟩
  | .fileCount => ⟨9, .inline .word32, "fileCount", "FileCount"⟩
  | .directoryCount => ⟨10, .inline .word32, "directoryCount", "DirectoryCount"⟩
  | .maximumObjectCount => ⟨11, .inline .word32, "maximumObjectCount", "MaximumObjectCount"⟩
  | .mountPoint => ⟨12, .reference .text, "mountPoint", "MountPoint"⟩
  | .name => ⟨13, .reference .text, "name", "Name"⟩
  | .mountFlags => ⟨14, .inline .word32, "mountFlags", "MountFlags"⟩
  | .mountedDevice => ⟨15, .reference .text, "mountedDevice", "MountedDevice"⟩
  | .encodingsUsed => ⟨16, .inline .word64, "encodingsUsed", "EncodingsUsed"⟩
  | .capabilities => ⟨17, .inline .volumeCapabilities, "capabilities", "Capabilities"⟩
  | .uuid => ⟨18, .inline .guid, "uuid", "Uuid"⟩
  | .quotaSize => ⟨28, .inline .offset, "quotaSize", "QuotaSize"⟩
  | .reservedSize => ⟨29, .inline .offset, "reservedSize", "ReservedSize"⟩
  | .attributes => ⟨30, .inline .volumeAttributes, "attributes", "Attributes"⟩
  | .fileSystemTypeName => ⟨20, .reference .text, "fileSystemTypeName", "FileSystemTypeName"⟩
  | .fileSystemSubtype => ⟨21, .inline .word32, "fileSystemSubtype", "FileSystemSubtype"⟩

end VolumeAttribute

namespace DirectoryAttribute

/-- All directory attributes in the order in which a record holds them. -/
def all : List DirectoryAttribute :=
  [.linkCount, .entryCount, .mountStatus, .allocationSize, .ioBlockSize, .dataLength]

/-- The catalogue rows of the directory attributes. -/
def row : DirectoryAttribute → CatalogRow
  | .linkCount => ⟨0, .inline .word32, "linkCount", "LinkCount"⟩
  | .entryCount => ⟨1, .inline .word32, "entryCount", "EntryCount"⟩
  | .mountStatus => ⟨2, .inline .word32, "mountStatus", "MountStatus"⟩
  | .allocationSize => ⟨3, .inline .offset, "physicalSize", "AllocationSize"⟩
  | .ioBlockSize => ⟨4, .inline .word32, "ioBlockSize", "IoBlockSize"⟩
  | .dataLength => ⟨5, .inline .offset, "logicalSize", "DataLength"⟩

end DirectoryAttribute

namespace FileAttribute

/-- All file attributes in the order in which a record holds them. -/
def all : List FileAttribute :=
  [.linkCount, .totalSize, .allocationSize, .ioBlockSize, .clumpSize, .deviceType, .fileType,
   .forkCount, .forkList, .dataLength, .dataAllocationSize, .dataExtents, .resourceLength,
   .resourceAllocationSize, .resourceExtents]

/-- The catalogue rows of the file attributes. -/
def row : FileAttribute → CatalogRow
  | .linkCount => ⟨0, .inline .word32, "linkCount", "LinkCount"⟩
  | .totalSize => ⟨1, .inline .offset, "logicalSize", "TotalSize"⟩
  | .allocationSize => ⟨2, .inline .offset, "physicalSize", "AllocationSize"⟩
  | .ioBlockSize => ⟨3, .inline .word32, "ioBlockSize", "IoBlockSize"⟩
  | .clumpSize => ⟨4, .inline .word32, "clumpSize", "ClumpSize"⟩
  | .deviceType => ⟨5, .inline .word32, "deviceType", "DeviceType"⟩
  | .fileType => ⟨6, .inline .word32, "fileType", "FileType"⟩
  | .forkCount => ⟨7, .inline .word32, "forkCount", "ForkCount"⟩
  | .forkList => ⟨8, .reference .blob, "forkList", "ForkList"⟩
  | .dataLength => ⟨9, .inline .offset, "dataLength", "DataLength"⟩
  | .dataAllocationSize => ⟨10, .inline .offset, "dataAllocationSize", "DataAllocationSize"⟩
  | .dataExtents => ⟨11, .inline .extents, "dataExtents", "DataExtents"⟩
  | .resourceLength => ⟨12, .inline .offset, "resourceLength", "ResourceLength"⟩
  | .resourceAllocationSize =>
    ⟨13, .inline .offset, "resourceAllocationSize", "ResourceAllocationSize"⟩
  | .resourceExtents => ⟨14, .inline .extents, "resourceExtents", "ResourceExtents"⟩

end FileAttribute

namespace ExtendedAttribute

/-- All extended attributes in the order in which a record holds them. -/
def all : List ExtendedAttribute :=
  [.relativePath, .privateSize, .linkId, .noFirmlinkPath, .realDeviceId, .realFilesystemId,
   .cloneId, .extendedFlags, .recursiveGenerationCount, .attributionTag, .cloneReferenceCount]

/-- The catalogue rows of the extended attributes. -/
def row : ExtendedAttribute → CatalogRow
  | .relativePath => ⟨2, .reference .text, "relativePath", "RelativePath"⟩
  | .privateSize => ⟨3, .inline .offset, "privateSize", "PrivateSize"⟩
  | .linkId => ⟨4, .inline .word64, "linkID", "LinkId"⟩
  | .noFirmlinkPath => ⟨5, .reference .text, "noFirmlinkPath", "NoFirmlinkPath"⟩
  | .realDeviceId => ⟨6, .inline .device, "realDeviceID", "RealDeviceId"⟩
  | .realFilesystemId => ⟨7, .inline .filesystemId, "realFilesystemID", "RealFilesystemId"⟩
  | .cloneId => ⟨8, .inline .word64, "cloneID", "CloneId"⟩
  | .extendedFlags => ⟨9, .inline .word64, "extendedFlags", "ExtendedFlags"⟩
  | .recursiveGenerationCount =>
    ⟨10, .inline .word64, "recursiveGenerationCount", "RecursiveGenerationCount"⟩
  | .attributionTag => ⟨11, .inline .word64, "attributionTag", "AttributionTag"⟩
  | .cloneReferenceCount => ⟨12, .inline .word32, "cloneReferenceCount", "CloneReferenceCount"⟩

end ExtendedAttribute

/-! ## Attributes of any category -/

namespace Attribute

/-- The category of the attribute. -/
def category : Attribute → Category
  | .common _ => .common
  | .volume _ => .volume
  | .directory _ => .directory
  | .file _ => .file
  | .extended _ => .extended

/-- The catalogue row of the attribute. -/
def row : Attribute → CatalogRow
  | .common attr => attr.row
  | .volume attr => attr.row
  | .directory attr => attr.row
  | .file attr => attr.row
  | .extended attr => attr.row

/-- The position of the attribute's bit in the mask of its category. -/
def bit (attr : Attribute) : Nat :=
  attr.row.bit

/-- The mask of the category with only the attribute's bit set. -/
def mask (attr : Attribute) : UInt32 :=
  1 <<< UInt32.ofNat attr.bit

/-- How the value lies in a record. -/
def format (attr : Attribute) : FieldFormat :=
  attr.row.format

/-- The name without the category. -/
def name (attr : Attribute) : String :=
  attr.row.name

/-- The word for the attribute in structural listings. -/
def label (attr : Attribute) : String :=
  attr.row.label

/-- The name with the category in front. -/
def qualifiedName (attr : Attribute) : String :=
  s!"{attr.category.name}.{attr.name}"

/-- The attributes of a category in the order in which a record holds them. -/
def inCategory : Category → List Attribute
  | .common => CommonAttribute.all.map .common
  | .volume => VolumeAttribute.all.map .volume
  | .directory => DirectoryAttribute.all.map .directory
  | .file => FileAttribute.all.map .file
  | .extended => ExtendedAttribute.all.map .extended

/-- All attributes in the order in which a record holds them. -/
def all : List Attribute :=
  Category.all.flatMap inCategory

/-- The position of the attribute in its category. -/
def index (attr : Attribute) : Nat :=
  (inCategory attr.category).idxOf attr

/-- The bits of a category that belong to some attribute. -/
def knownMask (category : Category) : UInt32 :=
  (inCategory category).foldl (fun known attr => known ||| attr.mask) 0

/-- Whether the kernel accepts the attribute in a request. Only the extent records of files are kept
in the catalogue for old records and refused in requests. -/
def isRequestable (attr : Attribute) : Bool :=
  attr.mask &&& attr.category.validMask == attr.mask

/-- What the attribute is looked up by. -/
def key (attr : Attribute) : Category × String :=
  (attr.category, Text.lowercase attr.name)

/-- The attribute of a category with a given name, in any letter case. The names are indexed in the
order of the catalogue, so if two attributes had the same key, the later one would hide the other. -/
def find? (category : Category) (name : String) : Option Attribute :=
  all.reverse.find? (fun attr => attr.key == (category, Text.lowercase name))

end Attribute

/-- The meta attribute that asks for the set of attributes that are returned. -/
def Attribute.returnedAttributes : Attribute := .common .returnedAttributes

end PackedAttributes
