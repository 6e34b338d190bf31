import PackedAttributes.Bytes.Reader
import PackedAttributes.Text.Basic

/-!
Finder information: two records of sixteen bytes, the first about how the object is shown and the
second with later additions. Files and folders give the bytes different meanings. All words hold
their most significant byte first.
-/
namespace PackedAttributes

/-- The size of one of the two records. -/
def finderRecordSize : Nat := 16

/-- The size of both records together. -/
def finderInfoSize : Nat := 2 * finderRecordSize

namespace Bytes

/-- The word of 16 bits at a position, most significant byte first. -/
def bigWord16 (bytes : Bytes) (position : Nat) : UInt16 :=
  UInt16.ofNat (bytes.slice position 2).bigEndian

/-- The signed word of 16 bits at a position, most significant byte first. -/
def bigInt16 (bytes : Bytes) (position : Nat) : Int16 :=
  (bytes.bigWord16 position).toInt16

/-- The word of 32 bits at a position, most significant byte first. -/
def bigWord32 (bytes : Bytes) (position : Nat) : UInt32 :=
  UInt32.ofNat (bytes.slice position 4).bigEndian

/-- The signed word of 32 bits at a position, most significant byte first. -/
def bigInt32 (bytes : Bytes) (position : Nat) : Int32 :=
  (bytes.bigWord32 position).toInt32

/-- A word of 16 bits as two bytes, most significant byte first. -/
def ofBigWord16 (word : UInt16) : Bytes :=
  ofNatBigEndian 2 word.toNat

/-- A signed word of 16 bits as two bytes, most significant byte first. -/
def ofBigInt16 (word : Int16) : Bytes :=
  ofBigWord16 word.toUInt16

/-- A word of 32 bits as four bytes, most significant byte first. -/
def ofBigWord32 (word : UInt32) : Bytes :=
  ofNatBigEndian 4 word.toNat

/-- A signed word of 32 bits as four bytes, most significant byte first. -/
def ofBigInt32 (word : Int32) : Bytes :=
  ofBigWord32 word.toUInt32

end Bytes

/-- A point on the screen. -/
structure Point where
  /-- The vertical coordinate. -/
  vertical : Int16
  /-- The horizontal coordinate. -/
  horizontal : Int16
  deriving DecidableEq, Repr

namespace Point

/-- The point at a position. -/
def ofBytes (bytes : Bytes) (position : Nat) : Point :=
  ⟨bytes.bigInt16 position, bytes.bigInt16 (position + 2)⟩

/-- The point as four bytes. -/
def toBytes (point : Point) : Bytes :=
  Bytes.ofBigInt16 point.vertical ++ Bytes.ofBigInt16 point.horizontal

/-- The point written out structurally. -/
def structural (point : Point) : String :=
  Text.fields "Point"
    [("v", toString point.vertical.toInt), ("h", toString point.horizontal.toInt)]

end Point

/-- A rectangle on the screen. -/
structure Rectangle where
  /-- The upper edge. -/
  top : Int16
  /-- The left edge. -/
  left : Int16
  /-- The lower edge. -/
  bottom : Int16
  /-- The right edge. -/
  right : Int16
  deriving DecidableEq, Repr

namespace Rectangle

/-- The rectangle at a position. -/
def ofBytes (bytes : Bytes) (position : Nat) : Rectangle :=
  ⟨bytes.bigInt16 position, bytes.bigInt16 (position + 2), bytes.bigInt16 (position + 4),
    bytes.bigInt16 (position + 6)⟩

/-- The rectangle as eight bytes. -/
def toBytes (rectangle : Rectangle) : Bytes :=
  Bytes.ofBigInt16 rectangle.top ++ Bytes.ofBigInt16 rectangle.left ++
    Bytes.ofBigInt16 rectangle.bottom ++ Bytes.ofBigInt16 rectangle.right

/-- The rectangle written out structurally. -/
def structural (rectangle : Rectangle) : String :=
  Text.fields "Rect"
    [("top", toString rectangle.top.toInt), ("left", toString rectangle.left.toInt),
      ("bottom", toString rectangle.bottom.toInt), ("right", toString rectangle.right.toInt)]

end Rectangle

/-! ## Files -/

/-- The first record of a file. -/
structure FileInfo where
  /-- The code of four characters for the type. -/
  fileType : UInt32
  /-- The code of four characters for the creator. -/
  fileCreator : UInt32
  /-- The flags of the Finder. -/
  finderFlags : UInt16
  /-- The position in the window of the containing folder. -/
  location : Point
  /-- A word without a meaning. -/
  reserved : UInt16
  deriving DecidableEq, Repr

namespace FileInfo

/-- The record that begins at a position. -/
def ofBytes (bytes : Bytes) (position : Nat) : FileInfo where
  fileType := bytes.bigWord32 position
  fileCreator := bytes.bigWord32 (position + 4)
  finderFlags := bytes.bigWord16 (position + 8)
  location := Point.ofBytes bytes (position + 10)
  reserved := bytes.bigWord16 (position + 14)

/-- The record as sixteen bytes. -/
def toBytes (info : FileInfo) : Bytes :=
  Bytes.ofBigWord32 info.fileType ++ Bytes.ofBigWord32 info.fileCreator ++
    Bytes.ofBigWord16 info.finderFlags ++ info.location.toBytes ++
    Bytes.ofBigWord16 info.reserved

/-- The record written out structurally. -/
def structural (info : FileInfo) : String :=
  Text.fields "FileInfo"
    [("file_type", toString info.fileType), ("file_creator", toString info.fileCreator),
      ("finder_flags", toString info.finderFlags), ("location", info.location.structural),
      ("reserved", toString info.reserved)]

end FileInfo

/-- The second record of a file. -/
structure ExtendedFileInfo where
  /-- The first of four words without a meaning. -/
  reserved₁ : Int16
  /-- The second of them. -/
  reserved₂ : Int16
  /-- The third of them. -/
  reserved₃ : Int16
  /-- The fourth of them. -/
  reserved₄ : Int16
  /-- Further flags of the Finder. -/
  extendedFlags : UInt16
  /-- Another word without a meaning. -/
  reserved₅ : Int16
  /-- The folder that the file returns to when it is put away. -/
  putAwayFolder : Int32
  deriving DecidableEq, Repr

namespace ExtendedFileInfo

/-- The four words at the start that have no meaning. -/
def leadingReserved (info : ExtendedFileInfo) : List Int16 :=
  [info.reserved₁, info.reserved₂, info.reserved₃, info.reserved₄]

/-- The record that begins at a position. -/
def ofBytes (bytes : Bytes) (position : Nat) : ExtendedFileInfo where
  reserved₁ := bytes.bigInt16 position
  reserved₂ := bytes.bigInt16 (position + 2)
  reserved₃ := bytes.bigInt16 (position + 4)
  reserved₄ := bytes.bigInt16 (position + 6)
  extendedFlags := bytes.bigWord16 (position + 8)
  reserved₅ := bytes.bigInt16 (position + 10)
  putAwayFolder := bytes.bigInt32 (position + 12)

/-- The record as sixteen bytes. -/
def toBytes (info : ExtendedFileInfo) : Bytes :=
  info.leadingReserved.flatMap Bytes.ofBigInt16 ++ Bytes.ofBigWord16 info.extendedFlags ++
    Bytes.ofBigInt16 info.reserved₅ ++ Bytes.ofBigInt32 info.putAwayFolder

/-- The record written out structurally. -/
def structural (info : ExtendedFileInfo) : String :=
  Text.fields "ExtendedFileInfo"
    [("reserved_1", Text.sequence (info.leadingReserved.map (fun word => toString word.toInt))),
      ("extended_finder_flags", toString info.extendedFlags),
      ("reserved_2", toString info.reserved₅.toInt),
      ("put_away_folder_id", toString info.putAwayFolder.toInt)]

end ExtendedFileInfo

/-! ## Folders -/

/-- The first record of a folder. -/
structure FolderInfo where
  /-- The place of the folder's window. -/
  windowBounds : Rectangle
  /-- The flags of the Finder. -/
  finderFlags : UInt16
  /-- The position in the window of the containing folder. -/
  location : Point
  /-- A word without a meaning. -/
  reserved : UInt16
  deriving DecidableEq, Repr

namespace FolderInfo

/-- The record that begins at a position. -/
def ofBytes (bytes : Bytes) (position : Nat) : FolderInfo where
  windowBounds := Rectangle.ofBytes bytes position
  finderFlags := bytes.bigWord16 (position + 8)
  location := Point.ofBytes bytes (position + 10)
  reserved := bytes.bigWord16 (position + 14)

/-- The record as sixteen bytes. -/
def toBytes (info : FolderInfo) : Bytes :=
  info.windowBounds.toBytes ++ Bytes.ofBigWord16 info.finderFlags ++ info.location.toBytes ++
    Bytes.ofBigWord16 info.reserved

/-- The record written out structurally. -/
def structural (info : FolderInfo) : String :=
  Text.fields "FolderInfo"
    [("window_bounds", info.windowBounds.structural),
      ("finder_flags", toString info.finderFlags), ("location", info.location.structural),
      ("reserved", toString info.reserved)]

end FolderInfo

/-- The second record of a folder. -/
structure ExtendedFolderInfo where
  /-- How far the window is scrolled. -/
  scrollPosition : Point
  /-- A word without a meaning. -/
  reserved₁ : Int32
  /-- Further flags of the Finder. -/
  extendedFlags : UInt16
  /-- Another word without a meaning. -/
  reserved₂ : Int16
  /-- The folder that the folder returns to when it is put away. -/
  putAwayFolder : UInt32
  deriving DecidableEq, Repr

namespace ExtendedFolderInfo

/-- The record that begins at a position. -/
def ofBytes (bytes : Bytes) (position : Nat) : ExtendedFolderInfo where
  scrollPosition := Point.ofBytes bytes position
  reserved₁ := bytes.bigInt32 (position + 4)
  extendedFlags := bytes.bigWord16 (position + 8)
  reserved₂ := bytes.bigInt16 (position + 10)
  putAwayFolder := bytes.bigWord32 (position + 12)

/-- The record as sixteen bytes. -/
def toBytes (info : ExtendedFolderInfo) : Bytes :=
  info.scrollPosition.toBytes ++ Bytes.ofBigInt32 info.reserved₁ ++
    Bytes.ofBigWord16 info.extendedFlags ++ Bytes.ofBigInt16 info.reserved₂ ++
    Bytes.ofBigWord32 info.putAwayFolder

/-- The record written out structurally. -/
def structural (info : ExtendedFolderInfo) : String :=
  Text.fields "ExtendedFolderInfo"
    [("scroll_position", info.scrollPosition.structural),
      ("reserved_1", toString info.reserved₁.toInt),
      ("extended_finder_flags", toString info.extendedFlags),
      ("reserved_2", toString info.reserved₂.toInt),
      ("put_away_folder_id", toString info.putAwayFolder)]

end ExtendedFolderInfo

/-! ## Both records together -/

/-- Finder information in the shape of the object that it belongs to. -/
inductive FinderInfo where
  | file (info : FileInfo) (extended : ExtendedFileInfo)
  | folder (info : FolderInfo) (extended : ExtendedFolderInfo)
  deriving DecidableEq, Repr

/-- A code of four characters: the characters in quotes if all of them can be seen, else the number
in hexadecimal. -/
def fourCharacterCode (code : UInt32) : String :=
  let bytes := Bytes.ofBigWord32 code
  if bytes.all (fun byte => 0x20 ≤ byte && byte ≤ 0x7E) then
    "'" ++ String.ofList (bytes.map (fun byte => Char.ofNat byte.toNat)) ++ "'"
  else s!"0x{Text.hexadecimal 8 code.toNat}"

namespace FinderInfo

/-- Both records from the start of the bytes, in the shape of a folder or of a file. -/
def ofBytes (bytes : Bytes) (isFolder : Bool) : FinderInfo :=
  if isFolder then
    .folder (FolderInfo.ofBytes bytes 0) (ExtendedFolderInfo.ofBytes bytes finderRecordSize)
  else .file (FileInfo.ofBytes bytes 0) (ExtendedFileInfo.ofBytes bytes finderRecordSize)

/-- Reads Finder information from content that has to be exactly two records long. -/
def parse (content : Bytes) (isFolder : Bool) : Except Fault FinderInfo :=
  if content.length = finderInfoSize then .ok (ofBytes content isFolder)
  else .error (.compositeLength finderInfoSize content.length)

/-- Both records as bytes. -/
def toBytes : FinderInfo → Bytes
  | .file info extended => info.toBytes ++ extended.toBytes
  | .folder info extended => info.toBytes ++ extended.toBytes

/-- Whether the information has the shape of a folder. -/
def isFolder : FinderInfo → Bool
  | .file .. => false
  | .folder .. => true

/-- The flags in the first record. -/
def finderFlags : FinderInfo → UInt16
  | .file info _ => info.finderFlags
  | .folder info _ => info.finderFlags

/-- The flags in the second record. -/
def extendedFlags : FinderInfo → UInt16
  | .file _ extended => extended.extendedFlags
  | .folder _ extended => extended.extendedFlags

/-- The information in one line: the codes of a file or the place of a folder, and the flags. -/
def text : FinderInfo → String
  | .file info extended =>
    s!"file type={fourCharacterCode info.fileType} " ++
      s!"creator={fourCharacterCode info.fileCreator} " ++
      s!"flags=0x{Text.hexadecimal 4 info.finderFlags.toNat} " ++
      s!"xflags=0x{Text.hexadecimal 4 extended.extendedFlags.toNat}"
  | .folder info extended =>
    s!"folder flags=0x{Text.hexadecimal 4 info.finderFlags.toNat} " ++
      s!"xflags=0x{Text.hexadecimal 4 extended.extendedFlags.toNat} " ++
      s!"location=({info.location.vertical.toInt}, {info.location.horizontal.toInt})"

/-- The information written out structurally. -/
def structural : FinderInfo → String
  | .file info extended =>
    Text.fields "File" [("info", info.structural), ("extended", extended.structural)]
  | .folder info extended =>
    Text.fields "Directory" [("info", info.structural), ("extended", extended.structural)]

end FinderInfo

end PackedAttributes
